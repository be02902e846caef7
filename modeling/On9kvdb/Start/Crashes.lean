import On9kvdb.Log.Effect
import On9kvdb.Start.Init
import On9kvdb.Start.Serving

/-!
# Crashes during the first start, and every start after it

However often the first start is interrupted, the image it leaves is one of `StartImage`, so an
undisturbed start completes.  Once a start has succeeded every manifest copy on the media says
ready, whatever is called and lost from then on, and a later start writes nothing but such copies.
-/

namespace On9kvdb

open Exceptional

variable {cfg : Config}

/-! ## Interrupted starts -/

/-- A new object on a device with the media `m`. -/
def powerOn (m : Media) (faults : ℕ → Fault) (scrap : ℕ → Bytes)
    (entropy : ℕ → {id : ℕ // id ≠ 0}) : World where
  db := Db.closed 1 1
  dev := .boot m faults scrap entropy

/-- A start that is cut off.  A crash at some point is a device none of whose calls succeeds from
there on; `choice` says what is left of each write since the last successful sync. -/
structure Interruption where
  faults : ℕ → Fault
  scrap : ℕ → Bytes
  entropy : ℕ → {id : ℕ // id ≠ 0}
  choice : ℕ → Remnant

variable (cfg) in
/-- The media behind an interrupted start. -/
def interrupted (m : Media) (i : Interruption) : Media :=
  (exec (init cfg) (powerOn m i.faults i.scrap i.entropy)).2.dev.survivor i.choice

lemma booted (m : Media) (faults : ℕ → Fault) (scrap : ℕ → Bytes)
    (entropy : ℕ → {id : ℕ // id ≠ 0}) :
    (powerOn m faults scrap entropy).dev.Safe (· = m) := ⟨rfl, fun _ => rfl⟩

/-- **An interrupted start leaves an image to start from.** -/
lemma startImage_interrupted {m : Media} (h : StartImage cfg m) (i : Interruption) :
    StartImage cfg (interrupted cfg m i) := by
  have hinit := triple_init h (powerOn m i.faults i.scrap i.entropy) ⟨rfl, booted _ _ _ _⟩
  unfold interrupted
  rcases hrun : exec (init cfg) (powerOn m i.faults i.scrap i.entropy) with ⟨o, w⟩
  rw [hrun] at hinit
  cases o with
  | ok _ =>
      obtain ⟨databaseId, hid, hfresh⟩ := hinit
      rw [show w.dev.survivor i.choice = provisionedMedia cfg databaseId from
        hfresh.ready.images.survivor i.choice]
      exact .ready hid
  | error e => exact hinit.images.survivor i.choice

lemma startImage_crashes {m : Media} (h : StartImage cfg m) (crashes : List Interruption) :
    StartImage cfg (crashes.foldl (interrupted cfg) m) := by
  induction crashes generalizing m with
  | nil => exact h
  | cons i rest ih => exact ih (startImage_interrupted h i)

/-! ## The first map -/

/-- Both manifest copies are valid and say ready. -/
def BothCopiesReady (m : Media) : Prop :=
  ∀ slot < manifestSlotCount, ∃ copy, m.manifestCopy slot = .ok copy ∧ copy.record.state = .ready

variable (cfg) in
/-- A start that ends with an empty map, and with both copies ready wherever power is lost. -/
structure StartedEmpty (w : World) : Prop where
  map : ∀ key : CompositeKey, key.valid = true →
    lookupCommittedUnsafe cfg w.db w.dev.current key = .error .notFound
  copies : w.dev.Safe BothCopiesReady

lemma bothCopiesReady_provisioned {databaseId : ℕ} (hid : databaseId ≠ 0) :
    BothCopiesReady (provisionedMedia cfg databaseId) := by
  intro slot hslot
  have hencodable := provisionedRecord_encodable cfg hid (Nat.le_add_left 3 slot)
  refine ⟨⟨_, hencodable⟩, ?_, rfl⟩
  show writtenOrBlank (if slot < manifestSlotCount then _ else none) = _
  rw [if_pos hslot]
  exact writtenOrBlank_encode hencodable rfl

/-- Without tables and namespaces no key is found. -/
lemma lookupCommittedUnsafe_empty {db : Db} (m : Media) {key : CompositeKey}
    (hnamespaces : db.namespaces = []) (htables : db.manifest.tables = fun _ => none)
    (hkey : key.valid = true) : lookupCommittedUnsafe cfg db m key = .error .notFound := by
  have hname : validateBytes key.namespaceName = true := by
    unfold CompositeKey.valid at hkey
    rw [Bool.and_eq_true] at hkey
    exact hkey.1
  have hmemtable : lookupMemtableUnsafe cfg db key = .error .notFound := by
    unfold lookupMemtableUnsafe findNamespaceUnsafe
    rw [hnamespaces, if_neg (by rw [hname]; decide)]
    rfl
  have hcandidate : nextCandidate cfg db key [] = none := by
    unfold nextCandidate
    induction List.range cfg.geometry.tableCount with
    | nil => rfl
    | cons slot rest ih =>
        rw [List.foldl_cons]
        unfold candidateTable at ih ⊢
        rw [htables] at ih ⊢
        exact ih
  have hloop : lookupTablesLoop cfg db m key cfg.geometry.tableCount [] none = .ok none := by
    cases cfg.geometry.tableCount with
    | zero => rfl
    | succ fuel =>
        unfold lookupTablesLoop
        rw [hcandidate]
  unfold lookupCommittedUnsafe lookupTablesUnsafe
  rw [hmemtable, rejectIf_of_not (by rw [hkey]; decide)]
  simp only [ok_bind, hloop]

lemma Provisioned.startedEmpty {w : World} (h : Provisioned cfg w) : StartedEmpty cfg w := by
  obtain ⟨databaseId, hid, hfresh⟩ := h
  refine ⟨fun key hkey => ?_, hfresh.ready.images.mono fun m hm => ?_⟩
  · exact lookupCommittedUnsafe_empty _ hfresh.namespaces (by rw [hfresh.ready.manifest]; rfl) hkey
  · rw [hm]
    exact bothCopiesReady_provisioned hid

/-! ## Undisturbed starts -/

/-- The device decides the outcome of its calls as before. -/
def SameFaults (w w' : World) : Prop := w'.dev.faults = w.dev.faults

instance : Std.Refl SameFaults := ⟨fun _ => rfl⟩

instance : IsTrans World SameFaults := ⟨fun _ _ _ h₁ h₂ => h₂.trans h₁⟩

lemma sameFaults_modifyDb {f : Db → Db} : Within SameFaults (modifyDb f) :=
  Within.modifyDb fun _ => rfl

lemma sameFaults_readStorage {α : Type} {decode : Db → Media → Except EspErr α} :
    Within SameFaults (readStorage decode) := Within.readStorage fun _ => rfl

lemma sameFaults_writeStorage (write : Write) : Within SameFaults (writeStorage write) := fun w => by
  rw [exec_writeStorage]
  exact Device.faults_write _ _

lemma sameFaults_syncStorage : Within SameFaults syncStorage := fun w => by
  rw [exec_syncStorage]
  show w.dev.sync.2.faults = w.dev.faults
  unfold Device.sync
  cases w.dev.fault <;> rfl

lemma sameFaults_writeManifestCopy (generation : ℕ) (state : ManifestState) :
    Within SameFaults (writeManifestCopy generation state) := by
  unfold writeManifestCopy
  refine .bind Within.getDb fun db => .bind Within.failIf fun _ => ?_
  dsimp only
  cases encodeManifestRecord { db.manifest with generation := generation, state := state } with
  | none => exact .throw
  | some copy =>
      exact .bind (Within.onError (.bind (sameFaults_writeStorage _) fun _ =>
        sameFaults_syncStorage) sameFaults_modifyDb) fun _ => sameFaults_modifyDb

lemma sameFaults_stabilizeManifestUnsafe : Within SameFaults stabilizeManifestUnsafe :=
  .bind Within.getDb fun _ => .ite (.bind Within.failIf fun _ =>
    .bind (sameFaults_writeManifestCopy _ _) fun _ => sameFaults_modifyDb) .pure

lemma sameFaults_setupManifest : Within SameFaults (setupManifest cfg) := by
  unfold setupManifest createManifest openExistingManifest
  have hrandom : Within SameFaults randomDatabaseId := fun _ => rfl
  exact .bind sameFaults_readStorage fun _ => .ite
    (.bind hrandom fun _ => .bind sameFaults_modifyDb fun _ =>
      .bind (sameFaults_writeManifestCopy _ _) fun _ => sameFaults_writeManifestCopy _ _)
    (.bind sameFaults_readStorage fun _ => .bind sameFaults_modifyDb fun _ =>
      .bind Within.failIf fun _ => .ite (.bind Within.failIf fun _ =>
        sameFaults_writeManifestCopy _ _) .pure)

lemma sameFaults_provisionOneDataFile (kind : FileKind) (slot : ℕ) :
    Within SameFaults (provisionOneDataFile kind slot) := by
  have hcopy : ∀ valid copySlot, Within SameFaults (writeUnlessValid valid kind slot copySlot) := by
    intro valid copySlot
    unfold writeUnlessValid writeFileIdentityCopy
    refine .ite (.bind Within.failIf fun _ => .bind Within.getDb fun db => ?_) .pure
    cases encodeFileIdentity 1 db.manifest.databaseId (db.manifest.geometry.dataFileSize kind)
        slot with
    | none => exact .throw
    | some identity => exact sameFaults_writeStorage _
  unfold provisionOneDataFile writeTableMarkers writeMissingIdentities
  exact .bind sameFaults_readStorage fun _ => .bind Within.getDb fun _ => .ite
    (.bind (.ite (.bind (sameFaults_writeStorage _) fun _ => .bind (sameFaults_writeStorage _)
      fun _ => .bind (sameFaults_writeStorage _) fun _ => sameFaults_syncStorage) .pure) fun _ =>
      .bind (hcopy _ _) fun _ => .bind (hcopy _ _) fun _ => .bind sameFaults_syncStorage fun _ =>
      .bind sameFaults_readStorage fun _ => .bind Within.failIf fun _ => Within.failIf)
    Within.failIf

lemma sameFaults_provisionDataFiles (kind : FileKind) (slots : List ℕ) :
    Within SameFaults (provisionDataFiles kind slots) := by
  induction slots with
  | nil => exact .pure
  | cons slot rest ih => exact .bind (sameFaults_provisionOneDataFile kind slot) fun _ => ih

lemma sameFaults_provisionAllDataFiles : Within SameFaults (provisionAllDataFiles cfg) := by
  have hheader : Within SameFaults (initialiseFirstWal cfg) := by
    unfold initialiseFirstWal ensureWalHeader
    refine .bind Within.failIf fun _ => .bind Within.getDb fun db => ?_
    cases encodeWalHeader db.manifest.databaseId 1 1 0 cfg.geometry.walSize with
    | none => exact .throw
    | some header =>
        exact .bind (sameFaults_writeStorage _) fun _ =>
          .bind (sameFaults_writeStorage _) fun _ => sameFaults_syncStorage
  unfold provisionAllDataFiles publishProvisioned
  exact .bind Within.getDb fun _ => .bind (sameFaults_provisionDataFiles _ _) fun _ =>
    .bind (sameFaults_provisionDataFiles _ _) fun _ =>
    .bind (sameFaults_provisionDataFiles _ _) fun _ => .ite
    (.bind Within.getDb fun _ => .bind Within.failIf fun _ => .bind hheader fun _ =>
      .bind sameFaults_modifyDb fun _ => .bind (sameFaults_writeManifestCopy _ _) fun _ =>
      .bind sameFaults_modifyDb fun _ => sameFaults_stabilizeManifestUnsafe) .pure

lemma sameFaults_recoverWal : Within SameFaults (recoverWal cfg) := by
  have htables : Within SameFaults (recoverTablesUnsafe cfg) := fun w => by
    show (exec (recoverTablesUnsafe cfg) w).2.dev.faults = w.dev.faults
    rw [(within_recoverTablesUnsafe w).dev]
  unfold recoverWal
  exact .bind Within.getDb fun _ => .bind Within.failIf fun _ => .bind sameFaults_modifyDb fun _ =>
    .bind htables fun _ => .bind sameFaults_readStorage fun _ => .bind sameFaults_modifyDb fun _ =>
    sameFaults_stabilizeManifestUnsafe

lemma sameFaults_init : Within SameFaults (init cfg) := by
  unfold init
  exact .bind Within.getDb fun _ => .bind Within.failIf fun _ =>
    .bind (Within.onError (.bind (.bind sameFaults_setupManifest fun _ =>
      sameFaults_provisionAllDataFiles) fun _ => sameFaults_recoverWal) sameFaults_modifyDb)
      fun _ => sameFaults_modifyDb

/-- An undisturbed start on an image of provisioning. -/
lemma exec_init_undisturbed {m : Media} (h : StartImage cfg m) (scrap : ℕ → Bytes)
    (entropy : ℕ → {id : ℕ // id ≠ 0}) :
    ∃ w, exec (init cfg) (powerOn m (fun _ => .none) scrap entropy) = (.ok (), w) ∧
      StartedEmpty cfg w := by
  have hinit := triple_init h (powerOn m (fun _ => .none) scrap entropy) ⟨rfl, booted _ _ _ _⟩
  have hfaults : SameFaults (powerOn m (fun _ => .none) scrap entropy)
    (exec (init cfg) (powerOn m (fun _ => .none) scrap entropy)).2 := sameFaults_init _
  rcases hrun : exec (init cfg) (powerOn m (fun _ => .none) scrap entropy) with ⟨o, w⟩
  rw [hrun] at hinit hfaults
  cases o with
  | ok _ => exact ⟨w, rfl, hinit.startedEmpty⟩
  | error e => exact absurd (fun n => congrFun hfaults n) hinit.failed

/-! ## Ready media -/

/-- A range that provisioning has left behind: it is not blank, and every valid manifest copy says
ready. -/
structure ReadyMedia (m : Media) : Prop where
  blank : m.blank = none
  copies : ∀ slot copy, m.manifestCopy slot = .ok copy → copy.record.state = .ready

/-- Writes of a ready database leave its media ready, however much of them is lost. -/
lemma keeps_readyMedia {w : Write} (hw : ReadyWrite w) : Device.Keeps ReadyMedia w := by
  intro m hm r
  cases w with
  | manifestCopy slot copy =>
      cases r with
      | whole =>
          refine ⟨rfl, fun slot' copy' hcopy => ?_⟩
          simp only [Write.remain, Write.apply, Function.update_apply] at hcopy
          split_ifs at hcopy
          · cases hcopy
            exact hw
          · exact hm.copies _ _ hcopy
      | _ => exact hm
  | identity => exact hw.elim
  | tableHeaderMarker => exact hw.elim
  | tableFooterMarker => exact hw.elim
  | tableBlock =>
      cases r with
      | lost => exact hm
      | _ => exact ⟨rfl, hm.copies⟩
  | tableIndex =>
      cases r with
      | lost => exact hm
      | _ => exact ⟨rfl, hm.copies⟩
  | _ =>
      cases r with
      | whole => exact ⟨rfl, hm.copies⟩
      | _ => exact hm

lemma readyMedia_provisioned (databaseId : ℕ) : ReadyMedia (provisionedMedia cfg databaseId) := by
  refine ⟨rfl, fun slot copy hcopy => ?_⟩
  have hcell : writtenOrBlank (if slot < manifestSlotCount then
      encodeManifestRecord (provisionedRecord cfg databaseId (slot + 3)) else none) = .ok copy := hcopy
  split_ifs at hcell with hslot
  · unfold encodeManifestRecord at hcell
    split_ifs at hcell
    · cases hcell
      rfl
    · cases hcell
  · cases hcell

lemma readManifestSlot_eq_ok {m : Media} {slot : ℕ} {r : ManifestRecord}
    (h : readManifestSlot m slot = .ok (some r)) :
    ∃ copy, m.manifestCopy slot = .ok copy ∧ copy.record = r := by
  unfold readManifestSlot at h
  cases hcell : m.manifestCopy slot with
  | error e =>
      rw [hcell] at h
      cases h
  | ok copy =>
      rw [hcell] at h
      dsimp only at h
      split_ifs at h
      cases h
      exact ⟨copy, rfl, rfl⟩

/-- The selected record is that of a valid copy. -/
lemma loadManifest_eq_ok {m : Media} {r : ManifestRecord} {required : Bool}
    (h : loadManifest m = .ok (r, required)) :
    ∃ slot copy, m.manifestCopy slot = .ok copy ∧ copy.record = r := by
  unfold loadManifest at h
  rw [bind_eq_ok] at h
  obtain ⟨first, hfirst, h⟩ := h
  rw [bind_eq_ok] at h
  obtain ⟨second, hsecond, h⟩ := h
  rw [bind_eq_ok] at h
  obtain ⟨-, -, h⟩ := h
  cases first with
  | none =>
      cases second with
      | none => cases h
      | some r₁ => cases h; exact ⟨1, readManifestSlot_eq_ok hsecond⟩
  | some r₀ =>
      cases second with
      | none => cases h; exact ⟨0, readManifestSlot_eq_ok hfirst⟩
      | some r₁ =>
          dsimp only at h
          split_ifs at h
          · rw [bind_eq_ok] at h
            obtain ⟨-, -, h⟩ := h
            cases h
            exact ⟨1, readManifestSlot_eq_ok hsecond⟩
          · rw [bind_eq_ok] at h
            obtain ⟨-, -, h⟩ := h
            cases h
            exact ⟨0, readManifestSlot_eq_ok hfirst⟩

/-- Whatever copy is selected, it says ready. -/
lemma ReadyMedia.selectsReady {m : Media} (h : ReadyMedia m) : SelectsReady m := by
  intro manifest required hload
  obtain ⟨slot, copy, hcell, hcopy⟩ := loadManifest_eq_ok hload
  have hready := h.copies slot copy hcell
  rw [hcopy] at hready
  rw [hready]
  decide

/-! ## Later starts -/

/-- A manifest copy that says ready. -/
def ReadyCopy : Write → Prop
  | .manifestCopy _ copy => copy.record.state = .ready
  | _ => False

lemma ReadyCopy.readyWrite {w : Write} (h : ReadyCopy w) : ReadyWrite w := by
  cases w with
  | manifestCopy => exact h
  | _ => exact h.elim

lemma Device.Steps.of_sameDevice {S : Write → Prop} {w w' : World} (h : SameDevice w w') :
    w.dev.Steps S w'.dev := by
  rw [h]
  exact .clock _ .refl

/-- What a start on a ready range ends with. -/
structure Restarted (w₀ w : World) : Prop where
  ready : w.db.manifest.state = .ready
  steps : w₀.dev.Steps ReadyCopy w.dev

lemma triple_stabilizeManifestUnsafe_checked (w₀ : World) :
    Triple (Checking w₀) stabilizeManifestUnsafe (fun _ => Restarted w₀)
      (fun _ w => w₀.dev.Steps ReadyCopy w.dev) := by
  refine .of_state fun v hv => ?_
  have hsteps : w₀.dev.Steps ReadyCopy v.dev := .of_sameDevice hv.device
  cases hrequired : v.db.manifestStabilizationRequired with
  | false =>
      intro u hu
      subst hu
      unfold stabilizeManifestUnsafe
      rw [exec_bind, exec_getDb]
      dsimp only
      rw [hrequired]
      exact ⟨hv.ready, hsteps⟩
  | true =>
      have hcopy : ∀ h : publishable v.db.manifest (v.db.manifest.generation + 1)
          v.db.manifest.state = true, ReadyCopy (publication h) := fun _ => hv.ready
      refine (triple_stabilizeManifestUnsafe_outcome v hrequired).conseq (fun _ hu => hu)
        (fun _ u hu => ?_) fun _ u hu => ?_
      · obtain ⟨h, -, hsync, rfl⟩ := hu
        exact ⟨hv.ready, hsteps.trans (steps_of_published h (hcopy h) hsync)⟩
      · rcases hu with ⟨rfl, -⟩ | ⟨h, -, hfailed⟩
        · exact hsteps
        · exact hsteps.trans (hfailed.steps (hcopy h))

lemma triple_recoverWal_checked (w₀ : World) :
    Triple (Checking w₀) (recoverWal cfg) (fun _ => Restarted w₀)
      (fun _ w => w₀.dev.Steps ReadyCopy w.dev) := by
  have hfail : ∀ {w : World}, SameDevice w₀ w → w₀.dev.Steps ReadyCopy w.dev := .of_sameDevice
  unfold recoverWal
  refine .bind (Q := fun _ => Checking w₀) (Triple.getDb fun w hw => hw) fun db =>
    .bind (Q := fun _ => Checking w₀) (Triple.failIf (fun w hw _ => hw) fun w hw _ => hfail hw.device)
      fun _ => .bind (Q := fun _ => Checking w₀) (Triple.modifyDb fun w hw => ⟨hw.device, hw.ready⟩)
      fun _ => .bind (Q := fun _ => Checking w₀)
        (within_recoverTablesUnsafe.triple (fun w w' _ hw h => ⟨hw.device.trans h.sameDevice, ?_⟩)
          fun w w' _ hw h => hfail (hw.device.trans h.sameDevice)) fun _ => ?_
  · have hstate := congrArg ManifestRecord.state h.manifest
    exact hstate.trans hw.ready
  · refine .bind (Q := fun db w => Checking w₀ { w with db := db })
      (Triple.readStorage (fun w db hw hread => ⟨hw.device.tick, ?_⟩)
        fun w _ hw => hfail hw.device.tick) fun db =>
      .bind (Q := fun _ => Checking w₀) (Triple.modifyDb fun w hw => hw) fun _ =>
      triple_stabilizeManifestUnsafe_checked w₀
    show db.manifest.state = .ready
    rw [(replayWal_replayed hread).manifest]
    exact hw.ready

/-- **A start on a ready range writes nothing but ready copies.** -/
lemma triple_init_ready {w₀ : World} (h : ReadyMedia w₀.dev.current) :
    Triple (· = w₀) (init cfg)
      (fun _ w => Restarted w₀ w)
      (fun _ w => w₀.dev.Steps ReadyCopy w.dev ∧ (w = w₀ ∨ w.db.initialized = false)) := by
  unfold init
  refine .bind (Q := fun _ w => w = w₀) (Triple.getDb fun w hw => hw) fun db =>
    .bind (Q := fun _ w => w = w₀) (Triple.failIf (fun w hw _ => hw) fun w hw _ =>
      ⟨hw ▸ .refl, Or.inl hw⟩) fun _ => .bind (Q := fun _ => Restarted w₀)
      (Triple.onError (F := fun _ w => w₀.dev.Steps ReadyCopy w.dev)
        (.bind (((triple_initialiseStorage_ready h.blank h.selectsReady).conseq
          (fun w hw => hw ▸ SameDevice.refl _) (fun _ _ hw => hw)
            fun _ _ hw => .of_sameDevice hw)) fun _ => triple_recoverWal_checked w₀)
        fun _ => Triple.modifyDb fun w hw => ⟨hw, Or.inr rfl⟩) fun _ =>
      Triple.modifyDb fun w hw => ⟨hw.ready, hw.steps⟩

/-! ## Lives of a database -/

/-- A call, or a power loss that leaves of each unsynced write what `choice` says. -/
inductive LifeStep
  | call (c : Call)
  | powerLoss (choice : ℕ → Remnant)

variable (cfg) in
/-- One step in the life of a database. -/
def live (w : World) : LifeStep → World
  | .call c => (exec (perform cfg c) w).2
  | .powerLoss choice => ⟨Db.closed 1 1, w.dev.crash (w.dev.survivor choice)⟩

/-- What holds from the first successful start on. -/
structure Established (w : World) : Prop where
  media : w.dev.Safe ReadyMedia
  ready : w.db.initialized = true → w.db.manifest.state = .ready

lemma Established.steps {w w' : World} {S : Write → Prop} (h : Established w)
    (hS : ∀ write, S write → ReadyWrite write) (hsteps : w.dev.Steps S w'.dev)
    (hready : w'.db.initialized = true → w'.db.manifest.state = .ready) : Established w' :=
  ⟨h.media.steps hsteps fun write hw => keeps_readyMedia (hS write hw), hready⟩

lemma triple_established_init {w₀ : World} (h : Established w₀) :
    Triple (· = w₀) (init cfg) (fun _ => Established) (fun _ => Established) := by
  refine (triple_init_ready h.media.current).conseq (fun _ hw => hw)
    (fun _ w hw => h.steps (fun _ => ReadyCopy.readyWrite) hw.steps fun _ => hw.ready) fun _ w hw => ?_
  refine h.steps (fun _ => ReadyCopy.readyWrite) hw.1 fun hinitialized => ?_
  rcases hw.2 with rfl | hclosed
  · exact h.ready hinitialized
  · rw [hclosed] at hinitialized
    cases hinitialized

lemma triple_established_deinit (force : Bool) :
    Triple Established (deinit cfg force) (fun _ => Established) (fun _ => Established) := by
  unfold deinit closeStorageUnsafe
  refine .bind (Q := fun _ => Established) (Triple.getDb fun w hw => hw) fun db => .ite (fun _ => ?_)
    fun _ => .pure fun _ hw => hw
  refine .bind (Q := fun _ => Established) (Triple.failIf (fun w hw _ => hw) fun w hw _ => hw)
    fun _ => Triple.modifyDb fun w hw => ⟨hw.media, fun hinitialized => ?_⟩
  cases hinitialized

/-- A call that serves keeps a ready range and a ready manifest. -/
lemma Established.serving {w w' : World} (h : Established w) (hserving : Serving w w')
    (hinitialized : w.db.initialized = true) : Established w' := by
  have hready := hserving.ready (h.ready hinitialized)
  exact h.steps (fun _ hw => hw) hready.2 fun _ => hready.1

/-- **Every step keeps it**, whatever fails. -/
lemma established_live {w : World} (h : Established w) (step : LifeStep) :
    Established (live cfg w step) := by
  cases step with
  | powerLoss choice =>
      refine ⟨h.media.crash choice, fun hinitialized => ?_⟩
      cases hinitialized
  | call c =>
      cases hlifecycle : c.isLifecycle with
      | true =>
          have hcall : Triple (· = w) (perform cfg c) (fun _ => Established) (fun _ => Established) := by
            cases c with
            | init => exact .bind (triple_established_init h) fun _ => .pure fun _ hw => hw
            | deinit force =>
                exact .bind ((triple_established_deinit force).pre fun v hv => hv ▸ h) fun _ =>
                  .pure fun _ hw => hw
            | _ => cases hlifecycle
          exact hcall.final rfl
      | false =>
          cases hinitialized : w.db.initialized with
          | true => exact h.serving (serving_perform hlifecycle w) hinitialized
          | false =>
              have hsame : live cfg w (.call c) = w := locked_perform hlifecycle w hinitialized
              rw [hsame]
              exact h

lemma established_lives {w : World} (h : Established w) (steps : List LifeStep) :
    Established (steps.foldl (live cfg) w) := by
  induction steps generalizing w with
  | nil => exact h
  | cons step rest ih => exact ih (established_live h step)

/-- The first successful start establishes the database. -/
lemma Provisioned.established {w : World} (h : Provisioned cfg w) : Established w := by
  obtain ⟨databaseId, -, hfresh⟩ := h
  refine ⟨hfresh.ready.images.mono fun m hm => ?_, fun _ => by rw [hfresh.ready.manifest]; rfl⟩
  rw [hm]
  exact readyMedia_provisioned databaseId

variable (cfg) in
/-- A start that finds a database: the range is not blank and the copy it selects says ready, so
it does not provision, and whatever comes of it, it only writes manifest copies that say ready. -/
structure Reopening (w : World) : Prop where
  blank : w.dev.current.blank = none
  selected : SelectsReady w.dev.current
  writes : ∃ new, (exec (init cfg) w).2.dev.issued = new ++ w.dev.issued ∧
    ∀ entry ∈ new, ReadyCopy entry.1

lemma Established.reopening {w : World} (h : Established w) : Reopening cfg w := by
  have hinit : Triple (· = w) (init cfg) (fun _ v => w.dev.Steps ReadyCopy v.dev)
      (fun _ v => w.dev.Steps ReadyCopy v.dev) :=
    (triple_init_ready h.media.current).conseq (fun _ hv => hv) (fun _ _ hv => hv.steps)
      fun _ _ hv => hv.1
  have hsteps := hinit.final rfl
  exact ⟨h.media.current.blank, h.media.current.selectsReady, hsteps.issued⟩

/-- **Provisioning survives its crashes.**  A range of zeros or of ones is started any number of
times, each start cut off at any point with any selection of its unsynced writes left.  Then an
undisturbed start succeeds with an empty map and two ready copies; and after any start that has
succeeded, whatever is called and lost, no start provisions again. -/
theorem provisioning_survives_crashes (cfg : Config) (ones : Bool) (crashes : List Interruption) :
    let m := crashes.foldl (interrupted cfg) (blankMedia (if ones then 0xff else 0x00))
    (∀ scrap entropy, ∃ w, exec (init cfg) (powerOn m (fun _ => .none) scrap entropy) = (.ok (), w) ∧
      StartedEmpty cfg w) ∧
    ∀ faults scrap entropy w, exec (init cfg) (powerOn m faults scrap entropy) = (.ok (), w) →
      ∀ steps : List LifeStep, Reopening cfg (steps.foldl (live cfg) w) := by
  intro m
  have himage : StartImage cfg m := startImage_crashes (.blank _) crashes
  refine ⟨exec_init_undisturbed himage, fun faults scrap entropy w hrun steps => ?_⟩
  have hprovisioned := (triple_init himage).ok ⟨rfl, booted m faults scrap entropy⟩ hrun
  exact (established_lives hprovisioned.established steps).reopening

/-- A start that is cut off at its eighth device call and loses every other write. -/
def cutOff : Interruption where
  faults n := if n < 7 then .none else .keepOld
  scrap _ := []
  entropy _ := ⟨5, Nat.succ_ne_zero 4⟩
  choice n := if n % 2 = 0 then .whole else .lost

/-- A range of ones survives two such starts, and a power loss later. -/
theorem provisioning_survives_crashes_cutOff :
    ∃ w, exec (init hostConfig) (powerOn ([cutOff, cutOff].foldl (interrupted hostConfig)
        (blankMedia 0xff)) (fun _ => .none) cutOff.scrap cutOff.entropy) = (.ok (), w) ∧
      StartedEmpty hostConfig w ∧
      Reopening hostConfig (live hostConfig w (.powerLoss fun _ => .lost)) := by
  obtain ⟨hstart, hlater⟩ := provisioning_survives_crashes hostConfig true [cutOff, cutOff]
  obtain ⟨w, hrun, hempty⟩ := hstart cutOff.scrap cutOff.entropy
  exact ⟨w, hrun, hempty, hlater _ _ _ w hrun [.powerLoss fun _ => .lost]⟩

end On9kvdb
