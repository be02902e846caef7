import On9kvdb.Start.Provisioning
import On9kvdb.Start.Rejection

/-!
# A start on any image of provisioning

`init` on each of the images of `StartImage`: whichever path the blank check, the manifest copies
and their state choose, it ends with both copies ready and an empty map, unless a device call
fails.
-/

namespace On9kvdb

open Exceptional

variable {cfg : Config} {databaseId : ℕ}

/-! ## The files of a ready database -/

lemma Ready.tick {generation : ℕ} {m : Media} {w : World}
    (h : Ready cfg databaseId generation m w) :
    Ready cfg databaseId generation m { w with dev := w.dev.tick } := ⟨h.manifest, h.images.tick⟩

/-- A stage whose files are complete: the memory holds a ready manifest, and whether it has to be
stabilized is known. -/
structure Staged (cfg : Config) (databaseId generation : ℕ) (copies : ℕ → Cell ManifestCopy)
    (required : Bool) (w : World) : Prop where
  ready : Ready cfg databaseId generation (filesMedia cfg databaseId copies) w
  required : w.db.manifestStabilizationRequired = required

section
variable {generation : ℕ} {copies : ℕ → Cell ManifestCopy} {required : Bool}

lemma Staged.tick {w : World} (h : Staged cfg databaseId generation copies required w) :
    Staged cfg databaseId generation copies required { w with dev := w.dev.tick } :=
  ⟨h.ready.tick, h.required⟩

lemma triple_provisionOneDataFile_staged (hid : databaseId ≠ 0)
    (himage : StartImage cfg (filesMedia cfg databaseId copies)) {kind : FileKind} {slot : ℕ}
    (hslot : slot < cfg.geometry.dataFileCount kind) :
    Triple (Staged cfg databaseId generation copies required) (provisionOneDataFile kind slot)
      (fun _ => Staged cfg databaseId generation copies required) (fun _ => Troubled cfg) := by
  have hvalid : ∀ w, Staged cfg databaseId generation copies required w →
      loadFileIdentity w.dev.current w.db.manifest kind slot = .ok (true, true) := by
    intro w hw
    have hread : ∀ copySlot < identitySlotCount,
        readFileIdentity w.dev.current w.db.manifest kind slot copySlot = .ok true := by
      intro copySlot hcopy
      have hcell : w.dev.current.identity kind slot copySlot =
          (provisionedMedia cfg databaseId).identity kind slot copySlot := by
        rw [hw.ready.images.current]
        rfl
      obtain ⟨valid, hread, hiff⟩ := readFileIdentity_filling hid w.db.manifest
        (by rw [hw.ready.manifest]; rfl) (by rw [hw.ready.manifest]; rfl) hslot hcopy (Or.inr hcell)
      rw [hread, hiff.mpr hcell]
    unfold loadFileIdentity
    rw [hread 0 (by decide), hread 1 (by decide)]
    rfl
  unfold provisionOneDataFile
  refine .bind (Q := fun valid w => Staged cfg databaseId generation copies required w ∧
      valid = (true, true))
    (triple_readSafe (C := (· = filesMedia cfg databaseId copies)) (fun m hm => hm ▸ himage)
      (fun w hw => hw.ready.images) (fun w hw => ⟨_, hvalid w hw⟩) fun w valid hw hread => ?_)
    fun valid => .of_pure (fun w hw => hw.2) ?_
  · rw [hvalid w hw, Except.ok.injEq] at hread
    exact ⟨hw.tick, hread.symm⟩
  · rintro rfl
    refine .bind (Q := fun db w => Staged cfg databaseId generation copies required w ∧
        db.manifest.state = .ready)
      (Triple.getDb fun w hw => ⟨hw.1, by rw [hw.1.ready.manifest]; rfl⟩) fun db =>
      .of_pure (fun w hw => hw.2) fun hstate => ?_
    rw [if_neg (by rw [hstate]; decide)]
    exact Triple.failIf (fun w hw _ => hw.1) fun w _ h => by cases h

lemma triple_provisionDataFiles_staged (hid : databaseId ≠ 0)
    (himage : StartImage cfg (filesMedia cfg databaseId copies)) {kind : FileKind}
    {slots : List ℕ} (hslots : ∀ slot ∈ slots, slot < cfg.geometry.dataFileCount kind) :
    Triple (Staged cfg databaseId generation copies required) (provisionDataFiles kind slots)
      (fun _ => Staged cfg databaseId generation copies required) (fun _ => Troubled cfg) := by
  induction slots with
  | nil => exact .pure fun _ hw => hw
  | cons slot rest ih =>
      exact .bind (triple_provisionOneDataFile_staged hid himage
        (hslots slot List.mem_cons_self)) fun _ =>
          ih fun s hs => hslots s (List.mem_cons_of_mem _ hs)

lemma triple_provisionAllDataFiles_staged (hid : databaseId ≠ 0)
    (himage : StartImage cfg (filesMedia cfg databaseId copies)) :
    Triple (Staged cfg databaseId generation copies required) (provisionAllDataFiles cfg)
      (fun _ => Staged cfg databaseId generation copies required) (fun _ => Troubled cfg) := by
  unfold provisionAllDataFiles
  refine .bind (Q := fun db w => Staged cfg databaseId generation copies required w ∧
      db.manifest = provisionedRecord cfg databaseId generation)
    (Triple.getDb fun w hw => ⟨hw, hw.ready.manifest⟩) fun db =>
    .of_pure (fun w hw => hw.2) fun hdb => ?_
  rw [hdb]
  have hfiles : ∀ kind, Triple (Staged cfg databaseId generation copies required)
      (provisionDataFiles kind (List.range (cfg.geometry.dataFileCount kind)))
      (fun _ => Staged cfg databaseId generation copies required) (fun _ => Troubled cfg) :=
    fun kind => triple_provisionDataFiles_staged hid himage fun slot => List.mem_range.mp
  refine .bind ((hfiles .wal).pre fun _ hw => hw.1) fun _ => .bind (hfiles .table) fun _ =>
    .bind (hfiles .valueBank) fun _ => .ite (fun h => absurd rfl h) fun _ => .pure fun _ hw => hw

end

/-! ## The files of an owned range -/

lemma triple_provisionAllDataFiles_owned (hid : databaseId ≠ 0) :
    Triple (Owned cfg databaseId) (provisionAllDataFiles cfg)
      (fun _ w => Ready cfg databaseId 4 (provisionedMedia cfg databaseId) w ∧
        w.db.manifestStabilizationRequired = false)
      (fun _ => Troubled cfg) := by
  unfold provisionAllDataFiles
  refine .bind (Q := fun db w => Owned cfg databaseId w ∧
      db.manifest = ownedRecord cfg databaseId 2)
    (Triple.getDb fun w hw => ⟨hw, hw.manifest⟩) fun db => .of_pure (fun w hw => hw.2) fun hdb => ?_
  rw [hdb]
  have hfiles : ∀ kind (K : Media → Prop), Kept cfg databaseId K →
      Triple (fun w => Owned cfg databaseId w ∧ K w.dev.current)
        (provisionDataFiles kind (List.range (cfg.geometry.dataFileCount kind)))
        (fun _ w => Owned cfg databaseId w ∧ K w.dev.current ∧ FilesIdentified cfg databaseId kind
          (List.range (cfg.geometry.dataFileCount kind)) w.dev.current)
        (fun _ => Troubled cfg) := fun kind K hK =>
    triple_provisionDataFiles hid (fun _ => List.mem_range.mp) hK
  have hkept : ∀ kind, Kept cfg databaseId (FilesIdentified cfg databaseId kind
      (List.range (cfg.geometry.dataFileCount kind))) := fun kind => kept_filesIdentified kind _
  have hwal := hfiles .wal (fun _ => True) fun _ _ _ _ => trivial
  have htable := hfiles .table _ (hkept .wal)
  have hbank := hfiles .valueBank _ ((hkept .wal).and (hkept .table))
  refine .bind (hwal.pre fun w hw => ⟨hw.1, trivial⟩) fun _ =>
    .bind (htable.pre fun w hw => ⟨hw.1, hw.2.2⟩) fun _ => .bind hbank fun _ => ?_
  rw [if_pos (by simp [ownedRecord] : (ownedRecord cfg databaseId 2).state ≠ .ready)]
  refine (triple_publishProvisioned hid).pre fun w hw => ⟨hw.1, ?_⟩
  refine allIdentified_of_files hw.1.images.current fun kind => ?_
  cases kind with
  | wal => exact hw.2.1.1
  | table => exact hw.2.1.2
  | valueBank => exact hw.2.2

/-! ## Opening the manifest -/

/-- The media `load_manifest` finds. -/
lemma triple_openExistingManifest {C : Media → Prop} {manifest : ManifestRecord}
    {required : Bool} {copies : ℕ} {Q : Unit → World → Prop}
    (hC : ∀ m, C m → StartImage cfg m)
    (hload : ∀ m, C m → loadManifest m = .ok (manifest, required))
    (hcopies : ∀ m, C m → manifestValidCopyCount m = copies)
    (hbuild : manifest.geometry = cfg.geometry ∧ manifest.limits = cfg.limits)
    (hrest : Triple (fun w => w.db.manifest = manifest ∧
        w.db.manifestStabilizationRequired = required ∧ w.dev.Safe C)
      (if manifest.state = .provisioningOwned ∧ copies < manifestSlotCount then do
        failIf (manifest.generation = uint64Max) .invalidCrc
        writeManifestCopy (manifest.generation + 1) .provisioningOwned
      else pure ()) Q (fun _ => Troubled cfg)) :
    Triple (fun w => w.dev.Safe C) (openExistingManifest cfg) Q (fun _ => Troubled cfg) := by
  unfold openExistingManifest
  refine .bind (Q := fun loaded w => w.dev.Safe C ∧ loaded = ((manifest, required), copies))
    (triple_readSafe hC (fun _ hw => hw) (fun w hw => ⟨((manifest, required), copies), ?_⟩)
      fun w loaded hw hread => ⟨hw.tick, ?_⟩) fun loaded => .of_pure (fun w hw => hw.2) ?_
  · rw [hload _ hw.current, hcopies _ hw.current]
    rfl
  · rw [hload _ hw.current, hcopies _ hw.current] at hread
    cases hread
    rfl
  · rintro rfl
    refine .bind (Q := fun _ w => w.db.manifest = manifest ∧
        w.db.manifestStabilizationRequired = required ∧ w.dev.Safe C)
      (Triple.modifyDb fun w hw => ⟨rfl, rfl, hw.1⟩) fun _ =>
      .bind (Q := fun _ w => w.db.manifest = manifest ∧
        w.db.manifestStabilizationRequired = required ∧ w.dev.Safe C)
        (Triple.failIf (fun w hw _ => hw) fun w _ h => ?_) fun _ => hrest
    rcases h with h | h
    · exact absurd hbuild.1 h
    · exact absurd hbuild.2 h

lemma Filling.manifestCopy_eq {copies : ℕ → Cell ManifestCopy} {m : Media}
    (h : Filling cfg databaseId copies m) : m.manifestCopy = copies := by
  obtain ⟨identity, walHeader, -, -⟩ := h
  rfl

/-- A single copy in the provisioning state is repaired. -/
lemma triple_open_claimed (hid : databaseId ≠ 0) :
    Triple (fun w => w.dev.Safe (Filling cfg databaseId (claimedCopies cfg databaseId)))
      (openExistingManifest cfg) (fun _ => Owned cfg databaseId) (fun _ => Troubled cfg) := by
  refine triple_openExistingManifest (fun _ => .claimed hid)
    (fun m hm => loadManifest_claimed hid hm.manifestCopy_eq)
    (fun m hm => manifestValidCopyCount_claimed hid hm.manifestCopy_eq) ⟨rfl, rfl⟩ ?_
  rw [if_pos ⟨rfl, by decide⟩]
  refine .bind (Q := fun _ w => w.db.manifest = ownedRecord cfg databaseId 1 ∧
      w.dev.Safe (Filling cfg databaseId (claimedCopies cfg databaseId)))
    (Triple.failIf (fun w hw _ => ⟨hw.1, hw.2.2⟩) fun w _ h => absurd h (by simp [ownedRecord]))
    fun _ => .of_state fun w hw => triple_own hid hw.1 hw.2

lemma triple_open_owned (hid : databaseId ≠ 0) :
    Triple (fun w => w.dev.Safe (Filling cfg databaseId (ownedCopies cfg databaseId)))
      (openExistingManifest cfg) (fun _ => Owned cfg databaseId) (fun _ => Troubled cfg) := by
  refine triple_openExistingManifest (fun _ => .owned hid)
    (fun m hm => loadManifest_owned hid hm.manifestCopy_eq)
    (fun m hm => manifestValidCopyCount_owned hid hm.manifestCopy_eq) ⟨rfl, rfl⟩ ?_
  rw [if_neg fun h => absurd h.2 (by decide)]
  exact .pure fun w hw => ⟨hw.1, hw.2.2⟩

/-- A stage that says ready is only read. -/
lemma triple_open_staged {generation : ℕ} {copies : ℕ → Cell ManifestCopy} {required : Bool}
    (himage : StartImage cfg (filesMedia cfg databaseId copies))
    (hload : loadManifest (filesMedia cfg databaseId copies) =
      .ok (provisionedRecord cfg databaseId generation, required)) :
    Triple (fun w => w.dev.Safe (· = filesMedia cfg databaseId copies)) (openExistingManifest cfg)
      (fun _ => Staged cfg databaseId generation copies required) (fun _ => Troubled cfg) := by
  refine triple_openExistingManifest (fun m hm => hm ▸ himage) (fun m hm => hm ▸ hload)
    (fun m hm => by rw [hm]) ⟨rfl, rfl⟩ ?_
  rw [if_neg fun h => by cases h.1]
  exact .pure fun w hw => ⟨⟨hw.1, hw.2.2⟩, hw.2.1⟩

/-! ## Recovery of an empty database -/

lemma recoverTableReferences_of_no_tables {w : World} (h : w.db.manifest.tables = fun _ => none)
    (slots : List ℕ) : exec (recoverTableReferences cfg slots) w = (.ok (), w) := by
  induction slots with
  | nil => rfl
  | cons slot rest ih =>
      unfold recoverTableReferences
      rw [exec_bind, exec_getDb]
      dsimp only
      rw [h]
      exact ih

lemma loadCursors_of_no_tables {w : World} (h : w.db.manifest.tables = fun _ => none)
    (slots : List ℕ) : exec (loadCursors cfg slots) w = (.ok [], w) := by
  induction slots with
  | nil => rfl
  | cons slot rest ih =>
      unfold loadCursors
      rw [exec_bind, exec_getDb]
      dsimp only
      rw [h]
      exact ih

/-- Without tables their recovery only resets a counter. -/
lemma recoverTablesUnsafe_of_no_tables {w : World}
    (h : w.db.manifest.tables = fun _ => none) :
    exec (recoverTablesUnsafe cfg) w =
      (.ok (), { w with db := { w.db with stats := { w.db.stats with tableBytesUsed := 0 } } }) := by
  unfold recoverTablesUnsafe
  rw [exec_bind, exec_modifyDb]
  dsimp only
  rw [exec_bind, recoverTableReferences_of_no_tables (by exact h)]
  dsimp only
  rw [exec_bind, exec_getDb]
  dsimp only
  have hactive : (List.range cfg.geometry.tableCount).filterMap w.db.manifest.tables = [] := by
    rw [h, List.filterMap_eq_nil_iff]
    exact fun _ _ => rfl
  rw [hactive, exec_bind, exec_failIf,
    if_neg (show ¬ cfg.bankSize < ([] : List TableReference).length from Nat.not_lt_zero _)]
  dsimp only
  rw [exec_bind, loadCursors_of_no_tables (by exact h)]
  rfl

/-- A log region without frames has no later frame. -/
lemma findLaterFrames_blank {m : Media} {slot : ℕ}
    (h : ∀ offset, m.walFrame slot offset = .error .invalidMagic)
    (id regionEnd generation minimum fuel offset : ℕ) :
    findLaterFrames m id slot regionEnd generation minimum fuel offset = .ok false := by
  induction fuel generalizing offset with
  | zero => rfl
  | succ fuel ih =>
      unfold findLaterFrames
      rw [h offset]
      split_ifs
      · rfl
      · exact ih _

/-- The scan of a log without frames finds nothing and ends at the first record. -/
lemma scanTransactions_blank {m : Media} {slot regionEnd generation expectedSequence : ℕ} {db : Db}
    (h : ∀ offset, m.walFrame slot offset = .error .invalidMagic) (hslot : slot < walFileCount)
    (hregion : walRecordRegionOffset + walFrameSize ≤ regionEnd) (hgeneration : generation ≠ 0)
    (hexpected : expectedSequence ≠ 0) (fuel : ℕ) :
    scanTransactions cfg m slot regionEnd generation fuel walRecordRegionOffset expectedSequence db =
      .ok (db.setWalTail slot walRecordRegionOffset, expectedSequence) := by
  cases fuel with
  | zero => rfl
  | succ fuel =>
      unfold scanTransactions
      rw [h]
      simp only [FormatStatus.isVersion, Bool.false_eq_true, if_false]
      split_ifs
      · rfl
      · unfold endScan findLaterWalFrameUnsafe
        rw [if_neg (by omega), findLaterFrames_blank h]
        rfl

/-- **The replay of an empty log** leaves an empty memtable. -/
lemma replayWal_provisioned (hid : databaseId ≠ 0) {db : Db} {generation : ℕ}
    {copies : ℕ → Cell ManifestCopy}
    (hmanifest : db.manifest = provisionedRecord cfg databaseId generation) :
    ∃ db', replayWal cfg db (filesMedia cfg databaseId copies) = .ok db' ∧
      db'.manifest = db.manifest ∧ db'.namespaces = db.namespaces ∧
      db'.memtable = db.memtable ∧
      db'.manifestStabilizationRequired = db.manifestStabilizationRequired := by
  obtain ⟨header, -, hheaderId, hheaderSlot, hheaderGeneration, hend, hfirst, hcells⟩ :=
    walHeader_provisioned cfg hid
  have hactive : db.manifest.activeWalSlot = 0 := by rw [hmanifest]; rfl
  have hgeneration₀ : db.manifest.walGeneration 0 = 1 := by rw [hmanifest]; rfl
  have hgeneration₁ : db.manifest.walGeneration 1 = 0 := by rw [hmanifest]; rfl
  have hcheckpoint : db.manifest.safeCheckpointSequence = 0 := by rw [hmanifest]; rfl
  have hcell : ∀ copySlot < walHeaderSlotCount,
      readWalHeader cfg (filesMedia cfg databaseId copies) db.manifest 0 1 copySlot =
        .ok (some header) := by
    intro copySlot hcopy
    unfold readWalHeader
    rw [show (filesMedia cfg databaseId copies).walHeader 0 copySlot = .ok header from
      hcells copySlot hcopy]
    refine if_neg ?_
    rw [hheaderId, hheaderSlot, hheaderGeneration, hend, hmanifest]
    simp [provisionedRecord]
  have hload : loadWalHeader cfg (filesMedia cfg databaseId copies) db.manifest 0 1 =
      .ok header := by
    unfold loadWalHeader
    rw [rejectIf_of_not (by decide), hcell 0 (by decide), hcell 1 (by decide)]
    exact if_neg fun h => h rfl
  have hscan : scanWalSlot cfg db (filesMedia cfg databaseId copies) 0 1 1 =
      .ok (db.setWalTail 0 walRecordRegionOffset, 1) := by
    unfold scanWalSlot
    rw [rejectIf_of_not (by decide), hload]
    simp only [ok_bind]
    rw [rejectIf_of_not (by rw [hfirst]; exact fun h => h rfl)]
    simp only [ok_bind]
    exact scanTransactions_blank (fun _ => rfl) (by decide) (by rw [hend]; exact cfg.walSize_valid.1)
      one_ne_zero one_ne_zero _
  have hcheck : ∀ e, rejectIf (0 = uint64Max ∨ 0 + 1 < header.firstTransactionSequence) e =
      .ok () := fun e => rejectIf_of_not (by rw [hfirst]; decide)
  have hactiveScan : ∀ sequence, scanActiveSlot cfg (db.setWalTail 0 walRecordRegionOffset)
      (filesMedia cfg databaseId copies) 0 sequence =
        .ok ((db.setWalTail 0 walRecordRegionOffset).setWalTail 1 walRecordRegionOffset,
          sequence) := by
    intro sequence
    have hsame : (db.setWalTail 0 walRecordRegionOffset).manifest.activeWalSlot = 0 := hactive
    unfold scanActiveSlot
    simp only [hsame, ne_eq, not_true_eq_false, if_false, Nat.sub_zero]
  unfold replayWal
  simp only [hactive, hcheckpoint, Nat.sub_zero, hgeneration₁, hgeneration₀, ne_eq,
    not_true_eq_false, if_false, false_and, hload, ok_bind, hcheck]
  rw [rejectIf_of_not not_false]
  simp only [ok_bind, hfirst, hscan, hactiveScan]
  rw [rejectIf_of_not (by decide)]
  exact ⟨_, rfl, rfl, rfl, rfl, rfl⟩

/-- An instance on a freshly provisioned database. -/
structure Fresh (cfg : Config) (databaseId : ℕ) (w : World) : Prop where
  ready : Ready cfg databaseId 4 (provisionedMedia cfg databaseId) w
  required : w.db.manifestStabilizationRequired = false
  namespaces : w.db.namespaces = []
  memtable : w.db.memtable = .empty

/-- The two stages `recover_wal` is reached in. -/
inductive Recoverable (cfg : Config) (databaseId : ℕ) : ℕ → (ℕ → Cell ManifestCopy) → Bool → Prop
  | halfReady : Recoverable cfg databaseId 3 (halfReadyCopies cfg databaseId) true
  | ready : Recoverable cfg databaseId 4 (provisionedMedia cfg databaseId).manifestCopy false

lemma Recoverable.image {generation : ℕ} {copies : ℕ → Cell ManifestCopy} {required : Bool}
    (hid : databaseId ≠ 0) (h : Recoverable cfg databaseId generation copies required) :
    StartImage cfg (filesMedia cfg databaseId copies) := by
  cases h with
  | halfReady => exact .halfReady hid
  | ready => exact .ready hid

/-- **Recovery of a provisioned database** ends with both copies ready and an empty memtable. -/
lemma triple_recoverWal_staged (hid : databaseId ≠ 0) {generation : ℕ}
    {copies : ℕ → Cell ManifestCopy} {required : Bool}
    (hstage : Recoverable cfg databaseId generation copies required) :
    Triple (Staged cfg databaseId generation copies required) (recoverWal cfg)
      (fun _ => Fresh cfg databaseId) (fun _ => Troubled cfg) := by
  unfold recoverWal
  refine .bind (Q := fun db w => Staged cfg databaseId generation copies required w ∧
      db.manifest = provisionedRecord cfg databaseId generation)
    (Triple.getDb fun w hw => ⟨hw, hw.ready.manifest⟩) fun db =>
    .of_pure (fun w hw => hw.2) fun hdb => ?_
  rw [hdb]
  refine .bind (Q := fun _ => Staged cfg databaseId generation copies required)
    (Triple.failIf (fun w hw _ => hw.1) fun w _ h => ?_) fun _ => ?_
  · simp [provisionedRecord] at h
  let P := fun w => Staged cfg databaseId generation copies required w ∧ w.db.namespaces = [] ∧
    w.db.memtable = .empty
  refine .bind (Q := fun _ => P)
    (Triple.modifyDb fun w hw => ⟨⟨⟨hw.ready.manifest, hw.ready.images⟩, hw.required⟩, rfl, rfl⟩)
    fun _ => ?_
  have htables : Triple P (recoverTablesUnsafe cfg) (fun _ => P) (fun _ => Troubled cfg) := by
    intro w hw
    rw [recoverTablesUnsafe_of_no_tables (by rw [hw.1.ready.manifest]; rfl)]
    exact ⟨⟨⟨hw.1.ready.manifest, hw.1.ready.images⟩, hw.1.required⟩, hw.2⟩
  have hreplay : ∀ w, P w → ∃ db', replayWal cfg w.db w.dev.current = .ok db' ∧
      db'.manifest = w.db.manifest ∧ db'.namespaces = w.db.namespaces ∧
      db'.memtable = w.db.memtable ∧
      db'.manifestStabilizationRequired = w.db.manifestStabilizationRequired := by
    intro w hw
    rw [hw.1.ready.images.current]
    exact replayWal_provisioned hid hw.1.ready.manifest
  refine .bind htables fun _ => .bind (Q := fun db w => P { w with db := db })
    (triple_readSafe (C := (· = filesMedia cfg databaseId copies))
      (fun m hm => hm ▸ hstage.image hid) (fun w hw => hw.1.ready.images)
      (fun w hw => ?_) fun w db' hw hread => ?_) fun db' =>
    .bind (Q := fun _ => P) (Triple.modifyDb fun w hw => hw) fun _ => ?_
  · obtain ⟨db', hok, -⟩ := hreplay w hw
    exact ⟨db', hok⟩
  · obtain ⟨db'', hok, hmanifest, hnamespaces, hmemtable, hrequired⟩ := hreplay w hw
    rw [hok, Except.ok.injEq] at hread
    subst hread
    exact ⟨⟨⟨hmanifest.trans hw.1.ready.manifest, hw.1.ready.images.tick⟩,
      hrequired.trans hw.1.required⟩, hnamespaces.trans hw.2.1, hmemtable.trans hw.2.2⟩
  · refine .of_state fun w hw => ?_
    cases hstage with
    | halfReady =>
        exact (triple_stabilizeReady hid hw.1.ready hw.1.required).conseq (fun _ h => h)
          (fun _ w' h => ⟨h.1, by rw [h.2], by rw [h.2]; exact hw.2.1, by rw [h.2]; exact hw.2.2⟩)
          fun _ _ h => h
    | ready =>
        intro v hv
        subst hv
        unfold stabilizeManifestUnsafe
        rw [exec_bind, exec_getDb]
        dsimp only
        rw [hw.1.required]
        exact ⟨hw.1.ready, hw.1.required, hw.2.1, hw.2.2⟩

/-! ## The whole start -/

lemma triple_setupManifest {C : Media → Prop} {Q : Unit → World → Prop} (blank : Bool)
    (hC : ∀ m, C m → StartImage cfg m) (hblank : ∀ m, C m → m.blank.isSome = blank)
    (hrest : Triple (fun w => w.dev.Safe C)
      (if blank = true then createManifest cfg else openExistingManifest cfg) Q
      (fun _ => Troubled cfg)) :
    Triple (fun w => w.dev.Safe C) (setupManifest cfg) Q (fun _ => Troubled cfg) := by
  unfold setupManifest storageRegionIsBlankUnsafe
  refine .bind (Q := fun b w => w.dev.Safe C ∧ b = blank)
    (triple_readSafe hC (fun _ hw => hw) (fun w _ => ⟨_, rfl⟩) fun w b hw hread => ⟨hw.tick, ?_⟩)
    fun b => .of_pure (fun w hw => hw.2) ?_
  · rw [← hblank _ hw.current]
    cases hread
    rfl
  · rintro rfl
    exact hrest.pre fun _ hw => hw.1

/-- What `initialise_storage` and `recover_wal` make of an owned range. -/
lemma triple_finish_owned (hid : databaseId ≠ 0) :
    Triple (Owned cfg databaseId) (do provisionAllDataFiles cfg; recoverWal cfg)
      (fun _ => Fresh cfg databaseId) (fun _ => Troubled cfg) := by
  refine .bind (triple_provisionAllDataFiles_owned hid) fun _ =>
    (triple_recoverWal_staged hid .ready).pre fun w hw => ⟨hw.1, hw.2⟩

lemma triple_finish_staged (hid : databaseId ≠ 0) {generation : ℕ}
    {copies : ℕ → Cell ManifestCopy} {required : Bool}
    (hstage : Recoverable cfg databaseId generation copies required) :
    Triple (Staged cfg databaseId generation copies required)
      (do provisionAllDataFiles cfg; recoverWal cfg)
      (fun _ => Fresh cfg databaseId) (fun _ => Troubled cfg) :=
  .bind (triple_provisionAllDataFiles_staged hid (hstage.image hid)) fun _ =>
    triple_recoverWal_staged hid hstage

variable (cfg) in
/-- Some freshly provisioned database has been opened. -/
def Provisioned (w : World) : Prop := ∃ databaseId, databaseId ≠ 0 ∧ Fresh cfg databaseId w

lemma Recoverable.load {generation : ℕ} {copies : ℕ → Cell ManifestCopy} {required : Bool}
    (hid : databaseId ≠ 0) (h : Recoverable cfg databaseId generation copies required) :
    loadManifest (filesMedia cfg databaseId copies) =
      .ok (provisionedRecord cfg databaseId generation, required) := by
  cases h with
  | halfReady => exact loadManifest_halfReady hid rfl
  | ready => exact loadManifest_ready hid rfl

/-- The start on a database that already says ready. -/
lemma triple_start_staged (hid : databaseId ≠ 0) {generation : ℕ}
    {copies : ℕ → Cell ManifestCopy} {required : Bool}
    (hstage : Recoverable cfg databaseId generation copies required) :
    Triple (fun w => w.dev.Safe (· = filesMedia cfg databaseId copies))
      (do setupManifest cfg; (do provisionAllDataFiles cfg; recoverWal cfg))
      (fun _ => Provisioned cfg) (fun _ => Troubled cfg) := by
  have hopen := triple_open_staged (hstage.image hid) (hstage.load hid)
  exact .bind (triple_setupManifest false (fun m hm => hm ▸ hstage.image hid)
    (fun m hm => hm ▸ rfl) hopen) fun _ => (triple_finish_staged hid hstage).conseq
      (fun v hv => hv) (fun _ v hv => ⟨databaseId, hid, hv⟩) fun _ _ hv => hv

/-- The start on a range whose files are still being filled. -/
lemma triple_start_filling (hid : databaseId ≠ 0) {copies : ℕ → Cell ManifestCopy}
    (himage : ∀ m, Filling cfg databaseId copies m → StartImage cfg m)
    (hopen : Triple (fun w => w.dev.Safe (Filling cfg databaseId copies))
      (openExistingManifest cfg) (fun _ => Owned cfg databaseId) (fun _ => Troubled cfg)) :
    Triple (fun w => w.dev.Safe (Filling cfg databaseId copies))
      (do setupManifest cfg; (do provisionAllDataFiles cfg; recoverWal cfg))
      (fun _ => Provisioned cfg) (fun _ => Troubled cfg) := by
  refine .bind (triple_setupManifest false himage (fun m hm => ?_) hopen) fun _ =>
    (triple_finish_owned hid).conseq (fun v hv => hv) (fun _ v hv => ⟨databaseId, hid, hv⟩)
      fun _ _ hv => hv
  obtain ⟨identity, walHeader, -, -⟩ := hm
  rfl

/-- The storage phase on any image of provisioning, by the path its stage selects. -/
theorem triple_initialise {m : Media} (h : StartImage cfg m) :
    Triple (fun w => w.dev.Safe (· = m)) (do initialiseStorage cfg; recoverWal cfg)
      (fun _ => Provisioned cfg) (fun _ => Troubled cfg) := by
  have hassoc : (do initialiseStorage cfg; recoverWal cfg) =
      (do setupManifest cfg; (do provisionAllDataFiles cfg; recoverWal cfg)) := by
    unfold initialiseStorage
    exact bind_assoc _ _ _
  rw [hassoc]
  cases h with
  | blank b =>
      refine .bind (triple_setupManifest true (fun m hm => hm ▸ .blank b) (fun m hm => hm ▸ rfl)
        (triple_createManifest b)) fun _ => .of_state fun w hw => ?_
      obtain ⟨databaseId, hid, hown⟩ := hw
      exact (triple_finish_owned hid).conseq (fun v hv => hv ▸ hown)
        (fun _ v hv => ⟨databaseId, hid, hv⟩) fun _ _ hv => hv
  | claimed hid hm =>
      exact (triple_start_filling hid (fun _ => .claimed hid) (triple_open_claimed hid)).pre
        fun w hw => hw.mono fun m' hm' => hm' ▸ hm
  | owned hid hm =>
      exact (triple_start_filling hid (fun _ => .owned hid) (triple_open_owned hid)).pre
        fun w hw => hw.mono fun m' hm' => hm' ▸ hm
  | halfReady hid => exact triple_start_staged hid .halfReady
  | ready hid => exact triple_start_staged hid .ready

/-- **`init` on any image of provisioning**: the database is ready and empty, or a device call
has failed and what is left is again such an image. -/
theorem triple_init {m : Media} (h : StartImage cfg m) :
    Triple (fun w => w.db.initialized = false ∧ w.dev.Safe (· = m)) (init cfg)
      (fun _ => Provisioned cfg) (fun _ => Troubled cfg) := by
  unfold init
  refine .bind (Q := fun db w => w.dev.Safe (· = m) ∧ db.initialized = false)
    (Triple.getDb fun w hw => ⟨hw.2, hw.1⟩) fun db => .of_pure (fun w hw => hw.2) fun hclosed => ?_
  rw [hclosed]
  refine .bind (Q := fun _ w => w.dev.Safe (· = m)) (Triple.failIf (fun w hw _ => hw.1)
    fun w _ hc => by cases hc) fun _ =>
    .bind (Triple.onError (triple_initialise h) fun _ => Triple.modifyDb fun w hw =>
      ⟨hw.images, hw.failed⟩) fun _ => Triple.modifyDb fun w hw => ?_
  obtain ⟨databaseId, hid, hfresh⟩ := hw
  exact ⟨databaseId, hid, ⟨hfresh.ready.manifest, hfresh.ready.images⟩, hfresh.required,
    hfresh.namespaces, hfresh.memtable⟩

end On9kvdb
