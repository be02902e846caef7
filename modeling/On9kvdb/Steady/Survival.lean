import On9kvdb.Steady.Copies
import On9kvdb.Token.Runs

/-!
# Starts, and whole runs

A start on media that select a ready copy reads until its last step, which publishes what has been
loaded, so it keeps every image startable.  With the steps of the calls this gives the safety of the
manifest copies over every run: wherever power is lost and whatever fails, the next start selects a
copy that is not behind the one the database was found with.
-/

namespace On9kvdb

open Exceptional

variable {cfg : Config} {base r : ManifestRecord} {w₀ : World}

/-! ## Loading -/

/-- What holds while a start has only read: the manifest in memory is the selected record. -/
structure Loaded (w₀ : World) (r : ManifestRecord) (w : World) : Prop where
  device : SameDevice w₀ w
  manifest : Matches w.db.manifest r

lemma triple_openExistingManifest_loaded (hselected : Selected w₀.dev.current r)
    (hready : r.state = .ready) :
    Triple (SameDevice w₀) (openExistingManifest cfg)
      (fun _ w => SameDevice w₀ w ∧ w.db.manifest = r) (fun _ => SameDevice w₀) := by
  unfold openExistingManifest
  refine .bind (Q := fun loaded w => SameDevice w₀ w ∧ loaded.1.1 = r)
    (Triple.readStorage (fun w loaded hw hload => ⟨hw.tick, ?_⟩) fun w _ hw => hw.tick)
    fun loaded => .of_pure (fun w hw => hw.2) fun hloaded => ?_
  · obtain ⟨required, hselected⟩ := hselected
    rw [hw.current, hselected] at hload
    cases hload
    rfl
  · refine .bind (Q := fun _ w => SameDevice w₀ w ∧ w.db.manifest = r)
      (Triple.modifyDb fun w hw => ⟨hw.1, hloaded⟩) fun _ =>
      .bind (Q := fun _ w => SameDevice w₀ w ∧ w.db.manifest = r)
        (Triple.failIf (fun w hw _ => hw) fun w hw _ => hw.1) fun _ =>
      .ite (fun hstate => ?_) fun _ => .pure fun _ hw => hw
    rw [hloaded, hready] at hstate
    exact absurd hstate.1 (by decide)

lemma triple_provisionAllDataFiles_loaded (hready : r.state = .ready) :
    Triple (fun w => w.db.manifest = r) (provisionAllDataFiles cfg)
      (fun _ w => w.db.manifest = r) (fun _ _ => True) := by
  have hfiles : ∀ kind slots, Triple (fun w => w.db.manifest = r) (provisionDataFiles kind slots)
      (fun _ w => w.db.manifest = r) (fun _ _ => True) := fun kind slots =>
    (sameDb_provisionDataFiles kind slots).triple (fun w w' _ hw h => by
      rw [show w'.db = w.db from h]
      exact hw) fun _ _ _ _ _ => trivial
  unfold provisionAllDataFiles
  refine .bind Triple.fetch fun db => .of_pure (fun w (hw : w.db.manifest = r ∧ w.db = db) =>
    show db.manifest = r by rw [← hw.2]; exact hw.1) fun hmanifest => ?_
  refine .bind ((hfiles _ _).pre fun _ hw => hw.1) fun _ => .bind (hfiles _ _) fun _ =>
    .bind (hfiles _ _) fun _ => .ite (fun hnot => absurd ?_ hnot) fun _ => .pure fun _ hw => hw
  rw [hmanifest]
  exact hready

/-- Loading changes nothing but the clock, and yields the selected record. -/
lemma triple_initialiseStorage_loaded (hblank : w₀.dev.current.blank = none)
    (hselected : Selected w₀.dev.current r) (hready : r.state = .ready) :
    Triple (SameDevice w₀) (initialiseStorage cfg) (fun _ => Loaded w₀ r)
      (fun _ => SameDevice w₀) := by
  have hselects : SelectsReady w₀.dev.current := fun manifest required hload => by
    rw [Selected.unique ⟨required, hload⟩ hselected, hready]
    decide
  unfold initialiseStorage setupManifest storageRegionIsBlankUnsafe
  refine .bind (Q := fun _ w => SameDevice w₀ w ∧ w.db.manifest = r) (.bind (Q := fun blank w =>
      SameDevice w₀ w ∧ blank = false) (Triple.readStorage (fun w blank hw hread => ⟨hw.tick, ?_⟩)
        fun w _ hw => hw.tick) fun blank => .of_pure (fun w hw => hw.2) ?_) fun _ => ?_
  · rw [hw.current, hblank] at hread
    cases hread
    rfl
  · rintro rfl
    exact (triple_openExistingManifest_loaded hselected hready).pre fun _ hw => hw.1
  · refine ((triple_provisionAllDataFiles_ready w₀).both
      (triple_provisionAllDataFiles_loaded hready)).conseq (fun w hw => ⟨⟨hw.1, ?_⟩, hw.2⟩)
      (fun _ w hw => ⟨hw.1.device, ?_⟩) fun _ _ hw => hw.1
    · rw [hw.2]
      exact hready
    · rw [hw.2]
      exact Matches.refl r

/-! ## Starts -/

lemma SameDevice.images {w w' : World} (h : SameDevice w w') : w'.dev.images = w.dev.images := by
  rw [h]
  rfl

/-- What a start keeps of the images, and what it has selected. -/
structure Reloaded (base : ManifestRecord) (w : World) : Prop where
  images : ∀ m ∈ w.dev.images, Startable base m
  memory : ∃ r, Selected w.dev.current r ∧ Matches w.db.manifest r

/-- The publication at the end of a start. -/
lemma triple_stabilizeManifestUnsafe_loaded (himages : ∀ m ∈ w₀.dev.images, Startable base m)
    (hselected : Selected w₀.dev.current r) (hready : r.state = .ready) :
    Triple (Loaded w₀ r) stabilizeManifestUnsafe (fun _ => Reloaded base)
      (fun _ w => ∀ m ∈ w.dev.images, Startable base m) := by
  refine .of_state fun v hv => ?_
  have himages' : ∀ m ∈ v.dev.images, Startable base m := by
    rw [hv.device.images]
    exact himages
  have hselected' : Selected v.dev.current r := by
    rw [hv.device.current]
    exact hselected
  have hstate : v.db.manifest.state = .ready :=
    (hv.manifest.field ManifestRecord.state (fun _ => rfl) fun _ _ => rfl).trans hready
  cases hrequired : v.db.manifestStabilizationRequired with
  | false =>
      intro u hu
      subst hu
      unfold stabilizeManifestUnsafe
      rw [exec_bind, exec_getDb]
      dsimp only
      rw [hrequired]
      exact ⟨himages', r, hselected', hv.manifest⟩
  | true =>
      refine (triple_stabilizeManifestUnsafe_outcome v hrequired).conseq (fun _ hu => hu)
        (fun _ u hu => ?_) fun _ u hu => ?_
      · rw [hstate] at hu
        obtain ⟨h, hfault, hsync, rfl⟩ := hu
        have hpublished : PublishedOn v.dev (v.dev.write (publication h)).2.flushed v.db.manifest
            .ready := ⟨h, hfault, hsync, rfl⟩
        obtain ⟨hnew, hcopy⟩ :=
          hpublished.startable himages' hselected' hv.manifest (.refl _)
        exact ⟨hnew, _, hcopy, Matches.stored _⟩
      · rw [hstate] at hu
        rcases hu with ⟨rfl, -⟩ | ⟨h, -, hfailed⟩
        · exact himages'
        · exact FailedOn.startable ⟨h, hfailed⟩ himages' hselected' hv.manifest (.refl _)

lemma triple_recoverWal_loaded (himages : ∀ m ∈ w₀.dev.images, Startable base m)
    (hselected : Selected w₀.dev.current r) (hready : r.state = .ready) :
    Triple (Loaded w₀ r) (recoverWal cfg) (fun _ => Reloaded base)
      (fun _ w => ∀ m ∈ w.dev.images, Startable base m) := by
  have hfail : ∀ {w : World}, SameDevice w₀ w → ∀ m ∈ w.dev.images, Startable base m := fun h => by
    rw [h.images]
    exact himages
  unfold recoverWal
  refine .bind (Q := fun _ => Loaded w₀ r) (Triple.getDb fun w hw => hw) fun db =>
    .bind (Q := fun _ => Loaded w₀ r) (Triple.failIf (fun w hw _ => hw) fun w hw _ => hfail hw.device)
      fun _ => .bind (Q := fun _ => Loaded w₀ r)
        (Triple.modifyDb fun w hw => ⟨hw.device, hw.manifest⟩) fun _ =>
      .bind (Q := fun _ => Loaded w₀ r)
        (within_recoverTablesUnsafe.triple (fun w w' _ hw h => ⟨hw.device.trans h.sameDevice, ?_⟩)
          fun w w' _ hw h => hfail (hw.device.trans h.sameDevice)) fun _ =>
      .bind (Q := fun db w => Loaded w₀ r { w with db := db })
        (Triple.readStorage (fun w db hw hread => ⟨hw.device.tick, ?_⟩)
          fun w _ hw => hfail hw.device.tick) fun db =>
      .bind (Q := fun _ => Loaded w₀ r) (Triple.modifyDb fun w hw => hw) fun _ =>
      triple_stabilizeManifestUnsafe_loaded himages hselected hready
  · have htail : w'.db.manifest.withoutKeyRanges.valueBankTail =
        w.db.manifest.withoutKeyRanges.valueBankTail := by rw [h.manifest]
    have hmatches := hw.manifest
    unfold Matches at hmatches ⊢
    rw [h.manifest, show w'.db.manifest.valueBankTail = w.db.manifest.valueBankTail from htail]
    exact hmatches
  · show Matches db.manifest r
    rw [(replayWal_replayed hread).manifest]
    exact hw.manifest.moved _

/-- **A start keeps every image startable**, and ends with the selected record in memory. -/
theorem triple_init_backed (h : Backed base w₀) :
    Triple (· = w₀) (init cfg) (fun _ => Backed base) (fun _ => Backed base) := by
  obtain ⟨hblank, r, hselected, hsucceeds⟩ := h.images _ w₀.dev.current_mem_images
  unfold init closeStorageUnsafe
  refine .bind (Q := fun _ w => w = w₀) (Triple.getDb fun w hw => hw) fun db =>
    .bind (Q := fun _ w => w = w₀) (Triple.failIf (fun w hw _ => hw) fun w hw _ => ?_) fun _ =>
    .bind (Q := fun _ => Reloaded base)
      (Triple.onError (F := fun _ w => ∀ m ∈ w.dev.images, Startable base m)
        (.bind ((triple_initialiseStorage_loaded hblank hselected hsucceeds.ready).conseq
          (fun w hw => hw ▸ SameDevice.refl _) (fun _ _ hw => hw) fun _ w hw => ?_) fun _ =>
          triple_recoverWal_loaded h.images hselected hsucceeds.ready)
        fun _ => Triple.modifyDb fun w hw => ⟨hw, fun hopen => ?_⟩) fun _ =>
      Triple.modifyDb fun w hw => ⟨hw.images, fun _ _ => hw.memory⟩
  · rw [hw]
    exact h
  · rw [hw.images]
    exact h.images
  · cases hopen

lemma triple_deinit_backed (force : Bool) :
    Triple (Backed base) (deinit cfg force) (fun _ => Backed base) (fun _ => Backed base) := by
  unfold deinit closeStorageUnsafe
  refine .bind (Q := fun _ => Backed base) (Triple.getDb fun w hw => hw) fun db => .ite (fun _ => ?_)
    fun _ => .pure fun _ hw => hw
  refine .bind (Q := fun _ => Backed base) (Triple.failIf (fun w hw _ => hw) fun w hw _ => hw)
    fun _ => Triple.modifyDb fun w hw => ⟨hw.images, fun hopen => ?_⟩
  cases hopen

/-! ## Runs -/

/-- What a run keeps of the instance and of the images. -/
structure Surviving (cfg : Config) (base : ManifestRecord) (w : World) : Prop where
  inhabited : Inhabited (Steady cfg) w
  backed : Backed base w

/-- A call between `init` and `deinit` keeps the images. -/
lemma Surviving.perform {w : World} (h : Surviving cfg base w) {c : Call}
    (hlifecycle : c.isLifecycle = false) : Backed base (exec (perform cfg c) w).2 := by
  cases hopen : w.db.initialized with
  | false =>
      rw [show (exec (On9kvdb.perform cfg c) w).2 = w from locked_perform hlifecycle w hopen]
      exact h.backed
  | true =>
      have hsteady := h.inhabited.opened hopen
      have hkept := (turns_perform hlifecycle hsteady.sound).invariant
        (P := fun w => Backed base w ∧ Ordered cfg w.db.stored ∧ w.db.initialized = true)
        (fun v v' hv hturn => ⟨hturn.backed hv.2.1 hv.2.2 hv.1, hturn.ordered hv.2.1,
          hturn.initialized.trans hv.2.2⟩) ⟨h.backed, hsteady.ordered, hopen⟩
      exact hkept.1

/-- **Every action keeps it**, whatever fails. -/
theorem Surviving.act {w : World} (h : Surviving cfg base w) (a : Action) :
    Surviving cfg base (act cfg w a).2 := by
  cases a with
  | powerLoss kept =>
      refine ⟨inhabited_closed ⟨1, 1, rfl⟩, fun m hm => ?_, fun hopen => ?_⟩
      · rw [List.mem_singleton.mp hm]
        exact h.backed.images _ (w.dev.kept_mem_images kept)
      · cases hopen
  | call c =>
      refine ⟨openInvariant_steady.live h.inhabited (.call c), ?_⟩
      cases hlifecycle : c.isLifecycle with
      | false => exact h.perform hlifecycle
      | true =>
          have hcall : Triple (· = w) (On9kvdb.perform cfg c) (fun _ => Backed base)
              (fun _ => Backed base) := by
            cases c with
            | init => exact .bind (triple_init_backed h.backed) fun _ => .pure fun _ hw => hw
            | deinit force =>
                exact .bind ((triple_deinit_backed force).pre fun v hv => hv ▸ h.backed) fun _ =>
                  .pure fun _ hw => hw
            | _ => cases hlifecycle
          exact hcall.final rfl

lemma Surviving.run {w : World} (h : Surviving cfg base w) (actions : List Action) :
    Surviving cfg base (run cfg w actions).2 := by
  induction actions generalizing w with
  | nil => exact h
  | cons a rest ih => exact ih (h.act a)

lemma surviving_powerOn {m : Media} {r : ManifestRecord} (hblank : m.blank = none)
    (hselected : Selected m r) (hready : r.state = .ready) (faults : ℕ → Fault) (scrap : ℕ → Bytes)
    (entropy : ℕ → {id : ℕ // id ≠ 0}) :
    Surviving cfg r (powerOn m faults scrap entropy) := by
  refine ⟨inhabited_closed ⟨1, 1, rfl⟩, fun image himage => ?_, fun hopen => ?_⟩
  · rw [List.mem_singleton.mp himage]
    exact ⟨hblank, r, hselected, rfl, rfl, rfl, hready, le_rfl, le_rfl, le_rfl⟩
  · cases hopen

/-- **The manifest survives.**  A database is found on media whose selected copy is ready.  Whatever
is called from then on, whichever device calls fail and wherever power is lost, every image the
device may be left with selects a copy of the same database, with the same geometry and limits, that
is ready and whose generation, checkpoint and table generation are not behind those the database
was found with.  An open instance without a fault has that copy in memory, up to the tails of the
value banks and the key ranges of the tables. -/
theorem manifest_survives {m : Media} {r : ManifestRecord} (hblank : m.blank = none)
    (hselected : Selected m r) (hready : r.state = .ready) (faults : ℕ → Fault) (scrap : ℕ → Bytes)
    (entropy : ℕ → {id : ℕ // id ≠ 0}) (actions : List Action) :
    let w := (run cfg (powerOn m faults scrap entropy) actions).2
    (∀ image ∈ w.dev.images, image.blank = none ∧ ∃ r', Selected image r' ∧ Succeeds r r') ∧
      (w.db.initialized = true → w.db.storageFaulted = false →
        ∃ r', Selected w.dev.current r' ∧ Matches w.db.manifest r') := by
  intro w
  have hstart : Surviving cfg r (powerOn m faults scrap entropy) :=
    surviving_powerOn hblank hselected hready faults scrap entropy
  have hrun := hstart.run actions
  exact ⟨hrun.backed.images, hrun.backed.memory⟩

/-- A provisioned database whose twelfth device call fails half way, behind which power is lost. -/
theorem manifest_survives_provisioned :
    let w := (run hostConfig (powerOn (provisionedMedia hostConfig 7)
      (fun n => if n = 11 then .torn else .none) (fun _ => []) fun _ => ⟨1, Nat.one_ne_zero⟩)
      [.call .init, .powerLoss 1, .call .init]).2
    (∀ image ∈ w.dev.images, image.blank = none ∧
      ∃ r, Selected image r ∧ Succeeds (provisionedRecord hostConfig 7 4) r) ∧
      (w.db.initialized = true → w.db.storageFaulted = false →
        ∃ r, Selected w.dev.current r ∧ Matches w.db.manifest r) :=
  manifest_survives rfl ⟨false, loadManifest_ready (Nat.succ_ne_zero 6) rfl⟩ rfl _ _ _ _

/-! ## Counters -/

/-- What never moves back while an instance is open. -/
structure Advancing (w w' : World) : Prop where
  generation : w.db.manifest.generation ≤ w'.db.manifest.generation
  checkpoint : w.db.manifest.safeCheckpointSequence ≤ w'.db.manifest.safeCheckpointSequence
  tableGeneration : w.db.manifest.nextTableGeneration ≤ w'.db.manifest.nextTableGeneration
  next : w.db.nextTransactionSequence ≤ w'.db.nextTransactionSequence

lemma Advancing.of_stored {w w' : World} (hmanifest : w'.db.manifest = w.db.manifest)
    (hnext : w.db.nextTransactionSequence ≤ w'.db.nextTransactionSequence) : Advancing w w' := by
  refine ⟨?_, ?_, ?_, hnext⟩
  all_goals rw [hmanifest]

lemma Advancing.trans {w w' w'' : World} (h₁ : Advancing w w') (h₂ : Advancing w' w'') :
    Advancing w w'' :=
  ⟨h₁.generation.trans h₂.generation, h₁.checkpoint.trans h₂.checkpoint,
    h₁.tableGeneration.trans h₂.tableGeneration, h₁.next.trans h₂.next⟩

lemma Turn.advancing {w w' : World} (h : Turn cfg w w') (hordered : Ordered cfg w.db.stored) :
    Advancing w w' := by
  cases h with
  | quiet h =>
      exact .of_stored (congrArg Stored.manifest h.stored)
        (congrArg Stored.nextTransactionSequence h.stored).ge
  | latched stored _ =>
      exact .of_stored (congrArg Stored.manifest stored)
        (congrArg Stored.nextTransactionSequence stored).ge
  | published _ edit _ _ stored =>
      have hedited := edit.edited hordered
      have hmanifest := congrArg Stored.manifest stored
      refine ⟨?_, ?_, ?_, (congrArg Stored.nextTransactionSequence stored).ge⟩
      · rw [show w'.db.manifest = _ from hmanifest, ← hedited.generation]
        exact Nat.le_succ _
      · rw [show w'.db.manifest = _ from hmanifest]
        exact hedited.checkpoint
      · rw [show w'.db.manifest = _ from hmanifest]
        exact hedited.tableGeneration
  | failed _ _ _ _ stored =>
      exact .of_stored (congrArg Stored.manifest stored)
        (congrArg Stored.nextTransactionSequence stored).ge
  | grown _ stored _ =>
      have hmanifest := congrArg Stored.manifest stored
      refine ⟨?_, ?_, ?_, (congrArg Stored.nextTransactionSequence stored).ge⟩
      all_goals rw [show w'.db.manifest = _ from hmanifest]
  | applied _ stored _ =>
      refine .of_stored (congrArg Stored.manifest stored) ?_
      rw [show w'.db.nextTransactionSequence = _ from
        congrArg Stored.nextTransactionSequence stored]
      exact Nat.le_succ _

/-- A sequence of calls between `init` and `deinit`. -/
lemma steady_afterCalls {w : World} (h : Steady cfg w) {calls : List Call}
    (hcalls : ∀ c ∈ calls, c.isLifecycle = false) :
    Steady cfg (afterCalls cfg w calls) ∧ Advancing w (afterCalls cfg w calls) := by
  induction calls generalizing w with
  | nil => exact ⟨h, .of_stored rfl le_rfl⟩
  | cons c rest ih =>
      have hlifecycle := hcalls c List.mem_cons_self
      have hcall := openInvariant_steady.call c w hlifecycle h
      have hturns := (turns_perform hlifecycle h.sound).invariant
        (P := fun v => Advancing w v ∧ Ordered cfg v.db.stored)
        (fun v v' hv hturn => ⟨hv.1.trans (hturn.advancing hv.2), hturn.ordered hv.2⟩)
        ⟨.of_stored rfl le_rfl, h.ordered⟩
      obtain ⟨hsteady, hadvancing⟩ := ih hcall fun c hc => hcalls c (List.mem_cons_of_mem _ hc)
      exact ⟨hsteady, hturns.1.trans hadvancing⟩

/-- **Sequences stay in order.**  In any life of a database, whatever is called on an open instance
and whatever fails: the checkpoint lies below the next sequence, every record in the memtable lies
strictly between the two, and the last committed one is either the checkpoint or the newest in the
memtable.  The generation of the manifest, the checkpoint, the generation of the next table and the
next sequence never move back. -/
theorem sequences_stay_ordered {w : World} (hw : Lived cfg w) (hopen : w.db.initialized = true)
    {calls : List Call} (hcalls : ∀ c ∈ calls, c.isLifecycle = false) :
    let w' := afterCalls cfg w calls
    w'.db.manifest.safeCheckpointSequence < w'.db.nextTransactionSequence ∧
      (∀ r ∈ memtableRecords cfg w'.db,
        w'.db.manifest.safeCheckpointSequence < r.transactionSequence ∧
          r.transactionSequence < w'.db.nextTransactionSequence) ∧
      (w'.db.nextTransactionSequence = w'.db.manifest.safeCheckpointSequence + 1 ∨
        ∃ r ∈ memtableRecords cfg w'.db, r.transactionSequence + 1 = w'.db.nextTransactionSequence) ∧
      Advancing w w' := by
  intro w'
  obtain ⟨hsteady, hadvancing⟩ := steady_afterCalls (openInvariant_steady.of_lived hw hopen) hcalls
  have hcheckpoint : w'.db.manifest.safeCheckpointSequence < w'.db.nextTransactionSequence :=
    hsteady.ordered.checkpoint
  refine ⟨hcheckpoint, fun r hr => hsteady.ordered.between.logged r (mem_memtableRecords.mp hr), ?_,
    hadvancing⟩
  have hnewest : w'.db.nextTransactionSequence ≤ w'.db.manifest.safeCheckpointSequence + 1 ∨
      ∃ r, w'.db.memtable.Has cfg r ∧ r.transactionSequence + 1 = w'.db.nextTransactionSequence :=
    hsteady.ordered.between.newest
  rcases hnewest with hnone | ⟨r, hr, hsequence⟩
  · exact .inl (by omega)
  · exact .inr ⟨r, mem_memtableRecords.mpr hr, hsequence⟩

/-- A provisioned database that has been opened. -/
def startedWorld : World :=
  live hostConfig (powerOn (provisionedMedia hostConfig 7) (fun _ => .none) (fun _ => [])
    fun _ => ⟨1, Nat.one_ne_zero⟩) (.call .init)

lemma lived_startedWorld : Lived hostConfig startedWorld :=
  ⟨provisionedMedia hostConfig 7, fun _ => .none, fun _ => [], fun _ => ⟨1, Nat.one_ne_zero⟩,
    [.call .init], rfl⟩

/-- The calls that commit one key. -/
def commitCalls : List Call :=
  [.openNamespace [97] .readWrite, .begin 513, .set 513 [98] [99], .commit 513]

/-- After one commit its record lies between the checkpoint and the next sequence. -/
theorem sequences_stay_ordered_commit :
    let w' := afterCalls hostConfig startedWorld commitCalls
    w'.db.manifest.safeCheckpointSequence < w'.db.nextTransactionSequence ∧
      (∀ r ∈ memtableRecords hostConfig w'.db,
        w'.db.manifest.safeCheckpointSequence < r.transactionSequence ∧
          r.transactionSequence < w'.db.nextTransactionSequence) ∧
      (w'.db.nextTransactionSequence = w'.db.manifest.safeCheckpointSequence + 1 ∨
        ∃ r ∈ memtableRecords hostConfig w'.db,
          r.transactionSequence + 1 = w'.db.nextTransactionSequence) ∧
      Advancing startedWorld w' :=
  sequences_stay_ordered lived_startedWorld (by decide +kernel) (by decide)

end On9kvdb
