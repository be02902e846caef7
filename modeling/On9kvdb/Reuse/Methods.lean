import On9kvdb.Reuse.Publication
import On9kvdb.Store.Wal

/-!
# Flush, compaction and rotation reuse only what no copy reaches

Each of the methods that free or reuse storage starts in a calm state and ends in one, or stops
with the fault latched.
-/

namespace On9kvdb

open Exceptional

variable {cfg : Config}

/-! ## Flush -/

lemma freeTableSlot_eq_none {m : ManifestRecord} {slot : ℕ}
    (h : freeTableSlot cfg m = some slot) : m.tables slot = none := by
  have hfound := List.find?_some h
  simpa using hfound

/-- The publication of a flush, from the state behind the finished table. -/
lemma triple_publishFlush {M : ManifestRecord} {slot : ℕ} (hfree : M.tables slot = none)
    (reference : TableReference) :
    Triple (fun w => w.db.manifest = flushedManifest M slot reference ∧
        w.db.manifestStabilizationRequired = false ∧ w.dev.Guarded M ∧ Idle w.db)
      (onError (writeManifestCopy (M.generation + 1) .ready)
        (modifyDb fun db' => { db' with
          manifest := { db'.manifest with
            tables := Function.update db'.manifest.tables slot none
            safeCheckpointSequence := M.safeCheckpointSequence
            nextTableGeneration := M.nextTableGeneration } }))
      (fun _ => Calm) (fun _ => Stopped) := by
  refine .of_state fun w₀ hw₀ => ?_
  obtain ⟨hmanifest, hrequired, hguarded, hidle⟩ := hw₀
  have hcovers : Covers (flushedManifest M slot reference) M :=
    ⟨fun i hi => by
      by_cases his : i = slot
      · rw [his]
        exact hfree
      · simpa [flushedManifest, Function.update_of_ne his] using hi,
      fun _ h => h, rfl, le_rfl⟩
  refine Triple.onError (F := fun _ w => w = w₀ ∨
      (w.db.storageFaulted = true ∧ w.dev.IssuedSafe ∧ w.db.initialized = true))
    ((triple_writeManifestCopy hguarded.issued _ _).conseq (fun _ hw => hw) (fun _ w hw => ?_)
      fun e w hw => ?_) fun e => Triple.modifyDb fun w hw => ?_
  · obtain ⟨hdb, -, htaken⟩ := hw
    rw [hmanifest] at hdb htaken
    refine ⟨by rw [hdb]; exact hrequired, ?_,
      by rw [hdb]; exact ⟨hidle.writer, hidle.initialized⟩⟩
    rw [hdb]
    exact htaken.guarded_of_both hguarded ((Covers.nextManifest _ _ _).trans hcovers)
  · rcases hw with ⟨hw, -⟩ | ⟨hdb, hissued⟩
    · exact Or.inl hw
    · exact Or.inr ⟨by rw [hdb], hissued, by rw [hdb]; exact hidle.initialized⟩
  · rcases hw with rfl | ⟨hfault, hissued, hopen⟩
    · refine Calm.stopped ⟨hrequired, hguarded.of_covers ⟨fun i hi => ?_, fun _ h => ?_, ?_, ?_⟩,
        ⟨hidle.writer, hidle.initialized⟩⟩
      · by_cases his : i = slot
        · rw [his]
          exact hfree
        · rw [hmanifest] at hi
          simpa [flushedManifest, Function.update_of_ne his] using hi
      all_goals rw [hmanifest] at *
      · exact h
      · rfl
      · exact le_rfl
    · exact ⟨hissued, hopen, Or.inl hfault⟩

lemma triple_flushToSlot {slot : ℕ} :
    Triple (fun w => Calm w ∧ w.db.manifest.tables slot = none) (flushToSlot cfg slot)
      (fun _ => Calm) (fun _ => Stopped) := by
  unfold flushToSlot
  refine .bind (Q := fun _ w => Calm w ∧ w.db.manifest.tables slot = none)
    (Triple.modifyDb fun w hw => ⟨⟨hw.1.required, hw.1.guarded,
      hw.1.idle.writer, hw.1.idle.initialized⟩, hw.2⟩) fun _ => ?_
  refine .bind (Q := fun db w => Calm w ∧ SameButCaches db w.db ∧ db.manifest.tables slot = none)
    (Triple.getDb fun w hw => ⟨hw.1, rfl, hw.2⟩) fun db => ?_
  refine .of_pure (fun w hw => hw.2.2) fun hfree => ?_
  have hbuild : ∀ {α : Type} {D : Db → Db → Prop} {x : DbM α},
      (∀ db db', D db db' → SameButCaches db db') → Within (Writing D (IntoTable slot)) x →
      Triple (fun w => Calm w ∧ SameButCaches db w.db) x
        (fun _ w => Calm w ∧ SameButCaches db w.db) (fun _ => Stopped) := fun hD hx =>
    hx.invariant (P := fun w => Calm w ∧ SameButCaches db w.db) (fun w w' hw h => by
      have hmanifest : w.db.manifest = db.manifest := by
        have h' := hw.2
        unfold SameButCaches at h'
        rw [h']
      exact ⟨hw.1.writing h hD fun write hwrite => Write.freeOf_table hwrite
        (by rw [hmanifest]; exact hfree), trans_of SameButCaches hw.2 (hD _ _ h.db)⟩)
      |>.conseq (fun _ h => h) (fun _ _ h => h) fun _ _ h => h.1.stopped
  have hsame : ∀ db db' : Db, db = db' → SameButCaches db db' := fun db db' h => by
    rw [h]
    exact refl_of SameButCaches _
  refine .bind (Q := fun _ w => Calm w ∧ SameButCaches db w.db)
    (Triple.liftResult (fun w _ hw _ => ⟨hw.1, hw.2.1⟩) fun w _ hw _ => hw.1.stopped)
    fun records => ?_
  refine .bind ((hbuild hsame (within_flushRecords db.namespaces records
    { slot := slot, generation := db.manifest.nextTableGeneration })).and_returns
      (returns_flushRecords _ _ _)) fun b => .of_pure (fun w hw => hw.2) fun hb => ?_
  replace hb : b.slot = slot := hb
  refine .bind (((hbuild hsame (hb ▸ within_finishTableDataBlockUnsafe b)).and_returns
    (returns_finishTableDataBlockUnsafe b)).pre fun w hw => hw.1) fun b₁ =>
      .of_pure (fun w hw => hw.2.trans hb) fun hb₁ => ?_
  refine .bind ((hbuild (fun _ _ h => h)
    (hb₁ ▸ within_finishTableUnsafe b₁ _)).pre fun w hw => hw.1) fun reference => ?_
  refine .bind (Q := fun _ w => w.db.manifest = flushedManifest db.manifest slot reference ∧
      w.db.manifestStabilizationRequired = false ∧ w.dev.Guarded db.manifest ∧ Idle w.db)
    (Triple.modifyDb fun w hw => ?_) fun _ => ?_
  · have hmanifest : w.db.manifest = db.manifest := by
      have h' := hw.2
      unfold SameButCaches at h'
      rw [h']
    refine ⟨by rw [hmanifest], hw.1.required, ?_, hw.1.idle.writer, hw.1.idle.initialized⟩
    rw [← hmanifest]
    exact hw.1.guarded
  · exact .bind (triple_publishFlush hfree reference) fun _ =>
      Triple.modifyDb fun w hw =>
        ⟨hw.required, hw.guarded, hw.idle.writer, hw.idle.initialized⟩

/-! ## Compaction -/

lemma compactionPreconditions_eq_ok {db : Db} (h : compactionPreconditions cfg db = .ok ()) :
    db.manifest.activeValueBank < valueBankCount ∧ db.manifest.generation + 2 ≤ uint64Max := by
  unfold compactionPreconditions at h
  dsimp only at h
  split_ifs at h with h₁ h₂
  push Not at h₁
  simp only [uint64Max, valueBankCount] at *
  omega

section
variable {w₀ : World} {destination : Destination}

/-- What a merge needs of the state it starts from, to reuse nothing that a copy reaches. -/
structure MergeReady (cfg : Config) (w₀ : World) (destination : Destination) : Prop where
  calm : Calm w₀
  outputs : ∀ slot ∈ outputSlots cfg w₀, w₀.db.manifest.tables slot = none
  bank : destination.bankSlot ≠ w₀.db.manifest.activeValueBank

namespace MergeReady

variable (h : MergeReady cfg w₀ destination)
include h

lemma freeOf {write : Write} (hw : IntoOutput (outputSlots cfg w₀) destination.bankSlot write) :
    write.freeOf w₀.db.manifest := by
  rcases hw with ⟨slot, hslot, hw⟩ | hw
  · exact Write.freeOf_table hw (h.outputs slot hslot)
  · exact Write.freeOf_bank hw h.bank

lemma guarded {w : World} (hw : Merging cfg w₀ destination w) :
    w.dev.Guarded w₀.db.manifest :=
  h.calm.guarded.steps hw.dev fun _ => h.freeOf

/-- The manifest a failed merge goes back to covers what the one it started from does. -/
lemma covers_clear {w : World} (hw : Merging cfg w₀ destination w) :
    Covers (clearOutputTables cfg w.db.manifest) w₀.db.manifest := by
  have hstart := hw.outputStart
  refine ⟨fun slot hslot => ?_, ?_, ?_, ?_⟩
  · unfold clearOutputTables at hslot
    dsimp only at hslot
    rw [hstart] at hslot
    split_ifs at hslot with hmem
    · exact h.outputs slot hmem
    · rw [← hw.db.tables slot hmem]
      exact hslot
  all_goals
    unfold clearOutputTables
    rw [hw.db.rest]
  exact fun _ hslot => hslot

lemma calm_clear {w : World} (hw : Merging cfg w₀ destination w) :
    Calm { w with db := { w.db with manifest := clearOutputTables cfg w.db.manifest } } := by
  refine ⟨?_, (h.guarded hw).of_covers (h.covers_clear hw), ?_⟩
  · dsimp only
    rw [hw.db.rest]
    exact h.calm.required
  · dsimp only
    rw [hw.db.rest]
    exact ⟨h.calm.idle.writer, h.calm.idle.initialized⟩

end MergeReady

/-- The merge phase of a compaction. -/
lemma triple_mergePhase (h : MergeReady cfg w₀ destination) (fuel : ℕ) {s₀ : MergeState}
    (hs₀ : s₀.output = none) (mutations : List Mutation) :
    Triple (· = w₀)
      (onError
        (do
          let s ← mergeTables cfg destination fuel s₀
          let (staged, tail) ← relocateStaged cfg destination mutations s.destinationValueTail
          return (s, staged, tail))
        (modifyDb fun db => { db with manifest := clearOutputTables cfg db.manifest }))
      (fun _ => Merging cfg w₀ destination) (fun _ => Stopped) := by
  refine Triple.onError (F := fun _ => Merging cfg w₀ destination) ?_ fun _ =>
    Triple.modifyDb fun w hw => (h.calm_clear hw).stopped
  refine .bind ((triple_mergeTables fuel hs₀).pre fun w hw => ?_) fun s => ?_
  · rw [hw]
    exact refl_of (Writing _ _) w₀
  · refine .bind (triple_merging fun w => (within_relocateStaged destination mutations _ w).mono
      (fun _ _ h => h) fun _ hS => Or.inr hS) fun r => ?_
    exact .pure fun w hw => hw

/-- The publication of a compaction: the new manifest is taken over, or the old one is back. -/
lemma triple_publishCompaction (h : MergeReady cfg w₀ destination) {previous : Db}
    (hprevious : ∃ w, Merging cfg w₀ destination w ∧ w.db = previous) (s : MergeState)
    (tail : ℕ) (hmax : previous.manifest.generation + 2 ≤ uint64Max) :
    Triple (fun w => w.dev.Guarded w₀.db.manifest ∧
        w.db = { previous with
          manifest := compactedManifest cfg previous.manifest destination s tail })
      (onError
        (do
          syncStorage
          let db ← getDb
          writeManifestCopy (db.manifest.generation + 1) .ready)
        (do
          modifyDb fun db => { db with manifest := previous.manifest }
          modifyDb fun db => { db with manifest := clearOutputTables cfg db.manifest }))
      (fun _ w => w.dev.IssuedSafe ∧
        w.dev.CopyIn (manifestSlotOf w.db.manifest.generation) (Covers w.db.manifest) ∧
        Stabilizable w.db.manifest ∧ w.db.manifest.generation ≠ 0 ∧ Idle w.db)
      (fun _ => Stopped) := by
  obtain ⟨wp, hwp, rfl⟩ := hprevious
  have hidle : Idle wp.db := by
    rw [hwp.db.rest]
    exact ⟨h.calm.idle.writer, h.calm.idle.initialized⟩
  have hrequired : wp.db.manifestStabilizationRequired = false := by
    rw [hwp.db.rest]
    exact h.calm.required
  refine Triple.onError (F := fun _ w => w.dev.IssuedSafe ∧
      (w.db.storageFaulted = true ∧ w.db.initialized = true ∨ w.dev.Guarded w₀.db.manifest ∧
        w.db = { wp.db with
          manifest := compactedManifest cfg wp.db.manifest destination s tail })) ?_ fun _ => ?_
  · refine .bind (Q := fun _ w => w.dev.Guarded w₀.db.manifest ∧ w.db = { wp.db with
        manifest := compactedManifest cfg wp.db.manifest destination s tail })
      (Triple.syncStorage (fun w hw _ => ⟨hw.1.synced, hw.2⟩)
        fun w hw _ => ⟨hw.1.issued, Or.inr ⟨hw.1.tick, hw.2⟩⟩) fun _ => ?_
    · refine .bind Triple.fetch fun db => .of_state fun w₁ hw₁ => ?_
      obtain ⟨⟨hguarded, hdb⟩, rfl⟩ := hw₁
      refine (triple_writeManifestCopy hguarded.issued _ _).conseq (fun _ hw => hw)
        (fun _ w hw => ?_) fun _ w hw => ?_
      · obtain ⟨hnext, hpublishable, htaken⟩ := hw
        obtain ⟨-, hencodable⟩ := publishable_eq_true hpublishable
        rw [hnext]
        refine ⟨htaken.issued, fun copy hcopy => ?_, ⟨?_, hencodable⟩, Nat.succ_ne_zero _, ?_⟩
        · rw [htaken.newest copy hcopy]
          exact .withoutKeyRanges _
        · rw [hdb]
          show wp.db.manifest.generation + 1 ≠ uint64Max
          omega
        · rw [hdb]
          exact ⟨hidle.writer, hidle.initialized⟩
      · rcases hw with ⟨rfl, -⟩ | ⟨hfault, hissued⟩
        · exact ⟨hguarded.issued, Or.inr ⟨hguarded, hdb⟩⟩
        · refine ⟨hissued, Or.inl ⟨by rw [hfault], ?_⟩⟩
          rw [hfault, hdb]
          exact hidle.initialized
  · refine .bind (Q := fun _ w => w.dev.IssuedSafe ∧
        (w.db.storageFaulted = true ∧ w.db.initialized = true ∨
          w.dev.Guarded w₀.db.manifest ∧ w.db = wp.db))
      (Triple.modifyDb fun w hw => ⟨hw.1, hw.2.imp (fun hf => hf) fun hg => ⟨hg.1, ?_⟩⟩)
      fun _ => Triple.modifyDb fun w hw => ?_
    · rw [hg.2]
    · obtain ⟨hissued, ⟨hfault, hopen⟩ | ⟨hguarded, hdb⟩⟩ := hw
      · exact ⟨hissued, hopen, Or.inl hfault⟩
      · rw [hdb]
        exact Calm.stopped ⟨hrequired, hguarded.of_covers (h.covers_clear hwp), hidle.writer,
          hidle.initialized⟩

end

/-- The stabilization of a compaction, with its accounting on either path. -/
lemma triple_settleCompaction (s : MergeState) (inputBytes : ℕ) :
    Triple (fun w => Unsettled w ∧ Stabilizable w.db.manifest ∧ w.db.manifest.generation ≠ 0 ∧
        Idle w.db)
      (do
        onError stabilizeManifestUnsafe
          (modifyDb fun db => accountCompaction cfg db s inputBytes)
        modifyDb fun db => accountCompaction cfg db s inputBytes)
      (fun _ => Calm) (fun _ => Stopped) := by
  refine .of_state fun w₀ hw₀ => ?_
  obtain ⟨hunsettled, hstabilizable, hpos, hidle⟩ := hw₀
  refine .bind (Q := fun _ => Calm) (Triple.onError
    (F := fun _ w => w.dev.IssuedSafe ∧ w.db.initialized = true ∧ w.db.storageFaulted = true)
    ((triple_stabilizeManifestUnsafe hunsettled hpos).conseq (fun _ hw => hw) (fun _ w hw => ?_)
      fun _ w hw => ?_) fun _ => Triple.modifyDb fun w hw => ⟨hw.1, hw.2.1, Or.inl hw.2.2⟩) fun _ =>
        Triple.modifyDb fun w hw =>
        ⟨hw.required, hw.guarded, hw.idle.writer, hw.idle.initialized⟩
  · exact ⟨hw.1.required, hw.1.guarded, by rw [hw.2.1]; exact hidle.writer,
      by rw [hw.2.2]; exact hidle.initialized⟩
  · exact ⟨hw.1, by rw [hw.2.1]; exact hidle.initialized,
      hw.2.2.resolve_right fun hnot => hnot hstabilizable⟩

/-- **A compaction writes to nothing that a valid manifest copy reaches.** -/
theorem triple_compactTablesUnsafe :
    Triple Calm (compactTablesUnsafe cfg) (fun _ => Calm) (fun _ => Stopped) := by
  unfold compactTablesUnsafe
  refine .bind Triple.fetch fun db => ?_
  refine .bind (Q := fun _ w => Calm w ∧ SameButCaches db w.db ∧
      compactionPreconditions cfg db = .ok ())
    (Triple.liftResult (fun w _ hw hpre => ⟨hw.1, hw.2 ▸ refl_of SameButCaches _, hpre⟩)
      fun w _ hw _ => hw.1.stopped) fun _ => .of_pure (fun w hw => hw.2.2) fun hpre => ?_
  obtain ⟨hbank, hmax⟩ := compactionPreconditions_eq_ok hpre
  have hkeep : ∀ {α : Type} {x : DbM α}, Within Caching x →
      Triple (fun w => Calm w ∧ SameButCaches db w.db) x
        (fun _ w => Calm w ∧ SameButCaches db w.db) (fun _ => Stopped) := fun hx =>
    (hx.invariant fun w w' hw h => ⟨hw.1.writing (.of_caching h) (fun _ _ h => h)
      (S := fun _ => False) (fun _ h => h.elim), trans_of SameButCaches hw.2 h.db⟩)
      |>.conseq (fun _ h => h) (fun _ _ h => h) fun _ _ h => h.1.stopped
  refine .bind ((hkeep (within_validateTables _)).pre fun w hw => ⟨hw.1, hw.2.1⟩) fun _ => ?_
  refine .bind (Triple.check fun w hw => hw.1.stopped) fun _ =>
    .of_pure (fun w hw => hw.2) fun hfree => ?_
  refine .bind (Q := fun _ w => Calm w ∧ SameButCaches db w.db)
    (Triple.liftResult (fun w _ hw _ => hw.1) fun w _ hw _ => hw.1.1.stopped) fun pending => ?_
  refine .bind (hkeep fun w => .of_reading (within_loadCursors _ w)) fun cursors => ?_
  refine .of_state fun w₀ hw₀ => ?_
  have hmanifest : w₀.db.manifest = db.manifest := by
    have h := hw₀.2
    unfold SameButCaches at h
    rw [h]
  have hready : MergeReady cfg w₀ ⟨1 - db.manifest.activeValueBank,
      db.manifest.valueBankGeneration (1 - db.manifest.activeValueBank) + 1⟩ := by
    refine ⟨hw₀.1, fun slot hslot => ?_, ?_⟩
    · unfold outputSlots at hslot
      rw [hmanifest] at hslot ⊢
      by_contra hsome
      refine hfree (List.any_eq_true.mpr ⟨slot, hslot, ?_⟩)
      exact Option.isSome_iff_ne_none.mpr hsome
    · rw [hmanifest]
      dsimp only
      simp only [valueBankCount] at hbank
      omega
  refine .bind (triple_mergePhase hready _ rfl _) fun r => ?_
  obtain ⟨s, staged, tail⟩ := r
  refine .bind Triple.fetch fun previous => ?_
  by_cases hprevious : ∃ w, Merging cfg w₀ ⟨1 - db.manifest.activeValueBank,
      db.manifest.valueBankGeneration (1 - db.manifest.activeValueBank) + 1⟩ w ∧ w.db = previous
  swap
  · exact fun w hw => absurd ⟨w, hw⟩ hprevious
  have hgeneration : previous.manifest.generation + 2 ≤ uint64Max := by
    obtain ⟨w, hw, rfl⟩ := hprevious
    rw [hw.db.rest, hmanifest]
    exact hmax
  refine .bind (Q := fun _ w => w.dev.Guarded w₀.db.manifest ∧ w.db = { previous with
      manifest := compactedManifest cfg previous.manifest
        ⟨1 - db.manifest.activeValueBank,
          db.manifest.valueBankGeneration (1 - db.manifest.activeValueBank) + 1⟩ s tail })
    (Triple.modifyDb fun w hw => ⟨hready.guarded hw.1, by rw [hw.2]⟩) fun _ => ?_
  refine .bind (triple_publishCompaction hready hprevious s tail hgeneration) fun _ => ?_
  refine .bind (Triple.modifyDb fun w hw => ?_) fun _ => triple_settleCompaction s _
  obtain ⟨hissued, hnewest, hstabilizable, hpos, hidle⟩ := hw
  exact ⟨⟨hissued, hnewest, fun h => absurd (show true = false from h) (by decide),
    .of_idle hidle.writer⟩, hstabilizable, hpos, hidle.writer, hidle.initialized⟩

lemma triple_flushMemtableUnsafe :
    Triple Calm (flushMemtableUnsafe cfg) (fun _ => Calm) (fun _ => Stopped) := by
  unfold flushMemtableUnsafe
  refine .bind Triple.fetch fun db => .ite (fun _ => ?_) fun _ => .pure fun w hw => hw.1
  refine .bind (Triple.check fun w hw => hw.1.stopped) fun _ => ?_
  cases hslot : freeTableSlot cfg db.manifest with
  | none => exact triple_compactTablesUnsafe.pre fun w hw => hw.1.1
  | some slot =>
      exact triple_flushToSlot.pre fun w hw =>
        ⟨hw.1.1, by rw [hw.1.2]; exact freeTableSlot_eq_none hslot⟩

/-! ## Rotation and the log -/

/-- The new header of a rotation goes to a slot no copy refers to. -/
lemma triple_ensureWalHeader {M : ManifestRecord} {slot generation first : ℕ}
    (hslot : M.walGeneration slot = 0) :
    Triple (fun w => Calm w ∧ w.db.manifest = M) (ensureWalHeader cfg slot generation first)
      (fun _ w => Calm w ∧ w.db.manifest = M) (fun _ => Stopped) := by
  unfold ensureWalHeader
  refine .bind (Triple.check fun w hw => hw.1.stopped) fun _ => ?_
  refine .bind Triple.fetch fun db => ?_
  have hwrite : ∀ (copySlot : ℕ) (header : WalHeader),
      Triple (fun w => Calm w ∧ w.db.manifest = M) (writeStorage (.walHeader slot copySlot header))
        (fun _ w => Calm w ∧ w.db.manifest = M) (fun _ => Stopped) := fun copySlot header => by
    have hfree : ∀ w : World, w.db.manifest = M →
        (Write.walHeader slot copySlot header).freeOf w.db.manifest := fun w hw => by
      rw [hw]
      exact hslot
    exact Triple.writeStorage
      (fun w hw _ => ⟨⟨hw.1.required, hw.1.guarded.write (hfree w hw.2), hw.1.idle⟩, hw.2⟩)
      fun w hw _ => Calm.stopped
        ⟨hw.1.required, hw.1.guarded.write (hfree w hw.2), hw.1.idle⟩
  cases encodeWalHeader db.manifest.databaseId generation first slot cfg.geometry.walSize with
  | none => exact .throw fun w hw => hw.1.1.1.stopped
  | some header =>
      exact .bind ((hwrite 0 header).pre fun w hw => hw.1.1) fun _ => .bind (hwrite 1 header)
        fun _ => Triple.syncStorage
          (fun w hw _ => ⟨⟨hw.1.required, hw.1.guarded.synced, hw.1.idle⟩, hw.2⟩)
          fun w hw _ => Calm.stopped ⟨hw.1.required, hw.1.guarded.tick, hw.1.idle⟩

/-- The manifest a rotation publishes. -/
abbrev rotatedManifest (M : ManifestRecord) (slot generation : ℕ) : ManifestRecord :=
  { M with
    activeWalSlot := slot
    walGeneration := Function.update M.walGeneration slot generation }

lemma Covers.rotatedManifest {M : ManifestRecord} {slot : ℕ} (hslot : M.walGeneration slot = 0)
    (generation : ℕ) : Covers (On9kvdb.rotatedManifest M slot generation) M := by
  refine ⟨fun _ h => h, fun i hi => ?_, rfl, le_rfl⟩
  by_cases his : i = slot
  · rw [his]
    exact hslot
  · simpa [Function.update_of_ne his] using hi

/-- The publication of a rotation. -/
lemma triple_publishRotation {M : ManifestRecord} {oldActive slot generation : ℕ}
    (hslot : M.walGeneration slot = 0) (hmax : M.generation + 2 ≤ uint64Max) :
    Triple (fun w => w.db.manifest = rotatedManifest M slot generation ∧ w.dev.Guarded M ∧
        w.db.manifestStabilizationRequired = false ∧ Idle w.db)
      (onError (writeManifestCopy (M.generation + 1) .ready)
        (modifyDb fun db => { db with
          manifest := { db.manifest with
            activeWalSlot := oldActive
            walGeneration := Function.update db.manifest.walGeneration slot 0 } }))
      (fun _ w => w.dev.Guarded w.db.manifest ∧ Stabilizable w.db.manifest ∧
        w.db.manifest.generation ≠ 0 ∧ Idle w.db)
      (fun _ => Stopped) := by
  refine .of_state fun w₀ hw₀ => ?_
  obtain ⟨hmanifest, hguarded, hrequired, hidle⟩ := hw₀
  have hcovers := Covers.rotatedManifest hslot generation
  refine Triple.onError (F := fun _ w => w = w₀ ∨
      (w.db.storageFaulted = true ∧ w.dev.IssuedSafe ∧ w.db.initialized = true))
    ((triple_writeManifestCopy hguarded.issued _ _).conseq (fun _ hw => hw) (fun _ w hw => ?_)
      fun e w hw => ?_) fun e => Triple.modifyDb fun w hw => ?_
  · obtain ⟨hdb, hpublishable, htaken⟩ := hw
    obtain ⟨-, hencodable⟩ := publishable_eq_true hpublishable
    rw [hmanifest] at hdb htaken hencodable
    rw [hdb]
    refine ⟨htaken.guarded_of_both hguarded ((Covers.nextManifest _ _ _).trans hcovers),
      ⟨?_, hencodable⟩, Nat.succ_ne_zero _, hidle.writer, hidle.initialized⟩
    show M.generation + 1 ≠ uint64Max
    omega
  · rcases hw with ⟨hw, -⟩ | ⟨hdb, hissued⟩
    · exact Or.inl hw
    · exact Or.inr ⟨by rw [hdb], hissued, by rw [hdb]; exact hidle.initialized⟩
  · rcases hw with rfl | ⟨hfault, hissued, hopen⟩
    · refine Calm.stopped ⟨hrequired, ?_, hidle.writer, hidle.initialized⟩
      dsimp only
      rw [hmanifest]
      refine hguarded.of_covers ⟨fun _ h => h, fun i hi => ?_, rfl, le_rfl⟩
      by_cases his : i = slot
      · rw [his]
        exact hslot
      · simpa [Function.update_of_ne his] using hi
    · exact ⟨hissued, hopen, Or.inl hfault⟩

lemma rotationBlocked_eq_false {m : ManifestRecord} (h : rotationBlocked m = false) :
    m.walGeneration (1 - m.activeWalSlot) = 0 ∧ m.generation + 2 ≤ uint64Max := by
  unfold rotationBlocked at h
  simp only [Bool.or_eq_false_iff, bne_eq_false_iff_eq, decide_eq_false_iff_not] at h
  refine ⟨h.1.1.2, ?_⟩
  have hmax := h.2
  simp only [uint64Max] at *
  omega

lemma triple_rotateWalUnsafe :
    Triple Calm (rotateWalUnsafe cfg) (fun _ => Calm) (fun _ => Stopped) := by
  unfold rotateWalUnsafe
  refine .bind Triple.fetch fun db => ?_
  dsimp only
  refine .bind (Triple.check fun w hw => hw.1.stopped) fun _ =>
    .of_pure (fun w hw => hw.2) fun hblocked => ?_
  obtain ⟨hslot, hmax⟩ := rotationBlocked_eq_false (by simpa using hblocked)
  refine .bind (Q := fun _ w => Calm w ∧ w.db.manifest = db.manifest)
    ((triple_stabilize_skip (P := fun w => Calm w ∧ w.db.manifest = db.manifest)
      fun w hw => hw.1.required).pre fun w hw => ⟨hw.1.1, by rw [hw.1.2]⟩) fun _ => ?_
  refine .bind (triple_ensureWalHeader hslot) fun _ => ?_
  refine .bind (Q := fun _ w => w.db.manifest = rotatedManifest db.manifest
      (1 - db.manifest.activeWalSlot) (db.manifest.walGeneration db.manifest.activeWalSlot + 1) ∧
      w.dev.Guarded db.manifest ∧ w.db.manifestStabilizationRequired = false ∧ Idle w.db)
    (Triple.modifyDb fun w hw => ⟨by rw [hw.2], by rw [← hw.2]; exact hw.1.guarded,
      hw.1.required, hw.1.idle.writer, hw.1.idle.initialized⟩) fun _ => ?_
  refine .bind Triple.fetch fun db' => .of_pure (fun w hw => hw.2 ▸ hw.1.1) fun hdb' => ?_
  have hgeneration : db'.manifest.generation = db.manifest.generation := by rw [hdb']
  rw [hgeneration]
  refine .bind ((triple_publishRotation hslot hmax).pre fun w hw => hw.1) fun _ => ?_
  refine .bind (Q := fun _ w => Unsettled w ∧ Stabilizable w.db.manifest ∧
      w.db.manifest.generation ≠ 0 ∧ Idle w.db)
    (Triple.modifyDb fun w hw => ?_) fun _ => .of_state fun w₀ hw₀ => ?_
  · obtain ⟨hguarded, hstabilizable, hpos, hidle⟩ := hw
    exact ⟨⟨hguarded.issued, hguarded.copies _ (manifestSlotOf_lt _),
      fun _ => hguarded.copies, .of_idle hidle.writer⟩, hstabilizable, hpos, hidle.writer,
      hidle.initialized⟩
  · obtain ⟨hunsettled, hstabilizable, hpos, hidle⟩ := hw₀
    refine (triple_stabilizeManifestUnsafe hunsettled hpos).conseq (fun _ hw => hw)
      (fun _ w hw => ⟨hw.1.required, hw.1.guarded, by rw [hw.2.1]; exact hidle.writer,
        by rw [hw.2.2]; exact hidle.initialized⟩)
      fun _ w hw => ⟨hw.1, by rw [hw.2.1]; exact hidle.initialized,
        Or.inl (hw.2.2.resolve_right fun hnot => hnot hstabilizable)⟩

lemma triple_makeWalRoom (transactionBytes : ℕ) :
    Triple Calm (makeWalRoom cfg transactionBytes) (fun _ => Calm) (fun _ => Stopped) := by
  unfold makeWalRoom
  refine .bind Triple.fetch fun db => .ite (fun _ => ?_) fun _ => .pure fun w hw => hw.1
  refine .bind (Q := fun _ => Calm) ?_ fun moved => .bind triple_rotateWalUnsafe fun _ =>
    .pure fun w hw => hw
  unfold releaseOlderLog
  refine .bind Triple.fetch fun db => .ite (fun _ => ?_) fun _ => .ite (fun _ => ?_) fun _ =>
    .pure fun w hw => hw.1.1
  · exact .bind (triple_compactTablesUnsafe.pre fun w hw => hw.1.1) fun _ => .pure fun w hw => hw
  · exact .bind (triple_flushMemtableUnsafe.pre fun w hw => hw.1.1) fun _ => .pure fun w hw => hw

lemma triple_writeFrames (namespaceName : Bytes) (mutations : List Mutation) (slot tail : ℕ)
    (g : FrameGroup) (remaining frameIndex : ℕ) :
    Triple Calm (writeFrames namespaceName mutations slot tail g remaining frameIndex)
      (fun _ => Calm) (fun _ => Stopped) := by
  induction remaining generalizing frameIndex with
  | zero => exact .pure fun w hw => hw
  | succ remaining ih =>
      unfold writeFrames
      refine .bind (Q := fun _ => Calm)
        (Triple.liftResult (fun w _ hw _ => hw) fun w _ hw _ => hw.stopped) fun payload => ?_
      cases encodeWalFrame g frameIndex payload with
      | none => exact .throw fun w hw => hw.stopped
      | some frame =>
          exact .bind (Triple.writeStorage
            (fun w hw _ => ⟨hw.required, hw.guarded.write trivial, hw.idle⟩)
            fun w hw _ => Calm.stopped ⟨hw.required, hw.guarded.write trivial, hw.idle⟩)
            fun _ => ih _

lemma triple_appendTransactionUnsafe (namespaceName : Bytes) :
    Triple Calm (appendTransactionUnsafe cfg namespaceName) (fun _ => Calm)
      (fun _ => Stopped) := by
  unfold appendTransactionUnsafe
  refine .bind Triple.fetch fun db => .bind (Triple.check fun w hw => hw.1.stopped) fun _ => ?_
  refine .bind ((triple_stabilize_skip fun w hw => hw.required).pre fun w hw => hw.1.1)
    fun _ => ?_
  refine .bind (Q := fun _ => Calm)
    (Triple.liftResult (fun w _ hw _ => hw) fun w _ hw _ => hw.stopped) fun size => ?_
  refine .bind (triple_makeWalRoom _) fun moved => ?_
  refine .bind Triple.fetch fun db => .bind (Triple.check fun w hw => hw.1.stopped) fun _ => ?_
  refine .bind (Q := fun _ => Calm) ?_ fun checksum => ?_
  · unfold refreshChecksum
    refine .ite (fun _ => ?_) fun _ => .pure fun w hw => hw.1.1
    refine .bind Triple.fetch fun db => .bind (Q := fun _ => Calm)
      (Triple.liftResult (fun w _ hw _ => hw.1.1.1) fun w _ hw _ => hw.1.1.1.stopped)
      fun r => ?_
    exact .bind (Triple.check fun w hw => hw.stopped) fun _ => .pure fun w hw => hw.1
  · refine .bind (triple_writeFrames _ _ _ _ _ _ _) fun _ => ?_
    refine .bind (Q := fun _ => Calm)
      (Triple.syncStorage (fun w hw _ => ⟨hw.required, hw.guarded.synced, hw.idle⟩) fun w hw _ =>
        Calm.stopped ⟨hw.required, hw.guarded.tick, hw.idle⟩) fun _ => ?_
    exact Triple.modifyDb fun w hw =>
        ⟨hw.required, hw.guarded, hw.idle.writer, hw.idle.initialized⟩

end On9kvdb
