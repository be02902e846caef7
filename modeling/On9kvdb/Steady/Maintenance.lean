import On9kvdb.Lib.HeapOrder
import On9kvdb.Steady.Steps

/-!
# The steps of maintenance

Stabilizations, flushes, compactions, rotations and appends as sequences of steps of the stored
state: each publication is preceded by the edit it publishes, and a publication that fails takes
the edit back.
-/

namespace On9kvdb

open Exceptional

variable {cfg : Config} {α : Type}

/-! ## Publications -/

lemma Turn.going {w₀ w w' : World} (h : Turn cfg w w') (hw : Turns cfg w₀ w)
    (hhealthy : w'.db.storageFaulted = false) : Going cfg w₀ w' := ⟨hw.tail h, hhealthy⟩

/-- The state with another manifest in memory. -/
def World.edited (w : World) (m : ManifestRecord) : World :=
  { w with db := { w.db with manifest := m } }

/-- From `w₀` on the edited manifest `m` has been published, and nothing else has happened. -/
structure HasPublished (w₀ : World) (m : ManifestRecord) (state : ManifestState) (w : World) :
    Prop where
  dev : PublishedOn w₀.dev w.dev m state
  db : w.db = { w₀.db with manifest := nextManifest m (m.generation + 1) state }

section
variable {w₀ : World} {m : ManifestRecord} {mt : Memtable} {state : ManifestState}

/-- The publication of an edited manifest, which on its error path is taken back by `undo`. -/
lemma triple_publish (hhealthy : w₀.db.storageFaulted = false) (hedit : Edit cfg w₀.db m mt)
    (hready : w₀.db.manifest.state = .ready → state = .ready) {undo : Db → Db}
    (hundo : ∀ db, db.manifest = m →
      (undo db).stored = { db.stored with manifest := w₀.db.manifest }) :
    Triple (· = w₀.edited m)
      (onError (writeManifestCopy (m.generation + 1) state) (modifyDb undo))
      (fun _ => HasPublished w₀ m state) (fun _ => Turns cfg w₀) := by
  refine Triple.onError (F := fun _ w => w = w₀.edited m ∨
    FailedOn w₀.dev w.dev m state ∧ w.db = { w₀.db with manifest := m, storageFaulted := true })
    ((triple_writeManifestCopy_outcome _ _ _).conseq (fun _ hw => hw) (fun _ w hw => ?_)
      fun _ w hw => ?_) fun _ => Triple.modifyDb fun w hw => ?_
  · obtain ⟨h, hfault, hsync, rfl⟩ := hw
    exact ⟨⟨h, hfault, hsync, rfl⟩, rfl⟩
  · rcases hw with ⟨hw, -⟩ | ⟨h, hdb, hfailed⟩
    · exact .inl hw
    · exact .inr ⟨⟨h, hfailed⟩, hdb⟩
  · rcases hw with rfl | ⟨hfailed, hdb⟩
    · exact .single (.quiet ⟨hundo _ rfl, .refl⟩)
    · refine .single (.failed hhealthy hedit hready hfailed ?_)
      rw [hundo _ (by rw [hdb]), hdb]
      rfl

end

lemma progresses_stabilizeManifestUnsafe : Progresses cfg stabilizeManifestUnsafe := by
  refine .of_triple fun w₀ hhealthy => ?_
  cases hrequired : w₀.db.manifestStabilizationRequired with
  | false =>
      intro w hw
      subst hw
      unfold stabilizeManifestUnsafe
      rw [exec_bind, exec_getDb]
      dsimp only
      rw [if_neg (by rw [hrequired]; decide)]
      exact ⟨.refl, hhealthy⟩
  | true =>
      refine (triple_stabilizeManifestUnsafe_outcome w₀ hrequired).conseq (fun _ hw => hw)
        (fun _ w hw => ?_) fun _ w hw => ?_
      · obtain ⟨h, hfault, hsync, rfl⟩ := hw
        exact ⟨.single (.published hhealthy .same (fun h => h) ⟨h, hfault, hsync, rfl⟩ rfl), hhealthy⟩
      · rcases hw with ⟨rfl, -⟩ | ⟨h, hdb, hfailed⟩
        · exact .refl
        · refine .single (.failed hhealthy .same (fun h => h) ⟨h, hfailed⟩ ?_)
          rw [hdb]
          rfl

/-! ## Flushes -/

/-- The counters of a table builder that has taken entries of these sequences. -/
structure Counts (sequences : List ℕ) (b : TableBuild) : Prop where
  entries : b.entryCount = sequences.length
  attained : sequences ≠ [] → b.minSequence ∈ sequences ∧ b.maxSequence ∈ sequences
  within : ∀ s ∈ sequences, b.minSequence ≤ s ∧ s ≤ b.maxSequence

namespace Counts

variable {sequences : List ℕ} {b b' : TableBuild}

lemma congr (h : Counts sequences b) (hentries : b'.entryCount = b.entryCount)
    (hmin : b'.minSequence = b.minSequence) (hmax : b'.maxSequence = b.maxSequence) :
    Counts sequences b' :=
  ⟨hentries.trans h.entries, by rw [hmin, hmax]; exact h.attained,
    by rw [hmin, hmax]; exact h.within⟩

lemma addEntry (h : Counts sequences b) (e : TableEntry) :
    Counts (sequences ++ [e.transactionSequence]) (b.addEntry e) := by
  obtain ⟨hentries, hattained, hwithin⟩ := h
  unfold TableBuild.addEntry
  cases hs : sequences with
  | nil =>
      rw [hs] at hentries
      refine ⟨by simp [hentries], fun _ => by simp [hentries], fun s hmem => ?_⟩
      rw [List.nil_append, List.mem_singleton] at hmem
      simp [hentries, hmem]
  | cons first rest =>
      rw [← hs]
      have hne : sequences ≠ [] := by rw [hs]; exact List.cons_ne_nil _ _
      have hcount : b.entryCount ≠ 0 := by rw [hentries, hs]; exact Nat.succ_ne_zero _
      obtain ⟨hmin, hmax⟩ := hattained hne
      refine ⟨by simp [hentries], fun _ => ⟨?_, ?_⟩, fun s hmem => ?_⟩
      · simp only [if_neg hcount, List.mem_append, List.mem_singleton]
        rcases min_choice b.minSequence e.transactionSequence with h | h
        · exact .inl (by rw [h]; exact hmin)
        · exact .inr h
      · simp only [if_neg hcount, List.mem_append, List.mem_singleton]
        rcases max_choice b.maxSequence e.transactionSequence with h | h
        · exact .inl (by rw [h]; exact hmax)
        · exact .inr h
      · simp only [if_neg hcount]
        rcases List.mem_append.mp hmem with hold | hnew
        · have hs' := hwithin s hold
          omega
        · rw [List.mem_singleton.mp hnew]
          omega

end Counts

lemma returns_finishTableDataBlockUnsafe_counts {sequences : List ℕ} {b : TableBuild}
    (h : Counts sequences b) : Returns (Counts sequences) (finishTableDataBlockUnsafe cfg b) := by
  unfold finishTableDataBlockUnsafe
  refine .bind .trivial fun _ _ => ?_
  cases encodeTableBlock cfg.blockBytes b.generation b.dataBlockCount b.blockEntries with
  | none => exact .throw
  | some block =>
      exact .bind .trivial fun _ _ => .bind .trivial fun _ _ => .pure (h.congr rfl rfl rfl)

lemma Counts.startDataBlock {sequences : List ℕ} {b b' : TableBuild} {key : CompositeKey}
    {sequence : ℕ} (h : Counts sequences b)
    (hstart : startDataBlock cfg b key sequence = some b') : Counts sequences b' := by
  unfold On9kvdb.startDataBlock at hstart
  split_ifs at hstart
  · cases hstart
    exact h
  · rw [Option.map_eq_some_iff] at hstart
    obtain ⟨ix, -, rfl⟩ := hstart
    exact h.congr rfl rfl rfl

lemma transactionSequence_encodeTableEntry {blockLen offset sequence : ℕ} {key : CompositeKey}
    {v : StoredValue} {e : TableEntry}
    (h : encodeTableEntry blockLen offset sequence key v = some e) :
    e.transactionSequence = sequence := by
  unfold encodeTableEntry at h
  dsimp only at h
  split_ifs at h
  cases h
  rfl

lemma returns_flushRecords_counts (namespaces : List Bytes) (records : List MemtableRecord)
    {sequences : List ℕ} {b : TableBuild} (h : Counts sequences b) :
    Returns (Counts (sequences ++ records.map MemtableRecord.transactionSequence))
      (flushRecords cfg namespaces records b) := by
  induction records generalizing sequences b with
  | nil =>
      rw [List.map_nil, List.append_nil]
      exact .pure h
  | cons record rest ih =>
      unfold flushRecords closeFullBlock
      refine .bind (Q := Counts sequences)
        (.ite (fun _ => returns_finishTableDataBlockUnsafe_counts h) fun _ => .pure h) fun b₁ h₁ => ?_
      cases hstart : startDataBlock cfg b₁ (recordKey namespaces record)
        record.transactionSequence with
      | none => exact .throw
      | some b₂ =>
          dsimp only
          cases hentry : encodeTableEntry cfg.blockBytes (tableBlockHeaderSize + b₂.dataPayloadSize)
            record.transactionSequence (recordKey namespaces record) record.value with
          | none => exact .throw
          | some entry =>
              have hcounts := (h₁.startDataBlock hstart).addEntry entry
              rw [transactionSequence_encodeTableEntry hentry] at hcounts
              rw [List.map_cons, List.append_cons]
              exact ih hcounts

/-- The reference of a finished table has the counters of its builder. -/
lemma returns_finishTableUnsafe (b : TableBuild) (bank : BankBounds) :
    Returns (fun reference => reference.maxSequence = b.maxSequence)
      (finishTableUnsafe cfg b bank) := by
  unfold finishTableUnsafe
  cases encodeTableIndex cfg.blockBytes b.generation b.indexEntries with
  | none => exact .throw
  | some index =>
      refine .bind .trivial fun _ _ => .bind .trivial fun _ _ => .bind .trivial fun db _ => ?_
      dsimp only
      split
      · exact .bind .trivial fun _ _ => .bind .trivial fun _ _ => .bind .trivial fun _ _ =>
          .bind .trivial fun _ _ => .bind .trivial fun _ _ => .pure rfl
      · exact .throw

lemma gatherFlush_eq_ok {db : Db} {records : List MemtableRecord}
    (h : gatherFlush cfg db = .ok records) : records.Perm (memtableRecords cfg db) ∧
      records.length = db.memtable.entryCount := by
  unfold gatherFlush at h
  dsimp only at h
  split_ifs at h with hchecks
  cases h
  push Not at hchecks
  have hperm : (sortMemtableRecords db.namespaces (memtableRecords cfg db)).Perm
      (memtableRecords cfg db) := HeapSort.sortList_perm _ _
  exact ⟨hperm, hperm.length_eq.trans hchecks.2⟩

/-- The manifest behind a flush names the greatest sequence of the memtable. -/
lemma flushedTo {db : Db} {slot : ℕ} {records : List MemtableRecord} {reference : TableReference}
    (hfree : db.manifest.tables slot = none) (hentries : db.memtable.entryCount ≠ 0)
    (hgather : gatherFlush cfg db = .ok records) {b : TableBuild}
    (hcounts : Counts (records.map MemtableRecord.transactionSequence) b)
    (hmax : reference.maxSequence = b.maxSequence) : FlushedTo cfg db slot reference := by
  obtain ⟨hperm, hlength⟩ := gatherFlush_eq_ok hgather
  have hne : records.map MemtableRecord.transactionSequence ≠ [] := fun hnil => by
    rw [List.map_eq_nil_iff] at hnil
    rw [hnil] at hlength
    exact hentries hlength.symm
  refine ⟨hfree, ?_, fun r hr => ?_⟩
  · obtain ⟨r, hr, hsequence⟩ := List.mem_map.mp (hcounts.attained hne).2
    exact ⟨r, hperm.mem_iff.mp hr, hsequence.trans hmax.symm⟩
  · rw [hmax]
    exact (hcounts.within _ (List.mem_map_of_mem (hperm.mem_iff.mpr hr))).2

lemma freeTableSlot_free {m : ManifestRecord} {slot : ℕ} (h : freeTableSlot cfg m = some slot) :
    m.tables slot = none := by
  have hfree := List.find?_some h
  rwa [Option.isNone_iff_eq_none] at hfree

lemma FlushedTo.congr {db db' : Db} {slot : ℕ} {reference : TableReference}
    (h : FlushedTo cfg db slot reference) (hstored : db'.stored = db.stored) :
    FlushedTo cfg db' slot reference := by
  have hmanifest : db'.manifest = db.manifest := congrArg Stored.manifest hstored
  have hmemtable : db'.memtable = db.memtable := congrArg Stored.memtable hstored
  have hrecords : memtableRecords cfg db' = memtableRecords cfg db := by
    unfold memtableRecords
    rw [hmemtable]
  exact ⟨by rw [hmanifest]; exact h.free, by rw [hrecords]; exact h.attained,
    by rw [hrecords]; exact h.greatest⟩

/-- Taking back a flush restores the manifest. -/
lemma flushedManifest_undone {m m' : ManifestRecord} {slot : ℕ} {reference : TableReference}
    (hfree : m.tables slot = none) (h : m' = flushedManifest m slot reference) : { m' with
      tables := Function.update m'.tables slot none
      safeCheckpointSequence := m.safeCheckpointSequence
      nextTableGeneration := m.nextTableGeneration } = m := by
  have htables : Function.update (Function.update m.tables slot (some reference)) slot none =
      m.tables := by
    rw [Function.update_idem, ← hfree, Function.update_eq_self]
  rw [h]
  unfold flushedManifest
  dsimp only
  rw [htables]

lemma triple_flushToSlot_turns {slot : ℕ} {w₀ : World} (hhealthy : w₀.db.storageFaulted = false)
    (hfree : w₀.db.manifest.tables slot = none) (hentries : w₀.db.memtable.entryCount ≠ 0) :
    Triple (· = w₀) (flushToSlot cfg slot) (fun _ => Going cfg w₀) (fun _ => Turns cfg w₀) := by
  have hwriting : ∀ {α : Type} {x : DbM α} {S : Write → Prop}, (∀ w, S w → NoCopy w) →
      Within (Writing Eq S) x → Within Quiet x := fun hS hx w => .of_writing_eq (hx w) hS
  unfold flushToSlot
  refine .bind (Q := fun _ => Quiet w₀) (Triple.modifyDb fun w hw => hw ▸ ⟨rfl, .refl⟩) fun _ =>
    .bind Triple.fetch fun db => .of_pure (p := db.stored = w₀.db.stored)
      (fun w hw => hw.2 ▸ hw.1.stored) fun hdb => ?_
  have hmanifest : db.manifest = w₀.db.manifest := congrArg Stored.manifest hdb
  have hmemtable : db.memtable = w₀.db.memtable := congrArg Stored.memtable hdb
  refine .bind (Q := fun records w => Quiet w₀ w ∧ gatherFlush cfg db = .ok records)
    (Triple.liftResult (fun w _ hw h => ⟨hw.1, h⟩) fun w _ hw _ => .single (.quiet hw.1))
    fun records => .of_pure (fun w hw => hw.2) fun hgather => .pre (S := Quiet w₀) ?_
      fun w hw => hw.1
  have hstart : Counts [] { slot := slot, generation := db.manifest.nextTableGeneration } :=
    ⟨rfl, fun hne => absurd rfl hne, fun s hs => absurd hs List.not_mem_nil⟩
  refine .bind ((triple_quiet (hwriting (fun _ => noCopy_of_table) (within_flushRecords _ _ _))).and_returns
    (returns_flushRecords_counts _ _ hstart)) fun b => .of_pure (fun w hw => hw.2) fun hb =>
      .pre (S := Quiet w₀) ?_ fun w hw => hw.1
  rw [List.nil_append] at hb
  refine .bind ((triple_quiet (hwriting (fun _ => noCopy_of_table)
    (within_finishTableDataBlockUnsafe b))).and_returns
      (returns_finishTableDataBlockUnsafe_counts hb)) fun b₁ => .of_pure (fun w hw => hw.2)
        fun hb₁ => .pre (S := Quiet w₀) ?_ fun w hw => hw.1
  refine .bind ((triple_quiet fun w => .of_writing (within_finishTableUnsafe b₁ _ w)
    fun _ => noCopy_of_table).and_returns (returns_finishTableUnsafe b₁ _)) fun reference =>
      .of_pure (fun w hw => hw.2) fun hmax => .pre (S := Quiet w₀) ?_ fun w hw => hw.1
  -- The publication starts from the state in front of the edit.
  refine .of_state fun w₁ hw₁ => ?_
  have hflushed : FlushedTo cfg w₁.db slot reference :=
    (flushedTo (by rw [hmanifest]; exact hfree) (by rw [hmemtable]; exact hentries) hgather hb₁
      hmax).congr (hw₁.stored.trans hdb.symm)
  have hhealthy₁ : w₁.db.storageFaulted = false :=
    (congrArg Stored.storageFaulted hw₁.stored).trans hhealthy
  have hmanifest₁ : w₁.db.manifest = db.manifest :=
    (congrArg Stored.manifest hw₁.stored).trans hmanifest.symm
  refine .bind (Q := fun _ w => w = w₁.edited (flushedManifest w₁.db.manifest slot reference))
    (Triple.modifyDb fun w hw => by rw [hw]; rfl) fun _ => .bind
    (Q := fun _ => HasPublished w₁ (flushedManifest w₁.db.manifest slot reference) .ready) ?_
      fun _ => Triple.modifyDb fun w hw => ?_
  · rw [← hmanifest₁]
    refine (@triple_publish cfg _ _ _ _ hhealthy₁ (.flushed hflushed) (fun _ => rfl) _ ?_).conseq
      (fun _ hw => hw) (fun _ _ hw => hw) fun _ _ hw => (Relation.ReflTransGen.single
        (.quiet hw₁)).trans hw
    exact fun db' hdb' => congrArg (fun m => { db'.stored with manifest := m })
      (flushedManifest_undone hflushed.free hdb')
  · refine ⟨.tail (.single (.quiet hw₁)) (.published hhealthy₁ (.flushed hflushed) (fun _ => rfl)
      hw.dev ?_), ?_⟩
    · show { w.db.stored with memtable := Memtable.empty } = _
      rw [hw.db]
      rfl
    · show w.db.storageFaulted = false
      rw [hw.db]
      exact hhealthy₁

/-! ## Compactions -/

/-- The merge ends with the greatest sequence that has been committed. -/
lemma triple_mergeTables_sequence {w₀ : World} {destination : Destination} (fuel : ℕ)
    {s : MergeState} (hs : s.output = none) :
    Triple (Merging cfg w₀ destination) (mergeTables cfg destination fuel s)
      (fun s' w => Merging cfg w₀ destination w ∧
        s'.greatestSequence = w₀.db.nextTransactionSequence - 1)
      (fun _ => Merging cfg w₀ destination) := by
  have hplaced : MergePlaced cfg w₀ s := fun output h => by
    rw [hs] at h
    cases h
  unfold mergeTables
  refine .bind (triple_mergeLoop fuel hplaced) fun s₁ => .of_pure (fun w hw => hw.2) fun hs₁ =>
    .bind ((triple_closeLastOutput hs₁).pre fun w hw => hw.1) fun s₂ => ?_
  refine .bind Triple.fetch fun db => .bind (Triple.check fun w hw => hw.1) fun _ =>
    .pure fun w hw => ⟨hw.1.1, ?_⟩
  obtain ⟨⟨hmerging, rfl⟩, hsequence⟩ := hw
  push Not at hsequence
  rw [hsequence, hmerging.db.rest]

/-- Clearing the output tables of a merge restores the manifest. -/
lemma Merging.cleared {w₀ w : World} {destination : Destination}
    (h : Merging cfg w₀ destination w)
    (hfree : ∀ slot ∈ outputSlots cfg w₀, w₀.db.manifest.tables slot = none) :
    clearOutputTables cfg w.db.manifest = w₀.db.manifest := by
  have htables : (fun slot => if slot ∈ bankSlots cfg (On9kvdb.outputStart cfg w.db.manifest) then none
      else w.db.manifest.tables slot) = w₀.db.manifest.tables := by
    funext slot
    rw [h.outputStart]
    split_ifs with hslot
    · exact (hfree slot hslot).symm
    · exact h.db.tables slot hslot
  unfold clearOutputTables
  rw [htables, h.db.rest]

lemma Merging.quiet {w₀ w : World} {destination : Destination} (h : Merging cfg w₀ destination w)
    (hfree : ∀ slot ∈ outputSlots cfg w₀, w₀.db.manifest.tables slot = none) :
    Quiet w₀ { w with db := { w.db with manifest := clearOutputTables cfg w.db.manifest } } := by
  refine ⟨?_, h.dev.mono fun _ => noCopy_of_output⟩
  rw [h.cleared hfree, h.db.rest]
  rfl

/-- The manifest of a finished merge is that of a compaction. -/
lemma Merging.compacted {w₀ w : World} {destination : Destination}
    (h : Merging cfg w₀ destination w) {s : MergeState}
    (hs : s.greatestSequence = w₀.db.nextTransactionSequence - 1) (tail : ℕ) {db : Db}
    (hdb : db.stored = w₀.db.stored) :
    Compacted db (compactedManifest cfg w.db.manifest destination s tail) := by
  have hmanifest : db.manifest = w₀.db.manifest := congrArg Stored.manifest hdb
  have hnext : db.nextTransactionSequence = w₀.db.nextTransactionSequence :=
    congrArg Stored.nextTransactionSequence hdb
  have hmerged : w.db.manifest = { w₀.db.manifest with tables := w.db.manifest.tables } := by
    rw [h.db.rest]
  refine ⟨?_, ?_⟩
  · rw [hmanifest, hnext, ← hs]
    unfold compactedManifest
    dsimp only
    rw [hmerged]
  · rw [hmanifest]
    show _ ≤ w.db.manifest.nextTableGeneration + s.outputCount
    rw [hmerged]
    exact Nat.le_add_right _ _

section
variable {w₁ : World} {M : ManifestRecord}

/-- A publication of `M` has failed: at most quiet steps have happened, or the fault is latched. -/
def Unpublished (w₁ : World) (M : ManifestRecord) (w : World) : Prop :=
  ∃ v, Quiet w₁ v ∧ (w = v.edited M ∨
    FailedOn v.dev w.dev M .ready ∧ w.db = { v.db with manifest := M, storageFaulted := true })

/-- The publication of a compaction, behind the sync of what it has written. -/
lemma triple_publishCompacted :
    Triple (fun w => ∃ v, Quiet w₁ v ∧ w = v.edited M)
      (do
        syncStorage
        let db ← getDb
        writeManifestCopy (db.manifest.generation + 1) .ready)
      (fun _ w => ∃ v, Quiet w₁ v ∧ HasPublished v M .ready w) (fun _ => Unpublished w₁ M) := by
  refine .of_exists fun v => .of_pure (fun _ hw => hw.1) fun hv =>
    .pre (S := (· = v.edited M)) ?_ fun _ hw => hw.2
  obtain ⟨v', hv'⟩ : ∃ v' : World, v' = { v with dev := v.dev.sync.2 } := ⟨_, rfl⟩
  have hquiet : Quiet w₁ v' := trans_of Quiet hv (hv' ▸ ⟨rfl, .sync .refl⟩)
  refine .bind (Q := fun _ w => w = v'.edited M) (fun w hw => ?_) fun _ =>
    .bind Triple.fetch fun db => .of_pure (p := db.manifest = M)
      (fun w hw => by rw [← hw.2, hw.1]; rfl) fun hdb => ?_
  · subst hw
    rw [exec_syncStorage, hv']
    split_ifs
    · rfl
    · exact ⟨v', hquiet, .inl (by rw [hv']; rfl)⟩
  · rw [hdb]
    refine (triple_writeManifestCopy_outcome (v'.edited M) _ _).conseq (fun _ hw => hw.1)
      (fun _ w hw => ?_) fun _ w hw => ?_
    · obtain ⟨h, hfault, hsynced, rfl⟩ := hw
      exact ⟨v', hquiet, ⟨h, hfault, hsynced, rfl⟩, rfl⟩
    · rcases hw with ⟨rfl, -⟩ | ⟨h, hdb, hfailed⟩
      · exact ⟨v', hquiet, .inl rfl⟩
      · exact ⟨v', hquiet, .inr ⟨⟨h, hfailed⟩, hdb⟩⟩

end

/-- Behind a failed publication the manifest of before is put back, its output tables cleared. -/
lemma Unpublished.turns {w₀ w₁ w w' : World} {M : ManifestRecord} (h : Unpublished w₁ M w)
    (hw₁ : Quiet w₀ w₁) (hhealthy : w₀.db.storageFaulted = false)
    (hcompacted : ∀ db : Db, db.stored = w₁.db.stored → Compacted db M)
    (hw' : w' = w.edited w₁.db.manifest) : Turns cfg w₀ w' := by
  obtain ⟨v, hv, rfl | ⟨hfailed, hdb⟩⟩ := h
  · have hsame : (v.edited M).edited w₁.db.manifest = v := by
      rw [show w₁.db.manifest = v.db.manifest from (congrArg Stored.manifest hv.stored).symm]
      rfl
    rw [hw', hsame]
    exact .single (.quiet (trans_of Quiet hw₁ hv))
  · have hhealthy' : v.db.storageFaulted = false :=
      (congrArg Stored.storageFaulted (hv.stored.trans hw₁.stored)).trans hhealthy
    refine .tail (.single (.quiet (trans_of Quiet hw₁ hv)))
      (.failed hhealthy' (.compacted (hcompacted v.db hv.stored)) (fun _ => rfl) (hw' ▸ hfailed) ?_)
    rw [hw']
    show { w.db.stored with manifest := w₁.db.manifest } = _
    rw [hdb, show w₁.db.manifest = v.db.manifest from (congrArg Stored.manifest hv.stored).symm]
    rfl

/-- **A compaction is a publication and a stabilization**, or takes back what it has done. -/
theorem progresses_compactTablesUnsafe : Progresses cfg (compactTablesUnsafe cfg) := by
  refine .of_triple fun w₀ hhealthy => ?_
  unfold compactTablesUnsafe
  refine .bind Triple.fetch fun db => .of_pure (fun w hw => hw.2 ▸ congrArg World.db hw.1) ?_
  rintro rfl
  refine .pre (S := Quiet w₀) ?_ fun w hw => hw.1 ▸ refl_of Quiet _
  refine .bind (triple_quiet Within.liftResult) fun _ => ?_
  refine .bind (triple_quiet fun w => .of_caching (within_validateTables _ w)) fun _ => ?_
  refine .bind (Triple.check fun w hw => .single (.quiet hw)) fun _ =>
    .of_pure (fun w hw => hw.2) fun hchecked => .pre (S := Quiet w₀) ?_ fun w hw => hw.1
  have hfree : ∀ slot ∈ outputSlots cfg w₀, w₀.db.manifest.tables slot = none :=
    fun slot hslot => by
      by_contra hsome
      exact hchecked (List.any_eq_true.mpr ⟨slot, hslot, Option.isSome_iff_ne_none.mpr hsome⟩)
  refine .bind (triple_quiet Within.liftResult) fun pending => ?_
  refine .bind (triple_quiet fun w => .of_caching (.of_reading (within_loadCursors _ w))) fun cursors => ?_
  obtain ⟨destination, hdestination⟩ : ∃ d : Destination, d =
    ⟨1 - w₀.db.manifest.activeValueBank,
      w₀.db.manifest.valueBankGeneration (1 - w₀.db.manifest.activeValueBank) + 1⟩ := ⟨_, rfl⟩
  dsimp only
  rw [← hdestination]
  refine .of_state fun w₁ hw₁ => ?_
  have hmanifest : w₁.db.manifest = w₀.db.manifest := congrArg Stored.manifest hw₁.stored
  rw [show outputSlots cfg w₀ = outputSlots cfg w₁ by unfold outputSlots; rw [hmanifest],
    ← hmanifest] at hfree
  refine .bind (Q := fun r w => Merging cfg w₁ destination w ∧
      r.1.greatestSequence = w₁.db.nextTransactionSequence - 1)
    (Triple.onError (F := fun _ => Merging cfg w₁ destination)
      (.bind ((triple_mergeTables_sequence _ rfl).pre fun w hw => by
          rw [hw]; exact refl_of (Writing _ _) w₁)
        fun s => .of_pure (fun w hw => hw.2) fun hs => .bind ((triple_merging fun w =>
          (within_relocateStaged destination _ _ w).mono (fun _ _ h => h) fun _ h => Or.inr h).pre
            fun w hw => hw.1) fun r => .pure fun w hw => ⟨hw, hs⟩) fun _ => ?_) fun r => ?_
  · exact Triple.modifyDb fun w hw => .single (.quiet (trans_of Quiet hw₁ (hw.quiet hfree)))
  obtain ⟨s, staged, tail⟩ := r
  refine .of_state fun w₂ hw₂ => ?_
  obtain ⟨hmerging, hs⟩ := hw₂
  have hquiet : Quiet w₁ (w₂.edited w₁.db.manifest) := by
    rw [← hmerging.cleared hfree]
    exact hmerging.quiet hfree
  have hcompacted : ∀ db : Db, db.stored = w₁.db.stored →
      Compacted db (compactedManifest cfg w₂.db.manifest destination s tail) := fun db hdb =>
    hmerging.compacted hs tail hdb
  obtain ⟨M, hM⟩ : ∃ M, M = compactedManifest cfg w₂.db.manifest destination s tail := ⟨_, rfl⟩
  rw [← hM] at hcompacted
  refine .bind Triple.fetch fun previous => .of_pure (fun w hw => hw.2 ▸ congrArg World.db hw.1) ?_
  rintro rfl
  refine .bind (Q := fun _ w => ∃ v, Quiet w₁ v ∧ w = v.edited M)
    (Triple.modifyDb fun w hw => ⟨_, hquiet, by rw [hw.1, hM]; rfl⟩) fun _ => ?_
  refine .bind (Triple.onError (F := fun _ => Unpublished w₁ M) triple_publishCompacted fun _ => ?_)
    fun _ => ?_
  · -- The manifest of the merge is put back and cleared, which is the manifest of before.
    refine .bind (Q := fun _ w => ∃ v, Unpublished w₁ M v ∧ w = v.edited w₂.db.manifest)
      (Triple.modifyDb fun w hw => ⟨w, hw, rfl⟩) fun _ => Triple.modifyDb fun w hw => ?_
    obtain ⟨v, hv, rfl⟩ := hw
    refine hv.turns hw₁ hhealthy hcompacted ?_
    rw [show w₁.db.manifest = clearOutputTables cfg w₂.db.manifest from
      (hmerging.cleared hfree).symm]
    rfl
  · refine .bind (Q := fun _ => Going cfg w₀) (Triple.modifyDb fun w hw => ?_) fun _ => ?_
    · obtain ⟨v, hv, hpublished⟩ := hw
      have hhealthy' : v.db.storageFaulted = false :=
        (congrArg Stored.storageFaulted (hv.stored.trans hw₁.stored)).trans hhealthy
      refine ⟨.tail (.single (.quiet (trans_of Quiet hw₁ hv))) (.published hhealthy'
        (.compacted (hcompacted v.db hv.stored)) (fun _ => rfl) hpublished.dev ?_), ?_⟩
      · show { w.db.stored with memtable := Memtable.empty } = _
        rw [hpublished.db]
        rfl
      · show w.db.storageFaulted = false
        rw [hpublished.db]
        exact hhealthy'
    · have haccount : Within Quiet (modifyDb fun db => accountCompaction cfg db s
          (inputRecordBytes cfg w₀.db pending)) := quiet_modifyDb fun _ => rfl
      exact Progresses.bind (.onError progresses_stabilizeManifestUnsafe haccount)
        (fun _ => .of_quiet haccount) w₀

lemma progresses_flushMemtableUnsafe : Progresses cfg (flushMemtableUnsafe cfg) := by
  refine .of_triple fun w₀ hhealthy => ?_
  have hstay : Going cfg w₀ w₀ := ⟨.refl, hhealthy⟩
  unfold flushMemtableUnsafe
  refine .bind Triple.fetch fun db => .of_pure (fun w hw => hw.2 ▸ congrArg World.db hw.1) ?_
  rintro rfl
  refine .pre (S := (· = w₀)) (.ite (fun hentries => ?_) fun _ => .pure fun w hw => hw ▸ hstay)
    fun w hw => hw.1
  refine .bind (Q := fun _ => (· = w₀)) (Triple.failIf (fun w hw _ => hw)
    fun w hw _ => hw ▸ .refl) fun _ => ?_
  cases hslot : freeTableSlot cfg w₀.db.manifest with
  | none => exact (progresses_compactTablesUnsafe w₀).pre fun w hw => hw ▸ hstay
  | some slot =>
      exact triple_flushToSlot_turns hhealthy (freeTableSlot_free hslot) (by omega)

/-! ## The log -/

lemma quiet_ensureWalHeader (slot generation first : ℕ) :
    Within Quiet (ensureWalHeader cfg slot generation first) := by
  unfold ensureWalHeader
  refine .bind Within.failIf fun _ => .bind Within.getDb fun db => ?_
  cases encodeWalHeader db.manifest.databaseId generation first slot cfg.geometry.walSize with
  | none => exact .throw
  | some header =>
      exact .bind (quiet_writeStorage trivial) fun _ =>
        .bind (quiet_writeStorage trivial) fun _ => quiet_syncStorage

/-- A rotation that is not blocked turns to a slot without a generation. -/
lemma unreferenced_of_rotation {m : ManifestRecord} (h : ¬rotationBlocked m = true) :
    m.walGeneration (1 - m.activeWalSlot) = 0 := by
  by_contra hne
  refine h ?_
  unfold rotationBlocked
  simp [hne]

lemma progresses_rotateWalUnsafe : Progresses cfg (rotateWalUnsafe cfg) := by
  refine .of_triple fun w₀ hhealthy => ?_
  unfold rotateWalUnsafe
  refine .bind Triple.fetch fun db => .of_pure (fun w hw => hw.2 ▸ congrArg World.db hw.1) ?_
  rintro rfl
  refine .pre (S := (· = w₀)) ?_ fun w hw => hw.1
  refine .bind (Triple.check fun w hw => hw ▸ .refl) fun _ => .of_pure (fun w hw => hw.2) fun hfree =>
    .pre (S := fun w => Going cfg w₀ w ∧ w = w₀) ?_ fun w hw => by
      rw [hw.1]; exact ⟨⟨.refl, hhealthy⟩, rfl⟩
  replace hfree := unreferenced_of_rotation hfree
  refine .bind ((progresses_stabilizeManifestUnsafe w₀).both
    (within_stabilizeManifestUnsafe.triple (P := (· = w₀)) (Q := fun _ => Publishing w₀)
      (E := fun _ => Publishing w₀) (fun w w' _ hw h => hw ▸ h) fun w w' _ hw h => hw ▸ h)
        |>.conseq (fun _ hw => hw) (fun _ _ hw => hw) fun _ _ hw => hw.1) fun _ => ?_
  refine .of_state fun w₁ hw₁ => ?_
  obtain ⟨hgoing, hpublishing⟩ := hw₁
  have hactive : w₀.db.manifest.activeWalSlot = w₁.db.manifest.activeWalSlot := by
    rw [hpublishing.db]
  have hfree₁ : w₁.db.manifest.walGeneration (1 - w₁.db.manifest.activeWalSlot) = 0 := by
    rw [hpublishing.db]
    exact hfree
  dsimp only
  rw [hactive]
  -- From here on everything is followed from the stabilized manifest.
  suffices hrest : Triple (· = w₁) _ (fun _ => Going cfg w₁) (fun _ => Turns cfg w₁) from
    hrest.conseq (fun _ hw => hw) (fun _ _ hw => ⟨hgoing.1.trans hw.1, hw.2⟩)
      fun _ _ hw => hgoing.1.trans hw
  refine .bind ((triple_quiet (quiet_ensureWalHeader _ _ _)).pre
    fun w hw => hw ▸ refl_of Quiet w₁) fun _ => .of_state fun w₂ hw₂ => ?_
  obtain ⟨generation, hgeneration⟩ : ∃ g, g = w₀.db.manifest.walGeneration
    w₁.db.manifest.activeWalSlot + 1 := ⟨_, rfl⟩
  rw [← hgeneration]
  have hmanifest : w₁.db.manifest = w₂.db.manifest :=
    (congrArg Stored.manifest hw₂.stored).symm
  have hhealthy₂ : w₂.db.storageFaulted = false :=
    (congrArg Stored.storageFaulted hw₂.stored).trans hgoing.2
  rw [hmanifest] at hfree₁ ⊢
  obtain ⟨rotated, hrotated⟩ : ∃ m, m = { w₂.db.manifest with
      activeWalSlot := 1 - w₂.db.manifest.activeWalSlot
      walGeneration := Function.update w₂.db.manifest.walGeneration
        (1 - w₂.db.manifest.activeWalSlot) generation } := ⟨_, rfl⟩
  have hedit : Edit cfg w₂.db rotated w₂.db.memtable := hrotated ▸ .rotated _
  refine .bind (Q := fun _ => (· = w₂.edited rotated)) (Triple.modifyDb fun w hw => by
    rw [hw, hrotated]; rfl) fun _ => .bind Triple.fetch fun db =>
      .of_pure (p := db.manifest = rotated) (fun w hw => by rw [← hw.2, hw.1]; rfl) fun hdb =>
        .pre (S := (· = w₂.edited rotated)) ?_ fun w hw => hw.1
  rw [hdb]
  refine .bind (Q := fun _ => HasPublished w₂ rotated .ready)
    ((triple_publish hhealthy₂ hedit (fun _ => rfl) fun db hdb => ?_).conseq (fun _ hw => hw)
      (fun _ _ hw => hw) fun _ _ hw => (Relation.ReflTransGen.single (.quiet hw₂)).trans hw)
    fun _ => .bind (Q := fun _ => Going cfg w₁) (Triple.modifyDb fun w hw => ?_) fun _ =>
      progresses_stabilizeManifestUnsafe w₁
  · unfold Db.stored
    dsimp only
    rw [hdb, hrotated]
    dsimp only
    rw [Function.update_idem, ← hfree₁, Function.update_eq_self]
  · refine ⟨.tail (.single (.quiet hw₂)) (.published hhealthy₂ hedit (fun _ => rfl) hw.dev ?_), ?_⟩
    · show w.db.stored = _
      rw [hw.db]
      rfl
    · show w.db.storageFaulted = false
      rw [hw.db]
      exact hhealthy₂

lemma progresses_makeWalRoom (transactionBytes : ℕ) :
    Progresses cfg (makeWalRoom cfg transactionBytes) := by
  unfold makeWalRoom releaseOlderLog
  refine .bind .getDb fun db => .ite (.bind ?_ fun _ =>
    .bind progresses_rotateWalUnsafe fun _ => .pure) .pure
  exact .bind .getDb fun db => .ite (.bind progresses_compactTablesUnsafe fun _ => .pure)
    (.ite (.bind progresses_flushMemtableUnsafe fun _ => .pure) .pure)

lemma quiet_writeFrames (namespaceName : Bytes) (mutations : List Mutation) (slot tail : ℕ)
    (g : FrameGroup) (remaining frameIndex : ℕ) :
    Within Quiet (writeFrames namespaceName mutations slot tail g remaining frameIndex) := by
  induction remaining generalizing frameIndex with
  | zero => exact .pure
  | succ remaining ih =>
      unfold writeFrames
      refine .bind Within.liftResult fun payload => ?_
      cases encodeWalFrame g frameIndex payload with
      | none => exact .throw
      | some frame => exact .bind (quiet_writeStorage trivial) fun _ => ih _

/-- **An append makes room and writes its frames**, which the stored state does not see. -/
theorem progresses_appendTransactionUnsafe (namespaceName : Bytes) :
    Progresses cfg (appendTransactionUnsafe cfg namespaceName) := by
  unfold appendTransactionUnsafe
  refine .bind .getDb fun db => .bind .failIf fun _ => ?_
  refine .bind progresses_stabilizeManifestUnsafe fun _ => .bind .liftResult fun size => ?_
  refine .bind (progresses_makeWalRoom _) fun moved => ?_
  refine .bind .getDb fun db => .bind .failIf fun _ => .bind ?_ fun checksum => ?_
  · unfold refreshChecksum
    exact .ite (.bind .getDb fun _ => .bind .liftResult fun _ => .bind .failIf fun _ => .pure) .pure
  · exact .of_quiet (.bind (quiet_writeFrames _ _ _ _ _ _ _) fun _ => .bind quiet_syncStorage
      fun _ => quiet_modifyDb fun _ => rfl)

end On9kvdb
