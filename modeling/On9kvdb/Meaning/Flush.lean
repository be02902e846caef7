import On9kvdb.Meaning.Builder

/-!
# A flush keeps the contents

`flush_memtable_unsafe` moves the records of the memtable to a new table.  The versions of the
database are the same before and after it, so every key keeps its meaning; and a flush that fails
leaves everything as it was.
-/

namespace On9kvdb

open Exceptional Versions

variable {cfg : Config} {w w' w₀ w₁ : World} {c : CompositeKey → Option Bytes} {staging : Staging}
  {slot : ℕ} {reference : TableReference} {entries : List TableEntry} {b : TableBuild}

/-! ## The records -/

/-- A record of the memtable as a version. -/
def recordVersion (namespaces : List Bytes) (r : MemtableRecord) : StoreVersion :=
  ⟨recordKey namespaces r, r.transactionSequence, r.value⟩

lemma version_encodeTableEntry {blockLen offset sequence : ℕ} {key : CompositeKey} {v : StoredValue}
    {e : TableEntry} (h : encodeTableEntry blockLen offset sequence key v = some e) :
    e.version = ⟨key, sequence, v⟩ := by
  unfold encodeTableEntry at h
  dsimp only at h
  split_ifs at h
  cases h
  rfl

/-- **The records become the entries of the table.** -/
lemma triple_flushRecords_built (namespaces : List Bytes) (records : List MemtableRecord) :
    Triple (fun w => Built cfg w.dev.current b entries) (flushRecords cfg namespaces records b)
      (fun b' w => ∃ new, Built cfg w.dev.current b' (entries ++ new) ∧
        new.map TableEntry.version = records.map (recordVersion namespaces))
      (fun _ _ => True) := by
  induction records generalizing b entries with
  | nil => exact .pure fun w hw => ⟨[], by rwa [List.append_nil], rfl⟩
  | cons record rest ih =>
      unfold flushRecords
      refine .bind (triple_closeFullBlock_built _) fun b₁ => ?_
      cases hstart : startDataBlock cfg b₁ (recordKey namespaces record)
        record.transactionSequence with
      | none => exact .throw fun _ _ => trivial
      | some b₂ =>
          dsimp only
          cases hentry : encodeTableEntry cfg.blockBytes (tableBlockHeaderSize + b₂.dataPayloadSize)
            record.transactionSequence (recordKey namespaces record) record.value with
          | none => exact .throw fun _ _ => trivial
          | some entry =>
              refine ih.conseq (fun w hw => (hw.startDataBlock hstart).addEntry entry)
                (fun b' w hw => ?_) fun _ _ _ => trivial
              obtain ⟨new, hbuilt, hnew⟩ := hw
              refine ⟨entry :: new, by rwa [List.append_cons], ?_⟩
              rw [List.map_cons, List.map_cons, version_encodeTableEntry hentry, hnew]
              rfl

/-- The records of the memtable are its versions. -/
lemma mem_memtableVersions_iff {db : Db} {records : List MemtableRecord}
    (hgather : gatherFlush cfg db = .ok records) {v : StoreVersion} :
    v ∈ memtableVersions cfg db ↔ v ∈ records.map (recordVersion db.namespaces) := by
  obtain ⟨hperm, -⟩ := gatherFlush_eq_ok hgather
  rw [List.mem_map]
  constructor
  · rintro ⟨r, hr, rfl⟩
    exact ⟨r, hperm.mem_iff.mpr (mem_memtableRecords.mpr hr), rfl⟩
  · rintro ⟨r, hr, rfl⟩
    exact ⟨r, mem_memtableRecords.mp (hperm.mem_iff.mp hr), rfl⟩

/-! ## The table in place of the memtable -/

/-- The inactive bank holds nothing of the contents. -/
lemma elsewhere_of_inBank {m : ManifestRecord} {v : StoredValue}
    (h : valueInActiveBank cfg m v = true) : Elsewhere v.ref? (1 - m.activeValueBank) := by
  intro r hr
  rw [valueInActiveBank_eq, Option.all_eq_true] at h
  have hmatch := h r hr
  unfold valueRefMatchesBankUnsafe at hmatch
  simp only [Bool.and_eq_true, decide_eq_true_eq, beq_iff_eq] at hmatch
  have hslot : r.bankSlot = m.activeValueBank := hmatch.1.1.1.2
  omega

/-- The state whose memtable has become the table of `reference`. -/
def World.flushedTo (w₀ w₁ : World) (slot : ℕ) (reference : TableReference) : World :=
  { w₁ with db := { w₁.db with
      manifest := flushedManifest w₀.db.manifest slot reference
      memtable := .empty } }

variable (cfg) in
/-- A table with the records of the memtable stands in a free slot of the active bank. -/
structure FlushBuilt (w₀ w₁ : World) (slot : ℕ) (reference : TableReference)
    (entries : List TableEntry) : Prop where
  lies : slot ∈ bankSlots cfg (inputStart cfg w₀.db.manifest)
  flushed : FlushedTo cfg w₀.db slot reference
  aside : BuildsAside SameButCaches [slot] (1 - w₀.db.manifest.activeValueBank) w₀ w₁
  own : reference.slot = slot
  finished : Finished cfg reference entries w₁
  records : ∀ v, (∃ e ∈ entries, v = e.version) ↔ v ∈ memtableVersions cfg w₀.db

namespace FlushBuilt

variable (h : FlushBuilt cfg w₀ w₁ slot reference entries)
include h

lemma retained : Retained cfg w₀.db.manifest w₀ w₁ :=
  h.aside.weaken.retained (fun s hs => by rw [List.mem_singleton.mp hs]; exact h.flushed.free)
    fun _ hv => elsewhere_of_inBank hv

/-- **The versions are the same.** -/
lemma versions (hsound : TablesSound cfg w₀.db w₀.dev.current) :
    (w₀.flushedTo w₁ slot reference).versions cfg = w₀.versions cfg := by
  have hempty : memtableVersions cfg (w₀.flushedTo w₁ slot reference).db = ∅ := by
    ext v
    refine ⟨?_, fun hv => absurd hv (Set.notMem_empty v)⟩
    rintro ⟨r, ⟨b, -, hb⟩, -⟩
    cases hb
  have hold : ∀ s r, w₀.db.manifest.tables s = some r → s ≠ slot ∧
      storedEntries cfg w₁.dev.current r = storedEntries cfg w₀.dev.current r := by
    intro s r hr
    have hactive : w₀.db.manifest.tables s ≠ none := by
      rw [hr]
      exact Option.some_ne_none _
    refine ⟨fun heq => hactive (heq ▸ h.flushed.free), storedEntries_congr ?_⟩
    rw [(hsound.table s r hr).own]
    exact (h.retained.active s hactive).blocks
  unfold World.versions
  rw [hempty, Set.union_empty]
  ext v
  constructor
  · rintro ⟨s, r, htable, e, he, rfl⟩
    have htable' : Function.update w₀.db.manifest.tables slot (some reference) s = some r := htable
    by_cases hs : s = slot
    · rw [hs, Function.update_self] at htable'
      cases htable'
      have hmem : e ∈ storedEntries cfg w₁.dev.current reference := he
      rw [h.finished.stored] at hmem
      exact .inr ((h.records _).mp ⟨e, hmem, rfl⟩)
    · rw [Function.update_of_ne hs] at htable'
      have hmem : e ∈ storedEntries cfg w₁.dev.current r := he
      rw [(hold s r htable').2] at hmem
      exact .inl ⟨s, r, htable', e, hmem, rfl⟩
  · rintro (⟨s, r, htable, e, he, rfl⟩ | hv)
    · obtain ⟨hs, hentries⟩ := hold s r htable
      rw [← hentries] at he
      exact ⟨s, r, (Function.update_of_ne hs _ _).trans htable, e, he, rfl⟩
    · obtain ⟨e, he, rfl⟩ := (h.records v).mpr hv
      rw [← h.finished.stored] at he
      exact ⟨slot, reference, Function.update_self .., e, he, rfl⟩

/-- **A flushed database holds the same.** -/
lemma holding (hholding : Holding cfg c staging w₀) (hsound : Sound cfg w₀.db)
    (hordered : Ordered cfg w₀.db.stored) :
    Holding cfg c staging (w₀.flushedTo w₁ slot reference) := by
  have hstore := hholding.serves.store
  have hversions := h.versions hstore.tables
  have hcheckpoint := (h.flushed.checkpoint hordered).1.le
  have hdatabase : SameDatabase w₀.db.manifest (w₀.flushedTo w₁ slot reference).db.manifest :=
    ⟨rfl, rfl⟩
  -- The edit in memory is the last step.
  have hretained : Retained cfg w₀.db.manifest w₀ { w₁ with db := { w₁.db with
      manifest := flushedManifest w₀.db.manifest slot reference } } :=
    trans_of (Retained cfg _) h.retained (.of_edit rfl)
  have hsame : ∀ s, w₀.db.manifest.tables s ≠ none →
      SameTable cfg s w₀ (w₀.flushedTo w₁ slot reference) := fun s hs =>
    ⟨(h.retained.active s hs).blocks, (h.retained.active s hs).served⟩
  refine ⟨⟨⟨⟨fun s r htable => ?_, ?_⟩, ?_, smallRecords_empty⟩, fun key => ?_⟩, ?_⟩
  · have htable' : Function.update w₀.db.manifest.tables slot (some reference) s = some r := htable
    by_cases hs : s = slot
    · rw [hs, Function.update_self] at htable'
      cases htable'
      obtain ⟨hstored, hserves, hrange, hsequences⟩ := h.finished
      have hmem : ∀ e ∈ storedEntries cfg w₁.dev.current reference, ∃ record,
          w₀.db.memtable.Has cfg record ∧ e.value = record.value := fun e he => by
        rw [hstored] at he
        obtain ⟨record, hrecord, hversion⟩ := (h.records _).mp ⟨e, he, rfl⟩
        exact ⟨record, hrecord, congrArg Version.value hversion⟩
      refine ⟨by rw [hs]; exact h.own, by rw [hs]; exact h.lies, hserves.1, hserves.2, ?_, ?_, le_rfl,
        fun e he => ?_, fun e he => ?_⟩
      · intro e he
        exact hrange e (by rw [← hstored]; exact he)
      · intro e he
        exact hsequences e (by rw [← hstored]; exact he)
      · obtain ⟨record, ⟨bucket, -, hbucket⟩, hvalue⟩ := hmem e he
        rw [hvalue]
        exact hstore.small bucket record hbucket
      · obtain ⟨record, hrecord, hvalue⟩ := hmem e he
        rw [hvalue]
        exact (hsound.memtable.registered hrecord).2.2
    · rw [Function.update_of_ne hs] at htable'
      have hactive : w₀.db.manifest.tables s ≠ none := by
        rw [htable']
        exact Option.some_ne_none _
      exact (hstore.tables.table s r htable').keep (hsame s hactive) rfl hcheckpoint fun _ hv => hv
  · have hunambiguous := hstore.unambiguous hsound hordered
    rw [← hversions] at hunambiguous
    exact hunambiguous.subset Set.subset_union_left
  · have hnames : (w₀.flushedTo w₁ slot reference).db.namespaces = w₀.db.namespaces :=
      h.retained.namespaces
    rw [hnames]
    exact hstore.names
  · rw [hversions]
    exact (hholding.serves.meaning key).mono fun v hv _ =>
      h.retained.denotes hdatabase (hstore.inBank hsound hv)
  · have hstages := hholding.stages.retained hsound hretained hdatabase
    exact ⟨hstages.means, hstages.small⟩

end FlushBuilt

/-! ## The method -/

/-- Emptying the memtable on both sides keeps a state undisturbed. -/
lemma Undisturbed.emptied {w₂ w₃ : World} (h : Undisturbed cfg w₂ w₃) (stats : Stats) :
    Undisturbed cfg { w₂ with db := { w₂.db with memtable := .empty } }
      { w₃ with db := { w₃.db with memtable := .empty, stats := stats } } := by
  obtain ⟨htables, htableBank, hcheckpoint, hdatabase, hinBank, hrest⟩ := h
  exact ⟨htables, htableBank, hcheckpoint, hdatabase, hinBank, rfl, hrest.namespaces, hrest.staged,
    fun slot hslot => ⟨(hrest.active slot hslot).blocks, (hrest.active slot hslot).served⟩,
    hrest.values⟩

lemma Sound.flushedTo (h : Sound cfg w₀.db) (hdb : SameButCaches w₀.db w₁.db) :
    Sound cfg (w₀.flushedTo w₁ slot reference).db := by
  unfold World.flushedTo
  rw [hdb]
  exact ⟨memtableSound_empty rfl, h.registry, ⟨h.staged.keys, h.staged.valid, h.staged.inBank,
    h.staged.idle⟩, h.writer⟩

lemma freeTableSlot_lies {m : ManifestRecord} (h : freeTableSlot cfg m = some slot) :
    slot ∈ bankSlots cfg (inputStart cfg m) := List.mem_of_find?_eq_some h

/-- Behind a failed publication the table is forgotten. -/
lemma FlushBuilt.undone {w₃ : World} (h : FlushBuilt cfg w₀ w₁ slot reference entries)
    (hpublished : Undisturbed cfg (w₁.edited (flushedManifest w₀.db.manifest slot reference)) w₃)
    {m : ManifestRecord} (hm : m = { w₃.db.manifest with
      tables := Function.update w₃.db.manifest.tables slot none
      safeCheckpointSequence := w₀.db.manifest.safeCheckpointSequence
      nextTableGeneration := w₀.db.manifest.nextTableGeneration }) :
    Undisturbed cfg w₀ (w₃.edited m) := by
  obtain ⟨htables, htableBank, -, hdatabase, hinBank, hrest⟩ := hpublished
  have hplace : m.bankPlace = w₃.db.manifest.bankPlace := by
    rw [hm]
    rfl
  have hothers : ∀ s, w₀.db.manifest.tables s ≠ none →
      Function.update w₀.db.manifest.tables slot (some reference) s ≠ none := fun s hs => by
    have hne : s ≠ slot := fun heq => hs (by rw [heq]; exact h.flushed.free)
    rw [Function.update_of_ne hne]
    exact hs
  have hedited : Retained cfg w₀.db.manifest w₀
      (w₁.edited (flushedManifest w₀.db.manifest slot reference)) :=
    trans_of (Retained cfg _) h.retained (.of_edit rfl)
  have hretained : Retained cfg w₀.db.manifest w₀ w₃ :=
    trans_of (Retained cfg _) hedited (hrest.of_manifest hothers fun _ hv => hv)
  refine ⟨?_, ?_, ?_, ?_, fun v hv => ?_, trans_of (Retained cfg _) hretained (.of_edit rfl)⟩
  · show m.tables = w₀.db.manifest.tables
    rw [hm]
    dsimp only
    rw [htables]
    show Function.update (Function.update w₀.db.manifest.tables slot (some reference)) slot none = _
    rw [Function.update_idem, ← h.flushed.free, Function.update_eq_self]
  · show m.activeTableBank = _
    rw [hm]
    exact htableBank
  · show m.safeCheckpointSequence = _
    rw [hm]
  · show SameDatabase w₀.db.manifest m
    rw [hm]
    exact ⟨hdatabase.databaseId, hdatabase.geometry⟩
  · show valueInActiveBank cfg m v = true
    rw [valueInActiveBank_congr hplace]
    exact hinBank v hv

/-- **A flush keeps the contents**, whether it succeeds or not. -/
theorem triple_flushToSlot_holding (hholding : Holding cfg c staging w₀) (hsound : Sound cfg w₀.db)
    (hordered : Ordered cfg w₀.db.stored) (hlies : slot ∈ bankSlots cfg (inputStart cfg w₀.db.manifest))
    (hfree : w₀.db.manifest.tables slot = none) (hentries : w₀.db.memtable.entryCount ≠ 0) :
    Triple (· = w₀) (flushToSlot cfg slot) (fun _ => Holding cfg c staging)
      (fun _ => Holding cfg c staging) := by
  obtain ⟨bank, hbank⟩ : ∃ bank, bank = 1 - w₀.db.manifest.activeValueBank := ⟨_, rfl⟩
  have hmine : slot ∈ [slot] := List.mem_singleton_self slot
  have hkeep : ∀ {α : Type} {x : DbM α}, Within (BuildsAside SameButCaches [slot] bank) x →
      Triple (BuildsAside SameButCaches [slot] bank w₀) x
        (fun _ => BuildsAside SameButCaches [slot] bank w₀)
        (fun _ => BuildsAside SameButCaches [slot] bank w₀) := fun hx =>
    hx.invariant fun _ _ => trans_of (BuildsAside SameButCaches [slot] bank)
  have hinto : ∀ {s : ℕ}, s = slot → ∀ write, IntoTable s write → IntoOutput [slot] bank write :=
    fun hs write hwrite => .inl ⟨slot, hmine, hs ▸ hwrite⟩
  -- Until the publication only the free slot is written.
  have hback : ∀ w, BuildsAside SameButCaches [slot] bank w₀ w → Holding cfg c staging w :=
    fun w hw => hholding.undisturbed hsound (hw.undisturbed
      (fun s hs => by rw [List.mem_singleton.mp hs]; exact hfree)
      fun v hv => by rw [hbank]; exact elsewhere_of_inBank hv)
  unfold flushToSlot
  refine .bind (((hkeep (aside_clearCache hmine)).conseq (fun w hw => by
      rw [hw]; exact refl_of (BuildsAside SameButCaches [slot] bank) w₀) (fun _ _ hw => hw)
      fun _ w hw => hback w hw)) fun _ => .bind Triple.fetch fun db => ?_
  refine .of_pure (p := SameButCaches w₀.db db) (fun w hw => hw.2 ▸ hw.1.writing.db) fun hdb =>
    .pre (S := BuildsAside SameButCaches [slot] bank w₀) ?_ fun w hw => hw.1
  have hmanifest : db.manifest = w₀.db.manifest := by rw [hdb]
  have hnamespaces : db.namespaces = w₀.db.namespaces := by rw [hdb]
  rw [hmanifest, hnamespaces]
  refine .bind (Q := fun records w => BuildsAside SameButCaches [slot] bank w₀ w ∧
      gatherFlush cfg w₀.db = .ok records) (Triple.liftResult (fun w records hw h => ⟨hw, ?_⟩)
      fun w _ hw _ => hback w hw) fun records => .of_pure (fun w hw => hw.2) fun hgather =>
      .pre (S := fun w => BuildsAside SameButCaches [slot] bank w₀ w ∧
        Built cfg w.dev.current { slot := slot, generation := w₀.db.manifest.nextTableGeneration } [])
        ?_ fun w hw => ⟨hw.1, .start _ _⟩
  · rw [← h, hdb]
    rfl
  have hstart : Counts [] { slot := slot, generation := w₀.db.manifest.nextTableGeneration } :=
    ⟨rfl, fun hne => absurd rfl hne, fun s hs => absurd hs List.not_mem_nil⟩
  refine .bind ((((hkeep fun w => .of_writing (within_flushRecords _ _ _ w) (hinto rfl)).both
    (triple_flushRecords_built w₀.db.namespaces records)).and_returns (returns_flushRecords _ _ _)
      |>.and_returns (returns_flushRecords_counts _ _ hstart)).conseq (fun _ hw => hw)
      (fun _ _ hw => hw) fun _ w hw => hback w hw.1) fun b => ?_
  refine .of_pure (fun w hw => And.intro hw.1.2 hw.2) fun ⟨hslot, hcounts⟩ => ?_
  refine .pre (S := fun w => ∃ new, (BuildsAside SameButCaches [slot] bank w₀ w ∧
      Built cfg w.dev.current b new) ∧
        new.map TableEntry.version = records.map (recordVersion w₀.db.namespaces)) ?_
    fun w hw => by
      obtain ⟨⟨⟨haside, new, hbuilt, hnew⟩, -⟩, -⟩ := hw
      exact ⟨new, ⟨haside, hbuilt⟩, hnew⟩
  refine .of_exists fun new => .of_pure (fun w hw => hw.2) fun hnew =>
    .pre (S := fun w => BuildsAside SameButCaches [slot] bank w₀ w ∧ Built cfg w.dev.current b new)
      ?_ fun w hw => hw.1
  refine .bind (((hkeep fun w => .of_writing (within_finishTableDataBlockUnsafe _ w)
    (hinto hslot)).both triple_finishTableDataBlockUnsafe_built).and_returns
      (returns_finishTableDataBlockUnsafe b) |>.and_returns
      (returns_finishTableDataBlockUnsafe_counts hcounts) |>.conseq (fun _ hw => hw)
      (fun _ _ hw => hw) fun _ w hw => hback w hw.1) fun b₁ => ?_
  refine .of_pure (fun w hw => And.intro hw.1.1.2.2 (And.intro hw.1.2 hw.2))
    fun ⟨hopen, hslot₁, hcounts₁⟩ => ?_
  rw [hslot] at hslot₁
  refine .bind (((hkeep (aside_finishTableUnsafe (by rw [hslot₁]; exact hmine) _)).both
    (@triple_finishTableUnsafe_finished cfg b₁ new hopen _)).and_returns
      (returns_finishTableUnsafe b₁ _) |>.conseq (fun w hw => ⟨hw.1.1.1, hw.1.1.2.1⟩)
      (fun _ _ hw => hw) fun _ w hw => hback w hw.1) fun reference => ?_
  -- The publication.
  refine .of_state fun w₁ hw₁ => ?_
  obtain ⟨⟨haside, hown, hfinished⟩, hmax⟩ := hw₁
  rw [List.nil_append] at hcounts₁
  have hbuilt : FlushBuilt cfg w₀ w₁ slot reference new := by
    refine ⟨hlies, flushedTo hfree hentries hgather hcounts₁ hmax, by rw [← hbank]; exact haside,
      hown.trans hslot₁, hfinished, fun v => ?_⟩
    rw [mem_memtableVersions_iff hgather, ← hnew, List.mem_map]
    exact exists_congr fun e => and_congr_right fun _ => eq_comm
  have hmanifest₁ : w₁.db.manifest = w₀.db.manifest := by rw [haside.writing.db]
  obtain ⟨published, hpublished⟩ : ∃ w, w = w₁.edited (flushedManifest w₀.db.manifest slot reference) :=
    ⟨_, rfl⟩
  refine .bind (Q := fun _ => (· = published)) (Triple.modifyDb fun w hw => by
    rw [hw, hpublished, hmanifest₁]; rfl) fun _ => .bind (Q := fun _ w => Undisturbed cfg published w)
      (Triple.onError (F := fun _ w => Undisturbed cfg published w)
        ((undisturbed_writeManifestCopy _ _).triple (fun _ _ _ hw h => hw ▸ h)
          fun _ _ _ hw h => hw ▸ h) fun _ => Triple.modifyDb fun w hw => ?_) fun _ =>
      Triple.modifyDb fun w hw => ?_
  · rw [hpublished] at hw
    exact hholding.undisturbed hsound (hbuilt.undone hw rfl)
  · rw [hpublished] at hw
    exact (hbuilt.holding hholding hsound hordered).undisturbed
      (hsound.flushedTo haside.writing.db) (hw.emptied _)

end On9kvdb
