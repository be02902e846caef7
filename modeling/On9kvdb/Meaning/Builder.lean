import On9kvdb.Meaning.Frame
import On9kvdb.Steady.Maintenance

/-!
# What a finished table holds

`Built` says what the table under construction consists of: the entries in the blocks on the media,
followed by the entries of the block in memory.  A table that has been finished and validated holds
just these entries, can be searched for them, and its reference covers their keys and their
sequences (`Finished`).
-/

namespace On9kvdb

open Exceptional

variable {cfg : Config} {w w' : World} {m m' : Media} {b b' : TableBuild}
  {entries : List TableEntry}

/-! ## The table under construction -/

variable (cfg) in
/-- The table under construction holds these entries. -/
structure Built (m : Media) (b : TableBuild) (entries : List TableEntry) : Prop where
  stored : entriesFrom cfg m b.slot 0 b.dataBlockCount ++ b.blockEntries = entries
  counts : Counts (entries.map TableEntry.transactionSequence) b
  lowest : ∀ e ∈ entries.head?, b.minKey = e.key
  highest : ∀ e ∈ entries.getLast?, b.maxKey = e.key

lemma Built.start (slot generation : ℕ) :
    Built cfg m { slot := slot, generation := generation } [] :=
  ⟨rfl, ⟨rfl, fun hne => absurd rfl hne, fun s hs => absurd hs List.not_mem_nil⟩,
    fun e he => (by cases he), fun e he => by cases he⟩

lemma entriesFrom_congr {slot start count : ℕ} (h : m'.tableBlock slot = m.tableBlock slot) :
    entriesFrom cfg m' slot start count = entriesFrom cfg m slot start count := by
  unfold entriesFrom blockEntries
  rw [h]

lemma entriesFrom_append (slot start count : ℕ) :
    entriesFrom cfg m slot start (count + 1) =
      entriesFrom cfg m slot start count ++ blockEntries m slot (blockOffset cfg (start + count)) := by
  unfold entriesFrom
  rw [List.range'_concat, List.flatMap_append, Nat.one_mul]
  simp

lemma Built.congr (h : Built cfg m b entries) (hblocks : m'.tableBlock b.slot = m.tableBlock b.slot) :
    Built cfg m' b entries :=
  ⟨by rw [entriesFrom_congr hblocks]; exact h.stored, h.counts, h.lowest, h.highest⟩

/-- What a build is made of, its checksum and its index apart. -/
lemma Built.of_fields (h : Built cfg m b entries) (hslot : b'.slot = b.slot)
    (hblocks : b'.dataBlockCount = b.dataBlockCount) (hopen : b'.blockEntries = b.blockEntries)
    (hcounts : Counts (entries.map TableEntry.transactionSequence) b')
    (hmin : b'.minKey = b.minKey) (hmax : b'.maxKey = b.maxKey) : Built cfg m b' entries :=
  ⟨by rw [hslot, hblocks, hopen]; exact h.stored, hcounts, by rw [hmin]; exact h.lowest,
    by rw [hmax]; exact h.highest⟩

lemma Built.startDataBlock (h : Built cfg m b entries) {key : CompositeKey} {sequence : ℕ}
    (hstart : startDataBlock cfg b key sequence = some b') : Built cfg m b' entries := by
  have hcounts := h.counts.startDataBlock hstart
  unfold On9kvdb.startDataBlock at hstart
  split_ifs at hstart
  · cases hstart
    exact h
  · rw [Option.map_eq_some_iff] at hstart
    obtain ⟨ix, -, rfl⟩ := hstart
    exact h.of_fields rfl rfl rfl hcounts rfl rfl

/-- One entry more. -/
lemma Built.addEntry (h : Built cfg m b entries) (e : TableEntry) :
    Built cfg m (b.addEntry e) (entries ++ [e]) := by
  have hcount : b.entryCount = entries.length := by
    rw [h.counts.entries, List.length_map]
  refine ⟨?_, by rw [List.map_append]; exact h.counts.addEntry e, fun e' he' => ?_, fun e' he' => ?_⟩
  · rw [← h.stored, List.append_assoc]
    rfl
  · have hmin : (b.addEntry e).minKey = if b.entryCount = 0 then e.key else b.minKey := rfl
    rw [hmin, hcount]
    cases hentries : entries with
    | nil =>
        rw [hentries] at he'
        cases he'
        rfl
    | cons head rest =>
        rw [hentries] at he'
        exact h.lowest e' (by rw [hentries]; exact he')
  · rw [List.getLast?_concat] at he'
    cases he'
    rfl

lemma blockOffset_injective (hpos : 0 < cfg.blockBytes) {i j : ℕ}
    (h : blockOffset cfg i = blockOffset cfg j) : i = j := by
  unfold blockOffset at h
  exact Nat.eq_of_mul_eq_mul_right hpos (by omega)

/-- The block in memory becomes the last one on the media. -/
lemma Built.finishBlock (h : Built cfg m b entries) (hpos : 0 < cfg.blockBytes) {block : TableBlock}
    (hblock : block.entries = b.blockEntries) (crc : UInt32) :
    Built cfg ((Write.tableBlock b.slot (blockOffset cfg b.dataBlockCount) block).apply m)
      { b with contentCrc := crc, dataBlockCount := b.dataBlockCount + 1, blockEntries := [] }
      entries := by
  refine ⟨?_, h.counts.congr rfl rfl rfl, h.lowest, h.highest⟩
  have hcell : ∀ offset, ((Write.tableBlock b.slot (blockOffset cfg b.dataBlockCount) block).apply
      m).tableBlock b.slot offset =
        if offset = blockOffset cfg b.dataBlockCount then .ok block else m.tableBlock b.slot offset :=
    fun offset => (update₂_apply _ _ _ _ _ _).trans (by simp)
  have hearlier : entriesFrom cfg ((Write.tableBlock b.slot (blockOffset cfg b.dataBlockCount)
      block).apply m) b.slot 0 b.dataBlockCount = entriesFrom cfg m b.slot 0 b.dataBlockCount := by
    unfold entriesFrom
    refine List.flatMap_congr fun i hi => ?_
    unfold blockEntries
    rw [hcell, if_neg fun heq => ?_]
    have hlt := (List.mem_range'_1.mp hi).2
    have hsame := blockOffset_injective hpos heq
    omega
  rw [entriesFrom_append, hearlier, List.append_nil, Nat.zero_add, ← h.stored, ← hblock]
  congr 1
  unfold blockEntries
  rw [hcell, if_pos rfl]

/-! ## Blocks -/

/-- A block that has been written. -/
lemma encodeTableBlock_eq_some {blockLen generation blockIndex : ℕ} {entries : List TableEntry}
    {block : TableBlock} (h : encodeTableBlock blockLen generation blockIndex entries = some block) :
    block.entries = entries ∧ payloadBytes entries ≤ blockLen - tableBlockHeaderSize := by
  unfold encodeTableBlock at h
  split_ifs at h with hvalid hfits
  cases h
  exact ⟨rfl, hfits⟩

lemma triple_finishTableDataBlockUnsafe_built :
    Triple (fun w => Built cfg w.dev.current b entries) (finishTableDataBlockUnsafe cfg b)
      (fun b' w => Built cfg w.dev.current b' entries ∧ b'.blockEntries = [])
      (fun _ _ => True) := by
  unfold finishTableDataBlockUnsafe
  refine .bind (Triple.check fun _ _ => trivial) fun _ => .of_pure (fun _ hw => hw.2) fun hopen =>
    .pre (S := fun w => Built cfg w.dev.current b entries) ?_ fun _ hw => hw.1
  push Not at hopen
  cases hencode : encodeTableBlock cfg.blockBytes b.generation b.dataBlockCount b.blockEntries with
  | none => exact .throw fun _ _ => trivial
  | some block =>
      obtain ⟨hblock, hfits⟩ := encodeTableBlock_eq_some hencode
      have hpos : 0 < cfg.blockBytes := by
        have hpayload : payloadBytes b.blockEntries ≠ 0 := hopen.2
        omega
      refine .bind (Triple.check fun _ _ => trivial) fun _ => .bind (Q := fun _ w =>
          Built cfg w.dev.current { b with
            contentCrc := calcCrc32Update b.contentCrc (block.bytes cfg.blockBytes)
            dataBlockCount := b.dataBlockCount + 1
            blockEntries := [] } entries)
        (Triple.writeStorage (fun w hw hnone => ?_) fun _ _ _ => trivial) fun _ =>
          .pure fun w hw => ⟨hw, rfl⟩
      dsimp only
      rw [Device.current_write_of_none hnone]
      exact hw.1.finishBlock hpos hblock _

lemma triple_closeFullBlock_built (size : ℕ) :
    Triple (fun w => Built cfg w.dev.current b entries) (closeFullBlock cfg b size)
      (fun b' w => Built cfg w.dev.current b' entries) (fun _ _ => True) := by
  unfold closeFullBlock
  exact .ite (fun _ => triple_finishTableDataBlockUnsafe_built.conseq (fun _ hw => hw)
    (fun _ _ hw => hw.1) fun _ _ _ => trivial) fun _ => .pure fun _ hw => hw

/-! ## The finished table -/

variable (cfg) in
/-- A table has been finished with these entries. -/
structure Finished (reference : TableReference) (entries : List TableEntry) (w : World) : Prop where
  stored : storedEntries cfg w.dev.current reference = entries
  serves : TableServes cfg w reference
  range : ∀ e ∈ entries, reference.minKey ≤ e.key ∧ e.key ≤ reference.maxKey
  sequences : ∀ e ∈ entries, e.transactionSequence ≤ reference.maxSequence

/-- In key order the first and the last key are the range. -/
lemma Built.range (h : Built cfg m b entries)
    (hsorted : entries.Pairwise fun e e' => e.key < e'.key) {e : TableEntry} (he : e ∈ entries) :
    b.minKey ≤ e.key ∧ e.key ≤ b.maxKey := by
  constructor
  · cases hentries : entries with
    | nil =>
        rw [hentries] at he
        exact absurd he List.not_mem_nil
    | cons head rest =>
        rw [h.lowest head (by rw [hentries]; rfl)]
        rw [hentries] at he hsorted
        rcases List.mem_cons.mp he with rfl | he
        · exact le_rfl
        · exact ((List.pairwise_cons.mp hsorted).1 e he).le
  · rcases List.eq_nil_or_concat' entries with hentries | ⟨init, last, hentries⟩
    · rw [hentries] at he
      exact absurd he List.not_mem_nil
    · rw [h.highest last (by rw [hentries, List.getLast?_concat]; rfl)]
      rw [hentries] at he hsorted
      rcases List.mem_append.mp he with he | he
      · exact ((List.pairwise_append.mp hsorted).2.2 e he last (List.mem_singleton_self _)).le
      · rw [List.mem_singleton.mp he]

/-- A write that touches no block. -/
lemma triple_writeStorage_built {write : Write}
    (hblocks : ∀ m : Media, (write.apply m).tableBlock = m.tableBlock) :
    Triple (fun w => Built cfg w.dev.current b entries) (writeStorage write)
      (fun _ w => Built cfg w.dev.current b entries) (fun _ _ => True) := by
  refine Triple.writeStorage (fun w hw hnone => ?_) fun _ _ _ => trivial
  dsimp only
  rw [Device.current_write_of_none hnone]
  exact hw.congr (by rw [hblocks])

/-- **A finished table holds what has been built.** -/
lemma triple_finishTableUnsafe_finished (hopen : b.blockEntries = []) (bank : BankBounds) :
    Triple (fun w => Built cfg w.dev.current b entries) (finishTableUnsafe cfg b bank)
      (fun reference w => reference.slot = b.slot ∧ Finished cfg reference entries w)
      (fun _ _ => True) := by
  unfold finishTableUnsafe
  cases encodeTableIndex cfg.blockBytes b.generation b.indexEntries with
  | none => exact .throw fun _ _ => trivial
  | some index =>
      refine .bind (Triple.check fun _ _ => trivial) fun _ =>
        .bind ((triple_writeStorage_built fun _ => rfl).pre fun _ hw => hw.1) fun _ =>
        .bind Triple.fetch fun db => ?_
      dsimp only
      split
      swap
      · exact .throw fun _ _ => trivial
      refine .bind ((triple_writeStorage_built fun _ => rfl).pre fun _ hw => hw.1) fun _ =>
        .bind (triple_writeStorage_built fun _ => rfl) fun _ =>
        .bind (triple_writeStorage_built fun _ => rfl) fun _ =>
        .bind (Q := fun _ w => Built cfg w.dev.current b entries)
          (Triple.syncStorage (fun _ hw _ => hw) fun _ _ _ => trivial) fun _ =>
        .of_state fun w₁ hw₁ => ?_
      refine .bind (triple_validateTableUnsafe_indexed w₁ _ _) fun _ => .pure fun w hw => ?_
      obtain ⟨hcurrent, bits, found, hindexed, hfilter, hcache⟩ := hw
      have hstored : entriesFrom cfg w₁.dev.current b.slot 0 b.dataBlockCount = entries := by
        rw [← hw₁.stored, hopen, List.append_nil]
      have hentries : storedEntries cfg w₁.dev.current (makeTableReference
          ((({ b with contentCrc := calcCrc32Update b.contentCrc (index.bytes cfg.blockBytes) } :
            TableBuild)).metadata cfg db.manifest.databaseId)) = entries := hstored
      refine ⟨rfl, ?_, ⟨⟨bits, found, ?_, fun hserves => ?_⟩, fun _ _ e he => ?_⟩, fun e he => ?_,
        fun e he => ?_⟩
      · rw [hcurrent]
        exact hentries
      · rw [hcurrent]
        exact hindexed
      · rw [hcache hserves.1]
      · rw [hcurrent] at he
        rw [hfilter]
        exact hindexed.filter e he
      · have hsorted := hindexed.sorted
        rw [hentries] at hsorted
        exact hw₁.range hsorted he
      · exact (hw₁.counts.within _ (List.mem_map_of_mem he)).2

/-! ## What is built aside -/

/-- Only some table slots and one value bank have been worked on; of the instance, their caches and
what `D` leaves free have changed. -/
structure BuildsAside (D : Db → Db → Prop) (slots : List ℕ) (bank : ℕ) (w w' : World) : Prop where
  writing : Writing D (IntoOutput slots bank) w w'
  caches : ∀ slot ∉ slots, w'.db.tableIndexCache slot = w.db.tableIndexCache slot ∧
    w'.db.tableKeyFilters slot = w.db.tableKeyFilters slot

section
variable {D : Db → Db → Prop} {slots : List ℕ} {bank : ℕ} {α : Type}

instance [Std.Refl D] : Std.Refl (BuildsAside D slots bank) :=
  ⟨fun _ => ⟨refl_of (Writing _ _) _, fun _ _ => ⟨rfl, rfl⟩⟩⟩

instance [IsTrans Db D] : IsTrans World (BuildsAside D slots bank) := ⟨fun _ _ _ h₁ h₂ =>
  ⟨trans_of (Writing _ _) h₁.writing h₂.writing, fun slot hslot =>
    ⟨(h₂.caches slot hslot).1.trans (h₁.caches slot hslot).1,
      (h₂.caches slot hslot).2.trans (h₁.caches slot hslot).2⟩⟩⟩

lemma BuildsAside.of_writing [Std.Refl D] {S : Write → Prop} (h : Writing Eq S w w')
    (hS : ∀ write, S write → IntoOutput slots bank write) : BuildsAside D slots bank w w' :=
  ⟨h.mono (fun _ _ hdb => hdb ▸ refl_of D _) hS, fun _ _ => by
    rw [← h.db]
    exact ⟨rfl, rfl⟩⟩

lemma BuildsAside.tick [Std.Refl D] (w : World) :
    BuildsAside D slots bank w { w with dev := w.dev.tick } :=
  ⟨⟨refl_of D _, .clock _ .refl⟩, fun _ _ => ⟨rfl, rfl⟩⟩

/-- The references of the slots may change as well. -/
lemma BuildsAside.weaken (h : BuildsAside SameButCaches slots bank w w') :
    BuildsAside (SameButTables slots) slots bank w w' :=
  ⟨h.writing.mono (fun _ _ => SameButTables.of_caches) fun _ hw => hw, h.caches⟩

lemma BuildsAside.of_caching (h : Caching w w') {slot : ℕ} (hslot : slot ∈ slots)
    (hothers : ∀ s ≠ slot, w'.db.tableIndexCache s = w.db.tableIndexCache s ∧
      w'.db.tableKeyFilters s = w.db.tableKeyFilters s) : BuildsAside SameButCaches slots bank w w' :=
  ⟨.of_caching h, fun s hs => hothers s fun heq => hs (heq ▸ hslot)⟩

lemma aside_writeStorage {slot : ℕ} (hslot : slot ∈ slots) {write : Write}
    (hwrite : IntoTable slot write) :
    Within (BuildsAside SameButCaches slots bank) (writeStorage write) := fun w => by
  rw [exec_writeStorage]
  exact ⟨⟨refl_of SameButCaches _, .write (.inl ⟨slot, hslot, hwrite⟩) .refl⟩,
    fun _ _ => ⟨rfl, rfl⟩⟩

lemma aside_syncStorage : Within (BuildsAside SameButCaches slots bank) syncStorage := fun w => by
  rw [exec_syncStorage]
  exact ⟨⟨refl_of SameButCaches _, .sync .refl⟩, fun _ _ => ⟨rfl, rfl⟩⟩

lemma aside_validateTableUnsafe {reference : TableReference} (hslot : reference.slot ∈ slots)
    (bounds : BankBounds) :
    Within (BuildsAside SameButCaches slots bank) (validateTableUnsafe cfg reference bounds) :=
  .of_triple fun w₀ => (triple_validateTableUnsafe_refreshed w₀ reference bounds).conseq
    (fun _ hw => hw) (fun _ _ hw => .of_caching hw.caching hslot hw.others) fun _ w hw => by
      rcases hw with rfl | hw
      · exact refl_of (BuildsAside SameButCaches slots bank) w
      · exact .of_caching hw.caching hslot hw.others

lemma aside_finishTableUnsafe (hslot : b.slot ∈ slots) (bounds : BankBounds) :
    Within (BuildsAside SameButCaches slots bank) (finishTableUnsafe cfg b bounds) := by
  unfold finishTableUnsafe
  cases encodeTableIndex cfg.blockBytes b.generation b.indexEntries with
  | none => exact .throw
  | some index =>
      refine .bind Within.failIf fun _ => .bind (aside_writeStorage hslot rfl) fun _ =>
        .bind Within.getDb fun db => ?_
      dsimp only
      split
      · exact .bind (aside_writeStorage hslot rfl) fun _ => .bind (aside_writeStorage hslot rfl)
          fun _ => .bind (aside_writeStorage hslot rfl) fun _ => .bind aside_syncStorage fun _ =>
          .bind (aside_validateTableUnsafe hslot _) fun _ => .pure
      · exact .throw

/-- A reset of the index cache of one of the slots. -/
lemma aside_clearCache {slot : ℕ} (hslot : slot ∈ slots) :
    Within (BuildsAside SameButCaches slots bank) (modifyDb fun db => { db with
      tableIndexCache := Function.update db.tableIndexCache slot {} }) := fun _ =>
  .of_caching ⟨rfl, rfl⟩ hslot fun _ hs => ⟨Function.update_of_ne hs _ _, rfl⟩

/-- Nothing that `m` refers to has been touched. -/
lemma BuildsAside.retained (h : BuildsAside (SameButTables slots) slots bank w w')
    {m : ManifestRecord} (hfree : ∀ slot ∈ slots, m.tables slot = none)
    (hbank : ∀ v, valueInActiveBank cfg m v = true → Elsewhere v.ref? bank) :
    Retained cfg m w w' := by
  obtain ⟨⟨⟨hdb, -⟩, hdev⟩, hcaches⟩ := h
  have hspares : ∀ write, IntoOutput slots bank write → SparesContents cfg m write := by
    rintro write (⟨slot, hslot, hwrite⟩ | hwrite)
    · refine ⟨?_, ?_, fun v _ => clearOf_of_table hwrite⟩
      · rintro s offset block rfl
        rw [show s = slot from hwrite]
        exact hfree slot hslot
      · rintro s index rfl
        rw [show s = slot from hwrite]
        exact hfree slot hslot
    · refine ⟨?_, ?_, fun v hv => (hbank v hv).clearOf hwrite⟩
      · rintro s offset block rfl
        exact hwrite.elim
      · rintro s index rfl
        exact hwrite.elim
  obtain ⟨hslots, hvalues⟩ := (hdev.mono hspares).sparesContents
  refine ⟨by rw [hdb], by rw [hdb], by rw [hdb], fun slot hslot => ?_, hvalues⟩
  have hother : slot ∉ slots := fun hmem => hslot (hfree slot hmem)
  exact .of_eq (hslots slot hslot).1 (hslots slot hslot).2 (hcaches slot hother).1
    (hcaches slot hother).2

/-- Without a new reference nothing has happened to the contents. -/
lemma BuildsAside.undisturbed (h : BuildsAside SameButCaches slots bank w w')
    (hfree : ∀ slot ∈ slots, w.db.manifest.tables slot = none)
    (hbank : ∀ v, valueInActiveBank cfg w.db.manifest v = true → Elsewhere v.ref? bank) :
    Undisturbed cfg w w' := by
  have hdb : w'.db = { w.db with
      tableIndexCache := w'.db.tableIndexCache
      tableKeyFilters := w'.db.tableKeyFilters } := h.writing.db
  exact ⟨by rw [hdb], by rw [hdb], by rw [hdb], by rw [hdb]; exact .refl _,
    fun _ hv => by rw [hdb]; exact hv, h.weaken.retained hfree hbank⟩

end

end On9kvdb
