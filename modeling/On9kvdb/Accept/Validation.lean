import On9kvdb.Store.Table

/-!
# What the validation of a table establishes

`validate_table_unsafe` accepts a table only when its entries are in strict key order through all of
its blocks, and it leaves a key filter with all of them (`AcceptedTable`).  It compares no key with
the range in the footer and no inline value with the inline limit.
-/

namespace On9kvdb

variable {cfg : Config}

/-! ## The entries of a table -/

/-- The entries of a data block, none when it is damaged. -/
def blockEntries (m : Media) (slot offset : ℕ) : List TableEntry :=
  match m.tableBlock slot offset with
  | .ok block => block.entries
  | .error _ => []

/-- The entries of `count` data blocks from `start` on. -/
def entriesFrom (cfg : Config) (m : Media) (slot start count : ℕ) : List TableEntry :=
  (List.range' start count).flatMap fun i => blockEntries m slot (blockOffset cfg i)

/-- The entries a table stores. -/
def storedEntries (cfg : Config) (m : Media) (reference : TableReference) : List TableEntry :=
  entriesFrom cfg m reference.slot 0 reference.dataBlockCount

lemma mem_entriesFrom {m : Media} {slot start count : ℕ} {e : TableEntry} :
    e ∈ entriesFrom cfg m slot start count ↔
      ∃ i, start ≤ i ∧ i < start + count ∧ e ∈ blockEntries m slot (blockOffset cfg i) := by
  simp only [entriesFrom, List.mem_flatMap, List.mem_range'_1, and_assoc]

/-! ## The scan -/

/-- What the scan knows of the entries it has seen. -/
structure ScanOf (seen : List TableEntry) (s : TableScan) : Prop where
  sorted : seen.Pairwise fun e e' => e.key < e'.key
  last : ∀ e ∈ seen, ∃ k, s.previousKey = some k ∧ e.key ≤ k
  filter : ∀ e ∈ seen, ∀ probe < 3, s.filterBits (filterBit e.key probe) = true

lemma ScanOf.nil (s : TableScan) : ScanOf [] s :=
  ⟨.nil, fun _ he => absurd he List.not_mem_nil, fun _ he => absurd he List.not_mem_nil⟩

lemma addTableKeyFilter_own (bits : ℕ → Bool) (key : CompositeKey) {probe : ℕ} (h : probe < 3) :
    addTableKeyFilter bits key (filterBit key probe) = true := by
  unfold addTableKeyFilter
  rw [Bool.or_eq_true, List.any_eq_true]
  exact Or.inr ⟨probe, List.mem_range.mpr h, beq_self_eq_true _⟩

lemma addTableKeyFilter_old {bits : ℕ → Bool} {bit : ℕ} (h : bits bit = true) (key : CompositeKey) :
    addTableKeyFilter bits key bit = true := by
  unfold addTableKeyFilter
  rw [h, Bool.true_or]

/-- **An accepted entry continues the order.** -/
lemma ScanOf.entry {seen : List TableEntry} {s s' : TableScan} {footer : TableMetadata}
    {bank : BankBounds} {first : Option TableIndexEntry} {e : TableEntry} (h : ScanOf seen s)
    (haccepted : validateTableEntry cfg footer bank first s e = .ok s') :
    ScanOf (seen ++ [e]) s' := by
  unfold validateTableEntry at haccepted
  split_ifs at haccepted with hrange horder
  cases haccepted
  push Not at horder
  have hbehind : ∀ e' ∈ seen, e'.key < e.key := fun e' he' => by
    obtain ⟨k, hk, hle⟩ := h.last e' he'
    have hlt := horder.1
    rw [hk] at hlt
    simp only [Option.any_some, bne_iff_ne, ne_eq, not_not] at hlt
    exact hle.trans_lt (compareCompositeKey_lt.mp hlt)
  refine ⟨?_, fun e' he' => ⟨e.key, rfl, ?_⟩, fun e' he' probe hprobe => ?_⟩
  · rw [List.pairwise_append]
    exact ⟨h.sorted, List.pairwise_singleton .., fun a ha b hb =>
      List.mem_singleton.mp hb ▸ hbehind a ha⟩
  · rcases List.mem_append.mp he' with he' | he'
    · exact (hbehind e' he').le
    · exact (congrArg TableEntry.key (List.mem_singleton.mp he')).le
  · rcases List.mem_append.mp he' with he' | he'
    · exact addTableKeyFilter_old (h.filter e' he' probe hprobe) _
    · obtain rfl := List.mem_singleton.mp he'
      exact addTableKeyFilter_own _ _ hprobe

lemma ScanOf.entries {seen entries : List TableEntry} {s s' : TableScan} {footer : TableMetadata}
    {bank : BankBounds} {first : Option TableIndexEntry} (h : ScanOf seen s)
    (haccepted : validateTableEntries cfg footer bank first s entries = .ok s') :
    ScanOf (seen ++ entries) s' := by
  induction entries generalizing seen s first with
  | nil =>
      cases haccepted
      rwa [List.append_nil]
  | cons e rest ih =>
      obtain ⟨middle, he, hrest⟩ := bind_eq_ok.mp haccepted
      have hall := ih (h.entry he) hrest
      rwa [List.append_assoc, List.singleton_append] at hall

/-- What the block loop finds, from block `start` on. -/
structure BlocksOf (cfg : Config) (m : Media) (slot start : ℕ) (entries : List TableIndexEntry) :
    Prop where
  offsets : entries.map TableIndexEntry.blockOffset =
    (List.range' start entries.length).map (blockOffset cfg)
  present : ∀ i, start ≤ i → i < start + entries.length →
    ∃ block, m.tableBlock slot (blockOffset cfg i) = .ok block

/-- **Accepted blocks continue the order.** -/
lemma ScanOf.blocks {m : Media} {reference : TableReference} {footer : TableMetadata}
    {bank : BankBounds} {start : ℕ} {seen : List TableEntry} {s s' : TableScan}
    {entries : List TableIndexEntry} (h : ScanOf seen s)
    (haccepted : validateTableBlocks cfg m reference footer bank start s entries = .ok s') :
    ScanOf (seen ++ entriesFrom cfg m reference.slot start entries.length) s' ∧
      BlocksOf cfg m reference.slot start entries := by
  induction entries generalizing start seen s with
  | nil =>
      cases haccepted
      refine ⟨by simpa [entriesFrom] using h, rfl, fun i hi hi' => ?_⟩
      simp only [List.length_nil] at hi'
      omega
  | cons ix rest ih =>
      unfold validateTableBlocks at haccepted
      split_ifs at haccepted with hoffset
      rw [not_not] at hoffset
      cases hblock : m.tableBlock reference.slot (blockOffset cfg start) with
      | error e =>
          rw [hblock] at haccepted
          cases haccepted
      | ok block =>
          rw [hblock] at haccepted
          dsimp only at haccepted
          split_ifs at haccepted
          obtain ⟨middle, hentries, hrest⟩ := bind_eq_ok.mp haccepted
          have hscan : ScanOf seen { s with
              contentCrc := calcCrc32Update s.contentCrc (block.bytes cfg.blockBytes) } :=
            ⟨h.sorted, h.last, h.filter⟩
          obtain ⟨hall, hblocks⟩ := ih (hscan.entries hentries) hrest
          refine ⟨?_, ?_, fun i hi hi' => ?_⟩
          · have hfirst : entriesFrom cfg m reference.slot start (ix :: rest).length =
                block.entries ++ entriesFrom cfg m reference.slot (start + 1) rest.length := by
              simp only [entriesFrom, List.length_cons, List.range'_succ, List.flatMap_cons,
                blockEntries, hblock]
            rwa [hfirst, ← List.append_assoc]
          · rw [List.map_cons, List.length_cons, List.range'_succ, List.map_cons, hoffset,
              hblocks.offsets]
          · rcases hi.eq_or_lt with rfl | hlt
            · exact ⟨block, hblock⟩
            · refine hblocks.present i hlt ?_
              simp only [List.length_cons] at hi'
              omega

/-! ## The table -/

/-- What holds of a table that the validation has accepted. -/
structure AcceptedTable (cfg : Config) (m : Media) (reference : TableReference)
    (metadata : TableMetadata) (bits : ℕ → Bool) (index : TableIndex) : Prop where
  footer : ∃ record, m.tableFooter reference.slot = .ok record ∧ record.metadata = metadata
  agrees : tableReferenceEqual reference (makeTableReference metadata) = true
  stored : m.tableIndex reference.slot = .ok index
  count : index.entries.length = reference.dataBlockCount
  blocks : BlocksOf cfg m reference.slot 0 index.entries
  sorted : (storedEntries cfg m reference).Pairwise fun e e' => e.key < e'.key
  filter : ∀ e ∈ storedEntries cfg m reference, ∀ probe < 3, bits (filterBit e.key probe) = true

/-- A footer or header that can be used is the one on media. -/
lemma readTableMetadata_eq_ok {cell : Cell TableMetadataRecord} {metadata : TableMetadata}
    (h : readTableMetadata cell = .ok (some metadata)) :
    ∃ record, cell = .ok record ∧ record.metadata = metadata := by
  unfold readTableMetadata at h
  split at h
  · next record =>
      cases h
      exact ⟨record, rfl, rfl⟩
  · cases h
  · cases h

/-- **The validation accepts tables in key order only.** -/
theorem checkTable_accepted {m : Media} {reference : TableReference} {bank : BankBounds}
    {bits : ℕ → Bool} {index : TableIndex}
    (h : checkTable cfg m reference bank = .ok (bits, index)) :
    ∃ metadata, AcceptedTable cfg m reference metadata bits index := by
  unfold checkTable at h
  obtain ⟨footer, hfooter, h⟩ := bind_eq_ok.mp h
  cases footer with
  | none => cases h
  | some metadata =>
      dsimp only at h
      obtain ⟨_, hreference, h⟩ := bind_eq_ok.mp h
      obtain ⟨header₀, -, h⟩ := bind_eq_ok.mp h
      obtain ⟨_, -, h⟩ := bind_eq_ok.mp h
      obtain ⟨header₁, -, h⟩ := bind_eq_ok.mp h
      obtain ⟨_, -, h⟩ := bind_eq_ok.mp h
      obtain ⟨_, -, h⟩ := bind_eq_ok.mp h
      have hequal := rejectIf_eq_ok.mp hreference
      push Not at hequal
      have hequal' : tableReferenceEqual reference (makeTableReference metadata) = true := by
        simpa using hequal.1
      cases hindex : m.tableIndex reference.slot with
      | error e =>
          rw [hindex] at h
          cases h
      | ok index' =>
          rw [hindex] at h
          dsimp only at h
          obtain ⟨_, hcount, h⟩ := bind_eq_ok.mp h
          obtain ⟨s, hblocks, h⟩ := bind_eq_ok.mp h
          obtain ⟨_, -, h⟩ := bind_eq_ok.mp h
          cases h
          have hcount := rejectIf_eq_ok.mp hcount
          push Not at hcount
          have hlength : index.entries.length = reference.dataBlockCount := by
            simp only [tableReferenceEqual, makeTableReference, Bool.and_eq_true,
              beq_iff_eq] at hequal'
            rw [hcount.2]
            exact hequal'.1.1.1.1.1.1.2.symm
          obtain ⟨hscan, hpresent⟩ := (ScanOf.nil {}).blocks hblocks
          rw [List.nil_append, hlength] at hscan
          exact ⟨metadata, readTableMetadata_eq_ok hfooter, hequal', hindex, hlength, hpresent,
            hscan.sorted, hscan.filter⟩

/-- Conversely, a table whose copies agree and whose blocks pass is accepted. -/
lemma checkTable_of {m : Media} {reference : TableReference} {bank : BankBounds}
    {metadata : TableMetadata} {index : TableIndex} {s : TableScan}
    (hfooter : readTableMetadata (m.tableFooter reference.slot) = .ok (some metadata))
    (hagree : tableReferenceEqual reference (makeTableReference metadata) = true ∧
      metadata.blockSize = cfg.blockBytes ∧ metadata.footerOffset = footerOffset cfg)
    (hheader : ∀ copySlot,
      readTableMetadata (m.tableHeader reference.slot copySlot) = .ok (some metadata))
    (hindex : m.tableIndex reference.slot = .ok index)
    (hcount : index.generation = metadata.generation ∧
      index.entries.length = metadata.dataBlockCount)
    (hblocks : validateTableBlocks cfg m reference metadata bank 0 {} index.entries = .ok s)
    (htotals : s.totalEntries = metadata.entryCount ∧ s.totalDataBytes = metadata.dataBytes ∧
      ~~~ calcCrc32Update s.contentCrc (index.bytes cfg.blockBytes) = metadata.contentChecksum) :
    checkTable cfg m reference bank = .ok (s.filterBits, index) := by
  unfold checkTable
  rw [hfooter, ok_bind]
  dsimp only
  rw [rejectIf_of_not (by simp [hagree]), ok_bind, hheader 0, ok_bind,
    rejectIf_of_not (by simp), ok_bind, hheader 1, ok_bind, rejectIf_of_not (by simp), ok_bind,
    rejectIf_of_not (by simp), ok_bind, hindex]
  dsimp only
  rw [rejectIf_of_not (by simp [hcount]), ok_bind, hblocks, ok_bind,
    rejectIf_of_not (by simp [htotals]), ok_bind]
  rfl

end On9kvdb
