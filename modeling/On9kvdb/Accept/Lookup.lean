import On9kvdb.Accept.Image

/-!
# Lookups in an accepted table

`lookup_table_unsafe` picks one block by the first keys of all blocks, from the cache or from the
index on media, and searches it up to the first greater key.  In a table that
`validate_table_unsafe` has accepted this is a search through all of its entries (`tableAnswer`),
whichever index was used, and the key filter keeps no stored key back.
-/

namespace On9kvdb

open Exceptional

variable {cfg : Config}

/-- What a search through all entries answers. -/
def tableAnswer (entries : List TableEntry) (key : CompositeKey) : Except EspErr ValueView :=
  match entries.find? fun e => e.key == key with
  | some e => .ok ⟨e.transactionSequence, e.value⟩
  | none => .error .notFound

/-! ## One block -/

/-- In key order the search may stop at the first greater key. -/
lemma searchBlock_eq {entries : List TableEntry}
    (hsorted : entries.Pairwise fun e e' => e.key < e'.key) (key : CompositeKey) :
    searchBlock key entries = tableAnswer entries key := by
  induction entries with
  | nil => rfl
  | cons e rest ih =>
      obtain ⟨hbelow, hrest⟩ := List.pairwise_cons.mp hsorted
      unfold searchBlock tableAnswer
      rw [List.find?_cons]
      rcases compareCompositeKey_spec e.key key with ⟨h, hlt⟩ | ⟨h, heq⟩ | ⟨h, hgt⟩
      · rw [h, beq_eq_false_iff_ne.mpr hlt.ne]
        exact ih hrest
      · rw [h, beq_iff_eq.mpr heq]
      · have hnone : rest.find? (fun e => e.key == key) = none :=
          List.find?_eq_none.mpr fun e' he' => by
            simpa using (hgt.trans (hbelow e' he')).ne'
        rw [h, beq_eq_false_iff_ne.mpr hgt.ne']
        dsimp only
        rw [hnone]

/-- A part that has every entry with the key answers for the whole. -/
lemma tableAnswer_part {entries part : List TableEntry} {key : CompositeKey}
    (hsorted : entries.Pairwise fun e e' => e.key < e'.key) (hpart : ∀ e ∈ part, e ∈ entries)
    (hown : ∀ e ∈ entries, e.key = key → e ∈ part) :
    tableAnswer part key = tableAnswer entries key := by
  have hdistinct : (entries.map TableEntry.key).Nodup :=
    List.pairwise_map.mpr (hsorted.imp fun hlt => hlt.ne)
  have hfind : part.find? (fun e => e.key == key) = entries.find? fun e => e.key == key := by
    cases hwhole : entries.find? fun e => e.key == key with
    | none =>
        rw [List.find?_eq_none] at hwhole ⊢
        exact fun e he => hwhole e (hpart e he)
    | some e =>
        have hmem := List.mem_of_find?_eq_some hwhole
        have hkey := List.find?_some hwhole
        simp only [beq_iff_eq] at hkey
        have hsome : (part.find? fun e => e.key == key).isSome := List.find?_isSome.mpr
          ⟨e, hown e hmem hkey, beq_iff_eq.mpr hkey⟩
        obtain ⟨e', he'⟩ := Option.isSome_iff_exists.mp hsome
        have hkey' := List.find?_some he'
        simp only [beq_iff_eq] at hkey'
        rw [he', List.inj_on_of_nodup_map hdistinct (hpart e' (List.mem_of_find?_eq_some he')) hmem
          (hkey'.trans hkey.symm)]
  unfold tableAnswer
  rw [hfind]

/-! ## The choice of the block -/

/-- Every index entry names its block, of the table's generation, by its first key. -/
def BlocksHeaded (cfg : Config) (m : Media) (reference : TableReference) :
    (start : ℕ) → List TableIndexEntry → Prop
  | _, [] => True
  | start, ix :: rest =>
      (ix.blockOffset = blockOffset cfg start ∧ ∃ block e entries,
        m.tableBlock reference.slot (blockOffset cfg start) = .ok block ∧
        block.generation = reference.generation ∧ block.entries = e :: entries ∧
        e.key = ix.key) ∧
      BlocksHeaded cfg m reference (start + 1) rest

lemma entriesFrom_succ (m : Media) (slot start count : ℕ) :
    entriesFrom cfg m slot start (count + 1) =
      blockEntries m slot (blockOffset cfg start) ++ entriesFrom cfg m slot (start + 1) count := by
  simp only [entriesFrom, List.range'_succ, List.flatMap_cons]

/-- **The chosen block** has every entry with the key; without one the key is before all. -/
lemma selectBlock_spec {m : Media} {reference : TableReference} {start : ℕ}
    {entries : List TableIndexEntry} (hheaded : BlocksHeaded cfg m reference start entries)
    (hsorted : (entriesFrom cfg m reference.slot start entries.length).Pairwise
      fun e e' => e.key < e'.key) (key : CompositeKey) (selected : Option ℕ) :
    (selectBlock key (entries.map fun e => (e.key, e.blockOffset)) selected = selected ∧
      ∀ e ∈ entriesFrom cfg m reference.slot start entries.length, key < e.key) ∨
    ∃ i block, start ≤ i ∧ i < start + entries.length ∧
      selectBlock key (entries.map fun e => (e.key, e.blockOffset)) selected =
        some (blockOffset cfg i) ∧
      m.tableBlock reference.slot (blockOffset cfg i) = .ok block ∧
      block.generation = reference.generation ∧
      (∃ e ∈ block.entries, e.key ≤ key) ∧
      ∀ e ∈ entriesFrom cfg m reference.slot start entries.length, e.key = key →
        e ∈ block.entries := by
  induction entries generalizing start selected with
  | nil => exact Or.inl ⟨rfl, fun e he => absurd he List.not_mem_nil⟩
  | cons ix rest ih =>
      obtain ⟨⟨hoffset, block, head, behind, hblock, hgeneration, hentries, hkey⟩, hrest⟩ := hheaded
      have hown : blockEntries m reference.slot (blockOffset cfg start) = block.entries := by
        rw [blockEntries, hblock]
      rw [List.length_cons, entriesFrom_succ, hown] at hsorted ⊢
      obtain ⟨hinner, hbehind, hacross⟩ := List.pairwise_append.mp hsorted
      have hhead : head ∈ block.entries := hentries ▸ List.mem_cons_self
      rw [List.map_cons, selectBlock, hoffset]
      by_cases hgreater : compareCompositeKey ix.key key = .gt
      · have hlt : key < head.key := hkey ▸ compareCompositeKey_gt.mp hgreater
        refine Or.inl ⟨if_pos hgreater, fun e he => ?_⟩
        rcases List.mem_append.mp he with he | he
        · rw [hentries, List.pairwise_cons] at hinner
          rw [hentries] at he
          rcases List.mem_cons.mp he with rfl | he
          · exact hlt
          · exact hlt.trans (hinner.1 e he)
        · exact hlt.trans (hacross head hhead e he)
      · have hle : head.key ≤ key := hkey ▸ not_lt.mp (mt compareCompositeKey_gt.mpr hgreater)
        rw [if_neg hgreater]
        rcases ih hrest hbehind (some (blockOffset cfg start)) with ⟨hselect, hafter⟩ |
          ⟨i, block', hi, hi', hselect, hblock', hgeneration', ⟨e', he', hle'⟩, hall⟩
        · refine Or.inr ⟨start, block, le_rfl, by omega, hselect, hblock, hgeneration,
            ⟨head, hhead, hle⟩, fun e he heq => ?_⟩
          rcases List.mem_append.mp he with he | he
          · exact he
          · exact absurd heq (hafter e he).ne'
        · refine Or.inr ⟨i, block', by omega, by omega, hselect, hblock', hgeneration',
            ⟨e', he', hle'⟩, fun e he heq => ?_⟩
          rcases List.mem_append.mp he with he | he
          · have hmem : e' ∈ entriesFrom cfg m reference.slot (start + 1) rest.length :=
              mem_entriesFrom.mpr ⟨i, hi, hi', by rw [blockEntries, hblock']; exact he'⟩
            exact absurd heq ((hacross e he e' hmem).trans_le hle').ne
          · exact hall e he heq

/-! ## What the validation adds -/

/-- **Accepted blocks begin with the key of their index entry.** -/
lemma validateTableBlocks_headed {m : Media} {reference : TableReference} {footer : TableMetadata}
    {bank : BankBounds} {start : ℕ} {s s' : TableScan} {entries : List TableIndexEntry}
    (hgeneration : footer.generation = reference.generation)
    (haccepted : validateTableBlocks cfg m reference footer bank start s entries = .ok s') :
    BlocksHeaded cfg m reference start entries := by
  induction entries generalizing start s with
  | nil => trivial
  | cons ix rest ih =>
      unfold validateTableBlocks at haccepted
      split_ifs at haccepted with hoffset
      rw [not_not] at hoffset
      cases hblock : m.tableBlock reference.slot (blockOffset cfg start) with
      | error e =>
          rw [hblock] at haccepted
          cases haccepted
      | ok block =>
          rw [hblock] at haccepted
          dsimp only at haccepted
          split_ifs at haccepted with hheader
          push Not at hheader
          obtain ⟨middle, hentries, hrest⟩ := bind_eq_ok.mp haccepted
          refine ⟨⟨hoffset, block, ?_⟩, ih hrest⟩
          cases hlist : block.entries with
          | nil =>
              have hvalid := block.valid
              rw [hlist] at hvalid
              simp at hvalid
          | cons head behind =>
              rw [hlist] at hentries
              obtain ⟨_, hhead, -⟩ := bind_eq_ok.mp hentries
              unfold validateTableEntry at hhead
              split_ifs at hhead with hrange horder
              push Not at horder
              have hfirst := horder.2
              simp only [Option.any_some, Bool.or_eq_true, bne_iff_ne, ne_eq, not_or,
                not_not] at hfirst
              exact ⟨head, behind, hblock, hheader.1.trans hgeneration, rfl, hfirst.1.symm⟩

/-- The index of an accepted table leads to its blocks. -/
structure IndexedTable (cfg : Config) (m : Media) (reference : TableReference)
    (bits : ℕ → Bool) (index : TableIndex) : Prop where
  stored : m.tableIndex reference.slot = .ok index
  generation : index.generation = reference.generation
  count : index.entries.length = reference.dataBlockCount
  headed : BlocksHeaded cfg m reference 0 index.entries
  sorted : (storedEntries cfg m reference).Pairwise fun e e' => e.key < e'.key
  filter : ∀ e ∈ storedEntries cfg m reference, ∀ probe < 3, bits (filterBit e.key probe) = true

lemma checkTable_indexed {m : Media} {reference : TableReference} {bank : BankBounds}
    {bits : ℕ → Bool} {index : TableIndex}
    (h : checkTable cfg m reference bank = .ok (bits, index)) :
    IndexedTable cfg m reference bits index := by
  obtain ⟨metadata, haccepted⟩ := checkTable_accepted h
  have hequal := haccepted.agrees
  simp only [tableReferenceEqual, makeTableReference, Bool.and_eq_true, beq_iff_eq] at hequal
  have hgeneration : metadata.generation = reference.generation := hequal.1.1.1.1.1.2.symm
  obtain ⟨record, hrecord, rfl⟩ := haccepted.footer
  unfold checkTable at h
  rw [hrecord, readTableMetadata, ok_bind] at h
  obtain ⟨_, -, h⟩ := bind_eq_ok.mp h
  obtain ⟨header₀, -, h⟩ := bind_eq_ok.mp h
  obtain ⟨_, -, h⟩ := bind_eq_ok.mp h
  obtain ⟨header₁, -, h⟩ := bind_eq_ok.mp h
  obtain ⟨_, -, h⟩ := bind_eq_ok.mp h
  obtain ⟨_, -, h⟩ := bind_eq_ok.mp h
  rw [haccepted.stored] at h
  dsimp only at h
  obtain ⟨_, hcount, h⟩ := bind_eq_ok.mp h
  obtain ⟨s, hblocks, -⟩ := bind_eq_ok.mp h
  have hcount := rejectIf_eq_ok.mp hcount
  push Not at hcount
  exact ⟨haccepted.stored, hcount.1.trans hgeneration, haccepted.count,
    validateTableBlocks_headed hgeneration hblocks, haccepted.sorted, haccepted.filter⟩

/-! ## The lookup -/

/-- The cache slot of a table is used by its lookups. -/
def cacheServes (cfg : Config) (db : Db) (reference : TableReference) : Prop :=
  cfg.optionalCaches = true ∧ (db.tableIndexCache reference.slot).valid = true ∧
    (db.tableIndexCache reference.slot).generation = reference.generation ∧
    (db.tableIndexCache reference.slot).entries.length = reference.dataBlockCount

namespace IndexedTable

variable {db : Db} {m : Media} {reference : TableReference} {bits : ℕ → Bool} {index : TableIndex}

/-- Both sources of the index agree. -/
lemma tableIndexEntries_eq (h : IndexedTable cfg m reference bits index)
    (hcache : cacheServes cfg db reference →
      (db.tableIndexCache reference.slot).entries = index.firstKeys) :
    tableIndexEntries cfg db m reference = .ok index.firstKeys := by
  unfold tableIndexEntries
  dsimp only
  split_ifs with hserves
  · rw [hcache hserves]
  · rw [h.stored]
    dsimp only
    rw [if_neg (by push Not; exact ⟨h.generation, h.count⟩)]

/-- **The lookup searches all entries.** -/
lemma lookup_eq (h : IndexedTable cfg m reference bits index)
    (hcache : cacheServes cfg db reference →
      (db.tableIndexCache reference.slot).entries = index.firstKeys) (key : CompositeKey) :
    lookupTableUnsafe cfg db m reference key =
      tableAnswer (storedEntries cfg m reference) key := by
  have hstored : storedEntries cfg m reference =
      entriesFrom cfg m reference.slot 0 index.entries.length := by
    rw [h.count]
    rfl
  have hsorted := h.sorted
  unfold lookupTableUnsafe
  rw [h.tableIndexEntries_eq hcache, ok_bind]
  rw [hstored] at hsorted ⊢
  unfold TableIndex.firstKeys
  rcases selectBlock_spec h.headed hsorted key none with ⟨hselect, hafter⟩ |
    ⟨i, block, hi, hi', hselect, hblock, hgeneration, -, hall⟩
  · rw [hselect]
    have hnone : (entriesFrom cfg m reference.slot 0 index.entries.length).find?
        (fun e => e.key == key) = none := List.find?_eq_none.mpr fun e he => by
      simpa using (hafter e he).ne'
    unfold tableAnswer
    rw [hnone]
  · rw [hselect]
    dsimp only
    rw [hblock]
    dsimp only
    rw [rejectIf_of_not (not_not.mpr hgeneration), ok_bind]
    have hmem : ∀ e ∈ block.entries,
        e ∈ entriesFrom cfg m reference.slot 0 index.entries.length := fun e he =>
      mem_entriesFrom.mpr ⟨i, hi, hi', by rw [blockEntries, hblock]; exact he⟩
    have hpart : block.entries.Sublist
        (entriesFrom cfg m reference.slot 0 index.entries.length) := by
      have hmember : block.entries ∈ (List.range' 0 index.entries.length).map fun i =>
          blockEntries m reference.slot (blockOffset cfg i) :=
        List.mem_map.mpr ⟨i, List.mem_range'_1.mpr ⟨hi, hi'⟩, by rw [blockEntries, hblock]⟩
      exact List.sublist_flatten_of_mem hmember
    have hblockSorted := hsorted.sublist hpart
    rw [searchBlock_eq hblockSorted, tableAnswer_part hsorted hmem hall]

/-- The filter keeps no stored key back. -/
lemma mayContain (h : IndexedTable cfg m reference bits index)
    (hfilter : db.tableKeyFilters reference.slot = ⟨reference.generation, true, bits⟩)
    {e : TableEntry} (he : e ∈ storedEntries cfg m reference) :
    tableKeyFilterMayContain db reference e.key = true := by
  unfold tableKeyFilterMayContain
  rw [hfilter, Bool.or_eq_true, List.all_eq_true]
  exact Or.inr fun probe hprobe => h.filter e he probe (List.mem_range.mp hprobe)

end IndexedTable

/-! ## Behind a validation -/

/-- What a successful validation leaves: the filter it built, and the index it found cached when
there is a cache. -/
def LeavesIndexed (cfg : Config) (reference : TableReference) (w₀ w : World) : Prop :=
  w.dev.current = w₀.dev.current ∧ ∃ bits index,
    IndexedTable cfg w₀.dev.current reference bits index ∧
    w.db.tableKeyFilters reference.slot = ⟨reference.generation, true, bits⟩ ∧
    (cfg.optionalCaches = true → w.db.tableIndexCache reference.slot =
      ⟨reference.generation, true, index.firstKeys⟩)

lemma triple_validateTableUnsafe_indexed (w₀ : World) (reference : TableReference)
    (bank : BankBounds) :
    Triple (· = w₀) (validateTableUnsafe cfg reference bank)
      (fun _ => LeavesIndexed cfg reference w₀) (fun _ _ => True) := by
  unfold validateTableUnsafe
  refine .bind (Q := fun _ => (· = w₀)) (Triple.failIf (fun _ hw _ => hw) fun _ _ _ => trivial)
    fun _ => .bind (Q := fun _ w => w.dev = w₀.dev) (Triple.modifyDb fun w hw => hw ▸ rfl)
    fun _ => .bind (Q := fun _ w => w.dev = w₀.dev)
      (Triple.failIf (fun _ hw _ => hw) fun _ _ _ => trivial) fun _ => ?_
  refine .bind (Q := fun found w => w.dev.current = w₀.dev.current ∧
      IndexedTable cfg w₀.dev.current reference found.1 found.2)
    (Triple.readStorage (fun w found hw hread => ?_) fun _ _ _ => trivial) fun found => ?_
  · have hcurrent : w.dev.tick.current = w₀.dev.current := by
      rw [← hw]
      rfl
    rw [hw] at hread
    exact ⟨hcurrent, checkTable_indexed hread⟩
  · obtain ⟨bits, index⟩ := found
    refine .of_pure (fun _ hw => hw.2) fun hindexed => ?_
    refine .bind (Q := fun _ w => w.dev.current = w₀.dev.current ∧
        w.db.tableKeyFilters reference.slot = ⟨reference.generation, true, bits⟩)
      (Triple.modifyDb fun w hw => ⟨hw.1, Function.update_self ..⟩) fun _ =>
      .ite (fun hcaches => ?_) fun hcaches => ?_
    · refine .bind (Q := fun _ w => w.dev.current = w₀.dev.current ∧
          w.db.tableKeyFilters reference.slot = ⟨reference.generation, true, bits⟩)
        (Triple.failIf (fun _ hw _ => hw) fun _ _ _ => trivial) fun _ =>
        Triple.modifyDb fun w hw => ⟨hw.1, bits, index, hindexed, hw.2, fun _ =>
          Function.update_self ..⟩
    · exact .pure fun w hw => ⟨hw.1, bits, index, hindexed, hw.2, fun h => absurd h hcaches⟩

/-- **Cache and filter do not change answers.**  Behind a successful validation a lookup answers as
a search through all entries does, with the cache slot the validation left and without one it may
use, and the filter passes every stored key. -/
theorem lookup_independent_of_caches {reference : TableReference} {bank : BankBounds} {w w' : World}
    (h : exec (validateTableUnsafe cfg reference bank) w = (.ok (), w')) :
    w'.dev.current = w.dev.current ∧
    (∀ key db, db.tableIndexCache reference.slot = w'.db.tableIndexCache reference.slot ∨
        ¬ cacheServes cfg db reference →
      lookupTableUnsafe cfg db w'.dev.current reference key =
        tableAnswer (storedEntries cfg w.dev.current reference) key) ∧
    ∀ db, db.tableKeyFilters reference.slot = w'.db.tableKeyFilters reference.slot →
      ∀ e ∈ storedEntries cfg w.dev.current reference,
        tableKeyFilterMayContain db reference e.key = true := by
  obtain ⟨hcurrent, bits, index, hindexed, hfilter, hcache⟩ :=
    (triple_validateTableUnsafe_indexed w reference bank).ok rfl h
  refine ⟨hcurrent, fun key db hdb => ?_, fun db hdb e he => ?_⟩
  · rw [hcurrent]
    refine hindexed.lookup_eq (fun hserves => ?_) key
    rcases hdb with hdb | hdb
    · rw [hdb, hcache hserves.1]
    · exact absurd hserves hdb
  · exact hindexed.mayContain (hdb.trans hfilter) he

/-- The table of the image above is accepted, and its key found. -/
theorem lookup_independent_of_caches_stray :
    exec (validateTableUnsafe hostConfig strayReference (activeBankBounds strayManifest)) strayStart =
      (.ok (), strayChecked) ∧
    lookupTableUnsafe hostConfig strayChecked.db strayChecked.dev.current strayReference
      strayEntry.key = .ok ⟨strayEntry.transactionSequence, strayEntry.value⟩ ∧
    tableKeyFilterMayContain strayChecked.db strayReference strayEntry.key = true := by
  obtain ⟨-, hlookup, hfilter⟩ := lookup_independent_of_caches validateTableUnsafe_stray
  have hstored : storedEntries hostConfig strayStart.dev.current strayReference = [strayEntry] := rfl
  rw [hstored] at hlookup hfilter
  refine ⟨validateTableUnsafe_stray, (hlookup _ strayChecked.db (Or.inl rfl)).trans ?_,
    hfilter strayChecked.db rfl strayEntry (List.mem_singleton_self _)⟩
  simp [tableAnswer]

end On9kvdb
