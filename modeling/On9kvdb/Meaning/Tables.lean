import On9kvdb.Accept.Lookup
import On9kvdb.Lib.Versions
import On9kvdb.Snapshot.Content

/-!
# What the active tables hold

`TablesSound` is what holds of the active tables between two steps: each lies in the active table
bank, its blocks can be searched with its index and its filter, its reference covers its keys and
its sequences, and no two entries of a key have the same sequence.

Under it `lookup_tables_unsafe` finds the newest entry of a key (`lookupTablesUnsafe_newest`): the
tables it skips by their range or their filter have no entry of the key, and the ones it never
visits have no newer one.
-/

namespace On9kvdb

open Versions

variable {cfg : Config} {db db' : Db} {m m' : Media} {slot : ℕ} {reference : TableReference}
  {key : CompositeKey}

/-! ## Versions -/

/-- The versions of a database. -/
abbrev StoreVersion := Version CompositeKey StoredValue

/-- A table entry as a version. -/
def TableEntry.version (e : TableEntry) : StoreVersion := ⟨e.key, e.transactionSequence, e.value⟩

variable (cfg) in
/-- The versions in the active tables. -/
def tableVersions (db : Db) (m : Media) : Set StoreVersion :=
  {v | ∃ slot reference, db.manifest.tables slot = some reference ∧
    ∃ e ∈ storedEntries cfg m reference, v = e.version}

/-! ## Sound tables -/

/-- The filter of a slot passes the keys of the table, unless it is for another one. -/
def FilterServes (db : Db) (reference : TableReference) (entries : List TableEntry) : Prop :=
  (db.tableKeyFilters reference.slot).valid = true →
    (db.tableKeyFilters reference.slot).generation = reference.generation →
    ∀ e ∈ entries, ∀ probe < 3,
      (db.tableKeyFilters reference.slot).bits (filterBit e.key probe) = true

variable (cfg) in
/-- Lookups find their way in a table, from the media or from the caches. -/
def Searchable (db : Db) (m : Media) (reference : TableReference) : Prop :=
  ∃ bits index, IndexedTable cfg m reference bits index ∧
    (cacheServes cfg db reference →
      (db.tableIndexCache reference.slot).entries = index.firstKeys)

variable (cfg) in
/-- An active table as its readers rely on it. -/
structure TableSound (db : Db) (m : Media) (slot : ℕ) (reference : TableReference) : Prop where
  own : reference.slot = slot
  lies : slot ∈ bankSlots cfg (inputStart cfg db.manifest)
  searchable : Searchable cfg db m reference
  filter : FilterServes db reference (storedEntries cfg m reference)
  range : ∀ e ∈ storedEntries cfg m reference,
    reference.minKey ≤ e.key ∧ e.key ≤ reference.maxKey
  sequences : ∀ e ∈ storedEntries cfg m reference,
    e.transactionSequence ≤ reference.maxSequence
  recorded : reference.maxSequence ≤ db.manifest.safeCheckpointSequence
  small : ∀ e ∈ storedEntries cfg m reference, e.value.inlineSize ≤ cfg.inlineValueLen
  inBank : ∀ e ∈ storedEntries cfg m reference, valueInActiveBank cfg db.manifest e.value = true

variable (cfg) in
/-- What holds of the active tables between two steps. -/
structure TablesSound (db : Db) (m : Media) : Prop where
  table : ∀ slot reference, db.manifest.tables slot = some reference →
    TableSound cfg db m slot reference
  unambiguous : Unambiguous (tableVersions cfg db m)

/-- The sequence of an entry is not zero. -/
lemma TableEntry.transactionSequence_pos (e : TableEntry) : 0 < e.transactionSequence := by
  have hvalid := e.valid
  simp only [Bool.and_eq_true, bne_iff_ne, ne_eq] at hvalid
  exact Nat.pos_of_ne_zero hvalid.1.1

/-! ## One table -/

namespace TableSound

variable (h : TableSound cfg db m slot reference)
include h

lemma lookup (key : CompositeKey) : lookupTableUnsafe cfg db m reference key =
    tableAnswer (storedEntries cfg m reference) key := by
  obtain ⟨bits, index, hindexed, hcache⟩ := h.searchable
  exact hindexed.lookup_eq hcache key

lemma sorted : (storedEntries cfg m reference).Pairwise fun e e' => e.key < e'.key := by
  obtain ⟨bits, index, hindexed, -⟩ := h.searchable
  exact hindexed.sorted

/-- A key has one entry in a table. -/
lemma unique {e e' : TableEntry} (he : e ∈ storedEntries cfg m reference)
    (he' : e' ∈ storedEntries cfg m reference) (hkey : e'.key = e.key) : e' = e :=
  List.inj_on_of_nodup_map (List.pairwise_map.mpr (h.sorted.imp fun hlt => hlt.ne)) he' he hkey

/-- A table with an entry of the key is a candidate until it has been examined. -/
lemma candidate {e : TableEntry} (htable : db.manifest.tables slot = some reference)
    (he : e ∈ storedEntries cfg m reference) (hkey : e.key = key) {examined : List ℕ}
    (hslot : slot ∉ examined) : candidateTable db key examined slot = some reference := by
  obtain ⟨hmin, hmax⟩ := h.range e he
  rw [hkey] at hmin hmax
  have hfilter : tableKeyFilterMayContain db reference key = true := by
    unfold tableKeyFilterMayContain
    simp only [Bool.or_eq_true, Bool.not_eq_true', bne_iff_ne, ne_eq, List.all_eq_true,
      List.mem_range]
    by_cases hvalid : (db.tableKeyFilters reference.slot).valid = true
    · by_cases hgeneration : (db.tableKeyFilters reference.slot).generation = reference.generation
      · refine .inr fun probe hprobe => ?_
        rw [← hkey]
        exact h.filter hvalid hgeneration e he probe hprobe
      · exact .inl (.inr hgeneration)
    · exact .inl (.inl (by simpa using hvalid))
  unfold candidateTable
  rw [htable, Option.filter_some, if_pos]
  have hlow : compareCompositeKey key reference.minKey ≠ .lt := fun hlt =>
    absurd (compareCompositeKey_lt.mp hlt) (not_lt.mpr hmin)
  have hhigh : compareCompositeKey key reference.maxKey ≠ .gt := fun hgt =>
    absurd (compareCompositeKey_gt.mp hgt) (not_lt.mpr hmax)
  simp only [Bool.and_eq_true, Bool.not_eq_true', bne_iff_ne, ne_eq]
  exact ⟨⟨⟨by simpa using hslot, hlow⟩, hhigh⟩, hfilter⟩

end TableSound

/-- The entry a search through a table answers with. -/
lemma tableAnswer_eq_ok {entries : List TableEntry} {view : ValueView}
    (h : tableAnswer entries key = .ok view) :
    ∃ e ∈ entries, e.key = key ∧ view = ⟨e.transactionSequence, e.value⟩ := by
  unfold tableAnswer at h
  cases hfind : entries.find? fun e => e.key == key with
  | none =>
      rw [hfind] at h
      cases h
  | some e =>
      rw [hfind] at h
      cases h
      exact ⟨e, List.mem_of_find?_eq_some hfind, by simpa using List.find?_some hfind, rfl⟩

lemma tableAnswer_eq_error {entries : List TableEntry} {error : EspErr}
    (h : tableAnswer entries key = .error error) :
    error = .notFound ∧ ∀ e ∈ entries, e.key ≠ key := by
  unfold tableAnswer at h
  cases hfind : entries.find? fun e => e.key == key with
  | none =>
      rw [hfind] at h
      cases h
      exact ⟨rfl, fun e he => by simpa using List.find?_eq_none.mp hfind e he⟩
  | some e =>
      rw [hfind] at h
      cases h

/-! ## The choice of the next table -/

/-- The candidate with the greatest sequence so far. -/
def betterCandidate (db : Db) (key : CompositeKey) (examined : List ℕ)
    (best : Option (ℕ × TableReference)) (slot : ℕ) : Option (ℕ × TableReference) :=
  match candidateTable db key examined slot, best with
  | none, best => best
  | some candidate, none => some (slot, candidate)
  | some candidate, some (bestSlot, reference) =>
      if reference.maxSequence < candidate.maxSequence then some (slot, candidate)
      else some (bestSlot, reference)

/-- The best candidate among some slots. -/
def BestAmong (db : Db) (key : CompositeKey) (examined slots : List ℕ) :
    Option (ℕ × TableReference) → Prop
  | none => ∀ slot ∈ slots, candidateTable db key examined slot = none
  | some (slot, reference) => slot ∈ slots ∧ candidateTable db key examined slot = some reference ∧
      ∀ other ∈ slots, ∀ r, candidateTable db key examined other = some r →
        r.maxSequence ≤ reference.maxSequence

lemma BestAmong.better {examined slots : List ℕ} {best : Option (ℕ × TableReference)}
    (h : BestAmong db key examined slots best) (slot : ℕ) :
    BestAmong db key examined (slots ++ [slot]) (betterCandidate db key examined best slot) := by
  unfold betterCandidate
  cases hcandidate : candidateTable db key examined slot with
  | none =>
      cases best with
      | none =>
          intro other hother
          rcases List.mem_append.mp hother with hother | hother
          · exact h other hother
          · rw [List.mem_singleton.mp hother]
            exact hcandidate
      | some best =>
          obtain ⟨hslot, hbest, hgreatest⟩ := h
          refine ⟨List.mem_append_left _ hslot, hbest, fun other hother r hr => ?_⟩
          rcases List.mem_append.mp hother with hother | hother
          · exact hgreatest other hother r hr
          · rw [List.mem_singleton.mp hother, hcandidate] at hr
            cases hr
  | some candidate =>
      have hnew : slot ∈ slots ++ [slot] := List.mem_append_right _ (List.mem_singleton_self _)
      cases best with
      | none =>
          refine ⟨hnew, hcandidate, fun other hother r hr => ?_⟩
          rcases List.mem_append.mp hother with hother | hother
          · rw [h other hother] at hr
            cases hr
          · rw [List.mem_singleton.mp hother, hcandidate] at hr
            cases hr
            exact le_rfl
      | some best =>
          obtain ⟨bestSlot, reference⟩ := best
          obtain ⟨hslot, hbest, hgreatest⟩ := h
          dsimp only
          split_ifs with hlt
          · refine ⟨hnew, hcandidate, fun other hother r hr => ?_⟩
            rcases List.mem_append.mp hother with hother | hother
            · exact (hgreatest other hother r hr).trans hlt.le
            · rw [List.mem_singleton.mp hother, hcandidate] at hr
              cases hr
              exact le_rfl
          · refine ⟨List.mem_append_left _ hslot, hbest, fun other hother r hr => ?_⟩
            rcases List.mem_append.mp hother with hother | hother
            · exact hgreatest other hother r hr
            · rw [List.mem_singleton.mp hother, hcandidate] at hr
              cases hr
              exact not_lt.mp hlt

/-- **The next table** is a candidate with the greatest maximum sequence. -/
lemma nextCandidate_best (db : Db) (key : CompositeKey) (examined : List ℕ) :
    BestAmong db key examined (List.range cfg.geometry.tableCount)
      (nextCandidate cfg db key examined) := by
  have hfold : ∀ (slots seen : List ℕ) (best : Option (ℕ × TableReference)),
      BestAmong db key examined seen best → BestAmong db key examined (seen ++ slots)
        (slots.foldl (betterCandidate db key examined) best) := by
    intro slots
    induction slots with
    | nil =>
        intro seen best h
        rwa [List.append_nil]
    | cons slot rest ih =>
        intro seen best h
        rw [List.foldl_cons, List.append_cons]
        exact ih _ _ (h.better slot)
  exact hfold _ [] none fun slot hslot => absurd hslot List.not_mem_nil

/-! ## The search -/

/-- The answer of the passes so far: the newest entry of the key in the tables examined. -/
structure FoundSoFar (cfg : Config) (db : Db) (m : Media) (key : CompositeKey) (examined : Set ℕ)
    (best : Option (TableReference × ValueView)) : Prop where
  found : ∀ reference view, best = some (reference, view) → ∃ slot,
    db.manifest.tables slot = some reference ∧ ∃ e ∈ storedEntries cfg m reference,
      e.key = key ∧ view = ⟨e.transactionSequence, e.value⟩
  newest : ∀ slot ∈ examined, ∀ reference, db.manifest.tables slot = some reference →
    ∀ e ∈ storedEntries cfg m reference, e.key = key →
      e.transactionSequence ≤ (best.map fun b => b.2.transactionSequence).getD 0

section
variable {examined : List ℕ} {best : Option (TableReference × ValueView)}

/-- The passes leave no newer entry out. -/
lemma FoundSoFar.all (h : FoundSoFar cfg db m key {s | s ∈ examined} best)
    (hrest : ∀ slot, slot ∉ examined → ∀ reference, db.manifest.tables slot = some reference →
      ∀ e ∈ storedEntries cfg m reference, e.key = key →
        e.transactionSequence ≤ (best.map fun b => b.2.transactionSequence).getD 0) :
    FoundSoFar cfg db m key Set.univ best := by
  refine ⟨h.found, fun slot _ => ?_⟩
  by_cases hslot : slot ∈ examined
  · exact h.newest slot hslot
  · exact hrest slot hslot

/-- A table without a newer entry has been examined. -/
lemma FoundSoFar.examine (h : FoundSoFar cfg db m key {s | s ∈ examined} best)
    (htable : db.manifest.tables slot = some reference)
    (hle : ∀ e ∈ storedEntries cfg m reference, e.key = key →
      e.transactionSequence ≤ (best.map fun b => b.2.transactionSequence).getD 0) :
    FoundSoFar cfg db m key {s | s ∈ slot :: examined} best := by
  refine ⟨h.found, fun s hs r hr e he hkey => ?_⟩
  rcases List.mem_cons.mp hs with rfl | hs
  · rw [htable] at hr
    cases hr
    exact hle e he hkey
  · exact h.newest s hs r hr e he hkey

/-- A table with a newer entry has been examined. -/
lemma FoundSoFar.improve (h : FoundSoFar cfg db m key {s | s ∈ examined} best)
    (hsound : TableSound cfg db m slot reference)
    (htable : db.manifest.tables slot = some reference) {e : TableEntry}
    (he : e ∈ storedEntries cfg m reference) (hkey : e.key = key)
    (hlt : (best.map fun b => b.2.transactionSequence).getD 0 < e.transactionSequence) :
    FoundSoFar cfg db m key {s | s ∈ slot :: examined}
      (some (reference, ⟨e.transactionSequence, e.value⟩)) := by
  refine ⟨fun r v hrv => ?_, fun s hs r hr e' he' hkey' => ?_⟩
  · cases hrv
    exact ⟨slot, htable, e, he, hkey, rfl⟩
  · show e'.transactionSequence ≤ e.transactionSequence
    rcases List.mem_cons.mp hs with rfl | hs
    · rw [htable] at hr
      cases hr
      rw [hsound.unique he he' (hkey'.trans hkey.symm)]
    · exact (h.newest s hs r hr e' he' hkey').trans hlt.le

end

lemma mem_bankSlots_lt (hbank : db.manifest.activeTableBank < 2)
    (h : slot ∈ bankSlots cfg (inputStart cfg db.manifest)) : slot < cfg.geometry.tableCount := by
  unfold bankSlots inputStart Config.bankSize at h
  obtain ⟨i, hi, rfl⟩ := List.mem_map.mp h
  rw [List.mem_range] at hi
  have hhalf : cfg.geometry.tableCount / 2 * 2 ≤ cfg.geometry.tableCount := Nat.div_mul_le_self _ _
  rcases (by omega : db.manifest.activeTableBank = 0 ∨ db.manifest.activeTableBank = 1) with h | h
  · rw [h]
    omega
  · rw [h]
    omega

/-- **The passes find the newest entry.** -/
lemma lookupTablesLoop_best (h : TablesSound cfg db m) (hbank : db.manifest.activeTableBank < 2)
    {fuel : ℕ} {examined : List ℕ} {best : Option (TableReference × ValueView)}
    (hfuel : cfg.geometry.tableCount ≤ fuel + examined.length) (hnodup : examined.Nodup)
    (hrange : ∀ slot ∈ examined, slot < cfg.geometry.tableCount)
    (hbest : FoundSoFar cfg db m key {s | s ∈ examined} best) :
    ∃ best', lookupTablesLoop cfg db m key fuel examined best = .ok best' ∧
      FoundSoFar cfg db m key Set.univ best' := by
  induction fuel generalizing examined best with
  | zero =>
      refine ⟨best, rfl, hbest.all fun slot hfresh reference htable e he hkey => absurd ?_ hfresh⟩
      have hslot := mem_bankSlots_lt hbank (h.table slot reference htable).lies
      -- All slots have been examined.
      have hperm : examined.toFinset = Finset.range cfg.geometry.tableCount := by
        refine Finset.eq_of_subset_of_card_le (fun s hs => ?_) ?_
        · exact Finset.mem_range.mpr (hrange s (List.mem_toFinset.mp hs))
        · rw [Finset.card_range, List.toFinset_card_of_nodup hnodup]
          omega
      rw [← List.mem_toFinset, hperm, Finset.mem_range]
      exact hslot
  | succ fuel ih =>
      have hnext := @nextCandidate_best cfg db key examined
      unfold lookupTablesLoop
      dsimp only
      cases hcandidate : nextCandidate cfg db key examined with
      | none =>
          rw [hcandidate] at hnext
          refine ⟨best, rfl, hbest.all fun slot hfresh reference htable e he hkey => ?_⟩
          have hsound := h.table slot reference htable
          have hnone := hnext slot (List.mem_range.mpr (mem_bankSlots_lt hbank hsound.lies))
          rw [hsound.candidate htable he hkey hfresh] at hnone
          cases hnone
      | some next =>
          obtain ⟨slot, reference⟩ := next
          rw [hcandidate] at hnext
          obtain ⟨hslot, hcandidate', hgreatest⟩ := hnext
          have htable := candidateTable_eq_some hcandidate'
          have hsound := h.table slot reference htable
          dsimp only
          split_ifs with hstop
          · refine ⟨best, rfl, hbest.all fun other hfresh r hother e he hkey => ?_⟩
            have hothers := h.table other r hother
            have hle := hgreatest other (List.mem_range.mpr (mem_bankSlots_lt hbank hothers.lies)) r
              (hothers.candidate hother he hkey hfresh)
            have hsequence := hothers.sequences e he
            omega
          · have hfresh : slot ∉ examined := by
              unfold candidateTable at hcandidate'
              have hfilter := (Option.filter_eq_some_iff.mp hcandidate').2
              simp only [Bool.and_eq_true, Bool.not_eq_true'] at hfilter
              simpa using hfilter.1.1.1
            have hnodup' : (slot :: examined).Nodup := List.nodup_cons.mpr ⟨hfresh, hnodup⟩
            have hrange' : ∀ s ∈ slot :: examined, s < cfg.geometry.tableCount := fun s hs => by
              rcases List.mem_cons.mp hs with rfl | hs
              · exact List.mem_range.mp hslot
              · exact hrange s hs
            have hfuel' : cfg.geometry.tableCount ≤ fuel + (slot :: examined).length := by
              rw [List.length_cons]
              omega
            rw [hsound.lookup key]
            cases hanswer : tableAnswer (storedEntries cfg m reference) key with
            | error error =>
                obtain ⟨rfl, habsent⟩ := tableAnswer_eq_error hanswer
                exact ih hfuel' hnodup' hrange' (hbest.examine htable fun e he hkey =>
                  absurd hkey (habsent e he))
            | ok view =>
                obtain ⟨e, he, hkey, rfl⟩ := tableAnswer_eq_ok hanswer
                dsimp only
                split_ifs with hold hlong
                · refine ih hfuel' hnodup' hrange' (hbest.examine htable fun e' he' hkey' => ?_)
                  rw [hsound.unique he he' (hkey'.trans hkey.symm)]
                  exact hold
                · exact absurd (hsound.small e he) (not_le.mpr hlong.2)
                · exact ih hfuel' hnodup' hrange'
                    (hbest.improve hsound htable he hkey (not_le.mp hold))

/-- **A lookup in the tables finds the newest entry of the key**, or there is none in any of
them. -/
lemma lookupTablesUnsafe_newest (h : TablesSound cfg db m)
    (hbank : db.manifest.activeTableBank < 2) (hvalid : key.valid = true) :
    (∃ v, Newest (tableVersions cfg db m) key v ∧
      lookupTablesUnsafe cfg db m key = .ok ⟨v.sequence, v.value⟩) ∨
    ((∀ v ∈ tableVersions cfg db m, v.key ≠ key) ∧
      lookupTablesUnsafe cfg db m key = .error .notFound) := by
  obtain ⟨best, hloop, hbest⟩ := @lookupTablesLoop_best cfg db m key h hbank cfg.geometry.tableCount
    [] none (Nat.le_add_right _ _) List.nodup_nil (fun _ hs => absurd hs List.not_mem_nil)
    ⟨fun _ _ hnone => (by cases hnone), fun _ hs => absurd hs List.not_mem_nil⟩
  unfold lookupTablesUnsafe
  rw [rejectIf_of_not (by rw [hvalid]; decide), ok_bind, hloop, ok_bind]
  cases best with
  | none =>
      refine .inr ⟨?_, rfl⟩
      rintro v ⟨slot, reference, htable, e, he, rfl⟩ hkey
      have hle : e.transactionSequence ≤ 0 := hbest.newest slot (Set.mem_univ _) reference htable e he hkey
      have hpos := e.transactionSequence_pos
      omega
  | some found =>
      obtain ⟨reference, view⟩ := found
      obtain ⟨slot, htable, e, he, hkey, rfl⟩ := hbest.found reference view rfl
      refine .inl ⟨e.version, ⟨⟨slot, reference, htable, e, he, rfl⟩, hkey, ?_⟩, ?_⟩
      · rintro u ⟨other, r, hother, e', he', rfl⟩ hkey'
        exact hbest.newest other (Set.mem_univ _) r hother e' he' hkey'
      · dsimp only
        split_ifs
        · rfl
        · -- The table is read again, with the same answer.
          rw [(h.table slot reference htable).lookup key]
          unfold tableAnswer
          cases hfind : (storedEntries cfg m reference).find? fun e => e.key == key with
          | none =>
              have hnone := List.find?_eq_none.mp hfind e he
              simp [hkey] at hnone
          | some e' =>
              have hkey' : e'.key = key := by simpa using List.find?_some hfind
              rw [(h.table slot reference htable).unique he (List.mem_of_find?_eq_some hfind)
                (hkey'.trans hkey.symm)]
              rfl

end On9kvdb
