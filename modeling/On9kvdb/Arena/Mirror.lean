import On9kvdb.Arena.Overlay

/-!
# The staged mutations of an instance

`Db` keeps the staged mutations as a list of keys and values.  `withStaging` is the instance whose
list is read off a staging area; on it the methods of `Store.Transaction` do what the methods on the
area do.
-/

namespace On9kvdb

variable {cfg : Config} {db : Db} {raw : ℕ} {s : StagingArea} {values : ℕ → StoredValue}
  {key value : Bytes} {kind : MutationKind}

/-- A slot as the list keeps it. -/
def StagingArea.mutation (s : StagingArea) (i : ℕ) : Mutation where
  key := (s.mutations i).key
  value := s.value i
  previousState := (s.mutations i).previousState
  previousValueSize := (s.mutations i).previousValueSize

/-- The staged mutations, in the order of their slots. -/
def StagingArea.toMutations (s : StagingArea) : List Mutation :=
  (List.range s.mutationCount).map s.mutation

/-- The instance whose staged mutations are those of an area. -/
def Db.withStaging (db : Db) (s : StagingArea) : Db :=
  { db with
    transaction := { db.transaction with
      mutations := s.toMutations
      stagedValueBytes := s.stagedValueBytes } }

/-! ## Searching -/

lemma findStagedMutationUnsafe_withStaging (db : Db) (s : StagingArea) (key : Bytes) :
    findStagedMutationUnsafe (db.withStaging s).transaction key =
      (s.findStagedMutationUnsafe key).map s.mutation := by
  unfold findStagedMutationUnsafe StagingArea.findStagedMutationUnsafe
  split_ifs
  · show (List.map s.mutation (List.range s.mutationCount)).find? _ = _
    rw [List.find?_map]
    rfl
  · rfl

/-- **The overlay of the instance is the overlay of the area.** -/
theorem lookupTransactionUnsafe_withStaging (db : Db) (s : StagingArea) (m : Media)
    (namespaceName key : Bytes) :
    lookupTransactionUnsafe cfg (db.withStaging s) m namespaceName key =
      s.lookupTransactionUnsafe
        (fun key => lookupCommittedUnsafe cfg (db.withStaging s) m ⟨namespaceName, key⟩) key := by
  unfold lookupTransactionUnsafe StagingArea.lookupTransactionUnsafe
  rw [findStagedMutationUnsafe_withStaging]
  cases s.findStagedMutationUnsafe key <;> rfl

lemma getTransactionUnsafe_withStaging (db : Db) (s : StagingArea) (raw : ℕ) :
    getTransactionUnsafe cfg (db.withStaging s) raw = getTransactionUnsafe cfg db raw := rfl

/-- A key is staged in the list exactly when it has a slot. -/
lemma StagingSound.any_key (h : StagingSound cfg s values) (key : Bytes) :
    (s.toMutations.any fun m => m.key == key) = (s.findStagedMutationUnsafe key).isSome := by
  rw [Bool.eq_iff_iff, List.any_eq_true, Option.isSome_iff_exists]
  constructor
  · rintro ⟨m, hm, hkey⟩
    obtain ⟨i, hi, rfl⟩ := List.mem_map.mp hm
    exact ⟨i, h.find_eq_some.mpr ⟨List.mem_range.mp hi, beq_iff_eq.mp hkey⟩⟩
  · rintro ⟨i, hfind⟩
    obtain ⟨hi, hkey⟩ := h.find_eq_some.mp hfind
    exact ⟨_, List.mem_map.mpr ⟨i, List.mem_range.mpr hi, rfl⟩, beq_iff_eq.mpr hkey⟩

/-! ## Staging -/

/-- The list with the value of a key replaced is the list of an area that has staged it. -/
lemma StagedAt.putMutation_mirrors {s' : StagingArea} {idx : ℕ} {v : StoredValue}
    (hat : StagedAt s s' key idx) (h : StagingSound cfg s values)
    (h' : StagingSound cfg s' (Function.update values idx v))
    (hcount : s'.mutationCount = if idx < s.mutationCount then s.mutationCount
      else s.mutationCount + 1)
    (hslot : (s'.mutations idx).previousState = (if idx < s.mutationCount then
        (s.mutations idx).previousState else .none) ∧
      (s'.mutations idx).previousValueSize = (if idx < s.mutationCount then
        (s.mutations idx).previousValueSize else 0)) :
    putMutation s.toMutations key v = s'.toMutations := by
  have hnew : s'.mutation idx =
      ⟨key, v, (s'.mutations idx).previousState, (s'.mutations idx).previousValueSize⟩ := by
    unfold StagingArea.mutation
    rw [h'.value_eq hat.idx_lt, Function.update_self, hat.key_eq]
  have hother : ∀ j < s'.mutationCount, j ≠ idx → s'.mutation j = s.mutation j := fun j hj hne => by
    obtain ⟨hj', hsame⟩ := hat.others j hj hne
    unfold StagingArea.mutation
    rw [h'.value_eq hj, h.value_eq hj', Function.update_of_ne hne]
    obtain ⟨_, hsame⟩ := hsame
    rw [hsame]
  unfold putMutation
  rw [h.any_key]
  by_cases hidx : idx < s.mutationCount
  · rw [if_pos hidx] at hcount
    rw [if_pos hidx, if_pos hidx] at hslot
    rw [if_pos (by rw [h.find_eq_some.mpr ⟨hidx, hat.old hidx⟩]; rfl)]
    unfold StagingArea.toMutations
    rw [hcount, List.map_map]
    refine List.map_congr_left fun j hj => ?_
    have hj' := List.mem_range.mp hj
    by_cases hne : j = idx
    · subst hne
      have hkey : (s.mutation j).key = key := hat.old hidx
      rw [Function.comp_apply, if_pos hkey, hnew, hslot.1, hslot.2, ← hkey]
      rfl
    · have hkey : (s.mutation j).key ≠ key := fun heq =>
        hne (h.distinct j hj' idx hidx (heq.trans (hat.old hidx).symm))
      rw [Function.comp_apply, if_neg hkey, hother j (hcount ▸ hj') hne]
  · have hend : idx = s.mutationCount := by
      have hlt := hat.idx_lt
      rw [if_neg hidx] at hcount
      omega
    rw [if_neg hidx] at hcount
    rw [if_neg hidx, if_neg hidx] at hslot
    have habsent : s.findStagedMutationUnsafe key = none :=
      h.find_eq_none.mpr fun i hi hkey => by
        have hne : i ≠ idx := by omega
        have hi' : i < s'.mutationCount := by omega
        have hkey' := (hat.others i hi' hne).2.key_eq
        exact hne (h'.distinct i hi' idx hat.idx_lt (by rw [hkey', hkey, hat.key_eq]))
    rw [habsent, if_neg (by simp)]
    unfold StagingArea.toMutations
    rw [hcount, List.range_succ, List.map_append, List.map_singleton, ← hend, hnew, hslot.1,
      hslot.2]
    refine congrArg (· ++ _) (List.map_congr_left fun j hj => ?_)
    have hj' := List.mem_range.mp hj
    exact (hother j (by omega) (by omega)).symm

/-- The fields a vacated slot keeps from the mutation it held. -/
lemma StagingSound.vacated_slot (h : StagingSound cfg s values) (key : Bytes) :
    ((s.vacated key).mutationCount =
      if s.slotOf key < s.mutationCount then s.mutationCount else s.mutationCount + 1) ∧
    (((s.vacated key).mutations (s.slotOf key)).previousState =
      if s.slotOf key < s.mutationCount then (s.mutations (s.slotOf key)).previousState
      else .none) ∧
    ((s.vacated key).mutations (s.slotOf key)).previousValueSize =
      if s.slotOf key < s.mutationCount then (s.mutations (s.slotOf key)).previousValueSize
      else 0 := by
  unfold StagingArea.vacated StagingArea.slotOf
  cases hfind : s.findStagedMutationUnsafe key with
  | some idx =>
      obtain ⟨hidx, -⟩ := h.find_eq_some.mp hfind
      unfold StagingArea.vacate
      dsimp only
      simp only [if_pos hidx]
      split_ifs
      · unfold StagingArea.withdraw
        simp
      · exact ⟨rfl, rfl, rfl⟩
  | none =>
      have hidx : ¬ s.mutationCount < s.mutationCount := lt_irrefl _
      unfold StagingArea.vacate
      dsimp only
      simp only [if_neg hidx, Function.update_self, and_self]

lemma StagingSound.put_mirrors (h : StagingSound cfg s values)
    (hkind : kind = .tombstone → value = []) {s' : StagingArea}
    (hok : s.stageValueUnsafe cfg db raw key value kind = .ok s') :
    putMutation s.toMutations key (kind.value value) = s'.toMutations := by
  obtain ⟨hat, hsound⟩ := h.stageValue hkind hok
  obtain ⟨hcount, hstate, hsize⟩ := h.vacated_slot key
  obtain ⟨-, -, -, -, rfl⟩ := stageValueUnsafe_ok hok
  refine hat.putMutation_mirrors h hsound hcount ⟨?_, ?_⟩
  · rw [StagingArea.put_mutations_self]
    exact hstate
  · rw [StagingArea.put_mutations_self]
    exact hsize

/-- **Staging a value in the instance is staging it in the area.** -/
theorem StagingSound.stageValue_mirrors (h : StagingSound cfg s values)
    (hkind : kind = .tombstone → value = []) (db : Db) (raw : ℕ) (key : Bytes) :
    stageValueUnsafe cfg (db.withStaging s) raw key (kind.value value) =
      (s.stageValueUnsafe cfg db raw key value kind).map db.withStaging := by
  have hsize : (kind.value value).inlineSize = value.length :=
    congrArg List.length (MutationKind.inlineBytes_value hkind)
  have hold : ((findStagedMutationUnsafe (db.withStaging s).transaction key).map fun m =>
      m.value.inlineSize).getD 0 = s.oldValueSize key := by
    unfold StagingArea.oldValueSize
    rw [findStagedMutationUnsafe_withStaging]
    cases hfind : s.findStagedMutationUnsafe key with
    | none => rfl
    | some idx =>
        obtain ⟨hidx, -⟩ := h.find_eq_some.mp hfind
        show (s.value idx).inlineSize = (s.mutations idx).heldSize
        rw [h.heldSize_eq hidx, h.value_eq hidx]
  have hlength : (db.withStaging s).transaction.mutations.length = s.mutationCount := by
    show ((List.range s.mutationCount).map s.mutation).length = _
    rw [List.length_map, List.length_range]
  have hused : (db.withStaging s).transaction.stagedValueBytes = s.stagedValueBytes := rfl
  have hstaged : (s.stageValueUnsafe cfg db raw key value kind).map db.withStaging =
      (s.stageValueUnsafe cfg db raw key value kind).bind fun _ => .ok { db.withStaging s with
        transaction := { (db.withStaging s).transaction with
          mutations := putMutation s.toMutations key (kind.value value)
          stagedValueBytes := s.stagedValueBytes - s.oldValueSize key + value.length } } := by
    cases hok : s.stageValueUnsafe cfg db raw key value kind with
    | error e => rfl
    | ok s' =>
        have hlist := h.put_mirrors hkind hok
        obtain ⟨-, -, -, -, rfl⟩ := stageValueUnsafe_ok hok
        show Except.ok _ = Except.ok _
        rw [hlist]
        rfl
  rw [hstaged]
  unfold stageValueUnsafe StagingArea.stageValueUnsafe
  dsimp only
  rw [hsize, hold, hlength, hused, getTransactionUnsafe_withStaging]
  by_cases hinvalid : validateBytes key = false ∨ cfg.inlineValueLen < value.length
  · rw [rejectIf_of hinvalid]
    rfl
  rw [rejectIf_of_not hinvalid]
  cases getTransactionUnsafe cfg db raw with
  | error e => rfl
  | ok handle =>
      simp only [ok_bind]
      by_cases hbytes : cfg.limits.transactionStagingBytes <
          s.stagedValueBytes - s.oldValueSize key + value.length
      · rw [rejectIf_of hbytes]
        rfl
      rw [rejectIf_of_not hbytes]
      have hnew : (findStagedMutationUnsafe (db.withStaging s).transaction key = none ∧
          cfg.limits.maxTransactionMutations ≤ s.mutationCount) ↔
          (s.findStagedMutationUnsafe key = none ∧
            cfg.limits.maxTransactionMutations ≤ s.mutationCount) := by
        rw [findStagedMutationUnsafe_withStaging, Option.map_eq_none_iff]
      by_cases hfull : s.findStagedMutationUnsafe key = none ∧
          cfg.limits.maxTransactionMutations ≤ s.mutationCount
      · rw [ok_bind, ok_bind, rejectIf_of hfull, rejectIf_of (hnew.mpr hfull)]
        rfl
      · rw [ok_bind, ok_bind, rejectIf_of_not hfull, rejectIf_of_not (mt hnew.mp hfull)]
        rfl

/-- Turning a staged empty value into a descriptor replaces it in the list. -/
lemma StagingSound.describe_mirrors (h : StagingSound cfg s values) {idx : ℕ}
    (hidx : idx < s.mutationCount) (hempty : values idx = .inline []) (reference : ValueRef) :
    putMutation s.toMutations (s.mutations idx).key (.external reference) =
      (s.describe idx reference).toMutations := by
  have hslot := s.describe_mutations_self idx reference
  have hat : StagedAt s (s.describe idx reference) (s.mutations idx).key idx :=
    ⟨hidx, by rw [hslot], le_rfl, fun j hj hne => ⟨hj, by
      rw [StagingArea.describe_mutations_of_ne _ hne]
      exact .of_eq rfl⟩, fun _ => rfl⟩
  refine hat.putMutation_mirrors h (h.describe hidx hempty reference) ?_ ?_
  · rw [if_pos hidx]
    rfl
  · rw [if_pos hidx, if_pos hidx, hslot]
    exact ⟨rfl, rfl⟩

/-- **Staging a descriptor in the instance is staging it in the area.** -/
theorem StagingSound.stageExternalValue_mirrors (h : StagingSound cfg s values) (db : Db)
    (raw : ℕ) (key : Bytes) (reference : ValueRef) :
    stageExternalValueUnsafe cfg (db.withStaging s) raw key reference =
      match s.stageExternalValueUnsafe cfg db raw key reference with
      | (.ok _, s') => .ok (db.withStaging s')
      | (.error e, _) => .error e := by
  have hmirrors : stageValueUnsafe cfg (db.withStaging s) raw key (MutationKind.set.value []) =
      (s.stageValueUnsafe cfg db raw key [] .set).map db.withStaging :=
    h.stageValue_mirrors (fun _ => rfl) db raw key
  have hmanifest : (db.withStaging s).manifest = db.manifest := rfl
  unfold stageExternalValueUnsafe StagingArea.stageExternalValueUnsafe
  rw [hmanifest]
  by_cases hbank : valueRefMatchesBankUnsafe cfg reference db.manifest.activeValueBank
      (db.manifest.valueBankGeneration db.manifest.activeValueBank)
      cfg.geometry.valueBankSize = false
  · rw [if_pos hbank, rejectIf_of hbank]
    rfl
  rw [if_neg hbank, rejectIf_of_not hbank]
  show (stageValueUnsafe cfg (db.withStaging s) raw key (MutationKind.set.value []) >>= _) = _
  rw [hmirrors]
  cases hstage : s.stageValueUnsafe cfg db raw key [] .set with
  | error e => rfl
  | ok staged =>
      obtain ⟨-, ⟨handle, htransaction⟩, -⟩ := stageValueUnsafe_ok hstage
      obtain ⟨hat, hstaged⟩ := h.stageValue (fun _ => rfl) hstage
      have hfind := hstaged.find_eq_some.mpr ⟨hat.idx_lt, hat.key_eq⟩
      have hlist := hstaged.describe_mirrors hat.idx_lt (Function.update_self ..) reference
      rw [hat.key_eq] at hlist
      simp only [htransaction, hfind]
      show Except.ok _ = Except.ok _
      congr 1
      unfold Db.withStaging
      rw [← hlist]
      rfl

/-- **A compaction replaces the values in the list one by one.** -/
theorem StagingSound.relocateStaged_mirrors (h : StagingSound cfg s values)
    (copy : Bytes → DescriptorCopy) :
    (s.relocateStaged fun key => (copy key).place).toMutations =
      s.toMutations.map fun m => { m with value := (copy m.key).relocate m.value } := by
  unfold StagingArea.toMutations
  rw [List.map_map]
  refine List.map_congr_left fun i hi => ?_
  have hi' : i < s.mutationCount := List.mem_range.mp hi
  have hcarries := h.carries i hi'
  have hvalue := h.value_eq hi'
  unfold StagingArea.mutation
  rw [Function.comp_apply, hvalue]
  unfold StagingArea.relocateStaged StagingArea.value
  dsimp only
  cases hv : values i with
  | external r =>
      rw [hv] at hcarries
      obtain ⟨hkind, hexternal, href, -⟩ := hcarries
      simp [hi', hkind, hexternal, href, DescriptorCopy.relocate]
  | tombstone =>
      rw [hv] at hcarries
      obtain ⟨hkind, hexternal, -⟩ := hcarries
      simp [hkind, hexternal, DescriptorCopy.relocate]
  | «inline» bytes =>
      rw [hv] at hcarries hvalue
      obtain ⟨hkind, hexternal, hsize⟩ := hcarries
      unfold StagingArea.value at hvalue
      simp only [hkind, hexternal, Bool.false_eq_true, if_false] at hvalue
      simp [hkind, hexternal, DescriptorCopy.relocate, hvalue]

end On9kvdb
