import On9kvdb.Arena.Record
import On9kvdb.Format.KeyBuffer
import On9kvdb.Lib.HeapOrder

/-!
# Sorting the memtable

`sort_memtable_offsets_unsafe` with its 32-bit index arithmetic, on an array of which every
access is checked, and with the comparison of the records the offsets point to.  It does what
`HeapSort.sort` does by the key of the record (`sortOffsets_eq`), so it sorts.
-/

namespace On9kvdb

open PackedArena

/-! ## Comparing two records -/

lemma CompositeKey.sizes_valid {k : CompositeKey} (h : k.valid = true) :
    (0 < k.namespaceName.length ∧ k.namespaceName.length ≤ maxNameLen) ∧
      0 < k.key.length ∧ k.key.length ≤ maxNameLen := by
  simpa only [CompositeKey.valid, validateBytes, Bool.and_eq_true, decide_eq_true_eq] using h

/-- The buffers a valid key is copied to. -/
def KeyBuffer.ofKey (k : CompositeKey) (h : k.valid = true) : KeyBuffer where
  namespaceSize := k.namespaceName.length
  keySize := k.key.length
  namespaceName := k.namespaceName ++ List.replicate (maxNameLen - k.namespaceName.length) 0
  key := k.key ++ List.replicate (maxNameLen - k.key.length) 0
  namespaceSize_valid := (CompositeKey.sizes_valid h).1
  keySize_valid := (CompositeKey.sizes_valid h).2
  namespaceName_length := by
    rw [List.length_append, List.length_replicate,
      Nat.add_sub_cancel' (CompositeKey.sizes_valid h).1.2]
  key_length := by
    rw [List.length_append, List.length_replicate,
      Nat.add_sub_cancel' (CompositeKey.sizes_valid h).2.2]

@[simp] lemma KeyBuffer.toKey_ofKey (k : CompositeKey) (h : k.valid = true) :
    (KeyBuffer.ofKey k h).toKey = k := by
  simp [ofKey, toKey, namespaceBytes, keyBytes]

/-- `copy_composite_key`; `none`: a name is empty, or longer than its buffer. -/
def copyCompositeKey (namespaceName key : Bytes) : Option KeyBuffer :=
  if h : (CompositeKey.mk namespaceName key).valid = true then some (.ofKey ⟨namespaceName, key⟩ h)
  else none

section Comparison

variable (c : Memcmp) (memtableData : ℕ → UInt8) (namespaces : List Bytes)

/-- The key of the record at an offset, copied. -/
def recordKeyBuffer (offset : UInt32) : Option KeyBuffer := do
  let name ← namespaces[(readHeader memtableData offset.toNat).namespaceSlotIndex]?
  copyCompositeKey name (keyAt memtableData offset.toNat)

/-- `compare_memtable_records_unsafe`. -/
def compareMemtableRecordsUnsafe (lhsOffset rhsOffset : UInt32) : Option ℤ := do
  let lhsKey ← recordKeyBuffer memtableData namespaces lhsOffset
  let rhsKey ← recordKeyBuffer memtableData namespaces rhsOffset
  return compareCompositeKeyBuffers c lhsKey rhsKey

end Comparison

/-! ## The sort -/

section Sorting

variable (compareRecords : UInt32 → UInt32 → Option ℤ) (size rounds : ℕ)

/-- `offsets[i]` in an array of `size` elements. -/
def offsetAt (offsets : ℕ → UInt32) (i : UInt32) : Option UInt32 :=
  if i.toNat < size then some (offsets i.toNat) else none

/-- Exchanges two elements. -/
def exchangeOffsets (offsets : ℕ → UInt32) (i j : UInt32) : Option (ℕ → UInt32) := do
  let temporary ← offsetAt size offsets i
  let other ← offsetAt size offsets j
  return Function.update (Function.update offsets i.toNat other) j.toNat temporary

/-- The child a sift compares with: the right one when it exists and the left one is smaller. -/
def chooseChild (offsets : ℕ → UInt32) (count child : UInt32) : Option UInt32 :=
  if child + 1 < count then do
    let lhs ← offsetAt size offsets child
    let rhs ← offsetAt size offsets (child + 1)
    let comparison ← compareRecords lhs rhs
    return if comparison < 0 then child + 1 else child
  else some child

/-- The loop of `sift_memtable_offsets_unsafe`; `none` also when more than `fuel` rounds are
needed. -/
def siftLoop : (fuel : ℕ) → (offsets : ℕ → UInt32) → (count root : UInt32) → Option (ℕ → UInt32)
  | 0, _, _, _ => none
  | fuel + 1, offsets, count, root =>
      if root ≤ (count - 2) / 2 then do
        let child ← chooseChild compareRecords size offsets count (root * 2 + 1)
        let lhs ← offsetAt size offsets root
        let rhs ← offsetAt size offsets child
        let comparison ← compareRecords lhs rhs
        if 0 ≤ comparison then pure offsets
        else do
          let offsets ← exchangeOffsets size offsets root child
          siftLoop fuel offsets count child
      else pure offsets

/-- `sift_memtable_offsets_unsafe`. -/
def siftMemtableOffsetsUnsafe (offsets : ℕ → UInt32) (count root : UInt32) :
    Option (ℕ → UInt32) :=
  if count < 2 then pure offsets else siftLoop compareRecords size rounds offsets count root

/-- The first loop of `sort_memtable_offsets_unsafe`. -/
def heapifyLoop : (fuel : ℕ) → (offsets : ℕ → UInt32) → (count root : UInt32) →
    Option (ℕ → UInt32)
  | 0, _, _, _ => none
  | fuel + 1, offsets, count, root =>
      if 0 < root then do
        let offsets ← siftMemtableOffsetsUnsafe compareRecords size rounds offsets count (root - 1)
        heapifyLoop fuel offsets count (root - 1)
      else pure offsets

/-- The second loop of `sort_memtable_offsets_unsafe`. -/
def drainLoop : (fuel : ℕ) → (offsets : ℕ → UInt32) → (last : UInt32) → Option (ℕ → UInt32)
  | 0, _, _ => none
  | fuel + 1, offsets, last =>
      if 1 < last then do
        let offsets ← exchangeOffsets size offsets 0 (last - 1)
        let offsets ← siftMemtableOffsetsUnsafe compareRecords size rounds offsets (last - 1) 0
        drainLoop fuel offsets (last - 1)
      else pure offsets

/-- `sort_memtable_offsets_unsafe`. -/
def sortMemtableOffsetsUnsafe (offsets : ℕ → UInt32) (count : UInt32) : Option (ℕ → UInt32) :=
  if count < 2 then pure offsets
  else do
    let offsets ← heapifyLoop compareRecords size rounds rounds offsets count (count / 2)
    drainLoop compareRecords size rounds rounds offsets count

end Sorting

/-! ## What the sort computes -/

section Refinement

variable {compareRecords : UInt32 → UInt32 → Option ℤ} {lt : UInt32 → UInt32 → Bool}
  {known : Set UInt32} {size : ℕ}

/-- On the offsets of a set the comparison succeeds, with the sign of a strict order. -/
def ComparesBy (compareRecords : UInt32 → UInt32 → Option ℤ) (lt : UInt32 → UInt32 → Bool)
    (known : Set UInt32) : Prop :=
  ∀ lhs ∈ known, ∀ rhs ∈ known, ∃ comparison, compareRecords lhs rhs = some comparison ∧
    (comparison < 0 ↔ lt lhs rhs = true)

lemma offsetAt_of_lt (offsets : ℕ → UInt32) {i : UInt32} (h : i.toNat < size) :
    offsetAt size offsets i = some (offsets i.toNat) := if_pos h

lemma exchangeOffsets_eq (offsets : ℕ → UInt32) {i j : UInt32} (hi : i.toNat < size)
    (hj : j.toNat < size) :
    exchangeOffsets size offsets i j = some (offsets ∘ Equiv.swap i.toNat j.toNat) := by
  unfold exchangeOffsets
  rw [offsetAt_of_lt offsets hi, offsetAt_of_lt offsets hj]
  refine congrArg some (funext fun k => ?_)
  by_cases hk : k = j.toNat
  · subst hk
    simp
  · by_cases hk' : k = i.toNat
    · subst hk'
      simp [Function.update_of_ne hk]
    · simp [Function.update_of_ne hk, Function.update_of_ne hk',
        Equiv.swap_apply_of_ne_of_ne hk' hk]

lemma UInt32.toNat_pred {n : UInt32} (h : 0 < n.toNat) : (n - 1).toNat = n.toNat - 1 := by
  have hle : 1 ≤ n := by
    rw [UInt32.le_iff_toNat_le]
    exact h
  rw [UInt32.toNat_sub_of_le _ _ hle]
  rfl

/-- The index arithmetic of a sift does not wrap. -/
lemma root_le_iff {count root : UInt32} (hcount : 2 ≤ count.toNat) :
    root ≤ (count - 2) / 2 ↔ root.toNat ≤ (count.toNat - 2) / 2 := by
  have hle : 2 ≤ count := by
    rw [UInt32.le_iff_toNat_le]
    exact hcount
  rw [UInt32.le_iff_toNat_le, UInt32.toNat_div, UInt32.toNat_sub_of_le _ _ hle]
  rfl

lemma child_toNat {count root : UInt32} (hcount : 2 ≤ count.toNat)
    (hroot : root.toNat ≤ (count.toNat - 2) / 2) :
    (root * 2 + 1).toNat = root.toNat * 2 + 1 ∧
      (root * 2 + 1 + 1).toNat = root.toNat * 2 + 1 + 1 := by
  have hbound := count.toNat_lt
  have hdouble : (root * 2).toNat = root.toNat * 2 := by
    rw [UInt32.toNat_mul]
    exact Nat.mod_eq_of_lt (by change root.toNat * 2 < _; omega)
  have hchild : (root * 2 + 1).toNat = root.toNat * 2 + 1 := by
    rw [UInt32.toNat_add, hdouble]
    exact Nat.mod_eq_of_lt (by change root.toNat * 2 + 1 < _; omega)
  refine ⟨hchild, ?_⟩
  rw [UInt32.toNat_add, hchild]
  exact Nat.mod_eq_of_lt (by change root.toNat * 2 + 1 + 1 < _; omega)

variable {offsets : ℕ → UInt32}

/-- The choice of the child. -/
lemma chooseChild_eq (hcmp : ComparesBy compareRecords lt known) (hknown : ∀ i < size, offsets i ∈ known)
    {count root : UInt32} (hsize : count.toNat ≤ size) (hcount : 2 ≤ count.toNat)
    (hroot : root.toNat ≤ (count.toNat - 2) / 2) :
    ∃ child : UInt32, child.toNat = HeapSort.largerChild lt offsets count.toNat root.toNat ∧
      chooseChild compareRecords size offsets count (root * 2 + 1) = some child := by
  obtain ⟨hleft, hright⟩ := child_toNat hcount hroot
  unfold HeapSort.largerChild chooseChild
  dsimp only
  by_cases hlast : root * 2 + 1 + 1 < count
  · have hlast' : root.toNat * 2 + 1 + 1 < count.toNat := by
      rw [← hright]
      exact UInt32.lt_iff_toNat_lt.mp hlast
    obtain ⟨comparison, hcomparison, hsign⟩ := hcmp _ (hknown (root.toNat * 2 + 1) (by omega)) _
      (hknown (root.toNat * 2 + 1 + 1) (by omega))
    rw [if_pos hlast, offsetAt_of_lt _ (by omega), offsetAt_of_lt _ (by omega), hleft, hright]
    simp only [Option.bind_eq_bind, Option.bind_some, hcomparison]
    by_cases hless : lt (offsets (root.toNat * 2 + 1)) (offsets (root.toNat * 2 + 1 + 1)) = true
    · exact ⟨root * 2 + 1 + 1, by rw [if_pos (And.intro hlast' hless), hright],
        congrArg some (if_pos (hsign.mpr hless))⟩
    · exact ⟨root * 2 + 1, by rw [if_neg (fun h => hless h.2), hleft],
        congrArg some (if_neg (mt hsign.mp hless))⟩
  · have hlast' : ¬ root.toNat * 2 + 1 + 1 < count.toNat := by
      rw [← hright, ← UInt32.lt_iff_toNat_lt]
      exact hlast
    exact ⟨root * 2 + 1, by rw [if_neg (fun h => hlast' h.1), hleft], if_neg hlast⟩

lemma siftLoop_eq (hcmp : ComparesBy compareRecords lt known)
    (hknown : ∀ i < size, offsets i ∈ known) {fuel fuel' : ℕ} {count root : UInt32}
    (hsize : count.toNat ≤ size) (hcount : 2 ≤ count.toNat) (hroot : root.toNat < count.toNat)
    (hfuel : count.toNat ≤ fuel + root.toNat) (hfuel' : count.toNat ≤ fuel' + root.toNat) :
    siftLoop compareRecords size fuel offsets count root =
      some (HeapSort.sift lt fuel' offsets count.toNat root.toNat) := by
  induction fuel generalizing fuel' offsets root with
  | zero => omega
  | succ fuel ih =>
      obtain ⟨fuel', rfl⟩ : ∃ n, fuel' = n + 1 := ⟨fuel' - 1, by omega⟩
      rw [siftLoop, HeapSort.sift]
      by_cases hhas : root.toNat ≤ (count.toNat - 2) / 2
      · rw [if_pos ((root_le_iff hcount).mpr hhas), if_pos (And.intro hcount hhas)]
        obtain ⟨child, hchild, hchoice⟩ := chooseChild_eq hcmp hknown hsize hcount hhas
        have hlt := HeapSort.lt_largerChild lt offsets count.toNat root.toNat
        have hinside := @HeapSort.largerChild_lt _ lt offsets _ _ ⟨hcount, hhas⟩
        rw [← hchild] at hlt hinside
        obtain ⟨comparison, hcomparison, hsign⟩ := hcmp _ (hknown root.toNat (by omega)) _
          (hknown child.toNat (by omega))
        dsimp only
        rw [hchoice, ← hchild]
        simp only [Option.bind_eq_bind, Option.bind_some, hcomparison,
          offsetAt_of_lt offsets (hroot.trans_le hsize), offsetAt_of_lt offsets
            (hinside.trans_le hsize)]
        by_cases hless : lt (offsets root.toNat) (offsets child.toNat) = true
        · have hswap := exchangeOffsets_eq offsets (hroot.trans_le hsize) (hinside.trans_le hsize)
          have hfixes := HeapSort.fixesFrom_swap (hroot.trans_le hsize) (hinside.trans_le hsize)
          rw [if_neg (not_le.mpr (hsign.mpr hless)), if_pos hless, hswap]
          exact ih (fun i hi => hknown _ (hfixes.inside hi)) hinside (by omega) (by omega)
        · rw [if_pos (not_lt.mp (mt hsign.mp hless)), if_neg hless]
          rfl
      · rw [if_neg (mt (root_le_iff hcount).mp hhas), if_neg (fun h => hhas h.2)]
        rfl

/-- What a permutation of the array leaves in it. -/
lemma known_comp (hknown : ∀ i < size, offsets i ∈ known) {σ : Equiv.Perm ℕ} {count : ℕ}
    (hfix : HeapSort.FixesFrom σ count) (hsize : count ≤ size) :
    ∀ i < size, (offsets ∘ ⇑σ) i ∈ known := fun _ hi => hknown _ ((hfix.mono hsize).inside hi)

lemma siftMemtableOffsetsUnsafe_eq (hcmp : ComparesBy compareRecords lt known)
    (hknown : ∀ i < size, offsets i ∈ known) {rounds fuel : ℕ} {count root : UInt32}
    (hsize : count.toNat ≤ size) (hroot : root.toNat < count.toNat)
    (hrounds : count.toNat ≤ rounds) (hfuel : count.toNat ≤ fuel) :
    siftMemtableOffsetsUnsafe compareRecords size rounds offsets count root =
      some (HeapSort.sift lt fuel offsets count.toNat root.toNat) := by
  unfold siftMemtableOffsetsUnsafe
  by_cases hcount : count < 2
  · have hless : count.toNat < 2 := UInt32.lt_iff_toNat_lt.mp hcount
    rw [if_pos hcount]
    cases fuel with
    | zero => rfl
    | succ fuel =>
        rw [HeapSort.sift, if_neg (by omega)]
        rfl
  · have hless : ¬ count.toNat < 2 := fun h => hcount (UInt32.lt_iff_toNat_lt.mpr h)
    rw [if_neg hcount]
    exact siftLoop_eq hcmp hknown hsize (by omega) hroot (by omega) (by omega)

lemma heapifyLoop_eq (hcmp : ComparesBy compareRecords lt known)
    (hknown : ∀ i < size, offsets i ∈ known) {rounds fuel : ℕ} {count root : UInt32}
    (hsize : count.toNat ≤ size) (hroot : root.toNat ≤ count.toNat)
    (hrounds : count.toNat ≤ rounds) (hfuel : root.toNat < fuel) :
    heapifyLoop compareRecords size rounds fuel offsets count root =
      some (HeapSort.heapify lt offsets count.toNat root.toNat) := by
  induction fuel generalizing offsets root with
  | zero => omega
  | succ fuel ih =>
      rw [heapifyLoop]
      by_cases hpos : 0 < root
      · have hpos' : 0 < root.toNat := UInt32.lt_iff_toNat_lt.mp hpos
        have hpred := UInt32.toNat_pred hpos'
        have hsucc : root.toNat = (root - 1).toNat + 1 := by omega
        rw [if_pos hpos, siftMemtableOffsetsUnsafe_eq hcmp hknown hsize (by omega) hrounds le_rfl,
          hsucc, HeapSort.heapify]
        obtain ⟨σ, hσ, hfix⟩ := HeapSort.sift_eq_comp lt count.toNat offsets count.toNat
          (root - 1).toNat
        rw [hσ]
        exact ih (known_comp hknown hfix hsize) (by omega) (by omega)
      · have hzero : root.toNat = 0 := by
          by_contra hne
          exact hpos (UInt32.lt_iff_toNat_lt.mpr (Nat.pos_of_ne_zero hne))
        rw [if_neg hpos, hzero]
        rfl

lemma drainLoop_eq (hcmp : ComparesBy compareRecords lt known)
    (hknown : ∀ i < size, offsets i ∈ known) {rounds fuel : ℕ} {last : UInt32}
    (hsize : last.toNat ≤ size) (hrounds : last.toNat ≤ rounds) (hpos : 0 < last.toNat)
    (hfuel : last.toNat ≤ fuel) :
    drainLoop compareRecords size rounds fuel offsets last =
      some (HeapSort.drain lt offsets last.toNat) := by
  induction fuel generalizing offsets last with
  | zero => omega
  | succ fuel ih =>
      have hpred := UInt32.toNat_pred hpos
      have hsucc : last.toNat = (last - 1).toNat + 1 := by omega
      rw [drainLoop, hsucc, HeapSort.drain]
      by_cases hmore : 1 < last
      · have hmore' : 1 < last.toNat := UInt32.lt_iff_toNat_lt.mp hmore
        have hlast : (last - 1).toNat < size := by omega
        have hswap := @HeapSort.fixesFrom_swap 0 (last - 1).toNat size (by omega) hlast
        have hknown' := known_comp hknown hswap le_rfl
        have hexchange : exchangeOffsets size offsets 0 (last - 1) =
            some (offsets ∘ Equiv.swap 0 (last - 1).toNat) :=
          exchangeOffsets_eq offsets (by change 0 < size; omega) hlast
        obtain ⟨σ, hσ, hfix⟩ := HeapSort.sift_eq_comp lt ((last - 1).toNat + 1)
          (offsets ∘ Equiv.swap 0 (last - 1).toNat) (last - 1).toNat 0
        have hsift : siftMemtableOffsetsUnsafe compareRecords size rounds
            (offsets ∘ Equiv.swap 0 (last - 1).toNat) (last - 1) 0 =
            some ((offsets ∘ Equiv.swap 0 (last - 1).toNat) ∘ ⇑σ) :=
          (siftMemtableOffsetsUnsafe_eq hcmp hknown' (by omega) (by change 0 < _; omega) (by omega)
            (Nat.le_succ _)).trans (congrArg some hσ)
        rw [if_pos hmore, if_neg (by omega), hexchange]
        simp only [Option.bind_eq_bind, Option.bind_some, hsift, hσ]
        exact ih (known_comp hknown' hfix (by omega)) (by omega) (by omega) (by omega) (by omega)
      · have hone : (last - 1).toNat = 0 := by
          by_contra hne
          exact hmore (UInt32.lt_iff_toNat_lt.mpr (by change 1 < last.toNat; omega))
        rw [if_neg hmore, if_pos hone]
        rfl

/-- **The sort does what the library's sort does.** -/
lemma sortOffsets_eq (hcmp : ComparesBy compareRecords lt known) {count : UInt32}
    (hknown : ∀ i < count.toNat, offsets i ∈ known) {rounds : ℕ} (hrounds : count.toNat ≤ rounds) :
    sortMemtableOffsetsUnsafe compareRecords count.toNat rounds offsets count =
      some (HeapSort.sort lt offsets count.toNat) := by
  unfold sortMemtableOffsetsUnsafe HeapSort.sort
  by_cases hcount : count < 2
  · have hless : count.toNat < 2 := UInt32.lt_iff_toNat_lt.mp hcount
    rw [if_pos hcount, if_pos hless]
    rfl
  · have hless : ¬ count.toNat < 2 := fun h => hcount (UInt32.lt_iff_toNat_lt.mpr h)
    have hhalf : (count / 2).toNat = count.toNat / 2 := rfl
    obtain ⟨σ, hσ, hfix⟩ := HeapSort.heapify_eq_comp lt offsets count.toNat (count / 2).toNat
    rw [if_neg hcount, if_neg hless, heapifyLoop_eq hcmp hknown le_rfl (by omega) hrounds (by omega),
      ← hhalf, hσ]
    exact drainLoop_eq hcmp (known_comp hknown hfix le_rfl) le_rfl hrounds (by omega) hrounds

end Refinement

/-! ## Memtable records -/

/-- At an offset lies a record, of a registered namespace. -/
structure HoldsRecord (memtableData : ℕ → UInt8) (namespaces : List Bytes) (offset : UInt32)
    (r : MemtableRecord) : Prop where
  bytes : slice memtableData offset.toNat r.toBytes.length = r.toBytes
  inRange : r.InRange
  registered : ∃ name, namespaces[r.namespaceSlotIndex]? = some name ∧ validateBytes name = true

/-- The key of the record at an offset. -/
def keyAtOffset (memtableData : ℕ → UInt8) (namespaces : List Bytes) (offset : UInt32) :
    CompositeKey :=
  recordKey namespaces (recordAt memtableData 0 offset.toNat)

section Records

variable {memtableData : ℕ → UInt8} {namespaces : List Bytes} {offset : UInt32} {r : MemtableRecord}

lemma HoldsRecord.keyAtOffset_eq (h : HoldsRecord memtableData namespaces offset r) :
    keyAtOffset memtableData namespaces offset = recordKey namespaces r := by
  have hrecord := recordAt_eq h.inRange h.bytes
  have hslot := congrArg MemtableRecord.namespaceSlotIndex hrecord
  have hkey := congrArg MemtableRecord.key hrecord
  unfold keyAtOffset recordKey
  exact congrArg₂ CompositeKey.mk (congrArg (fun i => namespaces.getD i []) hslot) hkey

lemma HoldsRecord.recordKeyBuffer_eq (h : HoldsRecord memtableData namespaces offset r) :
    ∃ buffer, recordKeyBuffer memtableData namespaces offset = some buffer ∧
      buffer.toKey = keyAtOffset memtableData namespaces offset := by
  have hrecord := recordAt_eq h.inRange h.bytes
  obtain ⟨name, hname, hvalid⟩ := h.registered
  have hslot : (readHeader memtableData offset.toNat).namespaceSlotIndex = r.namespaceSlotIndex :=
    congrArg MemtableRecord.namespaceSlotIndex hrecord
  have hkey : keyAt memtableData offset.toNat = r.key := congrArg MemtableRecord.key hrecord
  have hcomposite : (CompositeKey.mk name r.key).valid = true := by
    rw [CompositeKey.valid, hvalid, h.inRange.key]
    rfl
  refine ⟨.ofKey ⟨name, r.key⟩ hcomposite, ?_, ?_⟩
  · unfold recordKeyBuffer
    rw [hslot, hname, hkey]
    exact dif_pos hcomposite
  · rw [KeyBuffer.toKey_ofKey, h.keyAtOffset_eq]
    simp [recordKey, List.getD_eq_getElem?_getD, hname]

/-- Two records compare by their keys. -/
lemma compareMemtableRecordsUnsafe_compares (c : Memcmp) (memtableData : ℕ → UInt8)
    (namespaces : List Bytes) :
    ComparesBy (compareMemtableRecordsUnsafe c memtableData namespaces)
      (fun lhs rhs => decide (keyAtOffset memtableData namespaces lhs <
        keyAtOffset memtableData namespaces rhs))
      {offset | ∃ r, HoldsRecord memtableData namespaces offset r} := by
  rintro lhs ⟨r, hlhs⟩ rhs ⟨r', hrhs⟩
  obtain ⟨lhsKey, hlhs, hlhsKey⟩ := hlhs.recordKeyBuffer_eq
  obtain ⟨rhsKey, hrhs, hrhsKey⟩ := hrhs.recordKeyBuffer_eq
  refine ⟨compareCompositeKeyBuffers c lhsKey rhsKey, ?_, ?_⟩
  · unfold compareMemtableRecordsUnsafe
    rw [hlhs, hrhs]
    rfl
  · rw [compareCompositeKeyBuffers_neg, decide_eq_true_eq, hlhsKey, hrhsKey]

end Records

/-- **The memtable sort sorts**: with every access inside the array it leaves the offsets in
strictly ascending order of the keys they point to. -/
theorem memtable_sort_ascends (c : Memcmp) (memtableData : ℕ → UInt8) (namespaces : List Bytes)
    (offsets : ℕ → UInt32) (count : UInt32) (records : ℕ → MemtableRecord)
    (hrecords : ∀ i < count.toNat,
      HoldsRecord memtableData namespaces (offsets i) (records i))
    (hdistinct : ∀ i j, i < j → j < count.toNat →
      recordKey namespaces (records i) ≠ recordKey namespaces (records j)) :
    ∃ sorted : ℕ → UInt32,
      (∀ rounds, count.toNat ≤ rounds →
        sortMemtableOffsetsUnsafe (compareMemtableRecordsUnsafe c memtableData namespaces)
          count.toNat rounds offsets count = some sorted) ∧
      ((List.range count.toNat).map sorted).Perm ((List.range count.toNat).map offsets) ∧
      (∀ i, count.toNat ≤ i → sorted i = offsets i) ∧
      ∀ i j, i < j → j < count.toNat → keyAtOffset memtableData namespaces (sorted i) <
        keyAtOffset memtableData namespaces (sorted j) := by
  have hcompares := compareMemtableRecordsUnsafe_compares c memtableData namespaces
  have hkey : ∀ i < count.toNat,
      keyAtOffset memtableData namespaces (offsets i) = recordKey namespaces (records i) :=
    fun i hi => (hrecords i hi).keyAtOffset_eq
  refine ⟨_, fun rounds hrounds =>
    sortOffsets_eq hcompares (fun i hi => ⟨records i, hrecords i hi⟩) hrounds,
    HeapSort.sort_perm _ _ _, fun i hi => ?_, ?_⟩
  · obtain ⟨σ, hσ, hfix⟩ := HeapSort.sort_eq_comp (fun lhs rhs =>
      decide (keyAtOffset memtableData namespaces lhs <
        keyAtOffset memtableData namespaces rhs)) offsets count.toNat
    rw [hσ, Function.comp_apply, hfix i hi]
  · refine HeapSort.sort_strictly_ascending (fun _ _ => decide_eq_true_iff) fun i j hij hj => ?_
    rw [hkey i (hij.trans hj), hkey j hj]
    exact hdistinct i j hij hj

/-! ## Two records in the wrong order -/

/-- Two tombstones, the greater key first. -/
def unsortedRecords (i : ℕ) : MemtableRecord where
  hash := 0
  transactionSequence := i + 1
  namespaceSlotIndex := 0
  key := if i = 0 then [0x62] else [0x61]
  value := .tombstone

/-- The arena they lie in. -/
def unsortedData (i : ℕ) : UInt8 :=
  ((unsortedRecords 0).toBytes ++ (unsortedRecords 1).toBytes).getD i 0

lemma unsorted_held : ∀ i < (2 : UInt32).toNat,
    HoldsRecord unsortedData [[0x6e]] (UInt32.ofNat (i * 56)) (unsortedRecords i) := by
  intro i hi
  have hcases : i = 0 ∨ i = 1 := by
    change i < 2 at hi
    omega
  rcases hcases with rfl | rfl <;>
    exact ⟨by decide, ⟨by decide, by decide, by decide, by decide, fun _ h => by cases h⟩,
      _, rfl, by decide⟩

theorem memtable_sort_ascends_two :
    (∀ i < (2 : UInt32).toNat,
      HoldsRecord unsortedData [[0x6e]] (UInt32.ofNat (i * 56)) (unsortedRecords i)) ∧
    (∀ i j, i < j → j < (2 : UInt32).toNat →
      recordKey [[0x6e]] (unsortedRecords i) ≠ recordKey [[0x6e]] (unsortedRecords j)) ∧
    ∃ sorted : ℕ → UInt32,
      (∀ rounds, 2 ≤ rounds →
        sortMemtableOffsetsUnsafe (compareMemtableRecordsUnsafe default unsortedData [[0x6e]]) 2
          rounds (fun i => UInt32.ofNat (i * 56)) 2 = some sorted) ∧
      keyAtOffset unsortedData [[0x6e]] (sorted 0) < keyAtOffset unsortedData [[0x6e]] (sorted 1) := by
  have hdistinct : ∀ i j, i < j → j < (2 : UInt32).toNat →
      recordKey [[0x6e]] (unsortedRecords i) ≠ recordKey [[0x6e]] (unsortedRecords j) := by
    intro i j hij hj
    change j < 2 at hj
    obtain ⟨rfl, rfl⟩ : i = 0 ∧ j = 1 := by omega
    decide
  obtain ⟨sorted, hsort, -, -, hascending⟩ := memtable_sort_ascends default unsortedData [[0x6e]]
    (fun i => UInt32.ofNat (i * 56)) 2 unsortedRecords unsorted_held hdistinct
  exact ⟨unsorted_held, hdistinct, sorted, hsort, hascending 0 1 (by decide) (by decide)⟩

end On9kvdb
