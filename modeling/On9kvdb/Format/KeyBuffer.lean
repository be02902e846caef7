import On9kvdb.Format.Key

/-!
# Composite keys in memory

`compare_composite_key` and `composite_key_equal` work on two fixed buffers with a size each and
call `memcmp`, of whose result only the sign is documented.  Whatever `memcmp` returns, the
comparison has the sign of the order on `CompositeKey`, and bytes behind the sizes play no part.
-/

namespace On9kvdb

/-! ## memcmp -/

/-- The first of the bytes below `n` that differ is smaller in `a`. -/
def FirstDifferenceBelow (a b : Bytes) (n : ℕ) : Prop :=
  ∃ i < n, (∀ j < i, a.getD j 0 = b.getD j 0) ∧ a.getD i 0 < b.getD i 0

/-- A C library's `memcmp`: its result has the sign of the first difference. -/
structure Memcmp where
  call : Bytes → Bytes → ℕ → ℤ
  neg_iff : ∀ a b n, n ≤ a.length → n ≤ b.length → (call a b n < 0 ↔ FirstDifferenceBelow a b n)
  pos_iff : ∀ a b n, n ≤ a.length → n ≤ b.length → (0 < call a b n ↔ FirstDifferenceBelow b a n)

lemma firstDifferenceBelow_cons {a b : UInt8} {as bs : Bytes} {n : ℕ} :
    FirstDifferenceBelow (a :: as) (b :: bs) (n + 1) ↔
      a < b ∨ a = b ∧ FirstDifferenceBelow as bs n := by
  constructor
  · rintro ⟨i, hi, hbefore, hlt⟩
    cases i with
    | zero => exact Or.inl hlt
    | succ i =>
        have htail : ∀ j < i, as.getD j 0 = bs.getD j 0 := fun j hj =>
          hbefore (j + 1) (Nat.succ_lt_succ hj)
        exact Or.inr ⟨hbefore 0 (Nat.succ_pos i), i, Nat.lt_of_succ_lt_succ hi, htail, hlt⟩
  · rintro (hlt | ⟨rfl, i, hi, hbefore, hlt⟩)
    · exact ⟨0, Nat.succ_pos n, fun j hj => absurd hj (Nat.not_lt_zero j), hlt⟩
    · refine ⟨i + 1, Nat.succ_lt_succ hi, fun j hj => ?_, hlt⟩
      cases j with
      | zero => rfl
      | succ j => exact hbefore j (Nat.lt_of_succ_lt_succ hj)

/-- **The first difference decides `memcmp`.** -/
lemma memcmp_lt_iff {a b : Bytes} {n : ℕ} (ha : n ≤ a.length) (hb : n ≤ b.length) :
    memcmp a b n = .lt ↔ FirstDifferenceBelow a b n := by
  induction n generalizing a b with
  | zero =>
      have hnone : ¬ FirstDifferenceBelow a b 0 := fun ⟨i, hi, _⟩ => absurd hi (Nat.not_lt_zero i)
      cases a <;> cases b <;> simp [memcmp, hnone]
  | succ n ih =>
      cases a with
      | nil => simp at ha
      | cons a as =>
          cases b with
          | nil => simp at hb
          | cons b bs =>
              have htail := @ih as bs (by simpa using ha) (by simpa using hb)
              rw [firstDifferenceBelow_cons, memcmp]
              rw [UInt8.lt_iff_toNat_lt, ← UInt8.toNat_inj]
              rcases lt_trichotomy a.toNat b.toNat with h | h | h
              · rw [compare_lt_iff_lt.mpr h]
                simp [h]
              · rw [compare_eq_iff_eq.mpr h]
                simpa [h] using htail
              · rw [compare_gt_iff_gt.mpr h]
                simp [h.ne', h.le]

lemma memcmp_swap (a b : Bytes) (n : ℕ) : memcmp b a n = (memcmp a b n).swap := by
  induction n generalizing a b with
  | zero => cases a <;> cases b <;> rfl
  | succ n ih =>
      cases a with
      | nil => cases b <;> rfl
      | cons a as =>
          cases b with
          | nil => rfl
          | cons b bs =>
              rw [memcmp, memcmp, ← Nat.compare_swap a.toNat b.toNat]
              cases compare a.toNat b.toNat
              · rfl
              · exact ih as bs
              · rfl

/-- Only the sign of the result matters, and it is the one of the model's `memcmp`. -/
lemma Memcmp.ordering (c : Memcmp) {a b : Bytes} {n : ℕ} (ha : n ≤ a.length) (hb : n ≤ b.length) :
    compare (c.call a b n) 0 = memcmp a b n := by
  have hneg := c.neg_iff a b n ha hb
  have hpos := c.pos_iff a b n ha hb
  rw [← memcmp_lt_iff ha hb] at hneg
  rw [← memcmp_lt_iff hb ha, memcmp_swap] at hpos
  rcases lt_trichotomy (c.call a b n) 0 with h | h | h
  · rw [compare_lt_iff_lt.mpr h, hneg.mp h]
  · rw [compare_eq_iff_eq.mpr h]
    cases hm : memcmp a b n with
    | lt => exact absurd (hneg.mpr hm) h.not_lt
    | eq => rfl
    | gt => exact absurd (hpos.mpr (by rw [hm]; rfl)) h.not_gt
  · rw [compare_gt_iff_gt.mpr h]
    have hgt := hpos.mp h
    cases hm : memcmp a b n with
    | lt => rw [hm] at hgt; cases hgt
    | eq => rw [hm] at hgt; cases hgt
    | gt => rfl

/-- An implementation that returns -1, 0 or 1. -/
instance : Inhabited Memcmp where
  default :=
    { call := fun a b n => if memcmp a b n = .lt then -1 else if memcmp a b n = .eq then 0 else 1
      neg_iff := fun a b n ha hb => by
        rw [← memcmp_lt_iff ha hb]
        cases memcmp a b n <;> simp
      pos_iff := fun a b n ha hb => by
        rw [← memcmp_lt_iff hb ha, memcmp_swap a b]
        cases memcmp a b n <;> simp }

/-- Bytes behind the compared ones play no part. -/
lemma memcmp_take (a b : Bytes) {n m k : ℕ} (hm : n ≤ m) (hk : n ≤ k) :
    memcmp (a.take m) (b.take k) n = memcmp a b n := by
  induction n generalizing a b m k with
  | zero => cases a <;> cases b <;> cases m <;> cases k <;> rfl
  | succ n ih =>
      obtain ⟨m, rfl⟩ := Nat.exists_eq_add_of_le' (Nat.one_le_of_lt hm)
      obtain ⟨k, rfl⟩ := Nat.exists_eq_add_of_le' (Nat.one_le_of_lt hk)
      cases a with
      | nil => cases b <;> rfl
      | cons a as =>
          cases b with
          | nil => rfl
          | cons b bs =>
              rw [List.take_succ_cons, List.take_succ_cons, memcmp, memcmp,
                ih as bs (Nat.le_of_succ_le_succ hm) (Nat.le_of_succ_le_succ hk)]

/-! ## Keys -/

/-- `composite_key`, with sizes that `validate_bytes` accepts. -/
structure KeyBuffer where
  namespaceSize : ℕ
  keySize : ℕ
  namespaceName : Bytes
  key : Bytes
  namespaceSize_valid : 0 < namespaceSize ∧ namespaceSize ≤ maxNameLen
  keySize_valid : 0 < keySize ∧ keySize ≤ maxNameLen
  namespaceName_length : namespaceName.length = maxNameLen
  key_length : key.length = maxNameLen

namespace KeyBuffer

/-- The namespace, as long as its size says. -/
def namespaceBytes (k : KeyBuffer) : Bytes := k.namespaceName.take k.namespaceSize

/-- The key, as long as its size says. -/
def keyBytes (k : KeyBuffer) : Bytes := k.key.take k.keySize

/-- The key a buffer stands for. -/
def toKey (k : KeyBuffer) : CompositeKey := ⟨k.namespaceBytes, k.keyBytes⟩

@[simp] lemma length_namespaceBytes (k : KeyBuffer) :
    k.namespaceBytes.length = k.namespaceSize := by
  rw [namespaceBytes, List.length_take, k.namespaceName_length, min_eq_left k.namespaceSize_valid.2]

@[simp] lemma length_keyBytes (k : KeyBuffer) : k.keyBytes.length = k.keySize := by
  rw [keyBytes, List.length_take, k.key_length, min_eq_left k.keySize_valid.2]

lemma toKey_valid (k : KeyBuffer) : k.toKey.valid = true := by
  obtain ⟨hnamespace, hnamespace'⟩ := k.namespaceSize_valid
  obtain ⟨hkey, hkey'⟩ := k.keySize_valid
  simp only [toKey, CompositeKey.valid, validateBytes, length_namespaceBytes, length_keyBytes,
    hnamespace, hnamespace', hkey, hkey', decide_true, Bool.and_self]

end KeyBuffer

/-- `composite_key_equal`. -/
def compositeKeyEqual (c : Memcmp) (lhs rhs : KeyBuffer) : Bool :=
  lhs.namespaceSize == rhs.namespaceSize && lhs.keySize == rhs.keySize &&
  c.call lhs.namespaceName rhs.namespaceName lhs.namespaceSize == 0 &&
  c.call lhs.key rhs.key lhs.keySize == 0

/-- `compare_composite_key`, the `int` it returns. -/
def compareCompositeKeyBuffers (c : Memcmp) (lhs rhs : KeyBuffer) : ℤ :=
  let namespaceCommon :=
    if lhs.namespaceSize < rhs.namespaceSize then lhs.namespaceSize else rhs.namespaceSize
  let namespaceComparison := c.call lhs.namespaceName rhs.namespaceName namespaceCommon
  if namespaceComparison ≠ 0 then namespaceComparison
  else if lhs.namespaceSize ≠ rhs.namespaceSize then
    if lhs.namespaceSize < rhs.namespaceSize then -1 else 1
  else
    let keyCommon := if lhs.keySize < rhs.keySize then lhs.keySize else rhs.keySize
    let keyComparison := c.call lhs.key rhs.key keyCommon
    if keyComparison ≠ 0 then keyComparison
    else if lhs.keySize ≠ rhs.keySize then
      if lhs.keySize < rhs.keySize then -1 else 1
    else 0

/-! ## The order -/

/-- One half of the comparison: the common prefix first, then the sizes. -/
lemma compareBytes_take (c : Memcmp) {a b : Bytes} {m n : ℕ} (ha : m ≤ a.length)
    (hb : n ≤ b.length) :
    compareBytes (a.take m) (b.take n) =
      match compare (c.call a b (if m < n then m else n)) 0 with
      | .eq => compare m n
      | o => o := by
  have hmin : (if m < n then m else n) = min m n := by
    split_ifs with h
    · exact (min_eq_left h.le).symm
    · exact (min_eq_right (not_lt.mp h)).symm
  unfold compareBytes
  have hordering := c.ordering ((min_le_left m n).trans ha) ((min_le_right m n).trans hb)
  rw [List.length_take, List.length_take, min_eq_left ha, min_eq_left hb,
    memcmp_take a b (min_le_left _ _) (min_le_right _ _), hmin]
  cases hcommon : memcmp a b (min m n) <;> simp only [hordering, hcommon]

/-- A size comparison as the code makes it. -/
lemma compare_sizes (m n : ℕ) (rest : ℤ) :
    compare (if m ≠ n then if m < n then (-1 : ℤ) else 1 else rest) 0 =
      match compare m n with
      | .eq => compare rest 0
      | o => o := by
  rcases lt_trichotomy m n with h | h | h
  · rw [if_pos h.ne, if_pos h, compare_lt_iff_lt.mpr h]
    rfl
  · rw [if_neg (not_not.mpr h), compare_eq_iff_eq.mpr h]
  · rw [if_pos h.ne', if_neg h.not_gt, compare_gt_iff_gt.mpr h]
    rfl

/-- A result of `memcmp` as the code uses it. -/
lemma compare_ite_ne_zero (x rest : ℤ) :
    compare (if x ≠ 0 then x else rest) 0 =
      match compare x 0 with
      | .eq => compare rest 0
      | o => o := by
  rcases lt_trichotomy x 0 with h | h | h
  · rw [if_pos h.ne, compare_lt_iff_lt.mpr h]
  · rw [if_neg (not_not.mpr h), compare_eq_iff_eq.mpr h]
  · rw [if_pos h.ne', compare_gt_iff_gt.mpr h]

/-- **The sign of the comparison** is the order of the keys, whatever `memcmp` returns. -/
lemma compareCompositeKeyBuffers_ordering (c : Memcmp) (lhs rhs : KeyBuffer) :
    compare (compareCompositeKeyBuffers c lhs rhs) 0 = compareCompositeKey lhs.toKey rhs.toKey := by
  have hnamespace := compareBytes_take c
    (lhs.namespaceSize_valid.2.trans lhs.namespaceName_length.ge)
    (rhs.namespaceSize_valid.2.trans rhs.namespaceName_length.ge)
  have hkey := compareBytes_take c (lhs.keySize_valid.2.trans lhs.key_length.ge)
    (rhs.keySize_valid.2.trans rhs.key_length.ge)
  unfold compareCompositeKeyBuffers compareCompositeKey KeyBuffer.toKey KeyBuffer.namespaceBytes
    KeyBuffer.keyBytes
  dsimp only
  rw [hnamespace, hkey, compare_ite_ne_zero, compare_sizes, compare_ite_ne_zero, compare_sizes]
  generalize compare (c.call lhs.namespaceName rhs.namespaceName _) 0 = first
  generalize compare (c.call lhs.key rhs.key _) 0 = second
  cases first with
  | lt => rfl
  | gt => rfl
  | eq =>
      dsimp only
      cases compare lhs.namespaceSize rhs.namespaceSize with
      | lt => rfl
      | gt => rfl
      | eq => cases second <;> cases compare lhs.keySize rhs.keySize <;> rfl

/-- Lexicographic order on byte strings, a proper prefix first. -/
lemma map_toNat_lt_iff (a b : Bytes) : a.map UInt8.toNat < b.map UInt8.toNat ↔ a < b := by
  induction a generalizing b with
  | nil => cases b <;> simp
  | cons x a ih =>
      cases b with
      | nil => simp
      | cons y b =>
          simp only [List.map_cons, List.cons_lt_cons_iff, ih, UInt8.toNat_inj,
            UInt8.lt_iff_toNat_lt]

variable (c : Memcmp) (a b : KeyBuffer)

lemma compareCompositeKeyBuffers_neg :
    compareCompositeKeyBuffers c a b < 0 ↔ a.toKey < b.toKey := by
  rw [← compare_lt_iff_lt, compareCompositeKeyBuffers_ordering, compareCompositeKey_lt]

lemma compareCompositeKeyBuffers_pos :
    0 < compareCompositeKeyBuffers c a b ↔ b.toKey < a.toKey := by
  rw [← compare_gt_iff_gt, compareCompositeKeyBuffers_ordering, compareCompositeKey_gt]

lemma compareCompositeKeyBuffers_zero :
    compareCompositeKeyBuffers c a b = 0 ↔ a.toKey = b.toKey := by
  rw [← compare_eq_iff_eq, compareCompositeKeyBuffers_ordering, compareCompositeKey_eq]

lemma compareCompositeKeyBuffers_nonpos :
    compareCompositeKeyBuffers c a b ≤ 0 ↔ a.toKey ≤ b.toKey := by
  rw [← not_lt, compareCompositeKeyBuffers_pos, not_lt]

lemma compareBytes_eq_iff {x y : Bytes} : compareBytes x y = .eq ↔ x = y := by
  rcases compareBytes_spec x y with ⟨h, hlt⟩ | ⟨h, heq⟩ | ⟨h, hlt⟩
  · simp [h, ne_of_apply_ne _ hlt.ne]
  · exact iff_of_true h heq
  · simp [h, ne_of_apply_ne _ hlt.ne']

/-- Equal sizes and a `memcmp` of zero: the bytes the sizes cover are the same. -/
lemma call_zero_iff {x y : Bytes} {n : ℕ} (hx : n ≤ x.length) (hy : n ≤ y.length) :
    c.call x y n = 0 ↔ x.take n = y.take n := by
  rw [← compareBytes_eq_iff, compareBytes_take c hx hy, if_neg (lt_irrefl n),
    compare_eq_iff_eq.mpr (rfl : n = n), ← compare_eq_iff_eq]
  cases compare (c.call x y n) 0 <;> rfl

/-- **Equal keys**, as `composite_key_equal` finds them. -/
lemma compositeKeyEqual_iff : compositeKeyEqual c a b = true ↔ a.toKey = b.toKey := by
  have hcall {m n : ℕ} {x y : Bytes} (hx : m ≤ x.length) (hy : n ≤ y.length) :
      m = n ∧ c.call x y m = 0 ↔ x.take m = y.take n := by
    constructor
    · rintro ⟨rfl, hzero⟩
      exact (call_zero_iff c hx hy).mp hzero
    · intro htake
      have hlength := congrArg List.length htake
      rw [List.length_take, List.length_take, min_eq_left hx, min_eq_left hy] at hlength
      subst hlength
      exact ⟨rfl, (call_zero_iff c hx hy).mpr htake⟩
  have hnamespace := hcall (a.namespaceSize_valid.2.trans a.namespaceName_length.ge)
    (b.namespaceSize_valid.2.trans b.namespaceName_length.ge)
  have hkey := hcall (a.keySize_valid.2.trans a.key_length.ge)
    (b.keySize_valid.2.trans b.key_length.ge)
  simp only [compositeKeyEqual, KeyBuffer.toKey, KeyBuffer.namespaceBytes, KeyBuffer.keyBytes,
    CompositeKey.mk.injEq, Bool.and_eq_true, beq_iff_eq, ← hnamespace, ← hkey]
  tauto

/-- **`compare_composite_key` is the lexicographic order on namespace and key.** -/
theorem compositeKey_comparison_total_order :
    (∀ a b, (compareCompositeKeyBuffers c b a).sign = -(compareCompositeKeyBuffers c a b).sign) ∧
    (∀ a b d, compareCompositeKeyBuffers c a b < 0 → compareCompositeKeyBuffers c b d < 0 →
      compareCompositeKeyBuffers c a d < 0) ∧
    (∀ a b d, compareCompositeKeyBuffers c a b ≤ 0 → compareCompositeKeyBuffers c b d ≤ 0 →
      compareCompositeKeyBuffers c a d ≤ 0) ∧
    (∀ a b, compareCompositeKeyBuffers c a b < 0 ∨ compositeKeyEqual c a b = true ∨
      compareCompositeKeyBuffers c b a < 0) ∧
    (∀ a b, compareCompositeKeyBuffers c a b = 0 ↔ compositeKeyEqual c a b = true) ∧
    ∀ a b, compareCompositeKeyBuffers c a b < 0 ↔
      a.namespaceBytes < b.namespaceBytes ∨
        a.namespaceBytes = b.namespaceBytes ∧ a.keyBytes < b.keyBytes := by
  refine ⟨fun a b => ?_, fun a b d => ?_, fun a b d => ?_, fun a b => ?_, fun a b => ?_,
    fun a b => ?_⟩
  · rcases lt_trichotomy a.toKey b.toKey with h | h | h
    · rw [Int.sign_eq_one_of_pos ((compareCompositeKeyBuffers_pos c b a).mpr h),
        Int.sign_eq_neg_one_of_neg ((compareCompositeKeyBuffers_neg c a b).mpr h), neg_neg]
    · rw [(compareCompositeKeyBuffers_zero c a b).mpr h,
        (compareCompositeKeyBuffers_zero c b a).mpr h.symm, Int.sign_zero, neg_zero]
    · rw [Int.sign_eq_neg_one_of_neg ((compareCompositeKeyBuffers_neg c b a).mpr h),
        Int.sign_eq_one_of_pos ((compareCompositeKeyBuffers_pos c a b).mpr h)]
  · simpa only [compareCompositeKeyBuffers_neg] using lt_trans
  · simpa only [compareCompositeKeyBuffers_nonpos] using le_trans
  · simpa only [compareCompositeKeyBuffers_neg, compositeKeyEqual_iff] using
      lt_trichotomy a.toKey b.toKey
  · rw [compareCompositeKeyBuffers_zero, compositeKeyEqual_iff]
  · rw [compareCompositeKeyBuffers_neg, CompositeKey.lt_iff, map_toNat_lt_iff, map_toNat_lt_iff,
      map_toNat_injective.eq_iff]
    rfl

end On9kvdb
