import Mathlib.Data.List.Lex
import Mathlib.Data.Prod.Lex
import On9kvdb.Format.Basic

/-!
# Composite keys

A record is addressed by a pair of byte strings, its namespace and its key.  Every sorted
structure of the database (table blocks, index, range filter, merges) uses
`compareCompositeKey`; this file transcribes it and identifies it with a linear order, so that
later proofs can use the order's lemmas instead of the byte comparison.
-/

namespace On9kvdb

/-- `composite_key`: a namespace and a key, both binary. -/
structure CompositeKey where
  namespaceName : Bytes
  key : Bytes
  deriving DecidableEq, Repr

/-- `validate_bytes`: one to 128 bytes. -/
def validateBytes (data : Bytes) : Bool := 0 < data.length && data.length ≤ maxNameLen

/-- Both halves of the key satisfy `validate_bytes`. -/
def CompositeKey.valid (k : CompositeKey) : Bool :=
  validateBytes k.namespaceName && validateBytes k.key

/-- `memcmp` on the first `n` bytes; only the sign of its result is specified. -/
def memcmp : Bytes → Bytes → ℕ → Ordering
  | a :: as, b :: bs, n + 1 =>
      match compare a.toNat b.toNat with
      | .eq => memcmp as bs n
      | o => o
  | _, _, _ => .eq

/-- The comparison of one half of a key: the common prefix first, then the lengths. -/
def compareBytes (lhs rhs : Bytes) : Ordering :=
  match memcmp lhs rhs (min lhs.length rhs.length) with
  | .eq => compare lhs.length rhs.length
  | o => o

/-- `compare_composite_key`: namespaces first, then keys. -/
def compareCompositeKey (lhs rhs : CompositeKey) : Ordering :=
  match compareBytes lhs.namespaceName rhs.namespaceName with
  | .eq => compareBytes lhs.key rhs.key
  | o => o

/-! ## The order it computes -/

/-- The pair of digit lists whose lexicographic order `compareCompositeKey` computes. -/
def CompositeKey.digits (k : CompositeKey) : List ℕ ×ₗ List ℕ :=
  toLex (k.namespaceName.map UInt8.toNat, k.key.map UInt8.toNat)

lemma map_toNat_injective : Function.Injective (List.map UInt8.toNat) :=
  List.map_injective_iff.mpr fun _ _ h => UInt8.toNat_inj.mp h

lemma CompositeKey.digits_injective : Function.Injective CompositeKey.digits := by
  rintro ⟨n₁, k₁⟩ ⟨n₂, k₂⟩ h
  have h' := Prod.ext_iff.mp (toLex.injective h)
  have hn : n₁ = n₂ := map_toNat_injective h'.1
  have hk : k₁ = k₂ := map_toNat_injective h'.2
  rw [hn, hk]

instance : LinearOrder CompositeKey :=
  LinearOrder.lift' CompositeKey.digits CompositeKey.digits_injective

lemma compareBytes_nil_left (b : Bytes) : compareBytes [] b = compare 0 b.length := by
  simp [compareBytes, memcmp]

lemma compareBytes_nil_right (a : Bytes) : compareBytes a [] = compare a.length 0 := by
  simp [compareBytes, memcmp]

lemma compareBytes_cons (a b : UInt8) (as bs : Bytes) :
    compareBytes (a :: as) (b :: bs) =
      match compare a.toNat b.toNat with
      | .eq => compareBytes as bs
      | o => o := by
  have hmin : min (a :: as).length (b :: bs).length = min as.length bs.length + 1 := by
    simp only [List.length_cons]; omega
  have hlen : compare (as.length + 1) (bs.length + 1) = compare as.length bs.length := by
    rcases lt_trichotomy as.length bs.length with h | h | h
    · rw [compare_lt_iff_lt.mpr h, compare_lt_iff_lt.mpr (by omega)]
    · rw [compare_eq_iff_eq.mpr h, compare_eq_iff_eq.mpr (by omega)]
    · rw [compare_gt_iff_gt.mpr h, compare_gt_iff_gt.mpr (by omega)]
  unfold compareBytes
  rw [hmin, memcmp]
  cases compare a.toNat b.toNat <;> simp [hlen]

/-- One half of the comparison is lexicographic comparison with a proper prefix first. -/
lemma compareBytes_spec (a b : Bytes) :
    (compareBytes a b = .lt ∧ a.map UInt8.toNat < b.map UInt8.toNat) ∨
    (compareBytes a b = .eq ∧ a = b) ∨
    (compareBytes a b = .gt ∧ b.map UInt8.toNat < a.map UInt8.toNat) := by
  induction a generalizing b with
  | nil =>
      rw [compareBytes_nil_left]
      cases b with
      | nil => simp
      | cons b bs => exact Or.inl ⟨compare_lt_iff_lt.mpr (by simp), by simp⟩
  | cons a as ih =>
      cases b with
      | nil =>
          rw [compareBytes_nil_right]
          exact Or.inr (Or.inr ⟨compare_gt_iff_gt.mpr (by simp), by simp⟩)
      | cons b bs =>
          rw [compareBytes_cons]
          simp only [List.map_cons, List.cons_lt_cons_iff]
          rcases lt_trichotomy a.toNat b.toNat with h | h | h
          · rw [compare_lt_iff_lt.mpr h]
            exact Or.inl ⟨rfl, Or.inl h⟩
          · rw [compare_eq_iff_eq.mpr h]
            have hab : a = b := UInt8.toNat_inj.mp h
            rcases ih bs with ⟨h₁, h₂⟩ | ⟨h₁, h₂⟩ | ⟨h₁, h₂⟩
            · exact Or.inl ⟨h₁, Or.inr ⟨h, h₂⟩⟩
            · exact Or.inr (Or.inl ⟨h₁, by rw [hab, h₂]⟩)
            · exact Or.inr (Or.inr ⟨h₁, Or.inr ⟨h.symm, h₂⟩⟩)
          · rw [compare_gt_iff_gt.mpr h]
            exact Or.inr (Or.inr ⟨rfl, Or.inl h⟩)

/-- `<` on keys, spelled out on the two halves. -/
lemma CompositeKey.lt_iff (a b : CompositeKey) :
    a < b ↔ a.namespaceName.map UInt8.toNat < b.namespaceName.map UInt8.toNat ∨
      a.namespaceName.map UInt8.toNat = b.namespaceName.map UInt8.toNat ∧
        a.key.map UInt8.toNat < b.key.map UInt8.toNat :=
  Prod.Lex.toLex_lt_toLex (x := (a.namespaceName.map UInt8.toNat, a.key.map UInt8.toNat))
    (y := (b.namespaceName.map UInt8.toNat, b.key.map UInt8.toNat))

/-- **`compare_composite_key` decides the linear order on keys.** -/
theorem compareCompositeKey_spec (a b : CompositeKey) :
    (compareCompositeKey a b = .lt ∧ a < b) ∨ (compareCompositeKey a b = .eq ∧ a = b) ∨
      (compareCompositeKey a b = .gt ∧ b < a) := by
  unfold compareCompositeKey
  rcases compareBytes_spec a.namespaceName b.namespaceName with ⟨h, hn⟩ | ⟨h, hn⟩ | ⟨h, hn⟩
  · rw [h]
    exact Or.inl ⟨rfl, (CompositeKey.lt_iff a b).mpr (Or.inl hn)⟩
  · rw [h]
    have hmap := congrArg (List.map UInt8.toNat) hn
    rcases compareBytes_spec a.key b.key with ⟨h', hk⟩ | ⟨h', hk⟩ | ⟨h', hk⟩
    · exact Or.inl ⟨h', (CompositeKey.lt_iff a b).mpr (Or.inr ⟨hmap, hk⟩)⟩
    · exact Or.inr (Or.inl ⟨h', by cases a; cases b; simp_all⟩)
    · exact Or.inr (Or.inr ⟨h', (CompositeKey.lt_iff b a).mpr (Or.inr ⟨hmap.symm, hk⟩)⟩)
  · rw [h]
    exact Or.inr (Or.inr ⟨rfl, (CompositeKey.lt_iff b a).mpr (Or.inl hn)⟩)

lemma compareCompositeKey_lt {a b : CompositeKey} : compareCompositeKey a b = .lt ↔ a < b := by
  rcases compareCompositeKey_spec a b with ⟨h, h'⟩ | ⟨h, h'⟩ | ⟨h, h'⟩
  · simp [h, h']
  · subst h'
    simp [h]
  · simp [h, not_lt_of_gt h']

lemma compareCompositeKey_gt {a b : CompositeKey} : compareCompositeKey a b = .gt ↔ b < a := by
  rcases compareCompositeKey_spec a b with ⟨h, h'⟩ | ⟨h, h'⟩ | ⟨h, h'⟩
  · simp [h, not_lt_of_gt h']
  · subst h'
    simp [h]
  · simp [h, h']

lemma compareCompositeKey_eq {a b : CompositeKey} : compareCompositeKey a b = .eq ↔ a = b := by
  rcases compareCompositeKey_spec a b with ⟨h, h'⟩ | ⟨h, h'⟩ | ⟨h, h'⟩
  · simp [h, ne_of_lt h']
  · subst h'
    simp [h]
  · simp [h, (ne_of_lt h').symm]

end On9kvdb
