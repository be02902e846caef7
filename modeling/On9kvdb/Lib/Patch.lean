import Mathlib.Tactic

/-!
# Writing pieces into a buffer

A buffer is a list; a write puts a piece over a range of it and leaves the rest.  A record written
field by field is a list of pieces.

Pieces in ascending order do not disturb each other, so each of them is read back
(`slice_patchAll_of_mem`), and a range no piece meets is left as it was (`slice_patchAll_of_apart`).
Two buffers that hold the same pieces without a gap between them agree on what the pieces cover
(`Tiles.agree`).
-/

namespace Patch

variable {α : Type*}

/-- `len` elements from `offset` on. -/
def slice (l : List α) (offset len : ℕ) : List α := (l.drop offset).take len

/-- `piece` written over the elements from `offset` on. -/
def patch (l : List α) (offset : ℕ) (piece : List α) : List α :=
  l.take offset ++ (piece ++ l.drop (offset + piece.length))

/-- Pieces with their offsets, written one after the other. -/
def patchAll (l : List α) (pieces : List (ℕ × List α)) : List α :=
  pieces.foldl (fun l p => patch l p.1 p.2) l

/-- Where a piece ends. -/
def stop (p : ℕ × List α) : ℕ := p.1 + p.2.length

/-- Each piece ends before the next begins. -/
def Ascending (pieces : List (ℕ × List α)) : Prop :=
  pieces.Pairwise fun p q => stop p ≤ q.1

section
variable {l : List α} {offset len : ℕ} {piece : List α}

lemma getElem?_slice (i : ℕ) :
    (slice l offset len)[i]? = if i < len then l[offset + i]? else none := by
  rw [slice, List.getElem?_take, List.getElem?_drop]

lemma length_slice (h : offset + len ≤ l.length) : (slice l offset len).length = len := by
  rw [slice, List.length_take, List.length_drop]
  omega

/-- The same slice at the same place. -/
lemma getElem?_of_slice {l' : List α} {i : ℕ} (h : slice l offset len = slice l' offset len)
    (hlow : offset ≤ i) (hhigh : i < offset + len) : l[i]? = l'[i]? := by
  have hi := congrArg (fun s => s[i - offset]?) h
  simp only [getElem?_slice] at hi
  rwa [if_pos (by omega), Nat.add_sub_cancel' hlow, if_pos (by omega)] at hi

/-- Conversely a slice is determined by its places. -/
lemma slice_congr {l' : List α} (h : ∀ i, offset ≤ i → i < offset + len → l[i]? = l'[i]?) :
    slice l offset len = slice l' offset len := by
  apply List.ext_getElem?
  intro i
  rw [getElem?_slice, getElem?_slice]
  split_ifs with hi
  · exact h _ (by omega) (by omega)
  · rfl

lemma length_patch (h : offset + piece.length ≤ l.length) :
    (patch l offset piece).length = l.length := by
  simp only [patch, List.length_append, List.length_take, List.length_drop]
  omega

/-- What a write leaves at each place. -/
lemma getElem?_patch (h : offset + piece.length ≤ l.length) (i : ℕ) :
    (patch l offset piece)[i]? =
      if offset ≤ i ∧ i < offset + piece.length then piece[i - offset]? else l[i]? := by
  have htake : (l.take offset).length = offset := by
    rw [List.length_take]
    omega
  unfold patch
  rcases Nat.lt_or_ge i offset with hi | hi
  · rw [List.getElem?_append_left (by omega), List.getElem?_take_of_lt hi, if_neg (by omega)]
  · rw [List.getElem?_append_right (by omega), htake]
    by_cases hin : i < offset + piece.length
    · rw [List.getElem?_append_left (by omega), if_pos ⟨hi, hin⟩]
    · rw [List.getElem?_append_right (by omega), List.getElem?_drop, if_neg (by omega)]
      congr 1
      omega

/-- What was written is there. -/
lemma slice_patch (h : offset + piece.length ≤ l.length) :
    slice (patch l offset piece) offset piece.length = piece := by
  apply List.ext_getElem?
  intro i
  rw [getElem?_slice, getElem?_patch h]
  by_cases hi : i < piece.length
  · simp [hi]
  · simp [hi]

/-- A write leaves what lies beside it. -/
lemma slice_patch_of_apart {start n : ℕ} (h : offset + piece.length ≤ l.length)
    (hapart : start + n ≤ offset ∨ offset + piece.length ≤ start) :
    slice (patch l offset piece) start n = slice l start n := by
  apply List.ext_getElem?
  intro i
  rw [getElem?_slice, getElem?_slice, getElem?_patch h]
  split_ifs with hi hin
  · omega
  · rfl
  · rfl

end

/-! ## Several pieces -/

section
variable {l : List α} {pieces : List (ℕ × List α)}

lemma length_patchAll (hfit : ∀ p ∈ pieces, stop p ≤ l.length) :
    (patchAll l pieces).length = l.length := by
  induction pieces generalizing l with
  | nil => rfl
  | cons p pieces ih =>
      have hp : (patch l p.1 p.2).length = l.length := length_patch (hfit p List.mem_cons_self)
      have hrest : (patchAll (patch l p.1 p.2) pieces).length = (patch l p.1 p.2).length :=
        ih fun q hq => hp ▸ hfit q (List.mem_cons_of_mem p hq)
      exact hrest.trans hp

/-- A place that no piece meets is left as it was. -/
lemma getElem?_patchAll {i : ℕ} (hfit : ∀ p ∈ pieces, stop p ≤ l.length)
    (hapart : ∀ p ∈ pieces, i < p.1 ∨ stop p ≤ i) : (patchAll l pieces)[i]? = l[i]? := by
  induction pieces generalizing l with
  | nil => rfl
  | cons p pieces ih =>
      have hp := hfit p List.mem_cons_self
      have hrest := @ih (patch l p.1 p.2)
        (fun q hq => (length_patch hp).symm ▸ hfit q (List.mem_cons_of_mem p hq))
        (fun q hq => hapart q (List.mem_cons_of_mem p hq))
      have hhere := hapart p List.mem_cons_self
      unfold stop at hhere
      exact hrest.trans ((getElem?_patch hp i).trans (if_neg (by omega)))

/-- So is a range. -/
lemma slice_patchAll_of_apart {start n : ℕ} (hfit : ∀ p ∈ pieces, stop p ≤ l.length)
    (hapart : ∀ p ∈ pieces, start + n ≤ p.1 ∨ stop p ≤ start) :
    slice (patchAll l pieces) start n = slice l start n :=
  slice_congr fun _ hlow hhigh => getElem?_patchAll hfit fun p hp =>
    (hapart p hp).imp (fun h => hhigh.trans_le h) fun h => h.trans hlow

/-- Pieces in ascending order are all there in the end. -/
lemma slice_patchAll_of_mem {p : ℕ × List α} (hfit : ∀ p ∈ pieces, stop p ≤ l.length)
    (hasc : Ascending pieces) (hp : p ∈ pieces) :
    slice (patchAll l pieces) p.1 p.2.length = p.2 := by
  induction pieces generalizing l with
  | nil => cases hp
  | cons q pieces ih =>
      have hq := hfit q List.mem_cons_self
      have hlength := length_patch hq
      obtain ⟨hhead, htail⟩ := List.pairwise_cons.mp hasc
      have hrest : ∀ x ∈ pieces, stop x ≤ (patch l q.1 q.2).length :=
        fun x hx => hlength.symm ▸ hfit x (List.mem_cons_of_mem q hx)
      rcases List.mem_cons.mp hp with rfl | hp
      · have hkept : slice (patchAll (patch l p.1 p.2) pieces) p.1 p.2.length =
            slice (patch l p.1 p.2) p.1 p.2.length :=
          slice_patchAll_of_apart hrest fun x hx => .inl (hhead x hx)
        exact hkept.trans (slice_patch hq)
      · exact ih hrest htail hp

end

/-! ## Buffers that hold pieces -/

/-- Each piece is found in its place. -/
def Holds (l : List α) (pieces : List (ℕ × List α)) : Prop :=
  ∀ p ∈ pieces, slice l p.1 p.2.length = p.2

/-- Every piece begins at `start` or later, and behind the one before. -/
def Rising : ℕ → List (ℕ × List α) → Prop
  | _, [] => True
  | start, p :: pieces => start ≤ p.1 ∧ Rising (stop p) pieces

/-- The pieces fill the range from `start` to `final` without a gap. -/
def Tiles : ℕ → List (ℕ × List α) → ℕ → Prop
  | start, [], final => start = final
  | start, p :: pieces, final => p.1 = start ∧ Tiles (stop p) pieces final

section
variable {l l' : List α} {p : ℕ × List α} {pieces : List (ℕ × List α)} {start final : ℕ}

@[simp] lemma holds_nil : Holds l [] := fun _ hp => absurd hp List.not_mem_nil

@[simp] lemma holds_cons :
    Holds l (p :: pieces) ↔ slice l p.1 p.2.length = p.2 ∧ Holds l pieces := List.forall_mem_cons

/-- What holds the pieces is the range they lie in. -/
lemma Holds.congr (hl : Holds l pieces) (hin : ∀ p ∈ pieces, start ≤ p.1 ∧ stop p ≤ final)
    (h : ∀ i, start ≤ i → i < final → l[i]? = l'[i]?) : Holds l' pieces := by
  intro p hp
  have hsame : slice l p.1 p.2.length = slice l' p.1 p.2.length :=
    slice_congr fun i hlow hhigh =>
      h i ((hin p hp).1.trans hlow) (lt_of_lt_of_le hhigh (hin p hp).2)
  exact hsame.symm.trans (hl p hp)

lemma Rising.le (h : Rising start pieces) (hp : p ∈ pieces) : start ≤ p.1 := by
  induction pieces generalizing start with
  | nil => cases hp
  | cons q pieces ih =>
      rcases List.mem_cons.mp hp with rfl | hp
      · exact h.1
      · exact h.1.trans ((Nat.le_add_right q.1 _).trans (ih h.2 hp))

lemma Rising.ascending (h : Rising start pieces) : Ascending pieces := by
  induction pieces generalizing start with
  | nil => exact List.Pairwise.nil
  | cons p pieces ih => exact List.pairwise_cons.mpr ⟨fun q hq => h.2.le hq, ih h.2⟩

/-- Rising pieces are all held in the end. -/
lemma holds_patchAll (hfit : ∀ p ∈ pieces, stop p ≤ l.length) (h : Rising start pieces) :
    Holds (patchAll l pieces) pieces := fun _ hp => slice_patchAll_of_mem hfit h.ascending hp

lemma Tiles.rising (h : Tiles start pieces final) : Rising start pieces := by
  induction pieces generalizing start with
  | nil => trivial
  | cons p pieces ih => exact ⟨h.1.ge, ih h.2⟩

lemma Tiles.within (h : Tiles start pieces final) :
    start ≤ final ∧ ∀ p ∈ pieces, start ≤ p.1 ∧ stop p ≤ final := by
  induction pieces generalizing start with
  | nil => exact ⟨h.le, fun p hp => absurd hp List.not_mem_nil⟩
  | cons p pieces ih =>
      obtain ⟨rfl, htail⟩ := h
      obtain ⟨hle, hrest⟩ := ih htail
      have hstop : p.1 ≤ stop p := Nat.le_add_right _ _
      refine ⟨hstop.trans hle, fun q hq => ?_⟩
      rcases List.mem_cons.mp hq with rfl | hq
      · exact ⟨le_rfl, hle⟩
      · exact ⟨hstop.trans (hrest q hq).1, (hrest q hq).2⟩

/-- Two buffers that hold pieces without a gap agree there. -/
lemma Tiles.agree (h : Tiles start pieces final) (hl : Holds l pieces) (hl' : Holds l' pieces)
    {i : ℕ} (hlow : start ≤ i) (hhigh : i < final) : l[i]? = l'[i]? := by
  induction pieces generalizing start with
  | nil => exact absurd (h ▸ hlow) (not_le.mpr hhigh)
  | cons p pieces ih =>
      obtain ⟨hp, hrest⟩ := holds_cons.mp hl
      obtain ⟨hp', hrest'⟩ := holds_cons.mp hl'
      obtain ⟨rfl, htail⟩ := h
      rcases Nat.lt_or_ge i (stop p) with hi | hi
      · exact getElem?_of_slice (hp.trans hp'.symm) hlow hi
      · exact ih htail hrest hrest' hi

end

end Patch
