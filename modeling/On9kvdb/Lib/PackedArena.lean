import Mathlib.Data.Set.Insert
import Mathlib.Tactic

/-!
# Packed arenas

An arena is a memory whose first `used` cells are shared out among owners, without gaps and without
overlaps (`Packed`), each extent holding the bytes of its owner (`Stores`).  Two operations keep it
so.  Removing an extent slides the cells behind it down and moves the extents behind it by the same
distance; appending writes behind the last used cell.
-/

namespace PackedArena

variable {ι β : Type}

/-! ## Memory -/

/-- The `size` cells from `offset` on. -/
def slice (memory : ℕ → β) (offset size : ℕ) : List β :=
  (List.range size).map fun i => memory (offset + i)

/-- Copies `cells` to `offset`. -/
def write (memory : ℕ → β) (offset : ℕ) (cells : List β) : ℕ → β := fun p =>
  if offset ≤ p then cells[p - offset]?.getD (memory p) else memory p

/-- Copies `size` cells from `source` to `target`, which may overlap. -/
def move (memory : ℕ → β) (target source size : ℕ) : ℕ → β := fun p =>
  if target ≤ p ∧ p < target + size then memory (source + (p - target)) else memory p

@[simp] lemma length_slice (memory : ℕ → β) (offset size : ℕ) :
    (slice memory offset size).length = size := by
  simp [slice]

@[simp] lemma slice_zero (memory : ℕ → β) (offset : ℕ) : slice memory offset 0 = [] := rfl

lemma slice_congr {memory memory' : ℕ → β} {offset offset' size : ℕ}
    (h : ∀ i < size, memory' (offset' + i) = memory (offset + i)) :
    slice memory' offset' size = slice memory offset size :=
  List.map_congr_left fun i hi => h i (List.mem_range.mp hi)

lemma slice_add (memory : ℕ → β) (offset size size' : ℕ) :
    slice memory offset (size + size') =
      slice memory offset size ++ slice memory (offset + size) size' := by
  simp only [slice, List.range_add, List.map_append, List.map_map, Function.comp_def,
    Nat.add_assoc]

/-- A part of a slice. -/
lemma take_drop_slice (memory : ℕ → β) {offset size skip n : ℕ} (h : skip + n ≤ size) :
    ((slice memory offset size).drop skip).take n = slice memory (offset + skip) n := by
  obtain ⟨rest, rfl⟩ := Nat.exists_eq_add_of_le h
  rw [slice_add, slice_add, List.append_assoc, List.drop_left' (length_slice ..),
    List.take_left' (length_slice ..)]

/-- A concatenation lies in memory piece by piece. -/
lemma slice_eq_append_iff {memory : ℕ → β} {offset : ℕ} {xs ys : List β} :
    slice memory offset (xs ++ ys).length = xs ++ ys ↔
      slice memory offset xs.length = xs ∧ slice memory (offset + xs.length) ys.length = ys := by
  rw [List.length_append, slice_add]
  constructor
  · intro h
    exact List.append_inj h (length_slice ..)
  · rintro ⟨hx, hy⟩
    rw [hx, hy]

/-- The cells just written. -/
lemma slice_write (memory : ℕ → β) (offset : ℕ) (cells : List β) :
    slice (write memory offset cells) offset cells.length = cells := by
  refine List.ext_getElem (length_slice ..) fun i hi hi' => ?_
  simp [slice, write, hi']

/-- A write leaves the cells in front of it. -/
lemma slice_write_of_le (memory : ℕ → β) {offset size target : ℕ} (cells : List β)
    (h : offset + size ≤ target) :
    slice (write memory target cells) offset size = slice memory offset size :=
  slice_congr fun i hi => if_neg (by omega)

/-- A write leaves the cells behind it. -/
lemma slice_write_of_ge (memory : ℕ → β) {offset size target : ℕ} {cells : List β}
    (h : target + cells.length ≤ offset) :
    slice (write memory target cells) offset size = slice memory offset size :=
  slice_congr fun i hi => by
    unfold write
    rw [if_pos (by omega), List.getElem?_eq_none (by omega)]
    rfl

/-- A write seen from a cell in front of it. -/
lemma write_shift (memory : ℕ → β) (base offset : ℕ) (cells : List β) :
    (fun i => write memory (base + offset) cells (base + i)) =
      write (fun i => memory (base + i)) offset cells := by
  funext i
  unfold write
  by_cases hfront : offset ≤ i
  · rw [if_pos hfront, if_pos (by omega), Nat.add_sub_add_left]
  · rw [if_neg hfront, if_neg (by omega)]

lemma slice_shift (memory : ℕ → β) (base offset size : ℕ) :
    slice (fun i => memory (base + i)) offset size = slice memory (base + offset) size := by
  simp only [slice, Nat.add_assoc]

/-- Two writes, one behind the other, are one. -/
lemma write_write (memory : ℕ → β) (offset : ℕ) (cells cells' : List β) :
    write (write memory offset cells) (offset + cells.length) cells' =
      write memory offset (cells ++ cells') := by
  funext p
  unfold write
  by_cases hfront : offset ≤ p
  · by_cases hback : offset + cells.length ≤ p
    · have hsub : p - offset - cells.length = p - (offset + cells.length) := by omega
      rw [if_pos hback, if_pos hfront, if_pos hfront, List.getElem?_append_right (by omega), hsub,
        List.getElem?_eq_none (l := cells) (by omega)]
      rfl
    · rw [if_neg hback, if_pos hfront, if_pos hfront, List.getElem?_append_left (by omega)]
  · rw [if_neg (by omega), if_neg hfront, if_neg hfront]

@[simp] lemma write_nil (memory : ℕ → β) (offset : ℕ) : write memory offset [] = memory := by
  funext p
  simp [write]

@[simp] lemma move_zero (memory : ℕ → β) (target source : ℕ) :
    move memory target source 0 = memory := by
  funext p
  exact if_neg (by omega)

/-- A move leaves the cells in front of its target. -/
lemma slice_move_of_le (memory : ℕ → β) {offset size target : ℕ} (source moved : ℕ)
    (h : offset + size ≤ target) :
    slice (move memory target source moved) offset size = slice memory offset size :=
  slice_congr fun i hi => if_neg (by omega)

/-- The cells that arrive at the target of a move. -/
lemma slice_move (memory : ℕ → β) {target source moved offset size : ℕ} (h : target ≤ offset)
    (hsize : offset + size ≤ target + moved) :
    slice (move memory target source moved) offset size =
      slice memory (source + (offset - target)) size :=
  slice_congr fun i hi => by
    have harrives : target ≤ offset + i ∧ offset + i < target + moved := by omega
    have hfrom : source + (offset + i - target) = source + (offset - target) + i := by omega
    unfold move
    rw [if_pos harrives, hfrom]

/-! ## Extents -/

/-- The cells of one owner. -/
structure Extent where
  offset : ℕ
  size : ℕ
  deriving DecidableEq, Repr

/-- The first cell behind an extent. -/
def Extent.stop (e : Extent) : ℕ := e.offset + e.size

/-- An extent behind a removed one moves down by its size. -/
def closeGap (removed e : Extent) : Extent :=
  if removed.offset < e.offset then ⟨e.offset - removed.size, e.size⟩ else e

/-- The extents of the owners are not empty, disjoint, and together the first `used` cells. -/
structure Packed (owners : Set ι) (extent : ι → Extent) (used : ℕ) : Prop where
  nonempty : ∀ i ∈ owners, 0 < (extent i).size
  within : ∀ i ∈ owners, (extent i).stop ≤ used
  disjoint : ∀ i ∈ owners, ∀ j ∈ owners, i ≠ j →
    (extent i).stop ≤ (extent j).offset ∨ (extent j).stop ≤ (extent i).offset
  covered : ∀ p < used, ∃ i ∈ owners, (extent i).offset ≤ p ∧ p < (extent i).stop

/-- A packed arena whose extents hold `bytes`. -/
structure Stores (owners : Set ι) (extent : ι → Extent) (used : ℕ) (memory : ℕ → β)
    (bytes : ι → List β) : Prop extends Packed owners extent used where
  content : ∀ i ∈ owners, slice memory (extent i).offset (extent i).size = bytes i

section

variable {owners owners' : Set ι} {extent extent' : ι → Extent} {used : ℕ} {memory : ℕ → β}
  {bytes bytes' : ι → List β}

lemma packed_empty (extent : ι → Extent) : Packed ∅ extent 0 where
  nonempty := by simp
  within := by simp
  disjoint := by simp
  covered := by simp

lemma stores_empty (extent : ι → Extent) (memory : ℕ → β) (bytes : ι → List β) :
    Stores ∅ extent 0 memory bytes :=
  { packed_empty extent with content := by simp }

/-- Only the owners matter. -/
lemma Packed.congr (h : Packed owners extent used) (howners : owners' = owners)
    (hextent : ∀ i ∈ owners, extent' i = extent i) : Packed owners' extent' used := by
  subst howners
  refine ⟨fun i hi => ?_, fun i hi => ?_, fun i hi j hj hij => ?_, fun p hp => ?_⟩
  · rw [hextent i hi]
    exact h.nonempty i hi
  · rw [hextent i hi]
    exact h.within i hi
  · rw [hextent i hi, hextent j hj]
    exact h.disjoint i hi j hj hij
  · obtain ⟨i, hi, hp⟩ := h.covered p hp
    exact ⟨i, hi, by rwa [hextent i hi]⟩

lemma Packed.cast_used {used' : ℕ} (h : Packed owners extent used) (heq : used' = used) :
    Packed owners extent used' := heq ▸ h

lemma Stores.congr (h : Stores owners extent used memory bytes) (howners : owners' = owners)
    (hextent : ∀ i ∈ owners, extent' i = extent i) (hbytes : ∀ i ∈ owners, bytes' i = bytes i) :
    Stores owners' extent' used memory bytes' where
  toPacked := h.toPacked.congr howners hextent
  content i hi := by
    rw [howners] at hi
    rw [hextent i hi, hbytes i hi]
    exact h.content i hi

lemma Stores.length_bytes (h : Stores owners extent used memory bytes) {i : ι} (hi : i ∈ owners) :
    (bytes i).length = (extent i).size := by
  rw [← h.content i hi, length_slice]

/-! ## Removal -/

/-- An extent beside a removed one lies wholly in front of it, and stays, or wholly behind it, and
moves down. -/
lemma Packed.beside (h : Packed owners extent used) {i j : ι} (hi : i ∈ owners) (hj : j ∈ owners)
    (hij : j ≠ i) :
    (extent j).stop ≤ (extent i).offset ∧ closeGap (extent i) (extent j) = extent j ∨
    (extent i).stop ≤ (extent j).offset ∧
      closeGap (extent i) (extent j) = ⟨(extent j).offset - (extent i).size, (extent j).size⟩ := by
  have hposi := h.nonempty i hi
  have hposj := h.nonempty j hj
  rcases h.disjoint j hj i hi hij with hfront | hback
  · refine Or.inl ⟨hfront, if_neg ?_⟩
    simp only [Extent.stop] at hfront
    omega
  · refine Or.inr ⟨hback, if_pos ?_⟩
    simp only [Extent.stop] at hback
    omega

/-- **Closing the gap of a removed extent keeps the arena packed.** -/
theorem Packed.remove (h : Packed owners extent used) {i : ι} (hi : i ∈ owners) :
    Packed (owners \ {i}) (fun j => closeGap (extent i) (extent j)) (used - (extent i).size) := by
  have hwithin := h.within i hi
  refine ⟨fun j hj => ?_, fun j hj => ?_, fun j hj k hk hjk => ?_, fun p hp => ?_⟩
  · have hpos := h.nonempty j hj.1
    rcases h.beside hi hj.1 hj.2 with ⟨-, heq⟩ | ⟨-, heq⟩ <;> rw [heq] <;> exact hpos
  · have hj' := h.within j hj.1
    rcases h.beside hi hj.1 hj.2 with ⟨hside, heq⟩ | ⟨hside, heq⟩ <;> rw [heq] <;>
      simp only [Extent.stop] at * <;> omega
  · have hdisjoint := h.disjoint j hj.1 k hk.1 hjk
    rcases h.beside hi hj.1 hj.2 with ⟨hside, heq⟩ | ⟨hside, heq⟩ <;>
      rcases h.beside hi hk.1 hk.2 with ⟨hside', heq'⟩ | ⟨hside', heq'⟩ <;>
        rw [heq, heq'] <;> simp only [Extent.stop] at * <;> omega
  · -- A cell behind the gap held what lies `size` cells further up before.
    by_cases hfront : p < (extent i).offset
    · obtain ⟨j, hj, hp'⟩ := h.covered p (by omega)
      have hji : j ≠ i := by
        rintro rfl
        omega
      refine ⟨j, ⟨hj, hji⟩, ?_⟩
      rcases h.beside hi hj hji with ⟨hside, heq⟩ | ⟨hside, heq⟩ <;> rw [heq] <;>
        simp only [Extent.stop] at * <;> omega
    · obtain ⟨j, hj, hp'⟩ := h.covered (p + (extent i).size) (by omega)
      have hji : j ≠ i := by
        rintro rfl
        simp only [Extent.stop] at hp'
        omega
      refine ⟨j, ⟨hj, hji⟩, ?_⟩
      rcases h.beside hi hj hji with ⟨hside, heq⟩ | ⟨hside, heq⟩ <;> rw [heq] <;>
        simp only [Extent.stop] at * <;> omega

/-- **Sliding the tail down over a removed extent keeps the bytes of the others.** -/
theorem Stores.remove (h : Stores owners extent used memory bytes) {i : ι} (hi : i ∈ owners) :
    Stores (owners \ {i}) (fun j => closeGap (extent i) (extent j)) (used - (extent i).size)
      (move memory (extent i).offset (extent i).stop (used - (extent i).stop)) bytes where
  toPacked := h.toPacked.remove hi
  content j hj := by
    have hwithin := h.within j hj.1
    rw [← h.content j hj.1]
    rcases h.toPacked.beside hi hj.1 hj.2 with ⟨hside, heq⟩ | ⟨hside, heq⟩ <;> rw [heq]
    · exact slice_move_of_le memory _ _ hside
    · simp only [Extent.stop] at *
      have hmoved : slice (move memory (extent i).offset ((extent i).offset + (extent i).size)
          (used - ((extent i).offset + (extent i).size))) ((extent j).offset - (extent i).size)
          (extent j).size = slice memory ((extent i).offset + (extent i).size +
            ((extent j).offset - (extent i).size - (extent i).offset)) (extent j).size :=
        slice_move memory (by omega) (by omega)
      have hfrom : (extent i).offset + (extent i).size +
          ((extent j).offset - (extent i).size - (extent i).offset) = (extent j).offset := by omega
      rw [hmoved, hfrom]

/-! ## Appending -/

/-- A new last extent keeps the arena packed. -/
lemma Packed.append (h : Packed owners extent used) {i : ι} (hi : i ∉ owners) {size : ℕ}
    (hsize : 0 < size) (hold : ∀ j ∈ owners, extent' j = extent j)
    (hnew : extent' i = ⟨used, size⟩) :
    Packed (insert i owners) extent' (used + size) := by
  have hother : ∀ j ∈ owners, j ≠ i := fun j hj heq => hi (heq ▸ hj)
  refine ⟨?_, ?_, ?_, fun p hp => ?_⟩
  · rintro j (rfl | hj)
    · rw [hnew]
      exact hsize
    · rw [hold j hj]
      exact h.nonempty j hj
  · rintro j (rfl | hj)
    · rw [hnew]
      exact le_rfl
    · rw [hold j hj]
      exact (h.within j hj).trans (Nat.le_add_right ..)
  · rintro j (rfl | hj) k (rfl | hk) hjk
    · exact absurd rfl hjk
    · rw [hnew, hold k hk]
      exact Or.inr (h.within k hk)
    · rw [hnew, hold j hj]
      exact Or.inl (h.within j hj)
    · rw [hold j hj, hold k hk]
      exact h.disjoint j hj k hk hjk
  · by_cases hp' : p < used
    · obtain ⟨j, hj, hcell⟩ := h.covered p hp'
      exact ⟨j, Or.inr hj, by rwa [hold j hj]⟩
    · refine ⟨i, Or.inl rfl, ?_⟩
      rw [hnew]
      simp only [Extent.stop]
      omega

/-- A row of extents of one size behind the last used cell keeps the arena packed. -/
lemma Packed.row (h : Packed owners extent used) {f : ℕ → ι} (hf : f.Injective) {size n : ℕ}
    (hsize : 0 < size) (hnew : ∀ k < n, f k ∉ owners)
    (hrow : ∀ k < n, extent (f k) = ⟨used + k * size, size⟩) :
    Packed (owners ∪ f '' Set.Iio n) extent (used + n * size) := by
  induction n with
  | zero =>
      refine (h.congr ?_ fun _ _ => rfl).cast_used (by omega)
      simp
  | succ n ih =>
      have hfront := ih (fun k hk => hnew k (by omega)) fun k hk => hrow k (by omega)
      have hlast : f n ∉ owners ∪ f '' Set.Iio n := by
        rintro (hold | ⟨k, hk, heq⟩)
        · exact hnew n (by omega) hold
        · exact (Set.mem_Iio.mp hk).ne (hf heq)
      have hall := hfront.append hlast hsize (fun _ _ => rfl) (hrow n (by omega))
      refine (hall.congr ?_ fun _ _ => rfl).cast_used (by ring)
      ext i
      simp only [Set.mem_union, Set.mem_image, Set.mem_Iio, Set.mem_insert_iff,
        Order.lt_add_one_iff]
      constructor
      · rintro (hold | ⟨k, hk, rfl⟩)
        · exact Or.inr (Or.inl hold)
        · rcases hk.lt_or_eq with hk | rfl
          · exact Or.inr (Or.inr ⟨k, hk, rfl⟩)
          · exact Or.inl rfl
      · rintro (rfl | hold | ⟨k, hk, rfl⟩)
        · exact Or.inr ⟨n, le_rfl, rfl⟩
        · exact Or.inl hold
        · exact Or.inr ⟨k, hk.le, rfl⟩

/-- **Writing behind the last used cell adds an owner and keeps the others.** -/
theorem Stores.append (h : Stores owners extent used memory bytes) {i : ι} (hi : i ∉ owners)
    {cells : List β} (hcells : cells ≠ []) (hold : ∀ j ∈ owners, extent' j = extent j)
    (hnew : extent' i = ⟨used, cells.length⟩) (hkept : ∀ j ∈ owners, bytes' j = bytes j)
    (hbytes : bytes' i = cells) :
    Stores (insert i owners) extent' (used + cells.length) (write memory used cells) bytes' where
  toPacked := h.toPacked.append hi (List.length_pos_iff.mpr hcells) hold hnew
  content j hj := by
    rcases hj with rfl | hj
    · rw [hnew, hbytes]
      exact slice_write memory used cells
    · rw [hold j hj, hkept j hj, ← h.content j hj]
      exact slice_write_of_le memory cells (h.within j hj)

end

end PackedArena
