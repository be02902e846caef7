import Mathlib.Tactic

/-!
# Carving areas from a block of memory

A cursor moves through a block; each request is served at the next address with its alignment, as
long as the rest of the block holds it.  Whether a sequence of requests is served depends only on
where the last one ends (`carveAll_eq`), and what was carved lies one behind the other in the block.
-/

namespace Carve

/-- A request for `size` bytes at a multiple of `alignment`. -/
structure Request where
  alignment : ℕ
  size : ℕ
  aligned : ∃ k, alignment = 2 ^ k

/-- What was carved for a request. -/
structure Area where
  start : ℕ
  size : ℕ
  alignment : ℕ
  deriving DecidableEq, Repr

/-- The first byte behind an area. -/
def Area.stop (a : Area) : ℕ := a.start + a.size

/-- The next multiple of a power of two: `address + alignment - 1` with its low bits cleared. -/
def alignUp (address alignment : ℕ) : ℕ :=
  address + alignment - 1 - ((address + alignment - 1) &&& (alignment - 1))

/-- Serves one request; also the new cursor and what remains behind it. -/
def carve (cursor remaining : ℕ) (r : Request) : Option (Area × ℕ × ℕ) :=
  if r.alignment = 0 ∨ r.alignment &&& (r.alignment - 1) ≠ 0 then none
  else
    let start := alignUp cursor r.alignment
    let padding := start - cursor
    if remaining < padding ∨ remaining - padding < r.size then none
    else some (⟨start, r.size, r.alignment⟩, cursor + (padding + r.size),
      remaining - (padding + r.size))

/-- Serves the requests one after the other. -/
def carveAll (cursor remaining : ℕ) : List Request → Option (List Area × ℕ × ℕ)
  | [] => some ([], cursor, remaining)
  | r :: rest => do
      let (area, cursor, remaining) ← carve cursor remaining r
      let (areas, cursor, remaining) ← carveAll cursor remaining rest
      return (area :: areas, cursor, remaining)

/-! ## Alignment -/

section Alignment

variable {address alignment : ℕ}

lemma Request.pos (r : Request) : 0 < r.alignment := by
  obtain ⟨k, hk⟩ := r.aligned
  rw [hk]
  exact Nat.two_pow_pos k

lemma alignUp_eq (h : ∃ k, alignment = 2 ^ k) :
    alignUp address alignment = (address + alignment - 1) / alignment * alignment := by
  obtain ⟨k, rfl⟩ := h
  have hdiv := Nat.div_add_mod (address + 2 ^ k - 1) (2 ^ k)
  rw [mul_comm] at hdiv
  unfold alignUp
  rw [Nat.and_two_pow_sub_one_eq_mod]
  omega

lemma dvd_alignUp (h : ∃ k, alignment = 2 ^ k) : alignment ∣ alignUp address alignment := by
  rw [alignUp_eq h]
  exact Nat.dvd_mul_left _ _

lemma le_alignUp (h : ∃ k, alignment = 2 ^ k) : address ≤ alignUp address alignment := by
  obtain ⟨k, rfl⟩ := h
  have hpos := Nat.two_pow_pos k
  have hmod := Nat.mod_lt (address + 2 ^ k - 1) hpos
  unfold alignUp
  rw [Nat.and_two_pow_sub_one_eq_mod]
  omega

lemma alignUp_le (h : ∃ k, alignment = 2 ^ k) :
    alignUp address alignment ≤ address + (alignment - 1) := by
  obtain ⟨k, rfl⟩ := h
  have hpos := Nat.two_pow_pos k
  unfold alignUp
  omega

lemma alignUp_add {base : ℕ} (h : ∃ k, alignment = 2 ^ k) (hbase : alignment ∣ base) :
    alignUp (base + address) alignment = base + alignUp address alignment := by
  obtain ⟨n, rfl⟩ := hbase
  have hpos : 0 < alignment := Request.pos ⟨alignment, 0, h⟩
  have hsplit : alignment * n + address + alignment - 1 =
      address + alignment - 1 + alignment * n := by omega
  rw [alignUp_eq h, alignUp_eq h, hsplit, Nat.add_mul_div_left _ _ hpos, add_mul, add_comm,
    mul_comm n]

/-- What is added to an address to align it. -/
lemma alignUp_padding (h : ∃ k, alignment = 2 ^ k) :
    alignUp address alignment = address + (alignment - address % alignment) % alignment := by
  have hpos : 0 < alignment := Request.pos ⟨alignment, 0, h⟩
  have hmod := Nat.mod_lt address hpos
  have hdiv := Nat.div_add_mod address alignment
  rw [alignUp_eq h]
  rcases Nat.eq_zero_or_pos (address % alignment) with hzero | hnonzero
  · rw [hzero, Nat.sub_zero, Nat.mod_self, add_zero]
    have hquotient : (address + alignment - 1) / alignment = address / alignment := by
      have hsplit : address + alignment - 1 = alignment - 1 + alignment * (address / alignment) := by
        omega
      rw [hsplit, Nat.add_mul_div_left _ _ hpos, Nat.div_eq_of_lt (by omega), zero_add]
    rw [hquotient, mul_comm]
    omega
  · have hquotient : (address + alignment - 1) / alignment = address / alignment + 1 := by
      have hsplit : address + alignment - 1 =
          address % alignment - 1 + alignment * (address / alignment + 1) := by
        rw [mul_add]
        omega
      rw [hsplit, Nat.add_mul_div_left _ _ hpos, Nat.div_eq_of_lt (by omega), zero_add]
    rw [hquotient, Nat.mod_eq_of_lt (by omega), add_mul, mul_comm]
    omega

end Alignment

/-! ## Carving -/

/-- Where the last of the requests ends. -/
def carvedEnd (cursor : ℕ) : List Request → ℕ
  | [] => cursor
  | r :: rest => carvedEnd (alignUp cursor r.alignment + r.size) rest

/-- The areas of the requests. -/
def placed (cursor : ℕ) : List Request → List Area
  | [] => []
  | r :: rest =>
      ⟨alignUp cursor r.alignment, r.size, r.alignment⟩ ::
        placed (alignUp cursor r.alignment + r.size) rest

lemma carve_eq (cursor remaining : ℕ) (r : Request) :
    carve cursor remaining r =
      if alignUp cursor r.alignment + r.size ≤ cursor + remaining then
        some (⟨alignUp cursor r.alignment, r.size, r.alignment⟩,
          alignUp cursor r.alignment + r.size,
          cursor + remaining - (alignUp cursor r.alignment + r.size))
      else none := by
  have hle : cursor ≤ alignUp cursor r.alignment := le_alignUp r.aligned
  have hpower : r.alignment &&& (r.alignment - 1) = 0 := by
    obtain ⟨k, hk⟩ := r.aligned
    rw [hk, Nat.and_two_pow_sub_one_eq_mod, Nat.mod_self]
  unfold carve
  rw [if_neg (by simp [hpower, r.pos.ne'])]
  dsimp only
  by_cases hfits : alignUp cursor r.alignment + r.size ≤ cursor + remaining
  · rw [if_neg (by omega), if_pos hfits]
    have hcursor : cursor + (alignUp cursor r.alignment - cursor + r.size) =
        alignUp cursor r.alignment + r.size := by omega
    have hremaining : remaining - (alignUp cursor r.alignment - cursor + r.size) =
        cursor + remaining - (alignUp cursor r.alignment + r.size) := by omega
    rw [hcursor, hremaining]
  · rw [if_pos (by omega), if_neg hfits]

lemma le_carvedEnd (cursor : ℕ) (requests : List Request) :
    cursor ≤ carvedEnd cursor requests := by
  induction requests generalizing cursor with
  | nil => exact le_rfl
  | cons r rest ih =>
      have hle : cursor ≤ alignUp cursor r.alignment := le_alignUp r.aligned
      exact (hle.trans (Nat.le_add_right _ _)).trans (ih _)

/-- **The requests are served exactly when the last of them ends in the block.** -/
theorem carveAll_eq (cursor remaining : ℕ) (requests : List Request) :
    carveAll cursor remaining requests =
      if carvedEnd cursor requests ≤ cursor + remaining then
        some (placed cursor requests, carvedEnd cursor requests,
          cursor + remaining - carvedEnd cursor requests)
      else none := by
  induction requests generalizing cursor remaining with
  | nil =>
      rw [carvedEnd, if_pos (Nat.le_add_right _ _), Nat.add_sub_cancel_left]
      rfl
  | cons r rest ih =>
      have hle := le_carvedEnd (alignUp cursor r.alignment + r.size) rest
      rw [carveAll, carve_eq, carvedEnd, placed]
      by_cases hfits : alignUp cursor r.alignment + r.size ≤ cursor + remaining
      · rw [if_pos hfits]
        simp only [Option.bind_eq_bind, Option.bind_some]
        rw [ih, Nat.add_sub_cancel' hfits]
        split_ifs
        · rfl
        · rfl
      · rw [if_neg hfits, if_neg (by omega)]
        rfl

lemma carvedEnd_append (cursor : ℕ) (first second : List Request) :
    carvedEnd cursor (first ++ second) = carvedEnd (carvedEnd cursor first) second := by
  induction first generalizing cursor with
  | nil => rfl
  | cons r rest ih => exact ih _

/-- Padding costs less than the alignment for each request. -/
lemma carvedEnd_le (cursor : ℕ) (requests : List Request) :
    carvedEnd cursor requests ≤
      cursor + (requests.map fun r => r.alignment - 1 + r.size).sum := by
  induction requests generalizing cursor with
  | nil => exact le_rfl
  | cons r rest ih =>
      have hpadding : alignUp cursor r.alignment ≤ _ := alignUp_le r.aligned
      have hrest := ih (alignUp cursor r.alignment + r.size)
      rw [List.map_cons, List.sum_cons, carvedEnd]
      omega

/-- A base with every alignment moves everything along. -/
lemma carvedEnd_add {base : ℕ} {requests : List Request}
    (hbase : ∀ r ∈ requests, r.alignment ∣ base) (cursor : ℕ) :
    carvedEnd (base + cursor) requests = base + carvedEnd cursor requests := by
  induction requests generalizing cursor with
  | nil => rfl
  | cons r rest ih =>
      rw [carvedEnd, alignUp_add r.aligned (hbase r List.mem_cons_self), add_assoc]
      exact ih (fun r' hr' => hbase r' (List.mem_cons_of_mem _ hr')) _

/-! ## The areas -/

lemma mem_placed {cursor : ℕ} {requests : List Request} {a : Area}
    (h : a ∈ placed cursor requests) :
    cursor ≤ a.start ∧ a.stop ≤ carvedEnd cursor requests ∧ a.alignment ∣ a.start := by
  induction requests generalizing cursor with
  | nil => cases h
  | cons r rest ih =>
      have hle : cursor ≤ alignUp cursor r.alignment := le_alignUp r.aligned
      rcases List.mem_cons.mp h with rfl | hrest
      · exact ⟨hle, le_carvedEnd _ _, dvd_alignUp r.aligned⟩
      · obtain ⟨hstart, hstop, hdvd⟩ := ih hrest
        exact ⟨(hle.trans (Nat.le_add_right _ _)).trans hstart, hstop, hdvd⟩

/-- One behind the other. -/
lemma placed_pairwise (cursor : ℕ) (requests : List Request) :
    (placed cursor requests).Pairwise fun a b => a.stop ≤ b.start := by
  induction requests generalizing cursor with
  | nil => exact .nil
  | cons r rest ih => exact .cons (fun _ hb => (mem_placed hb).1) (ih _)

lemma placed_append (cursor : ℕ) (first second : List Request) :
    placed cursor (first ++ second) =
      placed cursor first ++ placed (carvedEnd cursor first) second := by
  induction first generalizing cursor with
  | nil => rfl
  | cons r rest ih => exact congrArg _ (ih _)

/-- The areas are what was asked for. -/
lemma placed_map (cursor : ℕ) (requests : List Request) :
    (placed cursor requests).map (fun a => (a.alignment, a.size)) =
      requests.map fun r => (r.alignment, r.size) := by
  induction requests generalizing cursor with
  | nil => rfl
  | cons r rest ih => exact congrArg _ (ih _)

end Carve
