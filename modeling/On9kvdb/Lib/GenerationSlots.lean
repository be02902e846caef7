import Mathlib.Data.Set.Basic
import Mathlib.Tactic

/-!
# Slots with generations

A table of slots that are used again and again.  Whoever takes a slot gets the number of the slot
and a generation, and the pair resolves as long as the slot is in use under that generation.

* `Slots.live`: the pairs that resolve.  Taking a slot adds one pair (`live_put`), giving it back
  removes one (`live_retire`).
* `Issued`: the generations a counter has handed out.  A counter that has handed out everything is
  at 0, which is no generation (`next`), so a counter never hands out one generation twice.
-/

namespace Generational

variable {ι : Type}

/-! ## Slots -/

/-- Which slots are in use, and the generation each was last taken under. -/
@[ext] structure Slots (ι : Type) where
  used : ι → Bool
  tag : ι → ℕ

namespace Slots

/-- No slot is in use. -/
def empty : Slots ι := ⟨fun _ => false, fun _ => 0⟩

/-- The pairs of a slot and a generation that resolve. -/
def live (s : Slots ι) : Set (ι × ℕ) := {p | s.used p.1 = true ∧ s.tag p.1 = p.2}

lemma mem_live {s : Slots ι} {p : ι × ℕ} : p ∈ s.live ↔ s.used p.1 = true ∧ s.tag p.1 = p.2 := Iff.rfl

@[simp] lemma live_empty : (empty : Slots ι).live = ∅ := by
  ext p
  simp [mem_live, empty]

variable [DecidableEq ι] {s : Slots ι} {i : ι} {g : ℕ}

/-- Slot `i` is taken under generation `g`. -/
def put (s : Slots ι) (i : ι) (g : ℕ) : Slots ι :=
  ⟨Function.update s.used i true, Function.update s.tag i g⟩

/-- Slot `i` is given back. -/
def retire (s : Slots ι) (i : ι) : Slots ι := ⟨Function.update s.used i false, s.tag⟩

/-- **Taking a free slot adds the new pair.** -/
lemma live_put (h : s.used i = false) : (s.put i g).live = insert (i, g) s.live := by
  ext ⟨j, g'⟩
  simp only [mem_live, put, Set.mem_insert_iff, Prod.mk.injEq]
  by_cases hj : j = i
  · subst hj
    rw [Function.update_self, Function.update_self, h]
    simp only [true_and, Bool.false_eq_true, false_and, or_false]
    exact eq_comm
  · rw [Function.update_of_ne hj, Function.update_of_ne hj]
    simp [hj]

/-- **Giving a slot back removes the pair it was in use under.** -/
lemma live_retire : (s.retire i).live = s.live \ {(i, s.tag i)} := by
  ext ⟨j, g'⟩
  simp only [mem_live, retire, Set.mem_sdiff, Set.mem_singleton_iff, Prod.mk.injEq]
  by_cases hj : j = i
  · subst hj
    rw [Function.update_self]
    simp only [Bool.false_eq_true, false_and, true_and, false_iff, not_and, not_not]
    exact fun h => h.2.symm
  · rw [Function.update_of_ne hj]
    simp [hj]

end Slots

/-! ## Counters -/

/-- The counter behind a generation it has handed out: 0 behind the last one. -/
def next (limit counter : ℕ) : ℕ := if counter = limit then 0 else counter + 1

/-- The generations that a counter has handed out, and none from it on. -/
def Issued (counter generation : ℕ) : Prop := counter = 0 ∨ generation < counter

variable {limit counter generation : ℕ}

lemma issued_next_self : Issued (next limit counter) counter := by
  unfold Issued next
  split_ifs
  · exact .inl rfl
  · exact .inr (Nat.lt_succ_self _)

lemma Issued.lt (h : Issued counter generation) (hcounter : counter ≠ 0) : generation < counter :=
  h.resolve_left hcounter

lemma Issued.next (h : Issued counter generation) (hcounter : counter ≠ 0) :
    Issued (next limit counter) generation := by
  have hlt := h.lt hcounter
  rcases @issued_next_self limit counter with hzero | hself
  · exact .inl hzero
  · exact .inr (hlt.trans hself)

lemma next_le (h : counter ≤ limit) : Generational.next limit counter ≤ limit := by
  unfold Generational.next
  split_ifs with hmax
  · exact Nat.zero_le _
  · omega

end Generational
