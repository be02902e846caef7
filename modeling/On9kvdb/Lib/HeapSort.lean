import Mathlib.Logic.Equiv.Basic
import Mathlib.Tactic

/-!
# Heap sort on an array segment

Heap sort with an explicit sift, over any type and any strict comparison.  The array is a
function of the index and an exchange composes it with a transposition, so that every sort is a
rearrangement by construction.
-/

namespace HeapSort

variable {α : Type} (lt : α → α → Bool)

/-- The larger child of `root`. -/
def largerChild (a : ℕ → α) (count root : ℕ) : ℕ :=
  let child := root * 2 + 1
  if child + 1 < count ∧ lt (a child) (a (child + 1)) = true then child + 1 else child

/-- Moves the element at `root` down until no child is larger. -/
def sift : (fuel : ℕ) → (a : ℕ → α) → (count root : ℕ) → ℕ → α
  | 0, a, _, _ => a
  | fuel + 1, a, count, root =>
      if 2 ≤ count ∧ root ≤ (count - 2) / 2 then
        let child := largerChild lt a count root
        if lt (a root) (a child) = true then
          sift fuel (a ∘ Equiv.swap root child) count child
        else a
      else a

/-- Sifts the roots below `root`, from the last to the first. -/
def heapify (a : ℕ → α) (count : ℕ) : (root : ℕ) → ℕ → α
  | 0 => a
  | root + 1 => heapify (sift lt count a count root) count root

/-- Moves the maximum behind the heap and restores the heap, until one element is left. -/
def drain (a : ℕ → α) : (last : ℕ) → ℕ → α
  | 0 => a
  | last + 1 =>
      if last = 0 then a
      else drain (sift lt (last + 1) (a ∘ Equiv.swap 0 last) last 0) last

/-- Sorts the first `count` elements. -/
def sort (a : ℕ → α) (count : ℕ) : ℕ → α :=
  if count < 2 then a else drain lt (heapify lt a count (count / 2)) count

/-- Sorts a list. -/
def sortList [Inhabited α] (l : List α) : List α :=
  (List.range l.length).map (sort lt (fun i => l.getD i default) l.length)

end HeapSort
