import On9kvdb.Lib.Patch
import On9kvdb.Lib.Triple

/-!
# Programs that may touch memory they do not own

Programs with state and exceptions that may also have no outcome at all: an access outside its
object, or a loop that is still running when its fuel is spent.  `Safe x Q` excludes both from every
state, and says `Q` of every result; exceptions are allowed.

* `load`, `loadRange`, `store`: accesses to a list of cells.
* `iterate`: a loop, with an invariant and a variant in its rule (`Safe.iterate`).
* `attempt`, `perform`, `conclude`: other kinds of programs as steps.
-/

namespace Guarded

open Patch

variable {σ ε δ α β γ : Type}

/-- A program over the state `σ` that may raise an `ε`, or get stuck. -/
abbrev Prog (σ ε α : Type) := ExceptT ε (StateT σ Option) α

/-- Runs a program from a state: nothing when it gets stuck. -/
def outcome (x : Prog σ ε α) (s : σ) : Option (Except ε α × σ) := (ExceptT.run x).run s

/-- Whether a run returns a result. -/
def succeeds (x : Prog σ ε α) (s : σ) : Bool :=
  match outcome x s with
  | some (.ok _, _) => true
  | _ => false

lemma exists_of_succeeds {x : Prog σ ε α} {s : σ} (h : succeeds x s = true) :
    ∃ a s', outcome x s = some (.ok a, s') := by
  unfold succeeds at h
  rcases hx : outcome x s with _ | ⟨_ | a, s'⟩
  · rw [hx] at h
    cases h
  · rw [hx] at h
    cases h
  · exact ⟨a, s', rfl⟩

/-- **Safety.**  From no state does the program get stuck, and its results satisfy `Q`. -/
def Safe (x : Prog σ ε α) (Q : α → Prop) : Prop :=
  ∀ s, match outcome x s with
    | none => False
    | some (.ok a, _) => Q a
    | some (.error _, _) => True

/-- Safety of a program without state. -/
def Defined (x : ExceptT δ Option α) (Q : α → Prop) : Prop :=
  match x.run with
  | none => False
  | some (.ok a) => Q a
  | some (.error _) => True

/-! ## Steps -/

/-- No outcome. -/
def stuck : Prog σ ε α := ExceptT.mk fun _ => none

/-- An access that is only defined under a condition. -/
def require (condition : Prop) [Decidable condition] : Prog σ ε Unit :=
  if condition then pure () else stuck

/-- `if (condition) return error;` -/
def raiseIf (condition : Prop) [Decidable condition] (error : ε) : Prog σ ε Unit :=
  if condition then throw error else pure ()

/-- A result that is known already. -/
def conclude (r : Except ε α) : Prog σ ε α := ExceptT.mk (pure r)

/-- A program that does not get stuck. -/
def perform (x : Exceptional.Prog σ ε α) : Prog σ ε α :=
  ExceptT.mk fun s => some (Exceptional.exec x s)

/-- A program without state whose exceptions are values here. -/
def attempt (x : ExceptT δ Option α) : Prog σ ε (Except δ α) :=
  ExceptT.mk fun s => x.run.map fun r => (.ok r, s)

/-! ## Cells -/

/-- The cell at `i`. -/
def load (cells : List α) (i : ℕ) : Prog σ ε α :=
  match cells[i]? with
  | none => stuck
  | some a => pure a

/-- `len` cells from `offset` on, all of which are read. -/
def loadRange (cells : List α) (offset len : ℕ) : Prog σ ε (List α) :=
  if len = 0 ∨ offset + len ≤ cells.length then pure (slice cells offset len) else stuck

/-- The cells with `piece` written from `offset` on. -/
def store (cells : List α) (offset : ℕ) (piece : List α) : Prog σ ε (List α) :=
  if piece = [] then pure cells
  else if offset + piece.length ≤ cells.length then pure (patch cells offset piece)
  else stuck

/-! ## Loops -/

/-- Repeats `step` until it returns a result; stuck when that takes more than `fuel` rounds. -/
def iterate (step : β → Prog σ ε (β ⊕ α)) : (fuel : ℕ) → β → Prog σ ε α
  | 0, _ => stuck
  | fuel + 1, b => do
      match ← step b with
      | .inl b => iterate step fuel b
      | .inr a => pure a

/-- What a round may end with: a result, or a state in the invariant whose variant is smaller. -/
def Round (invariant : β → Prop) (variant : β → ℕ) (Q : α → Prop) (b : β) : β ⊕ α → Prop
  | .inl b' => invariant b' ∧ variant b' < variant b
  | .inr a => Q a

/-! ## The rules -/

namespace Safe

variable {x : Prog σ ε α} {f : α → Prog σ ε β} {P Q : α → Prop} {R : β → Prop}
  {condition : Prop} [Decidable condition] {error : ε}

/-- What a run returns. -/
lemma returned {s s' : σ} {a : α} (h : Safe x Q) (hrun : outcome x s = some (.ok a, s')) : Q a := by
  have hs := h s
  rwa [hrun] at hs

lemma pure {a : α} (h : Q a) : Safe (Pure.pure a : Prog σ ε α) Q := fun _ => h

lemma throw : Safe (MonadExcept.throw error : Prog σ ε α) Q := fun _ => trivial

lemma mono (h : Safe x P) (hPQ : ∀ a, P a → Q a) : Safe x Q := by
  intro s
  have hs := h s
  rcases hx : outcome x s with _ | ⟨_ | a, s'⟩
  · rw [hx] at hs
    exact hs
  · trivial
  · rw [hx] at hs
    exact hPQ a hs

/-- A step, and what follows each of its results. -/
lemma bind (hx : Safe x P) (hf : ∀ a, P a → Safe (f a) R) : Safe (x >>= f) R := by
  intro s
  have hs := hx s
  have hrun : outcome (x >>= f) s = (outcome x s).bind fun r => match r.1 with
      | .ok a => outcome (f a) r.2
      | .error e => some (.error e, r.2) := by
    unfold outcome
    rw [ExceptT.run_bind, StateT.run_bind]
    rcases (ExceptT.run x).run s with _ | ⟨_ | a, s'⟩ <;> rfl
  rw [hrun]
  rcases hx : outcome x s with _ | ⟨_ | a, s'⟩
  · rw [hx] at hs
    exact hs
  · trivial
  · rw [hx] at hs
    exact hf a hs s'

lemma ite {y : Prog σ ε α} (hx : condition → Safe x Q) (hy : ¬ condition → Safe y Q) :
    Safe (if condition then x else y) Q := by
  split_ifs with h
  · exact hx h
  · exact hy h

/-- An access whose condition holds is made. -/
lemma require (h : condition) : Safe (Guarded.require condition : Prog σ ε Unit)
    fun _ => condition := by
  unfold Guarded.require
  rw [if_pos h]
  exact pure h

/-- Behind a check, its condition does not hold. -/
lemma raiseIf : Safe (Guarded.raiseIf condition error : Prog σ ε Unit) fun _ => ¬ condition :=
  ite (fun _ => throw) fun h => pure h

lemma conclude {r : Except ε α} (h : ∀ a, r = .ok a → Q a) :
    Safe (Guarded.conclude r : Prog σ ε α) Q := by
  intro s
  cases r with
  | ok a => exact h a rfl
  | error e => trivial

lemma perform {y : Exceptional.Prog σ ε α}
    (h : ∀ s a s', Exceptional.exec y s = (.ok a, s') → Q a) : Safe (Guarded.perform y) Q := by
  intro s
  change match some (Exceptional.exec y s) with
    | none => False
    | some (.ok a, _) => Q a
    | some (.error _, _) => True
  rcases hy : Exceptional.exec y s with ⟨_ | a, s'⟩
  · trivial
  · exact h s a s' hy

lemma attempt {y : ExceptT δ Option α} (h : Defined y Q) :
    Safe (Guarded.attempt y : Prog σ ε (Except δ α)) fun r => ∀ a, r = .ok a → Q a := by
  intro s
  unfold Defined at h
  cases hy : y.run with
  | none =>
      rw [hy] at h
      exact h.elim
  | some r =>
      have hout : outcome (Guarded.attempt y : Prog σ ε (Except δ α)) s = some (.ok r, s) := by
        change (y.run.map fun r => ((.ok r : Except ε (Except δ α)), s)) = _
        rw [hy]
        rfl
      rw [hy] at h
      rw [hout]
      rintro a rfl
      exact h

lemma load {cells : List α} {i : ℕ} (h : i < cells.length) :
    Safe (Guarded.load cells i : Prog σ ε α) fun a => a = cells[i] := by
  unfold Guarded.load
  rw [List.getElem?_eq_getElem h]
  exact pure rfl

lemma loadRange {cells : List α} {offset len : ℕ} (h : offset + len ≤ cells.length) :
    Safe (Guarded.loadRange cells offset len : Prog σ ε (List α)) fun piece =>
      piece = slice cells offset len ∧ piece.length = len := by
  unfold Guarded.loadRange
  rw [if_pos (.inr h)]
  exact pure ⟨rfl, length_slice h⟩

lemma store {cells piece : List α} {offset : ℕ} (h : offset + piece.length ≤ cells.length) :
    Safe (Guarded.store cells offset piece : Prog σ ε (List α)) fun cells' =>
      cells' = patch cells offset piece ∧ cells'.length = cells.length := by
  unfold Guarded.store
  refine ite (fun hempty => pure ?_) fun _ => ?_
  · subst hempty
    have hpatch : patch cells offset [] = cells := by
      simp [patch]
    exact ⟨hpatch.symm, rfl⟩
  · rw [if_pos h]
    exact pure ⟨rfl, length_patch h⟩

/-- **The loop rule.**  A loop all of whose rounds are safe is safe, with fuel beyond the
variant. -/
theorem iterate {step : β → Prog σ ε (β ⊕ α)} (invariant : β → Prop) (variant : β → ℕ)
    (hstep : ∀ b, invariant b → Safe (step b) (Round invariant variant Q b)) {fuel : ℕ} {b : β}
    (hb : invariant b) (hfuel : variant b < fuel) :
    Safe (Guarded.iterate step fuel b) Q := by
  induction fuel generalizing b with
  | zero => omega
  | succ fuel ih =>
      unfold Guarded.iterate
      refine bind (hstep b hb) fun r hr => ?_
      cases r with
      | inl b' => exact ih hr.1 (by have := hr.2; omega)
      | inr a => exact pure hr

end Safe

namespace Defined

variable {x : ExceptT δ Option α} {f : α → ExceptT δ Option β} {P Q : α → Prop} {R : β → Prop}

lemma of_run {r : Except δ α} (hrun : x.run = some r) (h : ∀ a, r = .ok a → Q a) :
    Defined x Q := by
  unfold Defined
  rw [hrun]
  cases r with
  | ok a => exact h a rfl
  | error e => trivial

lemma pure {a : α} (h : Q a) : Defined (Pure.pure a : ExceptT δ Option α) Q := h

lemma bind (hx : Defined x P) (hf : ∀ a, P a → Defined (f a) R) : Defined (x >>= f) R := by
  unfold Defined at hx ⊢
  rw [ExceptT.run_bind]
  rcases hrun : x.run with _ | _ | a
  · rw [hrun] at hx
    exact hx
  · trivial
  · rw [hrun] at hx
    exact hf a hx

end Defined

end Guarded
