import Mathlib.Tactic

/-!
# Triples for programs with state and exceptions

A small Hoare logic for `ExceptT ε (StateM σ)`, over any state and any exception type.  A triple
has two postconditions, one for a normal result and one for an exception, because the programs
verified with it must keep their invariant on every error path.

* `exec` runs a program; its equations are the simp set of this file.
* `Triple P x Q E`: from a state satisfying `P`, `x` ends in `Q a` or in `E e`.
* `Triple.bind`, `Triple.tryCatch`, `Triple.ite` and friends are the rules, one for each way a
  program is built.
-/

namespace Exceptional

variable {σ ε α β : Type}

/-- A program over the state `σ` that may raise an `ε`. -/
abbrev Prog (σ ε α : Type) := ExceptT ε (StateM σ) α

/-- Runs a program from a state: its outcome and the state it leaves. -/
def exec (x : Prog σ ε α) (s : σ) : Except ε α × σ := (ExceptT.run x).run s

/-- A run with a known outcome. -/
lemma exec_eq {x : Prog σ ε α} {s : σ} {o : Except ε α} (h : (exec x s).1 = o) :
    exec x s = (o, (exec x s).2) := Prod.ext h rfl

@[simp] lemma exec_pure (a : α) (s : σ) : exec (pure a : Prog σ ε α) s = (.ok a, s) := rfl

@[simp] lemma exec_throw (e : ε) (s : σ) : exec (throw e : Prog σ ε α) s = (.error e, s) := rfl

lemma exec_bind (x : Prog σ ε α) (f : α → Prog σ ε β) (s : σ) :
    exec (x >>= f) s =
      match exec x s with
      | (.ok a, s') => exec (f a) s'
      | (.error e, s') => (.error e, s') := by
  change (ExceptT.run (x >>= f)).run s = _
  simp only [ExceptT.run_bind, StateT.run_bind]
  unfold exec
  rcases h : (ExceptT.run x).run s with ⟨o, s'⟩
  cases o <;> rfl

/-- A step that returns is followed by the rest. -/
lemma exec_bind_ok {x : Prog σ ε α} {f : α → Prog σ ε β} {s s' : σ} {a : α}
    (h : exec x s = (.ok a, s')) : exec (x >>= f) s = exec (f a) s' := by
  rw [exec_bind, h]

lemma exec_bind_congr {x y : Prog σ ε α} {f : α → Prog σ ε β} {s s' : σ}
    (h : exec x s = exec y s') : exec (x >>= f) s = exec (y >>= f) s' := by
  rw [exec_bind, exec_bind, h]

lemma exec_tryCatch (x : Prog σ ε α) (h : ε → Prog σ ε α) (s : σ) :
    exec (tryCatch x h) s =
      match exec x s with
      | (.ok a, s') => (.ok a, s')
      | (.error e, s') => exec (h e) s' := by
  unfold exec
  rcases hx : (ExceptT.run x).run s with ⟨o, s'⟩
  have hx' : (x : StateM σ (Except ε α)) s = (o, s') := hx
  simp only [tryCatch, tryCatchThe, MonadExceptOf.tryCatch, ExceptT.tryCatch, ExceptT.run,
    ExceptT.mk, StateT.run, bind, StateT.bind]
  rw [hx']
  cases o <;> rfl

@[simp] lemma exec_get (s : σ) : exec (get : Prog σ ε σ) s = (.ok s, s) := rfl

@[simp] lemma exec_set (t s : σ) : exec (set t : Prog σ ε PUnit) s = (.ok ⟨⟩, t) := rfl

@[simp] lemma exec_modify (f : σ → σ) (s : σ) :
    exec (modify f : Prog σ ε PUnit) s = (.ok ⟨⟩, f s) := rfl

/-- **The triple.**  Started in `P`, the program either returns `a` in a state satisfying `Q a`
or raises `e` in a state satisfying `E e`. -/
def Triple (P : σ → Prop) (x : Prog σ ε α) (Q : α → σ → Prop) (E : ε → σ → Prop) : Prop :=
  ∀ s, P s → match exec x s with
    | (.ok a, s') => Q a s'
    | (.error e, s') => E e s'

namespace Triple

variable {P P' : σ → Prop} {Q Q' : α → σ → Prop} {R : β → σ → Prop} {E E' : ε → σ → Prop}
  {x : Prog σ ε α} {f : α → Prog σ ε β}

lemma of_exec (h : ∀ s, P s →
    (∀ a s', exec x s = (.ok a, s') → Q a s') ∧ (∀ e s', exec x s = (.error e, s') → E e s')) :
    Triple P x Q E := by
  intro s hs
  obtain ⟨hok, herr⟩ := h s hs
  rcases hx : exec x s with ⟨o, s'⟩
  cases o with
  | ok a => exact hok a s' hx
  | error e => exact herr e s' hx

lemma ok {s s' : σ} {a : α} (h : Triple P x Q E) (hs : P s) (hx : exec x s = (.ok a, s')) :
    Q a s' := by
  have := h s hs
  rwa [hx] at this

lemma error {s s' : σ} {e : ε} (h : Triple P x Q E) (hs : P s)
    (hx : exec x s = (.error e, s')) : E e s' := by
  have := h s hs
  rwa [hx] at this

/-- A postcondition of both outcomes holds of the final state. -/
lemma final {F : σ → Prop} {s : σ} (h : Triple P x (fun _ => F) (fun _ => F)) (hs : P s) :
    F (exec x s).2 := by
  have hrun := h s hs
  rcases hx : exec x s with ⟨o, s'⟩
  rw [hx] at hrun
  cases o with
  | ok a => exact hrun
  | error e => exact hrun

lemma conseq (h : Triple P' x Q' E') (hP : ∀ s, P s → P' s) (hQ : ∀ a s, Q' a s → Q a s)
    (hE : ∀ e s, E' e s → E e s) : Triple P x Q E :=
  of_exec fun s hs => ⟨fun a s' hx => hQ a s' (h.ok (hP s hs) hx),
    fun e s' hx => hE e s' (h.error (hP s hs) hx)⟩

lemma pre {S : σ → Prop} (h : Triple S x Q E) (hP : ∀ s, P s → S s) : Triple P x Q E :=
  h.conseq hP (fun _ _ h => h) fun _ _ h => h

/-- Two triples about one program hold together. -/
lemma both (h : Triple P x Q E) (h' : Triple P' x Q' E') :
    Triple (fun s => P s ∧ P' s) x (fun a s => Q a s ∧ Q' a s) (fun e s => E e s ∧ E' e s) :=
  of_exec fun _ hs => ⟨fun _ _ hx => ⟨h.ok hs.1 hx, h'.ok hs.2 hx⟩,
    fun _ _ hx => ⟨h.error hs.1 hx, h'.error hs.2 hx⟩⟩

/-- A fact that does not mention the state may be used to choose the triple. -/
lemma of_pure {p : Prop} (hp : ∀ s, P s → p) (h : p → Triple P x Q E) : Triple P x Q E :=
  fun s hs => h (hp s hs) s hs

/-- One initial state at a time. -/
lemma of_state (h : ∀ s, P s → Triple (· = s) x Q E) : Triple P x Q E :=
  fun s hs => h s hs s rfl

/-- A witness of the precondition may be named. -/
lemma of_exists {ι : Type} {I : ι → σ → Prop} (h : ∀ i, Triple (I i) x Q E) :
    Triple (fun s => ∃ i, I i s) x Q E := by
  rintro s ⟨i, hs⟩
  exact h i s hs

lemma pure {a : α} (h : ∀ s, P s → Q a s) : Triple P (Pure.pure a) Q E := fun s hs => h s hs

lemma throw {e : ε} (h : ∀ s, P s → E e s) :
    Triple P (MonadExcept.throw e : Prog σ ε α) Q E := fun s hs => h s hs

lemma bind (hx : Triple P x Q E) (hf : ∀ a, Triple (Q a) (f a) R E) :
    Triple P (x >>= f) R E := by
  intro s hs
  rw [exec_bind]
  rcases h : exec x s with ⟨o, s'⟩
  cases o with
  | ok a => exact hf a s' (hx.ok hs h)
  | error e => exact hx.error hs h

lemma tryCatch {h : ε → Prog σ ε α} (hx : Triple P x Q E') (hh : ∀ e, Triple (E' e) (h e) Q E) :
    Triple P (MonadExcept.tryCatch x h) Q E := by
  intro s hs
  rw [show exec (MonadExcept.tryCatch x h) s = _ from exec_tryCatch x h s]
  rcases h' : exec x s with ⟨o, s'⟩
  cases o with
  | ok a => exact hx.ok hs h'
  | error e => exact hh e s' (hx.error hs h')

lemma ite {c : Prop} [Decidable c] {y : Prog σ ε α}
    (ht : c → Triple P x Q E) (hf : ¬ c → Triple P y Q E) :
    Triple P (if c then x else y) Q E := by
  by_cases hc : c
  · rw [if_pos hc]
    exact ht hc
  · rw [if_neg hc]
    exact hf hc

lemma get {Q : σ → σ → Prop} (h : ∀ s, P s → Q s s) :
    Triple P (MonadState.get : Prog σ ε σ) Q E := fun s hs => h s hs

lemma update {g : σ → σ} {Q : PUnit → σ → Prop} (h : ∀ s, P s → Q ⟨⟩ (g s)) :
    Triple P (modify g : Prog σ ε PUnit) Q E := fun s hs => h s hs

end Triple

/-! ## Programs that only move along a relation -/

/-- Whatever the program ends with, its final state is related to its initial one. -/
def Within (R : σ → σ → Prop) (x : Prog σ ε α) : Prop := ∀ s, R s (exec x s).2

namespace Within

variable {R : σ → σ → Prop} {x : Prog σ ε α} {f : α → Prog σ ε β}

lemma pure [Std.Refl R] {a : α} : Within R (Pure.pure a : Prog σ ε α) := fun s => refl_of R s

lemma throw [Std.Refl R] {e : ε} : Within R (MonadExcept.throw e : Prog σ ε α) :=
  fun s => refl_of R s

lemma bind [IsTrans σ R] (hx : Within R x) (hf : ∀ a, Within R (f a)) : Within R (x >>= f) := by
  intro s
  have hs := hx s
  rw [exec_bind]
  rcases h : exec x s with ⟨o, s'⟩
  rw [h] at hs
  cases o with
  | ok a => exact trans_of R hs (hf a s')
  | error e => exact hs

lemma tryCatch [IsTrans σ R] {h : ε → Prog σ ε α} (hx : Within R x)
    (hh : ∀ e, Within R (h e)) : Within R (MonadExcept.tryCatch x h) := by
  intro s
  have hs := hx s
  rw [show exec (MonadExcept.tryCatch x h) s = _ from exec_tryCatch x h s]
  rcases h' : exec x s with ⟨o, s'⟩
  rw [h'] at hs
  cases o with
  | ok a => exact hs
  | error e => exact trans_of R hs (hh e s')

lemma ite {c : Prop} [Decidable c] {y : Prog σ ε α} (ht : Within R x) (hf : Within R y) :
    Within R (if c then x else y) := by
  split_ifs
  · exact ht
  · exact hf

lemma get [Std.Refl R] : Within R (MonadState.get : Prog σ ε σ) := fun s => refl_of R s

lemma update {g : σ → σ} (h : ∀ s, R s (g s)) : Within R (modify g : Prog σ ε PUnit) :=
  fun s => h s

/-- What follows from the relation holds in any outcome. -/
lemma triple {P : σ → Prop} {Q : α → σ → Prop} {E : ε → σ → Prop} (hx : Within R x)
    (hok : ∀ s s' a, P s → R s s' → Q a s') (herr : ∀ s s' e, P s → R s s' → E e s') :
    Triple P x Q E :=
  Triple.of_exec fun s hs =>
    ⟨fun a s' hrun => hok s s' a hs (by have := hx s; rwa [hrun] at this),
      fun e s' hrun => herr s s' e hs (by have := hx s; rwa [hrun] at this)⟩

/-- A property that the relation preserves is an invariant of the program. -/
lemma invariant {P : σ → Prop} (hx : Within R x) (h : ∀ s s', P s → R s s' → P s') :
    Triple P x (fun _ => P) (fun _ => P) :=
  hx.triple (fun s s' _ => h s s') (fun s s' _ => h s s')

/-- A part that changes nothing leaves the state to the rest of the program. -/
lemma unchanged [Std.Refl R] (hx : Within Eq x) (s₀ : σ) :
    Triple (· = s₀) x (fun _ => (· = s₀)) (fun _ => R s₀) :=
  hx.triple (fun _ _ _ hs h => h ▸ hs) fun _ _ _ hs h => by
    rw [← h, hs]
    exact refl_of R s₀

lemma of_triple (h : ∀ s, Triple (· = s) x (fun _ => R s) (fun _ => R s)) : Within R x :=
  fun s => (h s).final rfl

end Within

/-! ## What a program returns -/

/-- Every normal result satisfies `Q`, whatever the states are. -/
def Returns (Q : α → Prop) (x : Prog σ ε α) : Prop := ∀ s a s', exec x s = (.ok a, s') → Q a

namespace Returns

variable {P Q : α → Prop} {R : β → Prop} {x : Prog σ ε α} {f : α → Prog σ ε β}

lemma pure {a : α} (h : Q a) : Returns Q (Pure.pure a : Prog σ ε α) := by
  rintro s b s' hrun
  cases hrun
  exact h

lemma throw {e : ε} : Returns Q (MonadExcept.throw e : Prog σ ε α) := by
  rintro s b s' hrun
  cases hrun

lemma bind (hx : Returns Q x) (hf : ∀ a, Q a → Returns R (f a)) : Returns R (x >>= f) := by
  intro s b s' hrun
  rw [exec_bind] at hrun
  rcases h : exec x s with ⟨o, t⟩
  rw [h] at hrun
  cases o with
  | ok a => exact hf a (hx s a t h) t b s' hrun
  | error e => cases hrun

lemma trivial : Returns (fun _ => True) x := fun _ _ _ _ => True.intro

lemma ite {c : Prop} [Decidable c] {y : Prog σ ε α} (ht : c → Returns Q x)
    (hf : ¬ c → Returns Q y) : Returns Q (if c then x else y) := by
  split_ifs with hc
  · exact ht hc
  · exact hf hc

lemma mono (hx : Returns P x) (h : ∀ a, P a → Q a) : Returns Q x :=
  fun s a s' hrun => h a (hx s a s' hrun)

end Returns

/-- A continuation only has to cope with the results the first part can return. -/
lemma Within.bind_of {R : σ → σ → Prop} [IsTrans σ R] {Q : α → Prop} {x : Prog σ ε α}
    {f : α → Prog σ ε β} (hx : Within R x) (hq : Returns Q x) (hf : ∀ a, Q a → Within R (f a)) :
    Within R (x >>= f) := by
  intro s
  have hs := hx s
  rw [exec_bind]
  rcases h : exec x s with ⟨o, s'⟩
  rw [h] at hs
  cases o with
  | ok a => exact trans_of R hs (hf a (hq s a s' h) s')
  | error e => exact hs

/-- A triple with what the program returns added to its normal outcome. -/
lemma Triple.and_returns {P : σ → Prop} {Q : α → σ → Prop} {E : ε → σ → Prop} {V : α → Prop}
    {x : Prog σ ε α} (hx : Triple P x Q E) (hv : Returns V x) :
    Triple P x (fun a s => Q a s ∧ V a) E :=
  .of_exec fun s hs => ⟨fun a s' h => ⟨hx.ok hs h, hv s a s' h⟩, fun _ _ h => hx.error hs h⟩

/-! ## What a program raises -/

/-- Every exception satisfies `Q`, whatever the states are. -/
def Raises (Q : ε → Prop) (x : Prog σ ε α) : Prop := ∀ s e s', exec x s = (.error e, s') → Q e

namespace Raises

variable {Q Q' : ε → Prop} {x : Prog σ ε α} {f : α → Prog σ ε β}

lemma pure {a : α} : Raises Q (Pure.pure a : Prog σ ε α) := by
  rintro s e s' hrun
  cases hrun

lemma throw {e : ε} (h : Q e) : Raises Q (MonadExcept.throw e : Prog σ ε α) := by
  rintro s e s' hrun
  cases hrun
  exact h

lemma bind (hx : Raises Q x) (hf : ∀ a, Raises Q (f a)) : Raises Q (x >>= f) := by
  intro s e s' hrun
  rw [exec_bind] at hrun
  rcases h : exec x s with ⟨o, t⟩
  rw [h] at hrun
  cases o with
  | ok a => exact hf a t e s' hrun
  | error e' =>
      cases hrun
      exact hx s e _ h

lemma ite {c : Prop} [Decidable c] {y : Prog σ ε α} (ht : c → Raises Q x)
    (hf : ¬ c → Raises Q y) : Raises Q (if c then x else y) := by
  split_ifs with hc
  · exact ht hc
  · exact hf hc

lemma modify {g : σ → σ} : Raises Q (MonadState.modifyGet fun s => (PUnit.unit, g s) :
    Prog σ ε PUnit) := by
  rintro s e s' hrun
  cases hrun

end Raises

/-- A triple with what the program raises added to its exceptional outcome. -/
lemma Triple.and_raises {P : σ → Prop} {Q : α → σ → Prop} {E : ε → σ → Prop} {V : ε → Prop}
    {x : Prog σ ε α} (hx : Triple P x Q E) (hv : Raises V x) :
    Triple P x Q (fun e s => E e s ∧ V e) :=
  .of_exec fun s hs => ⟨fun _ _ h => hx.ok hs h, fun e s' h => ⟨hx.error hs h, hv s e s' h⟩⟩

end Exceptional
