import On9kvdb.Start.Crashes

/-!
# Open and closed instances

In the life of a database the instance alternates between two conditions: closed, when it is what
`close_storage_unsafe` leaves, and open, between a successful `init` and the next `deinit` or power
loss.  `Lived` are the states of such lives, on any media and with any failures; an
`OpenInvariant` is a property that a successful `init` establishes and the other calls keep, so
it holds whenever the instance is open.
-/

namespace On9kvdb

open Exceptional

variable {cfg : Config}

/-! ## Lives -/

variable (cfg) in
/-- The states in the life of a database, from a new object on any media on. -/
def Lived (w : World) : Prop :=
  ∃ m faults scrap entropy, ∃ steps : List LifeStep,
    w = steps.foldl (live cfg) (powerOn m faults scrap entropy)

/-- An instance that is not open is what closing it leaves. -/
def ClosedUnlessOpen (db : Db) : Prop := db.initialized = false → ∃ a b, db = Db.closed a b

lemma closedUnlessOpen_closed (a b : ℕ) : ClosedUnlessOpen (Db.closed a b) := fun _ => ⟨a, b, rfl⟩

/-- `init` on an open instance reports an error and changes nothing. -/
lemma init_open {w : World} (h : w.db.initialized = true) :
    exec (init cfg) w = (.error .invalidState, w) := by
  unfold init
  rw [exec_bind, exec_getDb]
  dsimp only
  rw [exec_bind, exec_failIf, if_pos h]

/-- `init` opens the instance, or leaves it closed. -/
lemma triple_init_outcome {w₀ : World} (h : w₀.db.initialized = false) :
    Triple (· = w₀) (init cfg) (fun _ w => w.db.initialized = true)
      (fun _ w => ∃ a b, w.db = Db.closed a b) := by
  unfold init closeStorageUnsafe
  refine .bind Triple.fetch fun db => .bind (Q := fun _ _ => True)
    (Triple.failIf (fun _ _ _ => trivial) fun w hw hopen => ?_) fun _ =>
    .bind (Q := fun _ _ => True)
      (Triple.onError (F := fun _ _ => True) (fun w _ => ?_) fun _ =>
        Triple.modifyDb fun w _ => ⟨_, _, rfl⟩) fun _ => Triple.modifyDb fun w _ => rfl
  · obtain ⟨rfl, rfl⟩ := hw
    rw [h] at hopen
    cases hopen
  · rcases exec (do initialiseStorage cfg; recoverWal cfg : DbM Unit) w with ⟨o, w'⟩
    cases o <;> trivial

/-- `deinit` closes the instance, or changes nothing. -/
lemma triple_deinit_outcome (w₀ : World) (force : Bool) :
    Triple (· = w₀) (deinit cfg force) (fun _ w => w = w₀ ∨ ∃ a b, w.db = Db.closed a b)
      (fun _ w => w = w₀) := by
  unfold deinit closeStorageUnsafe
  refine .bind Triple.fetch fun db => .ite (fun _ => .bind (Q := fun _ w => w = w₀)
    (Triple.failIf (fun _ hw _ => hw.1) fun _ hw _ => hw.1) fun _ =>
      Triple.modifyDb fun w _ => Or.inr ⟨_, _, rfl⟩) fun _ => .pure fun _ hw => Or.inl hw.1

/-! ## Invariants of open instances -/

variable (cfg) in
/-- A property of open instances: `init` establishes it, and the other calls keep it. -/
structure OpenInvariant (P : World → Prop) : Prop where
  opened : ∀ w₀, (∃ a b, w₀.db = Db.closed a b) →
    Triple (· = w₀) (init cfg) (fun _ => P) (fun _ _ => True)
  call : ∀ c w, c.isLifecycle = false → P w → P (exec (perform cfg c) w).2

/-- What a life keeps: an instance that is not open is closed, and an open one satisfies `P`. -/
structure Inhabited (P : World → Prop) (w : World) : Prop where
  closed : ClosedUnlessOpen w.db
  opened : w.db.initialized = true → P w

lemma inhabited_closed {P : World → Prop} {w : World} (h : ∃ a b, w.db = Db.closed a b) :
    Inhabited P w := by
  obtain ⟨a, b, h⟩ := h
  refine ⟨fun _ => ⟨a, b, h⟩, fun hopen => ?_⟩
  rw [h] at hopen
  cases hopen

lemma Inhabited.deinit {P : World → Prop} {w : World} (h : Inhabited P w) (force : Bool) :
    Inhabited P (exec (deinit cfg force) w).2 := by
  have houtcome := @triple_deinit_outcome cfg w force w rfl
  rcases hrun : exec (On9kvdb.deinit cfg force) w with ⟨o, w'⟩
  rw [hrun] at houtcome
  cases o with
  | ok _ =>
      rcases houtcome with rfl | hclosed
      · exact h
      · exact inhabited_closed hclosed
  | error e =>
      dsimp only at houtcome
      rw [houtcome]
      exact h

/-- A call without a result leaves what its method leaves. -/
lemma exec_done (x : DbM Unit) (reply : Reply) (w : World) :
    (exec (do x; return reply) w).2 = (exec x w).2 := by
  rw [exec_bind]
  rcases exec x w with ⟨o, w'⟩
  cases o <;> rfl

namespace OpenInvariant

variable {P : World → Prop} (hP : OpenInvariant cfg P)
include hP

lemma init {w : World} (h : Inhabited P w) : Inhabited P (exec (init cfg) w).2 := by
  cases hopen : w.db.initialized with
  | true =>
      rw [init_open hopen]
      exact h
  | false =>
      have hclosed := h.closed hopen
      have houtcome := @triple_init_outcome cfg w hopen w rfl
      have hopened := hP.opened w hclosed w rfl
      rcases hrun : exec (On9kvdb.init cfg) w with ⟨o, w'⟩
      rw [hrun] at houtcome hopened
      cases o with
      | ok _ =>
          refine ⟨fun hnot => ?_, fun _ => hopened⟩
          rw [houtcome] at hnot
          cases hnot
      | error e => exact inhabited_closed houtcome

/-- **Every step keeps it**, whatever fails. -/
lemma live {w : World} (h : Inhabited P w) (step : LifeStep) : Inhabited P (live cfg w step) := by
  cases step with
  | powerLoss choice => exact inhabited_closed ⟨1, 1, rfl⟩
  | call c =>
      cases hlifecycle : c.isLifecycle with
      | true =>
          cases c with
          | init =>
              rw [show On9kvdb.live cfg w (.call .init) = _ from exec_done _ _ _]
              exact hP.init h
          | deinit force =>
              rw [show On9kvdb.live cfg w (.call (.deinit force)) = _ from exec_done _ _ _]
              exact h.deinit force
          | _ => cases hlifecycle
      | false =>
          cases hopen : w.db.initialized with
          | true =>
              have hinitialized := (@serving_perform cfg c hlifecycle w).initialized
              refine ⟨fun hnot => ?_, fun _ => hP.call c w hlifecycle (h.opened hopen)⟩
              rw [show (On9kvdb.live cfg w (.call c)).db.initialized = w.db.initialized from
                hinitialized, hopen] at hnot
              cases hnot
          | false =>
              rw [show On9kvdb.live cfg w (.call c) = w from locked_perform hlifecycle w hopen]
              exact h

/-- **It holds whenever an instance is open**, in every life. -/
theorem of_lived {w : World} (hw : Lived cfg w) (hopen : w.db.initialized = true) : P w := by
  obtain ⟨m, faults, scrap, entropy, steps, rfl⟩ := hw
  have hlife : ∀ (steps : List LifeStep) (v : World), Inhabited P v →
      Inhabited P (steps.foldl (On9kvdb.live cfg) v) := fun steps => by
    induction steps with
    | nil => exact fun _ h => h
    | cons step rest ih => exact fun v h => ih _ (hP.live h step)
  exact (hlife steps _ (inhabited_closed ⟨1, 1, rfl⟩)).opened hopen

end OpenInvariant

end On9kvdb
