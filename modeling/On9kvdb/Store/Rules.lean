import On9kvdb.Store.State

/-!
# Rules for the primitives of a method

One equation and one triple for each primitive `DbM` methods are built from: reading and writing
the instance, early returns, and the three device calls with every outcome the device may choose.
-/

namespace On9kvdb

open Exceptional

variable {α : Type}

/-! ## Execution -/

@[simp] lemma exec_getDb (w : World) : exec getDb w = (.ok w.db, w) := rfl

@[simp] lemma exec_modifyDb (f : Db → Db) (w : World) :
    exec (modifyDb f) w = (.ok ⟨⟩, { w with db := f w.db }) := rfl

lemma exec_failIf (condition : Prop) [Decidable condition] (error : EspErr) (w : World) :
    exec (failIf condition error) w = if condition then (.error error, w) else (.ok (), w) := by
  unfold failIf
  split_ifs <;> rfl

@[simp] lemma exec_liftResult (r : Except EspErr α) (w : World) :
    exec (liftResult r) w = (r, w) := by
  cases r <;> rfl

lemma exec_readStorage (decode : Db → Media → Except EspErr α) (w : World) :
    exec (readStorage decode) w =
      (if w.dev.fault = .none then decode w.db w.dev.current else .error .ioError,
        { w with dev := w.dev.tick }) := by
  unfold readStorage Device.read
  rw [exec_bind, exec_get]
  dsimp only
  rw [exec_bind, exec_set]
  dsimp only
  cases w.dev.fault with
  | none => exact exec_liftResult _ _
  | _ => rfl

lemma exec_writeStorage (write : Write) (w : World) :
    exec (writeStorage write) w =
      (if (w.dev.write write).1 then .ok () else .error .ioError,
        { w with dev := (w.dev.write write).2 }) := by
  unfold writeStorage
  rw [exec_bind, exec_get]
  dsimp only
  rw [exec_bind, exec_set]
  dsimp only
  cases (w.dev.write write).1 <;> rfl

lemma exec_syncStorage (w : World) :
    exec syncStorage w =
      (if w.dev.sync.1 then .ok () else .error .ioError, { w with dev := w.dev.sync.2 }) := by
  unfold syncStorage
  rw [exec_bind, exec_get]
  dsimp only
  rw [exec_bind, exec_set]
  dsimp only
  cases w.dev.sync.1 <;> rfl

/-! ## Triples -/

namespace Triple

variable {P : World → Prop} {E F : EspErr → World → Prop}

lemma getDb {Q : Db → World → Prop} (h : ∀ w, P w → Q w.db w) :
    Exceptional.Triple P On9kvdb.getDb Q E := fun w hw => h w hw

lemma fetch : Exceptional.Triple P On9kvdb.getDb (fun db w => P w ∧ w.db = db) E :=
  fun _ hw => ⟨hw, rfl⟩

lemma modifyDb {f : Db → Db} {Q : Unit → World → Prop}
    (h : ∀ w, P w → Q () { w with db := f w.db }) :
    Exceptional.Triple P (On9kvdb.modifyDb f) Q E := fun w hw => h w hw

lemma failIf {condition : Prop} [Decidable condition] {error : EspErr} {Q : Unit → World → Prop}
    (hok : ∀ w, P w → ¬ condition → Q () w) (herr : ∀ w, P w → condition → E error w) :
    Exceptional.Triple P (On9kvdb.failIf condition error) Q E := by
  intro w hw
  rw [exec_failIf]
  split_ifs with h
  · exact herr w hw h
  · exact hok w hw h

/-- Behind an early return its condition is known to be false. -/
lemma check {condition : Prop} [Decidable condition] {error : EspErr}
    (herr : ∀ w, P w → E error w) :
    Exceptional.Triple P (On9kvdb.failIf condition error) (fun _ w => P w ∧ ¬ condition) E :=
  failIf (fun _ hw hc => ⟨hw, hc⟩) fun w hw _ => herr w hw

lemma liftResult {r : Except EspErr α} {Q : α → World → Prop}
    (hok : ∀ w a, P w → r = .ok a → Q a w) (herr : ∀ w e, P w → r = .error e → E e w) :
    Exceptional.Triple P (On9kvdb.liftResult r) Q E := by
  intro w hw
  rw [exec_liftResult]
  cases r with
  | ok a => exact hok w a hw rfl
  | error e => exact herr w e hw rfl

/-- A read moves the clock and nothing else. -/
lemma readStorage {decode : Db → Media → Except EspErr α} {Q : α → World → Prop}
    (hok : ∀ w a, P w → decode w.db w.dev.current = .ok a → Q a { w with dev := w.dev.tick })
    (herr : ∀ w e, P w → E e { w with dev := w.dev.tick }) :
    Exceptional.Triple P (On9kvdb.readStorage decode) Q E := by
  intro w hw
  rw [exec_readStorage]
  split_ifs
  · cases h : decode w.db w.dev.current with
    | ok a => exact hok w a hw h
    | error e => exact herr w e hw
  · exact herr w _ hw

/-- A read whose error is told apart: the decoder has rejected something, or the device failed. -/
lemma inspect {decode : Db → Media → Except EspErr α} {Q : α → World → Prop}
    (hok : ∀ w a, P w → w.dev.fault = .none → decode w.db w.dev.current = .ok a →
      Q a { w with dev := w.dev.tick })
    (hreject : ∀ w e, P w → decode w.db w.dev.current = .error e → E e { w with dev := w.dev.tick })
    (hfault : ∀ w, P w → w.dev.fault ≠ .none → E .ioError { w with dev := w.dev.tick }) :
    Exceptional.Triple P (On9kvdb.readStorage decode) Q E := by
  intro w hw
  rw [exec_readStorage]
  split_ifs with hnone
  · cases h : decode w.db w.dev.current with
    | ok a => exact hok w a hw hnone h
    | error e => exact hreject w e hw h
  · exact hfault w hw hnone

/-- A write leaves the old media, torn media or the new media; only the last counts as done. -/
lemma writeStorage {write : Write} {Q : Unit → World → Prop}
    (hok : ∀ w, P w → w.dev.fault = .none → Q () { w with dev := (w.dev.write write).2 })
    (herr : ∀ w, P w → w.dev.fault ≠ .none →
      E .ioError { w with dev := (w.dev.write write).2 }) :
    Exceptional.Triple P (On9kvdb.writeStorage write) Q E := by
  intro w hw
  rw [exec_writeStorage]
  cases hfault : w.dev.fault with
  | none =>
      have hdone : (w.dev.write write).1 = true := by simp only [Device.write, hfault]
      rw [hdone]
      exact hok w hw hfault
  | _ =>
      have hdone : (w.dev.write write).1 = false := by simp only [Device.write, hfault]
      rw [hdone]
      exact herr w hw (by rw [hfault]; exact fun h => by cases h)

lemma syncStorage {Q : Unit → World → Prop}
    (hok : ∀ w, P w → w.dev.fault = .none → Q () { w with dev := w.dev.flushed })
    (herr : ∀ w, P w → w.dev.fault ≠ .none → E .ioError { w with dev := w.dev.tick }) :
    Exceptional.Triple P On9kvdb.syncStorage Q E := by
  intro w hw
  rw [exec_syncStorage]
  cases hfault : w.dev.fault with
  | none =>
      simp only [Device.sync, hfault, if_true]
      exact hok w hw hfault
  | _ =>
      simp only [Device.sync, hfault, Bool.false_eq_true, if_false]
      exact herr w hw (by rw [hfault]; exact fun h => by cases h)

lemma onError {x : DbM α} {undo : DbM Unit} {Q : α → World → Prop}
    (hx : Exceptional.Triple P x Q F)
    (hundo : ∀ e, Exceptional.Triple (F e) undo (fun _ => E e) E) :
    Exceptional.Triple P (On9kvdb.onError x undo) Q E :=
  Exceptional.Triple.tryCatch hx fun e =>
    Exceptional.Triple.bind (hundo e) fun _ => Exceptional.Triple.throw fun _ hw => hw

end Triple

/-! ## What the primitives raise -/

namespace Raises

variable {Q : EspErr → Prop}

lemma getDb : Exceptional.Raises Q On9kvdb.getDb := fun _ _ _ hrun => by cases hrun

lemma modifyDb {f : Db → Db} : Exceptional.Raises Q (On9kvdb.modifyDb f) :=
  fun _ _ _ hrun => by cases hrun

lemma failIf {condition : Prop} [Decidable condition] {error : EspErr} (h : Q error) :
    Exceptional.Raises Q (On9kvdb.failIf condition error) := fun w e w' hrun => by
  rw [exec_failIf] at hrun
  split_ifs at hrun
  · cases hrun
    exact h
  · cases hrun

lemma liftResult {r : Except EspErr α} (h : ∀ e, r = .error e → Q e) :
    Exceptional.Raises Q (On9kvdb.liftResult r) := fun w e w' hrun => by
  rw [exec_liftResult] at hrun
  exact h e (Prod.mk.inj hrun).1

lemma readStorage {decode : Db → Media → Except EspErr α} (hio : Q .ioError)
    (h : ∀ db m e, decode db m = .error e → Q e) :
    Exceptional.Raises Q (On9kvdb.readStorage decode) := fun w e w' hrun => by
  rw [exec_readStorage] at hrun
  have hresult := (Prod.mk.inj hrun).1
  split_ifs at hresult
  · exact h _ _ e hresult
  · cases hresult
    exact hio

lemma writeStorage {write : Write} (hio : Q .ioError) :
    Exceptional.Raises Q (On9kvdb.writeStorage write) := fun w e w' hrun => by
  rw [exec_writeStorage] at hrun
  have hresult := (Prod.mk.inj hrun).1
  split_ifs at hresult
  · cases hresult
    exact hio

lemma syncStorage (hio : Q .ioError) : Exceptional.Raises Q On9kvdb.syncStorage :=
  fun w e w' hrun => by
    rw [exec_syncStorage] at hrun
    have hresult := (Prod.mk.inj hrun).1
    split_ifs at hresult
    · cases hresult
      exact hio

end Raises

end On9kvdb
