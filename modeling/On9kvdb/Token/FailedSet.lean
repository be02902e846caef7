import On9kvdb.Token.Calls
import On9kvdb.Start.Lives

/-!
# A failed `set` beside an open writer

`set` streams an external value through the one writer slot, and gives the slot back when any of
its parts has failed.  It does not ask whose writer it gives back: with a writer open the first part
is refused, and the clean-up ends the writer of the caller (`failed_set_spares_writer`).
-/

namespace On9kvdb

open Exceptional

variable {cfg : Config} {w w' : World} {raw : ℕ} {key value : Bytes} {e : EspErr}

/-- A call of `set` that is answered without the writer slot. -/
def SetBesideWriter (cfg : Config) (db : Db) (key value : Bytes) : Prop :=
  db.blocked = true ∨ validateBytes key = false ∨ maxValueLen < value.length ∨
    value.length ≤ cfg.inlineValueLen

/-- The refusal of a second writer changes nothing. -/
lemma exec_beginValueWriteUnsafe_busy (hactive : w.db.valueWriter.active = true) (raw : ℕ)
    (key : Bytes) (valueSize : ℕ) :
    ∃ e, exec (beginValueWriteUnsafe cfg raw key valueSize) w = (.error e, w) := by
  unfold beginValueWriteUnsafe
  rw [exec_bind, exec_failIf]
  split_ifs with hinvalid
  · exact ⟨_, rfl⟩
  dsimp only
  rw [exec_bind, exec_getDb]
  dsimp only
  rw [exec_bind, exec_liftResult]
  cases getTransactionUnsafe cfg w.db raw with
  | error e => exact ⟨e, rfl⟩
  | ok handle =>
      dsimp only
      rw [exec_bind, exec_failIf, if_pos (.inl hactive)]
      exact ⟨_, rfl⟩

/-- With a writer open, a `set` of an external value ends that writer. -/
lemma exec_setExternal_busy (hactive : w.db.valueWriter.active = true) (raw : ℕ)
    (key value : Bytes) :
    ∃ e, exec (setExternal cfg raw key value) w = (.error e, { w with db := { w.db with
      valueWriter := { generation := w.db.valueWriter.generation } } }) := by
  obtain ⟨e, hbegin⟩ := @exec_beginValueWriteUnsafe_busy cfg w hactive raw key value.length
  refine ⟨e, ?_⟩
  unfold setExternal onError
  rw [exec_tryCatch, exec_bind, hbegin]
  dsimp only
  rw [exec_bind, exec_bind, exec_getDb]
  dsimp only
  rw [if_pos hactive]
  rfl

/-- A call that does without the writer slot changes nothing when it fails. -/
lemma exec_set_refused (h : SetBesideWriter cfg w.db key value)
    (hfail : exec (set cfg raw key value) w = (.error e, w')) : w' = w := by
  unfold set at hfail
  rw [exec_bind, exec_failIf] at hfail
  by_cases hinvalid : validateBytes key = false ∨ maxValueLen < value.length
  · rw [if_pos hinvalid] at hfail
    exact (Prod.mk.inj hfail).2.symm
  rw [if_neg hinvalid] at hfail
  dsimp only at hfail
  push Not at hinvalid
  obtain ⟨hkey, hlength⟩ := hinvalid
  cases hblocked : w.db.blocked with
  | true =>
      rw [exec_bind, exec_acquireOperationLock_blocked hblocked] at hfail
      exact (Prod.mk.inj hfail).2.symm
  | false =>
      have hinline : value.length ≤ cfg.inlineValueLen := by
        rcases h with htrue | hinvalid | hlong | hinline
        · rw [hblocked] at htrue
          cases htrue
        · exact absurd hinvalid hkey
        · exact absurd hlong (not_lt.mpr hlength)
        · exact hinline
      rw [exec_bind, exec_acquireOperationLock_open hblocked] at hfail
      dsimp only at hfail
      rw [if_pos hinline, exec_bind, exec_getDb] at hfail
      dsimp only at hfail
      rw [exec_bind, exec_liftResult] at hfail
      cases hstage : stageValueUnsafe cfg w.db raw key (.inline value) with
      | error e' =>
          rw [hstage] at hfail
          exact (Prod.mk.inj hfail).2.symm
      | ok db =>
          rw [hstage] at hfail
          cases (Prod.mk.inj hfail).1

/-- **When a failed `set` leaves the open writer alone**: exactly when the call is answered without
the writer slot.  Then it has changed nothing at all, so what the writer does next is what it would
have done; otherwise no token reaches the writer any more. -/
theorem failed_set_spares_writer (hactive : w.db.valueWriter.active = true)
    (hfail : exec (set cfg raw key value) w = (.error e, w')) :
    (w'.db.valueWriter = w.db.valueWriter ↔ SetBesideWriter cfg w.db key value) ∧
    (SetBesideWriter cfg w.db key value → w' = w) ∧
    (¬ SetBesideWriter cfg w.db key value → ∀ token, accepts cfg w'.db .writer token = false) := by
  have hspared : SetBesideWriter cfg w.db key value → w' = w := fun h => exec_set_refused h hfail
  have hended : ¬ SetBesideWriter cfg w.db key value → w'.db.valueWriter.active = false := by
    intro h
    unfold SetBesideWriter at h
    push Not at h
    obtain ⟨hopen, hkey, hlength, hexternal⟩ := h
    obtain ⟨e', hrun⟩ := @exec_setExternal_busy cfg w hactive raw key value
    unfold set at hfail
    rw [exec_bind, exec_failIf, if_neg (by push Not; exact ⟨hkey, hlength⟩)] at hfail
    dsimp only at hfail
    rw [exec_bind, exec_acquireOperationLock_open (Bool.eq_false_of_not_eq_true hopen)] at hfail
    dsimp only at hfail
    rw [if_neg (not_le.mpr hexternal), hrun] at hfail
    rw [← (Prod.mk.inj hfail).2]
  refine ⟨⟨fun hsame => ?_, fun h => by rw [hspared h]⟩, hspared, fun h token => ?_⟩
  · by_contra h
    have hinactive := hended h
    rw [hsame, hactive] at hinactive
    cases hinactive
  · have hinactive := hended h
    show (getValueWriterUnsafe w'.db token).isOk = false
    unfold getValueWriterUnsafe
    cases decodeHandleValue token with
    | none => rfl
    | some p =>
        dsimp only
        rw [if_pos (.inr (.inl hinactive))]
        rfl

/-- A new database with a transaction and a writer of 2000 bytes, of which four are written. -/
def streamingWorld : World :=
  [LifeStep.call .init, .call (.openNamespace [97] .readWrite), .call (.begin 513),
    .call (.beginValueWrite 513 [98] 2000), .call (.writeValue 1025 [1, 2, 3, 4])].foldl
    (live hostConfig) (powerOn (provisionedMedia hostConfig 7) (fun _ => .none) (fun _ => [])
      fun _ => ⟨1, Nat.one_ne_zero⟩)

/-- A `set` with a token of no transaction is refused and leaves the writer alone. -/
theorem failed_set_spares_writer_inline :
    (exec (set hostConfig 7 [99] [5]) streamingWorld).2.db.valueWriter =
      streamingWorld.db.valueWriter :=
  ((@failed_set_spares_writer hostConfig streamingWorld _ 7 [99] [5] .invalidArg (by decide +kernel)
    (exec_eq (show (exec (set hostConfig 7 [99] [5]) streamingWorld).1 = .error .invalidArg by
      decide +kernel))).1).mpr (.inr (.inr (.inr (by decide +kernel))))

/-- A `set` of 1500 bytes is refused because the writer is open, and the writer is gone: its next
bytes are refused, and so is its end. -/
theorem failed_set_ends_writer :
    streamingWorld.db.valueWriter.active = true ∧
    accepts hostConfig streamingWorld.db .writer 1025 = true ∧
    (exec (set hostConfig 513 [99] (List.replicate 1500 0)) streamingWorld).1 =
      .error .invalidState ∧
    accepts hostConfig (exec (set hostConfig 513 [99] (List.replicate 1500 0)) streamingWorld).2.db
      .writer 1025 = false ∧
    (exec (perform hostConfig (.writeValue 1025 [5]))
      (exec (set hostConfig 513 [99] (List.replicate 1500 0)) streamingWorld).2).1 =
      .error .invalidArg := by
  decide +kernel

end On9kvdb
