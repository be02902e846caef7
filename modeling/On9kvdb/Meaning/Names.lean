import On9kvdb.Meaning.Model
import On9kvdb.Token.Runs

/-!
# The names behind the tokens

A token that is accepted stands for the namespace it was opened for.  `Named` relates the names to
the slots of an instance, and every call keeps it: `Names.step` follows the calls.
-/

namespace On9kvdb

variable {cfg : Config} {n : Names} {t t' : Tokens} {e : Event}

variable (cfg) in
/-- The tokens that resolve are named. -/
structure Named (n : Names) (t : Tokens) : Prop where
  handle : ∀ raw, ∀ p ∈ t.live cfg .handle, decodeHandleValue raw = some p →
    n.handle raw = some (t.handles p.1).namespaceName
  transaction : ∀ raw, t.transaction.active = true →
    decodeHandleValue raw = some (0, t.transaction.generation) →
    n.transaction raw = some (t.handles t.transaction.handleSlotIndex).namespaceName

/-- An accepted handle is named. -/
lemma Named.of_handle {db : Db} (h : Named cfg n db.tokens) {raw index : ℕ} {handle : HandleSlot}
    (hfound : getHandleSlotUnsafe cfg db raw = .ok (index, handle)) :
    n.handle raw = some handle.namespaceName := by
  obtain ⟨hdecode, hindex, hused, rfl⟩ := getHandleSlotUnsafe_eq_ok hfound
  exact h.handle raw _ (mem_live_handle.mpr ⟨hindex, hused, rfl⟩) hdecode

/-- The transaction of an accepted token is named. -/
lemma Named.of_transaction {db : Db} (h : Named cfg n db.tokens) {raw : ℕ} {handle : HandleSlot}
    (hfound : getTransactionUnsafe cfg db raw = .ok handle) :
    n.transaction raw = some handle.namespaceName := by
  obtain ⟨hactive, hdecode⟩ := getTransactionUnsafe_eq_ok hfound
  have hname := h.transaction raw hactive hdecode
  unfold getTransactionUnsafe at hfound
  rw [hdecode] at hfound
  dsimp only at hfound
  split_ifs at hfound
  cases hfound
  exact hname

/-- The names do not react to a quiet call. -/
lemma Names.step_of_quiet (h : e.quiet cfg = true) (n : Names) : n.step e = n := by
  obtain ⟨call, blocked, outcome⟩ := e
  rcases outcome with _ | reply
  · cases call <;> rfl
  · cases call <;> cases reply <;> first | rfl | cases h

/-- The handles keep their slots and their names. -/
lemma Named.mark (h : ∀ raw, ∀ p ∈ t.live cfg .handle, decodeHandleValue raw = some p →
      n.handle raw = some (t.handles p.1).namespaceName) (index : ℕ) (active : Bool) (raw : ℕ)
    (p : ℕ × ℕ) (hp : p ∈ (t.mark index active).live cfg .handle)
    (hdecode : decodeHandleValue raw = some p) :
    n.handle raw = some ((t.mark index active).handles p.1).namespaceName := by
  have hlive : p ∈ t.live cfg .handle := by
    unfold Tokens.live at hp ⊢
    rwa [Tokens.slots_mark] at hp
  rw [h raw p hlive hdecode]
  show _ = some (Function.update t.handles _ _ _).namespaceName
  rcases eq_or_ne p.1 index with heq | hne
  · rw [heq, Function.update_self]
  · rw [Function.update_of_ne hne]

/-- A new handle has its own name. -/
lemma Named.openHandle (h : Named cfg n t) (hlinked : t.Linked cfg) (hcounted : Counted t)
    {index : ℕ} (hindex : index < cfg.limits.maxOpenHandles)
    (hfree : (t.handles index).used = false) (hcounter : t.handleCounter ≠ 0) (mode : OpenMode)
    (name : Bytes) :
    Named cfg { n with
      handle := Function.update n.handle (makeHandleValue index t.handleCounter) (some name) }
      (t.openHandle index mode name) := by
  have hranges := cfg.ranges
  have hdecode : decodeHandleValue (makeHandleValue index t.handleCounter) =
      some (index, t.handleCounter) :=
    decodeHandleValue_makeHandleValue (by omega) hcounter hcounted.handle
  refine ⟨fun raw p hp hraw => ?_, fun raw hactive hraw => ?_⟩
  · rw [Tokens.live_openHandle hindex hfree] at hp
    rcases Set.mem_insert_iff.mp hp with rfl | hp
    · rw [decodeHandleValue_inj hraw hdecode]
      show Function.update n.handle _ _ _ = some (Function.update t.handles _ _ _).namespaceName
      rw [Function.update_self, Function.update_self]
    · have hne : p.1 ≠ index := by
        intro heq
        obtain ⟨hused, -⟩ := hp
        have hused' : (decide (p.1 < cfg.limits.maxOpenHandles) && (t.handles p.1).used) = true :=
          hused
        rw [heq, hfree, Bool.and_false] at hused'
        cases hused'
      have hother : raw ≠ makeHandleValue index t.handleCounter := by
        rintro rfl
        rw [hdecode] at hraw
        cases hraw
        exact hne rfl
      show Function.update n.handle _ _ _ = some (Function.update t.handles _ _ _).namespaceName
      rw [Function.update_of_ne hother, Function.update_of_ne hne]
      exact h.handle raw p hp hraw
  · have hne : t.transaction.handleSlotIndex ≠ index := by
      rintro heq
      have hused := (hlinked.owner hactive).2.1
      rw [heq, hfree] at hused
      cases hused
    show n.transaction raw =
      some (Function.update t.handles index _ t.transaction.handleSlotIndex).namespaceName
    rw [Function.update_of_ne hne]
    exact h.transaction raw hactive hraw

/-- The other handles keep their names. -/
lemma Named.closeHandle (h : Named cfg n t) (hlinked : t.Linked cfg) {index raw : ℕ}
    (hraw : decodeHandleValue raw = some (index, (t.handles index).generation))
    (hunused : (t.handles index).transactionActive = false) :
    Named cfg { n with handle := Function.update n.handle raw none } (t.closeHandle index) := by
  refine ⟨fun other p hp hother => ?_, fun other hactive hother => ?_⟩
  · rw [Tokens.live_closeHandle] at hp
    obtain ⟨hp, hdiffers⟩ := hp
    have hne : other ≠ raw := by
      rintro rfl
      rw [hraw] at hother
      exact hdiffers (Option.some.inj hother).symm
    have hslot : p.1 ≠ index := by
      intro heq
      obtain ⟨-, hgeneration⟩ := hp
      have hgeneration' : (t.handles p.1).generation = p.2 := hgeneration
      rw [heq] at hgeneration'
      exact hdiffers (Prod.ext heq hgeneration'.symm)
    show Function.update n.handle _ _ _ = some (Function.update t.handles _ _ _).namespaceName
    rw [Function.update_of_ne hne, Function.update_of_ne hslot]
    exact h.handle other p hp hother
  · have hne : t.transaction.handleSlotIndex ≠ index := by
      intro heq
      have hmarked := (hlinked.marked index).mpr ⟨hactive, heq⟩
      rw [hunused] at hmarked
      cases hmarked
    show n.transaction other =
      some (Function.update t.handles index _ t.transaction.handleSlotIndex).namespaceName
    rw [Function.update_of_ne hne]
    exact h.transaction other hactive hother

/-- A new transaction has the name of its handle. -/
lemma Named.begin (h : Named cfg n t) (hcounted : Counted t) {index raw : ℕ}
    (hcounter : t.transactionCounter ≠ 0)
    (hname : n.handle raw = some (t.handles index).namespaceName) :
    Named cfg { n with
      transaction := Function.update (fun _ => none) (makeHandleValue 0 t.transactionCounter)
        (n.handle raw) } (t.begin index) := by
  have hdecode : decodeHandleValue (makeHandleValue 0 t.transactionCounter) =
      some (0, t.transactionCounter) :=
    decodeHandleValue_makeHandleValue (by decide) hcounter hcounted.transaction
  refine ⟨fun other p hp hother => Named.mark h.handle index true other p hp hother,
    fun other _ hother => ?_⟩
  rw [decodeHandleValue_inj hother hdecode]
  show Function.update (fun _ : ℕ => (none : Option Bytes)) _ (n.handle raw) _ =
    some (Function.update t.handles index _ index).namespaceName
  rw [Function.update_self, Function.update_self]
  exact hname

/-- **Every call keeps the names.**  A transaction is begun on the handle of the call. -/
theorem Named.step (h : Named cfg n t) (hlinked : t.Linked cfg) (hcounted : Counted t)
    (heffect : TokenEffect cfg t e t')
    (hbegun : ∀ raw index reply, e.call = .begin raw → e.outcome = .ok reply → t' = t.begin index →
      n.handle raw = some (t.handles index).namespaceName) :
    Named cfg (n.step e) t' := by
  cases heffect with
  | same hquiet =>
      rw [Names.step_of_quiet hquiet]
      exact h
  | openedHandle hindex hfree hcounter =>
      exact h.openHandle hlinked hcounted hindex hfree hcounter _ _
  | closedHandle hraw hunused => exact h.closeHandle hlinked hraw hunused
  | begun hindex hused hidle hcounter => exact h.begin hcounted hcounter (hbegun _ _ _ rfl rfl rfl)
  | ended hcall hactive hraw =>
      rcases hcall with rfl | rfl
      all_goals exact ⟨fun other p hp hother => Named.mark h.handle _ false other p hp hother,
        fun _ hactive => by cases hactive⟩
  | openedReader => exact ⟨h.handle, h.transaction⟩
  | closedReader => exact ⟨h.handle, h.transaction⟩
  | openedWriter => exact ⟨h.handle, h.transaction⟩
  | closedWriter hcall =>
      rcases hcall with rfl | rfl
      · exact ⟨h.handle, h.transaction⟩
      · exact ⟨h.handle, h.transaction⟩
  | staleWriter => exact ⟨h.handle, h.transaction⟩
  | usedWriter hquiet hnext =>
      rcases hnext with rfl | ⟨-, rfl⟩
      · exact ⟨h.handle, h.transaction⟩
      · exact ⟨h.handle, h.transaction⟩
  | stopped =>
      refine ⟨fun _ p hp => ?_, fun _ hactive => by cases hactive⟩
      rw [Tokens.live_closed] at hp
      exact hp.elim

end On9kvdb
