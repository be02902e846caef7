import On9kvdb.Token.Registry

/-!
# One call on the tokens of an instance

`TokenEffect` lists what a call can do to the tokens of an instance, with its outcome.  Along each
of these the registry stays the set of accepted tokens (`Tracks.effect`), the mark of the handles
stays right (`Linked.effect`), and the counters only move past the generations they hand out.
-/

namespace On9kvdb

open Generational

variable {cfg : Config}

/-! ## Events without an effect -/

variable (cfg) in
/-- No token is returned and no resource ends. -/
def Event.quiet (e : Event) : Bool :=
  match e.call, e.outcome with
  | .set _ key value, _ => e.blocked || !validateBytes key || decide (maxValueLen < value.length) ||
      decide (value.length ≤ cfg.inlineValueLen)
  | .finishValueWrite _, outcome => outcome == .error .invalidState
  | .closeHandle _, .ok _ => false
  | .commit _, .ok _ => false
  | .abort _, .ok _ => false
  | .closeReader _, .ok _ => false
  | .abortValueWrite _, .ok _ => false
  | .deinit _, .ok _ => false
  | _, .ok (.token _) => false
  | _, _ => true

lemma Event.quiet_set {raw : ℕ} {key value : Bytes} {blocked : Bool}
    {outcome : Except EspErr Reply} :
    Event.quiet cfg ⟨.set raw key value, blocked, outcome⟩ = true ↔
      blocked = true ∨ validateBytes key = false ∨ maxValueLen < value.length ∨
        value.length ≤ cfg.inlineValueLen := by
  simp only [Event.quiet, Bool.or_eq_true, Bool.not_eq_true', decide_eq_true_eq, or_assoc]

/-- A quiet call returns no token. -/
lemma Event.issued_of_quiet {e : Event} (h : e.quiet cfg = true) (kind : TokenKind) :
    e.issued kind = none := by
  obtain ⟨call, blocked, outcome⟩ := e
  unfold Event.issued
  rcases outcome with _ | reply
  · rfl
  · cases reply with
    | token raw => cases call <;> first | rfl | cases h
    | _ => rfl

/-- **The registry does not react to a quiet call.** -/
lemma Registry.step_of_quiet {e : Event} (h : e.quiet cfg = true) (r : Registry) :
    r.step cfg e = r := by
  obtain ⟨call, blocked, outcome⟩ := e
  cases call with
  | set raw key value => exact if_pos (Event.quiet_set.mp h)
  | finishValueWrite raw =>
      exact if_pos (beq_iff_eq.mp h)
  | _ =>
      rcases outcome with _ | reply
      · rfl
      · cases reply <;> first | rfl | cases h

/-! ## Effects -/

namespace Tokens

/-- The tokens of an instance that is not open. -/
def closed (handleCounter transactionCounter : ℕ) : Tokens :=
  (Db.closed handleCounter transactionCounter).tokens

end Tokens

/-- **What a call does to the tokens.** -/
inductive TokenEffect (cfg : Config) (t : Tokens) : Event → Tokens → Prop
  | same {e} : e.quiet cfg = true → TokenEffect cfg t e t
  | openedHandle {name mode blocked} {index : ℕ} : index < cfg.limits.maxOpenHandles →
      (t.handles index).used = false → t.handleCounter ≠ 0 →
      TokenEffect cfg t ⟨.openNamespace name mode, blocked,
        .ok (.token (makeHandleValue index t.handleCounter))⟩ (t.openHandle index mode name)
  | closedHandle {raw blocked reply} {index : ℕ} :
      decodeHandleValue raw = some (index, (t.handles index).generation) →
      (t.handles index).transactionActive = false →
      TokenEffect cfg t ⟨.closeHandle raw, blocked, .ok reply⟩ (t.closeHandle index)
  | begun {raw blocked} {index : ℕ} : index < cfg.limits.maxOpenHandles →
      (t.handles index).used = true → t.transaction.active = false → t.transactionCounter ≠ 0 →
      TokenEffect cfg t ⟨.begin raw, blocked,
        .ok (.token (makeHandleValue 0 t.transactionCounter))⟩ (t.begin index)
  | ended {c raw blocked reply} : c = .commit raw ∨ c = .abort raw → t.transaction.active = true →
      decodeHandleValue raw = some (0, t.transaction.generation) →
      TokenEffect cfg t ⟨c, blocked, .ok reply⟩ t.clearTransaction
  | openedReader {raw key blocked} {index : ℕ} : index < cfg.maxValueReaders →
      t.readers.used index = false → t.handleCounter ≠ 0 →
      TokenEffect cfg t ⟨.openValue raw key, blocked,
        .ok (.token (makeHandleValue index t.handleCounter))⟩ (t.openReader index)
  | closedReader {raw blocked reply} {index : ℕ} :
      decodeHandleValue raw = some (index, t.readers.tag index) →
      TokenEffect cfg t ⟨.closeReader raw, blocked, .ok reply⟩ (t.closeReader index)
  | openedWriter {raw key valueSize blocked} : t.writer.used () = false → t.handleCounter ≠ 0 →
      TokenEffect cfg t ⟨.beginValueWrite raw key valueSize, blocked,
        .ok (.token (makeHandleValue 0 t.handleCounter))⟩ t.openWriter
  | closedWriter {c raw blocked outcome} : c = .finishValueWrite raw ∨ c = .abortValueWrite raw →
      Event.quiet cfg ⟨c, blocked, outcome⟩ = false →
      decodeHandleValue raw = some (0, t.writer.tag ()) →
      TokenEffect cfg t ⟨c, blocked, outcome⟩ t.closeWriter
  | staleWriter {raw blocked e} :
      t.writer.used () = false ∨ decodeHandleValue raw ≠ some (0, t.writer.tag ()) →
      TokenEffect cfg t ⟨.finishValueWrite raw, blocked, .error e⟩ t
  | usedWriter {raw key value blocked outcome} {t'} :
      Event.quiet cfg ⟨.set raw key value, blocked, outcome⟩ = false →
      (t' = t ∨ t.handleCounter ≠ 0 ∧ t' = t.openWriter) →
      TokenEffect cfg t ⟨.set raw key value, blocked, outcome⟩ t'.closeWriter
  | stopped {force blocked reply} :
      TokenEffect cfg t ⟨.deinit force, blocked, .ok reply⟩
        (.closed t.handleCounter t.transactionCounter)

/-! ## The slots behind the effects -/

namespace Tokens

variable {t : Tokens} {index : ℕ} {kind : TokenKind}

variable (cfg) in
/-- The slots and generations that the tokens of a kind resolve to. -/
abbrev live (t : Tokens) (kind : TokenKind) : Set (ℕ × ℕ) := (t.slots cfg kind).live

lemma live_openHandle (hindex : index < cfg.limits.maxOpenHandles)
    (hfree : (t.handles index).used = false) (mode : OpenMode) (name : Bytes) :
    (t.openHandle index mode name).live cfg .handle =
      insert (index, t.handleCounter) (t.live cfg .handle) := by
  have hslots : (t.openHandle index mode name).slots cfg .handle =
      (t.slots cfg .handle).put index t.handleCounter := by
    refine Slots.ext (funext fun i => ?_) (funext fun i => ?_)
    · rcases eq_or_ne i index with rfl | hi
      · simp [slots, openHandle, Slots.put, hindex]
      · simp [slots, openHandle, Slots.put, Function.update_of_ne hi]
    · rcases eq_or_ne i index with rfl | hi
      · simp [slots, openHandle, Slots.put]
      · simp [slots, openHandle, Slots.put, Function.update_of_ne hi]
  rw [live, hslots, Slots.live_put]
  simp [slots, hfree]

lemma live_closeHandle : (t.closeHandle index).live cfg .handle =
    t.live cfg .handle \ {(index, (t.handles index).generation)} := by
  have hslots : (t.closeHandle index).slots cfg .handle = (t.slots cfg .handle).retire index := by
    refine Slots.ext (funext fun i => ?_) (funext fun i => ?_)
    · rcases eq_or_ne i index with rfl | hi
      · simp [slots, closeHandle, Slots.retire]
      · simp [slots, closeHandle, Slots.retire, Function.update_of_ne hi]
    · rcases eq_or_ne i index with rfl | hi
      · simp [slots, closeHandle, Slots.retire]
      · simp [slots, closeHandle, Slots.retire, Function.update_of_ne hi]
  rw [live, hslots, Slots.live_retire]
  rfl

/-- A mark on a handle is no matter of its slot. -/
lemma slots_mark (t : Tokens) (index : ℕ) (active : Bool) : (t.mark index active).slots cfg = t.slots cfg := by
  funext kind
  cases kind with
  | handle =>
      refine Slots.ext (funext fun i => ?_) (funext fun i => ?_)
      · rcases eq_or_ne i index with rfl | hi
        · simp [slots, mark]
        · simp [slots, mark, Function.update_of_ne hi]
      · rcases eq_or_ne i index with rfl | hi
        · simp [slots, mark]
        · simp [slots, mark, Function.update_of_ne hi]
  | _ => rfl

/-- A single slot resolves to its generation while it is in use. -/
lemma live_single {used : Bool} {generation : ℕ} :
    (⟨fun i => i == 0 && used, fun _ => generation⟩ : Slots ℕ).live =
      if used = true then {(0, generation)} else ∅ := by
  ext ⟨i, g⟩
  cases used with
  | true =>
      simp only [Slots.mem_live, Bool.and_true, beq_iff_eq, ↓reduceIte, Set.mem_singleton_iff,
        Prod.mk.injEq]
      exact and_congr_right fun _ => eq_comm
  | false => simp [Slots.mem_live]

lemma live_transaction : t.live cfg .transaction =
    if t.transaction.active = true then {(0, t.transaction.generation)} else ∅ := live_single

lemma live_writer : t.live cfg .writer =
    if t.writer.used () = true then {(0, t.writer.tag ())} else ∅ := live_single

lemma live_openReader (hindex : index < cfg.maxValueReaders)
    (hfree : t.readers.used index = false) :
    (t.openReader index).live cfg .reader =
      insert (index, t.handleCounter) (t.live cfg .reader) := by
  have hslots : (t.openReader index).slots cfg .reader =
      (t.slots cfg .reader).put index t.handleCounter := by
    refine Slots.ext (funext fun i => ?_) rfl
    rcases eq_or_ne i index with rfl | hi
    · simp [slots, openReader, Slots.put, hindex]
    · simp [slots, openReader, Slots.put, Function.update_of_ne hi]
  rw [live, hslots, Slots.live_put]
  simp [slots, hfree]

lemma live_closeReader : (t.closeReader index).live cfg .reader =
    t.live cfg .reader \ {(index, t.readers.tag index)} := by
  have hslots : (t.closeReader index).slots cfg .reader = (t.slots cfg .reader).retire index := by
    refine Slots.ext (funext fun i => ?_) rfl
    rcases eq_or_ne i index with rfl | hi
    · simp [slots, closeReader, Slots.retire]
    · simp [slots, closeReader, Slots.retire, Function.update_of_ne hi]
  rw [live, hslots, Slots.live_retire]
  rfl

@[simp] lemma live_closed (a b : ℕ) (kind : TokenKind) : (closed a b).live cfg kind = ∅ := by
  ext p
  cases kind <;> simp [Slots.mem_live, slots, closed, Db.tokens, Db.closed]

end Tokens

/-! ## The registry follows -/

/-- The registry lists the tokens that resolve. -/
def Tracks (cfg : Config) (r : Registry) (t : Tokens) : Prop :=
  ∀ kind raw, raw ∈ r kind ↔ ∃ p ∈ t.live cfg kind, decodeHandleValue raw = some p

namespace Tracks

variable {r : Registry} {t t' : Tokens} {kind : TokenKind} {raw : ℕ} {p : ℕ × ℕ}

lemma enter (h : Tracks cfg r t) (hself : t'.live cfg kind = insert p (t.live cfg kind))
    (hother : ∀ k, k ≠ kind → t'.live cfg k = t.live cfg k)
    (hraw : decodeHandleValue raw = some p) : Tracks cfg (r.enter kind raw) t' := by
  intro k other
  unfold Registry.enter
  rcases eq_or_ne k kind with rfl | hk
  · rw [Function.update_self, Finset.mem_insert, h k other, hself]
    constructor
    · rintro (rfl | ⟨q, hq, hdecode⟩)
      · exact ⟨p, Set.mem_insert _ _, hraw⟩
      · exact ⟨q, Set.mem_insert_of_mem _ hq, hdecode⟩
    · rintro ⟨q, hq, hdecode⟩
      rcases Set.mem_insert_iff.mp hq with rfl | hq
      · exact .inl (decodeHandleValue_inj hdecode hraw)
      · exact .inr ⟨q, hq, hdecode⟩
  · rw [Function.update_of_ne hk, hother k hk]
    exact h k other

lemma leave (h : Tracks cfg r t) (hself : t'.live cfg kind = t.live cfg kind \ {p})
    (hother : ∀ k, k ≠ kind → t'.live cfg k = t.live cfg k)
    (hraw : decodeHandleValue raw = some p) : Tracks cfg (r.leave kind raw) t' := by
  intro k other
  unfold Registry.leave
  rcases eq_or_ne k kind with rfl | hk
  · rw [Function.update_self, Finset.mem_erase, h k other, hself]
    constructor
    · rintro ⟨hne, q, hq, hdecode⟩
      refine ⟨q, ⟨hq, ?_⟩, hdecode⟩
      rintro rfl
      exact hne (decodeHandleValue_inj hdecode hraw)
    · rintro ⟨q, ⟨hq, hne⟩, hdecode⟩
      refine ⟨?_, q, hq, hdecode⟩
      rintro rfl
      rw [hraw] at hdecode
      exact hne (Option.some.inj hdecode).symm
  · rw [Function.update_of_ne hk, hother k hk]
    exact h k other

/-- No token of this kind is left. -/
lemma drop (h : Tracks cfg r t) (hself : t'.live cfg kind = ∅)
    (hother : ∀ k, k ≠ kind → t'.live cfg k = t.live cfg k) :
    Tracks cfg (Function.update r kind ∅) t' := by
  intro k other
  rcases eq_or_ne k kind with rfl | hk
  · rw [Function.update_self, hself]
    simp
  · rw [Function.update_of_ne hk, hother k hk]
    exact h k other

end Tracks

/-- A slot that does not own the transaction is replaced by one without a mark. -/
lemma Tokens.Linked.replace {t : Tokens} (h : t.Linked cfg) {index counter : ℕ} {slot : HandleSlot}
    (hslot : slot.transactionActive = false)
    (hother : t.transaction.active = true → t.transaction.handleSlotIndex ≠ index) :
    ({ t with handleCounter := counter, handles := Function.update t.handles index slot } :
      Tokens).Linked cfg := by
  refine ⟨fun i => ?_, fun hactive => ?_⟩
  · dsimp only
    rcases eq_or_ne i index with rfl | hi
    · rw [Function.update_self, hslot]
      exact ⟨fun h => (by cases h), fun h => absurd h.2 (hother h.1)⟩
    · rw [Function.update_of_ne hi]
      exact h.marked i
  · dsimp only
    rw [Function.update_of_ne (hother hactive)]
    exact h.owner hactive

/-! ## Counters -/

/-- The counters are exhausted or at a generation that a token can have. -/
structure Counted (t : Tokens) : Prop where
  handle : t.handleCounter ≤ maxHandleGeneration
  transaction : t.transactionCounter ≤ maxHandleGeneration

namespace TokenEffect

variable {t t' : Tokens} {e : Event}

/-- The counters stay, or move past one generation. -/
lemma counter (h : TokenEffect cfg t e t') (kind : TokenKind) :
    t'.counter kind = t.counter kind ∨
      t.counter kind ≠ 0 ∧ t'.counter kind = next maxHandleGeneration (t.counter kind) := by
  cases h with
  | same => exact .inl rfl
  | openedHandle _ _ hcounter =>
      cases kind with
      | transaction => exact .inl rfl
      | _ => exact .inr ⟨hcounter, rfl⟩
  | closedHandle => cases kind <;> exact .inl rfl
  | begun _ _ _ hcounter =>
      cases kind with
      | transaction => exact .inr ⟨hcounter, rfl⟩
      | _ => exact .inl rfl
  | ended => cases kind <;> exact .inl rfl
  | openedReader _ _ hcounter =>
      cases kind with
      | transaction => exact .inl rfl
      | _ => exact .inr ⟨hcounter, rfl⟩
  | closedReader => cases kind <;> exact .inl rfl
  | openedWriter _ hcounter =>
      cases kind with
      | transaction => exact .inl rfl
      | _ => exact .inr ⟨hcounter, rfl⟩
  | closedWriter => cases kind <;> exact .inl rfl
  | staleWriter => exact .inl rfl
  | usedWriter _ hmiddle =>
      rcases hmiddle with rfl | ⟨hcounter, rfl⟩
      · cases kind <;> exact .inl rfl
      · cases kind with
        | transaction => exact .inl rfl
        | _ => exact .inr ⟨hcounter, rfl⟩
  | stopped => cases kind <;> exact .inl rfl

/-- What a counter has handed out stays handed out. -/
lemma keeps_issued (h : TokenEffect cfg t e t') {kind : TokenKind} {generation : ℕ}
    (hissued : Issued (t.counter kind) generation) : Issued (t'.counter kind) generation := by
  rcases h.counter kind with hsame | ⟨hcounter, hnext⟩
  · rwa [hsame]
  · rw [hnext]
    exact hissued.next hcounter

lemma keeps_counted (h : TokenEffect cfg t e t') (hcounted : Counted t) : Counted t' := by
  have hbound : ∀ kind, t.counter kind ≤ maxHandleGeneration →
      t'.counter kind ≤ maxHandleGeneration := fun kind hle => by
    rcases h.counter kind with hsame | ⟨-, hnext⟩
    · rwa [hsame]
    · rw [hnext]
      exact next_le hle
  exact ⟨hbound .handle hcounted.handle, hbound .transaction hcounted.transaction⟩

/-- **A returned token has the generation of the counter**, which the counter then has handed
out. -/
lemma issued (h : TokenEffect cfg t e t') (hcounted : Counted t) {kind : TokenKind} {raw : ℕ}
    (hissued : e.issued kind = some raw) : t.counter kind ≠ 0 ∧
      (∃ slot, decodeHandleValue raw = some (slot, t.counter kind)) ∧
      Issued (t'.counter kind) (t.counter kind) := by
  have hranges := cfg.ranges
  have hreaders := cfg.readers
  have hpart : ∀ {slot}, slot < 256 → t.counter kind ≠ 0 → t.counter kind ≤ maxHandleGeneration →
      raw = makeHandleValue slot (t.counter kind) →
      t'.counter kind = next maxHandleGeneration (t.counter kind) → t.counter kind ≠ 0 ∧
        (∃ slot, decodeHandleValue raw = some (slot, t.counter kind)) ∧
        Issued (t'.counter kind) (t.counter kind) := by
    intro slot hslot hcounter hmax hraw hnext
    refine ⟨hcounter, ⟨slot, ?_⟩, ?_⟩
    · rw [hraw]
      exact decodeHandleValue_makeHandleValue hslot hcounter hmax
    · rw [hnext]
      exact issued_next_self
  cases h with
  | same hquiet =>
      rw [Event.issued_of_quiet hquiet] at hissued
      cases hissued
  | openedHandle hindex _ hcounter =>
      cases kind with
      | handle => exact hpart (by omega) hcounter hcounted.handle (Option.some.inj hissued).symm rfl
      | _ => cases hissued
  | begun _ _ _ hcounter =>
      cases kind with
      | transaction =>
          exact hpart (by omega) hcounter hcounted.transaction (Option.some.inj hissued).symm rfl
      | _ => cases hissued
  | openedReader hindex _ hcounter =>
      cases kind with
      | reader => exact hpart (by omega) hcounter hcounted.handle (Option.some.inj hissued).symm rfl
      | _ => cases hissued
  | openedWriter _ hcounter =>
      cases kind with
      | writer => exact hpart (by omega) hcounter hcounted.handle (Option.some.inj hissued).symm rfl
      | _ => cases hissued
  | @closedHandle _ _ reply =>  cases reply <;> cases hissued
  | @ended c _ _ reply hc =>
      rcases hc with rfl | rfl
      · cases reply <;> cases hissued
      · cases reply <;> cases hissued
  | @closedReader _ _ reply => cases reply <;> cases hissued
  | @closedWriter c _ _ outcome hc =>
      rcases hc with rfl | rfl
      · rcases outcome with _ | reply
        · cases hissued
        · cases reply <;> cases hissued
      · rcases outcome with _ | reply
        · cases hissued
        · cases reply <;> cases hissued
  | staleWriter => cases hissued
  | @usedWriter _ _ _ _ outcome =>
      rcases outcome with _ | reply
      · cases hissued
      · cases reply <;> cases hissued
  | @stopped _ _ reply => cases reply <;> cases hissued

/-- **The registry keeps listing the tokens that resolve.** -/
theorem tracks (h : TokenEffect cfg t e t') (hcounted : Counted t) {r : Registry}
    (htracks : Tracks cfg r t) : Tracks cfg (r.step cfg e) t' := by
  have hranges := cfg.ranges
  have hreaders := cfg.readers
  have hother : ∀ {kind : TokenKind} {t' : Tokens},
      (∀ k, k ≠ kind → t'.slots cfg k = t.slots cfg k) →
      ∀ k, k ≠ kind → t'.live cfg k = t.live cfg k := fun h k hk => congrArg Slots.live (h k hk)
  cases h with
  | same hquiet =>
      rw [Registry.step_of_quiet hquiet]
      exact htracks
  | openedHandle hindex hfree hcounter =>
      exact htracks.enter (Tokens.live_openHandle hindex hfree _ _)
        (hother fun k hk => by cases k <;> first | rfl | exact absurd rfl hk)
        (decodeHandleValue_makeHandleValue (by omega) hcounter hcounted.handle)
  | closedHandle hraw =>
      exact htracks.leave Tokens.live_closeHandle
        (hother fun k hk => by cases k <;> first | rfl | exact absurd rfl hk) hraw
  | @begun _ _ index hindex _ hidle hcounter =>
      refine htracks.enter (p := (0, t.transactionCounter)) ?_ (hother fun k hk => ?_)
        (decodeHandleValue_makeHandleValue (by decide) hcounter hcounted.transaction)
      · rw [Tokens.live_transaction, Tokens.live_transaction, hidle]
        simp [Tokens.begin]
      · refine Eq.trans ?_ (congrFun (Tokens.slots_mark t index true) k)
        cases k with
        | transaction => exact absurd rfl hk
        | _ => rfl
  | @ended c raw blocked reply hc hactive hraw =>
      have hleave : Tracks cfg (r.leave .transaction raw) t.clearTransaction := by
        refine htracks.leave ?_ (hother fun k hk => ?_) hraw
        · rw [Tokens.live_transaction, Tokens.live_transaction, hactive]
          simp [Tokens.clearTransaction]
        · refine Eq.trans ?_ (congrFun (Tokens.slots_mark t t.transaction.handleSlotIndex false) k)
          cases k with
          | transaction => exact absurd rfl hk
          | _ => rfl
      rcases hc with rfl | rfl
      · exact hleave
      · exact hleave
  | openedReader hindex hfree hcounter =>
      exact htracks.enter (Tokens.live_openReader hindex hfree)
        (hother fun k hk => by cases k <;> first | rfl | exact absurd rfl hk)
        (decodeHandleValue_makeHandleValue (by omega) hcounter hcounted.handle)
  | closedReader hraw =>
      exact htracks.leave Tokens.live_closeReader
        (hother fun k hk => by cases k <;> first | rfl | exact absurd rfl hk) hraw
  | openedWriter hidle hcounter =>
      refine htracks.enter (p := (0, t.handleCounter)) ?_
        (hother fun k hk => by cases k <;> first | rfl | exact absurd rfl hk)
        (decodeHandleValue_makeHandleValue (by decide) hcounter hcounted.handle)
      rw [Tokens.live_writer, Tokens.live_writer, hidle]
      simp [Tokens.openWriter, Slots.put]
  | @closedWriter c raw blocked outcome hc hloud hraw =>
      have hleave : Tracks cfg (r.leave .writer raw) t.closeWriter := by
        refine htracks.leave (p := (0, t.writer.tag ())) ?_
          (hother fun k hk => by cases k <;> first | rfl | exact absurd rfl hk) hraw
        rw [Tokens.live_writer, Tokens.live_writer]
        cases t.writer.used () <;> simp [Tokens.closeWriter, Slots.retire]
      rcases hc with rfl | rfl
      · rw [show r.step cfg ⟨.finishValueWrite raw, blocked, outcome⟩ = r.leave .writer raw from
          if_neg (beq_eq_false_iff_ne.mp hloud)]
        exact hleave
      · rcases outcome with _ | reply
        · cases hloud
        · exact hleave
  | @staleWriter raw blocked e hstale =>
      have hmem : raw ∉ r .writer := by
        rw [htracks, Tokens.live_writer]
        rintro ⟨p, hp, hdecode⟩
        rcases hstale with hunused | hother
        · rw [hunused] at hp
          exact hp.elim
        · split_ifs at hp
          · rw [Set.mem_singleton_iff.mp hp] at hdecode
            exact hother hdecode
          · exact hp.elim
      have hstep : r.step cfg ⟨.finishValueWrite raw, blocked, .error e⟩ = r := by
        show (if _ then r else r.leave .writer raw) = r
        split_ifs
        · rfl
        · unfold Registry.leave
          rw [Finset.erase_eq_of_notMem hmem, Function.update_eq_self]
      rw [hstep]
      exact htracks
  | @usedWriter raw key value blocked outcome middle hloud hmiddle =>
      have hdrop : Tracks cfg (Function.update r .writer ∅) middle.closeWriter := by
        refine htracks.drop ?_ (hother fun k hk => ?_)
        · rw [Tokens.live_writer]
          exact if_neg (by simp [Tokens.closeWriter, Slots.retire])
        · rcases hmiddle with rfl | ⟨-, rfl⟩
          · cases k <;> first | rfl | exact absurd rfl hk
          · cases k <;> first | rfl | exact absurd rfl hk
      have hstep : r.step cfg ⟨.set raw key value, blocked, outcome⟩ =
          Function.update r .writer ∅ := by
        refine if_neg fun h => ?_
        rw [Event.quiet_set.mpr h] at hloud
        cases hloud
      rw [hstep]
      exact hdrop
  | stopped =>
      intro kind raw
      rw [Tokens.live_closed]
      simp [Registry.step]

/-- **The mark of the handles stays right.** -/
theorem linked (h : TokenEffect cfg t e t') (hlinked : t.Linked cfg) : t'.Linked cfg := by
  cases h with
  | same => exact hlinked
  | @openedHandle _ _ _ index _ hfree _ =>
      refine hlinked.replace rfl ?_
      rintro hactive rfl
      rw [(hlinked.owner hactive).2.1] at hfree
      cases hfree
  | @closedHandle _ _ _ index _ hunmarked =>
      refine hlinked.replace rfl ?_
      rintro hactive rfl
      rw [(hlinked.marked _).mpr ⟨hactive, rfl⟩] at hunmarked
      cases hunmarked
  | @begun _ _ index hindex hused hidle _ =>
      refine ⟨fun i => ?_, fun _ => ⟨hindex, ?_, ?_⟩⟩
      · show ((Function.update t.handles index _) i).transactionActive = true ↔
          true = true ∧ index = i
        rcases eq_or_ne i index with rfl | hi
        · rw [Function.update_self]
          exact ⟨fun _ => ⟨rfl, rfl⟩, fun _ => rfl⟩
        · rw [Function.update_of_ne hi, hlinked.marked i, hidle]
          exact ⟨fun h => (by cases h.1), fun h => absurd h.2.symm hi⟩
      · show ((Function.update t.handles index _) index).used = true
        rw [Function.update_self]
        exact hused
      · show ((Function.update t.handles index _) index).generation = (t.handles index).generation
        rw [Function.update_self]
  | ended _ hactive _ =>
      refine ⟨fun i => ?_, fun hactive' => by cases hactive'⟩
      show ((Function.update t.handles t.transaction.handleSlotIndex _) i).transactionActive = true ↔
        false = true ∧ _
      rcases eq_or_ne i t.transaction.handleSlotIndex with rfl | hi
      · rw [Function.update_self]
        exact ⟨fun h => (by cases h), fun h => (by cases h.1)⟩
      · rw [Function.update_of_ne hi, hlinked.marked i]
        exact ⟨fun h => absurd h.2.symm hi, fun h => (by cases h.1)⟩
  | openedReader => exact ⟨hlinked.marked, hlinked.owner⟩
  | closedReader => exact ⟨hlinked.marked, hlinked.owner⟩
  | openedWriter => exact ⟨hlinked.marked, hlinked.owner⟩
  | closedWriter => exact ⟨hlinked.marked, hlinked.owner⟩
  | staleWriter => exact hlinked
  | usedWriter _ hmiddle =>
      rcases hmiddle with rfl | ⟨-, rfl⟩
      · exact ⟨hlinked.marked, hlinked.owner⟩
      · exact ⟨hlinked.marked, hlinked.owner⟩
  | stopped =>
      exact ⟨fun i => ⟨fun h => (by cases h), fun h => (by cases h.1)⟩, fun h => (by cases h)⟩

end TokenEffect

end On9kvdb
