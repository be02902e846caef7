import On9kvdb.Meaning.Names
import On9kvdb.Meaning.Transactions

/-!
# The database behaves as its model

`Represents M w` relates a state to the model: it holds the map, its staged mutations are the edits,
and its writer has the bytes of the draft.  Every call between `init` and `deinit` is a step of the
model, whatever the device does, and a run of calls is a run of the model.
-/

namespace On9kvdb

open Exceptional

variable {cfg : Config} {M : Model} {names : Names} {w w' w₀ : World} {key : Bytes}

/-! ## The relation -/

variable (cfg) in
/-- The state of a database stands for this one. -/
structure Represents (M : Model) (w : World) : Prop where
  holding : ∃ staging, Holding cfg M.committed staging w ∧ staging.edits = M.edits
  idle : M.draft = none → w.db.valueWriter.active = false
  writing : ∀ d, M.draft = some d → WriterHas cfg d.key d.size d.written w

lemma Represents.draft_eq_none (h : Represents cfg M w) (hidle : w.db.valueWriter.active = false) :
    M.draft = none := by
  cases hdraft : M.draft with
  | none => rfl
  | some d =>
      have hactive := (h.writing d hdraft).active
      rw [hidle] at hactive
      cases hactive

lemma Represents.exists_draft (h : Represents cfg M w) (hactive : w.db.valueWriter.active = true) :
    ∃ d, M.draft = some d := by
  cases hdraft : M.draft with
  | none =>
      have hidle := h.idle hdraft
      rw [hactive] at hidle
      cases hidle
  | some d => exact ⟨d, rfl⟩

/-- The draft is the same behind a call aside. -/
lemma Represents.aside (h : Represents cfg M w) (haside : Aside w w')
    {c : CompositeKey → Option Bytes} {edits : Edits}
    (hholding : ∃ staging, Holding cfg c staging w' ∧ staging.edits = edits) :
    Represents cfg ⟨c, edits, M.draft⟩ w' := by
  refine ⟨hholding, fun hdraft => ?_, fun d hdraft => haside.writer (h.writing d hdraft)⟩
  have hwriter : w'.db.valueWriter = w.db.valueWriter := by rw [haside.db]
  rw [hwriter]
  exact h.idle hdraft

lemma Represents.passing (h : Represents cfg M w) (hpassing : Passing w w') :
    Represents cfg M w' := by
  obtain ⟨staging, hholding, hedits⟩ := h.holding
  exact h.aside hpassing.aside
    ⟨staging, hpassing.aside.holding hholding hpassing.staged, hedits⟩

/-- Without a writer the draft is gone. -/
lemma Represents.of_idle {c : CompositeKey → Option Bytes} {edits : Edits} {staging : Staging}
    (hholding : Holding cfg c staging w) (hedits : staging.edits = edits)
    (hidle : w.db.valueWriter.active = false) : Represents cfg ⟨c, edits, none⟩ w :=
  ⟨⟨staging, hholding, hedits⟩, fun _ => hidle, fun _ hdraft => (by cases hdraft)⟩

/-- What is held is the same, and there was no draft. -/
lemma Represents.undrafted (h : Represents cfg M w) (hidle : w.db.valueWriter.active = false)
    {staging : Staging} (hholding : Holding cfg M.committed staging w')
    (hedits : staging.edits = M.edits) (hidle' : w'.db.valueWriter.active = false) :
    Represents cfg M w' := by
  refine ⟨⟨staging, hholding, hedits⟩, fun _ => hidle', fun d hdraft => ?_⟩
  rw [h.draft_eq_none hidle] at hdraft
  cases hdraft

/-- The writer has the bytes of the draft. -/
lemma Represents.of_composing {c : CompositeKey → Option Bytes} {edits : Edits}
    {staging : Staging} {size : ℕ} {written : Bytes}
    (h : Composing cfg c staging key size written w) (hedits : staging.edits = edits) :
    Represents cfg ⟨c, edits, some ⟨key, size, written⟩⟩ w :=
  ⟨⟨staging, h.holding, hedits⟩, fun hdraft => (by cases hdraft), fun d hdraft => (by
    cases hdraft
    exact h.written)⟩

/-! ## Calls -/

variable (cfg) in
/-- What a call replies and leaves behind is a step of the model. -/
def Conforms (names : Names) (M : Model) (c : Call) (w₀ : World) : Prop :=
  Triple (· = w₀) (perform cfg c)
    (fun reply w => ∃ M', M.Step names c (.ok reply) M' ∧ Represents cfg M' w)
    (fun e w => ∃ M', M.Step names c (.error e) M' ∧ Represents cfg M' w)

lemma Represents.refused (h : Represents cfg M w) {c : Call} {e : EspErr}
    (hmissing : e = .notFound → M.Missing names c) :
    ∃ M', M.Step names c (.error e) M' ∧ Represents cfg M' w := ⟨M, .refused hmissing, h⟩

/-- A call behind a latched fault. -/
lemma triple_lockedOut {α : Type} {f : Unit → DbM α} (hfault : w₀.db.storageFaulted = true) :
    Triple (· = w₀) (acquireOperationLock >>= f) (fun _ _ => False)
      (fun e w => e ≠ .notFound ∧ w = w₀) := by
  unfold acquireOperationLock
  refine .bind (Q := fun _ _ => False) (Triple.fetched (Triple.failIf (fun _ _ hc => ?_)
    fun _ hw _ => ⟨by decide, hw⟩)) fun _ _ hw => hw.elim
  push Not at hc
  rw [hfault] at hc
  exact hc.2 rfl

/-- A call behind a latched fault and the check of its arguments. -/
lemma triple_lockedOut_checked {α : Type} {f : Unit → DbM α} {condition : Prop}
    [Decidable condition] (hfault : w₀.db.storageFaulted = true) :
    Triple (· = w₀) (failIf condition .invalidArg >>= fun _ => acquireOperationLock >>= f)
      (fun _ _ => False) (fun e w => e ≠ .notFound ∧ w = w₀) :=
  .bind (Q := fun _ => (· = w₀)) (Triple.failIf (fun _ hw _ => hw) fun _ hw _ => ⟨by decide, hw⟩)
    fun _ => triple_lockedOut hfault

lemma triple_perform_lockedOut {c : Call} (hc : c.isLifecycle = false)
    (hfault : w₀.db.storageFaulted = true) :
    Triple (· = w₀) (perform cfg c) (fun _ _ => False) (fun e w => e ≠ .notFound ∧ w = w₀) := by
  cases c with
  | init => cases hc
  | deinit force => cases hc
  | openNamespace name mode => exact triple_map _ (triple_lockedOut_checked hfault)
  | set raw key value => exact triple_done (triple_lockedOut_checked hfault)
  | eraseKey raw key => exact triple_done (triple_lockedOut_checked hfault)
  | openValue raw key => exact triple_map _ (triple_lockedOut_checked hfault)
  | closeHandle raw => exact triple_done (triple_lockedOut hfault)
  | begin raw => exact triple_map _ (triple_lockedOut hfault)
  | beginValueWrite raw key valueSize => exact triple_lockedOut hfault
  | writeValue raw data => exact triple_done (triple_lockedOut hfault)
  | finishValueWrite raw => exact triple_done (triple_lockedOut hfault)
  | abortValueWrite raw => exact triple_done (triple_lockedOut hfault)
  | commit raw => exact triple_done (triple_lockedOut hfault)
  | abort raw => exact triple_done (triple_lockedOut hfault)
  | peekValue raw => exact triple_map _ (triple_lockedOut hfault)
  | readValueInto raw size => exact triple_map _ (triple_lockedOut hfault)
  | consumeValue raw size => exact triple_done (triple_lockedOut hfault)
  | seekValue raw offset => exact triple_done (triple_lockedOut hfault)
  | closeReader raw => exact triple_done (triple_lockedOut hfault)

/-- A call that passes the contents by. -/
lemma conforms_of_passing {c : Call} (h : Represents cfg M w₀) (hc : Model.passes c = true)
    (hpassing : Within Passing (perform cfg c)) : Conforms cfg names M c w₀ := by
  refine hpassing.triple (fun w w' reply hw hpass => ⟨M, .pass hc, ?_⟩) fun w w' e hw hpass => ?_
  · rw [hw] at hpass
    exact h.passing hpass
  · rw [hw] at hpass
    refine (h.passing hpass).refused fun _ => ?_
    cases c <;> trivial

/-! ## Transactions -/

lemma conforms_begin (h : Represents cfg M w₀) (hnames : Named cfg names w₀.db.tokens) (raw : ℕ) :
    Conforms cfg names M (.begin raw) w₀ := by
  have haside : Triple (· = w₀) (beginTransaction cfg raw) (fun _ w => Aside w₀ w)
      (fun _ _ => True) :=
    (aside_beginTransaction raw).triple (fun w w' _ hw h => hw ▸ h) fun _ _ _ _ _ => trivial
  refine triple_map _ (((triple_beginTransaction_begun w₀ raw).both haside).conseq
    (fun _ hw => ⟨hw, hw⟩) (fun token w hw => ?_) fun e w hw => ?_)
  · obtain ⟨⟨index, hfound, -, -, -, -, -, hempty⟩, haside⟩ := hw
    obtain ⟨staging, hholding, -⟩ := h.holding
    exact ⟨_, .begin (hnames.of_handle hfound),
      h.aside haside ⟨[], haside.emptied hholding.serves hempty, rfl⟩⟩
  · rw [hw.1]
    exact h.refused fun _ => trivial

lemma conforms_abort (h : Represents cfg M w₀) (hsound : Sound cfg w₀.db) (raw : ℕ) :
    Conforms cfg names M (.abort raw) w₀ := by
  have haside : Triple (· = w₀) (abort cfg raw) (fun _ w => Aside w₀ w) (fun _ _ => True) :=
    (aside_abort raw).triple (fun w w' _ hw h => hw ▸ h) fun _ _ _ _ _ => trivial
  refine triple_done (((triple_abort_cleared hsound raw).both haside).conseq
    (fun _ hw => ⟨hw, hw⟩) (fun _ w hw => ?_) fun e w hw => ?_)
  · obtain ⟨⟨hidle, hempty⟩, haside⟩ := hw
    obtain ⟨staging, hholding, -⟩ := h.holding
    exact ⟨_, .abort (h.draft_eq_none hidle),
      h.aside haside ⟨[], haside.emptied hholding.serves hempty, rfl⟩⟩
  · rw [hw.1]
    exact h.refused fun _ => trivial

/-- The writer is open behind a commit when it was in front. -/
lemma triple_commit_writer (hsound : Sound cfg w₀.db) (hlinked : w₀.db.tokens.Linked cfg)
    (raw : ℕ) :
    Triple (· = w₀) (commit cfg raw)
      (fun _ w => w.db.valueWriter.active = w₀.db.valueWriter.active)
      (fun _ w => w.db.valueWriter.active = w₀.db.valueWriter.active) := by
  refine (triple_tokens_commit hsound hlinked raw).conseq (fun _ hw => hw) (fun _ w hw => ?_)
    fun _ w hw => ?_
  · exact congrArg (fun t => t.writer.used ()) hw.2.2
  · exact congrArg (fun t => t.writer.used ()) hw

lemma conforms_commit (h : Represents cfg M w₀) (hnames : Named cfg names w₀.db.tokens)
    (hsteady : Steady cfg w₀) (hlinked : w₀.db.tokens.Linked cfg)
    (hhealthy : w₀.db.storageFaulted = false) (raw : ℕ) :
    Conforms cfg names M (.commit raw) w₀ := by
  obtain ⟨staging, hholding, hedits⟩ := h.holding
  refine triple_done (((triple_commit_holding hholding hsteady hhealthy raw).both
    (triple_commit_writer hsteady.sound hlinked raw)).conseq (fun _ hw => ⟨hw, hw⟩)
      (fun _ w hw => ?_) fun e w hw => ?_)
  · obtain ⟨⟨hidle, handle, hhandle, hheld⟩, hwriter⟩ := hw
    have hdraft := h.draft_eq_none hidle
    refine ⟨_, .commit (hnames.of_transaction hhandle) hdraft, ?_⟩
    rw [hedits] at hheld
    rw [hdraft]
    exact .of_idle hheld rfl (hwriter.trans hidle)
  · obtain ⟨rfl | ⟨hidle, hheld⟩, hwriter⟩ := hw
    · exact h.refused fun _ => trivial
    · exact (h.undrafted hidle hheld hedits (hwriter.trans hidle)).refused fun _ => trivial

/-! ## Edits -/

lemma conforms_eraseKey (h : Represents cfg M w₀) (hnames : Named cfg names w₀.db.tokens)
    (hsteady : Steady cfg w₀) (raw : ℕ) : Conforms cfg names M (.eraseKey raw key) w₀ := by
  obtain ⟨staging, hholding, hedits⟩ := h.holding
  refine triple_done ((triple_eraseKey_holding hholding hsteady raw).conseq (fun _ hw => hw)
    (fun _ w hw => ?_) fun e w hw => ?_)
  · obtain ⟨haside, hheld, handle, hhandle, hthere⟩ := hw
    rw [hedits] at hthere
    exact ⟨_, .eraseKey (hnames.of_transaction hhandle) hthere,
      h.aside haside ⟨_, hheld, by rw [Staging.edits_put, hedits]⟩⟩
  · obtain ⟨⟨haside, hdb⟩, hmissing⟩ := hw
    refine (h.passing ⟨haside, by rw [hdb]⟩).refused fun he name hname => ?_
    obtain ⟨handle, hhandle, hnone⟩ := hmissing he
    rw [hnames.of_transaction hhandle] at hname
    cases hname
    rwa [hedits] at hnone

lemma conforms_set (h : Represents cfg M w₀) (hnames : Named cfg names w₀.db.tokens)
    (hsteady : Steady cfg w₀) (hhealthy : w₀.db.storageFaulted = false) (raw : ℕ) (value : Bytes) :
    Conforms cfg names M (.set raw key value) w₀ := by
  obtain ⟨staging, hholding, hedits⟩ := h.holding
  have hrefused : ∀ {e : EspErr}, ∃ M', M.Step names (.set raw key value) (.error e) M' ∧
      Represents cfg M' w₀ := h.refused fun _ => trivial
  refine triple_done ?_
  unfold set
  refine .bind (Q := fun _ => (· = w₀)) (Triple.failIf (fun _ hw _ => hw) fun _ hw _ =>
    hw ▸ hrefused) fun _ => triple_behindLock hrefused (.ite (fun _ => ?_) fun _ => ?_)
  · refine (triple_stageValueUnsafe_holding hholding raw (.inline value)).conseq
      (fun _ hw => hw) (fun _ w hw => ?_) fun e w hw => ?_
    · obtain ⟨haside, hheld, handle, hhandle⟩ := hw
      exact ⟨_, .set (hnames.of_transaction hhandle),
        h.aside haside ⟨_, hheld, by rw [Staging.edits_put, hedits]⟩⟩
    · rw [hw.1]
      exact hrefused
  · refine (triple_setExternal_holding hholding hsteady hhealthy raw value).conseq
      (fun _ hw => hw) (fun _ w hw => ?_) fun e w hw => ?_
    · obtain ⟨hidle, hidle', ⟨handle, hhandle⟩, staging', hheld, hedits'⟩ := hw
      refine ⟨_, .set (hnames.of_transaction hhandle), ?_⟩
      unfold Model.stage
      rw [h.draft_eq_none hidle]
      exact .of_idle hheld (by rw [hedits', hedits]) hidle'
    · exact ⟨_, .dropDraft rfl, .of_idle hw.2 hedits hw.1⟩

lemma conforms_openValue (h : Represents cfg M w₀) (hnames : Named cfg names w₀.db.tokens)
    (hsteady : Steady cfg w₀) (raw : ℕ) : Conforms cfg names M (.openValue raw key) w₀ := by
  obtain ⟨staging, hholding, -⟩ := h.holding
  have hpassing : Triple (· = w₀) (openValue cfg raw key) (fun _ w => Passing w₀ w)
      (fun _ w => Passing w₀ w) :=
    (passing_openValue raw key).triple (fun w w' _ hw h => hw ▸ h) fun w w' _ hw h => hw ▸ h
  refine triple_map _ (((triple_openValue_there hholding.serves hsteady raw).both hpassing).conseq
    (fun _ hw => ⟨hw, hw⟩) (fun token w hw => ?_) fun e w hw => ?_)
  · obtain ⟨⟨⟨index, handle⟩, bytes, hhandle, hbytes, -⟩, hpass⟩ := hw
    exact ⟨_, .openValue (hnames.of_handle hhandle) hbytes, h.passing hpass⟩
  · obtain ⟨hmissing, hpass⟩ := hw
    refine (h.passing hpass).refused fun he name hname => ?_
    obtain ⟨⟨index, handle⟩, hhandle, hnone⟩ := hmissing he
    rw [hnames.of_handle hhandle] at hname
    cases hname
    exact hnone

/-! ## Writers -/

lemma conforms_beginValueWrite (h : Represents cfg M w₀) (hnames : Named cfg names w₀.db.tokens)
    (hsteady : Steady cfg w₀) (hhealthy : w₀.db.storageFaulted = false) (raw size : ℕ) :
    Conforms cfg names M (.beginValueWrite raw key size) w₀ := by
  obtain ⟨staging, hholding, hedits⟩ := h.holding
  have hrefused : ∀ {e : EspErr}, ∃ M', M.Step names (.beginValueWrite raw key size) (.error e) M' ∧
      Represents cfg M' w₀ := h.refused fun _ => trivial
  refine triple_behindLock hrefused (triple_map _
    ((triple_beginValueWriteUnsafe_composing hholding hsteady hhealthy raw).conseq
      (fun _ hw => hw) (fun token w hw => ?_) fun e w hw => ?_))
  · obtain ⟨hidle, hcomposing, handle, hhandle⟩ := hw
    exact ⟨_, .beginValueWrite (hnames.of_transaction hhandle) (h.draft_eq_none hidle),
      .of_composing hcomposing hedits⟩
  · rcases hw with rfl | ⟨hidle, hidle', hheld⟩
    · exact hrefused
    · exact (h.undrafted hidle hheld hedits hidle').refused fun _ => trivial

lemma conforms_writeValue (h : Represents cfg M w₀) (hsound : Sound cfg w₀.db) (raw : ℕ)
    (data : Bytes) : Conforms cfg names M (.writeValue raw data) w₀ := by
  obtain ⟨staging, hholding, hedits⟩ := h.holding
  have hrefused : ∀ {e : EspErr}, ∃ M', M.Step names (.writeValue raw data) (.error e) M' ∧
      Represents cfg M' w₀ := h.refused fun _ => trivial
  refine triple_done (triple_withWriter hrefused (fun _ => hrefused) fun _ hactive => ?_)
  obtain ⟨d, hdraft⟩ := h.exists_draft hactive
  refine (triple_writeValueUnsafe_written ⟨hholding, h.writing d hdraft⟩ hsound data).conseq
    (fun _ hw => hw) (fun _ w hw => ?_) fun e w hw => ?_
  · exact ⟨_, .writeValue hdraft hw.1, .of_composing hw.2 hedits⟩
  · obtain ⟨front, hfront, hcomposing⟩ := hw
    exact ⟨_, .writeFront hdraft hfront, .of_composing hcomposing hedits⟩

lemma conforms_finishValueWrite (h : Represents cfg M w₀) (hsound : Sound cfg w₀.db) (raw : ℕ) :
    Conforms cfg names M (.finishValueWrite raw) w₀ := by
  obtain ⟨staging, hholding, hedits⟩ := h.holding
  have hrefused : ∀ {e : EspErr}, ∃ M', M.Step names (.finishValueWrite raw) (.error e) M' ∧
      Represents cfg M' w₀ := h.refused fun _ => trivial
  refine triple_done (triple_withWriter hrefused (fun _ => hrefused) fun _ hactive => ?_)
  obtain ⟨d, hdraft⟩ := h.exists_draft hactive
  refine (triple_finishValueWriteUnsafe_composing ⟨hholding, h.writing d hdraft⟩ hsound).conseq
    (fun _ hw => hw) (fun _ w hw => ?_) fun e w hw => ?_
  · obtain ⟨hcomplete, hidle, staging', hheld, hedits'⟩ := hw
    exact ⟨_, .finishValueWrite hdraft hcomplete,
      .of_idle hheld (hedits'.trans (by rw [hedits]; rfl)) hidle⟩
  · rcases hw with rfl | rfl
    · exact hrefused
    · exact ⟨_, .dropDraft rfl, .of_idle (hholding.withWriter _) hedits rfl⟩

lemma conforms_abortValueWrite (h : Represents cfg M w₀) (raw : ℕ) :
    Conforms cfg names M (.abortValueWrite raw) w₀ := by
  obtain ⟨staging, hholding, hedits⟩ := h.holding
  have hrefused : ∀ {e : EspErr}, ∃ M', M.Step names (.abortValueWrite raw) (.error e) M' ∧
      Represents cfg M' w₀ := h.refused fun _ => trivial
  refine triple_done (triple_withWriter hrefused (fun _ => hrefused) fun _ hactive => ?_)
  obtain ⟨d, hdraft⟩ := h.exists_draft hactive
  exact triple_resetWriter_eq w₀ ⟨_, .abortValueWrite hdraft,
    .of_idle (hholding.withWriter _) hedits rfl⟩

/-! ## Runs -/

/-- **Every call is a step of the model.** -/
theorem conforms_perform (h : Represents cfg M w₀) (hnames : Named cfg names w₀.db.tokens)
    (hsteady : Steady cfg w₀) (hlinked : w₀.db.tokens.Linked cfg) {c : Call}
    (hc : c.isLifecycle = false) : Conforms cfg names M c w₀ := by
  cases hfault : w₀.db.storageFaulted with
  | true =>
      refine (triple_perform_lockedOut hc hfault).conseq (fun _ hw => hw) (fun _ _ hw => hw.elim)
        fun e w hw => ?_
      rw [hw.2]
      exact h.refused fun he => absurd he hw.1
  | false =>
      cases c with
      | init => cases hc
      | deinit force => cases hc
      | openNamespace name mode =>
          exact conforms_of_passing h rfl (Within.map (passing_openNamespace name mode))
      | closeHandle raw => exact conforms_of_passing h rfl (Within.done (passing_closeHandle raw))
      | begin raw => exact conforms_begin h hnames raw
      | set raw key value => exact conforms_set h hnames hsteady hfault raw value
      | eraseKey raw key => exact conforms_eraseKey h hnames hsteady raw
      | beginValueWrite raw key size => exact conforms_beginValueWrite h hnames hsteady hfault raw size
      | writeValue raw data => exact conforms_writeValue h hsteady.sound raw data
      | finishValueWrite raw => exact conforms_finishValueWrite h hsteady.sound raw
      | abortValueWrite raw => exact conforms_abortValueWrite h raw
      | commit raw => exact conforms_commit h hnames hsteady hlinked hfault raw
      | abort raw => exact conforms_abort h hsteady.sound raw
      | openValue raw key => exact conforms_openValue h hnames hsteady raw
      | peekValue raw =>
          exact conforms_of_passing h rfl
            (Within.map (passing_withReader raw turning_peekValueUnsafe))
      | readValueInto raw size =>
          exact conforms_of_passing h rfl
            (Within.map (passing_withReader raw fun i => turning_readValueIntoUnsafe i size))
      | consumeValue raw size =>
          exact conforms_of_passing h rfl
            (Within.done (passing_withReader raw fun i => turning_consumeValueUnsafe i size))
      | seekValue raw offset =>
          exact conforms_of_passing h rfl
            (Within.done (passing_withReader raw fun i => turning_seekValueUnsafe i offset))
      | closeReader raw =>
          exact conforms_of_passing h rfl
            (Within.done (passing_withReader raw turning_closeReader))

/-- The names follow a call. -/
lemma Named.call {r : Registry} (h : Named cfg names w.db.tokens) (htidy : Tidy cfg r w) (c : Call) :
    Named cfg (names.step (Event.of cfg w c)) (exec (perform cfg c) w).2.db.tokens := by
  refine h.step htidy.linked htidy.counted (tokenEffect_perform htidy.tokenSound c)
    fun raw index reply hcall hreply hnext => ?_
  change c = .begin raw at hcall
  change (exec (perform cfg c) w).1 = .ok reply at hreply
  subst hcall
  have hbegun : Triple (· = w) (perform cfg (.begin raw)) (fun _ w' => ∃ index,
      getHandleSlotUnsafe cfg w.db raw = .ok (index, w.db.handles index) ∧
        w'.db.tokens = w.db.tokens.begin index) (fun _ _ => True) :=
    triple_map _ ((triple_beginTransaction_begun w raw).conseq (fun _ hw => hw)
      (fun _ _ ⟨index, hfound, _, _, _, _, htokens, _⟩ => ⟨index, hfound, htokens⟩)
        fun _ _ _ => trivial)
  obtain ⟨index', hfound, htokens⟩ := hbegun.ok rfl (Prod.ext hreply rfl)
  have hindex : index' = index :=
    congrArg (fun t => t.transaction.handleSlotIndex) (htokens.symm.trans hnext)
  rw [← hindex]
  exact h.of_handle hfound

variable (cfg) in
/-- A state that stands for the model, with everything that its calls rely on. -/
structure Modelled (names : Names) (M : Model) (w : World) : Prop where
  represents : Represents cfg M w
  named : Named cfg names w.db.tokens
  steady : Steady cfg w
  tidy : ∃ r, Tidy cfg r w

/-- A call is a step of the model, and what is left stands for the next state. -/
lemma Modelled.call (h : Modelled cfg names M w) {c : Call} (hc : c.isLifecycle = false) :
    ∃ M', M.Step names c (exec (perform cfg c) w).1 M' ∧
      Modelled cfg (names.step (Event.of cfg w c)) M' (exec (perform cfg c) w).2 := by
  obtain ⟨r, htidy⟩ := h.tidy
  have hconforms := conforms_perform h.represents h.named h.steady htidy.linked hc w rfl
  obtain ⟨M', hstep, hrepresents⟩ : ∃ M', M.Step names c (exec (perform cfg c) w).1 M' ∧
      Represents cfg M' (exec (perform cfg c) w).2 := by
    rcases hexec : exec (perform cfg c) w with ⟨reply | e, w'⟩
    · rwa [hexec] at hconforms
    · rwa [hexec] at hconforms
  exact ⟨M', hstep, hrepresents, h.named.call htidy c, openInvariant_steady.call c w hc h.steady,
    _, htidy.call c⟩

/-- **A run of calls is a run of the model.** -/
lemma Modelled.run (h : Modelled cfg names M w) {calls : List Call}
    (hcalls : ∀ c ∈ calls, c.isLifecycle = false) :
    ∃ M', M.Run names (trace cfg w calls) M' ∧
      Modelled cfg (names.after (trace cfg w calls)) M' (afterCalls cfg w calls) := by
  induction calls generalizing names M w with
  | nil => exact ⟨M, .nil names M, h⟩
  | cons c rest ih =>
      obtain ⟨M₁, hstep, hmodelled⟩ := h.call (hcalls c List.mem_cons_self)
      obtain ⟨M', hrun, hmodelled'⟩ := ih hmodelled fun c hc => hcalls c (List.mem_cons_of_mem _ hc)
      exact ⟨M', .cons hstep hrun, hmodelled'⟩

/-- What an opened reader shows is in the map. -/
lemma Modelled.opened (h : Modelled cfg names M w) {raw token : ℕ}
    (hopened : exec (perform cfg (.openValue raw key)) w = (.ok (.token token), w')) :
    ∃ name bytes, names.handle raw = some name ∧ M.committed ⟨name, key⟩ = some bytes ∧
      HasBytes cfg w raw key bytes := by
  obtain ⟨staging, hholding, -⟩ := h.represents.holding
  obtain ⟨p, bytes, hhandle, hbytes, hshown⟩ :=
    (triple_openValue_there hholding.serves h.steady raw).ok rfl (exec_openValue hopened)
  exact ⟨_, bytes, h.named.of_handle hhandle, hbytes, hshown⟩

/-! ## A new database -/

/-- An instance on a freshly provisioned database holds nothing. -/
lemma Provisioned.represents (h : Provisioned cfg w) (hsound : Sound cfg w.db) {a b : ℕ}
    (htokens : w.db.tokens = .closed a b) : Represents cfg .empty w := by
  obtain ⟨databaseId, hid, hfresh⟩ := h
  have htables : w.db.manifest.tables = fun _ => none := by
    rw [hfresh.ready.manifest]
    rfl
  have hnone : ∀ v, v ∉ w.versions cfg := by
    rintro v (⟨slot, reference, hreference, -⟩ | ⟨r, ⟨b, -, hb⟩, -⟩)
    · rw [htables] at hreference
      cases hreference
    · rw [hfresh.memtable] at hb
      cases hb
  have htransaction : w.db.transaction.active = false :=
    congrArg (fun t => t.transaction.active) htokens
  have hmutations := hsound.staged.idle htransaction
  have hstore : StoreSound cfg w := by
    refine ⟨⟨fun slot reference hreference => ?_, fun u hu => ?_⟩, ?_, ?_⟩
    · rw [htables] at hreference
      cases hreference
    · exact absurd (Or.inl hu) (hnone u)
    · rw [hfresh.namespaces]
      exact List.nodup_nil
    · rw [hfresh.memtable]
      exact smallRecords_empty
  have hholding : Holding cfg (fun _ => none) [] w :=
    ⟨⟨hstore, fun key => .absent fun v hv => absurd hv (hnone v)⟩, .of_empty hmutations⟩
  exact .of_idle hholding rfl (congrArg (fun t => t.writer.used ()) htokens)

/-- **A new database stands for the empty model**, through any number of starts that were cut
off. -/
lemma modelled_started (ones : Bool) (crashes : List Interruption) {faults : ℕ → Fault}
    {scrap : ℕ → Bytes} {entropy : ℕ → {id : ℕ // id ≠ 0}}
    (hstart : exec (init cfg) (powerOn (crashes.foldl (interrupted cfg)
      (blankMedia (if ones then 0xff else 0x00))) faults scrap entropy) = (.ok (), w)) :
    Modelled cfg .closed .empty w := by
  generalize hm : crashes.foldl (interrupted cfg) (blankMedia (if ones then 0xff else 0x00)) = m
    at hstart
  have himage : StartImage cfg m := hm ▸ startImage_crashes (.blank _) crashes
  have hprovisioned := (triple_init himage).ok ⟨rfl, booted m faults scrap entropy⟩ hstart
  have hopen := (triple_init_outcome rfl).ok rfl hstart
  have hcall : (exec (perform cfg .init) (powerOn m faults scrap entropy)).2 = w := by
    show (exec (init cfg >>= fun _ => pure Reply.done) _).2 = w
    rw [exec_bind, hstart]
    rfl
  have hlived : Lived cfg w := ⟨m, faults, scrap, entropy, [.call .init], hcall.symm⟩
  have hsteady := openInvariant_steady.of_lived hlived hopen
  have htokens : w.db.tokens = .closed 1 1 := by
    have hsame := @sameTokens_init cfg (powerOn m faults scrap entropy) fun _ => ⟨1, 1, rfl⟩
    rw [hstart] at hsame
    exact hsame
  refine ⟨hprovisioned.represents hsteady.sound htokens, ?_, hsteady, hlived.tidy⟩
  rw [htokens]
  refine ⟨fun _ p hp => ?_, fun _ hactive => by cases hactive⟩
  rw [Tokens.live_closed] at hp
  exact hp.elim

/-- **The database refines its model.**  A range of zeros or of ones is provisioned, through any
number of starts that were cut off, and opened.  Whatever is called from then on and whatever the
device does, the run is a run of the model from a database that holds nothing. -/
theorem runs_refine_model (ones : Bool) (crashes : List Interruption) {faults : ℕ → Fault}
    {scrap : ℕ → Bytes} {entropy : ℕ → {id : ℕ // id ≠ 0}}
    (hstart : exec (init cfg) (powerOn (crashes.foldl (interrupted cfg)
      (blankMedia (if ones then 0xff else 0x00))) faults scrap entropy) = (.ok (), w))
    {calls : List Call} (hcalls : ∀ c ∈ calls, c.isLifecycle = false) :
    ∃ M, Model.empty.Run .closed (trace cfg w calls) M ∧
      Represents cfg M (afterCalls cfg w calls) := by
  obtain ⟨M, hrun, hmodelled⟩ := (modelled_started ones crashes hstart).run hcalls
  exact ⟨M, hrun, hmodelled.represents⟩

/-- Two starts on a range of ones are cut off, and then a key is committed, changed and read. -/
theorem runs_refine_model_cutOff :
    ∃ w, exec (init hostConfig) (powerOn ([cutOff, cutOff].foldl (interrupted hostConfig)
        (blankMedia (if true then 0xff else 0x00))) (fun _ => .none) cutOff.scrap cutOff.entropy) =
          (.ok (), w) ∧
      ∃ M, Model.empty.Run .closed (trace hostConfig w (commitCalls ++
          [.begin 513, .eraseKey 1025 [98], .openValue 513 [98], .commit 1025])) M ∧
        Represents hostConfig M (afterCalls hostConfig w (commitCalls ++
          [.begin 513, .eraseKey 1025 [98], .openValue 513 [98], .commit 1025])) := by
  obtain ⟨w, hstart, -⟩ := exec_init_undisturbed
    (@startImage_crashes hostConfig _ (.blank _) [cutOff, cutOff]) cutOff.scrap cutOff.entropy
  exact ⟨w, hstart, runs_refine_model true [cutOff, cutOff] hstart (by decide)⟩

end On9kvdb
