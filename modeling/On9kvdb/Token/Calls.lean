import On9kvdb.Commit.Recover
import On9kvdb.Token.Effects

/-!
# What each call does to the tokens

Every public call, with any outcome, has one of the effects of `TokenEffect` on the tokens of the
instance (`tokenEffect_perform`).  Maintenance and I/O have none; what is left is to follow each
call from its checks to the one change it makes.
-/

namespace On9kvdb

open Exceptional Generational

variable {cfg : Config} {α : Type}

/-! ## Methods without an effect -/

/-- The tokens are the same. -/
def SameTokens (w w' : World) : Prop := w'.db.tokens = w.db.tokens

instance : Std.Refl SameTokens := ⟨fun _ => rfl⟩

instance : IsTrans World SameTokens := ⟨fun _ _ _ h₁ h₂ => h₂.trans h₁⟩

lemma sameTokens_of_maintaining {x : DbM α} (h : Within Maintaining x) : Within SameTokens x :=
  fun w => by
    unfold SameTokens
    rw [(h w).db]
    rfl

lemma sameTokens_of_eq {x : DbM α} (h : Within Eq x) : Within SameTokens x := fun w => by
  rw [← h w]
  exact refl_of SameTokens w

lemma sameTokens_readStorage {decode : Db → Media → Except EspErr α} :
    Within SameTokens (readStorage decode) := Within.readStorage fun _ => rfl

lemma sameTokens_modifyDb {f : Db → Db} (h : ∀ db, (f db).tokens = db.tokens) :
    Within SameTokens (modifyDb f) := Within.modifyDb fun w => h w.db

lemma sameTokens_acquireOperationLock : Within SameTokens acquireOperationLock :=
  sameTokens_of_eq unchanged_acquireOperationLock

/-- The tokens behind a change of one reader slot. -/
lemma tokens_setReader (db : Db) (index : ℕ) (r : ValueReaderSlot) :
    ({ db with valueReaders := Function.update db.valueReaders index r } : Db).tokens =
      { db.tokens with
        readers := ⟨Function.update db.tokens.readers.used index r.used,
          Function.update db.tokens.readers.tag index r.generation⟩ } := by
  have hreaders := Slots.ext (x := ⟨_, _⟩) (y := ⟨_, _⟩)
    (Function.comp_update (fun r : ValueReaderSlot => r.used) db.valueReaders index r)
    (Function.comp_update (fun r : ValueReaderSlot => r.generation) db.valueReaders index r)
  exact congrArg (fun readers => { db.tokens with readers := readers }) hreaders

/-- The slot of a reader may change in all but its use and its generation. -/
lemma triple_tokens_setReader {t : Tokens} {index : ℕ} {r : ValueReaderSlot}
    (hused : r.used = t.readers.used index) (hgeneration : r.generation = t.readers.tag index) :
    Triple (fun w => w.db.tokens = t) (setReader index r) (fun _ w => w.db.tokens = t)
      (fun _ w => w.db.tokens = t) := by
  refine Triple.modifyDb ?_
  rintro w rfl
  dsimp only
  rw [tokens_setReader, hused, hgeneration, Function.update_eq_self, Function.update_eq_self]

lemma triple_tokens {x : DbM α} (h : Within SameTokens x) (t : Tokens) :
    Triple (fun w => w.db.tokens = t) x (fun _ w => w.db.tokens = t) (fun _ w => w.db.tokens = t) :=
  h.invariant fun _ _ hw hsame => Eq.trans hsame hw

/-- A method that keeps whatever tokens there are. -/
lemma sameTokens_of_triple {x : DbM α} (h : ∀ t : Tokens, Triple (fun w => w.db.tokens = t) x
    (fun _ w => w.db.tokens = t) (fun _ w => w.db.tokens = t)) : Within SameTokens x :=
  .of_triple fun w₀ => (h w₀.db.tokens).pre fun _ hw => by rw [hw]

/-- A method that goes on with the instance it has fetched. -/
lemma sameTokens_fetched {f : Db → DbM α} (h : ∀ db : Db, Triple (fun w => w.db.tokens = db.tokens)
    (f db) (fun _ w => w.db.tokens = db.tokens) (fun _ w => w.db.tokens = db.tokens)) :
    Within SameTokens (getDb >>= f) :=
  .of_triple fun w₀ => Triple.fetched ((h w₀.db).pre fun _ hw => by rw [hw])

/-! ## Readers -/

lemma sameTokens_fillReaderBufferUnsafe (index : ℕ) :
    Within SameTokens (fillReaderBufferUnsafe index) := by
  unfold fillReaderBufferUnsafe
  refine .of_triple fun w₀ => .bind (Q := fun w w' => w = w₀ ∧ w' = w₀)
    (Triple.get fun w hw => ⟨hw, hw⟩) fun w => .of_pure (fun _ hw => hw.1) ?_
  rintro rfl
  refine .pre (S := fun w' => w'.db.tokens = w.db.tokens) ?_ fun w' hw => by rw [hw.2]
  dsimp only
  cases (w.db.valueReaders index).externalValue with
  | none => exact .throw fun _ hw => hw
  | some reference =>
      exact .bind (triple_tokens Within.failIf _) fun _ => .bind (triple_tokens Within.failIf _)
        fun _ => .bind (Triple.onError (triple_tokens sameTokens_readStorage _) fun _ =>
          triple_tokens_setReader rfl rfl) fun _ => triple_tokens_setReader rfl rfl

lemma sameTokens_ensureBuffered (index : ℕ) : Within SameTokens (ensureBuffered index) :=
  .bind Within.getDb fun _ =>
    .ite (.ite (sameTokens_fillReaderBufferUnsafe index) .throw) .pure

lemma sameTokens_checkReaderEnd (index : ℕ) : Within SameTokens (checkReaderEnd index) :=
  .bind Within.getDb fun _ => Within.failIf

lemma sameTokens_peekValueUnsafe (index : ℕ) : Within SameTokens (peekValueUnsafe index) := by
  unfold peekValueUnsafe
  exact .bind Within.getDb fun _ => .ite (.bind (sameTokens_ensureBuffered _) fun _ =>
    .bind Within.getDb fun _ => .pure) .pure

/-- The turn of a reader behind bytes it has taken. -/
lemma sameTokens_advance (index : ℕ) (part : Db → Bytes) {rest : Db → DbM α}
    (h : ∀ db, Within SameTokens (rest db)) : Within SameTokens (do
      let db ← getDb
      setReader index ((db.valueReaders index).advance (part db))
      rest db) :=
  sameTokens_fetched fun db => .bind (triple_tokens_setReader rfl rfl) fun _ => triple_tokens (h db) _

lemma sameTokens_readValueIntoUnsafe (index wanted : ℕ) :
    Within SameTokens (readValueIntoUnsafe index wanted) := by
  have hloop : ∀ fuel wanted, Within SameTokens (readValueLoop index fuel wanted) := by
    intro fuel
    induction fuel with
    | zero => exact fun _ => .pure
    | succ fuel ih =>
        intro wanted
        unfold readValueLoop
        exact .bind Within.getDb fun _ => .ite .pure (.bind (sameTokens_ensureBuffered _) fun _ =>
          sameTokens_advance index (fun db => (db.valueReaders index).available.take wanted)
            fun _ => .bind (ih _) fun _ => .pure)
  exact .bind (hloop _ _) fun _ => .bind (sameTokens_checkReaderEnd _) fun _ => .pure

lemma sameTokens_consumeValueUnsafe (index size : ℕ) :
    Within SameTokens (consumeValueUnsafe index size) := by
  have hloop : ∀ fuel remaining, Within SameTokens (consumeLoop index fuel remaining) := by
    intro fuel
    induction fuel with
    | zero => exact fun _ => .pure
    | succ fuel ih =>
        intro remaining
        unfold consumeLoop
        exact .ite (.bind (sameTokens_ensureBuffered _) fun _ =>
          sameTokens_advance index (fun db => (db.valueReaders index).available.take remaining)
            fun _ => ih _) .pure
  unfold consumeValueUnsafe
  exact sameTokens_fetched fun db => .bind (triple_tokens Within.failIf _) fun _ => .ite
    (fun _ => triple_tokens (.bind (hloop _ _) fun _ => sameTokens_checkReaderEnd _) _)
    (fun _ => .bind (triple_tokens_setReader rfl rfl) fun _ =>
      triple_tokens (sameTokens_checkReaderEnd _) _)

lemma sameTokens_seekValueUnsafe (index offset : ℕ) :
    Within SameTokens (seekValueUnsafe index offset) := by
  unfold seekValueUnsafe
  refine sameTokens_fetched fun db => .bind (triple_tokens Within.failIf _) fun _ => ?_
  refine triple_tokens_setReader ?_ ?_
  · dsimp only
    split_ifs <;> rfl
  · dsimp only
    split_ifs <;> rfl

/-! ## Staging and writing -/

/-- The instance is replaced by what a staging of a value returns. -/
lemma sameTokens_replace {f : Db → Except EspErr Db} (h : ∀ db db', f db = .ok db' →
    db'.tokens = db.tokens) :
    Within SameTokens (do let db ← getDb; let db ← liftResult (f db); modifyDb fun _ => db) := by
  intro w
  rw [exec_bind, exec_getDb]
  dsimp only
  rw [exec_bind, exec_liftResult]
  cases hf : f w.db with
  | error e => exact refl_of SameTokens w
  | ok db => exact h w.db db hf

lemma stageValueUnsafe_tokens {db db' : Db} {raw : ℕ} {key : Bytes} {v : StoredValue}
    (h : stageValueUnsafe cfg db raw key v = .ok db') : db'.tokens = db.tokens := by
  unfold stageValueUnsafe at h
  rw [bind_eq_ok] at h
  obtain ⟨_, -, h⟩ := h
  rw [bind_eq_ok] at h
  obtain ⟨_, -, h⟩ := h
  simp only at h
  rw [bind_eq_ok] at h
  obtain ⟨_, -, h⟩ := h
  rw [bind_eq_ok] at h
  obtain ⟨_, -, h⟩ := h
  cases h
  rfl

lemma stageWriterValue_tokens {db db' : Db} (h : stageWriterValue cfg db = .ok db') :
    db'.tokens = db.tokens := by
  unfold stageWriterValue at h
  simp only at h
  split_ifs at h
  · exact stageValueUnsafe_tokens h
  · unfold stageExternalValueUnsafe at h
    rw [bind_eq_ok] at h
    obtain ⟨_, -, h⟩ := h
    rw [bind_eq_ok] at h
    obtain ⟨middle, hstage, h⟩ := h
    have htokens : middle.tokens = db.tokens := stageValueUnsafe_tokens hstage
    cases h
    exact htokens

lemma sameTokens_stageValueUnsafe (raw : ℕ) (key : Bytes) (v : StoredValue) :
    Within SameTokens (do
      let db ← getDb
      let db ← liftResult (stageValueUnsafe cfg db raw key v)
      modifyDb fun _ => db) := sameTokens_replace fun _ _ h => stageValueUnsafe_tokens h

lemma sameTokens_eraseKey (raw : ℕ) (key : Bytes) : Within SameTokens (eraseKey cfg raw key) := by
  unfold eraseKey
  exact .bind Within.failIf fun _ => .bind sameTokens_acquireOperationLock fun _ =>
    .bind Within.getDb fun _ => .bind Within.liftResult fun _ => .bind sameTokens_readStorage fun _ =>
    .bind Within.failIf fun _ => sameTokens_stageValueUnsafe raw key .tombstone

lemma sameTokens_preflightTransaction (namespaceName : Bytes) :
    Within SameTokens (preflightTransaction cfg namespaceName) :=
  .bind sameTokens_readStorage fun _ => sameTokens_modifyDb fun _ => rfl

lemma sameTokens_prepareCommit (namespaceName : Bytes) :
    Within SameTokens (prepareCommit cfg namespaceName) := by
  unfold prepareCommit
  refine .bind (.tryCatch (sameTokens_preflightTransaction _) fun e => .bind Within.getDb fun _ =>
    .ite (.bind (sameTokens_of_maintaining maintaining_flushMemtableUnsafe) fun _ =>
      sameTokens_preflightTransaction _) .throw) fun _ => ?_
  have hsync : Within SameTokens syncDirtyBanks := .bind Within.getDb fun _ =>
    .ite (.bind (sameTokens_of_maintaining maintaining_syncStorage) fun _ =>
      sameTokens_modifyDb fun _ => rfl) .pure
  exact .bind hsync fun _ => sameTokens_of_maintaining (maintaining_appendTransactionUnsafe _)

lemma sameTokens_flushValueWriterChunkUnsafe (final : Bool) :
    Within SameTokens (flushValueWriterChunkUnsafe final) := by
  unfold flushValueWriterChunkUnsafe
  refine .bind Within.getDb fun db => .bind Within.failIf fun _ => ?_
  cases encodeValueChunk db.manifest.databaseId db.valueWriter.reference.bankGeneration
      db.valueWriter.reference.firstChunkOffset db.valueWriter.expectedSize
      (db.valueWriter.writtenSize - db.valueWriter.chunkPayloadSize)
      (db.valueWriter.buffer.take db.valueWriter.chunkPayloadSize) with
  | none => exact .throw
  | some chunk =>
      exact .bind (sameTokens_of_maintaining (maintaining_writeStorage trivial)) fun _ =>
        sameTokens_modifyDb fun _ => rfl

lemma sameTokens_writeValueUnsafe (data : Bytes) : Within SameTokens (writeValueUnsafe data) := by
  have hloop : ∀ fuel data, Within SameTokens (writeValueLoop fuel data) := by
    intro fuel
    induction fuel with
    | zero => exact fun _ => .pure
    | succ fuel ih =>
        intro data
        unfold writeValueLoop flushCollectedChunk
        exact .ite (.bind Within.getDb fun _ => .bind (sameTokens_modifyDb fun _ => rfl)
          fun _ => .bind (.bind Within.getDb fun _ =>
            .ite (sameTokens_flushValueWriterChunkUnsafe _) .pure) fun _ => ih _) .pure
  unfold writeValueUnsafe
  exact .bind Within.getDb fun _ => .bind Within.failIf fun _ =>
    .ite (sameTokens_modifyDb fun _ => rfl) (hloop _ _)

/-! ## Handles -/

/-- What the check of a handle token has found. -/
lemma getHandleSlotUnsafe_eq_ok {db : Db} {raw index : ℕ} {handle : HandleSlot}
    (h : getHandleSlotUnsafe cfg db raw = .ok (index, handle)) :
    decodeHandleValue raw = some (index, handle.generation) ∧ index < cfg.limits.maxOpenHandles ∧
      handle.used = true ∧ handle = db.handles index := by
  unfold getHandleSlotUnsafe at h
  split at h
  · cases h
  · next slot generation hdecode =>
      dsimp only at h
      split_ifs at h with hchecks
      cases h
      push Not at hchecks
      obtain ⟨hindex, hused, hgeneration⟩ := hchecks
      exact ⟨by rw [hdecode, hgeneration], hindex, by simpa using hused, rfl⟩

/-- What the check of the writer token has found. -/
lemma getValueWriterUnsafe_eq_ok {db : Db} {raw : ℕ} (h : getValueWriterUnsafe db raw = .ok ()) :
    decodeHandleValue raw = some (0, db.valueWriter.generation) ∧ db.valueWriter.active = true := by
  unfold getValueWriterUnsafe at h
  split at h
  · cases h
  · next slot generation hdecode =>
      split_ifs at h with hchecks
      push Not at hchecks
      obtain ⟨hindex, hactive, hgeneration⟩ := hchecks
      exact ⟨by rw [hdecode, hindex, hgeneration], by simpa using hactive⟩

/-- A check that a method makes on the instance it has fetched. -/
lemma triple_found {β : Type} {w₀ : World} {x : Except EspErr β} {f : β → DbM α}
    {Q : α → World → Prop} (h : ∀ b, x = .ok b → Triple (· = w₀) (f b) Q (fun _ => SameTokens w₀)) :
    Triple (· = w₀) (liftResult x >>= f) Q (fun _ => SameTokens w₀) :=
  .bind (Q := fun b w => w = w₀ ∧ x = .ok b) (Triple.liftResult (fun _ _ hw hx => ⟨hw, hx⟩)
    fun _ _ hw _ => hw ▸ refl_of SameTokens w₀) fun b => .of_pure (fun _ hw => hw.2) fun hx =>
      (h b hx).pre fun _ hw => hw.1

/-- A condition a method refuses. -/
lemma triple_passed {s : World} {condition : Prop} [Decidable condition] {error : EspErr}
    {f : Unit → DbM α} {Q : α → World → Prop}
    (h : ¬ condition → Triple (· = s) (f ()) Q (fun _ => SameTokens s)) :
    Triple (· = s) (failIf condition error >>= f) Q (fun _ => SameTokens s) :=
  .bind (Triple.check fun _ hw => hw ▸ refl_of SameTokens s) fun _ =>
    .of_pure (fun _ hw => hw.2) fun hc => (h hc).pre fun _ hw => hw.1

/-- A method behind the lock, with the instance it fetches there. -/
lemma triple_locked {w₀ : World} {f : Db → DbM α} {Q : α → World → Prop}
    (h : Triple (· = w₀) (f w₀.db) Q (fun _ => SameTokens w₀)) :
    Triple (· = w₀) (do acquireOperationLock; let db ← getDb; f db) Q (fun _ => SameTokens w₀) :=
  .bind (unchanged_acquireOperationLock.unchanged w₀) fun _ => Triple.fetched h

/-- The one change a method makes. -/
lemma triple_change {w₀ : World} {f : Db → Db} {Q : Unit → World → Prop} {E : EspErr → World → Prop}
    (h : Q () { w₀ with db := f w₀.db }) : Triple (· = w₀) (modifyDb f) Q E :=
  Triple.modifyDb fun w hw => by rwa [hw]

lemma triple_tokens_openNamespace (w₀ : World) (name : Bytes) (mode : OpenMode) :
    Triple (· = w₀) (openNamespace cfg name mode)
      (fun raw w => ∃ index < cfg.limits.maxOpenHandles, (w₀.db.handles index).used = false ∧
        w₀.db.handleGenerationCounter ≠ 0 ∧
        raw = makeHandleValue index w₀.db.handleGenerationCounter ∧
        w.db.tokens = w₀.db.tokens.openHandle index mode name)
      (fun _ => SameTokens w₀) := by
  unfold openNamespace
  refine triple_passed fun _ => triple_locked (triple_found fun _ _ => ?_)
  cases hfind : (List.range cfg.limits.maxOpenHandles).find?
      fun index => !(w₀.db.handles index).used with
  | none => exact .throw fun w hw => hw ▸ refl_of SameTokens w₀
  | some index =>
      have hindex := List.mem_range.mp (List.mem_of_find?_eq_some hfind)
      have hfree : (w₀.db.handles index).used = false := by simpa using List.find?_some hfind
      exact triple_passed fun hcounter => .bind (Q := fun _ w =>
        w.db.tokens = w₀.db.tokens.openHandle index mode name) (triple_change rfl) fun _ =>
          .pure fun w hw => ⟨index, hindex, hfree, hcounter, rfl, hw⟩

lemma triple_tokens_closeHandle (w₀ : World) (raw : ℕ) :
    Triple (· = w₀) (closeHandle cfg raw)
      (fun _ w => ∃ index, decodeHandleValue raw = some (index, (w₀.db.handles index).generation) ∧
        (w₀.db.handles index).transactionActive = false ∧
        w.db.tokens = w₀.db.tokens.closeHandle index)
      (fun _ => SameTokens w₀) := by
  unfold closeHandle
  refine triple_locked (triple_found fun found hfound => triple_passed fun hmark =>
    triple_change ?_)
  obtain ⟨index, handle⟩ := found
  obtain ⟨hdecode, -, -, rfl⟩ := getHandleSlotUnsafe_eq_ok hfound
  exact ⟨index, hdecode, Bool.eq_false_of_not_eq_true hmark, rfl⟩

lemma triple_tokens_beginTransaction (w₀ : World) (raw : ℕ) :
    Triple (· = w₀) (beginTransaction cfg raw)
      (fun token w => ∃ index < cfg.limits.maxOpenHandles, (w₀.db.handles index).used = true ∧
        w₀.db.transaction.active = false ∧ w₀.db.transactionGenerationCounter ≠ 0 ∧
        token = makeHandleValue 0 w₀.db.transactionGenerationCounter ∧
        w.db.tokens = w₀.db.tokens.begin index)
      (fun _ => SameTokens w₀) := by
  unfold beginTransaction
  refine triple_locked (triple_found fun found hfound => triple_passed fun _ =>
    triple_passed fun hidle => triple_passed fun hcounter => ?_)
  obtain ⟨index, handle⟩ := found
  obtain ⟨-, hindex, hused, rfl⟩ := getHandleSlotUnsafe_eq_ok hfound
  push Not at hidle
  refine .bind (Q := fun _ w => w.db.tokens = w₀.db.tokens.begin index) (triple_change rfl) fun _ =>
    .pure fun w hw => ⟨index, hindex, hused, by simpa using hidle.1, hcounter, rfl, hw⟩

/-! ## Ending a transaction -/

/-- For a transaction that belongs to a handle, the guards of `clear_transaction_unsafe` hold. -/
lemma tokens_clearTransactionUnsafe {db : Db} (h : db.tokens.Linked cfg)
    (hactive : db.transaction.active = true) :
    (clearTransactionUnsafe cfg db).tokens = db.tokens.clearTransaction := by
  obtain ⟨hindex, hused, hgeneration⟩ := h.owner hactive
  unfold clearTransactionUnsafe
  dsimp only
  rw [if_pos ⟨hactive, hindex, hused, hgeneration⟩]
  rfl

/-- The commit or abort of the transaction has ended it. -/
def EndsTransaction (w₀ : World) (raw : ℕ) (w : World) : Prop :=
  w₀.db.transaction.active = true ∧
    decodeHandleValue raw = some (0, w₀.db.transaction.generation) ∧
    w.db.tokens = w₀.db.tokens.clearTransaction

lemma triple_tokens_abort {w₀ : World} (h : w₀.db.tokens.Linked cfg) (raw : ℕ) :
    Triple (· = w₀) (abort cfg raw) (fun _ => EndsTransaction w₀ raw) (fun _ => SameTokens w₀) := by
  unfold abort
  refine triple_locked (triple_found fun handle hfound => triple_passed fun _ => triple_change ?_)
  obtain ⟨hactive, hdecode⟩ := getTransactionUnsafe_eq_ok hfound
  exact ⟨hactive, hdecode, tokens_clearTransactionUnsafe h hactive⟩

/-- **A commit ends the transaction or leaves it**: behind the log record it cannot fail. -/
lemma triple_tokens_commit {w₀ : World} (hsound : Sound cfg w₀.db) (h : w₀.db.tokens.Linked cfg)
    (raw : ℕ) :
    Triple (· = w₀) (commit cfg raw) (fun _ => EndsTransaction w₀ raw)
      (fun _ => SameTokens w₀) := by
  unfold commit
  refine triple_locked (triple_found fun handle hfound => triple_passed fun hwriter => ?_)
  obtain ⟨hactive, hdecode⟩ := getTransactionUnsafe_eq_ok hfound
  have hidle := hsound.no_writer hfound (Bool.eq_false_of_not_eq_true hwriter)
  refine .ite (fun _ => triple_change ⟨hactive, hdecode, tokens_clearTransactionUnsafe h hactive⟩)
    fun _ => ?_
  rw [commitMutations_eq]
  have hprepare := (@triple_prepareCommit cfg handle.namespaceName).both
    (triple_tokens (@sameTokens_prepareCommit cfg handle.namespaceName) w₀.db.tokens)
  refine .bind (hprepare.conseq (fun w hw => by rw [hw]; exact ⟨⟨hsound, hidle⟩, rfl⟩)
    (fun _ _ hw => hw) fun _ _ hw => hw.2) fun _ => ?_
  refine Triple.onError (F := fun _ _ => False) (fun w hw => ?_) fun _ _ hw => hw.elim
  obtain ⟨hprepared, htokens⟩ := hw
  obtain ⟨index, namespaces, db', happlicable, happlied⟩ := hprepared.applicable
  rw [exec_publishTransaction happlicable]
  have hsame : ({ db' with nextTransactionSequence := db'.nextTransactionSequence + 1 } : Db).tokens =
      w₀.db.tokens := by
    rw [← htokens, happlied.frame]
    rfl
  refine ⟨hactive, hdecode, ?_⟩
  rw [← hsame]
  refine tokens_clearTransactionUnsafe (by rw [hsame]; exact h) ?_
  exact (congrArg (fun t : Tokens => t.transaction.active) hsame).trans hactive

/-! ## The writer -/

lemma sameTokens_makeValueRoom (valueSize : ℕ) : Within SameTokens (makeValueRoom cfg valueSize) := by
  unfold makeValueRoom
  exact .bind Within.getDb fun _ => .ite (.bind (sameTokens_of_maintaining
    maintaining_compactTablesUnsafe) fun _ => .bind Within.getDb fun _ => Within.failIf) .pure

/-- The tokens behind a change of the writer slot. -/
lemma tokens_openWriter {db : Db} {writer : ValueWriterSlot} (hactive : writer.active = true)
    (hgeneration : writer.generation = db.handleGenerationCounter) :
    ({ db with
      handleGenerationCounter := nextGeneration db.handleGenerationCounter
      valueWriter := writer } : Db).tokens = db.tokens.openWriter := by
  have hwriter : (⟨fun _ => writer.active, fun _ => writer.generation⟩ : Slots Unit) =
      db.tokens.writer.put () db.handleGenerationCounter := by
    refine Slots.ext (funext fun i => ?_) (funext fun i => ?_)
    · simp [Slots.put, hactive]
    · simp [Slots.put, hgeneration]
  exact congrArg (fun writer => { db.tokens.openWriter with writer := writer }) hwriter

lemma tokens_closeWriter {db : Db} {writer : ValueWriterSlot} (hactive : writer.active = false)
    (hgeneration : writer.generation = db.valueWriter.generation) :
    ({ db with valueWriter := writer } : Db).tokens = db.tokens.closeWriter := by
  have hwriter : (⟨fun _ => writer.active, fun _ => writer.generation⟩ : Slots Unit) =
      db.tokens.writer.retire () := by
    refine Slots.ext (funext fun i => ?_) (funext fun i => ?_)
    · simp [Slots.retire, hactive]
    · exact hgeneration
  exact congrArg (fun writer => { db.tokens with writer := writer }) hwriter

lemma triple_tokens_resetWriter (t : Tokens) {E : EspErr → World → Prop} :
    Triple (fun w => w.db.tokens = t) resetWriter (fun _ w => w.db.tokens = t.closeWriter) E := by
  unfold resetWriter modifyWriter
  refine Triple.modifyDb ?_
  rintro w rfl
  exact tokens_closeWriter rfl rfl

/-- An unused writer slot is as good as given back. -/
lemma Tokens.closeWriter_of_unused {t : Tokens} (h : t.writer.used () = false) :
    t.closeWriter = t := by
  have hwriter : t.writer.retire () = t.writer := by
    refine Slots.ext (funext fun i => ?_) rfl
    simp [Slots.retire, h]
  exact congrArg (fun writer => { t with writer := writer }) hwriter

lemma Tokens.closeWriter_idem (t : Tokens) : t.closeWriter.closeWriter = t.closeWriter :=
  Tokens.closeWriter_of_unused (by simp [Tokens.closeWriter, Slots.retire])

lemma triple_tokens_beginValueWriteUnsafe (w₀ : World) (raw : ℕ) (key : Bytes) (valueSize : ℕ) :
    Triple (· = w₀) (beginValueWriteUnsafe cfg raw key valueSize)
      (fun token w => w₀.db.valueWriter.active = false ∧ w₀.db.handleGenerationCounter ≠ 0 ∧
        token = makeHandleValue 0 w₀.db.handleGenerationCounter ∧
        w.db.tokens = w₀.db.tokens.openWriter)
      (fun _ => SameTokens w₀) := by
  unfold beginValueWriteUnsafe
  refine triple_passed fun _ => Triple.fetched (triple_found fun _ _ => triple_passed fun hidle => ?_)
  push Not at hidle
  obtain ⟨hidle, hcounter, -⟩ := hidle
  refine .bind ((triple_tokens (@sameTokens_makeValueRoom cfg valueSize) w₀.db.tokens).conseq
    (fun w hw => by rw [hw]) (fun _ _ hw => hw) fun _ _ hw => hw) fun _ =>
    .bind Triple.fetch fun db => ?_
  refine .bind (Q := fun _ w => w.db.tokens = w₀.db.tokens.openWriter ∧
    db.handleGenerationCounter = w₀.db.handleGenerationCounter) (Triple.modifyDb ?_) fun _ =>
    .pure fun w hw => ⟨by simpa using hidle, hcounter, by rw [hw.2], hw.1⟩
  rintro w ⟨htokens, rfl⟩
  refine ⟨?_, congrArg Tokens.handleCounter htokens⟩
  dsimp only
  rw [← htokens]
  refine tokens_openWriter ?_ ?_
  · split_ifs <;> rfl
  · split_ifs <;> rfl

/-- The handle of an active transaction is in order. -/
lemma getTransactionUnsafe_error {db : Db} (h : db.tokens.Linked cfg) {raw : ℕ} {e : EspErr}
    (herror : getTransactionUnsafe cfg db raw = .error e) : e = .invalidArg := by
  unfold getTransactionUnsafe at herror
  split at herror
  · cases herror
    rfl
  · dsimp only at herror
    split_ifs at herror with hchecks hindex hhandle
    · cases herror
      rfl
    · push Not at hchecks
      have hactive : db.transaction.active = true := by simpa using hchecks.2.1
      exact absurd (h.owner hactive).1 (not_lt.mpr hindex)
    · push Not at hchecks
      have hactive : db.transaction.active = true := by simpa using hchecks.2.1
      obtain ⟨-, hused, hgeneration⟩ := h.owner hactive
      have hmarked := (h.marked _).mpr ⟨hactive, rfl⟩
      rcases hhandle with hunused | hother | hunmarked
      · exact absurd (hused.symm.trans hunused) (by decide)
      · exact absurd hgeneration hother
      · exact absurd (hmarked.symm.trans hunmarked) (by decide)

/-- A refused staging is not taken for a writer that is not finished. -/
lemma stageValueUnsafe_error {db : Db} (h : db.tokens.Linked cfg) {raw : ℕ} {key : Bytes}
    {v : StoredValue} {e : EspErr} (herror : stageValueUnsafe cfg db raw key v = .error e) :
    e ≠ .invalidState := by
  unfold stageValueUnsafe at herror
  simp only [bind_eq_error, rejectIf_eq_error] at herror
  rcases herror with ⟨-, rfl⟩ | ⟨_, -, herror | ⟨_, -, ⟨-, rfl⟩ | ⟨_, -, ⟨-, rfl⟩ | ⟨_, -, herror⟩⟩⟩⟩
  · decide
  · rw [getTransactionUnsafe_error h herror]
    decide
  · decide
  · decide
  · cases herror

lemma stageWriterValue_error {db : Db} (h : db.tokens.Linked cfg) {e : EspErr}
    (herror : stageWriterValue cfg db = .error e) : e ≠ .invalidState := by
  unfold stageWriterValue at herror
  dsimp only at herror
  split_ifs at herror
  · exact stageValueUnsafe_error h herror
  · unfold stageExternalValueUnsafe at herror
    simp only [bind_eq_error, rejectIf_eq_error] at herror
    rcases herror with ⟨-, rfl⟩ | ⟨_, -, herror | ⟨_, -, herror⟩⟩
    · decide
    · exact stageValueUnsafe_error h herror
    · cases herror

/-- **Finishing gives the writer back**, unless it is refused. -/
lemma triple_tokens_finishValueWriteUnsafe {w₀ : World} (h : w₀.db.tokens.Linked cfg) :
    Triple (· = w₀) (finishValueWriteUnsafe cfg)
      (fun _ w => w.db.tokens = w₀.db.tokens.closeWriter)
      (fun e w => if e = .invalidState then SameTokens w₀ w
        else w.db.tokens = w₀.db.tokens.closeWriter) := by
  unfold finishValueWriteUnsafe
  refine Triple.fetched (.bind (Triple.failIf (Q := fun _ w => w = w₀) (fun _ hw _ => hw)
    fun w hw _ => ?_) fun _ => ?_)
  · rw [if_pos rfl, hw]
    exact refl_of SameTokens w₀
  have hreset := @triple_tokens_resetWriter w₀.db.tokens
  refine .bind (Triple.onError (F := fun e w => w = w₀ ∧ e ≠ .invalidState)
    (.bind (Q := fun db w => w = w₀ ∧ stageWriterValue cfg w₀.db = .ok db)
      (Triple.liftResult (fun _ _ hw hf => ⟨hw, hf⟩)
        fun _ _ hw hf => ⟨hw, stageWriterValue_error h hf⟩) fun db =>
      Triple.modifyDb (Q := fun _ w => w.db.tokens = w₀.db.tokens) ?_) fun e => ?_) fun _ =>
    hreset
  · rintro w ⟨rfl, hstage⟩
    have htokens : db.tokens = w.db.tokens := stageWriterValue_tokens hstage
    dsimp only
    split_ifs
    · exact htokens
    · exact htokens
  · refine .of_pure (fun _ hw => hw.2) fun he => ?_
    simp only [if_neg he]
    exact (hreset (E := fun _ _ => False)).conseq (fun w hw => by rw [hw.1]) (fun _ _ hw => hw)
      fun _ _ hw => hw.elim

/-- A method on the open writer, behind the check of its token. -/
lemma triple_withWriter {w₀ : World} {raw : ℕ} {x : DbM Unit} {Q : Unit → World → Prop}
    {E : EspErr → World → Prop} (hE : E .invalidState w₀)
    (hE' : w₀.db.valueWriter.active = false ∨
      decodeHandleValue raw ≠ some (0, w₀.db.valueWriter.generation) → E .invalidArg w₀)
    (h : decodeHandleValue raw = some (0, w₀.db.valueWriter.generation) →
      w₀.db.valueWriter.active = true → Triple (· = w₀) x Q E) :
    Triple (· = w₀) (withWriter raw x) Q E := by
  unfold withWriter acquireOperationLock
  refine .bind (Q := fun _ w => w = w₀) (Triple.fetched (Triple.failIf (fun _ hw _ => hw)
    fun w hw _ => hw ▸ hE)) fun _ => Triple.fetched (.bind (Q := fun _ w => w = w₀ ∧
      getValueWriterUnsafe w₀.db raw = .ok ()) (Triple.liftResult (fun _ _ hw hf => ⟨hw, hf⟩)
        fun w e hw hf => ?_) fun _ => .of_pure (fun _ hw => hw.2) fun hfound => ?_)
  · have he : e = .invalidArg := by
      unfold getValueWriterUnsafe at hf
      split at hf
      · cases hf
        rfl
      · split_ifs at hf
        cases hf
        rfl
    rw [hw, he]
    refine hE' ?_
    by_contra hopen
    push Not at hopen
    obtain ⟨hactive, hdecode⟩ := hopen
    have hok : getValueWriterUnsafe w₀.db raw = .ok () := by
      unfold getValueWriterUnsafe
      rw [hdecode]
      simp [hactive]
    rw [hok] at hf
    cases hf
  · obtain ⟨hdecode, hactive⟩ := getValueWriterUnsafe_eq_ok hfound
    exact (h hdecode hactive).pre fun _ hw => hw.1

/-! ## `set` -/

/-- An instance that takes no calls. -/
def Db.blocked (db : Db) : Bool := !db.initialized || db.storageFaulted

lemma exec_acquireOperationLock_blocked {w : World} (h : w.db.blocked = true) :
    exec acquireOperationLock w = (.error .invalidState, w) := by
  unfold acquireOperationLock
  rw [exec_bind, exec_getDb]
  dsimp only
  rw [exec_failIf, if_pos]
  simpa [Db.blocked] using h

lemma exec_acquireOperationLock_open {w : World} (h : w.db.blocked = false) :
    exec acquireOperationLock w = (.ok (), w) := by
  unfold acquireOperationLock
  rw [exec_bind, exec_getDb]
  dsimp only
  rw [exec_failIf, if_neg]
  simpa [Db.blocked] using h

/-- What taking the writer for one value leaves: the writer is not in use. -/
def TookWriter (t t' : Tokens) : Prop :=
  ∃ middle, (middle = t ∨ t.handleCounter ≠ 0 ∧ middle = t.openWriter) ∧ t' = middle.closeWriter

/-- **A `set` of an external value takes the writer and leaves it unused**, also when the writer
was in use before. -/
lemma triple_tokens_setExternal {w₀ : World} (h : w₀.db.tokens.Linked cfg) (raw : ℕ)
    (key value : Bytes) :
    Triple (· = w₀) (setExternal cfg raw key value)
      (fun _ w => TookWriter w₀.db.tokens w.db.tokens)
      (fun _ w => TookWriter w₀.db.tokens w.db.tokens) := by
  have hundo : ∀ t : Tokens, Triple (fun w => w.db.tokens = t)
      (do let db ← getDb; if db.valueWriter.active then resetWriter)
      (fun _ w => w.db.tokens = t.closeWriter) (fun _ w => w.db.tokens = t.closeWriter) := fun t =>
    .bind Triple.fetch fun db => .ite
      (fun _ => (triple_tokens_resetWriter t).pre fun _ hw => hw.1)
      fun hactive => .pure fun w hw => by
        obtain ⟨rfl, rfl⟩ := hw
        exact (Tokens.closeWriter_of_unused (Bool.eq_false_of_not_eq_true hactive)).symm
  unfold setExternal
  refine Triple.onError (F := fun _ w => TookWriter w₀.db.tokens w.db.tokens.closeWriter) ?_
    fun _ => .of_state fun w hw => ((hundo w.db.tokens).pre fun _ hw => by rw [hw]).conseq
      (fun _ h => h) (fun _ w' hw' => by rw [hw']; exact hw) fun _ w' hw' => by rw [hw']; exact hw
  refine .bind ((triple_tokens_beginValueWriteUnsafe w₀ raw key value.length).conseq (fun _ hw => hw)
    (fun _ w hw => (⟨hw.2.1, hw.2.2.2⟩ : w₀.db.handleGenerationCounter ≠ 0 ∧
      w.db.tokens = w₀.db.tokens.openWriter)) fun _ w hw => ?_) fun _ =>
    .of_pure (fun _ hw => hw.1) fun hcounter => ?_
  · rw [show w.db.tokens = w₀.db.tokens from hw]
    exact ⟨_, .inl rfl, rfl⟩
  have hopened : TookWriter w₀.db.tokens w₀.db.tokens.openWriter.closeWriter :=
    ⟨_, .inr ⟨hcounter, rfl⟩, rfl⟩
  refine .bind (Q := fun _ w => w.db.tokens = w₀.db.tokens.openWriter)
    ((triple_tokens (sameTokens_writeValueUnsafe value) w₀.db.tokens.openWriter).conseq
      (fun _ hw => hw.2) (fun _ _ hw => hw) fun _ w hw => by rw [hw]; exact hopened) fun _ =>
    .of_state fun w hw => ?_
  have hlinked : w.db.tokens.Linked cfg := by
    rw [hw]
    exact ⟨h.marked, h.owner⟩
  refine (triple_tokens_finishValueWriteUnsafe hlinked).conseq (fun _ h => h)
    (fun _ w' hw' => by rw [hw', hw]; exact hopened) fun e w' hw' => ?_
  split_ifs at hw' with he
  · rw [show w'.db.tokens = w.db.tokens from hw', hw]
    exact hopened
  · rw [hw', hw, Tokens.closeWriter_idem]
    exact hopened

lemma triple_tokens_set {w₀ : World} (h : w₀.db.tokens.Linked cfg) (raw : ℕ) (key value : Bytes) :
    Triple (· = w₀) (set cfg raw key value)
      (fun _ w => TokenEffect cfg w₀.db.tokens ⟨.set raw key value, w₀.db.blocked, .ok .done⟩
        w.db.tokens)
      (fun e w => TokenEffect cfg w₀.db.tokens ⟨.set raw key value, w₀.db.blocked, .error e⟩
        w.db.tokens) := by
  have hquiet : ∀ {outcome w}, (w₀.db.blocked = true ∨ validateBytes key = false ∨
      maxValueLen < value.length ∨ value.length ≤ cfg.inlineValueLen) → SameTokens w₀ w →
      TokenEffect cfg w₀.db.tokens ⟨.set raw key value, w₀.db.blocked, outcome⟩ w.db.tokens :=
    fun hquiet hw => by
      rw [show _ = _ from hw]
      exact .same (Event.quiet_set.mpr hquiet)
  unfold set
  refine .bind (Q := fun _ w => w = w₀ ∧ ¬ (validateBytes key = false ∨ maxValueLen < value.length))
    (Triple.failIf (fun _ hw hvalid => ⟨hw, hvalid⟩) fun w hw hinvalid => hquiet ?_
      (hw ▸ refl_of SameTokens w₀)) fun _ => .of_pure (fun _ hw => hw.2) fun hvalid => ?_
  · rcases hinvalid with hkey | hlength
    · exact .inr (.inl hkey)
    · exact .inr (.inr (.inl hlength))
  cases hblocked : w₀.db.blocked with
  | true =>
      rintro w ⟨rfl, -⟩
      rw [exec_bind, exec_acquireOperationLock_blocked hblocked]
      exact .same rfl
  | false =>
      rw [hblocked] at hquiet
      refine .bind (Q := fun _ w => w = w₀) ?_ fun _ => .ite (fun hinline => ?_) fun hexternal => ?_
      · rintro w ⟨rfl, -⟩
        rw [exec_acquireOperationLock_open hblocked]
      · exact (sameTokens_stageValueUnsafe raw key (.inline value)).triple
          (fun _ _ _ hw hsame => hquiet (.inr (.inr (.inr hinline))) (hw ▸ hsame))
          fun _ _ _ hw hsame => hquiet (.inr (.inr (.inr hinline))) (hw ▸ hsame)
      · have hloud : ∀ outcome, Event.quiet cfg ⟨.set raw key value, false, outcome⟩ = false :=
          fun outcome => Bool.eq_false_of_not_eq_true fun htrue => by
            rcases Event.quiet_set.mp htrue with hfalse | hkey | hlength | hinline
            · cases hfalse
            · exact hvalid (.inl hkey)
            · exact hvalid (.inr hlength)
            · exact hexternal hinline
        have heffect : ∀ {outcome} {w : World}, TookWriter w₀.db.tokens w.db.tokens →
            TokenEffect cfg w₀.db.tokens ⟨.set raw key value, false, outcome⟩ w.db.tokens := by
          rintro outcome w ⟨middle, hmiddle, hw⟩
          rw [hw]
          exact .usedWriter (hloud outcome) hmiddle
        exact (triple_tokens_setExternal h raw key value).conseq (fun _ hw => hw)
          (fun _ _ hw => heffect hw) fun _ _ hw => heffect hw

/-! ## Readers that are opened and closed -/

lemma triple_tokens_openValue (w₀ : World) (raw : ℕ) (key : Bytes) :
    Triple (· = w₀) (openValue cfg raw key)
      (fun token w => ∃ index < cfg.maxValueReaders, (w₀.db.valueReaders index).used = false ∧
        w₀.db.handleGenerationCounter ≠ 0 ∧
        token = makeHandleValue index w₀.db.handleGenerationCounter ∧
        w.db.tokens = w₀.db.tokens.openReader index)
      (fun _ => SameTokens w₀) := by
  unfold openValue openValueUnsafe
  refine triple_passed fun _ => triple_locked (triple_found fun _ _ => ?_)
  refine .bind (Q := fun _ w => w.db = w₀.db) ?_ fun view => .of_state fun w hw => ?_
  · exact (Within.readStorage (R := fun w w' => w'.db = w.db) fun _ => rfl).triple
      (fun _ _ _ hw hdb => hdb.trans (by rw [hw]))
      fun _ _ _ hw hdb => congrArg Db.tokens (hdb.trans (by rw [hw]))
  rw [← hw]
  have hsame : SameTokens w₀ w := congrArg Db.tokens hw
  refine (triple_passed (s := w) (Q := fun token w' => ∃ index < cfg.maxValueReaders,
    (w.db.valueReaders index).used = false ∧ w.db.handleGenerationCounter ≠ 0 ∧
    token = makeHandleValue index w.db.handleGenerationCounter ∧
    w'.db.tokens = w.db.tokens.openReader index) fun _ => Triple.fetched (triple_passed fun _ =>
      triple_passed fun hcounter => ?_)).conseq (fun _ h => h) (fun _ _ h => h)
    fun _ _ h => trans_of SameTokens hsame h
  cases hfind : (List.range cfg.maxValueReaders).find? fun index => !(w.db.valueReaders index).used with
  | none => exact .throw fun w' hw' => hw' ▸ refl_of SameTokens w
  | some index =>
      have hindex := List.mem_range.mp (List.mem_of_find?_eq_some hfind)
      have hfree : (w.db.valueReaders index).used = false := by simpa using List.find?_some hfind
      refine .bind (Q := fun _ w' => w' = { w with db := { w.db with
        handleGenerationCounter := nextGeneration w.db.handleGenerationCounter } })
        (triple_change rfl) fun _ => .bind (Q := fun _ w' =>
          w'.db.tokens = w.db.tokens.openReader index) (Triple.modifyDb ?_) fun _ =>
          .pure fun w' hw' => ⟨index, hindex, hfree, hcounter, rfl, hw'⟩
      rintro w' rfl
      exact tokens_setReader { w.db with
        handleGenerationCounter := nextGeneration w.db.handleGenerationCounter } index
        (newReader w.db.handleGenerationCounter view)

lemma triple_tokens_closeReader (w₀ : World) (raw : ℕ) :
    Triple (· = w₀) (withReader cfg raw fun i => do
        let r := (← getDb).valueReaders i
        setReader i { generation := r.generation })
      (fun _ w => ∃ index, decodeHandleValue raw = some (index, w₀.db.tokens.readers.tag index) ∧
        w.db.tokens = w₀.db.tokens.closeReader index)
      (fun _ => SameTokens w₀) := by
  unfold withReader
  refine triple_locked (triple_found fun index hfound => Triple.fetched (triple_change ?_))
  refine ⟨index, (getValueReaderUnsafe_eq_ok hfound).1, ?_⟩
  dsimp only
  rw [tokens_setReader]
  have htag : Function.update w₀.db.tokens.readers.tag index (w₀.db.valueReaders index).generation =
      w₀.db.tokens.readers.tag := Function.update_eq_self ..
  rw [htag]
  rfl

lemma sameTokens_withReader (raw : ℕ) {x : ℕ → DbM α} (h : ∀ i, Within SameTokens (x i)) :
    Within SameTokens (withReader cfg raw x) := by
  unfold withReader
  exact .bind sameTokens_acquireOperationLock fun _ => .bind Within.getDb fun _ =>
    .bind Within.liftResult fun i => h i

/-! ## Opening and closing the instance -/

/-- A start uses no tokens. -/
lemma sameTokens_init_storage : Within SameTokens (do initialiseStorage cfg; recoverWal cfg) := by
  have hinitialise : Within SameTokens (initialiseStorage cfg) := fun w => by
    unfold SameTokens
    rw [show _ = _ from starting_initialiseStorage w]
    rfl
  have htables : Within SameTokens (recoverTablesUnsafe cfg) := fun w => by
    unfold SameTokens
    rw [(within_recoverTablesUnsafe w).db]
    rfl
  have hstabilize : Within SameTokens stabilizeManifestUnsafe := fun w => by
    unfold SameTokens
    rw [show _ = _ from starting_stabilizeManifestUnsafe w]
    rfl
  have hreplay : Within SameTokens (do
      let db ← readStorage (replayWal cfg)
      modifyDb fun _ => db) := by
    refine sameTokens_of_triple fun t => .bind (Q := fun db _ => db.tokens = t)
      (Triple.readStorage (fun w db hw hread => ?_) fun _ _ hw => hw) fun db =>
        Triple.modifyDb fun _ hw => hw
    rw [(replayWal_replayed hread).frame]
    exact hw
  unfold recoverWal
  refine .bind hinitialise fun _ => .bind Within.getDb fun _ => .bind Within.failIf fun _ =>
    .bind (sameTokens_modifyDb fun _ => rfl) fun _ => .bind htables fun _ => ?_
  have hrest := hreplay.bind fun _ => hstabilize
  simpa only [bind_assoc] using hrest

lemma tokens_closed (db : Db) :
    (Db.closed db.handleGenerationCounter db.transactionGenerationCounter).tokens =
      .closed db.tokens.handleCounter db.tokens.transactionCounter := rfl

lemma sameTokens_init {w₀ : World} (h : ClosedUnlessOpen w₀.db) :
    SameTokens w₀ (exec (init cfg) w₀).2 := by
  cases hopen : w₀.db.initialized with
  | true =>
      rw [init_open hopen]
      exact refl_of SameTokens w₀
  | false =>
      obtain ⟨a, b, hclosed⟩ := h hopen
      refine Triple.final (P := (· = w₀)) (F := SameTokens w₀) ?_ rfl
      have hpart := (triple_tokens (@sameTokens_init_storage cfg) w₀.db.tokens).pre
        (P := (· = w₀)) fun w hw => by rw [hw]
      have hclose : ∀ e : EspErr, Triple (fun w => w.db.tokens = w₀.db.tokens) closeStorageUnsafe
          (fun _ => SameTokens w₀) (fun _ => SameTokens w₀) := fun _ => Triple.modifyDb fun w hw => by
        show (Db.closed _ _).tokens = _
        rw [tokens_closed, hw, hclosed]
        rfl
      unfold init
      exact Triple.fetched (.bind (Within.failIf.unchanged w₀) fun _ =>
        .bind (Triple.onError hpart hclose) fun _ => Triple.modifyDb fun _ hw => hw)

lemma triple_tokens_deinit {w₀ : World} (h : ClosedUnlessOpen w₀.db) (force : Bool) :
    Triple (· = w₀) (deinit cfg force)
      (fun _ w => w.db.tokens =
        .closed w₀.db.tokens.handleCounter w₀.db.tokens.transactionCounter)
      (fun _ => SameTokens w₀) := by
  unfold deinit
  refine Triple.fetched (.ite (fun _ => triple_passed fun _ => triple_change rfl) fun hopen =>
    .pure ?_)
  rintro w rfl
  obtain ⟨a, b, hclosed⟩ := h (Bool.eq_false_of_not_eq_true hopen)
  rw [hclosed]
  rfl

/-! ## All calls -/

variable (cfg) in
/-- What a call on this instance is recorded as. -/
def Event.of (w : World) (c : Call) : Event := ⟨c, w.db.blocked, (exec (perform cfg c) w).1⟩

/-- What the effect of a call depends on. -/
structure TokenSound (cfg : Config) (w : World) : Prop where
  closed : ClosedUnlessOpen w.db
  sound : w.db.initialized = true → Sound cfg w.db
  linked : w.db.tokens.Linked cfg

lemma triple_map {β : Type} {P : World → Prop} {Q : β → World → Prop} {E : EspErr → World → Prop}
    {x : DbM α} (f : α → β) (h : Triple P x (fun a => Q (f a)) E) : Triple P (f <$> x) Q E := by
  rw [map_eq_pure_bind]
  exact .bind h fun _ => .pure fun _ hw => hw

lemma triple_done {P : World → Prop} {Q : Reply → World → Prop} {E : EspErr → World → Prop}
    {x : DbM Unit} (h : Triple P x (fun _ => Q .done) E) :
    Triple P (do x; return Reply.done) Q E :=
  .bind h fun _ => .pure fun _ hw => hw

/-- **Every call has one of the effects.** -/
theorem tokenEffect_perform {w : World} (h : TokenSound cfg w) (c : Call) :
    TokenEffect cfg w.db.tokens (Event.of cfg w c) (exec (perform cfg c) w).2.db.tokens := by
  have hsame : ∀ {e : Event} {w' : World}, e.quiet cfg = true → SameTokens w w' →
      TokenEffect cfg w.db.tokens e w'.db.tokens := fun hquiet hw => by
    rw [show _ = _ from hw]
    exact .same hquiet
  suffices hcall : Triple (· = w) (perform cfg c)
      (fun reply w' => TokenEffect cfg w.db.tokens ⟨c, w.db.blocked, .ok reply⟩ w'.db.tokens)
      (fun e w' => TokenEffect cfg w.db.tokens ⟨c, w.db.blocked, .error e⟩ w'.db.tokens) by
    have hrun := hcall w rfl
    unfold Event.of
    rcases hexec : exec (perform cfg c) w with ⟨o, w'⟩
    rw [hexec] at hrun
    cases o with
    | ok reply => exact hrun
    | error e => exact hrun
  have hquietly : ∀ {β : Type} {x : DbM β} {f : β → Reply}, Within SameTokens x →
      (∀ b, Event.quiet cfg ⟨c, w.db.blocked, .ok (f b)⟩ = true) →
      (∀ e, Event.quiet cfg ⟨c, w.db.blocked, .error e⟩ = true) → Triple (· = w) x
        (fun b w' => TokenEffect cfg w.db.tokens ⟨c, w.db.blocked, .ok (f b)⟩ w'.db.tokens)
        (fun e w' => TokenEffect cfg w.db.tokens ⟨c, w.db.blocked, .error e⟩ w'.db.tokens) :=
    fun hx hok herror => hx.triple (fun _ _ b hw hstep => hsame (hok b) (hw ▸ hstep))
      fun _ _ e hw hstep => hsame (herror e) (hw ▸ hstep)
  cases c with
  | init =>
      refine triple_done (.of_exec ?_)
      rintro _ rfl
      have hinit := @sameTokens_init cfg _ h.closed
      refine ⟨fun _ w' hrun => ?_, fun e w' hrun => ?_⟩
      · rw [hrun] at hinit
        exact hsame rfl hinit
      · rw [hrun] at hinit
        exact hsame rfl hinit
  | deinit force =>
      refine triple_done ((triple_tokens_deinit h.closed force).conseq (fun _ hw => hw)
        (fun _ w' hw' => ?_) fun _ _ hw' => hsame rfl hw')
      rw [hw']
      exact .stopped
  | openNamespace name mode =>
      refine triple_map Reply.token ((triple_tokens_openNamespace w name mode).conseq
        (fun _ hw => hw) (fun raw w' hw' => ?_) fun _ _ hw' => hsame rfl hw')
      obtain ⟨index, hindex, hfree, hcounter, rfl, htokens⟩ := hw'
      rw [htokens]
      exact .openedHandle hindex hfree hcounter
  | closeHandle raw =>
      refine triple_done ((triple_tokens_closeHandle w raw).conseq (fun _ hw => hw)
        (fun _ w' hw' => ?_) fun _ _ hw' => hsame rfl hw')
      obtain ⟨index, hdecode, hunmarked, htokens⟩ := hw'
      rw [htokens]
      exact .closedHandle hdecode hunmarked
  | begin raw =>
      refine triple_map Reply.token ((triple_tokens_beginTransaction w raw).conseq
        (fun _ hw => hw) (fun token w' hw' => ?_) fun _ _ hw' => hsame rfl hw')
      obtain ⟨index, hindex, hused, hidle, hcounter, rfl, htokens⟩ := hw'
      rw [htokens]
      exact .begun hindex hused hidle hcounter
  | set raw key value => exact triple_done (triple_tokens_set h.linked raw key value)
  | eraseKey raw key =>
      exact triple_done (hquietly (f := fun _ => .done) (sameTokens_eraseKey raw key) (fun _ => rfl) fun _ => rfl)
  | beginValueWrite raw key valueSize =>
      refine .bind (unchanged_acquireOperationLock.triple (Q := fun _ w' => w' = w)
        (fun _ _ _ hw hu => hu ▸ hw) fun _ _ _ hw hu => hsame rfl
          (by rw [← hu, hw]; exact refl_of SameTokens w)) fun _ =>
        triple_map Reply.token ((triple_tokens_beginValueWriteUnsafe w raw key valueSize).conseq
          (fun _ hw => hw) (fun token w' hw' => ?_) fun _ _ hw' => hsame rfl hw')
      obtain ⟨hidle, hcounter, rfl, htokens⟩ := hw'
      rw [htokens]
      exact .openedWriter hidle hcounter
  | writeValue raw data =>
      exact triple_done (triple_withWriter (hsame rfl (refl_of SameTokens w))
        (fun _ => hsame rfl (refl_of SameTokens w)) fun _ _ =>
          hquietly (f := fun _ => .done) (sameTokens_writeValueUnsafe data) (fun _ => rfl) fun _ => rfl)
  | finishValueWrite raw =>
      refine triple_done (triple_withWriter (hsame rfl (refl_of SameTokens w))
        (fun hstale => .staleWriter hstale) fun hdecode _ =>
        (triple_tokens_finishValueWriteUnsafe h.linked).conseq (fun _ hw => hw) (fun _ w' hw' => ?_)
          fun e w' hw' => ?_)
      · rw [hw']
        exact .closedWriter (.inl rfl) rfl hdecode
      · split_ifs at hw' with he
        · rw [he]
          exact hsame rfl hw'
        · rw [hw']
          exact .closedWriter (.inl rfl) (beq_eq_false_iff_ne.mpr fun heq => he (Except.error.inj heq))
            hdecode
  | abortValueWrite raw =>
      refine triple_done (triple_withWriter (hsame rfl (refl_of SameTokens w))
        (fun _ => hsame rfl (refl_of SameTokens w)) fun hdecode _ =>
          (triple_tokens_resetWriter (E := fun _ _ => False) w.db.tokens).conseq
            (fun _ hw => by rw [hw]) (fun _ w' hw' => ?_) fun _ _ hw' => hw'.elim)
      rw [hw']
      exact .closedWriter (.inr rfl) rfl hdecode
  | commit raw =>
      cases hopen : w.db.initialized with
      | false =>
          have hblocked : w.db.blocked = true := by
            unfold Db.blocked
            rw [hopen]
            rfl
          refine triple_done (.bind (Q := fun _ _ => False) (fun w' hw' => ?_) fun _ _ hw => hw.elim)
          rw [hw', exec_acquireOperationLock_blocked hblocked]
          exact hsame rfl (refl_of SameTokens w)
      | true =>
          refine triple_done ((triple_tokens_commit (h.sound hopen) h.linked raw).conseq
            (fun _ hw => hw) (fun _ w' hw' => ?_) fun _ _ hw' => hsame rfl hw')
          obtain ⟨hactive, hdecode, htokens⟩ := hw'
          rw [htokens]
          exact .ended (.inl rfl) hactive hdecode
  | abort raw =>
      refine triple_done ((triple_tokens_abort h.linked raw).conseq
        (fun _ hw => hw) (fun _ w' hw' => ?_) fun _ _ hw' => hsame rfl hw')
      obtain ⟨hactive, hdecode, htokens⟩ := hw'
      rw [htokens]
      exact .ended (.inr rfl) hactive hdecode
  | openValue raw key =>
      refine triple_map Reply.token ((triple_tokens_openValue w raw key).conseq
        (fun _ hw => hw) (fun token w' hw' => ?_) fun _ _ hw' => hsame rfl hw')
      obtain ⟨index, hindex, hfree, hcounter, rfl, htokens⟩ := hw'
      rw [htokens]
      exact .openedReader hindex hfree hcounter
  | peekValue raw =>
      exact triple_map Reply.data (hquietly (sameTokens_withReader raw sameTokens_peekValueUnsafe)
        (fun _ => rfl) fun _ => rfl)
  | readValueInto raw size =>
      exact triple_map Reply.data (hquietly (sameTokens_withReader raw fun i =>
        sameTokens_readValueIntoUnsafe i size) (fun _ => rfl) fun _ => rfl)
  | consumeValue raw size =>
      exact triple_done (hquietly (f := fun _ => .done) (sameTokens_withReader raw fun i =>
        sameTokens_consumeValueUnsafe i size) (fun _ => rfl) fun _ => rfl)
  | seekValue raw offset =>
      exact triple_done (hquietly (f := fun _ => .done) (sameTokens_withReader raw fun i =>
        sameTokens_seekValueUnsafe i offset) (fun _ => rfl) fun _ => rfl)
  | closeReader raw =>
      refine triple_done ((triple_tokens_closeReader w raw).conseq
        (fun _ hw => hw) (fun _ w' hw' => ?_) fun _ _ hw' => hsame rfl hw')
      obtain ⟨index, hdecode, htokens⟩ := hw'
      rw [htokens]
      exact .closedReader hdecode

end On9kvdb
