import On9kvdb.Log.Replay
import On9kvdb.Store.Api
import On9kvdb.Store.Maintenance

/-!
# Calls that only work on the memory

The calls on handles and transactions, and the staging and publication of values, change members
other than the manifest and the readers (`InMemory`); the calls on a reader change its own slot
(`Turning`).  Neither issues a write.
-/

namespace On9kvdb

open Exceptional

variable {cfg : Config} {α : Type}

/-! ## The relations -/

/-- Nothing is written, and the manifest, the readers and the two flags stay. -/
structure InMemory (w w' : World) : Prop where
  initialized : w'.db.initialized = w.db.initialized
  storageFaulted : w'.db.storageFaulted = w.db.storageFaulted
  manifest : w'.db.manifest = w.db.manifest
  valueReaders : w'.db.valueReaders = w.db.valueReaders
  dev : w'.dev = { w.dev with clock := w'.dev.clock }

instance : Std.Refl InMemory := ⟨fun _ => ⟨rfl, rfl, rfl, rfl, rfl⟩⟩

instance : IsTrans World InMemory := ⟨fun _ _ _ h₁ h₂ =>
  ⟨h₂.initialized.trans h₁.initialized, h₂.storageFaulted.trans h₁.storageFaulted,
    h₂.manifest.trans h₁.manifest, h₂.valueReaders.trans h₁.valueReaders, by rw [h₂.dev, h₁.dev]⟩⟩

/-- Of the memory only this reader slot has changed, and nothing is written. -/
structure Turning (index : ℕ) (w w' : World) : Prop where
  db : w'.db = { w.db with
    valueReaders := Function.update w.db.valueReaders index (w'.db.valueReaders index) }
  dev : w'.dev = { w.dev with clock := w'.dev.clock }

instance (index : ℕ) : Std.Refl (Turning index) :=
  ⟨fun _ => ⟨by rw [Function.update_eq_self], rfl⟩⟩

instance (index : ℕ) : IsTrans World (Turning index) := ⟨fun a b c h₁ h₂ => by
  refine ⟨?_, by rw [h₂.dev, h₁.dev]⟩
  have hdb := h₂.db
  rw [h₁.db] at hdb
  simp only [Function.update_idem] at hdb
  exact hdb⟩

/-! ## Primitives -/

lemma InMemory.tick (w : World) : InMemory w { w with dev := w.dev.tick } :=
  ⟨rfl, rfl, rfl, rfl, rfl⟩

lemma inMemory_readStorage {decode : Db → Media → Except EspErr α} :
    Within InMemory (readStorage decode) := Within.readStorage InMemory.tick

lemma inMemory_modifyDb {f : Db → Db} (h : ∀ w : World, InMemory w { w with db := f w.db }) :
    Within InMemory (modifyDb f) := Within.modifyDb h

/-- A change of the transaction. -/
lemma InMemory.of_transaction {w : World} {db : Db}
    (h : db = { w.db with transaction := db.transaction }) : InMemory w { w with db := db } := by
  refine ⟨?_, ?_, ?_, ?_, rfl⟩
  · rw [h]
  · rw [h]
  · rw [h]
  · rw [h]

/-- The instance is replaced by what a computation on it returns. -/
lemma inMemory_replace {f : Db → Except EspErr Db}
    (h : ∀ (w : World) db, f w.db = .ok db → InMemory w { w with db := db }) :
    Within InMemory (do let db ← getDb; let db ← liftResult (f db); modifyDb fun _ => db) := by
  intro w
  rw [exec_bind, exec_getDb]
  dsimp only
  rw [exec_bind, exec_liftResult]
  cases hf : f w.db with
  | error e => exact refl_of InMemory w
  | ok db => exact h w db hf

/-! ## Handles and transactions -/

lemma unchanged_acquireOperationLock : Within Eq acquireOperationLock :=
  .bind Within.getDb fun _ => Within.failIf

lemma inMemory_acquireOperationLock : Within InMemory acquireOperationLock := fun w => by
  rw [← unchanged_acquireOperationLock w]
  exact refl_of InMemory w

/-- A part of a method that uses the instance it has fetched. -/
lemma Triple.fetched {w₀ : World} {f : Db → DbM α} {Q : α → World → Prop}
    {E : EspErr → World → Prop} (h : Exceptional.Triple (· = w₀) (f w₀.db) Q E) :
    Exceptional.Triple (· = w₀) (On9kvdb.getDb >>= f) Q E := by
  rintro w rfl
  rw [exec_bind, exec_getDb]
  exact h w rfl

lemma inMemory_openNamespace (name : Bytes) (mode : OpenMode) :
    Within InMemory (openNamespace cfg name mode) := by
  unfold openNamespace
  refine .bind Within.failIf fun _ => .bind inMemory_acquireOperationLock fun _ =>
    .bind Within.getDb fun db => .bind Within.liftResult fun _ => ?_
  cases (List.range cfg.limits.maxOpenHandles).find? fun index => !(db.handles index).used with
  | none => exact .throw
  | some index =>
      exact .bind Within.failIf fun _ => .bind (inMemory_modifyDb fun _ =>
        ⟨rfl, rfl, rfl, rfl, rfl⟩) fun _ => .pure

lemma inMemory_closeHandle (raw : ℕ) : Within InMemory (closeHandle cfg raw) := by
  unfold closeHandle
  exact .bind inMemory_acquireOperationLock fun _ => .bind Within.getDb fun db =>
    .bind Within.liftResult fun _ => .bind Within.failIf fun _ =>
    inMemory_modifyDb fun _ => ⟨rfl, rfl, rfl, rfl, rfl⟩

lemma inMemory_beginTransaction (raw : ℕ) : Within InMemory (beginTransaction cfg raw) := by
  unfold beginTransaction
  exact .bind inMemory_acquireOperationLock fun _ => .bind Within.getDb fun db =>
    .bind Within.liftResult fun _ => .bind Within.failIf fun _ => .bind Within.failIf fun _ =>
    .bind Within.failIf fun _ =>
      .bind (inMemory_modifyDb fun _ => ⟨rfl, rfl, rfl, rfl, rfl⟩) fun _ => .pure

lemma inMemory_clearTransactionUnsafe : Within InMemory (modifyDb (clearTransactionUnsafe cfg)) :=
  inMemory_modifyDb fun _ => ⟨rfl, rfl, rfl, rfl, rfl⟩

lemma inMemory_abort (raw : ℕ) : Within InMemory (abort cfg raw) := by
  unfold abort
  exact .bind inMemory_acquireOperationLock fun _ => .bind Within.getDb fun db =>
    .bind Within.liftResult fun _ => .bind Within.failIf fun _ => inMemory_clearTransactionUnsafe

lemma inMemory_preflightTransaction (namespaceName : Bytes) :
    Within InMemory (preflightTransaction cfg namespaceName) :=
  .bind inMemory_readStorage fun _ => inMemory_modifyDb fun _ => ⟨rfl, rfl, rfl, rfl, rfl⟩

lemma inMemory_publishTransaction (namespaceName : Bytes) :
    Within InMemory (publishTransaction cfg namespaceName) := by
  unfold publishTransaction
  refine .bind Within.getDb fun _ => .bind Within.liftResult fun found =>
    .bind (inMemory_modifyDb fun _ => ⟨rfl, rfl, rfl, rfl, rfl⟩) fun _ => ?_
  intro w
  rw [exec_bind, exec_getDb]
  dsimp only
  rw [exec_bind, exec_liftResult]
  cases h : applyTransactionToMemtableUnsafe cfg w.db w.db.transaction.mutations found.1
      w.db.nextTransactionSequence with
  | error e => exact refl_of InMemory w
  | ok db =>
      have hframe := applyTransactionToMemtableUnsafe_frame h
      have hinitialized : db.initialized = w.db.initialized := by rw [hframe]
      have hfaulted : db.storageFaulted = w.db.storageFaulted := by rw [hframe]
      have hmanifest : db.manifest = w.db.manifest := by rw [hframe]
      have hreaders : db.valueReaders = w.db.valueReaders := by rw [hframe]
      exact ⟨hinitialized, hfaulted, hmanifest, hreaders, rfl⟩

/-! ## Staging -/

lemma stageValueUnsafe_frame {db db' : Db} {raw : ℕ} {key : Bytes} {v : StoredValue}
    (h : stageValueUnsafe cfg db raw key v = .ok db') :
    db' = { db with transaction := db'.transaction } := by
  unfold stageValueUnsafe at h
  rw [bind_eq_ok] at h
  obtain ⟨_, -, h⟩ := h
  rw [bind_eq_ok] at h
  obtain ⟨_, -, h⟩ := h
  simp only at h
  rw [bind_eq_ok] at h
  obtain ⟨_, -, h⟩ := h
  rw [bind_eq_ok] at h
  obtain ⟨_, -, h⟩ := h
  cases h
  rfl

lemma stageExternalValueUnsafe_frame {db db' : Db} {raw : ℕ} {key : Bytes} {r : ValueRef}
    (h : stageExternalValueUnsafe cfg db raw key r = .ok db') :
    db' = { db with transaction := db'.transaction } := by
  unfold stageExternalValueUnsafe at h
  rw [bind_eq_ok] at h
  obtain ⟨_, -, h⟩ := h
  rw [bind_eq_ok] at h
  obtain ⟨middle, hstage, h⟩ := h
  have hframe := stageValueUnsafe_frame hstage
  cases h
  rw [hframe]

lemma stageWriterValue_frame {db db' : Db} (h : stageWriterValue cfg db = .ok db') :
    db' = { db with transaction := db'.transaction } := by
  unfold stageWriterValue at h
  simp only at h
  split_ifs at h
  · exact stageValueUnsafe_frame h
  · exact stageExternalValueUnsafe_frame h

lemma inMemory_stageValueUnsafe (raw : ℕ) (key : Bytes) (v : StoredValue) :
    Within InMemory (do
      let db ← getDb
      let db ← liftResult (stageValueUnsafe cfg db raw key v)
      modifyDb fun _ => db) :=
  inMemory_replace fun _ _ h => .of_transaction (stageValueUnsafe_frame h)

lemma inMemory_eraseKey (raw : ℕ) (key : Bytes) : Within InMemory (eraseKey cfg raw key) := by
  unfold eraseKey
  exact .bind Within.failIf fun _ => .bind inMemory_acquireOperationLock fun _ =>
    .bind Within.getDb fun _ => .bind Within.liftResult fun _ => .bind inMemory_readStorage fun _ =>
    .bind Within.failIf fun _ => inMemory_stageValueUnsafe raw key .tombstone

lemma inMemory_resetWriter : Within InMemory resetWriter :=
  inMemory_modifyDb fun _ => ⟨rfl, rfl, rfl, rfl, rfl⟩

/-! ## Readers -/

/-- What the check of a reader token has found. -/
lemma getValueReaderUnsafe_eq_ok {db : Db} {raw index : ℕ}
    (h : getValueReaderUnsafe cfg db raw = .ok index) :
    decodeHandleValue raw = some (index, (db.valueReaders index).generation) ∧
      index < cfg.maxValueReaders ∧ (db.valueReaders index).used = true := by
  unfold getValueReaderUnsafe at h
  split at h
  · cases h
  · next index' generation hdecode =>
      split_ifs at h with hchecks
      cases h
      push Not at hchecks
      obtain ⟨hindex, hused, hgeneration⟩ := hchecks
      exact ⟨by rw [hdecode, hgeneration], hindex, by simpa using hused⟩

lemma turning_setReader (index : ℕ) (r : ValueReaderSlot) :
    Within (Turning index) (setReader index r) :=
  Within.modifyDb fun _ => ⟨by dsimp only; rw [Function.update_self], rfl⟩

lemma turning_readStorage (index : ℕ) {decode : Db → Media → Except EspErr α} :
    Within (Turning index) (readStorage decode) :=
  Within.readStorage fun _ => ⟨by rw [Function.update_eq_self], rfl⟩

lemma turning_ensureBuffered (index : ℕ) : Within (Turning index) (ensureBuffered index) := by
  have hfill : Within (Turning index) (fillReaderBufferUnsafe index) := by
    unfold fillReaderBufferUnsafe
    refine .bind .get fun w => ?_
    dsimp only
    cases (w.db.valueReaders index).externalValue with
    | none => exact .throw
    | some reference =>
        exact .bind Within.failIf fun _ => .bind Within.failIf fun _ =>
          .bind (Within.onError (turning_readStorage index) (turning_setReader _ _)) fun _ =>
          turning_setReader _ _
  exact .bind Within.getDb fun _ => .ite (.ite hfill .throw) .pure

lemma turning_checkReaderEnd (index : ℕ) : Within (Turning index) (checkReaderEnd index) :=
  .bind Within.getDb fun _ => Within.failIf

lemma turning_peekValueUnsafe (index : ℕ) : Within (Turning index) (peekValueUnsafe index) := by
  unfold peekValueUnsafe
  exact .bind Within.getDb fun _ => .ite (.bind (turning_ensureBuffered _) fun _ =>
    .bind Within.getDb fun _ => .pure) .pure

lemma turning_readValueIntoUnsafe (index wanted : ℕ) :
    Within (Turning index) (readValueIntoUnsafe index wanted) := by
  have hloop : ∀ fuel wanted, Within (Turning index) (readValueLoop index fuel wanted) := by
    intro fuel
    induction fuel with
    | zero => exact fun _ => .pure
    | succ fuel ih =>
        intro wanted
        unfold readValueLoop
        exact .bind Within.getDb fun _ => .ite .pure (.bind (turning_ensureBuffered _) fun _ =>
          .bind Within.getDb fun _ => .bind (turning_setReader _ _) fun _ =>
          .bind (ih _) fun _ => .pure)
  exact .bind (hloop _ _) fun _ => .bind (turning_checkReaderEnd _) fun _ => .pure

lemma turning_consumeValueUnsafe (index size : ℕ) :
    Within (Turning index) (consumeValueUnsafe index size) := by
  have hloop : ∀ fuel remaining, Within (Turning index) (consumeLoop index fuel remaining) := by
    intro fuel
    induction fuel with
    | zero => exact fun _ => .pure
    | succ fuel ih =>
        intro remaining
        unfold consumeLoop
        exact .ite (.bind (turning_ensureBuffered _) fun _ => .bind Within.getDb fun _ =>
          .bind (turning_setReader _ _) fun _ => ih _) .pure
  unfold consumeValueUnsafe
  exact .bind Within.getDb fun _ => .bind Within.failIf fun _ => .ite
    (.bind (hloop _ _) fun _ => turning_checkReaderEnd _)
    (.bind (turning_setReader _ _) fun _ => turning_checkReaderEnd _)

lemma turning_seekValueUnsafe (index offset : ℕ) :
    Within (Turning index) (seekValueUnsafe index offset) := by
  unfold seekValueUnsafe
  exact .bind Within.getDb fun _ => .bind Within.failIf fun _ => turning_setReader _ _

/-- What `close` does to the slot of a reader. -/
lemma turning_closeReader (index : ℕ) : Within (Turning index) (do
    let r := (← getDb).valueReaders index
    setReader index { generation := r.generation }) :=
  .bind Within.getDb fun _ => turning_setReader _ _

end On9kvdb
