import On9kvdb.Start.Memory

/-!
# What the calls on an open instance keep

Between `init` and `deinit` an instance stays open, its manifest stays ready, and every write it
issues is one of a ready database.  `Serving` states this for one call; the methods that only work
on the memory keep it because they leave the state of the manifest and the device alone, the others
because they are maintenance.
-/

namespace On9kvdb

open Exceptional

variable {cfg : Config} {α β : Type}

/-! ## The relation -/

/-- The instance stays as open as it is, and a ready one stays ready. -/
structure Serving (w w' : World) : Prop where
  initialized : w'.db.initialized = w.db.initialized
  ready : StaysReady w w'

instance : Std.Refl Serving := ⟨fun _ => ⟨rfl, refl_of StaysReady _⟩⟩

instance : IsTrans World Serving :=
  ⟨fun _ _ _ h₁ h₂ => ⟨h₂.initialized.trans h₁.initialized, trans_of StaysReady h₁.ready h₂.ready⟩⟩

lemma Serving.of_maintaining {w w' : World} (h : Maintaining w w') : Serving w w' :=
  ⟨by rw [h.db], h.ready⟩

/-- A change of the memory that leaves the manifest in its state. -/
lemma Serving.update {w : World} {db : Db} (hinitialized : db.initialized = w.db.initialized)
    (hstate : db.manifest.state = w.db.manifest.state) : Serving w { w with db := db } :=
  ⟨hinitialized, fun h => ⟨hstate.trans h, .refl⟩⟩

lemma serving_modifyDb {f : Db → Db} (h : ∀ w : World, Serving w { w with db := f w.db }) :
    Within Serving (modifyDb f) := Within.modifyDb h

lemma serving_of_maintaining {x : DbM α} (h : Within Maintaining x) : Within Serving x :=
  fun w => .of_maintaining (h w)

lemma serving_of_inMemory {x : DbM α} (h : Within InMemory x) : Within Serving x := fun w =>
  ⟨(h w).initialized, fun hready => ⟨by rw [(h w).manifest]; exact hready, by
    rw [(h w).dev]
    exact .clock _ .refl⟩⟩

lemma serving_of_turning {index : ℕ} {x : DbM α} (h : Within (Turning index) x) :
    Within Serving x := fun w =>
  ⟨by rw [(h w).db], fun hready => ⟨by rw [(h w).db]; exact hready, by
    rw [(h w).dev]
    exact .clock _ .refl⟩⟩

lemma serving_acquireOperationLock : Within Serving acquireOperationLock :=
  serving_of_inMemory inMemory_acquireOperationLock

/-! ## Committing -/

lemma serving_commit (raw : ℕ) : Within Serving (commit cfg raw) := by
  have hpreflight : ∀ name, Within Serving (preflightTransaction cfg name) := fun name =>
    serving_of_inMemory (inMemory_preflightTransaction name)
  unfold commit commitMutations
  refine .bind serving_acquireOperationLock fun _ => .bind Within.getDb fun db =>
    .bind Within.liftResult fun handle => .bind Within.failIf fun _ =>
    .ite (serving_of_inMemory inMemory_clearTransactionUnsafe) ?_
  refine .bind (.tryCatch (hpreflight _) fun e => .bind Within.getDb fun _ => .ite
    (.bind (serving_of_maintaining maintaining_flushMemtableUnsafe) fun _ => hpreflight _) .throw)
    fun _ => ?_
  have hsync : Within Serving syncDirtyBanks := .bind Within.getDb fun _ =>
    .ite (.bind (serving_of_maintaining maintaining_syncStorage) fun _ =>
      serving_modifyDb fun _ => .update rfl rfl) .pure
  exact .bind hsync fun _ =>
    .bind (serving_of_maintaining (maintaining_appendTransactionUnsafe _)) fun _ =>
    Within.onError (serving_of_inMemory (inMemory_publishTransaction _))
      (serving_modifyDb fun _ => .update rfl rfl)

/-! ## The writer -/

lemma serving_resetWriter : Within Serving resetWriter := serving_of_inMemory inMemory_resetWriter

lemma serving_beginValueWriteUnsafe (raw : ℕ) (key : Bytes) (valueSize : ℕ) :
    Within Serving (beginValueWriteUnsafe cfg raw key valueSize) := by
  unfold beginValueWriteUnsafe makeValueRoom
  refine .bind Within.failIf fun _ => .bind Within.getDb fun _ => .bind Within.liftResult fun _ =>
    .bind Within.failIf fun _ => .bind (.bind Within.getDb fun _ => .ite
      (.bind (serving_of_maintaining maintaining_compactTablesUnsafe) fun _ =>
        .bind Within.getDb fun _ => Within.failIf) .pure) fun _ => ?_
  exact .bind Within.getDb fun _ => .bind (serving_modifyDb fun _ => .update rfl rfl) fun _ =>
    .pure

lemma serving_flushValueWriterChunkUnsafe (final : Bool) :
    Within Serving (flushValueWriterChunkUnsafe final) := by
  unfold flushValueWriterChunkUnsafe
  refine .bind Within.getDb fun db => .bind Within.failIf fun _ => ?_
  cases encodeValueChunk db.manifest.databaseId db.valueWriter.reference.bankGeneration
      db.valueWriter.reference.firstChunkOffset db.valueWriter.expectedSize
      (db.valueWriter.writtenSize - db.valueWriter.chunkPayloadSize)
      (db.valueWriter.buffer.take db.valueWriter.chunkPayloadSize) with
  | none => exact .throw
  | some chunk =>
      exact .bind (serving_of_maintaining (maintaining_writeStorage trivial)) fun _ =>
        serving_modifyDb fun _ => .update rfl rfl

lemma serving_writeValueLoop (fuel : ℕ) (data : Bytes) :
    Within Serving (writeValueLoop fuel data) := by
  induction fuel generalizing data with
  | zero => exact .pure
  | succ fuel ih =>
      unfold writeValueLoop flushCollectedChunk
      exact .ite (.bind Within.getDb fun _ => .bind (serving_modifyDb fun _ => .update rfl rfl)
        fun _ => .bind (.bind Within.getDb fun _ =>
          .ite (serving_flushValueWriterChunkUnsafe _) .pure) fun _ => ih _) .pure

lemma serving_writeValueUnsafe (data : Bytes) : Within Serving (writeValueUnsafe data) := by
  unfold writeValueUnsafe
  exact .bind Within.getDb fun _ => .bind Within.failIf fun _ =>
    .ite (serving_modifyDb fun _ => .update rfl rfl) (serving_writeValueLoop _ _)

lemma serving_finishValueWriteUnsafe : Within Serving (finishValueWriteUnsafe cfg) := by
  refine .of_triple fun w₀ => ?_
  have hreset : ∀ e : Unit, Triple (Serving w₀) resetWriter (fun _ => Serving w₀)
      (fun _ => Serving w₀) := fun _ => serving_resetWriter.invariant fun _ _ => trans_of Serving
  unfold finishValueWriteUnsafe
  refine .bind (Q := fun db w => w = w₀ ∧ db = w₀.db)
    (Triple.getDb fun w hw => ⟨hw, by rw [hw]⟩) fun db => .of_pure (fun w hw => hw.2) ?_
  rintro rfl
  refine .bind (Q := fun _ w => w = w₀) (Triple.failIf (fun w hw _ => hw.1)
    fun w hw _ => hw.1 ▸ refl_of Serving _) fun _ => .bind (Q := fun _ => Serving w₀)
    (Triple.onError (F := fun _ => Serving w₀) (.bind (Q := fun db w => w = w₀ ∧
      stageWriterValue cfg w₀.db = .ok db) (Triple.liftResult (fun w db hw h => ⟨hw, h⟩)
        fun w e hw _ => hw ▸ refl_of Serving _) fun db => Triple.modifyDb ?_)
      fun _ => hreset ()) fun _ => hreset ()
  rintro w ⟨rfl, hstage⟩
  have hframe := stageWriterValue_frame hstage
  have hinitialized : db.initialized = w.db.initialized := by rw [hframe]
  have hstate : db.manifest.state = w.db.manifest.state := by rw [hframe]
  split_ifs
  · exact .update hinitialized hstate
  · exact .update hinitialized hstate

lemma serving_setExternal (raw : ℕ) (key value : Bytes) :
    Within Serving (setExternal cfg raw key value) :=
  Within.onError (.bind (serving_beginValueWriteUnsafe _ _ _) fun _ =>
    .bind (serving_writeValueUnsafe _) fun _ => serving_finishValueWriteUnsafe)
    (.bind Within.getDb fun _ => .ite serving_resetWriter .pure)

lemma serving_set (raw : ℕ) (key value : Bytes) : Within Serving (set cfg raw key value) := by
  unfold set
  exact .bind Within.failIf fun _ => .bind serving_acquireOperationLock fun _ =>
    .ite (serving_of_inMemory (inMemory_stageValueUnsafe _ _ _)) (serving_setExternal _ _ _)

lemma serving_withWriter (raw : ℕ) {x : DbM Unit} (h : Within Serving x) :
    Within Serving (withWriter raw x) := by
  unfold withWriter
  exact .bind serving_acquireOperationLock fun _ => .bind Within.getDb fun _ =>
    .bind Within.liftResult fun _ => h

/-! ## Readers -/

lemma serving_openValue (raw : ℕ) (key : Bytes) : Within Serving (openValue cfg raw key) := by
  unfold openValue openValueUnsafe
  refine .bind Within.failIf fun _ => .bind serving_acquireOperationLock fun _ =>
    .bind Within.getDb fun _ => .bind Within.liftResult fun _ =>
    .bind (serving_of_inMemory inMemory_readStorage) fun view =>
    .bind Within.failIf fun _ => .bind Within.getDb fun db => .bind Within.failIf fun _ =>
    .bind Within.failIf fun _ => ?_
  cases (List.range cfg.maxValueReaders).find? fun index => !(db.valueReaders index).used with
  | none => exact .throw
  | some index =>
      exact .bind (serving_modifyDb fun _ => .update rfl rfl) fun _ =>
        .bind (serving_of_turning (turning_setReader _ _)) fun _ => .pure

lemma serving_withReader (raw : ℕ) {x : ℕ → DbM α} (h : ∀ i, Within (Turning i) (x i)) :
    Within Serving (withReader cfg raw x) := by
  unfold withReader
  exact .bind serving_acquireOperationLock fun _ => .bind Within.getDb fun _ =>
    .bind Within.liftResult fun i => serving_of_turning (h i)

/-! ## All calls -/

/-- The calls that open and close the instance. -/
def Call.isLifecycle : Call → Bool
  | .init => true
  | .deinit _ => true
  | _ => false

section
variable {R : World → World → Prop} [Std.Refl R] [IsTrans World R]

lemma Within.done {x : DbM Unit} {reply : Reply} (h : Exceptional.Within R x) :
    Exceptional.Within R (do x; return reply) := .bind h fun _ => .pure

lemma Within.map {x : DbM α} {f : α → Reply} (h : Exceptional.Within R x) :
    Exceptional.Within R (f <$> x) := by
  rw [map_eq_pure_bind]
  exact .bind h fun _ => .pure

end

/-- **Every call between `init` and `deinit` serves.** -/
theorem serving_perform {c : Call} (h : c.isLifecycle = false) :
    Within Serving (perform cfg c) := by
  cases c with
  | init => cases h
  | deinit force => cases h
  | openNamespace name mode => exact Within.map (serving_of_inMemory (inMemory_openNamespace name mode))
  | closeHandle raw => exact Within.done (serving_of_inMemory (inMemory_closeHandle raw))
  | begin raw => exact Within.map (serving_of_inMemory (inMemory_beginTransaction raw))
  | set raw key value => exact Within.done (serving_set raw key value)
  | eraseKey raw key => exact Within.done (serving_of_inMemory (inMemory_eraseKey raw key))
  | beginValueWrite raw key valueSize =>
      exact .bind serving_acquireOperationLock fun _ =>
        Within.map (serving_beginValueWriteUnsafe raw key valueSize)
  | writeValue raw data => exact Within.done (serving_withWriter raw (serving_writeValueUnsafe data))
  | finishValueWrite raw =>
      exact Within.done (serving_withWriter raw serving_finishValueWriteUnsafe)
  | abortValueWrite raw => exact Within.done (serving_withWriter raw serving_resetWriter)
  | commit raw => exact Within.done (serving_commit raw)
  | abort raw => exact Within.done (serving_of_inMemory (inMemory_abort raw))
  | openValue raw key => exact Within.map (serving_openValue raw key)
  | peekValue raw => exact Within.map (serving_withReader raw turning_peekValueUnsafe)
  | readValueInto raw size =>
      exact Within.map (serving_withReader raw fun i => turning_readValueIntoUnsafe i size)
  | consumeValue raw size =>
      exact Within.done (serving_withReader raw fun i => turning_consumeValueUnsafe i size)
  | seekValue raw offset =>
      exact Within.done (serving_withReader raw fun i => turning_seekValueUnsafe i offset)
  | closeReader raw => exact Within.done (serving_withReader raw turning_closeReader)

/-! ## A closed instance -/

/-- A closed instance stays as it is. -/
def Locked (w w' : World) : Prop := w.db.initialized = false → w' = w

instance : Std.Refl Locked := ⟨fun _ _ => rfl⟩

instance : IsTrans World Locked := ⟨fun _ _ _ h₁ h₂ h => by
  have hw := h₁ h
  subst hw
  exact h₂ h⟩

/-- What stands behind the lock is not reached on a closed instance. -/
lemma locked_acquireOperationLock (f : Unit → DbM α) :
    Within Locked (acquireOperationLock >>= f) := by
  intro w hclosed
  unfold acquireOperationLock
  rw [exec_bind, exec_bind, exec_getDb]
  dsimp only
  rw [exec_failIf, if_pos (Or.inl hclosed)]

/-- **A closed instance refuses every call but `init`.** -/
theorem locked_perform {c : Call} (h : c.isLifecycle = false) : Within Locked (perform cfg c) := by
  cases c with
  | init => cases h
  | deinit force => cases h
  | openNamespace name mode =>
      exact Within.map (.bind Within.failIf fun _ => locked_acquireOperationLock _)
  | set raw key value => exact Within.done (.bind Within.failIf fun _ => locked_acquireOperationLock _)
  | eraseKey raw key => exact Within.done (.bind Within.failIf fun _ => locked_acquireOperationLock _)
  | openValue raw key =>
      exact Within.map (.bind Within.failIf fun _ => locked_acquireOperationLock _)
  | closeHandle raw => exact Within.done (locked_acquireOperationLock _)
  | begin raw => exact Within.map (locked_acquireOperationLock _)
  | beginValueWrite raw key valueSize => exact locked_acquireOperationLock _
  | writeValue raw data => exact Within.done (locked_acquireOperationLock _)
  | finishValueWrite raw => exact Within.done (locked_acquireOperationLock _)
  | abortValueWrite raw => exact Within.done (locked_acquireOperationLock _)
  | commit raw => exact Within.done (locked_acquireOperationLock _)
  | abort raw => exact Within.done (locked_acquireOperationLock _)
  | peekValue raw => exact Within.map (locked_acquireOperationLock _)
  | readValueInto raw size => exact Within.map (locked_acquireOperationLock _)
  | consumeValue raw size => exact Within.done (locked_acquireOperationLock _)
  | seekValue raw offset => exact Within.done (locked_acquireOperationLock _)
  | closeReader raw => exact Within.done (locked_acquireOperationLock _)

end On9kvdb
