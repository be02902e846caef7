import On9kvdb.Commit.Publish
import On9kvdb.Start.Serving

/-!
# Every call keeps the invariant

The calls between `init` and `deinit`, one by one: whatever they return, a sound instance is left
sound (`keeping_perform`).
-/

namespace On9kvdb

open Exceptional

variable {cfg : Config} {α : Type}

/-! ## The relation -/

/-- A sound instance stays sound. -/
def Keeping (cfg : Config) (w w' : World) : Prop := Sound cfg w.db → Sound cfg w'.db

instance : Std.Refl (Keeping cfg) := ⟨fun _ h => h⟩

instance : IsTrans World (Keeping cfg) := ⟨fun _ _ _ h₁ h₂ h => h₂ (h₁ h)⟩

lemma keeping_of_sameParts {x : DbM α} (h : Within SameParts x) : Within (Keeping cfg) x :=
  fun w hsound => hsound.of_parts (h w)

lemma keeping_of_triple {x : DbM α} (h : Triple (fun w => Sound cfg w.db) x
    (fun _ w => Sound cfg w.db) (fun _ w => Sound cfg w.db)) : Within (Keeping cfg) x :=
  fun _ hsound => h.final hsound

/-- The instance is replaced by what a computation on it returns. -/
lemma keeping_replace {f : Db → Except EspErr Db}
    (h : ∀ db db', Sound cfg db → f db = .ok db' → Sound cfg db') :
    Within (Keeping cfg) (do let db ← getDb; let db ← liftResult (f db); modifyDb fun _ => db) := by
  refine keeping_of_triple (.bind Triple.fetch fun db => .bind (Q := fun db w => Sound cfg db)
    (Triple.liftResult (fun w db' hw hf => h _ _ (hw.2 ▸ hw.1) hf) fun w _ hw _ => hw.1)
    fun db => Triple.modifyDb fun w hw => hw)

/-! ## Handles and transactions -/

lemma sameParts_acquireOperationLock : Within SameParts acquireOperationLock :=
  .bind Within.getDb fun _ => Within.failIf

lemma sameParts_openNamespace (name : Bytes) (mode : OpenMode) :
    Within SameParts (openNamespace cfg name mode) := by
  unfold openNamespace
  refine .bind Within.failIf fun _ => .bind sameParts_acquireOperationLock fun _ =>
    .bind Within.getDb fun db => .bind Within.liftResult fun _ => ?_
  cases (List.range cfg.limits.maxOpenHandles).find? fun index => !(db.handles index).used with
  | none => exact .throw
  | some index =>
      exact .bind Within.failIf fun _ => .bind (sameParts_modifyDb fun _ => rfl) fun _ => .pure

lemma sameParts_closeHandle (raw : ℕ) : Within SameParts (closeHandle cfg raw) := by
  unfold closeHandle
  exact .bind sameParts_acquireOperationLock fun _ => .bind Within.getDb fun _ =>
    .bind Within.liftResult fun _ => .bind Within.failIf fun _ => sameParts_modifyDb fun _ => rfl

/-- Without a transaction there is no writer. -/
lemma Sound.idle_of_inactive {db : Db} (h : Sound cfg db) (hinactive : db.transaction.active = false) :
    db.valueWriter.active = false := by
  cases hactive : db.valueWriter.active with
  | false => rfl
  | true =>
      rw [(h.writer hactive).owner.1] at hinactive
      cases hinactive

lemma keeping_beginTransaction (raw : ℕ) : Within (Keeping cfg) (beginTransaction cfg raw) := by
  have hkeep : ∀ {α : Type} {x : DbM α}, Within SameParts x →
      Triple (fun w => Sound cfg w.db) x (fun _ w => Sound cfg w.db) (fun _ w => Sound cfg w.db) :=
    fun hx => hx.invariant fun _ _ h h' => h.of_parts h'
  unfold beginTransaction
  refine keeping_of_triple (.bind (hkeep sameParts_acquireOperationLock) fun _ =>
    .bind Triple.fetch fun db => .bind (Q := fun _ w => Sound cfg w.db ∧ w.db = db)
      (Triple.liftResult (fun _ _ hw _ => hw) fun _ _ hw _ => hw.1) fun found => ?_)
  refine .bind (Q := fun _ w => Sound cfg w.db ∧ w.db = db)
    (Triple.failIf (fun _ hw _ => hw) fun _ hw _ => hw.1) fun _ =>
    .bind (Triple.check fun _ hw => hw.1) fun _ => ?_
  refine .bind (Q := fun _ w => (Sound cfg w.db ∧ w.db = db) ∧
      ¬ (db.transaction.active = true ∨ found.2.transactionActive = true))
    (Triple.failIf (fun _ hw _ => hw) fun _ hw _ => hw.1.1) fun _ =>
      .bind (Q := fun _ w => Sound cfg w.db) (Triple.modifyDb fun w hw => ?_) fun _ =>
        .pure fun _ hw => hw
  obtain ⟨⟨hsound, hdb⟩, hchecks⟩ := hw
  push Not at hchecks
  have hidle := hsound.idle_of_inactive (by rw [hdb]; simpa using hchecks.1)
  refine ⟨hsound.memtable.of_place rfl rfl rfl, hsound.registry, ⟨List.nodup_nil,
    fun _ hm => absurd hm List.not_mem_nil, fun _ hm => absurd hm List.not_mem_nil, fun _ => rfl⟩,
    fun hactive => ?_⟩
  rw [show w.db.valueWriter.active = true from hactive] at hidle
  cases hidle

/-- A cleared transaction leaves a sound instance when no writer is active. -/
lemma Sound.clearTransaction {db : Db} (h : Sound cfg db) (hidle : db.valueWriter.active = false) :
    Sound cfg (clearTransactionUnsafe cfg db) := by
  refine ⟨h.memtable.of_place rfl rfl rfl, h.registry, ⟨List.nodup_nil,
    fun _ hm => absurd hm List.not_mem_nil, fun _ hm => absurd hm List.not_mem_nil, fun _ => rfl⟩,
    fun hactive => ?_⟩
  rw [show db.valueWriter.active = true from hactive] at hidle
  cases hidle

/-- What the checks in front of a commit or an abort have found: a sound instance, the handle of
the transaction, and no writer. -/
structure Committable (cfg : Config) (raw : ℕ) (handle : HandleSlot) (w : World) : Prop where
  sound : Sound cfg w.db
  transaction : getTransactionUnsafe cfg w.db raw = .ok handle
  idle : w.db.valueWriter.active = false

/-- The checks in front of a commit or an abort. -/
lemma triple_committable {raw : ℕ} {P : World → Prop} {f : Db → HandleSlot → DbM α}
    {Q : α → World → Prop} {E : EspErr → World → Prop} (hP : ∀ w, P w → Sound cfg w.db)
    (hE : ∀ e w, P w → E e w)
    (h : ∀ db handle, Triple (fun w => (Committable cfg raw handle w ∧ w.db = db) ∧ P w)
      (f db handle) Q E) :
    Triple P
      (do
        acquireOperationLock
        let db ← getDb
        let handle ← liftResult (getTransactionUnsafe cfg db raw)
        failIf (writerOfTransaction db raw = true) .invalidState
        f db handle) Q E := by
  have hlock : Within (Eq : World → World → Prop) acquireOperationLock :=
    .bind Within.getDb fun _ => Within.failIf
  refine .bind (hlock.triple (Q := fun _ => P) (fun _ _ _ hw h => h ▸ hw)
    fun _ _ e hw h => hE e _ (h ▸ hw)) fun _ =>
    .bind Triple.fetch fun db => .bind (Q := fun handle w => (P w ∧ w.db = db) ∧
      getTransactionUnsafe cfg db raw = .ok handle)
      (Triple.liftResult (fun _ _ hw hfound => ⟨hw, hfound⟩) fun _ e hw _ => hE e _ hw.1)
      fun handle => .bind (Triple.check fun w hw => hE _ w hw.1.1) fun _ =>
        (h db handle).pre fun w hw => ?_
  obtain ⟨⟨⟨hw, rfl⟩, hfound⟩, hwriter⟩ := hw
  have hsound := hP w hw
  exact ⟨⟨⟨hsound, hfound, hsound.no_writer hfound (Bool.eq_false_of_not_eq_true hwriter)⟩, rfl⟩, hw⟩

lemma keeping_abort (raw : ℕ) : Within (Keeping cfg) (abort cfg raw) :=
  keeping_of_triple (triple_committable (fun _ hw => hw) (fun _ _ hw => hw) fun _ _ =>
    Triple.modifyDb fun _ hw => hw.1.1.sound.clearTransaction hw.1.1.idle)

/-- **A commit keeps the invariant**, whether it succeeds or fails. -/
theorem keeping_commit (raw : ℕ) : Within (Keeping cfg) (commit cfg raw) := by
  refine keeping_of_triple (triple_committable (fun _ hw => hw) (fun _ _ hw => hw) fun db handle =>
    .ite (fun _ => Triple.modifyDb fun _ hw =>
      hw.1.1.sound.clearTransaction hw.1.1.idle) fun _ => ?_)
  rw [commitMutations_eq]
  refine .bind ((triple_prepareCommit _).pre fun w hw => ⟨hw.1.1.sound, hw.1.1.idle⟩) fun _ => ?_
  refine Triple.onError (F := fun _ _ => False) (fun w hw => ?_) fun _ _ hw => hw.elim
  obtain ⟨index, namespaces, db', happlicable, happlied⟩ := hw.applicable
  rw [exec_publishTransaction happlicable]
  exact hw.published happlicable.registered happlied

/-! ## Staging -/

lemma keeping_stageValueUnsafe (raw : ℕ) (key : Bytes) {v : StoredValue} (hv : v.ref? = none) :
    Within (Keeping cfg) (do
      let db ← getDb
      let db ← liftResult (stageValueUnsafe cfg db raw key v)
      modifyDb fun _ => db) :=
  keeping_replace fun db _ hsound hstage => hsound.stageValue
    (by rw [valueInActiveBank_eq, hv]; rfl) hstage

lemma keeping_eraseKey (raw : ℕ) (key : Bytes) : Within (Keeping cfg) (eraseKey cfg raw key) := by
  unfold eraseKey
  exact .bind Within.failIf fun _ => .bind (keeping_of_sameParts sameParts_acquireOperationLock)
    fun _ => .bind Within.getDb fun _ => .bind Within.liftResult fun _ =>
    .bind (Within.readStorage fun _ h => h) fun _ => .bind Within.failIf fun _ =>
    keeping_stageValueUnsafe raw key rfl

/-! ## The writer -/

lemma keeping_resetWriter : Within (Keeping cfg) resetWriter :=
  Within.modifyDb fun _ h => h.resetWriter rfl

/-- Another writer of the active transaction. -/
lemma Sound.withWriter {db db' : Db} (h : Sound cfg db) {writer : ValueWriterSlot}
    (hparts : db'.parts = { db.parts with valueWriter := writer })
    (hwriter : WriterSound db.transaction db.manifest.bankPlace writer) : Sound cfg db' := by
  have hsound : Sound cfg { db with valueWriter := writer } :=
    ⟨h.memtable.of_place rfl rfl rfl, h.registry, h.staged, fun _ => hwriter⟩
  exact hsound.of_parts hparts

lemma carrying_makeValueRoom (valueSize : ℕ) :
    Within (Carrying cfg) (makeValueRoom cfg valueSize) :=
  .bind Within.getDb fun _ => .ite (.bind carrying_compactTablesUnsafe fun _ =>
    .bind Within.getDb fun _ => Within.failIf) .pure

/-- A new writer fills the active bank from its tail on. -/
lemma fillsBank_externalWriter (m : ManifestRecord) {writer : ValueWriterSlot}
    (hsize : writer.reference.valueSize = writer.expectedSize) (hwritten : writer.writtenSize = 0)
    (hcollected : writer.chunkPayloadSize = 0) :
    FillsBank m.bankPlace (externalWriter m writer) := by
  unfold externalWriter
  refine ⟨rfl, rfl, rfl, hsize, ?_, ?_, ?_, fun _ => ?_⟩
  · exact hcollected.le.trans (Nat.zero_le _)
  · exact hcollected.le.trans (Nat.zero_le _)
  · show m.valueBankTail m.activeValueBank = m.bankPlace.tail +
      chunkCount (writer.writtenSize - writer.chunkPayloadSize) * valueChunkSize
    rw [hwritten, hcollected]
    rfl
  · show (writer.writtenSize - writer.chunkPayloadSize) % valueChunkPayloadSize = 0
    rw [hwritten, hcollected]
    rfl

/-- **A new writer, with the compaction that makes room for it, keeps the invariant.** -/
theorem keeping_beginValueWriteUnsafe (raw : ℕ) (key : Bytes) (valueSize : ℕ) :
    Within (Keeping cfg) (beginValueWriteUnsafe cfg raw key valueSize) := by
  unfold beginValueWriteUnsafe
  refine keeping_of_triple (.bind (Triple.check fun _ hw => hw) fun _ =>
    .of_pure (fun _ hw => hw.2) fun hargs => .pre (S := fun w => Sound cfg w.db) ?_ fun _ hw => hw.1)
  refine .bind Triple.fetch fun db => .bind (Q := fun _ w => (Sound cfg w.db ∧ w.db = db) ∧
    db.transaction.active = true ∧
      decodeHandleValue raw = some (0, db.transaction.generation))
    (Triple.liftResult (fun _ _ hw hfound => ⟨hw, getTransactionUnsafe_eq_ok hfound⟩)
      fun _ _ hw _ => hw.1) fun _ => .bind (Triple.check fun _ hw => hw.1.1) fun _ => ?_
  refine .bind (Q := fun _ w => Sound cfg w.db ∧ w.db.transaction.active = true ∧
      decodeHandleValue raw = some (0, w.db.transaction.generation))
    ((carrying_makeValueRoom valueSize).triple (fun w w' _ hw h => ?_) fun w w' _ hw h => ?_)
    fun _ => ?_
  · obtain ⟨⟨⟨hsound, rfl⟩, hactive, hraw⟩, hchecks⟩ := hw
    push Not at hchecks
    have hcarried := h hsound (by simpa using hchecks.1)
    refine ⟨hcarried.sound, ?_, ?_⟩
    · rw [hcarried.transaction]
      exact hactive
    · rw [hcarried.transaction]
      exact hraw
  · obtain ⟨⟨⟨hsound, rfl⟩, -⟩, hchecks⟩ := hw
    push Not at hchecks
    exact (h hsound (by simpa using hchecks.1)).sound
  refine .bind Triple.fetch fun db => .bind (Q := fun _ w => Sound cfg w.db)
    (Triple.modifyDb fun w hw => ?_) fun _ => .pure fun _ hw => hw
  obtain ⟨⟨hsound, hactive, hraw⟩, rfl⟩ := hw
  push Not at hargs
  have hkey : validateBytes key = true := by simpa using hargs.1
  dsimp only
  split_ifs with hinline
  · refine hsound.withWriter rfl ⟨⟨hactive, hraw⟩, hkey, Nat.zero_le _, fun hexternal => ?_⟩
    rw [show decide (valueSize ≤ cfg.inlineValueLen) = false from hexternal] at hinline
    cases hinline
  · exact hsound.withWriter rfl ⟨⟨hactive, hraw⟩, hkey, Nat.zero_le _,
      fun _ => fillsBank_externalWriter _ rfl rfl rfl⟩

/-- An active writer of an external value with room for `size` more bytes. -/
structure Writable (cfg : Config) (size : ℕ) (w : World) : Prop where
  sound : Sound cfg w.db
  active : w.db.valueWriter.active = true
  external : w.db.valueWriter.inlineValue = false
  room : w.db.valueWriter.writtenSize + size ≤ w.db.valueWriter.expectedSize

lemma Writable.writer {size : ℕ} {w : World} (h : Writable cfg size w) :
    WriterSound w.db.transaction w.db.manifest.bankPlace w.db.valueWriter :=
  h.sound.writer h.active

/-- The bytes of one part are collected. -/
lemma Writable.append {size : ℕ} {w : World} (h : Writable cfg size w) {part : Bytes}
    (hcapacity : part.length ≤ valueChunkPayloadSize - w.db.valueWriter.chunkPayloadSize)
    (hsize : part.length ≤ size) : Writable cfg (size - part.length)
      { w with db := { w.db with valueWriter := w.db.valueWriter.append part } } := by
  have hroom := h.room
  have hwriter := h.writer
  refine ⟨h.sound.withWriter rfl ⟨hwriter.owner, hwriter.key, ?_, fun _ =>
    (hwriter.fills h.external).append h.external hcapacity⟩, h.active, h.external, ?_⟩
  · show w.db.valueWriter.writtenSize + part.length ≤ w.db.valueWriter.expectedSize
    omega
  · show w.db.valueWriter.writtenSize + part.length + (size - part.length) ≤
      w.db.valueWriter.expectedSize
    omega

lemma triple_flushCollectedChunk (size : ℕ) :
    Triple (Writable cfg size) flushCollectedChunk (fun _ => Writable cfg size)
      (fun _ w => Sound cfg w.db) := by
  unfold flushCollectedChunk flushValueWriterChunkUnsafe
  refine .bind Triple.fetch fun db₀ => .ite (fun hfull => ?_) fun _ => .pure fun _ hw => hw.1
  refine .bind (Q := fun db w => Writable cfg size w ∧ w.db.valueWriter = db₀.valueWriter ∧
    db.valueWriter = db₀.valueWriter) (Triple.getDb fun w hw => ⟨hw.1, by rw [hw.2], by rw [hw.2]⟩)
    fun db => .of_pure (fun _ hw => hw.2.2) fun hdb => .pre (S := fun w => Writable cfg size w ∧
      w.db.valueWriter = db₀.valueWriter) ?_ fun _ hw => ⟨hw.1, hw.2.1⟩
  dsimp only
  rw [hdb]
  refine .bind (Triple.check fun _ hw => hw.1.sound) fun _ => ?_
  cases encodeValueChunk db.manifest.databaseId db₀.valueWriter.reference.bankGeneration
      db₀.valueWriter.reference.firstChunkOffset db₀.valueWriter.expectedSize
      (db₀.valueWriter.writtenSize - db₀.valueWriter.chunkPayloadSize)
      (db₀.valueWriter.buffer.take db₀.valueWriter.chunkPayloadSize) with
  | none => exact .throw fun _ hw => hw.1.1.sound
  | some chunk =>
      refine .bind ((sameParts_writeStorage _).triple (Q := fun _ w => Writable cfg size w ∧
        w.db.valueWriter = db₀.valueWriter ∧ db₀.valueWriter.chunkPayloadSize ≠ 0)
        (fun w w' _ hw h => ?_) fun w w' _ hw h => hw.1.1.sound.of_parts h) fun _ =>
          Triple.modifyDb fun w hw => ?_
      · obtain ⟨⟨hwritable, hwriter⟩, hchecks⟩ := hw
        push Not at hchecks
        have hsame : w'.db.valueWriter = w.db.valueWriter := congrArg Parts.valueWriter h
        refine ⟨⟨hwritable.sound.of_parts h, ?_, ?_, ?_⟩, hsame.trans hwriter, hchecks.2.1⟩
        · rw [hsame]
          exact hwritable.active
        · rw [hsame]
          exact hwritable.external
        · rw [hsame]
          exact hwritable.room
      · obtain ⟨hwritable, hwriter, hpos⟩ := hw
        rw [← hwriter] at hfull hpos
        have hsound := hwritable.writer
        exact ⟨hwritable.sound.withWriter rfl ⟨hsound.owner, hsound.key, hsound.written, fun _ =>
          (hsound.fills hwritable.external).flush hpos hsound.written hfull []⟩,
          hwritable.active, hwritable.external, hwritable.room⟩

lemma triple_writeValueLoop (fuel : ℕ) (data : Bytes) :
    Triple (Writable cfg data.length) (writeValueLoop fuel data) (fun _ w => Sound cfg w.db)
      (fun _ w => Sound cfg w.db) := by
  induction fuel generalizing data with
  | zero => exact .pure fun _ hw => hw.sound
  | succ fuel ih =>
      unfold writeValueLoop
      refine .ite (fun _ => ?_) fun _ => .pure fun _ hw => hw.sound
      refine .bind Triple.fetch fun db => ?_
      dsimp only
      obtain ⟨part, hpart⟩ : ∃ part, part =
        data.take (valueChunkPayloadSize - db.valueWriter.chunkPayloadSize) := ⟨_, rfl⟩
      rw [← hpart]
      have hlength : part.length ≤ data.length := by
        rw [hpart, List.length_take]
        exact min_le_right _ _
      refine .bind (Q := fun _ => Writable cfg (data.length - part.length))
        (Triple.modifyDb fun w hw => hw.1.append ?_ hlength) fun _ =>
          .bind (triple_flushCollectedChunk _) fun _ => ?_
      · rw [hw.2, hpart, List.length_take]
        exact min_le_left _ _
      · have hrest := ih (data.drop part.length)
        rwa [List.length_drop] at hrest

/-- **Writing keeps the invariant**, however the value is cut into calls. -/
theorem keeping_writeValueUnsafe (data : Bytes) : Within (Keeping cfg) (writeValueUnsafe data) := by
  unfold writeValueUnsafe
  refine keeping_of_triple (.bind Triple.fetch fun db => .bind (Triple.check fun _ hw => hw.1)
    fun _ => .ite (fun hinline => Triple.modifyDb fun w hw => ?_) fun hexternal =>
      (triple_writeValueLoop _ data).pre fun w hw => ?_)
  · obtain ⟨⟨hsound, rfl⟩, hchecks⟩ := hw
    push Not at hchecks
    have hwriter := hsound.writer (by simpa using hchecks.1)
    have hwritten := hwriter.written
    refine hsound.withWriter rfl ⟨hwriter.owner, hwriter.key, ?_, fun hexternal => ?_⟩
    · show w.db.valueWriter.writtenSize + data.length ≤ w.db.valueWriter.expectedSize
      have hroom := hchecks.2
      omega
    · rw [show w.db.valueWriter.inlineValue = false from hexternal] at hinline
      cases hinline
  · obtain ⟨⟨hsound, rfl⟩, hchecks⟩ := hw
    push Not at hchecks
    have hactive : w.db.valueWriter.active = true := by simpa using hchecks.1
    have hwritten := (hsound.writer hactive).written
    have hroom := hchecks.2
    exact ⟨hsound, hactive, by simpa using hexternal, by omega⟩

/-- Sound, but for the writer. -/
def SoundButWriter (cfg : Config) (w : World) : Prop :=
  ∀ writer : ValueWriterSlot, writer.active = false →
    Sound cfg { w.db with valueWriter := writer }

lemma triple_resetWriter : Triple (SoundButWriter cfg) resetWriter (fun _ w => Sound cfg w.db)
    (fun _ w => Sound cfg w.db) := by
  unfold resetWriter modifyWriter
  exact Triple.modifyDb fun w hw => hw _ rfl

/-- **Finishing a value keeps the invariant.** -/
theorem keeping_finishValueWriteUnsafe : Within (Keeping cfg) (finishValueWriteUnsafe cfg) := by
  unfold finishValueWriteUnsafe
  refine keeping_of_triple (.bind Triple.fetch fun db => .bind (Triple.check fun _ hw => hw.1)
    fun _ => .bind (Q := fun _ => SoundButWriter cfg) (Triple.onError
      (F := fun _ => SoundButWriter cfg) ?_ fun _ => triple_resetWriter) fun _ =>
        triple_resetWriter)
  refine .bind (Q := fun db' w => (Sound cfg db ∧ db.valueWriter.active = true ∧
      db.valueWriter.writtenSize = db.valueWriter.expectedSize ∧
      db.valueWriter.chunkPayloadSize = 0) ∧ stageWriterValue cfg db = .ok db')
    (Triple.liftResult (fun w db' hw hstage => ?_) fun w _ hw _ writer hidle =>
      hw.1.1.resetWriter hidle) fun db' => Triple.modifyDb fun w hw writer hidle => ?_
  · obtain ⟨⟨hsound, rfl⟩, hchecks⟩ := hw
    push Not at hchecks
    exact ⟨⟨hsound, by simpa using hchecks.1, hchecks.2.1, hchecks.2.2⟩, hstage⟩
  · obtain ⟨⟨hsound, hactive, hwritten, hcollected⟩, hstage⟩ := hw
    cases hinline : db.valueWriter.inlineValue with
    | true =>
        rw [if_pos rfl]
        unfold stageWriterValue at hstage
        dsimp only at hstage
        rw [hinline, if_pos rfl] at hstage
        exact (hsound.stageValue rfl hstage).resetWriter hidle
    | false =>
        rw [if_neg (by decide)]
        exact hsound.stageExternal hactive hinline hwritten hcollected hstage hidle

lemma keeping_set (raw : ℕ) (key value : Bytes) : Within (Keeping cfg) (set cfg raw key value) := by
  unfold set setExternal
  exact .bind Within.failIf fun _ => .bind (keeping_of_sameParts sameParts_acquireOperationLock)
    fun _ => .ite (keeping_stageValueUnsafe raw key rfl) (Within.onError
      (.bind (keeping_beginValueWriteUnsafe _ _ _) fun _ =>
        .bind (keeping_writeValueUnsafe _) fun _ => keeping_finishValueWriteUnsafe)
      (.bind Within.getDb fun _ => .ite keeping_resetWriter .pure))

lemma keeping_withWriter (raw : ℕ) {x : DbM Unit} (h : Within (Keeping cfg) x) :
    Within (Keeping cfg) (withWriter raw x) := by
  unfold withWriter
  exact .bind (keeping_of_sameParts sameParts_acquireOperationLock) fun _ =>
    .bind Within.getDb fun _ => .bind Within.liftResult fun _ => h

/-! ## Readers -/

lemma sameParts_readStorage {decode : Db → Media → Except EspErr α} :
    Within SameParts (readStorage decode) := Within.readStorage fun _ => rfl

lemma sameParts_of_turning {index : ℕ} {x : DbM α} (h : Within (Turning index) x) :
    Within SameParts x := fun w => by
  unfold SameParts
  rw [(h w).db]
  rfl

lemma sameParts_openValue (raw : ℕ) (key : Bytes) : Within SameParts (openValue cfg raw key) := by
  unfold openValue openValueUnsafe
  refine .bind Within.failIf fun _ => .bind sameParts_acquireOperationLock fun _ =>
    .bind Within.getDb fun _ => .bind Within.liftResult fun _ => .bind sameParts_readStorage
    fun view => .bind Within.failIf fun _ => .bind Within.getDb fun db => .bind Within.failIf
    fun _ => .bind Within.failIf fun _ => ?_
  cases (List.range cfg.maxValueReaders).find? fun index => !(db.valueReaders index).used with
  | none => exact .throw
  | some index =>
      exact .bind (sameParts_modifyDb fun _ => rfl) fun _ =>
        .bind (sameParts_of_turning (turning_setReader _ _)) fun _ => .pure

lemma sameParts_withReader (raw : ℕ) {x : ℕ → DbM α} (h : ∀ i, Within (Turning i) (x i)) :
    Within SameParts (withReader cfg raw x) := by
  unfold withReader
  exact .bind sameParts_acquireOperationLock fun _ => .bind Within.getDb fun _ =>
    .bind Within.liftResult fun i => sameParts_of_turning (h i)

/-! ## All calls -/

/-- **Every call between `init` and `deinit` keeps the invariant.** -/
theorem keeping_perform {c : Call} (h : c.isLifecycle = false) :
    Within (Keeping cfg) (perform cfg c) := by
  cases c with
  | init => cases h
  | deinit force => cases h
  | openNamespace name mode =>
      exact keeping_of_sameParts (Within.map (sameParts_openNamespace name mode))
  | closeHandle raw => exact keeping_of_sameParts (Within.done (sameParts_closeHandle raw))
  | begin raw => exact Within.map (keeping_beginTransaction raw)
  | set raw key value => exact Within.done (keeping_set raw key value)
  | eraseKey raw key => exact Within.done (keeping_eraseKey raw key)
  | beginValueWrite raw key valueSize =>
      exact .bind (keeping_of_sameParts sameParts_acquireOperationLock) fun _ =>
        Within.map (keeping_beginValueWriteUnsafe raw key valueSize)
  | writeValue raw data => exact Within.done (keeping_withWriter raw (keeping_writeValueUnsafe data))
  | finishValueWrite raw =>
      exact Within.done (keeping_withWriter raw keeping_finishValueWriteUnsafe)
  | abortValueWrite raw => exact Within.done (keeping_withWriter raw keeping_resetWriter)
  | commit raw => exact Within.done (keeping_commit raw)
  | abort raw => exact Within.done (keeping_abort raw)
  | openValue raw key => exact keeping_of_sameParts (Within.map (sameParts_openValue raw key))
  | peekValue raw =>
      exact keeping_of_sameParts (Within.map (sameParts_withReader raw turning_peekValueUnsafe))
  | readValueInto raw size =>
      exact keeping_of_sameParts (Within.map (sameParts_withReader raw fun i =>
        turning_readValueIntoUnsafe i size))
  | consumeValue raw size =>
      exact keeping_of_sameParts (Within.done (sameParts_withReader raw fun i =>
        turning_consumeValueUnsafe i size))
  | seekValue raw offset =>
      exact keeping_of_sameParts (Within.done (sameParts_withReader raw fun i =>
        turning_seekValueUnsafe i offset))
  | closeReader raw =>
      exact keeping_of_sameParts (Within.done (sameParts_withReader raw turning_closeReader))

end On9kvdb
