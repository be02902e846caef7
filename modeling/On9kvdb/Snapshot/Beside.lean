import On9kvdb.Snapshot.Shelter
import On9kvdb.Start.Lives

/-!
# The calls beside an open reader

Whatever else is called while a reader is open, its slot and the chunks of its value stay as they
are (`guarding_perform`).  Staging and the readers only work on the memory, maintenance spares the
value, and the writer fills chunks behind the tail of the active bank.
-/

namespace On9kvdb

open Exceptional

variable {cfg : Config} {α : Type} {raw index : ℕ} {value : Option ValueRef}

/-! ## Memory only -/

lemma sheltering_of_inMemory {x : DbM α} (h : Within InMemory x) :
    Within (Sheltering cfg raw index value) x := fun w hw => by
  have hx := h w
  refine ⟨⟨by rw [hx.valueReaders], hx.initialized, by rw [hx.manifest]; exact .refl _, ?_,
    fun _ => hx.storageFaulted⟩, hw.below.of_place (by rw [hx.manifest])⟩
  rw [hx.dev]
  exact .clock _ .refl

/-- A call on another reader. -/
lemma sheltering_of_turning {i : ℕ} (hi : i ≠ index) {x : DbM α} (h : Within (Turning i) x) :
    Within (Sheltering cfg raw index value) x := fun w hw => by
  have hx := h w
  refine ⟨⟨?_, by rw [hx.db], by rw [hx.db]; exact .refl _, ?_, fun _ => by rw [hx.db]⟩,
    hw.below.of_place (by rw [hx.db])⟩
  · rw [hx.db]
    exact Function.update_of_ne hi.symm _ _
  · rw [hx.dev]
    exact .clock _ .refl

/-- A change of the memory that leaves the end of the active bank where it is. -/
lemma sheltering_modifyDb {f : Db → Db}
    (hspared : ∀ w : World, Spared index value w { w with db := f w.db })
    (hplace : ∀ db, (f db).manifest.bankPlace = db.manifest.bankPlace) :
    Within (Sheltering cfg raw index value) (modifyDb f) :=
  Within.modifyDb fun w hw => ⟨hspared w, hw.below.of_place (hplace w.db)⟩

/-! ## Committing -/

lemma sheltering_makeWalRoom (transactionBytes : ℕ) :
    Within (Sheltering cfg raw index value) (makeWalRoom cfg transactionBytes) := by
  unfold makeWalRoom releaseOlderLog
  refine .bind Within.getDb fun db => .ite (.bind ?_ fun _ =>
    .bind (sheltering_of_sameParts spared_rotateWalUnsafe sameParts_rotateWalUnsafe) fun _ =>
      .pure) .pure
  exact .bind Within.getDb fun db => .ite (.bind sheltering_compactTablesUnsafe fun _ => .pure)
    (.ite (.bind sheltering_flushMemtableUnsafe fun _ => .pure) .pure)

lemma sheltering_appendTransactionUnsafe (namespaceName : Bytes) :
    Within (Sheltering cfg raw index value) (appendTransactionUnsafe cfg namespaceName) := by
  unfold appendTransactionUnsafe refreshChecksum
  refine .bind Within.getDb fun db => .bind Within.failIf fun _ =>
    .bind (sheltering_of_sameParts spared_stabilizeManifestUnsafe
      sameParts_stabilizeManifestUnsafe) fun _ =>
    .bind Within.liftResult fun size => .bind (sheltering_makeWalRoom _) fun moved => ?_
  refine .bind Within.getDb fun db => .bind Within.failIf fun _ =>
    .bind (.ite (.bind Within.getDb fun _ => .bind Within.liftResult fun _ =>
      .bind Within.failIf fun _ => .pure) .pure) fun checksum => ?_
  exact .bind (sheltering_of_sameParts (spared_writeFrames _ _ _ _ _ _ _)
      (sameParts_writeFrames _ _ _ _ _ _ _)) fun _ =>
    .bind (sheltering_of_sameParts spared_syncStorage sameParts_syncStorage) fun _ =>
      sheltering_modifyDb (fun _ => .update rfl rfl (.refl _) rfl) fun _ => rfl

/-- **A commit up to its log record spares every open reader.** -/
theorem sheltering_prepareCommit (namespaceName : Bytes) :
    Within (Sheltering cfg raw index value) (prepareCommit cfg namespaceName) := by
  have hpreflight : Within (Sheltering cfg raw index value)
      (preflightTransaction cfg namespaceName) :=
    sheltering_of_inMemory (inMemory_preflightTransaction namespaceName)
  have hsync : Within (Sheltering cfg raw index value) syncDirtyBanks :=
    .bind Within.getDb fun _ => .ite
      (.bind (sheltering_of_sameParts spared_syncStorage sameParts_syncStorage) fun _ =>
        sheltering_modifyDb (fun _ => .update rfl rfl (.refl _) rfl) fun _ => rfl) .pure
  unfold prepareCommit
  exact .bind (.tryCatch hpreflight fun e => .bind Within.getDb fun db =>
    .ite (.bind sheltering_flushMemtableUnsafe fun _ => hpreflight) .throw) fun _ =>
      .bind hsync fun _ => sheltering_appendTransactionUnsafe namespaceName

/-! ## The relation of a call -/

/-- What a call does beside a sheltered reader of a sound instance. -/
def Guarding (cfg : Config) (raw index : ℕ) (value : Option ValueRef) (w w' : World) : Prop :=
  Sound cfg w.db → Sheltered cfg raw index value w → Sound cfg w'.db ∧ Untouched index value w w'

instance : Std.Refl (Guarding cfg raw index value) := ⟨fun w hsound h =>
  ⟨hsound, refl_of (Sheltering cfg raw index value) w h⟩⟩

instance : IsTrans World (Guarding cfg raw index value) := ⟨fun _ _ _ h₁ h₂ hsound h => by
  obtain ⟨hsound₁, huntouched⟩ := h₁ hsound h
  obtain ⟨hsound₂, huntouched'⟩ := h₂ hsound₁ (h.spared huntouched.spared huntouched.below)
  exact ⟨hsound₂, huntouched.trans huntouched'⟩⟩

lemma guarding_of_sheltering {x : DbM α} (hkeep : Within (Keeping cfg) x)
    (h : Within (Sheltering cfg raw index value) x) : Within (Guarding cfg raw index value) x :=
  fun w hsound hw => ⟨hkeep w hsound, h w hw⟩

/-- A sheltered reader stays untouched. -/
lemma Sheltered.untouched {w₀ : World} (h : Sheltered cfg raw index value w₀) {x : DbM α}
    (hx : Within (Sheltering cfg raw index value) x) : Triple (Untouched index value w₀) x
      (fun _ => Untouched index value w₀) (fun _ => Untouched index value w₀) :=
  hx.invariant fun _ _ hw hstep => hw.trans (hstep (h.spared hw.spared hw.below))

lemma guarding_of_triple {x : DbM α} (hkeep : Within (Keeping cfg) x)
    (h : ∀ w₀, Sound cfg w₀.db → Sheltered cfg raw index value w₀ → Triple (· = w₀) x
      (fun _ => Untouched index value w₀) (fun _ => Untouched index value w₀)) :
    Within (Guarding cfg raw index value) x :=
  fun w hsound hw => ⟨hkeep w hsound, (h w hsound hw).final rfl⟩

/-- **A commit spares every open reader.** -/
theorem guarding_commit (transaction : ℕ) :
    Within (Guarding cfg raw index value) (commit cfg transaction) := by
  refine guarding_of_triple (keeping_commit transaction) fun w₀ hsound h => ?_
  have hrefl : Untouched index value w₀ w₀ := refl_of (Sheltering cfg raw index value) w₀ h
  refine triple_committable (P := fun w => w = w₀) (fun _ hw => hw ▸ hsound)
    (fun _ _ hw => hw ▸ hrefl) fun db handle => .ite (fun _ => ?_) fun _ => ?_
  · exact (h.untouched (sheltering_of_inMemory inMemory_clearTransactionUnsafe)).pre
      fun w hw => hw.2 ▸ hrefl
  rw [commitMutations_eq]
  refine .bind (((triple_prepareCommit handle.namespaceName).both
    (h.untouched (sheltering_prepareCommit handle.namespaceName))).conseq
      (fun w hw => ⟨⟨hw.1.1.sound, hw.1.1.idle⟩, hw.2 ▸ hrefl⟩) (fun _ _ hw => hw)
      fun _ _ hw => hw.2) fun _ => ?_
  -- Behind the log record the publication succeeds, so that no fault is latched.
  refine Triple.onError (F := fun _ _ => False) (fun w hw => ?_) fun _ _ hw => hw.elim
  obtain ⟨index', namespaces, db', happlicable, -⟩ := hw.1.applicable
  have hpublish := h.untouched (sheltering_of_inMemory
    (@inMemory_publishTransaction cfg handle.namespaceName)) w hw.2
  rw [exec_publishTransaction happlicable] at hpublish ⊢
  exact hpublish

/-! ## The writer -/

lemma sheltering_beginValueWriteUnsafe (transaction : ℕ) (key : Bytes) (valueSize : ℕ) :
    Within (Sheltering cfg raw index value)
      (beginValueWriteUnsafe cfg transaction key valueSize) := by
  unfold beginValueWriteUnsafe makeValueRoom
  refine .bind Within.failIf fun _ => .bind Within.getDb fun _ => .bind Within.liftResult fun _ =>
    .bind Within.failIf fun _ => .bind (.bind Within.getDb fun _ => .ite
      (.bind sheltering_compactTablesUnsafe fun _ => .bind Within.getDb fun _ => Within.failIf)
        .pure) fun _ => ?_
  exact .bind Within.getDb fun _ =>
    .bind (sheltering_modifyDb (fun _ => .update rfl rfl (.refl _) rfl) fun _ => rfl) fun _ => .pure

/-- The next chunk of a writer lies behind every value below the tail. -/
lemma FillsBank.clearOf {m : ManifestRecord} {writer : ValueWriterSlot}
    (h : FillsBank m.bankPlace writer) (hbelow : Below value m) (chunk : ValueChunk) :
    ClearOf value (.valueChunk writer.reference.bankSlot writer.nextChunkOffset chunk) := by
  intro r hr hbank
  rw [h.bank] at hbank
  have hend := hbelow r hr hbank.symm
  rw [h.next]
  omega

lemma untouched_flushCollectedChunk (w₀ : World) (size : ℕ) :
    Triple (fun w => Writable cfg size w ∧ Untouched index value w₀ w) flushCollectedChunk
      (fun _ => Untouched index value w₀) (fun _ => Untouched index value w₀) := by
  have hwriting : ∀ {w write}, ClearOf value write → Untouched index value w₀ w →
      Triple (· = w) (writeStorage write) (fun _ => Untouched index value w₀)
        (fun _ => Untouched index value w₀) := fun hclear hw =>
    Within.triple (R := fun a b => Spared index value a b ∧ SameParts a b)
      (fun a => ⟨spared_writeStorage hclear a, sameParts_writeStorage _ a⟩)
      (fun _ _ _ ha hstep => hw.step (ha ▸ hstep.1) (ha ▸ hstep.2.bankPlace))
      fun _ _ _ ha hstep => hw.step (ha ▸ hstep.1) (ha ▸ hstep.2.bankPlace)
  unfold flushCollectedChunk flushValueWriterChunkUnsafe
  refine .bind Triple.fetch fun db => .ite (fun _ => ?_) fun _ => .pure fun _ hw => hw.1.2
  refine .bind (Q := fun db' w => (Writable cfg size w ∧ Untouched index value w₀ w) ∧ w.db = db')
    (Triple.getDb fun w hw => ⟨hw.1, rfl⟩) fun db' => ?_
  dsimp only
  refine .bind (Triple.check fun _ hw => hw.1.2) fun _ => ?_
  cases encodeValueChunk db'.manifest.databaseId db'.valueWriter.reference.bankGeneration
      db'.valueWriter.reference.firstChunkOffset db'.valueWriter.expectedSize
      (db'.valueWriter.writtenSize - db'.valueWriter.chunkPayloadSize)
      (db'.valueWriter.buffer.take db'.valueWriter.chunkPayloadSize) with
  | none => exact .throw fun _ hw => hw.1.1.2
  | some chunk =>
      refine .bind (Q := fun _ => Untouched index value w₀) (.of_state fun w hw => ?_) fun _ =>
        Triple.modifyDb fun w hw => hw.step (.update rfl rfl (.refl _) rfl) rfl
      obtain ⟨⟨⟨hwritable, huntouched⟩, rfl⟩, -⟩ := hw
      exact hwriting ((hwritable.writer.fills hwritable.external).clearOf huntouched.below chunk)
        huntouched

lemma untouched_writeValueLoop (w₀ : World) (fuel : ℕ) (data : Bytes) :
    Triple (fun w => Writable cfg data.length w ∧ Untouched index value w₀ w)
      (writeValueLoop fuel data) (fun _ => Untouched index value w₀)
      (fun _ => Untouched index value w₀) := by
  induction fuel generalizing data with
  | zero => exact .pure fun _ hw => hw.2
  | succ fuel ih =>
      unfold writeValueLoop
      refine .ite (fun _ => ?_) fun _ => .pure fun _ hw => hw.2
      refine .bind Triple.fetch fun db => ?_
      dsimp only
      obtain ⟨part, hpart⟩ : ∃ part, part =
        data.take (valueChunkPayloadSize - db.valueWriter.chunkPayloadSize) := ⟨_, rfl⟩
      rw [← hpart]
      have hlength : part.length ≤ data.length := by
        rw [hpart, List.length_take]
        exact min_le_right _ _
      refine .bind (Q := fun _ w => Writable cfg (data.length - part.length) w ∧
        Untouched index value w₀ w) (Triple.modifyDb fun w hw => ?_) fun _ => ?_
      · refine ⟨hw.1.1.append ?_ hlength, hw.1.2.step (.update rfl rfl (.refl _) rfl) rfl⟩
        rw [hw.2, hpart, List.length_take]
        exact min_le_left _ _
      · have hrest := ih (data.drop part.length)
        rw [List.length_drop] at hrest
        refine .bind (((triple_flushCollectedChunk _).both (untouched_flushCollectedChunk w₀ _)).conseq
          (fun _ hw => ⟨hw.1, hw⟩) (fun _ _ hw => hw) fun _ _ hw => hw.2) fun _ => hrest

/-- **Writing spares every open reader.** -/
theorem guarding_writeValueUnsafe (data : Bytes) :
    Within (Guarding cfg raw index value) (writeValueUnsafe data) := by
  refine guarding_of_triple (keeping_writeValueUnsafe data) fun w₀ hsound h => ?_
  have hrefl : Untouched index value w₀ w₀ := refl_of (Sheltering cfg raw index value) w₀ h
  unfold writeValueUnsafe
  refine .bind Triple.fetch fun db => .of_pure (fun w hw => hw.2 ▸ congrArg World.db hw.1) ?_
  rintro rfl
  refine .pre (S := (· = w₀)) ?_ fun w hw => hw.1
  refine .bind (Triple.check fun _ hw => hw ▸ hrefl) fun _ => .of_pure (fun _ hw => hw.2)
    fun hchecks => .pre (S := (· = w₀)) ?_ fun _ hw => hw.1
  push Not at hchecks
  obtain ⟨hactive, hroom⟩ := hchecks
  have hactive' : w₀.db.valueWriter.active = true := by simpa using hactive
  have hwritten := (hsound.writer hactive').written
  refine .ite (fun _ => Triple.modifyDb fun w hw => ?_) fun hexternal => ?_
  · rw [hw]
    exact hrefl.step (.update rfl rfl (.refl _) rfl) rfl
  · refine (@untouched_writeValueLoop cfg index value w₀ _ data).pre fun w hw => ?_
    rw [hw]
    exact ⟨⟨hsound, hactive', by simpa using hexternal, by omega⟩, hrefl⟩

/-- **Finishing a value spares every open reader**: the tail only moves on. -/
theorem guarding_finishValueWriteUnsafe :
    Within (Guarding cfg raw index value) (finishValueWriteUnsafe cfg) := by
  refine guarding_of_triple keeping_finishValueWriteUnsafe fun w₀ hsound h => ?_
  have hrefl : Untouched index value w₀ w₀ := refl_of (Sheltering cfg raw index value) w₀ h
  have hreset : Triple (Untouched index value w₀) resetWriter (fun _ => Untouched index value w₀)
      (fun _ => Untouched index value w₀) :=
    h.untouched (sheltering_of_inMemory inMemory_resetWriter)
  unfold finishValueWriteUnsafe
  refine .bind Triple.fetch fun db => .of_pure (fun w hw => hw.2 ▸ congrArg World.db hw.1) ?_
  rintro rfl
  refine .pre (S := (· = w₀)) ?_ fun w hw => hw.1
  refine .bind (Triple.check fun _ hw => hw ▸ hrefl) fun _ => .of_pure (fun _ hw => hw.2)
    fun hchecks => .pre (S := (· = w₀)) ?_ fun _ hw => hw.1
  push Not at hchecks
  obtain ⟨hactive, -, -⟩ := hchecks
  refine .bind (Q := fun _ => Untouched index value w₀)
    (Triple.onError (F := fun _ => Untouched index value w₀) (.bind (Q := fun db w => w = w₀ ∧
      stageWriterValue cfg w₀.db = .ok db) (Triple.liftResult (fun _ _ hw hf => ⟨hw, hf⟩)
        fun _ _ hw _ => hw ▸ hrefl) fun db => Triple.modifyDb fun w hw => ?_)
      fun _ => hreset) fun _ => hreset
  obtain ⟨rfl, hstage⟩ := hw
  have hframe := stageWriterValue_frame hstage
  have hwriter : db.valueWriter = w.db.valueWriter := by rw [hframe]
  have hmanifest : db.manifest = w.db.manifest := by rw [hframe]
  have hreaders : db.valueReaders = w.db.valueReaders := by rw [hframe]
  have hinitialized : db.initialized = w.db.initialized := by rw [hframe]
  have hfaulted : db.storageFaulted = w.db.storageFaulted := by rw [hframe]
  split_ifs with hinline
  · exact hrefl.step (.update (by rw [hreaders]) hinitialized (by rw [hmanifest]; exact .refl _)
      hfaulted) (by rw [hmanifest])
  · refine ⟨.update (congrFun hreaders _) hinitialized ?_ hfaulted, ?_⟩
    · rw [← hmanifest]
      exact ⟨rfl, rfl⟩
    · have hfills := (hsound.writer (by simpa using hactive)).fills (by simpa using hinline)
      have hplace := @bankPlace_publishWriterTail db (by rw [hwriter, hmanifest]; exact hfills.bank)
      intro r hr hbank
      rw [hplace, hmanifest] at hbank ⊢
      have hend := h.below r hr hbank
      dsimp only
      rw [hwriter, hfills.next]
      omega

lemma guarding_set (transaction : ℕ) (key data : Bytes) :
    Within (Guarding cfg raw index value) (set cfg transaction key data) := by
  have hmemory : ∀ {β : Type} {x : DbM β}, Within SameParts x → Within InMemory x →
      Within (Guarding cfg raw index value) x := fun hparts hx =>
    guarding_of_sheltering (keeping_of_sameParts hparts) (sheltering_of_inMemory hx)
  unfold set setExternal
  exact .bind Within.failIf fun _ =>
    .bind (hmemory sameParts_acquireOperationLock inMemory_acquireOperationLock) fun _ => .ite
      (guarding_of_sheltering (keeping_stageValueUnsafe transaction key rfl)
        (sheltering_of_inMemory (inMemory_stageValueUnsafe transaction key _)))
      (Within.onError
        (.bind (guarding_of_sheltering (keeping_beginValueWriteUnsafe _ _ _)
            (sheltering_beginValueWriteUnsafe _ _ _)) fun _ =>
          .bind (guarding_writeValueUnsafe _) fun _ => guarding_finishValueWriteUnsafe)
        (.bind Within.getDb fun _ => .ite (guarding_of_sheltering keeping_resetWriter
          (sheltering_of_inMemory inMemory_resetWriter)) .pure))

lemma guarding_withWriter (writer : ℕ) {x : DbM Unit} (h : Within (Guarding cfg raw index value) x) :
    Within (Guarding cfg raw index value) (withWriter writer x) := by
  unfold withWriter
  exact .bind (guarding_of_sheltering (keeping_of_sameParts sameParts_acquireOperationLock)
      (sheltering_of_inMemory inMemory_acquireOperationLock)) fun _ =>
    .bind Within.getDb fun _ => .bind Within.liftResult fun _ => h

/-! ## Other readers -/

/-- A new reader takes a slot that is not in use. -/
lemma sheltering_openValue (handle : ℕ) (key : Bytes) :
    Within (Sheltering cfg raw index value) (openValue cfg handle key) := by
  unfold openValue openValueUnsafe
  refine .bind Within.failIf fun _ =>
    .bind (sheltering_of_inMemory inMemory_acquireOperationLock) fun _ =>
    .bind Within.getDb fun _ => .bind Within.liftResult fun _ =>
    .bind (sheltering_of_inMemory inMemory_readStorage) fun view => .bind Within.failIf fun _ => ?_
  intro w hw
  rw [exec_bind, exec_getDb]
  dsimp only
  refine Within.bind (R := Sheltering cfg raw index value) Within.failIf (fun _ =>
    .bind Within.failIf fun _ => ?_) w hw
  cases hfree : (List.range cfg.maxValueReaders).find? fun i => !(w.db.valueReaders i).used with
  | none => exact .throw
  | some i =>
      have hi : i ≠ index := by
        rintro rfl
        have hunused := List.find?_some hfree
        rw [(getValueReaderUnsafe_eq_ok hw.token).2.2] at hunused
        cases hunused
      exact .bind (sheltering_modifyDb (fun _ => .update rfl rfl (.refl _) rfl) fun _ => rfl)
        fun _ => .bind (sheltering_of_turning hi (turning_setReader _ _)) fun _ => .pure

/-- A call on a reader with another token works on another slot. -/
lemma sheltering_withReader {other : ℕ} (hother : other ≠ raw) {x : ℕ → DbM α}
    (h : ∀ i, Within (Turning i) (x i)) :
    Within (Sheltering cfg raw index value) (withReader cfg other x) := by
  unfold withReader
  refine .bind (sheltering_of_inMemory inMemory_acquireOperationLock) fun _ => fun w hw => ?_
  rw [exec_bind, exec_getDb]
  dsimp only
  rw [exec_bind, exec_liftResult]
  cases hfound : getValueReaderUnsafe cfg w.db other with
  | error e => exact refl_of (Sheltering cfg raw index value) w hw
  | ok i =>
      dsimp only
      refine sheltering_of_turning (fun hi => hother ?_) (h i) w hw
      rw [hi] at hfound
      exact decodeHandleValue_inj (getValueReaderUnsafe_eq_ok hfound).1
        (getValueReaderUnsafe_eq_ok hw.token).1

/-! ## All calls -/

/-- The token of the reader a call works on. -/
def Call.reader? : Call → Option ℕ
  | .peekValue raw => some raw
  | .readValueInto raw _ => some raw
  | .consumeValue raw _ => some raw
  | .seekValue raw _ => some raw
  | .closeReader raw => some raw
  | _ => none

/-- An open reader keeps the instance busy. -/
lemma Sheltered.busy {w : World} (h : Sheltered cfg raw index value w) :
    resourcesBusy cfg w.db = true := by
  obtain ⟨-, hindex, hused⟩ := getValueReaderUnsafe_eq_ok h.token
  have hany : (List.range cfg.maxValueReaders).any (fun i => (w.db.valueReaders i).used) = true :=
    List.any_eq_true.mpr ⟨index, List.mem_range.mpr hindex, hused⟩
  unfold resourcesBusy
  rw [hany, Bool.or_true, Bool.true_or]

/-- **Every call that is not on the reader and does not close the instance spares the reader.** -/
theorem guarding_perform {c : Call} (hreader : c.reader? ≠ some raw) (hforce : c ≠ .deinit true) :
    Within (Guarding cfg raw index value) (perform cfg c) := by
  have hother : ∀ {other : ℕ}, c.reader? = some other → other ≠ raw := fun hc hsame =>
    hreader (hc.trans (congrArg some hsame))
  have hshelter : c.isLifecycle = false → Within (Sheltering cfg raw index value) (perform cfg c) →
      Within (Guarding cfg raw index value) (perform cfg c) := fun hc h =>
    guarding_of_sheltering (keeping_perform hc) h
  cases c with
  | init =>
      refine Within.done fun w hsound hw => ?_
      rw [init_open hw.initialized]
      exact refl_of (Guarding cfg raw index value) w hsound hw
  | deinit force =>
      cases force with
      | true => exact absurd rfl hforce
      | false =>
          refine Within.done fun w hsound hw => ?_
          unfold deinit
          rw [exec_bind, exec_getDb]
          dsimp only
          rw [if_pos hw.initialized, exec_bind, exec_failIf, if_pos ⟨hw.busy, rfl⟩]
          exact refl_of (Guarding cfg raw index value) w hsound hw
  | openNamespace name mode =>
      exact hshelter rfl (sheltering_of_inMemory (Within.map (inMemory_openNamespace name mode)))
  | closeHandle handle =>
      exact hshelter rfl (sheltering_of_inMemory (Within.done (inMemory_closeHandle handle)))
  | begin handle =>
      exact hshelter rfl (sheltering_of_inMemory (Within.map (inMemory_beginTransaction handle)))
  | set transaction key data => exact Within.done (guarding_set transaction key data)
  | eraseKey transaction key =>
      exact hshelter rfl (sheltering_of_inMemory (Within.done (inMemory_eraseKey transaction key)))
  | beginValueWrite transaction key valueSize =>
      exact hshelter rfl (.bind (sheltering_of_inMemory inMemory_acquireOperationLock) fun _ =>
        Within.map (sheltering_beginValueWriteUnsafe transaction key valueSize))
  | writeValue writer data =>
      exact Within.done (guarding_withWriter writer (guarding_writeValueUnsafe data))
  | finishValueWrite writer =>
      exact Within.done (guarding_withWriter writer guarding_finishValueWriteUnsafe)
  | abortValueWrite writer =>
      exact Within.done (guarding_withWriter writer (guarding_of_sheltering keeping_resetWriter
        (sheltering_of_inMemory inMemory_resetWriter)))
  | commit transaction => exact Within.done (guarding_commit transaction)
  | abort transaction =>
      exact hshelter rfl (sheltering_of_inMemory (Within.done (inMemory_abort transaction)))
  | openValue handle key => exact hshelter rfl (Within.map (sheltering_openValue handle key))
  | peekValue other =>
      exact hshelter rfl (Within.map (sheltering_withReader (hother rfl) turning_peekValueUnsafe))
  | readValueInto other size =>
      exact hshelter rfl (Within.map (sheltering_withReader (hother rfl) fun i =>
        turning_readValueIntoUnsafe i size))
  | consumeValue other size =>
      exact hshelter rfl (Within.done (sheltering_withReader (hother rfl) fun i =>
        turning_consumeValueUnsafe i size))
  | seekValue other offset =>
      exact hshelter rfl (Within.done (sheltering_withReader (hother rfl) fun i =>
        turning_seekValueUnsafe i offset))
  | closeReader other =>
      exact hshelter rfl (Within.done (sheltering_withReader (hother rfl) turning_closeReader))

end On9kvdb
