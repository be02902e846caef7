import On9kvdb.Commit.Keep
import On9kvdb.Snapshot.Content

/-!
# What protects the value of an open reader

While a reader is open its value lies in one of the two banks.  In the active bank it lies below
the tail, and new values are only written behind the tail; the inactive bank is only written by a
compaction, and a compaction refuses a destination that a reader pins.  `Sheltered` is the condition
of such a reader and `Spared` what happens to it meanwhile: its slot stays, and no write touches a
chunk of its value.
-/

namespace On9kvdb

open Exceptional

variable {cfg : Config} {α : Type} {raw index : ℕ} {value : Option ValueRef}

/-! ## Writes that spare a value -/

/-- The write touches no chunk of the value. -/
def ClearOf (value : Option ValueRef) : Write → Prop
  | .valueChunk bank offset _ => ∀ r ∈ value, bank = r.bankSlot → r.endOffset ≤ offset
  | _ => True

/-- The chunks of the value are the same in both images. -/
def SameChunks (value : Option ValueRef) (m m' : Media) : Prop :=
  ∀ r ∈ value, ∀ i < chunkCount r.valueSize,
    m'.valueChunk r.bankSlot (r.chunkOffset i) = m.valueChunk r.bankSlot (r.chunkOffset i)

lemma ValueRef.chunkOffset_lt {r : ValueRef} {i : ℕ} (h : i < chunkCount r.valueSize) :
    r.chunkOffset i < r.endOffset := by
  unfold ValueRef.chunkOffset ValueRef.endOffset
  simp only [valueChunkSize, formatAlignment]
  omega

lemma sameChunks_applyTorn (m : Media) (w : Write) : SameChunks value m (w.applyTorn m) := by
  intro r _ i _
  cases w <;> rfl

lemma ClearOf.sameChunks_apply {w : Write} (h : ClearOf value w) (m : Media) :
    SameChunks value m (w.apply m) := by
  intro r hr i hi
  cases w with
  | valueChunk bank offset chunk =>
      show update₂ m.valueChunk bank offset (.ok chunk) r.bankSlot (r.chunkOffset i) = _
      rw [update₂_apply, if_neg]
      rintro ⟨hbank, hoffset⟩
      have hend := h r hr hbank.symm
      have hlt := ValueRef.chunkOffset_lt hi
      omega
  | _ => rfl

/-- **Writes that spare a value leave its chunks alone.** -/
lemma Device.Steps.sameChunks {d d' : Device} (h : d.Steps (ClearOf value) d') :
    SameChunks value d.current d'.current := by
  refine h.invariant (P := fun d' => SameChunks value d.current d'.current) (fun _ _ hd => hd)
    (fun d' w hw hd r hr i hi => ?_) (fun d' hd r hr i hi => ?_) fun _ _ _ _ => rfl
  · rw [← hd r hr i hi]
    rcases d'.current_write w with hcurrent | hcurrent | hcurrent
    · rw [hcurrent]
    · rw [hcurrent]
      exact sameChunks_applyTorn d'.current w r hr i hi
    · rw [hcurrent]
      exact hw.sameChunks_apply d'.current r hr i hi
  · rw [Device.current_sync]
    exact hd r hr i hi

lemma clearOf_of_table {slot : ℕ} {w : Write} (h : IntoTable slot w) : ClearOf value w := by
  cases w with
  | valueChunk => exact h.elim
  | _ => trivial

/-- A bank the value does not lie in. -/
def Elsewhere (value : Option ValueRef) (bank : ℕ) : Prop := ∀ r ∈ value, r.bankSlot ≠ bank

lemma Elsewhere.clearOf {bank : ℕ} (h : Elsewhere value bank) {write : Write}
    (hw : IntoBank bank write) : ClearOf value write := by
  cases write with
  | valueChunk => exact fun r hr hsame => absurd (hsame.symm.trans hw) (h r hr)
  | _ => exact hw.elim

/-! ## The relation -/

/-- The reader slot and the value of the reader in it have been left alone, the instance is still
the same open database, and no fault has been latched without a device failure. -/
structure Spared (index : ℕ) (value : Option ValueRef) (w w' : World) : Prop where
  reader : w'.db.valueReaders index = w.db.valueReaders index
  initialized : w'.db.initialized = w.db.initialized
  database : SameDatabase w.db.manifest w'.db.manifest
  steps : w.dev.Steps (ClearOf value) w'.dev
  healthy : w.dev.Faultless → w'.db.storageFaulted = w.db.storageFaulted

instance : Std.Refl (Spared index value) := ⟨fun _ => ⟨rfl, rfl, .refl _, .refl, fun _ => rfl⟩⟩

instance : IsTrans World (Spared index value) := ⟨fun _ _ _ h₁ h₂ =>
  ⟨h₂.reader.trans h₁.reader, h₂.initialized.trans h₁.initialized, h₁.database.trans h₂.database,
    h₁.steps.trans h₂.steps, fun h =>
      (h₂.healthy (h₁.steps.faultless h)).trans (h₁.healthy h)⟩⟩

lemma Spared.tick (w : World) : Spared index value w { w with dev := w.dev.tick } :=
  ⟨rfl, rfl, .refl _, .clock _ .refl, fun _ => rfl⟩

/-- A change of the memory that leaves alone what a reader depends on. -/
lemma Spared.update {w : World} {db : Db} (hreader : db.valueReaders index = w.db.valueReaders index)
    (hinitialized : db.initialized = w.db.initialized)
    (hdatabase : SameDatabase w.db.manifest db.manifest)
    (hhealthy : db.storageFaulted = w.db.storageFaulted) :
    Spared index value w { w with db := db } :=
  ⟨hreader, hinitialized, hdatabase, .refl, fun _ => hhealthy⟩

lemma Spared.of_writing {S : Write → Prop} {w w' : World} (h : Writing SameButCaches S w w')
    (hS : ∀ write, S write → ClearOf value write) : Spared index value w w' := by
  have hdb := h.db
  unfold SameButCaches at hdb
  exact ⟨by rw [hdb], by rw [hdb], by rw [hdb]; exact .refl _, h.dev.mono hS, fun _ => by rw [hdb]⟩

lemma Spared.of_writing_eq {S : Write → Prop} {w w' : World} (h : Writing Eq S w w')
    (hS : ∀ write, S write → ClearOf value write) : Spared index value w w' :=
  .of_writing (h.mono (fun _ _ hdb => hdb ▸ refl_of SameButCaches _) fun _ hw => hw) hS

lemma Spared.of_caching {w w' : World} (h : Caching w w') : Spared index value w w' :=
  .of_writing (S := fun _ => False) (.of_caching h) fun _ hw => hw.elim

lemma Spared.of_merging {w w' : World} {destination : Destination}
    (h : Merging cfg w destination w') (hbank : Elsewhere value destination.bankSlot) :
    Spared index value w w' := by
  have hdb := h.db.rest
  refine ⟨by rw [hdb], by rw [hdb], by rw [hdb]; exact ⟨rfl, rfl⟩, h.dev.mono fun write hwrite => ?_,
    fun _ => by rw [hdb]⟩
  rcases hwrite with ⟨slot, -, hslot⟩ | hinto
  · exact clearOf_of_table hslot
  · exact hbank.clearOf hinto

/-! ## Methods that write no chunk -/

lemma spared_modifyDb {f : Db → Db} (h : ∀ w : World, Spared index value w { w with db := f w.db }) :
    Within (Spared index value) (modifyDb f) := Within.modifyDb h

lemma spared_readStorage {decode : Db → Media → Except EspErr α} :
    Within (Spared index value) (readStorage decode) := Within.readStorage Spared.tick

lemma spared_writeStorage {write : Write} (h : ClearOf value write) :
    Within (Spared index value) (writeStorage write) := fun w =>
  .of_writing_eq (Within.writeStorage h w) fun _ hw => hw

lemma spared_syncStorage : Within (Spared index value) syncStorage := fun w =>
  .of_writing_eq (Within.syncStorage w) fun _ hw => hw

lemma spared_writeManifestCopy (generation : ℕ) (state : ManifestState) :
    Within (Spared index value) (writeManifestCopy generation state) := by
  refine .of_triple fun w₀ => (triple_writeManifestCopy_outcome w₀ generation state).conseq
    (fun _ hw => hw) (fun _ w hw => ?_) fun _ w hw => ?_
  · obtain ⟨h, -, hsync, rfl⟩ := hw
    exact ⟨rfl, rfl, ⟨rfl, rfl⟩, steps_of_published h (S := ClearOf value) trivial hsync,
      fun _ => rfl⟩
  · rcases hw with ⟨rfl, -⟩ | ⟨h, hdb, hfailed⟩
    · exact refl_of (Spared index value) w
    · have hsteps : w₀.dev.Steps (ClearOf value) w.dev := hfailed.steps trivial
      exact ⟨by rw [hdb], by rw [hdb], by rw [hdb]; exact .refl _, hsteps,
        fun hd => absurd (hsteps.faultless hd) hfailed.not_faultless⟩

lemma spared_stabilizeManifestUnsafe : Within (Spared index value) stabilizeManifestUnsafe := by
  unfold stabilizeManifestUnsafe
  exact .bind Within.getDb fun db => .ite (.bind Within.failIf fun _ =>
    .bind (spared_writeManifestCopy _ _) fun _ =>
      spared_modifyDb fun _ => .update rfl rfl (.refl _) rfl) .pure

lemma spared_ensureWalHeader (slot generation first : ℕ) :
    Within (Spared index value) (ensureWalHeader cfg slot generation first) := by
  unfold ensureWalHeader
  refine .bind Within.failIf fun _ => .bind Within.getDb fun db => ?_
  cases encodeWalHeader db.manifest.databaseId generation first slot cfg.geometry.walSize with
  | none => exact .throw
  | some header =>
      exact .bind (spared_writeStorage trivial) fun _ =>
        .bind (spared_writeStorage trivial) fun _ => spared_syncStorage

lemma spared_rotateWalUnsafe : Within (Spared index value) (rotateWalUnsafe cfg) := by
  unfold rotateWalUnsafe
  refine .bind Within.getDb fun db => .bind Within.failIf fun _ =>
    .bind spared_stabilizeManifestUnsafe fun _ => .bind (spared_ensureWalHeader _ _ _) fun _ => ?_
  exact .bind (spared_modifyDb fun _ => .update rfl rfl ⟨rfl, rfl⟩ rfl) fun _ =>
    .bind Within.getDb fun _ => .bind (Within.onError (spared_writeManifestCopy _ _)
      (spared_modifyDb fun _ => .update rfl rfl ⟨rfl, rfl⟩ rfl)) fun _ =>
    .bind (spared_modifyDb fun _ => .update rfl rfl ⟨rfl, rfl⟩ rfl) fun _ =>
      spared_stabilizeManifestUnsafe

lemma spared_writeFrames (namespaceName : Bytes) (mutations : List Mutation) (slot tail : ℕ)
    (g : FrameGroup) (remaining frameIndex : ℕ) : Within (Spared index value)
      (writeFrames namespaceName mutations slot tail g remaining frameIndex) := by
  induction remaining generalizing frameIndex with
  | zero => exact .pure
  | succ remaining ih =>
      unfold writeFrames
      refine .bind Within.liftResult fun payload => ?_
      cases encodeWalFrame g frameIndex payload with
      | none => exact .throw
      | some frame => exact .bind (spared_writeStorage trivial) fun _ => ih _

/-! ## Open readers -/

/-- The value does not reach beyond the tail of the active bank. -/
def Below (value : Option ValueRef) (m : ManifestRecord) : Prop :=
  ∀ r ∈ value, r.bankSlot = m.bankPlace.slot → r.endOffset ≤ m.bankPlace.tail

lemma Below.of_place {m m' : ManifestRecord} (h : Below value m) (hplace : m'.bankPlace = m.bankPlace) :
    Below value m' := fun r hr hsame => by
  rw [hplace] at hsame ⊢
  exact h r hr hsame

lemma Below.of_elsewhere {m : ManifestRecord} (h : Elsewhere value m.bankPlace.slot) :
    Below value m := fun r hr hsame => absurd hsame (h r hr)

/-- An open reader on a value that is safe from new values. -/
structure Sheltered (cfg : Config) (raw index : ℕ) (value : Option ValueRef) (w : World) : Prop where
  initialized : w.db.initialized = true
  token : getValueReaderUnsafe cfg w.db raw = .ok index
  lies : (w.db.valueReaders index).externalValue = value
  below : Below value w.db.manifest

/-- The token of a reader depends on its slot. -/
lemma getValueReaderUnsafe_congr {db db' : Db} (h : getValueReaderUnsafe cfg db raw = .ok index)
    (hused : (db'.valueReaders index).used = (db.valueReaders index).used)
    (hgeneration : (db'.valueReaders index).generation = (db.valueReaders index).generation) :
    getValueReaderUnsafe cfg db' raw = .ok index := by
  obtain ⟨hdecode, hindex, huse⟩ := getValueReaderUnsafe_eq_ok h
  unfold getValueReaderUnsafe
  rw [hdecode]
  dsimp only
  rw [hused, hgeneration, huse, if_neg]
  push Not
  exact ⟨hindex, by decide, rfl⟩

namespace Sheltered

variable {w w' : World}

/-- A spared reader stays sheltered as long as the tail stays behind its value. -/
lemma spared (h : Sheltered cfg raw index value w) (hspared : Spared index value w w')
    (hbelow : Below value w'.db.manifest) : Sheltered cfg raw index value w' := by
  refine ⟨hspared.initialized.trans h.initialized, ?_, ?_, hbelow⟩
  · exact getValueReaderUnsafe_congr h.token (by rw [hspared.reader]) (by rw [hspared.reader])
  · rw [hspared.reader]
    exact h.lies

/-- **A compaction that passes its checks writes to the other bank.** -/
lemma elsewhere (h : Sheltered cfg raw index value w) {bank : ℕ}
    (hpinned : valueBankIsPinnedUnsafe cfg w.db bank = false) : Elsewhere value bank := by
  intro r hr hsame
  obtain ⟨-, hindex, hused⟩ := getValueReaderUnsafe_eq_ok h.token
  refine absurd hpinned (Bool.ne_false_iff.mpr
    (List.any_eq_true.mpr ⟨index, List.mem_range.mpr hindex, ?_⟩))
  dsimp only
  rw [hused, h.lies, Option.mem_def.mp hr, Option.any_some, Bool.true_and, beq_iff_eq]
  exact hsame

end Sheltered

/-! ## Maintenance beside an open reader -/

/-- The reader has been spared, and the tail is still behind its value. -/
structure Untouched (index : ℕ) (value : Option ValueRef) (w w' : World) : Prop where
  spared : Spared index value w w'
  below : Below value w'.db.manifest

/-- The end of the active bank is one of the parts. -/
lemma SameParts.bankPlace {w w' : World} (h : SameParts w w') :
    w'.db.manifest.bankPlace = w.db.manifest.bankPlace := congrArg Parts.place h

lemma Untouched.trans {a b c : World} (h : Untouched index value a b)
    (h' : Untouched index value b c) : Untouched index value a c :=
  ⟨trans_of (Spared index value) h.spared h'.spared, h'.below⟩

/-- A step that leaves the end of the active bank where it is. -/
lemma Untouched.step {w₀ w w' : World} (h : Untouched index value w₀ w)
    (hspared : Spared index value w w')
    (hplace : w'.db.manifest.bankPlace = w.db.manifest.bankPlace) : Untouched index value w₀ w' :=
  h.trans ⟨hspared, h.below.of_place hplace⟩

/-- What a method does beside a sheltered reader. -/
def Sheltering (cfg : Config) (raw index : ℕ) (value : Option ValueRef) (w w' : World) : Prop :=
  Sheltered cfg raw index value w → Untouched index value w w'

instance : Std.Refl (Sheltering cfg raw index value) := ⟨fun w h =>
  ⟨refl_of (Spared index value) w, h.below⟩⟩

instance : IsTrans World (Sheltering cfg raw index value) := ⟨fun _ _ _ h₁ h₂ h =>
  (h₁ h).trans (h₂ (h.spared (h₁ h).spared (h₁ h).below))⟩

lemma sheltering_of_sameParts {x : DbM α} (h : Within (Spared index value) x)
    (hparts : Within SameParts x) : Within (Sheltering cfg raw index value) x :=
  fun w hw => ⟨h w, hw.below.of_place (hparts w).bankPlace⟩

/-- **A compaction spares every open reader.** -/
theorem sheltering_compactTablesUnsafe :
    Within (Sheltering cfg raw index value) (compactTablesUnsafe cfg) := by
  intro w₀ h
  refine Triple.final (P := (· = w₀)) (F := Untouched index value w₀) ?_ rfl
  have hkeep : ∀ {α : Type} {x : DbM α}, Within (Spared index value) x → Within SameParts x →
      Triple (Untouched index value w₀) x (fun _ => Untouched index value w₀)
        (fun _ => Untouched index value w₀) := fun hx hparts =>
    Within.invariant (R := fun w w' => Untouched index value w₀ w → Untouched index value w₀ w')
      (fun w hw => hw.step (hx w) (hparts w).bankPlace) fun _ _ hw hstep => hstep hw
  have hupdate : ∀ {f : Db → Db}, (∀ w : World, Spared index value w { w with db := f w.db }) →
      (∀ db, (f db).manifest.bankPlace = db.manifest.bankPlace) →
      Triple (Untouched index value w₀) (modifyDb f) (fun _ => Untouched index value w₀)
        (fun _ => Untouched index value w₀) := fun hf hplace =>
    Triple.modifyDb fun w hw => hw.step (hf w) (hplace w.db)
  have hclear : Triple (Untouched index value w₀)
      (modifyDb fun db => { db with manifest := clearOutputTables cfg db.manifest })
      (fun _ => Untouched index value w₀) (fun _ => Untouched index value w₀) :=
    hupdate (fun _ => .update rfl rfl ⟨rfl, rfl⟩ rfl) fun _ => rfl
  unfold compactTablesUnsafe
  refine .bind Triple.fetch fun db => .of_pure (fun w hw => hw.2 ▸ congrArg World.db hw.1) ?_
  rintro rfl
  refine .bind (Q := fun _ w => w = w₀ ∧ compactionPreconditions cfg w₀.db = .ok ())
    (Triple.liftResult (fun w _ hw hchecks => ⟨hw.1, hchecks⟩)
      fun w _ hw _ => hw.1 ▸ refl_of (Sheltering cfg raw index value) _ h) fun _ =>
    .of_pure (fun w hw => hw.2) fun hchecks => ?_
  -- The check on the readers keeps the value out of the destination.
  have helsewhere : Elsewhere value (1 - w₀.db.manifest.activeValueBank) := by
    unfold compactionPreconditions at hchecks
    dsimp only at hchecks
    split_ifs at hchecks with _ hpinned
    push Not at hpinned
    exact h.elsewhere (by simpa using hpinned.1)
  refine .pre (S := Untouched index value w₀) ?_
    fun w hw => hw.1 ▸ refl_of (Sheltering cfg raw index value) _ h
  dsimp only
  obtain ⟨destination, hdestination⟩ : ∃ d : Destination, d =
    ⟨1 - w₀.db.manifest.activeValueBank,
      w₀.db.manifest.valueBankGeneration (1 - w₀.db.manifest.activeValueBank) + 1⟩ := ⟨_, rfl⟩
  have hbank : Elsewhere value destination.bankSlot := by
    rw [hdestination]
    exact helsewhere
  rw [← hdestination]
  refine .bind (hkeep (fun w => .of_caching (within_validateTables _ w))
    fun w => .of_caching (within_validateTables _ w)) fun _ => ?_
  refine .bind (hkeep Within.failIf Within.failIf) fun _ =>
    .bind (hkeep Within.liftResult Within.liftResult) fun pending => ?_
  refine .bind (hkeep (fun w => .of_caching (.of_reading (within_loadCursors _ w)))
    fun w => .of_caching (.of_reading (within_loadCursors _ w))) fun cursors => ?_
  have hmerge : ∀ fuel s, s.output = none →
      Within (Spared index value) (mergeTables cfg destination fuel s) := fun fuel s hs =>
    .of_triple fun _ => (triple_mergeTables fuel hs).conseq
      (fun w hw => hw ▸ refl_of (Writing _ _) w) (fun _ _ hm => .of_merging hm hbank)
      fun _ _ hm => .of_merging hm hbank
  refine .bind (Q := fun _ => Untouched index value w₀)
    (Triple.onError (F := fun _ => Untouched index value w₀) (.bind (hkeep (hmerge _ _ rfl) (sameParts_mergeTables _ _ rfl))
      fun s => .bind (hkeep (fun w => .of_writing_eq (within_relocateStaged _ _ _ w) fun _ => hbank.clearOf)
        fun w => .of_writing_eq (within_relocateStaged _ _ _ w)) fun _ => .pure fun _ hw => hw)
    fun _ => hclear) fun r => ?_
  refine .bind Triple.fetch fun previous => .of_pure (p := ∃ w, Untouched index value w₀ w ∧
    w.db = previous) (fun w hw => ⟨w, hw⟩) ?_
  rintro ⟨v, hv, rfl⟩
  refine .bind (Q := fun _ => Untouched index value w₀) (Triple.modifyDb fun w hw => ?_) fun _ => ?_
  · refine hw.1.trans ⟨.update rfl rfl ⟨rfl, rfl⟩ rfl, .of_elsewhere ?_⟩
    rw [bankPlace_compactedManifest]
    exact hbank
  · refine .bind (Triple.onError (F := fun _ => Untouched index value w₀)
      (.bind (hkeep spared_syncStorage sameParts_syncStorage) fun _ =>
        .bind (hkeep Within.getDb Within.getDb) fun _ =>
          hkeep (spared_writeManifestCopy _ _) (sameParts_writeManifestCopy _ _)) fun _ =>
      .bind (Q := fun _ => Untouched index value w₀) (Triple.modifyDb fun w hw => ?_)
        fun _ => hclear) fun _ => ?_
    · -- The manifest of before is of the same database, and its tail is behind the value.
      have hdatabase := hw.spared.database
      have hdatabase' := hv.spared.database
      exact hw.trans ⟨.update rfl rfl ⟨hdatabase'.databaseId.trans hdatabase.databaseId.symm,
        hdatabase'.geometry.trans hdatabase.geometry.symm⟩ rfl, hv.below⟩
    · refine .bind (hupdate (fun _ => .update rfl rfl (.refl _) rfl) fun _ => rfl) fun _ => ?_
      exact .bind (Triple.onError (F := fun _ => Untouched index value w₀)
        (hkeep spared_stabilizeManifestUnsafe sameParts_stabilizeManifestUnsafe)
        fun _ => hupdate (fun _ => .update rfl rfl (.refl _) rfl) fun _ => rfl) fun _ =>
          hupdate (fun _ => .update rfl rfl (.refl _) rfl) fun _ => rfl

lemma sheltering_flushToSlot (slot : ℕ) :
    Within (Sheltering cfg raw index value) (flushToSlot cfg slot) := by
  have hwriting : ∀ {α : Type} {x : DbM α} {s : ℕ}, Within (Writing Eq (IntoTable s)) x →
      Within (Sheltering cfg raw index value) x := fun hx =>
    sheltering_of_sameParts (fun w => .of_writing_eq (hx w) fun _ => clearOf_of_table)
      fun w => .of_writing_eq (hx w)
  unfold flushToSlot
  refine .bind (sheltering_of_sameParts (spared_modifyDb fun _ => .update rfl rfl (.refl _) rfl)
    (sameParts_modifyDb fun _ => rfl)) fun _ => .bind Within.getDb fun db =>
    .bind Within.liftResult fun records => .bind (hwriting (within_flushRecords _ _ _)) fun b =>
    .bind (hwriting (within_finishTableDataBlockUnsafe b)) fun b₁ => ?_
  refine .bind (sheltering_of_sameParts (fun w => .of_writing (within_finishTableUnsafe b₁ _ w)
    fun _ => clearOf_of_table) fun w => .of_writing (within_finishTableUnsafe b₁ _ w))
    fun reference => .bind (sheltering_of_sameParts
      (spared_modifyDb fun _ => .update rfl rfl ⟨rfl, rfl⟩ rfl) (sameParts_modifyDb fun _ => rfl))
    fun _ => ?_
  exact .bind (sheltering_of_sameParts (Within.onError (spared_writeManifestCopy _ _)
      (spared_modifyDb fun _ => .update rfl rfl ⟨rfl, rfl⟩ rfl))
    (Within.onError (sameParts_writeManifestCopy _ _) (sameParts_modifyDb fun _ => rfl))) fun _ =>
      Within.modifyDb fun _ hw => ⟨.update rfl rfl (.refl _) rfl, hw.below.of_place rfl⟩

lemma sheltering_flushMemtableUnsafe :
    Within (Sheltering cfg raw index value) (flushMemtableUnsafe cfg) := by
  unfold flushMemtableUnsafe
  refine .bind Within.getDb fun db => .ite (.bind Within.failIf fun _ => ?_) .pure
  cases freeTableSlot cfg db.manifest with
  | none => exact sheltering_compactTablesUnsafe
  | some slot => exact sheltering_flushToSlot slot

end On9kvdb
