import On9kvdb.Meaning.Writer

/-!
# Staging

A staged value replaces what was staged for its key, or comes behind the other ones.  Whatever it
denotes is an edit of the transaction (`Holding.put`): the bytes of an inline value, nothing for a
tombstone, and the bytes of a finished writer, which are then below the tail of the active bank.
-/

namespace On9kvdb

open Exceptional Versions

variable {cfg : Config} {w w' : World} {c : CompositeKey → Option Bytes} {staging : Staging}
  {key : Bytes} {o : Option Bytes} {v : StoredValue}

/-! ## One more edit -/

/-- The staging with what is staged for `key`. -/
def Staging.put (staging : Staging) (key : Bytes) (o : Option Bytes) : Staging :=
  if staging.any (fun s => s.1 == key) then staging.map fun s => if s.1 = key then (key, o) else s
  else staging ++ [(key, o)]

lemma lookup_replaced (staging : Staging) (key name : Bytes) (o : Option Bytes) :
    (staging.map fun s => if s.1 = key then (key, o) else s).lookup name =
      if name = key ∧ staging.any (fun s => s.1 == key) = true then some o
      else staging.lookup name := by
  induction staging with
  | nil => simp
  | cons s rest ih =>
      obtain ⟨name', o'⟩ := s
      rw [List.map_cons, List.lookup_cons, ih, List.lookup_cons, List.any_cons]
      by_cases hkey : name' = key
      · subst hkey
        by_cases hname : name = name'
        · simp [hname]
        · simp [hname, beq_eq_false_iff_ne.mpr hname]
      · have hother : (name' == key) = false := beq_eq_false_iff_ne.mpr hkey
        dsimp only
        rw [if_neg hkey, hother, Bool.false_or]
        by_cases hname : name = name'
        · subst hname
          simp [hkey]
        · simp only [beq_eq_false_iff_ne.mpr hname]

/-- **An edit counts for its key, and for no other.** -/
lemma Staging.edits_put (staging : Staging) (key : Bytes) (o : Option Bytes) :
    (staging.put key o).edits = Function.update staging.edits key (some o) := by
  funext name
  unfold edits put
  by_cases hany : staging.any (fun s => s.1 == key) = true
  · rw [if_pos hany, lookup_replaced]
    by_cases hname : name = key
    · rw [if_pos ⟨hname, hany⟩, hname, Function.update_self]
    · rw [if_neg fun h => hname h.1, Function.update_of_ne hname]
  · rw [if_neg hany, List.lookup_append]
    by_cases hname : name = key
    · have hnone : staging.lookup key = none := by
        refine List.lookup_eq_none_iff.mpr fun s hs => ?_
        have hne := List.any_eq_false.mp (Bool.eq_false_of_not_eq_true hany) s hs
        simp only [beq_iff_eq] at hne
        exact bne_iff_ne.mpr fun heq => hne heq.symm
      rw [hname, hnone, Function.update_self]
      simp
    · rw [Function.update_of_ne hname]
      have hnone : [(key, o)].lookup name = none := by
        rw [List.lookup_cons, beq_eq_false_iff_ne.mpr hname]
        rfl
      rw [hnone, Option.or_none]

/-- A staged value means an edit. -/
lemma Stages.put (h : Stages cfg staging w) (hdenotes : Denotes w.db.manifest w.dev.current v o)
    (hsmall : v.inlineSize ≤ cfg.inlineValueLen) (hmanifest : w'.db.manifest = w.db.manifest)
    (hdev : w'.dev.current = w.dev.current)
    (hmutations : w'.db.transaction.mutations = putMutation w.db.transaction.mutations key v) :
    Stages cfg (staging.put key o) w' := by
  obtain ⟨hmeans, hsmalls⟩ := h
  rw [List.forall₂_map_left_iff] at hmeans
  have hany : w.db.transaction.mutations.any (fun m => m.key == key) =
      staging.any (fun s => s.1 == key) := by
    clear hsmalls hmutations
    generalize w.db.transaction.mutations = mutations at hmeans
    induction hmeans with
    | nil => rfl
    | @cons m s _ _ hm _ ih =>
        have hkey : m.key = s.1 := hm.1
        rw [List.any_cons, List.any_cons, ih, hkey]
  refine ⟨?_, fun n hn => ?_⟩
  · rw [hmutations, hmanifest, hdev, List.forall₂_map_left_iff]
    unfold putMutation Staging.put
    rw [hany]
    split_ifs
    · rw [List.forall₂_map_left_iff, List.forall₂_map_right_iff]
      refine hmeans.imp fun m s hm => ?_
      have hkey : m.key = s.1 := hm.1
      rw [hkey]
      split_ifs with hsame
      · exact ⟨hsame, hdenotes⟩
      · exact hm
    · exact List.rel_append hmeans (.cons ⟨rfl, hdenotes⟩ .nil)
  · obtain ⟨m, hm, rfl⟩ := List.mem_map.mp hn
    rw [hmutations] at hm
    show m.value.inlineSize ≤ _
    rcases mem_putMutation hm with hold | ⟨-, hvalue⟩
    · exact hsmalls _ (List.mem_map_of_mem hold)
    · rw [hvalue]
      exact hsmall

/-- **A staged value is an edit** of what the database holds. -/
lemma Holding.put (h : Holding cfg c staging w)
    (hdenotes : Denotes w.db.manifest w.dev.current v o)
    (hsmall : v.inlineSize ≤ cfg.inlineValueLen) {db : Db}
    (hdb : db = { w.db with transaction := db.transaction })
    (hmutations : db.transaction.mutations = putMutation w.db.transaction.mutations key v) :
    Holding cfg c (staging.put key o) { w with db := db } :=
  ⟨h.serves.of_eq rfl (by rw [hdb]) (by rw [hdb]) (by rw [hdb]) (by rw [hdb]) (by rw [hdb]),
    h.stages.put hdenotes hsmall (by rw [hdb]) rfl hmutations⟩

/-- A staging that succeeds. -/
lemma Holding.stageValue (h : Holding cfg c staging w) {db : Db} {raw : ℕ}
    (hstage : stageValueUnsafe cfg w.db raw key v = .ok db)
    (hdenotes : Denotes w.db.manifest w.dev.current v o) :
    Holding cfg c (staging.put key o) { w with db := db } := by
  have hsmall : v.inlineSize ≤ cfg.inlineValueLen := by
    unfold stageValueUnsafe at hstage
    rw [bind_eq_ok] at hstage
    obtain ⟨_, hchecks, -⟩ := hstage
    have hchecks := rejectIf_eq_ok.mp hchecks
    push Not at hchecks
    exact hchecks.2
  obtain ⟨-, -, stagedBytes, rfl⟩ := stageValueUnsafe_eq_ok hstage
  exact h.put hdenotes hsmall rfl rfl

/-! ## Finished values -/

section
variable {written : Bytes} {size : ℕ}

/-- The descriptor of a finished writer. -/
def ValueWriterSlot.finished (writer : ValueWriterSlot) : ValueRef :=
  { writer.reference with valueChecksum := ~~~ writer.checksumState }

/-- **The media hold a finished value** under the descriptor of its writer. -/
lemma WriterHas.holds (h : WriterHas cfg key size written w) (hsound : Sound cfg w.db)
    (hexternal : w.db.valueWriter.inlineValue = false)
    (hcomplete : w.db.valueWriter.writtenSize = w.db.valueWriter.expectedSize)
    (hflushed : w.db.valueWriter.chunkPayloadSize = 0) :
    Holds w.db.manifest w.dev.current w.db.valueWriter.finished written := by
  have hfills := (hsound.writer h.active).fills hexternal
  have hlength : written.length = w.db.valueWriter.reference.valueSize := by
    rw [hfills.size, ← hcomplete, h.count]
  have hchunks := (h.external hexternal).chunks
  rw [hflushed, Nat.sub_zero, h.count, List.take_length] at hchunks
  refine ⟨?_, ?_⟩
  · have hall : Chunked w.db.manifest w.dev.current w.db.valueWriter.finished written := hchunks
    have hread := @Chunked.read w.db.manifest w.dev.current w.db.valueWriter.finished written hall
      hlength (chunkCount w.db.valueWriter.finished.valueSize) 0 (Nat.zero_add _)
    rwa [Nat.zero_mul, List.drop_zero] at hread
  · show calcCrc32 written = ~~~ w.db.valueWriter.checksumState
    rw [h.checksum]
    rfl

/-- The tail of the active bank moves behind a finished value. -/
lemma undisturbed_publishWriterTail (hsound : Sound cfg w.db)
    (hactive : w.db.valueWriter.active = true) (hexternal : w.db.valueWriter.inlineValue = false)
    (hend : w.db.valueWriter.finished.endOffset = w.db.valueWriter.nextChunkOffset)
    (hbound : w.db.valueWriter.finished.endOffset ≤ cfg.geometry.valueBankSize) :
    Undisturbed cfg w { w with db := publishWriterTail w.db } := by
  have hfills := (hsound.writer hactive).fills hexternal
  refine ⟨rfl, rfl, rfl, ⟨rfl, rfl⟩, fun v hv => ?_, rfl, rfl, rfl, fun _ _ => .of_eq rfl rfl rfl rfl,
    fun _ _ _ _ _ _ => rfl⟩
  refine valueInActiveBank_mono (bankPlace_publishWriterTail hfills.bank) ?_ ?_ hv
  · rw [hfills.next]
    exact Nat.le_add_right _ _
  · rw [← hend]
    exact hbound

/-- **A finished external value is an edit.** -/
lemma Composing.stageExternal (h : Composing cfg c staging key size written w)
    (hsound : Sound cfg w.db) (hexternal : w.db.valueWriter.inlineValue = false)
    (hcomplete : w.db.valueWriter.writtenSize = w.db.valueWriter.expectedSize)
    (hflushed : w.db.valueWriter.chunkPayloadSize = 0) {db : Db}
    (hstage : stageWriterValue cfg w.db = .ok db) :
    Holding cfg c ((staging.put key (some [])).put key (some written))
      { w with db := publishWriterTail db } := by
  obtain ⟨hholding, hwritten⟩ := h
  have hfills := (hsound.writer hwritten.active).fills hexternal
  have hholds := hwritten.holds hsound hexternal hcomplete hflushed
  have hend : w.db.valueWriter.finished.endOffset = w.db.valueWriter.nextChunkOffset :=
    hfills.complete hcomplete hflushed _
  unfold stageWriterValue at hstage
  dsimp only at hstage
  rw [hexternal, if_neg (by decide), hwritten.key] at hstage
  unfold stageExternalValueUnsafe at hstage
  rw [bind_eq_ok] at hstage
  obtain ⟨_, hmatches, hstage⟩ := hstage
  rw [bind_eq_ok] at hstage
  obtain ⟨middle, hmiddle, hstage⟩ := hstage
  cases hstage
  have hmatches' := Bool.eq_true_of_not_eq_false (rejectIf_eq_ok.mp hmatches)
  obtain ⟨-, -, stagedBytes, rfl⟩ := stageValueUnsafe_eq_ok hmiddle
  have hmoved := hholding.undisturbed hsound (undisturbed_publishWriterTail hsound hwritten.active
    hexternal hend (endOffset_le_of_matches hmatches'))
  -- the empty value that the code stages first is replaced in place
  have hempty := @Holding.put cfg _ c staging key (some []) (.inline []) hmoved (.inline [])
    (Nat.zero_le _) { publishWriterTail w.db with
      transaction := { w.db.transaction with
        mutations := putMutation w.db.transaction.mutations key (.inline [])
        stagedValueBytes := stagedBytes } } rfl rfl
  exact @Holding.put cfg _ c _ key (some written) (.external w.db.valueWriter.finished) hempty
    (.external (hholds.congr ⟨rfl, rfl⟩ fun _ _ => rfl)) (Nat.zero_le _) { publishWriterTail w.db with
      transaction := { w.db.transaction with
        mutations := putMutation (putMutation w.db.transaction.mutations key (.inline [])) key
          (.external w.db.valueWriter.finished)
        stagedValueBytes := stagedBytes } } rfl rfl

/-- The state behind a writer that has been given up. -/
def World.writerReset (w : World) : World :=
  { w with db := { w.db with valueWriter := { generation := w.db.valueWriter.generation } } }

lemma triple_resetWriter_eq {P : World → Prop} {E : EspErr → World → Prop} (w₀ : World)
    (h : P w₀.writerReset) : Triple (· = w₀) resetWriter (fun _ => P) E := by
  unfold resetWriter modifyWriter
  exact Triple.modifyDb fun w hw => by rw [hw]; exact h

/-- **A finished value is an edit**, and when it cannot be staged the writer is given up. -/
theorem triple_finishValueWriteUnsafe_composing {w₀ : World}
    (h : Composing cfg c staging key size written w₀) (hsound : Sound cfg w₀.db) :
    Triple (· = w₀) (finishValueWriteUnsafe cfg)
      (fun _ w => written.length = size ∧ w.db.valueWriter.active = false ∧
        ∃ staging', Holding cfg c staging' w ∧
          staging'.edits = Function.update staging.edits key (some (some written)))
      (fun _ w => w = w₀ ∨ w = w₀.writerReset) := by
  obtain ⟨hholding, hwritten⟩ := h
  unfold finishValueWriteUnsafe
  refine .bind Triple.fetch fun db => .of_pure (fun w hw => hw.2 ▸ congrArg World.db hw.1) ?_
  rintro rfl
  refine .bind (Triple.check fun w hw => .inl hw.1) fun _ => .of_pure (fun _ hw => hw.2)
    fun hchecks => .pre (S := (· = w₀)) ?_ fun _ hw => hw.1.1
  push Not at hchecks
  obtain ⟨-, hcomplete, hflushed⟩ := hchecks
  have hlength : written.length = size := by
    rw [← hwritten.count, hcomplete, hwritten.expected]
  refine .bind (Q := fun _ w => ∃ staging', Holding cfg c staging' w ∧
      staging'.edits = Function.update staging.edits key (some (some written)))
    (Triple.onError (F := fun _ => (· = w₀)) (.bind (Q := fun db w => w = w₀ ∧
      stageWriterValue cfg w₀.db = .ok db) (Triple.liftResult (fun _ _ hw hf => ⟨hw, hf⟩)
        fun _ _ hw _ => hw) fun db => Triple.modifyDb fun w hw => ?_)
      fun _ => triple_resetWriter_eq w₀ (.inr rfl)) fun _ => ?_
  · obtain ⟨rfl, hstage⟩ := hw
    split_ifs with hinline
    · unfold stageWriterValue at hstage
      dsimp only at hstage
      rw [if_pos hinline, hwritten.key, hwritten.inline hinline, hwritten.expected, ← hlength,
        List.take_length] at hstage
      exact ⟨_, hholding.stageValue hstage (.inline written), Staging.edits_put _ _ _⟩
    · refine ⟨_, Composing.stageExternal ⟨hholding, hwritten⟩ hsound (by simpa using hinline) hcomplete
        hflushed hstage, ?_⟩
      rw [Staging.edits_put, Staging.edits_put, Function.update_idem]
  · unfold resetWriter modifyWriter
    refine Triple.modifyDb fun w hw => ?_
    obtain ⟨staging', hholding', hedits⟩ := hw
    exact ⟨hlength, rfl, staging', hholding'.withWriter _, hedits⟩

end

end On9kvdb
