import On9kvdb.Commit.Sound
import On9kvdb.Store.Maintenance

/-!
# What maintenance carries over

Compactions, flushes, rotations and appends work while no writer is active.  They keep the
invariant, leave the registry alone, and either leave the memtable and the staged mutations as they
are or empty the one and move the descriptors of the others to the new bank (`Carrying`).
-/

namespace On9kvdb

open Exceptional

variable {cfg : Config} {α : Type}

/-! ## Nothing the invariant reads -/

/-- None of the parts has changed. -/
def SameParts (w w' : World) : Prop := w'.db.parts = w.db.parts

instance : Std.Refl SameParts := ⟨fun _ => rfl⟩

instance : IsTrans World SameParts := ⟨fun _ _ _ h₁ h₂ => h₂.trans h₁⟩

lemma SameParts.of_caching {w w' : World} (h : Caching w w') : SameParts w w' := by
  unfold SameParts
  rw [h.db]
  rfl

lemma SameParts.of_writing {S : Write → Prop} {w w' : World} (h : Writing SameButCaches S w w') :
    SameParts w w' := by
  have hdb := h.db
  unfold SameButCaches at hdb
  unfold SameParts
  rw [hdb]
  rfl

lemma SameParts.of_writing_eq {S : Write → Prop} {w w' : World} (h : Writing Eq S w w') :
    SameParts w w' :=
  .of_writing (h.mono (fun _ _ hdb => hdb ▸ refl_of SameButCaches _) fun _ hw => hw)

lemma SameParts.of_merging {w w' : World} {destination : Destination}
    (h : Merging cfg w destination w') : SameParts w w' := by
  unfold SameParts
  rw [h.db.rest]
  rfl

lemma SameParts.of_publishing {w w' : World} (h : Publishing w w') : SameParts w w' := by
  unfold SameParts
  rw [h.db]
  rfl

lemma sameParts_modifyDb {f : Db → Db} (h : ∀ db, (f db).parts = db.parts) :
    Within SameParts (modifyDb f) := Within.modifyDb fun w => h w.db

lemma sameParts_writeManifestCopy (generation : ℕ) (state : ManifestState) :
    Within SameParts (writeManifestCopy generation state) := fun w =>
  .of_publishing (within_writeManifestCopy generation state w)

lemma sameParts_stabilizeManifestUnsafe : Within SameParts stabilizeManifestUnsafe := fun w =>
  .of_publishing (within_stabilizeManifestUnsafe w)

lemma sameParts_writeStorage (write : Write) : Within SameParts (writeStorage write) := fun w =>
  .of_writing_eq (Within.writeStorage (S := fun _ => True) trivial w)

lemma sameParts_syncStorage : Within SameParts syncStorage := fun w =>
  .of_writing_eq (Within.syncStorage (S := fun _ => True) w)

lemma sameParts_mergeTables (destination : Destination) (fuel : ℕ) {s : MergeState}
    (hs : s.output = none) : Within SameParts (mergeTables cfg destination fuel s) :=
  .of_triple fun _ => (triple_mergeTables fuel hs).conseq
    (fun w hw => hw ▸ refl_of (Writing _ _) w) (fun _ _ h => .of_merging h)
    fun _ _ h => .of_merging h

lemma sameParts_ensureWalHeader (slot generation first : ℕ) :
    Within SameParts (ensureWalHeader cfg slot generation first) := by
  unfold ensureWalHeader
  refine .bind Within.failIf fun _ => .bind Within.getDb fun db => ?_
  cases encodeWalHeader db.manifest.databaseId generation first slot cfg.geometry.walSize with
  | none => exact .throw
  | some header =>
      exact .bind (sameParts_writeStorage _) fun _ => .bind (sameParts_writeStorage _) fun _ =>
        sameParts_syncStorage

/-- A rotation moves the log and nothing else. -/
lemma sameParts_rotateWalUnsafe : Within SameParts (rotateWalUnsafe cfg) := by
  unfold rotateWalUnsafe
  refine .bind Within.getDb fun db => .bind Within.failIf fun _ =>
    .bind sameParts_stabilizeManifestUnsafe fun _ => .bind (sameParts_ensureWalHeader _ _ _)
    fun _ => ?_
  exact .bind (sameParts_modifyDb fun _ => rfl) fun _ => .bind Within.getDb fun _ =>
    .bind (Within.onError (sameParts_writeManifestCopy _ _) (sameParts_modifyDb fun _ => rfl))
      fun _ => .bind (sameParts_modifyDb fun _ => rfl) fun _ => sameParts_stabilizeManifestUnsafe

lemma sameParts_writeFrames (namespaceName : Bytes) (mutations : List Mutation) (slot tail : ℕ)
    (g : FrameGroup) (remaining frameIndex : ℕ) :
    Within SameParts (writeFrames namespaceName mutations slot tail g remaining frameIndex) := by
  induction remaining generalizing frameIndex with
  | zero => exact .pure
  | succ remaining ih =>
      unfold writeFrames
      refine .bind Within.liftResult fun payload => ?_
      cases encodeWalFrame g frameIndex payload with
      | none => exact .throw
      | some frame => exact .bind (sameParts_writeStorage _) fun _ => ih _

/-! ## Relocated descriptors -/

/-- The mutations with their descriptors moved behind `tail` in the destination bank, which now
ends at `tail'`. -/
structure Relocated (cfg : Config) (destination : Destination) (tail : ℕ)
    (mutations moved : List Mutation) (tail' : ℕ) : Prop where
  shapes : moved.map Mutation.shape = mutations.map Mutation.shape
  grows : tail ≤ tail'
  bounded : tail ≤ cfg.geometry.valueBankSize → tail' ≤ cfg.geometry.valueBankSize
  placed : (∀ m ∈ mutations, ∀ r, m.value.ref? = some r → cfg.inlineValueLen < r.valueSize) →
    ∀ m ∈ moved, ∀ r, m.value.ref? = some r → valueRefMatchesBankUnsafe cfg r destination.bankSlot
      destination.bankGeneration tail' = true

lemma returns_failIf {condition : Prop} [Decidable condition] {error : EspErr} :
    Returns (fun _ => ¬ condition) (failIf condition error) := by
  intro w u w' hrun
  rw [exec_failIf] at hrun
  by_cases h : condition
  · rw [if_pos h] at hrun
    cases hrun
  · exact h

/-- A copied value lies between the two tails of the destination. -/
lemma returns_copyExternalValueUnsafe (source : ValueRef) (bank generation tail : ℕ) :
    Returns (fun copied => tail ≤ copied.2 ∧ copied.2 ≤ cfg.geometry.valueBankSize ∧
        (cfg.inlineValueLen < source.valueSize →
          valueRefMatchesBankUnsafe cfg copied.1 bank generation copied.2 = true))
      (copyExternalValueUnsafe cfg source bank generation tail) := by
  unfold copyExternalValueUnsafe
  refine .bind returns_failIf fun _ hchecks => .bind returns_failIf fun _ hroom =>
    .bind .trivial fun _ _ => .bind .trivial fun _ _ => .pure ?_
  push Not at hchecks hroom
  obtain ⟨hvalid, hbank, hgeneration, -, hfirst, hlast, haligned⟩ := hchecks
  simp only [ne_eq, Bool.not_eq_false] at hvalid
  unfold valueRefIsValid at hvalid
  simp only [Bool.and_eq_true, decide_eq_true_eq, bne_iff_ne, beq_iff_eq] at hvalid
  obtain ⟨⟨⟨⟨⟨⟨⟨⟨-, -⟩, hsize⟩, hmax⟩, -⟩, -⟩, hbankSize⟩, -⟩, -⟩ := hvalid
  have hend : tail + chunkCount source.valueSize * valueChunkSize ≤ cfg.geometry.valueBankSize := by
    simp only [valueChunkSize, formatAlignment, identityRegionSize] at *
    omega
  refine ⟨Nat.le_add_right _ _, hend, fun hlarge => ?_⟩
  unfold valueRefMatchesBankUnsafe valueRefIsValid ValueRef.endOffset
  simp only [Bool.and_eq_true, decide_eq_true_eq, bne_iff_ne, beq_iff_eq]
  exact ⟨⟨⟨⟨⟨⟨⟨hbank, hgeneration⟩, hend⟩, hlarge⟩, trivial⟩, trivial⟩, ⟨⟨⟨⟨⟨⟨⟨⟨hbank, hgeneration⟩,
    hsize⟩, hmax⟩, hfirst⟩, haligned⟩, hbankSize⟩, hlast⟩, hend⟩⟩, le_rfl⟩

lemma returns_relocateStaged (destination : Destination) (mutations : List Mutation) (tail : ℕ) :
    Returns (fun moved => Relocated cfg destination tail mutations moved.1 moved.2)
      (relocateStaged cfg destination mutations tail) := by
  induction mutations generalizing tail with
  | nil => exact .pure ⟨rfl, le_rfl, fun h => h, fun _ m hm => absurd hm List.not_mem_nil⟩
  | cons m rest ih =>
      have hsame : m.value.ref? = none → Returns (fun moved =>
          Relocated cfg destination tail (m :: rest) moved.1 moved.2)
          (relocateStaged cfg destination rest tail >>= fun moved =>
            pure (m :: moved.1, moved.2)) := fun hinline => by
        refine .bind (ih tail) fun moved hmoved => .pure ⟨?_, hmoved.grows, hmoved.bounded,
          fun hlarge n hn => ?_⟩
        · rw [List.map_cons, List.map_cons, hmoved.shapes]
        · rcases List.mem_cons.mp hn with rfl | hn
          · intro r hr
            rw [hinline] at hr
            cases hr
          · exact hmoved.placed (fun k hk => hlarge k (List.mem_cons_of_mem _ hk)) n hn
      unfold relocateStaged
      cases hvalue : m.value with
      | tombstone => exact hsame (by rw [hvalue]; rfl)
      | inline bytes => exact hsame (by rw [hvalue]; rfl)
      | external r =>
          refine .bind .trivial fun _ _ => .bind .trivial fun _ _ =>
            .bind (returns_copyExternalValueUnsafe _ _ _ _) fun copied hcopied =>
            .bind (ih copied.2) fun moved hmoved => .pure ⟨?_, hcopied.1.trans hmoved.grows,
              fun _ => hmoved.bounded hcopied.2.1, fun hlarge n hn => ?_⟩
          · rw [List.map_cons, List.map_cons, hmoved.shapes]
            congr 1
            unfold Mutation.shape
            rw [hvalue]
            rfl
          · rcases List.mem_cons.mp hn with rfl | hn
            · intro r' hr'
              cases hr'
              have hcopy := hcopied.2.2 (hlarge m List.mem_cons_self r (by rw [hvalue]; rfl))
              exact valueRefMatchesBankUnsafe_mono
                ((endOffset_le_of_matches hcopy).trans hmoved.grows)
                (hmoved.bounded hcopied.2.1) hcopy
            · exact hmoved.placed (fun k hk => hlarge k (List.mem_cons_of_mem _ hk)) n hn

/-! ## The invariant under maintenance -/

/-- What maintenance keeps while no writer is active. -/
structure Carried (cfg : Config) (w w' : World) : Prop where
  sound : Sound cfg w'.db
  idle : w'.db.valueWriter.active = false
  memtable : w'.db.memtable = w.db.memtable ∨ w'.db.memtable = .empty
  transaction : w'.db.transaction =
    { w.db.transaction with mutations := w'.db.transaction.mutations }
  shapes : w'.db.transaction.mutations.map Mutation.shape =
    w.db.transaction.mutations.map Mutation.shape
  namespaces : w'.db.namespaces = w.db.namespaces

/-- A sound instance without an active writer is carried over. -/
def Carrying (cfg : Config) (w w' : World) : Prop :=
  Sound cfg w.db → w.db.valueWriter.active = false → Carried cfg w w'

instance : Std.Refl (Carrying cfg) := ⟨fun _ h hidle => ⟨h, hidle, Or.inl rfl, rfl, rfl, rfl⟩⟩

lemma Carried.trans {a b c : World} (hb : Carried cfg a b) (hc : Carried cfg b c) :
    Carried cfg a c := by
  refine ⟨hc.sound, hc.idle, ?_, by rw [hc.transaction, hb.transaction],
    hc.shapes.trans hb.shapes, hc.namespaces.trans hb.namespaces⟩
  rcases hc.memtable with hsame | hempty
  · rw [hsame]
    exact hb.memtable
  · exact Or.inr hempty

instance : IsTrans World (Carrying cfg) := ⟨fun _ _ _ h₁ h₂ ha hidle =>
  have hb := h₁ ha hidle
  hb.trans (h₂ hb.sound hb.idle)⟩

lemma Carrying.of_sameParts {w w' : World} (h : SameParts w w') : Carrying cfg w w' := by
  intro hsound hidle
  have hparts := h
  unfold SameParts at hparts
  simp only [Db.parts, Parts.mk.injEq] at hparts
  obtain ⟨hmemtable, hnamespaces, htransaction, hwriter, -⟩ := hparts
  exact ⟨hsound.of_parts h, by rw [hwriter]; exact hidle, Or.inl hmemtable, by rw [htransaction],
    by rw [htransaction], hnamespaces⟩

lemma carrying_of_sameParts {x : DbM α} (h : Within SameParts x) : Within (Carrying cfg) x :=
  fun w => .of_sameParts (h w)

/-- A compaction has switched to the destination bank, and to nothing else of the invariant. -/
def Switched (w₀ : World) (destination : Destination) (tail : ℕ) (w : World) : Prop :=
  w.db.parts = { w₀.db.parts with
    place := ⟨destination.bankSlot, destination.bankGeneration, tail⟩ }

lemma bankPlace_compactedManifest (m : ManifestRecord) (destination : Destination) (s : MergeState)
    (tail : ℕ) : (compactedManifest cfg m destination s tail).bankPlace =
      ⟨destination.bankSlot, destination.bankGeneration, tail⟩ := by
  unfold compactedManifest ManifestRecord.bankPlace
  dsimp only
  rw [Function.update_self, Function.update_self]

section
variable {w₀ w w' : World} {destination : Destination} {tail : ℕ}

lemma Switched.of_sameParts (h : Switched w₀ destination tail w) (hw : SameParts w w') :
    Switched w₀ destination tail w' := Eq.trans hw h

lemma Switched.compacted (h : SameParts w₀ w) (s : MergeState) :
    Switched w₀ destination tail { w with db := { w.db with
      manifest := compactedManifest cfg w.db.manifest destination s tail } } := by
  unfold Switched
  rw [← h]
  unfold Db.parts
  rw [bankPlace_compactedManifest]

/-- The manifest of before takes the switch back. -/
lemma Switched.restored (h : Switched w₀ destination tail w) {previous : Db}
    (hprevious : previous.parts = w₀.db.parts) :
    SameParts w₀ { w with db := { w.db with manifest := previous.manifest } } := by
  unfold SameParts
  unfold Switched at h
  simp only [Db.parts, Parts.mk.injEq] at h hprevious ⊢
  exact ⟨h.1, h.2.1, h.2.2.1, h.2.2.2.1, hprevious.2.2.2.2⟩

end

/-- The memory behind a compaction: an empty memtable, and the staged mutations moved. -/
lemma carried_afterCompaction {w₀ w : World} {destination : Destination} {tail tail' : ℕ}
    (h : Sound cfg w₀.db) (hidle : w₀.db.valueWriter.active = false)
    (hparts : Switched w₀ destination tail' w) {moved : List Mutation}
    (hmoved : Relocated cfg destination tail
      (if w₀.db.transaction.active then w₀.db.transaction.mutations else []) moved tail')
    (s : MergeState) :
    Carried cfg w₀ { w with db := afterCompaction cfg w.db s moved } := by
  unfold Switched at hparts
  simp only [Db.parts, Parts.mk.injEq] at hparts
  obtain ⟨-, hnamespaces, htransaction, hwriter, hplace⟩ := hparts
  have hstaged : (if w₀.db.transaction.active then w₀.db.transaction.mutations else []) =
      w₀.db.transaction.mutations := by
    split_ifs with hactive
    · rfl
    · exact (h.staged.idle (Bool.eq_false_of_not_eq_true hactive)).symm
  rw [hstaged] at hmoved
  obtain ⟨hshapes, -, -, hplaced⟩ := hmoved
  have hmutations : (if w₀.db.transaction.active = true then moved
      else w₀.db.transaction.mutations) = moved := by
    split_ifs with hactive
    · rfl
    · rw [h.staged.idle (Bool.eq_false_of_not_eq_true hactive), List.map_nil,
        List.map_eq_nil_iff] at hshapes
      rw [h.staged.idle (Bool.eq_false_of_not_eq_true hactive), hshapes]
  have hkeys : moved.map Mutation.key = w₀.db.transaction.mutations.map Mutation.key := by
    have hfirst : ∀ ms : List Mutation, ms.map Mutation.key = (ms.map Mutation.shape).map Prod.fst :=
      fun ms => by
        rw [List.map_map]
        rfl
    rw [hfirst, hfirst, hshapes]
  have hlarge : ∀ m ∈ w₀.db.transaction.mutations, ∀ r, m.value.ref? = some r →
      cfg.inlineValueLen < r.valueSize := fun m hm r hr => by
    have hin := h.staged.inBank m hm
    rw [valueInActiveBank_eq, hr, Option.all_some] at hin
    unfold valueRefMatchesBankUnsafe at hin
    simp only [Bool.and_eq_true, decide_eq_true_eq] at hin
    exact hin.1.1.1.1.2
  have htransaction' : (afterCompaction cfg w.db s moved).transaction =
      { w₀.db.transaction with mutations := moved } := by
    unfold afterCompaction
    dsimp only
    rw [htransaction, hmutations]
  refine ⟨⟨memtableSound_empty rfl, ?_, ?_, fun hactive => ?_⟩, ?_, Or.inr rfl, ?_, ?_,
    hnamespaces⟩
  · show w.db.namespaces.length ≤ _
    rw [hnamespaces]
    exact h.registry
  · rw [htransaction']
    refine ⟨?_, fun m hm => ?_, fun m hm => ?_, fun hinactive => ?_⟩
    · show (moved.map Mutation.key).Nodup
      rw [hkeys]
      exact h.staged.keys
    · have hkey : m.key ∈ moved.map Mutation.key := List.mem_map_of_mem hm
      rw [hkeys] at hkey
      obtain ⟨n, hn, hnm⟩ := List.mem_map.mp hkey
      rw [← hnm]
      exact h.staged.valid n hn
    · rw [valueInActiveBank_eq, show (afterCompaction cfg w.db s moved).manifest.bankPlace =
        ⟨destination.bankSlot, destination.bankGeneration, tail'⟩ from hplace, Option.all_eq_true]
      exact fun r hr => hplaced hlarge m hm r hr
    · have hnone := h.staged.idle hinactive
      rw [hnone, List.map_nil, List.map_eq_nil_iff] at hshapes
      exact hshapes
  · rw [show (afterCompaction cfg w.db s moved).valueWriter = w.db.valueWriter from rfl, hwriter,
      hidle] at hactive
    cases hactive
  · show w.db.valueWriter.active = false
    rw [hwriter]
    exact hidle
  · dsimp only
    rw [htransaction']
  · rw [htransaction']
    exact hshapes

/-- **A compaction carries the instance over.** -/
theorem carrying_compactTablesUnsafe : Within (Carrying cfg) (compactTablesUnsafe cfg) := by
  intro w₀ hsound hidle
  refine Triple.final (P := (· = w₀)) (F := Carried cfg w₀) ?_ rfl
  have hsame : ∀ {w}, SameParts w₀ w → Carried cfg w₀ w := fun h =>
    Carrying.of_sameParts h hsound hidle
  have hkeep : ∀ {α : Type} {x : DbM α}, Within SameParts x → Triple (SameParts w₀) x
      (fun _ => SameParts w₀) (fun _ => Carried cfg w₀) := fun hx =>
    hx.triple (fun _ _ _ => trans_of SameParts) fun _ _ _ h h' => hsame (trans_of SameParts h h')
  have hkeep' : ∀ {α : Type} {x : DbM α}, Within SameParts x → Triple (SameParts w₀) x
      (fun _ => SameParts w₀) (fun _ => SameParts w₀) := fun hx =>
    hx.invariant fun _ _ => trans_of SameParts
  have hclear : Within SameParts
      (modifyDb fun db => { db with manifest := clearOutputTables cfg db.manifest }) :=
    sameParts_modifyDb fun _ => rfl
  unfold compactTablesUnsafe
  refine .bind Triple.fetch fun db => .of_pure (fun w hw => hw.2 ▸ congrArg World.db hw.1) ?_
  rintro rfl
  refine .pre (S := SameParts w₀) ?_ fun w hw => hw.1 ▸ refl_of SameParts _
  refine .bind (hkeep Within.liftResult) fun _ => ?_
  refine .bind (hkeep fun w => .of_caching (within_validateTables _ w)) fun _ => ?_
  refine .bind (hkeep Within.failIf) fun _ => .bind (hkeep Within.liftResult) fun pending => ?_
  refine .bind (hkeep fun w => .of_caching (.of_reading (within_loadCursors _ w))) fun cursors => ?_
  obtain ⟨staged₀, hstaged₀⟩ : ∃ staged, staged = if w₀.db.transaction.active then
    w₀.db.transaction.mutations else [] := ⟨_, rfl⟩
  obtain ⟨destination, hdestination⟩ : ∃ d : Destination, d =
    ⟨1 - w₀.db.manifest.activeValueBank,
      w₀.db.manifest.valueBankGeneration (1 - w₀.db.manifest.activeValueBank) + 1⟩ := ⟨_, rfl⟩
  dsimp only
  rw [← hdestination, ← hstaged₀]
  refine .bind (Q := fun r w => SameParts w₀ w ∧
      ∃ tail, Relocated cfg destination tail staged₀ r.2.1 r.2.2)
    (Triple.onError (F := fun _ => SameParts w₀) (.bind (hkeep' (sameParts_mergeTables _ _ rfl))
      fun s => .bind ((hkeep' fun w => .of_writing_eq (within_relocateStaged _ _ _ w)).and_returns
        (returns_relocateStaged _ _ _)) fun r => .pure fun w hw => ⟨hw.1, _, hw.2⟩)
      fun _ => Triple.conseq (hkeep' hclear) (fun _ h => h) (fun _ _ h => hsame h)
        fun _ _ h => hsame h) fun r => ?_
  obtain ⟨s, moved, tail'⟩ := r
  refine .of_pure (fun w hw => hw.2) fun hmoved => .pre (S := SameParts w₀) ?_ fun w hw => hw.1
  obtain ⟨tail, hmoved⟩ := hmoved
  refine .bind Triple.fetch fun previous => .of_pure (fun w hw => hw.2 ▸ hw.1)
    fun (hprevious : previous.parts = w₀.db.parts) => .pre (S := SameParts w₀) ?_ fun w hw => hw.1
  refine .bind (Q := fun _ => Switched w₀ destination tail')
    (Triple.modifyDb fun w hw => Switched.compacted hw s) fun _ => ?_
  have hswitched : ∀ {α : Type} {x : DbM α}, Within SameParts x →
      Triple (Switched w₀ destination tail') x (fun _ => Switched w₀ destination tail')
        (fun _ => Switched w₀ destination tail') := fun hx =>
    hx.invariant fun _ _ h h' => h.of_sameParts h'
  refine .bind (Triple.onError (F := fun _ => Switched w₀ destination tail')
    (.bind (hswitched sameParts_syncStorage) fun _ => .bind (hswitched Within.getDb) fun _ =>
      hswitched (sameParts_writeManifestCopy _ _)) fun _ =>
        .bind (Q := fun _ => SameParts w₀) (Triple.modifyDb fun w hw => hw.restored hprevious)
          fun _ => (hkeep' hclear).conseq (fun _ h => h) (fun _ _ h => hsame h) fun _ _ h => hsame h)
    fun _ => ?_
  have hcarried : ∀ {α : Type} {x : DbM α}, Within SameParts x → Triple (Carried cfg w₀) x
      (fun _ => Carried cfg w₀) (fun _ => Carried cfg w₀) := fun hx =>
    hx.invariant fun _ _ h h' => h.trans (Carrying.of_sameParts h' h.sound h.idle)
  rw [hstaged₀] at hmoved
  refine .bind (Q := fun _ => Carried cfg w₀) (Triple.modifyDb fun w hw =>
    carried_afterCompaction hsound hidle hw hmoved s) fun _ => ?_
  exact .bind (hcarried (Within.onError sameParts_stabilizeManifestUnsafe
    (sameParts_modifyDb fun _ => rfl))) fun _ => hcarried (sameParts_modifyDb fun _ => rfl)

/-- An emptied memtable is carried over. -/
lemma carried_empty {w : World} (h : Sound cfg w.db) (hidle : w.db.valueWriter.active = false)
    (stats : Stats) : Carried cfg w { w with db := { w.db with memtable := .empty, stats := stats } } :=
  ⟨⟨memtableSound_empty rfl, h.registry, h.staged, h.writer⟩, hidle, Or.inr rfl, rfl, rfl, rfl⟩

lemma carrying_flushToSlot (slot : ℕ) : Within (Carrying cfg) (flushToSlot cfg slot) := by
  unfold flushToSlot
  refine .bind (carrying_of_sameParts (sameParts_modifyDb fun _ => rfl)) fun _ =>
    .bind Within.getDb fun db => .bind Within.liftResult fun records => ?_
  refine .bind (carrying_of_sameParts fun w => .of_writing_eq (within_flushRecords _ _ _ w))
    fun b => .bind (carrying_of_sameParts fun w =>
      .of_writing_eq (within_finishTableDataBlockUnsafe b w)) fun b₁ => ?_
  refine .bind (carrying_of_sameParts fun w => .of_writing (within_finishTableUnsafe b₁ _ w))
    fun reference => .bind (carrying_of_sameParts (sameParts_modifyDb fun _ => rfl)) fun _ => ?_
  exact .bind (carrying_of_sameParts (Within.onError (sameParts_writeManifestCopy _ _)
    (sameParts_modifyDb fun _ => rfl))) fun _ =>
      Within.modifyDb fun w h hidle => carried_empty h hidle _

/-- **A flush carries the instance over.** -/
theorem carrying_flushMemtableUnsafe : Within (Carrying cfg) (flushMemtableUnsafe cfg) := by
  unfold flushMemtableUnsafe
  refine .bind Within.getDb fun db => .ite (.bind Within.failIf fun _ => ?_) .pure
  cases freeTableSlot cfg db.manifest with
  | none => exact carrying_compactTablesUnsafe
  | some slot => exact carrying_flushToSlot slot

lemma carrying_makeWalRoom (transactionBytes : ℕ) :
    Within (Carrying cfg) (makeWalRoom cfg transactionBytes) := by
  unfold makeWalRoom releaseOlderLog
  refine .bind Within.getDb fun db => .ite (.bind ?_ fun _ =>
    .bind (carrying_of_sameParts sameParts_rotateWalUnsafe) fun _ => .pure) .pure
  exact .bind Within.getDb fun db => .ite (.bind carrying_compactTablesUnsafe fun _ => .pure)
    (.ite (.bind carrying_flushMemtableUnsafe fun _ => .pure) .pure)

/-- **An append, with all the room it makes, carries the instance over.** -/
theorem carrying_appendTransactionUnsafe (namespaceName : Bytes) :
    Within (Carrying cfg) (appendTransactionUnsafe cfg namespaceName) := by
  unfold appendTransactionUnsafe refreshChecksum
  refine .bind Within.getDb fun db => .bind Within.failIf fun _ =>
    .bind (carrying_of_sameParts sameParts_stabilizeManifestUnsafe) fun _ =>
    .bind Within.liftResult fun size => .bind (carrying_makeWalRoom _) fun moved => ?_
  refine .bind Within.getDb fun db => .bind Within.failIf fun _ =>
    .bind (.ite (.bind Within.getDb fun _ => .bind Within.liftResult fun _ =>
      .bind Within.failIf fun _ => .pure) .pure) fun checksum => ?_
  exact .bind (carrying_of_sameParts (sameParts_writeFrames _ _ _ _ _ _ _)) fun _ =>
    .bind (carrying_of_sameParts sameParts_syncStorage) fun _ =>
      carrying_of_sameParts (sameParts_modifyDb fun _ => rfl)

end On9kvdb
