import On9kvdb.Meaning.Compaction

/-!
# A published compaction keeps the contents

Behind the merge the staged values are copied, the manifest moves to the other table bank and value
bank, and the memtable is emptied.  `triple_compactTablesUnsafe_holding` says that every key keeps
its meaning and that what is staged does, whether the compaction succeeds or fails in one of its
steps.
-/

namespace On9kvdb

open Exceptional Versions

variable {cfg : Config} {w w' w₀ w₁ w₂ : World} {c : CompositeKey → Option Bytes}
  {staging : Staging} {destination : Destination} {tail count : ℕ} {s : MergeState}
  {staged : List Mutation}

/-! ## Staged values -/

/-- A relocation that succeeds is a copy that does, and one that does not leaves what the copy
leaves. -/
lemma exec_relocateValue_external (r : ValueRef) (w : World) :
    exec (relocateValue cfg destination tail (.external r)) w =
      match exec (copyExternalValueUnsafe cfg r destination.bankSlot destination.bankGeneration tail)
        w with
      | (.ok (copy, tail'), w') => (.ok (some (.external copy, tail')), w')
      | (.error e, w') => (if e = .noMem then .ok none else .error e, w') := by
  unfold relocateValue
  rw [exec_tryCatch, exec_bind]
  rcases exec (copyExternalValueUnsafe cfg r destination.bankSlot destination.bankGeneration tail) w
    with ⟨e | ⟨copy, tail'⟩, w'⟩
  · dsimp only
    split_ifs <;> rfl
  · rfl

/-- A mutation whose value has moved. -/
def MutationMoved (cfg : Config) (w₁ w : World) (destination : Destination) (tail : ℕ)
    (m m' : Mutation) : Prop :=
  m'.key = m.key ∧ MovedTo cfg w₁ w destination tail m.value m'.value

/-- A staged value moves behind the output and behind those that have moved before it. -/
lemma triple_copyExternalValueUnsafe_condensed (start : CompactionStart cfg w₁ destination)
    {r : ValueRef} (hin : valueInActiveBank cfg w₁.db.manifest (.external r) = true)
    {done done' : List Mutation} :
    Triple (fun w => Condensed cfg w₁ destination count tail ∅ [] w ∧
        List.Forall₂ (MutationMoved cfg w₁ w destination tail) done done')
      (copyExternalValueUnsafe cfg r destination.bankSlot destination.bankGeneration tail)
      (fun found w => (Condensed cfg w₁ destination count found.2 ∅ [] w ∧
        List.Forall₂ (MutationMoved cfg w₁ w destination found.2) done done') ∧
        MovedTo cfg w₁ w destination found.2 (.external r) (.external found.1))
      (fun _ => Compacting cfg w₁ destination) := by
  have hrelocate := (@triple_relocateValue_condensed cfg w₁ destination tail count ∅ []
    { slot := 0, generation := 0 } start _ hin).pre fun w hw => And.intro hw (.start 0 0)
  refine .of_exec fun w hw => ⟨fun found w' hrun => ?_, fun e w' hrun => ?_⟩
  · have hmoved : exec (relocateValue cfg destination tail (.external r)) w =
        (.ok (some (.external found.1, found.2)), w') := by
      rw [exec_relocateValue_external, hrun]
    obtain ⟨-, htail, hcondensed, hmoved⟩ := hrelocate.ok hw.1 hmoved
    have hwriting := @behindTail_copyExternalValueUnsafe cfg r destination.bankSlot
      destination.bankGeneration tail w
    rw [hrun] at hwriting
    have hretained : Retained cfg (w₁.db.manifest.aimedAt destination tail) w w' :=
      .of_writing hwriting fun _ h => h.spares
    exact ⟨⟨hcondensed, hw.2.imp fun m m' h => ⟨h.1, h.2.later hretained htail⟩⟩, hmoved⟩
  · have hfailed := @exec_relocateValue_external cfg destination tail r w
    rw [hrun] at hfailed
    dsimp only at hfailed
    split_ifs at hfailed with hroom
    · exact (hrelocate.ok hw.1 hfailed).2.aside
    · exact hrelocate.error hw.1 hfailed

lemma MovedTo.kept (w : World) {v : StoredValue} (h : v.ref? = none) :
    MovedTo cfg w₁ w destination tail v v := by
  cases v with
  | external r => cases h
  | tombstone => exact ⟨rfl, fun o ho => (by cases ho; exact .tombstone), rfl⟩
  | inline bytes => exact ⟨rfl, fun o ho => (by cases ho; exact .inline bytes), rfl⟩

/-- **The staged values move behind the output.** -/
lemma triple_relocateStaged_moved (start : CompactionStart cfg w₁ destination)
    {mutations : List Mutation}
    (hin : ∀ m ∈ mutations, valueInActiveBank cfg w₁.db.manifest m.value = true) (tail : ℕ)
    (done done' : List Mutation) :
    Triple (fun w => Condensed cfg w₁ destination count tail ∅ [] w ∧
        List.Forall₂ (MutationMoved cfg w₁ w destination tail) done done')
      (relocateStaged cfg destination mutations tail)
      (fun r w => Condensed cfg w₁ destination count r.2 ∅ [] w ∧
        List.Forall₂ (MutationMoved cfg w₁ w destination r.2) (done ++ mutations) (done' ++ r.1))
      (fun _ => Compacting cfg w₁ destination) := by
  induction mutations generalizing tail done done' with
  | nil =>
      refine .pure fun w hw => ?_
      rw [List.append_nil, List.append_nil]
      exact hw
  | cons m rest ih =>
      have hhead := hin m List.mem_cons_self
      have htail := fun m' hm' => hin m' (List.mem_cons_of_mem m hm')
      have hrest : ∀ (m' : Mutation) (tail' : ℕ), Triple
          (fun w => (Condensed cfg w₁ destination count tail' ∅ [] w ∧
            List.Forall₂ (MutationMoved cfg w₁ w destination tail') done done') ∧
            MutationMoved cfg w₁ w destination tail' m m')
          (relocateStaged cfg destination rest tail')
          (fun r w => Condensed cfg w₁ destination count r.2 ∅ [] w ∧
            List.Forall₂ (MutationMoved cfg w₁ w destination r.2) (done ++ m :: rest)
              (done' ++ m' :: r.1))
          (fun _ => Compacting cfg w₁ destination) := fun m' tail' => by
        refine (ih htail tail' (done ++ [m]) (done' ++ [m'])).conseq (fun w hw => ⟨hw.1.1, ?_⟩)
          (fun r w hw => ?_) fun _ _ hw => hw
        · exact List.rel_append hw.1.2 (.cons hw.2 .nil)
        · rwa [← List.append_cons, ← List.append_cons] at hw
      have hkept : m.value.ref? = none → Triple
          (fun w => Condensed cfg w₁ destination count tail ∅ [] w ∧
            List.Forall₂ (MutationMoved cfg w₁ w destination tail) done done')
          (relocateStaged cfg destination rest tail)
          (fun r w => Condensed cfg w₁ destination count r.2 ∅ [] w ∧
            List.Forall₂ (MutationMoved cfg w₁ w destination r.2) (done ++ m :: rest)
              (done' ++ m :: r.1))
          (fun _ => Compacting cfg w₁ destination) := fun href =>
        (hrest m tail).pre fun w hw => ⟨hw, rfl, .kept w href⟩
      unfold relocateStaged
      cases hvalue : m.value with
      | tombstone =>
          exact .bind (hkept (by rw [hvalue]; rfl)) fun r => .pure fun w hw => hw
      | inline bytes =>
          exact .bind (hkept (by rw [hvalue]; rfl)) fun r => .pure fun w hw => hw
      | external r =>
          rw [hvalue] at hhead
          refine .bind Triple.fetch fun db => .bind (Triple.check fun w hw => hw.1.1.aside) fun _ =>
            .bind ((triple_copyExternalValueUnsafe_condensed start hhead).pre fun w hw => hw.1.1)
              fun copied => ?_
          refine .bind ((hrest { m with value := .external copied.1 } copied.2).pre fun w hw =>
            ⟨hw.1, rfl, ?_⟩) fun found => .pure fun w hw => hw
          rw [hvalue]
          exact hw.2

/-! ## The published state -/

/-- The state behind the publication of a merge that has ended in `w`. -/
def World.compactedTo (cfg : Config) (w : World) (destination : Destination) (s : MergeState)
    (tail : ℕ) (staged : List Mutation) : World :=
  { w with db := afterCompaction cfg { w.db with
      manifest := compactedManifest cfg w.db.manifest destination s tail } s staged }

/-- Values are small, wherever they are. -/
lemma StoreSound.smallValue (h : StoreSound cfg w) {v : StoreVersion} (hv : v ∈ w.versions cfg) :
    v.value.inlineSize ≤ cfg.inlineValueLen := by
  rcases hv with ⟨slot, reference, htable, e, he, rfl⟩ | ⟨r, ⟨bucket, -, hbucket⟩, rfl⟩
  · exact (h.tables.table slot reference htable).small e he
  · exact h.small bucket r hbucket

lemma bankSlots_disjoint {m : ManifestRecord} (h : m.activeTableBank < 2) {slot : ℕ}
    (hout : slot ∈ bankSlots cfg (outputStart cfg m)) : slot ∉ bankSlots cfg (inputStart cfg m) := by
  unfold bankSlots outputStart inputStart at *
  simp only [List.mem_map, List.mem_range, not_exists, not_and] at hout ⊢
  obtain ⟨i, hi, rfl⟩ := hout
  intro j hj heq
  have hbank : m.activeTableBank = 0 ∨ m.activeTableBank = 1 := by omega
  rcases hbank with hbank | hbank <;> rw [hbank] at heq <;> omega

variable (cfg) in
/-- A merge has ended, and the staged values have been copied behind it. -/
structure CompactionBuilt (w₁ w₂ : World) (destination : Destination) (s : MergeState) (tail : ℕ)
    (staged : List Mutation) : Prop where
  condensed : Condensed cfg w₁ destination s.outputCount tail ∅ [] w₂
  greatest : s.greatestSequence = w₁.db.nextTransactionSequence - 1
  moved : List.Forall₂ (MutationMoved cfg w₁ w₂ destination tail) w₁.db.transaction.mutations staged

namespace CompactionBuilt

variable (h : CompactionBuilt cfg w₁ w₂ destination s tail staged)
include h

lemma rest : w₂.db = { w₁.db with
    manifest := { w₁.db.manifest with tables := w₂.db.manifest.tables }
    tableIndexCache := w₂.db.tableIndexCache
    tableKeyFilters := w₂.db.tableKeyFilters } := h.condensed.aside.writing.db.rest

/-- The active tables are the ones of the output. -/
lemma table_iff (start : CompactionStart cfg w₁ destination) {slot : ℕ} {r : TableReference} :
    (w₂.compactedTo cfg destination s tail staged).db.manifest.tables slot = some r ↔
      slot ∈ outputSlots cfg w₁ ∧ w₂.db.manifest.tables slot = some r := by
  have hinput : inputStart cfg w₂.db.manifest = inputStart cfg w₁.db.manifest := by
    rw [h.rest]
    rfl
  have htables : (w₂.compactedTo cfg destination s tail staged).db.manifest.tables slot =
      if slot ∈ bankSlots cfg (inputStart cfg w₁.db.manifest) then none
      else w₂.db.manifest.tables slot := by
    rw [← hinput]
    rfl
  rw [htables]
  constructor
  · intro htable
    split_ifs at htable with hin
    refine ⟨?_, htable⟩
    by_contra hout
    rw [h.condensed.aside.writing.db.tables slot hout] at htable
    exact hin (start.store.tables.table slot r htable).lies
  · rintro ⟨hout, htable⟩
    have hnot : slot ∉ bankSlots cfg (inputStart cfg w₁.db.manifest) :=
      bankSlots_disjoint start.ordered.bank hout
    rw [if_neg hnot]
    exact htable

/-- **The versions are those of the output.** -/
lemma versions (start : CompactionStart cfg w₁ destination) :
    (w₂.compactedTo cfg destination s tail staged).versions cfg = outVersions cfg w₁ [] w₂ := by
  have hempty : memtableVersions cfg (w₂.compactedTo cfg destination s tail staged).db = ∅ := by
    ext v
    refine ⟨?_, fun hv => absurd hv (Set.notMem_empty v)⟩
    rintro ⟨r, ⟨b, -, hb⟩, -⟩
    cases hb
  unfold World.versions
  rw [hempty, Set.union_empty]
  ext v
  constructor
  · rintro ⟨slot, reference, htable, e, he, rfl⟩
    obtain ⟨hslot, htable⟩ := (h.table_iff start).mp htable
    exact .inl ⟨slot, hslot, reference, htable, e, he, rfl⟩
  · rintro (⟨slot, hslot, reference, htable, e, he, rfl⟩ | ⟨e, he, -⟩)
    · exact ⟨slot, reference, (h.table_iff start).mpr ⟨hslot, htable⟩, e, he, rfl⟩
    · exact absurd he List.not_mem_nil

omit h in
lemma inBank {v v' : StoredValue} (hmoved : MovedTo cfg w₁ w₂ destination tail v v') :
    valueInActiveBank cfg (w₂.compactedTo cfg destination s tail staged).db.manifest v' = true := by
  refine (valueInActiveBank_congr ?_ v').trans hmoved.inBank
  rw [bankPlace_aimedAt]
  unfold World.compactedTo afterCompaction compactedManifest ManifestRecord.bankPlace
  simp

lemma sameDatabase : SameDatabase w₁.db.manifest
    (w₂.compactedTo cfg destination s tail staged).db.manifest := by
  have hdatabase : SameDatabase w₂.db.manifest
      (w₂.compactedTo cfg destination s tail staged).db.manifest := ⟨rfl, rfl⟩
  rw [h.rest] at hdatabase
  exact ⟨hdatabase.databaseId, hdatabase.geometry⟩

lemma denotes {v v' : StoredValue} (hmoved : MovedTo cfg w₁ w₂ destination tail v v')
    {o : Option Bytes} (ho : Denotes w₁.db.manifest w₁.dev.current v o) :
    Denotes (w₂.compactedTo cfg destination s tail staged).db.manifest w₂.dev.current v' o :=
  (refl_of (Retained cfg (w₁.db.manifest.aimedAt destination tail)) w₂).denotes h.sameDatabase
    hmoved.inBank (hmoved.means o ho)

lemma tablesSound (start : CompactionStart cfg w₁ destination) :
    TablesSound cfg (w₂.compactedTo cfg destination s tail staged).db w₂.dev.current := by
  refine ⟨fun slot r htable => ?_, ?_⟩
  · obtain ⟨hslot, htable⟩ := (h.table_iff start).mp htable
    obtain ⟨hown, hfinished, hrecorded⟩ := h.condensed.tables slot hslot r htable
    have horigin : ∀ e ∈ storedEntries cfg w₂.dev.current r, ∃ v ∈ w₁.versions cfg,
        MovedTo cfg w₁ w₂ destination tail v.value e.value := fun e he => by
      obtain ⟨v, hv, -, hmoved⟩ := h.condensed.condenses.origin e.version
        (.inl ⟨slot, hslot, r, htable, e, he, rfl⟩)
      exact ⟨v, hv.mem, hmoved⟩
    refine ⟨hown, ?_, hfinished.serves.1, hfinished.serves.2, hfinished.range, hfinished.sequences,
      ?_, fun e he => ?_, fun e he => ?_⟩
    · have hinput : inputStart cfg (w₂.compactedTo cfg destination s tail staged).db.manifest =
          outputStart cfg w₁.db.manifest := by
        have houtput : inputStart cfg (w₂.compactedTo cfg destination s tail staged).db.manifest =
          outputStart cfg w₂.db.manifest := rfl
        rw [houtput, h.rest]
        rfl
      rw [hinput]
      exact hslot
    · show r.maxSequence ≤ s.greatestSequence
      rw [h.greatest]
      omega
    · obtain ⟨v, hv, hmoved⟩ := horigin e he
      rw [hmoved.inlineSize]
      exact start.store.smallValue hv
    · obtain ⟨v, hv, hmoved⟩ := horigin e he
      exact inBank hmoved
  · have hunambiguous : Unambiguous (outVersions cfg w₁ [] w₂) := fun u hu v hv hkey _ =>
      h.condensed.condenses.distinct u hu v hv hkey
    rw [← h.versions start] at hunambiguous
    exact hunambiguous.subset Set.subset_union_left

lemma mutations (hstaged : StagedSound cfg w₁.db.manifest w₁.db.transaction) :
    (w₂.compactedTo cfg destination s tail staged).db.transaction.mutations = staged := by
  have hif : (w₂.compactedTo cfg destination s tail staged).db.transaction.mutations =
    if w₂.db.transaction.active then staged else w₂.db.transaction.mutations := rfl
  rw [hif, h.rest]
  dsimp only
  split_ifs with hactive
  · rfl
  · have hnone := hstaged.idle (by simpa using hactive)
    have hmoved := h.moved
    rw [hnone] at hmoved
    cases hmoved
    exact hnone

/-- What is staged still means the same. -/
lemma stages (hstages : Stages cfg staging w₁)
    (hstaged : StagedSound cfg w₁.db.manifest w₁.db.transaction) :
    Stages cfg staging (w₂.compactedTo cfg destination s tail staged) := by
  have hmutations := h.mutations hstaged
  refine hstages.of_moved ?_
  rw [hmutations]
  exact h.moved.imp fun m m' hm => ⟨hm.1, hm.2.inlineSize, fun o => h.denotes hm.2⟩

/-- **A published compaction holds the same.** -/
lemma holding (start : CompactionStart cfg w₁ destination) (hholding : Holding cfg c staging w₁) :
    Holding cfg c staging (w₂.compactedTo cfg destination s tail staged) := by
  refine ⟨⟨⟨h.tablesSound start, ?_, smallRecords_empty⟩, fun key => ?_⟩,
    h.stages hholding.stages start.sound.staged⟩
  · have hnames : (w₂.compactedTo cfg destination s tail staged).db.namespaces =
        w₂.db.namespaces := rfl
    rw [hnames, h.rest]
    exact start.store.names
  · rw [h.versions start]
    refine (hholding.serves.meaning key).condensed h.condensed.condenses
      (start.store.unambiguous start.sound start.ordered) (fun e _ v o hmoved => h.denotes hmoved)
      fun v _ o hdead hmeans => ?_
    cases hvalue : v.value with
    | tombstone =>
        rw [hvalue] at hmeans
        cases hmeans
        rfl
    | inline bytes =>
        rw [hvalue] at hdead
        exact absurd rfl hdead
    | external r =>
        rw [hvalue] at hdead
        exact absurd rfl hdead

/-- The invariant of the memory holds as well, when no value is being written. -/
lemma sound (start : CompactionStart cfg w₁ destination)
    (hidle : w₁.db.valueWriter.active = false) :
    Sound cfg (w₂.compactedTo cfg destination s tail staged).db := by
  have hmutations := h.mutations start.sound.staged
  have hkeys : staged.map Mutation.key = w₁.db.transaction.mutations.map Mutation.key := by
    have hequal : List.Forall₂ Eq (w₁.db.transaction.mutations.map Mutation.key)
        (staged.map Mutation.key) := List.forall₂_map_left_iff.mpr (List.forall₂_map_right_iff.mpr
          (h.moved.imp fun m m' hm => hm.1.symm))
    rw [List.forall₂_eq_eq_eq] at hequal
    exact hequal.symm
  have horigin : ∀ m' ∈ staged, ∃ m ∈ w₁.db.transaction.mutations,
      MutationMoved cfg w₁ w₂ destination tail m m' := fun m' hm' => by
    obtain ⟨i, hi, rfl⟩ := List.getElem_of_mem hm'
    obtain ⟨hlength, hall⟩ := List.forall₂_iff_get.mp h.moved
    exact ⟨_, List.getElem_mem (by omega), hall i (by omega) hi⟩
  refine ⟨memtableSound_empty rfl, ?_, ⟨?_, fun m' hm' => ?_, fun m' hm' => ?_, fun hnot => ?_⟩,
    fun hactive => ?_⟩
  · have hnames : (w₂.compactedTo cfg destination s tail staged).db.namespaces =
        w₂.db.namespaces := rfl
    rw [hnames, h.rest]
    exact start.sound.registry
  · rw [hmutations, hkeys]
    exact start.sound.staged.keys
  · rw [hmutations] at hm'
    obtain ⟨m, hm, hmoved⟩ := horigin m' hm'
    rw [hmoved.1]
    exact start.sound.staged.valid m hm
  · rw [hmutations] at hm'
    obtain ⟨m, hm, hmoved⟩ := horigin m' hm'
    exact inBank hmoved.2
  · have hinactive : w₂.db.transaction.active = false := hnot
    rw [h.rest] at hinactive
    have hmoved := h.moved
    rw [start.sound.staged.idle hinactive] at hmoved
    rw [hmutations]
    cases hmoved
    rfl
  · have hwriter : w₂.db.valueWriter.active = true := hactive
    rw [h.rest, hidle] at hwriter
    cases hwriter

end CompactionBuilt

/-! ## The method -/

/-- At the start nothing has been put out. -/
lemma Condensed.start (start : CompactionStart cfg w₁ destination) (h : Reading w₁ w) :
    Condensed cfg w₁ destination 0 tail (w₁.versions cfg) [] w := by
  have hfree : ∀ slot ∈ outputSlots cfg w₁, w.db.manifest.tables slot = none := fun slot hslot => by
    rw [h.db]
    exact start.free slot hslot
  have hempty : outVersions cfg w₁ [] w = ∅ := by
    ext v
    refine ⟨?_, fun hv => absurd hv (Set.notMem_empty v)⟩
    rintro (⟨slot, hslot, reference, htable, -⟩ | ⟨e, he, -⟩)
    · rw [hfree slot hslot] at htable
      cases htable
    · exact absurd he List.not_mem_nil
  refine ⟨.of_writing (S := fun _ => False) (.of_reading h) fun _ h => h.elim, fun i _ hi =>
    hfree _ (List.mem_map_of_mem (List.mem_range.mpr hi)), fun slot hslot reference htable => ?_, ?_⟩
  · rw [hfree slot hslot] at htable
    cases htable
  · rw [hempty]
    exact .start

lemma Undisturbed.of_reading (h : Reading w w') : Undisturbed cfg w w' :=
  .of_parts (by rw [h.db]) (by rw [h.dev]; exact .clock _ .refl)

/-- Without its output tables a compaction has not disturbed anything. -/
lemma Compacting.cleared (start : CompactionStart cfg w₁ destination)
    (h : Compacting cfg w₁ destination w) :
    Undisturbed cfg w₁ (w.edited (clearOutputTables cfg w.db.manifest)) := by
  have hmerging : Merging cfg w₁ destination w := h.writing
  exact .of_retained (trans_of (Retained cfg _) (Compacting.retained start h) (.of_edit rfl))
    (hmerging.cleared start.free)

lemma Sound.caching (h : Sound cfg w.db) (hcaching : Caching w w') : Sound cfg w'.db :=
  h.of_parts (by rw [hcaching.db]; rfl)

/-- **A compaction keeps the contents**, whether it succeeds or not. -/
theorem triple_compactTablesUnsafe_holding (hholding : Holding cfg c staging w₀)
    (hsound : Sound cfg w₀.db) (hordered : Ordered cfg w₀.db.stored)
    (hidle : w₀.db.valueWriter.active = false) :
    Triple (· = w₀) (compactTablesUnsafe cfg) (fun _ => Holding cfg c staging)
      (fun _ => Holding cfg c staging) := by
  have hback : ∀ w, Undisturbed cfg w₀ w → Holding cfg c staging w := fun w hw =>
    hholding.undisturbed hsound hw
  obtain ⟨destination, hdestination⟩ : ∃ d : Destination, d =
    ⟨1 - w₀.db.manifest.activeValueBank,
      w₀.db.manifest.valueBankGeneration (1 - w₀.db.manifest.activeValueBank) + 1⟩ := ⟨_, rfl⟩
  unfold compactTablesUnsafe
  refine .bind Triple.fetch fun db => .of_pure (fun w hw => hw.2 ▸ congrArg World.db hw.1) ?_
  rintro rfl
  dsimp only
  rw [← hdestination]
  refine .pre (S := (· = w₀)) ?_ fun w hw => hw.1
  refine .bind (Q := fun _ => (· = w₀)) (Triple.liftResult (fun w _ hw _ => hw)
    fun w _ hw _ => hback w (hw ▸ refl_of (Undisturbed cfg) w₀)) fun _ => ?_
  refine .bind (Q := fun _ w => Undisturbed cfg w₀ w ∧ Caching w₀ w)
    (((undisturbed_validateTables _).triple (fun _ _ _ hw h => hw ▸ h) fun _ _ _ hw h => hw ▸ h).both
      ((within_validateTables _).triple (fun _ _ _ hw h => hw ▸ h) fun _ _ _ hw h => hw ▸ h) |>.conseq
        (fun w hw => ⟨hw, hw⟩) (fun _ _ hw => hw) fun _ w hw => hback w hw.1) fun _ => ?_
  refine .bind (Triple.check fun w hw => hback w hw.1) fun _ => .of_pure (fun w hw => hw.2)
    fun hchecked => ?_
  have hfree : ∀ slot ∈ outputSlots cfg w₀, w₀.db.manifest.tables slot = none := fun slot hslot => by
    by_contra hsome
    exact hchecked (List.any_eq_true.mpr ⟨slot, hslot, Option.isSome_iff_ne_none.mpr hsome⟩)
  refine .bind (Q := fun pending w => (Undisturbed cfg w₀ w ∧ Caching w₀ w) ∧
      gatherMemtable cfg w₀.db = .ok pending)
    (Triple.liftResult (fun w _ hw h => ⟨hw.1, h⟩) fun w _ hw _ => hback w hw.1.1) fun pending =>
    .of_pure (fun w hw => hw.2) fun hgather => .of_state fun w₁ hw₁ => ?_
  -- From here on the compaction is seen from `w₁`, which is `w₀` with other caches.
  obtain ⟨⟨hundisturbed, hcaching⟩, -⟩ := hw₁
  have hdb := hcaching.db
  have hholding₁ := hback w₁ hundisturbed
  have start : CompactionStart cfg w₁ destination := by
    refine ⟨fun slot hslot => ?_, ?_, hholding₁.serves.store, hsound.caching hcaching, ?_⟩
    · have hslots : outputSlots cfg w₁ = outputSlots cfg w₀ := by
        unfold outputSlots
        rw [hdb]
      rw [hslots] at hslot
      rw [hdb]
      exact hfree slot hslot
    · rw [hdestination, hdb]
    · have hstored : w₁.db.stored = w₀.db.stored := by
        rw [hdb]
        rfl
      rw [hstored]
      exact hordered
  have hgather₁ : gatherMemtable cfg w₁.db = .ok pending := by
    rw [hdb]
    exact hgather
  obtain ⟨hleft, hsorted⟩ := leftVersions_start start.store start.sound.memtable hgather₁
  refine .bind (Q := fun cursors w => ∃ rests, Merged cfg w₁ destination rests
      { pending := pending, cursors := cursors } w)
    (((triple_loadCursors_at w₁ _).both ((within_loadCursors _).triple (P := (· = w₁))
      (Q := fun _ w => Reading w₁ w) (E := fun _ w => Reading w₁ w) (fun _ _ _ hw h => hw ▸ h)
      fun _ _ _ hw h => hw ▸ h)).conseq (fun w hw => ⟨hw ▸ refl_of Reading w₁, hw⟩)
      (fun cursors w hw => ?_) fun _ w hw => ?_) fun cursors => ?_
  · obtain ⟨⟨hreading, hcursors⟩, -⟩ := hw
    have hinput : inputStart cfg w₀.db.manifest = inputStart cfg w₁.db.manifest := by rw [hdb]
    rw [hinput] at hcursors
    refine ⟨_, hcursors, hsorted, by rw [hleft]; exact .start, [], ?_, .closed⟩
    dsimp only
    rw [hleft]
    exact .start start hreading
  · exact hholding₁.undisturbed start.sound (.of_reading hw.2)
  obtain ⟨ms, hms⟩ : ∃ ms, ms = if w₀.db.transaction.active then w₀.db.transaction.mutations
    else [] := ⟨_, rfl⟩
  have hmutations : ms = w₁.db.transaction.mutations := by
    rw [hms, hdb]
    dsimp only
    split_ifs with hactive
    · rfl
    · exact (hsound.staged.idle (by simpa using hactive)).symm
  rw [← hms]
  have hin : ∀ m ∈ ms, valueInActiveBank cfg w₁.db.manifest m.value = true := by
    rw [hmutations]
    exact start.sound.staged.inBank
  refine .bind (Q := fun r w => CompactionBuilt cfg w₁ w destination r.1 r.2.2 r.2.1)
    (Triple.onError (F := fun _ => Compacting cfg w₁ destination)
      (.bind (((triple_mergeTables_condensed start _ _).both (triple_mergeTables_sequence _ rfl)).conseq
        (fun w hw => ⟨hw, ?_⟩) (fun _ _ hw => hw) fun _ _ hw => hw.1) fun s =>
        .of_pure (fun w hw => hw.2.2) fun hsequence =>
        .bind ((triple_relocateStaged_moved start hin s.destinationValueTail [] []).pre
          fun w hw => ⟨hw.1, .nil⟩) fun r => .pure fun w hw => ⟨hw.1, hsequence, ?_⟩)
      fun _ => Triple.modifyDb fun w hw => ?_) fun r => ?_
  · obtain ⟨rests, hmerged⟩ := hw
    exact hmerged.emitted.aside.writing
  · rw [← hmutations]
    exact hw.2
  · exact hholding₁.undisturbed start.sound (Compacting.cleared start hw)
  obtain ⟨s, staged, tail⟩ := r
  refine .of_state fun w₂ hbuilt => ?_
  obtain ⟨published, hpublished⟩ : ∃ w,
    w = w₂.edited (compactedManifest cfg w₂.db.manifest destination s tail) := ⟨_, rfl⟩
  refine .bind Triple.fetch fun previous => .of_pure (fun w hw => hw.2 ▸ congrArg World.db hw.1) ?_
  rintro rfl
  refine .bind (Q := fun _ w => w = published) (Triple.modifyDb fun w hw => by
    rw [hw.1, hpublished]; rfl) fun _ => ?_
  have hannounce : Within Announcing (do
      syncStorage
      let db ← getDb
      writeManifestCopy (db.manifest.generation + 1) .ready) :=
    .bind announcing_syncStorage fun _ => .bind Within.getDb fun db =>
      announcing_writeManifestCopy _ _
  refine .bind (Q := fun _ w => Announcing published w) (Triple.onError
    (F := fun _ w => Announcing published w) (hannounce.triple (fun _ _ _ hw h => hw ▸ h)
      fun _ _ _ hw h => hw ▸ h) fun _ => .bind (Q := fun _ w => ∃ v, Announcing published v ∧
        w = v.edited w₂.db.manifest) (Triple.modifyDb fun w hw => ⟨w, hw, rfl⟩) fun _ =>
          Triple.modifyDb fun w hw => ?_) fun _ => ?_
  · -- The manifest of the merge is put back and cleared.
    obtain ⟨v, hv, rfl⟩ := hw
    have hmerging : Merging cfg w₁ destination w₂ := hbuilt.condensed.aside.writing
    have hedited : Retained cfg w₁.db.manifest w₁ published := by
      rw [hpublished]
      exact trans_of (Retained cfg _) (Compacting.retained start hbuilt.condensed.aside)
        (.of_edit rfl)
    exact hholding₁.undisturbed start.sound (.of_retained (trans_of (Retained cfg _) hedited
      (trans_of (Retained cfg _) (hv.retained _) (.of_edit rfl))) (hmerging.cleared start.free))
  · have haccount : Within (Undisturbed cfg) (modifyDb fun db => accountCompaction cfg db s
        (inputRecordBytes cfg w₀.db pending)) := undisturbed_modifyDb fun _ => rfl
    have hrest : Within (Undisturbed cfg) (do
        onError stabilizeManifestUnsafe (modifyDb fun db => accountCompaction cfg db s
          (inputRecordBytes cfg w₀.db pending))
        modifyDb fun db => accountCompaction cfg db s (inputRecordBytes cfg w₀.db pending)) :=
      .bind (Within.onError undisturbed_stabilizeManifestUnsafe haccount) fun _ => haccount
    have hidle₁ : w₁.db.valueWriter.active = false := by
      rw [hdb]
      exact hidle
    have hend : ∀ w w', Undisturbed cfg (w₂.compactedTo cfg destination s tail staged) w →
        Undisturbed cfg w w' → Holding cfg c staging w' := fun w w' hw h =>
      (hbuilt.holding start hholding₁).undisturbed (hbuilt.sound start hidle₁)
        (trans_of (Undisturbed cfg) hw h)
    refine .bind (Q := fun _ w => Undisturbed cfg (w₂.compactedTo cfg destination s tail staged) w)
      (Triple.modifyDb fun w hw => ?_) fun _ =>
        hrest.triple (fun w w' _ => hend w w') fun w w' _ => hend w w'
    rw [hpublished] at hw
    refine .of_parts ?_ (hw.dev.mono fun _ hwrite => hwrite.spares _)
    show (afterCompaction cfg w.db s staged).contentParts = _
    rw [hw.publishing.db]
    rfl

end On9kvdb
