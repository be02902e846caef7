import On9kvdb.Meaning.Merge

/-!
# A compaction keeps the contents

Round by round the merge of a compaction takes the smallest key of all sources and puts its newest
version out, unless that is a tombstone (`triple_mergeLoop_merged`).  The output tables therefore
have the meaning of everything merged, and once they are published every key keeps its own.
-/

namespace On9kvdb

open Exceptional Versions

variable {cfg : Config} {w w' w₁ : World} {destination : Destination} {tail count : ℕ}
  {left : Set StoreVersion} {building : List TableEntry} {b : TableBuild} {key : CompositeKey}
  {winner : MergeWinner} {rests : List (List TableEntry)}

/-! ## One entry -/

variable (cfg) in
/-- The round is for the smallest key that is left, and its newest version is alive. -/
structure Chosen (w₁ : World) (left : Set StoreVersion) (key : CompositeKey) (winner : MergeWinner) :
    Prop where
  newest : Newest left key (winner.version key)
  least : ∀ v ∈ left, key ≤ v.key
  behind : Behind (w₁.versions cfg) left
  live : winner.value.isTombstone = false

lemma entryVersions_append (entries : List TableEntry) (e : TableEntry) :
    entryVersions (entries ++ [e]) = insert e.version (entryVersions entries) := by
  ext v
  constructor
  · rintro ⟨e', he', rfl⟩
    rcases List.mem_append.mp he' with he' | he'
    · exact .inr ⟨e', he', rfl⟩
    · rw [List.mem_singleton.mp he']
      exact .inl rfl
  · rintro (rfl | ⟨e', he', rfl⟩)
    · exact ⟨e, List.mem_append_right _ (List.mem_singleton_self e), rfl⟩
    · exact ⟨e', List.mem_append_left _ he', rfl⟩

/-- **One version more in the output.** -/
lemma Condensed.emit (h : Condensed cfg w₁ destination count tail left building w)
    (hchosen : Chosen cfg w₁ left key winner) {e : TableEntry} {v : StoredValue}
    (he : e.version = ⟨key, winner.transactionSequence, v⟩)
    (hmoved : MovedTo cfg w₁ w destination tail winner.value v) :
    Condensed cfg w₁ destination count tail (without key left) (building ++ [e]) w := by
  have hout : outVersions cfg w₁ (building ++ [e]) w =
      insert e.version (outVersions cfg w₁ building w) := by
    unfold outVersions
    rw [entryVersions_append, Set.union_insert]
  refine ⟨h.aside, h.free, h.tables, ?_⟩
  rw [hout, he]
  exact h.condenses.emit hchosen.behind hchosen.newest hchosen.least rfl rfl hmoved

/-- A key without a live version leaves the output as it is. -/
lemma Condensed.drop (h : Condensed cfg w₁ destination count tail left building w)
    (start : CompactionStart cfg w₁ destination) (hbehind : Behind (w₁.versions cfg) left)
    (hnewest : Newest left key (winner.version key)) (hdead : winner.value.isTombstone = true) :
    Condensed cfg w₁ destination count tail (without key left) building w :=
  ⟨h.aside, h.free, h.tables, h.condenses.drop
    (start.store.unambiguous start.sound start.ordered) hbehind hnewest fun hlive => by
      rw [show (winner.version key).value = winner.value from rfl, hdead] at hlive
      cases hlive⟩

variable (cfg) in
/-- What an append leaves: one version more, or the output as it was when there is no room. -/
structure AppendedEntry (w₁ : World) (destination : Destination) (count tail : ℕ)
    (left : Set StoreVersion) (building : List TableEntry) (key : CompositeKey)
    (r : TableBuild × ℕ × Bool) (w : World) : Prop where
  added : r.2.2 = true → ∃ e,
    Condensed cfg w₁ destination count r.2.1 (without key left) (building ++ [e]) w ∧
      Built cfg w.dev.current r.1 (building ++ [e])
  full : r.2.2 = false → r.2.1 = tail ∧
    Condensed cfg w₁ destination count tail left building w ∧ Built cfg w.dev.current r.1 building

section
variable {namespaces : List Bytes} {pending : List MemtableRecord} {cursors : List CompactionCursor}

lemma triple_append_condensed (start : CompactionStart cfg w₁ destination)
    (hcursors : CursorsAt cfg w₁.db.manifest.tables w₁.dev.current cursors rests)
    (hfrom : WinnerFrom namespaces pending cursors key winner)
    (hchosen : Chosen cfg w₁ left key winner) (hplaced : OutputPlaced cfg w₁ b count) :
    Triple (fun w => Condensed cfg w₁ destination count tail left building w ∧
        Built cfg w.dev.current b building)
      (appendCompactionEntryUnsafe cfg b winner key destination tail)
      (AppendedEntry cfg w₁ destination count tail left building key)
      (fun _ => Compacting cfg w₁ destination) := by
  have hin : valueInActiveBank cfg w₁.db.manifest winner.value = true :=
    start.store.inBank start.sound (hchosen.behind.subset hchosen.newest.mem)
  have hfull : ∀ (b' : TableBuild) (w : World),
      Condensed cfg w₁ destination count tail left building w →
      Built cfg w.dev.current b' building →
      AppendedEntry cfg w₁ destination count tail left building key (b', tail, false) w :=
    fun b' w hw hb' => ⟨Bool.noConfusion, fun _ => ⟨rfl, hw, hb'⟩⟩
  unfold appendCompactionEntryUnsafe
  refine .bind (triple_closeFullBlock_condensed hplaced _) fun b₁ => ?_
  cases hstart : startDataBlock cfg b₁ key winner.transactionSequence with
  | none => exact .pure fun w hw => hfull b₁ w hw.1.1 hw.1.2
  | some b₂ =>
      refine .bind ((triple_winnerValue_at (P := fun w =>
        Condensed cfg w₁ destination count tail left building w ∧ Built cfg w.dev.current b₂ building)
        (fun w hw => ⟨hw.1.tick, hw.2⟩) (fun w hw => Compacting.sees start hw.1.aside) hcursors
        hfrom).conseq (fun w hw => ⟨hw.1.1, hw.1.2.startDataBlock hstart⟩) (fun _ _ hw => hw)
          fun _ _ hw => hw.1.aside) fun v => .of_pure (fun w hw => hw.2) fun hv => ?_
      rw [hv]
      refine .bind ((triple_relocateValue_condensed start hin).pre fun w hw => hw.1) fun moved => ?_
      cases moved with
      | none => exact .pure fun w hw => hfull b₂ w hw.2 hw.1
      | some moved =>
          obtain ⟨v', tail'⟩ := moved
          dsimp only
          cases hentry : encodeTableEntry cfg.blockBytes (tableBlockHeaderSize + b₂.dataPayloadSize)
            winner.transactionSequence key v' with
          | none => exact .throw fun w hw => hw.2.2.1.aside
          | some e =>
              refine .pure fun w hw => ⟨fun _ => ⟨e, ?_, hw.1.addEntry e⟩, Bool.noConfusion⟩
              exact hw.2.2.1.emit hchosen (version_encodeTableEntry hentry) hw.2.2.2

end

/-! ## The output tables -/

/-- A finished output table holds what has been built. -/
lemma triple_finishCompactionOutputUnsafe_finished :
    Triple (fun w => Built cfg w.dev.current b building)
      (finishCompactionOutputUnsafe cfg b destination tail)
      (fun reference w => (reference.slot = b.slot ∧ Finished cfg reference building w) ∧
        reference.maxSequence ∈ building.map TableEntry.transactionSequence)
      (fun _ _ => True) := by
  unfold finishCompactionOutputUnsafe
  refine .bind (Triple.check fun _ _ => trivial) fun _ => ?_
  have hlast : Triple (fun w => Built cfg w.dev.current b building)
      (if b.blockEntries ≠ [] then finishTableDataBlockUnsafe cfg b else pure b)
      (fun b' w => (Built cfg w.dev.current b' building ∧ b'.blockEntries = []) ∧ b'.slot = b.slot)
      (fun _ _ => True) :=
    .ite (fun _ => triple_finishTableDataBlockUnsafe_built.and_returns
      (returns_finishTableDataBlockUnsafe b)) fun hopen => .pure fun w hw =>
        ⟨⟨hw, not_not.mp hopen⟩, rfl⟩
  refine .of_pure (p := building ≠ []) (fun w hw hnil => hw.2 ?_) fun hne =>
    .bind (hlast.pre fun w hw => hw.1) fun b' => .of_pure
      (p := b'.blockEntries = [] ∧ b'.slot = b.slot ∧
        Counts (building.map TableEntry.transactionSequence) b')
      (fun w hw => ⟨hw.1.2, hw.2, hw.1.1.counts⟩) fun ⟨hopen, hslot, hcounts⟩ => ?_
  · rw [hw.1.counts.entries, hnil]
    rfl
  · refine ((@triple_finishTableUnsafe_finished cfg b' building hopen _).and_returns
      (returns_finishTableUnsafe b' _)).conseq (fun w hw => hw.1.1) (fun reference w hw => ?_)
      fun _ _ _ => trivial
    obtain ⟨⟨hown, hfinished⟩, hmax⟩ := hw
    refine ⟨⟨hown.trans hslot, hfinished⟩, ?_⟩
    rw [hmax]
    exact (hcounts.attained fun hnil => hne (List.map_eq_nil_iff.mp hnil)).2

lemma table_builds_finish :
    ∀ bank, Within (BuildsAside SameButCaches [b.slot] bank)
      (finishCompactionOutputUnsafe cfg b destination tail) := by
  intro bank
  unfold finishCompactionOutputUnsafe
  have hlast : Within (BuildsAside SameButCaches [b.slot] bank)
      (if b.blockEntries ≠ [] then finishTableDataBlockUnsafe cfg b else pure b) :=
    .ite (table_builds_block bank) .pure
  refine .bind Within.failIf fun _ => .bind_of hlast (Q := fun b' => b'.slot = b.slot)
    (.ite (fun _ => returns_finishTableDataBlockUnsafe b) fun _ => .pure rfl) fun b' hb' =>
      aside_finishTableUnsafe ?_ _
  rw [hb']
  exact List.mem_singleton_self _

/-- The sequences in the output are ones of the database. -/
lemma Condensed.recorded (h : Condensed cfg w₁ destination count tail left building w)
    (start : CompactionStart cfg w₁ destination) {sequence : ℕ}
    (hsequence : sequence ∈ building.map TableEntry.transactionSequence) :
    sequence < w₁.db.nextTransactionSequence := by
  obtain ⟨e, he, rfl⟩ := List.mem_map.mp hsequence
  obtain ⟨v, hv, hsame, -⟩ := h.condenses.origin e.version (.inr ⟨e, he, rfl⟩)
  have hsequence : v.sequence = e.transactionSequence := hsame
  rw [← hsequence]
  rcases hv.mem with htable | ⟨r, hr, rfl⟩
  · exact (start.store.tables.recorded htable).trans_lt start.ordered.checkpoint
  · exact (start.ordered.between.logged r hr).2

/-- The state that names a table in a slot. -/
def World.naming (w : World) (slot : ℕ) (reference : TableReference) : World :=
  { w with db := { w.db with manifest := { w.db.manifest with
    tables := Function.update w.db.manifest.tables slot (some reference) } } }

/-- **A finished table joins the output.** -/
lemma Condensed.close (h : Condensed cfg w₁ destination count tail left building w)
    (start : CompactionStart cfg w₁ destination) (hplaced : OutputPlaced cfg w₁ b count)
    {reference : TableReference} (hown : reference.slot = b.slot)
    (hfinished : Finished cfg reference building w)
    (hmax : reference.maxSequence ∈ building.map TableEntry.transactionSequence) :
    Condensed cfg w₁ destination (count + 1) tail left []
      (w.naming (outputStart cfg w₁.db.manifest + count) reference) := by
  have hmem := hplaced.mem
  have hfree := h.free count le_rfl hplaced.1
  rw [hplaced.2] at hown hmem
  have hclosed : Finished cfg reference (storedEntries cfg w.dev.current reference) w :=
    ⟨rfl, hfinished.serves, by rw [hfinished.stored]; exact hfinished.range,
      by rw [hfinished.stored]; exact hfinished.sequences⟩
  have hstep : BuildsAside (SameButTables (outputSlots cfg w₁)) (outputSlots cfg w₁)
      destination.bankSlot w (w.naming (outputStart cfg w₁.db.manifest + count) reference) :=
    ⟨⟨⟨rfl, fun slot hslot => Function.update_of_ne (fun heq => hslot (by rw [heq]; exact hmem)) _ _⟩,
      .refl⟩,
      fun _ _ => ⟨rfl, rfl⟩⟩
  refine ⟨trans_of (BuildsAside _ _ _) h.aside hstep, fun i hi hbound => ?_,
    fun slot hslot r htable => ?_, ?_⟩
  · refine (Function.update_of_ne ?_ _ _).trans (h.free i (by omega) hbound)
    omega
  · have htable' : Function.update w.db.manifest.tables (outputStart cfg w₁.db.manifest + count)
        (some reference) slot = some r := htable
    by_cases hs : slot = outputStart cfg w₁.db.manifest + count
    · rw [hs, Function.update_self] at htable'
      cases htable'
      exact ⟨hown.trans hs.symm, ⟨rfl, hclosed.serves, hclosed.range, hclosed.sequences⟩,
        h.recorded start hmax⟩
    · rw [Function.update_of_ne hs] at htable'
      obtain ⟨hown', hfinished', hrecorded⟩ := h.tables slot hslot r htable'
      exact ⟨hown', ⟨rfl, hfinished'.serves, hfinished'.range, hfinished'.sequences⟩, hrecorded⟩
  · have hversions : outVersions cfg w₁ []
        (w.naming (outputStart cfg w₁.db.manifest + count) reference) =
          outVersions cfg w₁ building w := ?_
    · rw [hversions]
      exact h.condenses.mono fun _ _ _ hmoved => ⟨hmoved.inlineSize, hmoved.means, hmoved.inBank⟩
    ext v
    constructor
    · rintro (⟨slot, hslot, r, htable, hv⟩ | ⟨e, he, -⟩)
      · have htable' : Function.update w.db.manifest.tables
          (outputStart cfg w₁.db.manifest + count) (some reference) slot = some r := htable
        by_cases hs : slot = outputStart cfg w₁.db.manifest + count
        · rw [hs, Function.update_self] at htable'
          cases htable'
          rw [← hfinished.stored]
          exact .inr hv
        · rw [Function.update_of_ne hs] at htable'
          exact .inl ⟨slot, hslot, r, htable', hv⟩
      · exact absurd he List.not_mem_nil
    · rintro (⟨slot, hslot, r, htable, hv⟩ | hv)
      · have hs : slot ≠ outputStart cfg w₁.db.manifest + count := fun heq => by
          rw [heq, hfree] at htable
          cases htable
        exact .inl ⟨slot, hslot, r, (Function.update_of_ne hs _ _).trans htable, hv⟩
      · rw [← hfinished.stored] at hv
        exact .inl ⟨_, hmem, reference, Function.update_self _ _ _, hv⟩

lemma triple_closeOutput_condensed (start : CompactionStart cfg w₁ destination)
    (hplaced : OutputPlaced cfg w₁ b count) :
    Triple (fun w => Condensed cfg w₁ destination count tail left building w ∧
        Built cfg w.dev.current b building) (closeOutput cfg b destination count tail)
      (fun _ => Condensed cfg w₁ destination (count + 1) tail left [])
      (fun _ => Compacting cfg w₁ destination) := by
  unfold closeOutput
  refine .bind (((triple_condensed_build table_builds_finish hplaced).both
    triple_finishCompactionOutputUnsafe_finished).conseq (fun _ hw => hw) (fun _ _ hw => hw)
      fun _ _ hw => hw.1) fun reference => Triple.modifyDb fun w hw => ?_
  obtain ⟨hcondensed, ⟨hown, hfinished⟩, hmax⟩ := hw
  have hmerging : Merging cfg w₁ destination w := hcondensed.aside.writing
  rw [hmerging.outputStart]
  exact hcondensed.close start hplaced hown hfinished hmax

lemma triple_openOutput_condensed (hcount : count < cfg.bankSize) :
    Triple (Condensed cfg w₁ destination count tail left building) (openOutput cfg count)
      (fun b w => (Condensed cfg w₁ destination count tail left building w ∧
        Built cfg w.dev.current b []) ∧ OutputPlaced cfg w₁ b count)
      (fun _ => Compacting cfg w₁ destination) := by
  unfold openOutput
  refine .bind Triple.fetch fun db => .of_pure
    (p := outputStart cfg db.manifest = outputStart cfg w₁.db.manifest)
    (fun w hw => by
      have hmerging : Merging cfg w₁ destination w := hw.1.aside.writing
      rw [← hw.2, hmerging.outputStart]) fun hstart => ?_
  rw [hstart]
  obtain ⟨b₀, hb₀⟩ : ∃ b : TableBuild, b =
      { slot := outputStart cfg w₁.db.manifest + count
        generation := db.manifest.nextTableGeneration + count } := ⟨_, rfl⟩
  have hplaced : OutputPlaced cfg w₁ b₀ count := ⟨hcount, by rw [hb₀]⟩
  have hopen : ∀ bank, Within (BuildsAside SameButCaches [b₀.slot] bank)
      (startCompactionOutputUnsafe cfg (outputStart cfg w₁.db.manifest + count)
        (db.manifest.nextTableGeneration + count)) := fun bank => by
    rw [hb₀]
    unfold startCompactionOutputUnsafe
    exact .bind Within.failIf fun _ => .bind (aside_clearCache (List.mem_singleton_self _)) fun _ =>
      .pure
  have hreturns : Returns (· = b₀)
      (startCompactionOutputUnsafe cfg (outputStart cfg w₁.db.manifest + count)
        (db.manifest.nextTableGeneration + count)) := by
    unfold startCompactionOutputUnsafe
    exact .bind .trivial fun _ _ => .bind .trivial fun _ _ => .pure hb₀.symm
  refine ((triple_condensed_build hopen hplaced).and_returns hreturns).conseq (fun w hw => hw.1)
    (fun b w hw => ?_) fun _ _ hw => hw
  obtain ⟨hcondensed, rfl⟩ := hw
  refine ⟨⟨hcondensed, ?_⟩, hplaced⟩
  rw [hb₀]
  exact .start _ _

/-! ## One winner -/

variable (cfg) in
/-- The output table under construction, if there is one. -/
inductive OutputAt (w₁ w : World) (count : ℕ) : Option TableBuild → List TableEntry → Prop
  | closed : OutputAt w₁ w count none []
  | building {b : TableBuild} {entries : List TableEntry} (placed : OutputPlaced cfg w₁ b count)
      (built : Built cfg w.dev.current b entries) : OutputAt w₁ w count (some b) entries

variable (cfg) in
/-- The output of a merge accounts for what is no longer left. -/
def PutOut (w₁ : World) (destination : Destination) (left : Set StoreVersion) (s : MergeState)
    (w : World) : Prop :=
  ∃ building, Condensed cfg w₁ destination s.outputCount s.destinationValueTail left building w ∧
    OutputAt cfg w₁ w s.outputCount s.output building

lemma PutOut.aside {s : MergeState} (h : PutOut cfg w₁ destination left s w) :
    Compacting cfg w₁ destination w := by
  obtain ⟨building, h, -⟩ := h
  exact h.aside

lemma PutOut.tick {s : MergeState} (h : PutOut cfg w₁ destination left s w) :
    PutOut cfg w₁ destination left s { w with dev := w.dev.tick } := by
  obtain ⟨building, h, hat⟩ := h
  refine ⟨building, h.tick, ?_⟩
  generalize s.output = output at hat ⊢
  cases hat with
  | closed => exact .closed
  | building placed built => exact .building placed built

/-- What a round does not change in the loop state. -/
def SameSources (s s' : MergeState) : Prop := s'.pending = s.pending ∧ s'.cursors = s.cursors

lemma returns_emitWinner (s : MergeState) (winner : MergeWinner) (key : CompositeKey) :
    Returns (SameSources s) (emitWinner cfg s winner key destination) := by
  unfold emitWinner
  refine .bind .trivial fun _ _ => .bind .trivial fun output _ => .bind .trivial fun r _ => ?_
  obtain ⟨output₁, tail, appended⟩ := r
  exact .ite (fun _ => .pure ⟨rfl, rfl⟩) fun _ => .bind .trivial fun _ _ => .bind .trivial fun _ _ =>
    .bind .trivial fun _ _ => .bind .trivial fun _ _ => .bind .trivial fun _ _ => .pure ⟨rfl, rfl⟩

lemma triple_currentOutput_condensed (s : MergeState) :
    Triple (PutOut cfg w₁ destination left s) (currentOutput cfg s)
      (fun b w => ∃ building, (Condensed cfg w₁ destination s.outputCount s.destinationValueTail left
        building w ∧ Built cfg w.dev.current b building) ∧ OutputPlaced cfg w₁ b s.outputCount)
      (fun _ => Compacting cfg w₁ destination) := by
  refine .of_exists fun building => ?_
  unfold currentOutput
  cases s.output with
  | none =>
      refine .bind (Triple.check fun w hw => hw.1.aside) fun _ => .of_pure
        (p := building = [] ∧ s.outputCount < cfg.bankSize)
        (fun w hw => ⟨?_, not_le.mp hw.2⟩) ?_
      · have hat := hw.1.2
        cases hat
        rfl
      rintro ⟨rfl, hcount⟩
      exact (triple_openOutput_condensed hcount).conseq (fun w hw => hw.1.1)
        (fun b w hw => ⟨[], hw⟩) fun _ _ hw => hw
  | some b =>
      refine .pure fun w hw => ⟨building, ?_⟩
      obtain ⟨hcondensed, hat⟩ := hw
      cases hat with
      | building placed built => exact ⟨⟨hcondensed, built⟩, placed⟩

section
variable {namespaces : List Bytes} {pending : List MemtableRecord} {cursors : List CompactionCursor}

/-- **The winner of a round goes to the output.** -/
lemma triple_emitWinner_condensed (start : CompactionStart cfg w₁ destination)
    (hcursors : CursorsAt cfg w₁.db.manifest.tables w₁.dev.current cursors rests)
    (hfrom : WinnerFrom namespaces pending cursors key winner)
    (hchosen : Chosen cfg w₁ left key winner) (s : MergeState) :
    Triple (PutOut cfg w₁ destination left s) (emitWinner cfg s winner key destination)
      (PutOut cfg w₁ destination (without key left))
      (fun _ => Compacting cfg w₁ destination) := by
  unfold emitWinner
  refine .bind (Triple.check fun w hw => hw.aside) fun _ => ?_
  dsimp only
  refine .bind ((triple_currentOutput_condensed _).pre fun w hw => hw.1) fun b =>
    .of_exists fun building => .of_pure (fun w hw => hw.2) fun hplaced => ?_
  refine .bind (((triple_append_condensed start hcursors hfrom hchosen hplaced).and_returns
    (returns_appendCompactionEntryUnsafe _ _ _ _ _)).pre fun w hw => hw.1) fun r => ?_
  obtain ⟨b₁, tail₁, appended⟩ := r
  refine .of_pure (p := b₁.slot = b.slot) (fun w hw => hw.2) fun hslot => ?_
  have hplaced₁ : OutputPlaced cfg w₁ b₁ s.outputCount := ⟨hplaced.1, hslot.trans hplaced.2⟩
  refine .ite (fun happended => .pure fun w hw => ?_) fun happended => ?_
  · obtain ⟨e, hcondensed, hbuilt⟩ := hw.1.added happended
    exact ⟨_, hcondensed, .building hplaced₁ hbuilt⟩
  · have hnot : appended = false := by simpa using happended
    refine .bind (Q := fun _ => Condensed cfg w₁ destination (s.outputCount + 1) tail₁ left [])
      ((@triple_closeOutput_condensed cfg w₁ destination tail₁ s.outputCount left building b₁ start
        hplaced₁).pre fun w hw => ?_) fun _ => .bind (Triple.check fun w hw => hw.aside) fun _ =>
      .of_pure (fun w hw => not_le.mp hw.2) fun hcount => ?_
    · obtain ⟨htail, hcondensed, hbuilt⟩ := hw.1.full hnot
      rw [show tail₁ = s.destinationValueTail from htail]
      exact ⟨hcondensed, hbuilt⟩
    refine .bind ((triple_openOutput_condensed hcount).pre fun w hw => hw.1) fun b₂ =>
      .of_pure (fun w hw => hw.2) fun hplaced₂ => ?_
    refine .bind (((triple_append_condensed start hcursors hfrom hchosen hplaced₂).and_returns
      (returns_appendCompactionEntryUnsafe _ _ _ _ _)).pre fun w hw => hw.1) fun r => ?_
    obtain ⟨b₃, tail₃, appended₃⟩ := r
    refine .of_pure (p := b₃.slot = b₂.slot) (fun w hw => hw.2) fun hslot₃ =>
      .bind (Triple.check fun w hw => ?_) fun _ => .pure fun w hw => ?_
    · cases happended₃ : appended₃ with
      | true =>
          obtain ⟨e, hcondensed, -⟩ := hw.1.added happended₃
          exact hcondensed.aside
      | false => exact (hw.1.full happended₃).2.1.aside
    · have happended₃ : appended₃ = true := by simpa using hw.2
      obtain ⟨e, hcondensed, hbuilt⟩ := hw.1.1.added happended₃
      exact ⟨_, hcondensed, .building ⟨hplaced₂.1, hslot₃.trans hplaced₂.2⟩ hbuilt⟩

end

/-! ## The rounds -/

variable (cfg) in
/-- The merge stands in front of what is left of its sources. -/
structure Merged (w₁ : World) (destination : Destination) (rests : List (List TableEntry))
    (s : MergeState) (w : World) : Prop where
  cursors : CursorsAt cfg w₁.db.manifest.tables w₁.dev.current s.cursors rests
  sorted : SortedSources w₁.db.namespaces s.pending rests
  behind : Behind (w₁.versions cfg) (leftVersions w₁.db.namespaces s.pending rests)
  emitted : PutOut cfg w₁ destination (leftVersions w₁.db.namespaces s.pending rests) s w

/-- **A round takes the smallest key.** -/
lemma triple_mergeRound_merged (start : CompactionStart cfg w₁ destination) {s : MergeState}
    (hkey : smallestKey w₁.db.namespaces s.pending s.cursors = some key) :
    Triple (Merged cfg w₁ destination rests s) (mergeRound cfg s key destination)
      (fun s' w => ∃ rests', Merged cfg w₁ destination rests' s' w)
      (fun _ => Compacting cfg w₁ destination) := by
  refine .of_pure (fun w hw => And.intro hw.cursors (And.intro hw.sorted hw.behind))
    fun ⟨hcursors, hsorted, hbehind⟩ => ?_
  obtain ⟨left, hleft⟩ : ∃ left, left = leftVersions w₁.db.namespaces s.pending rests := ⟨_, rfl⟩
  have hleast := (smallestKey_spec hcursors hsorted hkey).1
  unfold mergeRound
  refine .bind Triple.fetch fun db => .of_pure (p := db.namespaces = w₁.db.namespaces)
    (fun w hw => by rw [← hw.2, hw.1.emitted.aside.writing.db.rest]) fun hnames =>
    .pre (S := PutOut cfg w₁ destination left s) ?_ fun w hw => by
      rw [hleft]
      exact hw.1.emitted
  rw [hnames]
  refine .bind (Q := fun found w => PutOut cfg w₁ destination left s w ∧
      selectWinner key s.cursors (memtableWinner w₁.db.namespaces s.pending key) = .ok found)
    (Triple.liftResult (fun w _ hw h => ⟨hw, h⟩) fun w _ hw _ => hw.aside) fun found =>
    .of_pure (fun w hw => hw.2) fun hfound => ?_
  cases found with
  | none => exact .throw fun w hw => hw.1.aside
  | some winner =>
      obtain ⟨hnewest, hfrom⟩ := selectWinner_newest hcursors hsorted hleast hfound
      rw [← hleft] at hnewest hleast hbehind
      have hround : ∀ s₀ : MergeState, SameSources s s₀ → (∀ w, PutOut cfg w₁ destination left s w →
          PutOut cfg w₁ destination left s₀ w) →
          Triple (PutOut cfg w₁ destination left s)
            (if winner.value.isTombstone then pure s₀ else emitWinner cfg s₀ winner key destination)
            (fun s' w => PutOut cfg w₁ destination (without key left) s' w ∧ SameSources s s')
            (fun _ => Compacting cfg w₁ destination) := fun s₀ hs₀ hkeep => by
        refine .ite (fun hdead => .pure fun w hw => ⟨?_, hs₀⟩) fun hlive => ?_
        · obtain ⟨building, hcondensed, hat⟩ := hkeep w hw
          exact ⟨building, hcondensed.drop start hbehind hnewest hdead, hat⟩
        · exact ((triple_emitWinner_condensed start hcursors hfrom
            ⟨hnewest, hleast, hbehind, by simpa using hlive⟩ s₀).and_returns
              (returns_emitWinner s₀ winner key)).conseq hkeep (fun s' w hw =>
                ⟨hw.1, hw.2.1.trans hs₀.1, hw.2.2.trans hs₀.2⟩) fun _ _ hw => hw
      refine .bind ((hround { s with
        greatestSequence := max s.greatestSequence winner.transactionSequence } ⟨rfl, rfl⟩
          fun w hw => hw).pre fun w hw => hw.1) fun s₁ => .of_pure (fun w hw => hw.2) fun hs₁ => ?_
      obtain ⟨hpending, hsame⟩ := hs₁
      rw [hsame, hpending]
      refine .bind ((triple_advanceCursors_at (fun w hw => hw.tick)
        (fun w hw => Compacting.sees start hw.aside) hcursors).conseq (fun w hw => hw.1)
          (fun _ _ hw => hw) fun _ _ hw => hw.aside) fun cursors => .pure fun w hw => ?_
      obtain ⟨hemitted, hadvanced⟩ := hw
      obtain ⟨rests', hat, hsub, hkept⟩ := hadvanced.trim
      rw [hleft] at hleast
      obtain ⟨hversions, hsorted'⟩ := leftVersions_advanced hsorted hleast hsub hkept
      rw [hleft] at hemitted hbehind
      refine ⟨rests', hat, hsorted', ?_, ?_⟩
      · show Behind _ (leftVersions w₁.db.namespaces (advancePending w₁.db.namespaces s.pending key)
          rests')
        rw [hversions]
        exact hbehind.without hleast
      · show PutOut _ _ _ (leftVersions w₁.db.namespaces
          (advancePending w₁.db.namespaces s.pending key) rests') _ _
        rw [hversions]
        exact hemitted

lemma Merged.nothing_left {s : MergeState} (h : Merged cfg w₁ destination rests s w)
    (hend : s.pending = [] ∧ s.cursors.length = 0) : PutOut cfg w₁ destination ∅ s w := by
  obtain ⟨hpending, hcursors⟩ := hend
  have hat := h.cursors
  rw [List.length_eq_zero_iff.mp hcursors] at hat
  cases hat
  have hempty : leftVersions w₁.db.namespaces s.pending [] = ∅ := by
    rw [hpending]
    ext v
    refine ⟨?_, fun hv => absurd hv (Set.notMem_empty v)⟩
    rintro (⟨r, hr, -⟩ | ⟨rest, hrest, -⟩)
    · exact absurd hr List.not_mem_nil
    · exact absurd hrest List.not_mem_nil
  rw [← hempty]
  exact h.emitted

/-- **The merge leaves nothing behind.** -/
theorem triple_mergeLoop_merged (start : CompactionStart cfg w₁ destination) (fuel : ℕ)
    (s : MergeState) :
    Triple (fun w => ∃ rests, Merged cfg w₁ destination rests s w)
      (mergeLoop cfg destination fuel s) (PutOut cfg w₁ destination ∅)
      (fun _ => Compacting cfg w₁ destination) := by
  induction fuel generalizing s with
  | zero =>
      refine .of_exists fun rests => .ite (fun hend => .pure fun w hw => hw.nothing_left hend)
        fun _ => .throw fun w hw => hw.emitted.aside
  | succ fuel ih =>
      refine .of_exists fun rests => ?_
      unfold mergeLoop
      refine .ite (fun hend => .pure fun w hw => hw.nothing_left hend) fun _ => ?_
      refine .bind Triple.fetch fun db => .of_pure (p := db.namespaces = w₁.db.namespaces)
        (fun w hw => by rw [← hw.2, hw.1.emitted.aside.writing.db.rest]) fun hnames => ?_
      rw [hnames]
      cases hkey : smallestKey w₁.db.namespaces s.pending s.cursors with
      | none =>
          refine .pure fun w hw => ?_
          rw [← leftVersions_empty hw.1.cursors hkey]
          exact hw.1.emitted
      | some key =>
          exact .bind ((triple_mergeRound_merged start hkey).pre fun w hw => hw.1) fun s₁ => ih s₁

/-- Behind the last output table. -/
lemma triple_closeLastOutput_condensed (start : CompactionStart cfg w₁ destination) (s : MergeState) :
    Triple (PutOut cfg w₁ destination left s) (closeLastOutput cfg destination s)
      (fun s' => Condensed cfg w₁ destination s'.outputCount s'.destinationValueTail left [])
      (fun _ => Compacting cfg w₁ destination) := by
  unfold closeLastOutput
  refine .of_exists fun building => ?_
  cases houtput : s.output with
  | none =>
      refine .pure fun w hw => ?_
      obtain ⟨hcondensed, hat⟩ := hw
      cases hat
      exact hcondensed
  | some b =>
      refine .of_pure (p := OutputPlaced cfg w₁ b s.outputCount) (fun w hw => ?_) fun hplaced =>
        .bind ((triple_closeOutput_condensed start hplaced).pre fun w hw => ⟨hw.1, ?_⟩) fun _ =>
          .pure fun w hw => hw
      · cases hw.2 with
        | building placed built => exact placed
      · cases hw.2 with
        | building placed built => exact built

/-- **The merge keeps the newest version of every key.** -/
theorem triple_mergeTables_condensed (start : CompactionStart cfg w₁ destination) (fuel : ℕ)
    (s : MergeState) :
    Triple (fun w => ∃ rests, Merged cfg w₁ destination rests s w)
      (mergeTables cfg destination fuel s)
      (fun s' => Condensed cfg w₁ destination s'.outputCount s'.destinationValueTail ∅ [])
      (fun _ => Compacting cfg w₁ destination) := by
  unfold mergeTables
  refine .bind (triple_mergeLoop_merged start fuel s) fun s₁ =>
    .bind (triple_closeLastOutput_condensed start s₁) fun s₂ => .bind Triple.fetch fun db =>
      .bind (Triple.check fun w hw => hw.1.aside) fun _ => .pure fun w hw => hw.1.1

end On9kvdb
