import On9kvdb.Accept.Validation
import On9kvdb.Commit.Recover

/-!
# What a start takes over from the tables

A successful start leaves every active table with the entries and the key filter its validation has
seen and with the key range of its footer (`RecoveredTable`).  Which tables those are is decided by
the manifest copy the start selects.
-/

namespace On9kvdb

open Exceptional

variable {cfg : Config} {α : Type}

/-! ## What stays -/

/-- The tables, their filters and what lookups read of the media have not changed. -/
structure KeptTables (w w' : World) : Prop where
  tables : w'.db.manifest.tables = w.db.manifest.tables
  filters : w'.db.tableKeyFilters = w.db.tableKeyFilters
  footer : w'.dev.current.tableFooter = w.dev.current.tableFooter
  block : w'.dev.current.tableBlock = w.dev.current.tableBlock
  index : w'.dev.current.tableIndex = w.dev.current.tableIndex

instance : Std.Refl KeptTables := ⟨fun _ => ⟨rfl, rfl, rfl, rfl, rfl⟩⟩

instance : IsTrans World KeptTables := ⟨fun _ _ _ h₁ h₂ =>
  ⟨h₂.tables.trans h₁.tables, h₂.filters.trans h₁.filters, h₂.footer.trans h₁.footer,
    h₂.block.trans h₁.block, h₂.index.trans h₁.index⟩⟩

lemma KeptTables.tick (w : World) : KeptTables w { w with dev := w.dev.tick } :=
  ⟨rfl, rfl, rfl, rfl, rfl⟩

lemma KeptTables.of_reading {w w' : World} (h : Reading w w') : KeptTables w w' := by
  obtain ⟨hdb, hdev⟩ := h
  have hcurrent : w'.dev.current = w.dev.current := by rw [hdev]
  refine ⟨?_, ?_, ?_, ?_, ?_⟩
  · rw [hdb]
  · rw [hdb]
  · rw [hcurrent]
  · rw [hcurrent]
  · rw [hcurrent]

lemma keptTables_countTables (fuel : ℕ) (cursors : List CompactionCursor) :
    Within KeptTables (countTables cfg fuel cursors) := by
  induction fuel generalizing cursors with
  | zero => exact Within.failIf
  | succ fuel ih =>
      unfold countTables
      refine .ite ?_ .pure
      cases smallestKey [] [] cursors with
      | none => exact .throw
      | some key =>
          refine .bind Within.failIf fun _ => .bind Within.liftResult fun winner => ?_
          cases winner with
          | none => exact .throw
          | some winner =>
              intro w
              rw [exec_bind, exec_getDb]
              dsimp only
              rw [exec_bind, exec_liftResult]
              cases hcount : countWinner cfg w.db key winner with
              | error e => exact refl_of KeptTables w
              | ok db =>
                  dsimp only
                  rw [exec_bind, exec_modifyDb]
                  dsimp only
                  have hstep : KeptTables w { w with db := db } := by
                    rw [countWinner_frame hcount]
                    exact ⟨rfl, rfl, rfl, rfl, rfl⟩
                  refine trans_of KeptTables hstep (Within.bind ?_ (fun _ => ih _) _)
                  exact fun w => .of_reading (within_advanceCursors key cursors w)

/-- The write of a manifest copy leaves the table files alone. -/
lemma keptTables_writeManifest (slot : ℕ) (copy : ManifestCopy) :
    Within KeptTables (writeStorage (.manifestCopy slot copy)) := fun w => by
  rw [exec_writeStorage]
  have hcurrent := w.dev.current_write (.manifestCopy slot copy)
  refine ⟨rfl, rfl, ?_, ?_, ?_⟩ <;> rcases hcurrent with h | h | h <;> exact h ▸ rfl

lemma keptTables_syncStorage : Within KeptTables syncStorage := fun w => by
  rw [exec_syncStorage]
  have hcurrent := w.dev.current_sync
  exact ⟨rfl, rfl, hcurrent ▸ rfl, hcurrent ▸ rfl, hcurrent ▸ rfl⟩

lemma keptTables_writeManifestCopy (generation : ℕ) (state : ManifestState) :
    Within KeptTables (writeManifestCopy generation state) := by
  refine .of_triple fun w₀ => ?_
  unfold writeManifestCopy onError
  refine .bind (Triple.getDb (Q := fun db w => KeptTables w₀ w ∧ db = w₀.db)
    (fun w hw => hw ▸ ⟨refl_of KeptTables w, rfl⟩)) fun db => .of_pure (fun _ hw => hw.2) ?_
  rintro rfl
  refine .bind (Q := fun _ => KeptTables w₀) (Triple.failIf (fun _ hw _ => hw.1)
    fun _ hw _ => hw.1) fun _ => ?_
  dsimp only
  cases encodeManifestRecord { w₀.db.manifest with generation := generation, state := state } with
  | none => exact .throw fun _ hw => hw
  | some copy =>
      have hstore : Within KeptTables (do
          writeStorage (.manifestCopy (manifestSlotOf generation) copy)
          syncStorage) :=
        .bind (keptTables_writeManifest _ _) fun _ => keptTables_syncStorage
      have hguarded : Within KeptTables (onError (do
          writeStorage (.manifestCopy (manifestSlotOf generation) copy)
          syncStorage) (modifyDb fun db => { db with storageFaulted := true })) :=
        .tryCatch hstore fun e => .bind (Within.modifyDb fun _ => ⟨rfl, rfl, rfl, rfl, rfl⟩)
          fun _ => .throw
      exact .bind (hguarded.invariant fun _ _ => trans_of KeptTables) fun _ =>
        Triple.modifyDb fun w hw => ⟨rfl, hw.filters, hw.footer, hw.block, hw.index⟩

lemma keptTables_stabilizeManifestUnsafe : Within KeptTables stabilizeManifestUnsafe := by
  unfold stabilizeManifestUnsafe
  refine .bind Within.getDb fun db => .ite ?_ .pure
  exact .bind Within.failIf fun _ => .bind (keptTables_writeManifestCopy _ _) fun _ =>
    Within.modifyDb fun _ => ⟨rfl, rfl, rfl, rfl, rfl⟩

/-! ## The tables of a start -/

/-- A table behind a start: accepted, with the key range of its footer and its entries in the
filter. -/
structure RecoveredTable (cfg : Config) (db : Db) (m : Media) (slot : ℕ)
    (reference : TableReference) : Prop where
  own : reference.slot = slot
  accepted : ∃ metadata bits index, AcceptedTable cfg m reference metadata bits index ∧
    reference.minKey = metadata.minKey ∧ reference.maxKey = metadata.maxKey ∧
    db.tableKeyFilters slot = ⟨reference.generation, true, bits⟩

/-- The table of a slot is recovered, if there is one. -/
def SlotRecovered (cfg : Config) (w : World) (slot : ℕ) : Prop :=
  ∀ reference, w.db.manifest.tables slot = some reference →
    RecoveredTable cfg w.db w.dev.current slot reference

/-- Every reference is kept in the slot it names. -/
def OwnSlots (r : ManifestRecord) : Prop :=
  ∀ slot < maxTableCount, ∀ reference, r.tables slot = some reference → reference.slot = slot

/-- The acceptance of a table does not depend on its key range. -/
lemma AcceptedTable.congr {m m' : Media} {reference reference' : TableReference}
    {metadata : TableMetadata} {bits : ℕ → Bool} {index : TableIndex}
    (h : AcceptedTable cfg m reference metadata bits index)
    (hfooter : m'.tableFooter = m.tableFooter) (hblock : m'.tableBlock = m.tableBlock)
    (hindex : m'.tableIndex = m.tableIndex) (hreference : reference' =
      { reference with minKey := reference'.minKey, maxKey := reference'.maxKey }) :
    AcceptedTable cfg m' reference' metadata bits index := by
  have hentries : storedEntries cfg m' reference' = storedEntries cfg m reference := by
    rw [hreference]
    simp only [storedEntries, entriesFrom, blockEntries, hblock]
  refine ⟨?_, ?_, ?_, ?_, ⟨h.blocks.offsets, ?_⟩, ?_, ?_⟩
  · rw [hfooter, hreference]
    exact h.footer
  · rw [hreference]
    exact h.agrees
  · rw [hindex, hreference]
    exact h.stored
  · rw [hreference]
    exact h.count
  · rw [hblock, hreference]
    exact h.blocks.present
  · rw [hentries]
    exact h.sorted
  · rw [hentries]
    exact h.filter

lemma SlotRecovered.kept {w w' : World} {slot : ℕ} (h : SlotRecovered cfg w slot)
    (hkept : KeptTables w w') : SlotRecovered cfg w' slot := by
  intro reference hreference
  rw [hkept.tables] at hreference
  obtain ⟨hown, metadata, bits, index, haccepted, hmin, hmax, hfilter⟩ := h reference hreference
  exact ⟨hown, metadata, bits, index,
    haccepted.congr hkept.footer hkept.block hkept.index rfl, hmin, hmax, by rwa [hkept.filters]⟩

lemma Caching.update (w : World) (cache : ℕ → TableIndexCacheSlot) (filters : ℕ → TableKeyFilterSlot) :
    Caching w { w with db := { w.db with
      tableIndexCache := cache
      tableKeyFilters := filters } } := ⟨rfl, rfl⟩

/-- What a successful validation has done. -/
structure Validated (cfg : Config) (reference : TableReference) (w₀ w : World) : Prop where
  caching : Caching w₀ w
  others : ∀ slot, slot ≠ reference.slot →
    w.db.tableKeyFilters slot = w₀.db.tableKeyFilters slot
  accepted : ∃ metadata bits index,
    AcceptedTable cfg w₀.dev.current reference metadata bits index ∧
      w.db.tableKeyFilters reference.slot = ⟨reference.generation, true, bits⟩

/-- **A validation that succeeds has accepted the table**, and leaves its filter. -/
lemma triple_validateTableUnsafe_accepted (w₀ : World) (reference : TableReference)
    (bank : BankBounds) :
    Triple (· = w₀) (validateTableUnsafe cfg reference bank)
      (fun _ => Validated cfg reference w₀) (fun _ _ => True) := by
  have hreset : ∀ w : World, w = w₀ → Caching w₀ { w with db := { w.db with
      tableIndexCache := Function.update w.db.tableIndexCache reference.slot {}
      tableKeyFilters := Function.update w.db.tableKeyFilters reference.slot {} } } ∧
      ∀ slot, slot ≠ reference.slot → Function.update w.db.tableKeyFilters reference.slot {} slot =
        w₀.db.tableKeyFilters slot := fun w hw =>
    hw ▸ ⟨⟨rfl, rfl⟩, fun slot hne => Function.update_of_ne hne _ _⟩
  unfold validateTableUnsafe
  refine .bind (Q := fun _ => (· = w₀)) (Triple.failIf (fun _ hw _ => hw) fun _ _ _ => trivial)
    fun _ => .bind (Q := fun _ w => Caching w₀ w ∧
      ∀ slot, slot ≠ reference.slot → w.db.tableKeyFilters slot = w₀.db.tableKeyFilters slot)
      (Triple.modifyDb hreset) fun _ => .bind (Q := fun _ w => Caching w₀ w ∧
      ∀ slot, slot ≠ reference.slot → w.db.tableKeyFilters slot = w₀.db.tableKeyFilters slot)
      (Triple.failIf (fun _ hw _ => hw) fun _ _ _ => trivial) fun _ => ?_
  refine .bind (Q := fun found w => (Caching w₀ w ∧
      ∀ slot, slot ≠ reference.slot → w.db.tableKeyFilters slot = w₀.db.tableKeyFilters slot) ∧
      ∃ metadata, AcceptedTable cfg w₀.dev.current reference metadata found.1 found.2)
    (Triple.readStorage (fun w found hw hread => ?_) fun _ _ _ => trivial) fun found => ?_
  · refine ⟨⟨trans_of Caching hw.1 (Caching.tick w), hw.2⟩, ?_⟩
    have hcurrent : w.dev.current = w₀.dev.current := by rw [hw.1.dev]
    rw [hcurrent] at hread
    exact checkTable_accepted hread
  · obtain ⟨bits, index⟩ := found
    refine .of_pure (fun _ hw => hw.2) ?_
    rintro ⟨metadata, haccepted⟩
    refine .bind (Q := fun _ => Validated cfg reference w₀) (Triple.modifyDb fun w hw => ?_)
      fun _ => .ite (fun _ => ?_) fun _ => .pure fun _ hw => hw
    · refine ⟨trans_of Caching hw.1.1 (.update w _ _), fun slot hne => ?_, metadata, bits, index,
        haccepted, Function.update_self ..⟩
      exact (Function.update_of_ne hne _ _).trans (hw.1.2 slot hne)
    · exact .bind (Q := fun _ => Validated cfg reference w₀)
        (Triple.failIf (fun _ hw _ => hw) fun _ _ _ => trivial) fun _ =>
        Triple.modifyDb fun w hw =>
          ⟨trans_of Caching hw.caching (.update w _ _), hw.others, hw.accepted⟩

/-- The world with the key range of a footer taken over. -/
def takeOverRange (cfg : Config) (slot : ℕ) (reference : TableReference) (footer : TableMetadata)
    (w : World) : World :=
  { w with db := { w.db with
    manifest := { w.db.manifest with
      tables := Function.update w.db.manifest.tables slot
        (some { reference with minKey := footer.minKey, maxKey := footer.maxKey }) }
    stats := { w.db.stats with
      tableBytesUsed := add64 w.db.stats.tableBytesUsed
        (tableFileBytes cfg reference.dataBlockCount) } } }

/-- A validated table is recovered once it has the key range of its footer; the others stay so. -/
lemma Validated.takeOver {w₀ w : World} {slot : ℕ} {reference : TableReference}
    {record : TableMetadataRecord} (h : Validated cfg reference w₀ w)
    (hown : OwnSlots w₀.db.manifest) (hslot : slot < maxTableCount)
    (hreference : w₀.db.manifest.tables slot = some reference)
    (hfooter : w₀.dev.current.tableFooter reference.slot = .ok record) {passed : ℕ → Prop}
    (hpassed : ∀ s, passed s → SlotRecovered cfg w₀ s) :
    OwnSlots (takeOverRange cfg slot reference record.metadata w).db.manifest ∧
      ∀ s, passed s ∨ s = slot →
        SlotRecovered cfg (takeOverRange cfg slot reference record.metadata w) s := by
  obtain ⟨hcaching, hothers, metadata, bits, index, haccepted, hfilter⟩ := h
  obtain ⟨record', hfooter', rfl⟩ := haccepted.footer
  rw [hfooter] at hfooter'
  cases hfooter'
  have hself : reference.slot = slot := hown slot hslot reference hreference
  have hcurrent : w.dev.current = w₀.dev.current := by rw [hcaching.dev]
  have htables : w.db.manifest.tables = w₀.db.manifest.tables := by rw [hcaching.db]
  have hnew : (takeOverRange cfg slot reference record.metadata w).db.manifest.tables =
      Function.update w₀.db.manifest.tables slot (some { reference with
        minKey := record.metadata.minKey, maxKey := record.metadata.maxKey }) := by
    rw [← htables]
    rfl
  refine ⟨fun s hs reference' hreference' => ?_, fun s hs reference' hreference' => ?_⟩
  · rw [hnew] at hreference'
    by_cases heq : s = slot
    · subst heq
      rw [Function.update_self] at hreference'
      cases hreference'
      exact hself
    · rw [Function.update_of_ne heq] at hreference'
      exact hown s hs reference' hreference'
  · rw [hnew] at hreference'
    show RecoveredTable cfg _ w.dev.current s reference'
    rw [hcurrent]
    by_cases heq : s = slot
    · subst heq
      rw [Function.update_self] at hreference'
      cases hreference'
      exact ⟨hself, record.metadata, bits, index, haccepted.congr rfl rfl rfl rfl, rfl, rfl,
        hself ▸ hfilter⟩
    · rw [Function.update_of_ne heq] at hreference'
      obtain ⟨hown', metadata', bits', index', haccepted', hmin, hmax, hfilter'⟩ :=
        hpassed s (hs.resolve_right heq) reference' hreference'
      exact ⟨hown', metadata', bits', index', haccepted', hmin, hmax,
        (hothers s (hself ▸ heq)).trans hfilter'⟩

/-- **Every slot the loop has passed is recovered.** -/
lemma triple_recoverTableReferences (slots : List ℕ) (hslots : ∀ slot ∈ slots, slot < maxTableCount)
    (passed : ℕ → Prop) :
    Triple (fun w => OwnSlots w.db.manifest ∧ ∀ slot, passed slot → SlotRecovered cfg w slot)
      (recoverTableReferences cfg slots)
      (fun _ w => OwnSlots w.db.manifest ∧
        ∀ slot, passed slot ∨ slot ∈ slots → SlotRecovered cfg w slot) (fun _ _ => True) := by
  induction slots generalizing passed with
  | nil => exact .pure fun w hw => ⟨hw.1, fun slot hslot =>
      hw.2 slot (hslot.resolve_right List.not_mem_nil)⟩
  | cons slot rest ih =>
      have hrest := ih (fun s hs => hslots s (List.mem_cons_of_mem _ hs)) fun s => passed s ∨ s = slot
      have hslot := hslots slot List.mem_cons_self
      have hpost : ∀ w : World, (OwnSlots w.db.manifest ∧
          ∀ s, (passed s ∨ s = slot) ∨ s ∈ rest → SlotRecovered cfg w s) →
          OwnSlots w.db.manifest ∧ ∀ s, passed s ∨ s ∈ slot :: rest → SlotRecovered cfg w s :=
        fun w hw => ⟨hw.1, fun s hs => hw.2 s (by rwa [or_assoc, ← List.mem_cons])⟩
      unfold recoverTableReferences
      refine .of_state fun w₀ hw₀ => .bind (Q := fun db w => w = w₀ ∧ db = w₀.db)
        (Triple.getDb fun w hw => hw ▸ ⟨rfl, rfl⟩) fun db => .of_pure (fun _ hw => hw.2) ?_
      rintro rfl
      cases hreference : w₀.db.manifest.tables slot with
      | none =>
          refine hrest.conseq (fun w hw => ?_) (fun _ w hw => hpost w hw) fun _ _ _ => trivial
          rw [hw.1]
          refine ⟨hw₀.1, fun s hs reference hsome => ?_⟩
          rcases hs with hs | rfl
          · exact hw₀.2 s hs reference hsome
          · rw [hreference] at hsome
            cases hsome
      | some reference =>
          refine .bind ((triple_validateTableUnsafe_accepted w₀ reference _).pre fun _ hw => hw.1)
            fun _ => .bind (Q := fun footer w => Validated cfg reference w₀ w ∧
              ∃ record, w₀.dev.current.tableFooter reference.slot = .ok record ∧
                record.metadata = footer)
              (Triple.readStorage (fun w footer hw hread => ?_) fun _ _ _ => trivial) fun footer => ?_
          · refine ⟨⟨trans_of Caching hw.caching (Caching.tick w), hw.others, hw.accepted⟩, ?_⟩
            have hcurrent : w.dev.current = w₀.dev.current := by rw [hw.caching.dev]
            rw [hcurrent] at hread
            cases hfooter : w₀.dev.current.tableFooter reference.slot with
            | error e =>
                rw [hfooter] at hread
                cases hread
            | ok record =>
                rw [hfooter] at hread
                dsimp only at hread
                split_ifs at hread
                cases hread
                exact ⟨record, rfl, rfl⟩
          · refine .bind (Q := fun _ w => OwnSlots w.db.manifest ∧
              ∀ s, passed s ∨ s = slot → SlotRecovered cfg w s)
              (Triple.modifyDb fun w hw => ?_) fun _ => hrest.conseq (fun _ hw => hw)
                (fun _ w hw => hpost w hw) fun _ _ _ => trivial
            obtain ⟨hvalidated, record, hfooter, rfl⟩ := hw
            exact hvalidated.takeOver hw₀.1 hslot hreference hfooter hw₀.2

/-! ## Without a device failure -/

/-- The validation of a table that passes its checks, with the caches. -/
lemma exec_validateTableUnsafe {w : World} {reference : TableReference} {bank : BankBounds}
    {bits : ℕ → Bool} {index : TableIndex} (hslot : reference.slot < cfg.geometry.tableCount)
    (hbank : bank.bankSlot < valueBankCount ∧ bank.bankGeneration ≠ 0 ∧
      bank.tail ≤ cfg.geometry.valueBankSize) (hcaches : cfg.optionalCaches = true)
    (hcount : reference.dataBlockCount ≠ 0 ∧ reference.dataBlockCount ≤ cfg.maximumDataBlocks)
    (hfault : w.dev.fault = .none)
    (hcheck : checkTable cfg w.dev.current reference bank = .ok (bits, index)) :
    exec (validateTableUnsafe cfg reference bank) w = (.ok (), { w with
      db := { w.db with
        tableIndexCache := Function.update
          (Function.update w.db.tableIndexCache reference.slot {}) reference.slot
            ⟨reference.generation, true, index.firstKeys⟩
        tableKeyFilters := Function.update
          (Function.update w.db.tableKeyFilters reference.slot {}) reference.slot
            ⟨reference.generation, true, bits⟩ }
      dev := w.dev.tick }) := by
  unfold validateTableUnsafe
  rw [exec_bind, exec_failIf, if_neg (not_le.mpr hslot)]
  dsimp only
  rw [exec_bind, exec_modifyDb]
  dsimp only
  rw [exec_bind, exec_failIf, if_neg (by push Not; exact hbank)]
  dsimp only
  rw [exec_bind, exec_readStorage]
  dsimp only
  rw [if_pos hfault, hcheck]
  dsimp only
  rw [exec_bind, exec_modifyDb]
  dsimp only
  rw [if_pos hcaches, exec_bind, exec_failIf, if_neg (by push Not; exact hcount)]
  rfl

lemma exec_recoverTableReferences_none {w : World} {slot : ℕ}
    (h : w.db.manifest.tables slot = none) (rest : List ℕ) :
    exec (recoverTableReferences cfg (slot :: rest)) w =
      exec (recoverTableReferences cfg rest) w := by
  rw [recoverTableReferences, exec_bind, exec_getDb]
  dsimp only
  rw [h]

/-- The loop takes over the key range of a table that validates. -/
lemma exec_recoverTableReferences_some {w w₁ : World} {slot : ℕ}
    {reference : TableReference} {record : TableMetadataRecord}
    (hreference : w.db.manifest.tables slot = some reference)
    (hvalidate : exec (validateTableUnsafe cfg reference (activeBankBounds w.db.manifest)) w =
      (.ok (), w₁)) (hfault : w₁.dev.fault = .none)
    (hfooter : w₁.dev.current.tableFooter reference.slot = .ok record)
    (hown : record.metadata.generation = reference.generation ∧
      record.metadata.slot = reference.slot) (rest : List ℕ) :
    exec (recoverTableReferences cfg (slot :: rest)) w = exec (recoverTableReferences cfg rest)
      (takeOverRange cfg slot reference record.metadata { w₁ with dev := w₁.dev.tick }) := by
  rw [recoverTableReferences, exec_bind, exec_getDb]
  dsimp only
  rw [hreference]
  dsimp only
  rw [exec_bind, hvalidate]
  dsimp only
  rw [exec_bind, exec_readStorage, if_pos hfault, hfooter]
  dsimp only
  rw [if_neg (by push Not; exact hown)]
  dsimp only
  rw [exec_bind, exec_modifyDb]
  rfl

end On9kvdb
