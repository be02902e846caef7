import On9kvdb.Accept.Start

/-!
# When an accepted image is safe to read

A start takes over the key range of each footer and copies inline values as long as the entries say.
The validation compares neither with what the table holds, so an accepted image is safe to read
exactly when its footers cover their tables.
-/

namespace On9kvdb

open Exceptional

variable {cfg : Config}

/-! ## Safe to read -/

/-- Reading an instance is safe: the lookups find every stored key in the range of its table, and
what `open_value` copies into a reader buffer fits there. -/
structure SafeToRead (cfg : Config) (db : Db) (m : Media) : Prop where
  ranges : ∀ slot < cfg.geometry.tableCount, ∀ reference, db.manifest.tables slot = some reference →
    ∀ e ∈ storedEntries cfg m reference, reference.minKey ≤ e.key ∧ e.key ≤ reference.maxKey
  inlined : ∀ slot < cfg.geometry.tableCount, ∀ reference,
    db.manifest.tables slot = some reference →
      ∀ e ∈ storedEntries cfg m reference, e.value.inlineSize ≤ cfg.inlineValueLen
  candidates : ∀ slot < cfg.geometry.tableCount, ∀ reference,
    db.manifest.tables slot = some reference → ∀ e ∈ storedEntries cfg m reference,
      ∀ examined, slot ∉ examined → candidateTable db e.key examined slot = some reference
  copied : ∀ key view, lookupCommittedUnsafe cfg db m key = .ok view →
    ∀ generation, (newReader generation view).buffer.length ≤ valueChunkSize

/-- The footer of a table covers it: no stored key is in front of `min_key` or beyond `max_key`, and
no inline value is longer than the limit. -/
def FooterCovers (cfg : Config) (m : Media) (reference : TableReference) : Prop :=
  ∀ record, m.tableFooter reference.slot = .ok record →
    (∀ e, (storedEntries cfg m reference).head? = some e → record.metadata.minKey ≤ e.key) ∧
    (∀ e, (storedEntries cfg m reference).getLast? = some e → e.key ≤ record.metadata.maxKey) ∧
    ∀ e ∈ storedEntries cfg m reference, e.value.inlineSize ≤ cfg.inlineValueLen

/-- The footers of all tables found cover them. -/
def FootersCover (cfg : Config) (m : Media) : Prop :=
  ∀ slot < cfg.geometry.tableCount, ∀ reference, tablesFound m slot = some reference →
    FooterCovers cfg m reference

/-! ## Sorted tables -/

/-- In key order, the first key bounds all from below and the last one from above. -/
lemma forall_mem_of_ends {entries : List TableEntry} {a b : CompositeKey}
    (hsorted : entries.Pairwise fun e e' => e.key < e'.key)
    (hfirst : ∀ e, entries.head? = some e → a ≤ e.key)
    (hlast : ∀ e, entries.getLast? = some e → e.key ≤ b) :
    ∀ e ∈ entries, a ≤ e.key ∧ e.key ≤ b := by
  intro e he
  constructor
  · cases entries with
    | nil => cases he
    | cons first rest =>
        rcases List.mem_cons.mp he with rfl | he
        · exact hfirst _ rfl
        · exact (hfirst _ rfl).trans ((List.pairwise_cons.mp hsorted).1 e he).le
  · obtain ⟨front, last, rfl⟩ := List.eq_nil_or_concat entries |>.resolve_left
      (List.ne_nil_of_mem he)
    have hb := hlast last (by simp)
    rcases List.mem_append.mp (List.concat_eq_append ▸ he) with he | he
    · rw [List.concat_eq_append, List.pairwise_append] at hsorted
      exact ((hsorted.2.2 e he last (List.mem_singleton_self _)).le).trans hb
    · rw [List.mem_singleton.mp he]
      exact hb

/-! ## Lookups -/

lemma probeMemtable_found {db : Db} {hash : UInt32} {namespaceSlotIndex : ℕ} {key : Bytes}
    {remaining probe bucket : ℕ} {r : MemtableRecord}
    (h : probeMemtable cfg db hash namespaceSlotIndex key remaining probe = .ok (.found bucket r)) :
    db.memtable.buckets bucket = some r := by
  induction remaining generalizing probe with
  | zero => cases h
  | succ remaining ih =>
      unfold probeMemtable at h
      dsimp only at h
      cases hcell : db.memtable.buckets (bucketIndex cfg hash probe) with
      | none =>
          rw [hcell] at h
          cases h
      | some r' =>
          rw [hcell] at h
          dsimp only at h
          split_ifs at h
          · exact ih h
          · cases h
            exact hcell
          · exact ih h

/-- What a lookup finds in the memtable is no longer than its records. -/
lemma SmallRecords.lookup {db : Db} (h : SmallRecords cfg db.memtable) {key : CompositeKey}
    {view : ValueView} (hview : lookupMemtableUnsafe cfg db key = .ok view) :
    view.value.inlineSize ≤ cfg.inlineValueLen := by
  unfold lookupMemtableUnsafe at hview
  obtain ⟨namespaceIndex, -, hview⟩ := bind_eq_ok.mp hview
  obtain ⟨_, -, hview⟩ := bind_eq_ok.mp hview
  obtain ⟨search, hsearch, hview⟩ := bind_eq_ok.mp hview
  cases search with
  | full => cases hview
  | free bucket => cases hview
  | found bucket r =>
      cases hview
      unfold findMemtableBucketUnsafe at hsearch
      split_ifs at hsearch
      exact h bucket r (probeMemtable_found hsearch)

lemma selectBlock_mem {key : CompositeKey} {entries : List (CompositeKey × ℕ)}
    {selected : Option ℕ} {offset : ℕ} (h : selectBlock key entries selected = some offset) :
    selected = some offset ∨ offset ∈ entries.map Prod.snd := by
  induction entries generalizing selected with
  | nil => exact Or.inl h
  | cons entry rest ih =>
      unfold selectBlock at h
      split_ifs at h
      · exact Or.inl h
      · rcases ih h with heq | hmem
        · cases heq
          exact Or.inr List.mem_cons_self
        · exact Or.inr (List.mem_cons_of_mem _ hmem)

lemma searchBlock_mem {key : CompositeKey} {entries : List TableEntry} {view : ValueView}
    (h : searchBlock key entries = .ok view) : ∃ e ∈ entries, e.value = view.value := by
  induction entries with
  | nil => cases h
  | cons e rest ih =>
      unfold searchBlock at h
      cases hcompare : compareCompositeKey e.key key with
      | eq =>
          rw [hcompare] at h
          cases h
          exact ⟨e, List.mem_cons_self, rfl⟩
      | gt =>
          rw [hcompare] at h
          cases h
      | lt =>
          rw [hcompare] at h
          obtain ⟨e', he', hvalue⟩ := ih h
          exact ⟨e', List.mem_cons_of_mem _ he', hvalue⟩

/-- Without the caches a lookup in an accepted table answers with a stored entry. -/
lemma AcceptedTable.lookup {db : Db} {m : Media} {reference : TableReference}
    {metadata : TableMetadata} {bits : ℕ → Bool} {index : TableIndex}
    (h : AcceptedTable cfg m reference metadata bits index) (hcaches : cfg.optionalCaches = false)
    {key : CompositeKey} {view : ValueView}
    (hview : lookupTableUnsafe cfg db m reference key = .ok view) :
    ∃ e ∈ storedEntries cfg m reference, e.value = view.value := by
  unfold lookupTableUnsafe at hview
  obtain ⟨entries, hentries, hview⟩ := bind_eq_ok.mp hview
  have hindex : entries = index.firstKeys := by
    unfold tableIndexEntries at hentries
    dsimp only at hentries
    rw [if_neg (by rw [hcaches]; exact fun h => absurd h.1 (by decide)), h.stored] at hentries
    dsimp only at hentries
    split_ifs at hentries
    cases hentries
    rfl
  cases hselect : selectBlock key entries none with
  | none =>
      rw [hselect] at hview
      cases hview
  | some offset =>
      rw [hselect] at hview
      dsimp only at hview
      have hoffset : offset ∈ (List.range' 0 index.entries.length).map (blockOffset cfg) := by
        rw [← h.blocks.offsets]
        have hmem := (selectBlock_mem hselect).resolve_left (by simp)
        rw [hindex] at hmem
        unfold TableIndex.firstKeys at hmem
        rwa [List.map_map] at hmem
      obtain ⟨i, hi, rfl⟩ := List.mem_map.mp hoffset
      rw [List.mem_range'_1] at hi
      cases hblock : m.tableBlock reference.slot (blockOffset cfg i) with
      | error e =>
          rw [hblock] at hview
          cases hview
      | ok block =>
          rw [hblock] at hview
          dsimp only at hview
          obtain ⟨_, -, hview⟩ := bind_eq_ok.mp hview
          obtain ⟨e, he, hvalue⟩ := searchBlock_mem hview
          refine ⟨e, mem_entriesFrom.mpr ⟨i, hi.1, ?_, ?_⟩, hvalue⟩
          · rw [← h.count]
            exact hi.2
          · unfold blockEntries
            rwa [hblock]

lemma candidateTable_eq_some {db : Db} {key : CompositeKey} {examined : List ℕ} {slot : ℕ}
    {reference : TableReference} (h : candidateTable db key examined slot = some reference) :
    db.manifest.tables slot = some reference := by
  unfold candidateTable at h
  exact (Option.filter_eq_some_iff.mp h).1

lemma nextCandidate_eq_some {db : Db} {key : CompositeKey} {examined : List ℕ} {slot : ℕ}
    {reference : TableReference}
    (h : nextCandidate cfg db key examined = some (slot, reference)) :
    slot < cfg.geometry.tableCount ∧ db.manifest.tables slot = some reference := by
  revert h
  unfold nextCandidate
  refine @List.foldlRecOn _ _ (fun best => best = some (slot, reference) →
    slot < cfg.geometry.tableCount ∧ db.manifest.tables slot = some reference) _ _ _
    (fun hnone => by cases hnone) fun best hbest first hfirst hs => ?_
  have hslot := List.mem_range.mp hfirst
  cases hcandidate : candidateTable db key examined first with
  | none =>
      rw [hcandidate] at hs
      exact hbest hs
  | some candidate =>
      have htable := candidateTable_eq_some hcandidate
      rw [hcandidate] at hs
      cases best with
      | none =>
          cases hs
          exact ⟨hslot, htable⟩
      | some found =>
          dsimp only at hs
          split_ifs at hs
          · cases hs
            exact ⟨hslot, htable⟩
          · exact hbest hs

/-- An answer of the passes is that of an active table, and with the lookup buffer it is no longer
than the inline limit. -/
structure Answer (cfg : Config) (db : Db) (reference : TableReference) (view : ValueView) :
    Prop where
  active : ∃ slot < cfg.geometry.tableCount, db.manifest.tables slot = some reference
  small : cfg.optionalCaches = true → view.value.inlineSize ≤ cfg.inlineValueLen

lemma lookupTablesLoop_eq_some {db : Db} {m : Media} {key : CompositeKey} {fuel : ℕ}
    {examined : List ℕ} {best : Option (TableReference × ValueView)}
    (hbest : ∀ r v, best = some (r, v) → Answer cfg db r v) {reference : TableReference}
    {view : ValueView}
    (h : lookupTablesLoop cfg db m key fuel examined best = .ok (some (reference, view))) :
    Answer cfg db reference view := by
  induction fuel generalizing examined best with
  | zero =>
      cases h
      exact hbest reference view rfl
  | succ fuel ih =>
      unfold lookupTablesLoop at h
      dsimp only at h
      cases hnext : nextCandidate cfg db key examined with
      | none =>
          rw [hnext] at h
          cases h
          exact hbest reference view rfl
      | some next =>
          obtain ⟨slot, r⟩ := next
          obtain ⟨hslot, htable⟩ := nextCandidate_eq_some hnext
          rw [hnext] at h
          dsimp only at h
          split_ifs at h
          · cases h
            exact hbest reference view rfl
          · cases hlookup : lookupTableUnsafe cfg db m r key with
            | error e =>
                rw [hlookup] at h
                cases e with
                | notFound => exact ih hbest h
                | _ => cases h
            | ok v =>
                rw [hlookup] at h
                dsimp only at h
                split_ifs at h with hold hlong
                · exact ih hbest h
                · refine ih (fun r' v' hr' => ?_) h
                  cases hr'
                  exact ⟨⟨slot, hslot, htable⟩, fun hcaches => not_lt.mp fun hlt =>
                    hlong ⟨hcaches, hlt⟩⟩

/-! ## The instance behind a start -/

/-- What a successful start leaves, told from the range it found. -/
structure Started (cfg : Config) (w w' : World) : Prop where
  recovered : ∀ slot < cfg.geometry.tableCount, SlotRecovered cfg w' slot
  references : ∀ slot, (w'.db.manifest.tables slot).map
      (fun t => { t with minKey := .blank, maxKey := .blank }) =
    (tablesFound w.dev.current slot).map fun t => { t with minKey := .blank, maxKey := .blank }
  files : (w'.dev.current.tableFooter = w.dev.current.tableFooter ∧
      w'.dev.current.tableBlock = w.dev.current.tableBlock) ∨
    ∀ slot < maxTableCount, tablesFound w.dev.current slot = none
  records : SmallRecords cfg w'.db.memtable

/-- **Every table that a start finds is recovered by it.** -/
theorem init_started {w w' : World} (h : exec (init cfg) w = (.ok (), w')) :
    Started cfg w w' := by
  have hinit : Triple (· = w) (init cfg) (fun _ => Started cfg w) (fun _ _ => True) := by
    unfold init
    refine .bind (Q := fun _ => (· = w)) (Triple.getDb fun _ hw => hw) fun _ =>
      .bind (Q := fun _ => (· = w)) (Triple.failIf (fun _ hw _ => hw) fun _ _ _ => trivial) fun _ =>
      .bind (Q := fun _ => Started cfg w) (Triple.onError (F := fun _ _ => True) ?_
        fun _ => Triple.modifyDb fun _ _ => trivial) fun _ =>
      Triple.modifyDb fun _ hw => ⟨fun slot hslot => (hw.recovered slot hslot).kept
        ⟨rfl, rfl, rfl, rfl, rfl⟩, hw.references, hw.files, hw.records⟩
    refine .bind (Q := fun _ w₁ => w₁.db.manifest.tables = tablesFound w.dev.current ∧
      ((w₁.dev.current.tableFooter = w.dev.current.tableFooter ∧
        w₁.dev.current.tableBlock = w.dev.current.tableBlock) ∨
          ∀ slot < maxTableCount, tablesFound w.dev.current slot = none))
      (.of_exec fun s hs => ⟨fun _ w₁ hrun => ?_, fun _ _ _ => trivial⟩) fun _ =>
      .of_state fun w₁ hw₁ => ?_
    · subst hs
      refine ⟨(triple_initialiseStorage_tables s).ok rfl hrun, ?_⟩
      by_cases hready : s.dev.current.blank = none ∧ SelectsReady s.dev.current
      · have hchecking := (triple_initialiseStorage_ready hready.1 hready.2).ok (.refl s) hrun
        refine Or.inl ⟨?_, ?_⟩
        · rw [hchecking.device.current]
        · rw [hchecking.device.current]
      · exact Or.inr fun slot => tablesFound_eq_none hready
    · refine (triple_recoverWal_opened w₁ (ownSlots_of_found hw₁.1)).conseq (fun _ hw => hw)
        (fun _ w' hw => ?_) fun _ _ _ => trivial
      refine ⟨hw.recovered, fun slot => ?_, ?_, hw.records⟩
      · rw [← hw₁.1]
        exact congrFun hw.references slot
      · refine hw₁.2.imp_left fun hfiles => ⟨hw.footer.trans hfiles.1, hw.block.trans hfiles.2⟩
  exact hinit.ok rfl h

/-! ## FootersCover images -/

/-- A table behind a start, and the reference it was found with. -/
structure FoundTable (cfg : Config) (w w' : World) (slot : ℕ) (found reference : TableReference) :
    Prop where
  onMedia : tablesFound w.dev.current slot = some found
  active : w'.db.manifest.tables slot = some reference
  recovered : RecoveredTable cfg w'.db w'.dev.current slot reference
  entries : storedEntries cfg w'.dev.current reference = storedEntries cfg w.dev.current found
  footer : w'.dev.current.tableFooter reference.slot = w.dev.current.tableFooter found.slot

lemma Started.foundTable {w w' : World} (h : Started cfg w w') {slot : ℕ}
    (hslot : slot < cfg.geometry.tableCount) {found reference : TableReference}
    (hfound : tablesFound w.dev.current slot = some found)
    (hactive : w'.db.manifest.tables slot = some reference) :
    FoundTable cfg w w' slot found reference := by
  have hreferences := h.references slot
  rw [hfound, hactive, Option.map_some, Option.map_some, Option.some.injEq,
    TableReference.mk.injEq] at hreferences
  have hfiles : w'.dev.current.tableFooter = w.dev.current.tableFooter ∧
      w'.dev.current.tableBlock = w.dev.current.tableBlock := by
    rcases h.files with hfiles | hnone
    · exact hfiles
    · rw [hnone slot (hslot.trans_le (tableCount_le cfg))] at hfound
      cases hfound
  have hsame : reference.slot = found.slot ∧ reference.dataBlockCount = found.dataBlockCount := by
    tauto
  refine ⟨hfound, hactive, h.recovered slot hslot reference hactive, ?_, ?_⟩
  · simp only [storedEntries, entriesFrom, blockEntries, hfiles.2, hsame]
  · rw [hfiles.1, hsame.1]

lemma Started.exists_found {w w' : World} (h : Started cfg w w') {slot : ℕ}
    (hslot : slot < cfg.geometry.tableCount) {reference : TableReference}
    (hactive : w'.db.manifest.tables slot = some reference) :
    ∃ found, FoundTable cfg w w' slot found reference := by
  have hreferences := h.references slot
  rw [hactive] at hreferences
  cases hfound : tablesFound w.dev.current slot with
  | none =>
      rw [hfound] at hreferences
      cases hreferences
  | some found => exact ⟨found, h.foundTable hslot hfound hactive⟩

lemma Started.exists_active {w w' : World} (h : Started cfg w w') {slot : ℕ}
    (hslot : slot < cfg.geometry.tableCount) {found : TableReference}
    (hfound : tablesFound w.dev.current slot = some found) :
    ∃ reference, FoundTable cfg w w' slot found reference := by
  have hreferences := h.references slot
  rw [hfound] at hreferences
  cases hactive : w'.db.manifest.tables slot with
  | none =>
      rw [hactive] at hreferences
      cases hreferences
  | some reference => exact ⟨reference, h.foundTable hslot hfound hactive⟩

/-- **A footer covers its table exactly when the key range taken over from it does.** -/
lemma FoundTable.covers_iff {w w' : World} {slot : ℕ} {found reference : TableReference}
    (h : FoundTable cfg w w' slot found reference) :
    FooterCovers cfg w.dev.current found ↔ ∀ e ∈ storedEntries cfg w'.dev.current reference,
      (reference.minKey ≤ e.key ∧ e.key ≤ reference.maxKey) ∧
        e.value.inlineSize ≤ cfg.inlineValueLen := by
  obtain ⟨-, metadata, bits, index, haccepted, hmin, hmax, -⟩ := h.recovered
  obtain ⟨record, hrecord, rfl⟩ := haccepted.footer
  have hsorted := haccepted.sorted
  rw [h.footer] at hrecord
  rw [h.entries] at hsorted ⊢
  rw [hmin, hmax]
  constructor
  · intro hcovers e he
    obtain ⟨hfirst, hlast, hinline⟩ := hcovers record hrecord
    exact ⟨forall_mem_of_ends hsorted hfirst hlast e he, hinline e he⟩
  · intro hall record' hrecord'
    rw [hrecord] at hrecord'
    cases hrecord'
    exact ⟨fun e he => (hall e (List.mem_of_mem_head? he)).1.1,
      fun e he => (hall e (List.mem_of_mem_getLast? he)).1.2, fun e he => (hall e he).2⟩

/-- The key filter never skips a stored key, so only the key range decides. -/
lemma RecoveredTable.candidate {db : Db} {m : Media} {slot : ℕ} {reference : TableReference}
    (h : RecoveredTable cfg db m slot reference)
    (hactive : db.manifest.tables slot = some reference) {e : TableEntry}
    (he : e ∈ storedEntries cfg m reference)
    (hrange : reference.minKey ≤ e.key ∧ e.key ≤ reference.maxKey) {examined : List ℕ}
    (hnew : slot ∉ examined) : candidateTable db e.key examined slot = some reference := by
  obtain ⟨hown, metadata, bits, index, haccepted, -, -, hfilter⟩ := h
  have hlow : compareCompositeKey e.key reference.minKey ≠ .lt := fun hlt =>
    absurd (compareCompositeKey_lt.mp hlt) hrange.1.not_gt
  have hhigh : compareCompositeKey e.key reference.maxKey ≠ .gt := fun hgt =>
    absurd (compareCompositeKey_gt.mp hgt) hrange.2.not_gt
  have hbits : tableKeyFilterMayContain db reference e.key = true := by
    unfold tableKeyFilterMayContain
    rw [hown, hfilter]
    simp only [Bool.not_true, bne_self_eq_false, Bool.false_or, List.all_eq_true, List.mem_range]
    exact haccepted.filter e he
  unfold candidateTable
  rw [hactive]
  refine Option.filter_eq_some_iff.mpr ⟨rfl, ?_⟩
  simp only [hbits, Bool.and_true, Bool.and_eq_true, bne_iff_ne, Bool.not_eq_true',
    List.contains_eq_mem, decide_eq_false_iff_not]
  exact ⟨⟨hnew, hlow⟩, hhigh⟩

/-- Over recovered tables of small values a lookup finds a small value only.  With the lookup buffer
the passes check it; without, the winner is read again through the index of its table. -/
lemma lookupCommittedUnsafe_small {db : Db} {m : Media} (hrecords : SmallRecords cfg db.memtable)
    (htables : ∀ slot < cfg.geometry.tableCount, ∀ reference,
      db.manifest.tables slot = some reference → RecoveredTable cfg db m slot reference ∧
        ∀ e ∈ storedEntries cfg m reference, e.value.inlineSize ≤ cfg.inlineValueLen)
    {key : CompositeKey} {view : ValueView} (h : lookupCommittedUnsafe cfg db m key = .ok view) :
    view.value.inlineSize ≤ cfg.inlineValueLen := by
  unfold lookupCommittedUnsafe at h
  split at h
  · unfold lookupTablesUnsafe at h
    obtain ⟨_, -, h⟩ := bind_eq_ok.mp h
    obtain ⟨best, hbest, h⟩ := bind_eq_ok.mp h
    cases best with
    | none => cases h
    | some found =>
        obtain ⟨reference, found⟩ := found
        have hanswer := lookupTablesLoop_eq_some (fun r v hnone => by cases hnone) hbest
        dsimp only at h
        split_ifs at h with hcaches
        · cases h
          exact hanswer.small hcaches
        · obtain ⟨slot, hslot, hactive⟩ := hanswer.active
          obtain ⟨hrecovered, hinline⟩ := htables slot hslot reference hactive
          obtain ⟨metadata, bits, index, haccepted, -⟩ := hrecovered.accepted
          obtain ⟨e, he, hvalue⟩ := haccepted.lookup (Bool.not_eq_true _ ▸ hcaches) h
          rw [← hvalue]
          exact hinline e he
  · exact hrecords.lookup h

/-- An entry for the key `[1]` of the namespace `[97]`. -/
def strayEntry : TableEntry := ⟨1, ⟨[97], [1]⟩, .inline [5], by decide⟩

/-- Its data block. -/
def strayBlock : TableBlock := ⟨1, 0, [strayEntry], by decide⟩

/-- The index of the block. -/
def strayIndex : TableIndex :=
  ⟨1, [⟨1, tableDataRegionOffset, strayEntry.key, by decide⟩], by decide⟩

/-- The metadata of a table of one block whose key range misses its only key. -/
def strayMetadata : TableMetadata where
  databaseId := 7
  generation := 1
  minSequence := 1
  maxSequence := 1
  slot := 0
  blockSize := hostConfig.blockBytes
  dataRegionStart := tableDataRegionOffset
  dataBlockCount := 1
  indexOffset := indexOffset hostConfig
  footerOffset := footerOffset hostConfig
  entryCount := 1
  dataBytes := strayEntry.totalSize
  contentChecksum := ~~~ calcCrc32Update
    (calcCrc32Update crcInit (strayBlock.bytes hostConfig.blockBytes))
    (strayIndex.bytes hostConfig.blockBytes)
  minKey := ⟨[97], [2]⟩
  maxKey := ⟨[97], [2]⟩

/-- Both headers and the footer. -/
def strayRecord : TableMetadataRecord := ⟨strayMetadata, by decide +kernel⟩

/-- Its reference; the stored form carries no key range. -/
def strayReference : TableReference :=
  { makeTableReference strayMetadata with minKey := .blank, maxKey := .blank }

/-- The manifest that names the table. -/
def strayManifest : ManifestRecord :=
  { provisionedRecord hostConfig 7 3 with
    safeCheckpointSequence := 1
    nextTableGeneration := 2
    tables := Function.update (fun _ => none) 0
      (some strayReference) }

/-- A range with this table in slot 0, and one manifest copy. -/
def strayMedia : Media :=
  { provisionedMedia hostConfig 7 with
    manifestCopy := Function.update (fun _ => .error .invalidMagic) 0
      (.ok ⟨strayManifest, by decide +kernel⟩)
    walHeader := fun slot _ => writtenOrBlank
      (if slot = 0 then encodeWalHeader 7 1 2 0 hostConfig.geometry.walSize else none)
    tableHeader := fun _ _ => .ok strayRecord
    tableFooter := fun _ => .ok strayRecord
    tableBlock := fun _ _ => .ok strayBlock
    tableIndex := fun _ => .ok strayIndex }

/-- A new object on this range. -/
def strayWorld : World where
  db := Db.closed 1 1
  dev := .boot strayMedia (fun _ => .none) (fun _ => []) fun _ => ⟨1, Nat.one_ne_zero⟩

lemma validateTableEntries_stray {s : TableScan} (h : s.previousKey = none) :
    validateTableEntries hostConfig strayMetadata (activeBankBounds strayManifest)
      (some ⟨1, tableDataRegionOffset, strayEntry.key, by decide⟩) s strayBlock.entries =
      .ok { s with
        totalEntries := s.totalEntries + 1
        totalDataBytes := s.totalDataBytes + strayEntry.totalSize
        previousKey := some strayEntry.key
        filterBits := addTableKeyFilter s.filterBits strayEntry.key } := by
  show (validateTableEntry hostConfig strayMetadata _ _ s strayEntry >>= _) = _
  unfold validateTableEntry
  rw [h, if_neg (by decide), if_neg (by decide), ok_bind, validateTableEntries]

lemma validateTableBlocks_stray (s : TableScan) (h : s.previousKey = none) :
    validateTableBlocks hostConfig strayMedia strayReference strayMetadata
      (activeBankBounds strayManifest) 0 s strayIndex.entries =
      .ok { s with
        contentCrc := calcCrc32Update s.contentCrc (strayBlock.bytes hostConfig.blockBytes)
        totalEntries := s.totalEntries + 1
        totalDataBytes := s.totalDataBytes + strayEntry.totalSize
        previousKey := some strayEntry.key
        filterBits := addTableKeyFilter s.filterBits strayEntry.key } := by
  have hentries := @validateTableEntries_stray { s with
    contentCrc := calcCrc32Update s.contentCrc (strayBlock.bytes hostConfig.blockBytes) } h
  unfold strayIndex validateTableBlocks
  rw [if_neg (by decide)]
  have hblock : strayMedia.tableBlock strayReference.slot (blockOffset hostConfig 0) =
    .ok strayBlock := rfl
  rw [hblock]
  dsimp only
  rw [if_neg (by decide)]
  rw [hentries, ok_bind, validateTableBlocks]

/-- **The checks accept the table**: its order, its counts and its checksums are right. -/
lemma checkTable_stray : checkTable hostConfig strayMedia strayReference
    (activeBankBounds strayManifest) =
    .ok (addTableKeyFilter (fun _ => false) strayEntry.key, strayIndex) := by
  have hblocks := validateTableBlocks_stray {} rfl
  have hagree : tableReferenceEqual strayReference (makeTableReference strayMetadata) = true := by
    simp [tableReferenceEqual, strayReference]
  have hchecksum : strayMetadata.contentChecksum = ~~~ calcCrc32Update
      (calcCrc32Update crcInit (strayBlock.bytes hostConfig.blockBytes))
      (strayIndex.bytes hostConfig.blockBytes) := rfl
  have hmetadata : ∀ cell : Cell TableMetadataRecord, cell = .ok strayRecord →
      readTableMetadata cell = .ok (some strayMetadata) := fun cell h => h ▸ rfl
  refine checkTable_of (hmetadata _ rfl) ⟨hagree, rfl, rfl⟩ (fun _ => hmetadata _ rfl) rfl ⟨rfl, rfl⟩
    hblocks ⟨rfl, Nat.zero_add _, ?_⟩
  rw [hchecksum]

/-- The instance behind the load of the manifest. -/
def strayStart : World where
  db := { Db.closed 1 1 with manifest := strayManifest, manifestStabilizationRequired := true }
  dev := { strayWorld.dev with clock := 10 }

lemma initialiseStorage_stray :
    exec (initialiseStorage hostConfig) strayWorld = (.ok (), strayStart) := rfl

/-- Behind the validation. -/
def strayChecked : World where
  db := { strayStart.db with
    tableIndexCache := Function.update (Function.update strayStart.db.tableIndexCache 0 {}) 0
      ⟨1, true, strayIndex.firstKeys⟩
    tableKeyFilters := Function.update (Function.update strayStart.db.tableKeyFilters 0 {}) 0
      ⟨1, true, addTableKeyFilter (fun _ => false) strayEntry.key⟩ }
  dev := { strayWorld.dev with clock := 11 }

lemma validateTableUnsafe_stray :
    exec (validateTableUnsafe hostConfig strayReference (activeBankBounds strayManifest)) strayStart =
      (.ok (), strayChecked) := by
  have hcurrent : strayStart.dev.current = strayMedia := rfl
  have hcheck := checkTable_stray
  rw [← hcurrent] at hcheck
  rw [exec_validateTableUnsafe (by decide) (by decide) rfl (by decide) rfl hcheck]
  rfl

/-- Behind the loop over the tables. -/
def strayRecovered : World :=
  takeOverRange hostConfig 0 strayReference strayMetadata
    { strayChecked with dev := { strayWorld.dev with clock := 12 } }

lemma recoverTableReferences_stray :
    exec (recoverTableReferences hostConfig (List.range hostConfig.geometry.tableCount))
      strayStart = (.ok (), strayRecovered) := by
  have hreference : strayStart.db.manifest.tables 0 = some strayReference := rfl
  have hvalidate : exec (validateTableUnsafe hostConfig strayReference
      (activeBankBounds strayStart.db.manifest)) strayStart = (.ok (), strayChecked) :=
    validateTableUnsafe_stray
  have hfault : strayChecked.dev.fault = .none := rfl
  have hfooter : strayChecked.dev.current.tableFooter strayReference.slot = .ok strayRecord := rfl
  have hown : strayRecord.metadata.generation = strayReference.generation ∧
      strayRecord.metadata.slot = strayReference.slot := ⟨rfl, rfl⟩
  have hrest : ∀ slot, slot ≠ 0 → strayRecovered.db.manifest.tables slot = none := fun slot h => by
    show Function.update strayManifest.tables 0 _ slot = none
    rw [Function.update_of_ne h]
    show Function.update (fun _ => none) 0 _ slot = none
    rw [Function.update_of_ne h]
  show exec (recoverTableReferences hostConfig [0, 1, 2, 3]) strayStart = _
  rw [exec_recoverTableReferences_some hreference hvalidate hfault hfooter hown]
  show exec (recoverTableReferences hostConfig [1, 2, 3]) strayRecovered = _
  rw [exec_recoverTableReferences_none (hrest 1 (by decide)),
    exec_recoverTableReferences_none (hrest 2 (by decide)),
    exec_recoverTableReferences_none (hrest 3 (by decide))]
  rfl

/-- The counting merge and the replay accept the range too. -/
lemma recoverWal_stray : (exec (recoverWal hostConfig) strayStart).1 = .ok () := by
  have htables : exec (recoverTablesUnsafe hostConfig) strayStart = exec (do
      let db ← getDb
      let active := (List.range hostConfig.geometry.tableCount).filterMap db.manifest.tables
      failIf (hostConfig.bankSize < active.length) .invalidCrc
      let cursors ← loadCursors hostConfig (List.range hostConfig.geometry.tableCount)
      failIf (cursors.any (fun c => c.entry.isNone) = true) .invalidCrc
      countTables hostConfig (active.map TableReference.entryCount).sum cursors)
      strayRecovered := by
    unfold recoverTablesUnsafe
    refine Eq.trans (@exec_bind_ok _ _ _ _ _ _ strayStart strayStart () ?_)
      (exec_bind_ok recoverTableReferences_stray)
    rfl
  have hready : exec (failIf (strayStart.db.manifest.state ≠ .ready ∨
      walFileCount ≤ strayStart.db.manifest.activeWalSlot ∨
      strayStart.db.manifest.walGeneration strayStart.db.manifest.activeWalSlot = 0) .invalidCrc)
      strayStart = (.ok (), strayStart) := rfl
  have hreset : exec (modifyDb fun db => { db with stats := {}, namespaces := [], memtable := .empty })
      strayStart = (.ok (), strayStart) := rfl
  unfold recoverWal
  rw [exec_bind_ok (exec_getDb strayStart), exec_bind_ok hready, exec_bind_ok hreset,
    exec_bind_congr htables]
  decide +kernel

/-- A guarded step that returns. -/
lemma exec_onError_ok {α : Type} {x : DbM α} {undo : DbM Unit} {w w' : World} {a : α}
    (h : exec x w = (.ok a, w')) : exec (onError x undo) w = (.ok a, w') := by
  unfold onError
  rw [exec_tryCatch, h]

lemma init_stray : (exec (init hostConfig) strayWorld).1 = .ok () := by
  have hopen : exec (do
      initialiseStorage hostConfig
      recoverWal hostConfig) strayWorld = (.ok (), (exec (recoverWal hostConfig) strayStart).2) :=
    (exec_bind_ok initialiseStorage_stray).trans (exec_eq recoverWal_stray)
  have hclosed : exec (failIf (strayWorld.db.initialized = true) .invalidState) strayWorld =
      (.ok (), strayWorld) := rfl
  unfold init
  rw [exec_bind_ok (exec_getDb strayWorld), exec_bind_ok hclosed,
    exec_bind_ok (exec_onError_ok hopen)]
  rfl

lemma init_provisioned : (exec (init hostConfig)
    (start hostConfig 7 (fun _ => .none) (fun _ => []) fun _ => ⟨1, one_ne_zero⟩)).1 = .ok () := by
  decide +kernel

end On9kvdb
