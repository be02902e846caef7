import On9kvdb.Store.Transaction

/-!
# What a lookup depends on

A lookup reads the memtable, the namespaces, the table references, the active value bank and the
two table accelerators, and of the media only table blocks and indexes.  `SameView` says that two
states agree on all of that; every lookup then gives the same answer in both.
-/

namespace On9kvdb

variable {cfg : Config}

/-- Two instances a lookup cannot tell apart. -/
structure SameView (db db' : Db) : Prop where
  namespaces : db'.namespaces = db.namespaces
  memtable : db'.memtable = db.memtable
  tables : db'.manifest.tables = db.manifest.tables
  activeValueBank : db'.manifest.activeValueBank = db.manifest.activeValueBank
  valueBankGeneration : db'.manifest.valueBankGeneration = db.manifest.valueBankGeneration
  valueBankTail : db'.manifest.valueBankTail = db.manifest.valueBankTail
  tableIndexCache : db'.tableIndexCache = db.tableIndexCache
  tableKeyFilters : db'.tableKeyFilters = db.tableKeyFilters

/-- Two images with the same table contents. -/
structure SameTables (m m' : Media) : Prop where
  tableBlock : m'.tableBlock = m.tableBlock
  tableIndex : m'.tableIndex = m.tableIndex

lemma SameView.refl (db : Db) : SameView db db := ⟨rfl, rfl, rfl, rfl, rfl, rfl, rfl, rfl⟩

lemma SameTables.refl (m : Media) : SameTables m m := ⟨rfl, rfl⟩

namespace SameView

variable {db db' : Db} {m m' : Media}

lemma matchesActiveBank (h : SameView db db') (r : ValueRef) :
    matchesActiveBank cfg db'.manifest r = matchesActiveBank cfg db.manifest r := by
  unfold On9kvdb.matchesActiveBank
  rw [h.activeValueBank, h.valueBankGeneration, h.valueBankTail]

lemma valueInActiveBank (h : SameView db db') (v : StoredValue) :
    valueInActiveBank cfg db'.manifest v = valueInActiveBank cfg db.manifest v := by
  unfold On9kvdb.valueInActiveBank
  rw [show On9kvdb.matchesActiveBank cfg db'.manifest = On9kvdb.matchesActiveBank cfg db.manifest
    from funext h.matchesActiveBank]

lemma memtableRecordUsable (h : SameView db db') (r : MemtableRecord) :
    memtableRecordUsable cfg db' r = memtableRecordUsable cfg db r := by
  unfold On9kvdb.memtableRecordUsable
  rw [h.namespaces, h.valueInActiveBank]

lemma probeMemtable (h : SameView db db') (hash : UInt32) (namespaceSlotIndex : ℕ) (key : Bytes)
    (remaining probe : ℕ) :
    probeMemtable cfg db' hash namespaceSlotIndex key remaining probe =
      probeMemtable cfg db hash namespaceSlotIndex key remaining probe := by
  induction remaining generalizing probe with
  | zero => rfl
  | succ remaining ih =>
      rw [On9kvdb.probeMemtable, On9kvdb.probeMemtable, h.memtable]
      cases db.memtable.buckets (bucketIndex cfg hash probe) with
      | none => rfl
      | some r =>
          dsimp only
          rw [h.memtableRecordUsable, ih]

lemma findMemtableBucketUnsafe (h : SameView db db') (namespaceSlotIndex : ℕ) (key : Bytes) :
    findMemtableBucketUnsafe cfg db' namespaceSlotIndex key =
      findMemtableBucketUnsafe cfg db namespaceSlotIndex key := by
  unfold On9kvdb.findMemtableBucketUnsafe
  rw [h.probeMemtable]

lemma lookupMemtableUnsafe (h : SameView db db') (key : CompositeKey) :
    lookupMemtableUnsafe cfg db' key = lookupMemtableUnsafe cfg db key := by
  unfold On9kvdb.lookupMemtableUnsafe
  rw [h.namespaces]
  simp only [h.findMemtableBucketUnsafe]

lemma candidateTable (h : SameView db db') (key : CompositeKey) (examined : List ℕ) (slot : ℕ) :
    candidateTable db' key examined slot = candidateTable db key examined slot := by
  unfold On9kvdb.candidateTable tableKeyFilterMayContain
  rw [h.tables, h.tableKeyFilters]

lemma nextCandidate (h : SameView db db') (key : CompositeKey) (examined : List ℕ) :
    nextCandidate cfg db' key examined = nextCandidate cfg db key examined := by
  unfold On9kvdb.nextCandidate
  simp only [h.candidateTable]

lemma tableIndexEntries (h : SameView db db') (hm : SameTables m m')
    (reference : TableReference) :
    tableIndexEntries cfg db' m' reference = tableIndexEntries cfg db m reference := by
  unfold On9kvdb.tableIndexEntries
  rw [h.tableIndexCache, hm.tableIndex]

lemma lookupTableUnsafe (h : SameView db db') (hm : SameTables m m')
    (reference : TableReference) (key : CompositeKey) :
    lookupTableUnsafe cfg db' m' reference key = lookupTableUnsafe cfg db m reference key := by
  unfold On9kvdb.lookupTableUnsafe
  rw [h.tableIndexEntries hm, hm.tableBlock]

lemma lookupTablesLoop (h : SameView db db') (hm : SameTables m m') (key : CompositeKey)
    (fuel : ℕ) (examined : List ℕ) (best : Option (TableReference × ValueView)) :
    lookupTablesLoop cfg db' m' key fuel examined best =
      lookupTablesLoop cfg db m key fuel examined best := by
  induction fuel generalizing examined best with
  | zero => rfl
  | succ fuel ih =>
      simp only [On9kvdb.lookupTablesLoop, h.nextCandidate, h.lookupTableUnsafe hm, ih]

lemma lookupTablesUnsafe (h : SameView db db') (hm : SameTables m m') (key : CompositeKey) :
    lookupTablesUnsafe cfg db' m' key = lookupTablesUnsafe cfg db m key := by
  unfold On9kvdb.lookupTablesUnsafe
  simp only [h.lookupTablesLoop hm, h.lookupTableUnsafe hm]

/-- **States with the same view answer every lookup alike.** -/
theorem lookupCommittedUnsafe (h : SameView db db') (hm : SameTables m m')
    (key : CompositeKey) :
    lookupCommittedUnsafe cfg db' m' key = lookupCommittedUnsafe cfg db m key := by
  unfold On9kvdb.lookupCommittedUnsafe
  rw [h.lookupMemtableUnsafe, h.lookupTablesUnsafe hm]

lemma preflightMutations (h : SameView db db') (hm : SameTables m m') (namespaceIndex : ℕ)
    (namespaceName : Bytes) (mutations : List Mutation) (t : PreflightTotals) :
    preflightMutations cfg db' m' namespaceIndex namespaceName t mutations =
      preflightMutations cfg db m namespaceIndex namespaceName t mutations := by
  induction mutations generalizing t with
  | nil => rfl
  | cons mutation rest ih =>
      simp only [On9kvdb.preflightMutations, preflightMutation, findPrevious,
        h.findMemtableBucketUnsafe, h.lookupTablesUnsafe hm, ih]

/-- The preflight also depends on the live-size counter. -/
lemma preflightMemtableTransactionUnsafe (h : SameView db db') (hm : SameTables m m')
    (hstats : db'.stats.logicalStateBytes = db.stats.logicalStateBytes) (namespaceName : Bytes)
    (mutations : List Mutation) :
    preflightMemtableTransactionUnsafe cfg db' m' namespaceName mutations =
      preflightMemtableTransactionUnsafe cfg db m namespaceName mutations := by
  unfold On9kvdb.preflightMemtableTransactionUnsafe
  simp only [h.preflightMutations hm, h.namespaces, h.memtable, hstats]

end SameView

end On9kvdb
