import On9kvdb.Store.State

/-!
# Namespaces, memtable index and table lookups

The read path: `lookup_committed_unsafe` asks the memtable's open-addressing index first and the
active tables second.  Tables are skipped by key range and by a Bloom-style filter, the rest are
visited by descending greatest sequence, and one data block is searched in each.
-/

namespace On9kvdb

variable (cfg : Config)

/-- `CONFIG_ON9KVDB_MEMTABLE_ENTRY_COUNT`. -/
abbrev Config.memtableEntryCount : ℕ := cfg.limits.memtableEntries

/-- `limits.sstable_block_bytes`. -/
abbrev Config.blockBytes : ℕ := cfg.limits.sstableBlockBytes

/-- `inline_value_len`. -/
abbrev Config.inlineValueLen : ℕ := cfg.limits.inlineValueBytes

/-! ## Namespaces -/

/-- `find_namespace_unsafe`.  Slots are only ever filled from the front, so the used ones are a
list. -/
def findNamespaceUnsafe (namespaces : List Bytes) (name : Bytes) : Except EspErr ℕ :=
  if validateBytes name = false then .error .invalidArg
  else match namespaces.findIdx? (· == name) with
    | some index => .ok index
    | none => .error .notFound

/-- `ensure_namespace_capacity_unsafe`: the slot of the namespace, and the registry with the
namespace published in it. -/
def ensureNamespaceCapacityUnsafe (namespaces : List Bytes) (name : Bytes) :
    Except EspErr (ℕ × List Bytes) :=
  match findNamespaceUnsafe namespaces name with
  | .ok index => .ok (index, namespaces)
  | .error .notFound =>
      if cfg.limits.maxNamespaces ≤ namespaces.length then .error .noMem
      else .ok (namespaces.length, namespaces ++ [name])
  | .error e => .error e

/-! ## Value descriptors -/

/-- `value_ref_matches_bank_unsafe`. -/
def valueRefMatchesBankUnsafe (r : ValueRef) (bankSlot bankGeneration publishedTail : ℕ) : Bool :=
  bankSlot < valueBankCount && bankGeneration != 0 &&
  publishedTail ≤ cfg.geometry.valueBankSize && cfg.inlineValueLen < r.valueSize &&
  r.bankSlot == bankSlot && r.bankGeneration == bankGeneration &&
  valueRefIsValid r cfg.geometry.valueBankSize && r.endOffset ≤ publishedTail

/-- The descriptor lies below the tail of the active value bank. -/
def matchesActiveBank (m : ManifestRecord) (r : ValueRef) : Bool :=
  valueRefMatchesBankUnsafe cfg r m.activeValueBank (m.valueBankGeneration m.activeValueBank)
    (m.valueBankTail m.activeValueBank)

/-- The value is not external, or its descriptor lies below the tail of the active bank. -/
def valueInActiveBank (m : ManifestRecord) (v : StoredValue) : Bool :=
  v.ref?.all (matchesActiveBank cfg m)

/-! ## Memtable -/

/-- One step of the FNV-1a hash. -/
def fnvStep (hash : UInt32) (byte : UInt8) : UInt32 := (hash ^^^ byte.toUInt32) * 16777619

/-- `hash_key_unsafe`. -/
def hashKeyUnsafe (namespaceSlotIndex : ℕ) (key : Bytes) : UInt32 :=
  let prefixed := fnvStep (fnvStep 2166136261 (UInt8.ofNat namespaceSlotIndex))
    (UInt8.ofNat (namespaceSlotIndex / 256))
  let hash := key.foldl fnvStep prefixed
  if hash = 0 then 1 else hash

/-- The bucket of the `probe`-th step: `(hash + probe) & mask`. -/
def bucketIndex (hash : UInt32) (probe : ℕ) : ℕ :=
  (hash + UInt32.ofNat probe).toNat &&& (cfg.memtableEntryCount - 1)

/-- The outcomes of `find_memtable_bucket_unsafe`; `full` is the sentinel bucket index. -/
inductive BucketSearch
  | found (bucket : ℕ) (record : MemtableRecord)
  | free (bucket : ℕ)
  | full

/-- The consistency checks on a record whose hash matches. -/
def memtableRecordUsable (db : Db) (r : MemtableRecord) : Bool :=
  validateBytes r.key && r.namespaceSlotIndex < db.namespaces.length &&
  valueInActiveBank cfg db.manifest r.value

/-- The probe loop of `find_memtable_bucket_unsafe`: `remaining` more steps, from `probe`. -/
def probeMemtable (db : Db) (hash : UInt32) (namespaceSlotIndex : ℕ) (key : Bytes) :
    (remaining probe : ℕ) → Except EspErr BucketSearch
  | 0, _ => .ok .full
  | remaining + 1, probe =>
      let index := bucketIndex cfg hash probe
      match db.memtable.buckets index with
      | none => .ok (.free index)
      | some r =>
          if r.hash ≠ hash then probeMemtable db hash namespaceSlotIndex key remaining (probe + 1)
          else if memtableRecordUsable cfg db r = false then .error .invalidState
          else if r.namespaceSlotIndex = namespaceSlotIndex ∧ r.key = key then
            .ok (.found index r)
          else probeMemtable db hash namespaceSlotIndex key remaining (probe + 1)

/-- `find_memtable_bucket_unsafe`. -/
def findMemtableBucketUnsafe (db : Db) (namespaceSlotIndex : ℕ) (key : Bytes) :
    Except EspErr BucketSearch :=
  if validateBytes key = false ∨ cfg.limits.maxNamespaces ≤ namespaceSlotIndex then
    .error .invalidArg
  else
    probeMemtable cfg db (hashKeyUnsafe namespaceSlotIndex key) namespaceSlotIndex key
      cfg.memtableEntryCount 0

/-- `value_view`: the version a lookup found. -/
structure ValueView where
  transactionSequence : ℕ
  value : StoredValue
  deriving DecidableEq

/-- `lookup_memtable_unsafe`. -/
def lookupMemtableUnsafe (db : Db) (key : CompositeKey) : Except EspErr ValueView := do
  let namespaceIndex ← findNamespaceUnsafe db.namespaces key.namespaceName
  rejectIf (validateBytes key.key = false) .invalidArg
  match ← findMemtableBucketUnsafe cfg db namespaceIndex key.key with
  | .found _ r => return ⟨r.transactionSequence, r.value⟩
  | _ => .error .notFound

/-! ## Key filter -/

/-- `filter_hash`. -/
def filterHash (key : CompositeKey) : UInt32 :=
  let hash := fnvStep 2166136261 (UInt8.ofNat key.namespaceName.length)
  let hash := key.namespaceName.foldl fnvStep hash
  let hash := fnvStep hash (UInt8.ofNat key.key.length)
  key.key.foldl fnvStep hash

/-- `table_key_filter_bytes * 8`. -/
def tableKeyFilterBits : ℕ := 2048

/-- The filter bit of the `probe`-th hash. -/
def filterBit (key : CompositeKey) (probe : ℕ) : ℕ :=
  let first := filterHash key
  let step := ((first >>> 16) ^^^ 0x9e3779b9) ||| 1
  (first + UInt32.ofNat probe * step).toNat % tableKeyFilterBits

/-- `add_table_key_filter_unsafe`. -/
def addTableKeyFilter (bits : ℕ → Bool) (key : CompositeKey) : ℕ → Bool := fun bit =>
  bits bit || (List.range 3).any fun probe => filterBit key probe == bit

/-- `table_key_filter_may_contain_unsafe`. -/
def tableKeyFilterMayContain (db : Db) (reference : TableReference) (key : CompositeKey) : Bool :=
  let filter := db.tableKeyFilters reference.slot
  !filter.valid || filter.generation != reference.generation ||
    (List.range 3).all fun probe => filter.bits (filterBit key probe)

/-! ## Tables -/

/-- The offset of a data block. -/
def blockOffset (blockIndex : ℕ) : ℕ := tableDataRegionOffset + blockIndex * cfg.blockBytes

/-- The block search over the index: the last entry whose first key is not beyond `key`. -/
def selectBlock (key : CompositeKey) : List (CompositeKey × ℕ) → Option ℕ → Option ℕ
  | [], selected => selected
  | (firstKey, offset) :: rest, selected =>
      if compareCompositeKey firstKey key = .gt then selected
      else selectBlock key rest (some offset)

/-- The entry search in one block. -/
def searchBlock (key : CompositeKey) : List TableEntry → Except EspErr ValueView
  | [] => .error .notFound
  | entry :: rest =>
      match compareCompositeKey entry.key key with
      | .eq => .ok ⟨entry.transactionSequence, entry.value⟩
      | .gt => .error .notFound
      | .lt => searchBlock key rest

/-- The index entries as the lookup uses them. -/
def TableIndex.firstKeys (ix : TableIndex) : List (CompositeKey × ℕ) :=
  ix.entries.map fun e => (e.key, e.blockOffset)

/-- The index of a table: from the cache when its slot holds this generation, else from media. -/
def tableIndexEntries (db : Db) (m : Media) (reference : TableReference) :
    Except EspErr (List (CompositeKey × ℕ)) :=
  let cached := db.tableIndexCache reference.slot
  if cfg.optionalCaches = true ∧ cached.valid = true ∧ cached.generation = reference.generation ∧
      cached.entries.length = reference.dataBlockCount then
    .ok cached.entries
  else match m.tableIndex reference.slot with
    | .error _ => .error .invalidCrc
    | .ok ix =>
        if ix.generation ≠ reference.generation ∨
            ix.entries.length ≠ reference.dataBlockCount then .error .invalidCrc
        else .ok ix.firstKeys

/-- `lookup_table_unsafe`. -/
def lookupTableUnsafe (db : Db) (m : Media) (reference : TableReference) (key : CompositeKey) :
    Except EspErr ValueView := do
  let entries ← tableIndexEntries cfg db m reference
  match selectBlock key entries none with
  | none => .error .notFound
  | some offset =>
      match m.tableBlock reference.slot offset with
      | .error _ => .error .invalidCrc
      | .ok block =>
          rejectIf (block.generation ≠ reference.generation) .invalidCrc
          searchBlock key block.entries

/-- Whether `lookup_tables_unsafe` still has to look into this slot. -/
def candidateTable (db : Db) (key : CompositeKey) (examined : List ℕ) (slot : ℕ) :
    Option TableReference :=
  (db.manifest.tables slot).filter fun reference =>
    !examined.contains slot && compareCompositeKey key reference.minKey != .lt &&
      compareCompositeKey key reference.maxKey != .gt && tableKeyFilterMayContain db reference key

/-- The unexamined plausible table with the greatest maximum sequence. -/
def nextCandidate (db : Db) (key : CompositeKey) (examined : List ℕ) :
    Option (ℕ × TableReference) :=
  (List.range cfg.geometry.tableCount).foldl
    (fun best slot =>
      match candidateTable db key examined slot, best with
      | none, best => best
      | some candidate, none => some (slot, candidate)
      | some candidate, some (bestSlot, reference) =>
          if reference.maxSequence < candidate.maxSequence then some (slot, candidate)
          else some (bestSlot, reference))
    none

/-- The passes of `lookup_tables_unsafe`: `fuel` more, with the best version so far. -/
def lookupTablesLoop (db : Db) (m : Media) (key : CompositeKey) :
    (fuel : ℕ) → (examined : List ℕ) → (best : Option (TableReference × ValueView)) →
      Except EspErr (Option (TableReference × ValueView))
  | 0, _, best => .ok best
  | fuel + 1, examined, best =>
      let bestSequence := (best.map fun b => b.2.transactionSequence).getD 0
      match nextCandidate cfg db key examined with
      | none => .ok best
      | some (slot, reference) =>
          if reference.maxSequence < bestSequence then .ok best
          else match lookupTableUnsafe cfg db m reference key with
            | .error .notFound => lookupTablesLoop db m key fuel (slot :: examined) best
            | .error e => .error e
            | .ok view =>
                if view.transactionSequence ≤ bestSequence then
                  lookupTablesLoop db m key fuel (slot :: examined) best
                else if cfg.optionalCaches = true ∧ cfg.inlineValueLen < view.value.inlineSize then
                  .error .invalidCrc
                else
                  lookupTablesLoop db m key fuel (slot :: examined) (some (reference, view))

/-- `lookup_tables_unsafe`. -/
def lookupTablesUnsafe (db : Db) (m : Media) (key : CompositeKey) : Except EspErr ValueView := do
  rejectIf (key.valid = false) .invalidArg
  match ← lookupTablesLoop cfg db m key cfg.geometry.tableCount [] none with
  | none => .error .notFound
  | some (reference, view) =>
      -- Without the stable result buffer the winning table is read again.
      if cfg.optionalCaches = true then return view
      else lookupTableUnsafe cfg db m reference key

/-- `lookup_committed_unsafe`. -/
def lookupCommittedUnsafe (db : Db) (m : Media) (key : CompositeKey) : Except EspErr ValueView :=
  match lookupMemtableUnsafe cfg db key with
  | .error .notFound => lookupTablesUnsafe cfg db m key
  | result => result

end On9kvdb
