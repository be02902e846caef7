import On9kvdb.Format.Bytes
import On9kvdb.Format.Key

/-!
# Durable records

The records the database stores, as values.  Each type carries, as a proof field, the conditions
under which its encoder succeeds and its decoder accepts: a record that fails them cannot be
built, just as no writer can put it on media.  What a decoder reports on any other bytes is a
`FormatStatus`, so the outcome of decoding one record is a `Cell`.

Constant fields (`level`, the frame size, reserved bytes, flags determined by other fields) are
left out.
-/

namespace On9kvdb

/-- The outcome of decoding one record: the record, or the reason it is rejected. -/
abbrev Cell (α : Type) := Except FormatStatus α

/-! ## Geometry and limits -/

/-- `storage_geometry`. -/
structure StorageGeometry where
  provisionedSize : ℕ
  maxLiveBytes : ℕ
  manifestSize : ℕ
  walSize : ℕ
  walCount : ℕ
  tableSize : ℕ
  tableCount : ℕ
  valueBankSize : ℕ
  valueBankCount : ℕ
  alignment : ℕ
  deriving DecidableEq, Repr

/-- `logical_limits`. -/
structure LogicalLimits where
  walFrameBytes : ℕ
  maxNamespaces : ℕ
  maxOpenHandles : ℕ
  memtableEntries : ℕ
  memtableDataBytes : ℕ
  maxTransactionMutations : ℕ
  transactionStagingBytes : ℕ
  sstableBlockBytes : ℕ
  inlineValueBytes : ℕ
  deriving DecidableEq, Repr

/-- `validate_storage_geometry`. -/
def validateStorageGeometry (g : StorageGeometry) : Bool :=
  g.provisionedSize != 0 && g.maxLiveBytes != 0 && g.maxLiveBytes ≤ g.provisionedSize &&
  g.manifestSize == manifestFileSize && walRecordRegionOffset + walFrameSize ≤ g.walSize &&
  g.walCount == walFileCount && identityRegionSize < g.tableSize && 4 ≤ g.tableCount &&
  g.tableCount ≤ maxTableCount && g.tableCount % 2 == 0 && identityRegionSize < g.valueBankSize &&
  g.valueBankCount == valueBankCount && g.alignment == formatAlignment &&
  g.walSize % formatAlignment == 0 && g.tableSize % formatAlignment == 0 &&
  g.valueBankSize % formatAlignment == 0 &&
  g.manifestSize + g.walSize * g.walCount + g.tableSize * g.tableCount +
    g.valueBankSize * g.valueBankCount == g.provisionedSize &&
  g.maxLiveBytes ≤ (g.tableSize - identityRegionSize) * g.tableCount

/-- `validate_logical_limits`; the inline limit is the one the build was configured with. -/
def validateLogicalLimits (l : LogicalLimits) : Bool :=
  l.walFrameBytes == walFrameSize && 0 < l.maxNamespaces && l.maxNamespaces ≤ uint16Max &&
  0 < l.maxOpenHandles && l.maxOpenHandles ≤ uint16Max && 16 ≤ l.memtableEntries &&
  l.memtableEntries &&& (l.memtableEntries - 1) == 0 &&
  l.inlineValueBytes ≤ l.memtableDataBytes && 0 < l.maxTransactionMutations &&
  l.maxTransactionMutations ≤ maxTransactionMutations &&
  l.inlineValueBytes ≤ l.transactionStagingBytes &&
  l.sstableBlockBytes % formatAlignment == 0 &&
  tableBlockHeaderSize + (tableEntryHeaderSize + 2 * maxNameLen + l.inlineValueBytes) <
    l.sstableBlockBytes

/-- Data blocks of one table: what is left of its file after headers, index and footer. -/
def maximumDataBlocks (g : StorageGeometry) (l : LogicalLimits) : ℕ :=
  (g.tableSize - tableFooterSlotSize - l.sstableBlockBytes - tableDataRegionOffset) /
    l.sstableBlockBytes

/-- `validate_compaction_capacity`: a full live set always fits one table bank and one value
bank. -/
def validateCompactionCapacity (g : StorageGeometry) (l : LogicalLimits) : Bool :=
  let dataRegionBytes :=
    g.tableSize - tableDataRegionOffset - l.sstableBlockBytes - tableFooterSlotSize
  let dataBlocksPerTable := dataRegionBytes / l.sstableBlockBytes
  let bankBlockCount := dataBlocksPerTable * (g.tableCount / 2)
  let maximumIndexEntrySize := (tableIndexEntryHeaderSize + 2 * maxNameLen + 3) / 4 * 4
  let blockPayloadBytes := l.sstableBlockBytes - tableBlockHeaderSize
  let minimumExternalValue := l.inlineValueBytes + 1
  let minimumExternalRecord := align8 (tableEntryHeaderSize + 2 + minimumExternalValue)
  let recordCountCeiling :=
    (g.maxLiveBytes + (minimumExternalRecord - 1)) / minimumExternalRecord
  let requiredValueBytes :=
    recordCountCeiling * (chunkCount minimumExternalValue * valueChunkSize) + identityRegionSize
  validateStorageGeometry g && validateLogicalLimits l &&
  tableDataRegionOffset + l.sstableBlockBytes + tableFooterSlotSize < g.tableSize &&
  dataRegionBytes % l.sstableBlockBytes == 0 &&
  dataBlocksPerTable * maximumIndexEntrySize ≤ l.sstableBlockBytes - tableIndexHeaderSize &&
  requiredValueBytes ≤ g.valueBankSize &&
  g.maxLiveBytes ≤ (bankBlockCount / 2) * blockPayloadBytes

/-- A build configuration that passes the static assertions and `validate_init_args`. -/
structure Config where
  geometry : StorageGeometry
  limits : LogicalLimits
  maxValueReaders : ℕ
  /-- Whether the memory budget left room for `table_index_cache` and `table_lookup_value`. -/
  optionalCaches : Bool
  valid : validateCompactionCapacity geometry limits = true
  /-- Sizes are `uint32_t`. -/
  sizes : geometry.walSize ≤ uint32Max ∧ geometry.tableSize ≤ uint32Max ∧
    geometry.valueBankSize ≤ uint32Max ∧ geometry.maxLiveBytes ≤ uint32Max
  /-- The ranges of the build options. -/
  ranges : 1 ≤ limits.inlineValueBytes ∧ limits.inlineValueBytes ≤ formatAlignment ∧
    limits.memtableEntries ≤ formatAlignment ∧ limits.maxNamespaces ≤ 1024 ∧
    limits.maxOpenHandles ≤ 256 ∧ limits.memtableDataBytes ≤ 2 ^ 17 ∧
    limits.transactionStagingBytes ≤ 2 ^ 17
  readers : 1 ≤ maxValueReaders ∧ maxValueReaders ≤ 16

/-- The build configuration of the host tests (`tests/host_stubs/sdkconfig.h`). -/
def hostConfig : Config where
  geometry := ⟨1155072, 65536, 8192, 65536, 2, 118784, 4, 270336, 2, 4096⟩
  limits := ⟨4096, 8, 4, 16, 8192, 10, 8192, 16384, 1024⟩
  maxValueReaders := 2
  optionalCaches := true
  valid := by decide +kernel
  sizes := by decide
  ranges := by decide
  readers := by decide

namespace Config

variable (cfg : Config)

/-- The conjuncts of `validate_compaction_capacity` that proofs refer to. -/
lemma geometry_valid : validateStorageGeometry cfg.geometry = true := by
  have h := cfg.valid
  simp only [validateCompactionCapacity, Bool.and_eq_true] at h
  exact h.1.1.1.1.1.1

lemma limits_valid : validateLogicalLimits cfg.limits = true := by
  have h := cfg.valid
  simp only [validateCompactionCapacity, Bool.and_eq_true] at h
  exact h.1.1.1.1.1.2

lemma maxTransactionMutations_le :
    cfg.limits.maxTransactionMutations ≤ On9kvdb.maxTransactionMutations := by
  have h := cfg.limits_valid
  simp only [validateLogicalLimits, Bool.and_eq_true, decide_eq_true_eq] at h
  exact h.1.1.1.2

/-- A WAL slot holds whole frames behind its headers. -/
lemma walSize_valid : walRecordRegionOffset + walFrameSize ≤ cfg.geometry.walSize ∧
    cfg.geometry.walSize % walFrameSize = 0 := by
  have h := cfg.geometry_valid
  simp only [validateStorageGeometry, Bool.and_eq_true, decide_eq_true_eq, beq_iff_eq] at h
  exact ⟨h.1.1.1.1.1.1.1.1.1.1.1.1.1.2, h.1.1.1.1.2⟩

end Config

/-! ## Values and table entries -/

/-- `value_ref`: where the chunks of an external value are. -/
structure ValueRef where
  bankGeneration : ℕ
  firstChunkOffset : ℕ
  valueSize : ℕ
  valueChecksum : UInt32
  bankSlot : ℕ
  deriving DecidableEq, Repr

/-- The offset just past the last chunk of the value. -/
def ValueRef.endOffset (r : ValueRef) : ℕ :=
  r.firstChunkOffset + chunkCount r.valueSize * valueChunkSize

/-- `value_ref_is_valid`. -/
def valueRefIsValid (r : ValueRef) (bankSize : ℕ) : Bool :=
  r.bankSlot < valueBankCount && r.bankGeneration != 0 && r.valueSize != 0 &&
  r.valueSize ≤ maxValueLen && identityRegionSize ≤ r.firstChunkOffset &&
  r.firstChunkOffset % valueChunkSize == 0 && identityRegionSize < bankSize &&
  r.firstChunkOffset ≤ bankSize - valueChunkSize && r.endOffset ≤ bankSize

/-- What a record stores for its key: the tombstone and external flags with what they select. -/
inductive StoredValue
  | tombstone
  | inline (bytes : Bytes)
  | external (ref : ValueRef)
  deriving DecidableEq, Repr

namespace StoredValue

/-- `value_size`: the logical size of the value. -/
def size : StoredValue → ℕ
  | tombstone => 0
  | inline bytes => bytes.length
  | external ref => ref.valueSize

/-- The bytes kept next to the key: those of an inline value. -/
def inlineBytes : StoredValue → Bytes
  | inline bytes => bytes
  | _ => []

/-- `memtable_value_size`: an external value occupies no arena or staging bytes. -/
def inlineSize (v : StoredValue) : ℕ := v.inlineBytes.length

/-- `encoded_value_size`: an external value is stored as its 24-byte descriptor. -/
def encodedSize : StoredValue → ℕ
  | external _ => valueRefEncodedSize
  | v => v.inlineSize

def isTombstone : StoredValue → Bool
  | tombstone => true
  | _ => false

/-- The descriptor, when the value is external. -/
def ref? : StoredValue → Option ValueRef
  | external ref => some ref
  | _ => none

/-- The value conditions of `encode_table_entry`. -/
def encodable : StoredValue → Bool
  | tombstone => true
  | inline bytes => bytes.length ≤ maxValueLen
  | external ref => valueRefIsValid ref maxStorageObjectSize

end StoredValue

/-- `logical_record_size`, the size every capacity account uses. -/
def logicalRecordSize (namespaceSize keySize valueSize : ℕ) : ℕ :=
  align8 (tableEntryHeaderSize + namespaceSize + keySize + valueSize)

/-- `table_entry`: one version of one key. -/
structure TableEntry where
  transactionSequence : ℕ
  key : CompositeKey
  value : StoredValue
  valid : (transactionSequence != 0 && key.valid && value.encodable) = true
  deriving DecidableEq

namespace TableEntry

/-- `total_size`: header, names and value, rounded up. -/
def totalSize (e : TableEntry) : ℕ :=
  align8 (tableEntryHeaderSize + e.key.namespaceName.length + e.key.key.length +
    e.value.encodedSize)

/-- The size the entry counts for against `max_live_bytes`. -/
def logicalSize (e : TableEntry) : ℕ :=
  logicalRecordSize e.key.namespaceName.length e.key.key.length e.value.size

end TableEntry

/-- The success test of `encode_table_entry` at `offset` in a block of `blockLen` bytes. -/
def encodeTableEntry (blockLen offset sequence : ℕ) (key : CompositeKey) (value : StoredValue) :
    Option TableEntry :=
  if h : (sequence != 0 && key.valid && value.encodable) = true then
    let entry : TableEntry := ⟨sequence, key, value, h⟩
    if offset + entry.totalSize ≤ blockLen then some entry else none
  else none

/-- `table_index_entry`: the first entry of one data block. -/
structure TableIndexEntry where
  firstSequence : ℕ
  blockOffset : ℕ
  key : CompositeKey
  valid : (firstSequence != 0 && key.valid && tableDataRegionOffset ≤ blockOffset &&
    blockOffset % formatAlignment == 0) = true
  deriving DecidableEq

/-- `total_size` of an index entry. -/
def TableIndexEntry.totalSize (e : TableIndexEntry) : ℕ :=
  (tableIndexEntryHeaderSize + e.key.namespaceName.length + e.key.key.length + 3) / 4 * 4

/-- The success test of `encode_table_index_entry`. -/
def encodeTableIndexEntry (blockLen offset firstSequence blockOffset : ℕ) (key : CompositeKey) :
    Option TableIndexEntry :=
  if h : (firstSequence != 0 && key.valid && tableDataRegionOffset ≤ blockOffset &&
      blockOffset % formatAlignment == 0) = true then
    let entry : TableIndexEntry := ⟨firstSequence, blockOffset, key, h⟩
    if offset + entry.totalSize ≤ blockLen then some entry else none
  else none

/-- The payload bytes of a list of entries. -/
def payloadBytes (entries : List TableEntry) : ℕ := (entries.map TableEntry.totalSize).sum

/-- The payload bytes of an index. -/
def indexPayloadBytes (entries : List TableIndexEntry) : ℕ :=
  (entries.map TableIndexEntry.totalSize).sum

/-- A data block: `table_block_header` with the entries behind it. -/
structure TableBlock where
  generation : ℕ
  blockIndex : ℕ
  entries : List TableEntry
  valid : (generation != 0 && !entries.isEmpty) = true
  deriving DecidableEq

/-- An index block: `table_index_header` with one entry for each data block. -/
structure TableIndex where
  generation : ℕ
  entries : List TableIndexEntry
  valid : (generation != 0 && !entries.isEmpty) = true
  deriving DecidableEq

/-! ## Table references and metadata -/

/-- `table_reference`; an inactive reference is the absence of one. -/
structure TableReference where
  slot : ℕ
  dataBlockCount : ℕ
  generation : ℕ
  minSequence : ℕ
  maxSequence : ℕ
  entryCount : ℕ
  dataBytes : ℕ
  contentChecksum : UInt32
  minKey : CompositeKey
  maxKey : CompositeKey
  deriving DecidableEq

/-- `composite_key {}`, what a key field holds before it is filled in. -/
def CompositeKey.blank : CompositeKey := ⟨[], []⟩

/-- `table_reference_equal`: the key range is not part of the stored reference. -/
def tableReferenceEqual (lhs rhs : TableReference) : Bool :=
  lhs.slot == rhs.slot && lhs.dataBlockCount == rhs.dataBlockCount &&
  lhs.generation == rhs.generation && lhs.minSequence == rhs.minSequence &&
  lhs.maxSequence == rhs.maxSequence && lhs.entryCount == rhs.entryCount &&
  lhs.dataBytes == rhs.dataBytes && lhs.contentChecksum == rhs.contentChecksum

/-- `valid_table_reference`. -/
def validTableReference (r : TableReference) (expectedSlot safeCheckpointSequence : ℕ) : Bool :=
  r.slot == expectedSlot && 0 < r.generation && 0 < r.minSequence &&
  r.minSequence ≤ r.maxSequence && r.maxSequence ≤ safeCheckpointSequence && 0 < r.entryCount &&
  0 < r.dataBlockCount && r.dataBlockCount ≤ r.entryCount && 0 < r.dataBytes

/-- The fields of `table_metadata`, before the encoder has looked at them. -/
structure TableMetadata where
  databaseId : ℕ
  generation : ℕ
  minSequence : ℕ
  maxSequence : ℕ
  slot : ℕ
  blockSize : ℕ
  dataRegionStart : ℕ
  dataBlockCount : ℕ
  indexOffset : ℕ
  footerOffset : ℕ
  entryCount : ℕ
  dataBytes : ℕ
  contentChecksum : UInt32
  minKey : CompositeKey
  maxKey : CompositeKey
  deriving DecidableEq

/-- `valid_table_metadata`. -/
def validTableMetadata (m : TableMetadata) : Bool :=
  m.databaseId != 0 && m.generation != 0 && m.minSequence != 0 && m.minSequence ≤ m.maxSequence &&
  m.slot < maxTableCount && tableBlockHeaderSize < m.blockSize &&
  m.blockSize % formatAlignment == 0 && m.dataRegionStart == tableDataRegionOffset &&
  0 < m.dataBlockCount && m.dataRegionStart + m.dataBlockCount * m.blockSize ≤ m.indexOffset &&
  (m.indexOffset - m.dataRegionStart) % m.blockSize == 0 &&
  m.footerOffset == m.indexOffset + m.blockSize && m.footerOffset % formatAlignment == 0 &&
  0 < m.entryCount && m.dataBlockCount ≤ m.entryCount && 0 < m.dataBytes && m.minKey.valid &&
  m.maxKey.valid && compareCompositeKey m.minKey m.maxKey != .gt

/-- A table header or footer on media. -/
structure TableMetadataRecord where
  metadata : TableMetadata
  valid : validTableMetadata metadata = true
  deriving DecidableEq

/-- `make_table_reference`. -/
def makeTableReference (m : TableMetadata) : TableReference where
  slot := m.slot
  dataBlockCount := m.dataBlockCount
  generation := m.generation
  minSequence := m.minSequence
  maxSequence := m.maxSequence
  entryCount := m.entryCount
  dataBytes := m.dataBytes
  contentChecksum := m.contentChecksum
  minKey := m.minKey
  maxKey := m.maxKey

/-! ## Manifest -/

/-- `manifest_state_provisioning_owned` and `manifest_state_ready`. -/
inductive ManifestState
  | provisioningOwned
  | ready
  deriving DecidableEq, Repr

/-- `manifest_record`. -/
structure ManifestRecord where
  generation : ℕ
  databaseId : ℕ
  state : ManifestState
  geometry : StorageGeometry
  limits : LogicalLimits
  activeWalSlot : ℕ
  walGeneration : ℕ → ℕ
  safeCheckpointSequence : ℕ
  nextTableGeneration : ℕ
  activeTableBank : ℕ
  activeValueBank : ℕ
  valueBankGeneration : ℕ → ℕ
  valueBankTail : ℕ → ℕ
  tables : ℕ → Option TableReference

namespace ManifestRecord

/-- The active references, in slot order. -/
def activeTables (r : ManifestRecord) : List TableReference :=
  (List.range maxTableCount).filterMap r.tables

/-- Slots of the active table bank. -/
def inActiveBank (r : ManifestRecord) (slot : ℕ) : Bool :=
  let bankSize := r.geometry.tableCount / 2
  r.activeTableBank * bankSize ≤ slot && slot < r.activeTableBank * bankSize + bankSize

/-- The reference checks both `encode_manifest_record` and `decode_manifest_record` make. -/
def tableReferencesValid (r : ManifestRecord) : Bool :=
  r.activeTableBank < 2 &&
  (List.range maxTableCount).all fun slot =>
    match r.tables slot with
    | none => true
    | some reference =>
        r.inActiveBank slot && validTableReference reference slot r.safeCheckpointSequence &&
        (List.range slot).all fun previous =>
          match r.tables previous with
          | none => true
          | some other => other.generation != reference.generation

/-- `greatest_table_generation`. -/
def greatestTableGeneration (r : ManifestRecord) : ℕ :=
  (r.activeTables.map TableReference.generation).foldl max 0

/-- `greatest_table_sequence`. -/
def greatestTableSequence (r : ManifestRecord) : ℕ :=
  (r.activeTables.map TableReference.maxSequence).foldl max 0

/-- The extra conditions on a copy in the provisioning state. -/
def provisioningValid (r : ManifestRecord) : Bool :=
  r.walGeneration 0 == 0 && r.walGeneration 1 == 0 && r.safeCheckpointSequence == 0 &&
  r.activeTables.isEmpty && r.nextTableGeneration == 1 && r.activeTableBank == 0 &&
  r.activeValueBank == 0 && r.valueBankGeneration 0 == 1 && r.valueBankGeneration 1 == 1 &&
  r.valueBankTail 0 == identityRegionSize && r.valueBankTail 1 == identityRegionSize

/-- The conditions on one value bank of a ready copy. -/
def valueBankValid (r : ManifestRecord) (bank : ℕ) : Bool :=
  r.valueBankGeneration bank != 0 && identityRegionSize ≤ r.valueBankTail bank &&
  r.valueBankTail bank ≤ r.geometry.valueBankSize && r.valueBankTail bank % valueChunkSize == 0

/-- The extra conditions on a copy in the ready state. -/
def readyValid (r : ManifestRecord) : Bool :=
  3 ≤ r.generation && r.walGeneration r.activeWalSlot != 0 &&
  r.activeValueBank < valueBankCount && r.valueBankValid 0 && r.valueBankValid 1

/-- The success test of `encode_manifest_record`, and what `decode_manifest_record` accepts. -/
def encodable (r : ManifestRecord) : Bool :=
  r.generation != 0 && r.databaseId != 0 && validateCompactionCapacity r.geometry r.limits &&
  r.activeWalSlot < walFileCount && r.nextTableGeneration != 0 && r.tableReferencesValid &&
  r.greatestTableGeneration < r.nextTableGeneration &&
  (r.activeTables.isEmpty || r.greatestTableSequence == r.safeCheckpointSequence) &&
  match r.state with
  | .provisioningOwned => r.provisioningValid
  | .ready => r.readyValid

/-- The stored form: key ranges live in the table footers, not in the manifest. -/
def withoutKeyRanges (r : ManifestRecord) : ManifestRecord :=
  { r with
    tables := fun slot =>
      (r.tables slot).map fun t => { t with minKey := .blank, maxKey := .blank } }

end ManifestRecord

/-- One of the two manifest copies on media. -/
structure ManifestCopy where
  record : ManifestRecord
  valid : record.encodable = true

/-! ## File identities -/

/-- `file_kind`: the kinds of data files. -/
inductive FileKind
  | wal
  | table
  | valueBank
  deriving DecidableEq, Repr

/-- `data_file_size`. -/
def StorageGeometry.dataFileSize (g : StorageGeometry) : FileKind → ℕ
  | .wal => g.walSize
  | .table => g.tableSize
  | .valueBank => g.valueBankSize

/-- The files of one kind. -/
def StorageGeometry.dataFileCount (g : StorageGeometry) : FileKind → ℕ
  | .wal => g.walCount
  | .table => g.tableCount
  | .valueBank => g.valueBankCount

/-- `file_identity`.  Each kind has its own magic number, so the kind is not a field. -/
structure FileIdentity where
  generation : ℕ
  databaseId : ℕ
  fileSize : ℕ
  slot : ℕ
  valid : (generation != 0 && databaseId != 0 && identityRegionSize < fileSize &&
    fileSize ≤ maxStorageObjectSize && fileSize % formatAlignment == 0) = true
  deriving DecidableEq

/-! ## WAL records -/

/-- `wal_header`. -/
structure WalHeader where
  databaseId : ℕ
  generation : ℕ
  firstTransactionSequence : ℕ
  slot : ℕ
  recordRegionEnd : ℕ
  valid : (databaseId != 0 && generation != 0 && firstTransactionSequence != 0 &&
    slot < walFileCount && walRecordRegionOffset < recordRegionEnd &&
    recordRegionEnd % walFrameSize == 0) = true
  deriving DecidableEq

/-- `wal_frame_header` and its payload.  The commit flag is set exactly on the last frame, so it
is not a field. -/
structure WalFrame where
  databaseId : ℕ
  walGeneration : ℕ
  transactionSequence : ℕ
  frameIndex : ℕ
  frameCount : ℕ
  mutationCount : ℕ
  transactionPayloadSize : ℕ
  transactionChecksum : UInt32
  payload : Bytes
  valid : (databaseId != 0 && walGeneration != 0 && transactionSequence != 0 &&
    frameIndex < frameCount && mutationCount != 0 && mutationCount ≤ maxTransactionMutations &&
    transactionPayloadSize != 0 && payload.length ≤ transactionPayloadSize &&
    payload.length ≤ walFramePayloadCapacity) = true
  deriving DecidableEq

/-! ## Value chunks -/

/-- `value_chunk_header` and its payload.  The final flag is set exactly on the chunk that ends
the value. -/
structure ValueChunk where
  databaseId : ℕ
  bankGeneration : ℕ
  firstChunkOffset : ℕ
  valueSize : ℕ
  valueOffset : ℕ
  payload : Bytes
  valid : (databaseId != 0 && bankGeneration != 0 && identityRegionSize ≤ firstChunkOffset &&
    firstChunkOffset % valueChunkSize == 0 && valueSize != 0 && valueSize ≤ maxValueLen &&
    valueOffset < valueSize && payload.length != 0 &&
    payload.length ≤ valueChunkPayloadSize && payload.length ≤ valueSize - valueOffset) = true
  deriving DecidableEq

/-- `value_chunk_flag_final`. -/
def ValueChunk.final (c : ValueChunk) : Bool := c.payload.length == c.valueSize - c.valueOffset

end On9kvdb
