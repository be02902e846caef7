import On9kvdb.Durable.Records

/-!
# The manifest codec, byte by byte

`encode_manifest_record` and `decode_manifest_record`, with the geometry and limit checks on the
machine's own integers: sums and differences of 32-bit fields wrap, 64-bit ones are checked where
the source checks them.  `inline_value_len` is a constant of the build, here a parameter.

Encoder and decoder go over the sixteen table references in loops of their own: the encoder stops at
the first reference it refuses, the decoder reads, checks and counts one after the other.
-/

namespace On9kvdb

namespace Durable

open Decode Patch

/-! ## Geometry and limits -/

/-- `storage_geometry`. -/
structure StorageGeometry where
  provisionedSize : UInt64
  maxLiveBytes : UInt64
  manifestSize : UInt32
  walSize : UInt32
  walCount : UInt32
  tableSize : UInt32
  tableCount : UInt32
  valueBankSize : UInt32
  valueBankCount : UInt32
  alignment : UInt32
  deriving DecidableEq

/-- `logical_limits`. -/
structure LogicalLimits where
  walFrameBytes : UInt32
  maxNamespaces : UInt32
  maxOpenHandles : UInt32
  memtableEntries : UInt32
  memtableDataBytes : UInt32
  maxTransactionMutations : UInt32
  transactionStagingBytes : UInt32
  sstableBlockBytes : UInt32
  inlineValueBytes : UInt32
  deriving DecidableEq

/-- `UINT64_MAX`. -/
def maxU64 : UInt64 := 0xffffffffffffffff

/-- `checked_add_u64`. -/
def checkedAddU64 (lhs rhs : UInt64) : Option UInt64 :=
  if maxU64 - lhs < rhs then none else some (lhs + rhs)

/-- `checked_mul_u64`. -/
def checkedMulU64 (lhs rhs : UInt64) : Option UInt64 :=
  if lhs ≠ 0 ∧ maxU64 / lhs < rhs then none else some (lhs * rhs)

/-- The ranges of the fields one by one. -/
def StorageGeometry.ranged (g : StorageGeometry) : Bool :=
  g.provisionedSize != 0 && g.maxLiveBytes != 0 && g.maxLiveBytes ≤ g.provisionedSize &&
  g.manifestSize.toNat == manifestFileSize &&
  walRecordRegionOffset + walFrameSize ≤ g.walSize.toNat && g.walCount.toNat == walFileCount &&
  identityRegionSize < g.tableSize.toNat && 4 ≤ g.tableCount.toNat &&
  g.tableCount.toNat ≤ maxTableCount && g.tableCount &&& 1 == 0 &&
  identityRegionSize < g.valueBankSize.toNat && g.valueBankCount.toNat == On9kvdb.valueBankCount &&
  g.alignment.toNat == formatAlignment && g.manifestSize.toNat % formatAlignment == 0 &&
  g.walSize.toNat % formatAlignment == 0 && g.tableSize.toNat % formatAlignment == 0 &&
  g.valueBankSize.toNat % formatAlignment == 0

/-- `calculated_size`, and the bytes the tables hold behind their identities. -/
def StorageGeometry.sizes (g : StorageGeometry) : Option (UInt64 × UInt64) := do
  let walBytes ← checkedMulU64 g.walSize.toUInt64 g.walCount.toUInt64
  let tableBytes ← checkedMulU64 g.tableSize.toUInt64 g.tableCount.toUInt64
  let valueBankBytes ← checkedMulU64 g.valueBankSize.toUInt64 g.valueBankCount.toUInt64
  let tablePayloadBytes ← checkedMulU64 (g.tableSize - UInt32.ofNat identityRegionSize).toUInt64
    g.tableCount.toUInt64
  let calculatedSize ← checkedAddU64 g.manifestSize.toUInt64 walBytes
  let calculatedSize ← checkedAddU64 calculatedSize tableBytes
  let calculatedSize ← checkedAddU64 calculatedSize valueBankBytes
  return (calculatedSize, tablePayloadBytes)

/-- `validate_storage_geometry`. -/
def validateStorageGeometry (g : StorageGeometry) : Bool :=
  g.ranged &&
  match g.sizes with
  | none => false
  | some (calculatedSize, tablePayloadBytes) =>
      calculatedSize == g.provisionedSize && g.maxLiveBytes ≤ tablePayloadBytes

/-- `validate_logical_limits`. -/
def validateLogicalLimits (inlineValueLen : UInt32) (l : LogicalLimits) : Bool :=
  let maximumEntrySize := UInt32.ofNat (tableEntryHeaderSize + 2 * maxNameLen) + inlineValueLen
  l.walFrameBytes.toNat == walFrameSize && 0 < l.maxNamespaces &&
  l.maxNamespaces.toNat ≤ uint16Max && 0 < l.maxOpenHandles && l.maxOpenHandles.toNat ≤ uint16Max &&
  16 ≤ l.memtableEntries && l.memtableEntries &&& (l.memtableEntries - 1) == 0 &&
  inlineValueLen ≤ l.memtableDataBytes && 0 < l.maxTransactionMutations &&
  l.maxTransactionMutations.toNat ≤ maxTransactionMutations &&
  inlineValueLen ≤ l.transactionStagingBytes && l.inlineValueBytes == inlineValueLen &&
  l.sstableBlockBytes.toNat % formatAlignment == 0 &&
  UInt32.ofNat tableBlockHeaderSize + maximumEntrySize < l.sstableBlockBytes

/-- The room `max_live_bytes` is compared with: `guaranteed_logical_bytes`, when the blocks fit the
index and the value banks hold the smallest external values. -/
def guaranteedLogicalBytes (g : StorageGeometry) (l : LogicalLimits) : Option UInt64 := do
  let dataRegionBytes :=
    (g.tableSize - UInt32.ofNat tableDataRegionOffset - l.sstableBlockBytes -
      UInt32.ofNat tableFooterSlotSize).toUInt64
  guard (dataRegionBytes % l.sstableBlockBytes.toUInt64 = 0)
  let dataBlocksPerTable := dataRegionBytes / l.sstableBlockBytes.toUInt64
  let maximumIndexEntrySize :=
    UInt64.ofNat (tableIndexEntryHeaderSize + 2 * maxNameLen + 3) &&& ~~~ 3
  let bankBlockCount ← checkedMulU64 dataBlocksPerTable (g.tableCount / 2).toUInt64
  let maximumIndexBytes ← checkedMulU64 dataBlocksPerTable maximumIndexEntrySize
  guard (maximumIndexBytes ≤
    (l.sstableBlockBytes - UInt32.ofNat tableIndexHeaderSize).toUInt64)
  let blockPayloadBytes := (l.sstableBlockBytes - UInt32.ofNat tableBlockHeaderSize).toUInt64
  let minimumExternalValue := l.inlineValueBytes.toUInt64 + 1
  let minimumExternalRecord :=
    (UInt64.ofNat (tableEntryHeaderSize + 2) + minimumExternalValue + 7) &&& ~~~ 7
  let chunksPerMinimumValue :=
    (minimumExternalValue + UInt64.ofNat valueChunkPayloadSize - 1) /
      UInt64.ofNat valueChunkPayloadSize
  let roundedLiveBytes ← checkedAddU64 g.maxLiveBytes (minimumExternalRecord - 1)
  let physicalBytesPerRecord ← checkedMulU64 chunksPerMinimumValue (UInt64.ofNat valueChunkSize)
  let recordCountCeiling := roundedLiveBytes / minimumExternalRecord
  let requiredValueBytes ← checkedMulU64 recordCountCeiling physicalBytesPerRecord
  let requiredValueBytes ← checkedAddU64 requiredValueBytes (UInt64.ofNat identityRegionSize)
  guard (requiredValueBytes ≤ g.valueBankSize.toUInt64)
  return bankBlockCount / 2 * blockPayloadBytes

/-- `validate_compaction_capacity`. -/
def validateCompactionCapacity (inlineValueLen : UInt32) (g : StorageGeometry) (l : LogicalLimits) :
    Bool :=
  validateStorageGeometry g && validateLogicalLimits inlineValueLen l &&
  UInt32.ofNat tableDataRegionOffset + l.sstableBlockBytes + UInt32.ofNat tableFooterSlotSize <
    g.tableSize &&
  match guaranteedLogicalBytes g l with
  | none => false
  | some bytes => g.maxLiveBytes ≤ bytes

/-! ## The record -/

/-- `table_reference`; the key range is not stored. -/
structure TableReference where
  active : Bool
  level : UInt8
  slot : UInt32
  dataBlockCount : UInt32
  generation : UInt64
  minSequence : UInt64
  maxSequence : UInt64
  entryCount : UInt32
  dataBytes : UInt32
  contentChecksum : UInt32
  deriving DecidableEq

/-- `table_reference {}`. -/
def TableReference.blank : TableReference := ⟨false, 0, 0, 0, 0, 0, 0, 0, 0, 0⟩

/-- `table_reference_equal`. -/
def tableReferenceEqual (lhs rhs : TableReference) : Bool :=
  lhs.active == rhs.active &&
  (!lhs.active ||
    lhs.level == rhs.level && lhs.slot == rhs.slot && lhs.dataBlockCount == rhs.dataBlockCount &&
    lhs.generation == rhs.generation && lhs.minSequence == rhs.minSequence &&
    lhs.maxSequence == rhs.maxSequence && lhs.entryCount == rhs.entryCount &&
    lhs.dataBytes == rhs.dataBytes && lhs.contentChecksum == rhs.contentChecksum)

/-- `manifest_record`, with its arrays of two and of sixteen. -/
structure ManifestRecord where
  generation : UInt64
  databaseId : UInt64
  state : UInt16
  geometry : StorageGeometry
  limits : LogicalLimits
  activeWalSlot : UInt32
  walGeneration : ℕ → UInt64
  safeCheckpointSequence : UInt64
  nextTableGeneration : UInt64
  activeTableBank : UInt32
  activeValueBank : UInt32
  valueBankGeneration : ℕ → UInt64
  valueBankTail : ℕ → UInt32
  tables : ℕ → TableReference

/-- An array of two. -/
def pair {α : Type} (first second : α) (i : ℕ) : α := if i = 0 then first else second

def manifestMagic : UInt32 := magicForKind .manifest
def manifestStateProvisioningOwned : UInt16 := 0x7001
def manifestStateReady : UInt16 := 0x7002
def geometryRevision : UInt16 := 2
def logicalLimitsRevision : UInt16 := 3
def manifestRecordSize : ℕ := 4096
def manifestRecordChecksumOffset : ℕ := 4092
def manifestTableReferenceSize : ℕ := 56
def manifestTableReferenceOffset : ℕ := 224
def tableReferenceFlagActive : UInt8 := 1

/-- `valid_table_reference`. -/
def validTableReference (reference : TableReference) (expectedSlot : ℕ)
    (safeCheckpointSequence : UInt64) : Bool :=
  reference.active && reference.level == 0 && reference.slot.toNat == expectedSlot &&
  0 < reference.generation && 0 < reference.minSequence &&
  reference.minSequence ≤ reference.maxSequence &&
  reference.maxSequence ≤ safeCheckpointSequence && 0 < reference.entryCount &&
  0 < reference.dataBlockCount && reference.dataBlockCount ≤ reference.entryCount &&
  0 < reference.dataBytes

/-- `active_table_count`, `greatest_table_generation` and `greatest_table_sequence`. -/
structure TableTotals where
  activeTableCount : UInt32
  greatestTableGeneration : UInt64
  greatestTableSequence : UInt64
  deriving DecidableEq

namespace TableTotals

def zero : TableTotals := ⟨0, 0, 0⟩

/-- One more active reference. -/
def add (totals : TableTotals) (reference : TableReference) : TableTotals where
  activeTableCount := totals.activeTableCount + 1
  greatestTableGeneration :=
    if totals.greatestTableGeneration < reference.generation then reference.generation
    else totals.greatestTableGeneration
  greatestTableSequence :=
    if totals.greatestTableSequence < reference.maxSequence then reference.maxSequence
    else totals.greatestTableSequence

end TableTotals

/-- `bank_geometry_valid`. -/
def bankGeometryValid (g : StorageGeometry) (activeTableBank : UInt32) : Bool :=
  4 ≤ g.tableCount.toNat && g.tableCount.toNat ≤ maxTableCount && g.tableCount &&& 1 == 0 &&
  activeTableBank < 2

/-- `bank_size`. -/
def bankSize (g : StorageGeometry) (activeTableBank : UInt32) : UInt32 :=
  if bankGeometryValid g activeTableBank then g.tableCount / 2 else 0

/-- `bank_start`. -/
def bankStart (g : StorageGeometry) (activeTableBank : UInt32) : UInt32 :=
  activeTableBank * bankSize g activeTableBank

/-- `bank_end`. -/
def bankEnd (g : StorageGeometry) (activeTableBank : UInt32) : UInt32 :=
  bankStart g activeTableBank + bankSize g activeTableBank

/-- An active reference between `start` and `slot` has the generation of the one in `slot`. -/
def repeatsGeneration (tables : ℕ → TableReference) (start slot : ℕ) : Bool :=
  (List.range slot).any fun previous =>
    start ≤ previous && (tables previous).active &&
    (tables previous).generation == (tables slot).generation

namespace ManifestRecord

/-- The conditions on a record that is being provisioned. -/
def provisioningValid (r : ManifestRecord) (activeTableCount : UInt32) : Bool :=
  r.walGeneration 0 == 0 && r.walGeneration 1 == 0 && r.safeCheckpointSequence == 0 &&
  activeTableCount == 0 && r.nextTableGeneration == 1 && r.activeTableBank == 0 &&
  r.activeValueBank == 0 && r.valueBankGeneration 0 == 1 && r.valueBankGeneration 1 == 1 &&
  (r.valueBankTail 0).toNat == identityRegionSize && (r.valueBankTail 1).toNat == identityRegionSize

/-- The conditions on the value banks and the log of a ready record. -/
def readyValid (r : ManifestRecord) : Bool :=
  r.walGeneration r.activeWalSlot.toNat != 0 && r.activeValueBank.toNat < valueBankCount &&
  r.valueBankGeneration 0 != 0 && r.valueBankGeneration 1 != 0 &&
  identityRegionSize ≤ (r.valueBankTail 0).toNat && identityRegionSize ≤ (r.valueBankTail 1).toNat &&
  r.valueBankTail 0 ≤ r.geometry.valueBankSize && r.valueBankTail 1 ≤ r.geometry.valueBankSize &&
  (r.valueBankTail 0).toNat % valueChunkSize == 0 && (r.valueBankTail 1).toNat % valueChunkSize == 0

/-- The conditions on the state and what it allows. -/
def stateValid (r : ManifestRecord) (activeTableCount : UInt32) : Bool :=
  (r.state == manifestStateProvisioningOwned || r.state == manifestStateReady) &&
  !(r.state == manifestStateReady && r.generation < 3) &&
  !(r.state == manifestStateProvisioningOwned && !r.provisioningValid activeTableCount) &&
  !(r.state == manifestStateReady && !r.readyValid)

end ManifestRecord

/-! ## The encoder -/

/-- The bytes of one reference at `offset`. -/
def tableReferenceFields (offset : ℕ) (reference : TableReference) : List (ℕ × Bytes) :=
  if reference.active then
    [(offset, [tableReferenceFlagActive]), (offset + 1, [reference.level]),
      (offset + 8, le32 reference.slot), (offset + 12, le32 reference.dataBlockCount),
      (offset + 16, le64 reference.generation), (offset + 24, le64 reference.minSequence),
      (offset + 32, le64 reference.maxSequence), (offset + 40, le32 reference.entryCount),
      (offset + 44, le32 reference.dataBytes), (offset + 48, le32 reference.contentChecksum)]
  else []

/-- `encode_manifest_table_reference`: an inactive reference leaves the cleared bytes. -/
def encodeManifestTableReference (buf : Bytes) (offset : ℕ) (reference : TableReference) :
    Option Bytes :=
  writeAll buf (tableReferenceFields offset reference)

/-- Where the reference of a slot is. -/
def tableReferenceOffset (slot : ℕ) : ℕ :=
  manifestTableReferenceOffset + slot * manifestTableReferenceSize

/-- The loop that writes the references of the first `count` slots. -/
def encodeTables (tables : ℕ → TableReference) (buf : Bytes) : ℕ → Option Bytes
  | 0 => some buf
  | slot + 1 => do
      let buf ← encodeTables tables buf slot
      encodeManifestTableReference buf (tableReferenceOffset slot) (tables slot)

/-- The loop that checks the references of the first `count` slots, up to the first it refuses. -/
def scanTables (g : StorageGeometry) (activeTableBank : UInt32) (safeCheckpointSequence : UInt64)
    (tables : ℕ → TableReference) : ℕ → Option TableTotals
  | 0 => some .zero
  | slot + 1 => do
      let totals ← scanTables g activeTableBank safeCheckpointSequence tables slot
      if (tables slot).active = false then return totals
      guard ((bankStart g activeTableBank).toNat ≤ slot ∧
        slot < (bankEnd g activeTableBank).toNat ∧
        validTableReference (tables slot) slot safeCheckpointSequence)
      guard (repeatsGeneration tables (bankStart g activeTableBank).toNat slot = false)
      return totals.add (tables slot)

/-- `table_references_valid`, with the totals. -/
def ManifestRecord.tableReferencesValid (r : ManifestRecord) : Option TableTotals := do
  guard (bankGeometryValid r.geometry r.activeTableBank)
  scanTables r.geometry r.activeTableBank r.safeCheckpointSequence r.tables maxTableCount

/-- The fields between the prefix and the references. -/
def manifestFields (r : ManifestRecord) (activeTableCount : UInt32) : List (ℕ × Bytes) :=
  [(28, le64 r.databaseId), (36, le16 r.state), (38, le16 geometryRevision),
    (40, le32 r.geometry.alignment), (44, le32 r.geometry.manifestSize),
    (48, le32 r.geometry.walSize), (52, le32 r.geometry.walCount),
    (56, le32 r.geometry.tableSize), (60, le32 r.geometry.tableCount),
    (64, le32 r.geometry.valueBankSize), (68, le32 r.geometry.valueBankCount),
    (72, le64 r.geometry.maxLiveBytes), (80, le64 r.geometry.provisionedSize),
    (88, le16 logicalLimitsRevision), (92, le32 r.limits.walFrameBytes),
    (96, le32 r.limits.maxNamespaces), (100, le32 r.limits.maxOpenHandles),
    (104, le32 r.limits.memtableEntries), (108, le32 r.limits.memtableDataBytes),
    (112, le32 r.limits.maxTransactionMutations), (116, le32 r.limits.transactionStagingBytes),
    (120, le32 r.limits.sstableBlockBytes), (124, le32 r.limits.inlineValueBytes),
    (128, le32 r.activeWalSlot), (132, le64 (r.walGeneration 0)), (140, le64 (r.walGeneration 1)),
    (148, le64 r.safeCheckpointSequence), (156, le64 r.nextTableGeneration),
    (164, le32 activeTableCount), (168, le32 r.activeTableBank), (172, le32 r.activeValueBank),
    (176, le64 (r.valueBankGeneration 0)), (184, le64 (r.valueBankGeneration 1)),
    (192, le32 (r.valueBankTail 0)), (196, le32 (r.valueBankTail 1))]

/-- The conditions of `encode_manifest_record` beside those on the references. -/
def ManifestRecord.encodable (inlineValueLen : UInt32) (r : ManifestRecord) (totals : TableTotals) :
    Bool :=
  r.generation != 0 && r.databaseId != 0 &&
  validateCompactionCapacity inlineValueLen r.geometry r.limits &&
  r.activeWalSlot.toNat < walFileCount && r.nextTableGeneration != 0 &&
  totals.greatestTableGeneration < r.nextTableGeneration &&
  !(totals.activeTableCount != 0 && totals.greatestTableSequence != r.safeCheckpointSequence) &&
  r.stateValid totals.activeTableCount

/-- What the encoder writes, with the flags of the prefix as a parameter. -/
def manifestImage (buf : Bytes) (flags : UInt16) (r : ManifestRecord) (activeTableCount : UInt32) :
    Option Bytes := do
  let buf := clear buf 0 manifestRecordSize
  let buf ← encodeFilePrefix buf manifestMagic .manifest flags r.generation
    (UInt32.ofNat (manifestRecordSize - filePrefixSize))
  let buf ← writeAll buf (manifestFields r activeTableCount)
  let buf ← encodeTables r.tables buf maxTableCount
  sealRecord buf manifestRecordSize manifestRecordChecksumOffset

/-- `encode_manifest_record`. -/
def encodeManifestRecord (inlineValueLen : UInt32) (buf : Bytes) (r : ManifestRecord) :
    Option Bytes := do
  let totals ← r.tableReferencesValid
  guard (manifestRecordSize ≤ buf.length ∧ r.encodable inlineValueLen totals)
  manifestImage buf 0 r totals.activeTableCount

/-! ## The decoder -/

/-- `decode_manifest_table_reference`. -/
def decodeManifestTableReference (buf : Bytes) (offset : ℕ) : Decode TableReference := do
  reject (isRangeValid buf.length offset manifestTableReferenceSize = false) .invalidSize
  let zero ← isZeroRange buf offset manifestTableReferenceSize
  if zero then return .blank
  let flags ← peek buf offset
  let level ← peek buf (offset + 1)
  reject (flags ≠ tableReferenceFlagActive ∨ level ≠ 0 ∨
    flags &&& ~~~ tableReferenceFlagActive ≠ 0) .corrupt
  let zero ← isZeroRange buf (offset + 2) 6
  reject (zero = false) .corrupt
  let zero ← isZeroRange buf (offset + 52) 4
  reject (zero = false) .corrupt
  let slot ← read32 buf (offset + 8)
  let dataBlockCount ← read32 buf (offset + 12)
  let generation ← read64 buf (offset + 16)
  let minSequence ← read64 buf (offset + 24)
  let maxSequence ← read64 buf (offset + 32)
  let entryCount ← read32 buf (offset + 40)
  let dataBytes ← read32 buf (offset + 44)
  let contentChecksum ← read32 buf (offset + 48)
  return ⟨true, level, slot, dataBlockCount, generation, minSequence, maxSequence, entryCount,
    dataBytes, contentChecksum⟩

/-- One round of the loop over the slots, for a reference that has been read. -/
def admitTable (g : StorageGeometry) (activeTableBank : UInt32) (safeCheckpointSequence : UInt64)
    (tables : ℕ → TableReference) (totals : TableTotals) (slot : ℕ) : Decode TableTotals := do
  if (tables slot).active = false then return totals
  reject (bankGeometryValid g activeTableBank = false ∨
    slot < (bankStart g activeTableBank).toNat ∨ (bankEnd g activeTableBank).toNat ≤ slot ∨
    validTableReference (tables slot) slot safeCheckpointSequence = false) .corrupt
  reject (repeatsGeneration tables (bankStart g activeTableBank).toNat slot) .corrupt
  return totals.add (tables slot)

/-- The loop over the first `count` slots. -/
def decodeTables (buf : Bytes) (g : StorageGeometry) (activeTableBank : UInt32)
    (safeCheckpointSequence : UInt64) : ℕ → Decode ((ℕ → TableReference) × TableTotals)
  | 0 => pure (fun _ => .blank, .zero)
  | slot + 1 => do
      let (tables, totals) ← decodeTables buf g activeTableBank safeCheckpointSequence slot
      let reference ← decodeManifestTableReference buf (tableReferenceOffset slot)
      let tables := Function.update tables slot reference
      let totals ← admitTable g activeTableBank safeCheckpointSequence tables totals slot
      return (tables, totals)

/-- The geometry fields. -/
def readGeometry (buf : Bytes) : Decode StorageGeometry := do
  let alignment ← read32 buf 40
  let manifestSize ← read32 buf 44
  let walSize ← read32 buf 48
  let walCount ← read32 buf 52
  let tableSize ← read32 buf 56
  let tableCount ← read32 buf 60
  let valueBankSize ← read32 buf 64
  let valueBankCount ← read32 buf 68
  let maxLiveBytes ← read64 buf 72
  let provisionedSize ← read64 buf 80
  return ⟨provisionedSize, maxLiveBytes, manifestSize, walSize, walCount, tableSize, tableCount,
    valueBankSize, valueBankCount, alignment⟩

/-- The limit fields. -/
def readLimits (buf : Bytes) : Decode LogicalLimits := do
  let walFrameBytes ← read32 buf 92
  let maxNamespaces ← read32 buf 96
  let maxOpenHandles ← read32 buf 100
  let memtableEntries ← read32 buf 104
  let memtableDataBytes ← read32 buf 108
  let maxTransactionMutations ← read32 buf 112
  let transactionStagingBytes ← read32 buf 116
  let sstableBlockBytes ← read32 buf 120
  let inlineValueBytes ← read32 buf 124
  return ⟨walFrameBytes, maxNamespaces, maxOpenHandles, memtableEntries, memtableDataBytes,
    maxTransactionMutations, transactionStagingBytes, sstableBlockBytes, inlineValueBytes⟩

/-- The conditions of `decode_manifest_record` once the reserved bytes are known to be zero. -/
def ManifestRecord.acceptable (inlineValueLen : UInt32) (r : ManifestRecord) (totals : TableTotals)
    (encodedActiveTableCount : UInt32) : Bool :=
  validateCompactionCapacity inlineValueLen r.geometry r.limits &&
  r.activeWalSlot.toNat < walFileCount && r.nextTableGeneration != 0 &&
  totals.activeTableCount == encodedActiveTableCount &&
  totals.greatestTableGeneration < r.nextTableGeneration &&
  !(totals.activeTableCount != 0 && totals.greatestTableSequence != r.safeCheckpointSequence) &&
  r.stateValid totals.activeTableCount

/-- `decode_manifest_record`. -/
def decodeManifestRecord (inlineValueLen : UInt32) (buf : Bytes) : Decode ManifestRecord := do
  reject (buf.length < manifestRecordSize) .invalidSize
  let decoded ← decodeFilePrefix buf manifestMagic .manifest
  reject (decoded.payloadSize ≠ UInt32.ofNat (manifestRecordSize - filePrefixSize)) .invalidSize
  let databaseId ← read64 buf 28
  let state ← read16 buf 36
  let geometryFormat ← read16 buf 38
  let geometry ← readGeometry buf
  let limitsFormat ← read16 buf 88
  let limits ← readLimits buf
  let activeWalSlot ← read32 buf 128
  let walGeneration0 ← read64 buf 132
  let walGeneration1 ← read64 buf 140
  let safeCheckpointSequence ← read64 buf 148
  let nextTableGeneration ← read64 buf 156
  let encodedActiveTableCount ← read32 buf 164
  let activeTableBank ← read32 buf 168
  let activeValueBank ← read32 buf 172
  let valueBankGeneration0 ← read64 buf 176
  let valueBankGeneration1 ← read64 buf 184
  let valueBankTail0 ← read32 buf 192
  let valueBankTail1 ← read32 buf 196
  let checksum ← read32 buf manifestRecordChecksumOffset
  let (tables, totals) ← decodeTables buf geometry activeTableBank safeCheckpointSequence
    maxTableCount
  let r : ManifestRecord :=
    { generation := decoded.generation
      databaseId := databaseId
      state := state
      geometry := geometry
      limits := limits
      activeWalSlot := activeWalSlot
      walGeneration := pair walGeneration0 walGeneration1
      safeCheckpointSequence := safeCheckpointSequence
      nextTableGeneration := nextTableGeneration
      activeTableBank := activeTableBank
      activeValueBank := activeValueBank
      valueBankGeneration := pair valueBankGeneration0 valueBankGeneration1
      valueBankTail := pair valueBankTail0 valueBankTail1
      tables := tables }
  reject (databaseId = 0 ∨ geometryFormat ≠ geometryRevision ∨
    limitsFormat ≠ logicalLimitsRevision) .corrupt
  let zero ← isZeroRange buf 90 2
  reject (zero = false) .corrupt
  let zero ← isZeroRange buf 200 24
  reject (zero = false) .corrupt
  let zero ← isZeroRange buf (tableReferenceOffset maxTableCount)
    (manifestRecordChecksumOffset - tableReferenceOffset maxTableCount)
  reject (zero = false) .corrupt
  reject (r.acceptable inlineValueLen totals encodedActiveTableCount = false) .corrupt
  let crc ← readRecordCrc buf manifestRecordSize manifestRecordChecksumOffset
  reject (checksum ≠ crc) .corrupt
  return r

end Durable

end On9kvdb
