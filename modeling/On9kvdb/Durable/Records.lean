import On9kvdb.Durable.Fields
import On9kvdb.Format.Records

/-!
# The record codecs, byte by byte

`encode_X` and `decode_X` of `on9kvdb_format.cpp` for the records other than the manifest: file
prefix, file identity, WAL header, WAL frame, table metadata, the headers of data and index blocks,
and value chunks.  An encoder is handed a buffer and returns what the buffer then holds, or nothing
where the source returns `false`; a decoder reads a buffer of `buf_len` bytes.  Pointers are not
null.

Where encoder and decoder state the same conditions on a header, these are one predicate of it.
-/

namespace On9kvdb

namespace Durable

open Decode Patch

/-! ## File prefix -/

/-- `file_kind`. -/
inductive FileKind
  | invalid
  | manifest
  | wal
  | table
  | valueBank
  deriving DecidableEq

/-- The number of a kind. -/
def FileKind.code : FileKind → UInt16
  | invalid => 0
  | manifest => 1
  | wal => 2
  | table => 3
  | valueBank => 4

/-- `magic_for_kind`: `"KVM9"`, `"KVW9"`, `"KVT9"` and `"KBV9"`. -/
def magicForKind : FileKind → UInt32
  | .manifest => 0x394d564b
  | .wal => 0x3957564b
  | .table => 0x3954564b
  | .valueBank => 0x3956424b
  | .invalid => 0

def storageRevision : UInt16 := 7
def filePrefixSize : ℕ := 28
def filePrefixChecksumOffset : ℕ := 24

/-- `decoded_file_prefix`. -/
structure DecodedFilePrefix where
  magic : UInt32
  revision : UInt16
  kind : FileKind
  flags : UInt16
  generation : UInt64
  payloadSize : UInt32
  checksum : UInt32
  deriving DecidableEq

/-- The fields in front of the prefix's checksum. -/
def filePrefixFields (magic : UInt32) (kind : FileKind) (flags : UInt16) (generation : UInt64)
    (payloadSize : UInt32) : List (ℕ × Bytes) :=
  [(0, le32 magic), (4, le16 storageRevision), (6, le16 (UInt16.ofNat filePrefixSize)),
    (8, le16 kind.code), (10, le16 flags), (12, le64 generation), (20, le32 payloadSize)]

/-- `encode_file_prefix`. -/
def encodeFilePrefix (buf : Bytes) (magic : UInt32) (kind : FileKind) (flags : UInt16)
    (generation : UInt64) (payloadSize : UInt32) : Option Bytes := do
  guard (filePrefixSize ≤ buf.length ∧ magic ≠ 0 ∧ kind ≠ .invalid ∧ generation ≠ 0)
  let buf ← writeAll (clear buf 0 filePrefixSize)
    (filePrefixFields magic kind flags generation payloadSize)
  sealRecord buf filePrefixSize filePrefixChecksumOffset

/-- `decode_file_prefix`; its checksum covers the prefix alone. -/
def decodeFilePrefix (buf : Bytes) (expectedMagic : UInt32) (expectedKind : FileKind) :
    Decode DecodedFilePrefix := do
  reject (expectedMagic = 0 ∨ expectedKind = .invalid) .invalidArgument
  reject (buf.length < filePrefixSize) .invalidSize
  let magic ← read32 buf 0
  let revision ← read16 buf 4
  let size ← read16 buf 6
  let kindRaw ← read16 buf 8
  let flags ← read16 buf 10
  let generation ← read64 buf 12
  let payloadSize ← read32 buf 20
  let checksum ← read32 buf filePrefixChecksumOffset
  let crc ← readRecordCrc buf filePrefixSize filePrefixChecksumOffset
  reject (checksum ≠ crc) .corrupt
  reject (magic ≠ expectedMagic) .invalidMagic
  reject (storageRevision < revision) .newVersion
  reject (revision ≠ storageRevision) .invalidRevision
  reject (size ≠ UInt16.ofNat filePrefixSize) .invalidSize
  reject (kindRaw ≠ expectedKind.code) .invalidKind
  reject (generation = 0) .invalidGeneration
  return ⟨magic, revision, expectedKind, flags, generation, payloadSize, checksum⟩

/-! ## File identity -/

def fileIdentitySize : ℕ := 56
def fileIdentityChecksumOffset : ℕ := 52
def filePrefixFlagIdentity : UInt16 := 1

/-- `file_identity`. -/
structure FileIdentity where
  generation : UInt64
  databaseId : UInt64
  fileSize : UInt64
  slot : UInt32
  kind : FileKind
  deriving DecidableEq

/-- The conditions on the fields that have a range. -/
def FileIdentity.ranged (databaseId fileSize : UInt64) : Bool :=
  databaseId != 0 && identityRegionSize < fileSize.toNat &&
  fileSize.toNat ≤ maxStorageObjectSize && fileSize.toNat % formatAlignment == 0

/-- `encode_file_identity`. -/
def encodeFileIdentity (buf : Bytes) (identity : FileIdentity) : Option Bytes := do
  let magic := magicForKind identity.kind
  guard (fileIdentitySize ≤ buf.length ∧ magic ≠ 0 ∧ identity.kind ≠ .manifest ∧
    identity.generation ≠ 0 ∧ FileIdentity.ranged identity.databaseId identity.fileSize)
  let buf ← encodeFilePrefix (clear buf 0 fileIdentitySize) magic identity.kind
    filePrefixFlagIdentity identity.generation (UInt32.ofNat (fileIdentitySize - filePrefixSize))
  let buf ← writeAll buf
    [(28, le64 identity.databaseId), (36, le64 identity.fileSize), (44, le32 identity.slot)]
  sealRecord buf fileIdentitySize fileIdentityChecksumOffset

/-- `decode_file_identity`. -/
def decodeFileIdentity (buf : Bytes) (expectedKind : FileKind) : Decode FileIdentity := do
  let magic := magicForKind expectedKind
  reject (magic = 0 ∨ expectedKind = .manifest) .invalidArgument
  reject (buf.length < fileIdentitySize) .invalidSize
  let decoded ← decodeFilePrefix buf magic expectedKind
  reject (decoded.flags ≠ filePrefixFlagIdentity ∨
    decoded.payloadSize ≠ UInt32.ofNat (fileIdentitySize - filePrefixSize)) .corrupt
  let databaseId ← read64 buf 28
  let fileSize ← read64 buf 36
  let slot ← read32 buf 44
  let checksum ← read32 buf fileIdentityChecksumOffset
  reject (FileIdentity.ranged databaseId fileSize = false) .corrupt
  let zero ← isZeroRange buf 48 4
  reject (zero = false) .corrupt
  let crc ← readRecordCrc buf fileIdentitySize fileIdentityChecksumOffset
  reject (checksum ≠ crc) .corrupt
  return ⟨decoded.generation, databaseId, fileSize, slot, expectedKind⟩

/-! ## WAL header -/

def walHeaderMagic : UInt32 := 0x3948574b
def walHeaderRevision : UInt16 := 1
def walHeaderSize : ℕ := 64
def walHeaderChecksumOffset : ℕ := 60
def walHeaderStateActive : UInt16 := 0x7101

/-- `wal_header`. -/
structure WalHeader where
  databaseId : UInt64
  generation : UInt64
  firstTransactionSequence : UInt64
  slot : UInt32
  recordRegionStart : UInt32
  recordRegionEnd : UInt32
  frameSize : UInt32
  state : UInt16
  deriving DecidableEq

/-- The conditions encoder and decoder state. -/
def WalHeader.valid (header : WalHeader) : Bool :=
  header.databaseId != 0 && header.generation != 0 && header.firstTransactionSequence != 0 &&
  header.slot.toNat < walFileCount && header.state == walHeaderStateActive &&
  header.recordRegionStart.toNat == walRecordRegionOffset &&
  header.recordRegionStart < header.recordRegionEnd &&
  header.recordRegionEnd.toNat % walFrameSize == 0 && header.frameSize.toNat == walFrameSize

/-- `encode_wal_header`. -/
def encodeWalHeader (buf : Bytes) (header : WalHeader) : Option Bytes := do
  guard (walHeaderSize ≤ buf.length ∧ header.valid)
  let buf ← writeAll (clear buf 0 walHeaderSize)
    [(0, le32 walHeaderMagic), (4, le16 walHeaderRevision), (6, le16 (UInt16.ofNat walHeaderSize)),
      (8, le64 header.databaseId), (16, le32 header.slot), (20, le16 header.state),
      (24, le64 header.generation), (32, le32 header.recordRegionStart),
      (36, le32 header.recordRegionEnd), (40, le32 header.frameSize),
      (48, le64 header.firstTransactionSequence)]
  sealRecord buf walHeaderSize walHeaderChecksumOffset

/-- `decode_wal_header`. -/
def decodeWalHeader (buf : Bytes) : Decode WalHeader := do
  reject (buf.length < walHeaderSize) .invalidSize
  let magic ← read32 buf 0
  let revision ← read16 buf 4
  let size ← read16 buf 6
  let databaseId ← read64 buf 8
  let slot ← read32 buf 16
  let state ← read16 buf 20
  let reserved16 ← read16 buf 22
  let generation ← read64 buf 24
  let recordRegionStart ← read32 buf 32
  let recordRegionEnd ← read32 buf 36
  let frameSize ← read32 buf 40
  let _reserved32 ← read32 buf 44
  let firstTransactionSequence ← read64 buf 48
  let _reserved32 ← read32 buf 56
  let checksum ← read32 buf walHeaderChecksumOffset
  let crc ← readRecordCrc buf walHeaderSize walHeaderChecksumOffset
  reject (checksum ≠ crc) .corrupt
  reject (magic ≠ walHeaderMagic) .invalidMagic
  reject (walHeaderRevision < revision) .newVersion
  reject (revision ≠ walHeaderRevision) .invalidRevision
  reject (size ≠ UInt16.ofNat walHeaderSize) .invalidSize
  let header : WalHeader :=
    ⟨databaseId, generation, firstTransactionSequence, slot, recordRegionStart, recordRegionEnd,
      frameSize, state⟩
  reject (header.valid = false ∨ reserved16 ≠ 0) .corrupt
  let zero ← isZeroRange buf 44 4
  reject (zero = false) .corrupt
  let zero ← isZeroRange buf 56 4
  reject (zero = false) .corrupt
  return header

/-! ## WAL frame -/

def walFrameMagic : UInt32 := 0x3946574b
def walFrameRevision : UInt16 := 1
def walFrameChecksumOffset : ℕ := 60
def walFrameFlagCommit : UInt16 := 1

/-- `wal_frame_header`, less the payload's checksum, which is computed. -/
structure WalFrameHeader where
  databaseId : UInt64
  walGeneration : UInt64
  transactionSequence : UInt64
  frameIndex : UInt16
  frameCount : UInt16
  mutationCount : UInt16
  flags : UInt16
  payloadSize : UInt32
  transactionPayloadSize : UInt32
  transactionChecksum : UInt32
  deriving DecidableEq

/-- `final_frame`. -/
def WalFrameHeader.final (header : WalFrameHeader) : Bool :=
  0 < header.frameCount.toNat && header.frameIndex.toNat + 1 == header.frameCount.toNat

/-- The conditions encoder and decoder state. -/
def WalFrameHeader.valid (header : WalFrameHeader) : Bool :=
  header.databaseId != 0 && header.walGeneration != 0 && header.transactionSequence != 0 &&
  header.frameCount != 0 && header.frameIndex < header.frameCount && header.mutationCount != 0 &&
  header.mutationCount.toNat ≤ maxTransactionMutations && header.transactionPayloadSize != 0 &&
  header.payloadSize ≤ header.transactionPayloadSize &&
  header.flags &&& ~~~ walFrameFlagCommit == 0 &&
  header.final == (header.flags &&& walFrameFlagCommit != 0)

/-- `encode_wal_frame`. -/
def encodeWalFrame (frame : Bytes) (header : WalFrameHeader) (payload : Bytes) : Option Bytes := do
  guard (walFrameSize ≤ frame.length ∧ payload.length = header.payloadSize.toNat ∧
    payload.length ≤ walFramePayloadCapacity ∧ header.valid)
  let frame ← writeAll (clear frame 0 walFrameSize)
    [(0, le32 walFrameMagic), (4, le16 walFrameRevision),
      (6, le16 (UInt16.ofNat walFrameHeaderSize)), (8, le64 header.databaseId),
      (16, le64 header.walGeneration), (24, le64 header.transactionSequence),
      (32, le16 header.frameIndex), (34, le16 header.frameCount), (36, le16 header.mutationCount),
      (38, le16 header.flags), (40, le32 header.payloadSize),
      (44, le32 header.transactionPayloadSize), (48, le32 header.transactionChecksum),
      (walFrameHeaderSize, payload), (52, le32 (calcCrc32 payload))]
  sealRecord frame walFrameSize walFrameChecksumOffset

/-- `decode_wal_frame`: the header of the payload at `frame + wal_frame_header_size`. -/
def decodeWalFrame (frame : Bytes) : Decode WalFrameHeader := do
  reject (frame.length < walFrameSize) .invalidSize
  let magic ← read32 frame 0
  let revision ← read16 frame 4
  let headerSize ← read16 frame 6
  let databaseId ← read64 frame 8
  let walGeneration ← read64 frame 16
  let transactionSequence ← read64 frame 24
  let frameIndex ← read16 frame 32
  let frameCount ← read16 frame 34
  let mutationCount ← read16 frame 36
  let flags ← read16 frame 38
  let payloadSize ← read32 frame 40
  let transactionPayloadSize ← read32 frame 44
  let transactionChecksum ← read32 frame 48
  let payloadChecksum ← read32 frame 52
  let reserved ← read32 frame 56
  let frameChecksum ← read32 frame walFrameChecksumOffset
  let crc ← readRecordCrc frame walFrameSize walFrameChecksumOffset
  reject (frameChecksum ≠ crc) .corrupt
  reject (magic ≠ walFrameMagic) .invalidMagic
  reject (walFrameRevision < revision) .newVersion
  reject (revision ≠ walFrameRevision) .invalidRevision
  reject (headerSize ≠ UInt16.ofNat walFrameHeaderSize ∨
    walFramePayloadCapacity < payloadSize.toNat) .invalidSize
  let header : WalFrameHeader :=
    ⟨databaseId, walGeneration, transactionSequence, frameIndex, frameCount, mutationCount, flags,
      payloadSize, transactionPayloadSize, transactionChecksum⟩
  reject (header.valid = false ∨ reserved ≠ 0) .corrupt
  let zero ← isZeroRange frame (walFrameHeaderSize + payloadSize.toNat)
    (walFramePayloadCapacity - payloadSize.toNat)
  reject (zero = false) .corrupt
  let crc ← readCrc frame walFrameHeaderSize payloadSize.toNat
  reject (payloadChecksum ≠ crc) .corrupt
  return header

/-! ## Table metadata -/

def tableHeaderMagic : UInt32 := 0x3948544b
def tableFooterMagic : UInt32 := 0x3946544b
def tableMetadataSize : ℕ := 640
def tableMetadataChecksumOffset : ℕ := 636

/-- `revision_for_table_metadata_magic`. -/
def revisionForTableMetadataMagic (magic : UInt32) : UInt16 :=
  if magic = tableHeaderMagic then 1 else if magic = tableFooterMagic then 1 else 0

/-- `table_metadata`; a key's sizes are those of its names. -/
structure TableMetadata where
  databaseId : UInt64
  generation : UInt64
  minSequence : UInt64
  maxSequence : UInt64
  slot : UInt32
  blockSize : UInt32
  dataRegionStart : UInt32
  dataBlockCount : UInt32
  indexOffset : UInt32
  footerOffset : UInt32
  entryCount : UInt32
  dataBytes : UInt32
  contentChecksum : UInt32
  level : UInt8
  minKey : CompositeKey
  maxKey : CompositeKey
  deriving DecidableEq

namespace TableMetadata

/-- The fields as numbers. -/
def toRecord (m : TableMetadata) : On9kvdb.TableMetadata where
  databaseId := m.databaseId.toNat
  generation := m.generation.toNat
  minSequence := m.minSequence.toNat
  maxSequence := m.maxSequence.toNat
  slot := m.slot.toNat
  blockSize := m.blockSize.toNat
  dataRegionStart := m.dataRegionStart.toNat
  dataBlockCount := m.dataBlockCount.toNat
  indexOffset := m.indexOffset.toNat
  footerOffset := m.footerOffset.toNat
  entryCount := m.entryCount.toNat
  dataBytes := m.dataBytes.toNat
  contentChecksum := m.contentChecksum
  minKey := m.minKey
  maxKey := m.maxKey

/-- `valid_table_metadata`: products and sums of 32-bit fields do not overflow 64 bits. -/
def valid (m : TableMetadata) : Bool := m.level == 0 && validTableMetadata m.toRecord

end TableMetadata

/-- `encode_table_metadata`. -/
def encodeTableMetadata (buf : Bytes) (magic : UInt32) (m : TableMetadata) : Option Bytes := do
  let revision := revisionForTableMetadataMagic magic
  guard (tableMetadataSize ≤ buf.length ∧ revision ≠ 0 ∧ m.valid)
  let buf ← writeAll (clear buf 0 tableMetadataSize)
    [(0, le32 magic), (4, le16 revision), (6, le16 (UInt16.ofNat tableMetadataSize)),
      (8, le64 m.databaseId), (16, le64 m.generation), (24, le32 m.slot),
      (28, le16 m.level.toUInt16), (32, le32 m.blockSize), (36, le32 m.dataRegionStart),
      (40, le32 m.dataBlockCount), (44, le32 m.indexOffset), (48, le32 m.footerOffset),
      (52, le32 m.entryCount), (56, le32 m.dataBytes), (60, le32 m.contentChecksum),
      (64, le64 m.minSequence), (72, le64 m.maxSequence),
      (80, le16 (UInt16.ofNat m.minKey.namespaceName.length)),
      (82, le16 (UInt16.ofNat m.minKey.key.length)),
      (84, le16 (UInt16.ofNat m.maxKey.namespaceName.length)),
      (86, le16 (UInt16.ofNat m.maxKey.key.length)), (88, m.minKey.namespaceName),
      (216, m.minKey.key), (344, m.maxKey.namespaceName), (472, m.maxKey.key)]
  sealRecord buf tableMetadataSize tableMetadataChecksumOffset

/-- A name of the metadata: `size` bytes of the 128 at `offset`. -/
def readName (buf : Bytes) (offset : ℕ) (size : UInt16) : Decode Bytes :=
  bytesAt buf offset size.toNat

/-- The rest of a name's 128 bytes is zero. -/
def nameIsPadded (buf : Bytes) (offset : ℕ) (size : UInt16) : Decode Bool :=
  isZeroRange buf (offset + size.toNat) (maxNameLen - size.toNat)

/-- `namespace_size` and `key_size` are those of names. -/
def nameSizeValid (size : UInt16) : Bool := size != 0 && size.toNat ≤ maxNameLen

/-- `decode_table_metadata`. -/
def decodeTableMetadata (buf : Bytes) (expectedMagic : UInt32) : Decode TableMetadata := do
  let expectedRevision := revisionForTableMetadataMagic expectedMagic
  reject (expectedRevision = 0) .invalidArgument
  reject (buf.length < tableMetadataSize) .invalidSize
  let magic ← read32 buf 0
  let revision ← read16 buf 4
  let size ← read16 buf 6
  let databaseId ← read64 buf 8
  let generation ← read64 buf 16
  let slot ← read32 buf 24
  let level ← read16 buf 28
  let blockSize ← read32 buf 32
  let dataRegionStart ← read32 buf 36
  let dataBlockCount ← read32 buf 40
  let indexOffset ← read32 buf 44
  let footerOffset ← read32 buf 48
  let entryCount ← read32 buf 52
  let dataBytes ← read32 buf 56
  let contentChecksum ← read32 buf 60
  let minSequence ← read64 buf 64
  let maxSequence ← read64 buf 72
  let minNamespaceSize ← read16 buf 80
  let minKeySize ← read16 buf 82
  let maxNamespaceSize ← read16 buf 84
  let maxKeySize ← read16 buf 86
  let checksum ← read32 buf tableMetadataChecksumOffset
  let crc ← readRecordCrc buf tableMetadataSize tableMetadataChecksumOffset
  reject (checksum ≠ crc) .corrupt
  reject (magic ≠ expectedMagic) .invalidMagic
  reject (expectedRevision < revision) .newVersion
  reject (revision ≠ expectedRevision) .invalidRevision
  reject (size ≠ UInt16.ofNat tableMetadataSize) .invalidSize
  reject (255 < level ∨ nameSizeValid minNamespaceSize = false ∨ nameSizeValid minKeySize = false ∨
    nameSizeValid maxNamespaceSize = false ∨ nameSizeValid maxKeySize = false) .corrupt
  let zero ← isZeroRange buf 30 2
  reject (zero = false) .corrupt
  let zero ← isZeroRange buf 600 36
  reject (zero = false) .corrupt
  let minNamespaceName ← readName buf 88 minNamespaceSize
  let minKey ← readName buf 216 minKeySize
  let maxNamespaceName ← readName buf 344 maxNamespaceSize
  let maxKey ← readName buf 472 maxKeySize
  let zero ← nameIsPadded buf 88 minNamespaceSize
  reject (zero = false) .corrupt
  let zero ← nameIsPadded buf 216 minKeySize
  reject (zero = false) .corrupt
  let zero ← nameIsPadded buf 344 maxNamespaceSize
  reject (zero = false) .corrupt
  let zero ← nameIsPadded buf 472 maxKeySize
  reject (zero = false) .corrupt
  let m : TableMetadata :=
    ⟨databaseId, generation, minSequence, maxSequence, slot, blockSize, dataRegionStart,
      dataBlockCount, indexOffset, footerOffset, entryCount, dataBytes, contentChecksum,
      level.toUInt8, ⟨minNamespaceName, minKey⟩, ⟨maxNamespaceName, maxKey⟩⟩
  reject (m.valid = false) .corrupt
  return m

/-! ## Table blocks -/

def tableBlockRevision : UInt16 := 1
def tableIndexRevision : UInt16 := 1
def tableBlockChecksumOffset : ℕ := 60
def tableIndexChecksumOffset : ℕ := 60

/-- `table_block_header`. -/
structure TableBlockHeader where
  generation : UInt64
  blockIndex : UInt32
  entryCount : UInt16
  payloadSize : UInt32
  deriving DecidableEq

/-- `encode_table_block_header`: the payload behind the header is in the block already. -/
def encodeTableBlockHeader (block : Bytes) (header : TableBlockHeader) : Option Bytes := do
  guard (tableBlockHeaderSize ≤ block.length ∧ header.generation ≠ 0 ∧ header.entryCount ≠ 0 ∧
    header.payloadSize ≠ 0 ∧ header.payloadSize.toNat ≤ block.length - tableBlockHeaderSize)
  let block ← writeAll (clear block 0 tableBlockHeaderSize)
    [(0, le32 (UInt32.ofNat tableBlockMagic)), (4, le16 tableBlockRevision),
      (6, le16 (UInt16.ofNat tableBlockHeaderSize)), (8, le64 header.generation),
      (16, le32 header.blockIndex), (20, le16 header.entryCount), (24, le32 header.payloadSize)]
  sealRecord block block.length tableBlockChecksumOffset

/-- `decode_table_block_header`. -/
def decodeTableBlockHeader (block : Bytes) : Decode TableBlockHeader := do
  reject (block.length < tableBlockHeaderSize) .invalidSize
  let magic ← read32 block 0
  let revision ← read16 block 4
  let size ← read16 block 6
  let generation ← read64 block 8
  let blockIndex ← read32 block 16
  let entryCount ← read16 block 20
  let reserved ← read16 block 22
  let payloadSize ← read32 block 24
  let checksum ← read32 block tableBlockChecksumOffset
  let crc ← readRecordCrc block block.length tableBlockChecksumOffset
  reject (checksum ≠ crc) .corrupt
  reject (magic ≠ UInt32.ofNat tableBlockMagic) .invalidMagic
  reject (tableBlockRevision < revision) .newVersion
  reject (revision ≠ tableBlockRevision) .invalidRevision
  reject (size ≠ UInt16.ofNat tableBlockHeaderSize ∨
    block.length - tableBlockHeaderSize < payloadSize.toNat) .invalidSize
  reject (generation = 0 ∨ entryCount = 0 ∨ payloadSize = 0 ∨ reserved ≠ 0) .corrupt
  let zero ← isZeroRange block 28 32
  reject (zero = false) .corrupt
  let zero ← isZeroRange block (tableBlockHeaderSize + payloadSize.toNat)
    (block.length - tableBlockHeaderSize - payloadSize.toNat)
  reject (zero = false) .corrupt
  return ⟨generation, blockIndex, entryCount, payloadSize⟩

/-- `table_index_header`. -/
structure TableIndexHeader where
  generation : UInt64
  entryCount : UInt32
  payloadSize : UInt32
  dataBlockCount : UInt32
  deriving DecidableEq

/-- `encode_table_index_header`. -/
def encodeTableIndexHeader (block : Bytes) (header : TableIndexHeader) : Option Bytes := do
  guard (tableIndexHeaderSize ≤ block.length ∧ header.generation ≠ 0 ∧ header.entryCount ≠ 0 ∧
    header.payloadSize ≠ 0 ∧ header.payloadSize.toNat ≤ block.length - tableIndexHeaderSize ∧
    header.dataBlockCount ≠ 0 ∧ header.entryCount = header.dataBlockCount)
  let block ← writeAll (clear block 0 tableIndexHeaderSize)
    [(0, le32 (UInt32.ofNat tableIndexMagic)), (4, le16 tableIndexRevision),
      (6, le16 (UInt16.ofNat tableIndexHeaderSize)), (8, le64 header.generation),
      (16, le32 header.entryCount), (20, le32 header.payloadSize),
      (24, le32 header.dataBlockCount)]
  sealRecord block block.length tableIndexChecksumOffset

/-- `decode_table_index_header`. -/
def decodeTableIndexHeader (block : Bytes) : Decode TableIndexHeader := do
  reject (block.length < tableIndexHeaderSize) .invalidSize
  let magic ← read32 block 0
  let revision ← read16 block 4
  let size ← read16 block 6
  let generation ← read64 block 8
  let entryCount ← read32 block 16
  let payloadSize ← read32 block 20
  let dataBlockCount ← read32 block 24
  let checksum ← read32 block tableIndexChecksumOffset
  let crc ← readRecordCrc block block.length tableIndexChecksumOffset
  reject (checksum ≠ crc) .corrupt
  reject (magic ≠ UInt32.ofNat tableIndexMagic) .invalidMagic
  reject (tableIndexRevision < revision) .newVersion
  reject (revision ≠ tableIndexRevision) .invalidRevision
  reject (size ≠ UInt16.ofNat tableIndexHeaderSize ∨
    block.length - tableIndexHeaderSize < payloadSize.toNat) .invalidSize
  reject (generation = 0 ∨ entryCount = 0 ∨ payloadSize = 0 ∨ dataBlockCount = 0 ∨
    entryCount ≠ dataBlockCount) .corrupt
  let zero ← isZeroRange block 28 32
  reject (zero = false) .corrupt
  let zero ← isZeroRange block (tableIndexHeaderSize + payloadSize.toNat)
    (block.length - tableIndexHeaderSize - payloadSize.toNat)
  reject (zero = false) .corrupt
  return ⟨generation, entryCount, payloadSize, dataBlockCount⟩

/-! ## Value chunk -/

def valueChunkMagic : UInt32 := 0x3956434b
def valueChunkRevision : UInt16 := 1
def valueChunkHeaderSize : ℕ := 64
def valueChunkChecksumOffset : ℕ := 60
def valueChunkFlagFinal : UInt16 := 1

/-- `value_chunk_header`, less the payload's checksum. -/
structure ValueChunkHeader where
  databaseId : UInt64
  bankGeneration : UInt64
  firstChunkOffset : UInt32
  valueSize : UInt32
  valueOffset : UInt32
  payloadSize : UInt16
  flags : UInt16
  deriving DecidableEq

/-- `final`. -/
def ValueChunkHeader.final (header : ValueChunkHeader) : Bool :=
  header.valueOffset ≤ header.valueSize &&
  header.payloadSize.toNat == header.valueSize.toNat - header.valueOffset.toNat

/-- The conditions encoder and decoder state. -/
def ValueChunkHeader.valid (header : ValueChunkHeader) : Bool :=
  header.databaseId != 0 && header.bankGeneration != 0 &&
  identityRegionSize ≤ header.firstChunkOffset.toNat &&
  header.firstChunkOffset.toNat % valueChunkSize == 0 && header.valueSize != 0 &&
  header.valueSize.toNat ≤ maxValueLen && header.valueOffset < header.valueSize &&
  header.payloadSize != 0 && header.payloadSize.toNat ≤ valueChunkPayloadSize &&
  header.payloadSize.toNat ≤ header.valueSize.toNat - header.valueOffset.toNat &&
  header.flags &&& ~~~ valueChunkFlagFinal == 0 &&
  header.final == (header.flags &&& valueChunkFlagFinal != 0)

/-- `encode_value_chunk`.  The payload, `payload_size` bytes, lies outside the chunk or in its place
behind the header; it is kept either way. -/
def encodeValueChunk (chunk : Bytes) (header : ValueChunkHeader) (payload : Bytes) :
    Option Bytes := do
  guard (valueChunkSize ≤ chunk.length ∧ payload.length = header.payloadSize.toNat ∧ header.valid)
  let chunk ← writeAll (clear chunk 0 valueChunkSize)
    [(0, le32 valueChunkMagic), (4, le16 valueChunkRevision),
      (6, le16 (UInt16.ofNat valueChunkHeaderSize)), (8, le64 header.databaseId),
      (16, le64 header.bankGeneration), (24, le32 header.firstChunkOffset),
      (28, le32 header.valueSize), (32, le32 header.valueOffset), (36, le16 header.payloadSize),
      (38, le16 header.flags), (valueChunkHeaderSize, payload), (40, le32 (calcCrc32 payload))]
  sealRecord chunk valueChunkSize valueChunkChecksumOffset

/-- `decode_value_chunk`: the header of the payload at `chunk + value_chunk_header_size`. -/
def decodeValueChunk (chunk : Bytes) : Decode ValueChunkHeader := do
  reject (chunk.length < valueChunkSize) .invalidSize
  let magic ← read32 chunk 0
  let revision ← read16 chunk 4
  let headerSize ← read16 chunk 6
  let databaseId ← read64 chunk 8
  let bankGeneration ← read64 chunk 16
  let firstChunkOffset ← read32 chunk 24
  let valueSize ← read32 chunk 28
  let valueOffset ← read32 chunk 32
  let payloadSize ← read16 chunk 36
  let flags ← read16 chunk 38
  let payloadChecksum ← read32 chunk 40
  let recordChecksum ← read32 chunk valueChunkChecksumOffset
  let crc ← readRecordCrc chunk valueChunkSize valueChunkChecksumOffset
  reject (recordChecksum ≠ crc) .corrupt
  reject (magic ≠ valueChunkMagic) .invalidMagic
  reject (valueChunkRevision < revision) .newVersion
  reject (revision ≠ valueChunkRevision) .invalidRevision
  let header : ValueChunkHeader :=
    ⟨databaseId, bankGeneration, firstChunkOffset, valueSize, valueOffset, payloadSize, flags⟩
  reject (headerSize ≠ UInt16.ofNat valueChunkHeaderSize ∨ header.valid = false) .corrupt
  let zero ← isZeroRange chunk 44 16
  reject (zero = false) .corrupt
  let zero ← isZeroRange chunk (valueChunkHeaderSize + payloadSize.toNat)
    (valueChunkPayloadSize - payloadSize.toNat)
  reject (zero = false) .corrupt
  let crc ← readCrc chunk valueChunkHeaderSize payloadSize.toNat
  reject (payloadChecksum ≠ crc) .corrupt
  return header

end Durable

end On9kvdb
