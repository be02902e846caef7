import On9kvdb.Format.Records

/-!
# The bytes of table blocks

A table's `content_checksum` covers the encoded bytes of its data blocks and of its index block.
These are the encoders that produce those bytes; the model keeps blocks decoded everywhere else
and uses the bytes only under the checksum.
-/

namespace On9kvdb

/-- `table_block_magic` ("KTB9") and `table_index_magic` ("KTI9"). -/
def tableBlockMagic : ℕ := 0x3942544b
def tableIndexMagic : ℕ := 0x3949544b

/-- Pads a byte string with zeroes to `n` bytes. -/
def zeroPad (n : ℕ) (bytes : Bytes) : Bytes := bytes ++ List.replicate (n - bytes.length) 0

/-- The encoded descriptor of an external value. -/
def encodeValueRef (r : ValueRef) : Bytes :=
  UInt8.ofNat r.bankSlot :: List.replicate 3 0 ++ leBytes 8 r.bankGeneration ++
    leBytes 4 r.firstChunkOffset ++ leBytes 4 r.valueChecksum.toNat ++ List.replicate 4 0

/-- `table_entry_flag_tombstone` and `table_entry_flag_external_value`. -/
def StoredValue.flags : StoredValue → UInt8
  | tombstone => 1
  | inline _ => 0
  | external _ => 2

/-- The value bytes of a table entry. -/
def StoredValue.encoded : StoredValue → Bytes
  | tombstone => []
  | inline bytes => bytes
  | external ref => encodeValueRef ref

/-- The bytes of one entry; its own checksum sits at offset 20. -/
def TableEntry.bytes (e : TableEntry) : Bytes :=
  let names := e.key.namespaceName ++ e.key.key
  withRecordCrc
    (leBytes 4 e.totalSize ++ leBytes 4 e.value.size ++ leBytes 8 e.transactionSequence ++
      [UInt8.ofNat e.key.namespaceName.length, UInt8.ofNat e.key.key.length, 0, e.value.flags])
    (zeroPad (e.totalSize - tableEntryHeaderSize) (names ++ e.value.encoded))

/-- The bytes of a data block of `blockLen` bytes; the block checksum sits at offset 60. -/
def TableBlock.bytes (blockLen : ℕ) (b : TableBlock) : Bytes :=
  withRecordCrc
    (leBytes 4 tableBlockMagic ++ leBytes 2 1 ++ leBytes 2 tableBlockHeaderSize ++
      leBytes 8 b.generation ++ leBytes 4 b.blockIndex ++ leBytes 2 b.entries.length ++
      leBytes 2 0 ++ leBytes 4 (payloadBytes b.entries) ++ List.replicate 32 0)
    (zeroPad (blockLen - tableBlockHeaderSize) (b.entries.map TableEntry.bytes).flatten)

/-- The bytes of one index entry. -/
def TableIndexEntry.bytes (e : TableIndexEntry) : Bytes :=
  zeroPad e.totalSize
    (leBytes 2 e.totalSize ++
      [UInt8.ofNat e.key.namespaceName.length, UInt8.ofNat e.key.key.length] ++
      leBytes 4 e.blockOffset ++ leBytes 8 e.firstSequence ++ e.key.namespaceName ++ e.key.key)

/-- The bytes of an index block of `blockLen` bytes. -/
def TableIndex.bytes (blockLen : ℕ) (ix : TableIndex) : Bytes :=
  withRecordCrc
    (leBytes 4 tableIndexMagic ++ leBytes 2 1 ++ leBytes 2 tableIndexHeaderSize ++
      leBytes 8 ix.generation ++ leBytes 4 ix.entries.length ++
      leBytes 4 (indexPayloadBytes ix.entries) ++ leBytes 4 ix.entries.length ++
      List.replicate 32 0)
    (zeroPad (blockLen - tableIndexHeaderSize) (ix.entries.map TableIndexEntry.bytes).flatten)

end On9kvdb
