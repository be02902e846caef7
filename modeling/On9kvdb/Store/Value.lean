import On9kvdb.Store.Manifest

/-!
# External values

An external value is a run of 4096-byte chunks in a value bank.  `checkValueChunk` is the test
every consumer of a chunk makes; `copyExternalValueUnsafe` moves a value to the other bank during
compaction, verifying each chunk and the whole-value checksum on the way.
-/

namespace On9kvdb

variable (cfg : Config)

/-- The payload size of chunk `index` of a value. -/
def expectedPayload (r : ValueRef) (index : ℕ) : ℕ :=
  min (r.valueSize - index * valueChunkPayloadSize) valueChunkPayloadSize

/-- The validation of one chunk by its readers: it must be chunk `index` of exactly this value.
Returns the chunk. -/
def checkValueChunk (manifest : ManifestRecord) (r : ValueRef) (index : ℕ)
    (cell : Cell ValueChunk) : Except EspErr ValueChunk :=
  match cell with
  | .error status => .error (if status.isVersion then .invalidVersion else .invalidCrc)
  | .ok chunk =>
      if chunk.databaseId ≠ manifest.databaseId ∨ chunk.bankGeneration ≠ r.bankGeneration ∨
          chunk.firstChunkOffset ≠ r.firstChunkOffset ∨ chunk.valueSize ≠ r.valueSize ∨
          chunk.valueOffset ≠ index * valueChunkPayloadSize ∨
          chunk.payload.length ≠ expectedPayload r index ∨
          chunk.final ≠ (index + 1 == chunkCount r.valueSize) then
        .error .invalidCrc
      else .ok chunk

/-- The offset of chunk `index` of a value. -/
def ValueRef.chunkOffset (r : ValueRef) (index : ℕ) : ℕ :=
  r.firstChunkOffset + index * valueChunkSize

/-- The success test of `encode_value_chunk`. -/
def encodeValueChunk (databaseId bankGeneration firstChunkOffset valueSize valueOffset : ℕ)
    (payload : Bytes) : Option ValueChunk :=
  if h : (databaseId != 0 && bankGeneration != 0 && identityRegionSize ≤ firstChunkOffset &&
      firstChunkOffset % valueChunkSize == 0 && valueSize != 0 && valueSize ≤ maxValueLen &&
      valueOffset < valueSize && payload.length != 0 &&
      payload.length ≤ valueChunkPayloadSize && payload.length ≤ valueSize - valueOffset) = true
  then some ⟨databaseId, bankGeneration, firstChunkOffset, valueSize, valueOffset, payload, h⟩
  else none

/-! ## Copying -/

/-- The chunk loop of `copy_external_value_unsafe`: `remaining` more chunks, from `index`; the
result is the rolling checksum. -/
def copyValueChunks (source destination : ValueRef) :
    (remaining index : ℕ) → (checksumState : UInt32) → DbM UInt32
  | 0, _, checksumState => pure checksumState
  | remaining + 1, index, checksumState => do
      let input ← readStorage fun db m =>
        checkValueChunk db.manifest source index
          (m.valueChunk source.bankSlot (source.chunkOffset index))
      match encodeValueChunk input.databaseId destination.bankGeneration
          destination.firstChunkOffset input.valueSize input.valueOffset input.payload with
      | none => throw .invalidState
      | some output =>
          writeStorage
            (.valueChunk destination.bankSlot (destination.chunkOffset index) output)
          copyValueChunks source destination remaining (index + 1)
            (calcCrc32Update checksumState input.payload)

/-- `copy_external_value_unsafe`: the descriptor of the copy and the destination tail behind
it. -/
def copyExternalValueUnsafe (source : ValueRef) (destinationBank destinationGeneration
    destinationTail : ℕ) : DbM (ValueRef × ℕ) := do
  failIf (valueRefIsValid source cfg.geometry.valueBankSize = false ∨
    valueBankCount ≤ destinationBank ∨ destinationGeneration = 0 ∨
    source.bankSlot = destinationBank ∨ destinationTail < identityRegionSize ∨
    cfg.geometry.valueBankSize - valueChunkSize < destinationTail ∨
    destinationTail % valueChunkSize ≠ 0) .invalidArg
  let count := chunkCount source.valueSize
  failIf (cfg.geometry.valueBankSize - destinationTail < count * valueChunkSize) .noMem
  let destination : ValueRef :=
    { source with
      bankSlot := destinationBank
      bankGeneration := destinationGeneration
      firstChunkOffset := destinationTail }
  let checksumState ← copyValueChunks source destination count 0 crcInit
  failIf (~~~ checksumState ≠ source.valueChecksum) .invalidCrc
  return (destination, destinationTail + count * valueChunkSize)

/-! ## Reading a whole value -/

/-- The chunk loop of a complete ordered read: the bytes of `remaining` chunks from `index`. -/
def readValueChunks (manifest : ManifestRecord) (m : Media) (r : ValueRef) :
    (remaining index : ℕ) → Except EspErr Bytes
  | 0, _ => .ok []
  | remaining + 1, index => do
      let chunk ← checkValueChunk manifest r index (m.valueChunk r.bankSlot (r.chunkOffset index))
      let rest ← readValueChunks manifest m r remaining (index + 1)
      return chunk.payload ++ rest

/-- What a fresh reader of the value delivers when it is read from the first byte to the last:
`open_value_unsafe`, then `read_value_into` to the end. -/
def readValueUnsafe (db : Db) (m : Media) (view : ValueView) : Except EspErr Bytes :=
  match view.value with
  | .tombstone => .error .notFound
  | .inline bytes => .ok bytes
  | .external r =>
      if matchesActiveBank cfg db.manifest r = false then .error .invalidCrc
      else do
        let bytes ← readValueChunks db.manifest m r (chunkCount r.valueSize) 0
        rejectIf (calcCrc32 bytes ≠ r.valueChecksum) .invalidCrc
        return bytes

end On9kvdb
