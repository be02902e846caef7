import On9kvdb.Store.Transaction

/-!
# Value readers and the value writer

Progressive access to one value.  A reader keeps one chunk in its buffer and, during an ordered
read from the first byte, a rolling checksum; the writer collects one chunk at a time and appends
it to the active value bank.  `beginValueWriteUnsafe` makes room by compaction when the bank is
full.
-/

namespace On9kvdb

variable (cfg : Config)

/-- The counter behind a token: it ends at 0 instead of wrapping. -/
def nextGeneration (generation : ℕ) : ℕ :=
  if generation = maxHandleGeneration then 0 else generation + 1

/-! ## Readers -/

/-- `get_value_reader_unsafe`. -/
def getValueReaderUnsafe (db : Db) (raw : ℕ) : Except EspErr ℕ :=
  match decodeHandleValue raw with
  | none => .error .invalidArg
  | some (index, generation) =>
      if cfg.maxValueReaders ≤ index ∨ (db.valueReaders index).used = false ∨
          (db.valueReaders index).generation ≠ generation then .error .invalidArg
      else .ok index

/-- Replaces one reader slot. -/
def setReader (index : ℕ) (r : ValueReaderSlot) : DbM Unit :=
  modifyDb fun db => { db with valueReaders := Function.update db.valueReaders index r }

/-- The slot a new reader of `view` starts with. -/
def newReader (generation : ℕ) (view : ValueView) : ValueReaderSlot where
  generation := generation
  valueSize := view.value.size
  buffer := view.value.inlineBytes
  externalValue := view.value.ref?
  used := true
  checksumEnabled := view.value.ref?.isSome

/-- `open_value_unsafe`. -/
def openValueUnsafe (view : ValueView) : DbM ℕ := do
  failIf (view.value.isTombstone = true) .notFound
  let db ← getDb
  failIf (valueInActiveBank cfg db.manifest view.value = false) .invalidCrc
  failIf (db.handleGenerationCounter = 0) .invalidState
  match (List.range cfg.maxValueReaders).find? fun index => !(db.valueReaders index).used with
  | none => throw .noMem
  | some index => do
      let generation := db.handleGenerationCounter
      modifyDb fun db => { db with handleGenerationCounter := nextGeneration generation }
      setReader index (newReader generation view)
      return makeHandleValue index generation

/-- Whether the cursor lies in the buffered window. -/
def ValueReaderSlot.buffered (r : ValueReaderSlot) : Bool :=
  r.bufferValueOffset ≤ r.cursor && r.cursor < r.bufferValueOffset + r.buffer.length

/-- What is left in the buffer when a call delivers no usable record: the window keeps its size
and loses its bytes. -/
def ValueReaderSlot.clobber (r : ValueReaderSlot) (scrap : Bytes) : ValueReaderSlot :=
  { r with buffer := (scrap ++ List.replicate r.buffer.length 0).take r.buffer.length }

/-- `fill_reader_buffer_unsafe`. -/
def fillReaderBufferUnsafe (index : ℕ) : DbM Unit := do
  let w ← get
  let r := w.db.valueReaders index
  match r.externalValue with
  | none => throw .invalidArg
  | some reference =>
      failIf (r.used = false ∨ r.valueSize ≤ r.cursor ∨
        valueRefIsValid reference w.db.manifest.geometry.valueBankSize = false) .invalidArg
      let chunk := r.cursor / valueChunkPayloadSize
      failIf (w.db.manifest.geometry.valueBankSize - valueChunkSize < reference.chunkOffset chunk)
        .invalidCrc
      let input ← onError
        (readStorage fun db m => checkValueChunk db.manifest reference chunk
          (m.valueChunk reference.bankSlot (reference.chunkOffset chunk)))
        (setReader index (r.clobber (w.dev.scrap w.dev.clock)))
      setReader index { r with
        buffer := input.payload.drop (r.cursor % valueChunkPayloadSize)
        bufferValueOffset := r.cursor }

/-- Refills the buffer unless the cursor already lies in it. -/
def ensureBuffered (index : ℕ) : DbM Unit := do
  let r := (← getDb).valueReaders index
  if r.buffered = false then
    if r.externalValue.isSome then fillReaderBufferUnsafe index else throw .invalidState

/-- The whole-value checksum test at the end of an ordered read. -/
def checkReaderEnd (index : ℕ) : DbM Unit := do
  let r := (← getDb).valueReaders index
  failIf (r.checksumEnabled = true ∧ r.cursor = r.valueSize ∧
    r.externalValue.any (fun v => ~~~ r.checksumState != v.valueChecksum) = true) .invalidCrc

/-- The buffered bytes from the cursor on. -/
def ValueReaderSlot.available (r : ValueReaderSlot) : Bytes :=
  r.buffer.drop (r.cursor - r.bufferValueOffset)

/-- The slot behind `part`, the next bytes of the value. -/
def ValueReaderSlot.advance (r : ValueReaderSlot) (part : Bytes) : ValueReaderSlot :=
  { r with
    checksumState := if r.externalValue.isSome ∧ r.checksumEnabled = true then
      calcCrc32Update r.checksumState part else r.checksumState
    cursor := r.cursor + part.length }

/-- `peek_value`, behind the lock: the buffered bytes at the cursor. -/
def peekValueUnsafe (index : ℕ) : DbM Bytes := do
  let r := (← getDb).valueReaders index
  if r.cursor < r.valueSize then
    ensureBuffered index
    return ((← getDb).valueReaders index).available
  else return []

/-- The copy loop of `read_value_into`: `wanted` more bytes in at most `fuel` parts. -/
def readValueLoop (index : ℕ) : (fuel wanted : ℕ) → DbM Bytes
  | 0, _ => pure []
  | fuel + 1, wanted => do
      let r := (← getDb).valueReaders index
      if wanted = 0 ∨ r.valueSize ≤ r.cursor then return []
      else
        ensureBuffered index
        let r := (← getDb).valueReaders index
        let part := r.available.take wanted
        setReader index (r.advance part)
        let rest ← readValueLoop index fuel (wanted - part.length)
        return part ++ rest

/-- `read_value_into`, behind the lock. -/
def readValueIntoUnsafe (index wanted : ℕ) : DbM Bytes := do
  let data ← readValueLoop index wanted wanted
  checkReaderEnd index
  return data

/-- The checksum loop of `consume_value`. -/
def consumeLoop (index : ℕ) : (fuel remaining : ℕ) → DbM Unit
  | 0, _ => pure ()
  | fuel + 1, remaining => do
      if remaining ≠ 0 then
        ensureBuffered index
        let r := (← getDb).valueReaders index
        let part := r.available.take remaining
        setReader index (r.advance part)
        consumeLoop index fuel (remaining - part.length)

/-- `consume_value`, behind the lock.  Without a checksum to maintain only the cursor moves. -/
def consumeValueUnsafe (index size : ℕ) : DbM Unit := do
  let r := (← getDb).valueReaders index
  failIf (r.valueSize - r.cursor < size) .invalidSize
  if r.externalValue.isSome ∧ r.checksumEnabled = true then consumeLoop index size size
  else setReader index { r with cursor := r.cursor + size }
  checkReaderEnd index

/-- `seek_value`, behind the lock. -/
def seekValueUnsafe (index offset : ℕ) : DbM Unit := do
  let r := (← getDb).valueReaders index
  failIf (r.valueSize < offset) .invalidSize
  let r :=
    if r.externalValue.isNone then r
    else if offset = 0 then { r with checksumState := crcInit, checksumEnabled := true }
    else if offset ≠ r.cursor then { r with checksumEnabled := false }
    else r
  setReader index { r with cursor := offset }

/-! ## The writer -/

/-- `get_value_writer_unsafe`. -/
def getValueWriterUnsafe (db : Db) (raw : ℕ) : Except EspErr Unit :=
  match decodeHandleValue raw with
  | none => .error .invalidArg
  | some (index, generation) =>
      if index ≠ 0 ∨ db.valueWriter.active = false ∨ db.valueWriter.generation ≠ generation then
        .error .invalidArg
      else .ok ()

def modifyWriter (f : ValueWriterSlot → ValueWriterSlot) : DbM Unit :=
  modifyDb fun db => { db with valueWriter := f db.valueWriter }

/-- `*value_writer = {}`, with the generation kept. -/
def resetWriter : DbM Unit := modifyWriter fun writer => { generation := writer.generation }

/-- Whether a stream of `size` bytes does not fit behind the tail of the active bank. -/
def valueBankFull (m : ManifestRecord) (size : ℕ) : Bool :=
  let tail := m.valueBankTail m.activeValueBank
  tail < identityRegionSize || m.geometry.valueBankSize < tail ||
    m.geometry.valueBankSize - tail < chunkCount size * valueChunkSize

/-- The slot of a writer for an external value, behind the tail of the active bank. -/
def externalWriter (m : ManifestRecord) (w : ValueWriterSlot) : ValueWriterSlot :=
  let bank := m.activeValueBank
  { w with
    nextChunkOffset := m.valueBankTail bank
    reference := { w.reference with
      bankSlot := bank
      bankGeneration := m.valueBankGeneration bank
      firstChunkOffset := m.valueBankTail bank } }

/-- Makes room for an external value: obsolete values are reclaimed before a writer is
refused. -/
def makeValueRoom (valueSize : ℕ) : DbM Unit := do
  let db ← getDb
  if cfg.inlineValueLen < valueSize ∧ valueBankFull db.manifest valueSize = true then
    compactTablesUnsafe cfg
    let db ← getDb
    failIf (valueBankFull db.manifest valueSize = true) .noMem

/-- `begin_value_write_unsafe`. -/
def beginValueWriteUnsafe (raw : ℕ) (key : Bytes) (valueSize : ℕ) : DbM ℕ := do
  failIf (validateBytes key = false ∨ maxValueLen < valueSize) .invalidArg
  let db ← getDb
  let _ ← liftResult (getTransactionUnsafe cfg db raw)
  failIf (db.valueWriter.active = true ∨ db.handleGenerationCounter = 0 ∨
    valueBankCount ≤ db.manifest.activeValueBank) .invalidState
  makeValueRoom cfg valueSize
  let db ← getDb
  let generation := db.handleGenerationCounter
  let writer : ValueWriterSlot :=
    { generation := generation
      transactionHandleRaw := raw
      expectedSize := valueSize
      key := key
      inlineValue := valueSize ≤ cfg.inlineValueLen
      reference := { ValueRef.blank with bankSlot := 0, valueSize := valueSize }
      active := true }
  modifyDb fun db => { db with
    handleGenerationCounter := nextGeneration generation
    valueWriter := if writer.inlineValue then writer else externalWriter db.manifest writer }
  return makeHandleValue 0 generation

/-- `flush_value_writer_chunk_unsafe`. -/
def flushValueWriterChunkUnsafe (finalChunk : Bool) : DbM Unit := do
  let db ← getDb
  let writer := db.valueWriter
  failIf (writer.active = false ∨ writer.chunkPayloadSize = 0 ∨
    db.manifest.geometry.valueBankSize - valueChunkSize < writer.nextChunkOffset ∨
    finalChunk ≠ (writer.writtenSize == writer.expectedSize)) .invalidState
  match encodeValueChunk db.manifest.databaseId writer.reference.bankGeneration
      writer.reference.firstChunkOffset writer.expectedSize
      (writer.writtenSize - writer.chunkPayloadSize)
      (writer.buffer.take writer.chunkPayloadSize) with
  | none => throw .invalidState
  | some chunk =>
      writeStorage (.valueChunk writer.reference.bankSlot writer.nextChunkOffset chunk)
      modifyWriter fun writer => { writer with
        nextChunkOffset := writer.nextChunkOffset + valueChunkSize
        chunkPayloadSize := 0
        buffer := [] }

/-- The writer behind `part`, the next bytes of the value. -/
def ValueWriterSlot.append (w : ValueWriterSlot) (part : Bytes) : ValueWriterSlot :=
  { w with
    checksumState := calcCrc32Update w.checksumState part
    chunkPayloadSize := if w.inlineValue then w.chunkPayloadSize
      else w.chunkPayloadSize + part.length
    writtenSize := w.writtenSize + part.length
    buffer := w.buffer ++ part }

/-- Writes the collected chunk when it is full or ends the value. -/
def flushCollectedChunk : DbM Unit := do
  let writer := (← getDb).valueWriter
  if writer.chunkPayloadSize = valueChunkPayloadSize ∨
      writer.writtenSize = writer.expectedSize then
    flushValueWriterChunkUnsafe (writer.writtenSize == writer.expectedSize)

/-- The loop of `write_value_unsafe`, in at most `fuel` parts. -/
def writeValueLoop : (fuel : ℕ) → (data : Bytes) → DbM Unit
  | 0, _ => pure ()
  | fuel + 1, data => do
      if data ≠ [] then
        let writer := (← getDb).valueWriter
        let part := data.take (valueChunkPayloadSize - writer.chunkPayloadSize)
        modifyWriter fun writer => writer.append part
        flushCollectedChunk
        writeValueLoop fuel (data.drop part.length)

/-- `write_value_unsafe`. -/
def writeValueUnsafe (data : Bytes) : DbM Unit := do
  let writer := (← getDb).valueWriter
  failIf (writer.active = false ∨ writer.expectedSize - writer.writtenSize < data.length)
    .invalidArg
  if writer.inlineValue then modifyWriter fun writer => writer.append data
  else writeValueLoop (data.length + 1) data

/-- The staging of a finished value. -/
def stageWriterValue (db : Db) : Except EspErr Db :=
  let writer := db.valueWriter
  if writer.inlineValue then
    stageValueUnsafe cfg db writer.transactionHandleRaw writer.key
      (.inline (writer.buffer.take writer.expectedSize))
  else
    stageExternalValueUnsafe cfg db writer.transactionHandleRaw writer.key
      { writer.reference with valueChecksum := ~~~ writer.checksumState }

/-- Reserves the range of a finished external value: the tail moves behind it and its bank has to
be synced before the next commit. -/
def publishWriterTail (db : Db) : Db :=
  let bank := db.valueWriter.reference.bankSlot
  { db with
    manifest := { db.manifest with
      valueBankTail :=
        Function.update db.manifest.valueBankTail bank db.valueWriter.nextChunkOffset }
    valueBankDirtyMask := db.valueBankDirtyMask ||| 2 ^ bank }

/-- `finish_value_write_unsafe`. -/
def finishValueWriteUnsafe : DbM Unit := do
  let db ← getDb
  let writer := db.valueWriter
  failIf (writer.active = false ∨ writer.writtenSize ≠ writer.expectedSize ∨
    writer.chunkPayloadSize ≠ 0) .invalidState
  onError
    (do
      let db ← liftResult (stageWriterValue cfg db)
      modifyDb fun _ => if writer.inlineValue then db else publishWriterTail db)
    resetWriter
  resetWriter

end On9kvdb
