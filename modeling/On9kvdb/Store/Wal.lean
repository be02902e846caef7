import On9kvdb.Store.Transaction

/-!
# The write-ahead log

A WAL slot is a header, written twice, and a region of 4096-byte frames.  A transaction occupies
consecutive frames from the tail on; its frames are written in order and made durable by one
sync.  `appendTransactionUnsafe` makes room first when the active slot is full, by compaction or
by a flush, and then rotates to the other slot.
-/

namespace On9kvdb

variable (cfg : Config)

/-! ## Headers and rotation -/

/-- The success test of `encode_wal_header`. -/
def encodeWalHeader (databaseId generation firstTransactionSequence slot recordRegionEnd : ℕ) :
    Option WalHeader :=
  if h : (databaseId != 0 && generation != 0 && firstTransactionSequence != 0 &&
      slot < walFileCount && walRecordRegionOffset < recordRegionEnd &&
      recordRegionEnd % walFrameSize == 0) = true
  then some ⟨databaseId, generation, firstTransactionSequence, slot, recordRegionEnd, h⟩
  else none

/-- `ensure_wal_header`: both copies, made durable together. -/
def ensureWalHeader (slot generation firstTransactionSequence : ℕ) : DbM Unit := do
  failIf (walFileCount ≤ slot ∨ generation = 0 ∨ firstTransactionSequence = 0) .invalidArg
  let db ← getDb
  match encodeWalHeader db.manifest.databaseId generation firstTransactionSequence slot
      cfg.geometry.walSize with
  | none => throw .invalidState
  | some header =>
      writeStorage (.walHeader slot 0 header)
      writeStorage (.walHeader slot 1 header)
      syncStorage

/-- The condition under which `rotate_wal_unsafe` refuses. -/
def rotationBlocked (m : ManifestRecord) : Bool :=
  walFileCount ≤ m.activeWalSlot || m.walGeneration m.activeWalSlot == 0 ||
  m.walGeneration (1 - m.activeWalSlot) != 0 || m.walGeneration m.activeWalSlot == uint64Max ||
  uint64Max - 2 < m.generation

/-- `rotate_wal_unsafe`. -/
def rotateWalUnsafe : DbM Unit := do
  let db ← getDb
  let oldActive := db.manifest.activeWalSlot
  let newActive := 1 - oldActive
  failIf (rotationBlocked db.manifest = true) .noMem
  -- Both valid manifest copies must mark the target slot unreferenced before its header changes.
  stabilizeManifestUnsafe
  let newGeneration := db.manifest.walGeneration oldActive + 1
  ensureWalHeader cfg newActive newGeneration db.nextTransactionSequence
  modifyDb fun db => { db with
    manifest := { db.manifest with
      activeWalSlot := newActive
      walGeneration := Function.update db.manifest.walGeneration newActive newGeneration } }
  let db ← getDb
  onError (writeManifestCopy (db.manifest.generation + 1) .ready)
    (modifyDb fun db => { db with
      manifest := { db.manifest with
        activeWalSlot := oldActive
        walGeneration := Function.update db.manifest.walGeneration newActive 0 } })
  modifyDb fun db => { db with
    walTail := Function.update db.walTail newActive walRecordRegionOffset
    manifestStabilizationRequired := true }
  stabilizeManifestUnsafe

/-! ## Appending -/

/-- The checksum loop of `calculate_transaction_payload_unsafe`: windows of one frame payload
from `offset` on. -/
def checksumPayload (namespaceName : Bytes) (mutations : List Mutation) (payloadSize : ℕ) :
    (fuel offset : ℕ) → UInt32 → Except EspErr UInt32
  | 0, _, crc => .ok crc
  | fuel + 1, offset, crc =>
      if payloadSize ≤ offset then .ok crc
      else do
        let size := min (payloadSize - offset) walFramePayloadCapacity
        let window ← copyTransactionPayloadUnsafe namespaceName mutations offset size
        checksumPayload namespaceName mutations payloadSize fuel (offset + size)
          (calcCrc32Update crc window)

/-- The frames a payload of this size takes. -/
def frameCountOf (payloadSize : ℕ) : ℕ :=
  (payloadSize + walFramePayloadCapacity - 1) / walFramePayloadCapacity

/-- `calculate_transaction_payload_unsafe`: payload size and checksum. -/
def calculateTransactionPayloadUnsafe (namespaceName : Bytes) (mutations : List Mutation) :
    Except EspErr (ℕ × UInt32) := do
  rejectIf (mutations = [] ∨ cfg.limits.maxTransactionMutations < mutations.length) .invalidArg
  let payloadSize := transactionPayloadSize namespaceName mutations
  rejectIf (maxTransactionPayloadSize cfg < payloadSize ∨ uint32Max < payloadSize) .invalidSize
  let crc ← checksumPayload namespaceName mutations payloadSize (frameCountOf payloadSize) 0
    crcInit
  return (payloadSize, ~~~ crc)

/-- What all frames of one transaction share. -/
structure FrameGroup where
  databaseId : ℕ
  walGeneration : ℕ
  transactionSequence : ℕ
  frameCount : ℕ
  mutationCount : ℕ
  transactionPayloadSize : ℕ
  transactionChecksum : UInt32
  deriving DecidableEq

/-- The success test of `encode_wal_frame`. -/
def encodeWalFrame (g : FrameGroup) (frameIndex : ℕ) (payload : Bytes) : Option WalFrame :=
  if h : (g.databaseId != 0 && g.walGeneration != 0 && g.transactionSequence != 0 &&
      frameIndex < g.frameCount && g.mutationCount != 0 &&
      g.mutationCount ≤ maxTransactionMutations && g.transactionPayloadSize != 0 &&
      payload.length ≤ g.transactionPayloadSize &&
      payload.length ≤ walFramePayloadCapacity) = true
  then some
    { databaseId := g.databaseId
      walGeneration := g.walGeneration
      transactionSequence := g.transactionSequence
      frameIndex := frameIndex
      frameCount := g.frameCount
      mutationCount := g.mutationCount
      transactionPayloadSize := g.transactionPayloadSize
      transactionChecksum := g.transactionChecksum
      payload := payload
      valid := h }
  else none

/-- The frame loop of `append_transaction_unsafe`: `remaining` more frames, from `frameIndex`. -/
def writeFrames (namespaceName : Bytes) (mutations : List Mutation) (slot tail : ℕ)
    (g : FrameGroup) : (remaining frameIndex : ℕ) → DbM Unit
  | 0, _ => pure ()
  | remaining + 1, frameIndex => do
      let payloadOffset := frameIndex * walFramePayloadCapacity
      let size := min (g.transactionPayloadSize - payloadOffset) walFramePayloadCapacity
      let payload ← liftResult
        (copyTransactionPayloadUnsafe namespaceName mutations payloadOffset size)
      match encodeWalFrame g frameIndex payload with
      | none => throw .invalidState
      | some frame =>
          writeStorage (.walFrame slot (tail + frameIndex * walFrameSize) frame)
          writeFrames namespaceName mutations slot tail g remaining (frameIndex + 1)

/-- Whether the transaction does not fit the rest of the active slot. -/
def walSlotFull (db : Db) (transactionBytes : ℕ) : Bool :=
  cfg.geometry.walSize - db.walTail db.manifest.activeWalSlot < transactionBytes

/-- Empties the slot the log rotates to, or the memtable in front of it; tells whether staged
descriptors may have moved. -/
def releaseOlderLog : DbM Bool := do
  let db ← getDb
  if db.manifest.walGeneration (1 - db.manifest.activeWalSlot) ≠ 0 then do
    compactTablesUnsafe cfg
    return true
  else if 0 < db.memtable.entryCount then do
    -- A flush without a free table slot is a compaction and relocates descriptors too.
    flushMemtableUnsafe cfg
    return true
  else return false

/-- The room-making part of `append_transaction_unsafe`; tells whether staged descriptors may
have moved. -/
def makeWalRoom (transactionBytes : ℕ) : DbM Bool := do
  let db ← getDb
  if walSlotFull cfg db transactionBytes then
    let moved ← releaseOlderLog cfg
    rotateWalUnsafe cfg
    return moved
  else return false

/-- The checksum of the payload, recalculated when descriptors may have moved. -/
def refreshChecksum (namespaceName : Bytes) (moved : Bool) (payloadSize : ℕ)
    (checksum : UInt32) : DbM UInt32 := do
  if moved then
    let db ← getDb
    let (recalculated, checksum) ← liftResult
      (calculateTransactionPayloadUnsafe cfg namespaceName db.transaction.mutations)
    failIf (recalculated ≠ payloadSize) .invalidState
    return checksum
  else return checksum

/-- `append_transaction_unsafe`. -/
def appendTransactionUnsafe (namespaceName : Bytes) : DbM Unit := do
  let db ← getDb
  failIf (db.nextTransactionSequence = 0 ∨ db.nextTransactionSequence = uint64Max) .invalidState
  stabilizeManifestUnsafe
  let (payloadSize, checksum) ← liftResult
    (calculateTransactionPayloadUnsafe cfg namespaceName db.transaction.mutations)
  let frameCount := frameCountOf payloadSize
  let transactionBytes := frameCount * walFrameSize
  let moved ← makeWalRoom cfg transactionBytes
  let db ← getDb
  failIf (walSlotFull cfg db transactionBytes = true) .noMem
  let checksum ← refreshChecksum cfg namespaceName moved payloadSize checksum
  let slot := db.manifest.activeWalSlot
  writeFrames namespaceName db.transaction.mutations slot (db.walTail slot)
    { databaseId := db.manifest.databaseId
      walGeneration := db.manifest.walGeneration slot
      transactionSequence := db.nextTransactionSequence
      frameCount := frameCount
      mutationCount := db.transaction.mutations.length
      transactionPayloadSize := payloadSize
      transactionChecksum := checksum }
    frameCount 0
  syncStorage
  modifyDb fun db => { db with
    walTail := Function.update db.walTail slot (db.walTail slot + transactionBytes)
    stats := { db.stats with walBytesUsed := add64 db.stats.walBytesUsed transactionBytes } }

end On9kvdb
