import On9kvdb.Store.Wal

/-!
# Recovery

What `init` does on a ready database: select a manifest copy, validate and count the tables, and
replay the WAL suffix above the checkpoint into an empty memtable.  The scan decides from frame
validity, generation and sequence alone where the log ends; `findLaterWalFrameUnsafe` tells a tail
from damage.
-/

namespace On9kvdb

variable (cfg : Config)

/-! ## WAL headers -/

/-- One copy of a WAL header: nothing when it is damaged. -/
def readWalHeader (m : Media) (manifest : ManifestRecord) (slot expectedGeneration copySlot : ℕ) :
    Except EspErr (Option WalHeader) :=
  match m.walHeader slot copySlot with
  | .error status => if status.isVersion then .error .invalidVersion else .ok none
  | .ok candidate =>
      if candidate.databaseId ≠ manifest.databaseId ∨ candidate.slot ≠ slot ∨
          candidate.generation ≠ expectedGeneration ∨
          candidate.recordRegionEnd ≠ cfg.geometry.walSize then .error .invalidCrc
      else .ok (some candidate)

/-- `load_wal_header`. -/
def loadWalHeader (m : Media) (manifest : ManifestRecord) (slot expectedGeneration : ℕ) :
    Except EspErr WalHeader := do
  rejectIf (walFileCount ≤ slot ∨ expectedGeneration = 0) .invalidArg
  let first ← readWalHeader cfg m manifest slot expectedGeneration 0
  let second ← readWalHeader cfg m manifest slot expectedGeneration 1
  match first, second with
  | none, none => .error .invalidCrc
  | some h, none => .ok h
  | none, some h => .ok h
  | some h, some h' => if h ≠ h' then .error .invalidCrc else .ok h'

/-! ## Scanning one slot -/

/-- The loop of `find_later_wal_frame_unsafe`: at most `fuel` more frames, from `offset`. -/
def findLaterFrames (m : Media) (databaseId slot regionEnd generation minimumSequence : ℕ) :
    (fuel offset : ℕ) → Except EspErr Bool
  | 0, _ => .ok false
  | fuel + 1, offset =>
      if regionEnd - walFrameSize < offset then .ok false
      else match m.walFrame slot offset with
        | .error status =>
            if status.isVersion then .error .invalidVersion
            else findLaterFrames m databaseId slot regionEnd generation minimumSequence fuel
              (offset + walFrameSize)
        | .ok candidate =>
            if candidate.databaseId = databaseId ∧ candidate.walGeneration = generation ∧
                minimumSequence ≤ candidate.transactionSequence then .ok true
            else findLaterFrames m databaseId slot regionEnd generation minimumSequence fuel
              (offset + walFrameSize)

/-- `find_later_wal_frame_unsafe`. -/
def findLaterWalFrameUnsafe (m : Media) (databaseId slot startOffset regionEnd generation
    minimumSequence : ℕ) : Except EspErr Bool :=
  if walFileCount ≤ slot ∨ regionEnd < startOffset ∨ generation = 0 ∨ minimumSequence = 0 then
    .error .invalidArg
  else
    findLaterFrames m databaseId slot regionEnd generation minimumSequence
      (regionEnd / walFrameSize) startOffset

/-- What the frame loop of `scan_wal_slot` finds for one transaction. -/
inductive FrameRun
  /-- Frame `frameIndex` is not the next frame of the transaction. -/
  | broken (frameIndex : ℕ)
  /-- All frames, with their concatenated payload. -/
  | complete (payload : Bytes)

/-- Whether a frame continues the transaction `first` began. -/
def continuesTransaction (first frame : WalFrame) (frameIndex payloadOffset : ℕ) : Bool :=
  frame.databaseId == first.databaseId && frame.walGeneration == first.walGeneration &&
  frame.transactionSequence == first.transactionSequence && frame.frameIndex == frameIndex &&
  frame.frameCount == first.frameCount && frame.mutationCount == first.mutationCount &&
  frame.transactionPayloadSize == first.transactionPayloadSize &&
  frame.transactionChecksum == first.transactionChecksum &&
  frame.payload.length ≤ first.transactionPayloadSize - payloadOffset

/-- The frame loop of `scan_wal_slot`: `remaining` more frames, from `frameIndex`. -/
def readFrames (m : Media) (slot offset : ℕ) (first : WalFrame) :
    (remaining frameIndex : ℕ) → (staged : Bytes) → Except EspErr FrameRun
  | 0, _, staged => .ok (.complete staged)
  | remaining + 1, frameIndex, staged =>
      match m.walFrame slot (offset + frameIndex * walFrameSize) with
      | .error status =>
          if status.isVersion then .error .invalidVersion else .ok (.broken frameIndex)
      | .ok frame =>
          if continuesTransaction first frame frameIndex staged.length then
            readFrames m slot offset first remaining (frameIndex + 1) (staged ++ frame.payload)
          else .ok (.broken frameIndex)

/-- The check of a recovered descriptor, and the bank tail that covers it. -/
def recoverDescriptor (manifest : ManifestRecord) (r : ValueRef) :
    Except EspErr ManifestRecord :=
  if r.bankSlot ≠ manifest.activeValueBank ∨ cfg.geometry.valueBankSize < r.endOffset ∨
      valueRefMatchesBankUnsafe cfg r r.bankSlot (manifest.valueBankGeneration r.bankSlot)
        cfg.geometry.valueBankSize = false then .error .invalidCrc
  else .ok { manifest with
    valueBankTail := Function.update manifest.valueBankTail r.bankSlot
      (max (manifest.valueBankTail r.bankSlot) r.endOffset) }

/-- The descriptors of a recovered transaction, in order. -/
def recoverDescriptors : ManifestRecord → List Mutation → Except EspErr ManifestRecord
  | manifest, [] => .ok manifest
  | manifest, m :: rest =>
      match m.value.ref? with
      | none => recoverDescriptors manifest rest
      | some r => do
          let manifest ← recoverDescriptor cfg manifest r
          recoverDescriptors manifest rest

/-- The replay of a parsed transaction: its descriptors extend the bank tail, then it takes the
path of a commit behind its log record. -/
def replayMutations (db : Db) (m : Media) (namespaceName : Bytes) (mutations : List Mutation)
    (sequence : ℕ) : Except EspErr Db := do
  let manifest ← recoverDescriptors cfg db.manifest mutations
  let db := { db with manifest := manifest }
  let mutations ← preflightMemtableTransactionUnsafe cfg db m namespaceName mutations
  let (namespaceIndex, namespaces) ←
    ensureNamespaceCapacityUnsafe cfg db.namespaces namespaceName
  applyTransactionToMemtableUnsafe cfg { db with namespaces := namespaces } mutations
    namespaceIndex sequence

/-- The replay of one complete transaction above the checkpoint. -/
def replayTransaction (db : Db) (m : Media) (payload : Bytes)
    (mutationCount sequence : ℕ) : Except EspErr Db := do
  let (namespaceName, mutations) ← parseRecoveredTransactionUnsafe cfg payload mutationCount
  replayMutations cfg db m namespaceName mutations sequence

/-- `wal_tail[slot] = offset`. -/
def Db.setWalTail (db : Db) (slot offset : ℕ) : Db :=
  { db with walTail := Function.update db.walTail slot offset }

/-- The end of a scan: the tail is at `offset`, unless a later frame shows that it is not the
end. -/
def endScan (db : Db) (m : Media) (slot offset laterOffset regionEnd generation
    expectedSequence : ℕ) : Except EspErr (Db × ℕ) := do
  let laterValid ← findLaterWalFrameUnsafe m db.manifest.databaseId slot laterOffset regionEnd
    generation expectedSequence
  rejectIf (laterValid = true) .invalidCrc
  return (db.setWalTail slot offset, expectedSequence)

/-- The state behind one transaction of the slot: counted, and replayed when it is above the
checkpoint. -/
def acceptTransaction (db : Db) (m : Media) (payload : Bytes) (first : WalFrame)
    (expectedSequence : ℕ) : Except EspErr Db := do
  let db ← (if db.manifest.safeCheckpointSequence < expectedSequence then
    replayTransaction cfg db m payload first.mutationCount expectedSequence else .ok db)
  rejectIf (expectedSequence + 1 = 2 ^ 64) .invalidState
  return { db with stats := { db.stats with
    walBytesUsed := add64 db.stats.walBytesUsed (first.frameCount * walFrameSize) } }

/-- The transaction loop of `scan_wal_slot`: at most `fuel` more transactions, from `offset`. -/
def scanTransactions (m : Media) (slot regionEnd generation : ℕ) :
    (fuel offset expectedSequence : ℕ) → Db → Except EspErr (Db × ℕ)
  | 0, offset, expectedSequence, db =>
      .ok (db.setWalTail slot offset, expectedSequence)
  | fuel + 1, offset, expectedSequence, db =>
      if regionEnd - walFrameSize < offset then
        .ok (db.setWalTail slot offset, expectedSequence)
      else match m.walFrame slot offset with
        | .error status =>
            if status.isVersion then .error .invalidVersion
            else endScan db m slot offset (offset + walFrameSize) regionEnd generation
              expectedSequence
        | .ok first =>
            if first.databaseId ≠ db.manifest.databaseId ∨ first.walGeneration ≠ generation then
              -- A frame of an older generation: the slot was reused and is written up to here.
              endScan db m slot offset (offset + walFrameSize) regionEnd generation
                expectedSequence
            else if first.transactionSequence ≠ expectedSequence ∨ first.frameIndex ≠ 0 ∨
                maxTransactionPayloadSize cfg < first.transactionPayloadSize ∨
                regionEnd - offset < first.frameCount * walFrameSize then .error .invalidCrc
            else do
              match ← readFrames m slot offset first first.frameCount 0 [] with
              | .broken frameIndex =>
                  endScan db m slot offset (offset + (frameIndex + 1) * walFrameSize) regionEnd
                    generation expectedSequence
              | .complete payload =>
                  if payload.length ≠ first.transactionPayloadSize ∨
                      calcCrc32 payload ≠ first.transactionChecksum then
                    endScan db m slot offset (offset + first.frameCount * walFrameSize) regionEnd
                      generation expectedSequence
                  else
                    let db ← acceptTransaction cfg db m payload first expectedSequence
                    scanTransactions m slot regionEnd generation fuel
                      (offset + first.frameCount * walFrameSize) (expectedSequence + 1) db

/-- `scan_wal_slot`: the state and the next expected sequence behind the slot's log. -/
def scanWalSlot (db : Db) (m : Media) (slot generation expectedSequence : ℕ) :
    Except EspErr (Db × ℕ) := do
  rejectIf (walFileCount ≤ slot ∨ generation = 0 ∨ expectedSequence = 0) .invalidArg
  let header ← loadWalHeader cfg m db.manifest slot generation
  rejectIf (header.firstTransactionSequence ≠ expectedSequence) .invalidCrc
  scanTransactions cfg m slot header.recordRegionEnd generation
    (header.recordRegionEnd / walFrameSize) walRecordRegionOffset expectedSequence db

/-! ## Tables -/

/-- Validates the active tables and takes their key ranges from the footers. -/
def recoverTableReferences : List ℕ → DbM Unit
  | [] => pure ()
  | slot :: rest => do
      let db ← getDb
      match db.manifest.tables slot with
      | none => recoverTableReferences rest
      | some reference =>
          validateTableUnsafe cfg reference (activeBankBounds db.manifest)
          let footer ← readStorage fun _ m =>
            match m.tableFooter reference.slot with
            | .error _ => .error .invalidCrc
            | .ok record =>
                if record.metadata.generation ≠ reference.generation ∨
                    record.metadata.slot ≠ reference.slot then .error .invalidCrc
                else .ok record.metadata
          modifyDb fun db => { db with
            manifest := { db.manifest with
              tables := Function.update db.manifest.tables slot
                (some { reference with minKey := footer.minKey, maxKey := footer.maxKey }) }
            stats := { db.stats with
              tableBytesUsed := add64 db.stats.tableBytesUsed
                (tableFileBytes cfg reference.dataBlockCount) } }
          recoverTableReferences rest

/-- One round of the counting merge of `recover_tables_unsafe`: the namespace of the winner is
registered and the winner counted. -/
def countWinner (db : Db) (key : CompositeKey) (winner : MergeWinner) : Except EspErr Db := do
  let (_, namespaces) ← ensureNamespaceCapacityUnsafe cfg db.namespaces key.namespaceName
  let size := logicalRecordSize key.namespaceName.length key.key.length winner.value.size
  rejectIf (cfg.geometry.maxLiveBytes - db.stats.logicalStateBytes < size) .invalidCrc
  return { db with
    namespaces := namespaces
    stats := db.stats.with size winner.value }

/-- Whether two active cursors carry the key with the same sequence. -/
def duplicateSequence (key : CompositeKey) : List CompactionCursor → Bool
  | [] => false
  | c :: rest =>
      (c.entry.any fun e => e.key == key && rest.any fun c' =>
        c'.entry.any fun e' => e'.key == key &&
          e'.transactionSequence == e.transactionSequence) ||
      duplicateSequence key rest

/-- The counting merge; `fuel` bounds the number of keys. -/
def countTables : (fuel : ℕ) → List CompactionCursor → DbM Unit
  | 0, cursors => failIf (cursors.length ≠ 0) .invalidState
  | fuel + 1, cursors => do
      if cursors.length ≠ 0 then
        match smallestKey [] [] cursors with
        | none => throw .invalidCrc
        | some key =>
            failIf (duplicateSequence key cursors = true) .invalidCrc
            match ← liftResult (selectWinner key cursors none) with
            | none => throw .invalidCrc
            | some winner =>
                let db ← getDb
                let db ← liftResult (countWinner cfg db key winner)
                modifyDb fun _ => db
                let cursors ← advanceCursors cfg key cursors
                countTables fuel (trimCursors cursors)

/-- `recover_tables_unsafe`. -/
def recoverTablesUnsafe : DbM Unit := do
  modifyDb fun db => { db with stats := { db.stats with tableBytesUsed := 0 } }
  recoverTableReferences cfg (List.range cfg.geometry.tableCount)
  let db ← getDb
  let active := (List.range cfg.geometry.tableCount).filterMap db.manifest.tables
  failIf (cfg.bankSize < active.length) .invalidCrc
  let cursors ← loadCursors cfg (List.range cfg.geometry.tableCount)
  failIf (cursors.any (fun c => c.entry.isNone) = true) .invalidCrc
  countTables cfg (active.map TableReference.entryCount).sum cursors

/-! ## The log -/

/-- The scan of the active slot behind that of an older one; without an older slot the tail of
the other slot is reset. -/
def scanActiveSlot (db : Db) (m : Media) (firstSlot expectedSequence : ℕ) :
    Except EspErr (Db × ℕ) :=
  let active := db.manifest.activeWalSlot
  if firstSlot ≠ active then
    scanWalSlot cfg db m active (db.manifest.walGeneration active) expectedSequence
  else
    .ok (db.setWalTail (1 - active) walRecordRegionOffset, expectedSequence)

/-- The part of `recover_wal` between the tables and the final stabilization. -/
def replayWal (db : Db) (m : Media) : Except EspErr Db := do
  let active := db.manifest.activeWalSlot
  let older := 1 - active
  let firstSlot := if db.manifest.walGeneration older ≠ 0 then older else active
  rejectIf (db.manifest.walGeneration older ≠ 0 ∧
      db.manifest.walGeneration active ≤ db.manifest.walGeneration older) .invalidCrc
  let firstHeader ← loadWalHeader cfg m db.manifest firstSlot (db.manifest.walGeneration firstSlot)
  let checkpoint := db.manifest.safeCheckpointSequence
  rejectIf (checkpoint = uint64Max ∨ checkpoint + 1 < firstHeader.firstTransactionSequence)
    .invalidCrc
  let (db, expectedSequence) ← scanWalSlot cfg db m firstSlot
    (db.manifest.walGeneration firstSlot) firstHeader.firstTransactionSequence
  let (db, expectedSequence) ← scanActiveSlot cfg db m firstSlot expectedSequence
  rejectIf (expectedSequence - 1 < checkpoint) .invalidCrc
  return { db with
    nextTransactionSequence := expectedSequence
    stats := { db.stats with committedTransactionCount := expectedSequence - 1 } }

/-- `recover_wal`. -/
def recoverWal : DbM Unit := do
  let db ← getDb
  failIf (db.manifest.state ≠ .ready ∨ walFileCount ≤ db.manifest.activeWalSlot ∨
    db.manifest.walGeneration db.manifest.activeWalSlot = 0) .invalidCrc
  modifyDb fun db => { db with stats := {}, namespaces := [], memtable := .empty }
  recoverTablesUnsafe cfg
  let db ← readStorage (replayWal cfg)
  modifyDb fun _ => db
  stabilizeManifestUnsafe

end On9kvdb
