import On9kvdb.Lib.HeapSort
import On9kvdb.Store.Table

/-!
# Compaction

`compactTablesUnsafe` merges the memtable and every active table into the other table bank, and
copies the external values the result refers to into the other value bank.  All sources are
sorted by key; each round takes the smallest key, keeps its version with the greatest sequence
unless that is a tombstone, and advances every source that carries the key.  One manifest
publication makes the new banks active.
-/

namespace On9kvdb

variable (cfg : Config)

/-- `table_count / 2`: the tables of one bank. -/
def Config.bankSize : ℕ := cfg.geometry.tableCount / 2

/-! ## Memtable as a sorted source -/

instance : Inhabited MemtableRecord := ⟨⟨0, 0, 0, [], .tombstone⟩⟩

/-- The composite key of a memtable record. -/
def recordKey (namespaces : List Bytes) (r : MemtableRecord) : CompositeKey :=
  ⟨namespaces.getD r.namespaceSlotIndex [], r.key⟩

/-- The used buckets, in bucket order. -/
def memtableRecords (db : Db) : List MemtableRecord :=
  (List.range cfg.memtableEntryCount).filterMap db.memtable.buckets

/-- `sort_memtable_offsets_unsafe`, with `compare_memtable_records_unsafe`. -/
def sortMemtableRecords (namespaces : List Bytes) (records : List MemtableRecord) :
    List MemtableRecord :=
  HeapSort.sortList
    (fun lhs rhs =>
      compareCompositeKey (recordKey namespaces lhs) (recordKey namespaces rhs) == .lt)
    records

/-! ## Cursors -/

/-- `compaction_cursor`: a position in one table and the entry there; an inactive cursor has no
entry. -/
structure CompactionCursor where
  sourceSlot : ℕ
  blockIndex : ℕ := 0
  entryIndex : ℕ := 0
  blockEntryCount : ℕ := 0
  entry : Option TableEntry := none

/-- The entry read at the cursor's position. -/
def loadCursorEntry (m : Media) (c : CompactionCursor) : Except EspErr CompactionCursor :=
  match m.tableBlock c.sourceSlot (blockOffset cfg c.blockIndex) with
  | .error _ => .error .invalidCrc
  | .ok block =>
      match block.entries[c.entryIndex]? with
      | none => .error .invalidCrc
      | some entry =>
          if entry.value.ref?.any
              (fun r => valueRefIsValid r cfg.geometry.valueBankSize == false) then
            .error .invalidCrc
          else .ok { c with entry := some entry }

/-- `load_compaction_cursor_unsafe`. -/
def loadCompactionCursorUnsafe (c : CompactionCursor) (db : Db) (m : Media) :
    Except EspErr CompactionCursor :=
  match db.manifest.tables c.sourceSlot with
  | none => .error .invalidArg
  | some reference =>
      if c.blockEntryCount ≠ 0 then loadCursorEntry cfg m c
      else if reference.dataBlockCount ≤ c.blockIndex then .ok { c with entry := none }
      else match m.tableBlock c.sourceSlot (blockOffset cfg c.blockIndex) with
        | .error _ => .error .invalidCrc
        | .ok block =>
            if block.generation ≠ reference.generation ∨ block.blockIndex ≠ c.blockIndex then
              .error .invalidCrc
            else
              loadCursorEntry cfg m
                { c with entryIndex := 0, blockEntryCount := block.entries.length }

/-- `advance_compaction_cursor_unsafe`. -/
def advanceCompactionCursorUnsafe (c : CompactionCursor) (db : Db) (m : Media) :
    Except EspErr CompactionCursor :=
  let c := { c with entryIndex := c.entryIndex + 1 }
  let c :=
    if c.entryIndex = c.blockEntryCount then
      { c with blockIndex := c.blockIndex + 1, blockEntryCount := 0 }
    else c
  loadCompactionCursorUnsafe cfg c db m

/-- The cursor's key, when it is active. -/
def CompactionCursor.key? (c : CompactionCursor) : Option CompositeKey :=
  c.entry.map TableEntry.key

/-- Drops the inactive cursors at the end. -/
def trimCursors : List CompactionCursor → List CompactionCursor
  | [] => []
  | c :: rest =>
      match trimCursors rest with
      | [] => if c.entry.isNone then [] else [c]
      | rest' => c :: rest'

/-! ## One round of the merge -/

/-- The smaller of the key found so far and the key of one cursor. -/
def smallerKey (found : Option CompositeKey) (c : CompactionCursor) : Option CompositeKey :=
  match c.key?, found with
  | none, found => found
  | some key, none => some key
  | some key, some smallest =>
      if compareCompositeKey key smallest = .lt then some key else some smallest

/-- The smallest key of all sources. -/
def smallestKey (namespaces : List Bytes) (pending : List MemtableRecord)
    (cursors : List CompactionCursor) : Option CompositeKey :=
  cursors.foldl smallerKey (pending.head?.map (recordKey namespaces))

/-- The version a round keeps, and where it comes from. -/
inductive MergeWinner
  | memtable (record : MemtableRecord)
  | table (cursor : CompactionCursor) (entry : TableEntry)

namespace MergeWinner

def transactionSequence : MergeWinner → ℕ
  | memtable record => record.transactionSequence
  | table _ entry => entry.transactionSequence

def value : MergeWinner → StoredValue
  | memtable record => record.value
  | table _ entry => entry.value

end MergeWinner

/-- The search for the greatest sequence among the cursors that carry `key`; two equal sequences
are an error. -/
def selectWinner (key : CompositeKey) :
    List CompactionCursor → Option MergeWinner → Except EspErr (Option MergeWinner)
  | [], winner => .ok winner
  | c :: rest, winner =>
      let winnerSequence := (winner.map MergeWinner.transactionSequence).getD 0
      match c.entry with
      | none => selectWinner key rest winner
      | some entry =>
          if entry.key ≠ key then selectWinner key rest winner
          else if entry.transactionSequence = winnerSequence then .error .invalidCrc
          else if winnerSequence < entry.transactionSequence then
            selectWinner key rest (some (.table c entry))
          else selectWinner key rest winner

/-- The memtable's record for `key`, when it is the next pending one. -/
def memtableWinner (namespaces : List Bytes) (pending : List MemtableRecord)
    (key : CompositeKey) : Option MergeWinner :=
  match pending with
  | [] => none
  | record :: _ => if recordKey namespaces record = key then some (.memtable record) else none

/-- The pending records behind `key`. -/
def advancePending (namespaces : List Bytes) (pending : List MemtableRecord)
    (key : CompositeKey) : List MemtableRecord :=
  match pending with
  | [] => []
  | record :: rest => if recordKey namespaces record = key then rest else pending

/-- Advances every cursor that carries `key`. -/
def advanceCursors (key : CompositeKey) :
    List CompactionCursor → DbM (List CompactionCursor)
  | [] => pure []
  | c :: rest => do
      let c ← (if c.key? = some key then readStorage (advanceCompactionCursorUnsafe cfg c)
        else pure c)
      let rest ← advanceCursors key rest
      return c :: rest

/-! ## Output -/

/-- The destination of a compaction's values: the inactive bank under its next generation. -/
structure Destination where
  bankSlot : ℕ
  bankGeneration : ℕ
  deriving DecidableEq, Repr

/-- `start_compaction_output_unsafe`. -/
def startCompactionOutputUnsafe (slot generation : ℕ) : DbM TableBuild := do
  failIf (cfg.geometry.tableCount ≤ slot ∨ generation = 0) .invalidArg
  modifyDb fun db => { db with
    tableIndexCache := Function.update db.tableIndexCache slot {} }
  return { slot := slot, generation := generation }

/-- The value an entry has in the destination bank, with the tail behind it; `none` when the bank
is full. -/
def relocateValue (destination : Destination) (tail : ℕ) :
    StoredValue → DbM (Option (StoredValue × ℕ))
  | .external r =>
      tryCatch
        (do
          let (copy, tail) ← copyExternalValueUnsafe cfg r destination.bankSlot
            destination.bankGeneration tail
          return some (.external copy, tail))
        (fun e => if e = .noMem then pure none else throw e)
  | v => pure (some (v, tail))

/-- Re-reads a winning table entry at its cursor. -/
def readWinner (cursor : CompactionCursor) (entry : TableEntry) (m : Media) :
    Except EspErr TableEntry :=
  match m.tableBlock cursor.sourceSlot (blockOffset cfg cursor.blockIndex) with
  | .error _ => .error .invalidCrc
  | .ok block =>
      match block.entries[cursor.entryIndex]? with
      | none => .error .invalidCrc
      | some decoded =>
          if decoded.totalSize ≠ entry.totalSize ∨
              decoded.transactionSequence ≠ entry.transactionSequence then .error .invalidCrc
          else .ok decoded

/-- The stored value of a winner, read where the source reads it. -/
def winnerValue : MergeWinner → DbM StoredValue
  | .memtable record => pure record.value
  | .table cursor entry => do
      let decoded ← readStorage fun _ m => readWinner cfg cursor entry m
      return decoded.value

/-- `append_compaction_entry_unsafe`.  The flag is false when the source returns
`ESP_ERR_NO_MEM`; the output may then still have closed a block or opened an index entry. -/
def appendCompactionEntryUnsafe (output : TableBuild) (winner : MergeWinner)
    (key : CompositeKey) (destination : Destination) (tail : ℕ) :
    DbM (TableBuild × ℕ × Bool) := do
  let sequence := winner.transactionSequence
  let encodedSize := align8 (tableEntryHeaderSize + key.namespaceName.length + key.key.length +
    winner.value.encodedSize)
  let output ← closeFullBlock cfg output encodedSize
  match startDataBlock cfg output key sequence with
  | none => return (output, tail, false)
  | some output =>
      let value ← winnerValue cfg winner
      match ← relocateValue cfg destination tail value with
      | none => return (output, tail, false)
      | some (value, tail) =>
          match encodeTableEntry cfg.blockBytes (tableBlockHeaderSize + output.dataPayloadSize)
              sequence key value with
          | none =>
              throw (match winner with
                | .memtable _ => .invalidSize
                | .table _ _ => .invalidState)
          | some entry => return (output.addEntry entry, tail, true)

/-- `finish_compaction_output_unsafe`. -/
def finishCompactionOutputUnsafe (output : TableBuild) (destination : Destination) (tail : ℕ) :
    DbM TableReference := do
  failIf (output.entryCount = 0) .invalidArg
  let output ← (if output.blockEntries ≠ [] then finishTableDataBlockUnsafe cfg output
    else pure output)
  finishTableUnsafe cfg output ⟨destination.bankSlot, destination.bankGeneration, tail⟩

/-! ## The merge -/

/-- The loop state of `compact_tables_unsafe`. -/
structure MergeState where
  pending : List MemtableRecord
  cursors : List CompactionCursor
  output : Option TableBuild := none
  outputCount : ℕ := 0
  logicalStateBytes : ℕ := 0
  greatestSequence : ℕ := 0
  destinationValueTail : ℕ := identityRegionSize

/-- The first slot of the inactive table bank. -/
def outputStart (m : ManifestRecord) : ℕ := (1 - m.activeTableBank) * cfg.bankSize

/-- Opens the output table number `outputCount`. -/
def openOutput (outputCount : ℕ) : DbM TableBuild := do
  let db ← getDb
  startCompactionOutputUnsafe cfg (outputStart cfg db.manifest + outputCount)
    (db.manifest.nextTableGeneration + outputCount)

/-- Closes an output table and names it in the in-memory manifest. -/
def closeOutput (output : TableBuild) (destination : Destination) (outputCount tail : ℕ) :
    DbM Unit := do
  let reference ← finishCompactionOutputUnsafe cfg output destination tail
  modifyDb fun db => { db with
    manifest := { db.manifest with
      tables := Function.update db.manifest.tables (outputStart cfg db.manifest + outputCount)
        (some reference) } }

/-- The output table under construction, or a new one. -/
def currentOutput (s : MergeState) : DbM TableBuild :=
  match s.output with
  | some output => pure output
  | none => do
      failIf (cfg.bankSize ≤ s.outputCount) .noMem
      openOutput cfg s.outputCount

/-- Adds a live winner to the output, going on to the next table when the current one is full. -/
def emitWinner (s : MergeState) (winner : MergeWinner) (key : CompositeKey)
    (destination : Destination) : DbM MergeState := do
  let size := logicalRecordSize key.namespaceName.length key.key.length winner.value.size
  failIf (cfg.geometry.maxLiveBytes - s.logicalStateBytes < size) .noMem
  let s := { s with logicalStateBytes := s.logicalStateBytes + size }
  let output ← currentOutput cfg s
  let (output, tail, appended) ←
    appendCompactionEntryUnsafe cfg output winner key destination s.destinationValueTail
  if appended then
    return { s with output := some output, destinationValueTail := tail }
  else
    closeOutput cfg output destination s.outputCount tail
    failIf (cfg.bankSize ≤ s.outputCount + 1) .noMem
    let output ← openOutput cfg (s.outputCount + 1)
    let (output, tail, appended) ←
      appendCompactionEntryUnsafe cfg output winner key destination tail
    failIf (appended = false) .noMem
    return { s with
      output := some output
      outputCount := s.outputCount + 1
      destinationValueTail := tail }

/-- One round of the merge loop, for the smallest key. -/
def mergeRound (s : MergeState) (key : CompositeKey) (destination : Destination) :
    DbM MergeState := do
  let db ← getDb
  match ← liftResult (selectWinner key s.cursors (memtableWinner db.namespaces s.pending key)) with
  | none => throw .invalidState
  | some winner =>
      let s := { s with greatestSequence := max s.greatestSequence winner.transactionSequence }
      -- Every source takes part, so no older version of a dropped tombstone's key survives.
      let s ← (if winner.value.isTombstone then pure s
        else emitWinner cfg s winner key destination)
      let cursors ← advanceCursors cfg key s.cursors
      return { s with
        pending := advancePending db.namespaces s.pending key
        cursors := trimCursors cursors }

/-- The merge loop; `fuel` bounds the number of keys. -/
def mergeLoop (destination : Destination) : (fuel : ℕ) → MergeState → DbM MergeState
  | 0, s => if s.pending = [] ∧ s.cursors.length = 0 then pure s else throw .invalidState
  | fuel + 1, s => do
      if s.pending = [] ∧ s.cursors.length = 0 then return s
      let db ← getDb
      match smallestKey db.namespaces s.pending s.cursors with
      | none => return s
      | some key =>
          let s ← mergeRound cfg s key destination
          mergeLoop destination fuel s

/-- Closes the output table left open by the merge. -/
def closeLastOutput (destination : Destination) (s : MergeState) : DbM MergeState :=
  match s.output with
  | none => pure s
  | some output => do
      closeOutput cfg output destination s.outputCount s.destinationValueTail
      return { s with output := none, outputCount := s.outputCount + 1 }

/-- The merge with the last output table closed behind it, and the check on the greatest
sequence. -/
def mergeTables (destination : Destination) (fuel : ℕ) (s : MergeState) : DbM MergeState := do
  let s ← mergeLoop cfg destination fuel s
  let s ← closeLastOutput cfg destination s
  let db ← getDb
  failIf (s.greatestSequence ≠ db.nextTransactionSequence - 1) .invalidState
  return s

/-! ## Staged descriptors -/

/-- Copies the external values staged in the active transaction behind the merged ones. -/
def relocateStaged (destination : Destination) :
    List Mutation → (tail : ℕ) → DbM (List Mutation × ℕ)
  | [], tail => pure ([], tail)
  | m :: rest, tail => do
      match m.value with
      | .external r =>
          let db ← getDb
          failIf (r.bankSlot ≠ db.manifest.activeValueBank ∨
            r.bankGeneration ≠ db.manifest.valueBankGeneration db.manifest.activeValueBank)
            .invalidState
          let (copy, tail) ← copyExternalValueUnsafe cfg r destination.bankSlot
            destination.bankGeneration tail
          let (rest, tail) ← relocateStaged destination rest tail
          return ({ m with value := .external copy } :: rest, tail)
      | _ =>
          let (rest, tail) ← relocateStaged destination rest tail
          return (m :: rest, tail)

/-! ## Compaction -/

/-- `value_bank_is_pinned_unsafe`. -/
def valueBankIsPinnedUnsafe (db : Db) (bankSlot : ℕ) : Bool :=
  (List.range cfg.maxValueReaders).any fun index =>
    let reader := db.valueReaders index
    reader.used && reader.externalValue.any (·.bankSlot == bankSlot)

/-- `value_bank_has_staged_reference_unsafe`. -/
def valueBankHasStagedReferenceUnsafe (db : Db) (bankSlot : ℕ) : Bool :=
  db.transaction.active &&
    db.transaction.mutations.any fun m => m.value.ref?.any (·.bankSlot == bankSlot)

/-- The slots of a bank. -/
def bankSlots (start : ℕ) : List ℕ := (List.range cfg.bankSize).map (start + ·)

/-- The first slot of the active table bank. -/
def inputStart (m : ManifestRecord) : ℕ := m.activeTableBank * cfg.bankSize

/-- Validates the active tables among `slots`. -/
def validateTables : List ℕ → DbM Unit
  | [] => pure ()
  | slot :: rest => do
      let db ← getDb
      match db.manifest.tables slot with
      | none => validateTables rest
      | some reference =>
          validateTableUnsafe cfg reference (activeBankBounds db.manifest)
          validateTables rest

/-- Loads a cursor for each active table among `slots`. -/
def loadCursors : List ℕ → DbM (List CompactionCursor)
  | [] => pure []
  | slot :: rest => do
      let db ← getDb
      match db.manifest.tables slot with
      | none => loadCursors rest
      | some _ => do
          let c ← readStorage (loadCompactionCursorUnsafe cfg { sourceSlot := slot })
          let rest ← loadCursors rest
          return c :: rest

/-- The manifest without the references of the inactive table bank. -/
def clearOutputTables (m : ManifestRecord) : ManifestRecord :=
  { m with
    tables := fun slot => if slot ∈ bankSlots cfg (outputStart cfg m) then none
      else m.tables slot }

/-- The record bytes of the merge's inputs. -/
def inputRecordBytes (db : Db) (records : List MemtableRecord) : ℕ :=
  ((bankSlots cfg (inputStart cfg db.manifest)).map fun slot =>
    ((db.manifest.tables slot).map TableReference.dataBytes).getD 0).sum +
  (records.map fun r => logicalRecordSize (recordKey db.namespaces r).namespaceName.length
    r.key.length r.value.size).sum

/-- An upper bound on the rounds of the merge: the entries of all sources. -/
def mergeFuel (db : Db) (records : List MemtableRecord) : ℕ :=
  records.length + ((bankSlots cfg (inputStart cfg db.manifest)).map fun slot =>
    ((db.manifest.tables slot).map TableReference.entryCount).getD 0).sum

/-- The checks `compact_tables_unsafe` makes before it touches anything. -/
def compactionPreconditions (db : Db) : Except EspErr Unit :=
  let destination := 1 - db.manifest.activeValueBank
  if uint64Max - cfg.bankSize < db.manifest.nextTableGeneration ∨
      uint64Max - 2 < db.manifest.generation ∨ valueBankCount ≤ db.manifest.activeValueBank ∨
      db.manifest.valueBankGeneration destination = uint64Max then
    .error .invalidSize
  else if valueBankIsPinnedUnsafe cfg db destination ∨
      valueBankHasStagedReferenceUnsafe db destination then
    .error .invalidState
  else .ok ()

/-- The gathered memtable records, sorted; the index and the entry counter must agree. -/
def gatherMemtable (db : Db) : Except EspErr (List MemtableRecord) :=
  let records := memtableRecords cfg db
  if records.any (fun r => db.namespaces.length ≤ r.namespaceSlotIndex) ∨
      records.length ≠ db.memtable.entryCount then .error .invalidState
  else .ok (sortMemtableRecords db.namespaces records)

/-- The manifest `compact_tables_unsafe` publishes. -/
def compactedManifest (m : ManifestRecord) (destination : Destination) (s : MergeState)
    (tail : ℕ) : ManifestRecord :=
  { m with
    tables := fun slot =>
      if slot ∈ bankSlots cfg (inputStart cfg m) then none else m.tables slot
    activeTableBank := 1 - m.activeTableBank
    activeValueBank := destination.bankSlot
    valueBankGeneration :=
      Function.update m.valueBankGeneration destination.bankSlot destination.bankGeneration
    valueBankTail := Function.update m.valueBankTail destination.bankSlot tail
    safeCheckpointSequence := s.greatestSequence
    nextTableGeneration := m.nextTableGeneration + s.outputCount
    walGeneration := Function.update m.walGeneration (1 - m.activeWalSlot) 0 }

/-- `saturating_add`. -/
def saturatingAdd (lhs rhs : ℕ) : ℕ := min uint64Max (lhs + rhs)

/-- The output tables, once their bank is the active one. -/
def outputTables (m : ManifestRecord) (outputCount : ℕ) : List TableReference :=
  (List.range outputCount).filterMap fun i => m.tables (inputStart cfg m + i)

/-- The in-memory state behind the manifest publication. -/
def afterCompaction (db : Db) (s : MergeState) (staged : List Mutation) : Db :=
  { db with
    transaction := { db.transaction with
      mutations := if db.transaction.active then staged else db.transaction.mutations }
    memtable := .empty
    manifestStabilizationRequired := true
    walTail := Function.update db.walTail (1 - db.manifest.activeWalSlot) walRecordRegionOffset
    stats := { db.stats with
      walBytesUsed := db.walTail db.manifest.activeWalSlot - walRecordRegionOffset
      logicalStateBytes := s.logicalStateBytes
      tombstoneCount := 0
      tableBytesUsed :=
        ((outputTables cfg db.manifest s.outputCount).map fun t =>
          tableFileBytes cfg t.dataBlockCount).sum } }

/-- The compaction statistics, updated whether or not the stabilization succeeds. -/
def accountCompaction (db : Db) (s : MergeState) (inputBytes : ℕ) : Db :=
  { db with
    stats := { db.stats with
      compactionCount := saturatingAdd db.stats.compactionCount 1
      compactionInputRecordBytes :=
        saturatingAdd db.stats.compactionInputRecordBytes inputBytes
      compactionOutputRecordBytes :=
        saturatingAdd db.stats.compactionOutputRecordBytes
          ((outputTables cfg db.manifest s.outputCount).map TableReference.dataBytes).sum } }

/-- `compact_tables_unsafe`. -/
def compactTablesUnsafe : DbM Unit := do
  let db ← getDb
  liftResult (compactionPreconditions cfg db)
  let destination : Destination :=
    ⟨1 - db.manifest.activeValueBank,
      db.manifest.valueBankGeneration (1 - db.manifest.activeValueBank) + 1⟩
  validateTables cfg (bankSlots cfg (inputStart cfg db.manifest))
  failIf ((bankSlots cfg (outputStart cfg db.manifest)).any
    (fun slot => (db.manifest.tables slot).isSome) = true) .invalidState
  let pending ← liftResult (gatherMemtable cfg db)
  let cursors ← loadCursors cfg (bankSlots cfg (inputStart cfg db.manifest))
  let inputBytes := inputRecordBytes cfg db pending
  let clear := modifyDb fun db => { db with manifest := clearOutputTables cfg db.manifest }
  let (s, staged, tail) ← onError
    (do
      let s ← mergeTables cfg destination (mergeFuel cfg db pending)
        { pending := pending, cursors := cursors }
      let (staged, tail) ← relocateStaged cfg destination
        (if db.transaction.active then db.transaction.mutations else []) s.destinationValueTail
      return (s, staged, tail))
    clear
  let previous ← getDb
  modifyDb fun db => { db with manifest := compactedManifest cfg db.manifest destination s tail }
  onError
    (do
      syncStorage
      let db ← getDb
      writeManifestCopy (db.manifest.generation + 1) .ready)
    (do
      modifyDb fun db => { db with manifest := previous.manifest }
      clear)
  modifyDb fun db => afterCompaction cfg db s staged
  let account := modifyDb fun db => accountCompaction cfg db s inputBytes
  onError stabilizeManifestUnsafe account
  account

end On9kvdb
