import On9kvdb.Store.Compaction

/-!
# Flushing the memtable

`flushMemtableUnsafe` writes the memtable, sorted, to a free slot of the active table bank and
publishes it with one manifest copy; without a free slot it compacts instead.
-/

namespace On9kvdb

variable (cfg : Config)

/-- The first free slot of the active table bank. -/
def freeTableSlot (m : ManifestRecord) : Option ℕ :=
  (bankSlots cfg (inputStart cfg m)).find? fun slot => (m.tables slot).isNone

/-- The gathered records of a flush: every one must be usable, and their number the entry
counter. -/
def gatherFlush (db : Db) : Except EspErr (List MemtableRecord) :=
  let records := memtableRecords cfg db
  if records.any (fun r => memtableRecordUsable cfg db r == false) ∨
      records.length ≠ db.memtable.entryCount then .error .invalidState
  else .ok (sortMemtableRecords db.namespaces records)

/-- The record loop of `flush_memtable_unsafe`. -/
def flushRecords (namespaces : List Bytes) : List MemtableRecord → TableBuild → DbM TableBuild
  | [], b => pure b
  | record :: rest, b => do
      let key := recordKey namespaces record
      let encodedSize := align8 (tableEntryHeaderSize + key.namespaceName.length +
        key.key.length + record.value.encodedSize)
      let b ← closeFullBlock cfg b encodedSize
      match startDataBlock cfg b key record.transactionSequence with
      | none => throw .noMem
      | some b =>
          match encodeTableEntry cfg.blockBytes (tableBlockHeaderSize + b.dataPayloadSize)
              record.transactionSequence key record.value with
          | none => throw .invalidSize
          | some entry => flushRecords namespaces rest (b.addEntry entry)

/-- The manifest a flush publishes. -/
def flushedManifest (m : ManifestRecord) (slot : ℕ) (reference : TableReference) :
    ManifestRecord :=
  { m with
    tables := Function.update m.tables slot (some reference)
    safeCheckpointSequence := reference.maxSequence
    nextTableGeneration := m.nextTableGeneration + 1 }

/-- The part of `flush_memtable_unsafe` behind the choice of a free slot. -/
def flushToSlot (slot : ℕ) : DbM Unit := do
  modifyDb fun db => { db with
    tableIndexCache := Function.update db.tableIndexCache slot {} }
  let db ← getDb
  let records ← liftResult (gatherFlush cfg db)
  let b ← flushRecords cfg db.namespaces records
    { slot := slot, generation := db.manifest.nextTableGeneration }
  let b ← finishTableDataBlockUnsafe cfg b
  let reference ← finishTableUnsafe cfg b (activeBankBounds db.manifest)
  modifyDb fun db => { db with manifest := flushedManifest db.manifest slot reference }
  onError (writeManifestCopy (db.manifest.generation + 1) .ready)
    (modifyDb fun db' => { db' with
      manifest := { db'.manifest with
        tables := Function.update db'.manifest.tables slot none
        safeCheckpointSequence := db.manifest.safeCheckpointSequence
        nextTableGeneration := db.manifest.nextTableGeneration } })
  modifyDb fun db => { db with
    memtable := .empty
    stats := { db.stats with
      tableBytesUsed := add64 db.stats.tableBytesUsed (tableFileBytes cfg b.dataBlockCount) } }

/-- `flush_memtable_unsafe`. -/
def flushMemtableUnsafe : DbM Unit := do
  let db ← getDb
  if db.memtable.entryCount ≠ 0 then
    failIf (db.manifest.nextTableGeneration = 0 ∨
      db.manifest.nextTableGeneration = uint64Max) .invalidState
    match freeTableSlot cfg db.manifest with
    | none => compactTablesUnsafe cfg
    | some slot => flushToSlot cfg slot

end On9kvdb
