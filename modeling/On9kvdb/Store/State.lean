import On9kvdb.Device.Media
import On9kvdb.Format.WalPayload
import On9kvdb.Lib.Triple

/-!
# The state of one database instance

`Db` is what an `on9kvdb` object holds in memory between calls, `World` adds the device, and
`DbM` is the monad of the methods: they read and write both and return an `esp_err_t`.  Arenas
and scratch buffers are represented by the values stored in them.
-/

namespace On9kvdb

/-- `on9kvdb_stats`, less what `get_stats` derives from other fields and less timings. -/
structure Stats where
  liveKeyCount : ℕ := 0
  tombstoneCount : ℕ := 0
  committedTransactionCount : ℕ := 0
  logicalValueBytes : ℕ := 0
  logicalStateBytes : ℕ := 0
  walBytesUsed : ℕ := 0
  tableBytesUsed : ℕ := 0
  compactionCount : ℕ := 0
  compactionInputRecordBytes : ℕ := 0
  compactionOutputRecordBytes : ℕ := 0
  deriving DecidableEq, Repr

/-- `memtable_record_header` with the key and value behind it, and the hash of its bucket. -/
structure MemtableRecord where
  hash : UInt32
  transactionSequence : ℕ
  namespaceSlotIndex : ℕ
  key : Bytes
  value : StoredValue
  deriving DecidableEq

@[simp] def memtableRecordHeaderSize : ℕ := 48

/-- `record_size`: what the record takes from the memtable arena. -/
def MemtableRecord.recordSize (r : MemtableRecord) : ℕ :=
  align8 (memtableRecordHeaderSize + r.key.length + r.value.inlineSize)

/-- The memtable: its open-addressing index and the arena and entry counters. -/
structure Memtable where
  buckets : ℕ → Option MemtableRecord
  dataUsed : ℕ
  entryCount : ℕ

/-- `reset_memtable_unsafe`. -/
def Memtable.empty : Memtable := ⟨fun _ => none, 0, 0⟩

/-- `on9kvdb_open_mode`. -/
inductive OpenMode
  | readOnly
  | readWrite
  deriving DecidableEq, Repr

/-- `handle_slot`. -/
structure HandleSlot where
  generation : ℕ := 0
  used : Bool := false
  transactionActive : Bool := false
  mode : OpenMode := .readOnly
  namespaceName : Bytes := []
  deriving DecidableEq, Repr

/-- `transaction_slot`. -/
structure TransactionSlot where
  generation : ℕ := 0
  handleSlotIndex : ℕ := 0
  handleGeneration : ℕ := 0
  mutations : List Mutation := []
  stagedValueBytes : ℕ := 0
  active : Bool := false
  deriving DecidableEq, Repr

/-- `value_reader_slot` and its buffer. -/
structure ValueReaderSlot where
  checksumState : UInt32 := crcInit
  generation : ℕ := 0
  valueSize : ℕ := 0
  cursor : ℕ := 0
  buffer : Bytes := []
  bufferValueOffset : ℕ := 0
  externalValue : Option ValueRef := none
  used : Bool := false
  checksumEnabled : Bool := false
  deriving DecidableEq, Repr

/-- `value_ref {}`. -/
def ValueRef.blank : ValueRef := ⟨0, 0, 0, 0, 255⟩

/-- `value_writer_slot` and its buffer. -/
structure ValueWriterSlot where
  checksumState : UInt32 := crcInit
  transactionHandleRaw : ℕ := 0
  generation : ℕ := 0
  expectedSize : ℕ := 0
  writtenSize : ℕ := 0
  chunkPayloadSize : ℕ := 0
  nextChunkOffset : ℕ := 0
  key : Bytes := []
  reference : ValueRef := .blank
  active : Bool := false
  inlineValue : Bool := false
  buffer : Bytes := []
  deriving DecidableEq, Repr

/-- `table_index_cache_slot`. -/
structure TableIndexCacheSlot where
  generation : ℕ := 0
  valid : Bool := false
  entries : List (CompositeKey × ℕ) := []
  deriving DecidableEq

/-- `table_key_filter_slot`. -/
structure TableKeyFilterSlot where
  generation : ℕ := 0
  valid : Bool := false
  bits : ℕ → Bool := fun _ => false

/-- The members of an `on9kvdb` object. -/
structure Db where
  initialized : Bool
  storageFaulted : Bool
  manifest : ManifestRecord
  manifestStabilizationRequired : Bool
  namespaces : List Bytes
  memtable : Memtable
  walTail : ℕ → ℕ
  nextTransactionSequence : ℕ
  stats : Stats
  handles : ℕ → HandleSlot
  handleGenerationCounter : ℕ
  transactionGenerationCounter : ℕ
  transaction : TransactionSlot
  valueReaders : ℕ → ValueReaderSlot
  valueWriter : ValueWriterSlot
  valueBankDirtyMask : ℕ
  tableIndexCache : ℕ → TableIndexCacheSlot
  tableKeyFilters : ℕ → TableKeyFilterSlot

/-- `manifest_record {}`. -/
def ManifestRecord.blank : ManifestRecord where
  generation := 0
  databaseId := 0
  state := .provisioningOwned
  geometry := ⟨0, 0, 0, 0, 0, 0, 0, 0, 0, 0⟩
  limits := ⟨0, 0, 0, 0, 0, 0, 0, 0, 0⟩
  activeWalSlot := 0
  walGeneration := fun _ => 0
  safeCheckpointSequence := 0
  nextTableGeneration := 1
  activeTableBank := 0
  activeValueBank := 0
  valueBankGeneration := fun _ => 0
  valueBankTail := fun _ => 0
  tables := fun _ => none

/-- What `close_storage_unsafe` leaves behind: only the token counters survive. -/
def Db.closed (handleGenerationCounter transactionGenerationCounter : ℕ) : Db where
  initialized := false
  storageFaulted := false
  manifest := .blank
  manifestStabilizationRequired := false
  namespaces := []
  memtable := .empty
  walTail := fun _ => 0
  nextTransactionSequence := 1
  stats := {}
  handles := fun _ => {}
  handleGenerationCounter := handleGenerationCounter
  transactionGenerationCounter := transactionGenerationCounter
  transaction := {}
  valueReaders := fun _ => {}
  valueWriter := {}
  valueBankDirtyMask := 0
  tableIndexCache := fun _ => {}
  tableKeyFilters := fun _ => {}

/-! ## Methods -/

/-- The instance and the device it owns. -/
structure World where
  db : Db
  dev : Device

/-- A method of the database. -/
abbrev DbM := Exceptional.Prog World EspErr

def getDb : DbM Db := do return (← get).db

def modifyDb (f : Db → Db) : DbM Unit := modify fun w => { w with db := f w.db }

/-- `if (condition) return error;` -/
def failIf (condition : Prop) [Decidable condition] (error : EspErr) : DbM Unit :=
  if condition then throw error else pure ()

/-- A result computed without touching the device. -/
def liftResult {α : Type} : Except EspErr α → DbM α
  | .ok a => pure a
  | .error e => throw e

/-- A phase of `read_storage_bytes_unsafe` calls: it decodes records of the current image, unless
the transport reports an error. -/
def readStorage {α : Type} (decode : Db → Media → Except EspErr α) : DbM α := do
  let w ← get
  let (done, dev) := w.dev.read
  set { w with dev := dev }
  if done then liftResult (decode w.db w.dev.current) else throw .ioError

/-- `write_storage_bytes_unsafe`. -/
def writeStorage (write : Write) : DbM Unit := do
  let w ← get
  let (done, dev) := w.dev.write write
  set { w with dev := dev }
  if done then pure () else throw .ioError

/-- `sync_storage_unsafe`. -/
def syncStorage : DbM Unit := do
  let w ← get
  let (done, dev) := w.dev.sync
  set { w with dev := dev }
  if done then pure () else throw .ioError

/-- `if (ret != ESP_OK) { undo; return ret; }` -/
def onError {α : Type} (x : DbM α) (undo : DbM Unit) : DbM α :=
  tryCatch x fun e => do
    undo
    throw e

end On9kvdb
