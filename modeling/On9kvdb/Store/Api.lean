import On9kvdb.Store.Provision
import On9kvdb.Store.Recovery
import On9kvdb.Store.Stream

/-!
# Calls, runs and power losses

The public methods, and what a run of them is.  `perform` executes one call; an `Action` is a call
or a power loss, which replaces the instance by a new object and the media by one of the images
the device may have kept.  A run starts from a database that has just been provisioned.
-/

namespace On9kvdb

variable (cfg : Config)

/-! ## Lifecycle -/

/-- `acquire_operation_lock`. -/
def acquireOperationLock : DbM Unit := do
  let db ← getDb
  failIf (db.initialized = false ∨ db.storageFaulted = true) .invalidState

/-- `close_storage_unsafe`. -/
def closeStorageUnsafe : DbM Unit :=
  modifyDb fun db => Db.closed db.handleGenerationCounter db.transactionGenerationCounter

/-- `init`. -/
def init : DbM Unit := do
  let db ← getDb
  failIf (db.initialized = true) .invalidState
  onError
    (do
      initialiseStorage cfg
      recoverWal cfg)
    closeStorageUnsafe
  modifyDb fun db => { db with initialized := true }

/-- `resources_busy`. -/
def resourcesBusy (db : Db) : Bool :=
  db.transaction.active ||
  (List.range cfg.limits.maxOpenHandles).any (fun index => (db.handles index).used) ||
  (List.range cfg.maxValueReaders).any (fun index => (db.valueReaders index).used) ||
  db.valueWriter.active

/-- `deinit`. -/
def deinit (force : Bool) : DbM Unit := do
  let db ← getDb
  if db.initialized then
    failIf (resourcesBusy cfg db = true ∧ force = false) .invalidState
    closeStorageUnsafe

/-! ## Handles and transactions -/

/-- Whether a namespace may be opened: it exists, or a writer has room to create it. -/
def checkNamespace (namespaces : List Bytes) (name : Bytes) (mode : OpenMode) :
    Except EspErr Unit :=
  match findNamespaceUnsafe namespaces name with
  | .ok _ => .ok ()
  | .error .notFound =>
      if mode = .readWrite then
        (ensureNamespaceCapacityUnsafe cfg namespaces name).map fun _ => ()
      else .error .notFound
  | .error e => .error e

/-- `open`. -/
def openNamespace (name : Bytes) (mode : OpenMode) : DbM ℕ := do
  failIf (validateBytes name = false) .invalidArg
  acquireOperationLock
  let db ← getDb
  liftResult (checkNamespace cfg db.namespaces name mode)
  match (List.range cfg.limits.maxOpenHandles).find? fun index => !(db.handles index).used with
  | none => throw .noMem
  | some index => do
      let generation := db.handleGenerationCounter
      failIf (generation = 0) .invalidState
      modifyDb fun db => { db with
        handleGenerationCounter := nextGeneration generation
        handles := Function.update db.handles index
          { generation := generation, used := true, mode := mode, namespaceName := name } }
      return makeHandleValue index generation

/-- `close` of a namespace handle. -/
def closeHandle (raw : ℕ) : DbM Unit := do
  acquireOperationLock
  let db ← getDb
  let (index, handle) ← liftResult (getHandleSlotUnsafe cfg db raw)
  failIf (handle.transactionActive = true) .invalidState
  modifyDb fun db => { db with
    handles := Function.update db.handles index { generation := handle.generation } }

/-- `begin`. -/
def beginTransaction (raw : ℕ) : DbM ℕ := do
  acquireOperationLock
  let db ← getDb
  let (index, handle) ← liftResult (getHandleSlotUnsafe cfg db raw)
  failIf (handle.mode ≠ .readWrite) .notAllowed
  failIf (db.transaction.active = true ∨ handle.transactionActive = true) .invalidState
  let generation := db.transactionGenerationCounter
  failIf (generation = 0) .invalidState
  modifyDb fun db => { db with
    transactionGenerationCounter := nextGeneration generation
    transaction :=
      { generation := generation
        handleSlotIndex := index
        handleGeneration := handle.generation
        active := true }
    handles := Function.update db.handles index { handle with transactionActive := true } }
  return makeHandleValue 0 generation

/-- Whether a value writer belongs to this transaction. -/
def writerOfTransaction (db : Db) (raw : ℕ) : Bool :=
  db.valueWriter.active && db.valueWriter.transactionHandleRaw == raw

/-- `abort`. -/
def abort (raw : ℕ) : DbM Unit := do
  acquireOperationLock
  let db ← getDb
  let _ ← liftResult (getTransactionUnsafe cfg db raw)
  failIf (writerOfTransaction db raw = true) .invalidState
  modifyDb (clearTransactionUnsafe cfg)

/-- The staged mutations with their previous states: `preflight_memtable_transaction_unsafe` on
the active transaction. -/
def preflightTransaction (namespaceName : Bytes) : DbM Unit := do
  let mutations ← readStorage fun db m =>
    preflightMemtableTransactionUnsafe cfg db m namespaceName db.transaction.mutations
  modifyDb fun db => { db with transaction := { db.transaction with mutations := mutations } }

/-- Publishes the namespace and applies the active transaction under the next sequence. -/
def publishTransaction (namespaceName : Bytes) : DbM Unit := do
  let db ← getDb
  let (namespaceIndex, namespaces) ←
    liftResult (ensureNamespaceCapacityUnsafe cfg db.namespaces namespaceName)
  modifyDb fun db => { db with namespaces := namespaces }
  let db ← getDb
  let db ← liftResult (applyTransactionToMemtableUnsafe cfg db db.transaction.mutations
    namespaceIndex db.nextTransactionSequence)
  modifyDb fun _ => clearTransactionUnsafe cfg
    { db with nextTransactionSequence := db.nextTransactionSequence + 1 }

/-- The sync in front of a commit that may reference chunks of a dirty bank. -/
def syncDirtyBanks : DbM Unit := do
  let db ← getDb
  if db.valueBankDirtyMask ≠ 0 then
    syncStorage
    modifyDb fun db => { db with valueBankDirtyMask := 0 }

/-- The part of `commit` for a transaction with mutations. -/
def commitMutations (namespaceName : Bytes) : DbM Unit := do
  tryCatch (preflightTransaction cfg namespaceName) fun e => do
    let db ← getDb
    if e = .noMem ∧ 0 < db.memtable.entryCount then
      flushMemtableUnsafe cfg
      preflightTransaction cfg namespaceName
    else throw e
  syncDirtyBanks
  appendTransactionUnsafe cfg namespaceName
  -- The transaction is durable: an error from here on needs recovery to publish it.
  onError (publishTransaction cfg namespaceName)
    (modifyDb fun db => clearTransactionUnsafe cfg { db with storageFaulted := true })

/-- `commit`. -/
def commit (raw : ℕ) : DbM Unit := do
  acquireOperationLock
  let db ← getDb
  let handle ← liftResult (getTransactionUnsafe cfg db raw)
  failIf (writerOfTransaction db raw = true) .invalidState
  if db.transaction.mutations = [] then modifyDb (clearTransactionUnsafe cfg)
  else commitMutations cfg handle.namespaceName

/-! ## Staging -/

/-- The branch of `set` for an external value. -/
def setExternal (raw : ℕ) (key value : Bytes) : DbM Unit :=
  onError
    (do
      let _ ← beginValueWriteUnsafe cfg raw key value.length
      writeValueUnsafe value
      finishValueWriteUnsafe cfg)
    (do
      let db ← getDb
      if db.valueWriter.active then resetWriter)

/-- `set`. -/
def set (raw : ℕ) (key value : Bytes) : DbM Unit := do
  failIf (validateBytes key = false ∨ maxValueLen < value.length) .invalidArg
  acquireOperationLock
  if value.length ≤ cfg.inlineValueLen then do
    let db ← getDb
    let db ← liftResult (stageValueUnsafe cfg db raw key (.inline value))
    modifyDb fun _ => db
  else setExternal cfg raw key value

/-- `erase_key`. -/
def eraseKey (raw : ℕ) (key : Bytes) : DbM Unit := do
  failIf (validateBytes key = false) .invalidArg
  acquireOperationLock
  let db ← getDb
  let handle ← liftResult (getTransactionUnsafe cfg db raw)
  let view ← readStorage fun db m => lookupTransactionUnsafe cfg db m handle.namespaceName key
  failIf (view.value.isTombstone = true) .notFound
  let db ← getDb
  let db ← liftResult (stageValueUnsafe cfg db raw key .tombstone)
  modifyDb fun _ => db

/-! ## Calls -/

/-- The calls of the public interface.  Tokens are passed as their raw values. -/
inductive Call
  | init
  | deinit (force : Bool)
  | openNamespace (name : Bytes) (mode : OpenMode)
  | closeHandle (raw : ℕ)
  | begin (raw : ℕ)
  | set (raw : ℕ) (key value : Bytes)
  | eraseKey (raw : ℕ) (key : Bytes)
  | beginValueWrite (raw : ℕ) (key : Bytes) (valueSize : ℕ)
  | writeValue (raw : ℕ) (data : Bytes)
  | finishValueWrite (raw : ℕ)
  | abortValueWrite (raw : ℕ)
  | commit (raw : ℕ)
  | abort (raw : ℕ)
  | openValue (raw : ℕ) (key : Bytes)
  | peekValue (raw : ℕ)
  | readValueInto (raw size : ℕ)
  | consumeValue (raw size : ℕ)
  | seekValue (raw offset : ℕ)
  | closeReader (raw : ℕ)
  deriving DecidableEq

/-- What a successful call returns. -/
inductive Reply
  | done
  | token (raw : ℕ)
  | data (bytes : Bytes)
  deriving DecidableEq

/-- A method on an open writer. -/
def withWriter (raw : ℕ) (x : DbM Unit) : DbM Unit := do
  acquireOperationLock
  let db ← getDb
  liftResult (getValueWriterUnsafe db raw)
  x

/-- A method on an open reader. -/
def withReader {α : Type} (raw : ℕ) (x : ℕ → DbM α) : DbM α := do
  acquireOperationLock
  let db ← getDb
  let index ← liftResult (getValueReaderUnsafe cfg db raw)
  x index

/-- `open_value`. -/
def openValue (raw : ℕ) (key : Bytes) : DbM ℕ := do
  failIf (validateBytes key = false) .invalidArg
  acquireOperationLock
  let db ← getDb
  let (_, handle) ← liftResult (getHandleSlotUnsafe cfg db raw)
  let view ← readStorage fun db m => lookupCommittedUnsafe cfg db m ⟨handle.namespaceName, key⟩
  openValueUnsafe cfg view

/-- One call. -/
def perform : Call → DbM Reply
  | .init => do init cfg; return .done
  | .deinit force => do deinit cfg force; return .done
  | .openNamespace name mode => .token <$> openNamespace cfg name mode
  | .closeHandle raw => do closeHandle cfg raw; return .done
  | .begin raw => .token <$> beginTransaction cfg raw
  | .set raw key value => do set cfg raw key value; return .done
  | .eraseKey raw key => do eraseKey cfg raw key; return .done
  | .beginValueWrite raw key valueSize => do
      acquireOperationLock
      .token <$> beginValueWriteUnsafe cfg raw key valueSize
  | .writeValue raw data => do withWriter raw (writeValueUnsafe data); return .done
  | .finishValueWrite raw => do withWriter raw (finishValueWriteUnsafe cfg); return .done
  | .abortValueWrite raw => do withWriter raw resetWriter; return .done
  | .commit raw => do commit cfg raw; return .done
  | .abort raw => do abort cfg raw; return .done
  | .openValue raw key => .token <$> openValue cfg raw key
  | .peekValue raw => .data <$> withReader cfg raw peekValueUnsafe
  | .readValueInto raw size => .data <$> withReader cfg raw fun i => readValueIntoUnsafe i size
  | .consumeValue raw size => do
      withReader cfg raw fun i => consumeValueUnsafe i size
      return .done
  | .seekValue raw offset => do
      withReader cfg raw fun i => seekValueUnsafe i offset
      return .done
  | .closeReader raw => do
      withReader cfg raw fun i => do
        let r := (← getDb).valueReaders i
        setReader i { generation := r.generation }
      return .done

/-! ## Runs -/

/-- One step of a run. -/
inductive Action
  | call (c : Call)
  /-- A power loss that keeps the image of this index, counted from the newest. -/
  | powerLoss (kept : ℕ)
  deriving DecidableEq

/-- The outcome of an action; a power loss reports nothing. -/
abbrev Outcome := Option (Except EspErr Reply)

/-- Performs an action. -/
def act (w : World) : Action → Outcome × World
  | .call c =>
      let (result, w') := Exceptional.exec (perform cfg c) w
      (some result, w')
  | .powerLoss kept =>
      (none, ⟨Db.closed 1 1, w.dev.crash (w.dev.images.getD kept w.dev.durable)⟩)

/-- A run: each action with its outcome, and the state at the end. -/
def run : World → List Action → List (Action × Outcome) × World
  | w, [] => ([], w)
  | w, a :: rest =>
      let (outcome, w') := act cfg w a
      let (trace, w'') := run w' rest
      ((a, outcome) :: trace, w'')

/-! ## The start -/

/-- The ready manifest that provisioning publishes, under generation 3 and then 4. -/
def provisionedRecord (databaseId generation : ℕ) : ManifestRecord where
  generation := generation
  databaseId := databaseId
  state := .ready
  geometry := cfg.geometry
  limits := cfg.limits
  activeWalSlot := 0
  walGeneration := Function.update (fun _ => 0) 0 1
  safeCheckpointSequence := 0
  nextTableGeneration := 1
  activeTableBank := 0
  activeValueBank := 0
  valueBankGeneration := fun _ => 1
  valueBankTail := fun _ => identityRegionSize
  tables := fun _ => none

/-- A record that was written, or blank media when there is none. -/
def writtenOrBlank {α : Type} : Option α → Cell α
  | some a => .ok a
  | none => .error .invalidMagic

/-- The provisioned range before the first commit. -/
def provisionedMedia (databaseId : ℕ) : Media where
  blank := none
  manifestCopy slot := writtenOrBlank
    (if slot < manifestSlotCount then
      encodeManifestRecord (provisionedRecord cfg databaseId (slot + 3)) else none)
  identity kind slot copySlot := writtenOrBlank
    (if slot < cfg.geometry.dataFileCount kind ∧ copySlot < identitySlotCount then
      encodeFileIdentity 1 databaseId (cfg.geometry.dataFileSize kind) slot else none)
  walHeader slot copySlot := writtenOrBlank
    (if slot = 0 ∧ copySlot < walHeaderSlotCount then
      encodeWalHeader databaseId 1 1 0 cfg.geometry.walSize else none)
  walFrame _ _ := .error .invalidMagic
  tableHeader _ _ := .error .invalidMagic
  tableFooter _ := .error .invalidMagic
  tableBlock _ _ := .error .invalidMagic
  tableIndex _ := .error .invalidMagic
  valueChunk _ _ := .error .invalidMagic

/-- A new object on a provisioned device that will fail as `faults` says. -/
def start (databaseId : ℕ) (faults : ℕ → Fault) (scrap : ℕ → Bytes)
    (entropy : ℕ → {id : ℕ // id ≠ 0}) : World where
  db := Db.closed 1 1
  dev := .boot (provisionedMedia cfg databaseId) faults scrap entropy

/-- The states of runs on a provisioned database. -/
def Reachable (w : World) : Prop :=
  ∃ databaseId faults scrap entropy actions, databaseId ≠ 0 ∧
    w = (run cfg (start cfg databaseId faults scrap entropy) actions).2

end On9kvdb
