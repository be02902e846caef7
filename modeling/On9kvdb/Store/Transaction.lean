import On9kvdb.Store.Flush

/-!
# Transactions in memory

Staging (`stageValueUnsafe` and the overlay lookup), the preflight that decides whether a
transaction fits the memtable and the live-data limit, and the application of a durable
transaction to the memtable with its accounting.
-/

namespace On9kvdb

variable (cfg : Config)

/-! ## Preflight -/

/-- The running totals of `preflight_memtable_transaction_unsafe`. -/
structure PreflightTotals where
  finalBytes : ℕ
  finalEntries : ℕ
  finalLogicalStateBytes : ℕ

/-- `previous_state` of a version. -/
def previousStateOf (v : StoredValue) : PreviousState :=
  if v.isTombstone then .tombstone else .live

/-- The record size of a staged mutation in the memtable arena. -/
def Mutation.recordSize (m : Mutation) : ℕ :=
  align8 (memtableRecordHeaderSize + m.key.length + m.value.inlineSize)

/-- The newest committed version a mutation replaces, as the preflight finds it: with the arena
bytes the replaced record frees, and whether it sits in the memtable. -/
def findPrevious (db : Db) (m : Media) (namespaceIndex : ℕ) (namespaceName key : Bytes) :
    Except EspErr (Option MemtableRecord × Option StoredValue) := do
  match ← findMemtableBucketUnsafe cfg db namespaceIndex key with
  | .found _ r => return (some r, some r.value)
  | _ =>
      match lookupTablesUnsafe cfg db m ⟨namespaceName, key⟩ with
      | .ok view => return (none, some view.value)
      | .error .notFound => return (none, none)
      | .error e => .error e

/-- One round of the preflight loop. -/
def preflightMutation (db : Db) (m : Media) (namespaceIndex : ℕ) (namespaceName : Bytes)
    (t : PreflightTotals) (mutation : Mutation) : Except EspErr (PreflightTotals × Mutation) := do
  let (record, previous) ← findPrevious cfg db m namespaceIndex namespaceName mutation.key
  let mutation := { mutation with
    previousState := (previous.map previousStateOf).getD .none
    previousValueSize := (previous.map StoredValue.size).getD 0 }
  let finalBytes := t.finalBytes - (record.map MemtableRecord.recordSize).getD 0
  let finalEntries := if record.isSome then t.finalEntries else t.finalEntries + 1
  let previousSize := if previous.isSome then
    logicalRecordSize namespaceName.length mutation.key.length mutation.previousValueSize else 0
  rejectIf (t.finalLogicalStateBytes < previousSize) .invalidState
  rejectIf (cfg.limits.memtableDataBytes - finalBytes < mutation.recordSize) .noMem
  let finalLogicalStateBytes := t.finalLogicalStateBytes - previousSize +
    logicalRecordSize namespaceName.length mutation.key.length mutation.value.size
  rejectIf (cfg.geometry.maxLiveBytes < finalLogicalStateBytes) .noMem
  return (⟨finalBytes + mutation.recordSize, finalEntries, finalLogicalStateBytes⟩, mutation)

/-- The preflight loop. -/
def preflightMutations (db : Db) (m : Media) (namespaceIndex : ℕ) (namespaceName : Bytes) :
    PreflightTotals → List Mutation → Except EspErr (PreflightTotals × List Mutation)
  | t, [] => .ok (t, [])
  | t, mutation :: rest => do
      let (t, mutation) ← preflightMutation cfg db m namespaceIndex namespaceName t mutation
      let (t, rest) ← preflightMutations db m namespaceIndex namespaceName t rest
      return (t, mutation :: rest)

/-- `preflight_memtable_transaction_unsafe`: the mutations with their previous states. -/
def preflightMemtableTransactionUnsafe (db : Db) (m : Media) (namespaceName : Bytes)
    (mutations : List Mutation) : Except EspErr (List Mutation) := do
  rejectIf (validateBytes namespaceName = false ∨ mutations = []) .invalidArg
  let (namespaceIndex, _) ← ensureNamespaceCapacityUnsafe cfg db.namespaces namespaceName
  let (t, mutations) ← preflightMutations cfg db m namespaceIndex namespaceName
    ⟨db.memtable.dataUsed, db.memtable.entryCount, db.stats.logicalStateBytes⟩ mutations
  rejectIf (cfg.memtableEntryCount < t.finalEntries) .noMem
  return mutations

/-! ## Application -/

/-- The counters without one version of a key. -/
def Stats.without (s : Stats) (logicalSize valueSize : ℕ) : PreviousState → Stats
  | .none => s
  | .live =>
      { s with
        liveKeyCount := sub64 s.liveKeyCount 1
        logicalValueBytes := sub64 s.logicalValueBytes valueSize
        logicalStateBytes := sub64 s.logicalStateBytes logicalSize }
  | .tombstone =>
      { s with
        tombstoneCount := sub64 s.tombstoneCount 1
        logicalStateBytes := sub64 s.logicalStateBytes logicalSize }

/-- The counters with one more version of a key. -/
def Stats.with (s : Stats) (logicalSize : ℕ) (v : StoredValue) : Stats :=
  if v.isTombstone then
    { s with
      tombstoneCount := add64 s.tombstoneCount 1
      logicalStateBytes := add64 s.logicalStateBytes logicalSize }
  else
    { s with
      liveKeyCount := add64 s.liveKeyCount 1
      logicalValueBytes := add64 s.logicalValueBytes v.size
      logicalStateBytes := add64 s.logicalStateBytes logicalSize }

/-- `logical_record_size` of a key of the given namespace slot. -/
def slotRecordSize (db : Db) (namespaceSlotIndex keySize valueSize : ℕ) : ℕ :=
  logicalRecordSize (db.namespaces.getD namespaceSlotIndex []).length keySize valueSize

/-- The record a mutation becomes. -/
def mutationRecord (namespaceSlotIndex transactionSequence : ℕ) (m : Mutation) :
    MemtableRecord where
  hash := hashKeyUnsafe namespaceSlotIndex m.key
  transactionSequence := transactionSequence
  namespaceSlotIndex := namespaceSlotIndex
  key := m.key
  value := m.value

/-- Stores the record of a mutation in `bucket`, in place of `replaced`. -/
def storeRecord (db : Db) (bucket : ℕ) (replaced : Option MemtableRecord) (r : MemtableRecord)
    (stats : Stats) : Db :=
  { db with
    memtable :=
      { buckets := Function.update db.memtable.buckets bucket (some r)
        dataUsed := db.memtable.dataUsed - (replaced.map MemtableRecord.recordSize).getD 0 +
          r.recordSize
        entryCount := if replaced.isSome then db.memtable.entryCount
          else db.memtable.entryCount + 1 }
    stats := stats.with (slotRecordSize db r.namespaceSlotIndex r.key.length r.value.size)
      r.value }

/-- One round of `apply_transaction_to_memtable_unsafe`.  A record found in the memtable is
accounted by its own header, any other previous version by what the preflight recorded. -/
def applyMutation (db : Db) (namespaceSlotIndex transactionSequence : ℕ) (m : Mutation) :
    Except EspErr Db := do
  let r := mutationRecord namespaceSlotIndex transactionSequence m
  match ← findMemtableBucketUnsafe cfg db namespaceSlotIndex m.key with
  | .full => .error .noMem
  | .found bucket old =>
      return storeRecord db bucket (some old) r
        (db.stats.without (slotRecordSize db old.namespaceSlotIndex old.key.length old.value.size)
          old.value.size (previousStateOf old.value))
  | .free bucket =>
      return storeRecord db bucket none r
        (db.stats.without (slotRecordSize db namespaceSlotIndex m.key.length m.previousValueSize)
          m.previousValueSize m.previousState)

/-- The loop of `apply_transaction_to_memtable_unsafe`. -/
def applyMutations (namespaceSlotIndex transactionSequence : ℕ) :
    Db → List Mutation → Except EspErr Db
  | db, [] => .ok db
  | db, m :: rest => do
      let db ← applyMutation cfg db namespaceSlotIndex transactionSequence m
      applyMutations namespaceSlotIndex transactionSequence db rest

/-- `apply_transaction_to_memtable_unsafe`. -/
def applyTransactionToMemtableUnsafe (db : Db) (mutations : List Mutation)
    (namespaceSlotIndex transactionSequence : ℕ) : Except EspErr Db := do
  let db ← applyMutations cfg namespaceSlotIndex transactionSequence db mutations
  return { db with
    stats := { db.stats with
      committedTransactionCount := add64 db.stats.committedTransactionCount 1 } }

/-! ## Staging -/

/-- `find_staged_mutation_unsafe`. -/
def findStagedMutationUnsafe (t : TransactionSlot) (key : Bytes) : Option Mutation :=
  if validateBytes key then t.mutations.find? (fun m => m.key == key) else none

/-- `lookup_transaction_unsafe`: the staged mutation of the key, else the committed version. -/
def lookupTransactionUnsafe (db : Db) (m : Media) (namespaceName key : Bytes) :
    Except EspErr ValueView :=
  match findStagedMutationUnsafe db.transaction key with
  | some mutation => .ok ⟨0, mutation.value⟩
  | none => lookupCommittedUnsafe cfg db m ⟨namespaceName, key⟩

/-- `decode_handle_value`: the slot and the generation of a token. -/
def decodeHandleValue (raw : ℕ) : Option (ℕ × ℕ) :=
  let slotToken := raw % 512
  let generation := raw / 512
  if slotToken = 0 ∨ 256 < slotToken ∨ generation = 0 then none
  else some (slotToken - 1, generation)

/-- `make_handle_value`. -/
def makeHandleValue (slot generation : ℕ) : ℕ :=
  if 256 ≤ slot ∨ generation = 0 ∨ maxHandleGeneration < generation then 0
  else generation * 512 + (slot + 1)

/-- A slot and a generation within their ranges survive packing. -/
lemma decodeHandleValue_makeHandleValue {slot generation : ℕ} (hslot : slot < 256)
    (hpositive : generation ≠ 0) (hmax : generation ≤ maxHandleGeneration) :
    decodeHandleValue (makeHandleValue slot generation) = some (slot, generation) := by
  have hmake : makeHandleValue slot generation = generation * 512 + (slot + 1) := by
    unfold makeHandleValue
    rw [if_neg]
    omega
  have hslotToken : (generation * 512 + (slot + 1)) % 512 = slot + 1 := by omega
  have hgeneration : (generation * 512 + (slot + 1)) / 512 = generation := by omega
  unfold decodeHandleValue
  rw [hmake, hslotToken, hgeneration]
  dsimp only
  rw [if_neg (by omega), Nat.add_sub_cancel]

/-- No two tokens name the same slot and generation. -/
lemma decodeHandleValue_inj {raw raw' : ℕ} {token : ℕ × ℕ}
    (h : decodeHandleValue raw = some token) (h' : decodeHandleValue raw' = some token) :
    raw = raw' := by
  unfold decodeHandleValue at h h'
  dsimp only at h h'
  split_ifs at h h'
  rw [← h] at h'
  have htoken := Prod.mk.inj (Option.some.inj h')
  omega

/-- `get_handle_slot_unsafe`. -/
def getHandleSlotUnsafe (db : Db) (raw : ℕ) : Except EspErr (ℕ × HandleSlot) :=
  match decodeHandleValue raw with
  | none => .error .invalidArg
  | some (slot, generation) =>
      let handle := db.handles slot
      if cfg.limits.maxOpenHandles ≤ slot ∨ handle.used = false ∨
          handle.generation ≠ generation then .error .invalidArg
      else .ok (slot, handle)

/-- `get_transaction_unsafe`: checks the token; the handle of the transaction is returned. -/
def getTransactionUnsafe (db : Db) (raw : ℕ) : Except EspErr HandleSlot :=
  match decodeHandleValue raw with
  | none => .error .invalidArg
  | some (slot, generation) =>
      if slot ≠ 0 ∨ db.transaction.active = false ∨ db.transaction.generation ≠ generation then
        .error .invalidArg
      else if cfg.limits.maxOpenHandles ≤ db.transaction.handleSlotIndex then
        .error .invalidState
      else
        let handle := db.handles db.transaction.handleSlotIndex
        if handle.used = false ∨ handle.generation ≠ db.transaction.handleGeneration ∨
            handle.transactionActive = false then .error .invalidState
        else .ok handle

/-- `clear_transaction_unsafe`. -/
def clearTransactionUnsafe (db : Db) : Db :=
  let t := db.transaction
  let handle := db.handles t.handleSlotIndex
  { db with
    handles :=
      if t.active = true ∧ t.handleSlotIndex < cfg.limits.maxOpenHandles ∧ handle.used = true ∧
          handle.generation = t.handleGeneration then
        Function.update db.handles t.handleSlotIndex { handle with transactionActive := false }
      else db.handles
    transaction := { generation := t.generation } }

/-- The mutation list with the mutation of `key` replaced, or a new one at the end. -/
def putMutation (mutations : List Mutation) (key : Bytes) (v : StoredValue) : List Mutation :=
  if mutations.any (fun m => m.key == key) then
    mutations.map fun m => if m.key = key then { m with value := v } else m
  else mutations ++ [⟨key, v, .none, 0⟩]

/-- `stage_value_unsafe` for an inline value or a tombstone. -/
def stageValueUnsafe (db : Db) (raw : ℕ) (key : Bytes) (v : StoredValue) : Except EspErr Db := do
  rejectIf (validateBytes key = false ∨ cfg.inlineValueLen < v.inlineSize) .invalidArg
  let _ ← getTransactionUnsafe cfg db raw
  let staged := findStagedMutationUnsafe db.transaction key
  let oldValueSize := (staged.map fun m => m.value.inlineSize).getD 0
  let newStagedSize := db.transaction.stagedValueBytes - oldValueSize + v.inlineSize
  rejectIf (cfg.limits.transactionStagingBytes < newStagedSize) .invalidSize
  rejectIf (staged = none ∧
    cfg.limits.maxTransactionMutations ≤ db.transaction.mutations.length) .invalidSize
  return { db with
    transaction := { db.transaction with
      mutations := putMutation db.transaction.mutations key v
      stagedValueBytes := newStagedSize } }

/-- `stage_external_value_unsafe`: stages an empty value and turns it into a descriptor. -/
def stageExternalValueUnsafe (db : Db) (raw : ℕ) (key : Bytes) (r : ValueRef) :
    Except EspErr Db := do
  rejectIf (valueRefMatchesBankUnsafe cfg r db.manifest.activeValueBank
      (db.manifest.valueBankGeneration db.manifest.activeValueBank)
      cfg.geometry.valueBankSize = false) .invalidArg
  let db ← stageValueUnsafe cfg db raw key (.inline [])
  return { db with
    transaction := { db.transaction with
      mutations := putMutation db.transaction.mutations key (.external r) } }

end On9kvdb
