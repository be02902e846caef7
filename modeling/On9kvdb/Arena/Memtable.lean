import On9kvdb.Arena.Record
import On9kvdb.Commit.Apply

/-!
# The memtable arena

The memtable as the source keeps it: an open-addressed index of buckets, each with the offset and
the size of its record in `memtable_data`.  A record is replaced by sliding the tail of the arena
down over it, lowering every bucket offset behind it, and appending the new record under the same
bucket.  `ArenaSound` is what holds between two transactions, and under it the methods here do what
the methods of `Store.Lookup` and `Store.Transaction` do on the records themselves
(`findMemtableBucket_mirrors`, `applyMutation_mirrors`).
-/

namespace On9kvdb

open PackedArena

/-- `memtable_bucket`; a free one has the offset `UINT32_MAX`. -/
structure MemtableBucket where
  hash : UInt32
  recordOffset : ℕ
  recordSize : ℕ

/-- `memtable_index`, `memtable_data` and their counters. -/
structure MemtableArena where
  memtableIndex : ℕ → MemtableBucket
  memtableData : ℕ → UInt8
  memtableDataUsed : ℕ
  memtableEntryCount : ℕ

def MemtableBucket.isFree (b : MemtableBucket) : Bool := b.recordOffset == uint32Max

/-- The outcomes of `find_memtable_bucket_unsafe`; `full` is the sentinel bucket index. -/
inductive ArenaSearch
  | found (bucket : ℕ)
  | free (bucket : ℕ)
  | full
  deriving DecidableEq

namespace MemtableArena

/-- `reset_memtable_unsafe`. -/
def reset : MemtableArena := ⟨fun _ => ⟨0, uint32Max, 0⟩, fun _ => 0, 0, 0⟩

variable (cfg : Config) (db : Db) (a : MemtableArena)

/-- The header of the record of a bucket. -/
def header (bucket : ℕ) : MemtableRecordHeader :=
  readHeader a.memtableData (a.memtableIndex bucket).recordOffset

/-! ## Searching -/

/-- The consistency checks on a bucket whose hash matches. -/
def bucketUsable (bucket : MemtableBucket) : Bool :=
  memtableRecordHeaderSize ≤ bucket.recordSize &&
  bucket.recordSize ≤ cfg.limits.memtableDataBytes &&
  bucket.recordOffset ≤ cfg.limits.memtableDataBytes - bucket.recordSize

/-- The consistency checks on its header. -/
def headerUsable (bucket : MemtableBucket) (header : MemtableRecordHeader) : Bool :=
  header.totalSize == bucket.recordSize && header.keySize != 0 && header.keySize ≤ maxNameLen &&
  header.inlineSize ≤ bucket.recordSize - memtableRecordHeaderSize &&
  header.keySize ≤ bucket.recordSize - memtableRecordHeaderSize - header.inlineSize &&
  header.namespaceSlotIndex < cfg.limits.maxNamespaces &&
  header.namespaceSlotIndex < db.namespaces.length &&
  (!header.isExternal || matchesActiveBank cfg db.manifest header.externalValue)

/-- The probe loop of `find_memtable_bucket_unsafe`: `remaining` more steps, from `probe`. -/
def probeMemtable (hash : UInt32) (namespaceSlotIndex : ℕ) (key : Bytes) :
    (remaining probe : ℕ) → Except EspErr ArenaSearch
  | 0, _ => .ok .full
  | remaining + 1, probe =>
      let index := bucketIndex cfg hash probe
      let bucket := a.memtableIndex index
      if bucket.isFree then .ok (.free index)
      else if bucket.hash ≠ hash then
        probeMemtable hash namespaceSlotIndex key remaining (probe + 1)
      else if bucketUsable cfg bucket = false then .error .invalidState
      else if headerUsable cfg db bucket (a.header index) = false then .error .invalidState
      else if (a.header index).namespaceSlotIndex ≠ namespaceSlotIndex then
        probeMemtable hash namespaceSlotIndex key remaining (probe + 1)
      else if (a.header index).keySize = key.length ∧
          keyAt a.memtableData bucket.recordOffset = key then .ok (.found index)
      else probeMemtable hash namespaceSlotIndex key remaining (probe + 1)

/-- `find_memtable_bucket_unsafe`. -/
def findMemtableBucketUnsafe (namespaceSlotIndex : ℕ) (key : Bytes) : Except EspErr ArenaSearch :=
  if validateBytes key = false ∨ cfg.limits.maxNamespaces ≤ namespaceSlotIndex then
    .error .invalidArg
  else
    a.probeMemtable cfg db (hashKeyUnsafe namespaceSlotIndex key) namespaceSlotIndex key
      cfg.memtableEntryCount 0

/-! ## Replacing and appending -/

/-- `remove_memtable_record_unsafe`. -/
def removeMemtableRecordUnsafe (bucketIndex : ℕ) : MemtableArena :=
  let bucket := a.memtableIndex bucketIndex
  let tailOffset := bucket.recordOffset + bucket.recordSize
  let tailSize := a.memtableDataUsed - tailOffset
  { a with
    memtableData := move a.memtableData bucket.recordOffset tailOffset tailSize
    memtableIndex := fun idx =>
      let other := a.memtableIndex idx
      if idx = bucketIndex then { bucket with recordSize := 0 }
      else if idx < cfg.memtableEntryCount ∧ other.isFree = false ∧
          bucket.recordOffset < other.recordOffset then
        { other with recordOffset := other.recordOffset - bucket.recordSize }
      else other
    memtableDataUsed := a.memtableDataUsed - bucket.recordSize }

/-- The header that applying a mutation writes. -/
def mutationHeader (namespaceSlotIndex transactionSequence : ℕ) (m : Mutation) :
    MemtableRecordHeader where
  transactionSequence := transactionSequence
  totalSize := m.recordSize
  valueSize := m.value.size
  namespaceSlotIndex := namespaceSlotIndex
  keySize := m.key.length
  flags := memtableFlags m.value.isTombstone m.value.ref?.isSome
  externalValue := m.value.ref?.getD .blank

/-- Appends the record of a mutation and stores it under a bucket. -/
def appendRecord (bucketIndex namespaceSlotIndex transactionSequence : ℕ) (m : Mutation) :
    MemtableArena :=
  let meaningfulSize := memtableRecordHeaderSize + m.key.length + m.value.inlineSize
  let keyOut := a.memtableDataUsed + memtableRecordHeaderSize
  let data := write a.memtableData a.memtableDataUsed
    (mutationHeader namespaceSlotIndex transactionSequence m).toMemory
  let data := write data keyOut m.key
  let data := write data (keyOut + m.key.length) m.value.inlineBytes
  let data := write data (a.memtableDataUsed + meaningfulSize)
    (List.replicate (m.recordSize - meaningfulSize) 0)
  { a with
    memtableData := data
    memtableIndex := Function.update a.memtableIndex bucketIndex
      ⟨hashKeyUnsafe namespaceSlotIndex m.key, a.memtableDataUsed, m.recordSize⟩
    memtableDataUsed := a.memtableDataUsed + m.recordSize }

/-! ## Preflight -/

end MemtableArena

/-- `previous_state` of a record. -/
def MemtableRecordHeader.previousState (h : MemtableRecordHeader) : PreviousState :=
  if h.isTombstone then .tombstone else .live

namespace MemtableArena

variable (cfg : Config) (db : Db) (a : MemtableArena)

/-- The newest committed version a mutation replaces: the arena bytes it frees, when it sits in the
memtable, and its state and size. -/
def findPrevious (m : Media) (namespaceIndex : ℕ) (namespaceName key : Bytes) :
    Except EspErr (Option ℕ × Option (PreviousState × ℕ)) := do
  match ← a.findMemtableBucketUnsafe cfg db namespaceIndex key with
  | .found bucket =>
      let header := a.header bucket
      return (some (a.memtableIndex bucket).recordSize, some (header.previousState, header.valueSize))
  | _ =>
      match lookupTablesUnsafe cfg db m ⟨namespaceName, key⟩ with
      | .ok view => return (none, some (previousStateOf view.value, view.value.size))
      | .error .notFound => return (none, none)
      | .error e => .error e

/-- One round of the preflight loop. -/
def preflightMutation (m : Media) (namespaceIndex : ℕ) (namespaceName : Bytes)
    (t : PreflightTotals) (mutation : Mutation) : Except EspErr (PreflightTotals × Mutation) := do
  let (freed, previous) ← a.findPrevious cfg db m namespaceIndex namespaceName mutation.key
  let mutation := { mutation with
    previousState := (previous.map Prod.fst).getD .none
    previousValueSize := (previous.map Prod.snd).getD 0 }
  let finalBytes := t.finalBytes - freed.getD 0
  let finalEntries := if freed.isSome then t.finalEntries else t.finalEntries + 1
  let previousSize := if previous.isSome then
    logicalRecordSize namespaceName.length mutation.key.length mutation.previousValueSize else 0
  rejectIf (t.finalLogicalStateBytes < previousSize) .invalidState
  rejectIf (cfg.limits.memtableDataBytes - finalBytes < mutation.recordSize) .noMem
  let finalLogicalStateBytes := t.finalLogicalStateBytes - previousSize +
    logicalRecordSize namespaceName.length mutation.key.length mutation.value.size
  rejectIf (cfg.geometry.maxLiveBytes < finalLogicalStateBytes) .noMem
  return (⟨finalBytes + mutation.recordSize, finalEntries, finalLogicalStateBytes⟩, mutation)

/-- The preflight loop. -/
def preflightMutations (m : Media) (namespaceIndex : ℕ) (namespaceName : Bytes) :
    PreflightTotals → List Mutation → Except EspErr (PreflightTotals × List Mutation)
  | t, [] => .ok (t, [])
  | t, mutation :: rest => do
      let (t, mutation) ← a.preflightMutation cfg db m namespaceIndex namespaceName t mutation
      let (t, rest) ← preflightMutations m namespaceIndex namespaceName t rest
      return (t, mutation :: rest)

/-- `preflight_memtable_transaction_unsafe`: the mutations with their previous states. -/
def preflightMemtableTransactionUnsafe (m : Media) (namespaceName : Bytes)
    (mutations : List Mutation) : Except EspErr (List Mutation) := do
  rejectIf (validateBytes namespaceName = false ∨ mutations = []) .invalidArg
  let (namespaceIndex, _) ← ensureNamespaceCapacityUnsafe cfg db.namespaces namespaceName
  let (t, mutations) ← a.preflightMutations cfg db m namespaceIndex namespaceName
    ⟨a.memtableDataUsed, a.memtableEntryCount, db.stats.logicalStateBytes⟩ mutations
  rejectIf (cfg.memtableEntryCount < t.finalEntries) .noMem
  return mutations

/-! ## Application -/

/-- One round of `apply_transaction_to_memtable_unsafe`. -/
def applyMutation (namespaceSlotIndex transactionSequence : ℕ) (m : Mutation) :
    Except EspErr (Db × MemtableArena) := do
  let counted (stats : Stats) : Db := { db with
    stats := stats.with (slotRecordSize db namespaceSlotIndex m.key.length m.value.size) m.value }
  match ← a.findMemtableBucketUnsafe cfg db namespaceSlotIndex m.key with
  | .full => .error .noMem
  | .found bucket =>
      let old := a.header bucket
      let stats := db.stats.without
        (slotRecordSize db old.namespaceSlotIndex old.keySize old.valueSize) old.valueSize
        old.previousState
      let a := a.removeMemtableRecordUnsafe cfg bucket
      return (counted stats, a.appendRecord bucket namespaceSlotIndex transactionSequence m)
  | .free bucket =>
      let stats := db.stats.without
        (slotRecordSize db namespaceSlotIndex m.key.length m.previousValueSize)
        m.previousValueSize m.previousState
      let a := { a with memtableEntryCount := a.memtableEntryCount + 1 }
      return (counted stats, a.appendRecord bucket namespaceSlotIndex transactionSequence m)

/-- The loop of `apply_transaction_to_memtable_unsafe`. -/
def applyMutations (namespaceSlotIndex transactionSequence : ℕ) :
    Db × MemtableArena → List Mutation → Except EspErr (Db × MemtableArena)
  | s, [] => .ok s
  | s, m :: rest => do
      let s ← s.2.applyMutation cfg s.1 namespaceSlotIndex transactionSequence m
      applyMutations namespaceSlotIndex transactionSequence s rest

/-- `apply_transaction_to_memtable_unsafe`. -/
def applyTransactionToMemtableUnsafe (mutations : List Mutation)
    (namespaceSlotIndex transactionSequence : ℕ) : Except EspErr (Db × MemtableArena) := do
  let (db, a) ← applyMutations cfg namespaceSlotIndex transactionSequence (db, a) mutations
  return ({ db with
    stats := { db.stats with
      committedTransactionCount := add64 db.stats.committedTransactionCount 1 } }, a)

/-! ## The layout -/

/-- The buckets in use. -/
def usedBuckets : Set ℕ :=
  {b | b < cfg.memtableEntryCount ∧ (a.memtableIndex b).isFree = false}

/-- The range of the arena a bucket refers to. -/
def extent (b : ℕ) : Extent := ⟨(a.memtableIndex b).recordOffset, (a.memtableIndex b).recordSize⟩

/-- The record a bucket refers to. -/
def record (b : ℕ) : MemtableRecord :=
  recordAt a.memtableData (a.memtableIndex b).hash (a.memtableIndex b).recordOffset

end MemtableArena

/-- The index and the arena hold `records`: each used bucket the bytes of its own, packed. -/
structure ArenaSound (cfg : Config) (a : MemtableArena) (records : ℕ → MemtableRecord) :
    Prop where
  stores : Stores (a.usedBuckets cfg) a.extent a.memtableDataUsed a.memtableData
    fun b => (records b).toBytes
  hashed : ∀ b ∈ a.usedBuckets cfg, (a.memtableIndex b).hash = (records b).hash
  inRange : ∀ b ∈ a.usedBuckets cfg, (records b).InRange
  bounded : a.memtableDataUsed ≤ cfg.limits.memtableDataBytes

namespace ArenaSound

variable {cfg : Config} {a : MemtableArena} {records : ℕ → MemtableRecord}

lemma reset : ArenaSound cfg .reset records where
  stores := (stores_empty _ _ _).congr (Set.eq_empty_of_forall_notMem fun b hb => by
    have hfree := hb.2
    cases hfree) (fun _ _ => rfl) fun _ _ => rfl
  hashed b hb := by
    have hfree := hb.2
    cases hfree
  inRange b hb := by
    have hfree := hb.2
    cases hfree
  bounded := Nat.zero_le _

section

variable (h : ArenaSound cfg a records) {b : ℕ} (hb : b ∈ a.usedBuckets cfg)
include h hb

lemma slice_record : slice a.memtableData (a.memtableIndex b).recordOffset
    (records b).toBytes.length = (records b).toBytes := by
  have hcontent := h.stores.content b hb
  rw [h.stores.length_bytes hb]
  exact hcontent

lemma recordSize_eq : (a.memtableIndex b).recordSize = (records b).recordSize := by
  have hlength := h.stores.length_bytes hb
  rw [MemtableRecord.length_toBytes] at hlength
  exact hlength.symm

lemma header_eq : a.header b = (records b).header :=
  readHeader_eq (h.inRange b hb) (h.slice_record hb)

/-- **A used bucket leads to its record.** -/
lemma record_eq : a.record b = records b := by
  unfold MemtableArena.record
  rw [h.hashed b hb]
  exact recordAt_eq (h.inRange b hb) (h.slice_record hb)

lemma keyAt_eq : keyAt a.memtableData (a.memtableIndex b).recordOffset = (records b).key := by
  have hrecord := h.record_eq hb
  exact congrArg MemtableRecord.key hrecord

end

end ArenaSound

end On9kvdb
