import On9kvdb.Format.Records

/-!
# Transaction payloads

The byte stream a committed transaction leaves in the WAL: a header, the namespace, and for each
mutation a checksummed 32-byte header, the key and the inline value bytes.  The writer never
holds the stream; it copies windows of it (`copyTransactionPayload`), segment by segment.
`parseRecoveredTransactionUnsafe` reads the stream back during recovery.
-/

namespace On9kvdb

/-- `previous_state_none`, `previous_state_live`, `previous_state_tombstone`. -/
inductive PreviousState
  | none
  | live
  | tombstone
  deriving DecidableEq, Repr

/-- `mutation_slot`: a staged change.  The staging arena is represented by the value bytes
themselves. -/
structure Mutation where
  key : Bytes
  value : StoredValue
  previousState : PreviousState := .none
  previousValueSize : ℕ := 0
  deriving DecidableEq, Repr

@[simp] def transactionHeaderSize : ℕ := 8
@[simp] def mutationHeaderSize : ℕ := 32

/-- `max_transaction_payload_size`. -/
def maxTransactionPayloadSize (cfg : Config) : ℕ :=
  cfg.limits.transactionStagingBytes + transactionHeaderSize + maxNameLen +
    cfg.limits.maxTransactionMutations * (mutationHeaderSize + maxNameLen)

/-! ## Writing -/

/-- `mutation_kind_set` and `mutation_kind_tombstone`. -/
def StoredValue.kind : StoredValue → UInt8
  | tombstone => 2
  | _ => 1

/-- Bytes 8 to 27 of a mutation header: the descriptor of an external value, or zeroes. -/
def mutationReference : StoredValue → Bytes
  | .external r =>
      [1, UInt8.ofNat r.bankSlot, 0, 0] ++ leBytes 8 r.bankGeneration ++
        leBytes 4 r.firstChunkOffset ++ leBytes 4 r.valueChecksum.toNat
  | _ => List.replicate 20 0

/-- The 28 header bytes in front of the checksum. -/
def mutationHeaderPrefix (m : Mutation) : Bytes :=
  [m.value.kind, 0] ++ leBytes 2 m.key.length ++ leBytes 4 m.value.size ++
    mutationReference m.value

/-- `calc_mutation_checksum`, over the header with a zero checksum, the key and the value. -/
def calcMutationChecksum (header key value : Bytes) : UInt32 :=
  ~~~ calcCrc32Update (calcCrc32Update (calcCrc32Update (calcCrc32Update crcInit
    (header.take 28)) (List.replicate 4 0)) key) value

/-- The 32-byte header of a mutation. -/
def mutationHeader (m : Mutation) : Bytes :=
  mutationHeaderPrefix m ++
    leBytes 4 (calcMutationChecksum (mutationHeaderPrefix m) m.key m.value.inlineBytes).toNat

/-- The segments of a transaction's payload, in stream order. -/
def payloadSegments (namespaceName : Bytes) (mutations : List Mutation) : List Bytes :=
  (leBytes 2 namespaceName.length ++ leBytes 2 mutations.length ++ List.replicate 4 0) ::
    namespaceName :: mutations.flatMap fun m => [mutationHeader m, m.key, m.value.inlineBytes]

/-- `payload_size`, as `calculate_transaction_payload_unsafe` adds it up. -/
def transactionPayloadSize (namespaceName : Bytes) (mutations : List Mutation) : ℕ :=
  transactionHeaderSize + namespaceName.length +
    (mutations.map fun m => mutationHeaderSize + m.key.length + m.value.inlineSize).sum

/-- `wal_payload_copy_state`. -/
structure WalPayloadCopyState where
  streamOffset : ℕ
  requestSize : ℕ
  destination : Bytes
  logicalOffset : ℕ

/-- `copy_wal_payload_segment_unsafe`: copies the part of one segment that lies in the requested
window. -/
def copyWalPayloadSegmentUnsafe (s : WalPayloadCopyState) (data : Bytes) : WalPayloadCopyState :=
  let segmentEnd := s.logicalOffset + data.length
  let requestEnd := s.streamOffset + s.requestSize
  let copied :=
    if s.streamOffset < segmentEnd ∧ s.logicalOffset < requestEnd then
      let first := if s.logicalOffset < s.streamOffset then s.streamOffset - s.logicalOffset else 0
      let last := if requestEnd < segmentEnd then requestEnd - s.logicalOffset else data.length
      (data.drop first).take (last - first)
    else []
  { s with
    destination := s.destination ++ copied
    logicalOffset := s.logicalOffset + data.length }

/-- `copy_transaction_payload_unsafe`: the window of `size` bytes at `streamOffset`. -/
def copyTransactionPayloadUnsafe (namespaceName : Bytes) (mutations : List Mutation)
    (streamOffset size : ℕ) : Except EspErr Bytes :=
  let total := transactionPayloadSize namespaceName mutations
  if total < streamOffset ∨ total - streamOffset < size then .error .invalidSize
  else
    let s := (payloadSegments namespaceName mutations).foldl copyWalPayloadSegmentUnsafe
      ⟨streamOffset, size, [], 0⟩
    if s.destination.length = size then .ok s.destination else .error .invalidSize

/-! ## Reading -/

/-- The conditions on the kind, the reserved byte and the external flag of a parsed mutation, and
the value they select. -/
def parseMutationValue (cfg : Config) (kind reserved0 : UInt8) (external : Bool)
    (reference : ValueRef) (value : Bytes) : Except EspErr StoredValue :=
  if kind = 2 then
    if reserved0 ≠ 0 ∨ value.length ≠ 0 ∨ external then .error .invalidResponse
    else .ok .tombstone
  else if kind ≠ 1 ∨ reserved0 ≠ 0 then .error .invalidResponse
  else if external then
    if reference.valueSize ≤ cfg.limits.inlineValueBytes ∨
        valueRefIsValid reference cfg.geometry.valueBankSize = false then .error .invalidResponse
    else .ok (.external reference)
  else if cfg.limits.inlineValueBytes < value.length then .error .invalidResponse
  else .ok (.inline value)

/-- One round of the mutation loop of `parse_recovered_transaction_unsafe`: the mutation at
`offset`, the offset behind it and the inline bytes staged so far. -/
def parseMutation (cfg : Config) (payload : Bytes) (offset stagedValueBytes : ℕ)
    (previous : List Mutation) : Except EspErr (Mutation × ℕ × ℕ) := do
  rejectIf (payload.length < offset ∨ payload.length - offset < mutationHeaderSize)
    .invalidResponse
  let header := (payload.drop offset).take mutationHeaderSize
  let keySize := leNat ((header.drop 2).take 2)
  let valueSize := leNat ((header.drop 4).take 4)
  let mutationChecksum := leNat ((header.drop 28).take 4)
  let flags := header.getD 8 0
  let external := flags &&& 1 = 1
  rejectIf (flags &&& 0xfe ≠ 0 ∨ header.getD 10 0 ≠ 0 ∨ header.getD 11 0 ≠ 0 ∨
      ¬ external ∧ (header.drop 9).take 19 ≠ List.replicate 19 0) .invalidResponse
  let offset := offset + mutationHeaderSize
  rejectIf (keySize = 0 ∨ maxNameLen < keySize ∨ payload.length - offset < keySize)
    .invalidResponse
  let key := (payload.drop offset).take keySize
  rejectIf (previous.any (fun m => m.key == key) = true) .invalidResponse
  let offset := offset + keySize
  let inlineValueSize := if external then 0 else valueSize
  rejectIf (payload.length - offset < inlineValueSize ∨
      ¬ external ∧ cfg.limits.inlineValueBytes < valueSize) .invalidResponse
  let value := (payload.drop offset).take inlineValueSize
  rejectIf ((calcMutationChecksum header key value).toNat ≠ mutationChecksum) .invalidCrc
  let reference : ValueRef :=
    { bankGeneration := leNat ((header.drop 12).take 8)
      firstChunkOffset := leNat ((header.drop 20).take 4)
      valueSize := valueSize
      valueChecksum := UInt32.ofNat (leNat ((header.drop 24).take 4))
      bankSlot := (header.getD 9 0).toNat }
  let stored ← parseMutationValue cfg (header.getD 0 0) (header.getD 1 0) external reference value
  rejectIf (cfg.limits.transactionStagingBytes - stagedValueBytes < inlineValueSize) .invalidSize
  return (⟨key, stored, .none, 0⟩, offset + inlineValueSize, stagedValueBytes + inlineValueSize)

/-- The mutation loop: `count` more mutations, after those in `previous`. -/
def parseMutations (cfg : Config) (payload : Bytes) :
    (count offset stagedValueBytes : ℕ) → (previous : List Mutation) →
      Except EspErr (List Mutation × ℕ)
  | 0, offset, _, previous => .ok (previous, offset)
  | count + 1, offset, stagedValueBytes, previous => do
      let (m, offset, stagedValueBytes) ←
        parseMutation cfg payload offset stagedValueBytes previous
      parseMutations cfg payload count offset stagedValueBytes (previous ++ [m])

/-- `parse_recovered_transaction_unsafe`: the namespace and the mutations of a payload. -/
def parseRecoveredTransactionUnsafe (cfg : Config) (payload : Bytes)
    (expectedMutationCount : ℕ) : Except EspErr (Bytes × List Mutation) := do
  rejectIf (payload.length < transactionHeaderSize ∨ expectedMutationCount = 0 ∨
      cfg.limits.maxTransactionMutations < expectedMutationCount) .invalidArg
  let namespaceSize := leNat (payload.take 2)
  let mutationCount := leNat ((payload.drop 2).take 2)
  let reserved := leNat ((payload.drop 4).take 4)
  rejectIf (reserved ≠ 0 ∨ mutationCount ≠ expectedMutationCount ∨ namespaceSize = 0 ∨
      maxNameLen < namespaceSize ∨ payload.length - transactionHeaderSize < namespaceSize)
    .invalidResponse
  let namespaceName := (payload.drop transactionHeaderSize).take namespaceSize
  let (mutations, offset) ←
    parseMutations cfg payload mutationCount (transactionHeaderSize + namespaceSize) 0 []
  rejectIf (offset ≠ payload.length) .invalidResponse
  return (namespaceName, mutations)

end On9kvdb
