import On9kvdb.Arena.Staging
import On9kvdb.Format.EntryDecode
import On9kvdb.Lib.Guarded

/-!
# Parsing a recovered transaction

`parse_recovered_transaction_unsafe` as it reads memory: an access outside the payload, or outside
an array of the transaction slot, has no outcome.  Sizes and offsets are as wide as in the source:
`size_t` has `sizeBits` bits, `uint32_t` wraps at 32, `uint16_t` at 16.

`safe_parseRecoveredTransaction` says of every payload that the parser stays inside it, terminates,
and returns a transaction that is well formed (`WellFormed`): in particular the records of its
mutations follow each other up to the last byte (`LaidOut`).
-/

namespace On9kvdb

namespace Replay

open Guarded Patch

variable {σ : Type}

/-! ## Unsigned numbers -/

/-- `lhs + rhs` on `bits` bits. -/
def wrapAdd (bits lhs rhs : ℕ) : ℕ := (lhs + rhs) % 2 ^ bits

/-- `lhs - rhs` on `bits` bits. -/
def wrapSub (bits lhs rhs : ℕ) : ℕ := (lhs + 2 ^ bits - rhs % 2 ^ bits) % 2 ^ bits

lemma wrapAdd_of_lt {bits lhs rhs : ℕ} (h : lhs + rhs < 2 ^ bits) :
    wrapAdd bits lhs rhs = lhs + rhs := Nat.mod_eq_of_lt h

lemma wrapSub_of_le {bits lhs rhs : ℕ} (h : rhs ≤ lhs) (hlt : lhs < 2 ^ bits) :
    wrapSub bits lhs rhs = lhs - rhs := by
  have hrhs : rhs % 2 ^ bits = rhs := Nat.mod_eq_of_lt (by omega)
  unfold wrapSub
  rw [hrhs, show lhs + 2 ^ bits - rhs = lhs - rhs + 2 ^ bits by omega, Nat.add_mod_right,
    Nat.mod_eq_of_lt (by omega)]

/-! ## Reading -/

/-- `read_uN_le`, which checks the range itself; without the field the payload is rejected. -/
def readField (width : ℕ) (buf : Bytes) (offset : ℕ) : Prog σ EspErr ℕ :=
  match readLe width buf offset with
  | none => throw .invalidResponse
  | some value => pure value

/-- `is_zero_bytes`: reads up to the first byte that is not zero. -/
def isZeroBytes (data : Bytes) : (offset size : ℕ) → Prog σ EspErr Bool
  | _, 0 => pure true
  | offset, size + 1 => do
      let b ← load data offset
      if b ≠ 0 then return false
      isZeroBytes data (offset + 1) size

/-- What a mutation's header says, less the descriptor. -/
structure MutationHeader where
  kind : UInt8
  reserved0 : UInt8
  keySize : ℕ
  valueSize : ℕ
  mutationChecksum : ℕ
  external : Bool

/-- `inline_value_size`. -/
def MutationHeader.inlineValueSize (h : MutationHeader) : ℕ := if h.external then 0 else h.valueSize

variable (cfg : Config) (sizeBits : ℕ) (payload : Bytes)

/-- The reads of the header at `start`, which is in the payload, and the checks on its flags. -/
def readMutationHeader (start : ℕ) : Prog σ EspErr MutationHeader := do
  let kind ← load payload start
  let reserved0 ← load payload (wrapAdd sizeBits start 1)
  let keySize ← readField 2 payload (wrapAdd sizeBits start 2)
  let valueSize ← readField 4 payload (wrapAdd sizeBits start 4)
  let mutationChecksum ← readField 4 payload (wrapAdd sizeBits start 28)
  let flags ← load payload (wrapAdd sizeBits start 8)
  let external := flags &&& 1 != 0
  raiseIf (flags &&& ~~~ 1 ≠ 0) .invalidResponse
  let b ← load payload (wrapAdd sizeBits start 10)
  raiseIf (b ≠ 0) .invalidResponse
  let b ← load payload (wrapAdd sizeBits start 11)
  raiseIf (b ≠ 0) .invalidResponse
  let zero ← (if external then pure true else isZeroBytes payload (wrapAdd sizeBits start 9) 19)
  raiseIf (zero = false) .invalidResponse
  return ⟨kind, reserved0, keySize, valueSize, mutationChecksum, external⟩

/-- `calc_mutation_checksum`, over the header at `start`, the key and the value at `offset`. -/
def readMutationChecksum (start : ℕ) (key : Bytes) (offset inlineValueSize : ℕ) :
    Prog σ EspErr UInt32 := do
  let header ← loadRange payload start 28
  let value ← loadRange payload offset inlineValueSize
  return calcMutationChecksum header key value

/-- `external_value_ref`, from the header at `start`. -/
def readMutationReference (start valueSize : ℕ) : Prog σ EspErr ValueRef := do
  let bankSlot ← load payload (wrapAdd sizeBits start 9)
  let bankGeneration ← readField 8 payload (wrapAdd sizeBits start 12)
  let firstChunkOffset ← readField 4 payload (wrapAdd sizeBits start 20)
  let valueChecksum ← readField 4 payload (wrapAdd sizeBits start 24)
  return ⟨bankGeneration, firstChunkOffset, valueSize, UInt32.ofNat valueChecksum, bankSlot.toNat⟩

/-- The check of the kind: what it selects must agree with the sizes and the descriptor. -/
def mutationKind (h : MutationHeader) (reference : ValueRef) : Except EspErr MutationKind :=
  if h.kind = 2 then
    if h.reserved0 ≠ 0 ∨ h.valueSize ≠ 0 ∨ h.external = true then .error .invalidResponse
    else .ok .tombstone
  else if h.kind ≠ 1 ∨ h.reserved0 ≠ 0 ∨
      (if h.external then h.valueSize ≤ cfg.limits.inlineValueBytes ∨
          valueRefIsValid reference cfg.geometry.valueBankSize = false
        else cfg.limits.inlineValueBytes < h.valueSize) then .error .invalidResponse
  else .ok .set

/-- The locals of the mutation loop. -/
structure ParseState where
  idx : ℕ
  offset : ℕ
  stagedValueBytes : ℕ
  mutations : List MutationSlot

/-- One round of the mutation loop. -/
def parseMutation (s : ParseState) : Prog σ EspErr ParseState := do
  raiseIf (payload.length < s.offset ∨
    wrapSub sizeBits payload.length s.offset < mutationHeaderSize) .invalidResponse
  -- `transaction->mutations[idx]`, `mutation.key` and `namespace_name` are arrays of fixed sizes.
  require (s.idx < cfg.limits.maxTransactionMutations)
  let h ← readMutationHeader sizeBits payload s.offset
  let offset := wrapAdd sizeBits s.offset mutationHeaderSize
  raiseIf (h.keySize = 0 ∨ maxNameLen < h.keySize ∨
    wrapSub sizeBits payload.length offset < h.keySize) .invalidResponse
  require (h.keySize ≤ maxNameLen)
  let key ← loadRange payload offset h.keySize
  raiseIf (s.mutations.any (fun previous => previous.key == key) = true) .invalidResponse
  let offset := wrapAdd sizeBits offset h.keySize
  raiseIf (wrapSub sizeBits payload.length offset < h.inlineValueSize ∨
    h.external = false ∧ cfg.limits.inlineValueBytes < h.valueSize) .invalidResponse
  let checksum ← readMutationChecksum payload s.offset key offset h.inlineValueSize
  raiseIf (checksum.toNat ≠ h.mutationChecksum) .invalidCrc
  let reference ← (if h.external then readMutationReference sizeBits payload s.offset h.valueSize
    else pure .blank)
  let kind ← conclude (mutationKind cfg h reference)
  raiseIf (wrapSub 32 cfg.limits.transactionStagingBytes s.stagedValueBytes < h.inlineValueSize)
    .invalidSize
  let mutation : MutationSlot :=
    { valueOffset := offset % 2 ^ 32
      valueSize := h.valueSize
      key := key
      kind := kind
      externalValue := h.external
      externalValueRef := reference }
  return {
    idx := wrapAdd 16 s.idx 1
    offset := wrapAdd sizeBits offset h.inlineValueSize
    stagedValueBytes := wrapAdd 32 s.stagedValueBytes h.inlineValueSize
    mutations := s.mutations ++ [mutation] }

/-- `for (uint16_t idx = 0; idx < mutation_count; idx += 1)` -/
def parseRound (mutationCount : ℕ) (s : ParseState) : Prog σ EspErr (ParseState ⊕ ParseState) :=
  if s.idx < mutationCount then Sum.inl <$> parseMutation cfg sizeBits payload s
  else return .inr s

/-- What the parser leaves: `namespace_name` and the transaction slot. -/
structure RecoveredTransaction where
  namespaceName : Bytes
  mutations : List MutationSlot
  stagedValueBytes : ℕ

/-- `parse_recovered_transaction_unsafe`. -/
def parseRecoveredTransaction (expectedMutationCount : ℕ) :
    Prog σ EspErr RecoveredTransaction := do
  raiseIf (payload.length < transactionHeaderSize ∨ expectedMutationCount = 0 ∨
    cfg.limits.maxTransactionMutations < expectedMutationCount) .invalidArg
  let namespaceSize ← readField 2 payload 0
  let mutationCount ← readField 2 payload 2
  let reserved ← readField 4 payload 4
  raiseIf (reserved ≠ 0 ∨ mutationCount ≠ expectedMutationCount ∨ namespaceSize = 0 ∨
    maxNameLen < namespaceSize ∨
    wrapSub sizeBits payload.length transactionHeaderSize < namespaceSize) .invalidResponse
  require (namespaceSize ≤ maxNameLen)
  let namespaceName ← loadRange payload transactionHeaderSize namespaceSize
  let s ← iterate (parseRound cfg sizeBits payload mutationCount) (mutationCount + 1)
    ⟨0, wrapAdd sizeBits transactionHeaderSize namespaceSize, 0, []⟩
  raiseIf (s.offset ≠ payload.length) .invalidResponse
  return ⟨namespaceName, s.mutations, s.stagedValueBytes⟩

/-! ## Well-formed transactions -/

/-- A mutation a commit can have written. -/
structure WellFormedMutation (cfg : Config) (payload : Bytes) (m : MutationSlot) : Prop where
  keySize : 1 ≤ m.key.length ∧ m.key.length ≤ maxNameLen
  value : m.valueOffset + m.heldSize ≤ payload.length
  inline : m.externalValue = false → m.valueSize ≤ cfg.limits.inlineValueBytes
  tombstone : m.kind = .tombstone → m.valueSize = 0 ∧ m.externalValue = false
  external : m.externalValue = true → cfg.limits.inlineValueBytes < m.valueSize ∧
    m.externalValueRef.valueSize = m.valueSize ∧
    valueRefIsValid m.externalValueRef cfg.geometry.valueBankSize = true

/-- The records of the mutations follow each other: header, key, inline value. -/
def LaidOut (payload : Bytes) : (start : ℕ) → List MutationSlot → (stop : ℕ) → Prop
  | start, [], stop => start = stop
  | start, m :: rest, stop =>
      slice payload (start + mutationHeaderSize) m.key.length = m.key ∧
      m.valueOffset = start + mutationHeaderSize + m.key.length ∧
      LaidOut payload (m.valueOffset + m.heldSize) rest stop

/-- **A well-formed transaction**, of which every byte of the payload is a part. -/
structure WellFormed (cfg : Config) (payload : Bytes) (mutationCount : ℕ)
    (t : RecoveredTransaction) : Prop where
  namespaceName : 1 ≤ t.namespaceName.length ∧ t.namespaceName.length ≤ maxNameLen ∧
    slice payload transactionHeaderSize t.namespaceName.length = t.namespaceName
  count : t.mutations.length = mutationCount
  mutations : ∀ m ∈ t.mutations, WellFormedMutation cfg payload m
  distinct : t.mutations.Pairwise fun m m' => m.key ≠ m'.key
  staged : t.stagedValueBytes = (t.mutations.map MutationSlot.heldSize).sum ∧
    t.stagedValueBytes ≤ cfg.limits.transactionStagingBytes
  consumed : LaidOut payload (transactionHeaderSize + t.namespaceName.length) t.mutations
    payload.length

section
variable {payload : Bytes} {start mid stop : ℕ} {m : MutationSlot} {mutations : List MutationSlot}

/-- One more record. -/
lemma LaidOut.snoc (h : LaidOut payload start mutations mid)
    (hkey : slice payload (mid + mutationHeaderSize) m.key.length = m.key)
    (hvalue : m.valueOffset = mid + mutationHeaderSize + m.key.length)
    (hstop : m.valueOffset + m.heldSize = stop) :
    LaidOut payload start (mutations ++ [m]) stop := by
  induction mutations generalizing start with
  | nil =>
      have heq : start = mid := h
      subst heq
      exact ⟨hkey, hvalue, hstop⟩
  | cons m' rest ih => exact ⟨h.1, h.2.1, ih h.2.2⟩

/-- The extent is the sum of the records. -/
lemma LaidOut.size (h : LaidOut payload start mutations stop) :
    stop = start +
      (mutations.map fun m => mutationHeaderSize + m.key.length + m.heldSize).sum := by
  induction mutations generalizing start with
  | nil => exact h.symm
  | cons m rest ih =>
      obtain ⟨-, hvalue, hrest⟩ := h
      have hstop := ih hrest
      rw [List.map_cons, List.sum_cons]
      omega

end

/-! ## The reads stay inside -/

section
variable {sizeBits start size offset width : ℕ} {payload : Bytes}

/-- A field is only read inside its buffer. -/
lemma safe_readField (buf : Bytes) :
    Safe (readField width buf offset : Prog σ EspErr ℕ) fun value =>
      offset + width ≤ buf.length ∧ value < 256 ^ width := by
  unfold readField readLe
  split_ifs with h
  · refine Safe.pure ⟨h, ?_⟩
    have hlt := leNat_lt ((buf.drop offset).take width)
    rwa [List.length_take, List.length_drop, Nat.min_eq_left (by omega)] at hlt
  · exact Safe.throw

lemma safe_isZeroBytes (h : offset + size ≤ payload.length) :
    Safe (isZeroBytes payload offset size : Prog σ EspErr Bool) fun _ => True := by
  induction size generalizing offset with
  | zero => exact Safe.pure trivial
  | succ size ih =>
      unfold isZeroBytes
      refine Safe.bind (Safe.load (by omega)) fun b _ => ?_
      exact Safe.ite (fun _ => Safe.pure trivial) fun _ => ih (by omega)

variable (hbuf : payload.length < 2 ^ sizeBits)
include hbuf

/-- The reads of a header that is in the payload. -/
lemma safe_readMutationHeader (h : start + mutationHeaderSize ≤ payload.length) :
    Safe (readMutationHeader sizeBits payload start : Prog σ EspErr MutationHeader) fun h =>
      h.valueSize < 2 ^ 32 := by
  simp only [mutationHeaderSize] at h
  have hat : ∀ k, k < 32 → wrapAdd sizeBits start k = start + k := fun k hk =>
    wrapAdd_of_lt (by omega)
  unfold readMutationHeader
  rw [hat 1 (by omega), hat 2 (by omega), hat 4 (by omega), hat 28 (by omega), hat 8 (by omega),
    hat 10 (by omega), hat 11 (by omega), hat 9 (by omega)]
  refine Safe.bind (Safe.load (by omega)) fun kind _ => ?_
  refine Safe.bind (Safe.load (by omega)) fun reserved0 _ => ?_
  refine Safe.bind (safe_readField payload) fun keySize _ => ?_
  refine Safe.bind (safe_readField payload) fun valueSize hvalueSize => ?_
  refine Safe.bind (safe_readField payload) fun mutationChecksum _ => ?_
  refine Safe.bind (Safe.load (by omega)) fun flags _ => ?_
  refine Safe.bind Safe.raiseIf fun _ _ => ?_
  refine Safe.bind (Safe.load (by omega)) fun b _ => ?_
  refine Safe.bind Safe.raiseIf fun _ _ => ?_
  refine Safe.bind (Safe.load (by omega)) fun b _ => ?_
  refine Safe.bind Safe.raiseIf fun _ _ => ?_
  refine Safe.bind (Safe.ite (fun _ => Safe.pure trivial) fun _ => safe_isZeroBytes (by omega))
    fun zero _ => ?_
  refine Safe.bind Safe.raiseIf fun _ _ => ?_
  exact Safe.pure hvalueSize.2

omit hbuf in
lemma safe_readMutationChecksum {key : Bytes} {inlineValueSize : ℕ}
    (h : start + mutationHeaderSize ≤ payload.length)
    (hvalue : offset + inlineValueSize ≤ payload.length) :
    Safe (readMutationChecksum payload start key offset inlineValueSize : Prog σ EspErr UInt32)
      fun _ => True := by
  simp only [mutationHeaderSize] at h
  refine Safe.bind (Safe.loadRange (by omega)) fun header _ => ?_
  refine Safe.bind (Safe.loadRange hvalue) fun value _ => ?_
  exact Safe.pure trivial

lemma safe_readMutationReference {valueSize : ℕ}
    (h : start + mutationHeaderSize ≤ payload.length) :
    Safe (readMutationReference sizeBits payload start valueSize : Prog σ EspErr ValueRef)
      fun r => r.valueSize = valueSize := by
  simp only [mutationHeaderSize] at h
  unfold readMutationReference
  rw [wrapAdd_of_lt (show start + 9 < 2 ^ sizeBits by omega)]
  refine Safe.bind (Safe.load (by omega)) fun bankSlot _ => ?_
  refine Safe.bind (safe_readField payload) fun bankGeneration _ => ?_
  refine Safe.bind (safe_readField payload) fun firstChunkOffset _ => ?_
  refine Safe.bind (safe_readField payload) fun valueChecksum _ => ?_
  exact Safe.pure rfl

end

/-! ## The loop -/

/-- What the check of the kind promises. -/
lemma mutationKind_eq_ok {cfg : Config} {h : MutationHeader} {reference : ValueRef}
    {kind : MutationKind} (hkind : mutationKind cfg h reference = .ok kind) :
    (kind = .tombstone → h.valueSize = 0 ∧ h.external = false) ∧
      (h.external = true → cfg.limits.inlineValueBytes < h.valueSize ∧
        valueRefIsValid reference cfg.geometry.valueBankSize = true) := by
  have hset : .ok .set = (.ok kind : Except EspErr MutationKind) → kind ≠ .tombstone := by
    intro heq
    rw [← Except.ok.inj heq]
    decide
  unfold mutationKind at hkind
  split_ifs at hkind with htombstone hbad hext hbad hbad
  · obtain ⟨-, hsize, hexternal⟩ : ¬ _ ∧ ¬ _ ∧ ¬ _ := by
      rwa [not_or, not_or] at hbad
    exact ⟨fun _ => ⟨not_not.mp hsize, Bool.eq_false_iff.mpr hexternal⟩,
      fun hext => absurd hext hexternal⟩
  · obtain ⟨-, -, hsize, hvalid⟩ : ¬ _ ∧ ¬ _ ∧ ¬ _ ∧ ¬ _ := by
      rwa [not_or, not_or, not_or] at hbad
    exact ⟨fun heq => absurd heq (hset hkind),
      fun _ => ⟨Nat.not_le.mp hsize, (Bool.not_eq_false _).mp hvalid⟩⟩
  · exact ⟨fun heq => absurd heq (hset hkind), fun hext' => absurd hext' hext⟩

/-- One more mutation, behind those of a state. -/
structure ParsedMutation (cfg : Config) (payload : Bytes) (s : ParseState) (m : MutationSlot)
    (s' : ParseState) : Prop where
  state : s' = ⟨s.idx + 1, m.valueOffset + m.heldSize, s.stagedValueBytes + m.heldSize,
    s.mutations ++ [m]⟩
  wellFormed : WellFormedMutation cfg payload m
  fresh : ∀ previous ∈ s.mutations, previous.key ≠ m.key
  key : slice payload (s.offset + mutationHeaderSize) m.key.length = m.key
  valueOffset : m.valueOffset = s.offset + mutationHeaderSize + m.key.length
  staged : s.stagedValueBytes + m.heldSize ≤ cfg.limits.transactionStagingBytes

section
variable {cfg : Config} {sizeBits mutationCount start : ℕ} {payload : Bytes} {s : ParseState}
  (hbuf : payload.length < 2 ^ sizeBits)
include hbuf

/-- The round of one mutation. -/
lemma safe_parseMutation (hidx : s.idx < cfg.limits.maxTransactionMutations)
    (hoffset : s.offset ≤ payload.length) (hsmall : s.offset < 2 ^ 31)
    (hstaged : s.stagedValueBytes ≤ cfg.limits.transactionStagingBytes) :
    Safe (parseMutation cfg sizeBits payload s : Prog σ EspErr ParseState) fun s' =>
      ∃ m, ParsedMutation cfg payload s m s' := by
  have hcount := cfg.maxTransactionMutations_le
  have hstaging := cfg.ranges.2.2.2.2.2.2
  simp only [On9kvdb.maxTransactionMutations] at hcount
  unfold parseMutation
  rw [wrapSub_of_le hoffset hbuf]
  refine Safe.bind Safe.raiseIf fun _ hheader => ?_
  have hfits : s.offset + mutationHeaderSize ≤ payload.length := by omega
  rw [wrapAdd_of_lt (show s.offset + mutationHeaderSize < 2 ^ sizeBits by omega),
    wrapAdd_of_lt (show s.idx + 1 < 2 ^ 16 by omega)]
  refine Safe.bind (Safe.require hidx) fun _ _ => ?_
  refine Safe.bind (safe_readMutationHeader hbuf hfits) fun h hvalueSize => ?_
  dsimp only
  rw [wrapSub_of_le hfits hbuf]
  refine Safe.bind Safe.raiseIf fun _ hkey => ?_
  have hkeyFits : s.offset + mutationHeaderSize + h.keySize ≤ payload.length := by omega
  rw [wrapAdd_of_lt (show s.offset + mutationHeaderSize + h.keySize < 2 ^ sizeBits by omega),
    wrapSub_of_le hkeyFits hbuf]
  refine Safe.bind (Safe.require (by omega)) fun _ _ => ?_
  refine Safe.bind (Safe.loadRange hkeyFits) fun key hread => ?_
  refine Safe.bind Safe.raiseIf fun _ hfresh => ?_
  refine Safe.bind Safe.raiseIf fun _ hinline => ?_
  obtain ⟨hvalueFits, hinline⟩ := not_or.mp hinline
  have hvalueFits : s.offset + mutationHeaderSize + h.keySize + h.inlineValueSize ≤
      payload.length := by omega
  rw [wrapAdd_of_lt (show s.offset + mutationHeaderSize + h.keySize + h.inlineValueSize <
    2 ^ sizeBits by omega)]
  refine Safe.bind (safe_readMutationChecksum hfits hvalueFits) fun checksum _ => ?_
  refine Safe.bind Safe.raiseIf fun _ _ => ?_
  refine Safe.bind (P := fun r => h.external = true → r.valueSize = h.valueSize)
    (Safe.ite (fun _ => (safe_readMutationReference hbuf hfits).mono fun r hr _ => hr)
      fun hext => Safe.pure fun hext' => absurd hext' hext) fun reference hreference => ?_
  refine Safe.bind (Safe.conclude fun kind hkind => mutationKind_eq_ok hkind)
    fun kind hkind => ?_
  rw [wrapSub_of_le hstaged (by omega)]
  refine Safe.bind Safe.raiseIf fun _ hroom => ?_
  rw [wrapAdd_of_lt (show s.stagedValueBytes + h.inlineValueSize < 2 ^ 32 by omega)]
  have hlow : s.offset + mutationHeaderSize + h.keySize < 2 ^ 32 := by
    simp only [mutationHeaderSize, maxNameLen] at hkey ⊢
    omega
  obtain ⟨hslice, hlength⟩ := hread
  refine Safe.pure ⟨⟨(s.offset + mutationHeaderSize + h.keySize) % 2 ^ 32, h.valueSize, key, kind,
    .none, 0, h.external, reference⟩, ?_⟩
  rw [Nat.mod_eq_of_lt hlow]
  exact
    { state := rfl
      wellFormed :=
        { keySize := by
            change 1 ≤ key.length ∧ key.length ≤ maxNameLen
            omega
          value := hvalueFits
          inline := fun hext => by
            have hlimit := not_and.mp hinline hext
            exact Nat.not_lt.mp hlimit
          tombstone := hkind.1
          external := fun hext => ⟨(hkind.2 hext).1, hreference hext, (hkind.2 hext).2⟩ }
      fresh := fun previous hmem heq => hfresh
        (List.any_eq_true.mpr ⟨previous, hmem, beq_iff_eq.mpr heq⟩)
      key := by
        change slice payload (s.offset + mutationHeaderSize) key.length = key
        rw [hlength]
        exact hslice.symm
      valueOffset := by
        change s.offset + mutationHeaderSize + h.keySize =
          s.offset + mutationHeaderSize + key.length
        rw [hlength]
      staged := by
        change s.stagedValueBytes + h.inlineValueSize ≤ cfg.limits.transactionStagingBytes
        omega }

end

/-- The state behind some rounds of the loop, of a payload whose mutations begin at `start`. -/
structure Parsed (cfg : Config) (payload : Bytes) (start mutationCount : ℕ) (s : ParseState) :
    Prop where
  count : s.mutations.length = s.idx ∧ s.idx ≤ mutationCount
  offset : s.offset ≤ payload.length
  small : s.offset ≤ start + s.idx * (mutationHeaderSize + maxNameLen) + s.stagedValueBytes
  mutations : ∀ m ∈ s.mutations, WellFormedMutation cfg payload m
  distinct : s.mutations.Pairwise fun m m' => m.key ≠ m'.key
  staged : s.stagedValueBytes = (s.mutations.map MutationSlot.heldSize).sum ∧
    s.stagedValueBytes ≤ cfg.limits.transactionStagingBytes
  laidOut : LaidOut payload start s.mutations s.offset

section
variable {cfg : Config} {sizeBits mutationCount start : ℕ} {payload : Bytes} {s s' : ParseState}
  {m : MutationSlot}

/-- A round keeps the invariant. -/
lemma ParsedMutation.parsed (h : ParsedMutation cfg payload s m s')
    (hs : Parsed cfg payload start mutationCount s) (hidx : s.idx < mutationCount) :
    Parsed cfg payload start mutationCount s' := by
  obtain ⟨hstate, hwell, hfresh, hkey, hvalue, hstaged⟩ := h
  subst hstate
  have hsmall := hs.small
  have hname := hwell.keySize.2
  simp only [mutationHeaderSize, maxNameLen] at hsmall hname hvalue
  exact
    { count := by
        rw [List.length_append, hs.count.1]
        exact ⟨rfl, hidx⟩
      offset := hwell.value
      small := by
        simp only [mutationHeaderSize, maxNameLen]
        omega
      mutations := fun m' hm' => by
        rcases List.mem_append.mp hm' with hm' | hm'
        · exact hs.mutations m' hm'
        · rw [List.mem_singleton.mp hm']
          exact hwell
      distinct := by
        refine List.pairwise_append.mpr ⟨hs.distinct, List.pairwise_singleton _ _, ?_⟩
        intro m₁ hm₁ m₂ hm₂
        rw [List.mem_singleton.mp hm₂]
        exact hfresh m₁ hm₁
      staged := by
        rw [List.map_append, List.sum_append, ← hs.staged.1, List.map_singleton,
          List.sum_singleton]
        exact ⟨rfl, hstaged⟩
      laidOut := hs.laidOut.snoc hkey hvalue rfl }

/-- The loop ends behind all mutations. -/
lemma safe_parseMutations (hbuf : payload.length < 2 ^ sizeBits) (hstart : start ≤ 2 ^ 8)
    (hcount : mutationCount ≤ cfg.limits.maxTransactionMutations)
    (hs : Parsed cfg payload start mutationCount s) :
    Safe (iterate (parseRound cfg sizeBits payload mutationCount) (mutationCount + 1) s :
        Prog σ EspErr ParseState)
      fun s' => Parsed cfg payload start mutationCount s' ∧ s'.idx = mutationCount := by
  have hmax := cfg.maxTransactionMutations_le
  have hstaging := cfg.ranges.2.2.2.2.2.2
  simp only [On9kvdb.maxTransactionMutations] at hmax
  refine Safe.iterate (Parsed cfg payload start mutationCount) (fun s => mutationCount - s.idx)
    (fun s hs => Safe.ite (fun hidx => ?_) fun hidx => ?_) hs (by omega)
  · have hsmall := hs.small
    have hroom := hs.staged.2
    simp only [mutationHeaderSize, maxNameLen] at hsmall
    rw [map_eq_pure_bind]
    refine Safe.bind (safe_parseMutation hbuf (by omega) hs.offset (by omega) hroom)
      fun s' hparsed => ?_
    obtain ⟨m, hparsed⟩ := hparsed
    have hnext : s'.idx = s.idx + 1 := congrArg ParseState.idx hparsed.state
    refine Safe.pure ⟨hparsed.parsed hs hidx, ?_⟩
    dsimp only
    omega
  · have hle := hs.count.2
    exact Safe.pure ⟨hs, by omega⟩

/-- **The parser is safe.**  It stays inside every payload, and what it accepts is well formed. -/
theorem safe_parseRecoveredTransaction (hbuf : payload.length < 2 ^ sizeBits) :
    Safe (parseRecoveredTransaction cfg sizeBits payload mutationCount :
      Prog σ EspErr RecoveredTransaction) (WellFormed cfg payload mutationCount) := by
  refine Safe.bind Safe.raiseIf fun _ harg => ?_
  refine Safe.bind (safe_readField payload) fun namespaceSize _ => ?_
  refine Safe.bind (safe_readField payload) fun count _ => ?_
  refine Safe.bind (safe_readField payload) fun reserved _ => ?_
  rw [wrapSub_of_le (by omega) hbuf]
  refine Safe.bind Safe.raiseIf fun _ hheader => ?_
  have hcount : count = mutationCount := by omega
  have hfits : transactionHeaderSize + namespaceSize ≤ payload.length := by omega
  rw [wrapAdd_of_lt (show transactionHeaderSize + namespaceSize < 2 ^ sizeBits by omega), hcount]
  refine Safe.bind (Safe.require (by omega)) fun _ _ => ?_
  refine Safe.bind (Safe.loadRange hfits) fun namespaceName hname => ?_
  have hfirst : Parsed cfg payload (transactionHeaderSize + namespaceSize) mutationCount
      ⟨0, transactionHeaderSize + namespaceSize, 0, []⟩ :=
    { count := ⟨rfl, Nat.zero_le _⟩
      offset := hfits
      small := Nat.le_add_right _ _
      mutations := fun m hm => absurd hm List.not_mem_nil
      distinct := List.Pairwise.nil
      staged := ⟨rfl, Nat.zero_le _⟩
      laidOut := rfl }
  have hstart : transactionHeaderSize + namespaceSize ≤ 2 ^ 8 := by
    simp only [transactionHeaderSize, maxNameLen] at hheader ⊢
    omega
  refine Safe.bind (safe_parseMutations hbuf hstart (by omega) hfirst) fun s hs => ?_
  refine Safe.bind Safe.raiseIf fun _ hend => ?_
  obtain ⟨hslice, hlength⟩ := hname
  obtain ⟨hs, hidx⟩ := hs
  have hlaid := hs.laidOut
  rw [not_not.mp hend, ← hlength] at hlaid
  refine Safe.pure ⟨?_, hs.count.1.trans hidx, hs.mutations, hs.distinct, hs.staged, hlaid⟩
  dsimp only
  rw [hlength]
  exact ⟨by omega, by omega, hslice.symm⟩

end

end Replay

end On9kvdb
