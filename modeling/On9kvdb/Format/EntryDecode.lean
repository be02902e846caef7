import On9kvdb.Format.TableBytes

/-!
# Decoding a table entry

`decode_table_entry` as it reads memory: a read outside the buffer has no result at all (`none`), so
whether the function stays inside is part of what it computes.  Sizes in the header are 32 bits wide
and their sum is taken on 32 bits; `size_t` has `sizeBits` bits.

The sum can wrap.  Then a header passes whose total size covers neither its own fields nor its value:
`decodeTableEntry_inside` says for which buffers the function stays inside its record all the same.
-/

namespace On9kvdb

/-! ## Reading memory -/

/-- A decoder: a status or a value, or nothing when a byte outside the buffer was read. -/
abbrev Decode (α : Type) := ExceptT FormatStatus Option α

namespace Decode

/-- A read outside the buffer. -/
def outside {α : Type} : Decode α := ExceptT.mk none

/-- `if (condition) return status;` -/
def reject (condition : Prop) [Decidable condition] (status : FormatStatus) : Decode Unit :=
  if condition then throw status else pure ()

/-- `buf[i]` -/
def peek (buf : Bytes) (i : ℕ) : Decode UInt8 :=
  match buf[i]? with
  | none => outside
  | some b => pure b

/-- The bytes from `offset` on, all of which are read. -/
def bytesAt (buf : Bytes) (offset len : ℕ) : Decode Bytes :=
  if len = 0 ∨ offset + len ≤ buf.length then pure ((buf.drop offset).take len) else outside

/-- `read_uN_le`, whose failure is `status`. -/
def field (width : ℕ) (buf : Bytes) (offset : ℕ) (status : FormatStatus) : Decode ℕ :=
  match readLe width buf offset with
  | none => throw status
  | some value => pure value

/-- `read_uN_le` on a pointer into the buffer, with a length the callee is told. -/
def fieldAt (width : ℕ) (buf : Bytes) (offset : ℕ) : Decode ℕ := do
  let bytes ← bytesAt buf offset width
  return leNat bytes

/-- `is_zero_range`: reads up to the first byte that is not zero. -/
def isZeroRange (buf : Bytes) : (offset len : ℕ) → Decode Bool
  | _, 0 => pure true
  | offset, len + 1 => do
      let b ← peek buf offset
      if b ≠ 0 then return false
      isZeroRange buf (offset + 1) len

end Decode

open Decode

/-- `is_range_valid`. -/
def isRangeValid (bufLen offset len : ℕ) : Bool := offset ≤ bufLen && len ≤ bufLen - offset

/-- `calc_record_crc(buf + offset, len, checksum_offset)`; the length of the suffix is a
`size_t`. -/
def calcRecordCrc (sizeBits : ℕ) (buf : Bytes) (offset len checksumOffset : ℕ) : Decode UInt32 := do
  let front ← bytesAt buf offset checksumOffset
  let back ← bytesAt buf (offset + (checksumOffset + 4))
    ((len + 2 ^ sizeBits - (checksumOffset + 4)) % 2 ^ sizeBits)
  return ~~~ calcCrc32Update
    (calcCrc32Update (calcCrc32Update crcInit front) (List.replicate 4 0)) back

/-! ## The decoder -/

/-- `table_entry` as the decoder fills it in: pointers are offsets in the buffer. -/
structure DecodedEntry where
  transactionSequence : ℕ
  totalSize : ℕ
  valueSize : ℕ
  namespaceSize : ℕ
  keySize : ℕ
  flags : UInt8
  externalValue : Option ValueRef
  namespaceName : ℕ
  key : ℕ
  value : Option ℕ
  deriving DecidableEq

/-- `table_entry_flag_tombstone` and `table_entry_flag_external_value`. -/
def tableEntryFlagTombstone : UInt8 := 1
def tableEntryFlagExternalValue : UInt8 := 2

/-- The fields in front of the checksum. -/
structure EntryHeader where
  totalSize : ℕ
  valueSize : ℕ
  transactionSequence : ℕ
  namespaceSize : ℕ
  keySize : ℕ
  reserved0 : UInt8
  flags : UInt8
  deriving DecidableEq

namespace EntryHeader

/-- The value is a descriptor. -/
def external (h : EntryHeader) : Bool := h.flags &&& tableEntryFlagExternalValue != 0

def tombstone (h : EntryHeader) : Bool := h.flags &&& tableEntryFlagTombstone != 0

/-- `encoded_value_size`. -/
def encodedValueSize (h : EntryHeader) : ℕ :=
  if h.external then valueRefEncodedSize else h.valueSize

/-- Header, names and value, added up. -/
def fullSize (h : EntryHeader) : ℕ :=
  tableEntryHeaderSize + h.namespaceSize + h.keySize + h.encodedValueSize

/-- `meaningful_size`, on 32 bits. -/
def meaningfulSize (h : EntryHeader) : ℕ := h.fullSize % 2 ^ 32

/-- The checks in front of the checksum. -/
def accepted (h : EntryHeader) (bufLen offset : ℕ) : Bool :=
  h.transactionSequence != 0 && h.meaningfulSize ≤ h.totalSize && h.totalSize % 8 == 0 &&
  isRangeValid bufLen offset h.totalSize && h.valueSize ≤ maxValueLen && h.reserved0 == 0 &&
  h.flags &&& ~~~ (tableEntryFlagTombstone ||| tableEntryFlagExternalValue) == 0 &&
  !(h.tombstone && (h.valueSize != 0 || h.external))

/-- `valid_name_bytes` on both names, which only looks at their sizes. -/
def validNames (h : EntryHeader) : Bool :=
  0 < h.namespaceSize && h.namespaceSize ≤ maxNameLen && 0 < h.keySize && h.keySize ≤ maxNameLen

end EntryHeader

/-- The reads of the header. -/
def readEntryHeader (buf : Bytes) (offset : ℕ) : Decode EntryHeader := do
  reject (isRangeValid buf.length offset tableEntryHeaderSize = false) .invalidSize
  let totalSize ← field 4 buf offset .invalidSize
  let valueSize ← field 4 buf (offset + 4) .invalidSize
  let transactionSequence ← field 8 buf (offset + 8) .invalidSize
  let namespaceSize ← peek buf (offset + 16)
  let keySize ← peek buf (offset + 17)
  let reserved0 ← peek buf (offset + 18)
  let flags ← peek buf (offset + 19)
  return ⟨totalSize, valueSize, transactionSequence, namespaceSize.toNat, keySize.toNat, reserved0,
    flags⟩

/-- The descriptor of an external value, read through the pointer `value`. -/
def readValueRef (buf : Bytes) (value valueSize : ℕ) : Decode ValueRef := do
  let bankSlot ← peek buf value
  let zero ← isZeroRange buf (value + 1) 3
  reject (zero = false) .corrupt
  let bankGeneration ← fieldAt 8 buf (value + 4)
  let firstChunkOffset ← fieldAt 4 buf (value + 12)
  let valueChecksum ← fieldAt 4 buf (value + 16)
  let zero ← isZeroRange buf (value + 20) 4
  reject (zero = false) .corrupt
  let r : ValueRef :=
    ⟨bankGeneration, firstChunkOffset, valueSize, UInt32.ofNat valueChecksum, bankSlot.toNat⟩
  reject (valueRefIsValid r maxStorageObjectSize = false) .corrupt
  return r

/-- `decode_table_entry`, for pointers that are not null. -/
def decodeTableEntry (sizeBits : ℕ) (buf : Bytes) (offset : ℕ) : Decode DecodedEntry := do
  let h ← readEntryHeader buf offset
  reject (h.accepted buf.length offset = false) .corrupt
  let recordChecksum ← field 4 buf (offset + 20) .corrupt
  let checksum ← calcRecordCrc sizeBits buf offset h.totalSize 20
  reject (recordChecksum ≠ checksum.toNat) .corrupt
  let namespaceName := offset + tableEntryHeaderSize
  let key := namespaceName + h.namespaceSize
  let value := key + h.keySize
  let externalValue ← (if h.external then some <$> readValueRef buf value h.valueSize
    else pure none)
  reject (h.validNames = false) .corrupt
  let zero ← isZeroRange buf (offset + h.meaningfulSize) (h.totalSize - h.meaningfulSize)
  reject (zero = false) .corrupt
  return {
    transactionSequence := h.transactionSequence
    totalSize := h.totalSize
    valueSize := h.valueSize
    namespaceSize := h.namespaceSize
    keySize := h.keySize
    flags := h.flags
    externalValue := externalValue
    namespaceName := namespaceName
    key := key
    value := if h.external then none else some value }

/-! ## Running a decoder -/

section
variable {α β : Type} {x : Decode α} {f : α → Decode β} {a : α} {status : FormatStatus}
  {condition : Prop} [Decidable condition] {buf : Bytes} {offset len i width : ℕ}

lemma run_bind_ok (h : x.run = some (.ok a)) : (x >>= f).run = (f a).run := by
  rw [ExceptT.run_bind, h]
  rfl

lemma run_bind_error (h : x.run = some (.error status)) :
    (x >>= f).run = some (.error status) := by
  rw [ExceptT.run_bind, h]
  rfl

lemma run_bind_none (h : x.run = none) : (x >>= f).run = none := by
  rw [ExceptT.run_bind, h]
  rfl

lemma run_reject (h : condition) : (reject condition status).run = some (.error status) := by
  unfold reject
  rw [if_pos h]
  rfl

lemma run_reject_not (h : ¬ condition) : (reject condition status).run = some (.ok ()) := by
  unfold reject
  rw [if_neg h]
  rfl

lemma run_peek (h : i < buf.length) : (peek buf i).run = some (.ok buf[i]) := by
  unfold peek
  rw [List.getElem?_eq_getElem h]
  rfl

lemma run_bytesAt (h : offset + len ≤ buf.length) :
    (bytesAt buf offset len).run = some (.ok ((buf.drop offset).take len)) := by
  unfold bytesAt
  rw [if_pos (.inr h)]
  rfl

lemma run_bytesAt_outside (hlen : 0 < len) (h : buf.length < offset + len) :
    (bytesAt buf offset len).run = none := by
  unfold bytesAt
  rw [if_neg (by omega)]
  rfl

lemma run_field (h : offset + width ≤ buf.length) :
    (field width buf offset status).run =
      some (.ok (leNat ((buf.drop offset).take width))) := by
  unfold field readLe
  rw [if_pos h]
  rfl

lemma run_fieldAt (h : offset + width ≤ buf.length) :
    (fieldAt width buf offset).run = some (.ok (leNat ((buf.drop offset).take width))) :=
  run_bind_ok (run_bytesAt h)

/-- A range of zeros is looked for inside the buffer. -/
lemma run_isZeroRange (h : offset + len ≤ buf.length) :
    ∃ zero, (isZeroRange buf offset len).run = some (.ok zero) := by
  induction len generalizing offset with
  | zero => exact ⟨true, rfl⟩
  | succ len ih =>
      unfold isZeroRange
      rw [run_bind_ok (run_peek (by omega))]
      split_ifs with hzero
      · exact ⟨false, rfl⟩
      · exact ih (by omega)

end

/-! ## The parts of the decoder -/

section
variable {sizeBits offset len : ℕ} {buf : Bytes} {h : EntryHeader}

lemma leNat_lt (bytes : Bytes) : leNat bytes < 256 ^ bytes.length := by
  induction bytes with
  | nil => simp [leNat]
  | cons b rest ih =>
      have hb := b.toNat_lt
      simp only [leNat, List.length_cons, pow_succ]
      omega

lemma isRangeValid_iff {bufLen offset len : ℕ} :
    isRangeValid bufLen offset len = true ↔ offset + len ≤ bufLen ∧ offset ≤ bufLen := by
  unfold isRangeValid
  rw [Bool.and_eq_true, decide_eq_true_eq, decide_eq_true_eq]
  omega

/-- A header that is in the buffer is read. -/
lemma run_readEntryHeader (hrange : offset + 24 ≤ buf.length) :
    ∃ h, (readEntryHeader buf offset).run = some (.ok h) ∧ h.namespaceSize < 256 ∧
      h.keySize < 256 ∧ h.totalSize < 2 ^ 32 ∧ h.valueSize < 2 ^ 32 := by
  have hvalid : isRangeValid buf.length offset tableEntryHeaderSize = true :=
    isRangeValid_iff.mpr ⟨hrange, by omega⟩
  have hfour : ∀ at_, at_ + 4 ≤ buf.length → leNat ((buf.drop at_).take 4) < 2 ^ 32 := by
    intro at_ hat
    have hlt := leNat_lt ((buf.drop at_).take 4)
    rwa [List.length_take, List.length_drop, Nat.min_eq_left (by omega)] at hlt
  unfold readEntryHeader
  rw [run_bind_ok (run_reject_not (by rw [hvalid]; decide)), run_bind_ok (run_field (by omega)),
    run_bind_ok (run_field (by omega)), run_bind_ok (run_field (by omega)),
    run_bind_ok (run_peek (by omega)), run_bind_ok (run_peek (by omega)),
    run_bind_ok (run_peek (by omega)), run_bind_ok (run_peek (by omega))]
  exact ⟨_, rfl, UInt8.toNat_lt _, UInt8.toNat_lt _, hfour _ (by omega), hfour _ (by omega)⟩

/-- A header that is not in the buffer is rejected before it is read. -/
lemma run_readEntryHeader_short (hrange : ¬ offset + 24 ≤ buf.length) :
    (readEntryHeader buf offset).run = some (.error .invalidSize) := by
  have hinvalid : isRangeValid buf.length offset tableEntryHeaderSize = false :=
    Bool.eq_false_iff.mpr fun hvalid => hrange (isRangeValid_iff.mp hvalid).1
  unfold readEntryHeader
  exact run_bind_error (run_reject hinvalid)

/-- The checksum of a record of at least a header's size reads the record. -/
lemma run_calcRecordCrc (hlen : 24 ≤ len) (hrange : offset + len ≤ buf.length)
    (hbuf : buf.length < 2 ^ sizeBits) :
    ∃ checksum, (calcRecordCrc sizeBits buf offset len 20).run = some (.ok checksum) := by
  have hsuffix : (len + 2 ^ sizeBits - (20 + 4)) % 2 ^ sizeBits = len - 24 := by
    rw [show len + 2 ^ sizeBits - (20 + 4) = (len - 24) + 2 ^ sizeBits by omega,
      Nat.add_mod_right, Nat.mod_eq_of_lt (by omega)]
  unfold calcRecordCrc
  rw [run_bind_ok (run_bytesAt (by omega)), hsuffix, run_bind_ok (run_bytesAt (by omega))]
  exact ⟨_, rfl⟩

/-- The checksum of a smaller record reads past the end of the buffer. -/
lemma run_calcRecordCrc_short (hlen : len < 24) (hsize : 32 ≤ sizeBits)
    (hrange : offset + 24 ≤ buf.length) (hbuf : buf.length < 2 ^ sizeBits) :
    (calcRecordCrc sizeBits buf offset len 20).run = none := by
  have hpow : 2 ^ 32 ≤ 2 ^ sizeBits := Nat.pow_le_pow_right (by decide) hsize
  have hsuffix : (len + 2 ^ sizeBits - (20 + 4)) % 2 ^ sizeBits = len + 2 ^ sizeBits - 24 :=
    Nat.mod_eq_of_lt (by omega)
  unfold calcRecordCrc
  rw [run_bind_ok (run_bytesAt (by omega)), hsuffix]
  exact run_bind_none (run_bytesAt_outside (by omega) (by omega))

/-- A descriptor in the buffer is read, accepted or rejected. -/
lemma run_readValueRef {value valueSize : ℕ} (hrange : value + 24 ≤ buf.length) :
    ∃ outcome, (readValueRef buf value valueSize).run = some outcome := by
  obtain ⟨zero₁, hzero₁⟩ := @run_isZeroRange buf (value + 1) 3 (by omega)
  obtain ⟨zero₂, hzero₂⟩ := @run_isZeroRange buf (value + 20) 4 (by omega)
  unfold readValueRef
  rw [run_bind_ok (run_peek (by omega)), run_bind_ok hzero₁]
  cases zero₁ with
  | false => exact ⟨_, run_bind_error (run_reject rfl)⟩
  | true =>
      rw [run_bind_ok (run_reject_not (by decide)), run_bind_ok (run_fieldAt (by omega)),
        run_bind_ok (run_fieldAt (by omega)), run_bind_ok (run_fieldAt (by omega)),
        run_bind_ok hzero₂]
      cases zero₂ with
      | false => exact ⟨_, run_bind_error (run_reject rfl)⟩
      | true =>
          rw [run_bind_ok (run_reject_not (by decide))]
          dsimp only
          by_cases hvalid : valueRefIsValid ⟨leNat ((buf.drop (value + 4)).take 8),
              leNat ((buf.drop (value + 12)).take 4), valueSize,
              UInt32.ofNat (leNat ((buf.drop (value + 16)).take 4)), (buf[value]).toNat⟩
              maxStorageObjectSize = false
          · exact ⟨_, run_bind_error (run_reject hvalid)⟩
          · rw [run_bind_ok (run_reject_not hvalid)]
            exact ⟨_, rfl⟩

/-! ## Staying inside -/

/-- The sizes of a decoded entry fit its total size, the total size fits the buffer, and what the
pointers name lies in the record. -/
structure InsideRecord (buf : Bytes) (offset : ℕ) (e : DecodedEntry) : Prop where
  sizes : tableEntryHeaderSize + e.namespaceSize + e.keySize +
    (if e.flags &&& tableEntryFlagExternalValue != 0 then valueRefEncodedSize else e.valueSize) ≤
      e.totalSize
  record : offset + e.totalSize ≤ buf.length
  namespaceName : offset ≤ e.namespaceName ∧
    e.namespaceName + e.namespaceSize ≤ offset + e.totalSize
  key : offset ≤ e.key ∧ e.key + e.keySize ≤ offset + e.totalSize
  value : ∀ v ∈ e.value, offset ≤ v ∧ v + e.valueSize ≤ offset + e.totalSize

/-- The decoder reads no byte outside the buffer, and an entry it returns lies in its record. -/
def StaysInside (sizeBits : ℕ) (buf : Bytes) (offset : ℕ) : Prop :=
  ∃ outcome, (decodeTableEntry sizeBits buf offset).run = some outcome ∧
    ∀ e, outcome = .ok e → InsideRecord buf offset e

/-- The checksum, the sizes of the names and the padding are right. -/
structure EntryHeader.Passes (h : EntryHeader) (sizeBits : ℕ) (buf : Bytes) (offset : ℕ) : Prop where
  checksum : ∃ checksum, (calcRecordCrc sizeBits buf offset h.totalSize 20).run =
    some (.ok checksum) ∧ readLe 4 buf (offset + 20) = some checksum.toNat
  names : h.validNames = true
  padding : (isZeroRange buf (offset + h.meaningfulSize) (h.totalSize - h.meaningfulSize)).run =
    some (.ok true)

/-- No sum of sizes that wraps gets through: a header accepted with such a sum has a total size of
at least a header, and is rejected for its checksum, its names or its padding. -/
def WrapRejected (sizeBits : ℕ) (buf : Bytes) (offset : ℕ) : Prop :=
  ∀ h, (readEntryHeader buf offset).run = some (.ok h) → h.accepted buf.length offset = true →
    2 ^ 32 ≤ h.fullSize → tableEntryHeaderSize ≤ h.totalSize ∧ ¬ h.Passes sizeBits buf offset

/-- A wrapped sum is the sum of an inline value. -/
lemma EntryHeader.external_of_wraps (hnamespace : h.namespaceSize < 256) (hkey : h.keySize < 256)
    (hwraps : 2 ^ 32 ≤ h.fullSize) : h.external = false := by
  unfold fullSize encodedValueSize at hwraps
  cases hexternal : h.external with
  | false => rfl
  | true =>
      rw [hexternal, if_pos rfl] at hwraps
      simp only [tableEntryHeaderSize, valueRefEncodedSize] at hwraps
      omega

/-- What the decoder returns when all its checks pass. -/
def EntryHeader.decoded (h : EntryHeader) (offset : ℕ) (externalValue : Option ValueRef) :
    DecodedEntry where
  transactionSequence := h.transactionSequence
  totalSize := h.totalSize
  valueSize := h.valueSize
  namespaceSize := h.namespaceSize
  keySize := h.keySize
  flags := h.flags
  externalValue := externalValue
  namespaceName := offset + tableEntryHeaderSize
  key := offset + tableEntryHeaderSize + h.namespaceSize
  value := if h.external then none else
    some (offset + tableEntryHeaderSize + h.namespaceSize + h.keySize)

/-- An entry lies in its record when its sizes have been added up without wrapping. -/
lemma EntryHeader.inside_decoded (hrange : offset + h.totalSize ≤ buf.length)
    (externalValue : Option ValueRef) :
    InsideRecord buf offset (h.decoded offset externalValue) ↔ h.fullSize ≤ h.totalSize := by
  constructor
  · intro hinside
    exact hinside.sizes
  · intro hsizes
    have hfull : tableEntryHeaderSize + h.namespaceSize + h.keySize + h.encodedValueSize ≤
        h.totalSize := hsizes
    refine ⟨hsizes, hrange, ⟨by simp [decoded, Nat.add_assoc], ?_⟩, ⟨by
      simp [decoded, Nat.add_assoc], ?_⟩, fun v hv => ?_⟩
    · simp only [decoded]
      omega
    · simp only [decoded]
      omega
    · unfold decoded at hv ⊢
      dsimp only at hv ⊢
      unfold encodedValueSize at hfull
      cases hexternal : h.external with
      | true =>
          rw [hexternal, if_pos rfl] at hv
          cases hv
      | false =>
          rw [hexternal, if_neg (by decide)] at hv hfull
          cases hv
          omega

/-- What an accepted header says about its sizes. -/
lemma EntryHeader.accepted_sizes (haccepted : h.accepted buf.length offset = true) :
    h.meaningfulSize ≤ h.totalSize ∧ offset + h.totalSize ≤ buf.length := by
  unfold accepted at haccepted
  simp only [Bool.and_eq_true, decide_eq_true_eq] at haccepted
  exact ⟨haccepted.1.1.1.1.1.1.2, (isRangeValid_iff.mp haccepted.1.1.1.1.2).1⟩

/-- An accepted header of less than 24 bytes has a wrapped sum, and its checksum reads past the
buffer. -/
lemma run_decodeTableEntry_short (hsize : 32 ≤ sizeBits) (hbuf : buf.length < 2 ^ sizeBits)
    (hrange : offset + 24 ≤ buf.length) (hrun : (readEntryHeader buf offset).run = some (.ok h))
    (haccepted : h.accepted buf.length offset = true) (hshort : h.totalSize < 24) :
    (decodeTableEntry sizeBits buf offset).run = none ∧ 2 ^ 32 ≤ h.fullSize := by
  constructor
  · unfold decodeTableEntry
    rw [run_bind_ok hrun, run_bind_ok (run_reject_not (by rw [haccepted]; decide)),
      run_bind_ok (run_field (by omega))]
    exact run_bind_none (run_calcRecordCrc_short hshort hsize hrange hbuf)
  · by_contra hless
    have hmeaningful := (EntryHeader.accepted_sizes haccepted).1
    unfold EntryHeader.meaningfulSize at hmeaningful
    rw [Nat.mod_eq_of_lt (not_le.mp hless)] at hmeaningful
    unfold EntryHeader.fullSize at hmeaningful
    simp only [tableEntryHeaderSize] at hmeaningful
    omega

/-- Any other accepted header is decided inside the record, by its checksum, names and padding. -/
lemma run_decodeTableEntry_long (hbuf : buf.length < 2 ^ sizeBits)
    (hrange : offset + 24 ≤ buf.length) (hrun : (readEntryHeader buf offset).run = some (.ok h))
    (hnamespace : h.namespaceSize < 256) (hkey : h.keySize < 256)
    (haccepted : h.accepted buf.length offset = true) (hlong : 24 ≤ h.totalSize) :
    ∃ outcome, (decodeTableEntry sizeBits buf offset).run = some outcome ∧
      (∀ e, outcome = .ok e → ∃ externalValue, e = h.decoded offset externalValue) ∧
      (h.external = false → ((∃ e, outcome = .ok e) ↔ h.Passes sizeBits buf offset)) := by
  obtain ⟨hmeaningful, htotal⟩ := EntryHeader.accepted_sizes haccepted
  obtain ⟨checksum, hchecksum⟩ := run_calcRecordCrc hlong htotal hbuf
  have hstored : readLe 4 buf (offset + 20) =
      some (leNat ((buf.drop (offset + 20)).take 4)) := if_pos (by omega)
  obtain ⟨zero, hzero⟩ := @run_isZeroRange buf (offset + h.meaningfulSize)
    (h.totalSize - h.meaningfulSize) (by omega)
  unfold decodeTableEntry
  rw [run_bind_ok hrun, run_bind_ok (run_reject_not (by rw [haccepted]; decide)),
    run_bind_ok (run_field (by omega)), run_bind_ok hchecksum]
  by_cases hsame : leNat ((buf.drop (offset + 20)).take 4) = checksum.toNat
  · rw [run_bind_ok (run_reject_not (not_not.mpr hsame))]
    dsimp only
    -- An external entry has its descriptor checked in between; its sizes cannot wrap.
    have hvalue : ∃ outcome, (if h.external then some <$> readValueRef buf
        (offset + tableEntryHeaderSize + h.namespaceSize + h.keySize) h.valueSize
        else pure none : Decode (Option ValueRef)).run = some outcome ∧
        (h.external = false → outcome = .ok none) := by
      cases hexternal : h.external with
      | false => exact ⟨.ok none, rfl, fun _ => rfl⟩
      | true =>
          have hfull : h.fullSize = 24 + h.namespaceSize + h.keySize + 24 := by
            unfold EntryHeader.fullSize EntryHeader.encodedValueSize
            rw [hexternal, if_pos rfl]
            rfl
          unfold EntryHeader.meaningfulSize at hmeaningful
          rw [hfull, Nat.mod_eq_of_lt (by omega)] at hmeaningful
          obtain ⟨outcome, hread⟩ := @run_readValueRef buf
            (offset + tableEntryHeaderSize + h.namespaceSize + h.keySize) h.valueSize
            (by simp only [tableEntryHeaderSize]; omega)
          refine ⟨outcome.map some, ?_, fun hfalse => by cases hfalse⟩
          rw [if_pos rfl, ExceptT.run_map, hread]
          rfl
    obtain ⟨read, hread, hnone⟩ := hvalue
    cases read with
    | error status =>
        refine ⟨_, run_bind_error hread, fun e he => (by cases he), fun hinline => ?_⟩
        cases hnone hinline
    | ok externalValue =>
        rw [run_bind_ok hread]
        cases hnames : h.validNames with
        | false =>
            refine ⟨_, run_bind_error (run_reject rfl), fun e he => (by cases he), fun _ => ?_⟩
            refine ⟨fun ⟨e, he⟩ => (by cases he), fun hpasses => ?_⟩
            have htrue := hpasses.names
            rw [hnames] at htrue
            cases htrue
        | true =>
            rw [run_bind_ok (run_reject_not (by decide)), run_bind_ok hzero]
            cases zero with
            | false =>
                refine ⟨_, run_bind_error (run_reject rfl), fun e he => (by cases he), fun _ => ?_⟩
                refine ⟨fun ⟨e, he⟩ => (by cases he), fun hpasses => ?_⟩
                have htrue := hpasses.padding
                rw [hzero] at htrue
                cases htrue
            | true =>
                rw [run_bind_ok (run_reject_not (by decide))]
                refine ⟨_, rfl, fun e he => ⟨externalValue, ?_⟩, fun _ => ⟨fun _ => ?_, fun _ =>
                  ⟨_, rfl⟩⟩⟩
                · cases he
                  rfl
                · exact ⟨⟨checksum, hchecksum, by rw [hstored, hsame]⟩, hnames, hzero⟩
  · refine ⟨_, run_bind_error (run_reject hsame), fun e he => (by cases he), fun _ => ?_⟩
    refine ⟨fun ⟨e, he⟩ => (by cases he), fun hpasses => ?_⟩
    obtain ⟨checksum', hrun', hread'⟩ := hpasses.checksum
    rw [hchecksum] at hrun'
    cases hrun'
    rw [hstored] at hread'
    exact absurd (Option.some.inj hread') hsame

/-- **When `decode_table_entry` stays inside its record**: exactly when no sum of sizes that wraps
gets through the checks. -/
theorem decodeTableEntry_inside (hsize : 32 ≤ sizeBits) (hbuf : buf.length < 2 ^ sizeBits) :
    StaysInside sizeBits buf offset ↔ WrapRejected sizeBits buf offset := by
  unfold StaysInside WrapRejected
  by_cases hrange : offset + 24 ≤ buf.length
  · obtain ⟨h, hrun, hnamespace, hkey, htotal, hvalue⟩ := @run_readEntryHeader offset buf hrange
    have honly : (∀ h', (readEntryHeader buf offset).run = some (.ok h') →
        h'.accepted buf.length offset = true → 2 ^ 32 ≤ h'.fullSize →
          tableEntryHeaderSize ≤ h'.totalSize ∧ ¬ h'.Passes sizeBits buf offset) ↔
        (h.accepted buf.length offset = true → 2 ^ 32 ≤ h.fullSize →
          tableEntryHeaderSize ≤ h.totalSize ∧ ¬ h.Passes sizeBits buf offset) := by
      constructor
      · exact fun hall => hall h hrun
      · intro hone h' hrun'
        rw [hrun] at hrun'
        cases hrun'
        exact hone
    rw [honly]
    cases haccepted : h.accepted buf.length offset with
    | false =>
        refine ⟨fun _ hfalse => (by cases hfalse), fun _ => ⟨.error .corrupt, ?_,
          fun e he => (by cases he)⟩⟩
        unfold decodeTableEntry
        rw [run_bind_ok hrun]
        exact run_bind_error (run_reject haccepted)
    | true =>
        rcases Nat.lt_or_ge h.totalSize 24 with hshort | hlong
        · obtain ⟨hnone, hwraps⟩ := run_decodeTableEntry_short hsize hbuf hrange hrun haccepted
            hshort
          constructor
          · rintro ⟨outcome, hsome, -⟩
            rw [hnone] at hsome
            cases hsome
          · intro hrejected
            have hlong := (hrejected rfl hwraps).1
            exact absurd hshort (not_lt.mpr hlong)
        · obtain ⟨outcome, hsome, hdecoded, hpasses⟩ := run_decodeTableEntry_long hbuf hrange hrun
            hnamespace hkey haccepted hlong
          have htotal := (EntryHeader.accepted_sizes haccepted).2
          constructor
          · rintro ⟨outcome', hsome', hinside⟩ _ hwraps
            rw [hsome] at hsome'
            cases hsome'
            refine ⟨hlong, fun hpass => ?_⟩
            obtain ⟨e, he⟩ := (hpasses (EntryHeader.external_of_wraps hnamespace hkey hwraps)).mpr
              hpass
            obtain ⟨externalValue, hfinal⟩ := hdecoded e he
            have hsizes := (EntryHeader.inside_decoded htotal externalValue).mp
              (hfinal ▸ hinside e he)
            exact absurd (hwraps.trans hsizes) (not_le.mpr ‹_›)
          · intro hrejected
            refine ⟨outcome, hsome, fun e he => ?_⟩
            obtain ⟨externalValue, hfinal⟩ := hdecoded e he
            rw [hfinal, EntryHeader.inside_decoded htotal]
            rcases Nat.lt_or_ge h.fullSize (2 ^ 32) with hfits | hwraps
            · have hmeaningful := (EntryHeader.accepted_sizes haccepted).1
              unfold EntryHeader.meaningfulSize at hmeaningful
              rwa [Nat.mod_eq_of_lt hfits] at hmeaningful
            · have hpass := (hpasses (EntryHeader.external_of_wraps hnamespace hkey hwraps)).mp
                ⟨e, he⟩
              exact absurd hpass (hrejected rfl hwraps).2
  · have hheader := @run_readEntryHeader_short offset buf hrange
    constructor
    · intro _ h hrun
      rw [hheader] at hrun
      cases hrun
    · intro _
      refine ⟨_, run_bind_error hheader, fun e he => by cases he⟩

end

/-! ## Buffers -/

/-- An entry as the encoder writes it. -/
def smallEntry : Bytes := TableEntry.bytes ⟨1, ⟨[97], [98]⟩, .inline [5], by decide⟩

/-- The decoder stays inside it. -/
theorem decodeTableEntry_inside_small : StaysInside 32 smallEntry 0 := by
  refine (decodeTableEntry_inside (by decide) (by decide)).mpr fun h hrun _ hwraps => ?_
  have hheader : (readEntryHeader smallEntry 0).run = some (.ok ⟨32, 1, 1, 1, 1, 0, 0⟩) := by
    decide +kernel
  rw [hheader] at hrun
  cases hrun
  exact absurd hwraps (by decide)

/-- A header alone: a total size of zero, a value of `2 ^ 32 - 40` bytes and names of eight. -/
def wrappedEntry : Bytes :=
  leBytes 4 0 ++ leBytes 4 (2 ^ 32 - 40) ++ leBytes 8 1 ++ [8, 8, 0, 0] ++ leBytes 4 0

/-- Thirty-two bytes with the right checksum that claim a value of `2 ^ 32 - 2` bytes. -/
def hollowEntry : Bytes :=
  withRecordCrc (leBytes 4 32 ++ leBytes 4 (2 ^ 32 - 2) ++ leBytes 8 1 ++ [1, 1, 0, 0])
    (List.replicate 8 0)

/-- The checksum of the first is taken over bytes behind the buffer; the second is accepted, and its
value ends 4 GiB behind its record. -/
theorem decodeTableEntry_wraps :
    (decodeTableEntry 32 wrappedEntry 0).run = none ∧
    (decodeTableEntry 32 hollowEntry 0).run = some (.ok
      ⟨1, 32, 2 ^ 32 - 2, 1, 1, 0, none, 24, 25, some 26⟩) ∧
    ¬ StaysInside 32 wrappedEntry 0 ∧ ¬ StaysInside 32 hollowEntry 0 := by
  have hwrapped : (decodeTableEntry 32 wrappedEntry 0).run = none := by decide +kernel
  have hhollow : (decodeTableEntry 32 hollowEntry 0).run = some (.ok
      ⟨1, 32, 2 ^ 32 - 2, 1, 1, 0, none, 24, 25, some 26⟩) := by decide +kernel
  refine ⟨hwrapped, hhollow, fun ⟨outcome, hrun, _⟩ => ?_, fun ⟨outcome, hrun, hinside⟩ => ?_⟩
  · rw [hwrapped] at hrun
    cases hrun
  · rw [hhollow] at hrun
    cases hrun
    have hsizes := (hinside _ rfl).sizes
    exact absurd hsizes (by decide)

end On9kvdb
