import On9kvdb.Lib.PackedArena
import On9kvdb.Store.Transaction

/-!
# The bytes of a memtable record

A record in the arena is a `memtable_record_header`, the key, an inline value, and zeroes up to a
multiple of eight.  `MemtableRecord.toBytes` is what an applied mutation writes, `recordAt` what a
reader makes of the bytes at an offset; the second undoes the first (`recordAt_toBytes`).
-/

namespace On9kvdb

open PackedArena

/-- `memtable_record_header`. -/
structure MemtableRecordHeader where
  transactionSequence : ℕ
  totalSize : ℕ
  valueSize : ℕ
  namespaceSlotIndex : ℕ
  keySize : ℕ
  flags : UInt8
  externalValue : ValueRef := .blank
  deriving DecidableEq

def memtableFlagTombstone : UInt8 := 1
def memtableFlagExternalValue : UInt8 := 2

/-- The `flags` of a record. -/
def memtableFlags (tombstone externalValue : Bool) : UInt8 :=
  (if tombstone then memtableFlagTombstone else 0) |||
    (if externalValue then memtableFlagExternalValue else 0)

/-! ## Writing -/

/-- The bytes of a `value_ref` in memory; the last three are padding. -/
def ValueRef.toMemory (r : ValueRef) : Bytes :=
  leBytes 8 r.bankGeneration ++ (leBytes 4 r.firstChunkOffset ++ (leBytes 4 r.valueSize ++
    (leBytes 4 r.valueChecksum.toNat ++ (leBytes 1 r.bankSlot ++ [0, 0, 0]))))

/-- The bytes of a header in memory; `reserved0` is zero in every mutation. -/
def MemtableRecordHeader.toMemory (h : MemtableRecordHeader) : Bytes :=
  leBytes 8 h.transactionSequence ++ (leBytes 4 h.totalSize ++ (leBytes 4 h.valueSize ++
    (leBytes 2 h.namespaceSlotIndex ++ (leBytes 2 h.keySize ++ ([0] ++ ([h.flags] ++ ([0, 0] ++
      h.externalValue.toMemory)))))))

@[simp] lemma MemtableRecordHeader.length_toMemory (h : MemtableRecordHeader) :
    h.toMemory.length = memtableRecordHeaderSize := by
  simp [toMemory, ValueRef.toMemory]

/-- The header of a record. -/
def MemtableRecord.header (r : MemtableRecord) : MemtableRecordHeader where
  transactionSequence := r.transactionSequence
  totalSize := r.recordSize
  valueSize := r.value.size
  namespaceSlotIndex := r.namespaceSlotIndex
  keySize := r.key.length
  flags := memtableFlags r.value.isTombstone r.value.ref?.isSome
  externalValue := r.value.ref?.getD .blank

/-- The bytes of a record. -/
def MemtableRecord.toBytes (r : MemtableRecord) : Bytes :=
  r.header.toMemory ++ (r.key ++ (r.value.inlineBytes ++ List.replicate (r.recordSize -
    (memtableRecordHeaderSize + r.key.length + r.value.inlineSize)) 0))

@[simp] lemma MemtableRecord.length_toBytes (r : MemtableRecord) :
    r.toBytes.length = r.recordSize := by
  have hle := le_align8 (memtableRecordHeaderSize + r.key.length + r.value.inlineSize)
  have hsize : r.recordSize =
    align8 (memtableRecordHeaderSize + r.key.length + r.value.inlineSize) := rfl
  rw [← hsize] at hle
  simp only [MemtableRecord.toBytes, List.length_append, MemtableRecordHeader.length_toMemory,
    List.length_replicate]
  change memtableRecordHeaderSize + (r.key.length + (r.value.inlineSize + _)) = _
  omega

/-! ## Reading -/

/-- The field of `width` bytes at an offset. -/
def readField (memory : ℕ → UInt8) (offset width : ℕ) : ℕ := leNat (slice memory offset width)

/-- The header at an offset. -/
def readHeader (memory : ℕ → UInt8) (offset : ℕ) : MemtableRecordHeader where
  transactionSequence := readField memory offset 8
  totalSize := readField memory (offset + 8) 4
  valueSize := readField memory (offset + 12) 4
  namespaceSlotIndex := readField memory (offset + 16) 2
  keySize := readField memory (offset + 18) 2
  flags := memory (offset + 21)
  externalValue :=
    { bankGeneration := readField memory (offset + 24) 8
      firstChunkOffset := readField memory (offset + 32) 4
      valueSize := readField memory (offset + 36) 4
      valueChecksum := UInt32.ofNat (readField memory (offset + 40) 4)
      bankSlot := readField memory (offset + 44) 1 }

namespace MemtableRecordHeader

variable (h : MemtableRecordHeader)

def isTombstone : Bool := h.flags &&& memtableFlagTombstone != 0

def isExternal : Bool := h.flags &&& memtableFlagExternalValue != 0

/-- The value bytes behind the key. -/
def inlineSize : ℕ := if h.isExternal then 0 else h.valueSize

end MemtableRecordHeader

/-- The key behind the header at an offset. -/
def keyAt (memory : ℕ → UInt8) (offset : ℕ) : Bytes :=
  slice memory (offset + memtableRecordHeaderSize) (readHeader memory offset).keySize

/-- The value of the record at an offset, as `lookup_memtable_unsafe` presents it. -/
def valueAt (memory : ℕ → UInt8) (offset : ℕ) : StoredValue :=
  let header := readHeader memory offset
  if header.isTombstone then .tombstone
  else if header.isExternal then .external header.externalValue
  else .inline (slice memory (offset + memtableRecordHeaderSize + header.keySize) header.valueSize)

/-- The record at an offset, with the hash its bucket keeps. -/
def recordAt (memory : ℕ → UInt8) (hash : UInt32) (offset : ℕ) : MemtableRecord where
  hash := hash
  transactionSequence := (readHeader memory offset).transactionSequence
  namespaceSlotIndex := (readHeader memory offset).namespaceSlotIndex
  key := keyAt memory offset
  value := valueAt memory offset

/-! ## Reading what was written -/

/-- The fields of a descriptor fit their C types. -/
def ValueRef.InRange (r : ValueRef) : Prop :=
  r.bankGeneration < 2 ^ 64 ∧ r.firstChunkOffset < 2 ^ 32 ∧ r.valueSize < 2 ^ 32 ∧ r.bankSlot < 2 ^ 8

/-- The fields of a record fit their C types. -/
structure MemtableRecord.InRange (r : MemtableRecord) : Prop where
  key : validateBytes r.key = true
  sequence : r.transactionSequence < 2 ^ 64
  slot : r.namespaceSlotIndex < 2 ^ 16
  size : r.recordSize < 2 ^ 32
  value : ∀ ref, r.value.ref? = some ref → ref.InRange

lemma readField_leBytes {memory : ℕ → UInt8} {offset width value : ℕ} (hvalue : value < 256 ^ width)
    (h : slice memory offset (leBytes width value).length = leBytes width value) :
    readField memory offset width = value := by
  rw [length_leBytes] at h
  unfold readField
  rw [h, leNat_leBytes hvalue]

lemma slice_singleton {memory : ℕ → UInt8} {offset : ℕ} {byte : UInt8}
    (h : slice memory offset [byte].length = [byte]) : memory offset = byte := by
  simpa [slice] using h

@[simp] lemma MemtableRecord.isTombstone_header (r : MemtableRecord) :
    r.header.isTombstone = r.value.isTombstone := by
  have hflags : ∀ t e, (memtableFlags t e &&& memtableFlagTombstone != 0) = t := by decide
  exact hflags ..

@[simp] lemma MemtableRecord.isExternal_header (r : MemtableRecord) :
    r.header.isExternal = r.value.ref?.isSome := by
  have hflags : ∀ t e, (memtableFlags t e &&& memtableFlagExternalValue != 0) = e := by decide
  exact hflags ..

/-- A header reads back when its fields fit their C types. -/
lemma readHeader_toMemory {memory : ℕ → UInt8} {offset : ℕ} {h : MemtableRecordHeader}
    (hsequence : h.transactionSequence < 2 ^ 64) (htotal : h.totalSize < 2 ^ 32)
    (hvalue : h.valueSize < 2 ^ 32) (hslot : h.namespaceSlotIndex < 2 ^ 16)
    (hkey : h.keySize < 2 ^ 16) (hexternal : h.externalValue.InRange)
    (hread : slice memory offset h.toMemory.length = h.toMemory) : readHeader memory offset = h := by
  obtain ⟨hgeneration, hfirst, hsize, hbank⟩ := hexternal
  have hchecksum : h.externalValue.valueChecksum.toNat < 256 ^ 4 := UInt32.toNat_lt _
  unfold MemtableRecordHeader.toMemory ValueRef.toMemory at hread
  obtain ⟨h0, hread⟩ := slice_eq_append_iff.mp hread
  obtain ⟨h8, hread⟩ := slice_eq_append_iff.mp hread
  obtain ⟨h12, hread⟩ := slice_eq_append_iff.mp hread
  obtain ⟨h16, hread⟩ := slice_eq_append_iff.mp hread
  obtain ⟨h18, hread⟩ := slice_eq_append_iff.mp hread
  obtain ⟨-, hread⟩ := slice_eq_append_iff.mp hread
  obtain ⟨h21, hread⟩ := slice_eq_append_iff.mp hread
  obtain ⟨-, hread⟩ := slice_eq_append_iff.mp hread
  obtain ⟨h24, hread⟩ := slice_eq_append_iff.mp hread
  obtain ⟨h32, hread⟩ := slice_eq_append_iff.mp hread
  obtain ⟨h36, hread⟩ := slice_eq_append_iff.mp hread
  obtain ⟨h40, hread⟩ := slice_eq_append_iff.mp hread
  obtain ⟨h44, -⟩ := slice_eq_append_iff.mp hread
  replace h0 := readField_leBytes hsequence h0
  replace h8 := readField_leBytes htotal h8
  replace h12 := readField_leBytes hvalue h12
  replace h16 := readField_leBytes hslot h16
  replace h18 := readField_leBytes hkey h18
  replace h21 := slice_singleton h21
  replace h24 := readField_leBytes hgeneration h24
  replace h32 := readField_leBytes hfirst h32
  replace h36 := readField_leBytes hsize h36
  replace h40 := readField_leBytes hchecksum h40
  replace h44 := readField_leBytes hbank h44
  simp only [length_leBytes, List.length_cons, List.length_nil, Nat.add_assoc, Nat.reduceAdd] at *
  unfold readHeader
  rw [h0, h8, h12, h16, h18, h21, h24, h32, h36, h40, h44, UInt32.ofNat_toNat]

lemma align8_inline_le (r : MemtableRecord) :
    memtableRecordHeaderSize + r.key.length + r.value.inlineSize ≤ r.recordSize :=
  le_align8 _

/-- The header of a record reads back. -/
lemma readHeader_eq {memory : ℕ → UInt8} {offset : ℕ} {r : MemtableRecord} (hr : r.InRange)
    (h : slice memory offset r.toBytes.length = r.toBytes) : readHeader memory offset = r.header := by
  obtain ⟨hkey, hsequence, hslot, hsize, hvalue⟩ := hr
  have hle := align8_inline_le r
  have hkeySize : r.key.length < 2 ^ 16 := by
    unfold validateBytes at hkey
    simp only [Bool.and_eq_true, decide_eq_true_eq] at hkey
    exact hkey.2.trans_lt (by decide)
  have hvalueSize : r.value.size < 2 ^ 32 := by
    cases hv : r.value with
    | tombstone => exact Nat.two_pow_pos 32
    | «inline» bytes =>
        rw [hv] at hle
        simp only [StoredValue.inlineSize, StoredValue.inlineBytes, StoredValue.size] at hle ⊢
        omega
    | external ref => exact (hvalue ref (by rw [hv]; rfl)).2.2.1
  have hexternal : (r.value.ref?.getD .blank).InRange := by
    cases hv : r.value.ref? with
    | none => exact ⟨by decide, by decide, by decide, by decide⟩
    | some ref => exact hvalue ref hv
  exact readHeader_toMemory hsequence hsize hvalueSize hslot hkeySize hexternal
    (slice_eq_append_iff.mp h).1

/-- **What is written as a record reads back as that record.** -/
theorem recordAt_eq {memory : ℕ → UInt8} {offset : ℕ} {r : MemtableRecord} (hr : r.InRange)
    (h : slice memory offset r.toBytes.length = r.toBytes) : recordAt memory r.hash offset = r := by
  have hheader := readHeader_eq hr h
  obtain ⟨-, h⟩ := slice_eq_append_iff.mp h
  obtain ⟨hkey, h⟩ := slice_eq_append_iff.mp h
  obtain ⟨hinline, -⟩ := slice_eq_append_iff.mp h
  rw [MemtableRecordHeader.length_toMemory] at hkey hinline
  have hkeyAt : keyAt memory offset = r.key := by
    unfold keyAt
    rw [hheader]
    exact hkey
  have hvalueAt : valueAt memory offset = r.value := by
    unfold valueAt
    dsimp only
    rw [hheader, r.isTombstone_header, r.isExternal_header]
    cases hv : r.value with
    | tombstone => rfl
    | external ref =>
        have href : r.header.externalValue = ref := by
          unfold MemtableRecord.header
          rw [hv]
          rfl
        rw [href]
        rfl
    | «inline» bytes =>
        have hsize : r.header.valueSize = bytes.length := by
          unfold MemtableRecord.header
          rw [hv]
          rfl
        have hkeySize : r.header.keySize = r.key.length := rfl
        rw [hv] at hinline
        rw [hsize, hkeySize]
        exact congrArg StoredValue.inline hinline
  unfold recordAt
  rw [hkeyAt, hvalueAt, hheader]
  rfl

end On9kvdb
