import On9kvdb.Format.EntryDecode
import On9kvdb.Lib.Patch

/-!
# The fields of a durable record

Encoders write into a buffer they are handed: they clear the record, put one field after the other
with `write_uN_le`, and seal it with the checksum of everything but the checksum's own four bytes.
Decoders read the fields back with `read_uN_le`.

The lemmas say of each read which bytes it stands for, so a decoder that returns `ok` is a list of
facts about slices of its buffer.
-/

namespace On9kvdb

namespace Durable

open Decode Patch

/-! ## Writing -/

/-- The bytes `write_u16_le`, `write_u32_le` and `write_u64_le` put down. -/
def le16 (value : UInt16) : Bytes := leBytes 2 value.toNat
def le32 (value : UInt32) : Bytes := leBytes 4 value.toNat
def le64 (value : UInt64) : Bytes := leBytes 8 value.toNat

/-- `memset(buf + offset, 0, len)`. -/
def clear (buf : Bytes) (offset len : ℕ) : Bytes := patch buf offset (List.replicate len 0)

/-- `write_uN_le`, for the bytes of any field: nothing when they are not in the buffer. -/
def write (buf : Bytes) (offset : ℕ) (bytes : Bytes) : Option Bytes :=
  if isRangeValid buf.length offset bytes.length then some (patch buf offset bytes) else none

/-- Fields written one after the other, up to the first that is not in the buffer. -/
def writeAll : Bytes → List (ℕ × Bytes) → Option Bytes
  | buf, [] => some buf
  | buf, (offset, bytes) :: fields => do
      let buf ← write buf offset bytes
      writeAll buf fields

/-- `calc_record_crc(buf, len, checksum_offset)`: the checksum's own bytes count as zeros. -/
def recordCrc (buf : Bytes) (len checksumOffset : ℕ) : UInt32 :=
  ~~~ calcCrc32Update
    (calcCrc32Update (calcCrc32Update crcInit (slice buf 0 checksumOffset)) (List.replicate 4 0))
    (slice buf (checksumOffset + 4) (len - (checksumOffset + 4)))

/-- The last step of every encoder. -/
def sealRecord (buf : Bytes) (len checksumOffset : ℕ) : Option Bytes :=
  write buf checksumOffset (le32 (recordCrc buf len checksumOffset))

/-! ## Reading -/

def read16 (buf : Bytes) (offset : ℕ) : Decode UInt16 :=
  UInt16.ofNat <$> field 2 buf offset .invalidSize

def read32 (buf : Bytes) (offset : ℕ) : Decode UInt32 :=
  UInt32.ofNat <$> field 4 buf offset .invalidSize

def read64 (buf : Bytes) (offset : ℕ) : Decode UInt64 :=
  UInt64.ofNat <$> field 8 buf offset .invalidSize

/-- `calc_record_crc` as it reads the buffer.  Every caller has checked that the record covers its
checksum, so the suffix's length does not wrap. -/
def readRecordCrc (buf : Bytes) (len checksumOffset : ℕ) : Decode UInt32 := do
  let front ← bytesAt buf 0 checksumOffset
  let back ← bytesAt buf (checksumOffset + 4) (len - (checksumOffset + 4))
  return ~~~ calcCrc32Update
    (calcCrc32Update (calcCrc32Update crcInit front) (List.replicate 4 0)) back

/-- `calc_crc32(buf + offset, len)`. -/
def readCrc (buf : Bytes) (offset len : ℕ) : Decode UInt32 := calcCrc32 <$> bytesAt buf offset len

/-! ## Lengths -/

section
variable {buf out bytes : Bytes} {fields : List (ℕ × Bytes)} {offset len checksumOffset : ℕ}

@[simp] lemma length_le16 (value : UInt16) : (le16 value).length = 2 := length_leBytes 2 _
@[simp] lemma length_le32 (value : UInt32) : (le32 value).length = 4 := length_leBytes 4 _
@[simp] lemma length_le64 (value : UInt64) : (le64 value).length = 8 := length_leBytes 8 _

/-! ## What is written -/

lemma write_eq_some :
    write buf offset bytes = some out ↔
      offset + bytes.length ≤ buf.length ∧ out = patch buf offset bytes := by
  unfold write
  by_cases h : isRangeValid buf.length offset bytes.length = true
  · have hfits := (isRangeValid_iff.mp h).1
    rw [if_pos h, Option.some.injEq]
    exact ⟨fun heq => ⟨hfits, heq.symm⟩, fun heq => heq.2.symm⟩
  · rw [if_neg h]
    constructor
    · intro hnone
      cases hnone
    · intro heq
      exact absurd (isRangeValid_iff.mpr ⟨heq.1, by omega⟩) h

lemma write_of_fits (h : offset + bytes.length ≤ buf.length) :
    write buf offset bytes = some (patch buf offset bytes) := write_eq_some.mpr ⟨h, rfl⟩

/-- Fields that are in the buffer are all written. -/
lemma writeAll_of_fits (h : ∀ p ∈ fields, stop p ≤ buf.length) :
    writeAll buf fields = some (patchAll buf fields) := by
  induction fields generalizing buf with
  | nil => rfl
  | cons p fields ih =>
      have hp := h p List.mem_cons_self
      have hlength : (patch buf p.1 p.2).length = buf.length := length_patch hp
      unfold writeAll
      rw [write_of_fits hp, Option.bind_eq_bind, Option.bind_some,
        ih fun q hq => hlength ▸ h q (List.mem_cons_of_mem p hq)]
      rfl

lemma length_writeAll (h : writeAll buf fields = some out) : out.length = buf.length := by
  induction fields generalizing buf with
  | nil =>
      cases h
      rfl
  | cons p fields ih =>
      obtain ⟨mid, hmid, hrest⟩ := Option.bind_eq_some_iff.mp h
      obtain ⟨hfits, rfl⟩ := write_eq_some.mp hmid
      exact (ih hrest).trans (length_patch hfits)

lemma length_clear (h : offset + len ≤ buf.length) : (clear buf offset len).length = buf.length :=
  length_patch (by rwa [List.length_replicate])

/-- Cleared bytes are zero, the others are kept. -/
lemma getElem?_clear (h : offset + len ≤ buf.length) (i : ℕ) :
    (clear buf offset len)[i]? = if offset ≤ i ∧ i < offset + len then some 0 else buf[i]? := by
  unfold clear
  rw [getElem?_patch (by rwa [List.length_replicate]), List.length_replicate,
    List.getElem?_replicate]
  split_ifs with hin hlt
  · rfl
  · omega
  · rfl

lemma sealRecord_eq_some :
    sealRecord buf len checksumOffset = some out ↔
      checksumOffset + 4 ≤ buf.length ∧
        out = patch buf checksumOffset (le32 (recordCrc buf len checksumOffset)) := by
  unfold sealRecord
  rw [write_eq_some, length_le32]

/-- The checksum does not depend on the bytes it is kept in. -/
lemma recordCrc_congr (hfront : slice buf 0 checksumOffset = slice out 0 checksumOffset)
    (hback : slice buf (checksumOffset + 4) (len - (checksumOffset + 4)) =
      slice out (checksumOffset + 4) (len - (checksumOffset + 4))) :
    recordCrc buf len checksumOffset = recordCrc out len checksumOffset := by
  unfold recordCrc
  rw [hfront, hback]

/-- A sealed record holds its own checksum, and is otherwise as it was. -/
lemma sealed (h : sealRecord buf len checksumOffset = some out) :
    out.length = buf.length ∧ checksumOffset + 4 ≤ out.length ∧
      slice out checksumOffset 4 = le32 (recordCrc out len checksumOffset) := by
  obtain ⟨hfits, rfl⟩ := sealRecord_eq_some.mp h
  have hfield : checksumOffset + (le32 (recordCrc buf len checksumOffset)).length ≤ buf.length := by
    rwa [length_le32]
  have hlength := length_patch hfield
  have hcrc : recordCrc buf len checksumOffset =
      recordCrc (patch buf checksumOffset (le32 (recordCrc buf len checksumOffset))) len
        checksumOffset := by
    refine recordCrc_congr (slice_patch_of_apart hfield (.inl (by omega))).symm
      (slice_patch_of_apart hfield (.inr ?_)).symm
    rw [length_le32]
  refine ⟨hlength, by omega, ?_⟩
  rw [← hcrc]
  exact slice_patch hfield

end

/-! ## What is read -/

section
variable {α β : Type} {x : Decode α} {f : α → Decode β} {b : β} {status : FormatStatus}
  {condition : Prop} [Decidable condition] {buf : Bytes} {offset len width n checksumOffset : ℕ}

lemma run_bind_eq_ok :
    (x >>= f).run = some (.ok b) ↔ ∃ a, x.run = some (.ok a) ∧ (f a).run = some (.ok b) := by
  constructor
  · intro h
    cases hx : x.run with
    | none =>
        rw [run_bind_none hx] at h
        cases h
    | some outcome =>
        cases outcome with
        | error e =>
            rw [run_bind_error hx] at h
            cases h
        | ok a =>
            rw [run_bind_ok hx] at h
            exact ⟨a, rfl, h⟩
  · rintro ⟨a, hx, h⟩
    rw [run_bind_ok hx, h]

lemma run_map_eq_ok {g : α → β} :
    (g <$> x).run = some (.ok b) ↔ ∃ a, x.run = some (.ok a) ∧ g a = b := by
  rw [map_eq_pure_bind, run_bind_eq_ok]
  refine exists_congr fun a => and_congr_right fun _ => ?_
  exact ⟨fun h => by cases h; rfl, fun h => by rw [h]; rfl⟩

lemma run_pure_eq_ok {a b : α} : (pure a : Decode α).run = some (.ok b) ↔ a = b :=
  ⟨fun h => by cases h; rfl, fun h => by rw [h]; rfl⟩

lemma run_reject_eq_ok {u : Unit} : (reject condition status).run = some (.ok u) ↔ ¬ condition := by
  by_cases h : condition
  · rw [run_reject h]
    exact ⟨fun heq => (by cases heq), fun hnot => absurd h hnot⟩
  · rw [run_reject_not h]
    exact ⟨fun _ => h, fun _ => rfl⟩

lemma run_bytesAt_eq_ok {bytes : Bytes} :
    (bytesAt buf offset len).run = some (.ok bytes) ↔
      (len = 0 ∨ offset + len ≤ buf.length) ∧ slice buf offset len = bytes := by
  unfold bytesAt
  split_ifs with h
  · rw [run_pure_eq_ok]
    exact ⟨fun heq => ⟨h, heq⟩, fun heq => heq.2⟩
  · exact ⟨fun heq => (by cases heq), fun heq => absurd heq.1 h⟩

/-- A little-endian number stands for its bytes. -/
lemma leBytes_leNat (bytes : Bytes) : leBytes bytes.length (leNat bytes) = bytes := by
  induction bytes with
  | nil => rfl
  | cons b bytes ih =>
      have hb := b.toNat_lt
      have hmod : (b.toNat + 256 * leNat bytes) % 256 = b.toNat := by omega
      have hdiv : (b.toNat + 256 * leNat bytes) / 256 = leNat bytes := by omega
      rw [List.length_cons, leNat, leBytes, hmod, hdiv, ih, UInt8.ofNat_toNat]

/-- A field is read when it is in the buffer, and its bytes are those of the number. -/
lemma run_field_eq_ok :
    (field width buf offset status).run = some (.ok n) ↔
      offset + width ≤ buf.length ∧ n < 256 ^ width ∧ slice buf offset width = leBytes width n := by
  unfold field readLe
  by_cases h : offset + width ≤ buf.length
  · have hlength := length_slice h
    have hlt := leNat_lt (slice buf offset width)
    rw [hlength] at hlt
    rw [if_pos h, run_pure_eq_ok]
    constructor
    · intro hn
      have hbytes := leBytes_leNat (slice buf offset width)
      rw [hlength] at hbytes
      subst hn
      exact ⟨h, hlt, hbytes.symm⟩
    · rintro ⟨-, hn, hbytes⟩
      exact (congrArg leNat hbytes).trans (leNat_leBytes hn)
  · rw [if_neg h]
    exact ⟨fun heq => (by cases heq), fun heq => absurd heq.1 h⟩

/-- The same for a field of a machine type. -/
lemma run_map_field_eq_ok {ofNat : ℕ → β} {toNat : β → ℕ} (hlt : ∀ b, toNat b < 256 ^ width)
    (hleft : ∀ n < 256 ^ width, toNat (ofNat n) = n) (hright : ∀ b, ofNat (toNat b) = b) :
    (ofNat <$> field width buf offset status).run = some (.ok b) ↔
      offset + width ≤ buf.length ∧ slice buf offset width = leBytes width (toNat b) := by
  rw [run_map_eq_ok]
  constructor
  · rintro ⟨n, hread, rfl⟩
    obtain ⟨hfits, hn, hbytes⟩ := run_field_eq_ok.mp hread
    rw [hleft n hn]
    exact ⟨hfits, hbytes⟩
  · rintro ⟨hfits, hbytes⟩
    exact ⟨toNat b, run_field_eq_ok.mpr ⟨hfits, hlt b, hbytes⟩, hright b⟩

lemma run_read16_eq_ok {value : UInt16} :
    (read16 buf offset).run = some (.ok value) ↔
      offset + 2 ≤ buf.length ∧ slice buf offset 2 = le16 value :=
  run_map_field_eq_ok UInt16.toNat_lt
    (fun _ hn => UInt16.toNat_ofNat'.trans (Nat.mod_eq_of_lt hn)) fun _ => UInt16.ofNat_toNat

lemma run_read32_eq_ok {value : UInt32} :
    (read32 buf offset).run = some (.ok value) ↔
      offset + 4 ≤ buf.length ∧ slice buf offset 4 = le32 value :=
  run_map_field_eq_ok UInt32.toNat_lt
    (fun _ hn => UInt32.toNat_ofNat'.trans (Nat.mod_eq_of_lt hn)) fun _ => UInt32.ofNat_toNat

lemma run_read64_eq_ok {value : UInt64} :
    (read64 buf offset).run = some (.ok value) ↔
      offset + 8 ≤ buf.length ∧ slice buf offset 8 = le64 value :=
  run_map_field_eq_ok UInt64.toNat_lt
    (fun _ hn => UInt64.toNat_ofNat'.trans (Nat.mod_eq_of_lt hn)) fun _ => UInt64.ofNat_toNat

/-- The checksum a decoder computes is that of the record, which is in the buffer. -/
lemma run_readRecordCrc_eq_ok {crc : UInt32} (hcover : checksumOffset + 4 ≤ len)
    (hfits : len ≤ buf.length) :
    (readRecordCrc buf len checksumOffset).run = some (.ok crc) ↔
      recordCrc buf len checksumOffset = crc := by
  unfold readRecordCrc recordCrc
  rw [run_bind_ok (run_bytesAt (by omega)), run_bind_ok (run_bytesAt (by omega)), run_pure_eq_ok]
  rfl

lemma run_readCrc_eq_ok {crc : UInt32} (hfits : offset + len ≤ buf.length) :
    (readCrc buf offset len).run = some (.ok crc) ↔ calcCrc32 (slice buf offset len) = crc := by
  unfold readCrc
  rw [run_map_eq_ok]
  constructor
  · rintro ⟨bytes, hread, rfl⟩
    rw [(run_bytesAt_eq_ok.mp hread).2]
  · intro h
    exact ⟨_, run_bytesAt_eq_ok.mpr ⟨.inr hfits, rfl⟩, h⟩

/-- A range passes for zero when it is. -/
lemma run_isZeroRange_eq_true (hfits : offset + len ≤ buf.length) :
    (isZeroRange buf offset len).run = some (.ok true) ↔
      slice buf offset len = List.replicate len 0 := by
  induction len generalizing offset with
  | zero =>
      unfold isZeroRange
      simp [slice]
  | succ len ih =>
      have hlt : offset < buf.length := by omega
      have hsplit : slice buf offset (len + 1) = buf[offset] :: slice buf (offset + 1) len := by
        unfold slice
        rw [List.drop_eq_getElem_cons hlt, List.take_succ_cons]
      unfold isZeroRange
      rw [run_bind_ok (run_peek hlt), hsplit, List.replicate_succ, List.cons.injEq]
      split_ifs with hzero
      · rw [run_pure_eq_ok]
        exact ⟨fun heq => (by cases heq), fun heq => absurd heq.1 hzero⟩
      · rw [ih (by omega)]
        exact ⟨fun heq => ⟨not_not.mp hzero, heq⟩, fun heq => heq.2⟩

end

end Durable

end On9kvdb
