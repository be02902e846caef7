import On9kvdb.Durable.ManifestRoundTrip
import On9kvdb.Lib.ShiftRegister

/-!
# Bursts in durable records

Every record is sealed with a CRC-32 of all its other bytes, and every decoder compares it.  The
table-driven update is a shift register with feedback (`toBitVec_calcCrc32Update`), so no change
within four bytes leaves the checksum of the rest as it was (`recordCrc_burst`); and a change of the
stored checksum alone does not go with the bytes it was computed from.
-/

namespace On9kvdb

namespace Durable

open Decode Patch

/-! ## The checksum as a shift register -/

lemma toBitVec_crc32Step (x : UInt32) :
    (crc32Step x).toBitVec = ShiftRegister.shift crc32Polynomial.toBitVec x.toBitVec := by
  have hlow : x &&& 1 = 1 ↔ x.toBitVec.getLsbD 0 = true := by
    rw [← UInt32.toBitVec_inj, UInt32.toBitVec_and]
    have hone := @BitVec.and_one_eq_setWidth_ofBool_getLsbD 32 x.toBitVec
    change x.toBitVec &&& 1#32 = 1#32 ↔ _
    rw [hone]
    cases x.toBitVec.getLsbD 0 <;> decide
  unfold crc32Step ShiftRegister.shift
  by_cases h : x &&& 1 = 1
  · rw [if_pos h, if_pos (hlow.mp h)]
    rfl
  · rw [if_neg h, if_neg (fun hbit => h (hlow.mpr hbit))]
    rfl

lemma toBitVec_crc32Step_iterate (n : ℕ) (x : UInt32) :
    (crc32Step^[n] x).toBitVec =
      (ShiftRegister.shift crc32Polynomial.toBitVec)^[n] x.toBitVec := by
  induction n generalizing x with
  | zero => rfl
  | succ n ih => rw [Function.iterate_succ_apply, Function.iterate_succ_apply, ih,
      toBitVec_crc32Step]

/-- `calc_crc32_update` shifts the bytes through the register. -/
lemma toBitVec_calcCrc32Update (crc : UInt32) (bytes : Bytes) :
    (calcCrc32Update crc bytes).toBitVec =
      ShiftRegister.absorb crc32Polynomial.toBitVec crc.toBitVec (bytes.map UInt8.toBitVec) := by
  induction bytes generalizing crc with
  | nil => rfl
  | cons b bytes ih =>
      have hround : (makeCrc32LutEntry ((crc ^^^ b.toUInt32) &&& 0xff) ^^^ (crc >>> 8)).toBitVec =
          (ShiftRegister.shift crc32Polynomial.toBitVec)^[8]
            (crc.toBitVec ^^^ b.toBitVec.setWidth 32) := by
        have hbyte : (b.toBitVec.setWidth 32) >>> 8 = 0#32 := by
          apply BitVec.eq_of_toNat_eq
          have hb := b.toBitVec.isLt
          rw [BitVec.toNat_ushiftRight, BitVec.toNat_setWidth, Nat.shiftRight_eq_div_pow]
          change _ = 0
          omega
        rw [ShiftRegister.shifts_split, BitVec.ushiftRight_xor_distrib, hbyte, BitVec.xor_zero]
        unfold makeCrc32LutEntry
        rw [UInt32.toBitVec_xor, toBitVec_crc32Step_iterate]
        rfl
      exact (ih _).trans (by rw [hround]; rfl)

/-- Messages of one length that differ in at most four consecutive bytes have different
checksums. -/
lemma calcCrc32Update_burst (crc : UInt32) {message other : Bytes} {start : ℕ}
    (hlen : message.length = other.length) (hne : message ≠ other)
    (hsame : ∀ i, ¬ (start ≤ i ∧ i < start + 4) → message[i]? = other[i]?) :
    calcCrc32Update crc message ≠ calcCrc32Update crc other := by
  have hsplit : ∀ m : Bytes, m = m.take start ++ ((m.drop start).take 4 ++ m.drop (start + 4)) := by
    intro m
    rw [← List.drop_drop, List.take_append_drop, List.take_append_drop]
  have hfront : message.take start = other.take start := by
    apply List.ext_getElem?
    intro i
    rw [List.getElem?_take, List.getElem?_take]
    split_ifs with hi
    · exact hsame i (by omega)
    · rfl
  have hback : message.drop (start + 4) = other.drop (start + 4) := by
    apply List.ext_getElem?
    intro i
    rw [List.getElem?_drop, List.getElem?_drop]
    exact hsame _ (by omega)
  have hwindow : (message.drop start).take 4 ≠ (other.drop start).take 4 := by
    intro h
    exact hne ((hsplit message).trans ((by rw [hfront, h, hback]) : _ = other.take start ++
      ((other.drop start).take 4 ++ other.drop (start + 4))) |>.trans (hsplit other).symm)
  intro h
  have hbits := congrArg UInt32.toBitVec h
  rw [toBitVec_calcCrc32Update, toBitVec_calcCrc32Update, hsplit message, hsplit other, hfront,
    hback] at hbits
  simp only [List.map_append] at hbits
  refine ShiftRegister.absorb_burst (by decide) _ ?_ ?_ ?_ hbits
  · simp only [List.length_map, List.length_take, List.length_drop, hlen]
  · simp only [List.length_map, List.length_take, List.length_drop]
    omega
  · exact fun heq => hwindow (List.map_injective_iff.mpr (fun _ _ => UInt8.toBitVec_inj.mp) heq)

/-! ## Changes of a record -/

/-- The changed bytes are in the first `len`, within four consecutive ones, and outside of the
checksum's own. -/
def ChangedInBurst (buf damaged : Bytes) (len checksumOffset : ℕ) : Prop :=
  ∃ start, ∀ i, damaged[i]? ≠ buf[i]? →
    start ≤ i ∧ i < start + 4 ∧ i < len ∧ ¬ (checksumOffset ≤ i ∧ i < checksumOffset + 4)

/-- The changed bytes are the checksum's own. -/
def ChangedInChecksum (buf damaged : Bytes) (checksumOffset : ℕ) : Prop :=
  ∀ i, damaged[i]? ≠ buf[i]? → checksumOffset ≤ i ∧ i < checksumOffset + 4

section
variable {buf damaged out : Bytes} {len checksumOffset : ℕ}

lemma le32_injective : Function.Injective le32 := by
  intro a b h
  have hnat := congrArg leNat h
  unfold le32 at hnat
  rw [leNat_leBytes a.toNat_lt, leNat_leBytes b.toNat_lt] at hnat
  exact UInt32.toNat_inj.mp hnat

/-- The message a record's checksum is taken of. -/
def checkedBytes (buf : Bytes) (len checksumOffset : ℕ) : Bytes :=
  slice buf 0 checksumOffset ++
    (List.replicate 4 0 ++ slice buf (checksumOffset + 4) (len - (checksumOffset + 4)))

lemma recordCrc_eq : recordCrc buf len checksumOffset =
    ~~~ calcCrc32Update crcInit (checkedBytes buf len checksumOffset) := by
  unfold recordCrc checkedBytes
  rw [calcCrc32Update_append, calcCrc32Update_append]

lemma length_checkedBytes (hcover : checksumOffset + 4 ≤ len) (hlen : len ≤ buf.length) :
    (checkedBytes buf len checksumOffset).length = len := by
  unfold checkedBytes
  rw [List.length_append, List.length_append, length_slice (by omega), length_slice (by omega),
    List.length_replicate]
  omega

/-- It is the record, with zeros for the checksum. -/
lemma getElem?_checkedBytes (hcover : checksumOffset + 4 ≤ len) (hlen : len ≤ buf.length) (i : ℕ) :
    (checkedBytes buf len checksumOffset)[i]? =
      if checksumOffset ≤ i ∧ i < checksumOffset + 4 then some 0
      else if i < len then buf[i]? else none := by
  have hfront : (slice buf 0 checksumOffset).length = checksumOffset := length_slice (by omega)
  unfold checkedBytes
  rcases Nat.lt_or_ge i checksumOffset with h | h
  · rw [List.getElem?_append_left (by omega), getElem?_slice, if_pos h, if_neg (by omega),
      if_pos (by omega), zero_add]
  · rw [List.getElem?_append_right (by omega), hfront]
    rcases Nat.lt_or_ge i (checksumOffset + 4) with h4 | h4
    · rw [List.getElem?_append_left (by rw [List.length_replicate]; omega), if_pos ⟨h, h4⟩,
        List.getElem?_replicate, if_pos (by omega)]
    · have hplace : checksumOffset + 4 + (i - checksumOffset - 4) = i := by omega
      have hout : ¬ (checksumOffset ≤ i ∧ i < checksumOffset + 4) := by omega
      rw [List.getElem?_append_right (by rw [List.length_replicate]; omega),
        List.length_replicate, getElem?_slice, hplace, if_neg hout]
      rcases Nat.lt_or_ge i len with hin | hin
      · rw [if_pos (by omega), if_pos hin]
      · rw [if_neg (by omega), if_neg (by omega)]

/-- **A burst outside of the checksum changes the checksum of the record.** -/
theorem recordCrc_burst (hcover : checksumOffset + 4 ≤ len) (hlen : len ≤ buf.length)
    (hlength : damaged.length = buf.length) (hne : damaged ≠ buf)
    (hchange : ChangedInBurst buf damaged len checksumOffset) :
    recordCrc damaged len checksumOffset ≠ recordCrc buf len checksumOffset := by
  obtain ⟨start, hchange⟩ := hchange
  have hlen' : len ≤ damaged.length := by omega
  rw [recordCrc_eq, recordCrc_eq]
  intro h
  refine @calcCrc32Update_burst crcInit (checkedBytes damaged len checksumOffset)
    (checkedBytes buf len checksumOffset) start ?_ ?_ ?_ (UInt32.not_inj.mp h)
  · rw [length_checkedBytes hcover hlen', length_checkedBytes hcover hlen]
  · intro heq
    refine hne (List.ext_getElem? fun i => by_contra fun hi => ?_)
    obtain ⟨-, -, hin, hout⟩ := hchange i hi
    have hbyte := congrArg (fun m => m[i]?) heq
    simp only [getElem?_checkedBytes hcover hlen', getElem?_checkedBytes hcover hlen, if_neg hout,
      if_pos hin] at hbyte
    exact hi hbyte
  · intro i hi
    rw [getElem?_checkedBytes hcover hlen', getElem?_checkedBytes hcover hlen]
    split_ifs
    · rfl
    · exact by_contra fun hne => hi ⟨(hchange i hne).1, (hchange i hne).2.1⟩
    · rfl

/-- **A sealed record does not stay sealed** when a burst outside of its checksum, or its checksum
alone, is changed. -/
theorem unsealed_of_change (hcover : checksumOffset + 4 ≤ len) (hlen : len ≤ buf.length)
    (hsealed : slice buf checksumOffset 4 = le32 (recordCrc buf len checksumOffset))
    (hlength : damaged.length = buf.length) (hne : damaged ≠ buf)
    (hchange : ChangedInBurst buf damaged len checksumOffset ∨
      ChangedInChecksum buf damaged checksumOffset) :
    slice damaged checksumOffset 4 ≠ le32 (recordCrc damaged len checksumOffset) := by
  intro hdamaged
  rcases hchange with hburst | hfield
  · have hfield : slice damaged checksumOffset 4 = slice buf checksumOffset 4 := by
      obtain ⟨start, hburst⟩ := hburst
      exact slice_congr fun i hlow hhigh => by_contra fun hi => (hburst i hi).2.2.2 ⟨hlow, hhigh⟩
    have hcrc := le32_injective (hdamaged.symm.trans (hfield.trans hsealed))
    exact recordCrc_burst hcover hlen hlength hne hburst hcrc
  · have hcrc : recordCrc damaged len checksumOffset = recordCrc buf len checksumOffset :=
      recordCrc_congr
        (slice_congr fun i _ hi => by_contra fun h => absurd (hfield i h).1 (by omega))
        (slice_congr fun i hi _ => by_contra fun h => absurd (hfield i h).2 (by omega))
    have hslice : slice damaged checksumOffset 4 = slice buf checksumOffset 4 := by
      rw [hdamaged, hsealed, hcrc]
    refine hne (List.ext_getElem? fun i => by_contra fun hi => ?_)
    obtain ⟨hlow, hhigh⟩ := hfield i hi
    exact hi (getElem?_of_slice hslice hlow hhigh)

end

/-! ## The codecs -/

/-- The records that are sealed as a whole; a decoder knows some of their fields beforehand. -/
inductive RecordKind
  | manifest (inlineValueLen : UInt32)
  | fileIdentity (kind : FileKind)
  | walHeader
  | walFrame
  | tableMetadata (magic : UInt32)
  | tableBlock
  | tableIndex
  | valueChunk

namespace RecordKind

/-- The bytes of a buffer that belong to the record. -/
def size (buf : Bytes) : RecordKind → ℕ
  | manifest _ => manifestRecordSize
  | fileIdentity _ => fileIdentitySize
  | walHeader => walHeaderSize
  | walFrame => walFrameSize
  | tableMetadata _ => tableMetadataSize
  | tableBlock => buf.length
  | tableIndex => buf.length
  | valueChunk => valueChunkSize

/-- Where the record keeps its checksum. -/
def checksumOffset : RecordKind → ℕ
  | manifest _ => manifestRecordChecksumOffset
  | fileIdentity _ => fileIdentityChecksumOffset
  | walHeader => walHeaderChecksumOffset
  | walFrame => walFrameChecksumOffset
  | tableMetadata _ => tableMetadataChecksumOffset
  | tableBlock => tableBlockChecksumOffset
  | tableIndex => tableIndexChecksumOffset
  | valueChunk => valueChunkChecksumOffset

/-- The encoder has produced the buffer. -/
def Encoded (buf : Bytes) : RecordKind → Prop
  | manifest inlineValueLen => ∃ work r, encodeManifestRecord inlineValueLen work r = some buf
  | fileIdentity kind => ∃ work identity, identity.kind = kind ∧
      encodeFileIdentity work identity = some buf
  | walHeader => ∃ work header, encodeWalHeader work header = some buf
  | walFrame => ∃ work header payload, encodeWalFrame work header payload = some buf
  | tableMetadata magic => ∃ work m, encodeTableMetadata work magic m = some buf
  | tableBlock => ∃ work header, encodeTableBlockHeader work header = some buf
  | tableIndex => ∃ work header, encodeTableIndexHeader work header = some buf
  | valueChunk => ∃ work header payload, encodeValueChunk work header payload = some buf

/-- The decoder returns `ok`. -/
def Accepted (buf : Bytes) : RecordKind → Prop
  | manifest inlineValueLen => ∃ r, (decodeManifestRecord inlineValueLen buf).run = some (.ok r)
  | fileIdentity kind => ∃ identity, (decodeFileIdentity buf kind).run = some (.ok identity)
  | walHeader => ∃ header, (decodeWalHeader buf).run = some (.ok header)
  | walFrame => ∃ header, (decodeWalFrame buf).run = some (.ok header)
  | tableMetadata magic => ∃ m, (decodeTableMetadata buf magic).run = some (.ok m)
  | tableBlock => ∃ header, (decodeTableBlockHeader buf).run = some (.ok header)
  | tableIndex => ∃ header, (decodeTableIndexHeader buf).run = some (.ok header)
  | valueChunk => ∃ header, (decodeValueChunk buf).run = some (.ok header)

end RecordKind

/-- The buffer holds the checksum of its first `len` bytes. -/
def Sealed (buf : Bytes) (len checksumOffset : ℕ) : Prop :=
  len ≤ buf.length ∧ slice buf checksumOffset 4 = le32 (recordCrc buf len checksumOffset)

section
variable {α : Type} {a : α} {buf out : Bytes} {len checksumOffset : ℕ}
  {fields : List (ℕ × Bytes)} {condition : Prop} [Decidable condition] {status : FormatStatus}

/-- The last two steps of an encoder that succeeds. -/
lemma sealed_of_write (hlen : len ≤ buf.length)
    (h : (do let cleared ← writeAll (clear buf 0 len) fields
             sealRecord cleared len checksumOffset) = some out) :
    Sealed out len checksumOffset := by
  obtain ⟨mid, hmid, hseal⟩ := Option.bind_eq_some_iff.mp h
  obtain ⟨hlength, -, hslice⟩ := sealed hseal
  have hcleared : (clear buf 0 len).length = buf.length := length_clear (by rwa [zero_add])
  exact ⟨by rwa [hlength, length_writeAll hmid, hcleared], hslice⟩

/-- The same for a block, which is sealed to its end. -/
lemma sealed_of_writeBlock
    (hlen : len ≤ buf.length)
    (h : (do let block ← writeAll (clear buf 0 len) fields
             sealRecord block block.length checksumOffset) = some out) :
    len ≤ out.length ∧ Sealed out out.length checksumOffset := by
  obtain ⟨mid, hmid, hseal⟩ := Option.bind_eq_some_iff.mp h
  obtain ⟨hlength, -, hslice⟩ := sealed hseal
  have hcleared : (clear buf 0 len).length = buf.length := length_clear (by rwa [zero_add])
  rw [← hlength] at hslice
  exact ⟨by rwa [hlength, length_writeAll hmid, hcleared], le_rfl, hslice⟩

lemma length_encodeFilePrefix {magic : UInt32} {kind : FileKind} {flags : UInt16}
    {generation : UInt64} {payloadSize : UInt32}
    (h : encodeFilePrefix buf magic kind flags generation payloadSize = some out) :
    out.length = buf.length := by
  obtain ⟨⟨hlen, -⟩, h⟩ := guard_bind_eq_some.mp h
  obtain ⟨mid, hmid, hseal⟩ := Option.bind_eq_some_iff.mp h
  have hcleared : (clear buf 0 filePrefixSize).length = buf.length :=
    length_clear (by rwa [zero_add])
  exact (sealed hseal).1.trans ((length_writeAll hmid).trans hcleared)

/-- The comparison a decoder makes. -/
lemma sealed_of_compare {stored : UInt32} {x : Decode α} (hcover : checksumOffset + 4 ≤ len)
    (hlen : len ≤ buf.length) (hread : (read32 buf checksumOffset).run = some (.ok stored))
    (h : (do let crc ← readRecordCrc buf len checksumOffset
             reject (stored ≠ crc) status
             x : Decode α).run = some (.ok a)) : Sealed buf len checksumOffset := by
  obtain ⟨crc, hcrc, h⟩ := run_bind_eq_ok.mp h
  obtain ⟨hsame, -⟩ := run_reject_bind_eq_ok.mp h
  have hcrc' := (run_readRecordCrc_eq_ok hcover hlen).mp hcrc
  exact ⟨hlen, by rw [(run_read32_eq_ok.mp hread).2, hcrc', not_not.mp hsame]⟩

end

namespace RecordKind

variable {buf damaged : Bytes} {kind : RecordKind}

/-- **Every encoder seals its record.** -/
theorem Encoded.sealed (h : kind.Encoded buf) :
    kind.checksumOffset + 4 ≤ kind.size buf ∧ Sealed buf (kind.size buf) kind.checksumOffset := by
  cases kind with
  | manifest inlineValueLen =>
      obtain ⟨work, r, h⟩ := h
      obtain ⟨totals, -, -, -, hholds⟩ := holds_of_encodeManifestRecord h
      exact ⟨le_refl 4096, hholds.length, hholds.checksum⟩
  | fileIdentity kind =>
      obtain ⟨work, identity, -, h⟩ := h
      obtain ⟨⟨hlen, -⟩, h⟩ := guard_bind_eq_some.mp h
      obtain ⟨mid, hmid, h⟩ := Option.bind_eq_some_iff.mp h
      obtain ⟨full, hfull, hseal⟩ := Option.bind_eq_some_iff.mp h
      obtain ⟨hlength, -, hslice⟩ := Durable.sealed hseal
      have hlengths := (length_writeAll hfull).trans (length_encodeFilePrefix hmid)
      refine ⟨le_refl 56, ?_, hslice⟩
      rw [hlength, hlengths, length_clear (by rwa [zero_add])]
      exact hlen
  | walHeader =>
      obtain ⟨work, header, h⟩ := h
      obtain ⟨⟨hlen, -⟩, h⟩ := guard_bind_eq_some.mp h
      exact ⟨le_refl 64, sealed_of_write hlen h⟩
  | walFrame =>
      obtain ⟨work, header, payload, h⟩ := h
      obtain ⟨⟨hlen, -⟩, h⟩ := guard_bind_eq_some.mp h
      exact ⟨(by decide : 64 ≤ 4096), sealed_of_write hlen h⟩
  | tableMetadata magic =>
      obtain ⟨work, m, h⟩ := h
      obtain ⟨⟨hlen, -⟩, h⟩ := guard_bind_eq_some.mp h
      exact ⟨le_refl 640, sealed_of_write hlen h⟩
  | tableBlock =>
      obtain ⟨work, header, h⟩ := h
      obtain ⟨⟨hlen, -⟩, h⟩ := guard_bind_eq_some.mp h
      exact sealed_of_writeBlock hlen h
  | tableIndex =>
      obtain ⟨work, header, h⟩ := h
      obtain ⟨⟨hlen, -⟩, h⟩ := guard_bind_eq_some.mp h
      exact sealed_of_writeBlock hlen h
  | valueChunk =>
      obtain ⟨work, header, payload, h⟩ := h
      obtain ⟨⟨hlen, -⟩, h⟩ := guard_bind_eq_some.mp h
      exact ⟨(by decide : 64 ≤ 4096), sealed_of_write hlen h⟩

/-- **Every decoder compares the checksum.** -/
theorem Accepted.sealed (h : kind.Accepted buf) :
    Sealed buf (kind.size buf) kind.checksumOffset := by
  cases kind with
  | manifest inlineValueLen =>
      obtain ⟨r, h⟩ := h
      obtain ⟨flags, totals, hholds, -⟩ := holds_of_decodeManifestRecord h
      exact ⟨hholds.length, hholds.checksum⟩
  | fileIdentity kind =>
      obtain ⟨identity, h⟩ := h
      obtain ⟨-, h⟩ := run_reject_bind_eq_ok.mp h
      obtain ⟨hlen, h⟩ := run_reject_bind_eq_ok.mp h
      obtain ⟨decoded, -, h⟩ := run_bind_eq_ok.mp h
      obtain ⟨-, h⟩ := run_reject_bind_eq_ok.mp h
      iterate 3 obtain ⟨_, -, h⟩ := run_bind_eq_ok.mp h
      obtain ⟨checksum, hread, h⟩ := run_bind_eq_ok.mp h
      obtain ⟨-, h⟩ := run_reject_bind_eq_ok.mp h
      obtain ⟨_, -, h⟩ := run_bind_eq_ok.mp h
      obtain ⟨-, h⟩ := run_reject_bind_eq_ok.mp h
      exact sealed_of_compare (le_refl 56) (not_lt.mp hlen) hread h
  | walHeader =>
      obtain ⟨header, h⟩ := h
      obtain ⟨hlen, h⟩ := run_reject_bind_eq_ok.mp h
      iterate 14 obtain ⟨_, -, h⟩ := run_bind_eq_ok.mp h
      obtain ⟨checksum, hread, h⟩ := run_bind_eq_ok.mp h
      exact sealed_of_compare (le_refl 64) (not_lt.mp hlen) hread h
  | walFrame =>
      obtain ⟨header, h⟩ := h
      obtain ⟨hlen, h⟩ := run_reject_bind_eq_ok.mp h
      iterate 15 obtain ⟨_, -, h⟩ := run_bind_eq_ok.mp h
      obtain ⟨checksum, hread, h⟩ := run_bind_eq_ok.mp h
      exact sealed_of_compare (by decide : 64 ≤ 4096) (not_lt.mp hlen) hread h
  | tableMetadata magic =>
      obtain ⟨m, h⟩ := h
      obtain ⟨-, h⟩ := run_reject_bind_eq_ok.mp h
      obtain ⟨hlen, h⟩ := run_reject_bind_eq_ok.mp h
      iterate 21 obtain ⟨_, -, h⟩ := run_bind_eq_ok.mp h
      obtain ⟨checksum, hread, h⟩ := run_bind_eq_ok.mp h
      exact sealed_of_compare (le_refl 640) (not_lt.mp hlen) hread h
  | tableBlock =>
      obtain ⟨header, h⟩ := h
      obtain ⟨hlen, h⟩ := run_reject_bind_eq_ok.mp h
      iterate 8 obtain ⟨_, -, h⟩ := run_bind_eq_ok.mp h
      obtain ⟨checksum, hread, h⟩ := run_bind_eq_ok.mp h
      exact sealed_of_compare (not_lt.mp hlen) le_rfl hread h
  | tableIndex =>
      obtain ⟨header, h⟩ := h
      obtain ⟨hlen, h⟩ := run_reject_bind_eq_ok.mp h
      iterate 7 obtain ⟨_, -, h⟩ := run_bind_eq_ok.mp h
      obtain ⟨checksum, hread, h⟩ := run_bind_eq_ok.mp h
      exact sealed_of_compare (not_lt.mp hlen) le_rfl hread h
  | valueChunk =>
      obtain ⟨header, h⟩ := h
      obtain ⟨hlen, h⟩ := run_reject_bind_eq_ok.mp h
      iterate 11 obtain ⟨_, -, h⟩ := run_bind_eq_ok.mp h
      obtain ⟨checksum, hread, h⟩ := run_bind_eq_ok.mp h
      exact sealed_of_compare (by decide : 64 ≤ 4096) (not_lt.mp hlen) hread h

/-- **A burst is always detected.**  When a record that an encoder produced is changed within four
consecutive bytes outside of its checksum, or in its checksum alone, its decoder does not return
`ok`. -/
theorem burst_detected (h : kind.Encoded buf) (hlength : damaged.length = buf.length)
    (hne : damaged ≠ buf)
    (hchange : ChangedInBurst buf damaged (kind.size buf) kind.checksumOffset ∨
      ChangedInChecksum buf damaged kind.checksumOffset) : ¬ kind.Accepted damaged := by
  intro haccepted
  obtain ⟨hcover, hlen, hsealed⟩ := h.sealed
  have hsize : kind.size damaged = kind.size buf := by
    cases kind <;> first | rfl | exact hlength
  have hdamaged := haccepted.sealed.2
  rw [hsize] at hdamaged
  exact unsealed_of_change hcover hlen hsealed hlength hne hchange hdamaged

end RecordKind

/-- The header of a fresh WAL slot. -/
def freshWalHeader : WalHeader := ⟨1, 1, 1, 0, 16384, 65536, 4096, walHeaderStateActive⟩

/-- Its bytes. -/
def freshWalHeaderBytes : Bytes :=
  (encodeWalHeader (List.replicate 64 0) freshWalHeader).getD []

lemma encode_freshWalHeader :
    encodeWalHeader (List.replicate 64 0) freshWalHeader = some freshWalHeaderBytes := by
  have hsome : (encodeWalHeader (List.replicate 64 0) freshWalHeader).isSome = true := rfl
  obtain ⟨out, hout⟩ := Option.isSome_iff_exists.mp hsome
  unfold freshWalHeaderBytes
  rw [hout]
  rfl

/-- A damaged byte of its database identifier is detected. -/
theorem burst_detected_walHeader :
    ¬ RecordKind.walHeader.Accepted (freshWalHeaderBytes.modify 8 (· + 1)) := by
  have hencoded : RecordKind.walHeader.Encoded freshWalHeaderBytes := ⟨_, _, encode_freshWalHeader⟩
  have hlen : 64 ≤ freshWalHeaderBytes.length := hencoded.sealed.2.1
  have hbyte : ∀ b : UInt8, b + 1 ≠ b := fun b h => by simp at h
  refine RecordKind.burst_detected hencoded (List.length_modify _ _ _) (fun heq => ?_)
    (.inl ⟨8, fun i hi => ?_⟩)
  · have hat := congrArg (fun s => s[8]?) heq
    simp only [List.getElem?_modify_eq] at hat
    rw [List.getElem?_eq_getElem (by omega)] at hat
    exact hbyte _ (Option.some.inj hat)
  · rw [List.getElem?_modify] at hi
    have hin : 8 = i := by_contra fun hout => hi (by simp [hout])
    subst hin
    exact ⟨le_rfl, by decide, (by decide : 8 < 64), (by decide : ¬ (60 ≤ 8 ∧ 8 < 64))⟩

end Durable

end On9kvdb
