import On9kvdb.Durable.ManifestTables

/-!
# Manifest copies, written and read

`HoldsManifest` lists what the bytes of a manifest copy are: every field in its place, zeros between
them, and both checksums.  The encoder produces such bytes (`manifestImage_spec`), there is only one
way to produce them (`HoldsManifest.unique`), and the decoder returns a record whose bytes these are
(`holds_of_decodeManifestRecord`, `run_decodeManifestRecord`).

From these follow both directions of the codec.  Whatever is encoded is decoded as it was.  What is
decoded is encoded to the same bytes, unless the prefix carries flags or a record without tables
names a table bank that is not there: the decoder looks at neither.
-/

namespace On9kvdb

namespace Durable

open Decode Patch

/-! ## The prefix -/

section
variable {buf : Bytes} {magic : UInt32} {kind : FileKind} {flags : UInt16} {generation : UInt64}
  {payloadSize : UInt32}

lemma filePrefixFields_tiles :
    Tiles 0 (filePrefixFields magic kind flags generation payloadSize) 24 := by
  simp [filePrefixFields, Tiles, stop]

/-- The encoder of the prefix writes its fields and seals them. -/
lemma encodeFilePrefix_spec (hlen : 28 ≤ buf.length) (hmagic : magic ≠ 0) (hkind : kind ≠ .invalid)
    (hgeneration : generation ≠ 0) :
    ∃ out, encodeFilePrefix buf magic kind flags generation payloadSize = some out ∧
      out.length = buf.length ∧
      Holds out (filePrefixFields magic kind flags generation payloadSize) ∧
      slice out 24 4 = le32 (recordCrc out 28 24) ∧ ∀ i, 28 ≤ i → out[i]? = buf[i]? := by
  have htiles := @filePrefixFields_tiles magic kind flags generation payloadSize
  have hclear : (clear buf 0 28).length = buf.length := length_clear hlen
  have hfits : ∀ p ∈ filePrefixFields magic kind flags generation payloadSize,
      stop p ≤ (clear buf 0 28).length := fun p hp =>
    ((htiles.within.2 p hp).2.trans (by omega : 24 ≤ (clear buf 0 28).length))
  have hlength := length_patchAll hfits
  have hfield : 24 + (le32 (recordCrc (patchAll (clear buf 0 28)
      (filePrefixFields magic kind flags generation payloadSize)) 28 24)).length ≤
      (patchAll (clear buf 0 28)
        (filePrefixFields magic kind flags generation payloadSize)).length := by
    rw [length_le32]
    omega
  have hseal := write_of_fits hfield
  obtain ⟨hsealed, -, hcrc⟩ := sealed hseal
  refine ⟨_, ?_, hsealed.trans (hlength.trans hclear), ?_, hcrc, fun i hi => ?_⟩
  · unfold encodeFilePrefix
    rw [guard_bind_eq_some]
    refine ⟨⟨hlen, hmagic, hkind, hgeneration⟩, ?_⟩
    change (writeAll (clear buf 0 28) _ >>= _) = _
    rw [writeAll_of_fits hfits]
    exact hseal
  · refine (holds_patchAll hfits htiles.rising).congr htiles.within.2 fun i _ hi => ?_
    rw [getElem?_patch hfield, if_neg (by omega)]
  · rw [getElem?_patch hfield, length_le32, if_neg (by omega), getElem?_patchAll hfits, getElem?_clear
      hlen, if_neg (by omega)]
    intro p hp
    exact .inr ((htiles.within.2 p hp).2.trans (by omega))

/-- The decoder of the prefix finds the fields it returns. -/
lemma run_decodeFilePrefix_eq_ok {decoded : DecodedFilePrefix} :
    (decodeFilePrefix buf magic kind).run = some (.ok decoded) ↔
      (magic ≠ 0 ∧ kind ≠ .invalid) ∧ 28 ≤ buf.length ∧
      Holds buf (filePrefixFields magic kind decoded.flags decoded.generation
        decoded.payloadSize) ∧
      slice buf 24 4 = le32 (recordCrc buf 28 24) ∧ decoded.generation ≠ 0 ∧
      decoded = ⟨magic, storageRevision, kind, decoded.flags, decoded.generation,
        decoded.payloadSize, recordCrc buf 28 24⟩ := by
  unfold decodeFilePrefix
  rw [run_reject_bind_eq_ok, run_reject_bind_eq_ok, not_or, not_lt]
  refine and_congr_right fun _ => and_congr_right fun (hlen : 28 ≤ buf.length) => ?_
  simp only [run_bind_eq_ok, run_read16_eq_ok, run_read32_eq_ok, run_read64_eq_ok,
    run_reject_eq_ok, run_pure_eq_ok,
    run_readRecordCrc_eq_ok (by decide : filePrefixChecksumOffset + 4 ≤ filePrefixSize) hlen]
  simp only [filePrefixFields, holds_cons, holds_nil, length_le16, length_le32, length_le64,
    and_true]
  constructor
  · rintro ⟨magic', ⟨-, h0⟩, revision, ⟨-, h4⟩, size, ⟨-, h6⟩, code, ⟨-, h8⟩, flags, ⟨-, h10⟩,
      generation, ⟨-, h12⟩, payload, ⟨-, h20⟩, checksum, ⟨-, h24⟩, crc, hcrc, -, hsame, -, hmagic,
      -, -, -, hrevision, -, hsize, -, hkind, -, hgeneration, rfl⟩
    obtain rfl := not_not.mp hsame
    obtain rfl := not_not.mp hmagic
    obtain rfl := not_not.mp hrevision
    obtain rfl := not_not.mp hsize
    obtain rfl := not_not.mp hkind
    obtain rfl : recordCrc buf 28 24 = checksum := hcrc
    exact ⟨⟨h0, h4, h6, h8, h10, h12, h20⟩, h24, hgeneration, rfl⟩
  · rintro ⟨⟨h0, h4, h6, h8, h10, h12, h20⟩, h24, hgeneration, hdecoded⟩
    refine ⟨magic, ⟨by omega, h0⟩, storageRevision, ⟨by omega, h4⟩, _, ⟨by omega, h6⟩, _,
      ⟨by omega, h8⟩, _, ⟨by omega, h10⟩, _, ⟨by omega, h12⟩, _, ⟨by omega, h20⟩, _,
      ⟨hlen, h24⟩, _, rfl, (), not_not.mpr rfl, (), not_not.mpr rfl, (), by decide, (),
      not_not.mpr rfl, (), not_not.mpr rfl, (), not_not.mpr rfl, (), hgeneration, hdecoded.symm⟩

end

/-! ## The bytes of a copy -/

/-- The 4096 bytes of a manifest copy. -/
structure HoldsManifest (buf : Bytes) (flags : UInt16) (r : ManifestRecord)
    (activeTableCount : UInt32) : Prop where
  length : 4096 ≤ buf.length
  filePrefix : Holds buf (filePrefixFields manifestMagic .manifest flags r.generation
    (UInt32.ofNat (manifestRecordSize - filePrefixSize)))
  prefixChecksum : slice buf 24 4 = le32 (recordCrc buf 28 24)
  fields : Holds buf (manifestFields r activeTableCount)
  limitsGap : ZeroAt buf 90 2
  tableGap : ZeroAt buf 200 24
  tables : ∀ slot < 16, HoldsReference buf (tableReferenceOffset slot) (r.tables slot)
  padding : ZeroAt buf 1120 2972
  checksum : slice buf 4092 4 = le32 (recordCrc buf 4096 4092)

section
variable {buf out : Bytes} {flags : UInt16} {r : ManifestRecord} {count : UInt32}

/-- The fields up to the revision of the limits, and those behind the gap. -/
lemma manifestFields_tiles :
    Tiles 28 ((manifestFields r count).take 14) 90 ∧
      Tiles 92 ((manifestFields r count).drop 14) 200 := by
  constructor <;> simp [manifestFields, Tiles, stop]

lemma manifestFields_rising : Rising 28 (manifestFields r count) := by
  simp [manifestFields, Rising, stop]

lemma manifestFields_within :
    ∀ p ∈ manifestFields r count, (28 ≤ p.1 ∧ stop p ≤ 90) ∨ (92 ≤ p.1 ∧ stop p ≤ 200) := by
  intro p hp
  rw [← List.take_append_drop 14 (manifestFields r count), List.mem_append] at hp
  exact hp.imp (manifestFields_tiles.1.within.2 p) (manifestFields_tiles.2.within.2 p)

/-- **What the encoder writes are the bytes of the record.** -/
theorem manifestImage_spec (hlen : 4096 ≤ buf.length) (hgeneration : r.generation ≠ 0) :
    ∃ out, manifestImage buf flags r count = some out ∧ out.length = buf.length ∧
      HoldsManifest out flags r count := by
  have hclear : (clear buf 0 4096).length = buf.length := length_clear hlen
  obtain ⟨mid, hmid, hmidLength, hprefix, hprefixChecksum, hmidFrame⟩ :=
    @encodeFilePrefix_spec (clear buf 0 4096) manifestMagic .manifest flags r.generation
      (UInt32.ofNat (manifestRecordSize - filePrefixSize)) (by omega) (by decide) (by decide)
      hgeneration
  have hfits : ∀ p ∈ manifestFields r count, stop p ≤ mid.length := by
    intro p hp
    have hwithin := manifestFields_within p hp
    omega
  have hfieldsLength := length_patchAll hfits
  have hfieldsFrame : ∀ i, i < 28 ∨ (90 ≤ i ∧ i < 92) ∨ 200 ≤ i →
      (patchAll mid (manifestFields r count))[i]? = mid[i]? := by
    intro i hi
    refine getElem?_patchAll hfits fun p hp => ?_
    have hwithin := manifestFields_within p hp
    unfold stop at hwithin ⊢
    omega
  have hcleared : ∀ i, (90 ≤ i ∧ i < 92) ∨ (200 ≤ i ∧ i < 4096) →
      (patchAll mid (manifestFields r count))[i]? = some 0 := by
    intro i hi
    rw [hfieldsFrame i (by omega), hmidFrame i (by omega), getElem?_clear hlen, if_pos (by omega)]
  have hroom : tableReferenceOffset 16 ≤ (patchAll mid (manifestFields r count)).length := by
    change 1120 ≤ _
    omega
  have hblank : ∀ slot < 16,
      ZeroAt (patchAll mid (manifestFields r count)) (tableReferenceOffset slot) 56 := by
    intro slot hslot
    refine zeroAt_iff.mpr fun i hlow hhigh => hcleared i ?_
    unfold tableReferenceOffset manifestTableReferenceOffset manifestTableReferenceSize at hlow hhigh
    omega
  obtain ⟨full, hfull, hfullLength, hfullFrame, hreferences⟩ :=
    @encodeTables_spec _ r.tables 16 hroom hblank
  have hfield : 4092 + (le32 (recordCrc full 4096 4092)).length ≤ full.length := by
    rw [length_le32]
    omega
  have hseal := write_of_fits hfield
  obtain ⟨hsealedLength, -, hchecksum⟩ := sealed hseal
  have hframe : ∀ i, i < 4092 →
      full[i]? = (patch full 4092 (le32 (recordCrc full 4096 4092)))[i]? := by
    intro i hi
    rw [getElem?_patch hfield, if_neg (by omega)]
  generalize patch full 4092 (le32 (recordCrc full 4096 4092)) = out at *
  have hlow : ∀ i, i < 224 → (patchAll mid (manifestFields r count))[i]? = out[i]? := fun i hi =>
    (hfullFrame i (.inl hi)).symm.trans (hframe i (by omega))
  have hstart : ∀ i, i < 28 → mid[i]? = out[i]? := fun i hi =>
    (hfieldsFrame i (.inl hi)).symm.trans (hlow i (by omega))
  refine ⟨out, ?_, by omega, ?_⟩
  · unfold manifestImage
    change (encodeFilePrefix (clear buf 0 4096) _ _ _ _ _ >>= _) = _
    rw [hmid]
    change (writeAll mid _ >>= _) = _
    rw [writeAll_of_fits hfits]
    change (encodeTables _ _ 16 >>= _) = _
    rw [hfull]
    exact hseal
  · exact {
      length := by omega
      filePrefix := hprefix.congr filePrefixFields_tiles.within.2 fun i _ hi => hstart i (by omega)
      prefixChecksum := by
        rw [← slice_congr fun i _ hi => hstart i (by omega), hprefixChecksum]
        exact congrArg le32 (recordCrc_congr (slice_congr fun i _ hi => hstart i (by omega))
          (slice_congr fun i hge hi => hstart i (by omega)))
      fields := (holds_patchAll hfits manifestFields_rising).congr
        (fun p hp => ⟨manifestFields_rising.le hp,
          (manifestFields_within p hp).elim (fun h => h.2.trans (by decide)) And.right⟩)
        fun i _ hi => hlow i (by omega)
      limitsGap := (zeroAt_iff.mpr fun i hge hi => hcleared i (by omega)).congr fun i _ hi =>
        hlow i (by omega)
      tableGap := (zeroAt_iff.mpr fun i hge hi => hcleared i (by omega)).congr fun i _ hi =>
        hlow i (by omega)
      tables := fun slot hslot => (hreferences slot hslot).congr fun i _ hi => by
        unfold tableReferenceOffset manifestTableReferenceOffset manifestTableReferenceSize at hi
        exact hframe i (by omega)
      padding := (zeroAt_iff.mpr fun i hge hi => hcleared i (by omega)).congr fun i hge hi =>
        (hfullFrame i (.inr (by change 1120 ≤ i; omega))).symm.trans (hframe i (by omega))
      checksum := hchecksum }

lemma agree_of_slice {offset len i : ℕ} {bytes : Bytes} (hbuf : slice buf offset len = bytes)
    (hout : slice out offset len = bytes) (hlow : offset ≤ i) (hhigh : i < offset + len) :
    buf[i]? = out[i]? := getElem?_of_slice (hbuf.trans hout.symm) hlow hhigh

/-- **There is only one copy with given bytes.** -/
theorem HoldsManifest.unique (hbuf : HoldsManifest buf flags r count)
    (hout : HoldsManifest out flags r count) (hbufLength : buf.length = 4096)
    (houtLength : out.length = 4096) : buf = out := by
  have hprefix : ∀ i, i < 24 → buf[i]? = out[i]? := fun i hi =>
    filePrefixFields_tiles.agree hbuf.filePrefix hout.filePrefix (Nat.zero_le i) hi
  have hprefixCrc : recordCrc buf 28 24 = recordCrc out 28 24 :=
    recordCrc_congr (slice_congr fun i _ hi => hprefix i (by omega))
      (slice_congr fun i hge hi => absurd hge (by omega))
  have hhead : ∀ i, i < 28 → buf[i]? = out[i]? := by
    intro i hi
    rcases Nat.lt_or_ge i 24 with h | h
    · exact hprefix i h
    · exact agree_of_slice hbuf.prefixChecksum (hprefixCrc ▸ hout.prefixChecksum) h (by omega)
  have hfields : ∀ i, 28 ≤ i → i < 200 → buf[i]? = out[i]? := by
    intro i hge hi
    rcases Nat.lt_or_ge i 90 with h90 | h90
    · exact manifestFields_tiles.1.agree (fun p hp => hbuf.fields p (List.mem_of_mem_take hp))
        (fun p hp => hout.fields p (List.mem_of_mem_take hp)) hge h90
    rcases Nat.lt_or_ge i 92 with h92 | h92
    · exact agree_of_slice hbuf.limitsGap hout.limitsGap h90 h92
    · exact manifestFields_tiles.2.agree (fun p hp => hbuf.fields p (List.mem_of_mem_drop hp))
        (fun p hp => hout.fields p (List.mem_of_mem_drop hp)) h92 hi
  have htables : ∀ i, 224 ≤ i → i < 1120 → buf[i]? = out[i]? := by
    intro i hge hi
    have hslot : (i - 224) / 56 < 16 := by omega
    refine (hbuf.tables _ hslot).agree (hout.tables _ hslot) ?_ ?_
    · unfold tableReferenceOffset manifestTableReferenceOffset manifestTableReferenceSize
      omega
    · unfold tableReferenceOffset manifestTableReferenceOffset manifestTableReferenceSize
      omega
  have hbody : ∀ i, i < 4092 → buf[i]? = out[i]? := by
    intro i hi
    rcases Nat.lt_or_ge i 28 with h28 | h28
    · exact hhead i h28
    rcases Nat.lt_or_ge i 200 with h200 | h200
    · exact hfields i h28 h200
    rcases Nat.lt_or_ge i 224 with h224 | h224
    · exact agree_of_slice hbuf.tableGap hout.tableGap h200 h224
    rcases Nat.lt_or_ge i 1120 with h1120 | h1120
    · exact htables i h224 h1120
    · exact agree_of_slice hbuf.padding hout.padding h1120 (by omega)
  have hcrc : recordCrc buf 4096 4092 = recordCrc out 4096 4092 :=
    recordCrc_congr (slice_congr fun i _ hi => hbody i (by omega))
      (slice_congr fun i hge hi => absurd hge (by omega))
  apply List.ext_getElem?
  intro i
  rcases Nat.lt_or_ge i 4092 with h | h
  · exact hbody i h
  rcases Nat.lt_or_ge i 4096 with h4096 | h4096
  · exact agree_of_slice hbuf.checksum (hcrc ▸ hout.checksum) h h4096
  · rw [List.getElem?_eq_none (by omega), List.getElem?_eq_none (by omega)]

/-! ## Decoding -/

variable {inlineValueLen : UInt32} {totals : TableTotals} {encodedCount : UInt32}

/-- The record as decoding returns it: arrays of two and of sixteen, and no inactive fields. -/
def ManifestRecord.stored (r : ManifestRecord) : ManifestRecord :=
  { r with
    walGeneration := pair (r.walGeneration 0) (r.walGeneration 1)
    valueBankGeneration := pair (r.valueBankGeneration 0) (r.valueBankGeneration 1)
    valueBankTail := pair (r.valueBankTail 0) (r.valueBankTail 1)
    tables := firstTables (fun slot => (r.tables slot).stored) maxTableCount }

lemma pair_of_lt {α : Type} (f : ℕ → α) {i : ℕ} (h : i < 2) : pair (f 0) (f 1) i = f i := by
  interval_cases i <;> rfl

lemma acceptable_stored :
    r.stored.acceptable inlineValueLen totals encodedCount =
      r.acceptable inlineValueLen totals encodedCount := by
  by_cases h : r.activeWalSlot.toNat < 2
  · have hwal : r.stored.walGeneration r.stored.activeWalSlot.toNat =
        r.walGeneration r.activeWalSlot.toNat := pair_of_lt r.walGeneration h
    unfold ManifestRecord.acceptable ManifestRecord.stateValid ManifestRecord.readyValid
    rw [hwal]
    rfl
  · have hslot : ¬ r.activeWalSlot.toNat < walFileCount := h
    unfold ManifestRecord.acceptable
    simp only [ManifestRecord.stored, hslot, decide_false, Bool.and_false, Bool.false_and]

/-- What the encoder asks of a record is what the decoder asks, and two identifiers. -/
lemma encodable_iff :
    r.encodable inlineValueLen totals = true ↔ r.generation ≠ 0 ∧ r.databaseId ≠ 0 ∧
      r.acceptable inlineValueLen totals totals.activeTableCount = true := by
  unfold ManifestRecord.encodable ManifestRecord.acceptable
  simp only [Bool.and_eq_true, bne_iff_ne, beq_self_eq_true, and_true, and_assoc]

/-- A geometry that passes has banks. -/
lemma bankGeometryValid_of_acceptable
    (h : r.acceptable inlineValueLen totals encodedCount = true)
    (hbank : r.activeTableBank < 2) : bankGeometryValid r.geometry r.activeTableBank = true := by
  unfold ManifestRecord.acceptable validateCompactionCapacity validateStorageGeometry at h
  simp only [Bool.and_eq_true] at h
  have hranged := h.1.1.1.1.1.1.1.1.1.1
  unfold StorageGeometry.ranged at hranged
  simp only [Bool.and_eq_true] at hranged
  unfold bankGeometryValid
  rw [decide_eq_true hbank, Bool.and_true]
  simp only [Bool.and_eq_true]
  exact ⟨⟨hranged.1.1.1.1.1.1.1.1.1.2, hranged.1.1.1.1.1.1.1.1.2⟩, hranged.1.1.1.1.1.1.1.2⟩

/-- **The decoder finds the record in its bytes.** -/
theorem run_decodeManifestRecord (h : HoldsManifest buf flags r totals.activeTableCount)
    (hgeneration : r.generation ≠ 0) (hdatabase : r.databaseId ≠ 0)
    (hbank : ∀ slot < 16, (r.tables slot).active = true →
      bankGeometryValid r.geometry r.activeTableBank = true)
    (hscan : scanTables r.geometry r.activeTableBank r.safeCheckpointSequence r.tables 16 =
      some totals)
    (hacceptable : r.acceptable inlineValueLen totals totals.activeTableCount = true) :
    (decodeManifestRecord inlineValueLen buf).run = some (.ok r.stored) := by
  have hlen := h.length
  have hfields := h.fields
  simp only [manifestFields, holds_cons, holds_nil, length_le16, length_le32, length_le64,
    and_true] at hfields
  obtain ⟨h28, h36, h38, h40, h44, h48, h52, h56, h60, h64, h68, h72, h80, h88, h92, h96, h100,
    h104, h108, h112, h116, h120, h124, h128, h132, h140, h148, h156, h164, h168, h172, h176, h184,
    h192, h196⟩ := hfields
  have hprefix : (decodeFilePrefix buf manifestMagic .manifest).run = some (.ok
      ⟨manifestMagic, storageRevision, .manifest, flags, r.generation,
        UInt32.ofNat (manifestRecordSize - filePrefixSize), recordCrc buf 28 24⟩) :=
    run_decodeFilePrefix_eq_ok.mpr ⟨⟨by decide, by decide⟩, by omega, h.filePrefix,
      h.prefixChecksum, hgeneration, rfl⟩
  have hgeometry : (readGeometry buf).run = some (.ok r.geometry) := by
    unfold readGeometry
    simp only [run_bind_eq_ok, run_read32_eq_ok, run_read64_eq_ok, run_pure_eq_ok]
    exact ⟨_, ⟨by omega, h40⟩, _, ⟨by omega, h44⟩, _, ⟨by omega, h48⟩, _, ⟨by omega, h52⟩, _,
      ⟨by omega, h56⟩, _, ⟨by omega, h60⟩, _, ⟨by omega, h64⟩, _, ⟨by omega, h68⟩, _,
      ⟨by omega, h72⟩, _, ⟨by omega, h80⟩, rfl⟩
  have hlimits : (readLimits buf).run = some (.ok r.limits) := by
    unfold readLimits
    simp only [run_bind_eq_ok, run_read32_eq_ok, run_pure_eq_ok]
    exact ⟨_, ⟨by omega, h92⟩, _, ⟨by omega, h96⟩, _, ⟨by omega, h100⟩, _, ⟨by omega, h104⟩, _,
      ⟨by omega, h108⟩, _, ⟨by omega, h112⟩, _, ⟨by omega, h116⟩, _, ⟨by omega, h120⟩, _,
      ⟨by omega, h124⟩, rfl⟩
  have hchecksum : (read32 buf manifestRecordChecksumOffset).run =
      some (.ok (recordCrc buf 4096 4092)) := run_read32_eq_ok.mpr ⟨hlen, h.checksum⟩
  have hcrc : (readRecordCrc buf manifestRecordSize manifestRecordChecksumOffset).run =
      some (.ok (recordCrc buf 4096 4092)) :=
    (run_readRecordCrc_eq_ok (by decide) hlen).mpr rfl
  have hroom : tableReferenceOffset maxTableCount ≤ buf.length := by
    change 1120 ≤ _
    omega
  have hpadding : tableReferenceOffset maxTableCount +
      (manifestRecordChecksumOffset - tableReferenceOffset maxTableCount) ≤ buf.length := by
    change 1120 + (4092 - 1120) ≤ _
    omega
  have htables : (decodeTables buf r.geometry r.activeTableBank r.safeCheckpointSequence
      maxTableCount).run = some (.ok
        (firstTables (fun slot => (r.tables slot).stored) maxTableCount, totals)) :=
    run_decodeTables hroom hbank h.tables hscan
  unfold decodeManifestRecord
  rw [run_reject_bind_eq_ok]
  refine ⟨not_lt.mpr hlen, ?_⟩
  rw [run_bind_ok hprefix, run_reject_bind_eq_ok]
  refine ⟨not_not.mpr rfl, ?_⟩
  rw [run_bind_ok (run_read64_eq_ok.mpr ⟨by omega, h28⟩),
    run_bind_ok (run_read16_eq_ok.mpr ⟨by omega, h36⟩),
    run_bind_ok (run_read16_eq_ok.mpr ⟨by omega, h38⟩), run_bind_ok hgeometry,
    run_bind_ok (run_read16_eq_ok.mpr ⟨by omega, h88⟩), run_bind_ok hlimits,
    run_bind_ok (run_read32_eq_ok.mpr ⟨by omega, h128⟩),
    run_bind_ok (run_read64_eq_ok.mpr ⟨by omega, h132⟩),
    run_bind_ok (run_read64_eq_ok.mpr ⟨by omega, h140⟩),
    run_bind_ok (run_read64_eq_ok.mpr ⟨by omega, h148⟩),
    run_bind_ok (run_read64_eq_ok.mpr ⟨by omega, h156⟩),
    run_bind_ok (run_read32_eq_ok.mpr ⟨by omega, h164⟩),
    run_bind_ok (run_read32_eq_ok.mpr ⟨by omega, h168⟩),
    run_bind_ok (run_read32_eq_ok.mpr ⟨by omega, h172⟩),
    run_bind_ok (run_read64_eq_ok.mpr ⟨by omega, h176⟩),
    run_bind_ok (run_read64_eq_ok.mpr ⟨by omega, h184⟩),
    run_bind_ok (run_read32_eq_ok.mpr ⟨by omega, h192⟩),
    run_bind_ok (run_read32_eq_ok.mpr ⟨by omega, h196⟩),
    run_bind_ok hchecksum, run_bind_ok htables]
  refine run_reject_bind_eq_ok.mpr ⟨fun hbad => ?_, ?_⟩
  · rcases hbad with hbad | hbad | hbad
    · exact hdatabase hbad
    · exact hbad rfl
    · exact hbad rfl
  refine (run_zero_bind_eq_ok (by omega)).mpr ⟨h.limitsGap, ?_⟩
  refine (run_zero_bind_eq_ok (by omega)).mpr ⟨h.tableGap, ?_⟩
  refine (run_zero_bind_eq_ok hpadding).mpr ⟨h.padding, ?_⟩
  refine run_reject_bind_eq_ok.mpr ⟨?_, ?_⟩
  · rw [Bool.not_eq_false]
    exact acceptable_stored.trans hacceptable
  rw [run_bind_ok hcrc]
  exact run_reject_bind_eq_ok.mpr ⟨not_not.mpr rfl, rfl⟩

/-- The bytes of a geometry that was read. -/
lemma run_readGeometry {g : StorageGeometry} (h : (readGeometry buf).run = some (.ok g)) :
    slice buf 40 4 = le32 g.alignment ∧ slice buf 44 4 = le32 g.manifestSize ∧
      slice buf 48 4 = le32 g.walSize ∧ slice buf 52 4 = le32 g.walCount ∧
      slice buf 56 4 = le32 g.tableSize ∧ slice buf 60 4 = le32 g.tableCount ∧
      slice buf 64 4 = le32 g.valueBankSize ∧ slice buf 68 4 = le32 g.valueBankCount ∧
      slice buf 72 8 = le64 g.maxLiveBytes ∧ slice buf 80 8 = le64 g.provisionedSize := by
  unfold readGeometry at h
  simp only [run_bind_eq_ok, run_read32_eq_ok, run_read64_eq_ok, run_pure_eq_ok] at h
  obtain ⟨_, h40, _, h44, _, h48, _, h52, _, h56, _, h60, _, h64, _, h68, _, h72, _, h80, rfl⟩ := h
  exact ⟨h40.2, h44.2, h48.2, h52.2, h56.2, h60.2, h64.2, h68.2, h72.2, h80.2⟩

/-- The bytes of the limits that were read. -/
lemma run_readLimits {l : LogicalLimits} (h : (readLimits buf).run = some (.ok l)) :
    slice buf 92 4 = le32 l.walFrameBytes ∧ slice buf 96 4 = le32 l.maxNamespaces ∧
      slice buf 100 4 = le32 l.maxOpenHandles ∧ slice buf 104 4 = le32 l.memtableEntries ∧
      slice buf 108 4 = le32 l.memtableDataBytes ∧
      slice buf 112 4 = le32 l.maxTransactionMutations ∧
      slice buf 116 4 = le32 l.transactionStagingBytes ∧
      slice buf 120 4 = le32 l.sstableBlockBytes ∧ slice buf 124 4 = le32 l.inlineValueBytes := by
  unfold readLimits at h
  simp only [run_bind_eq_ok, run_read32_eq_ok, run_pure_eq_ok] at h
  obtain ⟨_, h92, _, h96, _, h100, _, h104, _, h108, _, h112, _, h116, _, h120, _, h124, rfl⟩ := h
  exact ⟨h92.2, h96.2, h100.2, h104.2, h108.2, h112.2, h116.2, h120.2, h124.2⟩

/-- **What the decoder returns is in the bytes**, and meets the conditions of the encoder but for
the table bank. -/
theorem holds_of_decodeManifestRecord
    (h : (decodeManifestRecord inlineValueLen buf).run = some (.ok r)) :
    ∃ flags totals, HoldsManifest buf flags r totals.activeTableCount ∧
      scanTables r.geometry r.activeTableBank r.safeCheckpointSequence r.tables 16 = some totals ∧
      r.encodable inlineValueLen totals = true := by
  unfold decodeManifestRecord at h
  obtain ⟨hlong, h⟩ := run_reject_bind_eq_ok.mp h
  have hlen : 4096 ≤ buf.length := not_lt.mp hlong
  obtain ⟨decoded, hprefix, h⟩ := run_bind_eq_ok.mp h
  obtain ⟨hpayload, h⟩ := run_reject_bind_eq_ok.mp h
  have hroom : tableReferenceOffset maxTableCount ≤ buf.length := by
    change 1120 ≤ _
    omega
  have hpaddingRoom : tableReferenceOffset maxTableCount +
      (manifestRecordChecksumOffset - tableReferenceOffset maxTableCount) ≤ buf.length := by
    change 1120 + (4092 - 1120) ≤ _
    omega
  obtain ⟨databaseId, h28, h⟩ := run_bind_eq_ok.mp h
  obtain ⟨state, h36, h⟩ := run_bind_eq_ok.mp h
  obtain ⟨geometryFormat, h38, h⟩ := run_bind_eq_ok.mp h
  obtain ⟨geometry, hgeometry, h⟩ := run_bind_eq_ok.mp h
  obtain ⟨limitsFormat, h88, h⟩ := run_bind_eq_ok.mp h
  obtain ⟨limits, hlimits, h⟩ := run_bind_eq_ok.mp h
  obtain ⟨activeWalSlot, h128, h⟩ := run_bind_eq_ok.mp h
  obtain ⟨walGeneration0, h132, h⟩ := run_bind_eq_ok.mp h
  obtain ⟨walGeneration1, h140, h⟩ := run_bind_eq_ok.mp h
  obtain ⟨checkpoint, h148, h⟩ := run_bind_eq_ok.mp h
  obtain ⟨nextGeneration, h156, h⟩ := run_bind_eq_ok.mp h
  obtain ⟨encodedCount, h164, h⟩ := run_bind_eq_ok.mp h
  obtain ⟨tableBank, h168, h⟩ := run_bind_eq_ok.mp h
  obtain ⟨valueBank, h172, h⟩ := run_bind_eq_ok.mp h
  obtain ⟨bankGeneration0, h176, h⟩ := run_bind_eq_ok.mp h
  obtain ⟨bankGeneration1, h184, h⟩ := run_bind_eq_ok.mp h
  obtain ⟨tail0, h192, h⟩ := run_bind_eq_ok.mp h
  obtain ⟨tail1, h196, h⟩ := run_bind_eq_ok.mp h
  obtain ⟨checksum, h4092, h⟩ := run_bind_eq_ok.mp h
  obtain ⟨⟨tables, totals⟩, htables, h⟩ := run_bind_eq_ok.mp h
  obtain ⟨hformats, h⟩ := run_reject_bind_eq_ok.mp h
  obtain ⟨hgap, h⟩ := (run_zero_bind_eq_ok (by omega)).mp h
  obtain ⟨htableGap, h⟩ := (run_zero_bind_eq_ok (by omega)).mp h
  obtain ⟨hpadding, h⟩ := (run_zero_bind_eq_ok hpaddingRoom).mp h
  obtain ⟨hacceptable, h⟩ := run_reject_bind_eq_ok.mp h
  obtain ⟨crc, hcrc, h⟩ := run_bind_eq_ok.mp h
  obtain ⟨hchecksum, h⟩ := run_reject_bind_eq_ok.mp h
  obtain rfl := run_pure_eq_ok.mp h
  obtain ⟨hdatabase, hgeometryFormat, hlimitsFormat⟩ :
      databaseId ≠ 0 ∧ geometryFormat = geometryRevision ∧ limitsFormat = logicalLimitsRevision := by
    tauto
  obtain rfl := not_not.mp hchecksum
  rw [Bool.not_eq_false] at hacceptable
  have hcrc' := (run_readRecordCrc_eq_ok (by decide) hlen).mp hcrc
  obtain ⟨-, -, hprefixFields, hprefixChecksum, hgeneration, -⟩ :=
    run_decodeFilePrefix_eq_ok.mp hprefix
  obtain ⟨hreferences, hscan⟩ := holds_of_decodeTables hroom htables
  have hcount : encodedCount = totals.activeTableCount := by
    unfold ManifestRecord.acceptable at hacceptable
    simp only [Bool.and_eq_true, beq_iff_eq] at hacceptable
    exact hacceptable.1.1.1.2.symm
  subst hgeometryFormat hlimitsFormat hcount
  simp only [run_read16_eq_ok] at h36 h38 h88
  simp only [run_read32_eq_ok] at h128 h164 h168 h172 h192 h196
  simp only [run_read64_eq_ok] at h28 h132 h140 h148 h156 h176 h184
  refine ⟨decoded.flags, totals, ?_, hscan, encodable_iff.mpr ⟨hgeneration, hdatabase, hacceptable⟩⟩
  exact {
    length := hlen
    filePrefix := not_not.mp hpayload ▸ hprefixFields
    prefixChecksum := hprefixChecksum
    fields := by
      obtain ⟨h40, h44, h48, h52, h56, h60, h64, h68, h72, h80⟩ := run_readGeometry hgeometry
      obtain ⟨h92, h96, h100, h104, h108, h112, h116, h120, h124⟩ := run_readLimits hlimits
      simp only [manifestFields, holds_cons, holds_nil, length_le16, length_le32, length_le64,
        and_true]
      exact ⟨h28.2, h36.2, h38.2, h40, h44, h48, h52, h56, h60, h64, h68, h72, h80, h88.2, h92, h96,
        h100, h104, h108, h112, h116, h120, h124, h128.2, h132.2, h140.2, h148.2, h156.2, h164.2,
        h168.2, h172.2, h176.2, h184.2, h192.2, h196.2⟩
    limitsGap := hgap
    tableGap := htableGap
    tables := hreferences
    padding := hpadding
    checksum := hcrc' ▸ (run_read32_eq_ok.mp h4092).2 }

/-! ## Encoding -/

lemma tableReferencesValid_eq_some :
    r.tableReferencesValid = some totals ↔
      bankGeometryValid r.geometry r.activeTableBank = true ∧
      scanTables r.geometry r.activeTableBank r.safeCheckpointSequence r.tables 16 =
        some totals := guard_bind_eq_some

lemma encodeManifestRecord_eq_some :
    encodeManifestRecord inlineValueLen buf r = some out ↔
      ∃ totals, r.tableReferencesValid = some totals ∧
        (4096 ≤ buf.length ∧ r.encodable inlineValueLen totals = true) ∧
        manifestImage buf 0 r totals.activeTableCount = some out := by
  unfold encodeManifestRecord
  rw [Option.bind_eq_bind, Option.bind_eq_some_iff]
  exact exists_congr fun totals => and_congr_right fun _ => guard_bind_eq_some

/-- What an encoder that succeeds leaves. -/
lemma holds_of_encodeManifestRecord (h : encodeManifestRecord inlineValueLen buf r = some out) :
    ∃ totals, r.tableReferencesValid = some totals ∧ r.encodable inlineValueLen totals = true ∧
      out.length = buf.length ∧ HoldsManifest out 0 r totals.activeTableCount := by
  obtain ⟨totals, hscan, ⟨hlen, hencodable⟩, himage⟩ := encodeManifestRecord_eq_some.mp h
  obtain ⟨out', himage', hlength, hholds⟩ :=
    @manifestImage_spec buf 0 r totals.activeTableCount hlen (encodable_iff.mp hencodable).1
  cases himage.symm.trans himage'
  exact ⟨totals, hscan, hencodable, hlength, hholds⟩

/-- A copy is its first 4096 bytes. -/
lemma HoldsManifest.congr (h : HoldsManifest buf flags r count) (hlen : 4096 ≤ out.length)
    (hsame : ∀ i, i < 4096 → buf[i]? = out[i]?) : HoldsManifest out flags r count where
  length := hlen
  filePrefix := h.filePrefix.congr filePrefixFields_tiles.within.2 fun i _ hi =>
    hsame i (by omega)
  prefixChecksum := by
    rw [← slice_congr fun i _ hi => hsame i (by omega), h.prefixChecksum]
    exact congrArg le32 (recordCrc_congr (slice_congr fun i _ hi => hsame i (by omega))
      (slice_congr fun i _ hi => hsame i (by omega)))
  fields := h.fields.congr
    (fun p hp => ⟨manifestFields_rising.le hp,
      (manifestFields_within p hp).elim (fun h => h.2.trans (by decide)) And.right⟩)
    fun i _ (hi : i < 200) => hsame i (by omega)
  limitsGap := h.limitsGap.congr fun i _ hi => hsame i (by omega)
  tableGap := h.tableGap.congr fun i _ hi => hsame i (by omega)
  tables := fun slot hslot => (h.tables slot hslot).congr fun i _ hi => by
    unfold tableReferenceOffset manifestTableReferenceOffset manifestTableReferenceSize at hi
    exact hsame i (by omega)
  padding := h.padding.congr fun i _ hi => hsame i (by omega)
  checksum := by
    rw [← slice_congr fun i _ hi => hsame i (by omega), h.checksum]
    exact congrArg le32 (recordCrc_congr (slice_congr fun i _ hi => hsame i (by omega))
      (slice_congr fun i _ hi => hsame i (by omega)))

/-! ## Whatever is encoded is decoded -/

/-- Two records with the same stored contents. -/
structure SameManifest (r r' : ManifestRecord) : Prop where
  generation : r.generation = r'.generation
  databaseId : r.databaseId = r'.databaseId
  state : r.state = r'.state
  geometry : r.geometry = r'.geometry
  limits : r.limits = r'.limits
  activeWalSlot : r.activeWalSlot = r'.activeWalSlot
  walGeneration : ∀ slot < walFileCount, r.walGeneration slot = r'.walGeneration slot
  safeCheckpointSequence : r.safeCheckpointSequence = r'.safeCheckpointSequence
  nextTableGeneration : r.nextTableGeneration = r'.nextTableGeneration
  activeTableBank : r.activeTableBank = r'.activeTableBank
  activeValueBank : r.activeValueBank = r'.activeValueBank
  valueBankGeneration : ∀ bank < valueBankCount,
    r.valueBankGeneration bank = r'.valueBankGeneration bank
  valueBankTail : ∀ bank < valueBankCount, r.valueBankTail bank = r'.valueBankTail bank
  tables : ∀ slot < maxTableCount, tableReferenceEqual (r.tables slot) (r'.tables slot) = true

lemma sameManifest_stored : SameManifest r r.stored where
  generation := rfl
  databaseId := rfl
  state := rfl
  geometry := rfl
  limits := rfl
  activeWalSlot := rfl
  walGeneration := fun _ hslot => (pair_of_lt r.walGeneration hslot).symm
  safeCheckpointSequence := rfl
  nextTableGeneration := rfl
  activeTableBank := rfl
  activeValueBank := rfl
  valueBankGeneration := fun _ hbank => (pair_of_lt r.valueBankGeneration hbank).symm
  valueBankTail := fun _ hbank => (pair_of_lt r.valueBankTail hbank).symm
  tables := fun slot hslot => by
    have hstored : r.stored.tables slot = (r.tables slot).stored := if_pos hslot
    rw [hstored]
    exact TableReference.tableReferenceEqual_stored

/-- **Manifest decode undoes encode.** -/
theorem decode_encode_manifest (h : encodeManifestRecord inlineValueLen buf r = some out) :
    ∃ r', (decodeManifestRecord inlineValueLen (out.take manifestRecordSize)).run = some (.ok r') ∧
      SameManifest r r' := by
  obtain ⟨totals, hvalid, hencodable, -, hholds⟩ := holds_of_encodeManifestRecord h
  obtain ⟨hgeneration, hdatabase, hacceptable⟩ := encodable_iff.mp hencodable
  obtain ⟨hbank, hscan⟩ := tableReferencesValid_eq_some.mp hvalid
  have hlen := hholds.length
  have hcopy : HoldsManifest (out.take manifestRecordSize) 0 r totals.activeTableCount := by
    refine hholds.congr ?_ fun i hi => (List.getElem?_take_of_lt hi).symm
    rw [List.length_take]
    exact le_min le_rfl hlen
  exact ⟨r.stored, run_decodeManifestRecord hcopy hgeneration hdatabase (fun _ _ _ => hbank) hscan
    hacceptable, sameManifest_stored⟩

/-! ## What is decoded is encoded to the same bytes -/

lemma slice_flags (h : HoldsManifest buf flags r count) : slice buf 10 2 = le16 flags := by
  have hfields := h.filePrefix
  simp only [filePrefixFields, holds_cons, length_le16, length_le32, length_le64] at hfields
  exact hfields.2.2.2.2.1

lemma leNat_bank (h : HoldsManifest buf flags r count) :
    leNat (slice buf 168 4) = r.activeTableBank.toNat := by
  have hbank := h.fields (168, le32 r.activeTableBank) (by simp [manifestFields])
  rw [length_le32] at hbank
  rw [hbank]
  exact leNat_leBytes r.activeTableBank.toNat_lt

lemma le16_eq_zero {value : UInt16} : le16 value = [0, 0] ↔ value = 0 := by
  constructor
  · intro h
    have hnat := congrArg leNat h
    unfold le16 at hnat
    rw [leNat_leBytes value.toNat_lt] at hnat
    exact UInt16.toNat_inj.mp hnat
  · rintro rfl
    rfl

/-- An encoder that succeeds has written no flags, and its record names a bank. -/
lemma encoded_plain (h : encodeManifestRecord inlineValueLen buf r = some out) :
    slice out 10 2 = [0, 0] ∧ leNat (slice out 168 4) < 2 := by
  obtain ⟨totals, hvalid, -, -, hholds⟩ := holds_of_encodeManifestRecord h
  have hbank := (tableReferencesValid_eq_some.mp hvalid).1
  unfold bankGeometryValid at hbank
  rw [Bool.and_eq_true, decide_eq_true_eq] at hbank
  rw [leNat_bank hholds]
  exact ⟨(slice_flags hholds).trans (le16_eq_zero.mpr rfl), hbank.2⟩

/-- **An accepted copy is what the encoder writes, exactly when it carries no prefix flags and names
one of the two table banks.** -/
theorem encode_decode_manifest_iff {work : Bytes} (hbuf : buf.length = manifestRecordSize)
    (hwork : work.length = manifestRecordSize)
    (h : (decodeManifestRecord inlineValueLen buf).run = some (.ok r)) :
    encodeManifestRecord inlineValueLen work r = some buf ↔
      slice buf 10 2 = [0, 0] ∧ leNat (slice buf 168 4) < 2 := by
  refine ⟨encoded_plain, fun ⟨hflags, hbank⟩ => ?_⟩
  obtain ⟨flags, totals, hholds, hscan, hencodable⟩ := holds_of_decodeManifestRecord h
  obtain ⟨hgeneration, -, hacceptable⟩ := encodable_iff.mp hencodable
  rw [slice_flags hholds, le16_eq_zero] at hflags
  rw [leNat_bank hholds] at hbank
  obtain ⟨out, himage, hlength, hout⟩ :=
    @manifestImage_spec work 0 r totals.activeTableCount hwork.ge hgeneration
  have hsame : out = buf := hout.unique (hflags ▸ hholds) (hlength.trans hwork) hbuf
  refine encodeManifestRecord_eq_some.mpr ⟨totals, tableReferencesValid_eq_some.mpr
    ⟨bankGeometryValid_of_acceptable hacceptable hbank, hscan⟩, ⟨hwork.ge, hencodable⟩, ?_⟩
  exact hsame ▸ himage

end

/-! ## Copies of the host tests' geometry -/

/-- The build configuration of the host tests (`tests/host_stubs/sdkconfig.h`). -/
def hostGeometry : StorageGeometry :=
  ⟨1155072, 65536, 8192, 65536, 2, 118784, 4, 270336, 2, 4096⟩
def hostLimits : LogicalLimits := ⟨4096, 8, 4, 16, 8192, 10, 8192, 16384, 1024⟩

/-- The record a database starts from. -/
def freshManifest : ManifestRecord where
  generation := 1
  databaseId := 1
  state := manifestStateProvisioningOwned
  geometry := hostGeometry
  limits := hostLimits
  activeWalSlot := 0
  walGeneration := pair 0 0
  safeCheckpointSequence := 0
  nextTableGeneration := 1
  activeTableBank := 0
  activeValueBank := 0
  valueBankGeneration := pair 1 1
  valueBankTail := pair 8192 8192
  tables := fun _ => .blank

/-- A ready record without tables that names a table bank past the two. -/
def strayManifest : ManifestRecord :=
  { freshManifest with
    generation := 3
    state := manifestStateReady
    walGeneration := pair 1 0
    activeTableBank := 2 }

/-- An empty buffer of one copy. -/
def blankCopy : Bytes := List.replicate 4096 0

/-- The bytes of a record without tables, with flags in its prefix. -/
def copyOf (flags : UInt16) (r : ManifestRecord) : Bytes :=
  (manifestImage blankCopy flags r 0).getD []

section
variable {flags : UInt16} {r : ManifestRecord}

/-- A record without tables is decoded from its bytes, whatever the flags and the bank. -/
lemma copyOf_spec (hgeneration : r.generation ≠ 0) (hdatabase : r.databaseId ≠ 0)
    (htables : r.tables = fun _ => .blank) (hstored : r.stored = r)
    (hacceptable : r.acceptable 1024 .zero 0 = true) :
    manifestImage blankCopy flags r 0 = some (copyOf flags r) ∧
      (copyOf flags r).length = manifestRecordSize ∧ HoldsManifest (copyOf flags r) flags r 0 ∧
      (decodeManifestRecord 1024 (copyOf flags r)).run = some (.ok r) := by
  have hblank : blankCopy.length = 4096 := List.length_replicate
  obtain ⟨out, himage, hlength, hholds⟩ := @manifestImage_spec blankCopy flags r 0 hblank.ge
    hgeneration
  have hcopy : copyOf flags r = out := by
    unfold copyOf
    rw [himage]
    rfl
  have hinactive : ∀ slot, (r.tables slot).active = false := by
    intro slot
    rw [htables]
    rfl
  have hscan : scanTables r.geometry r.activeTableBank r.safeCheckpointSequence r.tables 16 =
      some .zero := by
    rw [htables]
    rfl
  rw [hcopy]
  refine ⟨himage, hlength.trans hblank, hholds, ?_⟩
  have hrun : (decodeManifestRecord 1024 out).run = some (.ok r.stored) :=
    @run_decodeManifestRecord out flags r 1024 .zero hholds hgeneration hdatabase
      (fun slot _ hactive => absurd hactive (by rw [hinactive]; decide)) hscan hacceptable
  rwa [hstored] at hrun

end

lemma stored_of_blank {r : ManifestRecord} (htables : r.tables = fun _ => .blank)
    (hwal : r.walGeneration = pair (r.walGeneration 0) (r.walGeneration 1))
    (hgeneration : r.valueBankGeneration = pair (r.valueBankGeneration 0) (r.valueBankGeneration 1))
    (htail : r.valueBankTail = pair (r.valueBankTail 0) (r.valueBankTail 1)) : r.stored = r := by
  have hfirst : firstTables (fun slot => (r.tables slot).stored) maxTableCount = r.tables := by
    rw [htables]
    funext slot
    unfold firstTables
    split_ifs <;> rfl
  unfold ManifestRecord.stored
  rw [← hwal, ← hgeneration, ← htail, hfirst]

/-- The copies of the record a database starts from. -/
lemma copyOf_fresh (flags : UInt16) :
    manifestImage blankCopy flags freshManifest 0 = some (copyOf flags freshManifest) ∧
      (copyOf flags freshManifest).length = manifestRecordSize ∧
      HoldsManifest (copyOf flags freshManifest) flags freshManifest 0 ∧
      (decodeManifestRecord 1024 (copyOf flags freshManifest)).run = some (.ok freshManifest) :=
  copyOf_spec (by decide) (by decide) rfl (stored_of_blank rfl rfl rfl rfl) (by decide +kernel)

/-- The copy with the stray table bank. -/
lemma copyOf_stray :
    (copyOf 0 strayManifest).length = manifestRecordSize ∧
      (decodeManifestRecord 1024 (copyOf 0 strayManifest)).run = some (.ok strayManifest) :=
  have h := @copyOf_spec 0 strayManifest (by decide) (by decide) rfl
    (stored_of_blank rfl rfl rfl rfl) (by decide +kernel)
  ⟨h.2.1, h.2.2.2⟩

/-- The record a database starts from is encoded. -/
lemma encode_fresh :
    encodeManifestRecord 1024 blankCopy freshManifest = some (copyOf 0 freshManifest) :=
  encodeManifestRecord_eq_some.mpr ⟨.zero, by decide +kernel,
    ⟨List.length_replicate.ge, by decide +kernel⟩, (copyOf_fresh 0).1⟩

/-- It is read back. -/
theorem decode_encode_manifest_fresh :
    ∃ r', (decodeManifestRecord 1024 ((copyOf 0 freshManifest).take manifestRecordSize)).run =
      some (.ok r') ∧ SameManifest freshManifest r' := decode_encode_manifest encode_fresh

/-- Its copy is encoded to itself, as it carries no flags. -/
theorem encode_decode_manifest_fresh :
    encodeManifestRecord 1024 blankCopy freshManifest = some (copyOf 0 freshManifest) ↔
      slice (copyOf 0 freshManifest) 10 2 = [0, 0] ∧
        leNat (slice (copyOf 0 freshManifest) 168 4) < 2 :=
  encode_decode_manifest_iff (copyOf_fresh 0).2.1 List.length_replicate (copyOf_fresh 0).2.2.2

/-- A copy with a flag in its prefix is accepted, and encoded to other bytes; one with a table bank
past the two is accepted, and not encoded at all. -/
theorem flagged_copy_accepted :
    ((copyOf 1 freshManifest).length = manifestRecordSize ∧
      (decodeManifestRecord 1024 (copyOf 1 freshManifest)).run = some (.ok freshManifest) ∧
      encodeManifestRecord 1024 blankCopy freshManifest ≠ some (copyOf 1 freshManifest)) ∧
    ((copyOf 0 strayManifest).length = manifestRecordSize ∧
      (decodeManifestRecord 1024 (copyOf 0 strayManifest)).run = some (.ok strayManifest) ∧
      encodeManifestRecord 1024 blankCopy strayManifest = none) := by
  obtain ⟨-, hlength, hholds, hrun⟩ := copyOf_fresh 1
  refine ⟨⟨hlength, hrun, fun h => ?_⟩, copyOf_stray.1, copyOf_stray.2, rfl⟩
  have hflags := (slice_flags hholds).symm.trans (encoded_plain h).1
  exact absurd (le16_eq_zero.mp hflags) (by decide)

end Durable

end On9kvdb
