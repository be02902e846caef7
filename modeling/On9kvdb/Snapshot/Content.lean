import On9kvdb.Reader.Window

/-!
# The bytes of an external value

`Holds` says that the media hold the bytes of a descriptor: every chunk passes the checks of its
readers, and the whole has the checksum of the descriptor.  It depends on the chunks of the
descriptor and on the database id alone, and it is all a reader needs.
-/

namespace On9kvdb

open Exceptional ValueReaderSlot

/-- What a manifest contributes to the checks of a chunk. -/
structure SameDatabase (m m' : ManifestRecord) : Prop where
  databaseId : m'.databaseId = m.databaseId
  geometry : m'.geometry = m.geometry

lemma SameDatabase.refl (m : ManifestRecord) : SameDatabase m m := ⟨rfl, rfl⟩

lemma SameDatabase.trans {m m' m'' : ManifestRecord} (h₁ : SameDatabase m m')
    (h₂ : SameDatabase m' m'') : SameDatabase m m'' :=
  ⟨h₂.databaseId.trans h₁.databaseId, h₂.geometry.trans h₁.geometry⟩

/-- The media hold these bytes as the value of the descriptor. -/
structure Holds (manifest : ManifestRecord) (m : Media) (r : ValueRef) (bytes : Bytes) : Prop where
  chunks : readValueChunks manifest m r (chunkCount r.valueSize) 0 = .ok bytes
  checksum : calcCrc32 bytes = r.valueChecksum

section
variable {manifest manifest' : ManifestRecord} {m m' : Media} {r : ValueRef} {bytes : Bytes}

/-! ## Chunks -/

lemma checkValueChunk_congr (h : SameDatabase manifest manifest') (index : ℕ)
    (cell : Cell ValueChunk) :
    checkValueChunk manifest' r index cell = checkValueChunk manifest r index cell := by
  unfold checkValueChunk
  rw [h.databaseId]

/-- Reading a value depends on its chunks. -/
lemma readValueChunks_congr (h : SameDatabase manifest manifest') {remaining index : ℕ}
    (hchunks : ∀ i < index + remaining,
      m'.valueChunk r.bankSlot (r.chunkOffset i) = m.valueChunk r.bankSlot (r.chunkOffset i)) :
    readValueChunks manifest' m' r remaining index = readValueChunks manifest m r remaining index := by
  induction remaining generalizing index with
  | zero => rfl
  | succ remaining ih =>
      unfold readValueChunks
      rw [hchunks index (by omega), checkValueChunk_congr h,
        @ih (index + 1) fun i hi => hchunks i (by omega)]

/-- **Media that agree on the chunks of a value hold the same bytes.** -/
lemma Holds.congr (h : Holds manifest m r bytes) (hmanifest : SameDatabase manifest manifest')
    (hchunks : ∀ i < chunkCount r.valueSize,
      m'.valueChunk r.bankSlot (r.chunkOffset i) = m.valueChunk r.bankSlot (r.chunkOffset i)) :
    Holds manifest' m' r bytes :=
  ⟨(readValueChunks_congr hmanifest (by rwa [Nat.zero_add])).trans h.chunks, h.checksum⟩

lemma expectedPayload_full {index : ℕ} (h : index + 1 < chunkCount r.valueSize) :
    expectedPayload r index = valueChunkPayloadSize := by
  unfold chunkCount at h
  rw [Nat.lt_div_iff_mul_lt (by decide)] at h
  unfold expectedPayload
  simp only [valueChunkPayloadSize, valueChunkSize, formatAlignment] at *
  omega

/-- The bytes behind chunk `index`, as `remaining` chunks hold them. -/
structure Suffix (manifest : ManifestRecord) (m : Media) (r : ValueRef) (remaining index : ℕ)
    (bytes : Bytes) : Prop where
  length : bytes.length = r.valueSize - index * valueChunkPayloadSize
  chunk : ∀ i < remaining, ∃ chunk, checkValueChunk manifest r (index + i)
      (m.valueChunk r.bankSlot (r.chunkOffset (index + i))) = .ok chunk ∧
    chunk.payload = (bytes.drop (i * valueChunkPayloadSize)).take valueChunkPayloadSize

lemma suffix_of_read {remaining index : ℕ} (hcount : index + remaining = chunkCount r.valueSize)
    (h : readValueChunks manifest m r remaining index = .ok bytes) :
    Suffix manifest m r remaining index bytes := by
  induction remaining generalizing index bytes with
  | zero =>
      cases h
      refine ⟨?_, fun i hi => absurd hi (Nat.not_lt_zero i)⟩
      unfold chunkCount at hcount
      have hle : r.valueSize ≤ index * valueChunkPayloadSize := by
        rw [Nat.add_zero] at hcount
        rw [hcount]
        simp only [valueChunkPayloadSize, valueChunkSize, formatAlignment]
        omega
      rw [List.length_nil, Nat.sub_eq_zero_of_le hle]
  | succ remaining ih =>
      unfold readValueChunks at h
      rw [bind_eq_ok] at h
      obtain ⟨chunk, hchunk, h⟩ := h
      rw [bind_eq_ok] at h
      obtain ⟨rest, hrest, h⟩ := h
      cases h
      obtain ⟨hlength, hchunks⟩ := ih (by omega) hrest
      have hpayload := checkValueChunk_payload hchunk
      have hbound : chunk.payload.length ≤ valueChunkPayloadSize := by
        rw [hpayload]
        exact min_le_right _ _
      have hfull : 0 < remaining → chunk.payload.length = valueChunkPayloadSize := fun hpos => by
        rw [hpayload]
        exact expectedPayload_full (by omega)
      refine ⟨?_, fun i hi => ?_⟩
      · rw [List.length_append, hlength, hpayload]
        unfold expectedPayload
        rw [Nat.add_mul]
        omega
      · cases i with
        | zero =>
            refine ⟨chunk, hchunk, ?_⟩
            rw [Nat.zero_mul, List.drop_zero]
            rcases Nat.eq_zero_or_pos remaining with hlast | hmore
            · subst hlast
              have hnil : rest = [] := by
                cases hrest
                rfl
              rw [hnil, List.append_nil, List.take_of_length_le hbound]
            · rw [← hfull hmore, List.take_left]
        | succ i =>
            obtain ⟨next, hnext, hslice⟩ := hchunks i (by omega)
            refine ⟨next, ?_, ?_⟩
            · rw [show index + (i + 1) = index + 1 + i by omega]
              exact hnext
            · rw [hslice, Nat.succ_mul, Nat.add_comm, ← List.drop_drop, ← hfull (by omega),
                List.drop_left]

/-! ## What a reader finds -/

namespace Holds

variable (h : Holds manifest m r bytes)
include h

lemma suffix : Suffix manifest m r (chunkCount r.valueSize) 0 bytes :=
  suffix_of_read (Nat.zero_add _) h.chunks

lemma length : bytes.length = r.valueSize := by
  rw [h.suffix.length, Nat.zero_mul, Nat.sub_zero]

/-- Every chunk is a slice of the bytes. -/
lemma chunk {index : ℕ} (hindex : index < chunkCount r.valueSize) :
    ∃ chunk, checkValueChunk manifest r index (m.valueChunk r.bankSlot (r.chunkOffset index)) =
      .ok chunk ∧ chunk.payload = (bytes.drop (index * valueChunkPayloadSize)).take
        valueChunkPayloadSize := by
  have hsuffix := h.suffix.chunk index hindex
  rwa [Nat.zero_add] at hsuffix

end Holds

/-- **Every verified byte is one of the bytes.** -/
lemma Holds.verified {w : World} (h : Holds w.db.manifest w.dev.current r bytes) (position : ℕ)
    (byte : UInt8) (hbyte : Verified w r position byte) : bytes[position]? = some byte := by
  unfold Verified verifiedByte at hbyte
  rcases lt_or_ge (position / valueChunkPayloadSize) (chunkCount r.valueSize) with hlt | hge
  · obtain ⟨chunk, hchunk, hpayload⟩ := h.chunk hlt
    rw [hchunk] at hbyte
    dsimp only at hbyte
    rw [hpayload, List.getElem?_take_of_lt (Nat.mod_lt _ (by decide)), List.getElem?_drop,
      Nat.div_add_mod'] at hbyte
    exact hbyte
  · cases hchunk : checkValueChunk w.db.manifest r (position / valueChunkPayloadSize)
        (w.dev.current.valueChunk r.bankSlot
          (r.chunkOffset (position / valueChunkPayloadSize))) with
    | error e =>
        rw [hchunk] at hbyte
        cases hbyte
    | ok chunk =>
        rw [hchunk] at hbyte
        dsimp only at hbyte
        have hpayload := checkValueChunk_payload hchunk
        have hnone : expectedPayload r (position / valueChunkPayloadSize) = 0 := by
          unfold expectedPayload
          have hend : r.valueSize ≤ position / valueChunkPayloadSize * valueChunkPayloadSize := by
            refine le_trans ?_ (Nat.mul_le_mul_right _ hge)
            unfold chunkCount
            simp only [valueChunkPayloadSize, valueChunkSize, formatAlignment]
            omega
          omega
        rw [hnone, List.length_eq_zero_iff] at hpayload
        rw [hpayload] at hbyte
        simp at hbyte

/-- A held value can be read. -/
lemma Holds.readable {w : World} (h : Holds w.db.manifest w.dev.current r bytes)
    (hdevice : w.dev.Faultless)
    (hvalid : valueRefIsValid r w.db.manifest.geometry.valueBankSize = true) : Readable w r :=
  ⟨hdevice, hvalid, fun _ hindex => (h.chunk hindex).imp fun _ hchunk => hchunk.1⟩

end

end On9kvdb
