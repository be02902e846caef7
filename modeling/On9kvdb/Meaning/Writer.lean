import On9kvdb.Meaning.Publication
import On9kvdb.Snapshot.Isolation

/-!
# A value that is being written

A writer takes the bytes of a value in pieces of any size.  `WriterHas` says what it has of them: the
full chunks are on the media and pass the checks of a reader, the rest is in the buffer, and the
rolling checksum is the one of all of them.  Every piece appends to this (`triple_writeValueUnsafe_written`),
and a finished value is held by the media under the descriptor of the writer (`WriterHas.holds`).
-/

namespace On9kvdb

open Exceptional Versions

variable {cfg : Config} {w w' : World} {c : CompositeKey → Option Bytes} {staging : Staging}
  {manifest manifest' : ManifestRecord} {m m' : Media} {r : ValueRef} {flushed part written : Bytes}
  {key : Bytes} {size : ℕ}

/-! ## Chunks on the media -/

/-- The chunks of these bytes, the first ones of a value, are on the media. -/
def Chunked (manifest : ManifestRecord) (m : Media) (r : ValueRef) (flushed : Bytes) : Prop :=
  ∀ i < chunkCount flushed.length, ∃ chunk,
    checkValueChunk manifest r i (m.valueChunk r.bankSlot (r.chunkOffset i)) = .ok chunk ∧
      chunk.payload = (flushed.drop (i * valueChunkPayloadSize)).take valueChunkPayloadSize

/-- No chunks of no bytes. -/
lemma Chunked.nil : Chunked manifest m r [] := fun i hi => by
  unfold chunkCount at hi
  simp at hi

/-- The descriptor of the first bytes of a value. -/
def ValueRef.front (r : ValueRef) (count : ℕ) : ValueRef := { r with valueSize := count }

/-- What is kept of the chunks stays readable. -/
lemma Chunked.congr (h : Chunked manifest m r flushed) (hdatabase : SameDatabase manifest manifest')
    (hchunks : SameChunks (some (r.front flushed.length)) m m') :
    Chunked manifest' m' r flushed := fun i hi => by
  obtain ⟨chunk, hcheck, hpayload⟩ := h i hi
  refine ⟨chunk, ?_, hpayload⟩
  have hsame : m'.valueChunk r.bankSlot (r.chunkOffset i) =
      m.valueChunk r.bankSlot (r.chunkOffset i) := hchunks _ rfl i hi
  rw [checkValueChunk_congr hdatabase, hsame]
  exact hcheck

/-- A value whose chunks are on the media can be read. -/
lemma Chunked.read (h : Chunked manifest m r written) (hlength : written.length = r.valueSize)
    {remaining index : ℕ} (hcount : index + remaining = chunkCount r.valueSize) :
    readValueChunks manifest m r remaining index =
      .ok (written.drop (index * valueChunkPayloadSize)) := by
  induction remaining generalizing index with
  | zero =>
      have hall : written.length ≤ index * valueChunkPayloadSize := by
        rw [hlength, ← Nat.add_zero index, hcount]
        unfold chunkCount
        simp only [valueChunkPayloadSize, valueChunkSize, formatAlignment]
        omega
      rw [List.drop_eq_nil_of_le hall]
      rfl
  | succ remaining ih =>
      obtain ⟨chunk, hcheck, hpayload⟩ := h index (by rw [hlength]; omega)
      unfold readValueChunks
      rw [hcheck, ok_bind, ih (by omega), ok_bind, hpayload, Nat.succ_mul, ← List.drop_drop]
      show Except.ok _ = _
      rw [List.take_append_drop]

/-- The chunk that a writer encodes passes the checks of a reader. -/
lemma checkValueChunk_encoded {chunk : ValueChunk} {index : ℕ}
    (hencode : encodeValueChunk manifest.databaseId r.bankGeneration r.firstChunkOffset r.valueSize
      (index * valueChunkPayloadSize) part = some chunk)
    (hfull : part.length = valueChunkPayloadSize ∨
      index * valueChunkPayloadSize + part.length = r.valueSize) :
    checkValueChunk manifest r index (.ok chunk) = .ok chunk ∧ chunk.payload = part := by
  unfold encodeValueChunk at hencode
  split_ifs at hencode with hvalid
  cases hencode
  simp only [Bool.and_eq_true, decide_eq_true_eq, bne_iff_ne, ne_eq] at hvalid
  obtain ⟨⟨⟨⟨-, hoffset⟩, hpositive⟩, hbound⟩, hrest⟩ := hvalid
  refine ⟨?_, rfl⟩
  unfold checkValueChunk
  dsimp only
  rw [if_neg]
  push Not
  refine ⟨rfl, rfl, rfl, rfl, rfl, ?_, ?_⟩
  · unfold expectedPayload
    omega
  · unfold ValueChunk.final chunkCount
    dsimp only
    rw [Bool.eq_iff_iff, beq_iff_eq, beq_iff_eq]
    simp only [valueChunkPayloadSize, valueChunkSize, formatAlignment] at *
    omega

/-- **One more chunk** behind full ones. -/
lemma Chunked.append (h : Chunked manifest m r flushed) {chunk : ValueChunk}
    (haligned : flushed.length % valueChunkPayloadSize = 0) (hpositive : 0 < part.length)
    (hbound : part.length ≤ valueChunkPayloadSize)
    (hcheck : checkValueChunk manifest r (flushed.length / valueChunkPayloadSize)
      (m'.valueChunk r.bankSlot (r.chunkOffset (flushed.length / valueChunkPayloadSize))) =
        .ok chunk)
    (hpayload : chunk.payload = part)
    (hchunks : SameChunks (some (r.front flushed.length)) m m') :
    Chunked manifest m' r (flushed ++ part) := by
  have hcount := chunkCount_add haligned hpositive hbound
  have hindex : flushed.length / valueChunkPayloadSize = chunkCount flushed.length := by
    unfold chunkCount
    simp only [valueChunkPayloadSize, valueChunkSize, formatAlignment] at *
    omega
  have hfull : flushed.length = chunkCount flushed.length * valueChunkPayloadSize := by
    rw [← hindex, Nat.div_mul_cancel (Nat.dvd_of_mod_eq_zero haligned)]
  intro i hi
  rw [List.length_append, hcount] at hi
  rcases Nat.lt_succ_iff_lt_or_eq.mp hi with hlt | rfl
  · obtain ⟨old, hold, hslice⟩ := h.congr (.refl manifest) hchunks i hlt
    refine ⟨old, hold, ?_⟩
    have hinside : (i + 1) * valueChunkPayloadSize ≤ flushed.length := by
      rw [hfull]
      exact Nat.mul_le_mul_right _ hlt
    rw [Nat.succ_mul] at hinside
    rw [hslice, List.drop_append_of_le_length (by omega),
      List.take_append_of_le_length (by rw [List.length_drop]; omega)]
  · rw [hindex] at hcheck
    refine ⟨chunk, hcheck, ?_⟩
    rw [hpayload, ← hfull, List.drop_left, List.take_of_length_le hbound]

/-! ## The writer -/

/-- The full chunks of what has been written are on the media, the rest is in the buffer. -/
structure Collects (manifest : ManifestRecord) (m : Media) (writer : ValueWriterSlot)
    (written : Bytes) : Prop where
  buffer : writer.buffer = written.drop (writer.writtenSize - writer.chunkPayloadSize)
  chunks : Chunked manifest m writer.reference
    (written.take (writer.writtenSize - writer.chunkPayloadSize))

variable (cfg) in
/-- The writer of a value of `size` bytes has been given the bytes `written`. -/
structure WriterHas (key : Bytes) (size : ℕ) (written : Bytes) (w : World) : Prop where
  active : w.db.valueWriter.active = true
  key : w.db.valueWriter.key = key
  expected : w.db.valueWriter.expectedSize = size
  kind : w.db.valueWriter.inlineValue = decide (size ≤ cfg.inlineValueLen)
  count : w.db.valueWriter.writtenSize = written.length
  checksum : w.db.valueWriter.checksumState = calcCrc32Update crcInit written
  inline : w.db.valueWriter.inlineValue = true → w.db.valueWriter.buffer = written
  external : w.db.valueWriter.inlineValue = false →
    Collects w.db.manifest w.dev.current w.db.valueWriter written

section
variable {writer : ValueWriterSlot} {place : BankPlace}

lemma Collects.append (h : Collects manifest m writer written)
    (hexternal : writer.inlineValue = false) (hcount : writer.writtenSize = written.length)
    (hcollected : writer.chunkPayloadSize ≤ writer.writtenSize) (part : Bytes) :
    Collects manifest m (writer.append part) (written ++ part) := by
  have hflushed : (writer.append part).writtenSize - (writer.append part).chunkPayloadSize =
      writer.writtenSize - writer.chunkPayloadSize := by
    unfold ValueWriterSlot.append
    rw [hexternal]
    dsimp only
    rw [if_neg (by decide)]
    omega
  have hinside : writer.writtenSize - writer.chunkPayloadSize ≤ written.length := by omega
  refine ⟨?_, ?_⟩
  · rw [hflushed, List.drop_append_of_le_length hinside, ← h.buffer]
    rfl
  · rw [hflushed, List.take_append_of_le_length hinside]
    exact h.chunks

/-- The bytes in front of the collected chunk. -/
lemma FillsBank.front_length (h : FillsBank place writer)
    (hcount : writer.writtenSize = written.length) :
    (written.take (writer.writtenSize - writer.chunkPayloadSize)).length =
      writer.writtenSize - writer.chunkPayloadSize := by
  have hcollected := h.collected
  rw [List.length_take]
  omega

/-- The place of the next chunk is free of the ones of before. -/
lemma FillsBank.next_clear (h : FillsBank place writer)
    (hcount : writer.writtenSize = written.length) (chunk : ValueChunk) :
    ClearOf (some (writer.reference.front
        (written.take (writer.writtenSize - writer.chunkPayloadSize)).length))
      (.valueChunk writer.reference.bankSlot writer.nextChunkOffset chunk) := by
  rintro _ ⟨⟩ -
  rw [h.front_length hcount, h.next, ← h.first]
  exact le_rfl

/-- **The collected chunk has been written.** -/
lemma Collects.flush (h : Collects manifest m writer written) (hfills : FillsBank place writer)
    (hcount : writer.writtenSize = written.length) {chunk : ValueChunk}
    (hwritten : writer.writtenSize ≤ writer.expectedSize) (hpositive : writer.chunkPayloadSize ≠ 0)
    (hfull : writer.chunkPayloadSize = valueChunkPayloadSize ∨
      writer.writtenSize = writer.expectedSize)
    (hencode : encodeValueChunk manifest.databaseId writer.reference.bankGeneration
      writer.reference.firstChunkOffset writer.expectedSize
      (writer.writtenSize - writer.chunkPayloadSize)
      (writer.buffer.take writer.chunkPayloadSize) = some chunk)
    (hcurrent : m' = (Write.valueChunk writer.reference.bankSlot writer.nextChunkOffset chunk).apply
      m) :
    Collects manifest m' { writer with
      nextChunkOffset := writer.nextChunkOffset + valueChunkSize
      chunkPayloadSize := 0
      buffer := [] } written := by
  have hcollected := hfills.collected
  have hcapacity := hfills.capacity
  have hlength := hfills.front_length hcount
  have haligned := hfills.aligned (by omega)
  obtain ⟨flushed, hflushed⟩ : ∃ flushed, flushed =
    written.take (writer.writtenSize - writer.chunkPayloadSize) := ⟨_, rfl⟩
  obtain ⟨hbuffer, hchunks⟩ := h
  have hsplit : flushed ++ writer.buffer = written := by
    rw [hflushed, hbuffer, List.take_append_drop]
  have hrest : writer.buffer.length = writer.chunkPayloadSize := by
    have htotal := congrArg List.length hsplit
    rw [List.length_append, hflushed, hlength, ← hcount] at htotal
    omega
  rw [← hflushed] at hchunks hlength
  rw [List.take_of_length_le hrest.le, ← hfills.size, ← hlength,
    show flushed.length = flushed.length / valueChunkPayloadSize * valueChunkPayloadSize from
      (Nat.div_mul_cancel (Nat.dvd_of_mod_eq_zero (by rw [hlength]; exact haligned))).symm]
    at hencode
  obtain ⟨hcheck, hpayload⟩ := checkValueChunk_encoded hencode <| by
    rw [Nat.div_mul_cancel (Nat.dvd_of_mod_eq_zero (by rw [hlength]; exact haligned)), hrest,
      hlength, hfills.size]
    omega
  have hplace : writer.reference.chunkOffset (flushed.length / valueChunkPayloadSize) =
      writer.nextChunkOffset := by
    unfold ValueRef.chunkOffset
    rw [hfills.next, hfills.first, hlength]
    unfold chunkCount
    simp only [valueChunkPayloadSize, valueChunkSize, formatAlignment] at haligned ⊢
    omega
  refine ⟨?_, ?_⟩
  · show [] = written.drop (writer.writtenSize - 0)
    rw [Nat.sub_zero, hcount, List.drop_length]
  · show Chunked manifest m' writer.reference (written.take (writer.writtenSize - 0))
    rw [Nat.sub_zero, hcount, List.take_length, ← hsplit]
    refine hchunks.append (by rw [hlength]; exact haligned) (by omega) (by omega) ?_ hpayload ?_
    · rw [hplace, hcurrent, show ((Write.valueChunk writer.reference.bankSlot writer.nextChunkOffset
        chunk).apply m).valueChunk writer.reference.bankSlot writer.nextChunkOffset = .ok chunk by
          show update₂ _ _ _ _ _ _ = _
          rw [update₂_apply, if_pos ⟨rfl, rfl⟩]]
      exact hcheck
    · rw [hcurrent, hflushed]
      exact (hfills.next_clear hcount chunk).sameChunks_apply m

end

/-! ## Writing -/

variable (cfg) in
/-- An external value is being written, with room for `size` more bytes, in a database that holds
a map. -/
structure Streaming (c : CompositeKey → Option Bytes) (staging : Staging) (key : Bytes)
    (total remaining : ℕ) (written : Bytes) (w : World) : Prop where
  holding : Holding cfg c staging w
  writable : Writable cfg remaining w
  written : WriterHas cfg key total written w

/-- A change of the writer leaves the contents alone. -/
lemma Holding.withWriter (h : Holding cfg c staging w) (writer : ValueWriterSlot) :
    Holding cfg c staging { w with db := { w.db with valueWriter := writer } } :=
  ⟨h.serves.of_eq rfl rfl rfl rfl rfl rfl, h.stages.means, h.stages.small⟩

namespace Streaming

variable {total remaining : ℕ}

lemma fills (h : Streaming cfg c staging key total remaining written w) :
    FillsBank w.db.manifest.bankPlace w.db.valueWriter :=
  h.writable.writer.fills h.writable.external

lemma collects (h : Streaming cfg c staging key total remaining written w) :
    Collects w.db.manifest w.dev.current w.db.valueWriter written :=
  h.written.external h.writable.external

/-- Bytes have been collected. -/
lemma append (h : Streaming cfg c staging key total remaining written w)
    (hcapacity : part.length ≤ valueChunkPayloadSize - w.db.valueWriter.chunkPayloadSize)
    (hsize : part.length ≤ remaining) :
    Streaming cfg c staging key total (remaining - part.length) (written ++ part)
      { w with db := { w.db with valueWriter := w.db.valueWriter.append part } } := by
  have hexternal := h.writable.external
  have hcount := h.written.count
  refine ⟨h.holding.withWriter _, h.writable.append hcapacity hsize,
    h.written.active, h.written.key, h.written.expected, h.written.kind, ?_, ?_, fun hinline => ?_,
    fun _ => h.collects.append hexternal hcount h.fills.collected part⟩
  · show w.db.valueWriter.writtenSize + part.length = _
    rw [hcount, List.length_append]
  · show calcCrc32Update w.db.valueWriter.checksumState part = _
    rw [h.written.checksum, calcCrc32Update_append]
  · rw [show (w.db.valueWriter.append part).inlineValue = false from hexternal] at hinline
    cases hinline

/-- The next chunk of a writer leaves the contents alone. -/
lemma spares (h : Streaming cfg c staging key total remaining written w) (chunk : ValueChunk) :
    SparesContents cfg w.db.manifest
      (.valueChunk w.db.valueWriter.reference.bankSlot w.db.valueWriter.nextChunkOffset chunk) :=
  ⟨fun _ _ _ hwrite => (by cases hwrite), fun _ _ hwrite => (by cases hwrite), fun _ hv =>
    h.fills.clearOf (below_of_inActiveBank hv) chunk⟩

/-- The device has been called for the next chunk, or could not write it. -/
lemma wrote (h : Streaming cfg c staging key total remaining written w) (chunk : ValueChunk) :
    Streaming cfg c staging key total remaining written { w with dev := (w.dev.write
      (.valueChunk w.db.valueWriter.reference.bankSlot w.db.valueWriter.nextChunkOffset
        chunk)).2 } := by
  have hsteps : w.dev.Steps (SparesContents cfg w.db.manifest) (w.dev.write (.valueChunk
      w.db.valueWriter.reference.bankSlot w.db.valueWriter.nextChunkOffset chunk)).2 :=
    .write (h.spares chunk) .refl
  have hclear : w.dev.Steps (ClearOf (some (w.db.valueWriter.reference.front
      (written.take (w.db.valueWriter.writtenSize - w.db.valueWriter.chunkPayloadSize)).length)))
      (w.dev.write (.valueChunk w.db.valueWriter.reference.bankSlot
        w.db.valueWriter.nextChunkOffset chunk)).2 :=
    .write (h.fills.next_clear h.written.count chunk) .refl
  refine ⟨h.holding.undisturbed h.writable.sound (.of_parts rfl hsteps), ⟨h.writable.sound,
    h.writable.active, h.writable.external, h.writable.room⟩, ?_⟩
  obtain ⟨hactive, hkey, hexpected, hkind, hcount, hchecksum, hinline, hexternal⟩ := h.written
  refine ⟨hactive, hkey, hexpected, hkind, hcount, hchecksum, hinline, fun hext => ?_⟩
  obtain ⟨hbuffer, hchunks⟩ := hexternal hext
  exact ⟨hbuffer, hchunks.congr (.refl _) hclear.sameChunks⟩

end Streaming

/-- **A full chunk goes to the media**; if it does not get there, the writer still has it. -/
lemma triple_flushCollectedChunk_streaming (total remaining : ℕ) (written : Bytes) :
    Triple (Streaming cfg c staging key total remaining written) flushCollectedChunk
      (fun _ w => Streaming cfg c staging key total remaining written w ∧
        w.db.valueWriter.chunkPayloadSize < valueChunkPayloadSize)
      (fun _ => Streaming cfg c staging key total remaining written) := by
  unfold flushCollectedChunk flushValueWriterChunkUnsafe
  refine .of_state fun w₀ hw₀ => ?_
  have hcapacity := hw₀.fills.capacity
  refine .bind Triple.fetch fun db => .of_pure (fun w hw => hw.2 ▸ congrArg World.db hw.1) ?_
  rintro rfl
  refine .ite (fun hfull => ?_) fun hnot => .pure fun w hw => ?_
  · refine .bind Triple.fetch fun db => .of_pure (fun w hw => hw.2 ▸ congrArg World.db hw.1.1) ?_
    rintro rfl
    dsimp only
    refine .bind (Q := fun _ w => w = w₀ ∧ w₀.db.valueWriter.chunkPayloadSize ≠ 0)
      (Triple.failIf (fun w hw hchecks => ?_) fun w hw _ => hw.1.1 ▸ hw₀) fun _ => ?_
    · push Not at hchecks
      exact ⟨hw.1.1, hchecks.2.1⟩
    cases hencode : encodeValueChunk w₀.db.manifest.databaseId
        w₀.db.valueWriter.reference.bankGeneration w₀.db.valueWriter.reference.firstChunkOffset
        w₀.db.valueWriter.expectedSize
        (w₀.db.valueWriter.writtenSize - w₀.db.valueWriter.chunkPayloadSize)
        (w₀.db.valueWriter.buffer.take w₀.db.valueWriter.chunkPayloadSize) with
    | none => exact .throw fun w hw => hw.1 ▸ hw₀
    | some chunk =>
        refine .of_pure (fun _ hw => hw.2) fun hpositive => ?_
        refine .bind (Q := fun _ w => ∃ dev, w = { w₀ with dev := dev } ∧
            Streaming cfg c staging key total remaining written w ∧
            w.dev.current = (Write.valueChunk w₀.db.valueWriter.reference.bankSlot
              w₀.db.valueWriter.nextChunkOffset chunk).apply w₀.dev.current)
          (Triple.writeStorage (fun w hw hfault => ?_) fun w hw _ => ?_) fun _ =>
          Triple.modifyDb fun w hw => ?_
        · rw [hw.1] at hfault ⊢
          exact ⟨_, rfl, hw₀.wrote chunk, Device.current_write_of_none hfault⟩
        · rw [hw.1]
          exact hw₀.wrote chunk
        · obtain ⟨dev, rfl, hstreaming, hcurrent⟩ := hw
          refine ⟨⟨hstreaming.holding.withWriter _,
            ⟨hstreaming.writable.sound.withWriter rfl ?_, hstreaming.writable.active,
              hstreaming.writable.external, hstreaming.writable.room⟩, hstreaming.written.active,
            hstreaming.written.key, hstreaming.written.expected, hstreaming.written.kind,
            hstreaming.written.count, hstreaming.written.checksum, fun hinline => ?_, fun _ => ?_⟩,
            show 0 < valueChunkPayloadSize by decide⟩
          · obtain ⟨howner, hkey, hwritten, hfills⟩ := hstreaming.writable.writer
            exact ⟨howner, hkey, hwritten, fun hexternal =>
              (hfills hexternal).flush hpositive hwritten hfull []⟩
          · cases hw₀.writable.external.symm.trans hinline
          · exact hw₀.collects.flush hw₀.fills hw₀.written.count hw₀.writable.writer.written
              hpositive hfull hencode hcurrent
  · push Not at hnot
    rw [hw.1]
    exact ⟨hw₀, lt_of_le_of_ne hcapacity hnot.1⟩

/-- **The loop takes all bytes**, and when it fails the first ones. -/
lemma triple_writeValueLoop_streaming (total fuel : ℕ) (data written : Bytes)
    (hfuel : data.length ≤ fuel) :
    Triple (fun w => Streaming cfg c staging key total data.length written w ∧
        (w.db.valueWriter.chunkPayloadSize < valueChunkPayloadSize ∨ data.length < fuel))
      (writeValueLoop fuel data)
      (fun _ => Streaming cfg c staging key total 0 (written ++ data))
      (fun _ w => ∃ front, front <+: data ∧
        Streaming cfg c staging key total (data.length - front.length) (written ++ front) w) := by
  induction fuel generalizing data written with
  | zero =>
      have hnil : data = [] := List.eq_nil_of_length_eq_zero (Nat.le_zero.mp hfuel)
      subst hnil
      refine .pure fun w hw => ?_
      rw [List.append_nil]
      exact hw.1
  | succ fuel ih =>
      unfold writeValueLoop
      refine .ite (fun hdata => ?_) fun hnil => .pure fun w hw => ?_
      · refine .bind Triple.fetch fun db => ?_
        dsimp only
        obtain ⟨part, hpart⟩ : ∃ part, part =
          data.take (valueChunkPayloadSize - db.valueWriter.chunkPayloadSize) := ⟨_, rfl⟩
        rw [← hpart]
        have hlength : part.length =
            min (valueChunkPayloadSize - db.valueWriter.chunkPayloadSize) data.length := by
          rw [hpart, List.length_take]
        have hsplit : part ++ data.drop part.length = data := by
          rw [hlength, hpart, List.take_eq_take_min, List.take_append_drop]
        have hpositive := List.length_pos_iff.mpr hdata
        refine .bind (Q := fun _ w => Streaming cfg c staging key total (data.length - part.length)
            (written ++ part) w ∧ data.length - part.length ≤ fuel)
          (Triple.modifyDb fun w hw => ?_) fun _ => .of_pure (fun _ hw => hw.2) fun hrest => ?_
        · obtain ⟨⟨hstreaming, hprogress⟩, rfl⟩ := hw
          have hcapacity := hstreaming.fills.capacity
          exact ⟨hstreaming.append (by omega) (by omega), by omega⟩
        · have hloop := ih (data.drop part.length) (written ++ part) (by
            rw [List.length_drop]
            exact hrest)
          rw [List.length_drop] at hloop
          refine .bind ((triple_flushCollectedChunk_streaming total _ _).conseq (fun _ hw => hw.1)
            (fun _ _ hw => hw) fun _ w hw => ⟨part, ⟨_, hsplit⟩, hw⟩) fun _ =>
            hloop.conseq (fun w hw => ⟨hw.1, .inl hw.2⟩) (fun _ w hw => ?_) fun _ w hw => ?_
          · rwa [List.append_assoc, hsplit] at hw
          · obtain ⟨front, ⟨rest, hfront⟩, hw⟩ := hw
            refine ⟨part ++ front, ⟨rest, by rw [List.append_assoc, hfront, hsplit]⟩, ?_⟩
            rwa [List.length_append, ← List.append_assoc, ← Nat.sub_sub]
      · rw [not_not.mp hnil] at hw ⊢
        rw [List.append_nil]
        exact hw.1

variable (cfg) in
/-- A value is being written in a database that holds a map. -/
structure Composing (c : CompositeKey → Option Bytes) (staging : Staging) (key : Bytes)
    (total : ℕ) (written : Bytes) (w : World) : Prop where
  holding : Holding cfg c staging w
  written : WriterHas cfg key total written w

/-- **A piece of a value is appended to what has been written**; a call that fails has appended the
front of it. -/
theorem triple_writeValueUnsafe_written {w₀ : World} (h : Composing cfg c staging key size written w₀)
    (hsound : Sound cfg w₀.db) (data : Bytes) :
    Triple (· = w₀) (writeValueUnsafe data)
      (fun _ w => written.length + data.length ≤ size ∧
        Composing cfg c staging key size (written ++ data) w)
      (fun _ w => ∃ front, front <+: data ∧ Composing cfg c staging key size (written ++ front) w) := by
  obtain ⟨hholding, hwritten⟩ := h
  have hactive := hwritten.active
  unfold writeValueUnsafe
  refine .bind Triple.fetch fun db => .of_pure (fun w hw => hw.2 ▸ congrArg World.db hw.1) ?_
  rintro rfl
  refine .bind (Triple.check fun w hw => ⟨[], List.nil_prefix, ?_⟩) fun _ =>
    .of_pure (fun _ hw => hw.2) fun hchecks => .pre (S := (· = w₀)) ?_ fun _ hw => hw.1.1
  · rw [hw.1, List.append_nil]
    exact ⟨hholding, hwritten⟩
  push Not at hchecks
  obtain ⟨-, hroom⟩ := hchecks
  have hle := (hsound.writer hactive).written
  rw [hwritten.expected, hwritten.count] at hroom hle
  refine .ite (fun hinline => Triple.modifyDb fun w hw => ?_) fun hexternal => ?_
  · rw [hw]
    refine ⟨by omega, hholding.withWriter _, hactive, hwritten.key,
      hwritten.expected, hwritten.kind, ?_, ?_, fun _ => ?_, fun hexternal => ?_⟩
    · show w₀.db.valueWriter.writtenSize + data.length = _
      rw [hwritten.count, List.length_append]
    · show calcCrc32Update w₀.db.valueWriter.checksumState data = _
      rw [hwritten.checksum, calcCrc32Update_append]
    · show w₀.db.valueWriter.buffer ++ data = _
      rw [hwritten.inline hinline]
    · cases hinline.symm.trans hexternal
  · have hexternal' : w₀.db.valueWriter.inlineValue = false := by simpa using hexternal
    refine (triple_writeValueLoop_streaming size _ data written (Nat.le_succ _)).conseq
      (fun w hw => ?_) (fun _ w hw => ⟨by omega, hw.holding, hw.written⟩) fun _ w hw => ?_
    · rw [hw]
      refine ⟨⟨hholding, ⟨hsound, hactive, hexternal', ?_⟩, hwritten⟩, .inr (Nat.lt_succ_self _)⟩
      rw [hwritten.expected, hwritten.count]
      omega
    · obtain ⟨front, hfront, hw⟩ := hw
      exact ⟨front, hfront, hw.holding, hw.written⟩

end On9kvdb
