import On9kvdb.Device.Steps
import On9kvdb.Store.Rules
import On9kvdb.Store.Stream

/-!
# The window of a value reader

A reader of an external value keeps the end of one chunk in its buffer, its window, and moves a
cursor over the value.  Every method takes its bytes from the window and refills it when the cursor
lies outside.  This file follows one reader through a call: `Progress` says what taking bytes does
to its slot, `Verified` where a byte of the value comes from.
-/

namespace On9kvdb

open Exceptional

/-! ## Bytes and slots -/

/-- The byte of the value at `position`, when the chunk the media holds there passes all checks. -/
def verifiedByte (w : World) (reference : ValueRef) (position : ℕ) : Option UInt8 :=
  match checkValueChunk w.db.manifest reference (position / valueChunkPayloadSize)
    (w.dev.current.valueChunk reference.bankSlot
      (reference.chunkOffset (position / valueChunkPayloadSize))) with
  | .ok chunk => chunk.payload[position % valueChunkPayloadSize]?
  | .error _ => none

/-- Byte `position` of the value is `byte` in a chunk that passes all checks in `w`. -/
def Verified (w : World) (reference : ValueRef) (position : ℕ) (byte : UInt8) : Prop :=
  verifiedByte w reference position = some byte

instance (w : World) (reference : ValueRef) (position : ℕ) (byte : UInt8) :
    Decidable (Verified w reference position byte) := inferInstanceAs (Decidable (_ = _))

/-- The media delivers every chunk of the value. -/
structure Readable (w : World) (reference : ValueRef) : Prop where
  device : w.dev.Faultless
  valid : valueRefIsValid reference w.db.manifest.geometry.valueBankSize = true
  chunks : ∀ index < chunkCount reference.valueSize, ∃ chunk,
    checkValueChunk w.db.manifest reference index
      (w.dev.current.valueChunk reference.bankSlot (reference.chunkOffset index)) = .ok chunk

namespace ValueReaderSlot

/-- The slot of a reader on this value; its window lies within the value. -/
structure ReaderOf (reference : ValueRef) (r : ValueReaderSlot) : Prop where
  used : r.used = true
  external : r.externalValue = some reference
  size : r.valueSize = reference.valueSize
  window : r.bufferValueOffset + r.buffer.length ≤ r.valueSize

/-- Every byte of the window is the byte of the value `V` allows there. -/
def Loaded (V : ℕ → UInt8 → Prop) (r : ValueReaderSlot) : Prop :=
  ∀ k byte, r.buffer[k]? = some byte → V (r.bufferValueOffset + k) byte

/-- The window holds the next `n` bytes behind the cursor. -/
def covers (r : ValueReaderSlot) (n : ℕ) : Bool :=
  n = 0 || (r.bufferValueOffset ≤ r.cursor && r.cursor + n ≤ r.bufferValueOffset + r.buffer.length)

/-- The slot with another window. -/
def withWindow (r : ValueReaderSlot) (buffer : Bytes) (offset : ℕ) : ValueReaderSlot :=
  { r with buffer := buffer, bufferValueOffset := offset }

variable {r : ValueReaderSlot}

lemma covers_eq_true {n : ℕ} : r.covers n = true ↔
    n = 0 ∨ r.bufferValueOffset ≤ r.cursor ∧ r.cursor + n ≤ r.bufferValueOffset + r.buffer.length := by
  unfold covers
  simp

lemma buffered_eq_true : r.buffered = true ↔
    r.bufferValueOffset ≤ r.cursor ∧ r.cursor < r.bufferValueOffset + r.buffer.length := by
  unfold buffered
  simp

@[simp] lemma advance_buffer (part : Bytes) : (r.advance part).buffer = r.buffer := rfl

@[simp] lemma advance_bufferValueOffset (part : Bytes) :
    (r.advance part).bufferValueOffset = r.bufferValueOffset := rfl

@[simp] lemma advance_cursor (part : Bytes) : (r.advance part).cursor = r.cursor + part.length := rfl

@[simp] lemma advance_valueSize (part : Bytes) : (r.advance part).valueSize = r.valueSize := rfl

lemma advance_nil : r.advance [] = r := by
  unfold advance
  rw [calcCrc32Update_nil, ite_self]
  rfl

lemma advance_append (a b : Bytes) : r.advance (a ++ b) = (r.advance a).advance b := by
  unfold advance
  simp only [List.length_append, calcCrc32Update_append, ← Nat.add_assoc]
  split_ifs with h
  · rfl
  · rfl

lemma withWindow_advance (part buffer : Bytes) (offset : ℕ) :
    (r.withWindow buffer offset).advance part = (r.advance part).withWindow buffer offset := rfl

lemma withWindow_self : r.withWindow r.buffer r.bufferValueOffset = r := rfl

lemma available_length (h : r.buffered = true) :
    r.available.length = r.bufferValueOffset + r.buffer.length - r.cursor := by
  unfold available
  rw [buffered_eq_true] at h
  rw [List.length_drop]
  omega

lemma Loaded.of_window {V : ℕ → UInt8 → Prop} {r' : ValueReaderSlot} (h : r.Loaded V)
    (hbuffer : r'.buffer = r.buffer) (hoffset : r'.bufferValueOffset = r.bufferValueOffset) :
    r'.Loaded V := by
  intro k byte hk
  rw [hbuffer] at hk
  rw [hoffset]
  exact h k byte hk

/-- What a loaded window delivers at the cursor. -/
lemma Loaded.available {V : ℕ → UInt8 → Prop} (h : r.Loaded V) (hb : r.buffered = true) {k : ℕ}
    {byte : UInt8} (hk : r.available[k]? = some byte) : V (r.cursor + k) byte := by
  unfold ValueReaderSlot.available at hk
  rw [List.getElem?_drop] at hk
  rw [buffered_eq_true] at hb
  have hbyte := h _ _ hk
  rwa [show r.bufferValueOffset + (r.cursor - r.bufferValueOffset + k) = r.cursor + k by omega]
    at hbyte

end ValueReaderSlot

open ValueReaderSlot

/-! ## Taking bytes -/

/-- What taking `data` at the cursor does to a slot. -/
structure Progress (V : ℕ → UInt8 → Prop) (reference : ValueRef) (r : ValueReaderSlot) (data : Bytes)
    (r' : ValueReaderSlot) : Prop where
  slot : r' = (r.advance data).withWindow r'.buffer r'.bufferValueOffset
  reader : r'.ReaderOf reference
  kept : r.covers data.length = true →
    r'.buffer = r.buffer ∧ r'.bufferValueOffset = r.bufferValueOffset
  loaded : r.covers data.length = false → r'.Loaded V
  verified : (r.buffered = true → r.Loaded V) →
    ∀ k byte, data[k]? = some byte → V (r.cursor + k) byte

namespace Progress

variable {V : ℕ → UInt8 → Prop} {reference : ValueRef} {r r' r'' : ValueReaderSlot} {a b : Bytes}

lemma cursor (h : Progress V reference r a r') : r'.cursor = r.cursor + a.length := by
  rw [h.slot]
  rfl

lemma valueSize (h : Progress V reference r a r') : r'.valueSize = r.valueSize := by
  rw [h.slot]
  rfl

lemma refl (h : r.ReaderOf reference) : Progress V reference r [] r :=
  ⟨by rw [advance_nil, withWindow_self], h, fun _ => ⟨rfl, rfl⟩,
    fun hc => by simp [covers] at hc, fun _ k byte hk => by simp at hk⟩

lemma trans (h₁ : Progress V reference r a r') (h₂ : Progress V reference r' b r'') :
    Progress V reference r (a ++ b) r'' := by
  have hcursor := h₁.cursor
  refine ⟨?_, h₂.reader, fun hc => ?_, fun hc => ?_, fun hr k byte hk => ?_⟩
  · rw [advance_append, h₂.slot, h₁.slot]
    rfl
  · rw [covers_eq_true, List.length_append] at hc
    have ha : r.covers a.length = true := by
      rw [covers_eq_true]
      omega
    obtain ⟨hbuffer, hoffset⟩ := h₁.kept ha
    have hb : r'.covers b.length = true := by
      rw [covers_eq_true, hoffset, hcursor, hbuffer]
      omega
    obtain ⟨hbuffer', hoffset'⟩ := h₂.kept hb
    exact ⟨hbuffer'.trans hbuffer, hoffset'.trans hoffset⟩
  · by_cases hb : r'.covers b.length = true
    · obtain ⟨hbuffer', hoffset'⟩ := h₂.kept hb
      refine (h₁.loaded (Bool.eq_false_iff.mpr fun ha => ?_)).of_window hbuffer' hoffset'
      obtain ⟨hbuffer, hoffset⟩ := h₁.kept ha
      refine Bool.eq_false_iff.mp hc ?_
      rw [covers_eq_true] at ha hb ⊢
      rw [hoffset, hcursor, hbuffer] at hb
      rw [List.length_append]
      omega
    · exact h₂.loaded (Bool.eq_false_iff.mpr hb)
  · rcases lt_or_ge k a.length with hlt | hge
    · rw [List.getElem?_append_left hlt] at hk
      exact h₁.verified hr k byte hk
    · rw [List.getElem?_append_right hge] at hk
      have hready : r'.buffered = true → r'.Loaded V := by
        intro hbuffered
        by_cases ha : r.covers a.length = true
        · obtain ⟨hbuffer, hoffset⟩ := h₁.kept ha
          refine (hr ?_).of_window hbuffer hoffset
          rw [covers_eq_true] at ha
          rw [buffered_eq_true] at hbuffered ⊢
          rw [hoffset, hcursor, hbuffer] at hbuffered
          omega
        · exact h₁.loaded (Bool.eq_false_iff.mpr ha)
      have hbyte := h₂.verified hready _ byte hk
      rwa [hcursor, Nat.add_assoc, Nat.add_sub_cancel' hge] at hbyte

end Progress

/-! ## Refilling -/

/-- `w` is `w₀` with the reader slot `r`, some device calls later. -/
structure Reached (w₀ : World) (index : ℕ) (r : ValueReaderSlot) (w : World) : Prop where
  db : w.db = { w₀.db with valueReaders := Function.update w₀.db.valueReaders index r }
  dev : w.dev = { w₀.dev with clock := w.dev.clock }

namespace Reached

variable {w₀ w : World} {index : ℕ} {r : ValueReaderSlot}

lemma refl (w : World) (index : ℕ) : Reached w index (w.db.valueReaders index) w :=
  ⟨by rw [Function.update_eq_self], rfl⟩

lemma slot (h : Reached w₀ index r w) : w.db.valueReaders index = r := by
  rw [h.db]
  exact Function.update_self _ _ _

lemma set (h : Reached w₀ index r w) (r' : ValueReaderSlot) :
    Reached w₀ index r' { w with db := { w.db with
      valueReaders := Function.update w.db.valueReaders index r' } } := by
  refine ⟨?_, h.dev⟩
  rw [h.db]
  simp only [Function.update_idem]

lemma tick (h : Reached w₀ index r w) : Reached w₀ index r { w with dev := w.dev.tick } := by
  refine ⟨h.db, ?_⟩
  rw [h.dev]
  rfl

lemma faultless (h : Reached w₀ index r w) (hd : w₀.dev.Faultless) : w.dev.fault = .none := by
  rw [h.dev]
  exact hd _

end Reached

lemma checkValueChunk_payload {manifest : ManifestRecord} {reference : ValueRef} {index : ℕ}
    {cell : Cell ValueChunk} {chunk : ValueChunk}
    (h : checkValueChunk manifest reference index cell = .ok chunk) :
    chunk.payload.length = expectedPayload reference index := by
  unfold checkValueChunk at h
  cases cell with
  | error status => cases h
  | ok c =>
      dsimp only at h
      split_ifs at h with hc
      cases h
      push Not at hc
      exact hc.2.2.2.2.2.1

/-- The chunks of a value are numbered by its positions. -/
lemma div_lt_chunkCount {position size : ℕ} (h : position < size) :
    position / valueChunkPayloadSize < chunkCount size := by
  unfold chunkCount
  rw [Nat.lt_div_iff_mul_lt (by decide)]
  have hdiv := Nat.div_mul_le_self position valueChunkPayloadSize
  simp only [valueChunkPayloadSize, valueChunkSize, formatAlignment] at *
  omega

section
variable {w₀ : World} {index : ℕ} {reference : ValueRef} {r : ValueReaderSlot}
  {V : ℕ → UInt8 → Prop}

/-- The window behind a refill: the rest of the chunk at the cursor. -/
lemma refilled (hr : r.ReaderOf reference) (hcursor : r.cursor < r.valueSize)
    (hV : ∀ position byte, Verified w₀ reference position byte → V position byte)
    {chunk : ValueChunk} (hchunk : checkValueChunk w₀.db.manifest reference
      (r.cursor / valueChunkPayloadSize) (w₀.dev.current.valueChunk reference.bankSlot
        (reference.chunkOffset (r.cursor / valueChunkPayloadSize))) = .ok chunk) :
    let r' := r.withWindow (chunk.payload.drop (r.cursor % valueChunkPayloadSize)) r.cursor
    r'.ReaderOf reference ∧ r'.buffer ≠ [] ∧ r'.Loaded V := by
  have hlength := checkValueChunk_payload hchunk
  have hsize := hr.size
  have hsplit := Nat.div_add_mod r.cursor valueChunkPayloadSize
  have hmod := Nat.mod_lt r.cursor (show 0 < valueChunkPayloadSize by decide)
  unfold expectedPayload at hlength
  rw [Nat.mul_comm] at hlength
  have hle : (chunk.payload.drop (r.cursor % valueChunkPayloadSize)).length =
      chunk.payload.length - r.cursor % valueChunkPayloadSize := List.length_drop
  refine ⟨⟨hr.used, hr.external, hr.size, ?_⟩, fun hnil => ?_, fun k byte hk => hV _ _ ?_⟩
  · show r.cursor + (chunk.payload.drop (r.cursor % valueChunkPayloadSize)).length ≤ r.valueSize
    omega
  · have hzero : (chunk.payload.drop (r.cursor % valueChunkPayloadSize)).length = 0 :=
      congrArg List.length hnil
    omega
  · have hbyte : chunk.payload[r.cursor % valueChunkPayloadSize + k]? = some byte := by
      rw [← List.getElem?_drop]
      exact hk
    have hlt := (List.getElem?_eq_some_iff.mp hbyte).1
    have hposition : r.cursor + k = (r.cursor % valueChunkPayloadSize + k) +
        valueChunkPayloadSize * (r.cursor / valueChunkPayloadSize) := by omega
    have hdiv : (r.cursor + k) / valueChunkPayloadSize = r.cursor / valueChunkPayloadSize := by
      rw [hposition, Nat.add_mul_div_left _ _ (by decide), Nat.div_eq_of_lt (by omega), Nat.zero_add]
    have hrest : (r.cursor + k) % valueChunkPayloadSize = r.cursor % valueChunkPayloadSize + k := by
      rw [hposition, Nat.add_mul_mod_self_left, Nat.mod_eq_of_lt (by omega)]
    show verifiedByte w₀ reference (r.cursor + k) = some byte
    unfold verifiedByte
    rw [hdiv, hrest, hchunk]
    exact hbyte

lemma triple_setReader {P : World → Prop} {r' : ValueReaderSlot} {Q : Unit → World → Prop}
    {E : EspErr → World → Prop} (h : ∀ w, P w → Q () { w with db := { w.db with
      valueReaders := Function.update w.db.valueReaders index r' } }) :
    Triple P (setReader index r') Q E := Triple.modifyDb h

/-- **A refill.**  It loads the window at the cursor, or the value is not readable and the window
keeps its place. -/
lemma triple_fillReaderBufferUnsafe (hr : r.ReaderOf reference) (hcursor : r.cursor < r.valueSize)
    (hV : ∀ position byte, Verified w₀ reference position byte → V position byte) :
    Triple (Reached w₀ index r) (fillReaderBufferUnsafe index)
      (fun _ w => ∃ buffer, Reached w₀ index (r.withWindow buffer r.cursor) w ∧
        (r.withWindow buffer r.cursor).ReaderOf reference ∧ buffer ≠ [] ∧
        (r.withWindow buffer r.cursor).Loaded V)
      (fun _ w => ∃ buffer, Reached w₀ index (r.withWindow buffer r.bufferValueOffset) w ∧
        buffer.length = r.buffer.length ∧ ¬ Readable w₀ reference) := by
  have hsame : ∀ w, Reached w₀ index r w → ¬ Readable w₀ reference → ∃ buffer,
      Reached w₀ index (r.withWindow buffer r.bufferValueOffset) w ∧
        buffer.length = r.buffer.length ∧ ¬ Readable w₀ reference :=
    fun w hw hno => ⟨r.buffer, hw, rfl, hno⟩
  have hchunk := div_lt_chunkCount (hr.size ▸ hcursor)
  unfold fillReaderBufferUnsafe
  refine .bind (Q := fun w w' => Reached w₀ index r w' ∧ Reached w₀ index r w)
    (Triple.get fun w hw => ⟨hw, hw⟩) fun w => .of_pure (fun w' hw => hw.2) fun hw => ?_
  dsimp only
  rw [hw.slot, hr.external]
  dsimp only
  have hmanifest : w.db.manifest = w₀.db.manifest := by rw [hw.db]
  rw [hmanifest]
  refine .bind (Q := fun _ w' => Reached w₀ index r w' ∧
      valueRefIsValid reference w₀.db.manifest.geometry.valueBankSize = true)
    (Triple.failIf (fun w' hw' hc => ⟨hw'.1, ?_⟩) fun w' hw' hc => hsame w' hw'.1 fun hread => ?_)
    fun _ => .of_pure (fun w' hw' => hw'.2) fun hvalid => ?_
  · push Not at hc
    exact Bool.not_eq_false _ ▸ hc.2.2
  · rcases hc with hc | hc | hc
    · rw [hr.used] at hc
      cases hc
    · omega
    · rw [hread.valid] at hc
      cases hc
  · refine .bind (Q := fun _ w' => Reached w₀ index r w')
      (Triple.failIf (fun w' hw' _ => hw'.1) fun w' hw' hc => hsame w' hw'.1 fun _ => ?_) fun _ => ?_
    · have hend := hvalid
      unfold valueRefIsValid at hend
      simp only [Bool.and_eq_true, decide_eq_true_eq] at hend
      have hcount : r.cursor / valueChunkPayloadSize * valueChunkSize + valueChunkSize ≤
          chunkCount reference.valueSize * valueChunkSize := by
        rw [← Nat.succ_mul]
        exact Nat.mul_le_mul_right _ hchunk
      have hinside := hend.2
      unfold ValueRef.endOffset at hinside
      unfold ValueRef.chunkOffset at hc
      omega
    · refine .bind (Q := fun chunk w' => Reached w₀ index r w' ∧
        checkValueChunk w₀.db.manifest reference (r.cursor / valueChunkPayloadSize)
          (w₀.dev.current.valueChunk reference.bankSlot
            (reference.chunkOffset (r.cursor / valueChunkPayloadSize))) = .ok chunk)
        (Triple.onError (F := fun _ w' => Reached w₀ index r w' ∧ ¬ Readable w₀ reference)
          (Triple.inspect (fun w' chunk hw' _ hread => ⟨hw'.tick, ?_⟩)
            (fun w' e hw' hread => ⟨hw'.tick, fun h => ?_⟩)
            fun w' hw' hfault => ⟨hw'.tick, fun h => hfault (hw'.faultless h.device)⟩)
          fun _ => triple_setReader fun w' hw' => ?_) fun chunk => .of_pure (fun w' hw' => hw'.2)
            fun hread => triple_setReader fun w' hw' => ?_
      · rwa [hw'.db, hw'.dev] at hread
      · obtain ⟨chunk, hok⟩ := h.chunks _ hchunk
        rw [hw'.db, hw'.dev, hok] at hread
        cases hread
      · refine ⟨_, hw'.1.set _, ?_, hw'.2⟩
        rw [List.length_take, List.length_append, List.length_replicate]
        omega
      · obtain ⟨hreader, hnonempty, hloaded⟩ := refilled hr hcursor hV hread
        refine ⟨_, ?_, hreader, hnonempty, hloaded⟩
        rw [← hr.external]
        exact hw'.1.set _

/-- A window at the cursor: the one that was there, or a loaded one. -/
structure Focused (V : ℕ → UInt8 → Prop) (reference : ValueRef) (r r' : ValueReaderSlot) : Prop where
  slot : r' = r.withWindow r'.buffer r'.bufferValueOffset
  reader : r'.ReaderOf reference
  buffered : r'.buffered = true
  kept : r.buffered = true → r' = r
  loaded : r.buffered = false → r'.Loaded V

/-- What a failed refill leaves, when `n` bytes were wanted from the cursor of `r` on. -/
structure Broken (w₀ : World) (index : ℕ) (reference : ValueRef) (r : ValueReaderSlot) (n : ℕ)
    (w : World) : Prop where
  slot : ∃ r' : ValueReaderSlot, Reached w₀ index r' w ∧ r'.ReaderOf reference ∧
    r'.cursor < r'.valueSize
  uncovered : r.covers n = false
  refused : ¬ Readable w₀ reference

/-- A window that already holds the cursor stays; any other is refilled. -/
lemma triple_ensureBuffered {n : ℕ} (hr : r.ReaderOf reference) (hcursor : r.cursor < r.valueSize)
    (hn : 0 < n) (hV : ∀ position byte, Verified w₀ reference position byte → V position byte) :
    Triple (Reached w₀ index r) (ensureBuffered index)
      (fun _ w => ∃ r', Reached w₀ index r' w ∧ Focused V reference r r')
      (fun _ => Broken w₀ index reference r n) := by
  unfold ensureBuffered
  refine .bind (Q := fun db w => Reached w₀ index r w ∧ db.valueReaders index = r)
    (Triple.getDb fun w hw => ⟨hw, hw.slot⟩) fun db => .of_pure (fun w hw => hw.2) fun hdb => ?_
  rw [hdb]
  refine .ite (fun hb => .ite (fun _ => ?_) fun hno => ?_) fun hb => .pure fun w hw => ?_
  · refine (triple_fillReaderBufferUnsafe hr hcursor hV).conseq (fun _ hw => hw.1)
      (fun _ w hw => ?_) fun _ w hw => ?_
    · obtain ⟨buffer, hreached, hreader, hnonempty, hloaded⟩ := hw
      have hpos := List.length_pos_iff.mpr hnonempty
      refine ⟨_, hreached, rfl, hreader, ?_, fun h => ?_, fun _ => hloaded⟩
      · rw [buffered_eq_true]
        exact ⟨le_rfl, Nat.lt_add_of_pos_right hpos⟩
      · rw [hb] at h
        cases h
    · obtain ⟨buffer, hreached, hlength, hrefused⟩ := hw
      refine ⟨⟨_, hreached, ⟨hr.used, hr.external, hr.size, ?_⟩, hcursor⟩, ?_, hrefused⟩
      · show r.bufferValueOffset + buffer.length ≤ r.valueSize
        rw [hlength]
        exact hr.window
      · rw [Bool.eq_false_iff, ne_eq, buffered_eq_true] at hb
        rw [Bool.eq_false_iff, ne_eq, covers_eq_true]
        omega
  · rw [hr.external] at hno
    exact absurd rfl hno
  · have hb' : r.buffered = true := by
      rwa [Bool.not_eq_false] at hb
    exact ⟨r, hw.1, rfl, hr, hb', fun _ => rfl, fun h => absurd h hb⟩

lemma Focused.cursor {r' : ValueReaderSlot} (h : Focused V reference r r') :
    r'.cursor = r.cursor := by
  rw [h.slot]
  rfl

lemma Focused.valueSize {r' : ValueReaderSlot} (h : Focused V reference r r') :
    r'.valueSize = r.valueSize := by
  rw [h.slot]
  rfl

/-- The bytes a focused window delivers stay within the value. -/
lemma Focused.available_length {r' : ValueReaderSlot} (h : Focused V reference r r') :
    0 < r'.available.length ∧ r'.available.length ≤ r.valueSize - r.cursor := by
  have hlength := ValueReaderSlot.available_length h.buffered
  have hbuffered := buffered_eq_true.mp h.buffered
  have hwindow := h.reader.window
  have hcursor := h.cursor
  have hsize := h.valueSize
  omega

/-- Taking a part of a focused window. -/
lemma Focused.progress {r' : ValueReaderSlot} {n : ℕ} (h : Focused V reference r r') (hn : 0 < n) :
    Progress V reference r (r'.available.take n) (r'.advance (r'.available.take n)) := by
  have hlength := ValueReaderSlot.available_length h.buffered
  have hbuffered := buffered_eq_true.mp h.buffered
  have hcursor := h.cursor
  have htake : (r'.available.take n).length = min n r'.available.length := List.length_take
  refine ⟨?_, ⟨h.reader.used, h.reader.external, h.reader.size, h.reader.window⟩, fun hc => ?_,
    fun hc => ?_, fun hr k byte hk => ?_⟩
  · rw [h.slot]
    rfl
  · have hb : r.buffered = true := by
      rw [covers_eq_true] at hc
      rw [buffered_eq_true]
      omega
    rw [h.kept hb]
    exact ⟨rfl, rfl⟩
  · have hb : r.buffered = false := by
      refine Bool.eq_false_iff.mpr fun hb => Bool.eq_false_iff.mp hc ?_
      rw [h.kept hb] at hlength htake hbuffered ⊢
      rw [covers_eq_true]
      omega
    exact (h.loaded hb).of_window rfl rfl
  · have hloaded : r'.Loaded V := by
      cases hb : r.buffered with
      | true =>
          rw [h.kept hb]
          exact hr hb
      | false => exact h.loaded hb
    rw [← hcursor]
    refine hloaded.available h.buffered ?_
    rw [List.getElem?_take] at hk
    split_ifs at hk
    exact hk

/-- A refill that fails behind some progress. -/
lemma Broken.after {a : Bytes} {r' : ValueReaderSlot} {n : ℕ} {w : World}
    (h : Broken w₀ index reference r' n w) (ha : Progress V reference r a r') :
    Broken w₀ index reference r (a.length + n) w := by
  refine ⟨h.slot, Bool.eq_false_iff.mpr fun hc => Bool.eq_false_iff.mp h.uncovered ?_, h.refused⟩
  rw [covers_eq_true] at hc
  have hpart : r.covers a.length = true := by
    rw [covers_eq_true]
    omega
  obtain ⟨hbuffer, hoffset⟩ := ha.kept hpart
  rw [covers_eq_true, hbuffer, hoffset, ha.cursor]
  omega

/-! ## The loops -/

/-- What the bytes taken by a whole call are, and the slot behind them. -/
def Taken (V : ℕ → UInt8 → Prop) (w₀ : World) (index : ℕ) (reference : ValueRef)
    (r : ValueReaderSlot) (n : ℕ) (data : Bytes) (w : World) : Prop :=
  ∃ r', Reached w₀ index r' w ∧ Progress V reference r data r' ∧ data.length = n

/-- **The copy loop** takes what is wanted or what is left, or a refill fails. -/
theorem triple_readValueLoop (hV : ∀ position byte, Verified w₀ reference position byte →
      V position byte) (fuel : ℕ) {r : ValueReaderSlot} {wanted : ℕ} (hr : r.ReaderOf reference)
    (hfuel : wanted ≤ fuel) :
    Triple (Reached w₀ index r) (readValueLoop index fuel wanted)
      (Taken V w₀ index reference r (min wanted (r.valueSize - r.cursor)))
      (fun _ => Broken w₀ index reference r (min wanted (r.valueSize - r.cursor))) := by
  induction fuel generalizing r wanted with
  | zero =>
      refine .pure fun w hw => ⟨r, hw, .refl hr, ?_⟩
      rw [List.length_nil]
      omega
  | succ fuel ih =>
      unfold readValueLoop
      refine .bind (Q := fun db w => Reached w₀ index r w ∧ db.valueReaders index = r)
        (Triple.getDb fun w hw => ⟨hw, hw.slot⟩) fun db => .of_pure (fun w hw => hw.2) fun hdb => ?_
      rw [hdb]
      refine .ite (fun hend => .pure fun w hw => ⟨r, hw.1, .refl hr, ?_⟩) fun hmore => ?_
      · rw [List.length_nil]
        omega
      · push Not at hmore
        obtain ⟨hwanted, hcursor⟩ := hmore
        refine .bind (((triple_ensureBuffered hr hcursor (show 0 < min wanted _ by omega) hV).pre
          fun w hw => hw.1)) fun _ => ?_
        refine .of_exists fun r' => .of_pure (fun w hw => hw.2) fun hfocused => ?_
        have hpart := hfocused.progress (Nat.pos_of_ne_zero hwanted)
        obtain ⟨hpos, hle⟩ := hfocused.available_length
        have hcursor' := hfocused.cursor
        have hsize' := hfocused.valueSize
        have hpart_length : (r'.available.take wanted).length = min wanted r'.available.length :=
          List.length_take
        refine .bind (Q := fun db w => Reached w₀ index r' w ∧ db.valueReaders index = r')
          (Triple.getDb fun w hw => ⟨hw.1, hw.1.slot⟩) fun db => .of_pure (fun w hw => hw.2)
          fun hdb' => ?_
        rw [hdb']
        refine .bind (Q := fun _ => Reached w₀ index (r'.advance (r'.available.take wanted)))
          (triple_setReader fun w hw => hw.1.set _) fun _ => ?_
        refine .bind ((ih hpart.reader (show wanted - (r'.available.take wanted).length ≤ fuel
          by omega)).conseq (fun _ hw => hw) (fun _ _ hw => hw) fun _ w hw => ?_) fun rest =>
          .pure fun w hw => ?_
        · have hbroken := hw.after hpart
          rwa [advance_valueSize, advance_cursor, hsize', hcursor',
            show (r'.available.take wanted).length + min (wanted - (r'.available.take wanted).length)
              (r.valueSize - (r.cursor + (r'.available.take wanted).length)) =
                min wanted (r.valueSize - r.cursor) by omega] at hbroken
        · obtain ⟨r'', hreached, hrest, hcount⟩ := hw
          refine ⟨r'', hreached, hpart.trans hrest, ?_⟩
          rw [List.length_append, hcount, advance_valueSize, advance_cursor, hsize', hcursor']
          omega

/-- **The checksum loop** takes all of what it is given, or a refill fails. -/
theorem triple_consumeLoop (hV : ∀ position byte, Verified w₀ reference position byte →
      V position byte) (fuel : ℕ) {r : ValueReaderSlot} {remaining : ℕ} (hr : r.ReaderOf reference)
    (hfuel : remaining ≤ fuel) (hleft : remaining ≤ r.valueSize - r.cursor) :
    Triple (Reached w₀ index r) (consumeLoop index fuel remaining)
      (fun _ w => ∃ data, Taken V w₀ index reference r remaining data w)
      (fun _ => Broken w₀ index reference r remaining) := by
  induction fuel generalizing r remaining with
  | zero =>
      refine .pure fun w hw => ⟨[], r, hw, .refl hr, ?_⟩
      rw [List.length_nil]
      omega
  | succ fuel ih =>
      unfold consumeLoop
      refine .ite (fun hmore => ?_) fun hend => .pure fun w hw => ⟨[], r, hw, .refl hr, ?_⟩
      · refine .bind (triple_ensureBuffered hr (by omega) (Nat.pos_of_ne_zero hmore) hV) fun _ => ?_
        refine .of_exists fun r' => .of_pure (fun w hw => hw.2) fun hfocused => ?_
        have hpart := hfocused.progress (Nat.pos_of_ne_zero hmore)
        obtain ⟨hpos, hle⟩ := hfocused.available_length
        have hcursor' := hfocused.cursor
        have hsize' := hfocused.valueSize
        have hpart_length : (r'.available.take remaining).length =
            min remaining r'.available.length := List.length_take
        refine .bind (Q := fun db w => Reached w₀ index r' w ∧ db.valueReaders index = r')
          (Triple.getDb fun w hw => ⟨hw.1, hw.1.slot⟩) fun db => .of_pure (fun w hw => hw.2)
          fun hdb => ?_
        rw [hdb]
        refine .bind (Q := fun _ => Reached w₀ index (r'.advance (r'.available.take remaining)))
          (triple_setReader fun w hw => hw.1.set _) fun _ => ?_
        refine (ih hpart.reader (show remaining - (r'.available.take remaining).length ≤ fuel
          by omega) (by rw [advance_valueSize, advance_cursor]; omega)).conseq (fun _ hw => hw)
          (fun _ w hw => ?_) fun _ w hw => ?_
        · obtain ⟨rest, r'', hreached, hrest, hcount⟩ := hw
          refine ⟨_, r'', hreached, hpart.trans hrest, ?_⟩
          rw [List.length_append, hcount]
          omega
        · have hbroken := hw.after hpart
          rwa [show (r'.available.take remaining).length +
            (remaining - (r'.available.take remaining).length) = remaining by omega] at hbroken
      · rw [List.length_nil]
        exact (not_not.mp hend).symm

end

end On9kvdb
