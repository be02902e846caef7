import On9kvdb.Reader.Calls
import On9kvdb.Snapshot.Content

/-!
# What a reader answers

The calls of a reader on given bytes, as their caller sees them: a cursor that moves over the
bytes, and the replies that go with it (`ReaderCall.Answers`).  A slot that `Follows` the bytes
answers so, as long as the media hold them; no call ends in an error but the refusal to leave the
value.
-/

namespace On9kvdb

open Exceptional ValueReaderSlot

/-! ## The cursor and the replies -/

namespace ReaderCall

/-- The cursor behind the call, on a value of this size. -/
def move (size cursor : ℕ) : ReaderCall → ℕ
  | peek => cursor
  | readInto wanted => cursor + min wanted (size - cursor)
  | consume count => if count ≤ size - cursor then cursor + count else cursor
  | seek offset => if offset ≤ size then offset else cursor

/-- The reply to the call with the cursor in these bytes: a peek shows some of the bytes ahead, a
read returns all that is wanted or left. -/
def Answers (bytes : Bytes) (cursor : ℕ) (result : Except EspErr Reply) : ReaderCall → Prop
  | peek => ∃ data, result = .ok (.data data) ∧ data <+: bytes.drop cursor ∧
      (cursor < bytes.length → data ≠ [])
  | readInto wanted => result = .ok (.data ((bytes.drop cursor).take wanted))
  | consume count =>
      result = if count ≤ bytes.length - cursor then .ok .done else .error .invalidSize
  | seek offset => result = if offset ≤ bytes.length then .ok .done else .error .invalidSize

lemma move_le {size cursor : ℕ} (h : cursor ≤ size) (c : ReaderCall) : c.move size cursor ≤ size := by
  cases c with
  | peek => exact h
  | readInto wanted =>
      show cursor + min wanted (size - cursor) ≤ size
      omega
  | consume count =>
      show (if count ≤ size - cursor then cursor + count else cursor) ≤ size
      split_ifs <;> omega
  | seek offset =>
      show (if offset ≤ size then offset else cursor) ≤ size
      split_ifs <;> omega

end ReaderCall

/-- The byte of these bytes at a position. -/
def ByteOf (bytes : Bytes) (position : ℕ) (byte : UInt8) : Prop := bytes[position]? = some byte

/-- Bytes found one by one are a slice. -/
lemma eq_take_drop {bytes data : Bytes} {cursor : ℕ}
    (h : ∀ k byte, data[k]? = some byte → ByteOf bytes (cursor + k) byte)
    (hlength : data.length ≤ bytes.length - cursor) :
    data = (bytes.drop cursor).take data.length := by
  refine List.ext_getElem? fun k => ?_
  rcases lt_or_ge k data.length with hlt | hge
  · rw [List.getElem?_take_of_lt hlt, List.getElem?_drop]
    exact (List.getElem?_eq_getElem hlt).trans (h k _ (List.getElem?_eq_getElem hlt)).symm
  · rw [List.getElem?_eq_none hge, List.getElem?_eq_none]
    rw [List.length_take, List.length_drop]
    omega

/-! ## External values -/

/-- The slot of a reader that has the cursor here in the bytes of an external value. -/
structure Follows (bytes : Bytes) (reference : ValueRef) (cursor : ℕ) (r : ValueReaderSlot) :
    Prop where
  reader : r.ReaderOf reference
  size : r.valueSize = bytes.length
  position : r.cursor = cursor
  bound : cursor ≤ bytes.length
  loaded : r.Loaded (ByteOf bytes)
  checksum : r.checksumEnabled = true →
    r.checksumState = calcCrc32Update crcInit (bytes.take cursor)

namespace Follows

variable {bytes data : Bytes} {reference : ValueRef} {cursor : ℕ} {r r' : ValueReaderSlot}

/-- Taken bytes are the next ones. -/
lemma taken (h : Follows bytes reference cursor r) (hdata : Progress (ByteOf bytes) reference r data r')
    (hlength : data.length ≤ bytes.length - cursor) : data = (bytes.drop cursor).take data.length := by
  refine eq_take_drop (fun k byte hk => ?_) hlength
  have hbyte := hdata.verified (fun _ => h.loaded) k byte hk
  rwa [h.position] at hbyte

/-- The slot behind taken bytes follows. -/
lemma progress (h : Follows bytes reference cursor r)
    (hdata : Progress (ByteOf bytes) reference r data r')
    (hlength : data.length ≤ bytes.length - cursor) :
    Follows bytes reference (cursor + data.length) r' := by
  have htaken := h.taken hdata hlength
  have hbound := h.bound
  refine ⟨hdata.reader, hdata.valueSize.trans h.size, by rw [hdata.cursor, h.position], by omega, ?_,
    fun henabled => ?_⟩
  · cases hcovers : r.covers data.length with
    | true =>
        obtain ⟨hbuffer, hoffset⟩ := hdata.kept hcovers
        exact h.loaded.of_window hbuffer hoffset
    | false => exact hdata.loaded hcovers
  · rw [hdata.slot] at henabled ⊢
    have henabled' : r.checksumEnabled = true := henabled
    have hexternal : r.externalValue.isSome = true := by rw [h.reader.external]; rfl
    show (if r.externalValue.isSome ∧ r.checksumEnabled = true then
      calcCrc32Update r.checksumState data else r.checksumState) = _
    rw [if_pos ⟨hexternal, henabled'⟩, h.checksum henabled', List.take_add, ← htaken,
      calcCrc32Update_append]

/-- An ordered pass ends with the checksum of the value. -/
lemma not_mismatch (h : Follows bytes reference cursor r)
    (hchecksum : calcCrc32 bytes = reference.valueChecksum) : ¬ Mismatch reference r := by
  rintro ⟨henabled, hend, hdiffers⟩
  refine hdiffers ?_
  rw [h.checksum henabled, ← hchecksum, ← h.position, hend, h.size, List.take_length]
  rfl

/-- A refilled window follows. -/
lemma focused (h : Follows bytes reference cursor r) (hw : Focused (ByteOf bytes) reference r r') :
    Follows bytes reference cursor r' := by
  refine ⟨hw.reader, hw.valueSize.trans h.size, hw.cursor.trans h.position, h.bound, ?_,
    fun henabled => ?_⟩
  · cases hbuffered : r.buffered with
    | true =>
        rw [hw.kept hbuffered]
        exact h.loaded
    | false => exact hw.loaded hbuffered
  · rw [hw.slot] at henabled ⊢
    exact h.checksum henabled

/-- The slot behind a skip or a seek follows. -/
lemma moved (h : Follows bytes reference cursor r) {cursor' : ℕ} (hcursor : r'.cursor = cursor')
    (hbound : cursor' ≤ bytes.length) (hslot : r' = { r with
      cursor := cursor'
      checksumState := r'.checksumState
      checksumEnabled := r'.checksumEnabled })
    (hchecksum : r'.checksumEnabled = true →
      r'.checksumState = calcCrc32Update crcInit (bytes.take cursor')) :
    Follows bytes reference cursor' r' := by
  obtain ⟨hused, hexternal, hsize, hwindow⟩ := h.reader
  refine ⟨?_, ?_, hcursor, hbound, ?_, hchecksum⟩
  · rw [hslot]
    exact ⟨hused, hexternal, hsize, hwindow⟩
  · rw [hslot]
    exact h.size
  · rw [hslot]
    exact h.loaded

/-- The slot of a new reader. -/
lemma opened {generation : ℕ} {view : ValueView} (hvalue : view.value = .external reference)
    (hlength : bytes.length = reference.valueSize) :
    Follows bytes reference 0 (newReader generation view) := by
  unfold newReader
  rw [hvalue]
  refine ⟨⟨rfl, rfl, rfl, Nat.zero_le _⟩, hlength.symm, rfl, Nat.zero_le _, fun k byte hk => ?_,
    fun _ => ?_⟩
  · have hnone : ([] : Bytes)[k]? = some byte := hk
    simp at hnone
  · rfl

end Follows

section
variable {bytes : Bytes} {reference : ValueRef} {cursor index : ℕ} {r : ValueReaderSlot} {w₀ : World}

/-- A refused call changes nothing. -/
lemma exec_consume_refused {w : World} {count : ℕ}
    (h : (w.db.valueReaders index).valueSize - (w.db.valueReaders index).cursor < count) :
    exec ((ReaderCall.consume count).body index) w = (.error .invalidSize, w) := by
  show exec (do consumeValueUnsafe index count; return Reply.done) w = _
  unfold consumeValueUnsafe
  rw [exec_bind, exec_bind, exec_getDb]
  dsimp only
  rw [exec_bind, exec_failIf, if_pos h]

lemma exec_seek_refused {w : World} {offset : ℕ} (h : (w.db.valueReaders index).valueSize < offset) :
    exec ((ReaderCall.seek offset).body index) w = (.error .invalidSize, w) := by
  show exec (do seekValueUnsafe index offset; return Reply.done) w = _
  unfold seekValueUnsafe
  rw [exec_bind, exec_bind, exec_getDb]
  dsimp only
  rw [exec_bind, exec_failIf, if_pos h]

/-- **Every call on a reader of a held value is answered.** -/
theorem triple_follows (hheld : Holds w₀.db.manifest w₀.dev.current reference bytes)
    (hreadable : Readable w₀ reference) (h : Follows bytes reference cursor r) (c : ReaderCall) :
    Triple (Reached w₀ index r) (c.body index)
      (fun reply w => c.Answers bytes cursor (.ok reply) ∧
        ∃ r', Reached w₀ index r' w ∧ Follows bytes reference (c.move bytes.length cursor) r')
      (fun e w => c.Answers bytes cursor (.error e) ∧
        ∃ r', Reached w₀ index r' w ∧ Follows bytes reference (c.move bytes.length cursor) r') := by
  have hV : ∀ position byte, Verified w₀ reference position byte → ByteOf bytes position byte :=
    hheld.verified
  have hunbroken : ∀ {n w}, ¬ Broken w₀ index reference r n w := fun hbroken =>
    hbroken.refused hreadable
  have hbound := h.bound
  cases c with
  | peek =>
      refine .bind ((triple_peekValueUnsafe h.reader hV).conseq (fun _ hw => hw) (fun _ _ hw => hw)
        fun _ w hw => absurd hw.2 hunbroken) fun data => .pure fun w hw => ?_
      obtain ⟨r', hreached, hpeek⟩ := hw
      rw [h.position, h.size] at hpeek
      split_ifs at hpeek with hcursor
      · obtain ⟨hfocused, rfl⟩ := hpeek
        obtain ⟨hpos, hle⟩ := hfocused.available_length
        rw [h.position, h.size] at hle
        have hpart := hfocused.progress hpos
        rw [List.take_length] at hpart
        have htaken := h.taken hpart hle
        refine ⟨⟨_, rfl, ?_, fun _ => List.length_pos_iff.mp hpos⟩, r', hreached, ?_⟩
        · rw [htaken]
          exact List.take_prefix _ _
        · exact h.focused hfocused
      · obtain ⟨rfl, rfl⟩ := hpeek
        exact ⟨⟨_, rfl, List.nil_prefix, fun hlt => absurd hlt hcursor⟩, r', hreached, h⟩
  | readInto wanted =>
      refine .bind ((triple_readValueIntoUnsafe h.reader wanted hV).conseq (fun _ hw => hw)
        (fun _ _ hw => hw) fun _ w hw => ?_) fun data => .pure fun w hw => ?_
      · rcases hw with hbroken | ⟨data, r', -, hdata, hlength, hmismatch⟩
        · exact absurd hbroken hunbroken
        · rw [h.size, h.position] at hlength
          exact absurd hmismatch ((h.progress hdata (by omega)).not_mismatch hheld.checksum)
      · obtain ⟨r', hreached, hdata, hlength⟩ := hw
        rw [h.size, h.position] at hlength
        have hle : data.length ≤ bytes.length - cursor := by omega
        have hfollows := h.progress hdata hle
        have htaken := h.taken hdata hle
        rw [hlength] at hfollows htaken
        refine ⟨?_, r', hreached, hfollows⟩
        show Except.ok (Reply.data data) = _
        rw [htaken, ← List.take_take, ← List.length_drop, List.take_length]
  | consume count =>
      by_cases hsize : count ≤ bytes.length - cursor
      · have hmove : (ReaderCall.consume count).move bytes.length cursor = cursor + count :=
          if_pos hsize
        rw [hmove]
        refine .bind ((triple_consumeValueUnsafe h.reader count hV).conseq (fun _ hw => hw)
          (fun _ _ hw => hw) fun _ w hw => ?_) fun _ => .pure fun w hw => ?_
        · rw [h.size, h.position] at hw
          rcases hw with ⟨-, hbeyond⟩ | ⟨-, -, hbroken | ⟨data, r', -, hdata, hlength, hmismatch⟩⟩
          · omega
          · exact absurd hbroken hunbroken
          · exact absurd hmismatch ((h.progress hdata (by omega)).not_mismatch hheld.checksum)
        · obtain ⟨-, hw⟩ := hw
          refine ⟨(if_pos hsize).symm, ?_⟩
          split_ifs at hw with henabled
          · obtain ⟨data, r', hreached, hdata, hlength⟩ := hw
            have hfollows := h.progress hdata (by omega)
            rw [hlength] at hfollows
            exact ⟨r', hreached, hfollows⟩
          · refine ⟨_, hw, h.moved ?_ (by omega) ?_ fun hon => absurd hon henabled⟩
            · show r.cursor + count = _
              rw [h.position]
            · show skipped r count = _
              unfold skipped
              rw [h.position]
      · intro w hw
        rw [exec_consume_refused (by rw [hw.slot, h.size, h.position]; omega)]
        refine ⟨(if_neg hsize).symm, r, hw, ?_⟩
        rw [show (ReaderCall.consume count).move bytes.length cursor = cursor from if_neg hsize]
        exact h
  | seek offset =>
      by_cases hsize : offset ≤ bytes.length
      · have hmove : (ReaderCall.seek offset).move bytes.length cursor = offset := if_pos hsize
        rw [hmove]
        refine .bind ((triple_seekValueUnsafe h.reader offset).conseq (fun _ hw => hw)
          (fun _ _ hw => hw) fun _ w hw => ?_) fun _ => .pure fun w hw => ?_
        · have hbeyond := hw.1
          rw [h.size] at hbeyond
          omega
        · refine ⟨(if_pos hsize).symm, _, hw.2, h.moved rfl hsize rfl fun hon => ?_⟩
          unfold sought at hon ⊢
          by_cases hzero : offset = 0
          · simp [hzero]
          · simp only [hzero, decide_false, Bool.false_or, Bool.and_eq_true, decide_eq_true_eq]
              at hon
            rw [if_neg hzero, h.checksum hon.2, hon.1, h.position]
      · intro w hw
        rw [exec_seek_refused (by rw [hw.slot, h.size]; omega)]
        refine ⟨(if_neg hsize).symm, r, hw, ?_⟩
        rw [show (ReaderCall.seek offset).move bytes.length cursor = cursor from if_neg hsize]
        exact h

end

/-! ## Inline values -/

/-- The slot of a reader that has the cursor here in the bytes of an inline value. -/
structure Inlined (bytes : Bytes) (cursor : ℕ) (r : ValueReaderSlot) : Prop where
  external : r.externalValue = none
  buffer : r.buffer = bytes
  offset : r.bufferValueOffset = 0
  size : r.valueSize = bytes.length
  position : r.cursor = cursor
  bound : cursor ≤ bytes.length

section
variable {bytes : Bytes} {cursor index : ℕ} {r : ValueReaderSlot} {w₀ w : World}

namespace Inlined

lemma opened {generation : ℕ} {view : ValueView} (hvalue : view.value = .inline bytes) :
    Inlined bytes 0 (newReader generation view) := by
  unfold newReader
  rw [hvalue]
  exact ⟨rfl, rfl, rfl, rfl, rfl, Nat.zero_le _⟩

/-- Only the cursor has moved. -/
lemma moved (h : Inlined bytes cursor r) {cursor' : ℕ} (hbound : cursor' ≤ bytes.length) :
    Inlined bytes cursor' { r with cursor := cursor' } :=
  ⟨h.external, h.buffer, h.offset, h.size, rfl, hbound⟩

lemma advance (h : Inlined bytes cursor r) {part : Bytes}
    (hpart : part.length ≤ bytes.length - cursor) :
    Inlined bytes (cursor + part.length) (r.advance part) := by
  have hbound := h.bound
  refine ⟨h.external, h.buffer, h.offset, h.size, ?_, by omega⟩
  rw [advance_cursor, h.position]

lemma available (h : Inlined bytes cursor r) : r.available = bytes.drop cursor := by
  unfold ValueReaderSlot.available
  rw [h.buffer, h.position, h.offset, Nat.sub_zero]

lemma exec_ensureBuffered (h : Inlined bytes cursor r) (hcursor : cursor < bytes.length)
    (hw : w.db.valueReaders index = r) : exec (ensureBuffered index) w = (.ok (), w) := by
  have hbuffered : (w.db.valueReaders index).buffered = true := by
    rw [hw, buffered_eq_true, h.position, h.offset, h.buffer]
    omega
  unfold ensureBuffered
  rw [exec_bind, exec_getDb]
  dsimp only
  rw [if_neg (by rw [hbuffered]; decide)]
  rfl

lemma exec_checkReaderEnd (h : Inlined bytes cursor r) (hw : w.db.valueReaders index = r) :
    exec (checkReaderEnd index) w = (.ok (), w) := by
  unfold checkReaderEnd
  rw [exec_bind, exec_getDb]
  dsimp only
  rw [exec_failIf, if_neg]
  rw [hw, h.external]
  rintro ⟨-, -, hdiffers⟩
  cases hdiffers

lemma triple_readValueLoop (fuel : ℕ) {wanted : ℕ} (h : Inlined bytes cursor r)
    (hfuel : wanted ≤ fuel) :
    Triple (Reached w₀ index r) (readValueLoop index fuel wanted)
      (fun data w => data = (bytes.drop cursor).take wanted ∧
        ∃ r', Reached w₀ index r' w ∧ Inlined bytes (cursor + min wanted (bytes.length - cursor)) r')
      (fun _ _ => False) := by
  induction fuel generalizing r cursor wanted with
  | zero =>
      obtain rfl := Nat.le_zero.mp hfuel
      refine .pure fun w hw => ⟨rfl, r, hw, ?_⟩
      rwa [Nat.zero_min, Nat.add_zero]
  | succ fuel ih =>
      unfold readValueLoop
      refine .bind (Q := fun db w => Reached w₀ index r w ∧ db.valueReaders index = r)
        (Triple.getDb fun w hw => ⟨hw, hw.slot⟩) fun db => .of_pure (fun w hw => hw.2) fun hdb => ?_
      rw [hdb]
      have hbound := h.bound
      refine .ite (fun hend => .pure fun w hw => ⟨?_, r, hw.1, ?_⟩) fun hmore => ?_
      · rw [h.size, h.position] at hend
        refine (List.eq_nil_of_length_eq_zero ?_).symm
        rw [List.length_take, List.length_drop]
        omega
      · rw [h.size, h.position] at hend
        rwa [show cursor + min wanted (bytes.length - cursor) = cursor by omega]
      · push Not at hmore
        rw [h.size, h.position] at hmore
        refine .bind (Q := fun _ => Reached w₀ index r) (fun w hw => ?_) fun _ =>
          .bind (Q := fun db w => Reached w₀ index r w ∧ db.valueReaders index = r)
            (Triple.getDb fun w hw => ⟨hw, hw.slot⟩) fun db =>
            .of_pure (fun w hw => hw.2) fun hdb' => ?_
        · rw [h.exec_ensureBuffered hmore.2 hw.1.slot]
          exact hw.1
        · rw [hdb']
          dsimp only
          rw [h.available]
          have hlength : ((bytes.drop cursor).take wanted).length =
              min wanted (bytes.length - cursor) := by
            rw [List.length_take, List.length_drop]
          have hnext : Inlined bytes (cursor + min wanted (bytes.length - cursor))
              (r.advance ((bytes.drop cursor).take wanted)) := by
            rw [← hlength]
            exact h.advance (by omega)
          refine .bind (Q := fun _ => Reached w₀ index (r.advance ((bytes.drop cursor).take wanted)))
            (triple_setReader fun w hw => hw.1.set _) fun _ => .bind (ih hnext (by omega)) fun rest =>
            .pure fun w hw => ?_
          obtain ⟨rfl, r', hreached, hinlined⟩ := hw
          refine ⟨?_, r', hreached, ?_⟩
          · have hnone : (bytes.drop (cursor + min wanted (bytes.length - cursor))).take
                (wanted - ((bytes.drop cursor).take wanted).length) = [] := by
              refine List.eq_nil_of_length_eq_zero ?_
              rw [List.length_take, List.length_drop]
              omega
            rw [hnone, List.append_nil]
          · rwa [show cursor + min wanted (bytes.length - cursor) +
              min (wanted - ((bytes.drop cursor).take wanted).length)
                (bytes.length - (cursor + min wanted (bytes.length - cursor))) =
                  cursor + min wanted (bytes.length - cursor) by omega] at hinlined

end Inlined

/-- **Every call on a reader of an inline value is answered**, whatever the device does. -/
theorem triple_inlined (h : Inlined bytes cursor r) (c : ReaderCall) :
    Triple (Reached w₀ index r) (c.body index)
      (fun reply w => c.Answers bytes cursor (.ok reply) ∧
        ∃ r', Reached w₀ index r' w ∧ Inlined bytes (c.move bytes.length cursor) r')
      (fun e w => c.Answers bytes cursor (.error e) ∧
        ∃ r', Reached w₀ index r' w ∧ Inlined bytes (c.move bytes.length cursor) r') := by
  have hbound := h.bound
  cases c with
  | peek =>
      refine .bind (Q := fun data w => data = bytes.drop cursor ∧ Reached w₀ index r w)
        (fun w hw => ?_) fun data => .pure fun w hw => ⟨⟨data, rfl, ?_, fun hcursor hnil => ?_⟩, r,
          hw.2, h⟩
      · unfold peekValueUnsafe
        rw [exec_bind, exec_getDb]
        dsimp only
        by_cases hcursor : cursor < bytes.length
        · rw [if_pos (by rw [hw.slot, h.size, h.position]; exact hcursor), exec_bind,
            h.exec_ensureBuffered hcursor hw.slot]
          dsimp only
          rw [exec_bind, exec_getDb]
          dsimp only
          rw [hw.slot]
          exact ⟨h.available, hw⟩
        · rw [if_neg (by rw [hw.slot, h.size, h.position]; exact hcursor)]
          exact ⟨(List.drop_eq_nil_of_le (not_lt.mp hcursor)).symm, hw⟩
      · rw [hw.1]
      · rw [hw.1, List.drop_eq_nil_iff] at hnil
        omega
  | readInto wanted =>
      refine .bind (Q := fun data w => data = (bytes.drop cursor).take wanted ∧ ∃ r',
        Reached w₀ index r' w ∧ Inlined bytes (cursor + min wanted (bytes.length - cursor)) r')
        ?_ fun data => .pure fun w hw => ⟨?_, hw.2⟩
      · unfold readValueIntoUnsafe
        refine .bind ((h.triple_readValueLoop wanted le_rfl).conseq (fun _ hw => hw)
          (fun _ _ hw => hw) fun _ _ hw => hw.elim) fun data => .bind (Q := fun _ w =>
            data = (bytes.drop cursor).take wanted ∧ ∃ r', Reached w₀ index r' w ∧
              Inlined bytes (cursor + min wanted (bytes.length - cursor)) r') (fun w hw => ?_)
          fun _ => .pure fun w hw => hw
        obtain ⟨hdata, r', hreached, hinlined⟩ := hw
        rw [hinlined.exec_checkReaderEnd hreached.slot]
        exact ⟨hdata, r', hreached, hinlined⟩
      · rw [hw.1]
        rfl
  | consume count =>
      by_cases hsize : count ≤ bytes.length - cursor
      · have hmove : (ReaderCall.consume count).move bytes.length cursor = cursor + count :=
          if_pos hsize
        rw [hmove]
        have hnext : Inlined bytes (cursor + count) { r with cursor := r.cursor + count } := by
          rw [h.position]
          exact h.moved (by omega)
        refine .bind (Q := fun _ w => ∃ r', Reached w₀ index r' w ∧
          Inlined bytes (cursor + count) r') (fun w hw => ?_) fun _ =>
            .pure fun w hw => ⟨(if_pos hsize).symm, hw⟩
        have hset := hw.set { r with cursor := r.cursor + count }
        unfold consumeValueUnsafe setReader
        rw [exec_bind, exec_getDb]
        dsimp only
        rw [exec_bind, exec_failIf, if_neg (by rw [hw.slot, h.size, h.position]; omega)]
        dsimp only
        rw [if_neg (by rw [hw.slot, h.external]; simp), exec_bind, exec_modifyDb]
        dsimp only
        rw [hw.slot, hnext.exec_checkReaderEnd hset.slot]
        exact ⟨_, hset, hnext⟩
      · intro w hw
        rw [exec_consume_refused (by rw [hw.slot, h.size, h.position]; omega)]
        refine ⟨(if_neg hsize).symm, r, hw, ?_⟩
        rw [show (ReaderCall.consume count).move bytes.length cursor = cursor from if_neg hsize]
        exact h
  | seek offset =>
      by_cases hsize : offset ≤ bytes.length
      · have hmove : (ReaderCall.seek offset).move bytes.length cursor = offset := if_pos hsize
        rw [hmove]
        refine .bind (Q := fun _ w => ∃ r', Reached w₀ index r' w ∧ Inlined bytes offset r')
          (fun w hw => ?_) fun _ => .pure fun w hw => ⟨(if_pos hsize).symm, hw⟩
        unfold seekValueUnsafe setReader
        rw [exec_bind, exec_getDb]
        dsimp only
        rw [exec_bind, exec_failIf, if_neg (by rw [hw.slot, h.size]; omega)]
        dsimp only
        rw [exec_modifyDb, hw.slot, if_pos (by rw [h.external]; rfl)]
        exact ⟨_, hw.set _, h.moved hsize⟩
      · intro w hw
        rw [exec_seek_refused (by rw [hw.slot, h.size]; omega)]
        refine ⟨(if_neg hsize).symm, r, hw, ?_⟩
        rw [show (ReaderCall.seek offset).move bytes.length cursor = cursor from if_neg hsize]
        exact h

end

end On9kvdb
