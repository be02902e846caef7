import On9kvdb.Reader.Calls

/-!
# Where the bytes of a reader come from

A session follows one reader from `open_value` on, through its own calls and through everything
that happens in between, device failures and changes of the media included.  A refill reads the
chunk into the buffer before it is validated, and a refill that fails leaves the description of
the window as it was: the window is overwritten.  A session that never lets the reader deliver from
an overwritten window only ever delivers bytes of chunks that have passed their checks.
-/

namespace On9kvdb

open Exceptional ValueReaderSlot

variable {cfg : Config}

/-! ## Sessions -/

/-- A reader in use: the world, whether the last refill has failed, and the worlds the calls were
made in. -/
structure ReaderSession where
  world : World
  overwritten : Bool
  seen : List World

namespace ReaderSession

/-- The slot of the reader. -/
def slot (s : ReaderSession) (index : ℕ) : ValueReaderSlot := s.world.db.valueReaders index

/-- Whether the call finds its bytes in the window, so that it needs no refill. -/
def served (s : ReaderSession) (index : ℕ) (c : ReaderCall) : Bool :=
  (s.slot index).covers (c.takes (s.slot index))

/-- Whether the call would deliver from an overwritten window. -/
def careless (s : ReaderSession) (index : ℕ) (c : ReaderCall) : Bool :=
  s.overwritten && c.delivers && (s.slot index).buffered

variable (cfg) in
/-- The session behind a call.  A call that needs a refill and fails short of the end has failed in
a refill; one that does not fail has refilled the window. -/
def after (s : ReaderSession) (raw index : ℕ) (c : ReaderCall) : ReaderSession :=
  let (result, w) := exec (perform cfg (c.call raw)) s.world
  { world := w
    overwritten := if s.served index c then s.overwritten else
      match result with
      | .ok _ => false
      | .error _ => (w.db.valueReaders index).cursor < (w.db.valueReaders index).valueSize
    seen := s.world :: s.seen }

end ReaderSession

open ReaderSession

/-- The sessions of a reader on the external value `reference`: it is opened, then its own careful
calls alternate with anything that leaves its slot alone. -/
inductive Session (cfg : Config) (raw index : ℕ) (reference : ValueRef) : ReaderSession → Prop
  | opened {w : World} {generation : ℕ} {view : ValueView} (hvalue : view.value = .external reference)
      (hslot : w.db.valueReaders index = newReader generation view) :
      Session cfg raw index reference ⟨w, false, []⟩
  | other {s : ReaderSession} {w : World} (h : Session cfg raw index reference s)
      (hslot : w.db.valueReaders index = s.slot index) :
      Session cfg raw index reference { s with world := w }
  | call {s : ReaderSession} (c : ReaderCall) (h : Session cfg raw index reference s)
      (hreaches : Reaches cfg raw index s.world) (hcareful : s.careless index c = false) :
      Session cfg raw index reference (s.after cfg raw index c)

/-! ## What a call leaves -/

/-- A byte that a chunk accepted in one of these worlds holds at this position. -/
def VerifiedIn (worlds : List World) (reference : ValueRef) (position : ℕ) (byte : UInt8) : Prop :=
  ∃ w ∈ worlds, Verified w reference position byte

instance (worlds : List World) (reference : ValueRef) (position : ℕ) (byte : UInt8) :
    Decidable (VerifiedIn worlds reference position byte) :=
  inferInstanceAs (Decidable (∃ w ∈ worlds, Verified w reference position byte))

/-- The slot behind a call that took `n` bytes. -/
def Served (V : ℕ → UInt8 → Prop) (w₀ : World) (index : ℕ) (reference : ValueRef)
    (r : ValueReaderSlot) (n : ℕ) (w : World) : Prop :=
  ∃ r' : ValueReaderSlot, Reached w₀ index r' w ∧ r'.ReaderOf reference ∧
    (r.covers n = true → r'.buffer = r.buffer ∧ r'.bufferValueOffset = r.bufferValueOffset) ∧
    (r.covers n = false → r'.Loaded V)

section
variable {w₀ w : World} {index : ℕ} {reference : ValueRef} {r : ValueReaderSlot}
  {V : ℕ → UInt8 → Prop}

lemma Progress.served {data : Bytes} {r' : ValueReaderSlot} (h : Progress V reference r data r')
    (hw : Reached w₀ index r' w) : Served V w₀ index reference r data.length w :=
  ⟨r', hw, h.reader, h.kept, h.loaded⟩

lemma Served.same_window {r' : ValueReaderSlot} (hw : Reached w₀ index r' w)
    (hr : r'.ReaderOf reference) (hbuffer : r'.buffer = r.buffer)
    (hoffset : r'.bufferValueOffset = r.bufferValueOffset) : Served V w₀ index reference r 0 w :=
  ⟨r', hw, hr, fun _ => ⟨hbuffer, hoffset⟩, fun hc => by simp [covers] at hc⟩

/-- A deliverable window: none at the cursor, or one whose bytes are all good. -/
def Deliverable (V : ℕ → UInt8 → Prop) (r : ValueReaderSlot) : Prop := r.buffered = true → r.Loaded V

lemma Focused.peeked {r' : ValueReaderSlot} {data : Bytes} (h : Focused V reference r r')
    (hw : Reached w₀ index r' w) (hcursor : r.cursor < r.valueSize) (hdata : data = r'.available) :
    Served V w₀ index reference r (ReaderCall.peek.takes r) w ∧
      ∀ data', Reply.data data = .data data' → Deliverable V r →
        ∀ k byte, data'[k]? = some byte → V (r.cursor + k) byte := by
  have hone : ReaderCall.peek.takes r = 1 := by
    show min 1 (r.valueSize - r.cursor) = 1
    omega
  have hcovers : r.covers 1 = true ↔ r.buffered = true := by
    rw [covers_eq_true, buffered_eq_true]
    omega
  rw [hone]
  refine ⟨⟨r', hw, h.reader, fun hc => ?_, fun hc => h.loaded ?_⟩, fun data' heq hdeliverable k byte
    hk => ?_⟩
  · rw [h.kept (hcovers.mp hc)]
    exact ⟨rfl, rfl⟩
  · exact Bool.eq_false_iff.mpr fun hb => Bool.eq_false_iff.mp hc (hcovers.mpr hb)
  · cases heq
    have hloaded : r'.Loaded V := by
      cases hb : r.buffered with
      | true =>
          rw [h.kept hb]
          exact hdeliverable hb
      | false => exact h.loaded hb
    rw [← h.cursor]
    rw [hdata] at hk
    exact hloaded.available h.buffered hk

/-- **Every call on a reader** leaves its window as it was or loaded, unless a refill fails, and
delivers only good bytes from a deliverable one. -/
theorem triple_readerCall (hr : r.ReaderOf reference)
    (hV : ∀ position byte, Verified w₀ reference position byte → V position byte)
    (c : ReaderCall) :
    Triple (Reached w₀ index r) (c.body index)
      (fun reply w => Served V w₀ index reference r (c.takes r) w ∧
        ∀ data, reply = .data data → Deliverable V r →
          ∀ k byte, data[k]? = some byte → V (r.cursor + k) byte)
      (fun _ w => Served V w₀ index reference r (c.takes r) w ∨
        Broken w₀ index reference r (c.takes r) w) := by
  cases c with
  | peek =>
      refine .bind ((triple_peekValueUnsafe hr hV).conseq (fun _ hw => hw) (fun _ _ hw => hw)
        fun _ w hw => Or.inr ?_) fun data => .pure fun w hw => ?_
      · have hone : ReaderCall.peek.takes r = 1 := by
          have hcursor := hw.1
          show min 1 (r.valueSize - r.cursor) = 1
          omega
        rw [hone]
        exact hw.2
      · obtain ⟨r', hreached, hpeek⟩ := hw
        split_ifs at hpeek with hcursor
        · exact hpeek.1.peeked hreached hcursor hpeek.2
        · have hnone : ReaderCall.peek.takes r = 0 := by
            show min 1 (r.valueSize - r.cursor) = 0
            omega
          obtain ⟨rfl, rfl⟩ := hpeek
          rw [hnone]
          refine ⟨.same_window hreached hr rfl rfl, fun data hdata _ k byte hk => ?_⟩
          cases hdata
          simp at hk
  | readInto size =>
      refine .bind ((triple_readValueIntoUnsafe hr size hV).conseq (fun _ hw => hw)
        (fun _ _ hw => hw) fun _ w hw => ?_) fun data => .pure fun w hw => ?_
      · rcases hw with hbroken | ⟨data, r', hreached, hdata, hlength, -⟩
        · exact Or.inr hbroken
        · have hserved := hdata.served hreached
          rw [hlength] at hserved
          exact Or.inl hserved
      · obtain ⟨r', hreached, hprogress, hlength⟩ := hw
        have hserved := hprogress.served hreached
        rw [hlength] at hserved
        refine ⟨hserved, fun data' hdata hdeliverable => ?_⟩
        cases hdata
        exact hprogress.verified hdeliverable
  | consume size =>
      refine .bind ((triple_consumeValueUnsafe hr size hV).conseq (fun _ hw => hw)
        (fun _ _ hw => hw) fun _ w hw => ?_) fun _ => .pure fun w hw => ⟨?_, fun data hdata => ?_⟩
      · rcases hw with ⟨hreached, hsize⟩ | ⟨hsize, henabled, hfailed⟩
        · have hnone : (ReaderCall.consume size).takes r = 0 := if_neg fun h => by omega
          rw [hnone]
          exact Or.inl (.same_window hreached hr rfl rfl)
        · have hall : (ReaderCall.consume size).takes r = size := if_pos ⟨hsize, henabled⟩
          rw [hall]
          rcases hfailed with hbroken | ⟨data, r', hreached, hdata, hlength, -⟩
          · exact Or.inr hbroken
          · have hserved := hdata.served hreached
            rw [hlength] at hserved
            exact Or.inl hserved
      · obtain ⟨hsize, hw⟩ := hw
        split_ifs at hw with henabled
        · obtain ⟨data, r', hreached, hdata, hlength⟩ := hw
          have hall : (ReaderCall.consume size).takes r = size := if_pos ⟨hsize, henabled⟩
          have hserved := hdata.served hreached
          rwa [hlength, ← hall] at hserved
        · have hnone : (ReaderCall.consume size).takes r = 0 := if_neg fun h => henabled h.2
          rw [hnone]
          exact .same_window hw ⟨hr.used, hr.external, hr.size, hr.window⟩ rfl rfl
      · cases hdata
  | seek offset =>
      refine .bind ((triple_seekValueUnsafe hr offset).conseq (fun _ hw => hw) (fun _ _ hw => hw)
        fun _ w hw => Or.inl (.same_window hw.2 hr rfl rfl)) fun _ =>
        .pure fun w hw => ⟨.same_window hw.2 ?_ rfl rfl, fun data hdata => ?_⟩
      · exact ⟨hr.used, hr.external, hr.size, hr.window⟩
      · cases hdata

end

/-- Only a call that delivers returns bytes. -/
lemma returns_body (index : ℕ) (c : ReaderCall) :
    Returns (fun reply => ∀ data, reply = .data data → c.delivers = true) (c.body index) := by
  cases c with
  | peek => exact fun _ _ _ _ _ _ => rfl
  | readInto size => exact fun _ _ _ _ _ _ => rfl
  | consume size =>
      exact .bind .trivial fun _ _ => .pure fun data hdata => by cases hdata
  | seek offset =>
      exact .bind .trivial fun _ _ => .pure fun data hdata => by cases hdata

/-! ## Whole sessions -/

/-- What a careful session keeps: unless it is overwritten, every byte of the window has been
verified. -/
structure Faithful (index : ℕ) (reference : ValueRef) (s : ReaderSession) : Prop where
  reader : (s.slot index).ReaderOf reference
  loaded : s.overwritten = false → (s.slot index).Loaded (VerifiedIn s.seen reference)

lemma VerifiedIn.head {worlds : List World} {w : World} {reference : ValueRef} (position : ℕ)
    (byte : UInt8) (h : Verified w reference position byte) :
    VerifiedIn (w :: worlds) reference position byte := ⟨w, List.mem_cons_self, h⟩

lemma ValueReaderSlot.Loaded.seen {r : ValueReaderSlot} {worlds : List World} {reference : ValueRef}
    (h : r.Loaded (VerifiedIn worlds reference)) (w : World) :
    r.Loaded (VerifiedIn (w :: worlds) reference) := by
  intro k byte hk
  obtain ⟨v, hv, hbyte⟩ := h k byte hk
  exact ⟨v, List.mem_cons_of_mem _ hv, hbyte⟩

/-- A window behind a served call is loaded, unless it was overwritten and has been left alone. -/
lemma Served.loaded {s : ReaderSession} {index : ℕ} {reference : ValueRef} {c : ReaderCall} {w : World}
    (h : Faithful index reference s) (hw : Served (VerifiedIn (s.world :: s.seen) reference) s.world
      index reference (s.slot index) (c.takes (s.slot index)) w)
    (hfresh : s.served index c = true → s.overwritten = false) :
    (w.db.valueReaders index).Loaded (VerifiedIn (s.world :: s.seen) reference) := by
  obtain ⟨r', hreached, -, hkept, hloaded⟩ := hw
  rw [hreached.slot]
  cases hserved : s.served index c with
  | true =>
      obtain ⟨hbuffer, hoffset⟩ := hkept hserved
      exact ((h.loaded (hfresh hserved)).seen s.world).of_window hbuffer hoffset
  | false => exact hloaded hserved

lemma faithful_after {s : ReaderSession} {raw index : ℕ} {reference : ValueRef}
    (h : Faithful index reference s) (hreaches : Reaches cfg raw index s.world) (c : ReaderCall) :
    Faithful index reference (s.after cfg raw index c) := by
  have hV : ∀ position byte, Verified s.world reference position byte →
      VerifiedIn (s.world :: s.seen) reference position byte := VerifiedIn.head
  have hcall := triple_readerCall h.reader hV c s.world (Reached.refl s.world index)
  unfold ReaderSession.after
  rw [exec_readerCall hreaches]
  rcases hrun : exec (c.body index) s.world with ⟨result, w⟩
  rw [hrun] at hcall
  cases result with
  | ok reply =>
      refine ⟨?_, fun hoverwritten => Served.loaded h hcall.1 fun hserved => ?_⟩
      · obtain ⟨r', hreached, hreader, -⟩ := hcall.1
        show (w.db.valueReaders index).ReaderOf reference
        rwa [hreached.slot]
      · simpa [hserved] using hoverwritten
  | error e =>
      rcases hcall with hserved' | hbroken
      · refine ⟨?_, fun hoverwritten => Served.loaded h hserved' fun hserved => ?_⟩
        · obtain ⟨r', hreached, hreader, -⟩ := hserved'
          show (w.db.valueReaders index).ReaderOf reference
          rwa [hreached.slot]
        · simpa [hserved] using hoverwritten
      · obtain ⟨r', hreached, hreader, hshort⟩ := hbroken.slot
        have hslot : w.db.valueReaders index = r' := hreached.slot
        refine ⟨?_, fun hoverwritten => ?_⟩
        · show (w.db.valueReaders index).ReaderOf reference
          rwa [hslot]
        · have huncovered : s.served index c = false := hbroken.uncovered
          simp only [huncovered, Bool.false_eq_true, if_false, hslot, hshort, decide_true] at hoverwritten
          cases hoverwritten

/-- **A careful session stays faithful.** -/
theorem Session.faithful {s : ReaderSession} {raw index : ℕ} {reference : ValueRef}
    (h : Session cfg raw index reference s) : Faithful index reference s := by
  induction h with
  | @opened w generation view hvalue hslot =>
      have hreader : w.db.valueReaders index = { generation := generation
                                                 valueSize := reference.valueSize
                                                 externalValue := some reference
                                                 used := true
                                                 checksumEnabled := true } := by
        rw [hslot]
        unfold newReader
        rw [hvalue]
        rfl
      refine ⟨?_, fun _ => ?_⟩
      · show (w.db.valueReaders index).ReaderOf reference
        rw [hreader]
        exact ⟨rfl, rfl, rfl, Nat.zero_le _⟩
      · show (w.db.valueReaders index).Loaded _
        rw [hreader]
        intro k byte hk
        simp at hk
  | @other s w _ hslot ih =>
      refine ⟨?_, fun hfresh => ?_⟩
      · show (w.db.valueReaders index).ReaderOf reference
        rw [hslot]
        exact ih.reader
      · show (w.db.valueReaders index).Loaded _
        rw [hslot]
        exact ih.loaded hfresh
  | call c _ hreaches _ ih => exact faithful_after ih hreaches c

/-- **A careful reader serves verified bytes only.**  In every session none of whose calls delivers
from an overwritten window, every byte that a call delivers at a cursor is the byte of the value at
that cursor in a chunk that passed all checks when one of the calls was made. -/
theorem reader_serves_verified {s : ReaderSession} {raw index : ℕ} {reference : ValueRef}
    {c : ReaderCall} {data : Bytes} {w : World} (h : Session cfg raw index reference s)
    (hreaches : Reaches cfg raw index s.world) (hcareful : s.careless index c = false)
    (hcall : exec (perform cfg (c.call raw)) s.world = (.ok (.data data), w)) :
    ∀ k byte, data[k]? = some byte →
      VerifiedIn (s.world :: s.seen) reference ((s.slot index).cursor + k) byte := by
  have hfaithful := h.faithful
  rw [exec_readerCall hreaches] at hcall
  have hV : ∀ position byte, Verified s.world reference position byte →
      VerifiedIn (s.world :: s.seen) reference position byte := VerifiedIn.head
  have hbody := (triple_readerCall hfaithful.reader hV c).ok (Reached.refl s.world index) hcall
  have hdelivers := returns_body index c _ _ _ hcall data rfl
  refine hbody.2 data rfl fun hbuffered => ?_
  have hfresh : s.overwritten = false := by
    unfold ReaderSession.careless at hcareful
    rwa [hdelivers, hbuffered, Bool.and_true, Bool.and_true] at hcareful
  exact (hfaithful.loaded hfresh).seen s.world

/-! ## A reader on two chunks -/

/-- The descriptor of a value of 5000 bytes. -/
def onesRef : ValueRef := ⟨1, 8192, 5000, 0, 0⟩

/-- The provisioned range with that value, all of whose bytes are 1. -/
def onesMedia : Media :=
  { provisionedMedia hostConfig 7 with
    valueChunk := fun bank offset => writtenOrBlank (if bank = 0 then
      encodeValueChunk 7 1 8192 5000 (if offset = 8192 then 0 else 4032)
        (List.replicate (if offset = 8192 then 4032 else 968) 1) else none) }

/-- An instance with a reader on the value, whose second device call fails. -/
def onesWorld : World where
  db :=
    { Db.closed 2 1 with
      initialized := true
      manifest := { provisionedRecord hostConfig 7 4 with valueBankTail := fun _ => 16384 }
      valueReaders := fun _ => newReader 1 ⟨1, .external onesRef⟩ }
  dev := .boot onesMedia (fun n => if n = 1 then .keepOld else .none) (fun _ => [])
    fun _ => ⟨1, Nat.one_ne_zero⟩

/-- A session on that reader, which has the token 513, behind these calls. -/
def onesSession (calls : List ReaderCall) : ReaderSession :=
  calls.foldl (fun s c => s.after hostConfig 513 0 c) ⟨onesWorld, false, []⟩

/-- The first byte is read, a read of the second chunk fails, and the first byte is sought. -/
def failedRefill : ReaderSession :=
  onesSession [.readInto 1, .seek 4032, .readInto 1, .seek 0]

/-- The window that the failed refill has overwritten is delivered as the first byte. -/
theorem reader_serves_overwritten :
    (exec (perform hostConfig ((ReaderCall.readInto 1).call 513)) failedRefill.world).1 =
        .ok (.data [0]) ∧
      (failedRefill.slot 0).cursor = 0 ∧
      ¬ VerifiedIn (failedRefill.world :: failedRefill.seen) onesRef 0 0 := by
  decide +kernel

/-- The same session without the way back. -/
def retriedRefill : ReaderSession := onesSession [.readInto 1, .seek 4032, .readInto 1]

lemma onesSession_call {calls : List ReaderCall} (c : ReaderCall)
    (h : Session hostConfig 513 0 onesRef (onesSession calls))
    (hreaches : Reaches hostConfig 513 0 (onesSession calls).world)
    (hcareful : (onesSession calls).careless 0 c = false) :
    Session hostConfig 513 0 onesRef (onesSession (calls ++ [c])) := by
  have hafter : onesSession (calls ++ [c]) = (onesSession calls).after hostConfig 513 0 c := by
    unfold onesSession
    rw [List.foldl_append]
    rfl
  rw [hafter]
  exact h.call c hreaches hcareful

lemma session_retriedRefill : Session hostConfig 513 0 onesRef retriedRefill := by
  have hopened : Session hostConfig 513 0 onesRef (onesSession []) := .opened rfl rfl
  have hread := onesSession_call (.readInto 1) hopened
    ⟨by decide +kernel, by decide +kernel, by decide +kernel⟩ (by decide +kernel)
  have hsought := onesSession_call (.seek 4032) hread
    ⟨by decide +kernel, by decide +kernel, by decide +kernel⟩ (by decide +kernel)
  have hretried := onesSession_call (.readInto 1) hsought
    ⟨by decide +kernel, by decide +kernel, by decide +kernel⟩ (by decide +kernel)
  unfold retriedRefill
  simpa only [List.nil_append, List.cons_append] using hretried

/-- A retried refill delivers the second chunk. -/
theorem reader_serves_verified_retried :
    VerifiedIn (retriedRefill.world :: retriedRefill.seen) onesRef
      ((retriedRefill.slot 0).cursor + 0) 1 := by
  have hcall : (exec (perform hostConfig ((ReaderCall.readInto 1).call 513)) retriedRefill.world).1 =
      .ok (.data [1]) := by decide +kernel
  have hreaches : Reaches hostConfig 513 0 retriedRefill.world :=
    ⟨by decide +kernel, by decide +kernel, by decide +kernel⟩
  have hcareful : retriedRefill.careless 0 (.readInto 1) = false := by decide +kernel
  exact reader_serves_verified session_retriedRefill hreaches hcareful (exec_eq hcall)
    0 1 rfl

end On9kvdb
