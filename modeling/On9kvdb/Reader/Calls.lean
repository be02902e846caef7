import On9kvdb.Reader.Window
import On9kvdb.Store.Api

/-!
# The calls on a reader

`peek_value`, `read_value_into`, `consume_value` and `seek_value` on one open reader.  Each is
followed through its checks and loops to what it leaves in the slot of the reader and, when it
delivers bytes, to where these come from.
-/

namespace On9kvdb

open Exceptional ValueReaderSlot

variable {cfg : Config}

/-- The calls on a reader. -/
inductive ReaderCall
  | peek
  | readInto (size : ℕ)
  | consume (size : ℕ)
  | seek (offset : ℕ)
  deriving DecidableEq

namespace ReaderCall

/-- The call of the public interface, on the reader with the token `raw`. -/
def call (raw : ℕ) : ReaderCall → Call
  | peek => .peekValue raw
  | readInto size => .readValueInto raw size
  | consume size => .consumeValue raw size
  | seek offset => .seekValue raw offset

/-- What the call does behind the lock. -/
def body (index : ℕ) : ReaderCall → DbM Reply
  | peek => .data <$> peekValueUnsafe index
  | readInto size => .data <$> readValueIntoUnsafe index size
  | consume size => do consumeValueUnsafe index size; return .done
  | seek offset => do seekValueUnsafe index offset; return .done

/-- How many bytes the call takes through the window. -/
def takes (r : ValueReaderSlot) : ReaderCall → ℕ
  | peek => min 1 (r.valueSize - r.cursor)
  | readInto size => min size (r.valueSize - r.cursor)
  | consume size => if size ≤ r.valueSize - r.cursor ∧ r.checksumEnabled = true then size else 0
  | seek _ => 0

/-- Whether the call hands bytes of the value to its caller. -/
def delivers : ReaderCall → Bool
  | peek => true
  | readInto _ => true
  | _ => false

end ReaderCall

/-- The token belongs to the open reader in this slot, and the instance takes calls. -/
structure Reaches (cfg : Config) (raw index : ℕ) (w : World) : Prop where
  initialized : w.db.initialized = true
  sound : w.db.storageFaulted = false
  token : getValueReaderUnsafe cfg w.db raw = .ok index

lemma exec_map {α β : Type} (f : α → β) (x : DbM α) (w : World) :
    exec (f <$> x) w = ((exec x w).1.map f, (exec x w).2) := by
  rw [map_eq_pure_bind, exec_bind]
  rcases exec x w with ⟨o, w'⟩
  cases o <;> rfl

lemma exec_withReader {α : Type} {raw index : ℕ} {w : World} (h : Reaches cfg raw index w)
    (x : ℕ → DbM α) : exec (withReader cfg raw x) w = exec (x index) w := by
  unfold withReader acquireOperationLock
  rw [exec_bind, exec_bind, exec_getDb]
  dsimp only
  rw [exec_failIf, if_neg (by rw [h.initialized, h.sound]; decide)]
  dsimp only
  rw [exec_bind, exec_getDb]
  dsimp only
  rw [exec_bind, exec_liftResult, h.token]

/-- Behind the lock a call is its body. -/
lemma exec_readerCall {raw index : ℕ} {w : World} (h : Reaches cfg raw index w) (c : ReaderCall) :
    exec (perform cfg (c.call raw)) w = exec (c.body index) w := by
  cases c with
  | peek =>
      show exec (Reply.data <$> withReader cfg raw peekValueUnsafe) w =
        exec (Reply.data <$> peekValueUnsafe index) w
      rw [exec_map, exec_map, exec_withReader h]
  | readInto size =>
      show exec (Reply.data <$> withReader cfg raw fun i => readValueIntoUnsafe i size) w =
        exec (Reply.data <$> readValueIntoUnsafe index size) w
      rw [exec_map, exec_map, exec_withReader h]
  | consume size =>
      show exec (do withReader cfg raw fun i => consumeValueUnsafe i size; return Reply.done) w =
        exec (do consumeValueUnsafe index size; return Reply.done) w
      rw [exec_bind, exec_bind, exec_withReader h]
  | seek offset =>
      show exec (do withReader cfg raw fun i => seekValueUnsafe i offset; return Reply.done) w =
        exec (do seekValueUnsafe index offset; return Reply.done) w
      rw [exec_bind, exec_bind, exec_withReader h]

/-! ## What each call does -/

section
variable {w₀ : World} {index : ℕ} {reference : ValueRef} {r : ValueReaderSlot}
  {V : ℕ → UInt8 → Prop}

/-- A read to the end whose rolling checksum is not the one of the value. -/
structure Mismatch (reference : ValueRef) (r : ValueReaderSlot) : Prop where
  enabled : r.checksumEnabled = true
  atEnd : r.cursor = r.valueSize
  differs : ~~~ r.checksumState ≠ reference.valueChecksum

lemma triple_checkReaderEnd (hr : r.ReaderOf reference) :
    Triple (Reached w₀ index r) (checkReaderEnd index) (fun _ => Reached w₀ index r)
      (fun _ w => Reached w₀ index r w ∧ Mismatch reference r) := by
  unfold checkReaderEnd
  refine .bind (Q := fun db w => Reached w₀ index r w ∧ db.valueReaders index = r)
    (Triple.getDb fun w hw => ⟨hw, hw.slot⟩) fun db => .of_pure (fun w hw => hw.2) fun hdb => ?_
  rw [hdb]
  refine Triple.failIf (fun w hw _ => hw.1) fun w hw hc => ⟨hw.1, hc.1, hc.2.1, ?_⟩
  have hdiffers := hc.2.2
  rw [hr.external, Option.any_some, bne_iff_ne] at hdiffers
  exact hdiffers

/-- The bytes behind the cursor, and nothing at the end of the value. -/
lemma triple_peekValueUnsafe (hr : r.ReaderOf reference)
    (hV : ∀ position byte, Verified w₀ reference position byte → V position byte) :
    Triple (Reached w₀ index r) (peekValueUnsafe index)
      (fun data w => ∃ r', Reached w₀ index r' w ∧
        if r.cursor < r.valueSize then Focused V reference r r' ∧ data = r'.available
        else r' = r ∧ data = [])
      (fun _ w => r.cursor < r.valueSize ∧ Broken w₀ index reference r 1 w) := by
  unfold peekValueUnsafe
  refine .bind (Q := fun db w => Reached w₀ index r w ∧ db.valueReaders index = r)
    (Triple.getDb fun w hw => ⟨hw, hw.slot⟩) fun db => .of_pure (fun w hw => hw.2) fun hdb => ?_
  rw [hdb]
  refine .ite (fun hcursor => ?_) fun hend => .pure fun w hw => ⟨r, hw.1, ?_⟩
  · simp only [if_pos hcursor]
    refine .bind ((triple_ensureBuffered hr hcursor Nat.one_pos hV).conseq (fun _ hw => hw.1)
      (fun _ _ hw => hw) fun _ _ hw => ⟨hcursor, hw⟩) fun _ => .of_exists fun r' => ?_
    refine .bind (Q := fun db w => Reached w₀ index r' w ∧ Focused V reference r r' ∧
      db.valueReaders index = r') (Triple.getDb fun w hw => ⟨hw.1, hw.2, hw.1.slot⟩) fun db =>
      .pure fun w hw => ⟨r', hw.1, hw.2.1, by rw [hw.2.2]⟩
  · rw [if_neg hend]
    exact ⟨rfl, rfl⟩

/-- **`read_value_into`** returns what is wanted or left, unless a refill or the final test
fails. -/
lemma triple_readValueIntoUnsafe (hr : r.ReaderOf reference) (wanted : ℕ)
    (hV : ∀ position byte, Verified w₀ reference position byte → V position byte) :
    Triple (Reached w₀ index r) (readValueIntoUnsafe index wanted)
      (Taken V w₀ index reference r (min wanted (r.valueSize - r.cursor)))
      (fun _ w => Broken w₀ index reference r (min wanted (r.valueSize - r.cursor)) w ∨
        ∃ data r', Reached w₀ index r' w ∧ Progress V reference r data r' ∧
          data.length = min wanted (r.valueSize - r.cursor) ∧ Mismatch reference r') := by
  unfold readValueIntoUnsafe
  refine .bind ((triple_readValueLoop hV wanted hr le_rfl).conseq (fun _ hw => hw)
    (fun _ _ hw => hw) fun _ _ hw => Or.inl hw) fun data => .of_exists fun r' =>
    .of_pure (fun w hw => hw.2) fun hdata => ?_
  refine .bind ((triple_checkReaderEnd hdata.1.reader).conseq (fun _ hw => hw.1) (fun _ _ hw => hw)
    fun _ w hw => Or.inr ⟨data, r', hw.1, hdata.1, hdata.2, hw.2⟩) fun _ =>
    .pure fun w hw => ⟨r', hw, hdata⟩

/-- The slot behind a skip: without a checksum to maintain only the cursor moves. -/
def skipped (r : ValueReaderSlot) (size : ℕ) : ValueReaderSlot := { r with cursor := r.cursor + size }

/-- **`consume_value`** refuses to pass the end, skips, or reads what it passes. -/
lemma triple_consumeValueUnsafe (hr : r.ReaderOf reference) (size : ℕ)
    (hV : ∀ position byte, Verified w₀ reference position byte → V position byte) :
    Triple (Reached w₀ index r) (consumeValueUnsafe index size)
      (fun _ w => size ≤ r.valueSize - r.cursor ∧ if r.checksumEnabled then
        ∃ data, Taken V w₀ index reference r size data w else Reached w₀ index (skipped r size) w)
      (fun _ w => Reached w₀ index r w ∧ r.valueSize - r.cursor < size ∨
        size ≤ r.valueSize - r.cursor ∧ r.checksumEnabled = true ∧
          (Broken w₀ index reference r size w ∨ ∃ data r', Reached w₀ index r' w ∧
            Progress V reference r data r' ∧ data.length = size ∧ Mismatch reference r')) := by
  unfold consumeValueUnsafe
  refine .bind (Q := fun db w => Reached w₀ index r w ∧ db.valueReaders index = r)
    (Triple.getDb fun w hw => ⟨hw, hw.slot⟩) fun db => .of_pure (fun w hw => hw.2) fun hdb => ?_
  rw [hdb]
  refine .bind (Q := fun _ w => Reached w₀ index r w ∧ size ≤ r.valueSize - r.cursor)
    (Triple.failIf (fun w hw hc => ⟨hw.1, not_lt.mp hc⟩) fun w hw hc => Or.inl ⟨hw.1, hc⟩) fun _ =>
    .of_pure (fun w hw => hw.2) fun hsize => ?_
  refine .ite (fun hc => ?_) fun hc => ?_
  · simp only [hc.2, if_true]
    refine .bind ((triple_consumeLoop hV size hr le_rfl hsize).conseq (fun _ hw => hw.1)
      (fun _ _ hw => hw) fun _ _ hw => Or.inr ⟨hsize, trivial, Or.inl hw⟩) fun _ =>
      .of_exists fun data => .of_exists fun r' => .of_pure (fun w hw => hw.2) fun hdata => ?_
    exact (triple_checkReaderEnd hdata.1.reader).conseq (fun _ hw => hw.1)
      (fun _ w hw => ⟨hsize, data, r', hw, hdata⟩)
      fun _ w hw => Or.inr ⟨hsize, trivial, Or.inr ⟨data, r', hw.1, hdata.1, hdata.2, hw.2⟩⟩
  · have hdisabled : r.checksumEnabled = false := by
      rw [hr.external] at hc
      simpa using hc
    simp only [hdisabled, Bool.false_eq_true, if_false, false_and, and_false, or_false]
    have hskip : (skipped r size).ReaderOf reference := ⟨hr.used, hr.external, hr.size, hr.window⟩
    refine .bind (Q := fun _ => Reached w₀ index (skipped r size))
      (triple_setReader fun w hw => ?_) fun _ => (triple_checkReaderEnd hskip).conseq
        (fun _ hw => hw) (fun _ w hw => ⟨hsize, hw⟩) fun _ w hw => ?_
    · have hset := hw.1.set (skipped r size)
      simp only [skipped, hdisabled] at hset ⊢
      exact hset
    · have henabled := hw.2.enabled
      rw [show (skipped r size).checksumEnabled = r.checksumEnabled from rfl, hdisabled] at henabled
      cases henabled

/-- The slot behind a seek. -/
def sought (r : ValueReaderSlot) (offset : ℕ) : ValueReaderSlot :=
  { r with
    cursor := offset
    checksumState := if offset = 0 then crcInit else r.checksumState
    checksumEnabled := offset = 0 || offset = r.cursor && r.checksumEnabled }

/-- **`seek_value`** only moves the cursor: a new pass is begun at the first byte and given up
anywhere else. -/
lemma triple_seekValueUnsafe (hr : r.ReaderOf reference) (offset : ℕ) :
    Triple (Reached w₀ index r) (seekValueUnsafe index offset)
      (fun _ w => offset ≤ r.valueSize ∧ Reached w₀ index (sought r offset) w)
      (fun _ w => r.valueSize < offset ∧ Reached w₀ index r w) := by
  unfold seekValueUnsafe
  refine .bind (Q := fun db w => Reached w₀ index r w ∧ db.valueReaders index = r)
    (Triple.getDb fun w hw => ⟨hw, hw.slot⟩) fun db => .of_pure (fun w hw => hw.2) fun hdb => ?_
  rw [hdb]
  refine .bind (Q := fun _ w => Reached w₀ index r w ∧ offset ≤ r.valueSize)
    (Triple.failIf (fun w hw hc => ⟨hw.1, not_lt.mp hc⟩) fun w hw hc => ⟨hc, hw.1⟩) fun _ =>
    triple_setReader fun w hw => ⟨hw.2, ?_⟩
  have hset : ∀ r', r' = sought r offset → Reached w₀ index (sought r offset) { w with
      db := { w.db with valueReaders := Function.update w.db.valueReaders index r' } } := by
    rintro _ rfl
    exact hw.1.set _
  refine hset _ ?_
  unfold sought
  rw [hr.external]
  by_cases hzero : offset = 0
  · simp [hzero]
  · by_cases hcursor : offset = r.cursor
    · have hne : ¬ r.cursor = 0 := hcursor ▸ hzero
      simp [hcursor, hne, hr.external]
    · simp [hzero, hcursor]

end

end On9kvdb
