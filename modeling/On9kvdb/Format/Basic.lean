import Mathlib.Data.List.Basic
import Mathlib.Tactic

/-!
# Layout constants and shared vocabulary

Sizes, status codes and the two numeric idioms every other file uses: rounding up to an
alignment, and 64-bit counters that wrap.  The constants are those of `on9kvdb_defs.hpp`, under
the same names.  Sizes and offsets are natural numbers; a place where the code relies on a fixed
width says so explicitly (`sub64`, `uint64Max`).
-/

namespace On9kvdb

/-- A byte string with an explicit length: names, keys, values and payloads. -/
abbrev Bytes := List UInt8

/-- The `esp_err_t` results the database distinguishes.  `ioError` stands for whatever transport
error the block device reports. -/
inductive EspErr
  | noMem
  | invalidArg
  | invalidState
  | invalidSize
  | notFound
  | invalidCrc
  | invalidVersion
  | invalidResponse
  | notAllowed
  | ioError
  deriving DecidableEq, Repr

/-- `format_status`, less `ok`: the reasons a decoder rejects a record. -/
inductive FormatStatus
  | invalidArgument
  | invalidSize
  | invalidMagic
  | invalidRevision
  | newVersion
  | invalidKind
  | invalidGeneration
  | corrupt
  deriving DecidableEq, Repr

/-- The two statuses the readers report as `ESP_ERR_INVALID_VERSION`. -/
def FormatStatus.isVersion : FormatStatus → Bool
  | .newVersion => true
  | .invalidRevision => true
  | _ => false

/-- `if (condition) return error;` in a computation that only produces a result. -/
def rejectIf (condition : Prop) [Decidable condition] (error : EspErr) : Except EspErr Unit :=
  if condition then .error error else .ok ()

section
variable {α β : Type} {condition : Prop} [Decidable condition] {error : EspErr}

@[simp] lemma ok_bind (a : α) (f : α → Except EspErr β) : (Except.ok a >>= f) = f a := rfl

@[simp] lemma error_bind (e : EspErr) (f : α → Except EspErr β) :
    (Except.error e >>= f) = .error e := rfl

@[simp] lemma pure_eq_ok (a : α) : (pure a : Except EspErr α) = .ok a := rfl

/-- A sequence succeeds when both parts do. -/
lemma bind_eq_ok {x : Except EspErr α} {f : α → Except EspErr β} {b : β} :
    (x >>= f) = .ok b ↔ ∃ a, x = .ok a ∧ f a = .ok b := by
  cases x with
  | ok a => simp
  | error e => simp

/-- A sequence fails when one of its parts does. -/
lemma bind_eq_error {x : Except EspErr α} {f : α → Except EspErr β} {e : EspErr} :
    (x >>= f) = .error e ↔ x = .error e ∨ ∃ a, x = .ok a ∧ f a = .error e := by
  cases x with
  | ok a => simp
  | error e => simp

lemma rejectIf_of (h : condition) : rejectIf condition error = .error error := if_pos h

lemma rejectIf_of_not (h : ¬ condition) : rejectIf condition error = .ok () := if_neg h

lemma rejectIf_eq_ok {u : Unit} : rejectIf condition error = .ok u ↔ ¬ condition := by
  unfold rejectIf
  split_ifs with h <;> simp [h]

lemma rejectIf_eq_error {e : EspErr} :
    rejectIf condition error = .error e ↔ condition ∧ e = error := by
  unfold rejectIf
  split_ifs with h
  · simp [h, eq_comm]
  · simp [h]

end

/-! ## Constants of `on9kvdb_defs.hpp` -/

@[simp] def maxNameLen : ℕ := 128
@[simp] def uint16Max : ℕ := 2 ^ 16 - 1
@[simp] def uint32Max : ℕ := 2 ^ 32 - 1
@[simp] def uint64Max : ℕ := 2 ^ 64 - 1
@[simp] def maxValueLen : ℕ := uint32Max - 1
@[simp] def maxTransactionMutations : ℕ := 10
@[simp] def maxStorageObjectSize : ℕ := uint32Max
@[simp] def formatAlignment : ℕ := 4096
@[simp] def manifestSlotSize : ℕ := formatAlignment
@[simp] def manifestSlotCount : ℕ := 2
@[simp] def manifestFileSize : ℕ := manifestSlotSize * manifestSlotCount
@[simp] def identitySlotCount : ℕ := 2
@[simp] def identityRegionSize : ℕ := 8192
@[simp] def walFileCount : ℕ := 2
@[simp] def valueBankCount : ℕ := 2
@[simp] def walHeaderSlotCount : ℕ := 2
@[simp] def walRecordRegionOffset : ℕ := 16384
@[simp] def walFrameSize : ℕ := formatAlignment
@[simp] def walFrameHeaderSize : ℕ := 64
@[simp] def walFramePayloadCapacity : ℕ := walFrameSize - walFrameHeaderSize
@[simp] def maxTableCount : ℕ := 16
@[simp] def tableHeaderSlotCount : ℕ := 2
@[simp] def tableHeaderRegionSize : ℕ := 8192
@[simp] def tableDataRegionOffset : ℕ := 16384
@[simp] def tableFooterSlotSize : ℕ := formatAlignment
@[simp] def tableBlockHeaderSize : ℕ := 64
@[simp] def tableIndexHeaderSize : ℕ := 64
@[simp] def tableEntryHeaderSize : ℕ := 24
@[simp] def valueRefEncodedSize : ℕ := 24
@[simp] def tableIndexEntryHeaderSize : ℕ := 16
@[simp] def valueChunkSize : ℕ := formatAlignment
@[simp] def valueChunkPayloadSize : ℕ := valueChunkSize - 64
@[simp] def maxHandleGeneration : ℕ := uint64Max / 2 ^ 9

/-! ## Alignment -/

/-- `(size + 7U) & ~7U`: every durable record is rounded up to eight bytes. -/
def align8 (n : ℕ) : ℕ := (n + 7) / 8 * 8

lemma le_align8 (n : ℕ) : n ≤ align8 n := by
  unfold align8; omega

lemma align8_lt (n : ℕ) : align8 n < n + 8 := by
  unfold align8; omega

lemma align8_mono {a b : ℕ} (h : a ≤ b) : align8 a ≤ align8 b := by
  unfold align8; omega

/-- The number of 4032-byte chunks a value of `n` bytes occupies. -/
def chunkCount (n : ℕ) : ℕ := (n + valueChunkPayloadSize - 1) / valueChunkPayloadSize

/-! ## Wrapping counters

The statistics are `uint64_t` and are updated without checks, so a subtraction below zero wraps.
-/

/-- `lhs - rhs` on `uint64_t`. -/
def sub64 (a b : ℕ) : ℕ := (a + 2 ^ 64 - b % 2 ^ 64) % 2 ^ 64

/-- `lhs + rhs` on `uint64_t`. -/
def add64 (a b : ℕ) : ℕ := (a + b) % 2 ^ 64

lemma sub64_of_le {a b : ℕ} (h : b ≤ a) (ha : a < 2 ^ 64) : sub64 a b = a - b := by
  unfold sub64; omega

lemma add64_of_lt {a b : ℕ} (h : a + b < 2 ^ 64) : add64 a b = a + b := by
  unfold add64; omega

end On9kvdb
