import On9kvdb.Lib.GenerationSlots
import On9kvdb.Store.Api

/-!
# Tokens and the resources they stand for

Handles, transactions, readers and writers are named by tokens: a slot and a generation packed into
one number.  This file says what the tokens are for, without slots: a `Registry` is the set of
tokens of each kind whose resource is open, and `Registry.step` is how a call and its outcome change
it.  A token enters when a call returns it, and leaves when a call ends its resource.

`Tokens` is the part of an instance that the checks of tokens depend on, and `Tokens.slots` is the
table of generational slots behind each kind.
-/

namespace On9kvdb

open Generational

variable {cfg : Config}

/-! ## The registry -/

/-- The kinds of tokens. -/
inductive TokenKind
  | handle
  | transaction
  | reader
  | writer
  deriving DecidableEq

/-- The kind of the token a call returns. -/
def Call.issues : Call → Option TokenKind
  | .openNamespace _ _ => some .handle
  | .begin _ => some .transaction
  | .openValue _ _ => some .reader
  | .beginValueWrite _ _ _ => some .writer
  | _ => none

/-- A call and what came of it.  `blocked` tells that the instance was closed or faulted, so that
the call could do nothing behind the lock. -/
structure Event where
  call : Call
  blocked : Bool
  outcome : Except EspErr Reply

/-- The token of this kind that the call has returned. -/
def Event.issued (kind : TokenKind) (e : Event) : Option ℕ :=
  match e.outcome with
  | .ok (.token raw) => if e.call.issues = some kind then some raw else none
  | _ => none

/-- The open tokens of each kind. -/
abbrev Registry := TokenKind → Finset ℕ

namespace Registry

/-- A new token. -/
def enter (r : Registry) (kind : TokenKind) (raw : ℕ) : Registry :=
  Function.update r kind (insert raw (r kind))

/-- A token whose resource has ended. -/
def leave (r : Registry) (kind : TokenKind) (raw : ℕ) : Registry :=
  Function.update r kind ((r kind).erase raw)

variable (cfg) in
/-- **The life of tokens.**  A returned token enters.  A handle, a reader, a transaction and an
aborted writer leave when the call that ends them succeeds; a finished writer leaves unless it was
refused; a `set` of an external value takes the writer for itself; `deinit` ends everything. -/
def step (r : Registry) (e : Event) : Registry :=
  match e.call, e.outcome with
  | .set _ key value, _ =>
      if e.blocked = true ∨ validateBytes key = false ∨ maxValueLen < value.length ∨
        value.length ≤ cfg.inlineValueLen then r else Function.update r .writer ∅
  | .finishValueWrite raw, outcome =>
      if outcome = .error .invalidState then r else r.leave .writer raw
  | .closeHandle raw, .ok _ => r.leave .handle raw
  | .commit raw, .ok _ => r.leave .transaction raw
  | .abort raw, .ok _ => r.leave .transaction raw
  | .closeReader raw, .ok _ => r.leave .reader raw
  | .abortValueWrite raw, .ok _ => r.leave .writer raw
  | .deinit _, .ok _ => fun _ => ∅
  | call, .ok (.token raw) => (call.issues.map fun kind => r.enter kind raw).getD r
  | _, _ => r

end Registry

/-! ## Acceptance -/

variable (cfg) in
/-- Whether the check of this kind of token accepts it. -/
def accepts (db : Db) : TokenKind → ℕ → Bool
  | .handle, raw => (getHandleSlotUnsafe cfg db raw).isOk
  | .transaction, raw => (getTransactionUnsafe cfg db raw).isOk
  | .reader, raw => (getValueReaderUnsafe cfg db raw).isOk
  | .writer, raw => (getValueWriterUnsafe db raw).isOk

/-- The part of an instance behind its tokens.  Of the transaction, what it has staged is left
out. -/
structure Tokens where
  handles : ℕ → HandleSlot
  transaction : TransactionSlot
  readers : Slots ℕ
  writer : Slots Unit
  handleCounter : ℕ
  transactionCounter : ℕ

/-- The tokens of an instance. -/
def Db.tokens (db : Db) : Tokens where
  handles := db.handles
  transaction := { db.transaction with mutations := [], stagedValueBytes := 0 }
  readers := ⟨fun i => (db.valueReaders i).used, fun i => (db.valueReaders i).generation⟩
  writer := ⟨fun _ => db.valueWriter.active, fun _ => db.valueWriter.generation⟩
  handleCounter := db.handleGenerationCounter
  transactionCounter := db.transactionGenerationCounter

namespace Tokens

/-- The handle of the active transaction is the one handle that is marked. -/
structure Linked (cfg : Config) (t : Tokens) : Prop where
  marked : ∀ i, (t.handles i).transactionActive = true ↔
    t.transaction.active = true ∧ t.transaction.handleSlotIndex = i
  owner : t.transaction.active = true →
    t.transaction.handleSlotIndex < cfg.limits.maxOpenHandles ∧
    (t.handles t.transaction.handleSlotIndex).used = true ∧
    (t.handles t.transaction.handleSlotIndex).generation = t.transaction.handleGeneration

variable (cfg) in
/-- The slots behind the tokens of one kind; transactions and writers have one slot. -/
def slots (t : Tokens) : TokenKind → Slots ℕ
  | .handle => ⟨fun i => decide (i < cfg.limits.maxOpenHandles) && (t.handles i).used,
      fun i => (t.handles i).generation⟩
  | .transaction => ⟨fun i => i == 0 && t.transaction.active, fun _ => t.transaction.generation⟩
  | .reader => ⟨fun i => decide (i < cfg.maxValueReaders) && t.readers.used i, t.readers.tag⟩
  | .writer => ⟨fun i => i == 0 && t.writer.used (), fun _ => t.writer.tag ()⟩

/-- The counter that a kind of token takes its generations from. -/
def counter (t : Tokens) : TokenKind → ℕ
  | .transaction => t.transactionCounter
  | _ => t.handleCounter

/-! ## What calls do to it -/

/-- `open`. -/
def openHandle (t : Tokens) (index : ℕ) (mode : OpenMode) (name : Bytes) : Tokens :=
  { t with
    handleCounter := nextGeneration t.handleCounter
    handles := Function.update t.handles index
      { generation := t.handleCounter, used := true, mode := mode, namespaceName := name } }

/-- `close` of a handle. -/
def closeHandle (t : Tokens) (index : ℕ) : Tokens :=
  { t with handles := Function.update t.handles index { generation := (t.handles index).generation } }

/-- Whether a transaction belongs to a handle. -/
def mark (t : Tokens) (index : ℕ) (active : Bool) : Tokens :=
  { t with
    handles := Function.update t.handles index
      { t.handles index with transactionActive := active } }

/-- `begin`. -/
def begin (t : Tokens) (index : ℕ) : Tokens :=
  { t.mark index true with
    transactionCounter := nextGeneration t.transactionCounter
    transaction :=
      { generation := t.transactionCounter
        handleSlotIndex := index
        handleGeneration := (t.handles index).generation
        active := true } }

/-- `clear_transaction_unsafe`, for a transaction that belongs to a handle. -/
def clearTransaction (t : Tokens) : Tokens :=
  { t.mark t.transaction.handleSlotIndex false with
    transaction := { generation := t.transaction.generation } }

/-- `open_value_unsafe`. -/
def openReader (t : Tokens) (index : ℕ) : Tokens :=
  { t with
    handleCounter := nextGeneration t.handleCounter
    readers := t.readers.put index t.handleCounter }

/-- `close` of a reader. -/
def closeReader (t : Tokens) (index : ℕ) : Tokens := { t with readers := t.readers.retire index }

/-- `begin_value_write_unsafe`. -/
def openWriter (t : Tokens) : Tokens :=
  { t with
    handleCounter := nextGeneration t.handleCounter
    writer := t.writer.put () t.handleCounter }

/-- The writer slot is given back. -/
def closeWriter (t : Tokens) : Tokens := { t with writer := t.writer.retire () }

end Tokens

end On9kvdb
