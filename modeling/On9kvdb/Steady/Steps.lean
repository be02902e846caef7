import On9kvdb.Commit.Recover

/-!
# The steps of the stored state

What the calls on an open instance do to its stored state: the manifest, the memtable and the next
sequence in memory, and the manifest copies on the media.  `Turn` lists the steps there are, with
all that is known about each: most calls leave the stored state alone, a publication replaces one
manifest copy or latches the fault, a finished value moves the tail of its bank, and a commit
applies its mutations under the next sequence.  An invariant of the stored state is checked against
`Turn` only.

`Progresses` says of a method that it is a sequence of such steps, none of which comes behind a
latched fault.
-/

namespace On9kvdb

open Exceptional

variable {cfg : Config} {α β : Type}

/-! ## Steps -/

/-- The members of an instance that its stored state consists of. -/
structure Stored where
  initialized : Bool
  storageFaulted : Bool
  manifest : ManifestRecord
  memtable : Memtable
  nextTransactionSequence : ℕ

def Db.stored (db : Db) : Stored where
  initialized := db.initialized
  storageFaulted := db.storageFaulted
  manifest := db.manifest
  memtable := db.memtable
  nextTransactionSequence := db.nextTransactionSequence

/-- Any write but that of a manifest copy. -/
def NoCopy : Write → Prop
  | .manifestCopy _ _ => False
  | _ => True

/-- The stored state stays, and no manifest copy is written. -/
structure Quiet (w w' : World) : Prop where
  stored : w'.db.stored = w.db.stored
  dev : w.dev.Steps NoCopy w'.dev

instance : Std.Refl Quiet := ⟨fun _ => ⟨rfl, .refl⟩⟩

instance : IsTrans World Quiet :=
  ⟨fun _ _ _ h₁ h₂ => ⟨h₂.stored.trans h₁.stored, h₁.dev.trans h₂.dev⟩⟩

/-- The manifest a compaction publishes, as far as it is known beforehand. -/
structure Compacted (db : Db) (m : ManifestRecord) : Prop where
  rest : m = { db.manifest with
    tables := m.tables
    activeTableBank := 1 - db.manifest.activeTableBank
    activeValueBank := m.activeValueBank
    valueBankGeneration := m.valueBankGeneration
    valueBankTail := m.valueBankTail
    safeCheckpointSequence := db.nextTransactionSequence - 1
    nextTableGeneration := m.nextTableGeneration
    walGeneration := m.walGeneration }
  generations : db.manifest.nextTableGeneration ≤ m.nextTableGeneration

variable (cfg) in
/-- The new reference of a flush: its greatest sequence is the one of the memtable. -/
structure FlushedTo (db : Db) (slot : ℕ) (reference : TableReference) : Prop where
  free : db.manifest.tables slot = none
  attained : ∃ r ∈ memtableRecords cfg db, r.transactionSequence = reference.maxSequence
  greatest : ∀ r ∈ memtableRecords cfg db, r.transactionSequence ≤ reference.maxSequence

variable (cfg) in
/-- The manifests that are published, each with the memtable behind its publication. -/
inductive Edit (db : Db) : ManifestRecord → Memtable → Prop
  | same : Edit db db.manifest db.memtable
  | rotated (walGeneration : ℕ → ℕ) : Edit db
      { db.manifest with
        activeWalSlot := 1 - db.manifest.activeWalSlot
        walGeneration := walGeneration } db.memtable
  | flushed {slot : ℕ} {reference : TableReference} (h : FlushedTo cfg db slot reference) :
      Edit db (flushedManifest db.manifest slot reference) .empty
  | compacted {m : ManifestRecord} (h : Compacted db m) : Edit db m .empty

/-- The device on which a manifest has been published. -/
def PublishedOn (d d' : Device) (m : ManifestRecord) (state : ManifestState) : Prop :=
  ∃ h : publishable m (m.generation + 1) state = true, d.fault = .none ∧
    (d.write (publication h)).2.fault = .none ∧ d' = (d.write (publication h)).2.flushed

/-- The device on which the publication of a manifest has failed. -/
def FailedOn (d d' : Device) (m : ManifestRecord) (state : ManifestState) : Prop :=
  ∃ h : publishable m (m.generation + 1) state = true, PublicationFailed d d' h

variable (cfg) in
/-- The tail of the active value bank behind a finished value. -/
structure TailMoved (m : ManifestRecord) (tail : ℕ) : Prop where
  grows : m.bankPlace.tail ≤ tail
  bounded : tail ≤ cfg.geometry.valueBankSize
  aligned : (tail - m.bankPlace.tail) % valueChunkSize = 0

variable (cfg) in
/-- The memtable behind mutations that have been applied under a sequence. -/
structure AppliedUnder (sequence : ℕ) (mt mt' : Memtable) : Prop where
  records : ∀ bucket r, mt'.buckets bucket = some r →
    r.transactionSequence = sequence ∨ mt.buckets bucket = some r
  newest : ∃ bucket < cfg.memtableEntryCount, ∃ r, mt'.buckets bucket = some r ∧
    r.transactionSequence = sequence

variable (cfg) in
/-- One step of the stored state. -/
inductive Turn (w w' : World) : Prop
  | quiet (h : Quiet w w')
  | latched (stored : w'.db.stored = { w.db.stored with storageFaulted := true })
      (dev : w'.dev = w.dev)
  | published {m : ManifestRecord} {memtable : Memtable} {state : ManifestState}
      (healthy : w.db.storageFaulted = false) (edit : Edit cfg w.db m memtable)
      (ready : w.db.manifest.state = .ready → state = .ready)
      (dev : PublishedOn w.dev w'.dev m state)
      (stored : w'.db.stored = { w.db.stored with
        manifest := nextManifest m (m.generation + 1) state
        memtable := memtable })
  | failed {m : ManifestRecord} {memtable : Memtable} {state : ManifestState}
      (healthy : w.db.storageFaulted = false) (edit : Edit cfg w.db m memtable)
      (ready : w.db.manifest.state = .ready → state = .ready)
      (dev : FailedOn w.dev w'.dev m state)
      (stored : w'.db.stored = { w.db.stored with storageFaulted := true })
  | grown {tail : ℕ} (h : TailMoved cfg w.db.manifest tail)
      (stored : w'.db.stored = { w.db.stored with manifest := { w.db.manifest with
        valueBankTail := Function.update w.db.manifest.valueBankTail
          w.db.manifest.activeValueBank tail } })
      (dev : w'.dev = w.dev)
  | applied {memtable : Memtable}
      (h : AppliedUnder cfg w.db.nextTransactionSequence w.db.memtable memtable)
      (stored : w'.db.stored = { w.db.stored with
        memtable := memtable
        nextTransactionSequence := w.db.nextTransactionSequence + 1 })
      (dev : w'.dev = w.dev)

variable (cfg) in
/-- A sequence of steps. -/
abbrev Turns : World → World → Prop := Relation.ReflTransGen (Turn cfg)

/-- **What every step keeps, sequences of steps keep.** -/
theorem Turns.invariant {P : World → Prop} (hP : ∀ w w', P w → Turn cfg w w' → P w') {w w' : World}
    (h : Turns cfg w w') (hw : P w) : P w' := by
  induction h with
  | refl => exact hw
  | tail _ hturn ih => exact hP _ _ ih hturn

lemma Turns.quiet {w w' w'' : World} (h : Turns cfg w w') (hquiet : Quiet w' w'') :
    Turns cfg w w'' := h.tail (.quiet hquiet)

/-! ## Quiet methods -/

lemma Quiet.of_writing {S : Write → Prop} {w w' : World} (h : Writing SameButCaches S w w')
    (hS : ∀ write, S write → NoCopy write) : Quiet w w' := by
  have hdb := h.db
  unfold SameButCaches at hdb
  refine ⟨?_, h.dev.mono hS⟩
  rw [hdb]
  rfl

lemma Quiet.of_writing_eq {S : Write → Prop} {w w' : World} (h : Writing Eq S w w')
    (hS : ∀ write, S write → NoCopy write) : Quiet w w' :=
  .of_writing (h.mono (fun _ _ hdb => hdb ▸ refl_of SameButCaches _) fun _ hw => hw) hS

lemma Quiet.of_caching {w w' : World} (h : Caching w w') : Quiet w w' :=
  .of_writing (S := fun _ => False) (.of_caching h) fun _ hw => hw.elim

lemma noCopy_of_table {slot : ℕ} {w : Write} (h : IntoTable slot w) : NoCopy w := by
  cases w with
  | manifestCopy => exact h.elim
  | _ => trivial

lemma noCopy_of_bank {bank : ℕ} {w : Write} (h : IntoBank bank w) : NoCopy w := by
  cases w with
  | manifestCopy => exact h.elim
  | _ => trivial

lemma noCopy_of_output {slots : List ℕ} {bank : ℕ} {w : Write} (h : IntoOutput slots bank w) :
    NoCopy w := by
  rcases h with ⟨slot, -, hslot⟩ | hbank
  · exact noCopy_of_table hslot
  · exact noCopy_of_bank hbank

lemma Quiet.tick (w : World) : Quiet w { w with dev := w.dev.tick } := ⟨rfl, .clock _ .refl⟩

lemma quiet_readStorage {decode : Db → Media → Except EspErr α} :
    Within Quiet (readStorage decode) := Within.readStorage Quiet.tick

lemma quiet_writeStorage {write : Write} (h : NoCopy write) :
    Within Quiet (writeStorage write) := fun w =>
  .of_writing_eq (Within.writeStorage h w) fun _ hw => hw

lemma quiet_syncStorage : Within Quiet syncStorage := fun w =>
  .of_writing_eq (Within.syncStorage w) fun _ hw => hw

lemma quiet_modifyDb {f : Db → Db} (h : ∀ db, (f db).stored = db.stored) :
    Within Quiet (modifyDb f) := Within.modifyDb fun w => ⟨h w.db, .refl⟩

lemma quiet_of_turning {index : ℕ} {x : DbM α} (h : Within (Turning index) x) :
    Within Quiet x := fun w => by
  refine ⟨?_, ?_⟩
  · rw [(h w).db]
    rfl
  · rw [(h w).dev]
    exact .clock _ .refl

/-- A quiet method, followed from the state the quiet steps began in. -/
lemma triple_quiet {x : DbM α} (hx : Within Quiet x) {w₀ : World} :
    Triple (Quiet w₀) x (fun _ => Quiet w₀) (fun _ => Turns cfg w₀) :=
  hx.triple (fun _ _ _ hw h => trans_of Quiet hw h) fun _ _ _ hw h =>
    .single (.quiet (trans_of Quiet hw h))

/-- The instance is replaced by what a computation on it returns. -/
lemma quiet_replace {f : Db → Except EspErr Db}
    (h : ∀ db db', f db = .ok db' → db'.stored = db.stored) :
    Within Quiet (do let db ← getDb; let db ← liftResult (f db); modifyDb fun _ => db) := fun w => by
  rw [exec_bind, exec_getDb]
  dsimp only
  rw [exec_bind, exec_liftResult]
  cases hf : f w.db with
  | error e => exact refl_of Quiet w
  | ok db => exact ⟨h _ _ hf, .refl⟩

/-! ## Methods that progress -/

variable (cfg) in
/-- The steps from `w₀` on have led to `w`, without a fault. -/
def Going (w₀ w : World) : Prop := Turns cfg w₀ w ∧ w.db.storageFaulted = false

lemma Quiet.going {w₀ w w' : World} (h : Quiet w w') (hw : Going cfg w₀ w) : Going cfg w₀ w' :=
  ⟨hw.1.quiet h, (congrArg Stored.storageFaulted h.stored).trans hw.2⟩

variable (cfg) in
/-- The method is a sequence of steps on a healthy instance, which it leaves healthy unless it
fails. -/
def Progresses (x : DbM α) : Prop :=
  ∀ w₀, Triple (Going cfg w₀) x (fun _ => Going cfg w₀) (fun _ => Turns cfg w₀)

namespace Progresses

variable {x : DbM α}

lemma of_quiet (h : Within Quiet x) : Progresses cfg x := fun _ =>
  h.triple (fun _ _ _ hw hquiet => hquiet.going hw) fun _ _ _ hw hquiet => hw.1.quiet hquiet

lemma pure {a : α} : Progresses cfg (Pure.pure a : DbM α) := fun _ => .pure fun _ hw => hw

lemma throw {e : EspErr} : Progresses cfg (MonadExcept.throw e : DbM α) := fun _ =>
  .throw fun _ hw => hw.1

lemma bind {f : α → DbM β} (hx : Progresses cfg x) (hf : ∀ a, Progresses cfg (f a)) :
    Progresses cfg (x >>= f) := fun w₀ => .bind (hx w₀) fun a => hf a w₀

lemma ite {c : Prop} [Decidable c] {y : DbM α} (hx : Progresses cfg x) (hy : Progresses cfg y) :
    Progresses cfg (if c then x else y) := fun w₀ => .ite (fun _ => hx w₀) fun _ => hy w₀

lemma getDb : Progresses cfg On9kvdb.getDb := .of_quiet Within.getDb

lemma failIf {condition : Prop} [Decidable condition] {error : EspErr} :
    Progresses cfg (On9kvdb.failIf condition error) := .of_quiet Within.failIf

lemma liftResult {r : Except EspErr α} : Progresses cfg (On9kvdb.liftResult r) :=
  .of_quiet Within.liftResult

lemma onError {undo : DbM Unit} (hx : Progresses cfg x) (hundo : Within Quiet undo) :
    Progresses cfg (On9kvdb.onError x undo) := fun w₀ =>
  Triple.onError (F := fun _ => Turns cfg w₀) (hx w₀) fun _ =>
    hundo.invariant fun _ _ hw hquiet => hw.quiet hquiet

/-- A method that is followed from the state it is called in. -/
lemma of_triple (h : ∀ w₀, w₀.db.storageFaulted = false → Triple (· = w₀) x
      (fun _ w => Going cfg w₀ w) (fun _ => Turns cfg w₀)) : Progresses cfg x := fun _ =>
  .of_state fun w₁ hw₁ => (h w₁ hw₁.2).conseq (fun _ hw => hw)
    (fun _ _ hw => ⟨hw₁.1.trans hw.1, hw.2⟩) fun _ _ hw => hw₁.1.trans hw

/-- What a method that progresses does to a healthy instance. -/
lemma turns (hx : Progresses cfg x) {w : World} (hw : w.db.storageFaulted = false) :
    Turns cfg w (exec x w).2 := by
  refine Triple.final (P := Going cfg w) (F := Turns cfg w) ?_ ⟨.refl, hw⟩
  exact (hx w).conseq (fun _ h => h) (fun _ _ h => h.1) fun _ _ h => h

end Progresses

end On9kvdb
