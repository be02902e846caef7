import On9kvdb.Device.Steps
import On9kvdb.Store.Flush
import On9kvdb.Store.Frame

/-!
# What the builders write

The table builders, the value copies and the merge, each with the set of writes it issues and the
part of the instance it changes: `Writing D S` relates two states between which only writes of `S`
were issued and the instance moved along `D`.
-/

namespace On9kvdb

open Exceptional

variable {cfg : Config} {α : Type}

/-! ## The relation -/

/-- The device took steps with writes in `S`, the instance moved along `D`. -/
structure Writing (D : Db → Db → Prop) (S : Write → Prop) (w w' : World) : Prop where
  db : D w.db w'.db
  dev : w.dev.Steps S w'.dev

section
variable {D : Db → Db → Prop} {S : Write → Prop}

instance [Std.Refl D] : Std.Refl (Writing D S) := ⟨fun w => ⟨refl_of D w.db, .refl⟩⟩

instance [IsTrans Db D] : IsTrans World (Writing D S) :=
  ⟨fun _ _ _ h₁ h₂ => ⟨trans_of D h₁.db h₂.db, h₁.dev.trans h₂.dev⟩⟩

lemma Writing.mono {D' : Db → Db → Prop} {S' : Write → Prop} {w w' : World}
    (h : Writing D S w w') (hD : ∀ db db', D db db' → D' db db') (hS : ∀ w, S w → S' w) :
    Writing D' S' w w' :=
  ⟨hD _ _ h.db, h.dev.mono hS⟩

end

lemma Writing.update {D : Db → Db → Prop} [IsTrans Db D] {S : Write → Prop} {w w' : World}
    (h : Writing D S w w') {db : Db} (hdb : D w'.db db) : Writing D S w { w' with db := db } :=
  ⟨trans_of D h.db hdb, h.dev⟩

/-- Only the table caches differ. -/
def SameButCaches (db db' : Db) : Prop :=
  db' = { db with tableIndexCache := db'.tableIndexCache, tableKeyFilters := db'.tableKeyFilters }

instance : Std.Refl SameButCaches := ⟨fun _ => rfl⟩

instance : IsTrans Db SameButCaches :=
  ⟨fun a b c h₁ h₂ => by
    unfold SameButCaches at *
    rw [h₂, h₁]⟩

lemma Writing.of_caching {S : Write → Prop} {w w' : World} (h : Caching w w') :
    Writing SameButCaches S w w' :=
  ⟨h.db, by rw [h.dev]; exact .clock _ .refl⟩

lemma Writing.of_reading {D : Db → Db → Prop} [Std.Refl D] {S : Write → Prop} {w w' : World}
    (h : Reading w w') : Writing D S w w' :=
  ⟨by rw [h.db]; exact refl_of D _, by rw [h.dev]; exact .clock _ .refl⟩

/-- Writes into one table slot. -/
def IntoTable (slot : ℕ) : Write → Prop
  | .tableHeader s _ _ => s = slot
  | .tableFooter s _ => s = slot
  | .tableBlock s _ _ => s = slot
  | .tableIndex s _ => s = slot
  | _ => False

/-- Writes into one value bank. -/
def IntoBank (bank : ℕ) : Write → Prop
  | .valueChunk b _ _ => b = bank
  | _ => False

/-! ## Primitives -/

namespace Within

variable {D : Db → Db → Prop} [Std.Refl D] {S : Write → Prop}

lemma writeStorage {write : Write} (h : S write) :
    Exceptional.Within (Writing D S) (On9kvdb.writeStorage write) := fun w => by
  rw [exec_writeStorage]
  exact ⟨refl_of D _, .write h .refl⟩

lemma syncStorage : Exceptional.Within (Writing D S) On9kvdb.syncStorage := fun w => by
  rw [exec_syncStorage]
  exact ⟨refl_of D _, .sync .refl⟩

lemma readOnly {decode : Db → Media → Except EspErr α} :
    Exceptional.Within (Writing D S) (On9kvdb.readStorage decode) :=
  Within.readStorage fun _ => .of_reading ⟨rfl, rfl⟩

end Within

/-! ## Table builders -/

lemma within_finishTableDataBlockUnsafe (b : TableBuild) :
    Within (Writing Eq (IntoTable b.slot)) (finishTableDataBlockUnsafe cfg b) := by
  unfold finishTableDataBlockUnsafe
  refine .bind Within.failIf fun _ => ?_
  cases encodeTableBlock cfg.blockBytes b.generation b.dataBlockCount b.blockEntries with
  | none => exact .throw
  | some block =>
      exact .bind Within.failIf fun _ => .bind (Within.writeStorage rfl) fun _ => .pure

lemma returns_finishTableDataBlockUnsafe (b : TableBuild) :
    Returns (fun b' => b'.slot = b.slot) (finishTableDataBlockUnsafe cfg b) := by
  unfold finishTableDataBlockUnsafe
  refine .bind .trivial fun _ _ => ?_
  cases encodeTableBlock cfg.blockBytes b.generation b.dataBlockCount b.blockEntries with
  | none => exact .throw
  | some block => exact .bind .trivial fun _ _ => .bind .trivial fun _ _ => .pure rfl

lemma within_closeFullBlock (b : TableBuild) (size : ℕ) :
    Within (Writing Eq (IntoTable b.slot)) (closeFullBlock cfg b size) :=
  .ite (within_finishTableDataBlockUnsafe b) .pure

lemma returns_closeFullBlock (b : TableBuild) (size : ℕ) :
    Returns (fun b' => b'.slot = b.slot) (closeFullBlock cfg b size) :=
  .ite (fun _ => returns_finishTableDataBlockUnsafe b) fun _ => .pure rfl

lemma slot_startDataBlock {b b' : TableBuild} {key : CompositeKey} {sequence : ℕ}
    (h : startDataBlock cfg b key sequence = some b') : b'.slot = b.slot := by
  unfold startDataBlock at h
  split_ifs at h
  · cases h
    rfl
  · rw [Option.map_eq_some_iff] at h
    obtain ⟨ix, -, rfl⟩ := h
    rfl

lemma within_finishTableUnsafe (b : TableBuild) (bank : BankBounds) :
    Within (Writing SameButCaches (IntoTable b.slot)) (finishTableUnsafe cfg b bank) := by
  unfold finishTableUnsafe
  cases encodeTableIndex cfg.blockBytes b.generation b.indexEntries with
  | none => exact .throw
  | some index =>
      refine .bind Within.failIf fun _ => .bind (Within.writeStorage rfl) fun _ =>
        .bind Within.getDb fun db => ?_
      dsimp only
      split
      · exact .bind (Within.writeStorage rfl) fun _ => .bind (Within.writeStorage rfl) fun _ =>
          .bind (Within.writeStorage rfl) fun _ => .bind Within.syncStorage fun _ =>
          .bind (fun w => .of_caching (within_validateTableUnsafe _ _ w)) fun _ => .pure
      · exact .throw

lemma within_flushRecords (namespaces : List Bytes) (records : List MemtableRecord)
    (b : TableBuild) :
    Within (Writing Eq (IntoTable b.slot)) (flushRecords cfg namespaces records b) := by
  induction records generalizing b with
  | nil => exact .pure
  | cons record rest ih =>
      unfold flushRecords
      refine .bind_of (within_closeFullBlock b _) (returns_closeFullBlock b _) fun b₁ h₁ => ?_
      cases hstart : startDataBlock cfg b₁ (recordKey namespaces record)
        record.transactionSequence with
      | none => exact .throw
      | some b₂ =>
          dsimp only
          cases encodeTableEntry cfg.blockBytes (tableBlockHeaderSize + b₂.dataPayloadSize)
            record.transactionSequence (recordKey namespaces record) record.value with
          | none => exact .throw
          | some entry =>
              have hslot : (b₂.addEntry entry).slot = b.slot :=
                (slot_startDataBlock hstart).trans h₁
              rw [← hslot]
              exact ih _

lemma returns_flushRecords (namespaces : List Bytes) (records : List MemtableRecord)
    (b : TableBuild) :
    Returns (fun b' => b'.slot = b.slot) (flushRecords cfg namespaces records b) := by
  induction records generalizing b with
  | nil => exact .pure rfl
  | cons record rest ih =>
      unfold flushRecords
      refine .bind (returns_closeFullBlock b _) fun b₁ h₁ => ?_
      cases hstart : startDataBlock cfg b₁ (recordKey namespaces record)
        record.transactionSequence with
      | none => exact .throw
      | some b₂ =>
          dsimp only
          cases encodeTableEntry cfg.blockBytes (tableBlockHeaderSize + b₂.dataPayloadSize)
            record.transactionSequence (recordKey namespaces record) record.value with
          | none => exact .throw
          | some entry =>
              exact (ih _).mono fun b' h => h.trans ((slot_startDataBlock hstart).trans h₁)

/-! ## Value copies -/

lemma within_copyValueChunks (source destination : ValueRef) (remaining index : ℕ)
    (checksumState : UInt32) :
    Within (Writing Eq (IntoBank destination.bankSlot))
      (copyValueChunks source destination remaining index checksumState) := by
  induction remaining generalizing index checksumState with
  | zero => exact .pure
  | succ remaining ih =>
      unfold copyValueChunks
      refine .bind Within.readOnly fun input => ?_
      cases encodeValueChunk input.databaseId destination.bankGeneration
        destination.firstChunkOffset input.valueSize input.valueOffset input.payload with
      | none => exact .throw
      | some output => exact .bind (Within.writeStorage rfl) fun _ => ih _ _

lemma within_copyExternalValueUnsafe (source : ValueRef) (bank generation tail : ℕ) :
    Within (Writing Eq (IntoBank bank))
      (copyExternalValueUnsafe cfg source bank generation tail) := by
  unfold copyExternalValueUnsafe
  have hcopy := within_copyValueChunks source
    { source with bankSlot := bank, bankGeneration := generation, firstChunkOffset := tail }
    (chunkCount source.valueSize) 0 crcInit
  exact .bind Within.failIf fun _ => .bind Within.failIf fun _ => .bind hcopy fun _ =>
    .bind Within.failIf fun _ => .pure

lemma within_relocateValue (destination : Destination) (tail : ℕ) (v : StoredValue) :
    Within (Writing Eq (IntoBank destination.bankSlot))
      (relocateValue cfg destination tail v) := by
  cases v with
  | external r =>
      refine .tryCatch (.bind (within_copyExternalValueUnsafe _ _ _ _) fun _ => .pure)
        fun e => .ite .pure .throw
  | tombstone => exact .pure
  | inline bytes => exact .pure

lemma within_relocateStaged (destination : Destination) (mutations : List Mutation) (tail : ℕ) :
    Within (Writing Eq (IntoBank destination.bankSlot))
      (relocateStaged cfg destination mutations tail) := by
  induction mutations generalizing tail with
  | nil => exact .pure
  | cons m rest ih =>
      unfold relocateStaged
      cases m.value with
      | external r =>
          exact .bind Within.getDb fun _ => .bind Within.failIf fun _ =>
            .bind (within_copyExternalValueUnsafe _ _ _ _) fun _ => .bind (ih _) fun _ => .pure
      | tombstone => exact .bind (ih _) fun _ => .pure
      | inline bytes => exact .bind (ih _) fun _ => .pure

/-! ## The merge -/

/-- Writes into the output tables or into the destination bank of a compaction. -/
def IntoOutput (slots : List ℕ) (bank : ℕ) (w : Write) : Prop :=
  (∃ slot ∈ slots, IntoTable slot w) ∨ IntoBank bank w

/-- Besides the table caches only the references of `slots` differ. -/
structure SameButTables (slots : List ℕ) (db db' : Db) : Prop where
  rest : db' = { db with
    manifest := { db.manifest with tables := db'.manifest.tables }
    tableIndexCache := db'.tableIndexCache
    tableKeyFilters := db'.tableKeyFilters }
  tables : ∀ slot ∉ slots, db'.manifest.tables slot = db.manifest.tables slot

instance (slots : List ℕ) : Std.Refl (SameButTables slots) := ⟨fun _ => ⟨rfl, fun _ _ => rfl⟩⟩

instance (slots : List ℕ) : IsTrans Db (SameButTables slots) :=
  ⟨fun _ _ _ h₁ h₂ => ⟨by rw [h₂.rest, h₁.rest],
    fun slot h => (h₂.tables slot h).trans (h₁.tables slot h)⟩⟩

lemma SameButTables.of_caches {slots : List ℕ} {db db' : Db} (h : SameButCaches db db') :
    SameButTables slots db db' := by
  unfold SameButCaches at h
  exact ⟨by rw [h], fun _ _ => by rw [h]⟩

lemma within_appendCompactionEntryUnsafe {slots : List ℕ} {output : TableBuild}
    (hslot : output.slot ∈ slots) (winner : MergeWinner) (key : CompositeKey)
    (destination : Destination) (tail : ℕ) :
    Within (Writing Eq (IntoOutput slots destination.bankSlot))
      (appendCompactionEntryUnsafe cfg output winner key destination tail) := by
  unfold appendCompactionEntryUnsafe
  refine .bind (fun w => (within_closeFullBlock output _ w).mono (fun _ _ h => h)
    fun _ h => Or.inl ⟨_, hslot, h⟩) fun output₁ => ?_
  cases startDataBlock cfg output₁ key winner.transactionSequence with
  | none => exact .pure
  | some output₂ =>
      have hvalue : Within (Writing Eq (IntoOutput slots destination.bankSlot))
          (winnerValue cfg winner) := by
        cases winner with
        | memtable record => exact .pure
        | table cursor entry => exact .bind Within.readOnly fun _ => .pure
      refine .bind hvalue fun value => .bind (fun w => (within_relocateValue destination tail
        value w).mono (fun _ _ h => h) fun _ h => Or.inr h) fun moved => ?_
      cases moved with
      | none => exact .pure
      | some moved =>
          dsimp only
          cases encodeTableEntry cfg.blockBytes (tableBlockHeaderSize + output₂.dataPayloadSize)
            winner.transactionSequence key moved.1 with
          | none => exact .throw
          | some entry => exact .pure

lemma returns_appendCompactionEntryUnsafe (output : TableBuild) (winner : MergeWinner)
    (key : CompositeKey) (destination : Destination) (tail : ℕ) :
    Returns (fun r => r.1.slot = output.slot)
      (appendCompactionEntryUnsafe cfg output winner key destination tail) := by
  unfold appendCompactionEntryUnsafe
  refine .bind (returns_closeFullBlock output _) fun output₁ h₁ => ?_
  cases hstart : startDataBlock cfg output₁ key winner.transactionSequence with
  | none => exact .pure h₁
  | some output₂ =>
      have h₂ := (slot_startDataBlock hstart).trans h₁
      refine .bind .trivial fun value _ => .bind .trivial fun moved _ => ?_
      cases moved with
      | none => exact .pure h₂
      | some moved =>
          dsimp only
          cases encodeTableEntry cfg.blockBytes (tableBlockHeaderSize + output₂.dataPayloadSize)
            winner.transactionSequence key moved.1 with
          | none => exact .throw
          | some entry => exact .pure h₂

lemma within_finishCompactionOutputUnsafe (output : TableBuild) (destination : Destination)
    (tail : ℕ) :
    Within (Writing SameButCaches (IntoTable output.slot))
      (finishCompactionOutputUnsafe cfg output destination tail) := by
  unfold finishCompactionOutputUnsafe
  have hlast : Within (Writing SameButCaches (IntoTable output.slot))
      (if output.blockEntries ≠ [] then finishTableDataBlockUnsafe cfg output
        else pure output) :=
    .ite (fun w => (within_finishTableDataBlockUnsafe output w).mono
      (fun _ _ h => h ▸ refl_of SameButCaches _) fun _ h => h) .pure
  refine .bind Within.failIf fun _ => .bind_of hlast (Q := fun b => b.slot = output.slot)
    (.ite (fun _ => returns_finishTableDataBlockUnsafe output) fun _ => .pure rfl) fun b hb => ?_
  rw [← hb]
  exact within_finishTableUnsafe b _

section
variable (cfg) (w₀ : World) (destination : Destination)

/-- The output slots of a compaction started in `w₀`. -/
abbrev outputSlots : List ℕ := bankSlots cfg (outputStart cfg w₀.db.manifest)

/-- The merge of a compaction started in `w₀` has come to `w`. -/
abbrev Merging : World → Prop :=
  Writing (SameButTables (outputSlots cfg w₀))
    (IntoOutput (outputSlots cfg w₀) destination.bankSlot) w₀

/-- An output table of the merge is in the slot its number stands for. -/
def OutputPlaced (output : TableBuild) (outputCount : ℕ) : Prop :=
  outputCount < cfg.bankSize ∧ output.slot = outputStart cfg w₀.db.manifest + outputCount

/-- The output table under construction is in its place. -/
def MergePlaced (s : MergeState) : Prop :=
  ∀ output, s.output = some output → OutputPlaced cfg w₀ output s.outputCount

variable {cfg w₀ destination}

lemma OutputPlaced.mem {output : TableBuild} {outputCount : ℕ}
    (h : OutputPlaced cfg w₀ output outputCount) : output.slot ∈ outputSlots cfg w₀ := by
  rw [h.2]
  exact List.mem_map.mpr ⟨outputCount, List.mem_range.mpr h.1, rfl⟩

lemma Merging.outputStart {w : World} (h : Merging cfg w₀ destination w) :
    outputStart cfg w.db.manifest = outputStart cfg w₀.db.manifest := by
  rw [h.db.rest]
  rfl

/-- A part of the merge that leaves the instance as it is keeps the merge going. -/
lemma triple_merging {x : DbM α}
    (hx : Within (Writing Eq (IntoOutput (outputSlots cfg w₀) destination.bankSlot)) x) :
    Triple (Merging cfg w₀ destination) x (fun _ => Merging cfg w₀ destination)
      (fun _ => Merging cfg w₀ destination) :=
  hx.invariant fun _ _ h h' => trans_of (Writing _ _) h
    (h'.mono (fun _ _ h => h ▸ refl_of (SameButTables _) _) fun _ h => h)

lemma triple_openOutput {outputCount : ℕ} (hcount : outputCount < cfg.bankSize) :
    Triple (Merging cfg w₀ destination) (openOutput cfg outputCount)
      (fun output w => Merging cfg w₀ destination w ∧ OutputPlaced cfg w₀ output outputCount)
      (fun _ => Merging cfg w₀ destination) := by
  unfold openOutput startCompactionOutputUnsafe
  refine .bind (Q := fun db w => Merging cfg w₀ destination w ∧
      On9kvdb.outputStart cfg db.manifest = On9kvdb.outputStart cfg w₀.db.manifest)
    (Triple.getDb fun w hw => ⟨hw, hw.outputStart⟩) fun db => ?_
  refine .bind (Triple.check fun w hw => hw.1) fun _ => ?_
  refine .bind (Q := fun _ w => Merging cfg w₀ destination w ∧
      On9kvdb.outputStart cfg db.manifest = On9kvdb.outputStart cfg w₀.db.manifest)
    (Triple.modifyDb fun w hw => ⟨hw.1.1.update ⟨rfl, fun _ _ => rfl⟩, hw.1.2⟩) fun _ => ?_
  exact .pure fun w hw => ⟨hw.1, hcount, by rw [hw.2]⟩

lemma triple_closeOutput {output : TableBuild} {outputCount : ℕ}
    (hplaced : OutputPlaced cfg w₀ output outputCount) (tail : ℕ) :
    Triple (Merging cfg w₀ destination) (closeOutput cfg output destination outputCount tail)
      (fun _ => Merging cfg w₀ destination) (fun _ => Merging cfg w₀ destination) := by
  unfold closeOutput
  refine .bind (Q := fun _ => Merging cfg w₀ destination)
    ((within_finishCompactionOutputUnsafe output destination tail).invariant fun w w' h h' =>
      trans_of (Writing _ _) h (h'.mono (fun _ _ => SameButTables.of_caches)
        fun _ hS => Or.inl ⟨_, hplaced.mem, hS⟩)) fun reference => ?_
  refine Triple.modifyDb fun w hw => hw.update ⟨rfl, fun slot hslot => ?_⟩
  refine Function.update_of_ne (fun heq => hslot ?_) _ _
  rw [heq, hw.outputStart, ← hplaced.2]
  exact hplaced.mem

lemma triple_currentOutput {s : MergeState} (hs : MergePlaced cfg w₀ s) :
    Triple (Merging cfg w₀ destination) (currentOutput cfg s)
      (fun output w => Merging cfg w₀ destination w ∧ OutputPlaced cfg w₀ output s.outputCount)
      (fun _ => Merging cfg w₀ destination) := by
  unfold currentOutput
  cases h : s.output with
  | some output => exact .pure fun w hw => ⟨hw, hs output h⟩
  | none =>
      refine .bind (Triple.check fun w hw => hw) fun _ => ?_
      exact .of_pure (fun w hw => not_le.mp hw.2) fun hcount =>
        (triple_openOutput hcount).pre fun w hw => hw.1

lemma triple_emitWinner {s : MergeState} (hs : MergePlaced cfg w₀ s) (winner : MergeWinner)
    (key : CompositeKey) :
    Triple (Merging cfg w₀ destination) (emitWinner cfg s winner key destination)
      (fun s' w => Merging cfg w₀ destination w ∧ MergePlaced cfg w₀ s')
      (fun _ => Merging cfg w₀ destination) := by
  unfold emitWinner
  refine .bind (Triple.check fun w hw => hw) fun _ => ?_
  dsimp only
  refine .bind ((triple_currentOutput fun b hb => hs b hb).pre fun w hw => hw.1) fun output => ?_
  refine .of_pure (fun w hw => hw.2) fun hplaced => ?_
  refine .bind ((triple_merging (within_appendCompactionEntryUnsafe hplaced.mem winner key
    destination _)).and_returns (returns_appendCompactionEntryUnsafe _ _ _ _ _) |>.pre
      fun w hw => hw.1) fun r => ?_
  obtain ⟨output₁, tail, appended⟩ := r
  refine .ite (fun _ => .pure fun w hw => ⟨hw.1, ?_⟩) fun _ => ?_
  · rintro b hb
    cases hb
    exact ⟨hplaced.1, hw.2.trans hplaced.2⟩
  · refine .of_pure (fun w hw => hw.2) fun hslot => ?_
    have hplaced₁ : OutputPlaced cfg w₀ output₁ s.outputCount := ⟨hplaced.1, hslot.trans hplaced.2⟩
    refine .bind ((triple_closeOutput hplaced₁ _).pre fun w hw => hw.1) fun _ => ?_
    refine .bind (Triple.check fun w hw => hw) fun _ => ?_
    refine .of_pure (fun w hw => not_le.mp hw.2) fun hcount => ?_
    refine .bind ((triple_openOutput hcount).pre fun w hw => hw.1) fun output₂ => ?_
    refine .of_pure (fun w hw => hw.2) fun hplaced₂ => ?_
    refine .bind ((triple_merging (within_appendCompactionEntryUnsafe hplaced₂.mem winner key
      destination _)).and_returns (returns_appendCompactionEntryUnsafe _ _ _ _ _) |>.pre
      fun w hw => hw.1) fun r => ?_
    refine .bind (Triple.check fun w hw => hw.1) fun _ => ?_
    refine .pure fun w hw => ⟨hw.1.1, ?_⟩
    rintro b hb
    cases hb
    exact ⟨hplaced₂.1, hw.1.2.trans hplaced₂.2⟩

lemma triple_mergeRound {s : MergeState} (hs : MergePlaced cfg w₀ s) (key : CompositeKey) :
    Triple (Merging cfg w₀ destination) (mergeRound cfg s key destination)
      (fun s' w => Merging cfg w₀ destination w ∧ MergePlaced cfg w₀ s')
      (fun _ => Merging cfg w₀ destination) := by
  unfold mergeRound
  refine .bind Triple.fetch fun db => ?_
  refine .bind (Q := fun _ => Merging cfg w₀ destination)
    (Triple.liftResult (fun w _ hw _ => hw.1) fun w _ hw _ => hw.1) fun winner => ?_
  cases winner with
  | none => exact .throw fun w hw => hw
  | some winner =>
      have hemit : ∀ s : MergeState, MergePlaced cfg w₀ s →
          Triple (Merging cfg w₀ destination)
            (if winner.value.isTombstone then pure s else emitWinner cfg s winner key destination)
            (fun s' w => Merging cfg w₀ destination w ∧ MergePlaced cfg w₀ s')
            (fun _ => Merging cfg w₀ destination) := fun s hs =>
        .ite (fun _ => .pure fun w hw => ⟨hw, hs⟩) fun _ => triple_emitWinner hs winner key
      refine .bind (hemit _ fun output h => hs output h) fun s₁ => ?_
      refine .of_pure (fun w hw => hw.2) fun hs₁ => ?_
      refine .bind ((triple_merging fun w => .of_reading (within_advanceCursors _ _ w)).pre
        fun w hw => hw.1) fun cursors => ?_
      exact .pure fun w hw => ⟨hw, fun output h => hs₁ output h⟩

lemma triple_mergeLoop (fuel : ℕ) {s : MergeState} (hs : MergePlaced cfg w₀ s) :
    Triple (Merging cfg w₀ destination) (mergeLoop cfg destination fuel s)
      (fun s' w => Merging cfg w₀ destination w ∧ MergePlaced cfg w₀ s')
      (fun _ => Merging cfg w₀ destination) := by
  induction fuel generalizing s with
  | zero => exact .ite (fun _ => .pure fun w hw => ⟨hw, hs⟩) fun _ => .throw fun w hw => hw
  | succ fuel ih =>
      unfold mergeLoop
      refine .ite (fun _ => .pure fun w hw => ⟨hw, hs⟩) fun _ => ?_
      refine .bind Triple.fetch fun db => ?_
      cases smallestKey db.namespaces s.pending s.cursors with
      | none => exact .pure fun w hw => ⟨hw.1, hs⟩
      | some key =>
          refine .bind ((triple_mergeRound hs key).pre fun w hw => hw.1) fun s₁ => ?_
          exact .of_pure (fun w hw => hw.2) fun hs₁ => (ih hs₁).pre fun w hw => hw.1

lemma triple_closeLastOutput {s : MergeState} (hs : MergePlaced cfg w₀ s) :
    Triple (Merging cfg w₀ destination) (closeLastOutput cfg destination s)
      (fun _ => Merging cfg w₀ destination) (fun _ => Merging cfg w₀ destination) := by
  unfold closeLastOutput
  cases h : s.output with
  | none => exact .pure fun w hw => hw
  | some output =>
      exact .bind (triple_closeOutput (hs output h) _) fun _ => .pure fun w hw => hw

/-- **The merge only writes to its output tables and to the destination bank**, and of the
instance it changes the references of the output slots. -/
theorem triple_mergeTables (fuel : ℕ) {s : MergeState} (hs : s.output = none) :
    Triple (Merging cfg w₀ destination) (mergeTables cfg destination fuel s)
      (fun _ => Merging cfg w₀ destination) (fun _ => Merging cfg w₀ destination) := by
  unfold mergeTables
  have hplaced : MergePlaced cfg w₀ s := fun output h => by
    rw [hs] at h
    cases h
  refine .bind (triple_mergeLoop fuel hplaced) fun s₁ => ?_
  refine .of_pure (fun w hw => hw.2) fun hs₁ => ?_
  refine .bind ((triple_closeLastOutput hs₁).pre fun w hw => hw.1) fun s₂ => ?_
  refine .bind Triple.fetch fun db => ?_
  exact .bind (Triple.check fun w hw => hw.1) fun _ => .pure fun w hw => hw.1.1

end

end On9kvdb
