import On9kvdb.Capacity.Packing
import On9kvdb.Capacity.ValueBank
import On9kvdb.Start.Crashes
import On9kvdb.Store.Writes

/-!
# The merge and the packing

The output tables of a merge, step by step the packing of the records it has emitted: `Emitted` says
so of a merge state.  Since the packing of an accepted live set fits the bank, the merge does not run
out of table slots (`merge_packs_live_set`).
-/

namespace On9kvdb

open Exceptional

variable {cfg : Config}

/-! ## Winners -/

/-- The bytes a value's copy takes in the destination bank. -/
def StoredValue.copyBytes (v : StoredValue) : ℕ :=
  (v.ref?.map fun r => chunkCount r.valueSize * valueChunkSize).getD 0

/-- A live record the merge keeps, with the source it comes from. -/
structure LiveWinner (l : LogicalLimits) where
  winner : MergeWinner
  key : CompositeKey
  valid : (winner.transactionSequence != 0 && key.valid && winner.value.encodable) = true
  live : winner.value.live l.inlineValueBytes = true

namespace LiveWinner

variable {l : LogicalLimits}

/-- The record as a table entry. -/
def entry (x : LiveWinner l) : TableEntry :=
  ⟨x.winner.transactionSequence, x.key, x.winner.value, x.valid⟩

/-- The bytes its copy takes in the destination bank. -/
def copyBytes (x : LiveWinner l) : ℕ := x.winner.value.copyBytes

/-- A table entry is where its cursor says, outside the output tables. -/
def InSource (cfg : Config) (w : World) (x : LiveWinner l) : Prop :=
  match x.winner with
  | .memtable _ => True
  | .table cursor entry => cursor.sourceSlot ∉ outputSlots cfg w ∧
      readWinner cfg cursor entry w.dev.current = .ok entry

end LiveWinner

/-- The winners of a merge, emitted one after the other. -/
def emitWinners (cfg : Config) (destination : Destination) :
    List (LiveWinner cfg.limits) → MergeState → DbM MergeState
  | [], s => pure s
  | x :: rest, s => do
      let s ← emitWinner cfg s x.winner x.key destination
      emitWinners cfg destination rest s

/-! ## What the parts raise -/

lemma raises_finishTableDataBlockUnsafe (b : TableBuild) :
    Raises (· ≠ .noMem) (finishTableDataBlockUnsafe cfg b) := by
  unfold finishTableDataBlockUnsafe
  refine .bind (Raises.failIf (by decide)) fun _ => ?_
  cases encodeTableBlock cfg.blockBytes b.generation b.dataBlockCount b.blockEntries with
  | none => exact .throw (by decide)
  | some block =>
      exact .bind (Raises.failIf (by decide)) fun _ =>
        .bind (Raises.writeStorage (by decide)) fun _ => .pure

/-- The checks on a table only ever find it damaged or of another version. -/
lemma checkTable_error {m : Media} {reference : TableReference} {bank : BankBounds} {e : EspErr}
    (h : checkTable cfg m reference bank = .error e) : e ≠ .noMem := by
  have hmetadata : ∀ {cell : Cell TableMetadataRecord} {e : EspErr},
      readTableMetadata cell = .error e → e ≠ .noMem := by
    intro cell e h
    unfold readTableMetadata at h
    split at h <;> cases h
    decide
  have hentries : ∀ {footer : TableMetadata} (entries : List TableEntry)
      (first : Option TableIndexEntry) (s : TableScan) {e : EspErr},
      validateTableEntries cfg footer bank first s entries = .error e → e ≠ .noMem := by
    intro footer entries
    induction entries with
    | nil =>
        intro first s e h
        cases h
    | cons entry rest ih =>
        intro first s e h
        unfold validateTableEntries at h
        rcases bind_eq_error.mp h with hentry | ⟨s', -, hrest⟩
        · unfold validateTableEntry at hentry
          split_ifs at hentry <;> cases hentry <;> decide
        · exact ih none s' hrest
  have hblocks : ∀ {footer : TableMetadata} (entries : List TableIndexEntry) (blockIndex : ℕ)
      (s : TableScan) {e : EspErr},
      validateTableBlocks cfg m reference footer bank blockIndex s entries = .error e →
        e ≠ .noMem := by
    intro footer entries
    induction entries with
    | nil =>
        intro blockIndex s e h
        cases h
    | cons ix rest ih =>
        intro blockIndex s e h
        unfold validateTableBlocks at h
        split_ifs at h
        · cases h
          decide
        · split at h
          · cases h
            decide
          · split_ifs at h
            · cases h
              decide
            · rcases bind_eq_error.mp h with hentry | ⟨s', -, hrest⟩
              · exact hentries _ _ _ hentry
              · exact ih _ s' hrest
  have hreject : ∀ {condition : Prop} [Decidable condition] {e : EspErr},
      rejectIf condition EspErr.invalidCrc = .error e → e ≠ .noMem := by
    intro condition _ e h
    rw [(rejectIf_eq_error.mp h).2]
    decide
  unfold checkTable at h
  rcases bind_eq_error.mp h with h | ⟨footer, -, h⟩
  · exact hmetadata h
  cases footer with
  | none =>
      cases h
      decide
  | some footer =>
      dsimp only at h
      rcases bind_eq_error.mp h with h | ⟨_, -, h⟩
      · exact hreject h
      rcases bind_eq_error.mp h with h | ⟨_, -, h⟩
      · exact hmetadata h
      rcases bind_eq_error.mp h with h | ⟨_, -, h⟩
      · exact hreject h
      rcases bind_eq_error.mp h with h | ⟨_, -, h⟩
      · exact hmetadata h
      rcases bind_eq_error.mp h with h | ⟨_, -, h⟩
      · exact hreject h
      rcases bind_eq_error.mp h with h | ⟨_, -, h⟩
      · exact hreject h
      split at h
      · cases h
        decide
      · rcases bind_eq_error.mp h with h | ⟨_, -, h⟩
        · exact hreject h
        rcases bind_eq_error.mp h with h | ⟨_, -, h⟩
        · exact hblocks _ _ _ h
        rcases bind_eq_error.mp h with h | ⟨_, -, h⟩
        · exact hreject h
        cases h

lemma raises_validateTableUnsafe (reference : TableReference) (bank : BankBounds) :
    Raises (· ≠ .noMem) (validateTableUnsafe cfg reference bank) := by
  unfold validateTableUnsafe
  exact .bind (Raises.failIf (by decide)) fun _ => .bind Raises.modifyDb fun _ =>
    .bind (Raises.failIf (by decide)) fun _ =>
    .bind (Raises.readStorage (by decide) fun _ _ _ h => checkTable_error h) fun _ =>
    .bind Raises.modifyDb fun _ =>
    .ite (fun _ => .bind (Raises.failIf (by decide)) fun _ => Raises.modifyDb) fun _ => .pure

lemma raises_closeOutput (output : TableBuild) (destination : Destination) (outputCount tail : ℕ) :
    Raises (· ≠ .noMem) (closeOutput cfg output destination outputCount tail) := by
  unfold closeOutput finishCompactionOutputUnsafe finishTableUnsafe
  refine .bind (.bind (Raises.failIf (by decide)) fun _ => .bind (.ite
    (fun _ => raises_finishTableDataBlockUnsafe _) fun _ => .pure) fun b => ?_)
    fun _ => Raises.modifyDb
  cases encodeTableIndex cfg.blockBytes b.generation b.indexEntries with
  | none => exact .throw (by decide)
  | some index =>
      refine .bind (Raises.failIf (by decide)) fun _ => .bind (Raises.writeStorage (by decide))
        fun _ => .bind Raises.getDb fun db => ?_
      dsimp only
      split
      · exact .bind (Raises.writeStorage (by decide)) fun _ =>
          .bind (Raises.writeStorage (by decide)) fun _ =>
          .bind (Raises.writeStorage (by decide)) fun _ =>
          .bind (Raises.syncStorage (by decide)) fun _ =>
          .bind (raises_validateTableUnsafe _ _) fun _ => .pure
      · exact .throw (by decide)

lemma raises_openOutput (outputCount : ℕ) :
    Raises (· ≠ .noMem) (openOutput cfg outputCount) :=
  .bind Raises.getDb fun _ => .bind (Raises.failIf (by decide)) fun _ =>
    .bind Raises.modifyDb fun _ => .pure

lemma raises_winnerValue (winner : MergeWinner) :
    Raises (· ≠ .noMem) (winnerValue cfg winner) := by
  cases winner with
  | memtable record => exact .pure
  | table cursor entry =>
      refine .bind (Raises.readStorage (by decide) fun _ m e h => ?_) fun _ => .pure
      unfold readWinner at h
      split at h
      · cases h
        decide
      · split at h
        · cases h
          decide
        · split_ifs at h
          · cases h
            decide

/-! ## Values in the destination bank -/

/-- Two values a block and the account do not tell apart. -/
def SameSize (v v' : StoredValue) : Prop :=
  v'.encodedSize = v.encodedSize ∧ v'.size = v.size ∧
    ∀ inlineLimit, v'.live inlineLimit = v.live inlineLimit

lemma relocateValue_room {destination : Destination} {tail : ℕ} {v : StoredValue}
    (hroom : tail + v.copyBytes ≤ cfg.geometry.valueBankSize) :
    Raises (· ≠ .noMem) (relocateValue cfg destination tail v) ∧
    Returns (fun r => ∃ v', r = some (v', tail + v.copyBytes) ∧ SameSize v v')
      (relocateValue cfg destination tail v) := by
  cases v with
  | external r =>
      obtain ⟨hraises, hreturns⟩ := @copyExternalValueUnsafe_room cfg r destination.bankSlot
        destination.bankGeneration tail hroom
      unfold relocateValue
      constructor
      · intro w e w' hrun
        rw [exec_tryCatch] at hrun
        rcases hcopy : exec (copyExternalValueUnsafe cfg r destination.bankSlot
          destination.bankGeneration tail) w with ⟨o, w₁⟩
        rw [exec_bind, hcopy] at hrun
        cases o with
        | ok p => cases hrun
        | error e' =>
            have hne := hraises w e' w₁ hcopy
            dsimp only at hrun
            rw [if_neg hne] at hrun
            cases hrun
            exact hne
      · intro w o w' hrun
        rw [exec_tryCatch] at hrun
        rcases hcopy : exec (copyExternalValueUnsafe cfg r destination.bankSlot
          destination.bankGeneration tail) w with ⟨o', w₁⟩
        rw [exec_bind, hcopy] at hrun
        cases o' with
        | ok p =>
            obtain ⟨hsize, htail⟩ := hreturns w p w₁ hcopy
            cases hrun
            refine ⟨.external p.1, by rw [htail]; rfl, rfl, hsize, fun inlineLimit => ?_⟩
            simp only [StoredValue.live, hsize]
        | error e' =>
            have hne := hraises w e' w₁ hcopy
            dsimp only at hrun
            rw [if_neg hne] at hrun
            cases hrun
  | tombstone => exact ⟨.pure, .pure ⟨_, rfl, rfl, rfl, fun _ => rfl⟩⟩
  | inline bytes => exact ⟨.pure, .pure ⟨_, rfl, rfl, rfl, fun _ => rfl⟩⟩

/-! ## One record -/

/-- `append_compaction_entry_unsafe` behind the end of a full block. -/
def placeEntry (cfg : Config) (output : TableBuild) (winner : MergeWinner) (key : CompositeKey)
    (destination : Destination) (tail : ℕ) : DbM (TableBuild × ℕ × Bool) := do
  match startDataBlock cfg output key winner.transactionSequence with
  | none => return (output, tail, false)
  | some output =>
      let value ← winnerValue cfg winner
      match ← relocateValue cfg destination tail value with
      | none => return (output, tail, false)
      | some (value, tail) =>
          match encodeTableEntry cfg.blockBytes (tableBlockHeaderSize + output.dataPayloadSize)
              winner.transactionSequence key value with
          | none =>
              throw (match winner with
                | .memtable _ => .invalidSize
                | .table _ _ => .invalidState)
          | some entry => return (output.addEntry entry, tail, true)

lemma appendCompactionEntryUnsafe_eq (output : TableBuild) (winner : MergeWinner)
    (key : CompositeKey) (destination : Destination) (tail : ℕ) :
    appendCompactionEntryUnsafe cfg output winner key destination tail =
      (closeFullBlock cfg output (align8 (tableEntryHeaderSize + key.namespaceName.length +
        key.key.length + winner.value.encodedSize)) >>= fun output =>
          placeEntry cfg output winner key destination tail) := rfl

section
variable {w₀ : World} {destination : Destination} {x : LiveWinner cfg.limits}

/-- The blocks of a table the merge does not write stay as they are. -/
lemma Merging.tableBlock {w : World} (h : Merging cfg w₀ destination w) {slot : ℕ}
    (hslot : slot ∉ outputSlots cfg w₀) :
    w.dev.current.tableBlock slot = w₀.dev.current.tableBlock slot := by
  refine h.dev.invariant (P := fun d => d.current.tableBlock slot = w₀.dev.current.tableBlock slot)
    (fun _ _ hd => hd) (fun d write hwrite hd => ?_) (fun d hd => ?_) rfl
  · have hother : ∀ m : Media, (write.apply m).tableBlock slot = m.tableBlock slot ∧
        (write.applyTorn m).tableBlock slot = m.tableBlock slot := by
      intro m
      cases write with
      | tableBlock s offset block =>
          have hne : slot ≠ s := by
            rcases hwrite with ⟨s', hs', heq⟩ | hbank
            · rintro rfl
              exact hslot (heq ▸ hs')
            · exact hbank.elim
          exact ⟨Function.update_of_ne hne _ _, Function.update_of_ne hne _ _⟩
      | _ => exact ⟨rfl, rfl⟩
    rw [← hd]
    rcases d.current_write write with hcurrent | hcurrent | hcurrent
    · rw [hcurrent]
    · rw [hcurrent, (hother _).2]
    · rw [hcurrent, (hother _).1]
  · rw [Device.current_sync, hd]

/-- The source of a winner is out of the merge's reach, so its value is read as it was. -/
lemma LiveWinner.InSource.value (h : x.InSource cfg w₀) :
    Triple (Merging cfg w₀ destination) (winnerValue cfg x.winner)
      (fun v w => Merging cfg w₀ destination w ∧ v = x.winner.value)
      (fun e w => Merging cfg w₀ destination w ∧ e ≠ .noMem) := by
  unfold LiveWinner.InSource at h
  have hraises := @raises_winnerValue cfg x.winner
  generalize x.winner = winner at h hraises ⊢
  cases winner with
  | memtable record => exact .pure fun w hw => ⟨hw, rfl⟩
  | table cursor entry =>
      have hwithin : Within (Writing Eq (IntoOutput (outputSlots cfg w₀) destination.bankSlot))
          (winnerValue cfg (.table cursor entry)) := .bind Within.readOnly fun _ => .pure
      refine .of_exec fun w hw => ⟨fun v w' hrun => ⟨(triple_merging hwithin).ok hw hrun, ?_⟩,
        fun e w' hrun => ⟨(triple_merging hwithin).error hw hrun, hraises w e w' hrun⟩⟩
      obtain ⟨hslot, hread⟩ := h
      unfold winnerValue at hrun
      rw [exec_bind, exec_readStorage] at hrun
      have hsame : readWinner cfg cursor entry w.dev.current = .ok entry := by
        rw [← hread]
        unfold readWinner
        rw [hw.tableBlock hslot]
      rw [hsame] at hrun
      split_ifs at hrun
      · cases hrun
        rfl
      · cases hrun

/-- The record goes into the block that is open, or has just been opened, for it. -/
lemma triple_placeEntry (hsource : x.InSource cfg w₀) {b b₁ : TableBuild} {tail : ℕ}
    (hstart : startDataBlock cfg b x.key x.winner.transactionSequence = some b₁)
    (hroom : tail + x.copyBytes ≤ cfg.geometry.valueBankSize) :
    Triple (Merging cfg w₀ destination) (placeEntry cfg b x.winner x.key destination tail)
      (fun r w => Merging cfg w₀ destination w ∧ ∃ e : TableEntry,
        r = (b₁.addEntry e, tail + x.copyBytes, true) ∧ e.key = x.key ∧
          SameSize x.winner.value e.value)
      (fun e w => Merging cfg w₀ destination w ∧ e ≠ .noMem) := by
  unfold placeEntry
  rw [hstart]
  dsimp only
  refine .bind hsource.value fun v => .of_pure (fun w hw => hw.2) fun hv => ?_
  rw [hv]
  obtain ⟨hraises, hreturns⟩ := @relocateValue_room cfg destination tail x.winner.value hroom
  refine .bind (((triple_merging fun w => (within_relocateValue destination tail x.winner.value
    w).mono (fun _ _ h => h) fun _ h => Or.inr h).and_returns hreturns).and_raises hraises |>.pre
    fun w hw => hw.1) fun moved => .of_pure (fun w hw => hw.2) fun hmoved => ?_
  obtain ⟨v', hmoved, hsize⟩ := hmoved
  rw [hmoved]
  dsimp only
  cases hencode : encodeTableEntry cfg.blockBytes (tableBlockHeaderSize + b₁.dataPayloadSize)
    x.winner.transactionSequence x.key v' with
  | none =>
      refine .throw fun w hw => ⟨hw.1, ?_⟩
      cases x.winner with
      | memtable record => exact fun h => by cases h
      | table cursor entry => exact fun h => by cases h
  | some e =>
      refine .pure fun w hw => ⟨hw.1, e, rfl, ?_⟩
      unfold encodeTableEntry at hencode
      split at hencode
      · dsimp only at hencode
        split_ifs at hencode
        cases hencode
        exact ⟨rfl, hsize⟩
      · cases hencode

/-! ## The output tables and the packing -/

/-- `first` blocks into the packing, the table under construction holds the rest of its closed
blocks; no block is open. -/
structure AtBoundary (first : ℕ) (b : TableBuild) (blocks : List (List TableEntry)) : Prop where
  closed : b.blockEntries = []
  count : first + b.dataBlockCount = blocks.length
  index : b.indexEntries.length = b.dataBlockCount

/-- The table under construction has the newest block of the packing open. -/
structure InBlock (cfg : Config) (first : ℕ) (b : TableBuild) (blocks : List (List TableEntry)) :
    Prop where
  opened : b.blockEntries ≠ []
  newest : ∃ rest, blocks = b.blockEntries :: rest ∧ first + b.dataBlockCount = rest.length
  room : b.dataBlockCount < cfg.maximumDataBlocks
  index : b.indexEntries.length = b.dataBlockCount + 1

/-- The entry a winner has become. -/
def Placed (x : LiveWinner cfg.limits) (e : TableEntry) : Prop :=
  e.key = x.key ∧ SameSize x.winner.value e.value

variable {first tail : ℕ} {b b₁ : TableBuild} {e : TableEntry} {blocks : List (List TableEntry)}

lemma Placed.totalSize (h : Placed x e) : e.totalSize = x.entry.totalSize := by
  unfold TableEntry.totalSize
  rw [h.1, h.2.1]
  rfl

lemma Placed.logicalSize (h : Placed x e) : e.logicalSize = x.entry.logicalSize := by
  unfold TableEntry.logicalSize
  rw [h.1, h.2.2.1]
  rfl

lemma Placed.live (h : Placed x e) : e.live cfg.limits = true :=
  (h.2.2.2 _).trans x.live

/-- The index of an accepted configuration has an entry for every data block. -/
lemma AtBoundary.start (h : AtBoundary first b blocks)
    (hcount : b.dataBlockCount < cfg.maximumDataBlocks) :
    ∃ ix, startDataBlock cfg b x.key x.winner.transactionSequence =
      some { b with indexEntries := b.indexEntries ++ [ix] } := by
  have hindex := index_budget cfg.valid
  obtain ⟨-, haligned, -⟩ := block_budget cfg.valid
  have hentries : ∀ entries : List TableIndexEntry,
      indexPayloadBytes entries ≤ entries.length * 272 := by
    intro entries
    unfold indexPayloadBytes
    induction entries with
    | nil => simp
    | cons ix rest ih =>
        have hix := ix.valid
        simp only [CompositeKey.valid, validateBytes, Bool.and_eq_true, decide_eq_true_eq] at hix
        obtain ⟨⟨⟨-, hnamespace, hkey⟩, -⟩, -⟩ := hix
        simp only [List.map_cons, List.sum_cons, List.length_cons, TableIndexEntry.totalSize,
          tableIndexEntryHeaderSize, maxNameLen] at hnamespace hkey ih ⊢
        omega
  have hpayload := hentries b.indexEntries
  have hsize := indexEntrySize_le x.entry
  have hvalid := x.valid
  simp only [Bool.and_eq_true] at hvalid
  have hoffset : tableDataRegionOffset ≤ blockOffset cfg b.dataBlockCount ∧
      blockOffset cfg b.dataBlockCount % formatAlignment = 0 := by
    unfold blockOffset
    refine ⟨Nat.le_add_right _ _, ?_⟩
    rw [Nat.add_mod, Nat.mul_mod, show cfg.blockBytes % formatAlignment = 0 from haligned]
    rfl
  unfold startDataBlock
  rw [if_neg (not_not.mpr h.closed), if_neg (not_le.mpr hcount)]
  unfold encodeTableIndexEntry
  rw [dif_pos (by
    simp only [Bool.and_eq_true, decide_eq_true_eq, beq_iff_eq]
    exact ⟨⟨hvalid.1, hoffset.1⟩, hoffset.2⟩)]
  dsimp only
  rw [if_pos]
  · exact ⟨_, rfl⟩
  · have hblocks : (b.dataBlockCount + 1) * 272 ≤ cfg.maximumDataBlocks * 272 :=
      Nat.mul_le_mul_right _ hcount
    have hmax : cfg.maximumDataBlocks * 272 ≤ cfg.blockBytes - tableIndexHeaderSize := hindex
    rw [h.index] at hpayload
    have hentry : (tableIndexEntryHeaderSize + x.key.namespaceName.length + x.key.key.length + 3) /
        4 * 4 ≤ 272 := hsize
    simp only [TableIndexEntry.totalSize, tableIndexHeaderSize] at hentry hmax ⊢
    omega

/-- The first record of a block. -/
lemma AtBoundary.open (h : AtBoundary first b blocks)
    (hcount : b.dataBlockCount < cfg.maximumDataBlocks) (ix : TableIndexEntry) (e : TableEntry) :
    InBlock cfg first (({ b with indexEntries := b.indexEntries ++ [ix] } : TableBuild).addEntry e)
      ([e] :: blocks) where
  opened := by simp [TableBuild.addEntry]
  newest := ⟨blocks, by simp [TableBuild.addEntry, h.closed], h.count⟩
  room := hcount
  index := by simp [TableBuild.addEntry, h.index]

/-- The test on the open block is the one of next-fit. -/
lemma blockFull_iff (h : b.blockEntries ≠ []) (size : ℕ) : b.blockFull cfg size = true ↔
    blockPayload cfg.limits - NextFit.load TableEntry.totalSize b.blockEntries < size := by
  unfold TableBuild.blockFull
  simp only [Bool.and_eq_true, bne_iff_ne, decide_eq_true_eq]
  exact ⟨fun hfull => hfull.2, fun hfull => ⟨h, hfull⟩⟩

/-- A record that fits the open block. -/
lemma InBlock.add (h : InBlock cfg first b blocks) (e : TableEntry)
    (hfits : b.blockFull cfg e.totalSize = false) :
    InBlock cfg first (b.addEntry e)
      (NextFit.insert (blockPayload cfg.limits) TableEntry.totalSize blocks e) := by
  obtain ⟨rest, hblocks, hcount⟩ := h.newest
  have hroom := mt (blockFull_iff h.opened e.totalSize).mpr (Bool.eq_false_iff.mp hfits)
  refine ⟨by simp [TableBuild.addEntry], ⟨rest, ?_, hcount⟩, h.room, h.index⟩
  rw [hblocks, NextFit.insert_cons, if_neg hroom]
  rfl

/-- A record that does not fit the open block starts the next one. -/
lemma InBlock.insert_full (h : InBlock cfg first b blocks)
    (hfull : b.blockFull cfg e.totalSize = true) :
    NextFit.insert (blockPayload cfg.limits) TableEntry.totalSize blocks e = [e] :: blocks := by
  obtain ⟨rest, hblocks, -⟩ := h.newest
  have hroom := (blockFull_iff h.opened e.totalSize).mp hfull
  rw [hblocks, NextFit.insert_cons, if_pos hroom]

lemma returns_finish_closed (b : TableBuild) :
    Returns (fun b' => b'.blockEntries = [] ∧ b'.dataBlockCount = b.dataBlockCount + 1 ∧
      b'.indexEntries = b.indexEntries) (finishTableDataBlockUnsafe cfg b) := by
  unfold finishTableDataBlockUnsafe
  refine .bind .trivial fun _ _ => ?_
  cases encodeTableBlock cfg.blockBytes b.generation b.dataBlockCount b.blockEntries with
  | none => exact .throw
  | some block => exact .bind .trivial fun _ _ => .bind .trivial fun _ _ => .pure ⟨rfl, rfl, rfl⟩

lemma InBlock.close (h : InBlock cfg first b blocks)
    (hclosed : b₁.blockEntries = [] ∧ b₁.dataBlockCount = b.dataBlockCount + 1 ∧
      b₁.indexEntries = b.indexEntries) : AtBoundary first b₁ blocks where
  closed := hclosed.1
  count := by
    obtain ⟨rest, hblocks, hcount⟩ := h.newest
    rw [hblocks, List.length_cons, ← hcount, hclosed.2.1]
    omega
  index := by rw [hclosed.2.2, hclosed.2.1, h.index]

/-- A record for which no block is open. -/
lemma triple_placeEntry_boundary (hsource : x.InSource cfg w₀) (h : AtBoundary first b blocks)
    (hcount : b.dataBlockCount < cfg.maximumDataBlocks)
    (hroom : tail + x.copyBytes ≤ cfg.geometry.valueBankSize) :
    Triple (Merging cfg w₀ destination)
      (placeEntry cfg b x.winner x.key destination tail)
      (fun r w => Merging cfg w₀ destination w ∧ ∃ e b', r = (b', tail + x.copyBytes, true) ∧
        Placed x e ∧ InBlock cfg first b' ([e] :: blocks))
      (fun e w => Merging cfg w₀ destination w ∧ e ≠ .noMem) := by
  obtain ⟨ix, hstart⟩ := h.start hcount
  refine (triple_placeEntry hsource hstart hroom).conseq (fun _ hw => hw) (fun r w hw => ?_)
    fun _ _ hw => hw
  obtain ⟨hmerging, e, hr, hplaced⟩ := hw
  exact ⟨hmerging, e, _, hr, hplaced, h.open hcount ix e⟩

/-- Without an open block there is none to close. -/
lemma AtBoundary.append_eq (h : AtBoundary first b blocks) (winner : MergeWinner)
    (key : CompositeKey) : appendCompactionEntryUnsafe cfg b winner key destination tail =
      placeEntry cfg b winner key destination tail := by
  rw [appendCompactionEntryUnsafe_eq]
  unfold closeFullBlock TableBuild.blockFull
  rw [if_neg (by rw [h.closed]; simp)]
  exact pure_bind _ _

lemma triple_append_boundary (hsource : x.InSource cfg w₀) (h : AtBoundary first b blocks)
    (hcount : b.dataBlockCount < cfg.maximumDataBlocks)
    (hroom : tail + x.copyBytes ≤ cfg.geometry.valueBankSize) :
    Triple (Merging cfg w₀ destination)
      (appendCompactionEntryUnsafe cfg b x.winner x.key destination tail)
      (fun r w => Merging cfg w₀ destination w ∧ ∃ e b', r = (b', tail + x.copyBytes, true) ∧
        Placed x e ∧ InBlock cfg first b' ([e] :: blocks))
      (fun e w => Merging cfg w₀ destination w ∧ e ≠ .noMem) := by
  rw [h.append_eq]
  exact triple_placeEntry_boundary hsource h hcount hroom

/-- A record while a block is open: it is added to the packing, or the table is full. -/
lemma triple_append (hsource : x.InSource cfg w₀) (hslot : b.slot ∈ outputSlots cfg w₀)
    (h : InBlock cfg first b blocks)
    (hroom : tail + x.copyBytes ≤ cfg.geometry.valueBankSize) :
    Triple (Merging cfg w₀ destination)
      (appendCompactionEntryUnsafe cfg b x.winner x.key destination tail)
      (fun r w => Merging cfg w₀ destination w ∧
        ((∃ e b', r = (b', tail + x.copyBytes, true) ∧ Placed x e ∧ InBlock cfg first b'
            (NextFit.insert (blockPayload cfg.limits) TableEntry.totalSize blocks e)) ∨
          (∃ b', r = (b', tail, false) ∧ b'.dataBlockCount = cfg.maximumDataBlocks ∧
            AtBoundary first b' blocks ∧ ∀ e, Placed x e →
              NextFit.insert (blockPayload cfg.limits) TableEntry.totalSize blocks e =
                [e] :: blocks)))
      (fun e w => Merging cfg w₀ destination w ∧ e ≠ .noMem) := by
  rw [appendCompactionEntryUnsafe_eq]
  have hsize : align8 (tableEntryHeaderSize + x.key.namespaceName.length + x.key.key.length +
      x.winner.value.encodedSize) = x.entry.totalSize := rfl
  rw [hsize]
  unfold closeFullBlock
  cases hfull : b.blockFull cfg x.entry.totalSize with
  | false =>
      rw [if_neg (by decide)]
      have hstart : startDataBlock cfg b x.key x.winner.transactionSequence = some b := by
        unfold startDataBlock
        rw [if_pos h.opened]
      refine .bind (Q := fun b₁ w => Merging cfg w₀ destination w ∧ b₁ = b)
        (.pure fun w hw => ⟨hw, rfl⟩) fun b₁ => .of_pure (fun w hw => hw.2) fun hb => ?_
      rw [hb]
      refine (triple_placeEntry hsource hstart hroom).conseq (fun _ hw => hw.1) (fun r w hw => ?_)
        fun _ _ hw => hw
      obtain ⟨hmerging, e, hr, hplaced⟩ := hw
      refine ⟨hmerging, .inl ⟨e, _, hr, hplaced, h.add e ?_⟩⟩
      rw [Placed.totalSize hplaced]
      exact hfull
  | true =>
      rw [if_pos rfl]
      refine .bind (((triple_merging fun w => (within_finishTableDataBlockUnsafe b w).mono
        (fun _ _ h => h) fun _ hw => Or.inl ⟨_, hslot, hw⟩).and_returns
        (returns_finish_closed b)).and_raises (raises_finishTableDataBlockUnsafe b))
        fun b₁ => .of_pure (fun w hw => hw.2) fun hclosed => ?_
      have hboundary := h.close hclosed
      have hinsert : ∀ e, Placed x e →
          NextFit.insert (blockPayload cfg.limits) TableEntry.totalSize blocks e = [e] :: blocks :=
        fun e he => h.insert_full (by rw [he.totalSize]; exact hfull)
      rcases Nat.lt_or_ge b₁.dataBlockCount cfg.maximumDataBlocks with hcount | hcount
      · refine (triple_placeEntry_boundary hsource hboundary hcount hroom).conseq (fun _ hw => hw.1)
          (fun r w hw => ?_) fun _ _ hw => hw
        obtain ⟨hmerging, e, b', hr, hplaced, hblock⟩ := hw
        refine ⟨hmerging, .inl ⟨e, b', hr, hplaced, ?_⟩⟩
        rw [hinsert e hplaced]
        exact hblock
      · unfold placeEntry startDataBlock
        rw [if_neg (not_not.mpr hboundary.closed), if_pos hcount]
        have hlast := h.room
        have hexact : b₁.dataBlockCount = cfg.maximumDataBlocks := by
          have hstep := hclosed.2.1
          omega
        exact .pure fun w hw => ⟨hw.1, .inr ⟨b₁, rfl, hexact, hboundary, hinsert⟩⟩

/-! ## One round -/

/-- The merge state holds the packing of the records emitted so far. -/
structure Emitted (cfg : Config) (s : MergeState) (records : List TableEntry) : Prop where
  live : ∀ e ∈ records, e.live cfg.limits = true
  account : s.logicalStateBytes = (records.map TableEntry.logicalSize).sum
  idle : s.output = none → records = [] ∧ s.outputCount = 0
  building : ∀ b, s.output = some b → InBlock cfg (s.outputCount * cfg.maximumDataBlocks) b
    (NextFit.pack (blockPayload cfg.limits) TableEntry.totalSize records)

/-- Nothing has been emitted when the merge starts. -/
lemma Emitted.start (pending : List MemtableRecord) (cursors : List CompactionCursor) :
    Emitted cfg { pending := pending, cursors := cursors } [] where
  live := fun e he => absurd he List.not_mem_nil
  account := rfl
  idle := fun _ => ⟨rfl, rfl⟩
  building := fun b hb => by cases hb

/-- A bank has tables, and a table has data blocks. -/
lemma bank_nonempty (cfg : Config) : 0 < cfg.maximumDataBlocks ∧ 0 < cfg.bankSize := by
  obtain ⟨hpos, hbudget⟩ := tableBank_budget cfg.valid
  by_contra hnone
  have hzero : bankBlocks cfg.geometry cfg.limits = 0 := by
    rw [show bankBlocks cfg.geometry cfg.limits = cfg.maximumDataBlocks * cfg.bankSize from rfl]
    rcases Nat.eq_zero_or_pos cfg.maximumDataBlocks with hd | hd
    · rw [hd, Nat.zero_mul]
    · rcases Nat.eq_zero_or_pos cfg.bankSize with hb | hb
      · rw [hb, Nat.mul_zero]
      · exact absurd ⟨hd, hb⟩ hnone
  rw [hzero, Nat.zero_div, Nat.zero_mul] at hbudget
  omega

variable {s : MergeState} {records : List TableEntry}

/-- A table that is full is not the last of the bank while the account has room. -/
lemma Emitted.tables_left (h : Emitted cfg s records)
    (hbudget : s.logicalStateBytes + x.entry.logicalSize ≤ cfg.geometry.maxLiveBytes)
    (hboundary : AtBoundary (s.outputCount * cfg.maximumDataBlocks) b
      (NextFit.pack (blockPayload cfg.limits) TableEntry.totalSize records))
    (hcount : b.dataBlockCount = cfg.maximumDataBlocks)
    (hfull : ∀ e, Placed x e → NextFit.insert (blockPayload cfg.limits) TableEntry.totalSize
      (NextFit.pack (blockPayload cfg.limits) TableEntry.totalSize records) e =
        [e] :: NextFit.pack (blockPayload cfg.limits) TableEntry.totalSize records) :
    s.outputCount + 1 < cfg.bankSize := by
  have hlength := @packedBlocks_length_le _ _ cfg.valid cfg.ranges.1 (records ++ [x.entry])
    (fun e he => by
      rcases List.mem_append.mp he with hold | hnew
      · exact h.live e hold
      · rw [List.mem_singleton.mp hnew]
        exact x.live)
    (by simpa [h.account] using hbudget)
  unfold packedBlocks at hlength
  rw [List.length_reverse, NextFit.pack_append, hfull x.entry ⟨rfl, rfl, rfl, fun _ => rfl⟩,
    List.length_cons, ← hboundary.count, hcount,
    show bankBlocks cfg.geometry cfg.limits = cfg.maximumDataBlocks * cfg.bankSize from rfl]
    at hlength
  by_contra hlast
  have hmost : cfg.maximumDataBlocks * cfg.bankSize ≤
      cfg.maximumDataBlocks * (s.outputCount + 1) := Nat.mul_le_mul_left _ (not_lt.mp hlast)
  have hexpand : cfg.maximumDataBlocks * (s.outputCount + 1) =
      s.outputCount * cfg.maximumDataBlocks + cfg.maximumDataBlocks := by ring
  omega

/-- A new output table stands in its slot, with no block. -/
lemma triple_openFresh {outputCount : ℕ} (hcount : outputCount < cfg.bankSize)
    (hfirst : outputCount * cfg.maximumDataBlocks = blocks.length) :
    Triple (Merging cfg w₀ destination) (openOutput cfg outputCount)
      (fun b w => Merging cfg w₀ destination w ∧ OutputPlaced cfg w₀ b outputCount ∧
        AtBoundary (outputCount * cfg.maximumDataBlocks) b blocks ∧ b.dataBlockCount = 0)
      (fun e w => Merging cfg w₀ destination w ∧ e ≠ .noMem) := by
  have hfresh : Returns (fun b : TableBuild => AtBoundary (outputCount * cfg.maximumDataBlocks) b
      blocks ∧ b.dataBlockCount = 0) (openOutput cfg outputCount) :=
    .bind .trivial fun _ _ => .bind .trivial fun _ _ => .bind .trivial fun _ _ =>
      .pure ⟨⟨rfl, (Nat.add_zero _).trans hfirst, rfl⟩, rfl⟩
  exact (((triple_openOutput hcount).and_returns hfresh).and_raises
    (raises_openOutput outputCount)).conseq (fun _ hw => hw)
    (fun _ _ hw => ⟨hw.1.1, hw.1.2, hw.2.1, hw.2.2⟩) fun _ _ hw => hw

/-- The state behind one more record. -/
lemma Emitted.add {s' : MergeState} (h : Emitted cfg s records) (he : Placed x e)
    (hbytes : s'.logicalStateBytes = s.logicalStateBytes + x.entry.logicalSize)
    (houtput : s'.output = some b)
    (hblock : InBlock cfg (s'.outputCount * cfg.maximumDataBlocks) b
      (NextFit.insert (blockPayload cfg.limits) TableEntry.totalSize
        (NextFit.pack (blockPayload cfg.limits) TableEntry.totalSize records) e)) :
    Emitted cfg s' (records ++ [e]) where
  live := fun e' he' => by
    rcases List.mem_append.mp he' with hold | hnew
    · exact h.live e' hold
    · rw [List.mem_singleton.mp hnew]
      exact he.live
  account := by simp [hbytes, h.account, he.logicalSize]
  idle := fun hnone => by
    rw [houtput] at hnone
    cases hnone
  building := fun b' hb' => by
    rw [houtput] at hb'
    cases hb'
    rw [NextFit.pack_append]
    exact hblock

/-- **One record more.**  With room in the account and in the destination bank a record is added to
the packing, or something else than a lack of room is reported. -/
lemma triple_emitLive (hsource : x.InSource cfg w₀) (hplaced : MergePlaced cfg w₀ s)
    (h : Emitted cfg s records)
    (hbudget : s.logicalStateBytes + x.entry.logicalSize ≤ cfg.geometry.maxLiveBytes)
    (hroom : s.destinationValueTail + x.copyBytes ≤ cfg.geometry.valueBankSize) :
    Triple (Merging cfg w₀ destination) (emitWinner cfg s x.winner x.key destination)
      (fun s' w => Merging cfg w₀ destination w ∧ MergePlaced cfg w₀ s' ∧
        (∃ e, Placed x e ∧ Emitted cfg s' (records ++ [e])) ∧
        s'.logicalStateBytes = s.logicalStateBytes + x.entry.logicalSize ∧
        s'.destinationValueTail = s.destinationValueTail + x.copyBytes)
      (fun e w => Merging cfg w₀ destination w ∧ e ≠ .noMem) := by
  unfold emitWinner
  have hsize : logicalRecordSize x.key.namespaceName.length x.key.key.length x.winner.value.size =
      x.entry.logicalSize := rfl
  rw [hsize]
  refine .bind (Q := fun _ => Merging cfg w₀ destination) (Triple.failIf (fun w hw _ => hw)
    fun w hw hover => absurd hover (by omega)) fun _ => ?_
  dsimp only
  obtain ⟨hblocks, hbank⟩ := bank_nonempty cfg
  unfold currentOutput
  cases hnone : s.output with
  | none =>
      obtain ⟨hempty, hfirst⟩ := h.idle hnone
      dsimp only
      rw [hfirst]
      refine .bind (.bind (Q := fun _ => Merging cfg w₀ destination) (Triple.failIf
        (fun w hw _ => hw) fun w hw hfull => absurd hbank (not_lt.mpr hfull)) fun _ =>
        @triple_openFresh cfg w₀ destination [] 0 hbank (Nat.zero_mul _)) fun b => ?_
      refine .of_pure (fun w hw => hw.2) fun ⟨hslot, hboundary, hfresh⟩ => ?_
      refine .bind ((triple_append_boundary hsource hboundary (by rw [hfresh]; exact hblocks)
        hroom).and_returns (returns_appendCompactionEntryUnsafe _ _ _ _ _) |>.pre
        fun w hw => hw.1) fun r => .of_pure (fun w hw => And.intro hw.1.2 hw.2) fun ⟨hr, hkeep⟩ => ?_
      obtain ⟨e, b', rfl, he, hblock⟩ := hr
      dsimp only
      refine .ite (fun _ => .pure fun w hw => ?_) fun hfalse => absurd rfl hfalse
      refine ⟨hw.1.1, ?_, ⟨e, he, h.add he rfl rfl ?_⟩, rfl, rfl⟩
      · rintro output houtput
        cases houtput
        exact ⟨hslot.1, hkeep.trans hslot.2⟩
      · dsimp only
        rw [hempty, NextFit.pack_nil]
        exact hblock
  | some b =>
      have hbuilding := h.building b hnone
      have hslot := hplaced b hnone
      dsimp only
      refine .bind (Q := fun b' w => Merging cfg w₀ destination w ∧ b' = b)
        (.pure fun w hw => ⟨hw, rfl⟩) fun b' => .of_pure (fun w hw => hw.2) fun hb' => ?_
      rw [hb']
      refine .bind ((triple_append hsource hslot.mem hbuilding hroom).and_returns
        (returns_appendCompactionEntryUnsafe _ _ _ _ _) |>.pre fun w hw => hw.1) fun r =>
        .of_pure (fun w hw => And.intro hw.1.2 hw.2) fun ⟨hr, hkeep⟩ => ?_
      rcases hr with ⟨e, b₁, rfl, he, hblock⟩ | ⟨b₁, rfl, hcount, hboundary, hfull⟩
      · dsimp only
        refine .ite (fun _ => .pure fun w hw => ?_) fun hfalse => absurd rfl hfalse
        refine ⟨hw.1.1, ?_, ⟨e, he, h.add he rfl rfl hblock⟩, rfl, rfl⟩
        rintro output houtput
        cases houtput
        exact ⟨hslot.1, hkeep.trans hslot.2⟩
      · have hleft := h.tables_left hbudget hboundary hcount hfull
        dsimp only
        refine .ite (fun htrue => by cases htrue) fun _ => ?_
        have hslot₁ : OutputPlaced cfg w₀ b₁ s.outputCount := ⟨hslot.1, hkeep.trans hslot.2⟩
        refine .bind (((triple_closeOutput hslot₁ _).and_raises (raises_closeOutput _ _ _ _)).pre
          fun w hw => hw.1.1) fun _ => ?_
        refine .bind (Q := fun _ => Merging cfg w₀ destination) (Triple.failIf (fun w hw _ => hw)
          fun w hw hfew => absurd hleft (not_lt.mpr hfew)) fun _ => ?_
        refine .bind (triple_openFresh hleft ((by
          rw [← hboundary.count, hcount]
          ring) : _ = (NextFit.pack (blockPayload cfg.limits) TableEntry.totalSize
            records).length)) fun b₂ => ?_
        refine .of_pure (fun w hw => hw.2) fun ⟨hslot₂, hboundary₂, hfresh⟩ => ?_
        refine .bind ((triple_append_boundary hsource hboundary₂ (by rw [hfresh]; exact hblocks)
          hroom).and_returns (returns_appendCompactionEntryUnsafe _ _ _ _ _) |>.pre
          fun w hw => hw.1) fun r => .of_pure (fun w hw => And.intro hw.1.2 hw.2) fun ⟨hr, hkeep₂⟩ => ?_
        obtain ⟨e, b₃, rfl, he, hblock⟩ := hr
        dsimp only
        refine .bind (Q := fun _ => Merging cfg w₀ destination) (Triple.failIf
          (fun w hw _ => hw.1.1) fun w hw hfalse => by cases hfalse) fun _ => ?_
        refine .pure fun w hw => ⟨hw, ?_, ⟨e, he, h.add he rfl rfl ?_⟩, rfl, rfl⟩
        · rintro output houtput
          cases houtput
          exact ⟨hslot₂.1, hkeep₂.trans hslot₂.2⟩
        · rw [hfull e he]
          exact hblock

/-! ## All records -/

/-- The output tables of the merge so far, the one under construction included. -/
def MergeState.tableCount (s : MergeState) : ℕ :=
  s.outputCount + if s.output.isSome then 1 else 0

/-- The tables of the merge are those of the packing. -/
lemma Emitted.tableCount (h : Emitted cfg s records) :
    s.tableCount = packedTableCount cfg.geometry cfg.limits records := by
  have hpos : 0 < maximumDataBlocks cfg.geometry cfg.limits := (bank_nonempty cfg).1
  unfold MergeState.tableCount packedTableCount packedBlocks
  cases houtput : s.output with
  | none =>
      obtain ⟨hempty, hcount⟩ := h.idle houtput
      rw [hempty, hcount, NextFit.pack_nil, List.reverse_nil, List.length_nil,
        Nat.div_eq_of_lt (by omega)]
      rfl
  | some b =>
      have hblock := h.building b houtput
      obtain ⟨rest, hblocks, hcount⟩ := hblock.newest
      have hroom : b.dataBlockCount < maximumDataBlocks cfg.geometry cfg.limits := hblock.room
      have hfirst : s.outputCount * maximumDataBlocks cfg.geometry cfg.limits + b.dataBlockCount =
          rest.length := hcount
      rw [List.length_reverse, hblocks, List.length_cons, ← hfirst,
        show s.outputCount * maximumDataBlocks cfg.geometry cfg.limits + b.dataBlockCount + 1 +
            (maximumDataBlocks cfg.geometry cfg.limits - 1) =
          (b.dataBlockCount + maximumDataBlocks cfg.geometry cfg.limits) +
            s.outputCount * maximumDataBlocks cfg.geometry cfg.limits by omega,
        Nat.add_mul_div_right _ _ hpos, Nat.add_div_right _ hpos, Nat.div_eq_of_lt hroom]
      simp only [Option.isSome_some, if_true]
      omega

/-- **The run.**  Records that fit the account and the destination bank are all emitted, or
something else than a lack of room is reported. -/
lemma triple_emitWinners (winners : List (LiveWinner cfg.limits))
    (hsource : ∀ x ∈ winners, x.InSource cfg w₀) (hplaced : MergePlaced cfg w₀ s)
    (h : Emitted cfg s records)
    (hbudget : s.logicalStateBytes + (winners.map fun x => x.entry.logicalSize).sum ≤
      cfg.geometry.maxLiveBytes)
    (hroom : s.destinationValueTail + (winners.map LiveWinner.copyBytes).sum ≤
      cfg.geometry.valueBankSize) :
    Triple (Merging cfg w₀ destination) (emitWinners cfg destination winners s)
      (fun s' _ => ∃ placed, List.Forall₂ Placed winners placed ∧
        Emitted cfg s' (records ++ placed))
      (fun e _ => e ≠ .noMem) := by
  induction winners generalizing s records with
  | nil => exact .pure fun w hw => ⟨[], .nil, by rwa [List.append_nil]⟩
  | cons x rest ih =>
      unfold emitWinners
      simp only [List.map_cons, List.sum_cons] at hbudget hroom
      refine .bind ((triple_emitLive (hsource x List.mem_cons_self) hplaced h (by omega)
        (by omega)).conseq (fun _ hw => hw) (fun _ _ hw => hw) fun _ _ hw => hw.2) fun s₁ => ?_
      refine .of_pure (fun w hw => hw.2) fun ⟨hplaced₁, ⟨e, he, hemitted⟩, hbytes, htail⟩ => ?_
      refine (ih (fun y hy => hsource y (List.mem_cons_of_mem _ hy)) hplaced₁ hemitted
        (by omega) (by omega)).conseq (fun _ hw => hw.1) (fun s' w hw => ?_) fun _ _ hw => hw
      obtain ⟨placed, hrest, hfinal⟩ := hw
      exact ⟨e :: placed, .cons he hrest, by simpa using hfinal⟩

end

/-- **The accepted live set packs into one table bank.**  For every accepted geometry and limits,
every list of live records within `max_live_bytes` needs at most `table_count / 2` tables and
overflows no index block; and a merge that emits such records, whose values the destination bank has
room for, uses the tables of this packing and never reports a lack of room. -/
theorem merge_packs_live_set :
    (∀ (g : StorageGeometry) (l : LogicalLimits), validateCompactionCapacity g l = true →
      1 ≤ l.inlineValueBytes → l.inlineValueBytes ≤ 4096 →
      ∀ records : List TableEntry, (∀ e ∈ records, e.live l = true) →
        (records.map TableEntry.logicalSize).sum ≤ g.maxLiveBytes →
        packedTableCount g l records ≤ g.tableCount / 2 ∧
        ∀ t, packedIndexBytes (packedTable g l records t) ≤
          l.sstableBlockBytes - tableIndexHeaderSize) ∧
    (∀ (cfg : Config) (w : World) (winners : List (LiveWinner cfg.limits))
      (destination : Destination) (pending : List MemtableRecord)
      (cursors : List CompactionCursor), (∀ x ∈ winners, x.InSource cfg w) →
      (winners.map fun x => x.entry.logicalSize).sum ≤ cfg.geometry.maxLiveBytes →
      identityRegionSize + (winners.map LiveWinner.copyBytes).sum ≤ cfg.geometry.valueBankSize →
      match (exec (emitWinners cfg destination winners { pending := pending, cursors := cursors })
        w).1 with
      | .ok s => s.tableCount =
          packedTableCount cfg.geometry cfg.limits (winners.map LiveWinner.entry)
      | .error e => e ≠ .noMem) := by
  constructor
  · intro g l hvalid hinline _ records hlive hbudget
    refine ⟨tables_le (packedBlocks_length_le hvalid hinline hlive hbudget), fun t => ?_⟩
    have hblocks : (packedTable g l records t).length ≤ maximumDataBlocks g l :=
      List.length_take_le _ _
    calc packedIndexBytes (packedTable g l records t)
        ≤ (packedTable g l records t).length * 272 := packedIndexBytes_le _
      _ ≤ maximumDataBlocks g l * 272 := Nat.mul_le_mul_right _ hblocks
      _ ≤ l.sstableBlockBytes - tableIndexHeaderSize := index_budget hvalid
  · intro cfg w winners destination pending cursors hsource hbudget hroom
    have hidle : MergePlaced cfg w { pending := pending, cursors := cursors } :=
      fun b hb => by cases hb
    have hrun := @triple_emitWinners cfg w destination _ _ winners hsource hidle
      (Emitted.start pending cursors) (by simpa using hbudget) hroom w (refl_of (Writing _ _) w)
    rcases hexec : exec (emitWinners cfg destination winners
      { pending := pending, cursors := cursors }) w with ⟨o, w'⟩
    rw [hexec] at hrun
    cases o with
    | error e => exact hrun
    | ok s =>
        obtain ⟨placed, hplaced, hemitted⟩ := hrun
        show s.tableCount = _
        rw [hemitted.tableCount, List.nil_append]
        unfold packedTableCount packedBlocks
        rw [List.length_reverse, List.length_reverse, NextFit.length_pack_congr]
        clear hexec hemitted hsource hbudget hroom
        induction hplaced with
        | nil => rfl
        | cons he _ ih => rw [List.map_cons, List.map_cons, List.map_cons, he.totalSize, ih]

/-- A memtable record of five bytes under a one-byte key, as a winner. -/
def smallWinner : LiveWinner hostConfig.limits where
  winner := .memtable ⟨0, 1, 0, [98], .inline [1, 2, 3, 4, 5]⟩
  key := ⟨[97], [98]⟩
  valid := by decide
  live := by decide

/-- Two such records take one table, and emitting them does not run out of room. -/
theorem merge_packs_live_set_small :
    packedTableCount hostConfig.geometry hostConfig.limits [smallWinner.entry, smallWinner.entry] ≤
      2 ∧
    ∀ e w', exec (emitWinners hostConfig ⟨1, 2⟩ [smallWinner, smallWinner]
      { pending := [], cursors := [] }) (powerOn (provisionedMedia hostConfig 7) (fun _ => .none)
        (fun _ => []) fun _ => ⟨1, one_ne_zero⟩) = (.error e, w') → e ≠ .noMem := by
  refine ⟨(merge_packs_live_set.1 _ _ hostConfig.valid (by decide) (by decide)
    [smallWinner.entry, smallWinner.entry] (by decide) (by decide)).1, fun e w' hrun => ?_⟩
  have hemit := merge_packs_live_set.2 hostConfig (powerOn (provisionedMedia hostConfig 7)
    (fun _ => .none) (fun _ => []) fun _ => ⟨1, one_ne_zero⟩) [smallWinner, smallWinner] ⟨1, 2⟩ [] []
    (by simp [LiveWinner.InSource, smallWinner]) (by decide) (by decide)
  rw [hrun] at hemit
  exact hemit

end On9kvdb
