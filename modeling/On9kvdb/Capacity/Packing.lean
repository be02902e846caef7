import On9kvdb.Lib.NextFit
import On9kvdb.Format.Records

/-!
# Room for the live records in one table bank

The table builders pack records by next-fit: a record that does not fit the open data block starts
the next one, and a table whose data blocks are used up is followed by the next table.
`validate_compaction_capacity` accepts a live set of half the bank's payload; `packedBlocks_length_le`
is the pairing argument behind it.  A record with a descriptor in place of a short value is larger in
a block than in the account: with inline limits below 23 the argument uses that all records are short.
-/

namespace On9kvdb

/-! ## Live records -/

/-- A value as this build stores it: inline up to the inline limit, external above it. -/
def StoredValue.live (inlineLimit : ℕ) : StoredValue → Bool
  | .tombstone => false
  | .inline bytes => bytes.length ≤ inlineLimit
  | .external r => inlineLimit < r.valueSize

/-- The record is live. -/
def TableEntry.live (l : LogicalLimits) (e : TableEntry) : Bool :=
  e.value.live l.inlineValueBytes

/-- The payload of one block. -/
def blockPayload (l : LogicalLimits) : ℕ := l.sstableBlockBytes - tableBlockHeaderSize

/-- The data blocks of one table bank. -/
def bankBlocks (g : StorageGeometry) (l : LogicalLimits) : ℕ :=
  maximumDataBlocks g l * (g.tableCount / 2)

/-- The data blocks the records are packed into, in the order they are written. -/
def packedBlocks (l : LogicalLimits) (records : List TableEntry) : List (List TableEntry) :=
  (NextFit.pack (blockPayload l) TableEntry.totalSize records).reverse

/-- The data blocks of table number `t`. -/
def packedTable (g : StorageGeometry) (l : LogicalLimits) (records : List TableEntry) (t : ℕ) :
    List (List TableEntry) :=
  ((packedBlocks l records).drop (t * maximumDataBlocks g l)).take (maximumDataBlocks g l)

/-- The tables the records are packed into. -/
def packedTableCount (g : StorageGeometry) (l : LogicalLimits) (records : List TableEntry) : ℕ :=
  ((packedBlocks l records).length + (maximumDataBlocks g l - 1)) / maximumDataBlocks g l

/-- The bytes of an index entry for `key`. -/
def indexEntrySize (key : CompositeKey) : ℕ :=
  (tableIndexEntryHeaderSize + key.namespaceName.length + key.key.length + 3) / 4 * 4

/-- The index bytes of a table: one entry for the first record of each data block. -/
def packedIndexBytes (blocks : List (List TableEntry)) : ℕ :=
  (blocks.map fun block => (block.head?.map fun e => indexEntrySize e.key).getD 0).sum

section
variable {g : StorageGeometry} {l : LogicalLimits}

/-! ## The checks -/

/-- The check counts the data blocks of a table as the builders do. -/
lemma maximumDataBlocks_eq (g : StorageGeometry) (l : LogicalLimits) :
    (g.tableSize - tableDataRegionOffset - l.sstableBlockBytes - tableFooterSlotSize) /
      l.sstableBlockBytes = maximumDataBlocks g l := by
  unfold maximumDataBlocks
  generalize tableDataRegionOffset = front
  generalize tableFooterSlotSize = back
  rw [show g.tableSize - front - l.sstableBlockBytes - back =
    g.tableSize - back - l.sstableBlockBytes - front by omega]

/-- The check on the table banks, with the blocks of a bank counted as the builders count them. -/
lemma tableBank_budget (h : validateCompactionCapacity g l = true) :
    0 < g.maxLiveBytes ∧ g.maxLiveBytes ≤ bankBlocks g l / 2 * blockPayload l := by
  simp only [validateCompactionCapacity, validateStorageGeometry, Bool.and_eq_true,
    decide_eq_true_eq, bne_iff_ne, maximumDataBlocks_eq] at h
  obtain ⟨⟨⟨⟨⟨⟨hg, -⟩, -⟩, -⟩, -⟩, -⟩, hlive⟩ := h
  have hpos := hg.1.1.1.1.1.1.1.1.1.1.1.1.1.1.1.1.2
  exact ⟨Nat.pos_of_ne_zero hpos, hlive⟩

/-- The check on the index block. -/
lemma index_budget (h : validateCompactionCapacity g l = true) :
    maximumDataBlocks g l * 272 ≤ l.sstableBlockBytes - tableIndexHeaderSize := by
  simp only [validateCompactionCapacity, Bool.and_eq_true, decide_eq_true_eq,
    maximumDataBlocks_eq] at h
  exact h.1.1.2

/-- A block holds more than the largest record, and at least 4096 bytes. -/
lemma block_budget (h : validateCompactionCapacity g l = true) :
    4032 ≤ blockPayload l ∧ l.sstableBlockBytes % formatAlignment = 0 ∧
      tableEntryHeaderSize + 2 * maxNameLen + l.inlineValueBytes < blockPayload l := by
  simp only [validateCompactionCapacity, validateLogicalLimits, Bool.and_eq_true, decide_eq_true_eq,
    beq_iff_eq] at h
  obtain ⟨⟨⟨⟨⟨⟨-, hl⟩, -⟩, -⟩, -⟩, -⟩, -⟩ := h
  obtain ⟨⟨-, haligned⟩, hblock⟩ := hl
  simp only [tableBlockHeaderSize, tableEntryHeaderSize, maxNameLen, formatAlignment,
    blockPayload] at haligned hblock ⊢
  omega

/-! ## One record -/

lemma key_lengths (e : TableEntry) :
    1 ≤ e.key.namespaceName.length ∧ e.key.namespaceName.length ≤ maxNameLen ∧
      1 ≤ e.key.key.length ∧ e.key.key.length ≤ maxNameLen := by
  have h := e.valid
  simp only [CompositeKey.valid, validateBytes, Bool.and_eq_true, decide_eq_true_eq] at h
  obtain ⟨⟨-, hnamespace, hkey⟩, -⟩ := h
  exact ⟨hnamespace.1, hnamespace.2, hkey.1, hkey.2⟩

/-- The account never undercounts a record by more than a descriptor. -/
lemma totalSize_le {e : TableEntry} (h : e.live l = true) :
    (23 ≤ l.inlineValueBytes → e.totalSize ≤ e.logicalSize) ∧
    (1 ≤ l.inlineValueBytes → l.inlineValueBytes ≤ 22 →
      4 * e.totalSize ≤ 7 * e.logicalSize ∧ e.totalSize ≤ 304) := by
  have hkey := key_lengths e
  unfold TableEntry.live at h
  unfold TableEntry.totalSize TableEntry.logicalSize logicalRecordSize align8
  cases hvalue : e.value with
  | tombstone =>
      rw [hvalue] at h
      cases h
  | inline bytes =>
      rw [hvalue] at h
      simp only [StoredValue.live, decide_eq_true_eq, StoredValue.encodedSize,
        StoredValue.inlineSize, StoredValue.inlineBytes, StoredValue.size, tableEntryHeaderSize,
        maxNameLen] at h hkey ⊢
      omega
  | external r =>
      rw [hvalue] at h
      simp only [StoredValue.live, decide_eq_true_eq, StoredValue.encodedSize,
        valueRefEncodedSize, StoredValue.size, tableEntryHeaderSize, maxNameLen] at h hkey ⊢
      omega

/-- The records' own sizes against the account, added up. -/
lemma load_le (records : List TableEntry) (h : ∀ e ∈ records, e.live l = true) :
    (23 ≤ l.inlineValueBytes →
      NextFit.load TableEntry.totalSize records ≤ (records.map TableEntry.logicalSize).sum) ∧
    (1 ≤ l.inlineValueBytes → l.inlineValueBytes ≤ 22 →
      4 * NextFit.load TableEntry.totalSize records ≤
        7 * (records.map TableEntry.logicalSize).sum) := by
  unfold NextFit.load
  induction records with
  | nil => simp
  | cons e rest ih =>
      obtain ⟨hlong, hshort⟩ := totalSize_le (h e List.mem_cons_self)
      obtain ⟨ihlong, ihshort⟩ := ih fun e' he' => h e' (List.mem_cons_of_mem _ he')
      simp only [List.map_cons, List.sum_cons]
      refine ⟨fun hl => Nat.add_le_add (hlong hl) (ihlong hl), fun h₁ h₂ => ?_⟩
      have hfirst := (hshort h₁ h₂).1
      have hrest := ihshort h₁ h₂
      omega

/-! ## The bank -/

/-- More blocks than the bank has are more records than the account allows: pairwise, when no record
outgrows its account. -/
lemma blocks_le_of_pairs {blocks bank payload : ℕ} (hpos : 0 < bank / 2)
    (h : blocks / 2 * (payload + 1) ≤ bank / 2 * payload) : blocks ≤ bank := by
  by_contra hmore
  have hhalf : bank / 2 ≤ blocks / 2 := by omega
  have hlow : bank / 2 * (payload + 1) ≤ bank / 2 * payload :=
    (Nat.mul_le_mul_right _ hhalf).trans h
  have hstrict : bank / 2 * payload < bank / 2 * (payload + 1) :=
    Nat.mul_lt_mul_of_pos_left (Nat.lt_succ_self _) hpos
  omega

/-- One by one, when all records are short. -/
lemma blocks_le_of_closed {blocks bank payload load : ℕ} (hpos : 0 < bank / 2)
    (hpayload : 4032 ≤ payload)
    (hclosed : (blocks - 1) * (payload + 1) ≤ load + (blocks - 1) * 304)
    (hload : 4 * load ≤ 7 * (bank / 2 * payload)) : blocks ≤ bank := by
  by_contra hmore
  obtain ⟨extra, hextra⟩ : ∃ extra, blocks - 1 = bank + extra := ⟨blocks - 1 - bank, by omega⟩
  rw [hextra] at hclosed
  have hfilled : (bank + extra) * (payload - 303) ≤ load := by
    have hsplit : (bank + extra) * (payload + 1) =
        (bank + extra) * (payload - 303) + (bank + extra) * 304 := by
      rw [← Nat.mul_add]
      congr 1
      omega
    omega
  have hbank : bank * (payload - 303) ≤ load :=
    (Nat.mul_le_mul_right _ (Nat.le_add_right bank extra)).trans hfilled
  have hratio : 7 * payload < 8 * (payload - 303) := by omega
  have htwice : 2 * (bank / 2) ≤ bank := Nat.mul_div_le bank 2
  have hless : bank * (7 * payload) < bank * (8 * (payload - 303)) :=
    Nat.mul_lt_mul_of_pos_left hratio (by omega)
  have hmost : 2 * (bank / 2) * payload ≤ bank * payload := Nat.mul_le_mul_right _ htwice
  have h₁ : bank * (7 * payload) = 7 * (bank * payload) := by ring
  have h₂ : bank * (8 * (payload - 303)) = 8 * (bank * (payload - 303)) := by ring
  have h₃ : 2 * (bank / 2) * payload = 2 * (bank / 2 * payload) := by ring
  omega

/-- **The accepted live set is packed into the blocks of one bank.** -/
theorem packedBlocks_length_le (hvalid : validateCompactionCapacity g l = true)
    (hinline : 1 ≤ l.inlineValueBytes) {records : List TableEntry}
    (hlive : ∀ e ∈ records, e.live l = true)
    (hbudget : (records.map TableEntry.logicalSize).sum ≤ g.maxLiveBytes) :
    (packedBlocks l records).length ≤ bankBlocks g l := by
  obtain ⟨hpositive, hbank⟩ := tableBank_budget hvalid
  obtain ⟨hpayload, -, -⟩ := block_budget hvalid
  have hhalf : 0 < bankBlocks g l / 2 := by
    rcases Nat.eq_zero_or_pos (bankBlocks g l / 2) with hzero | hpos
    · rw [hzero, Nat.zero_mul] at hbank
      omega
    · exact hpos
  obtain ⟨hlong, hshort⟩ := load_le records hlive
  have hpack := @NextFit.total_pack _ (blockPayload l) TableEntry.totalSize records
  unfold packedBlocks
  rw [List.length_reverse]
  rcases Nat.lt_or_ge l.inlineValueBytes 23 with hsmall | hlarge
  · have hclosed := (@NextFit.closedWithin_pack _ (blockPayload l) 304 _ records fun e he =>
      ((totalSize_le (hlive e he)).2 hinline (by omega)).2).length_le
    rw [hpack] at hclosed
    exact blocks_le_of_closed hhalf hpayload hclosed
      ((hshort hinline (by omega)).trans (Nat.mul_le_mul_left 7 (hbudget.trans hbank)))
  · have hpairs := (@NextFit.adjacent_pack _ (blockPayload l) TableEntry.totalSize
      records).length_le
    rw [hpack] at hpairs
    exact blocks_le_of_pairs hhalf (hpairs.trans ((hlong hlarge).trans (hbudget.trans hbank)))

/-! ## Tables and their index -/

/-- As many tables as a bank has are enough for its blocks. -/
lemma tables_le {blocks dataBlocks tables : ℕ} (h : blocks ≤ dataBlocks * tables) :
    (blocks + (dataBlocks - 1)) / dataBlocks ≤ tables := by
  rcases Nat.eq_zero_or_pos dataBlocks with hzero | hpos
  · rw [hzero, Nat.div_zero]
    exact Nat.zero_le _
  · rw [← Nat.lt_succ_iff, Nat.div_lt_iff_lt_mul hpos, Nat.succ_mul, Nat.mul_comm tables]
    omega

/-- An index entry of a valid key has at most 272 bytes. -/
lemma indexEntrySize_le (e : TableEntry) : indexEntrySize e.key ≤ 272 := by
  have hkey := key_lengths e
  simp only [indexEntrySize, tableIndexEntryHeaderSize, maxNameLen] at hkey ⊢
  omega

lemma packedIndexBytes_le (blocks : List (List TableEntry)) :
    packedIndexBytes blocks ≤ blocks.length * 272 := by
  unfold packedIndexBytes
  induction blocks with
  | nil => simp
  | cons block rest ih =>
      simp only [List.map_cons, List.sum_cons, List.length_cons, Nat.add_mul, one_mul]
      have hfirst : (block.head?.map fun e => indexEntrySize e.key).getD 0 ≤ 272 := by
        cases block with
        | nil => simp
        | cons e _ => exact indexEntrySize_le e
      omega

end

end On9kvdb
