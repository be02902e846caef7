import On9kvdb.Format.TableBytes
import On9kvdb.Store.Value

/-!
# Building and validating tables

`TableBuild` is the state both table writers share: the data block under construction, the index
entries so far and the running counters of the metadata.  `validateTableUnsafe` re-reads a table
completely, compares it with its reference and rebuilds its key filter and index cache.
-/

namespace On9kvdb

variable (cfg : Config)

/-! ## Layout -/

/-- `footer_offset`. -/
def footerOffset : ℕ := cfg.geometry.tableSize - tableFooterSlotSize

/-- `index_offset`. -/
def indexOffset : ℕ := footerOffset cfg - cfg.blockBytes

/-- `maximum_data_blocks`. -/
def Config.maximumDataBlocks : ℕ :=
  (indexOffset cfg - tableDataRegionOffset) / cfg.blockBytes

/-- The bytes a table of this many data blocks counts for in `table_bytes_used`. -/
def tableFileBytes (dataBlockCount : ℕ) : ℕ :=
  tableHeaderRegionSize + (dataBlockCount + 1) * cfg.blockBytes + tableFooterSlotSize

/-! ## Validation -/

/-- What the validation of a table accumulates from entry to entry. -/
structure TableScan where
  contentCrc : UInt32 := crcInit
  totalEntries : ℕ := 0
  totalDataBytes : ℕ := 0
  previousKey : Option CompositeKey := none
  filterBits : ℕ → Bool := fun _ => false

/-- The value bank external references of a table are checked against. -/
structure BankBounds where
  bankSlot : ℕ
  bankGeneration : ℕ
  tail : ℕ

/-- The checks on one entry; `first` is the index entry when this is the first of its block. -/
def validateTableEntry (footer : TableMetadata) (bank : BankBounds)
    (first : Option TableIndexEntry) (s : TableScan) (e : TableEntry) :
    Except EspErr TableScan :=
  if e.transactionSequence < footer.minSequence ∨ footer.maxSequence < e.transactionSequence ∨
      e.value.ref?.any (fun r => valueRefMatchesBankUnsafe cfg r bank.bankSlot bank.bankGeneration
        bank.tail == false) then
    .error .invalidCrc
  else if s.previousKey.any (fun k => compareCompositeKey k e.key != .lt) ∨
      first.any (fun ix => ix.key != e.key || ix.firstSequence != e.transactionSequence) then
    .error .invalidCrc
  else
    .ok { s with
      totalEntries := s.totalEntries + 1
      totalDataBytes := s.totalDataBytes + e.totalSize
      previousKey := some e.key
      filterBits := addTableKeyFilter s.filterBits e.key }

/-- The entries of one block, the first of them with its index entry. -/
def validateTableEntries (footer : TableMetadata) (bank : BankBounds) :
    Option TableIndexEntry → TableScan → List TableEntry → Except EspErr TableScan
  | _, s, [] => .ok s
  | first, s, e :: rest => do
      let s ← validateTableEntry cfg footer bank first s e
      validateTableEntries footer bank none s rest

/-- The data blocks from `blockIndex` on, one for each remaining index entry. -/
def validateTableBlocks (m : Media) (reference : TableReference) (footer : TableMetadata)
    (bank : BankBounds) : ℕ → TableScan → List TableIndexEntry → Except EspErr TableScan
  | _, s, [] => .ok s
  | blockIndex, s, ix :: rest =>
      if ix.blockOffset ≠ blockOffset cfg blockIndex then .error .invalidCrc
      else match m.tableBlock reference.slot (blockOffset cfg blockIndex) with
        | .error _ => .error .invalidCrc
        | .ok block =>
            if block.generation ≠ footer.generation ∨ block.blockIndex ≠ blockIndex then
              .error .invalidCrc
            else do
              let s := { s with
                contentCrc := calcCrc32Update s.contentCrc (block.bytes cfg.blockBytes) }
              let s ← validateTableEntries cfg footer bank (some ix) s block.entries
              validateTableBlocks m reference footer bank (blockIndex + 1) s rest

/-- A table header or footer: its metadata, nothing when it is damaged, or an error. -/
def readTableMetadata (cell : Cell TableMetadataRecord) : Except EspErr (Option TableMetadata) :=
  match cell with
  | .ok record => .ok (some record.metadata)
  | .error .newVersion => .error .invalidVersion
  | .error _ => .ok none

/-- The reads and checks of `validate_table_unsafe`: the filter bits and the index it found. -/
def checkTable (m : Media) (reference : TableReference) (bank : BankBounds) :
    Except EspErr ((ℕ → Bool) × TableIndex) := do
  let some footer ← readTableMetadata (m.tableFooter reference.slot) | throw .invalidCrc
  rejectIf (tableReferenceEqual reference (makeTableReference footer) = false ∨
      footer.blockSize ≠ cfg.blockBytes ∨ footer.footerOffset ≠ footerOffset cfg) .invalidCrc
  let header₀ ← readTableMetadata (m.tableHeader reference.slot 0)
  rejectIf (header₀.any (· != footer) = true) .invalidCrc
  let header₁ ← readTableMetadata (m.tableHeader reference.slot 1)
  rejectIf (header₁.any (· != footer) = true) .invalidCrc
  rejectIf (header₀ = none ∧ header₁ = none) .invalidCrc
  match m.tableIndex reference.slot with
  | .error _ => .error .invalidCrc
  | .ok index =>
      rejectIf (index.generation ≠ footer.generation ∨
        index.entries.length ≠ footer.dataBlockCount) .invalidCrc
      let s ← validateTableBlocks cfg m reference footer bank 0 {} index.entries
      let contentCrc := calcCrc32Update s.contentCrc (index.bytes cfg.blockBytes)
      rejectIf (s.totalEntries ≠ footer.entryCount ∨ s.totalDataBytes ≠ footer.dataBytes ∨
          ~~~ contentCrc ≠ footer.contentChecksum) .invalidCrc
      return (s.filterBits, index)

/-- The bank of the manifest, the default of `validate_table_unsafe`. -/
def activeBankBounds (m : ManifestRecord) : BankBounds :=
  ⟨m.activeValueBank, m.valueBankGeneration m.activeValueBank, m.valueBankTail m.activeValueBank⟩

/-- `validate_table_unsafe`, with `cache_table_index_unsafe` at its end. -/
def validateTableUnsafe (reference : TableReference) (bank : BankBounds) : DbM Unit := do
  failIf (cfg.geometry.tableCount ≤ reference.slot) .invalidArg
  modifyDb fun db => { db with
    tableIndexCache := Function.update db.tableIndexCache reference.slot {}
    tableKeyFilters := Function.update db.tableKeyFilters reference.slot {} }
  failIf (valueBankCount ≤ bank.bankSlot ∨ bank.bankGeneration = 0 ∨
    cfg.geometry.valueBankSize < bank.tail) .invalidCrc
  let (bits, index) ← readStorage fun _ m => checkTable cfg m reference bank
  modifyDb fun db => { db with
    tableKeyFilters := Function.update db.tableKeyFilters reference.slot
      ⟨reference.generation, true, bits⟩ }
  if cfg.optionalCaches then
    failIf (reference.dataBlockCount = 0 ∨ cfg.maximumDataBlocks < reference.dataBlockCount)
      .invalidCrc
    modifyDb fun db => { db with
      tableIndexCache := Function.update db.tableIndexCache reference.slot
        ⟨reference.generation, true, index.firstKeys⟩ }

/-! ## Building -/

/-- `table_build_state` and the metadata that grows with it. -/
structure TableBuild where
  slot : ℕ
  generation : ℕ
  dataBlockCount : ℕ := 0
  entryCount : ℕ := 0
  dataBytes : ℕ := 0
  /-- The entries of the block under construction. -/
  blockEntries : List TableEntry := []
  indexEntries : List TableIndexEntry := []
  contentCrc : UInt32 := crcInit
  minSequence : ℕ := 0
  maxSequence : ℕ := 0
  minKey : CompositeKey := .blank
  maxKey : CompositeKey := .blank

/-- `data_payload_size`. -/
def TableBuild.dataPayloadSize (b : TableBuild) : ℕ := payloadBytes b.blockEntries

/-- The success test of `encode_table_block_header`. -/
def encodeTableBlock (blockLen generation blockIndex : ℕ) (entries : List TableEntry) :
    Option TableBlock :=
  if h : (generation != 0 && !entries.isEmpty) = true then
    if payloadBytes entries ≤ blockLen - tableBlockHeaderSize then
      some ⟨generation, blockIndex, entries, h⟩
    else none
  else none

/-- The success test of `encode_table_index_header`. -/
def encodeTableIndex (blockLen generation : ℕ) (entries : List TableIndexEntry) :
    Option TableIndex :=
  if h : (generation != 0 && !entries.isEmpty) = true then
    if indexPayloadBytes entries ≤ blockLen - tableIndexHeaderSize then
      some ⟨generation, entries, h⟩
    else none
  else none

/-- `finish_table_data_block_unsafe`. -/
def finishTableDataBlockUnsafe (b : TableBuild) : DbM TableBuild := do
  failIf (b.blockEntries = [] ∨ b.dataPayloadSize = 0) .invalidState
  match encodeTableBlock cfg.blockBytes b.generation b.dataBlockCount b.blockEntries with
  | none => throw .invalidState
  | some block =>
      failIf (cfg.geometry.tableCount ≤ b.slot) .invalidArg
      writeStorage (.tableBlock b.slot (blockOffset cfg b.dataBlockCount) block)
      return { b with
        contentCrc := calcCrc32Update b.contentCrc (block.bytes cfg.blockBytes)
        dataBlockCount := b.dataBlockCount + 1
        blockEntries := [] }

/-- Whether the next record goes to a new block: `encoded_size` against the free payload. -/
def TableBuild.blockFull (b : TableBuild) (encodedSize : ℕ) : Bool :=
  b.blockEntries != [] &&
    cfg.blockBytes - tableBlockHeaderSize - b.dataPayloadSize < encodedSize

/-- Finishes the open block when the next record does not fit it. -/
def closeFullBlock (b : TableBuild) (encodedSize : ℕ) : DbM TableBuild :=
  if b.blockFull cfg encodedSize then finishTableDataBlockUnsafe cfg b else pure b

/-- Opens a data block for `key` when none is open; `none` when the table is full. -/
def startDataBlock (b : TableBuild) (key : CompositeKey) (sequence : ℕ) : Option TableBuild :=
  if b.blockEntries ≠ [] then some b
  else if cfg.maximumDataBlocks ≤ b.dataBlockCount then none
  else
    (encodeTableIndexEntry cfg.blockBytes
      (tableIndexHeaderSize + indexPayloadBytes b.indexEntries) sequence
      (blockOffset cfg b.dataBlockCount) key).map fun ix =>
        { b with indexEntries := b.indexEntries ++ [ix] }

/-- Adds an encoded entry to the open block and to the metadata. -/
def TableBuild.addEntry (b : TableBuild) (e : TableEntry) : TableBuild :=
  { b with
    blockEntries := b.blockEntries ++ [e]
    entryCount := b.entryCount + 1
    dataBytes := b.dataBytes + e.totalSize
    minKey := if b.entryCount = 0 then e.key else b.minKey
    maxKey := e.key
    minSequence :=
      if b.entryCount = 0 then e.transactionSequence else min b.minSequence e.transactionSequence
    maxSequence :=
      if b.entryCount = 0 then e.transactionSequence else max b.maxSequence e.transactionSequence }

/-- The metadata of a finished build. -/
def TableBuild.metadata (b : TableBuild) (databaseId : ℕ) : TableMetadata where
  databaseId := databaseId
  generation := b.generation
  minSequence := b.minSequence
  maxSequence := b.maxSequence
  slot := b.slot
  blockSize := cfg.blockBytes
  dataRegionStart := tableDataRegionOffset
  dataBlockCount := b.dataBlockCount
  indexOffset := indexOffset cfg
  footerOffset := footerOffset cfg
  entryCount := b.entryCount
  dataBytes := b.dataBytes
  contentChecksum := ~~~ b.contentCrc
  minKey := b.minKey
  maxKey := b.maxKey

/-- The part of both table writers behind the last data block: index, footer, both headers, one
sync and the validation of the result. -/
def finishTableUnsafe (b : TableBuild) (bank : BankBounds) : DbM TableReference := do
  match encodeTableIndex cfg.blockBytes b.generation b.indexEntries with
  | none => throw .invalidState
  | some index =>
      failIf (cfg.geometry.tableCount ≤ b.slot) .invalidArg
      writeStorage (.tableIndex b.slot index)
      let b := { b with contentCrc := calcCrc32Update b.contentCrc (index.bytes cfg.blockBytes) }
      let db ← getDb
      let metadata := b.metadata cfg db.manifest.databaseId
      if h : validTableMetadata metadata = true then
        -- The table is unreachable until a manifest names it, so one sync covers all of it.
        let record : TableMetadataRecord := ⟨metadata, h⟩
        writeStorage (.tableFooter b.slot record)
        writeStorage (.tableHeader b.slot 0 record)
        writeStorage (.tableHeader b.slot 1 record)
        syncStorage
        let reference := makeTableReference metadata
        validateTableUnsafe cfg reference bank
        return reference
      else throw .invalidState

end On9kvdb
