import On9kvdb.Commit.Apply
import On9kvdb.Store.Stream

/-!
# What an open instance keeps in memory

`Sound` is the invariant of the memory between two calls: a sound memtable, a registry that fits
its table, staged mutations on different keys whose descriptors lie in the active value bank, and a
writer that belongs to the active transaction and fills chunks behind the tail of that bank.  It
reads five parts of the instance only (`Db.parts`).
-/

namespace On9kvdb

variable {cfg : Config}

/-! ## The parts -/

/-- Where the active value bank ends. -/
structure BankPlace where
  slot : ℕ
  generation : ℕ
  tail : ℕ

/-- The end of the active value bank. -/
def ManifestRecord.bankPlace (m : ManifestRecord) : BankPlace where
  slot := m.activeValueBank
  generation := m.valueBankGeneration m.activeValueBank
  tail := m.valueBankTail m.activeValueBank

/-- The parts of an instance that the invariant reads. -/
structure Parts where
  memtable : Memtable
  namespaces : List Bytes
  transaction : TransactionSlot
  valueWriter : ValueWriterSlot
  place : BankPlace

/-- The parts of an instance that the invariant reads. -/
def Db.parts (db : Db) : Parts where
  memtable := db.memtable
  namespaces := db.namespaces
  transaction := db.transaction
  valueWriter := db.valueWriter
  place := db.manifest.bankPlace

/-! ## Descriptors in the active bank -/

lemma valueInActiveBank_eq (m : ManifestRecord) (v : StoredValue) : valueInActiveBank cfg m v =
    v.ref?.all fun r => valueRefMatchesBankUnsafe cfg r m.bankPlace.slot m.bankPlace.generation
      m.bankPlace.tail := rfl

lemma valueInActiveBank_congr {m m' : ManifestRecord} (h : m'.bankPlace = m.bankPlace)
    (v : StoredValue) : valueInActiveBank cfg m' v = valueInActiveBank cfg m v := by
  rw [valueInActiveBank_eq, valueInActiveBank_eq, h]

/-- What lies below a tail lies below a later one. -/
lemma valueRefMatchesBankUnsafe_mono {r : ValueRef} {slot generation tail tail' : ℕ}
    (hlow : r.endOffset ≤ tail') (hbound : tail' ≤ cfg.geometry.valueBankSize)
    (h : valueRefMatchesBankUnsafe cfg r slot generation tail = true) :
    valueRefMatchesBankUnsafe cfg r slot generation tail' = true := by
  unfold valueRefMatchesBankUnsafe at h ⊢
  simp only [Bool.and_eq_true, decide_eq_true_eq] at h ⊢
  obtain ⟨⟨⟨⟨⟨⟨⟨hbank, hpos⟩, -⟩, hlarge⟩, hslot⟩, hgeneration⟩, hvalid⟩, -⟩ := h
  exact ⟨⟨⟨⟨⟨⟨⟨hbank, hpos⟩, hbound⟩, hlarge⟩, hslot⟩, hgeneration⟩, hvalid⟩, hlow⟩

lemma endOffset_le_of_matches {r : ValueRef} {slot generation tail : ℕ}
    (h : valueRefMatchesBankUnsafe cfg r slot generation tail = true) : r.endOffset ≤ tail := by
  unfold valueRefMatchesBankUnsafe at h
  simp only [Bool.and_eq_true, decide_eq_true_eq] at h
  exact h.2

/-- The active bank keeps what it holds when its tail moves on. -/
lemma valueInActiveBank_mono {m m' : ManifestRecord} {v : StoredValue} {tail : ℕ}
    (hplace : m'.bankPlace = { m.bankPlace with tail := tail }) (htail : m.bankPlace.tail ≤ tail)
    (hbound : tail ≤ cfg.geometry.valueBankSize) (h : valueInActiveBank cfg m v = true) :
    valueInActiveBank cfg m' v = true := by
  rw [valueInActiveBank_eq] at h ⊢
  rw [hplace]
  rw [Option.all_eq_true] at h ⊢
  exact fun r hr => valueRefMatchesBankUnsafe_mono
    ((endOffset_le_of_matches (h r hr)).trans htail) hbound (h r hr)

/-! ## The invariant -/

/-- A writer that fills chunks from the tail of the active bank on. -/
structure FillsBank (place : BankPlace) (writer : ValueWriterSlot) : Prop where
  bank : writer.reference.bankSlot = place.slot
  generation : writer.reference.bankGeneration = place.generation
  first : writer.reference.firstChunkOffset = place.tail
  size : writer.reference.valueSize = writer.expectedSize
  collected : writer.chunkPayloadSize ≤ writer.writtenSize
  capacity : writer.chunkPayloadSize ≤ valueChunkPayloadSize
  next : writer.nextChunkOffset = place.tail +
    chunkCount (writer.writtenSize - writer.chunkPayloadSize) * valueChunkSize
  aligned : writer.writtenSize - writer.chunkPayloadSize < writer.expectedSize →
    (writer.writtenSize - writer.chunkPayloadSize) % valueChunkPayloadSize = 0

/-- An active writer belongs to the active transaction. -/
structure WriterSound (transaction : TransactionSlot) (place : BankPlace)
    (writer : ValueWriterSlot) : Prop where
  owner : transaction.active = true ∧
    decodeHandleValue writer.transactionHandleRaw = some (0, transaction.generation)
  key : validateBytes writer.key = true
  written : writer.writtenSize ≤ writer.expectedSize
  fills : writer.inlineValue = false → FillsBank place writer

/-- The staged mutations are on different valid keys, and their descriptors in the active bank. -/
structure StagedSound (cfg : Config) (manifest : ManifestRecord) (t : TransactionSlot) : Prop where
  keys : (t.mutations.map Mutation.key).Nodup
  valid : ∀ m ∈ t.mutations, validateBytes m.key = true
  inBank : ∀ m ∈ t.mutations, valueInActiveBank cfg manifest m.value = true
  idle : t.active = false → t.mutations = []

/-- What the memory of an open instance keeps between two calls. -/
structure Sound (cfg : Config) (db : Db) : Prop where
  memtable : MemtableSound cfg db
  registry : db.namespaces.length ≤ cfg.limits.maxNamespaces
  staged : StagedSound cfg db.manifest db.transaction
  writer : db.valueWriter.active = true →
    WriterSound db.transaction db.manifest.bankPlace db.valueWriter

lemma StagedSound.congr {m m' : ManifestRecord} {t : TransactionSlot} (h : StagedSound cfg m t)
    (hplace : m'.bankPlace = m.bankPlace) : StagedSound cfg m' t :=
  ⟨h.keys, h.valid, fun n hn => by rw [valueInActiveBank_congr hplace]; exact h.inBank n hn, h.idle⟩

lemma MemtableSound.of_place {db db' : Db} (h : MemtableSound cfg db)
    (hmemtable : db'.memtable = db.memtable) (hnamespaces : db'.namespaces = db.namespaces)
    (hplace : db'.manifest.bankPlace = db.manifest.bankPlace) : MemtableSound cfg db' :=
  h.congr hmemtable fun r hr => by
    unfold memtableRecordUsable at hr ⊢
    rwa [hnamespaces, valueInActiveBank_congr hplace]

/-- **The invariant depends on five parts of the instance.** -/
lemma Sound.of_parts {db db' : Db} (h : Sound cfg db) (hparts : db'.parts = db.parts) :
    Sound cfg db' := by
  simp only [Db.parts, Parts.mk.injEq] at hparts
  obtain ⟨hmemtable, hnamespaces, htransaction, hwriter, hplace⟩ := hparts
  refine ⟨h.memtable.of_place hmemtable hnamespaces hplace, by rw [hnamespaces]; exact h.registry,
    ?_, fun hactive => ?_⟩
  · rw [htransaction]
    exact h.staged.congr hplace
  · rw [hwriter] at hactive ⊢
    rw [htransaction, hplace]
    exact h.writer hactive

/-- Without an active writer nothing is said about it. -/
lemma Sound.of_idle_writer {db : Db} {writer : ValueWriterSlot}
    (h : Sound cfg { db with valueWriter := writer }) (hidle : db.valueWriter.active = false) :
    Sound cfg db :=
  ⟨h.memtable.of_place rfl rfl rfl, h.registry, h.staged, fun hactive => by
    rw [hidle] at hactive
    cases hactive⟩

lemma Sound.resetWriter {db : Db} (h : Sound cfg db) {writer : ValueWriterSlot}
    (hidle : writer.active = false) : Sound cfg { db with valueWriter := writer } :=
  ⟨h.memtable.of_place rfl rfl rfl, h.registry, h.staged, fun hactive => by
    rw [show writer.active = false from hidle] at hactive
    cases hactive⟩

/-- What holds of a new object. -/
lemma sound_closed (a b : ℕ) : Sound cfg (Db.closed a b) where
  memtable := memtableSound_empty rfl
  registry := Nat.zero_le _
  staged := ⟨List.nodup_nil, fun _ hm => absurd hm List.not_mem_nil,
    fun _ hm => absurd hm List.not_mem_nil, fun _ => rfl⟩
  writer h := by cases h

/-! ## Tokens -/


/-- What the check of a transaction token has found. -/
lemma getTransactionUnsafe_eq_ok {db : Db} {raw : ℕ} {handle : HandleSlot}
    (h : getTransactionUnsafe cfg db raw = .ok handle) : db.transaction.active = true ∧
      decodeHandleValue raw = some (0, db.transaction.generation) := by
  unfold getTransactionUnsafe at h
  split at h
  · cases h
  · next slot generation hdecode =>
      split_ifs at h with h₁
      push Not at h₁
      obtain ⟨hslot, hactive, hgeneration⟩ := h₁
      exact ⟨by simpa using hactive, by rw [hdecode, hslot, hgeneration]⟩

/-- **A transaction that may commit or abort has no writer, and no other one has either.** -/
lemma Sound.no_writer {db : Db} (h : Sound cfg db) {raw : ℕ} {handle : HandleSlot}
    (htransaction : getTransactionUnsafe cfg db raw = .ok handle)
    (hwriter : (db.valueWriter.active && db.valueWriter.transactionHandleRaw == raw) = false) :
    db.valueWriter.active = false := by
  cases hactive : db.valueWriter.active with
  | false => rfl
  | true =>
      have howner := (h.writer hactive).owner.2
      have hraw := decodeHandleValue_inj howner (getTransactionUnsafe_eq_ok htransaction).2
      rw [hactive, hraw] at hwriter
      simp at hwriter

/-! ## Staging -/

lemma key_putMutation (mutations : List Mutation) (key : Bytes) (v : StoredValue) :
    (putMutation mutations key v).map Mutation.key =
      if mutations.any (fun m => m.key == key) then mutations.map Mutation.key
      else mutations.map Mutation.key ++ [key] := by
  unfold putMutation
  split_ifs
  · rw [List.map_map]
    refine List.map_congr_left fun m _ => ?_
    show (if m.key = key then { m with value := v } else m).key = m.key
    split_ifs <;> rfl
  · rw [List.map_append]
    rfl

/-- A staged mutation is one of the old ones or has the new key and value. -/
lemma mem_putMutation {mutations : List Mutation} {key : Bytes} {v : StoredValue} {m : Mutation}
    (h : m ∈ putMutation mutations key v) :
    m ∈ mutations ∨ m.key = key ∧ m.value = v := by
  unfold putMutation at h
  split_ifs at h
  · obtain ⟨n, hn, rfl⟩ := List.mem_map.mp h
    by_cases hkey : n.key = key
    · rw [if_pos hkey]
      exact Or.inr ⟨hkey, rfl⟩
    · rw [if_neg hkey]
      exact Or.inl hn
  · rcases List.mem_append.mp h with h | h
    · exact Or.inl h
    · rw [List.mem_singleton] at h
      rw [h]
      exact Or.inr ⟨rfl, rfl⟩

/-- Staging keeps the staged mutations sound. -/
lemma StagedSound.put {m : ManifestRecord} {t : TransactionSlot} (h : StagedSound cfg m t)
    {key : Bytes} {v : StoredValue} (hkey : validateBytes key = true)
    (hvalue : valueInActiveBank cfg m v = true) (hactive : t.active = true) (stagedBytes : ℕ) :
    StagedSound cfg m { t with
      mutations := putMutation t.mutations key v
      stagedValueBytes := stagedBytes } := by
  refine ⟨?_, fun n hn => ?_, fun n hn => ?_, fun hidle => ?_⟩
  · rw [key_putMutation]
    split_ifs with hany
    · exact h.keys
    · refine List.nodup_append.mpr ⟨h.keys, List.nodup_singleton _, fun a ha b hb hab => ?_⟩
      rw [List.mem_singleton] at hb
      obtain ⟨n, hn, rfl⟩ := List.mem_map.mp ha
      refine hany (List.any_eq_true.mpr ⟨n, hn, ?_⟩)
      rw [hab, hb]
      exact beq_self_eq_true key
  · rcases mem_putMutation hn with hold | ⟨hk, -⟩
    · exact h.valid n hold
    · rw [hk]
      exact hkey
  · rcases mem_putMutation hn with hold | ⟨-, hv⟩
    · exact h.inBank n hold
    · rw [hv]
      exact hvalue
  · rw [show t.active = false from hidle] at hactive
    cases hactive

/-- What a successful staging does. -/
lemma stageValueUnsafe_eq_ok {db db' : Db} {raw : ℕ} {key : Bytes} {v : StoredValue}
    (h : stageValueUnsafe cfg db raw key v = .ok db') :
    validateBytes key = true ∧ db.transaction.active = true ∧ ∃ stagedBytes, db' = { db with
      transaction := { db.transaction with
        mutations := putMutation db.transaction.mutations key v
        stagedValueBytes := stagedBytes } } := by
  unfold stageValueUnsafe at h
  rw [bind_eq_ok] at h
  obtain ⟨_, hkey, h⟩ := h
  rw [bind_eq_ok] at h
  obtain ⟨_, htransaction, h⟩ := h
  dsimp only at h
  rw [bind_eq_ok] at h
  obtain ⟨_, -, h⟩ := h
  rw [bind_eq_ok] at h
  obtain ⟨_, -, h⟩ := h
  cases h
  have hvalid := rejectIf_eq_ok.mp hkey
  push Not at hvalid
  exact ⟨by simpa using hvalid.1, (getTransactionUnsafe_eq_ok htransaction).1, _, rfl⟩

/-- **Staging a value that is inline or in the active bank keeps the invariant.** -/
theorem Sound.stageValue {db db' : Db} (h : Sound cfg db) {raw : ℕ} {key : Bytes} {v : StoredValue}
    (hvalue : valueInActiveBank cfg db.manifest v = true)
    (hstage : stageValueUnsafe cfg db raw key v = .ok db') : Sound cfg db' := by
  obtain ⟨hkey, hactive, stagedBytes, rfl⟩ := stageValueUnsafe_eq_ok hstage
  refine ⟨h.memtable.of_place rfl rfl rfl, h.registry, h.staged.put hkey hvalue hactive _,
    fun hwriter => ?_⟩
  have hsound := h.writer hwriter
  exact ⟨hsound.owner, hsound.key, hsound.written, hsound.fills⟩

/-! ## The writer -/

/-- The chunks of whole chunks and a part of one. -/
lemma chunkCount_add {flushed part : ℕ} (hflushed : flushed % valueChunkPayloadSize = 0)
    (hpos : 0 < part) (hle : part ≤ valueChunkPayloadSize) :
    chunkCount (flushed + part) = chunkCount flushed + 1 := by
  unfold chunkCount
  simp only [valueChunkPayloadSize, valueChunkSize, formatAlignment] at *
  omega

section
variable {place : BankPlace} {writer : ValueWriterSlot}

/-- Collecting bytes for the current chunk. -/
lemma FillsBank.append (h : FillsBank place writer) (hexternal : writer.inlineValue = false)
    {part : Bytes} (hpart : part.length ≤ valueChunkPayloadSize - writer.chunkPayloadSize) :
    FillsBank place (writer.append part) := by
  have hcapacity := h.capacity
  have hcollected := h.collected
  have hflushed : writer.writtenSize + part.length - (writer.chunkPayloadSize + part.length) =
      writer.writtenSize - writer.chunkPayloadSize := by omega
  obtain ⟨hbank, hgeneration, hfirst, hsize, -, -, hnext, haligned⟩ := h
  unfold ValueWriterSlot.append
  rw [hexternal]
  refine ⟨hbank, hgeneration, hfirst, hsize, ?_, ?_, ?_, ?_⟩
  · dsimp only
    simp only [Bool.false_eq_true, if_false]
    omega
  · dsimp only
    simp only [Bool.false_eq_true, if_false]
    omega
  · dsimp only
    simp only [Bool.false_eq_true, if_false]
    rw [hflushed]
    exact hnext
  · dsimp only
    simp only [Bool.false_eq_true, if_false]
    rw [hflushed]
    exact haligned

/-- Writing the collected chunk. -/
lemma FillsBank.flush (h : FillsBank place writer) (hpos : writer.chunkPayloadSize ≠ 0)
    (hwritten : writer.writtenSize ≤ writer.expectedSize)
    (hfull : writer.chunkPayloadSize = valueChunkPayloadSize ∨
      writer.writtenSize = writer.expectedSize) (buffer : Bytes) :
    FillsBank place { writer with
      nextChunkOffset := writer.nextChunkOffset + valueChunkSize
      chunkPayloadSize := 0
      buffer := buffer } := by
  obtain ⟨hbank, hgeneration, hfirst, hsize, hcollected, hcapacity, hnext, haligned⟩ := h
  have hflushed := haligned (by omega)
  have hcount := chunkCount_add hflushed (Nat.pos_of_ne_zero hpos) hcapacity
  rw [Nat.sub_add_cancel hcollected] at hcount
  refine ⟨hbank, hgeneration, hfirst, hsize, Nat.zero_le _, Nat.zero_le _, ?_, fun hlt => ?_⟩
  · dsimp only
    rw [Nat.sub_zero, hcount, hnext]
    ring
  · dsimp only at hlt ⊢
    rw [Nat.sub_zero] at hlt ⊢
    have hpayload := hfull.resolve_right (by omega)
    simp only [valueChunkPayloadSize, valueChunkSize, formatAlignment] at *
    omega

/-- A complete value ends where the next chunk would begin. -/
lemma FillsBank.complete (h : FillsBank place writer) (hwritten : writer.writtenSize =
      writer.expectedSize) (hflushed : writer.chunkPayloadSize = 0) (checksum : UInt32) :
    ValueRef.endOffset { writer.reference with valueChecksum := checksum } =
      writer.nextChunkOffset := by
  unfold ValueRef.endOffset
  rw [h.next, hflushed, Nat.sub_zero, hwritten, ← h.size, ← h.first]

end

/-- The end of the active bank behind a finished value. -/
lemma bankPlace_publishWriterTail {db : Db}
    (h : db.valueWriter.reference.bankSlot = db.manifest.activeValueBank) :
    (publishWriterTail db).manifest.bankPlace =
      { db.manifest.bankPlace with tail := db.valueWriter.nextChunkOffset } := by
  unfold publishWriterTail ManifestRecord.bankPlace
  dsimp only
  rw [h, Function.update_self]

/-- **A finished external value is staged inside the active bank.** -/
theorem Sound.stageExternal {db db' : Db} (h : Sound cfg db)
    (hactive : db.valueWriter.active = true) (hexternal : db.valueWriter.inlineValue = false)
    (hwritten : db.valueWriter.writtenSize = db.valueWriter.expectedSize)
    (hflushed : db.valueWriter.chunkPayloadSize = 0)
    (hstage : stageWriterValue cfg db = .ok db') {writer : ValueWriterSlot}
    (hidle : writer.active = false) :
    Sound cfg { publishWriterTail db' with valueWriter := writer } := by
  have hwriter := h.writer hactive
  have hfills := hwriter.fills hexternal
  unfold stageWriterValue at hstage
  dsimp only at hstage
  rw [hexternal, if_neg (by decide)] at hstage
  obtain ⟨r, hr⟩ : ∃ r, r = { db.valueWriter.reference with
    valueChecksum := ~~~ db.valueWriter.checksumState } := ⟨_, rfl⟩
  have hend : r.endOffset = db.valueWriter.nextChunkOffset := by
    rw [hr]
    exact hfills.complete hwritten hflushed _
  have hfirst : r.firstChunkOffset = db.manifest.bankPlace.tail := by
    rw [hr]
    exact hfills.first
  rw [← hr] at hstage
  unfold stageExternalValueUnsafe at hstage
  rw [bind_eq_ok] at hstage
  obtain ⟨_, hmatches, hstage⟩ := hstage
  rw [bind_eq_ok] at hstage
  obtain ⟨middle, hmiddle, hstage⟩ := hstage
  cases hstage
  have hmatches' := Bool.eq_true_of_not_eq_false (rejectIf_eq_ok.mp hmatches)
  obtain ⟨hkey, htransaction, stagedBytes, rfl⟩ := stageValueUnsafe_eq_ok hmiddle
  have hplace := bankPlace_publishWriterTail hfills.bank
  have hbound : db.valueWriter.nextChunkOffset ≤ cfg.geometry.valueBankSize := by
    rw [← hend]
    exact endOffset_le_of_matches hmatches'
  have hgrows : db.manifest.bankPlace.tail ≤ db.valueWriter.nextChunkOffset := by
    rw [← hend, ← hfirst]
    exact Nat.le_add_right _ _
  have hlater : ∀ v, valueInActiveBank cfg db.manifest v = true →
      valueInActiveBank cfg (publishWriterTail db).manifest v = true := fun v hv =>
    valueInActiveBank_mono hplace hgrows hbound hv
  have hnew : valueInActiveBank cfg (publishWriterTail db).manifest (.external r) = true := by
    rw [valueInActiveBank_eq, hplace]
    exact valueRefMatchesBankUnsafe_mono hend.le hbound hmatches'
  have hold : StagedSound cfg (publishWriterTail db).manifest db.transaction :=
    ⟨h.staged.keys, h.staged.valid, fun n hn => hlater _ (h.staged.inBank n hn), h.staged.idle⟩
  refine ⟨h.memtable.congr rfl fun r' hr' => ?_, h.registry, ?_, fun hw => ?_⟩
  · unfold memtableRecordUsable at hr' ⊢
    simp only [Bool.and_eq_true] at hr' ⊢
    exact ⟨hr'.1, hlater _ hr'.2⟩
  · exact (hold.put hkey rfl htransaction stagedBytes).put hkey hnew htransaction stagedBytes
  · rw [show writer.active = false from hidle] at hw
    cases hw

end On9kvdb
