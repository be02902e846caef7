import On9kvdb.Durable.Reads
import On9kvdb.Io.Bytes
import On9kvdb.Replay.Parse
import On9kvdb.Store.Recovery

/-!
# Scanning the log of a device

`scan_wal_slot` over the bytes of a block device.  A frame outside the record region of the slot, a
copy past the end of the staging arena, and a loop that has not ended after as many rounds as the
region has frames have no outcome here; `recovery_is_safe` shows that none of this happens.

The replay of a parsed transaction is that of `Store.Recovery`, which reads the tables as records.
-/

namespace On9kvdb

namespace Replay

open Guarded Patch Durable

/-- A method that reads the device and memory. -/
abbrev Access (α : Type) := Prog BlockDevice EspErr α

def walHeaderRegionOffset : ℕ := identityRegionSize
def walHeaderSlotSize : ℕ := formatAlignment

/-- `CONFIG_ON9KVDB_TRANSACTION_STAGING_SIZE + transaction_recovery_overhead`: the bytes `init`
allocates for `transaction_staging`. -/
def transactionStagingSize (cfg : Config) : ℕ :=
  cfg.limits.transactionStagingBytes +
    (8 + maxNameLen + On9kvdb.maxTransactionMutations * (32 + maxNameLen))

variable (cfg : Config)

/-! ## Frames and headers -/

/-- `read_storage_bytes_unsafe` for a frame, into `io_frame`; the frame has to lie in the record
region. -/
def readWalFrame (slot offset : ℕ) : Access Bytes := do
  require (walRecordRegionOffset ≤ offset ∧ offset + walFrameSize ≤ cfg.geometry.walSize)
  perform (readStorageBytesUnsafe cfg.geometry (.data .wal slot) offset walFrameSize)

/-- One copy of the header, after those that led to `selected`. -/
def loadHeaderCopy (manifest : On9kvdb.ManifestRecord) (slot : ℕ) (expectedGeneration : UInt64)
    (copySlot : ℕ) (selected : Option Durable.WalHeader) : Access (Option Durable.WalHeader) := do
  let encoded ← perform (readStorageBytesUnsafe cfg.geometry (.data .wal slot)
    (walHeaderRegionOffset + copySlot * walHeaderSlotSize) walHeaderSize)
  match ← attempt (decodeWalHeader encoded) with
  | .error status =>
      raiseIf (status.isVersion = true) .invalidVersion
      return selected
  | .ok candidate =>
      raiseIf (candidate.databaseId.toNat ≠ manifest.databaseId ∨
        candidate.slot.toNat ≠ slot ∨ candidate.generation ≠ expectedGeneration ∨
        candidate.recordRegionEnd.toNat ≠ cfg.geometry.walSize) .invalidCrc
      raiseIf (selected.any (fun header => header != candidate) = true) .invalidCrc
      return some candidate

/-- `load_wal_header`. -/
def loadWalHeader (manifest : On9kvdb.ManifestRecord) (slot : ℕ) (expectedGeneration : UInt64) :
    Access Durable.WalHeader := do
  raiseIf (walFileCount ≤ slot ∨ expectedGeneration = 0) .invalidArg
  let selected ← loadHeaderCopy cfg manifest slot expectedGeneration 0 none
  let selected ← loadHeaderCopy cfg manifest slot expectedGeneration 1 selected
  match selected with
  | none => throw .invalidCrc
  | some header => return header

/-! ## Looking for a later frame -/

/-- One round of the loop of `find_later_wal_frame_unsafe`. -/
def findLaterRound (manifest : On9kvdb.ManifestRecord) (slot regionEnd : ℕ)
    (generation minimumSequence : UInt64) (offset : ℕ) : Access (ℕ ⊕ Bool) := do
  if offset ≤ wrapSub 32 regionEnd walFrameSize then
    let ioFrame ← readWalFrame cfg slot offset
    match ← attempt (decodeWalFrame ioFrame) with
    | .error status =>
        raiseIf (status.isVersion = true) .invalidVersion
        return .inl (wrapAdd 32 offset walFrameSize)
    | .ok candidate =>
        if candidate.databaseId.toNat = manifest.databaseId ∧
            candidate.walGeneration = generation ∧
            minimumSequence ≤ candidate.transactionSequence then return .inr true
        else return .inl (wrapAdd 32 offset walFrameSize)
  else return .inr false

/-- `find_later_wal_frame_unsafe`. -/
def findLaterWalFrame (manifest : On9kvdb.ManifestRecord) (slot startOffset regionEnd : ℕ)
    (generation minimumSequence : UInt64) : Access Bool := do
  raiseIf (walFileCount ≤ slot ∨ regionEnd < startOffset ∨ generation = 0 ∨ minimumSequence = 0)
    .invalidArg
  iterate (findLaterRound cfg manifest slot regionEnd generation minimumSequence)
    (regionEnd / walFrameSize + 1) startOffset

/-! ## The frames of a transaction -/

/-- `static_cast<uint32_t>(count) * wal_frame_size`. -/
def frameBytes (count : ℕ) : ℕ := count * walFrameSize % 2 ^ 32

/-- The locals of the frame loop, and the arena it copies to. -/
structure FrameState where
  frameIndex : ℕ
  payloadOffset : ℕ
  transactionCrc : UInt32
  transactionStaging : Bytes

/-- How the frame loop ends: at a frame that does not continue the transaction, or behind all. -/
inductive FrameResult
  | broken (frameIndex : ℕ)
  | complete (s : FrameState)

/-- Whether a frame continues the transaction `first` began. -/
def continuesTransaction (first frame : WalFrameHeader) (s : FrameState) : Bool :=
  frame.databaseId == first.databaseId && frame.walGeneration == first.walGeneration &&
  frame.transactionSequence == first.transactionSequence &&
  frame.frameIndex.toNat == s.frameIndex && frame.frameCount == first.frameCount &&
  frame.mutationCount == first.mutationCount &&
  frame.transactionPayloadSize == first.transactionPayloadSize &&
  frame.transactionChecksum == first.transactionChecksum &&
  frame.payloadSize.toNat ≤ wrapSub 32 first.transactionPayloadSize.toNat s.payloadOffset

/-- One round of the frame loop of `scan_wal_slot`. -/
def frameRound (slot offset : ℕ) (first : WalFrameHeader) (s : FrameState) :
    Access (FrameState ⊕ FrameResult) := do
  if s.frameIndex < first.frameCount.toNat then
    let ioFrame ← readWalFrame cfg slot (wrapAdd 32 offset (frameBytes s.frameIndex))
    match ← attempt (decodeWalFrame ioFrame) with
    | .error status =>
        raiseIf (status.isVersion = true) .invalidVersion
        return .inr (.broken s.frameIndex)
    | .ok frame =>
        if continuesTransaction first frame s then
          let payloadPart ← loadRange ioFrame walFrameHeaderSize frame.payloadSize.toNat
          let transactionStaging ← store s.transactionStaging s.payloadOffset payloadPart
          return .inl {
            frameIndex := wrapAdd 16 s.frameIndex 1
            payloadOffset := wrapAdd 32 s.payloadOffset frame.payloadSize.toNat
            transactionCrc := calcCrc32Update s.transactionCrc payloadPart
            transactionStaging := transactionStaging }
        else return .inr (.broken s.frameIndex)
  else return .inr (.complete s)

/-! ## Transactions -/

/-- The value of a parsed mutation, its bytes taken from the payload. -/
def stagedMutation (payload : Bytes) (m : MutationSlot) : Access Mutation := do
  match m.kind with
  | .tombstone => return ⟨m.key, .tombstone, .none, 0⟩
  | .set =>
      if m.externalValue then return ⟨m.key, .external m.externalValueRef, .none, 0⟩
      else
        let value ← loadRange payload m.valueOffset m.valueSize
        return ⟨m.key, .inline value, .none, 0⟩

/-- The values of all mutations. -/
def stagedMutations (payload : Bytes) : List MutationSlot → Access (List Mutation)
  | [] => pure []
  | m :: rest => do
      let mutation ← stagedMutation payload m
      let mutations ← stagedMutations payload rest
      return mutation :: mutations

/-- The locals of the transaction loop, and the state it changes. -/
structure ScanState where
  offset : ℕ
  expectedSequence : UInt64
  db : Db
  transactionStaging : Bytes

variable (sizeBits : ℕ) (tables : Media)

/-- The replay of a complete transaction whose payload is in the arena: nothing when the checkpoint
covers it. -/
def replayTransaction (db : Db) (payload : Bytes) (mutationCount : ℕ)
    (expectedSequence : UInt64) : Access Db := do
  if db.manifest.safeCheckpointSequence < expectedSequence.toNat then
    let transaction ← parseRecoveredTransaction cfg sizeBits payload mutationCount
    let mutations ← stagedMutations payload transaction.mutations
    conclude (replayMutations cfg db tables transaction.namespaceName mutations
      expectedSequence.toNat)
  else return db

/-- The end of the log at the offset of the state, unless a later frame shows that it is not the
end. -/
def endScan (slot regionEnd : ℕ) (generation : UInt64) (s : ScanState) (laterOffset : ℕ) :
    Access (ScanState ⊕ ScanState) := do
  let laterValid ← findLaterWalFrame cfg s.db.manifest slot laterOffset regionEnd generation
    s.expectedSequence
  raiseIf (laterValid = true) .invalidCrc
  return .inr s

/-- A transaction whose first frame is accepted. -/
def scanTransaction (slot regionEnd : ℕ) (generation : UInt64) (first : WalFrameHeader)
    (s : ScanState) : Access (ScanState ⊕ ScanState) := do
  match ← iterate (frameRound cfg slot s.offset first) (first.frameCount.toNat + 1)
      ⟨0, 0, crcInit, s.transactionStaging⟩ with
  | .broken frameIndex =>
      endScan cfg slot regionEnd generation s (wrapAdd 32 s.offset (frameBytes (frameIndex + 1)))
  | .complete t =>
      if t.payloadOffset ≠ first.transactionPayloadSize.toNat ∨
          ~~~ t.transactionCrc ≠ first.transactionChecksum then
        endScan cfg slot regionEnd generation s (wrapAdd 32 s.offset (frameBytes first.frameCount.toNat))
      else
        let db ← replayTransaction cfg sizeBits tables s.db
          (t.transactionStaging.take t.payloadOffset) first.mutationCount.toNat s.expectedSequence
        let transactionBytes := frameBytes first.frameCount.toNat
        raiseIf (s.expectedSequence + 1 = 0) .invalidState
        return .inl {
          offset := wrapAdd 32 s.offset transactionBytes
          expectedSequence := s.expectedSequence + 1
          db := { db with stats := { db.stats with
            walBytesUsed := add64 db.stats.walBytesUsed transactionBytes } }
          transactionStaging := t.transactionStaging }

/-- One round of the transaction loop of `scan_wal_slot`. -/
def scanRound (slot regionEnd : ℕ) (generation : UInt64) (s : ScanState) :
    Access (ScanState ⊕ ScanState) := do
  if s.offset ≤ wrapSub 32 regionEnd walFrameSize then
    let ioFrame ← readWalFrame cfg slot s.offset
    match ← attempt (decodeWalFrame ioFrame) with
    | .error status =>
        raiseIf (status.isVersion = true) .invalidVersion
        endScan cfg slot regionEnd generation s (wrapAdd 32 s.offset walFrameSize)
    | .ok first =>
        if first.databaseId.toNat ≠ s.db.manifest.databaseId ∨
            first.walGeneration ≠ generation then
          -- A frame of an older generation: the slot was reused and is written up to here.
          endScan cfg slot regionEnd generation s (wrapAdd 32 s.offset walFrameSize)
        else
          raiseIf (first.transactionSequence ≠ s.expectedSequence ∨ first.frameIndex ≠ 0 ∨
            first.frameCount = 0 ∨
            maxTransactionPayloadSize cfg < first.transactionPayloadSize.toNat ∨
            wrapSub 32 regionEnd s.offset <
              first.frameCount.toNat * walFrameSize) .invalidCrc
          scanTransaction cfg sizeBits tables slot regionEnd generation first s
  else return .inr s

/-- `scan_wal_slot`: the state and the next expected sequence behind the slot's log. -/
def scanWalSlot (db : Db) (transactionStaging : Bytes) (slot : ℕ)
    (generation expectedSequence : UInt64) : Access (Db × UInt64) := do
  raiseIf (walFileCount ≤ slot ∨ generation = 0 ∨ expectedSequence = 0) .invalidArg
  let header ← loadWalHeader cfg db.manifest slot generation
  raiseIf (header.firstTransactionSequence ≠ expectedSequence) .invalidCrc
  let regionEnd := header.recordRegionEnd.toNat
  let s ← iterate (scanRound cfg sizeBits tables slot regionEnd generation)
    (regionEnd / walFrameSize + 1)
    ⟨header.recordRegionStart.toNat, expectedSequence, db, transactionStaging⟩
  return (s.db.setWalTail slot s.offset, s.expectedSequence)

/-! ## Frames and headers -/

section
variable {cfg : Config} {slot offset : ℕ}

/-- The record region of a log has room for a frame, and ends below `2 ^ 32`. -/
lemma recordRegion_bounds (cfg : Config) :
    walRecordRegionOffset + walFrameSize ≤ cfg.geometry.walSize ∧
      cfg.geometry.walSize < 2 ^ 32 := by
  have hgeometry := cfg.geometry_valid
  have hsize := cfg.sizes.1
  simp only [validateStorageGeometry, Bool.and_eq_true, decide_eq_true_eq] at hgeometry
  simp only [uint32Max] at hsize
  exact ⟨by tauto, by omega⟩

lemma safe_readWalFrame (hlow : walRecordRegionOffset ≤ offset)
    (hhigh : offset + walFrameSize ≤ cfg.geometry.walSize) :
    Safe (readWalFrame cfg slot offset) fun ioFrame => ioFrame.length = walFrameSize :=
  Safe.bind (Safe.require ⟨hlow, hhigh⟩) fun _ _ =>
    Safe.perform (returns_readStorageBytesUnsafe cfg.geometry (.data .wal slot) offset walFrameSize)

/-- A header that is used bounds the record region of the slot. -/
def Bounds (cfg : Config) (header : Durable.WalHeader) : Prop :=
  header.recordRegionStart.toNat = walRecordRegionOffset ∧
    header.recordRegionEnd.toNat = cfg.geometry.walSize

lemma safe_loadHeaderCopy {manifest : On9kvdb.ManifestRecord} {generation : UInt64}
    {copySlot : ℕ} {selected : Option Durable.WalHeader}
    (hselected : ∀ header ∈ selected, Bounds cfg header) :
    Safe (loadHeaderCopy cfg manifest slot generation copySlot selected) fun selected =>
      ∀ header ∈ selected, Bounds cfg header := by
  refine Safe.bind (Safe.perform (returns_readStorageBytesUnsafe _ _ _ _)) fun encoded _ => ?_
  refine Safe.bind (Safe.attempt (defined_decodeWalHeader encoded)) fun r hr => ?_
  cases r with
  | error status => exact Safe.bind Safe.raiseIf fun _ _ => Safe.pure hselected
  | ok candidate =>
      refine Safe.bind Safe.raiseIf fun _ hcandidate => ?_
      refine Safe.bind Safe.raiseIf fun _ _ => Safe.pure ?_
      rintro header hheader
      cases hheader
      have hvalid := hr candidate rfl
      simp only [Durable.WalHeader.valid, Bool.and_eq_true, beq_iff_eq] at hvalid
      exact ⟨by tauto, by tauto⟩

lemma safe_loadWalHeader {manifest : On9kvdb.ManifestRecord} {generation : UInt64} :
    Safe (loadWalHeader cfg manifest slot generation) (Bounds cfg) := by
  refine Safe.bind Safe.raiseIf fun _ _ => ?_
  refine Safe.bind (safe_loadHeaderCopy fun header hheader => by cases hheader)
    fun selected hfirst => ?_
  refine Safe.bind (safe_loadHeaderCopy hfirst) fun selected hboth => ?_
  cases selected with
  | none => exact Safe.throw
  | some header => exact Safe.pure (hboth header rfl)

/-! ## Looking for a later frame -/

/-- **The search for a later frame ends**, and reads frames of the record region only. -/
theorem safe_findLaterWalFrame {manifest : On9kvdb.ManifestRecord} {startOffset : ℕ}
    {generation minimumSequence : UInt64} (hstart : walRecordRegionOffset ≤ startOffset) :
    Safe (findLaterWalFrame cfg manifest slot startOffset cfg.geometry.walSize generation
      minimumSequence) fun _ => True := by
  obtain ⟨hroom, hsize⟩ := recordRegion_bounds cfg
  simp only [walRecordRegionOffset, walFrameSize, formatAlignment] at hroom hstart
  refine Safe.bind Safe.raiseIf fun _ harg => ?_
  refine Safe.iterate
    (fun offset => walRecordRegionOffset ≤ offset ∧ offset ≤ cfg.geometry.walSize)
    (fun offset => (cfg.geometry.walSize - offset) / walFrameSize)
    (fun offset hoffset => ?_) ⟨hstart, by omega⟩ ?_
  · unfold findLaterRound
    rw [wrapSub_of_le (by simp only [walFrameSize, formatAlignment]; omega) hsize]
    refine Safe.ite (fun hin => ?_) fun _ => Safe.pure trivial
    simp only [walRecordRegionOffset, walFrameSize, formatAlignment] at hoffset hin
    have hhigh : offset + 4096 ≤ cfg.geometry.walSize := by omega
    have hnext : (walRecordRegionOffset ≤ offset + walFrameSize ∧
        offset + walFrameSize ≤ cfg.geometry.walSize) ∧
        (cfg.geometry.walSize - (offset + walFrameSize)) / walFrameSize <
          (cfg.geometry.walSize - offset) / walFrameSize := by
      simp only [walRecordRegionOffset, walFrameSize, formatAlignment]
      omega
    rw [wrapAdd_of_lt (show offset + walFrameSize < 2 ^ 32 by omega)]
    refine Safe.bind (safe_readWalFrame hoffset.1 hhigh) fun ioFrame _ => ?_
    refine Safe.bind (Safe.attempt (defined_decodeWalFrame ioFrame)) fun r _ => ?_
    cases r with
    | error status => exact Safe.bind Safe.raiseIf fun _ _ => Safe.pure hnext
    | ok candidate => exact Safe.ite (fun _ => Safe.pure trivial) fun _ => Safe.pure hnext
  · simp only [walFrameSize, formatAlignment]
    omega

end

/-! ## The frames of a transaction -/

section
variable {cfg : Config} {slot offset : ℕ} {first : WalFrameHeader}

/-- The arena holds every payload a transaction may have. -/
lemma maxTransactionPayloadSize_le (cfg : Config) :
    maxTransactionPayloadSize cfg ≤ transactionStagingSize cfg := by
  have hcount := cfg.maxTransactionMutations_le
  simp only [On9kvdb.maxTransactionMutations] at hcount
  simp only [maxTransactionPayloadSize, transactionStagingSize, transactionHeaderSize,
    mutationHeaderSize, maxNameLen, On9kvdb.maxTransactionMutations]
  omega

/-- What the frame loop keeps. -/
structure Gathering (cfg : Config) (first : WalFrameHeader) (s : FrameState) : Prop where
  frameIndex : s.frameIndex ≤ first.frameCount.toNat
  payloadOffset : s.payloadOffset ≤ first.transactionPayloadSize.toNat
  transactionStaging : s.transactionStaging.length = transactionStagingSize cfg

/-- What the frame loop ends with. -/
def Gathered (cfg : Config) (first : WalFrameHeader) : FrameResult → Prop
  | .broken frameIndex => frameIndex < first.frameCount.toNat
  | .complete s => Gathering cfg first s

/-- One frame: read in the region, and copied inside the arena. -/
lemma safe_frameRound (hlow : walRecordRegionOffset ≤ offset)
    (hhigh : offset + first.frameCount.toNat * walFrameSize ≤ cfg.geometry.walSize)
    (hpayload : first.transactionPayloadSize.toNat ≤ maxTransactionPayloadSize cfg)
    {s : FrameState} (hs : Gathering cfg first s) :
    Safe (frameRound cfg slot offset first s)
      (Round (Gathering cfg first) (fun s => first.frameCount.toNat - s.frameIndex)
        (Gathered cfg first) s) := by
  obtain ⟨hindex, hoffset, hstaging⟩ := hs
  obtain ⟨-, hsize⟩ := recordRegion_bounds cfg
  have harena := maxTransactionPayloadSize_le cfg
  have hcount := first.frameCount.toNat_lt
  have htotal := first.transactionPayloadSize.toNat_lt
  refine Safe.ite (fun hin => ?_) fun _ => Safe.pure ⟨hindex, hoffset, hstaging⟩
  simp only [walRecordRegionOffset] at hlow
  have hfits : offset + s.frameIndex * walFrameSize + walFrameSize ≤ cfg.geometry.walSize := by
    simp only [walFrameSize, formatAlignment] at hhigh ⊢
    omega
  have hframe : frameBytes s.frameIndex = s.frameIndex * walFrameSize :=
    Nat.mod_eq_of_lt (by omega)
  rw [hframe, wrapAdd_of_lt (show offset + s.frameIndex * walFrameSize < 2 ^ 32 by omega)]
  refine Safe.bind (safe_readWalFrame (by simp only [walRecordRegionOffset]; omega) hfits)
    fun ioFrame hlength => ?_
  refine Safe.bind (Safe.attempt (defined_decodeWalFrame ioFrame)) fun r hr => ?_
  cases r with
  | error status => exact Safe.bind Safe.raiseIf fun _ _ => Safe.pure hin
  | ok frame =>
      refine Safe.ite (fun hcontinues => ?_) fun _ => Safe.pure hin
      have hpart := hr frame rfl
      have hroom : frame.payloadSize.toNat ≤
          first.transactionPayloadSize.toNat - s.payloadOffset := by
        simp only [continuesTransaction, Bool.and_eq_true, decide_eq_true_eq] at hcontinues
        rw [← wrapSub_of_le hoffset htotal]
        exact hcontinues.2
      refine Safe.bind (Safe.loadRange (by omega)) fun payloadPart hread => ?_
      refine Safe.bind (Safe.store (by omega)) fun transactionStaging hstored => ?_
      rw [wrapAdd_of_lt (show s.frameIndex + 1 < 2 ^ 16 by omega),
        wrapAdd_of_lt (show s.payloadOffset + frame.payloadSize.toNat < 2 ^ 32 by omega)]
      refine Safe.pure ⟨⟨hin, ?_, hstored.2.trans hstaging⟩, ?_⟩
      · dsimp only
        omega
      · dsimp only
        omega

lemma safe_frames (hlow : walRecordRegionOffset ≤ offset)
    (hhigh : offset + first.frameCount.toNat * walFrameSize ≤ cfg.geometry.walSize)
    (hpayload : first.transactionPayloadSize.toNat ≤ maxTransactionPayloadSize cfg)
    {s : FrameState} (hs : Gathering cfg first s) :
    Safe (iterate (frameRound cfg slot offset first) (first.frameCount.toNat + 1) s)
      (Gathered cfg first) :=
  Safe.iterate (Gathering cfg first) (fun s => first.frameCount.toNat - s.frameIndex)
    (fun _ hs => safe_frameRound hlow hhigh hpayload hs) hs (by omega)

end

/-! ## Transactions -/

section
variable {cfg : Config} {sizeBits slot : ℕ} {tables : Media} {payload : Bytes}

lemma safe_stagedMutation {m : MutationSlot} (h : WellFormedMutation cfg payload m) :
    Safe (stagedMutation payload m) fun _ => True := by
  have hvalue := h.value
  unfold stagedMutation
  cases m.kind with
  | tombstone => exact Safe.pure trivial
  | set =>
      refine Safe.ite (fun _ => Safe.pure trivial) fun hexternal => ?_
      rw [MutationSlot.heldSize, if_neg hexternal] at hvalue
      exact Safe.bind (Safe.loadRange hvalue) fun _ _ => Safe.pure trivial

lemma safe_stagedMutations {mutations : List MutationSlot}
    (h : ∀ m ∈ mutations, WellFormedMutation cfg payload m) :
    Safe (stagedMutations payload mutations) fun _ => True := by
  induction mutations with
  | nil => exact Safe.pure trivial
  | cons m rest ih =>
      refine Safe.bind (safe_stagedMutation (h m List.mem_cons_self)) fun _ _ => ?_
      refine Safe.bind (ih fun m' hm' => h m' (List.mem_cons_of_mem m hm')) fun _ _ => ?_
      exact Safe.pure trivial

/-- The replay of a payload of any content. -/
lemma safe_replayTransaction (hbuf : payload.length < 2 ^ sizeBits) {db : Db} {mutationCount : ℕ}
    {expectedSequence : UInt64} :
    Safe (replayTransaction cfg sizeBits tables db payload mutationCount expectedSequence)
      fun _ => True := by
  refine Safe.ite (fun _ => ?_) fun _ => Safe.pure trivial
  refine Safe.bind (safe_parseRecoveredTransaction hbuf) fun transaction htransaction => ?_
  refine Safe.bind (safe_stagedMutations htransaction.mutations) fun mutations _ => ?_
  exact Safe.conclude fun _ _ => trivial

/-- What the transaction loop keeps. -/
structure Scanning (cfg : Config) (s : ScanState) : Prop where
  low : walRecordRegionOffset ≤ s.offset
  high : s.offset ≤ cfg.geometry.walSize
  transactionStaging : s.transactionStaging.length = transactionStagingSize cfg

/-- What a round of the transaction loop ends with: fewer frames are left, or it was the last. -/
def Scanned (cfg : Config) (s : ScanState) : ScanState ⊕ ScanState → Prop :=
  Round (Scanning cfg) (fun s => (cfg.geometry.walSize - s.offset) / walFrameSize)
    (fun _ => True) s

lemma safe_endScan {generation : UInt64} {s : ScanState} {laterOffset : ℕ}
    (hlater : walRecordRegionOffset ≤ laterOffset) :
    Safe (endScan cfg slot cfg.geometry.walSize generation s laterOffset) (Scanned cfg s) :=
  Safe.bind (safe_findLaterWalFrame hlater) fun _ _ =>
    Safe.bind Safe.raiseIf fun _ _ => Safe.pure trivial

lemma frameBytes_of_le {count : ℕ} (h : count * walFrameSize < 2 ^ 32) :
    frameBytes count = count * walFrameSize := Nat.mod_eq_of_lt h

/-- A transaction whose frames are in the region. -/
lemma safe_scanTransaction (hsizeBits : 32 ≤ sizeBits) {generation : UInt64}
    {first : WalFrameHeader} {s : ScanState} (hs : Scanning cfg s)
    (hcount : first.frameCount ≠ 0)
    (hhigh : s.offset + first.frameCount.toNat * walFrameSize ≤ cfg.geometry.walSize)
    (hpayload : first.transactionPayloadSize.toNat ≤ maxTransactionPayloadSize cfg) :
    Safe (scanTransaction cfg sizeBits tables slot cfg.geometry.walSize generation first s)
      (Scanned cfg s) := by
  obtain ⟨hlow, -, hstaging⟩ := hs
  obtain ⟨-, hsize⟩ := recordRegion_bounds cfg
  have hpos : 0 < first.frameCount.toNat :=
    Nat.pos_of_ne_zero fun hzero => hcount (UInt16.toNat_inj.mp hzero)
  simp only [walRecordRegionOffset, walFrameSize, formatAlignment] at hlow hhigh
  have hbegin : Gathering cfg first ⟨0, 0, crcInit, s.transactionStaging⟩ :=
    ⟨Nat.zero_le _, Nat.zero_le _, hstaging⟩
  have hlater : ∀ count ≤ first.frameCount.toNat,
      wrapAdd 32 s.offset (frameBytes count) = s.offset + count * 4096 := by
    intro count hle
    have hbytes : frameBytes count = count * 4096 := frameBytes_of_le (by
      simp only [walFrameSize, formatAlignment]
      omega)
    rw [hbytes, wrapAdd_of_lt (by omega)]
  refine Safe.bind (safe_frames hlow hhigh hpayload hbegin) fun r hr => ?_
  cases r with
  | broken frameIndex =>
      refine safe_endScan ?_
      rw [hlater (frameIndex + 1) hr]
      simp only [walRecordRegionOffset]
      omega
  | complete t =>
      refine Safe.ite (fun _ => safe_endScan ?_) fun _ => ?_
      · rw [hlater _ le_rfl]
        simp only [walRecordRegionOffset]
        omega
      · have htotal := first.transactionPayloadSize.toNat_lt
        have hwidth : 2 ^ 32 ≤ 2 ^ sizeBits := Nat.pow_le_pow_right (by decide) hsizeBits
        have hbuf : (t.transactionStaging.take t.payloadOffset).length < 2 ^ sizeBits := by
          have hoffset := hr.payloadOffset
          rw [List.length_take]
          omega
        refine Safe.bind (safe_replayTransaction hbuf) fun db _ => ?_
        refine Safe.bind Safe.raiseIf fun _ _ => Safe.pure ?_
        dsimp only [Scanned, Round]
        rw [hlater _ le_rfl]
        refine ⟨⟨?_, hhigh, hr.transactionStaging⟩, ?_⟩
        · simp only [walRecordRegionOffset]
          omega
        · simp only [walFrameSize, formatAlignment]
          omega

/-- One round of the transaction loop. -/
lemma safe_scanRound (hsizeBits : 32 ≤ sizeBits) {generation : UInt64} {s : ScanState}
    (hs : Scanning cfg s) :
    Safe (scanRound cfg sizeBits tables slot cfg.geometry.walSize generation s)
      (Scanned cfg s) := by
  obtain ⟨hroom, hsize⟩ := recordRegion_bounds cfg
  have hlow := hs.low
  simp only [walRecordRegionOffset, walFrameSize, formatAlignment] at hroom hlow
  unfold scanRound
  rw [wrapSub_of_le (by simp only [walFrameSize, formatAlignment]; omega) hsize,
    wrapSub_of_le hs.high hsize]
  refine Safe.ite (fun hin => ?_) fun _ => Safe.pure trivial
  simp only [walFrameSize, formatAlignment] at hin
  have hlater : walRecordRegionOffset ≤ wrapAdd 32 s.offset walFrameSize := by
    rw [wrapAdd_of_lt (by simp only [walFrameSize, formatAlignment]; omega)]
    simp only [walRecordRegionOffset]
    omega
  refine Safe.bind (safe_readWalFrame hlow (by simp only [walFrameSize, formatAlignment]; omega))
    fun ioFrame _ => ?_
  refine Safe.bind (Safe.attempt (defined_decodeWalFrame ioFrame)) fun r _ => ?_
  cases r with
  | error status => exact Safe.bind Safe.raiseIf fun _ _ => safe_endScan hlater
  | ok first =>
      refine Safe.ite (fun _ => safe_endScan hlater) fun _ => ?_
      refine Safe.bind Safe.raiseIf fun _ hfirst => ?_
      simp only [not_or] at hfirst
      obtain ⟨-, -, hcount, hpayload, hbytes⟩ := hfirst
      have hhigh := hs.high
      exact safe_scanTransaction hsizeBits hs hcount (by omega) (Nat.not_lt.mp hpayload)

lemma safe_scanRounds (hsizeBits : 32 ≤ sizeBits) {generation : UInt64} {s : ScanState}
    (hs : Scanning cfg s) :
    Safe (iterate (scanRound cfg sizeBits tables slot cfg.geometry.walSize generation)
      (cfg.geometry.walSize / walFrameSize + 1) s) fun _ => True := by
  refine Safe.iterate (Scanning cfg)
    (fun s => (cfg.geometry.walSize - s.offset) / walFrameSize)
    (fun s hs => safe_scanRound hsizeBits hs) hs ?_
  simp only [walFrameSize, formatAlignment]
  omega

/-- **The scan of a log is safe**, whatever the device holds. -/
theorem safe_scanWalSlot (hsizeBits : 32 ≤ sizeBits) (db : Db) {transactionStaging : Bytes}
    (hstaging : transactionStaging.length = transactionStagingSize cfg)
    (generation expectedSequence : UInt64) :
    Safe (scanWalSlot cfg sizeBits tables db transactionStaging slot generation expectedSequence)
      fun _ => True := by
  obtain ⟨hroom, hsize⟩ := recordRegion_bounds cfg
  refine Safe.bind Safe.raiseIf fun _ _ => ?_
  refine Safe.bind safe_loadWalHeader fun header hheader => ?_
  refine Safe.bind Safe.raiseIf fun _ _ => ?_
  have hbegin : Scanning cfg ⟨walRecordRegionOffset, expectedSequence, db, transactionStaging⟩ :=
    ⟨le_rfl, (Nat.le_add_right _ _).trans hroom, hstaging⟩
  have hrounds := @safe_scanRounds cfg sizeBits slot tables hsizeBits generation _ hbegin
  rw [← hheader.1, ← hheader.2] at hrounds
  refine Safe.bind (P := fun _ => True) ?_ fun _ _ => Safe.pure trivial
  exact hrounds

end

/-! ## Recovery -/

/-- **Recovery is safe on arbitrary bytes.**  The scan of a slot ends, whatever the device and the
tables hold; it reads frames of the record region and copies inside the arena.  The parser ends
inside every payload, and a transaction it returns is well formed. -/
theorem recovery_is_safe (cfg : Config) {sizeBits : ℕ} (hsizeBits : 32 ≤ sizeBits) :
    (∀ (tables : Media) (db : Db) (transactionStaging : Bytes) (slot : ℕ)
        (generation expectedSequence : UInt64),
      transactionStaging.length = transactionStagingSize cfg →
      Safe (scanWalSlot cfg sizeBits tables db transactionStaging slot generation
        expectedSequence) fun _ => True) ∧
    ∀ (payload : Bytes) (mutationCount : ℕ), payload.length < 2 ^ sizeBits →
      Safe (parseRecoveredTransaction cfg sizeBits payload mutationCount :
        Access RecoveredTransaction) (WellFormed cfg payload mutationCount) :=
  ⟨fun _ db _ _ generation expectedSequence hstaging =>
      safe_scanWalSlot hsizeBits db hstaging generation expectedSequence,
    fun _ _ hbuf => safe_parseRecoveredTransaction hbuf⟩

/-- The payload that removes the key `b` of the namespace `a`. -/
def tombstonePayload : Bytes :=
  (payloadSegments [97] [⟨[98], .tombstone, .none, 0⟩]).flatten

/-- A device of zeros. -/
def zeroDevice : BlockDevice := ⟨4096, 282, fun _ => 0, 0, fun _ => none, fun _ _ => 0⟩

theorem recovery_is_safe_host :
    Safe (scanWalSlot hostConfig 32 (blankMedia 0) (Db.closed 1 1)
        (List.replicate (transactionStagingSize hostConfig) 0) 0 1 1) (fun _ => True) ∧
      ∃ t d, outcome (parseRecoveredTransaction hostConfig 32 tombstonePayload 1 :
          Access RecoveredTransaction) zeroDevice = some (.ok t, d) ∧
        WellFormed hostConfig tombstonePayload 1 t := by
  have hsafe := recovery_is_safe hostConfig (le_refl 32)
  have hstaging : ∀ n, (List.replicate n (0 : UInt8)).length = n := fun _ => List.length_replicate
  have hscan := hsafe.1 (blankMedia 0) (Db.closed 1 1) _ 0 1 1
    (hstaging (transactionStagingSize hostConfig))
  have hparse : ∀ payload : Bytes, payload.length < 2 ^ 32 →
      succeeds (parseRecoveredTransaction hostConfig 32 payload 1 :
        Access RecoveredTransaction) zeroDevice = true →
      ∃ t d, outcome (parseRecoveredTransaction hostConfig 32 payload 1 :
          Access RecoveredTransaction) zeroDevice = some (.ok t, d) ∧
        WellFormed hostConfig payload 1 t := by
    intro payload hlength haccepted
    obtain ⟨t, d, hrun⟩ := exists_of_succeeds haccepted
    exact ⟨t, d, hrun, Safe.returned (hsafe.2 payload 1 hlength) hrun⟩
  refine ⟨hscan, hparse tombstonePayload ?_ ?_⟩
  · decide +kernel
  · decide +kernel

end Replay

end On9kvdb
