import On9kvdb.Log.Room
import On9kvdb.Log.Scan

/-!
# Appending and scanning

What a successful `append_transaction_unsafe` leaves on the media (`Written`), what a series of
appends to one slot leaves there (`Logged`), and that a scan of the slot finds exactly these
transactions again (`scanWalSlot_appended`).
-/

namespace On9kvdb

open Exceptional

variable {cfg : Config}

/-! ## One append -/

/-- A calculated payload has the size and the checksum of the payload. -/
lemma calculateTransactionPayloadUnsafe_ok {namespaceName : Bytes} {mutations : List Mutation}
    {p : ℕ × UInt32} (h : calculateTransactionPayloadUnsafe cfg namespaceName mutations = .ok p) :
    p = (transactionPayloadSize namespaceName mutations,
      calcCrc32 (transactionPayload namespaceName mutations)) := by
  have hchecks := h
  unfold calculateTransactionPayloadUnsafe at hchecks
  rw [bind_eq_ok] at hchecks
  obtain ⟨_, hcount, hchecks⟩ := hchecks
  dsimp only at hchecks
  rw [bind_eq_ok] at hchecks
  obtain ⟨_, hsize, -⟩ := hchecks
  rw [rejectIf_eq_ok, not_or, not_lt] at hcount
  rw [rejectIf_eq_ok, not_or, not_lt, not_lt] at hsize
  rw [calculateTransactionPayloadUnsafe_eq hcount.1 hcount.2 hsize.1 hsize.2] at h
  exact (Except.ok.inj h).symm

/-- What an append leaves behind once there is room: the frames of the transaction at the tail,
and nothing else. -/
structure Written (cfg : Config) (t : CommittedTransaction cfg) (w w' : World) : Prop where
  place : w'.db.logPlace =
    { w.db.logPlace with tail := w.db.logPlace.tail + t.frameCount * walFrameSize }
  headers : w'.dev.current.walHeader = w.dev.current.walHeader
  frames : ∀ i < t.frameCount, FrameAt w'.dev.current w.db.logPlace.slot
    w.db.logPlace.databaseId w.db.logPlace.generation w.db.logPlace.sequence
    w.db.logPlace.tail t i
  rest : ∀ offset, (∀ i < t.frameCount, offset ≠ w.db.logPlace.tail + i * walFrameSize) →
    w'.dev.current.walFrame w.db.logPlace.slot offset =
      w.dev.current.walFrame w.db.logPlace.slot offset
  fits : w.db.logPlace.tail + t.frameCount * walFrameSize ≤ cfg.geometry.walSize

/-- The frames in front of `count` are written. -/
structure FramesWritten (t : CommittedTransaction cfg) (place : LogPlace) (w₀ : World)
    (count : ℕ) (w : World) : Prop where
  db : w.db = w₀.db
  headers : w.dev.current.walHeader = w₀.dev.current.walHeader
  frames : ∀ i < count, FrameAt w.dev.current place.slot place.databaseId place.generation
    place.sequence place.tail t i
  rest : ∀ offset, (∀ i < count, offset ≠ place.tail + i * walFrameSize) →
    w.dev.current.walFrame place.slot offset = w₀.dev.current.walFrame place.slot offset

/-- One more frame. -/
lemma FramesWritten.write {t : CommittedTransaction cfg} {place : LogPlace} {w₀ w : World}
    {index : ℕ} (h : FramesWritten t place w₀ index w) (hnone : w.dev.fault = .none)
    {f : WalFrame}
    (hf : t.frame? place.databaseId place.generation place.sequence index = some f) :
    FramesWritten t place w₀ (index + 1)
      { w with dev :=
        (w.dev.write (.walFrame place.slot (place.tail + index * walFrameSize) f)).2 } := by
  have hcell : ∀ offset, (w.dev.write
      (.walFrame place.slot (place.tail + index * walFrameSize) f)).2.current.walFrame place.slot
        offset = if offset = place.tail + index * walFrameSize then .ok f
          else w.dev.current.walFrame place.slot offset := fun offset => by
    rw [Device.current_write_of_none hnone]
    dsimp only [Write.apply]
    rw [update₂_apply]
    simp only [true_and]
  refine ⟨h.db, ?_, fun i hi => ?_, fun offset hoffset => ?_⟩
  · dsimp only
    rw [Device.current_write_of_none hnone]
    exact h.headers
  · rcases Nat.lt_succ_iff_lt_or_eq.mp hi with hlt | rfl
    · obtain ⟨g, hg, hgcell⟩ := h.frames i hlt
      have hne : place.tail + i * walFrameSize ≠ place.tail + index * walFrameSize := by
        simp only [walFrameSize, formatAlignment]
        omega
      exact ⟨g, hg, by rw [hcell, if_neg hne, hgcell]⟩
    · exact ⟨f, hf, by rw [hcell, if_pos rfl]⟩
  · dsimp only
    rw [hcell, if_neg (hoffset index (Nat.lt_succ_self _))]
    exact h.rest offset fun i hi => hoffset i (Nat.lt_succ_of_lt hi)

/-- The frame loop writes the frames of the transaction. -/
lemma triple_writeFrames_written (t : CommittedTransaction cfg) (place : LogPlace) (w₀ : World)
    (remaining index : ℕ) (hcount : index + remaining = t.frameCount) :
    Triple (FramesWritten t place w₀ index)
      (writeFrames t.namespaceName t.mutations place.slot place.tail
        (t.group place.databaseId place.generation place.sequence) remaining index)
      (fun _ => FramesWritten t place w₀ t.frameCount) (fun _ _ => True) := by
  induction remaining generalizing index with
  | zero =>
      rw [← hcount]
      exact .pure fun w hw => hw
  | succ remaining ih =>
      have hinside : index * walFramePayloadCapacity < t.payload.length := by
        have hlt : index < t.frameCount := by omega
        simp only [CommittedTransaction.frameCount, frameCountOf, walFramePayloadCapacity,
          walFrameSize, formatAlignment, walFrameHeaderSize] at hlt ⊢
        omega
      have hcopy : copyTransactionPayloadUnsafe t.namespaceName t.mutations
          (index * walFramePayloadCapacity)
          (min (t.payload.length - index * walFramePayloadCapacity) walFramePayloadCapacity) =
            .ok (t.window index) := by
        have hwindow : t.window index = (t.payload.drop (index * walFramePayloadCapacity)).take
            (min (t.payload.length - index * walFramePayloadCapacity)
              walFramePayloadCapacity) := by
          rw [CommittedTransaction.window, ← List.length_drop, min_comm, List.take_eq_take_min]
        have hsize : index * walFramePayloadCapacity +
            min (t.payload.length - index * walFramePayloadCapacity) walFramePayloadCapacity ≤
              (transactionPayload t.namespaceName t.mutations).length := by
          have hlen : t.payload.length =
            (transactionPayload t.namespaceName t.mutations).length := rfl
          omega
        rw [hwindow]
        exact copyTransactionPayloadUnsafe_eq hsize
      unfold writeFrames
      dsimp only
      refine .bind (Q := fun payload w => FramesWritten t place w₀ index w ∧
        payload = t.window index) (Triple.liftResult (fun w payload hw hpayload => ⟨hw, ?_⟩)
          fun _ _ _ _ => trivial) fun payload => .of_pure (fun w hw => hw.2) ?_
      · rw [show (t.group place.databaseId place.generation place.sequence).transactionPayloadSize =
          t.payload.length from rfl, hcopy] at hpayload
        exact (Except.ok.inj hpayload).symm
      rintro rfl
      cases hf : t.frame? place.databaseId place.generation place.sequence index with
      | none =>
          unfold CommittedTransaction.frame? at hf
          rw [hf]
          exact .throw fun _ _ => trivial
      | some f =>
          have hencode := hf
          unfold CommittedTransaction.frame? at hencode
          rw [hencode]
          exact .bind (Triple.writeStorage (fun w hw hnone => hw.1.write hnone hf)
            fun _ _ _ => trivial) fun _ => ih (index + 1) (by omega)

/-- The frame loop keeps the instance. -/
lemma within_writeFrames (namespaceName : Bytes) (mutations : List Mutation) (slot tail : ℕ)
    (g : FrameGroup) (remaining index : ℕ) :
    Within (Writing Eq fun _ => True)
      (writeFrames namespaceName mutations slot tail g remaining index) := by
  induction remaining generalizing index with
  | zero => exact .pure
  | succ remaining ih =>
      unfold writeFrames
      refine .bind Within.liftResult fun payload => ?_
      cases encodeWalFrame g index payload with
      | none => exact .throw
      | some frame => exact .bind (Within.writeStorage trivial) fun _ => ih _

/-- The checksum that goes into the frames is that of the mutations as they are then. -/
lemma triple_refreshChecksum {w₀ : World} {namespaceName : Bytes} {mutations : List Mutation}
    {moved : Bool} {p : ℕ × UInt32}
    (hp : p = (transactionPayloadSize namespaceName mutations,
      calcCrc32 (transactionPayload namespaceName mutations)))
    (hmoved : moved = false → w₀.db.transaction.mutations = mutations) :
    Triple (· = w₀) (refreshChecksum cfg namespaceName moved p.1 p.2)
      (fun checksum w => w = w₀ ∧ (p.1, checksum) =
        (transactionPayloadSize namespaceName w₀.db.transaction.mutations,
          calcCrc32 (transactionPayload namespaceName w₀.db.transaction.mutations)))
      (fun _ _ => True) := by
  unfold refreshChecksum
  cases moved with
  | false =>
      refine .ite (fun h => by cases h) fun _ => .pure fun w hw => ⟨hw, ?_⟩
      rw [hmoved rfl, ← hp]
  | true =>
      refine .ite (fun _ => ?_) fun h => absurd rfl h
      refine .bind Triple.fetch fun db => .of_pure (fun w hw => hw.2 ▸ congrArg World.db hw.1) ?_
      rintro rfl
      refine .bind (Q := fun r w => w = w₀ ∧ r =
          (transactionPayloadSize namespaceName w₀.db.transaction.mutations,
            calcCrc32 (transactionPayload namespaceName w₀.db.transaction.mutations)))
        (Triple.liftResult (fun w r hw hr => ⟨hw.1, calculateTransactionPayloadUnsafe_ok hr⟩)
          fun _ _ _ _ => trivial) fun r => ?_
      refine .bind (Triple.check fun _ _ => trivial) fun _ => .pure fun w hw => ⟨hw.1.1, ?_⟩
      obtain ⟨⟨-, hr⟩, hsize⟩ := hw
      rw [← hr, ← not_not.mp hsize]

/-- **A successful append makes room and writes the frames of the staged transaction.** -/
theorem triple_appendTransactionUnsafe_written (t : CommittedTransaction cfg) (w₀ : World) :
    Triple (· = w₀) (appendTransactionUnsafe cfg t.namespaceName)
      (fun _ w => w.db.transaction.mutations = t.mutations →
        ∃ w₁, RoomMade cfg w₀ w₁ ∧ Written cfg t w₁ w) (fun _ _ => True) := by
  unfold appendTransactionUnsafe
  refine .bind Triple.fetch fun db => .of_pure (fun w hw => hw.2 ▸ congrArg World.db hw.1) ?_
  rintro rfl
  refine .bind (Triple.check fun _ _ => trivial) fun _ => ?_
  refine .bind (Q := fun _ w => Unmoved w₀ w) (unmoved_stabilizeManifestUnsafe.triple
    (fun w w' _ hw h => hw.1.1 ▸ h) fun _ _ _ _ _ => trivial) fun _ => ?_
  refine .bind (Q := fun p w => Unmoved w₀ w ∧
      p = (transactionPayloadSize t.namespaceName w₀.db.transaction.mutations,
        calcCrc32 (transactionPayload t.namespaceName w₀.db.transaction.mutations)))
    (Triple.liftResult (fun w p hw hp => ⟨hw, calculateTransactionPayloadUnsafe_ok hp⟩)
      fun _ _ _ _ => trivial) fun p => .of_pure (fun w hw => hw.2) fun hp =>
        .of_state fun w₁ hw₁ => ?_
  dsimp only
  refine .bind (triple_makeWalRoom_made w₁ _) fun moved => .of_state fun w₂ hw₂ => ?_
  have hroom : RoomMade cfg w₀ w₂ := by
    rcases hw₂.1 with hsame | hrotated
    · exact Or.inl (trans_of SameLog hw₁.1.1 hsame)
    · exact Or.inr (hrotated.of_sameLog hw₁.1.1)
  have hstaged : moved = false →
      w₂.db.transaction.mutations = w₀.db.transaction.mutations := fun h => by
    rw [hw₂.2 h, hw₁.1.2]
  refine .bind Triple.fetch fun db => .of_pure (fun w hw => hw.2 ▸ congrArg World.db hw.1) ?_
  rintro rfl
  refine .bind (Triple.check fun _ _ => trivial) fun _ => .of_pure (fun w hw => hw.2)
    fun hfull => ?_
  refine .bind ((triple_refreshChecksum hp hstaged).pre fun w hw => hw.1.1) fun checksum =>
    .of_pure (fun w hw => hw.2) fun hchecksum => ?_
  by_cases hmutations : w₂.db.transaction.mutations = t.mutations
  · -- The frames are those of the transaction.
    rw [hmutations] at hchecksum ⊢
    obtain ⟨hsize, rfl⟩ := Prod.mk.inj hchecksum
    have hpayload : p.1 = t.payload.length := by
      rw [hsize, CommittedTransaction.payload, length_transactionPayload]
    rw [hpayload] at hfull ⊢
    refine .bind ((triple_writeFrames_written t w₂.db.logPlace w₂ t.frameCount 0
      (Nat.zero_add _)).pre fun w hw => ?_) fun _ => ?_
    · rw [hw.1]
      exact ⟨rfl, rfl, fun i hi => absurd hi (Nat.not_lt_zero i), fun _ _ => rfl⟩
    refine .bind (Q := fun _ => FramesWritten t w₂.db.logPlace w₂ t.frameCount)
      (Triple.syncStorage (fun w hw _ => ⟨hw.db, hw.headers, hw.frames, hw.rest⟩)
        fun _ _ _ => trivial) fun _ => Triple.modifyDb fun w hw _ => ⟨w₂, hroom, ?_⟩
    obtain ⟨hdb, hheaders, hframes, hrest⟩ := hw
    refine ⟨?_, hheaders, hframes, hrest, ?_⟩
    · simp only [Db.logPlace, hdb, Function.update_self]
      rfl
    · have hpos := Nat.mul_pos t.frameCount_pos (show 0 < walFrameSize by decide)
      simp only [walSlotFull, decide_eq_true_eq, not_lt] at hfull
      change w₂.db.walTail w₂.db.manifest.activeWalSlot + t.frameCount * walFrameSize ≤ _
      change t.frameCount * walFrameSize ≤ _ at hfull
      omega
  · -- Another transaction was staged.
    refine .bind ((within_writeFrames _ _ _ _ _ _ _).triple
      (Q := fun _ w => w.db.transaction.mutations ≠ t.mutations)
      (fun w w' _ hw h => ?_) fun _ _ _ _ _ => trivial) fun _ => ?_
    · rw [← h.db, hw.1]
      exact hmutations
    refine .bind (Q := fun _ w => w.db.transaction.mutations ≠ t.mutations)
      (Triple.syncStorage (fun w hw _ => hw) fun _ _ _ => trivial) fun _ =>
        Triple.modifyDb fun w hw h => absurd h hw

/-! ## A series of appends to one slot -/

/-- `append_transaction_unsafe` has returned `ESP_OK` and the frames of `t`, the transaction that
was staged then, went to this slot. -/
structure Appended (cfg : Config) (slot generation : ℕ) (t : CommittedTransaction cfg)
    (w w' : World) : Prop where
  run : exec (appendTransactionUnsafe cfg t.namespaceName) w = (.ok (), w')
  staged : w'.db.transaction.mutations = t.mutations
  activeSlot : w'.db.manifest.activeWalSlot = slot
  walGeneration : w'.db.manifest.walGeneration slot = generation

/-- What may happen between two appends: the sequence advances by one, anything else moves except
for the tail and the contents of the slot. -/
structure Sequenced (slot : ℕ) (w w' : World) : Prop where
  place : w'.db.logPlace = { w.db.logPlace with sequence := w.db.logPlace.sequence + 1 }
  headers : w'.dev.current.walHeader slot = w.dev.current.walHeader slot
  frames : w'.dev.current.walFrame slot = w.dev.current.walFrame slot

/-- The transactions `txs` are appended to the slot, in order, from the first world to the
second. -/
inductive Appends (cfg : Config) (slot generation : ℕ) (w₀ : World) :
    List (CommittedTransaction cfg) → World → Prop
  | start : Appends cfg slot generation w₀ [] w₀
  | append {txs : List (CommittedTransaction cfg)} {t : CommittedTransaction cfg}
      {w w' w'' : World} (h : Appends cfg slot generation w₀ txs w)
      (happended : Appended cfg slot generation t w w') (hsequenced : Sequenced slot w' w'') :
      Appends cfg slot generation w₀ (txs ++ [t]) w''

/-- Nothing of this generation is in the record region of the slot: its frames are blank or of
another generation.  An active slot has a header that names the next sequence and its tail in
front of the first frame; another slot is given both by the rotation of the first append. -/
structure FreshSlot (cfg : Config) (slot generation : ℕ) (w : World) : Prop where
  unused : ∀ k, walRecordRegionOffset + k * walFrameSize + walFrameSize ≤ cfg.geometry.walSize →
    UnusedFrame generation (w.dev.current.walFrame slot (walRecordRegionOffset + k * walFrameSize))
  active : w.db.manifest.activeWalSlot = slot →
    w.db.manifest.walGeneration slot = generation ∧ w.db.walTail slot = walRecordRegionOffset ∧
      HeaderLoads cfg w.dev.current w.db.manifest slot generation w.db.nextTransactionSequence

/-- The slot holds exactly these transactions, from sequence `first` on. -/
structure Logged (cfg : Config) (slot generation first : ℕ)
    (txs : List (CommittedTransaction cfg)) (w : World) : Prop where
  place : w.db.logPlace = ⟨w.db.manifest.databaseId, slot, generation,
    walRecordRegionOffset + logBytes txs, first + txs.length⟩
  header : HeaderLoads cfg w.dev.current w.db.manifest slot generation first
  log : LogAt w.dev.current slot w.db.manifest.databaseId generation first walRecordRegionOffset
    txs
  fits : walRecordRegionOffset + logBytes txs ≤ cfg.geometry.walSize
  unused : ∀ k, walRecordRegionOffset + logBytes txs + k * walFrameSize + walFrameSize ≤
      cfg.geometry.walSize →
    UnusedFrame generation (w.dev.current.walFrame slot
      (walRecordRegionOffset + logBytes txs + k * walFrameSize))

/-- A log stays where it is when nothing in front of its end is written. -/
lemma LogAt.congr {m m' : Media} {slot databaseId generation sequence offset : ℕ}
    {txs : List (CommittedTransaction cfg)}
    (h : LogAt m slot databaseId generation sequence offset txs)
    (hm : ∀ o < offset + logBytes txs, m'.walFrame slot o = m.walFrame slot o) :
    LogAt m' slot databaseId generation sequence offset txs := by
  induction txs generalizing sequence offset with
  | nil => trivial
  | cons t rest ih =>
      obtain ⟨hframes, hrest⟩ := h
      rw [logBytes_cons] at hm
      refine ⟨fun i hi => ?_, ih hrest fun o ho => hm o (by omega)⟩
      obtain ⟨f, hf, hcell⟩ := hframes i hi
      have hmul : (i + 1) * walFrameSize ≤ t.frameCount * walFrameSize :=
        Nat.mul_le_mul_right _ hi
      rw [Nat.add_one_mul] at hmul
      exact ⟨f, hf, by rw [hm _ (by simp only [walFrameSize, formatAlignment] at *; omega), hcell]⟩

namespace Logged

variable {slot generation first : ℕ} {txs : List (CommittedTransaction cfg)} {w w' : World}

/-- The contents of the slot and the end of the log determine the property. -/
lemma congr (h : Logged cfg slot generation first txs w)
    (hplace : w'.db.logPlace = w.db.logPlace)
    (hheaders : w'.dev.current.walHeader slot = w.dev.current.walHeader slot)
    (hframes : w'.dev.current.walFrame slot = w.dev.current.walFrame slot) :
    Logged cfg slot generation first txs w' := by
  have hid : w'.db.manifest.databaseId = w.db.manifest.databaseId :=
    congrArg LogPlace.databaseId hplace
  refine ⟨by rw [hplace, hid, h.place], h.header.congr hheaders hid, ?_, h.fits, fun k hk => ?_⟩
  · rw [hid]
    exact h.log.congr fun o _ => by rw [hframes]
  · rw [hframes]
    exact h.unused k hk

/-- One more transaction behind the log. -/
lemma written {t : CommittedTransaction cfg} {w'' : World}
    (h : Logged cfg slot generation first txs w) (hw : Written cfg t w w')
    (hsequenced : Sequenced slot w' w'') :
    Logged cfg slot generation first (txs ++ [t]) w'' := by
  obtain ⟨hplace, hheaders, hframes, hrest, hfits⟩ := hw
  rw [h.place] at hplace hframes hrest hfits
  dsimp only at hplace hframes hrest hfits
  have hplace'' := hsequenced.place
  rw [hplace] at hplace''
  have hid : w''.db.manifest.databaseId = w.db.manifest.databaseId :=
    congrArg LogPlace.databaseId hplace''
  have hbytes : logBytes (txs ++ [t]) = logBytes txs + t.frameCount * walFrameSize := by
    rw [logBytes_append, logBytes_cons, logBytes_nil, Nat.add_zero]
  have hcell : ∀ offset, (∀ i < t.frameCount,
      offset ≠ walRecordRegionOffset + logBytes txs + i * walFrameSize) →
        w''.dev.current.walFrame slot offset = w.dev.current.walFrame slot offset :=
    fun offset hoffset => by rw [hsequenced.frames, hrest offset hoffset]
  refine ⟨?_, h.header.congr (hsequenced.headers.trans (congrFun hheaders slot)) hid, ?_,
    by rw [hbytes]; omega, fun k hk => ?_⟩
  · rw [hplace'', hid, hbytes, List.length_append, List.length_singleton, Nat.add_assoc,
      Nat.add_assoc]
  · rw [hid]
    refine LogAt.append.mpr ⟨h.log.congr fun o ho => hcell o fun i _ => by omega,
      fun i hi => ?_, trivial⟩
    obtain ⟨f, hf, hfcell⟩ := hframes i hi
    exact ⟨f, hf, by rw [hsequenced.frames, hfcell]⟩
  · have hshift : walRecordRegionOffset + logBytes (txs ++ [t]) + k * walFrameSize =
        walRecordRegionOffset + logBytes txs + (t.frameCount + k) * walFrameSize := by
      rw [hbytes, Nat.add_mul]
      omega
    rw [hshift] at hk ⊢
    rw [hcell _ fun i hi heq => ?_]
    · exact h.unused _ hk
    · have hlt : (i + 1) * walFrameSize ≤ (t.frameCount + k) * walFrameSize :=
        Nat.mul_le_mul_right _ (by omega)
      rw [Nat.add_one_mul] at hlt
      simp only [walFrameSize, formatAlignment] at *
      omega

/-- The slot in front of its first append. -/
lemma of_fresh (hfresh : FreshSlot cfg slot generation w)
    (hactive : w.db.manifest.activeWalSlot = slot) :
    Logged cfg slot generation w.db.nextTransactionSequence [] w := by
  obtain ⟨hgeneration, htail, hheader⟩ := hfresh.active hactive
  refine ⟨?_, hheader, trivial, ?_, hfresh.unused⟩
  · simp only [Db.logPlace, hactive, hgeneration, htail, logBytes_nil]
    rfl
  · have := cfg.walSize_valid.1
    rw [logBytes_nil]
    omega

/-- A rotation to a fresh slot. -/
lemma of_rotated {w₀ : World} (hfresh : FreshSlot cfg slot generation w₀)
    (h : RotatedTo cfg w₀ walRecordRegionOffset w)
    (hslot : w.db.manifest.activeWalSlot = slot)
    (hgeneration : w.db.manifest.walGeneration slot = generation) :
    Logged cfg slot generation w₀.db.nextTransactionSequence [] w := by
  obtain ⟨hplace, hheader, hframes⟩ := h
  have hnew : slot = 1 - w₀.db.manifest.activeWalSlot := by
    rw [← hslot]
    exact congrArg LogPlace.slot hplace
  have hnext : generation = w₀.db.manifest.walGeneration w₀.db.manifest.activeWalSlot + 1 := by
    rw [← hgeneration, ← hslot]
    exact congrArg LogPlace.generation hplace
  have hid : w.db.manifest.databaseId = w₀.db.manifest.databaseId :=
    congrArg LogPlace.databaseId hplace
  rw [← hnew, ← hnext] at hplace hheader
  refine ⟨?_, hheader, trivial, ?_, fun k hk => ?_⟩
  · rw [hplace, hid]
    rfl
  · have := cfg.walSize_valid.1
    rw [logBytes_nil]
    omega
  · rw [hframes]
    exact hfresh.unused k hk

end Logged

/-! ## The run -/

section
variable {slot generation : ℕ} {w₀ w w' w'' : World} {t : CommittedTransaction cfg}
  {txs : List (CommittedTransaction cfg)}

lemma Appended.written (h : Appended cfg slot generation t w w') :
    ∃ w₁, RoomMade cfg w w₁ ∧ Written cfg t w₁ w' :=
  (triple_appendTransactionUnsafe_written t w).ok rfl h.run h.staged

/-- The slot is the active one where the frames are written. -/
lemma Appended.place {w₁ : World} (h : Appended cfg slot generation t w w')
    (hw : Written cfg t w₁ w') :
    w₁.db.manifest.activeWalSlot = slot ∧ w₁.db.manifest.walGeneration slot = generation := by
  have hslot : w'.db.manifest.activeWalSlot = w₁.db.manifest.activeWalSlot :=
    congrArg LogPlace.slot hw.place
  have hgeneration : w'.db.manifest.walGeneration w'.db.manifest.activeWalSlot =
      w₁.db.manifest.walGeneration w₁.db.manifest.activeWalSlot :=
    congrArg LogPlace.generation hw.place
  rw [h.activeSlot] at hslot hgeneration
  rw [← hslot] at hgeneration
  exact ⟨hslot.symm, hgeneration.symm.trans h.walGeneration⟩

/-- The first append to a fresh slot. -/
lemma Appended.first (hfresh : FreshSlot cfg slot generation w)
    (h : Appended cfg slot generation t w w') (hsequenced : Sequenced slot w' w'') :
    Logged cfg slot generation w.db.nextTransactionSequence [t] w'' := by
  obtain ⟨w₁, hroom, hwritten⟩ := h.written
  obtain ⟨hslot, hgeneration⟩ := h.place hwritten
  have hempty : Logged cfg slot generation w.db.nextTransactionSequence [] w₁ := by
    rcases hroom with hsame | hrotated
    · have hactive : w.db.manifest.activeWalSlot = slot :=
        (congrArg LogPlace.slot hsame.place).symm.trans hslot
      exact (Logged.of_fresh hfresh hactive).congr hsame.place (congrFun hsame.headers _)
        (congrFun hsame.frames _)
    · exact .of_rotated hfresh hrotated hslot hgeneration
  exact hempty.written hwritten hsequenced

/-- A later append to the slot does not rotate. -/
lemma Appended.later {first : ℕ} (hlogged : Logged cfg slot generation first txs w)
    (h : Appended cfg slot generation t w w') (hsequenced : Sequenced slot w' w'') :
    Logged cfg slot generation first (txs ++ [t]) w'' := by
  obtain ⟨w₁, hroom, hwritten⟩ := h.written
  obtain ⟨hslot, -⟩ := h.place hwritten
  have hactive : w.db.manifest.activeWalSlot = slot := congrArg LogPlace.slot hlogged.place
  rcases hroom with hsame | hrotated
  · exact (hlogged.congr hsame.place (congrFun hsame.headers _)
      (congrFun hsame.frames _)).written hwritten hsequenced
  · have hother : w₁.db.manifest.activeWalSlot = 1 - w.db.manifest.activeWalSlot :=
      congrArg LogPlace.slot hrotated.place
    omega

/-- **Appends to a fresh slot leave exactly their transactions there.** -/
theorem Appends.logged (hfresh : FreshSlot cfg slot generation w₀)
    (h : Appends cfg slot generation w₀ txs w) (hactive : w.db.manifest.activeWalSlot = slot) :
    Logged cfg slot generation w₀.db.nextTransactionSequence txs w := by
  have hrun : (txs = [] ∧ w = w₀) ∨
      Logged cfg slot generation w₀.db.nextTransactionSequence txs w := by
    clear hactive
    induction h with
    | start => exact Or.inl ⟨rfl, rfl⟩
    | append _ happended hsequenced ih =>
        rcases ih with ⟨rfl, rfl⟩ | hlogged
        · exact Or.inr (happended.first hfresh hsequenced)
        · exact Or.inr (happended.later hlogged hsequenced)
  rcases hrun with ⟨rfl, rfl⟩ | hlogged
  · exact .of_fresh hfresh hactive
  · exact hlogged

end

/-! ## The scan -/

/-- A header that loads belongs to a slot of the log and covers its whole region. -/
lemma HeaderLoads.valid {m : Media} {manifest : ManifestRecord} {slot generation first : ℕ}
    (h : HeaderLoads cfg m manifest slot generation first) :
    slot < walFileCount ∧ generation ≠ 0 ∧ first ≠ 0 ∧
      ∃ header, loadWalHeader cfg m manifest slot generation = .ok header ∧
        header.firstTransactionSequence = first ∧
        header.recordRegionEnd = cfg.geometry.walSize := by
  obtain ⟨header, hload, rfl⟩ := h
  have hcopy : ∀ copySlot header, readWalHeader cfg m manifest slot generation copySlot =
      .ok (some header) → header.recordRegionEnd = cfg.geometry.walSize := by
    intro copySlot header hread
    unfold readWalHeader at hread
    cases hcell : m.walHeader slot copySlot with
    | error status =>
        rw [hcell] at hread
        dsimp only at hread
        split_ifs at hread
        cases hread
    | ok candidate =>
        rw [hcell] at hread
        dsimp only at hread
        split_ifs at hread with hbad
        cases hread
        exact not_not.mp fun hend => hbad (Or.inr (Or.inr (Or.inr hend)))
  have hloaded := hload
  unfold loadWalHeader at hload
  rw [bind_eq_ok] at hload
  obtain ⟨_, hargs, hload⟩ := hload
  rw [rejectIf_eq_ok, not_or, not_le] at hargs
  rw [bind_eq_ok] at hload
  obtain ⟨first, hfirst, hload⟩ := hload
  rw [bind_eq_ok] at hload
  obtain ⟨second, hsecond, hload⟩ := hload
  have hend : header.recordRegionEnd = cfg.geometry.walSize := by
    cases first with
    | none =>
        cases second with
        | none => cases hload
        | some h₁ =>
            cases hload
            exact hcopy _ _ hsecond
    | some h₀ =>
        cases second with
        | none =>
            cases hload
            exact hcopy _ _ hfirst
        | some h₁ =>
            dsimp only at hload
            split_ifs at hload
            cases hload
            exact hcopy _ _ hsecond
  have hvalid := header.valid
  simp only [Bool.and_eq_true, bne_iff_ne] at hvalid
  exact ⟨hargs.1, hargs.2, hvalid.1.1.1.2, header, hloaded, rfl, hend⟩

/-- A slot that holds exactly `txs` is scanned by replaying `txs`. -/
lemma Logged.scan {slot generation first : ℕ} {txs : List (CommittedTransaction cfg)} {w : World}
    (h : Logged cfg slot generation first txs w) {db : Db}
    (hid : db.manifest.databaseId = w.db.manifest.databaseId) :
    scanWalSlot cfg db w.dev.current slot generation first =
      (replayLog w.dev.current db first txs).map fun db =>
        (db.setWalTail slot (w.db.walTail slot), first + txs.length) := by
  obtain ⟨hslot, hgeneration, hfirst, hheader⟩ := (h.header.congr rfl hid).valid
  have htail : w.db.walTail slot = walRecordRegionOffset + logBytes txs := by
    have hactive : w.db.manifest.activeWalSlot = slot := congrArg LogPlace.slot h.place
    rw [← hactive]
    exact congrArg LogPlace.tail h.place
  obtain ⟨fuel, -, hscan⟩ := scanWalSlot_log hslot hgeneration hfirst hheader
    (by rw [hid]; exact h.log) h.fits
  rw [hscan, htail]
  cases hreplay : replayLog w.dev.current db first txs with
  | error e => rfl
  | ok db' =>
      have hregion : walFrameSize ≤ cfg.geometry.walSize := by
        have := cfg.walSize_valid.1
        omega
      rw [ok_bind, scanTransactions_tail hslot hgeneration (by omega) hregion h.unused]
      rfl

/-! ## Transactions of one mutation -/

lemma validateBytes_one : validateBytes [1] = true := by decide

/-- A loggable value fits the staging arena. -/
lemma staged_of_loggable {v : StoredValue} (hv : loggableValue hostConfig v) :
    (([⟨[1], v, .none, 0⟩] : List Mutation).map fun m => m.value.inlineSize).sum ≤
      hostConfig.limits.transactionStagingBytes := by
  cases v with
  | tombstone => simp [StoredValue.inlineSize, StoredValue.inlineBytes]
  | inline bytes =>
      have hlen : bytes.length ≤ 1024 := hv
      simp only [StoredValue.inlineSize, StoredValue.inlineBytes, List.map_cons, List.map_nil,
        List.sum_cons, List.sum_nil, hostConfig]
      omega
  | external r => simp [StoredValue.inlineSize, StoredValue.inlineBytes]

/-- The transaction that stores `v` under the key `[1]` of the namespace `[1]`. -/
def oneMutation (v : StoredValue) (hv : loggableValue hostConfig v) :
    CommittedTransaction hostConfig where
  namespaceName := [1]
  mutations := [⟨[1], v, .none, 0⟩]
  namespaceValid := validateBytes_one
  nonempty := List.cons_ne_nil _ _
  count := by simp [hostConfig]
  keysValid := by simp [validateBytes]
  keysDistinct := by simp
  valuesLoggable := by simpa using hv
  staged := staged_of_loggable hv

/-- One byte next to the key. -/
def smallTransaction : CommittedTransaction hostConfig :=
  oneMutation (.inline [5]) (show [5].length ≤ 1024 by decide)

/-- A descriptor of 70000 bytes, more than may be live at once. -/
def largeTransaction : CommittedTransaction hostConfig :=
  oneMutation (.external ⟨1, 8192, 70000, 0, 0⟩)
    (show 1024 < 70000 ∧ 1 ≤ uint64Max ∧ _ by decide)

/-- A provisioned instance in which a transaction is staged. -/
def stagedWorld (t : CommittedTransaction hostConfig) : World where
  db :=
    { scanningDb with
      walTail := fun _ => walRecordRegionOffset
      transaction := { mutations := t.mutations } }
  dev := .boot (provisionedMedia hostConfig 7) (fun _ => .none) (fun _ => [])
    fun _ => ⟨1, Nat.one_ne_zero⟩

/-- Behind the append. -/
def appendedWorld (t : CommittedTransaction hostConfig) : World :=
  (exec (appendTransactionUnsafe hostConfig t.namespaceName) (stagedWorld t)).2

/-- Behind the commit. -/
def sequencedWorld (t : CommittedTransaction hostConfig) : World :=
  { appendedWorld t with db := { (appendedWorld t).db with nextTransactionSequence := 2 } }

lemma freshSlot_stagedWorld (t : CommittedTransaction hostConfig) :
    FreshSlot hostConfig 0 1 (stagedWorld t) where
  unused := fun _ _ => rfl
  active := fun _ => ⟨rfl, rfl, ⟨7, 1, 1, 0, 65536, by decide⟩, rfl, rfl⟩

/-- The append of a staged transaction is a series of one. -/
lemma appends_stagedWorld {t : CommittedTransaction hostConfig}
    (hrun : (exec (appendTransactionUnsafe hostConfig t.namespaceName) (stagedWorld t)).1 = .ok ())
    (hstaged : (appendedWorld t).db.transaction.mutations = t.mutations)
    (hslot : (appendedWorld t).db.manifest.activeWalSlot = 0)
    (hgeneration : (appendedWorld t).db.manifest.walGeneration 0 = 1)
    (hsequence : (appendedWorld t).db.nextTransactionSequence = 1) :
    Appends hostConfig 0 1 (stagedWorld t) [t] (sequencedWorld t) := by
  have hstart : Appends hostConfig 0 1 (stagedWorld t) [] (stagedWorld t) := .start
  refine hstart.append ⟨exec_eq hrun, hstaged, hslot, hgeneration⟩ ⟨?_, rfl, rfl⟩
  have hnext : 2 = (appendedWorld t).db.nextTransactionSequence + 1 := by rw [hsequence]
  exact congrArg (LogPlace.mk _ _ _ _) hnext

/-- **A scan finds the appended transactions again.**  Each of them is parsed from its frames as it
was staged; the scan replays them in order, those above the checkpoint of the scanning instance, and
ends where the appends ended. -/
theorem scanWalSlot_appended {slot generation : ℕ} {w₀ w : World}
    {txs : List (CommittedTransaction cfg)} (hfresh : FreshSlot cfg slot generation w₀)
    (happends : Appends cfg slot generation w₀ txs w)
    (hactive : w.db.manifest.activeWalSlot = slot) {db : Db}
    (hid : db.manifest.databaseId = w.db.manifest.databaseId) :
    scanWalSlot cfg db w.dev.current slot generation w₀.db.nextTransactionSequence =
        ((replayLog w.dev.current db w₀.db.nextTransactionSequence txs).map fun db =>
          (db.setWalTail slot (w.db.walTail slot),
            w₀.db.nextTransactionSequence + txs.length)) ∧
      ∀ t ∈ txs, parseRecoveredTransactionUnsafe cfg t.payload t.mutations.length =
        .ok (t.namespaceName, t.mutations.map Mutation.logged) :=
  ⟨(happends.logged hfresh hactive).scan hid,
    fun t _ => t.parseRecoveredTransactionUnsafe_payload⟩

/-- The small transaction is found again. -/
theorem scanWalSlot_appended_small :
    scanWalSlot hostConfig scanningDb (sequencedWorld smallTransaction).dev.current 0 1 1 =
        ((replayLog (sequencedWorld smallTransaction).dev.current scanningDb 1
          [smallTransaction]).map fun db =>
            (db.setWalTail 0 ((sequencedWorld smallTransaction).db.walTail 0), 1 + 1)) ∧
      ∀ t ∈ [smallTransaction],
        parseRecoveredTransactionUnsafe hostConfig t.payload t.mutations.length =
          .ok (t.namespaceName, t.mutations.map Mutation.logged) :=
  scanWalSlot_appended (freshSlot_stagedWorld smallTransaction)
    (appends_stagedWorld (by decide +kernel) (by decide +kernel) (by decide +kernel)
      (by decide +kernel) (by decide +kernel)) (by decide +kernel) (by decide +kernel)

/-- The large transaction is found too, but its replay is refused; and an instance whose checkpoint
covers it does not parse it at all. -/
theorem scanWalSlot_unreplayed :
    FreshSlot hostConfig 0 1 (stagedWorld largeTransaction) ∧
      Appends hostConfig 0 1 (stagedWorld largeTransaction) [largeTransaction]
        (sequencedWorld largeTransaction) ∧
      (scanWalSlot hostConfig scanningDb (sequencedWorld largeTransaction).dev.current 0 1 1).map
        Prod.snd = .error .noMem ∧
      (scanWalSlot hostConfig
          { scanningDb with manifest := { scanningDb.manifest with safeCheckpointSequence := 1 } }
          (sequencedWorld largeTransaction).dev.current 0 1 1).map
        (fun r => (r.1.memtable.entryCount, r.2)) = .ok (0, 2) :=
  ⟨freshSlot_stagedWorld _, appends_stagedWorld (by decide +kernel) (by decide +kernel)
    (by decide +kernel) (by decide +kernel) (by decide +kernel), by decide +kernel,
    by decide +kernel⟩

end On9kvdb
