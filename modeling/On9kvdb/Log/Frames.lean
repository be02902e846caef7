import On9kvdb.Log.Payload
import On9kvdb.Store.Recovery

/-!
# Transactions as frames of a WAL slot

`frame?` is the frame `append_transaction_unsafe` writes at each index, `FramesAt` says where the
frames of a transaction are, and `LogAt` where those of a whole log are.  The two readers of
frames are characterised here: the frame loop of the scan, up to the first frame that is missing,
and the forward search for a later frame.
-/

namespace On9kvdb

variable {cfg : Config}

/-! ## The frames of a transaction -/

namespace CommittedTransaction

variable (t : CommittedTransaction cfg)

/-- The number of frames the payload takes. -/
def frameCount : ℕ := frameCountOf t.payload.length

/-- What all frames of the transaction share. -/
def group (databaseId generation sequence : ℕ) : FrameGroup where
  databaseId := databaseId
  walGeneration := generation
  transactionSequence := sequence
  frameCount := t.frameCount
  mutationCount := t.mutations.length
  transactionPayloadSize := t.payload.length
  transactionChecksum := calcCrc32 t.payload

/-- The part of the payload frame `index` carries. -/
def window (index : ℕ) : Bytes :=
  (t.payload.drop (index * walFramePayloadCapacity)).take walFramePayloadCapacity

/-- Frame `index` of the transaction. -/
def frame? (databaseId generation sequence index : ℕ) : Option WalFrame :=
  encodeWalFrame (t.group databaseId generation sequence) index (t.window index)

lemma frameCount_pos : 0 < t.frameCount := by
  have := t.length_payload_pos
  simp only [frameCount, frameCountOf, walFramePayloadCapacity, walFrameSize, formatAlignment,
    walFrameHeaderSize]
  omega

/-- All frames together hold the payload. -/
lemma length_payload_le_frames : t.payload.length ≤ t.frameCount * walFramePayloadCapacity := by
  simp only [frameCount, frameCountOf, walFramePayloadCapacity, walFrameSize, formatAlignment,
    walFrameHeaderSize]
  omega

lemma take_append_window (index : ℕ) :
    t.payload.take (index * walFramePayloadCapacity) ++ t.window index =
      t.payload.take ((index + 1) * walFramePayloadCapacity) := by
  rw [window, Nat.add_one_mul, List.take_add]

/-- The encoder accepts every frame of the transaction. -/
lemma exists_frame {databaseId generation sequence index : ℕ} (hid : databaseId ≠ 0)
    (hgeneration : generation ≠ 0) (hsequence : sequence ≠ 0) (hindex : index < t.frameCount) :
    ∃ f, t.frame? databaseId generation sequence index = some f := by
  have hcount := t.count_le
  have hpos := t.mutations_length_pos
  have hpayload := t.length_payload_pos
  have hwindow : (t.window index).length ≤ t.payload.length := by
    rw [window, List.length_take, List.length_drop]
    omega
  have hcapacity : (t.window index).length ≤ walFramePayloadCapacity := by
    rw [window, List.length_take]
    exact min_le_left _ _
  unfold frame? encodeWalFrame
  rw [dif_pos]
  · exact ⟨_, rfl⟩
  · simp only [Bool.and_eq_true, bne_iff_ne, ne_eq]
    exact ⟨⟨⟨⟨⟨⟨⟨⟨hid, hgeneration⟩, hsequence⟩, decide_eq_true hindex⟩, hpos.ne'⟩,
      decide_eq_true hcount⟩, hpayload.ne'⟩, decide_eq_true hwindow⟩, decide_eq_true hcapacity⟩

end CommittedTransaction

/-- The fields of an encoded frame. -/
lemma encodeWalFrame_fields {g : FrameGroup} {index : ℕ} {payload : Bytes} {f : WalFrame}
    (h : encodeWalFrame g index payload = some f) :
    f.databaseId = g.databaseId ∧ f.walGeneration = g.walGeneration ∧
      f.transactionSequence = g.transactionSequence ∧ f.frameIndex = index ∧
      f.frameCount = g.frameCount ∧ f.mutationCount = g.mutationCount ∧
      f.transactionPayloadSize = g.transactionPayloadSize ∧
      f.transactionChecksum = g.transactionChecksum ∧ f.payload = payload := by
  unfold encodeWalFrame at h
  split at h
  · cases h
    exact ⟨rfl, rfl, rfl, rfl, rfl, rfl, rfl, rfl, rfl⟩
  · cases h

/-! ## Where frames are -/

/-- Frame `index` of the transaction is in its place behind `offset`. -/
def FrameAt (m : Media) (slot databaseId generation sequence offset : ℕ)
    (t : CommittedTransaction cfg) (index : ℕ) : Prop :=
  ∃ f, t.frame? databaseId generation sequence index = some f ∧
    m.walFrame slot (offset + index * walFrameSize) = .ok f

/-- The frames of a log, transaction behind transaction. -/
def LogAt (m : Media) (slot databaseId generation : ℕ) :
    (sequence offset : ℕ) → List (CommittedTransaction cfg) → Prop
  | _, _, [] => True
  | sequence, offset, t :: rest =>
      (∀ index < t.frameCount, FrameAt m slot databaseId generation sequence offset t index) ∧
        LogAt m slot databaseId generation (sequence + 1) (offset + t.frameCount * walFrameSize)
          rest

/-- The bytes a log takes. -/
def logBytes (txs : List (CommittedTransaction cfg)) : ℕ :=
  (txs.map fun t => t.frameCount * walFrameSize).sum

@[simp] lemma logBytes_nil : logBytes ([] : List (CommittedTransaction cfg)) = 0 := rfl

@[simp] lemma logBytes_cons (t : CommittedTransaction cfg) (rest) :
    logBytes (t :: rest) = t.frameCount * walFrameSize + logBytes rest := by
  simp [logBytes]

@[simp] lemma logBytes_append (a b : List (CommittedTransaction cfg)) :
    logBytes (a ++ b) = logBytes a + logBytes b := by
  simp [logBytes]

lemma LogAt.append {m : Media} {slot databaseId generation sequence offset : ℕ}
    {a b : List (CommittedTransaction cfg)} :
    LogAt m slot databaseId generation sequence offset (a ++ b) ↔
      LogAt m slot databaseId generation sequence offset a ∧
        LogAt m slot databaseId generation (sequence + a.length) (offset + logBytes a) b := by
  induction a generalizing sequence offset with
  | nil => simp [LogAt]
  | cons t rest ih =>
      simp only [List.cons_append, LogAt, ih, logBytes_cons, List.length_cons, and_assoc,
        Nat.add_assoc, Nat.add_comm 1]

/-- A frame position that holds nothing of this generation: blank, damaged or from an older use
of the slot. -/
def UnusedFrame (generation : ℕ) : Cell WalFrame → Prop
  | .error status => status.isVersion = false
  | .ok f => f.walGeneration ≠ generation

/-! ## The frame loop -/

/-- A frame of the transaction continues it behind the frames in front of it. -/
lemma continuesTransaction_frame {t : CommittedTransaction cfg}
    {databaseId generation sequence index : ℕ} {first f : WalFrame}
    (hfirst : t.frame? databaseId generation sequence 0 = some first)
    (hf : t.frame? databaseId generation sequence index = some f) :
    continuesTransaction first f index
      (t.payload.take (index * walFramePayloadCapacity)).length = true := by
  obtain ⟨h₁, h₂, h₃, -, h₅, h₆, h₇, h₈, -⟩ := encodeWalFrame_fields hfirst
  obtain ⟨g₁, g₂, g₃, g₄, g₅, g₆, g₇, g₈, g₉⟩ := encodeWalFrame_fields hf
  have hwindow : (t.window index).length ≤
      t.payload.length - (t.payload.take (index * walFramePayloadCapacity)).length := by
    rw [CommittedTransaction.window, List.length_take, List.length_drop, List.length_take]
    omega
  simp only [continuesTransaction, h₁, h₂, h₃, h₅, h₆, h₇, h₈, g₁, g₂, g₃, g₄, g₅, g₆, g₇, g₈, g₉,
    beq_self_eq_true, Bool.true_and, decide_eq_true_eq]
  exact hwindow

/-- The frame loop reads on as long as the frames are there. -/
lemma readFrames_present {m : Media} {slot databaseId generation sequence offset : ℕ}
    {t : CommittedTransaction cfg} {first : WalFrame}
    (hfirst : t.frame? databaseId generation sequence 0 = some first) (n remaining index : ℕ)
    (hframes : ∀ i, index ≤ i → i < index + n →
      FrameAt m slot databaseId generation sequence offset t i) :
    readFrames m slot offset first (remaining + n) index
        (t.payload.take (index * walFramePayloadCapacity)) =
      readFrames m slot offset first remaining (index + n)
        (t.payload.take ((index + n) * walFramePayloadCapacity)) := by
  induction n generalizing index with
  | zero => rfl
  | succ n ih =>
      obtain ⟨f, hf, hcell⟩ := hframes index le_rfl (by omega)
      have hpayload : f.payload = t.window index := by
        exact (encodeWalFrame_fields hf).2.2.2.2.2.2.2.2
      rw [← Nat.add_assoc, readFrames, hcell]
      dsimp only
      rw [if_pos (continuesTransaction_frame hfirst hf), hpayload, t.take_append_window,
        ih (index + 1) fun i hi hlt => hframes i (by omega) (by omega)]
      rw [show index + (n + 1) = index + 1 + n by omega]

/-- All frames present: the loop returns the payload. -/
lemma readFrames_complete {m : Media} {slot databaseId generation sequence offset : ℕ}
    {t : CommittedTransaction cfg} {first : WalFrame}
    (hfirst : t.frame? databaseId generation sequence 0 = some first)
    (hframes : ∀ i < t.frameCount, FrameAt m slot databaseId generation sequence offset t i) :
    readFrames m slot offset first t.frameCount 0 [] = .ok (.complete t.payload) := by
  have h := readFrames_present hfirst t.frameCount 0 0 fun i _ hi => hframes i (by omega)
  rw [Nat.zero_add, Nat.zero_mul, List.take_zero] at h
  rw [h, readFrames, List.take_of_length_le t.length_payload_le_frames]

/-- A missing frame breaks the loop there. -/
lemma readFrames_broken {m : Media} {slot databaseId generation sequence offset : ℕ}
    {t : CommittedTransaction cfg} {first : WalFrame}
    (hfirst : t.frame? databaseId generation sequence 0 = some first) {missing : ℕ}
    (hmissing : missing < t.frameCount)
    (hframes : ∀ i < missing, FrameAt m slot databaseId generation sequence offset t i)
    (hunused : UnusedFrame generation (m.walFrame slot (offset + missing * walFrameSize))) :
    readFrames m slot offset first t.frameCount 0 [] = .ok (.broken missing) := by
  have h := readFrames_present hfirst missing (t.frameCount - missing) 0 fun i _ hi =>
    hframes i (by omega)
  rw [Nat.zero_add, Nat.zero_mul, List.take_zero, Nat.sub_add_cancel hmissing.le] at h
  rw [h]
  obtain ⟨remaining, hremaining⟩ : ∃ k, t.frameCount - missing = k + 1 :=
    ⟨t.frameCount - missing - 1, by omega⟩
  rw [hremaining, readFrames]
  cases hcell : m.walFrame slot (offset + missing * walFrameSize) with
  | error status =>
      rw [hcell] at hunused
      have hversion : status.isVersion = false := hunused
      simp [hversion]
  | ok f =>
      rw [hcell] at hunused
      have hgeneration : f.walGeneration ≠ first.walGeneration := by
        rw [(encodeWalFrame_fields hfirst).2.1]
        exact hunused
      have hstop : continuesTransaction first f missing
          (t.payload.take (missing * walFramePayloadCapacity)).length = false := by
        simp [continuesTransaction, hgeneration]
      dsimp only
      rw [hstop]
      rfl

/-! ## The forward search -/

/-- Nothing of this generation ahead: the search finds nothing. -/
lemma findLaterFrames_unused {m : Media}
    {databaseId slot regionEnd generation minimumSequence : ℕ} (hregion : walFrameSize ≤ regionEnd)
    (fuel offset : ℕ)
    (hunused : ∀ k, offset + k * walFrameSize + walFrameSize ≤ regionEnd →
      UnusedFrame generation (m.walFrame slot (offset + k * walFrameSize))) :
    findLaterFrames m databaseId slot regionEnd generation minimumSequence fuel offset =
      .ok false := by
  induction fuel generalizing offset with
  | zero => rfl
  | succ fuel ih =>
      have hnext := ih (offset + walFrameSize) fun k hk => by
        have h := hunused (k + 1) (by rw [Nat.add_one_mul]; omega)
        rwa [Nat.add_one_mul, Nat.add_comm (k * _), ← Nat.add_assoc] at h
      rw [findLaterFrames]
      split_ifs with hend
      · rfl
      · have hcell := hunused 0 (by
          simp only [walFrameSize, formatAlignment] at *
          omega)
        rw [Nat.zero_mul, Nat.add_zero] at hcell
        cases hframe : m.walFrame slot offset with
        | error status =>
            rw [hframe] at hcell
            have hversion : status.isVersion = false := hcell
            simp only [hversion, Bool.false_eq_true, if_false]
            exact hnext
        | ok f =>
            rw [hframe] at hcell
            have hgeneration : f.walGeneration ≠ generation := hcell
            simp only [hgeneration, false_and, and_false, if_false]
            exact hnext

end On9kvdb
