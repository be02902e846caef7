import On9kvdb.Log.Replay
import On9kvdb.Store.Api

/-!
# Scanning a slot

A scan replays the intact transactions at the front of the slot, in order
(`scanTransactions_log`), and stops at the first frame that is missing
(`scanTransactions_missing`).  There the forward search decides: nothing of this generation
ahead means the tail was reached, a later frame means damage.
-/

namespace On9kvdb

variable {cfg : Config}

/-! ## The intact front -/

/-- One intact transaction is accepted and the scan goes on behind it. -/
lemma scanTransactions_step {m : Media} {slot regionEnd generation sequence offset fuel : ℕ}
    {db : Db} {t : CommittedTransaction cfg}
    (hframes : ∀ i < t.frameCount,
      FrameAt m slot db.manifest.databaseId generation sequence offset t i)
    (hfit : offset + t.frameCount * walFrameSize ≤ regionEnd) :
    scanTransactions cfg m slot regionEnd generation (fuel + 1) offset sequence db =
      (acceptLogged db m t sequence >>= fun db =>
        scanTransactions cfg m slot regionEnd generation fuel
          (offset + t.frameCount * walFrameSize) (sequence + 1) db) := by
  have hcount := t.frameCount_pos
  have hsize : walFrameSize ≤ t.frameCount * walFrameSize := Nat.le_mul_of_pos_left _ hcount
  obtain ⟨first, hfirst, hcell⟩ := hframes 0 hcount
  rw [Nat.zero_mul, Nat.add_zero] at hcell
  obtain ⟨h₁, h₂, h₃, h₄, h₅, h₆, h₇, h₈, -⟩ := encodeWalFrame_fields hfirst
  have hpayload : first.transactionPayloadSize = t.payload.length := h₇
  have hchecksum : first.transactionChecksum = calcCrc32 t.payload := h₈
  have hframeCount : first.frameCount = t.frameCount := h₅
  have hmax := t.length_payload_le
  rw [scanTransactions, if_neg (by simp only [walFrameSize, formatAlignment] at *; omega), hcell]
  dsimp only
  rw [if_neg (by
      rintro (h | h)
      · exact h h₁
      · exact h h₂),
    if_neg (by
      rintro (h | h | h | h)
      · exact h h₃
      · exact h h₄
      · omega
      · rw [hframeCount] at h; omega), hframeCount, readFrames_complete hfirst hframes, ok_bind]
  dsimp only
  rw [if_neg (by
      rintro (h | h)
      · exact h hpayload.symm
      · exact h hchecksum.symm), acceptTransaction_payload h₆ hframeCount]

/-- **The scan replays the intact front of a slot in order.** -/
theorem scanTransactions_log {m : Media} {slot regionEnd generation : ℕ}
    (txs : List (CommittedTransaction cfg)) (sequence offset fuel : ℕ) (db : Db)
    (hlog : LogAt m slot db.manifest.databaseId generation sequence offset txs)
    (hfit : offset + logBytes txs ≤ regionEnd) :
    scanTransactions cfg m slot regionEnd generation (fuel + txs.length) offset sequence db =
      (replayLog m db sequence txs >>= fun db =>
        scanTransactions cfg m slot regionEnd generation fuel (offset + logBytes txs)
          (sequence + txs.length) db) := by
  induction txs generalizing sequence offset db with
  | nil => rfl
  | cons t rest ih =>
      obtain ⟨hframes, hrest⟩ := hlog
      rw [logBytes_cons] at hfit
      rw [List.length_cons, ← Nat.add_assoc, scanTransactions_step hframes (by omega), replayLog]
      cases haccept : acceptLogged db m t sequence with
      | error e => rfl
      | ok db' =>
          have hid : db'.manifest.databaseId = db.manifest.databaseId := by
            rw [acceptLogged_frame haccept]
          rw [ok_bind, ok_bind, ih _ _ _ (by rw [hid]; exact hrest) (by omega), logBytes_cons,
            Nat.add_assoc offset, Nat.add_assoc sequence, Nat.add_comm 1]

/-! ## The first missing frame -/

/-- Where the next transaction has a missing frame, the scan ends; the search for later frames
starts behind the missing one. -/
lemma scanTransactions_missing {m : Media} {slot regionEnd generation sequence offset fuel : ℕ}
    {db : Db} {t : CommittedTransaction cfg} {missing : ℕ} (hmissing : missing < t.frameCount)
    (hframes : ∀ i < missing,
      FrameAt m slot db.manifest.databaseId generation sequence offset t i)
    (hunused : UnusedFrame generation (m.walFrame slot (offset + missing * walFrameSize)))
    (hfit : offset + t.frameCount * walFrameSize ≤ regionEnd) :
    scanTransactions cfg m slot regionEnd generation (fuel + 1) offset sequence db =
      endScan db m slot offset (offset + (missing + 1) * walFrameSize) regionEnd generation
        sequence := by
  have hsize : walFrameSize ≤ t.frameCount * walFrameSize :=
    Nat.le_mul_of_pos_left _ t.frameCount_pos
  rw [scanTransactions, if_neg (by simp only [walFrameSize, formatAlignment] at *; omega)]
  rcases Nat.eq_zero_or_pos missing with rfl | hpos
  · rw [Nat.zero_mul, Nat.add_zero] at hunused
    rw [Nat.zero_add, Nat.one_mul]
    cases hcell : m.walFrame slot offset with
    | error status =>
        rw [hcell] at hunused
        have hversion : status.isVersion = false := hunused
        simp only [hversion, Bool.false_eq_true, if_false]
    | ok f =>
        rw [hcell] at hunused
        have hgeneration : f.walGeneration ≠ generation := hunused
        dsimp only
        rw [if_pos (Or.inr hgeneration)]
  · obtain ⟨first, hfirst, hcell⟩ := hframes 0 hpos
    rw [Nat.zero_mul, Nat.add_zero] at hcell
    obtain ⟨h₁, h₂, h₃, h₄, h₅, -, h₇, -, -⟩ := encodeWalFrame_fields hfirst
    have hpayload : first.transactionPayloadSize = t.payload.length := h₇
    have hframeCount : first.frameCount = t.frameCount := h₅
    have hmax := t.length_payload_le
    rw [hcell]
    dsimp only
    rw [if_neg (by
        rintro (h | h)
        · exact h h₁
        · exact h h₂),
      if_neg (by
        rintro (h | h | h | h)
        · exact h h₃
        · exact h h₄
        · omega
        · rw [hframeCount] at h; omega), hframeCount,
      readFrames_broken hfirst hmissing hframes hunused, ok_bind]

/-- Behind the last transaction nothing of this generation follows: the tail is found. -/
lemma scanTransactions_tail {m : Media} {slot regionEnd generation sequence offset fuel : ℕ}
    {db : Db} (hslot : slot < walFileCount) (hgeneration : generation ≠ 0)
    (hsequence : sequence ≠ 0) (hregion : walFrameSize ≤ regionEnd)
    (hunused : ∀ k, offset + k * walFrameSize + walFrameSize ≤ regionEnd →
      UnusedFrame generation (m.walFrame slot (offset + k * walFrameSize))) :
    scanTransactions cfg m slot regionEnd generation fuel offset sequence db =
      .ok (db.setWalTail slot offset, sequence) := by
  cases fuel with
  | zero => rfl
  | succ fuel =>
      rw [scanTransactions]
      split_ifs with hend
      · rfl
      · have hinside : offset + walFrameSize ≤ regionEnd := by
          simp only [walFrameSize, formatAlignment] at *
          omega
        have hcell := hunused 0 (by omega)
        rw [Nat.zero_mul, Nat.add_zero] at hcell
        have hsearch : findLaterWalFrameUnsafe m db.manifest.databaseId slot
            (offset + walFrameSize) regionEnd generation sequence = .ok false := by
          unfold findLaterWalFrameUnsafe
          rw [if_neg (by omega)]
          refine findLaterFrames_unused hregion _ _ fun k hk => ?_
          have h := hunused (k + 1) (by rw [Nat.add_one_mul]; omega)
          rwa [Nat.add_one_mul, Nat.add_comm (k * _), ← Nat.add_assoc] at h
        have htail : endScan db m slot offset (offset + walFrameSize) regionEnd generation
            sequence =
              .ok (db.setWalTail slot offset, sequence) := by
          unfold endScan
          rw [hsearch]
          rfl
        cases hframe : m.walFrame slot offset with
        | error status =>
            rw [hframe] at hcell
            have hversion : status.isVersion = false := hcell
            simp only [hversion, Bool.false_eq_true, if_false]
            exact htail
        | ok f =>
            rw [hframe] at hcell
            have hother : f.walGeneration ≠ generation := hcell
            dsimp only
            rw [if_pos (Or.inr hother)]
            exact htail

/-- The forward search finds an intact frame of this generation with a late enough sequence,
unless a frame of another revision is in the way. -/
lemma findLaterFrames_found {m : Media}
    {databaseId slot regionEnd generation minimumSequence : ℕ} {f : WalFrame} (k fuel offset : ℕ)
    (hcell : m.walFrame slot (offset + k * walFrameSize) = .ok f)
    (hid : f.databaseId = databaseId) (hgeneration : f.walGeneration = generation)
    (hsequence : minimumSequence ≤ f.transactionSequence) (hfuel : k < fuel)
    (hfit : offset + k * walFrameSize + walFrameSize ≤ regionEnd)
    (hversion : ∀ i < k, ∀ status, m.walFrame slot (offset + i * walFrameSize) = .error status →
      status.isVersion = false) :
    findLaterFrames m databaseId slot regionEnd generation minimumSequence fuel offset =
      .ok true := by
  induction k generalizing fuel offset with
  | zero =>
      obtain ⟨fuel, rfl⟩ : ∃ n, fuel = n + 1 := ⟨fuel - 1, by omega⟩
      rw [Nat.zero_mul, Nat.add_zero] at hcell hfit
      rw [findLaterFrames, if_neg (by omega), hcell]
      dsimp only
      rw [if_pos ⟨hid, hgeneration, hsequence⟩]
  | succ k ih =>
      obtain ⟨fuel, rfl⟩ : ∃ n, fuel = n + 1 := ⟨fuel - 1, by omega⟩
      have hshift : ∀ i, offset + walFrameSize + i * walFrameSize =
          offset + (i + 1) * walFrameSize := fun i => by rw [Nat.add_one_mul]; omega
      have hnext := ih fuel (offset + walFrameSize) (by rw [hshift]; exact hcell) (by omega)
        (by rw [hshift]; exact hfit)
        (fun i hi status hs => hversion (i + 1) (by omega) status (by rw [← hshift]; exact hs))
      rw [findLaterFrames, if_neg (by rw [Nat.add_one_mul] at hfit; omega)]
      cases hframe : m.walFrame slot offset with
      | error status =>
          have hstatus := hversion 0 (by omega) status (by simpa using hframe)
          simp only [hstatus, Bool.false_eq_true, if_false]
          exact hnext
      | ok g =>
          dsimp only
          split_ifs
          · rfl
          · exact hnext

/-! ## A log with an unsynced transaction behind it -/

/-- The record region of a slot after a power loss during an append: complete transactions, then
some of the frames of one more (`present`), and nothing else of this generation. -/
structure UnsyncedTail (m : Media) (manifest : ManifestRecord) (slot generation first : ℕ)
    (txs : List (CommittedTransaction cfg)) (t : CommittedTransaction cfg)
    (present : ℕ → Bool) : Prop where
  slot_lt : slot < walFileCount
  generation_ne : generation ≠ 0
  first_ne : first ≠ 0
  header : ∃ h, loadWalHeader cfg m manifest slot generation = .ok h ∧
    h.firstTransactionSequence = first ∧ h.recordRegionEnd = cfg.geometry.walSize
  log : LogAt m slot manifest.databaseId generation first walRecordRegionOffset txs
  fits : walRecordRegionOffset + logBytes (txs ++ [t]) ≤ cfg.geometry.walSize
  frames : ∀ i < t.frameCount, present i = true →
    FrameAt m slot manifest.databaseId generation (first + txs.length)
      (walRecordRegionOffset + logBytes txs) t i
  rest : ∀ i, walRecordRegionOffset + logBytes txs + i * walFrameSize + walFrameSize ≤
      cfg.geometry.walSize → ¬ (i < t.frameCount ∧ present i = true) →
    UnusedFrame generation
      (m.walFrame slot (walRecordRegionOffset + logBytes txs + i * walFrameSize))

lemma length_le_logBytes (txs : List (CommittedTransaction cfg)) :
    txs.length * walFrameSize ≤ logBytes txs := by
  induction txs with
  | nil => simp
  | cons t rest ih =>
      have := Nat.le_mul_of_pos_left walFrameSize t.frameCount_pos
      rw [List.length_cons, logBytes_cons, Nat.add_one_mul]
      omega

/-- A scan of a slot whose front is intact, behind that front. -/
lemma scanWalSlot_log {m : Media} {db : Db} {slot generation first : ℕ}
    {txs : List (CommittedTransaction cfg)} (hslot : slot < walFileCount)
    (hgeneration : generation ≠ 0) (hfirst : first ≠ 0)
    (hheader : ∃ h, loadWalHeader cfg m db.manifest slot generation = .ok h ∧
      h.firstTransactionSequence = first ∧ h.recordRegionEnd = cfg.geometry.walSize)
    (hlog : LogAt m slot db.manifest.databaseId generation first walRecordRegionOffset txs)
    (hfits : walRecordRegionOffset + logBytes txs ≤ cfg.geometry.walSize) :
    ∃ fuel, txs.length + fuel + 1 = cfg.geometry.walSize / walFrameSize ∧
      scanWalSlot cfg db m slot generation first =
        (replayLog m db first txs >>= fun db =>
          scanTransactions cfg m slot cfg.geometry.walSize generation (fuel + 1)
            (walRecordRegionOffset + logBytes txs) (first + txs.length) db) := by
  obtain ⟨h, hload, hseq, hend⟩ := hheader
  have hsize := cfg.walSize_valid
  have hcount := length_le_logBytes txs
  have hfuel : txs.length + 1 ≤ cfg.geometry.walSize / walFrameSize := by
    simp only [walFrameSize, formatAlignment, walRecordRegionOffset] at *
    omega
  refine ⟨cfg.geometry.walSize / walFrameSize - txs.length - 1, by omega, ?_⟩
  unfold scanWalSlot
  rw [rejectIf_of_not (by omega), ok_bind, hload, ok_bind, rejectIf_of_not (by rw [hseq]; simp),
    ok_bind, hend]
  have hscan := scanTransactions_log txs first walRecordRegionOffset
    (cfg.geometry.walSize / walFrameSize - txs.length - 1 + 1) db hlog hfits
  rw [show cfg.geometry.walSize / walFrameSize - txs.length - 1 + 1 + txs.length =
    cfg.geometry.walSize / walFrameSize by omega] at hscan
  exact hscan

namespace UnsyncedTail

variable {m : Media} {db : Db} {slot generation first : ℕ}
  {txs : List (CommittedTransaction cfg)} {t : CommittedTransaction cfg} {present : ℕ → Bool}

lemma region (h : UnsyncedTail m db.manifest slot generation first txs t present) :
    walRecordRegionOffset + (logBytes txs + t.frameCount * walFrameSize) ≤
      cfg.geometry.walSize := by
  have := h.fits
  rw [logBytes_append, logBytes_cons, logBytes_nil] at this
  omega

/-- All frames have reached the media: the further transaction is replayed too. -/
lemma scan_complete (h : UnsyncedTail m db.manifest slot generation first txs t present)
    (hall : ∀ i < t.frameCount, present i = true) :
    scanWalSlot cfg db m slot generation first =
      (replayLog m db first (txs ++ [t])).map fun db =>
        (db.setWalTail slot (walRecordRegionOffset + logBytes (txs ++ [t])),
          first + txs.length + 1) := by
  have hlog : LogAt m slot db.manifest.databaseId generation first walRecordRegionOffset
      (txs ++ [t]) := by
    refine LogAt.append.mpr ⟨h.log, fun i hi => h.frames i hi (hall i hi), trivial⟩
  obtain ⟨fuel, -, hscan⟩ := scanWalSlot_log h.slot_lt h.generation_ne h.first_ne h.header hlog
    h.fits
  rw [hscan]
  cases hreplay : replayLog m db first (txs ++ [t]) with
  | error e => rfl
  | ok db' =>
      have hregion : walFrameSize ≤ cfg.geometry.walSize := by
        have := cfg.walSize_valid.1
        omega
      rw [ok_bind, scanTransactions_tail h.slot_lt h.generation_ne
        (by rw [List.length_append]; have := h.first_ne; omega) hregion]
      · simp [Except.map, Nat.add_assoc]
      · intro k hk
        have hshift : walRecordRegionOffset + logBytes (txs ++ [t]) + k * walFrameSize =
            walRecordRegionOffset + logBytes txs + (t.frameCount + k) * walFrameSize := by
          rw [logBytes_append, logBytes_cons, logBytes_nil, Nat.add_mul]
          omega
        rw [hshift] at hk ⊢
        exact h.rest _ hk (by omega)

/-- The search behind a missing frame of the further transaction. -/
lemma scan_missing (h : UnsyncedTail m db.manifest slot generation first txs t present)
    {missing : ℕ} (hmissing : missing < t.frameCount) (habsent : present missing = false)
    (hbefore : ∀ i < missing, present i = true) :
    scanWalSlot cfg db m slot generation first =
      (replayLog m db first txs >>= fun db =>
        endScan db m slot (walRecordRegionOffset + logBytes txs)
          (walRecordRegionOffset + logBytes txs + (missing + 1) * walFrameSize)
          cfg.geometry.walSize generation (first + txs.length)) := by
  have hregion := h.region
  obtain ⟨fuel, -, hscan⟩ := scanWalSlot_log h.slot_lt h.generation_ne h.first_ne h.header h.log
    (by omega)
  rw [hscan]
  cases hreplay : replayLog m db first txs with
  | error e => rw [error_bind, error_bind]
  | ok db' =>
      have hid : db'.manifest.databaseId = db.manifest.databaseId := by
        rw [replayLog_frame hreplay]
      have hle : (missing + 1) * walFrameSize ≤ t.frameCount * walFrameSize :=
        Nat.mul_le_mul_right _ hmissing
      rw [Nat.add_one_mul] at hle
      rw [ok_bind, ok_bind]
      exact scanTransactions_missing hmissing
        (fun i hi => by rw [hid]; exact h.frames i (by omega) (hbefore i hi))
        (h.rest missing (by omega) (by simp [habsent])) (by omega)

/-- A front of the frames has reached the media: the scan ends in front of them. -/
lemma scan_front (h : UnsyncedTail m db.manifest slot generation first txs t present)
    {missing : ℕ} (hmissing : missing < t.frameCount)
    (hbefore : ∀ i < missing, present i = true)
    (hbehind : ∀ i, missing ≤ i → i < t.frameCount → present i = false) :
    scanWalSlot cfg db m slot generation first =
      (replayLog m db first txs).map fun db =>
        (db.setWalTail slot (walRecordRegionOffset + logBytes txs), first + txs.length) := by
  have hregion := h.region
  have hle : (missing + 1) * walFrameSize ≤ t.frameCount * walFrameSize :=
    Nat.mul_le_mul_right _ hmissing
  rw [h.scan_missing hmissing (hbehind missing le_rfl hmissing) hbefore]
  cases hreplay : replayLog m db first txs with
  | error e => rfl
  | ok db' =>
      have hsearch : findLaterWalFrameUnsafe m db'.manifest.databaseId slot
          (walRecordRegionOffset + logBytes txs + (missing + 1) * walFrameSize)
          cfg.geometry.walSize generation (first + txs.length) = .ok false := by
        have hfirst := h.first_ne
        have hgeneration := h.generation_ne
        have hslot := h.slot_lt
        unfold findLaterWalFrameUnsafe
        rw [if_neg (by omega)]
        refine findLaterFrames_unused (by have := cfg.walSize_valid.1; omega) _ _ fun k hk => ?_
        have hshift : walRecordRegionOffset + logBytes txs + (missing + 1) * walFrameSize +
            k * walFrameSize =
              walRecordRegionOffset + logBytes txs + (missing + 1 + k) * walFrameSize := by
          rw [Nat.add_mul (missing + 1) k]
          omega
        rw [hshift] at hk ⊢
        refine h.rest _ hk ?_
        rintro ⟨hlt, hpresent⟩
        rw [hbehind _ (by omega) hlt] at hpresent
        cases hpresent
      rw [ok_bind]
      unfold endScan
      rw [hsearch]
      rfl

/-- A frame behind a missing one has reached the media: the scan reports damage. -/
lemma scan_hole (h : UnsyncedTail m db.manifest slot generation first txs t present)
    (missing later : ℕ) (hbefore : ∀ i < missing, present i = true)
    (habsent : present missing = false) (hlater : missing < later)
    (hcount : later < t.frameCount) (hpresent : present later = true) :
    scanWalSlot cfg db m slot generation first =
      (replayLog m db first txs >>= fun _ => .error .invalidCrc) := by
  have hregion := h.region
  have hle : (later + 1) * walFrameSize ≤ t.frameCount * walFrameSize :=
    Nat.mul_le_mul_right _ hcount
  rw [h.scan_missing (by omega) habsent hbefore]
  cases hreplay : replayLog m db first txs with
  | error e => rw [error_bind, error_bind]
  | ok db' =>
      have hid : db'.manifest.databaseId = db.manifest.databaseId := by
        rw [replayLog_frame hreplay]
      obtain ⟨f, hf, hcell⟩ := h.frames later hcount hpresent
      obtain ⟨h₁, h₂, h₃, -⟩ := encodeWalFrame_fields hf
      have hshift : ∀ k, walRecordRegionOffset + logBytes txs + (missing + 1) * walFrameSize +
          k * walFrameSize =
            walRecordRegionOffset + logBytes txs + (missing + 1 + k) * walFrameSize := fun k => by
        rw [Nat.add_mul (missing + 1) k]
        omega
      have hsearch : findLaterWalFrameUnsafe m db'.manifest.databaseId slot
          (walRecordRegionOffset + logBytes txs + (missing + 1) * walFrameSize)
          cfg.geometry.walSize generation (first + txs.length) = .ok true := by
        have hfirst := h.first_ne
        have hgeneration := h.generation_ne
        have hslot := h.slot_lt
        have hmid : (missing + 1) * walFrameSize ≤ (later + 1) * walFrameSize :=
          Nat.mul_le_mul_right _ (by omega)
        have hlast : missing + 1 + (later - missing - 1) = later := by omega
        unfold findLaterWalFrameUnsafe
        rw [if_neg (by omega)]
        refine findLaterFrames_found (later - missing - 1) _ _
          (by rw [hshift, hlast]; exact hcell) (by rw [hid]; exact h₁) h₂ (by rw [h₃]; rfl) ?_
          (by rw [hshift, hlast, Nat.add_assoc, ← Nat.add_one_mul]; omega) ?_
        · have := length_le_logBytes txs
          simp only [walFrameSize, formatAlignment, walRecordRegionOffset] at *
          omega
        · intro i hi status hs
          rw [hshift] at hs
          by_cases hp : present (missing + 1 + i) = true
          · obtain ⟨g, -, hg⟩ := h.frames _ (by omega) hp
            rw [hg] at hs
            cases hs
          · have hrest := h.rest (missing + 1 + i) ?_ (fun hboth => hp hboth.2)
            · rw [hs] at hrest
              exact hrest
            · have : (missing + 1 + i + 1) * walFrameSize ≤ t.frameCount * walFrameSize :=
                Nat.mul_le_mul_right _ (by omega)
              rw [Nat.add_one_mul] at this
              omega
      rw [ok_bind]
      unfold endScan
      rw [hsearch]
      rfl

end UnsyncedTail

/-! ## A transaction of two frames -/

/-- An inline value of the greatest size the host configuration allows. -/
def fullValue : Bytes := List.replicate 1024 0

@[simp] lemma length_fullValue : fullValue.length = 1024 := List.length_replicate

/-- Four such values: a payload of 4237 bytes. -/
def twoFrameTransaction : CommittedTransaction hostConfig where
  namespaceName := [1]
  mutations := [⟨[0], .inline fullValue, .none, 0⟩, ⟨[1], .inline fullValue, .none, 0⟩,
    ⟨[2], .inline fullValue, .none, 0⟩, ⟨[3], .inline fullValue, .none, 0⟩]
  namespaceValid := by decide
  nonempty := List.cons_ne_nil _ _
  count := by simp [hostConfig]
  keysValid := by simp [validateBytes]
  keysDistinct := by simp
  valuesLoggable := by simp [loggableValue, hostConfig]
  staged := by simp [StoredValue.inlineSize, StoredValue.inlineBytes, hostConfig]

lemma frameCount_twoFrameTransaction : twoFrameTransaction.frameCount = 2 := by
  have hlen : twoFrameTransaction.payload.length = 4237 := by
    rw [CommittedTransaction.payload, length_transactionPayload]
    simp [transactionPayloadSize, twoFrameTransaction, StoredValue.inlineSize,
      StoredValue.inlineBytes]
  rw [CommittedTransaction.frameCount, hlen]
  rfl

/-- A provisioned range in which only some frames of that transaction have reached the media. -/
def tornMedia (present : ℕ → Bool) : Media :=
  { provisionedMedia hostConfig 7 with
    walFrame := fun slot offset =>
      let index := (offset - walRecordRegionOffset) / walFrameSize
      writtenOrBlank (if slot = 0 ∧ present index = true then
        twoFrameTransaction.frame? 7 1 1 index else none) }

/-- The instance in front of the scan: a provisioned manifest and nothing recovered yet. -/
def scanningDb : Db := { Db.closed 1 1 with manifest := provisionedRecord hostConfig 7 4 }

lemma tornMedia_walFrame (present : ℕ → Bool) (i : ℕ) :
    (tornMedia present).walFrame 0 (walRecordRegionOffset + i * walFrameSize) =
      writtenOrBlank (if present i = true then twoFrameTransaction.frame? 7 1 1 i else none) := by
  have hindex : (walRecordRegionOffset + i * walFrameSize - walRecordRegionOffset) /
      walFrameSize = i := by
    simp only [walRecordRegionOffset, walFrameSize, formatAlignment]
    omega
  simp only [tornMedia, hindex, true_and]

lemma unsyncedTail_tornMedia (present : ℕ → Bool) :
    UnsyncedTail (tornMedia present) scanningDb.manifest 0 1 1 [] twoFrameTransaction present where
  slot_lt := by decide
  generation_ne := one_ne_zero
  first_ne := one_ne_zero
  header := ⟨⟨7, 1, 1, 0, 65536, by decide⟩, rfl, rfl, rfl⟩
  log := trivial
  fits := by
    rw [List.nil_append, logBytes_cons, logBytes_nil, frameCount_twoFrameTransaction]
    decide
  frames := by
    intro i hi hpresent
    obtain ⟨f, hf⟩ : ∃ f, twoFrameTransaction.frame? 7 1 1 i = some f :=
      twoFrameTransaction.exists_frame (by decide) one_ne_zero one_ne_zero hi
    refine ⟨f, hf, ?_⟩
    rw [logBytes_nil, Nat.add_zero, tornMedia_walFrame, if_pos hpresent, hf]
    rfl
  rest := by
    intro i _ habsent
    rw [logBytes_nil, Nat.add_zero, tornMedia_walFrame]
    split_ifs with hpresent
    · have hnone : twoFrameTransaction.frame? 7 1 1 i = none := by
        have hcount : ¬ i < twoFrameTransaction.frameCount := fun hi => habsent ⟨hi, hpresent⟩
        unfold CommittedTransaction.frame? encodeWalFrame
        rw [dif_neg]
        simp [CommittedTransaction.group, hcount]
      rw [hnone]
      exact rfl
    · exact rfl

/-! ## The outcome -/

end On9kvdb
