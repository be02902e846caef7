import On9kvdb.Log.Scan
import On9kvdb.Store.Frame

/-!
# Damaged logs

What recovery makes of a log some of whose frames are no longer decodable.  `DamagedLogAt` is such
a log, `CutAt` the shape of the part a successful scan has dropped: a transaction with a missing
frame, and no intact frame anywhere behind that one.
-/

namespace On9kvdb

open Exceptional

variable {cfg : Config}

/-! ## Logs with missing frames -/

/-- Every frame of the log is intact or rejected by the decoder. -/
def DamagedLogAt (m : Media) (slot databaseId generation : ℕ) :
    (sequence offset : ℕ) → List (CommittedTransaction cfg) → Prop
  | _, _, [] => True
  | sequence, offset, t :: rest =>
      (∀ index < t.frameCount, FrameAt m slot databaseId generation sequence offset t index ∨
        ∃ status, m.walFrame slot (offset + index * walFrameSize) = .error status) ∧
      DamagedLogAt m slot databaseId generation (sequence + 1)
        (offset + t.frameCount * walFrameSize) rest

/-- No frame of the log is intact. -/
def LostAt (m : Media) (slot databaseId generation : ℕ) :
    (sequence offset : ℕ) → List (CommittedTransaction cfg) → Prop
  | _, _, [] => True
  | sequence, offset, t :: rest =>
      (∀ index < t.frameCount, ¬ FrameAt m slot databaseId generation sequence offset t index) ∧
      LostAt m slot databaseId generation (sequence + 1) (offset + t.frameCount * walFrameSize)
        rest

/-- The log is cut inside its first transaction: the frames in front of the cut are intact, none
behind it is. -/
def CutAt (m : Media) (slot databaseId generation sequence offset : ℕ) :
    List (CommittedTransaction cfg) → Prop
  | [] => True
  | t :: rest =>
      (∃ cut < t.frameCount,
        (∀ i < cut, FrameAt m slot databaseId generation sequence offset t i) ∧
        ∀ i, cut ≤ i → i < t.frameCount →
          ¬ FrameAt m slot databaseId generation sequence offset t i) ∧
      LostAt m slot databaseId generation (sequence + 1) (offset + t.frameCount * walFrameSize)
        rest

/-! ## The scan of a damaged slot -/

/-- A missing frame of another revision is an error of its own. -/
lemma scanTransactions_version {m : Media} {slot regionEnd generation sequence offset fuel : ℕ}
    {db : Db} {t : CommittedTransaction cfg} {missing : ℕ} {status : FormatStatus}
    (hmissing : missing < t.frameCount)
    (hframes : ∀ i < missing,
      FrameAt m slot db.manifest.databaseId generation sequence offset t i)
    (hcell : m.walFrame slot (offset + missing * walFrameSize) = .error status)
    (hversion : status.isVersion = true)
    (hfit : offset + t.frameCount * walFrameSize ≤ regionEnd) :
    scanTransactions cfg m slot regionEnd generation (fuel + 1) offset sequence db =
      .error .invalidVersion := by
  have hsize : walFrameSize ≤ t.frameCount * walFrameSize :=
    Nat.le_mul_of_pos_left _ t.frameCount_pos
  rw [scanTransactions, if_neg (by simp only [walFrameSize, formatAlignment] at *; omega)]
  rcases Nat.eq_zero_or_pos missing with rfl | hpos
  · rw [Nat.zero_mul, Nat.add_zero] at hcell
    rw [hcell]
    dsimp only
    rw [if_pos hversion]
  · obtain ⟨first, hfirst, hfirstCell⟩ := hframes 0 hpos
    rw [Nat.zero_mul, Nat.add_zero] at hfirstCell
    obtain ⟨h₁, h₂, h₃, h₄, h₅, -, h₇, -, -⟩ := encodeWalFrame_fields hfirst
    have hpayload : first.transactionPayloadSize = t.payload.length := h₇
    have hframeCount : first.frameCount = t.frameCount := h₅
    have hmax := t.length_payload_le
    have hread : readFrames m slot offset first t.frameCount 0 [] = .error .invalidVersion := by
      have h := readFrames_present hfirst missing (t.frameCount - missing) 0 fun i _ hi =>
        hframes i (by omega)
      rw [Nat.zero_add, Nat.zero_mul, List.take_zero, Nat.sub_add_cancel hmissing.le] at h
      obtain ⟨remaining, hremaining⟩ : ∃ k, t.frameCount - missing = k + 1 :=
        ⟨t.frameCount - missing - 1, by omega⟩
      rw [h, hremaining, readFrames, hcell]
      dsimp only
      rw [if_pos hversion]
    rw [hfirstCell]
    dsimp only
    rw [if_neg (by
        rintro (h | h)
        · exact h h₁
        · exact h h₂),
      if_neg (by
        rintro (h | h | h | h)
        · exact h h₃
        · exact h h₄
        · omega
        · rw [hframeCount] at h; omega), hframeCount, hread, error_bind]

/-- A search that ends without a finding has passed no intact later frame. -/
lemma findLaterFrames_false {m : Media}
    {databaseId slot regionEnd generation minimumSequence : ℕ} (fuel offset : ℕ)
    (h : findLaterFrames m databaseId slot regionEnd generation minimumSequence fuel offset =
      .ok false) :
    ∀ k < fuel, offset + k * walFrameSize + walFrameSize ≤ regionEnd →
      ∀ f, m.walFrame slot (offset + k * walFrameSize) = .ok f →
        ¬ (f.databaseId = databaseId ∧ f.walGeneration = generation ∧
          minimumSequence ≤ f.transactionSequence) := by
  induction fuel generalizing offset with
  | zero => intro k hk; omega
  | succ fuel ih =>
      intro k hk hfit f hcell
      rw [findLaterFrames, if_neg (by omega)] at h
      have hhead : findLaterFrames m databaseId slot regionEnd generation minimumSequence fuel
            (offset + walFrameSize) = .ok false ∧
          ∀ g, m.walFrame slot offset = .ok g → ¬ (g.databaseId = databaseId ∧
            g.walGeneration = generation ∧ minimumSequence ≤ g.transactionSequence) := by
        cases hframe : m.walFrame slot offset with
        | error status =>
            rw [hframe] at h
            dsimp only at h
            split_ifs at h
            exact ⟨h, fun g hg => by cases hg⟩
        | ok g =>
            rw [hframe] at h
            dsimp only at h
            split_ifs at h with hmatch
            · cases h
            · exact ⟨h, fun g' hg' => by cases hg'; exact hmatch⟩
      cases k with
      | zero =>
          rw [Nat.zero_mul, Nat.add_zero] at hcell
          exact hhead.2 f hcell
      | succ k =>
          have hshift : offset + (k + 1) * walFrameSize =
              offset + walFrameSize + k * walFrameSize := by
            rw [Nat.add_one_mul]
            omega
          rw [hshift] at hcell hfit
          exact ih _ hhead.1 k (by omega) hfit f hcell

/-- Nothing found behind `start`: no transaction of the log there has an intact frame. -/
lemma lostAt_of_search {m : Media} {slot databaseId generation regionEnd minimum start : ℕ}
    (hnone : ∀ k, start + k * walFrameSize + walFrameSize ≤ regionEnd →
      ∀ f, m.walFrame slot (start + k * walFrameSize) = .ok f →
        ¬ (f.databaseId = databaseId ∧ f.walGeneration = generation ∧
          minimum ≤ f.transactionSequence))
    (txs : List (CommittedTransaction cfg)) (sequence k : ℕ) (hsequence : minimum ≤ sequence)
    (hfit : start + k * walFrameSize + logBytes txs ≤ regionEnd) :
    LostAt m slot databaseId generation sequence (start + k * walFrameSize) txs := by
  induction txs generalizing sequence k with
  | nil => trivial
  | cons t rest ih =>
      rw [logBytes_cons] at hfit
      have hshift : ∀ i, start + k * walFrameSize + i * walFrameSize =
          start + (k + i) * walFrameSize := fun i => by rw [Nat.add_mul]; omega
      refine ⟨fun i hi => ?_, ?_⟩
      · rintro ⟨f, hf, hcell⟩
        obtain ⟨h₁, h₂, h₃, -⟩ := encodeWalFrame_fields hf
        have hle : (i + 1) * walFrameSize ≤ t.frameCount * walFrameSize :=
          Nat.mul_le_mul_right _ hi
        rw [Nat.add_one_mul] at hle
        rw [hshift] at hcell
        refine hnone (k + i) (by rw [← hshift]; omega) f hcell ⟨h₁, h₂, ?_⟩
        rw [h₃]
        exact hsequence
      · rw [hshift]
        exact ih _ _ (by omega) (by rw [← hshift]; omega)

/-- **What a successful scan of a damaged slot has done**: it has replayed a front of the log, and
the rest is cut. -/
theorem scanTransactions_damaged {m : Media} {slot regionEnd generation : ℕ}
    (hslot : slot < walFileCount) (hgeneration : generation ≠ 0)
    (hregion : walFrameSize ≤ regionEnd)
    (txs : List (CommittedTransaction cfg)) (sequence offset fuel : ℕ) (db : Db)
    (hsequence : sequence ≠ 0)
    (hlog : DamagedLogAt m slot db.manifest.databaseId generation sequence offset txs)
    (hfit : offset + logBytes txs ≤ regionEnd)
    (hunused : ∀ k, offset + logBytes txs + k * walFrameSize + walFrameSize ≤ regionEnd →
      UnusedFrame generation (m.walFrame slot (offset + logBytes txs + k * walFrameSize)))
    {db' : Db} {next : ℕ}
    (h : scanTransactions cfg m slot regionEnd generation (fuel + txs.length) offset sequence db =
      .ok (db', next)) :
    ∃ recovered lost, txs = recovered ++ lost ∧
      CutAt m slot db.manifest.databaseId generation (sequence + recovered.length)
        (offset + logBytes recovered) lost ∧
      next = sequence + recovered.length ∧
      ∃ db₁, replayLog m db sequence recovered = .ok db₁ ∧
        db' = db₁.setWalTail slot (offset + logBytes recovered) := by
  induction txs generalizing sequence offset db with
  | nil =>
      rw [logBytes_nil, Nat.add_zero] at hunused
      rw [List.length_nil, Nat.add_zero,
        scanTransactions_tail hslot hgeneration hsequence hregion hunused] at h
      cases h
      exact ⟨[], [], rfl, trivial, rfl, db, rfl, rfl⟩
  | cons t rest ih =>
      obtain ⟨hframes, hrest⟩ := hlog
      rw [logBytes_cons] at hfit
      have hbytes : offset + logBytes (t :: rest) =
          offset + t.frameCount * walFrameSize + logBytes rest := by
        rw [logBytes_cons, Nat.add_assoc]
      rw [List.length_cons, ← Nat.add_assoc] at h
      by_cases hall : ∀ i < t.frameCount,
          FrameAt m slot db.manifest.databaseId generation sequence offset t i
      · rw [scanTransactions_step hall (by omega), bind_eq_ok] at h
        obtain ⟨db₁, haccept, hscan⟩ := h
        have hid : db₁.manifest.databaseId = db.manifest.databaseId := by
          rw [acceptLogged_frame haccept]
        obtain ⟨recovered, lost, hsplit, hcut, hnext, db₂, hreplay, htail⟩ :=
          ih _ _ db₁ (by omega) (by rw [hid]; exact hrest) (by omega)
            (by rw [hbytes] at hunused; exact hunused) hscan
        refine ⟨t :: recovered, lost, by rw [hsplit, List.cons_append], ?_, ?_, db₂, ?_, ?_⟩
        · rw [hid] at hcut
          rw [List.length_cons, logBytes_cons, ← Nat.add_assoc offset, Nat.add_comm _ 1,
            ← Nat.add_assoc sequence]
          exact hcut
        · rw [hnext, List.length_cons]
          omega
        · rw [replayLog, haccept, ok_bind, hreplay]
        · rw [htail, logBytes_cons, Nat.add_assoc]
      · have hex : ∃ i, i < t.frameCount ∧
            ¬ FrameAt m slot db.manifest.databaseId generation sequence offset t i := by
          push Not at hall
          exact hall
        classical
        obtain ⟨hcount, habsent⟩ := Nat.find_spec hex
        have hbefore : ∀ i < Nat.find hex,
            FrameAt m slot db.manifest.databaseId generation sequence offset t i := fun i hi => by
          by_contra hnot
          exact Nat.find_min hex hi ⟨by omega, hnot⟩
        obtain ⟨status, hcell⟩ := (hframes _ hcount).resolve_left habsent
        generalize Nat.find hex = cut at *
        cases hversion : status.isVersion with
        | true =>
            rw [scanTransactions_version hcount hbefore hcell hversion (by omega)] at h
            cases h
        | false =>
            rw [scanTransactions_missing hcount hbefore (by rw [hcell]; exact hversion)
              (by omega)] at h
            unfold endScan at h
            rw [bind_eq_ok] at h
            obtain ⟨later, hsearch, h⟩ := h
            rw [bind_eq_ok] at h
            obtain ⟨_, hlater, h⟩ := h
            rw [rejectIf_eq_ok] at hlater
            simp only [pure_eq_ok, Except.ok.injEq, Prod.mk.injEq] at h
            obtain ⟨hdb, hnext⟩ := h
            have hfalse : later = false := by simpa using hlater
            subst hfalse
            unfold findLaterWalFrameUnsafe at hsearch
            split_ifs at hsearch
            have hnone : ∀ k, offset + (cut + 1) * walFrameSize + k * walFrameSize +
                walFrameSize ≤ regionEnd → ∀ f,
                  m.walFrame slot (offset + (cut + 1) * walFrameSize + k * walFrameSize) = .ok f →
                  ¬ (f.databaseId = db.manifest.databaseId ∧ f.walGeneration = generation ∧
                    sequence ≤ f.transactionSequence) := fun k hk => by
              refine findLaterFrames_false _ _ hsearch k ?_ hk
              simp only [walFrameSize, formatAlignment] at *
              omega
            refine ⟨[], t :: rest, rfl, ⟨⟨cut, hcount, hbefore, fun i hle hi => ?_⟩, ?_⟩,
              hnext.symm, db, rfl, hdb.symm⟩
            · rcases Nat.eq_or_lt_of_le hle with rfl | hlt
              · exact habsent
              · rintro ⟨f, hf, hframe⟩
                obtain ⟨h₁, h₂, h₃, -⟩ := encodeWalFrame_fields hf
                have hshift : offset + (cut + 1) * walFrameSize + (i - cut - 1) * walFrameSize =
                    offset + i * walFrameSize := by
                  rw [Nat.add_assoc, ← Nat.add_mul]
                  congr 2
                  omega
                have hbound : (i + 1) * walFrameSize ≤ t.frameCount * walFrameSize :=
                  Nat.mul_le_mul_right _ hi
                rw [Nat.add_one_mul] at hbound
                refine hnone (i - cut - 1) (by rw [hshift]; omega) f (by rw [hshift]; exact hframe)
                  ⟨h₁, h₂, ?_⟩
                rw [h₃]
                exact le_rfl
            · have hshift : offset + (cut + 1) * walFrameSize +
                  (t.frameCount - cut - 1) * walFrameSize = offset + t.frameCount * walFrameSize := by
                rw [Nat.add_assoc, ← Nat.add_mul]
                congr 2
                omega
              have hlost := lostAt_of_search hnone rest (sequence + 1) (t.frameCount - cut - 1)
                (by omega) (by rw [hshift]; omega)
              rw [hshift] at hlost
              exact hlost

/-! ## One slot -/

/-- A WAL slot with an intact header and a log of which some frames may be gone. -/
structure DamagedSlot (m : Media) (manifest : ManifestRecord) (slot first : ℕ)
    (txs : List (CommittedTransaction cfg)) : Prop where
  header : ∃ h, loadWalHeader cfg m manifest slot (manifest.walGeneration slot) = .ok h ∧
    h.firstTransactionSequence = first ∧ h.recordRegionEnd = cfg.geometry.walSize
  log : DamagedLogAt m slot manifest.databaseId (manifest.walGeneration slot) first
    walRecordRegionOffset txs
  fits : walRecordRegionOffset + logBytes txs ≤ cfg.geometry.walSize
  rest : ∀ k, walRecordRegionOffset + logBytes txs + k * walFrameSize + walFrameSize ≤
      cfg.geometry.walSize →
    UnusedFrame (manifest.walGeneration slot)
      (m.walFrame slot (walRecordRegionOffset + logBytes txs + k * walFrameSize))

lemma DamagedSlot.of_tail {m : Media} {manifest : ManifestRecord} {slot first : ℕ}
    {txs : List (CommittedTransaction cfg)} (h : DamagedSlot m manifest slot first txs)
    (tail : ℕ → ℕ) : DamagedSlot m { manifest with valueBankTail := tail } slot first txs :=
  ⟨h.header, h.log, h.fits, h.rest⟩

/-- A successful scan of a damaged slot starts at the header's sequence and recovers a front. -/
lemma scanWalSlot_damaged {m : Media} {db db' : Db} {slot first expected next : ℕ}
    {txs : List (CommittedTransaction cfg)} (h : DamagedSlot m db.manifest slot first txs)
    (hscan : scanWalSlot cfg db m slot (db.manifest.walGeneration slot) expected =
      .ok (db', next)) :
    first ≠ 0 ∧ expected = first ∧ ∃ recovered lost, txs = recovered ++ lost ∧
      CutAt m slot db.manifest.databaseId (db.manifest.walGeneration slot)
        (first + recovered.length) (walRecordRegionOffset + logBytes recovered) lost ∧
      next = first + recovered.length ∧
      ∃ db₁, replayLog m db first recovered = .ok db₁ ∧
        db' = db₁.setWalTail slot (walRecordRegionOffset + logBytes recovered) := by
  obtain ⟨header, hload, hfirst, hend⟩ := h.header
  have hsize := cfg.walSize_valid
  have hcount := length_le_logBytes txs
  have hfits := h.fits
  unfold scanWalSlot at hscan
  rw [bind_eq_ok] at hscan
  obtain ⟨_, hargs, hscan⟩ := hscan
  rw [rejectIf_eq_ok] at hargs
  rw [hload, ok_bind, bind_eq_ok] at hscan
  obtain ⟨_, hexpected, hscan⟩ := hscan
  rw [rejectIf_eq_ok, hfirst, not_not] at hexpected
  subst hexpected
  have hfuel : cfg.geometry.walSize / walFrameSize =
      cfg.geometry.walSize / walFrameSize - txs.length + txs.length := by
    simp only [walFrameSize, formatAlignment, walRecordRegionOffset] at *
    omega
  rw [hend, hfuel] at hscan
  exact ⟨by omega, rfl, scanTransactions_damaged (by omega) (by omega) (by omega) txs first _ _ db (by omega)
    h.log hfits h.rest hscan⟩

/-! ## Both slots -/

/-- The log a manifest refers to: an older slot, when it is still referenced, and the active one
behind it. -/
structure DamagedHistory (m : Media) (manifest : ManifestRecord) (first : ℕ)
    (older active : List (CommittedTransaction cfg)) : Prop where
  slot_lt : manifest.activeWalSlot < walFileCount
  olderSlot : if manifest.walGeneration (1 - manifest.activeWalSlot) = 0 then older = []
    else DamagedSlot m manifest (1 - manifest.activeWalSlot) first older
  activeSlot : DamagedSlot m manifest manifest.activeWalSlot (first + older.length) active

/-- What a recovery may have dropped: a cut end of the active slot's log, above the checkpoint. -/
structure DroppedEnd (m : Media) (manifest : ManifestRecord) (first : ℕ)
    (older recovered lost : List (CommittedTransaction cfg)) : Prop where
  above : manifest.safeCheckpointSequence < first + recovered.length
  cut : ∃ front, recovered = older ++ front ∧
    CutAt m manifest.activeWalSlot manifest.databaseId
      (manifest.walGeneration manifest.activeWalSlot) (first + recovered.length)
      (walRecordRegionOffset + logBytes front) lost

/-- The memory of a recovered log: everything but the slot tails is that of the replay. -/
def ReplayedState (db db' : Db) : Prop :=
  db'.memtable = db.memtable ∧ db'.namespaces = db.namespaces ∧ db'.manifest = db.manifest ∧
    db'.stats = { db.stats with committedTransactionCount := db'.nextTransactionSequence - 1 }

/-- **What a successful replay of a damaged log has recovered.** -/
theorem replayWal_damaged {m : Media} {db db' : Db} {first : ℕ}
    {older active : List (CommittedTransaction cfg)}
    (h : DamagedHistory m db.manifest first older active)
    (hreplay : replayWal cfg db m = .ok db') :
    ∃ recovered lost, older ++ active = recovered ++ lost ∧
      DroppedEnd m db.manifest first older recovered lost ∧
      db'.nextTransactionSequence = first + recovered.length ∧
      ∃ db₁, replayLog m db first recovered = .ok db₁ ∧ ReplayedState db₁ db' := by
  obtain ⟨hslot, holder, hactive⟩ := h
  unfold replayWal at hreplay
  dsimp only at hreplay
  rw [bind_eq_ok] at hreplay
  obtain ⟨_, hgenerations, hreplay⟩ := hreplay
  rw [rejectIf_eq_ok] at hgenerations
  rw [bind_eq_ok] at hreplay
  obtain ⟨firstHeader, hload, hreplay⟩ := hreplay
  rw [bind_eq_ok] at hreplay
  obtain ⟨_, -, hreplay⟩ := hreplay
  rw [bind_eq_ok] at hreplay
  obtain ⟨⟨db₁, expected₁⟩, hscan₁, hreplay⟩ := hreplay
  rw [bind_eq_ok] at hreplay
  obtain ⟨⟨db₂, expected₂⟩, hscan₂, hreplay⟩ := hreplay
  rw [bind_eq_ok] at hreplay
  obtain ⟨_, hcheckpoint, hreplay⟩ := hreplay
  rw [rejectIf_eq_ok] at hcheckpoint
  simp only [pure_eq_ok, Except.ok.injEq] at hreplay
  by_cases hnone : db.manifest.walGeneration (1 - db.manifest.activeWalSlot) = 0
  · -- One slot: the whole log is in the active one.
    rw [if_pos hnone] at holder
    subst holder
    rw [if_neg (not_not.mpr hnone)] at hscan₁ hscan₂
    obtain ⟨hfirst, -, recovered, lost, hsplit, hcut, hnext, dbA, hrun, htail⟩ :=
      scanWalSlot_damaged hactive hscan₁
    have hsame : db₁.manifest.activeWalSlot = db.manifest.activeWalSlot := by
      rw [htail, replayLog_frame hrun]
      rfl
    unfold scanActiveSlot at hscan₂
    rw [hsame, if_neg (not_not.mpr rfl)] at hscan₂
    simp only [Except.ok.injEq, Prod.mk.injEq] at hscan₂
    obtain ⟨hdb₂, hexpected⟩ := hscan₂
    rw [← hexpected, hnext] at hcheckpoint hreplay
    subst hreplay hdb₂ htail
    refine ⟨recovered, lost, by simpa using hsplit, ⟨?_, recovered, rfl, ?_⟩, by simp, dbA,
      by simpa using hrun, rfl, rfl, rfl, rfl⟩
    · simp only [List.length_nil, Nat.add_zero] at hcheckpoint hfirst
      omega
    · simpa using hcut
  · -- Two slots: the older one must be complete for the sequences to meet.
    rw [if_neg hnone] at holder
    rw [if_pos hnone] at hscan₁ hscan₂
    obtain ⟨hfirst, -, recovered₁, lost₁, hsplit₁, -, hnext₁, dbA, hrun₁, htail₁⟩ :=
      scanWalSlot_damaged holder hscan₁
    have hmanifest : db₁.manifest =
        { db.manifest with valueBankTail := dbA.manifest.valueBankTail } := by
      rw [htail₁]
      exact congrArg Db.manifest (replayLog_frame hrun₁)
    have hactive' : DamagedSlot m db₁.manifest db.manifest.activeWalSlot (first + older.length)
        active := by
      rw [hmanifest]
      exact hactive.of_tail _
    unfold scanActiveSlot at hscan₂
    rw [show db₁.manifest.activeWalSlot = db.manifest.activeWalSlot by rw [hmanifest],
      if_pos (by omega)] at hscan₂
    obtain ⟨-, hmeet, recovered₂, lost, hsplit₂, hcut, hnext₂, dbB, hrun₂, htail₂⟩ :=
      scanWalSlot_damaged hactive' hscan₂
    obtain ⟨rfl, rfl⟩ : recovered₁ = older ∧ lost₁ = [] := by
      have hlength := congrArg List.length hsplit₁
      rw [List.length_append] at hlength
      have hlost : lost₁ = [] := List.length_eq_zero_iff.mp (by omega)
      exact ⟨by rw [hsplit₁, hlost, List.append_nil], hlost⟩
    rw [htail₁, replayLog_setWalTail] at hrun₂
    cases hrun : replayLog m dbA (first + recovered₁.length) recovered₂ with
    | error e =>
        rw [hrun] at hrun₂
        cases hrun₂
    | ok dbC =>
        rw [hrun] at hrun₂
        simp only [Except.map, Except.ok.injEq] at hrun₂
        rw [hnext₂] at hcheckpoint hreplay
        subst hreplay htail₂ hrun₂
        refine ⟨recovered₁ ++ recovered₂, lost, by rw [hsplit₂, List.append_assoc],
          ⟨?_, recovered₂, rfl, ?_⟩, ?_, dbC, ?_, rfl, rfl, rfl, rfl⟩
        · rw [List.length_append]
          omega
        · rw [hmanifest] at hcut
          rw [List.length_append, ← Nat.add_assoc]
          exact hcut
        · rw [List.length_append, ← Nat.add_assoc]
        · rw [replayLog_append, hrun₁, ok_bind, hrun]

/-! ## Recovery -/

lemma DamagedSlot.of_tables {m : Media} {manifest : ManifestRecord} {slot first : ℕ}
    {txs : List (CommittedTransaction cfg)} (h : DamagedSlot m manifest slot first txs)
    (tables : ℕ → Option TableReference) :
    DamagedSlot m { manifest with tables := tables } slot first txs :=
  ⟨h.header, h.log, h.fits, h.rest⟩

/-- The log a manifest refers to does not depend on its table references. -/
lemma DamagedHistory.of_tables {m : Media} {manifest : ManifestRecord} {first : ℕ}
    {older active : List (CommittedTransaction cfg)}
    (h : DamagedHistory m manifest first older active) (tables : ℕ → Option TableReference) :
    DamagedHistory m { manifest with tables := tables } first older active := by
  refine ⟨h.slot_lt, ?_, h.activeSlot.of_tables tables⟩
  have holder := h.olderSlot
  dsimp only
  split_ifs at holder ⊢
  · exact holder
  · exact holder.of_tables tables

/-- The instance `recover_wal` starts from. -/
def recoveryStart (w : World) : World :=
  { w with db := { w.db with stats := {}, namespaces := [], memtable := .empty } }

/-- The steps of a successful `recover_wal`. -/
lemma recoverWal_eq_ok {w w' : World} (h : exec (recoverWal cfg) w = (.ok (), w')) :
    ∃ tables replayed, exec (recoverTablesUnsafe cfg) (recoveryStart w) = (.ok (), tables) ∧
      replayWal cfg tables.db tables.dev.current = .ok replayed ∧
      exec stabilizeManifestUnsafe { tables with db := replayed, dev := tables.dev.tick } =
        (.ok (), w') := by
  unfold recoverWal at h
  rw [exec_bind, exec_getDb] at h
  dsimp only at h
  rw [exec_bind, exec_failIf] at h
  split_ifs at h
  · cases h
  dsimp only at h
  rw [exec_bind, show exec (modifyDb _) w = (.ok ⟨⟩, recoveryStart w) from rfl] at h
  dsimp only at h
  rw [exec_bind] at h
  rcases htables : exec (recoverTablesUnsafe cfg) (recoveryStart w) with ⟨o, tables⟩
  rw [htables] at h
  cases o with
  | error e => cases h
  | ok u =>
      dsimp only at h
      rw [exec_bind, exec_readStorage] at h
      split_ifs at h
      · cases hreplay : replayWal cfg tables.db tables.dev.current with
        | error e =>
            rw [hreplay] at h
            cases h
        | ok replayed =>
            rw [hreplay] at h
            exact ⟨tables, replayed, rfl, hreplay, h⟩
      · cases h

/-! ## Two lost transactions -/

/-- A freshly opened instance on a log whose frames are all unreadable. -/
def erasedWorld : World :=
  ⟨scanningDb, .boot (tornMedia fun _ => false) (fun _ => .none) (fun _ => [])
    fun _ => ⟨1, by decide⟩⟩

lemma erasedWorld_walFrame (i : ℕ) :
    erasedWorld.dev.current.walFrame 0 (walRecordRegionOffset + i * walFrameSize) =
      .error .invalidMagic :=
  (tornMedia_walFrame (fun _ => false) i).trans rfl

lemma damagedHistory_erasedWorld :
    DamagedHistory erasedWorld.dev.current erasedWorld.db.manifest 1 []
      [twoFrameTransaction, twoFrameTransaction] where
  slot_lt := by decide
  olderSlot := rfl
  activeSlot := by
    have hbytes : logBytes [twoFrameTransaction, twoFrameTransaction] = 4 * walFrameSize := by
      simp only [logBytes_cons, logBytes_nil, frameCount_twoFrameTransaction]
      rfl
    refine ⟨⟨⟨7, 1, 1, 0, 65536, by decide⟩, rfl, rfl, rfl⟩, ?_, by rw [hbytes]; decide,
      fun k _ => ?_⟩
    · refine ⟨fun i _ => Or.inr ⟨_, erasedWorld_walFrame i⟩, fun i _ => Or.inr ⟨.invalidMagic, ?_⟩, trivial⟩
      rw [Nat.add_assoc, ← Nat.add_mul]
      exact erasedWorld_walFrame _
    · rw [hbytes, Nat.add_assoc, ← Nat.add_mul]
      have hcell : erasedWorld.dev.current.walFrame erasedWorld.db.manifest.activeWalSlot
          (walRecordRegionOffset + (4 + k) * walFrameSize) = .error .invalidMagic :=
        erasedWorld_walFrame _
      rw [hcell]
      exact rfl

lemma exec_erasedWorld : (exec (recoverWal hostConfig) erasedWorld).1 = .ok () := by
  decide +kernel

/-! ## The outcome -/

/-- **No silent truncation.**  A recovery that succeeds on a damaged log has replayed a front of
the committed transactions.  What it has dropped is an end of the active slot's log, above the
checkpoint, of which nothing is intact from the first missing frame on. -/
theorem recoverWal_damaged {w w' : World} {first : ℕ}
    {older active : List (CommittedTransaction cfg)}
    (h : DamagedHistory w.dev.current w.db.manifest first older active)
    (hrun : exec (recoverWal cfg) w = (.ok (), w')) :
    ∃ recovered lost, older ++ active = recovered ++ lost ∧
      DroppedEnd w.dev.current w.db.manifest first older recovered lost ∧
      w'.db.nextTransactionSequence = first + recovered.length ∧
      ∃ tables db, exec (recoverTablesUnsafe cfg) (recoveryStart w) = (.ok (), tables) ∧
        replayLog w.dev.current tables.db first recovered = .ok db ∧
        w'.db.memtable = db.memtable ∧ w'.db.namespaces = db.namespaces := by
  obtain ⟨tables, replayed, htables, hreplay, hstabilize⟩ := recoverWal_eq_ok hrun
  have hframe : Recovering (recoveryStart w) tables := by
    have hwithin : Recovering (recoveryStart w)
        (exec (recoverTablesUnsafe cfg) (recoveryStart w)).2 := within_recoverTablesUnsafe _
    rwa [htables] at hwithin
  have hcurrent : tables.dev.current = w.dev.current := by
    rw [hframe.dev]
    rfl
  have hpublish : Publishing { tables with db := replayed, dev := tables.dev.tick } w' := by
    have := within_stabilizeManifestUnsafe { tables with db := replayed, dev := tables.dev.tick }
    rwa [hstabilize] at this
  rw [hcurrent] at hreplay
  have hmanifest : tables.db.manifest =
      { w.db.manifest with tables := tables.db.manifest.tables } :=
    eq_of_withoutKeyRanges hframe.manifest
  have hhistory : DamagedHistory w.dev.current tables.db.manifest first older active := by
    rw [hmanifest]
    exact h.of_tables _
  obtain ⟨recovered, lost, hsplit, hdropped, hnext, db, hlog, hmemtable, hnamespaces, -, -⟩ :=
    replayWal_damaged hhistory hreplay
  rw [hmanifest] at hdropped
  refine ⟨recovered, lost, hsplit, ⟨hdropped.above, hdropped.cut⟩, ?_, tables, db, htables, hlog,
    ?_, ?_⟩
  · rw [hpublish.db, ← hnext]
  · rw [hpublish.db, ← hmemtable]
  · rw [hpublish.db, ← hnamespaces]

/-- Both transactions of a log are lost and their frames with them. -/
theorem recoverWal_damaged_erased :
    ∃ recovered lost, [] ++ [twoFrameTransaction, twoFrameTransaction] = recovered ++ lost ∧
      DroppedEnd erasedWorld.dev.current erasedWorld.db.manifest 1 [] recovered lost ∧
      (exec (recoverWal hostConfig) erasedWorld).2.db.nextTransactionSequence =
        1 + recovered.length ∧
      ∃ tables db, exec (recoverTablesUnsafe hostConfig) (recoveryStart erasedWorld) =
          (.ok (), tables) ∧
        replayLog erasedWorld.dev.current tables.db 1 recovered = .ok db ∧
        (exec (recoverWal hostConfig) erasedWorld).2.db.memtable = db.memtable ∧
        (exec (recoverWal hostConfig) erasedWorld).2.db.namespaces = db.namespaces :=
  recoverWal_damaged damagedHistory_erasedWorld (Prod.ext exec_erasedWorld rfl)

/-- A recovery that succeeds without either of the two committed transactions. -/
theorem recoverWal_two_lost :
    DamagedHistory erasedWorld.dev.current erasedWorld.db.manifest 1 []
        [twoFrameTransaction, twoFrameTransaction] ∧
      (exec (recoverWal hostConfig) erasedWorld).1 = .ok () ∧
      (exec (recoverWal hostConfig) erasedWorld).2.db.nextTransactionSequence = 1 :=
  ⟨damagedHistory_erasedWorld, exec_erasedWorld, by decide +kernel⟩

end On9kvdb
