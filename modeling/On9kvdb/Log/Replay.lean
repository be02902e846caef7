import On9kvdb.Log.Frames
import On9kvdb.Store.View

/-!
# What a replay changes

Replaying a transaction touches the memtable, the namespaces, the statistics and the published
tail of the active value bank, and nothing else.  `replayLog` is the in-order application of a
list of transactions, the meaning a scan is compared with.
-/

namespace On9kvdb

variable {cfg : Config}

/-! ## Frame conditions -/

lemma applyMutation_frame {db db' : Db} {namespaceSlotIndex sequence : ℕ} {m : Mutation}
    (h : applyMutation cfg db namespaceSlotIndex sequence m = .ok db') :
    db' = { db with memtable := db'.memtable, stats := db'.stats } := by
  unfold applyMutation at h
  rw [bind_eq_ok] at h
  obtain ⟨search, -, h⟩ := h
  cases search with
  | full => cases h
  | found bucket old => cases h; rfl
  | free bucket => cases h; rfl

lemma applyMutations_frame {db db' : Db} {namespaceSlotIndex sequence : ℕ}
    {mutations : List Mutation}
    (h : applyMutations cfg namespaceSlotIndex sequence db mutations = .ok db') :
    db' = { db with memtable := db'.memtable, stats := db'.stats } := by
  induction mutations generalizing db with
  | nil => cases h; rfl
  | cons m rest ih =>
      rw [applyMutations, bind_eq_ok] at h
      obtain ⟨middle, hm, hrest⟩ := h
      have h₁ := applyMutation_frame hm
      have h₂ := ih hrest
      rw [h₁] at h₂
      exact h₂

lemma applyTransactionToMemtableUnsafe_frame {db db' : Db} {namespaceSlotIndex sequence : ℕ}
    {mutations : List Mutation}
    (h : applyTransactionToMemtableUnsafe cfg db mutations namespaceSlotIndex sequence = .ok db') :
    db' = { db with memtable := db'.memtable, stats := db'.stats } := by
  unfold applyTransactionToMemtableUnsafe at h
  rw [bind_eq_ok] at h
  obtain ⟨middle, hm, h⟩ := h
  have h₁ := applyMutations_frame hm
  cases h
  rw [h₁]

lemma recoverDescriptors_frame {manifest manifest' : ManifestRecord} {mutations : List Mutation}
    (h : recoverDescriptors cfg manifest mutations = .ok manifest') :
    manifest' = { manifest with valueBankTail := manifest'.valueBankTail } := by
  induction mutations generalizing manifest with
  | nil => cases h; rfl
  | cons m rest ih =>
      rw [recoverDescriptors] at h
      cases hr : m.value.ref? with
      | none =>
          rw [hr] at h
          exact ih h
      | some r =>
          rw [hr] at h
          dsimp only at h
          rw [bind_eq_ok] at h
          obtain ⟨middle, hm, hrest⟩ := h
          unfold recoverDescriptor at hm
          split_ifs at hm
          cases hm
          have htail := ih hrest
          exact htail

lemma replayMutations_frame {db db' : Db} {m : Media} {namespaceName : Bytes}
    {mutations : List Mutation} {sequence : ℕ}
    (h : replayMutations cfg db m namespaceName mutations sequence = .ok db') :
    db' = { db with
      manifest := { db.manifest with valueBankTail := db'.manifest.valueBankTail }
      namespaces := db'.namespaces
      memtable := db'.memtable
      stats := db'.stats } := by
  unfold replayMutations at h
  rw [bind_eq_ok] at h
  obtain ⟨manifest, hmanifest, h⟩ := h
  dsimp only at h
  rw [bind_eq_ok] at h
  obtain ⟨staged, -, h⟩ := h
  rw [bind_eq_ok] at h
  obtain ⟨⟨index, namespaces⟩, -, h⟩ := h
  have h₁ := applyTransactionToMemtableUnsafe_frame h
  have h₂ := recoverDescriptors_frame hmanifest
  rw [h₁]
  dsimp only
  rw [← h₂]

/-! ## Accepting logged transactions -/

/-- The state behind one logged transaction: counted, and replayed when it is above the
checkpoint. -/
def acceptLogged (db : Db) (m : Media) (t : CommittedTransaction cfg) (sequence : ℕ) :
    Except EspErr Db := do
  let db ← (if db.manifest.safeCheckpointSequence < sequence then
    replayMutations cfg db m t.namespaceName (t.mutations.map Mutation.logged) sequence else .ok db)
  rejectIf (sequence + 1 = 2 ^ 64) .invalidState
  return { db with stats := { db.stats with
    walBytesUsed := add64 db.stats.walBytesUsed (t.frameCount * walFrameSize) } }

/-- The state behind a whole log, from the sequence of its first transaction on. -/
def replayLog (m : Media) : Db → (sequence : ℕ) → List (CommittedTransaction cfg) →
    Except EspErr Db
  | db, _, [] => .ok db
  | db, sequence, t :: rest => do
      let db ← acceptLogged db m t sequence
      replayLog m db (sequence + 1) rest

lemma replayLog_append (m : Media) (db : Db) (sequence : ℕ)
    (a b : List (CommittedTransaction cfg)) :
    replayLog m db sequence (a ++ b) =
      (replayLog m db sequence a >>= fun db => replayLog m db (sequence + a.length) b) := by
  induction a generalizing db sequence with
  | nil => rfl
  | cons t rest ih =>
      rw [List.cons_append, replayLog, replayLog]
      cases acceptLogged db m t sequence with
      | error e => rfl
      | ok db' =>
          simp only [ok_bind, ih, List.length_cons]
          rw [Nat.add_right_comm, Nat.add_assoc]

lemma acceptLogged_frame {db db' : Db} {m : Media} {t : CommittedTransaction cfg} {sequence : ℕ}
    (h : acceptLogged db m t sequence = .ok db') :
    db' = { db with
      manifest := { db.manifest with valueBankTail := db'.manifest.valueBankTail }
      namespaces := db'.namespaces
      memtable := db'.memtable
      stats := db'.stats } := by
  unfold acceptLogged at h
  rw [bind_eq_ok] at h
  obtain ⟨middle, hm, h⟩ := h
  rw [bind_eq_ok] at h
  obtain ⟨-, -, h⟩ := h
  cases h
  split_ifs at hm
  · have h₁ := replayMutations_frame hm
    rw [h₁]
  · cases hm
    rfl

lemma replayLog_frame {db db' : Db} {m : Media} {txs : List (CommittedTransaction cfg)}
    {sequence : ℕ} (h : replayLog m db sequence txs = .ok db') :
    db' = { db with
      manifest := { db.manifest with valueBankTail := db'.manifest.valueBankTail }
      namespaces := db'.namespaces
      memtable := db'.memtable
      stats := db'.stats } := by
  induction txs generalizing db sequence with
  | nil => cases h; rfl
  | cons t rest ih =>
      rw [replayLog, bind_eq_ok] at h
      obtain ⟨middle, hm, hrest⟩ := h
      have h₁ := acceptLogged_frame hm
      have h₂ := ih hrest
      rw [h₁] at h₂
      exact h₂

/-- The scan accepts the payload it has read as the transaction it was made from. -/
lemma acceptTransaction_payload {db : Db} {m : Media} {t : CommittedTransaction cfg}
    {sequence : ℕ} {first : WalFrame} (hcount : first.mutationCount = t.mutations.length)
    (hframes : first.frameCount = t.frameCount) :
    acceptTransaction cfg db m t.payload first sequence = acceptLogged db m t sequence := by
  unfold acceptTransaction acceptLogged replayTransaction
  rw [hcount, hframes, t.parseRecoveredTransactionUnsafe_payload]
  rfl

/-! ## The tails of the slots play no part -/

lemma sameView_setWalTail (db : Db) (slot offset : ℕ) : SameView db (db.setWalTail slot offset) :=
  ⟨rfl, rfl, rfl, rfl, rfl, rfl, rfl, rfl⟩

lemma applyMutations_setWalTail (slot offset namespaceSlotIndex sequence : ℕ) (db : Db)
    (mutations : List Mutation) :
    applyMutations cfg namespaceSlotIndex sequence (db.setWalTail slot offset) mutations =
      (applyMutations cfg namespaceSlotIndex sequence db mutations).map
        (Db.setWalTail · slot offset) := by
  induction mutations generalizing db with
  | nil => rfl
  | cons m rest ih =>
      have hone : applyMutation cfg (db.setWalTail slot offset) namespaceSlotIndex sequence m =
          (applyMutation cfg db namespaceSlotIndex sequence m).map
            (Db.setWalTail · slot offset) := by
        unfold applyMutation
        rw [(sameView_setWalTail db slot offset).findMemtableBucketUnsafe]
        cases findMemtableBucketUnsafe cfg db namespaceSlotIndex m.key with
        | error e => rfl
        | ok search => cases search <;> rfl
      rw [applyMutations, applyMutations, hone]
      cases applyMutation cfg db namespaceSlotIndex sequence m with
      | error e => rfl
      | ok db' => exact ih db'

lemma replayMutations_setWalTail (db : Db) (m : Media) (slot offset : ℕ) (namespaceName : Bytes)
    (mutations : List Mutation) (sequence : ℕ) :
    replayMutations cfg (db.setWalTail slot offset) m namespaceName mutations sequence =
      (replayMutations cfg db m namespaceName mutations sequence).map
        (Db.setWalTail · slot offset) := by
  unfold replayMutations
  rw [show (db.setWalTail slot offset).manifest = db.manifest from rfl]
  cases recoverDescriptors cfg db.manifest mutations with
  | error e => rfl
  | ok manifest =>
      have hview : SameView { db with manifest := manifest }
          { db.setWalTail slot offset with manifest := manifest } :=
        ⟨rfl, rfl, rfl, rfl, rfl, rfl, rfl, rfl⟩
      rw [ok_bind, ok_bind]
      dsimp only
      rw [hview.preflightMemtableTransactionUnsafe (SameTables.refl m) rfl]
      cases preflightMemtableTransactionUnsafe cfg { db with manifest := manifest } m
          namespaceName mutations with
      | error e => rfl
      | ok staged =>
          rw [ok_bind, ok_bind, show (db.setWalTail slot offset).namespaces = db.namespaces from rfl]
          cases ensureNamespaceCapacityUnsafe cfg db.namespaces namespaceName with
          | error e => rfl
          | ok found =>
              have happly : applyMutations cfg found.1 sequence
                  (Db.setWalTail { db with manifest := manifest, namespaces := found.2 } slot
                    offset) staged = _ := applyMutations_setWalTail _ _ _ _ _ _
              rw [ok_bind, ok_bind]
              unfold applyTransactionToMemtableUnsafe
              dsimp only
              rw [show ({ db.setWalTail slot offset with
                manifest := manifest, namespaces := found.2 } : Db) =
                  Db.setWalTail { db with manifest := manifest, namespaces := found.2 } slot offset
                from rfl, happly]
              cases applyMutations cfg found.1 sequence
                { db with manifest := manifest, namespaces := found.2 } staged <;> rfl

lemma acceptLogged_setWalTail (db : Db) (m : Media) (slot offset : ℕ)
    (t : CommittedTransaction cfg) (sequence : ℕ) :
    acceptLogged (db.setWalTail slot offset) m t sequence =
      (acceptLogged db m t sequence).map (Db.setWalTail · slot offset) := by
  unfold acceptLogged
  rw [replayMutations_setWalTail, show (db.setWalTail slot offset).manifest = db.manifest from rfl]
  split_ifs
  · cases replayMutations cfg db m t.namespaceName (t.mutations.map Mutation.logged) sequence with
    | error e => rfl
    | ok db' =>
        by_cases hlast : sequence + 1 = 2 ^ 64
        · simp only [Except.map, ok_bind, rejectIf_of hlast, error_bind]
        · simp only [Except.map, ok_bind, rejectIf_of_not hlast]
          rfl
  · by_cases hlast : sequence + 1 = 2 ^ 64
    · simp only [Except.map, ok_bind, rejectIf_of hlast, error_bind]
    · simp only [Except.map, ok_bind, rejectIf_of_not hlast]
      rfl

/-- **A log replays alike whatever the tails of the slots are.** -/
theorem replayLog_setWalTail (db : Db) (m : Media) (slot offset sequence : ℕ)
    (txs : List (CommittedTransaction cfg)) :
    replayLog m (db.setWalTail slot offset) sequence txs =
      (replayLog m db sequence txs).map (Db.setWalTail · slot offset) := by
  induction txs generalizing db sequence with
  | nil => rfl
  | cons t rest ih =>
      rw [replayLog, replayLog, acceptLogged_setWalTail]
      cases acceptLogged db m t sequence with
      | error e => rfl
      | ok db' => exact ih db' (sequence + 1)

end On9kvdb
