import On9kvdb.Log.Replay

/-!
# What a replay changes

Scanning the log, whatever it contains, fills the memtable, the registry and the counters, moves
the log tails and raises value bank tails so that they cover every recovered descriptor.  It never
lowers a bank tail and changes nothing else.
-/

namespace On9kvdb

variable {cfg : Config}

/-- The effect of replayed transactions. -/
structure Replayed (db db' : Db) : Prop where
  frame : db' = { db with
    manifest := db'.manifest
    namespaces := db'.namespaces
    memtable := db'.memtable
    walTail := db'.walTail
    nextTransactionSequence := db'.nextTransactionSequence
    stats := db'.stats }
  manifest : db'.manifest = { db.manifest with valueBankTail := db'.manifest.valueBankTail }
  tail : ∀ bank, db.manifest.valueBankTail bank ≤ db'.manifest.valueBankTail bank

lemma Replayed.refl (db : Db) : Replayed db db := ⟨rfl, rfl, fun _ => le_rfl⟩

lemma Replayed.trans {db db' db'' : Db} (h₁ : Replayed db db') (h₂ : Replayed db' db'') :
    Replayed db db'' :=
  ⟨by rw [h₂.frame, h₁.frame], by rw [h₂.manifest, h₁.manifest],
    fun bank => (h₁.tail bank).trans (h₂.tail bank)⟩

/-! ## Transactions -/

/-- A recovered descriptor never lowers a tail. -/
lemma recoverDescriptors_tail {manifest manifest' : ManifestRecord} {mutations : List Mutation}
    (h : recoverDescriptors cfg manifest mutations = .ok manifest') (bank : ℕ) :
    manifest.valueBankTail bank ≤ manifest'.valueBankTail bank := by
  induction mutations generalizing manifest with
  | nil => cases h; exact le_rfl
  | cons m rest ih =>
      rw [recoverDescriptors] at h
      cases hr : m.value.ref? with
      | none =>
          rw [hr] at h
          exact ih h
      | some r =>
          rw [hr] at h
          dsimp only at h
          rw [bind_eq_ok] at h
          obtain ⟨middle, hm, hrest⟩ := h
          unfold recoverDescriptor at hm
          split_ifs at hm
          cases hm
          refine le_trans ?_ (ih hrest)
          by_cases hbank : bank = r.bankSlot
          · subst hbank
            simp
          · simp [Function.update_of_ne hbank]

lemma replayMutations_replayed {db db' : Db} {m : Media} {namespaceName : Bytes}
    {mutations : List Mutation} {sequence : ℕ}
    (h : replayMutations cfg db m namespaceName mutations sequence = .ok db') :
    Replayed db db' := by
  have hframe := replayMutations_frame h
  refine ⟨by rw [hframe], by rw [hframe], ?_⟩
  unfold replayMutations at h
  rw [bind_eq_ok] at h
  obtain ⟨manifest, hmanifest, h⟩ := h
  dsimp only at h
  rw [bind_eq_ok] at h
  obtain ⟨staged, -, h⟩ := h
  rw [bind_eq_ok] at h
  obtain ⟨found, -, h⟩ := h
  rw [applyTransactionToMemtableUnsafe_frame h]
  exact recoverDescriptors_tail hmanifest

lemma replayTransaction_replayed {db db' : Db} {m : Media} {payload : Bytes}
    {mutationCount sequence : ℕ}
    (h : replayTransaction cfg db m payload mutationCount sequence = .ok db') : Replayed db db' := by
  unfold replayTransaction at h
  rw [bind_eq_ok] at h
  obtain ⟨parsed, -, h⟩ := h
  exact replayMutations_replayed h

/-! ## Scans -/

/-- The fields a scan changes besides those of the replayed transactions. -/
def Bookkept (db db' : Db) : Prop :=
  db' = { db with
    walTail := db'.walTail
    nextTransactionSequence := db'.nextTransactionSequence
    stats := db'.stats }

lemma Bookkept.setWalTail (db : Db) (slot offset : ℕ) : Bookkept db (db.setWalTail slot offset) :=
  rfl

variable (cfg) in
/-- A property that a scan carries along, transaction by transaction. -/
structure ScanInvariant (m : Media) (P : Db → Prop) : Prop where
  bookkept : ∀ {db db'}, P db → Bookkept db db' → P db'
  replay : ∀ {db db'} {payload : Bytes} {mutationCount sequence : ℕ}, P db →
    replayTransaction cfg db m payload mutationCount sequence = .ok db' → P db'

namespace ScanInvariant

variable {m : Media} {P : Db → Prop} (hP : ScanInvariant cfg m P)
include hP

lemma acceptTransaction {db db' : Db} {payload : Bytes} {first : WalFrame} {expectedSequence : ℕ}
    (hdb : P db) (h : acceptTransaction cfg db m payload first expectedSequence = .ok db') :
    P db' := by
  unfold On9kvdb.acceptTransaction at h
  rw [bind_eq_ok] at h
  obtain ⟨middle, hm, h⟩ := h
  rw [bind_eq_ok] at h
  obtain ⟨-, -, h⟩ := h
  cases h
  have hmiddle : P middle := by
    split_ifs at hm
    · exact hP.replay hdb hm
    · cases hm
      exact hdb
  exact hP.bookkept hmiddle rfl

lemma endScan {db db' : Db} {slot offset laterOffset regionEnd generation expectedSequence next : ℕ}
    (hdb : P db) (h : endScan db m slot offset laterOffset regionEnd generation expectedSequence =
      .ok (db', next)) : P db' := by
  unfold On9kvdb.endScan at h
  rw [bind_eq_ok] at h
  obtain ⟨later, -, h⟩ := h
  rw [bind_eq_ok] at h
  obtain ⟨-, -, h⟩ := h
  cases h
  exact hP.bookkept hdb (.setWalTail db slot offset)

/-- **A scan carries it along.** -/
theorem scanTransactions {slot regionEnd generation fuel offset expectedSequence next : ℕ}
    {db db' : Db} (hdb : P db)
    (h : scanTransactions cfg m slot regionEnd generation fuel offset expectedSequence db =
      .ok (db', next)) : P db' := by
  induction fuel generalizing offset expectedSequence db with
  | zero =>
      cases h
      exact hP.bookkept hdb (.setWalTail _ _ _)
  | succ fuel ih =>
      unfold On9kvdb.scanTransactions at h
      split_ifs at h
      · cases h
        exact hP.bookkept hdb (.setWalTail _ _ _)
      · cases hcell : m.walFrame slot offset with
        | error status =>
            rw [hcell] at h
            dsimp only at h
            split_ifs at h
            exact hP.endScan hdb h
        | ok first =>
            rw [hcell] at h
            dsimp only at h
            split_ifs at h
            · exact hP.endScan hdb h
            · rw [bind_eq_ok] at h
              obtain ⟨frames, -, h⟩ := h
              cases frames with
              | broken frameIndex => exact hP.endScan hdb h
              | complete payload =>
                  dsimp only at h
                  split_ifs at h
                  · exact hP.endScan hdb h
                  · rw [bind_eq_ok] at h
                    obtain ⟨middle, hm, h⟩ := h
                    exact ih (hP.acceptTransaction hdb hm) h

lemma scanWalSlot {db db' : Db} {slot generation expectedSequence next : ℕ} (hdb : P db)
    (h : scanWalSlot cfg db m slot generation expectedSequence = .ok (db', next)) : P db' := by
  unfold On9kvdb.scanWalSlot at h
  rw [bind_eq_ok] at h
  obtain ⟨-, -, h⟩ := h
  rw [bind_eq_ok] at h
  obtain ⟨header, -, h⟩ := h
  rw [bind_eq_ok] at h
  obtain ⟨-, -, h⟩ := h
  exact hP.scanTransactions hdb h

lemma scanActiveSlot {db db' : Db} {firstSlot expectedSequence next : ℕ} (hdb : P db)
    (h : scanActiveSlot cfg db m firstSlot expectedSequence = .ok (db', next)) : P db' := by
  unfold On9kvdb.scanActiveSlot at h
  dsimp only at h
  split_ifs at h
  · exact hP.scanWalSlot hdb h
  · cases h
    exact hP.bookkept hdb (.setWalTail _ _ _)

/-- **The replay of the whole log carries it along.** -/
theorem replayWal {db db' : Db} (hdb : P db) (h : replayWal cfg db m = .ok db') : P db' := by
  unfold On9kvdb.replayWal at h
  dsimp only at h
  rw [bind_eq_ok] at h
  obtain ⟨-, -, h⟩ := h
  rw [bind_eq_ok] at h
  obtain ⟨header, -, h⟩ := h
  rw [bind_eq_ok] at h
  obtain ⟨-, -, h⟩ := h
  rw [bind_eq_ok] at h
  obtain ⟨⟨first, expected⟩, hfirst, h⟩ := h
  rw [bind_eq_ok] at h
  obtain ⟨⟨active, last⟩, hactive, h⟩ := h
  rw [bind_eq_ok] at h
  obtain ⟨-, -, h⟩ := h
  cases h
  exact hP.bookkept (hP.scanActiveSlot (hP.scanWalSlot hdb hfirst) hactive) rfl

end ScanInvariant

lemma Replayed.bookkept {db db' : Db} (h : Bookkept db db') : Replayed db db' := by
  unfold Bookkept at h
  exact ⟨by rw [h], by rw [h], fun bank => by rw [h]⟩

/-- **The replay of the whole log only replays.** -/
theorem replayWal_replayed {db db' : Db} {m : Media} (h : replayWal cfg db m = .ok db') :
    Replayed db db' := by
  have hscan : ScanInvariant cfg m (Replayed db) :=
    ⟨fun hdb hkept => hdb.trans (.bookkept hkept),
      fun hdb hreplay => hdb.trans (replayTransaction_replayed hreplay)⟩
  exact hscan.replayWal (.refl db) h

end On9kvdb
