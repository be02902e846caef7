import On9kvdb.Commit.Carry
import On9kvdb.Store.Api

/-!
# Publishing a logged transaction

A commit prepares its transaction (preflight, sync of the value banks, log record) and then
publishes it.  `Prepared` is what the preparation leaves: the mutations fit the memtable that is
there now, whatever has been flushed or compacted since the preflight.  From a prepared state the
publication succeeds (`exec_publishTransaction`).
-/

namespace On9kvdb

open Exceptional

variable {cfg : Config}

/-! ## Namespaces -/

/-- The slot of a namespace is one of the registry behind its publication. -/
lemma ensureNamespaceCapacityUnsafe_eq_ok {namespaces namespaces' : List Bytes} {name : Bytes}
    {index : ℕ} (hmax : namespaces.length ≤ cfg.limits.maxNamespaces)
    (h : ensureNamespaceCapacityUnsafe cfg namespaces name = .ok (index, namespaces')) :
    index < namespaces'.length ∧ namespaces'.length ≤ cfg.limits.maxNamespaces ∧
      namespaces.length ≤ namespaces'.length := by
  unfold ensureNamespaceCapacityUnsafe at h
  cases hfound : findNamespaceUnsafe namespaces name with
  | ok i =>
      rw [hfound] at h
      cases h
      unfold findNamespaceUnsafe at hfound
      split_ifs at hfound
      cases hfind : namespaces.findIdx? (· == name) with
      | none =>
          rw [hfind] at hfound
          cases hfound
      | some i' =>
          rw [hfind] at hfound
          cases hfound
          exact ⟨(List.findIdx?_eq_some_iff_findIdx_eq.mp hfind).1, hmax, le_rfl⟩
  | error e =>
      rw [hfound] at h
      cases e with
      | notFound =>
          dsimp only at h
          split_ifs at h with hroom
          cases h
          rw [List.length_append, List.length_singleton]
          omega
      | _ => cases h

/-! ## Preparation -/

variable (cfg) in
/-- The part of `commit` up to the durable log record. -/
def prepareCommit (namespaceName : Bytes) : DbM Unit := do
  tryCatch (preflightTransaction cfg namespaceName) fun e => do
    let db ← getDb
    if e = .noMem ∧ 0 < db.memtable.entryCount then
      flushMemtableUnsafe cfg
      preflightTransaction cfg namespaceName
    else throw e
  syncDirtyBanks
  appendTransactionUnsafe cfg namespaceName

/-- A commit is its preparation, and the publication with the latch behind it. -/
lemma commitMutations_eq (namespaceName : Bytes) : commitMutations cfg namespaceName = (do
    prepareCommit cfg namespaceName
    onError (publishTransaction cfg namespaceName)
      (modifyDb fun db => clearTransactionUnsafe cfg { db with storageFaulted := true })) := by
  unfold commitMutations prepareCommit
  simp only [bind_assoc]

/-- The staged mutations have a namespace slot and fit the memtable. -/
structure Prepared (cfg : Config) (namespaceName : Bytes) (db : Db) : Prop where
  sound : Sound cfg db
  idle : db.valueWriter.active = false
  fits : ∃ index namespaces,
    ensureNamespaceCapacityUnsafe cfg db.namespaces namespaceName = .ok (index, namespaces) ∧
    Fits cfg (db.memtable.record? cfg index) db.memtable.dataUsed db.memtable.entryCount
      db.transaction.mutations

/-- **Maintenance keeps a prepared transaction prepared**, also when it empties the memtable. -/
lemma Prepared.carried {namespaceName : Bytes} {w w' : World}
    (h : Prepared cfg namespaceName w.db) (hcarried : Carried cfg w w') :
    Prepared cfg namespaceName w'.db := by
  obtain ⟨index, namespaces, hensure, hfits⟩ := h.fits
  refine ⟨hcarried.sound, hcarried.idle, index, namespaces, ?_, ?_⟩
  · rw [hcarried.namespaces]
    exact hensure
  · rcases hcarried.memtable with hsame | hempty
    · rw [hsame]
      exact hfits.congr hcarried.shapes fun _ _ => rfl
    · have hnone : ∀ key, w'.db.memtable.record? cfg index key = none := fun key => by
        rw [hempty]
        cases hrecord : Memtable.empty.record? cfg index key with
        | none => rfl
        | some r =>
            obtain ⟨b, hb, -⟩ := ProbeTable.indexed_empty.lookup_eq_some_iff.mp hrecord
            cases hb
      have hfresh := hfits.empty h.sound.memtable h.sound.staged.keys
      rw [hempty]
      rw [hempty] at hnone
      exact hfresh.congr hcarried.shapes fun m _ => hnone m.key

lemma triple_carrying {namespaceName : Bytes} {α : Type} {x : DbM α} (hx : Within (Carrying cfg) x) :
    Triple (fun w => Prepared cfg namespaceName w.db) x
      (fun _ w => Prepared cfg namespaceName w.db)
      (fun _ w => Prepared cfg namespaceName w.db) :=
  hx.invariant fun _ _ h h' => h.carried (h' h.sound h.idle)

/-- Mutations of the same content are staged as soundly. -/
lemma StagedSound.of_content {m : ManifestRecord} {t : TransactionSlot} (h : StagedSound cfg m t)
    {mutations : List Mutation}
    (hcontent : mutations.map Mutation.content = t.mutations.map Mutation.content) :
    StagedSound cfg m { t with mutations := mutations } := by
  have hkeys : mutations.map Mutation.key = t.mutations.map Mutation.key := by
    have hfirst : ∀ ms : List Mutation,
        ms.map Mutation.key = (ms.map Mutation.content).map Prod.fst := fun ms => by
      rw [List.map_map]
      rfl
    rw [hfirst, hfirst, hcontent]
  have hmem : ∀ n ∈ mutations, ∃ k ∈ t.mutations, k.key = n.key ∧ k.value = n.value :=
    fun n hn => by
      have hn' : n.content ∈ t.mutations.map Mutation.content :=
        hcontent ▸ List.mem_map_of_mem hn
      obtain ⟨k, hk, hkn⟩ := List.mem_map.mp hn'
      exact ⟨k, hk, (Prod.mk.inj hkn).1, (Prod.mk.inj hkn).2⟩
  refine ⟨?_, fun n hn => ?_, fun n hn => ?_, fun hidle => ?_⟩
  · show (mutations.map Mutation.key).Nodup
    rw [hkeys]
    exact h.keys
  · obtain ⟨k, hk, hkey, -⟩ := hmem n hn
    rw [← hkey]
    exact h.valid k hk
  · obtain ⟨k, hk, -, hvalue⟩ := hmem n hn
    rw [← hvalue]
    exact h.inBank k hk
  · have hnone := h.idle hidle
    rw [hnone, List.map_nil, List.map_eq_nil_iff] at hcontent
    exact hcontent

/-- **A preflight that accepts prepares the transaction.** -/
theorem triple_preflightTransaction (namespaceName : Bytes) :
    Triple (fun w => Sound cfg w.db ∧ w.db.valueWriter.active = false)
      (preflightTransaction cfg namespaceName) (fun _ w => Prepared cfg namespaceName w.db)
      (fun _ w => Sound cfg w.db ∧ w.db.valueWriter.active = false) := by
  unfold preflightTransaction
  refine .bind (Q := fun mutations w => (Sound cfg w.db ∧ w.db.valueWriter.active = false) ∧
      ∃ m, preflightMemtableTransactionUnsafe cfg w.db m namespaceName w.db.transaction.mutations =
        .ok mutations) (Triple.readStorage (fun w mutations hw hrun => ⟨hw, _, hrun⟩)
          fun w _ hw => hw) fun mutations => Triple.modifyDb fun w hw => ?_
  obtain ⟨⟨hsound, hidle⟩, m, hrun⟩ := hw
  unfold preflightMemtableTransactionUnsafe at hrun
  rw [bind_eq_ok] at hrun
  obtain ⟨_, -, hrun⟩ := hrun
  rw [bind_eq_ok] at hrun
  obtain ⟨⟨index, namespaces⟩, hensure, hrun⟩ := hrun
  rw [bind_eq_ok] at hrun
  obtain ⟨⟨t, mutations'⟩, hpreflight, hrun⟩ := hrun
  rw [bind_eq_ok] at hrun
  obtain ⟨_, hcount, hrun⟩ := hrun
  cases hrun
  obtain ⟨hindex, hmax, -⟩ := ensureNamespaceCapacityUnsafe_eq_ok hsound.registry hensure
  obtain ⟨hfits, hcontent⟩ := preflightMutations_fits hsound.memtable (hindex.trans_le hmax)
    hsound.staged.valid hpreflight (not_lt.mp (rejectIf_eq_ok.mp hcount))
  refine ⟨⟨hsound.memtable.of_place rfl rfl rfl, hsound.registry,
    hsound.staged.of_content hcontent, fun hactive => ?_⟩, hidle, index, namespaces, hensure,
    hfits.congr (shape_of_content hcontent) fun _ _ => rfl⟩
  rw [hidle] at hactive
  cases hactive

/-- **A successful preparation leaves a prepared transaction**, a failed one a sound instance. -/
theorem triple_prepareCommit (namespaceName : Bytes) :
    Triple (fun w => Sound cfg w.db ∧ w.db.valueWriter.active = false)
      (prepareCommit cfg namespaceName) (fun _ w => Prepared cfg namespaceName w.db)
      (fun _ w => Sound cfg w.db) := by
  have hflush : Triple (fun w => Sound cfg w.db ∧ w.db.valueWriter.active = false)
      (flushMemtableUnsafe cfg) (fun _ w => Sound cfg w.db ∧ w.db.valueWriter.active = false)
      (fun _ w => Sound cfg w.db) :=
    carrying_flushMemtableUnsafe.triple
      (fun w w' _ hw h => ⟨(h hw.1 hw.2).sound, (h hw.1 hw.2).idle⟩)
      fun w w' _ hw h => (h hw.1 hw.2).sound
  have hpreflight := (@triple_preflightTransaction cfg namespaceName).conseq
    (fun _ h => h) (fun _ _ h => h) fun _ _ h => h.1
  unfold prepareCommit
  refine .bind (Triple.tryCatch (triple_preflightTransaction namespaceName) fun e =>
    .bind (Q := fun _ w => Sound cfg w.db ∧ w.db.valueWriter.active = false)
      (Triple.getDb fun w hw => hw) fun db => .ite (fun _ => .bind hflush fun _ => hpreflight)
        fun _ => .throw fun w hw => hw.1) fun _ => ?_
  have hsync : Within (Carrying cfg) syncDirtyBanks :=
    .bind Within.getDb fun _ => .ite (.bind (carrying_of_sameParts sameParts_syncStorage)
      fun _ => carrying_of_sameParts (sameParts_modifyDb fun _ => rfl)) .pure
  exact .bind ((triple_carrying hsync).conseq (fun _ h => h) (fun _ _ h => h) fun _ _ h => h.sound)
    fun _ => (triple_carrying (carrying_appendTransactionUnsafe namespaceName)).conseq
      (fun _ h => h) (fun _ _ h => h) fun _ _ h => h.sound

/-! ## Publication -/

/-- The records lie in the arena and in the buckets of the index. -/
structure WithinArena (cfg : Config) (mt : Memtable) : Prop where
  data : mt.dataUsed ≤ cfg.limits.memtableDataBytes
  entries : mt.entryCount ≤ cfg.memtableEntryCount
  buckets : ∀ b, mt.buckets b ≠ none → b < cfg.memtableEntryCount

lemma MemtableSound.withinArena {db : Db} (h : MemtableSound cfg db) :
    WithinArena cfg db.memtable := by
  refine ⟨h.bounded, ?_, fun b hb => ?_⟩
  · rw [h.entries]
    unfold ProbeTable.total
    refine (Finset.sum_le_card_nsmul _ _ 1 fun b _ => ?_).trans ?_
    · cases db.memtable.buckets b <;> simp
    · rw [Finset.card_range, smul_eq_mul, Nat.mul_one]
      exact le_rfl
  · obtain ⟨r, hr⟩ := Option.ne_none_iff_exists'.mp hb
    exact h.indexed.inRange b r hr

/-- What publishing a prepared transaction does: the namespace has a slot, and the mutations are
applied one by one without leaving the arena. -/
structure Applicable (cfg : Config) (namespaceName : Bytes) (db : Db) (index : ℕ)
    (namespaces : List Bytes) (db' : Db) : Prop where
  registered :
    ensureNamespaceCapacityUnsafe cfg db.namespaces namespaceName = .ok (index, namespaces)
  applied : applyTransactionToMemtableUnsafe cfg { db with namespaces := namespaces }
    db.transaction.mutations index db.nextTransactionSequence = .ok db'
  arena : ∀ front rest, db.transaction.mutations = front ++ rest → ∃ between,
    applyMutations cfg index db.nextTransactionSequence { db with namespaces := namespaces } front =
      .ok between ∧ WithinArena cfg between.memtable

/-- **A prepared transaction can be published.** -/
theorem Prepared.applicable {namespaceName : Bytes} {db : Db} (h : Prepared cfg namespaceName db) :
    ∃ index namespaces db', Applicable cfg namespaceName db index namespaces db' ∧
      AppliedAll cfg index db.nextTransactionSequence db.transaction.mutations
        { db with namespaces := namespaces } db' := by
  obtain ⟨index, namespaces, hensure, hfits⟩ := h.fits
  obtain ⟨hindex, hmax, hgrows⟩ := ensureNamespaceCapacityUnsafe_eq_ok h.sound.registry hensure
  have hmemtable : MemtableSound cfg { db with namespaces := namespaces } :=
    h.sound.memtable.congr rfl fun r hr => by
      unfold memtableRecordUsable at hr ⊢
      simp only [Bool.and_eq_true, decide_eq_true_eq] at hr ⊢
      exact ⟨⟨hr.1.1, hr.1.2.trans_le hgrows⟩, hr.2⟩
  have happly : ∀ front rest, db.transaction.mutations = front ++ rest → ∃ between,
      applyMutations cfg index db.nextTransactionSequence { db with namespaces := namespaces }
        front = .ok between ∧ AppliedAll cfg index db.nextTransactionSequence front
          { db with namespaces := namespaces } between := fun front rest hsplit => by
    obtain ⟨hkeys, hvalid, hbank, -⟩ := h.sound.staged
    rw [hsplit] at hkeys hvalid hbank hfits
    rw [List.map_append] at hkeys
    exact applyMutations_sound hmemtable (hindex.trans_le hmax) hindex _
      (List.nodup_append.mp hkeys).1 (fun m hm => hvalid m (List.mem_append_left _ hm))
      (fun m hm => hbank m (List.mem_append_left _ hm)) hfits.front
  obtain ⟨applied, hrun, hall⟩ := happly db.transaction.mutations [] (List.append_nil _).symm
  refine ⟨index, namespaces, { applied with
    stats := { applied.stats with
      committedTransactionCount := add64 applied.stats.committedTransactionCount 1 } },
    ⟨hensure, ?_, fun front rest hsplit => ?_⟩, ⟨?_, ?_, hall.record⟩⟩
  · unfold applyTransactionToMemtableUnsafe
    simp only [hrun, ok_bind]
    rfl
  · obtain ⟨between, hbetween, hfront⟩ := happly front rest hsplit
    exact ⟨between, hbetween, hfront.sound.withinArena⟩
  · exact hall.sound.of_place rfl rfl rfl
  · rw [hall.frame]

variable (cfg) in
/-- The instance behind a transaction that has been applied: the next sequence, and no transaction. -/
def Db.published (db : Db) : Db :=
  clearTransactionUnsafe cfg { db with nextTransactionSequence := db.nextTransactionSequence + 1 }

/-- **Publication succeeds** on a state that is applicable. -/
theorem exec_publishTransaction {namespaceName : Bytes} {w : World} {index : ℕ}
    {namespaces : List Bytes} {db' : Db}
    (h : Applicable cfg namespaceName w.db index namespaces db') :
    exec (publishTransaction cfg namespaceName) w = (.ok (), { w with db := db'.published cfg }) := by
  unfold publishTransaction
  rw [exec_bind, exec_getDb]
  dsimp only
  rw [exec_bind, exec_liftResult, h.registered]
  dsimp only
  rw [exec_bind, exec_modifyDb]
  dsimp only
  rw [exec_bind, exec_getDb]
  dsimp only
  rw [exec_bind, exec_liftResult, h.applied]
  rfl

/-- The instance behind a publication is sound again. -/
lemma Prepared.published {namespaceName : Bytes} {db db' : Db} {index : ℕ}
    {namespaces : List Bytes} (h : Prepared cfg namespaceName db)
    (hensure : ensureNamespaceCapacityUnsafe cfg db.namespaces namespaceName =
      .ok (index, namespaces))
    (happlied : AppliedAll cfg index db.nextTransactionSequence db.transaction.mutations
      { db with namespaces := namespaces } db') :
    Sound cfg (db'.published cfg) := by
  have hframe := happlied.frame
  have hmax := (ensureNamespaceCapacityUnsafe_eq_ok h.sound.registry hensure).2.1
  refine ⟨happlied.sound.of_place rfl rfl rfl, ?_, ?_, fun hactive => ?_⟩
  · show db'.namespaces.length ≤ _
    rw [hframe]
    exact hmax
  · exact ⟨List.nodup_nil, fun _ hm => absurd hm List.not_mem_nil,
      fun _ hm => absurd hm List.not_mem_nil, fun _ => rfl⟩
  · have hidle : db'.valueWriter.active = false := by
      rw [hframe]
      exact h.idle
    rw [show (db'.published cfg).valueWriter = db'.valueWriter from rfl, hidle] at hactive
    cases hactive

end On9kvdb
