import On9kvdb.Steady.Calls

/-!
# The order of sequences

In an open instance the checkpoint of the manifest lies below the next sequence, the records of the
memtable lie strictly between the two, and the newest of them is the last one that has been
committed (`Ordered`).  Hence a flush moves the checkpoint to the last committed sequence, like a
compaction, and never back.

A start establishes the order by its replay: a scan of the log carries a property along that may
depend on the sequence it expects next (`LogInvariant`).
-/

namespace On9kvdb

open Exceptional

variable {cfg : Config} {α : Type}

/-! ## The invariant -/

variable (cfg) in
/-- The memtable holds this record. -/
def Memtable.Has (mt : Memtable) (r : MemtableRecord) : Prop :=
  ∃ bucket < cfg.memtableEntryCount, mt.buckets bucket = some r

lemma mem_memtableRecords {db : Db} {r : MemtableRecord} :
    r ∈ memtableRecords cfg db ↔ db.memtable.Has cfg r := by
  unfold memtableRecords Memtable.Has
  simp only [List.mem_filterMap, List.mem_range]

lemma Memtable.not_has_empty (r : MemtableRecord) : ¬ Memtable.empty.Has cfg r := by
  rintro ⟨bucket, -, hr⟩
  cases hr

variable (cfg) in
/-- The records of a memtable whose log begins behind `checkpoint` and is expected to go on with
`next`. -/
structure Between (mt : Memtable) (checkpoint next : ℕ) : Prop where
  logged : ∀ r, mt.Has cfg r → checkpoint < r.transactionSequence ∧ r.transactionSequence < next
  newest : next ≤ checkpoint + 1 ∨ ∃ r, mt.Has cfg r ∧ r.transactionSequence + 1 = next

lemma Between.empty {checkpoint next : ℕ} (h : next ≤ checkpoint + 1) :
    Between cfg .empty checkpoint next :=
  ⟨fun r hr => absurd hr (Memtable.not_has_empty r), .inl h⟩

/-- Mutations applied under the next sequence. -/
lemma Between.applied {mt mt' : Memtable} {checkpoint next : ℕ} (h : Between cfg mt checkpoint next)
    (hnext : checkpoint < next) (happlied : AppliedUnder cfg next mt mt') :
    Between cfg mt' checkpoint (next + 1) := by
  refine ⟨fun r hr => ?_, .inr ?_⟩
  · obtain ⟨bucket, hbucket, hr⟩ := hr
    rcases happlied.records bucket r hr with hsequence | hold
    · omega
    · have hlogged := h.logged r ⟨bucket, hbucket, hold⟩
      omega
  · obtain ⟨bucket, hbucket, r, hr, hsequence⟩ := happlied.newest
    exact ⟨r, ⟨bucket, hbucket, hr⟩, by omega⟩

variable (cfg) in
/-- What the stored state of an open instance keeps. -/
structure Ordered (s : Stored) : Prop where
  geometry : s.manifest.geometry = cfg.geometry
  ready : s.manifest.state = .ready
  bank : s.manifest.activeTableBank < 2
  checkpoint : s.manifest.safeCheckpointSequence < s.nextTransactionSequence
  between : Between cfg s.memtable s.manifest.safeCheckpointSequence s.nextTransactionSequence

/-- **A flush moves the checkpoint to the last committed sequence.** -/
lemma FlushedTo.checkpoint {db : Db} {slot : ℕ} {reference : TableReference}
    (h : FlushedTo cfg db slot reference) (hordered : Ordered cfg db.stored) :
    db.manifest.safeCheckpointSequence < reference.maxSequence ∧
      reference.maxSequence + 1 = db.nextTransactionSequence := by
  obtain ⟨r, hr, hattained⟩ := h.attained
  have hlogged : db.manifest.safeCheckpointSequence < r.transactionSequence ∧
      r.transactionSequence < db.nextTransactionSequence :=
    hordered.between.logged r (mem_memtableRecords.mp hr)
  have hnewest : db.nextTransactionSequence ≤ db.manifest.safeCheckpointSequence + 1 ∨
      ∃ r, db.memtable.Has cfg r ∧ r.transactionSequence + 1 = db.nextTransactionSequence :=
    hordered.between.newest
  rcases hnewest with hnone | ⟨newest, hnewest, hsequence⟩
  · omega
  · have hgreatest := h.greatest newest (mem_memtableRecords.mpr hnewest)
    omega

/-- What a publication leaves of the order: the checkpoint never moves back. -/
lemma Edit.ordered {db : Db} {m : ManifestRecord} {memtable : Memtable}
    (h : Edit cfg db m memtable) (hordered : Ordered cfg db.stored) :
    db.manifest.safeCheckpointSequence ≤ m.safeCheckpointSequence ∧
      Ordered cfg { db.stored with manifest := m, memtable := memtable } := by
  obtain ⟨hgeometry, hready, hbank, hcheckpoint, hbetween⟩ := hordered
  cases h with
  | same => exact ⟨le_rfl, hgeometry, hready, hbank, hcheckpoint, hbetween⟩
  | rotated walGeneration => exact ⟨le_rfl, hgeometry, hready, hbank, hcheckpoint, hbetween⟩
  | @flushed slot reference hflushed =>
      obtain ⟨hgrows, hlast⟩ := hflushed.checkpoint ⟨hgeometry, hready, hbank, hcheckpoint, hbetween⟩
      refine ⟨hgrows.le, hgeometry, hready, hbank, ?_, .empty ?_⟩
      · show reference.maxSequence < db.nextTransactionSequence
        omega
      · show db.nextTransactionSequence ≤ reference.maxSequence + 1
        omega
  | compacted hcompacted =>
      have hpositive : db.manifest.safeCheckpointSequence < db.nextTransactionSequence := hcheckpoint
      rw [hcompacted.rest]
      refine ⟨?_, hgeometry, hready, ?_, ?_, .empty ?_⟩
      · show db.manifest.safeCheckpointSequence ≤ db.nextTransactionSequence - 1
        omega
      · show 1 - db.manifest.activeTableBank < 2
        omega
      · show db.nextTransactionSequence - 1 < db.nextTransactionSequence
        omega
      · show db.nextTransactionSequence ≤ db.nextTransactionSequence - 1 + 1
        omega

/-- **Every step keeps the order.** -/
theorem Turn.ordered {w w' : World} (h : Turn cfg w w') (hordered : Ordered cfg w.db.stored) :
    Ordered cfg w'.db.stored := by
  cases h with
  | quiet h =>
      rw [h.stored]
      exact hordered
  | latched stored _ =>
      rw [stored]
      exact ⟨hordered.geometry, hordered.ready, hordered.bank, hordered.checkpoint,
        hordered.between⟩
  | published _ edit ready _ stored =>
      obtain ⟨-, hedited⟩ := edit.ordered hordered
      rw [stored]
      exact ⟨hedited.geometry, ready hordered.ready, hedited.bank, hedited.checkpoint,
        hedited.between⟩
  | failed _ _ _ _ stored =>
      rw [stored]
      exact ⟨hordered.geometry, hordered.ready, hordered.bank, hordered.checkpoint,
        hordered.between⟩
  | grown _ stored _ =>
      rw [stored]
      exact ⟨hordered.geometry, hordered.ready, hordered.bank, hordered.checkpoint,
        hordered.between⟩
  | applied happlied stored _ =>
      rw [stored]
      have hcheckpoint : w.db.manifest.safeCheckpointSequence < w.db.nextTransactionSequence :=
        hordered.checkpoint
      refine ⟨hordered.geometry, hordered.ready, hordered.bank, ?_,
        hordered.between.applied hcheckpoint happlied⟩
      exact hcheckpoint.trans (Nat.lt_succ_self _)

/-! ## Replays -/

variable (cfg) in
/-- A property that a scan carries along, from the sequence it expects to the next one. -/
structure LogInvariant (m : Media) (P : ℕ → Db → Prop) : Prop where
  bookkept : ∀ {sequence db db'}, P sequence db → Bookkept db db' → P sequence db'
  skipped : ∀ {sequence db}, P sequence db → sequence ≤ db.manifest.safeCheckpointSequence →
    P (sequence + 1) db
  replay : ∀ {sequence db db'} {payload : Bytes} {mutationCount : ℕ}, P sequence db →
    db.manifest.safeCheckpointSequence < sequence →
    replayTransaction cfg db m payload mutationCount sequence = .ok db' → P (sequence + 1) db'

namespace LogInvariant

variable {m : Media} {P : ℕ → Db → Prop} (hP : LogInvariant cfg m P)
include hP

lemma acceptTransaction {db db' : Db} {payload : Bytes} {first : WalFrame} {sequence : ℕ}
    (hdb : P sequence db) (h : acceptTransaction cfg db m payload first sequence = .ok db') :
    P (sequence + 1) db' := by
  unfold On9kvdb.acceptTransaction at h
  rw [bind_eq_ok] at h
  obtain ⟨middle, hm, h⟩ := h
  rw [bind_eq_ok] at h
  obtain ⟨-, -, h⟩ := h
  cases h
  have hmiddle : P (sequence + 1) middle := by
    split_ifs at hm with hcheckpoint
    · exact hP.replay hdb hcheckpoint hm
    · cases hm
      exact hP.skipped hdb (not_lt.mp hcheckpoint)
  exact hP.bookkept hmiddle rfl

lemma endScan {db db' : Db} {slot offset laterOffset regionEnd generation sequence next : ℕ}
    (hdb : P sequence db) (h : endScan db m slot offset laterOffset regionEnd generation sequence =
      .ok (db', next)) : P next db' := by
  unfold On9kvdb.endScan at h
  rw [bind_eq_ok] at h
  obtain ⟨later, -, h⟩ := h
  rw [bind_eq_ok] at h
  obtain ⟨-, -, h⟩ := h
  cases h
  exact hP.bookkept hdb (.setWalTail db slot offset)

/-- **A scan carries it to the sequence it ends with.** -/
theorem scanTransactions {slot regionEnd generation fuel offset sequence next : ℕ} {db db' : Db}
    (hdb : P sequence db)
    (h : scanTransactions cfg m slot regionEnd generation fuel offset sequence db =
      .ok (db', next)) : P next db' := by
  induction fuel generalizing offset sequence db with
  | zero =>
      cases h
      exact hP.bookkept hdb (.setWalTail _ _ _)
  | succ fuel ih =>
      unfold On9kvdb.scanTransactions at h
      split_ifs at h
      · cases h
        exact hP.bookkept hdb (.setWalTail _ _ _)
      · cases hcell : m.walFrame slot offset with
        | error status =>
            rw [hcell] at h
            dsimp only at h
            split_ifs at h
            exact hP.endScan hdb h
        | ok first =>
            rw [hcell] at h
            dsimp only at h
            split_ifs at h
            · exact hP.endScan hdb h
            · rw [bind_eq_ok] at h
              obtain ⟨frames, -, h⟩ := h
              cases frames with
              | broken frameIndex => exact hP.endScan hdb h
              | complete payload =>
                  dsimp only at h
                  split_ifs at h
                  · exact hP.endScan hdb h
                  · rw [bind_eq_ok] at h
                    obtain ⟨middle, hm, h⟩ := h
                    exact ih (hP.acceptTransaction hdb hm) h

lemma scanWalSlot {db db' : Db} {slot generation sequence next : ℕ}
    (hdb : 0 < sequence → P sequence db)
    (h : scanWalSlot cfg db m slot generation sequence = .ok (db', next)) : P next db' := by
  unfold On9kvdb.scanWalSlot at h
  rw [bind_eq_ok] at h
  obtain ⟨_, hargs, h⟩ := h
  rw [bind_eq_ok] at h
  obtain ⟨header, -, h⟩ := h
  rw [bind_eq_ok] at h
  obtain ⟨-, -, h⟩ := h
  have hargs' := rejectIf_eq_ok.mp hargs
  push Not at hargs'
  exact hP.scanTransactions (hdb (Nat.pos_of_ne_zero hargs'.2.2)) h

lemma scanActiveSlot {db db' : Db} {firstSlot sequence next : ℕ} (hdb : P sequence db)
    (h : scanActiveSlot cfg db m firstSlot sequence = .ok (db', next)) : P next db' := by
  unfold On9kvdb.scanActiveSlot at h
  dsimp only at h
  split_ifs at h
  · exact hP.scanWalSlot (fun _ => hdb) h
  · cases h
    exact hP.bookkept hdb (.setWalTail _ _ _)

/-- **The replay of the whole log carries it to the next sequence**, from any sequence that the
checkpoint allows the log to begin with. -/
theorem replayWal {db db' : Db}
    (hdb : ∀ first, 0 < first → first ≤ db.manifest.safeCheckpointSequence + 1 → P first db)
    (h : replayWal cfg db m = .ok db') : P db'.nextTransactionSequence db' ∧
      db.manifest.safeCheckpointSequence ≤ db'.nextTransactionSequence - 1 := by
  unfold On9kvdb.replayWal at h
  dsimp only at h
  rw [bind_eq_ok] at h
  obtain ⟨-, -, h⟩ := h
  rw [bind_eq_ok] at h
  obtain ⟨header, -, h⟩ := h
  rw [bind_eq_ok] at h
  obtain ⟨_, hfirst, h⟩ := h
  rw [bind_eq_ok] at h
  obtain ⟨⟨older, expected⟩, holder, h⟩ := h
  rw [bind_eq_ok] at h
  obtain ⟨⟨active, last⟩, hactive, h⟩ := h
  rw [bind_eq_ok] at h
  obtain ⟨_, hlast, h⟩ := h
  cases h
  have hfirst' := rejectIf_eq_ok.mp hfirst
  push Not at hfirst'
  have hlast' := rejectIf_eq_ok.mp hlast
  refine ⟨hP.bookkept (hP.scanActiveSlot (hP.scanWalSlot (fun hpos => hdb _ hpos hfirst'.2) holder)
    hactive) rfl, ?_⟩
  exact not_lt.mp hlast'

end LogInvariant

/-- The records of a scan that expects this sequence next. -/
structure Scanned (cfg : Config) (start sequence : ℕ) (db : Db) : Prop where
  positive : 0 < sequence
  checkpoint : db.manifest.safeCheckpointSequence = start
  between : Between cfg db.memtable start sequence

lemma replayMutations_under {db db' : Db} {m : Media} {namespaceName : Bytes}
    {mutations : List Mutation} {sequence : ℕ}
    (h : replayMutations cfg db m namespaceName mutations sequence = .ok db') :
    AppliedUnder cfg sequence db.memtable db'.memtable := by
  unfold replayMutations at h
  rw [bind_eq_ok] at h
  obtain ⟨manifest, -, h⟩ := h
  dsimp only at h
  rw [bind_eq_ok] at h
  obtain ⟨staged, hpreflight, h⟩ := h
  rw [bind_eq_ok] at h
  obtain ⟨⟨index, namespaces⟩, -, h⟩ := h
  have hne : staged ≠ [] := fun hnil => ?_
  · have hunder := appliedUnder_applyTransaction hne h
    exact hunder
  unfold preflightMemtableTransactionUnsafe at hpreflight
  rw [bind_eq_ok] at hpreflight
  obtain ⟨_, hargs, hpreflight⟩ := hpreflight
  rw [bind_eq_ok] at hpreflight
  obtain ⟨registered, -, hpreflight⟩ := hpreflight
  rw [bind_eq_ok] at hpreflight
  obtain ⟨r, hr, hpreflight⟩ := hpreflight
  rw [bind_eq_ok] at hpreflight
  obtain ⟨_, -, hpreflight⟩ := hpreflight
  cases hpreflight
  have hargs' := rejectIf_eq_ok.mp hargs
  push Not at hargs'
  have hcontent := preflightMutations_content hr
  rw [hnil, List.map_nil, eq_comm, List.map_eq_nil_iff] at hcontent
  exact hargs'.2 hcontent

/-- **A scan keeps the records between the checkpoint and the sequence it expects.** -/
lemma logInvariant_scanned (m : Media) (checkpoint : ℕ) :
    LogInvariant cfg m (Scanned cfg checkpoint) where
  bookkept h hkept := by
    unfold Bookkept at hkept
    rw [hkept]
    exact ⟨h.positive, h.checkpoint, h.between⟩
  skipped h hsequence := by
    have hcheckpoint := h.checkpoint
    refine ⟨Nat.succ_pos _, h.checkpoint, fun r hr => ?_, .inl (by omega)⟩
    have hlogged := h.between.logged r hr
    omega
  replay h hsequence hreplay := by
    have hreplayed := replayTransaction_replayed hreplay
    rw [h.checkpoint] at hsequence
    refine ⟨Nat.succ_pos _, ?_, ?_⟩
    · rw [hreplayed.manifest]
      exact h.checkpoint
    · unfold replayTransaction at hreplay
      rw [bind_eq_ok] at hreplay
      obtain ⟨parsed, -, hreplay⟩ := hreplay
      exact h.between.applied hsequence (replayMutations_under hreplay)

/-- The order behind a replay on an empty memtable. -/
lemma ordered_replayWal {db db' : Db} {m : Media} (hgeometry : db.manifest.geometry = cfg.geometry)
    (hready : db.manifest.state = .ready) (hbank : db.manifest.activeTableBank < 2)
    (hempty : db.memtable = .empty) (h : replayWal cfg db m = .ok db') : Ordered cfg db'.stored := by
  have hreplayed := replayWal_replayed h
  obtain ⟨hscanned, hcheckpoint⟩ :=
    (logInvariant_scanned m db.manifest.safeCheckpointSequence).replayWal (fun first hpos hfirst =>
      ⟨hpos, rfl, by rw [hempty]; exact .empty hfirst⟩) h
  have hpos := hscanned.positive
  have hchecked := hscanned.checkpoint
  have hbetween := hscanned.between
  rw [← hchecked] at hbetween
  refine ⟨?_, ?_, ?_, ?_, hbetween⟩
  · show db'.manifest.geometry = cfg.geometry
    rw [hreplayed.manifest]
    exact hgeometry
  · show db'.manifest.state = .ready
    rw [hreplayed.manifest]
    exact hready
  · show db'.manifest.activeTableBank < 2
    rw [hreplayed.manifest]
    exact hbank
  · show db'.manifest.safeCheckpointSequence < db'.nextTransactionSequence
    omega

/-! ## Starts -/

/-- A manifest that has been stored: it is of this build and names one of the two table banks. -/
structure StoredBank (cfg : Config) (m : ManifestRecord) : Prop where
  geometry : m.geometry = cfg.geometry
  bank : m.activeTableBank < 2

lemma bank_of_encodable {m : ManifestRecord} (h : m.encodable = true) : m.activeTableBank < 2 := by
  unfold ManifestRecord.encodable ManifestRecord.tableReferencesValid at h
  simp only [Bool.and_eq_true, decide_eq_true_eq] at h
  tauto

/-- The active table bank of a manifest that a start works on. -/
def BankKept (w w' : World) : Prop :=
  w'.db.manifest.activeTableBank = w.db.manifest.activeTableBank

instance : Std.Refl BankKept := ⟨fun _ => rfl⟩

instance : IsTrans World BankKept := ⟨fun _ _ _ h₁ h₂ => Eq.trans h₂ h₁⟩

lemma bankKept_writeManifestCopy (generation : ℕ) (state : ManifestState) :
    Within BankKept (writeManifestCopy generation state) := fun w => by
  unfold BankKept
  rw [(within_writeManifestCopy generation state w).db]

lemma bankKept_stabilizeManifestUnsafe : Within BankKept stabilizeManifestUnsafe := fun w => by
  unfold BankKept
  rw [(within_stabilizeManifestUnsafe w).db]

lemma bankKept_of_sameDb {x : DbM α} (h : Within SameDb x) : Within BankKept x := fun w => by
  unfold BankKept
  rw [show (exec x w).2.db = w.db from h w]

lemma bankKept_provisionAllDataFiles : Within BankKept (provisionAllDataFiles cfg) := by
  have hfiles : ∀ kind slots, Within BankKept (provisionDataFiles kind slots) := fun kind slots =>
    bankKept_of_sameDb (sameDb_provisionDataFiles kind slots)
  unfold provisionAllDataFiles publishProvisioned initialiseFirstWal
  refine .bind Within.getDb fun db => .bind (hfiles _ _) fun _ => .bind (hfiles _ _) fun _ =>
    .bind (hfiles _ _) fun _ => .ite ?_ .pure
  exact .bind Within.getDb fun _ => .bind Within.failIf fun _ =>
    .bind (bankKept_of_sameDb (sameDb_ensureWalHeader _ _ _)) fun _ =>
    .bind (Within.modifyDb fun _ => rfl) fun _ => .bind (bankKept_writeManifestCopy _ _) fun _ =>
    .bind (Within.modifyDb fun _ => rfl) fun _ => bankKept_stabilizeManifestUnsafe

lemma triple_setupManifest_bank :
    Triple (fun _ => True) (setupManifest cfg) (fun _ w => w.db.manifest.activeTableBank < 2)
      (fun _ _ => True) := by
  have hkeep : ∀ {α : Type} {x : DbM α}, Within BankKept x →
      Triple (fun w => w.db.manifest.activeTableBank < 2) x
        (fun _ w => w.db.manifest.activeTableBank < 2) (fun _ _ => True) := fun hx =>
    hx.triple (fun w w' _ hw h => by rw [show w'.db.manifest.activeTableBank = _ from h]; exact hw)
      fun _ _ _ _ _ => trivial
  unfold setupManifest createManifest openExistingManifest
  refine .bind (Q := fun _ _ => True) (Triple.readStorage (fun _ _ _ _ => trivial)
    fun _ _ _ => trivial) fun blank => .ite (fun _ => ?_) fun _ => ?_
  · exact .bind (Q := fun _ _ => True) (fun _ _ => trivial) fun databaseId =>
      .bind (Q := fun _ w => w.db.manifest.activeTableBank < 2)
        (Triple.modifyDb fun _ _ => Nat.two_pos) fun _ =>
      .bind (hkeep (bankKept_writeManifestCopy _ _)) fun _ => hkeep (bankKept_writeManifestCopy _ _)
  · refine .bind (Q := fun loaded _ => loaded.1.1.activeTableBank < 2)
      (Triple.readStorage (fun w loaded _ hread => ?_) fun _ _ _ => trivial) fun loaded => ?_
    · cases hload : loadManifest w.dev.current with
      | error e =>
          rw [hload] at hread
          cases hread
      | ok selected =>
          rw [hload] at hread
          cases hread
          obtain ⟨slot, copy, -, hcopy⟩ := loadManifest_eq_ok hload
          rw [← hcopy]
          exact bank_of_encodable copy.valid
    · exact .bind (Q := fun _ w => w.db.manifest.activeTableBank < 2)
        (Triple.modifyDb fun _ hw => hw) fun _ => .bind (hkeep Within.failIf) fun _ =>
        .ite (fun _ => .bind (hkeep Within.failIf) fun _ => hkeep (bankKept_writeManifestCopy _ _))
          fun _ => .pure fun _ hw => hw

/-- **The manifest behind provisioning or loading** names one of the two table banks. -/
lemma triple_initialiseStorage_bank :
    Triple (fun _ => True) (initialiseStorage cfg) (fun _ w => StoredBank cfg w.db.manifest)
      (fun _ _ => True) := by
  have hbank : Triple (fun _ => True) (initialiseStorage cfg)
      (fun _ w => w.db.manifest.activeTableBank < 2) (fun _ _ => True) := by
    unfold initialiseStorage
    exact .bind triple_setupManifest_bank fun _ => bankKept_provisionAllDataFiles.triple
      (fun w w' _ (hw : w.db.manifest.activeTableBank < 2) h => by
        rw [show w'.db.manifest.activeTableBank = _ from h]; exact hw) fun _ _ _ _ _ => trivial
  exact (triple_initialiseStorage_stored.both hbank).conseq (fun _ _ => ⟨trivial, trivial⟩)
    (fun _ _ hw => ⟨hw.1.geometry, hw.2⟩) fun _ _ _ => trivial

/-- The rest of the stored state does not depend on the generation. -/
lemma Ordered.of_publishing {w w' : World} (h : Publishing w w') (hready : StaysReady w w')
    (hordered : Ordered cfg w.db.stored) : Ordered cfg w'.db.stored := by
  have hdb := h.db
  refine ⟨?_, (hready hordered.ready).1, ?_, ?_, ?_⟩
  · show w'.db.manifest.geometry = cfg.geometry
    rw [hdb]
    exact hordered.geometry
  · show w'.db.manifest.activeTableBank < 2
    rw [hdb]
    exact hordered.bank
  · show w'.db.manifest.safeCheckpointSequence < w'.db.nextTransactionSequence
    rw [hdb]
    exact hordered.checkpoint
  · show Between cfg w'.db.memtable w'.db.manifest.safeCheckpointSequence
      w'.db.nextTransactionSequence
    rw [hdb]
    exact hordered.between

lemma triple_recoverWal_ordered :
    Triple (fun w => StoredBank cfg w.db.manifest) (recoverWal cfg)
      (fun _ w => Ordered cfg w.db.stored) (fun _ _ => True) := by
  unfold recoverWal
  refine .bind Triple.fetch fun db => .bind (Triple.check fun _ _ => trivial) fun _ =>
    .bind (Q := fun _ w => StoredBank cfg w.db.manifest ∧ w.db.manifest.state = .ready ∧
      w.db.memtable = .empty) (Triple.modifyDb fun w hw => ?_) fun _ => ?_
  · obtain ⟨⟨hstored, rfl⟩, hstate⟩ := hw
    push Not at hstate
    exact ⟨hstored, hstate.1, rfl⟩
  refine .bind (within_recoverTablesUnsafe.triple (Q := fun _ w => StoredBank cfg w.db.manifest ∧
      w.db.manifest.state = .ready ∧ w.db.memtable = .empty) (fun w w' _ hw h => ?_)
        fun _ _ _ _ _ => trivial) fun _ =>
    .bind (Q := fun db _ => Ordered cfg db.stored) (Triple.readStorage (fun w db hw hread => ?_)
      fun _ _ _ => trivial) fun db =>
    .bind (Q := fun _ w => Ordered cfg w.db.stored) (Triple.modifyDb fun _ hw => hw) fun _ => ?_
  · obtain ⟨hstored, hready, hempty⟩ := hw
    have hfields : ∀ {β : Type} (f : ManifestRecord → β), (∀ m, f m.withoutKeyRanges = f m) →
        f w'.db.manifest = f w.db.manifest := fun f hf => by
      rw [← hf w'.db.manifest, h.manifest, hf]
    refine ⟨⟨?_, ?_⟩, ?_, by rw [h.db]; exact hempty⟩
    · rw [hfields ManifestRecord.geometry fun _ => rfl]
      exact hstored.geometry
    · rw [hfields ManifestRecord.activeTableBank fun _ => rfl]
      exact hstored.bank
    · rw [hfields ManifestRecord.state fun _ => rfl]
      exact hready
  · exact ordered_replayWal hw.1.geometry hw.2.1 hw.1.bank hw.2.2 hread
  · exact Within.triple (R := fun w w' => Publishing w w' ∧ StaysReady w w')
      (fun w => ⟨within_stabilizeManifestUnsafe w, staysReady_stabilizeManifestUnsafe w⟩)
      (fun _ _ _ hw h => hw.of_publishing h.1 h.2) fun _ _ _ _ _ => trivial

/-- **A successful start establishes the order**, whatever the media hold. -/
theorem triple_init_ordered :
    Triple (fun _ => True) (init cfg) (fun _ w => Ordered cfg w.db.stored) (fun _ _ => True) := by
  unfold init closeStorageUnsafe
  exact .bind (Q := fun _ _ => True) (Triple.getDb fun _ _ => trivial) fun db =>
    .bind (Q := fun _ _ => True) (Triple.failIf (fun _ _ _ => trivial) fun _ _ _ => trivial) fun _ =>
    .bind (Q := fun _ w => Ordered cfg w.db.stored)
      (Triple.onError (F := fun _ _ => True)
        (.bind triple_initialiseStorage_bank fun _ => triple_recoverWal_ordered)
        fun _ => Triple.modifyDb fun _ _ => trivial)
      fun _ => Triple.modifyDb fun _ hw => ⟨hw.geometry, hw.ready, hw.bank, hw.checkpoint, hw.between⟩

/-- What an open instance keeps between two calls. -/
structure Steady (cfg : Config) (w : World) : Prop where
  sound : Sound cfg w.db
  ordered : Ordered cfg w.db.stored

/-- **Every open instance is sound and ordered.** -/
theorem openInvariant_steady : OpenInvariant cfg (Steady cfg) where
  opened _ hclosed := ((triple_init_sound hclosed).both triple_init_ordered).conseq
    (fun _ hw => ⟨hw, trivial⟩) (fun _ _ hw => ⟨hw.1, hw.2⟩) fun _ _ _ => trivial
  call c w hlifecycle hsteady := ⟨openInvariant_sound.call c w hlifecycle hsteady.sound,
    (turns_perform hlifecycle hsteady.sound).invariant (P := fun w => Ordered cfg w.db.stored)
      (fun _ _ hw hturn => hturn.ordered hw) hsteady.ordered⟩

end On9kvdb
