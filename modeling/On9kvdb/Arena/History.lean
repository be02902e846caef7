import On9kvdb.Arena.Mirror
import On9kvdb.Arena.Refinement
import On9kvdb.Commit.Publish
import On9kvdb.Store.Api

/-!
# Any number of transactions

A memtable is filled from empty by transactions that the preflight accepts.  Behind any sequence of
them the index finds a key exactly when one of them has mutated it, and finds the record of the last
mutation (`memtable_holds_last_mutations`).  The record-level results of `Commit.Apply` carry it; the
refinement brings it down to the buckets and the bytes.
-/

namespace On9kvdb

open PackedArena

/-! ## What the transactions mean -/

/-- A transaction that has been applied. -/
structure AppliedTransaction where
  namespaceSlotIndex : ℕ
  sequence : ℕ
  mutations : List Mutation

/-- The last mutation of a key and its sequence; the newest transaction comes first. -/
def lastMutation : List AppliedTransaction → ℕ → Bytes → Option (ℕ × Mutation)
  | [], _, _ => none
  | t :: log, slot, key =>
      match (if slot = t.namespaceSlotIndex then t.mutations.find? (fun m => m.key == key)
        else none) with
      | some m => some (t.sequence, m)
      | none => lastMutation log slot key

/-- **A key has a last mutation exactly when it has been mutated.** -/
theorem lastMutation_eq_none {log : List AppliedTransaction} {slot : ℕ} {key : Bytes} :
    lastMutation log slot key = none ↔
      ∀ t ∈ log, t.namespaceSlotIndex = slot → ∀ m ∈ t.mutations, m.key ≠ key := by
  induction log with
  | nil => simp [lastMutation]
  | cons t log ih =>
      rw [lastMutation, List.forall_mem_cons, ← ih]
      by_cases hslot : slot = t.namespaceSlotIndex
      · rw [if_pos hslot]
        cases hfind : t.mutations.find? (fun m => m.key == key) with
        | some m =>
            have hkey := List.find?_some hfind
            simp only [beq_iff_eq] at hkey
            simp only [reduceCtorEq, false_iff]
            rintro ⟨habsent, -⟩
            exact habsent hslot.symm m (List.mem_of_find?_eq_some hfind) hkey
        | none =>
            have habsent : ∀ m ∈ t.mutations, m.key ≠ key := fun m hm hkey =>
              List.find?_eq_none.mp hfind m hm (beq_iff_eq.mpr hkey)
            exact ⟨fun hlast => ⟨fun _ => habsent, hlast⟩, And.right⟩
      · rw [if_neg hslot]
        exact ⟨fun hlast => ⟨fun heq => absurd heq.symm hslot, hlast⟩, And.right⟩

/-! ## Runs -/

/-- The mutations a transaction has staged: on different valid keys, with descriptors in the active
bank whose fields fit their C types. -/
structure StagedMutations (cfg : Config) (manifest : ManifestRecord) (mutations : List Mutation) :
    Prop where
  keys : (mutations.map Mutation.key).Nodup
  valid : ∀ m ∈ mutations, validateBytes m.key = true
  inBank : ∀ m ∈ mutations, valueInActiveBank cfg manifest m.value = true
  inRange : ∀ m ∈ mutations, ∀ ref, m.value.ref? = some ref → ref.InRange

/-- A sound staging area holds staged mutations, if its descriptors are in the active bank. -/
lemma StagingSound.stagedMutations {cfg : Config} {s : StagingArea} {values : ℕ → StoredValue}
    (h : StagingSound cfg s values) {manifest : ManifestRecord}
    (hbank : ∀ i < s.mutationCount, valueInActiveBank cfg manifest (values i) = true)
    (hrange : ∀ i < s.mutationCount, ∀ ref, (values i).ref? = some ref → ref.InRange) :
    StagedMutations cfg manifest s.toMutations where
  keys := by
    unfold StagingArea.toMutations
    rw [List.map_map]
    refine List.Nodup.map_on (fun i hi j hj heq => ?_) List.nodup_range
    exact h.distinct i (List.mem_range.mp hi) j (List.mem_range.mp hj) heq
  valid := List.forall_mem_map.mpr fun i hi => h.valid i (List.mem_range.mp hi)
  inBank := List.forall_mem_map.mpr fun i hi => by
    have hvalue : (s.mutation i).value = values i := h.value_eq (List.mem_range.mp hi)
    rw [hvalue]
    exact hbank i (List.mem_range.mp hi)
  inRange := List.forall_mem_map.mpr fun i hi => by
    have hvalue : (s.mutation i).value = values i := h.value_eq (List.mem_range.mp hi)
    rw [hvalue]
    exact hrange i (List.mem_range.mp hi)

/-- The part of `commit` that concerns the memtable: the preflight, the slot of the namespace, and
the application of the mutations the preflight has annotated. -/
def MemtableArena.applyAccepted (cfg : Config) (db : Db) (a : MemtableArena) (m : Media)
    (namespaceName : Bytes) (mutations : List Mutation) (sequence : ℕ) :
    Except EspErr (ℕ × Db × MemtableArena) := do
  let mutations ← a.preflightMemtableTransactionUnsafe cfg db m namespaceName mutations
  let (index, namespaces) ← ensureNamespaceCapacityUnsafe cfg db.namespaces namespaceName
  let (db, a) ← a.applyTransactionToMemtableUnsafe cfg { db with namespaces := namespaces }
    mutations index sequence
  return (index, db, a)

/-- The instances and memtables that a sequence of transactions leads to.  Between two of them the
rest of the instance may change, as long as the descriptors in the active bank stay there. -/
inductive MemtableRun (cfg : Config) : Db → MemtableArena → List AppliedTransaction → Prop
  | reset {db : Db} (hregistry : db.namespaces.length ≤ cfg.limits.maxNamespaces) :
      MemtableRun cfg db .reset []
  | transaction {db db' : Db} {a a' : MemtableArena} {log : List AppliedTransaction} {m : Media}
      {namespaceName : Bytes} {mutations : List Mutation} {sequence index : ℕ}
      (hrun : MemtableRun cfg db a log) (hstaged : StagedMutations cfg db.manifest mutations)
      (hsequence : sequence < 2 ^ 64)
      (happlied : a.applyAccepted cfg db m namespaceName mutations sequence =
        .ok (index, db', a')) :
      MemtableRun cfg db' a' (⟨index, sequence, mutations⟩ :: log)
  | elsewhere {db db' : Db} {a : MemtableArena} {log : List AppliedTransaction}
      (hrun : MemtableRun cfg db a log) (hnamespaces : db'.namespaces = db.namespaces)
      (hbank : ∀ v, valueInActiveBank cfg db.manifest v = true →
        valueInActiveBank cfg db'.manifest v = true) :
      MemtableRun cfg db' a log

/-- What holds behind every run. -/
structure RunSound (cfg : Config) (db : Db) (a : MemtableArena) (log : List AppliedTransaction) :
    Prop where
  registry : db.namespaces.length ≤ cfg.limits.maxNamespaces
  arena : ∃ records, ArenaSound cfg a records
  memtable : MemtableSound cfg (db.withArena cfg a)
  holds : ∀ slot key, (a.toMemtable cfg).record? cfg slot key =
    (lastMutation log slot key).map fun p => mutationRecord slot p.1 p.2

variable {cfg : Config} {db db' : Db} {a a' : MemtableArena} {log : List AppliedTransaction}

lemma toMemtable_reset : (MemtableArena.reset.toMemtable cfg) = .empty := by
  have hbuckets : (MemtableArena.reset.toMemtable cfg).buckets = fun _ => none :=
    funext fun b => if_neg fun hboth => by
      have hfree := hboth.2
      cases hfree
  show (⟨(MemtableArena.reset.toMemtable cfg).buckets, 0, 0⟩ : Memtable) = ⟨fun _ => none, 0, 0⟩
  rw [hbuckets]

lemma RunSound.reset (hregistry : db.namespaces.length ≤ cfg.limits.maxNamespaces) :
    RunSound cfg db .reset [] where
  registry := hregistry
  arena := ⟨fun _ => ⟨0, 0, 0, [], .tombstone⟩, .reset⟩
  memtable := memtableSound_empty toMemtable_reset
  holds slot key := by
    rw [toMemtable_reset]
    unfold Memtable.record?
    cases hlookup : ProbeTable.lookup (memtableLayout cfg) Memtable.empty.buckets (slot, key) with
    | none => rfl
    | some r =>
        obtain ⟨b, hb, -⟩ := ProbeTable.indexed_empty.lookup_eq_some_iff.mp hlookup
        cases hb

/-- Every mutation that fits has a record no longer than the arena. -/
lemma Fits.recordSize_le {old : Bytes → Option MemtableRecord} {bytes entries : ℕ}
    {mutations : List Mutation} (h : Fits cfg old bytes entries mutations) :
    ∀ m ∈ mutations, m.recordSize ≤ cfg.limits.memtableDataBytes := by
  induction mutations generalizing bytes entries with
  | nil => simp
  | cons m rest ih =>
      obtain ⟨hroom, hrest⟩ := h
      intro n hn
      rcases List.mem_cons.mp hn with rfl | hn
      · exact hroom.trans (Nat.sub_le ..)
      · exact ih hrest n hn

lemma mutationRecord_inRange {manifest : ManifestRecord} {mutations : List Mutation}
    (hstaged : StagedMutations cfg manifest mutations) {index sequence : ℕ}
    (hindex : index < cfg.limits.maxNamespaces) (hsequence : sequence < 2 ^ 64)
    (hsize : ∀ m ∈ mutations, m.recordSize ≤ cfg.limits.memtableDataBytes) {m : Mutation}
    (hm : m ∈ mutations) : (mutationRecord index sequence m).InRange where
  key := hstaged.valid m hm
  sequence := hsequence
  slot := by
    have hmax := cfg.ranges.2.2.2.1
    show index < 2 ^ 16
    omega
  size := by
    have hmax := cfg.ranges.2.2.2.2.2.1
    have hle := hsize m hm
    show m.recordSize < 2 ^ 32
    omega
  value := hstaged.inRange m hm

/-- The mutations a preflight annotates stay staged. -/
lemma StagedMutations.of_content {manifest : ManifestRecord} {mutations mutations' : List Mutation}
    (h : StagedMutations cfg manifest mutations)
    (hcontent : mutations'.map Mutation.content = mutations.map Mutation.content) :
    StagedMutations cfg manifest mutations' := by
  obtain ⟨hkeys, hvalid, hbank, hrange⟩ := h
  have hkey : mutations'.map Mutation.key = mutations.map Mutation.key := by
    have hfirst : ∀ ms : List Mutation,
        ms.map Mutation.key = (ms.map Mutation.content).map Prod.fst := fun ms => by
      rw [List.map_map]
      rfl
    rw [hfirst, hfirst, hcontent]
  have hmem : ∀ m ∈ mutations', ∃ n ∈ mutations, n.key = m.key ∧ n.value = m.value :=
    fun m hm => by
      have hm' : m.content ∈ mutations.map Mutation.content :=
        hcontent ▸ List.mem_map_of_mem hm
      obtain ⟨n, hn, heq⟩ := List.mem_map.mp hm'
      exact ⟨n, hn, congrArg Prod.fst heq, congrArg Prod.snd heq⟩
  refine ⟨hkey ▸ hkeys, fun m hm => ?_, fun m hm => ?_, fun m hm => ?_⟩
  · obtain ⟨n, hn, heq, -⟩ := hmem m hm
    exact heq ▸ hvalid n hn
  · obtain ⟨n, hn, -, heq⟩ := hmem m hm
    exact heq ▸ hbank n hn
  · obtain ⟨n, hn, -, heq⟩ := hmem m hm
    exact heq ▸ hrange n hn

/-- The record of a key depends on the contents of the mutations alone. -/
lemma find?_content {mutations mutations' : List Mutation}
    (hcontent : mutations'.map Mutation.content = mutations.map Mutation.content) (index sequence : ℕ)
    (key : Bytes) :
    (mutations'.find? fun m => m.key == key).map (mutationRecord index sequence) =
      (mutations.find? fun m => m.key == key).map (mutationRecord index sequence) := by
  have hrecord : ∀ ms : List Mutation, (ms.find? fun m => m.key == key).map
      (mutationRecord index sequence) = ((ms.map Mutation.content).find? fun c => c.1 == key).map
        fun c => mutationRecord index sequence ⟨c.1, c.2, .none, 0⟩ := fun ms => by
    rw [List.find?_map, Option.map_map]
    rfl
  rw [hrecord, hrecord, hcontent]

/-- **An accepted transaction is applied**, and the run stays sound. -/
theorem RunSound.transaction (h : RunSound cfg db a log) {m : Media} {namespaceName : Bytes}
    {mutations mutations' : List Mutation} {sequence : ℕ}
    (hstaged : StagedMutations cfg db.manifest mutations) (hsequence : sequence < 2 ^ 64)
    (haccepted : a.preflightMemtableTransactionUnsafe cfg db m namespaceName mutations =
      .ok mutations') :
    ∃ index db' a', a.applyAccepted cfg db m namespaceName mutations sequence =
      .ok (index, db', a') ∧ RunSound cfg db' a' (⟨index, sequence, mutations⟩ :: log) := by
  obtain ⟨hregistry, ⟨records, harena⟩, hmemtable, hholds⟩ := h
  have hpreflight := haccepted
  rw [harena.preflight_mirrors hregistry] at hpreflight
  unfold preflightMemtableTransactionUnsafe at hpreflight
  obtain ⟨_, -, hpreflight⟩ := bind_eq_ok.mp hpreflight
  obtain ⟨⟨index, namespaces⟩, hensure, hpreflight⟩ := bind_eq_ok.mp hpreflight
  obtain ⟨⟨t, mutations₁⟩, hrounds, hpreflight⟩ := bind_eq_ok.mp hpreflight
  obtain ⟨_, hcount, hpreflight⟩ := bind_eq_ok.mp hpreflight
  cases hpreflight
  have hensure' : ensureNamespaceCapacityUnsafe cfg db.namespaces namespaceName =
    .ok (index, namespaces) := hensure
  obtain ⟨hindex, hmax, hgrows⟩ := ensureNamespaceCapacityUnsafe_eq_ok hregistry hensure'
  have hslot : index < cfg.limits.maxNamespaces := hindex.trans_le hmax
  obtain ⟨hfits, hcontent⟩ := preflightMutations_fits hmemtable hslot hstaged.valid hrounds
    (not_lt.mp (rejectIf_eq_ok.mp hcount))
  replace hfits := hfits.congr (shape_of_content hcontent) fun _ _ => rfl
  have hstaged' := hstaged.of_content hcontent
  -- The instance with the namespace published, and its records.
  obtain ⟨db₀, hdb₀⟩ : ∃ db₀ : Db, db₀ = { db with namespaces := namespaces } := ⟨_, rfl⟩
  have hmemtable₀ : MemtableSound cfg (db₀.withArena cfg a) :=
    hmemtable.congr (by rw [hdb₀]; rfl) fun r hr => by
      unfold memtableRecordUsable at hr ⊢
      simp only [Bool.and_eq_true, decide_eq_true_eq] at hr ⊢
      rw [hdb₀]
      exact ⟨⟨hr.1.1, hr.1.2.trans_le hgrows⟩, hr.2⟩
  have happly : ∀ front rest, mutations' = front ++ rest → ∃ between,
      applyMutations cfg index sequence (db₀.withArena cfg a) front = .ok between ∧
        AppliedAll cfg index sequence front (db₀.withArena cfg a) between :=
    fun front rest hsplit => by
      obtain ⟨hkeys, hvalid, hbank, -⟩ := hstaged'
      rw [hsplit] at hkeys hvalid hbank hfits
      rw [List.map_append] at hkeys
      exact applyMutations_sound hmemtable₀ hslot (by rw [hdb₀]; exact hindex) sequence
        (List.nodup_append.mp hkeys).1 (fun n hn => hvalid n (List.mem_append_left _ hn))
        (fun n hn => by rw [hdb₀]; exact hbank n (List.mem_append_left _ hn)) hfits.front
  obtain ⟨applied, hrun, hall⟩ := happly mutations' [] (List.append_nil _).symm
  obtain ⟨⟨db₁, a₁⟩, hrun₁, hframe, hmirrors, hsound⟩ := harena.applyMutations_mirrors
    (by rw [hdb₀]; exact hmax) hrun
    (fun n hn => mutationRecord_inRange hstaged' hslot hsequence hfits.recordSize_le hn)
    fun front rest between hsplit hbetween => by
      obtain ⟨between', hbetween', hfront⟩ := happly front rest hsplit
      rw [hbetween] at hbetween'
      cases hbetween'
      exact hfront.sound.bounded
  dsimp only at hframe hmirrors hsound
  subst hmirrors
  refine ⟨index, { db₁ with stats := { db₁.stats with
    committedTransactionCount := add64 db₁.stats.committedTransactionCount 1 } }, a₁, ?_, ?_⟩
  · unfold MemtableArena.applyAccepted MemtableArena.applyTransactionToMemtableUnsafe
    rw [haccepted, ok_bind, hensure', ok_bind]
    dsimp only
    rw [← hdb₀, hrun₁]
    rfl
  · refine ⟨?_, hsound, hall.sound.congr rfl fun r hr => hr, fun slot key => ?_⟩
    · dsimp only
      rw [hframe, hdb₀]
      exact hmax
    · have hrecord := hall.record slot key
      have hold : (db₀.withArena cfg a).memtable.record? cfg slot key =
        (lastMutation log slot key).map fun p => mutationRecord slot p.1 p.2 := hholds slot key
      have hnew : (db₁.withArena cfg a₁).memtable.record? cfg slot key =
        (a₁.toMemtable cfg).record? cfg slot key := rfl
      rw [hnew] at hrecord
      rw [hrecord, lastMutation]
      unfold recordBehind
      have hfind := find?_content hcontent index sequence key
      by_cases heq : slot = index
      · subst heq
        rw [if_pos rfl, if_pos rfl]
        cases hfound : mutations.find? (fun n => n.key == key) with
        | none =>
            rw [hfound, Option.map_none, Option.map_eq_none_iff] at hfind
            rw [hfind]
            exact hold
        | some n =>
            rw [hfound, Option.map_some] at hfind
            obtain ⟨n', hn', heq⟩ := Option.map_eq_some_iff.mp hfind
            rw [hn']
            exact congrArg some heq
      · rw [if_neg heq, if_neg heq]
        exact hold

/-- Every run is sound. -/
theorem MemtableRun.sound (hrun : MemtableRun cfg db a log) : RunSound cfg db a log := by
  induction hrun with
  | reset hregistry => exact .reset hregistry
  | @transaction db db' a a' log m namespaceName mutations sequence index hrun hstaged hsequence
      happlied ih =>
      obtain ⟨mutations', haccepted, -⟩ := bind_eq_ok.mp happlied
      obtain ⟨index', db'', a'', happlied', hsound⟩ := ih.transaction hstaged hsequence haccepted
      rw [happlied] at happlied'
      cases happlied'
      exact hsound
  | @elsewhere db db' a log hrun hnamespaces hbank ih =>
      obtain ⟨hregistry, harena, hmemtable, hholds⟩ := ih
      refine ⟨by rw [hnamespaces]; exact hregistry, harena, hmemtable.congr rfl fun r hr => ?_, hholds⟩
      unfold memtableRecordUsable at hr ⊢
      simp only [Bool.and_eq_true, decide_eq_true_eq] at hr ⊢
      exact ⟨⟨hr.1.1, hnamespaces ▸ hr.1.2⟩, hbank _ hr.2⟩

/-! ## What the index and the arena hold -/

/-- What a search reports of a key whose last mutation is given. -/
def MemtableArena.FindsLast (cfg : Config) (db : Db) (a : MemtableArena) (slot : ℕ) (key : Bytes) :
    Option (ℕ × Mutation) → Prop
  | none => ∃ s, a.findMemtableBucketUnsafe cfg db slot key = .ok s ∧ ∀ b, s ≠ .found b
  | some (sequence, m) => ∃ b ∈ a.usedBuckets cfg,
      a.findMemtableBucketUnsafe cfg db slot key = .ok (.found b) ∧
      a.header b = MemtableArena.mutationHeader slot sequence m ∧
      a.record b = mutationRecord slot sequence m ∧
      (a.memtableIndex b).recordSize = m.recordSize

lemma toMemtable_eq_some {b : ℕ} {r : MemtableRecord}
    (hb : (a.toMemtable cfg).buckets b = some r) : b ∈ a.usedBuckets cfg ∧ a.record b = r := by
  by_cases hused : b ∈ a.usedBuckets cfg
  · refine ⟨hused, ?_⟩
    have hbuckets : (a.toMemtable cfg).buckets b = some (a.record b) := if_pos hused
    rw [hbuckets] at hb
    exact Option.some.inj hb
  · rw [MemtableArena.buckets_unused hused] at hb
    cases hb

/-- The number of entries of a memtable read off an arena is the number of its used buckets. -/
lemma total_toMemtable : ProbeTable.total (memtableLayout cfg) (a.toMemtable cfg).buckets
    (fun _ => 1) = (a.usedBuckets cfg).ncard := by
  classical
  have hused : a.usedBuckets cfg = ((Finset.range cfg.memtableEntryCount).filter
      fun b => (a.memtableIndex b).isFree = false : Finset ℕ) := by
    ext b
    simp [MemtableArena.usedBuckets]
  rw [hused, Set.ncard_coe_finset, Finset.card_filter]
  refine Finset.sum_congr rfl fun b hb => ?_
  have hlt : b < cfg.memtableEntryCount := Finset.mem_range.mp hb
  by_cases hfree : (a.memtableIndex b).isFree = false
  · have hbuckets : (a.toMemtable cfg).buckets b = some (a.record b) := if_pos ⟨hlt, hfree⟩
    rw [hbuckets, if_pos hfree]
    rfl
  · have hbuckets : (a.toMemtable cfg).buckets b = none := if_neg fun hboth => hfree hboth.2
    rw [hbuckets, if_neg hfree]
    rfl

namespace RunSound

variable (h : RunSound cfg db a log)
include h

/-- A search reports the bucket that the records lead to. -/
lemma find_eq {slot : ℕ} {key : Bytes} (hslot : slot < cfg.limits.maxNamespaces)
    (hkey : validateBytes key = true) : a.findMemtableBucketUnsafe cfg db slot key =
      .ok (toBucketSearch (ProbeTable.search (memtableLayout cfg) (a.toMemtable cfg).buckets
        (slot, key))).toArena := by
  obtain ⟨records, harena⟩ := h.arena
  rw [harena.findMemtableBucket_mirrors h.registry, findMemtableBucketUnsafe_eq h.memtable hkey hslot]
  rfl

lemma search_found {slot b : ℕ} {key : Bytes} {r : MemtableRecord}
    (hb : (a.toMemtable cfg).buckets b = some r) (hown : (memtableLayout cfg).key r = (slot, key)) :
    ProbeTable.search (memtableLayout cfg) (a.toMemtable cfg).buckets (slot, key) = .found b r :=
  h.memtable.indexed.search_eq_found_iff.mpr ⟨hb, hown⟩

/-- **A used bucket is reached from its own key**, however many others are in use. -/
lemma find_own {b : ℕ} (hb : b ∈ a.usedBuckets cfg) : a.findMemtableBucketUnsafe cfg db
    (a.record b).namespaceSlotIndex (a.record b).key = .ok (.found b) := by
  have hbuckets : (a.toMemtable cfg).buckets b = some (a.record b) := if_pos hb
  have husable := h.memtable.usable b _ hbuckets
  unfold memtableRecordUsable at husable
  simp only [Bool.and_eq_true, decide_eq_true_eq] at husable
  have hslot : (a.record b).namespaceSlotIndex < cfg.limits.maxNamespaces :=
    husable.1.2.trans_le h.registry
  rw [h.find_eq hslot husable.1.1, h.search_found hbuckets rfl]
  rfl

/-- **A search finds the record of the last mutation.** -/
lemma findsLast {slot : ℕ} {key : Bytes} (hslot : slot < cfg.limits.maxNamespaces)
    (hkey : validateBytes key = true) : a.FindsLast cfg db slot key (lastMutation log slot key) := by
  obtain ⟨records, harena⟩ := h.arena
  have hholds := h.holds slot key
  unfold Memtable.record? at hholds
  cases hlast : lastMutation log slot key with
  | none =>
      rw [hlast, Option.map_none] at hholds
      refine ⟨_, h.find_eq hslot hkey, fun b hfound => ?_⟩
      cases hsearch : ProbeTable.search (memtableLayout cfg) (a.toMemtable cfg).buckets
        (slot, key) with
      | found b' r =>
          unfold ProbeTable.lookup at hholds
          rw [hsearch] at hholds
          cases hholds
      | free b' => rw [hsearch] at hfound; cases hfound
      | full => rw [hsearch] at hfound; cases hfound
  | some last =>
      obtain ⟨sequence, m⟩ := last
      rw [hlast, Option.map_some] at hholds
      obtain ⟨b, hb, hown⟩ := h.memtable.indexed.lookup_eq_some_iff.mp hholds
      obtain ⟨hused, hrecord⟩ := toMemtable_eq_some hb
      have hrecords : records b = mutationRecord slot sequence m :=
        (harena.record_eq hused).symm.trans hrecord
      refine ⟨b, hused, ?_, ?_, hrecord, ?_⟩
      · rw [h.find_eq hslot hkey, h.search_found hb hown]
        rfl
      · rw [harena.header_eq hused, hrecords]
        rfl
      · rw [harena.recordSize_eq hused, hrecords]
        rfl

end RunSound

/-- **The memtable refines the last mutations.**  Behind any sequence of accepted transactions a
search finds a key exactly when one of them has mutated it, and finds the header and the bytes of the
last mutation; the records of the used buckets tile the used part of the arena; the entry count is
their number; and every used bucket is reached from its key. -/
theorem memtable_holds_last_mutations (hrun : MemtableRun cfg db a log) :
    (∀ slot key, slot < cfg.limits.maxNamespaces → validateBytes key = true →
      a.FindsLast cfg db slot key (lastMutation log slot key)) ∧
    Packed (a.usedBuckets cfg) a.extent a.memtableDataUsed ∧
    a.memtableDataUsed ≤ cfg.limits.memtableDataBytes ∧
    a.memtableEntryCount = (a.usedBuckets cfg).ncard ∧
    (∀ b ∈ a.usedBuckets cfg, a.findMemtableBucketUnsafe cfg db (a.record b).namespaceSlotIndex
      (a.record b).key = .ok (.found b)) ∧
    ∀ m namespaceName mutations mutations' sequence, StagedMutations cfg db.manifest mutations →
      sequence < 2 ^ 64 →
      a.preflightMemtableTransactionUnsafe cfg db m namespaceName mutations = .ok mutations' →
      ∃ s, a.applyAccepted cfg db m namespaceName mutations sequence = .ok s := by
  have h := hrun.sound
  obtain ⟨records, harena⟩ := h.arena
  refine ⟨fun slot key hslot hkey => h.findsLast hslot hkey, harena.stores.toPacked, harena.bounded,
    ?_, fun b hb => h.find_own hb,
    fun m namespaceName mutations mutations' sequence hstaged hsequence haccepted => ?_⟩
  · rw [← total_toMemtable]
    exact h.memtable.entries
  · obtain ⟨index, db', a', happlied, -⟩ := h.transaction hstaged hsequence haccepted
    exact ⟨_, happlied⟩

/-- The instance, the memtable and the history behind a transaction; a rejected one changes none. -/
def MemtableArena.behind (cfg : Config) (m : Media)
    (s : Db × MemtableArena × List AppliedTransaction) (namespaceName : Bytes)
    (mutations : List Mutation) (sequence : ℕ) : Db × MemtableArena × List AppliedTransaction :=
  match s.2.1.applyAccepted cfg s.1 m namespaceName mutations sequence with
  | .ok (index, db, a) => (db, a, ⟨index, sequence, mutations⟩ :: s.2.2)
  | .error _ => s

lemma MemtableRun.behind {s : Db × MemtableArena × List AppliedTransaction}
    (hrun : MemtableRun cfg s.1 s.2.1 s.2.2) (m : Media) (namespaceName : Bytes)
    {mutations : List Mutation} {sequence : ℕ}
    (hstaged : ∀ manifest, StagedMutations cfg manifest mutations) (hsequence : sequence < 2 ^ 64) :
    MemtableRun cfg (MemtableArena.behind cfg m s namespaceName mutations sequence).1
      (MemtableArena.behind cfg m s namespaceName mutations sequence).2.1
      (MemtableArena.behind cfg m s namespaceName mutations sequence).2.2 := by
  unfold MemtableArena.behind
  split
  · next happlied => exact .transaction hrun (hstaged _) hsequence happlied
  · exact hrun

/-- Two keys are set, and then the first again, to a longer value. -/
def smallHistory : Db × MemtableArena × List AppliedTransaction :=
  let db := Db.closed 1 1
  let db := { db with manifest := { db.manifest with geometry := hostConfig.geometry } }
  let m := provisionedMedia hostConfig 7
  MemtableArena.behind hostConfig m (MemtableArena.behind hostConfig m (db, .reset, [])
    [97] [⟨[1], .inline [5], .none, 0⟩, ⟨[2], .tombstone, .none, 0⟩] 1)
    [97] [⟨[1], .inline (List.replicate 9 6), .none, 0⟩] 2

/-- The first key is found with its longer value. -/
theorem memtable_holds_last_mutations_small :
    lastMutation smallHistory.2.2 0 [1] =
      some (2, ⟨[1], .inline (List.replicate 9 6), .none, 0⟩) ∧
    smallHistory.2.1.FindsLast hostConfig smallHistory.1 0 [1]
      (lastMutation smallHistory.2.2 0 [1]) := by
  refine ⟨by decide +kernel, ?_⟩
  have hrun : MemtableRun hostConfig smallHistory.1 smallHistory.2.1 smallHistory.2.2 := by
    refine .behind (.behind (s := (_, .reset, [])) (.reset (Nat.zero_le _)) _ _ (fun _ => ?_) ?_)
      _ _ (fun _ => ?_) ?_
    · refine ⟨by decide, by decide, ?_, ?_⟩ <;> simp [valueInActiveBank, StoredValue.ref?]
    · decide
    · refine ⟨by decide, by decide, ?_, ?_⟩ <;> simp [valueInActiveBank, StoredValue.ref?]
    · decide
  exact (memtable_holds_last_mutations hrun).1 0 [1] (by decide) (by decide)

end On9kvdb
