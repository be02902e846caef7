import On9kvdb.Arena.Memtable

/-!
# The arena refines the memtable

`toMemtable` reads the records off an arena.  On an instance with that memtable, a search, a
preflight and the application of a mutation do what the methods on the arena do.
-/

namespace On9kvdb

open PackedArena

/-- The records of the used buckets. -/
def MemtableArena.toMemtable (cfg : Config) (a : MemtableArena) : Memtable where
  buckets b :=
    if b < cfg.memtableEntryCount ∧ (a.memtableIndex b).isFree = false then some (a.record b)
    else none
  dataUsed := a.memtableDataUsed
  entryCount := a.memtableEntryCount

/-- The instance whose memtable is read off an arena. -/
def Db.withArena (cfg : Config) (db : Db) (a : MemtableArena) : Db :=
  { db with memtable := a.toMemtable cfg }

/-- The bucket a search ends at. -/
def BucketSearch.toArena : BucketSearch → ArenaSearch
  | .found b _ => .found b
  | .free b => .free b
  | .full => .full

variable {cfg : Config} {db : Db} {a : MemtableArena} {records : ℕ → MemtableRecord}

/-! ## Searching -/

lemma bucketIndex_lt (hash : UInt32) (probe : ℕ) :
    bucketIndex cfg hash probe < cfg.memtableEntryCount := by
  rw [bucketIndex_eq]
  exact Nat.mod_lt _ (by have := cfg.memtableEntries_valid.1; omega)

lemma ArenaSound.buckets_used (h : ArenaSound cfg a records) {b : ℕ} (hb : b ∈ a.usedBuckets cfg) :
    (a.toMemtable cfg).buckets b = some (records b) := by
  show (if b < cfg.memtableEntryCount ∧ _ then some (a.record b) else none) = _
  rw [if_pos ⟨hb.1, hb.2⟩, h.record_eq hb]

lemma MemtableArena.buckets_unused {b : ℕ} (hb : b ∉ a.usedBuckets cfg) :
    (a.toMemtable cfg).buckets b = none := if_neg hb

namespace ArenaSound

variable (h : ArenaSound cfg a records)
include h

/-- A used bucket passes the checks on its extent. -/
lemma bucketUsable_eq {b : ℕ} (hb : b ∈ a.usedBuckets cfg) :
    MemtableArena.bucketUsable cfg (a.memtableIndex b) = true := by
  have hwithin := h.stores.within b hb
  have hbounded := h.bounded
  have hsize := h.recordSize_eq hb
  have hle := align8_inline_le (records b)
  unfold MemtableArena.extent Extent.stop at hwithin
  unfold MemtableArena.bucketUsable
  simp only [Bool.and_eq_true, decide_eq_true_eq]
  dsimp only at hwithin
  omega

/-- The checks on a header are the checks on the record behind it. -/
lemma headerUsable_eq (hregistry : db.namespaces.length ≤ cfg.limits.maxNamespaces) {b : ℕ}
    (hb : b ∈ a.usedBuckets cfg) :
    MemtableArena.headerUsable cfg db (a.memtableIndex b) (a.header b) =
      memtableRecordUsable cfg db (records b) := by
  have hsize := h.recordSize_eq hb
  have hle := align8_inline_le (records b)
  have hkey := (h.inRange b hb).key
  have hlength : 0 < (records b).key.length ∧ (records b).key.length ≤ maxNameLen := by
    unfold validateBytes at hkey
    simpa only [Bool.and_eq_true, decide_eq_true_eq] using hkey
  have hinline : (records b).header.inlineSize = (records b).value.inlineSize := by
    unfold MemtableRecordHeader.inlineSize
    rw [MemtableRecord.isExternal_header]
    unfold MemtableRecord.header
    cases (records b).value <;> rfl
  have hvalue : (!(records b).header.isExternal ||
      matchesActiveBank cfg db.manifest (records b).header.externalValue) =
      valueInActiveBank cfg db.manifest (records b).value := by
    rw [MemtableRecord.isExternal_header]
    unfold MemtableRecord.header valueInActiveBank
    cases (records b).value <;> rfl
  have htotal : (records b).header.totalSize = (records b).recordSize := rfl
  have hkeySize : (records b).header.keySize = (records b).key.length := rfl
  have hslot : (records b).header.namespaceSlotIndex = (records b).namespaceSlotIndex := rfl
  unfold MemtableArena.headerUsable memtableRecordUsable
  rw [h.header_eq hb, hinline, hvalue, htotal, hkeySize, hslot, hsize, hkey]
  rw [Bool.eq_iff_iff]
  simp only [Bool.and_eq_true, decide_eq_true_eq, beq_iff_eq, bne_iff_ne, true_and]
  constructor
  · rintro ⟨⟨-, hused⟩, hbank⟩
    exact ⟨hused, hbank⟩
  · rintro ⟨hused, hbank⟩
    refine ⟨⟨⟨⟨⟨⟨?_, hlength.2⟩, ?_⟩, ?_⟩, hused.trans_le hregistry⟩, hused⟩, hbank⟩
    · omega
    · omega
    · omega

lemma probeMemtable_mirrors (hregistry : db.namespaces.length ≤ cfg.limits.maxNamespaces)
    (hash : UInt32) (namespaceSlotIndex : ℕ) (key : Bytes) (remaining probe : ℕ) :
    a.probeMemtable cfg db hash namespaceSlotIndex key remaining probe =
      (probeMemtable cfg (db.withArena cfg a) hash namespaceSlotIndex key remaining probe).map
        BucketSearch.toArena := by
  induction remaining generalizing probe with
  | zero => rfl
  | succ remaining ih =>
      rw [MemtableArena.probeMemtable, probeMemtable]
      obtain ⟨b, hbucket⟩ : ∃ b, b = bucketIndex cfg hash probe := ⟨_, rfl⟩
      have hlt : b < cfg.memtableEntryCount := hbucket ▸ bucketIndex_lt hash probe
      rw [← hbucket]
      cases hfree : (a.memtableIndex b).isFree with
      | true =>
          have hnone : (db.withArena cfg a).memtable.buckets b = none :=
            MemtableArena.buckets_unused fun hb => by
              have hused := hb.2
              rw [hfree] at hused
              cases hused
          rw [hnone]
          rfl
      | false =>
          have hb : b ∈ a.usedBuckets cfg := ⟨hlt, hfree⟩
          have hsome : (db.withArena cfg a).memtable.buckets b = some (records b) :=
            h.buckets_used hb
          have husable : memtableRecordUsable cfg (db.withArena cfg a) (records b) =
            memtableRecordUsable cfg db (records b) := rfl
          have hkeySize : (a.header b).keySize = (records b).key.length := by
            rw [h.header_eq hb]
            rfl
          have hslot : (a.header b).namespaceSlotIndex = (records b).namespaceSlotIndex := by
            rw [h.header_eq hb]
            rfl
          rw [hsome, if_neg (by decide), h.hashed b hb, h.bucketUsable_eq hb,
            h.headerUsable_eq hregistry hb, hkeySize, hslot, h.keyAt_eq hb, ih]
          dsimp only
          rw [husable]
          by_cases hhash : (records b).hash ≠ hash
          · rw [if_pos hhash, if_pos hhash]
          have htrue : ¬ true = false := by decide
          rw [if_neg hhash, if_neg hhash, if_neg htrue]
          cases memtableRecordUsable cfg db (records b) with
          | false => rfl
          | true =>
              rw [if_neg htrue, if_neg htrue]
              by_cases hsame : (records b).namespaceSlotIndex = namespaceSlotIndex
              · by_cases hkey : (records b).key = key
                · rw [if_neg (not_not.mpr hsame), if_pos ⟨by rw [hkey], hkey⟩,
                    if_pos ⟨hsame, hkey⟩]
                  rfl
                · rw [if_neg (not_not.mpr hsame), if_neg fun hboth => hkey hboth.2,
                    if_neg fun hboth => hkey hboth.2]
              · rw [if_pos hsame, if_neg fun hboth => hsame hboth.1]

/-- **A search of the arena ends where a search of the records ends.** -/
theorem findMemtableBucket_mirrors (hregistry : db.namespaces.length ≤ cfg.limits.maxNamespaces)
    (namespaceSlotIndex : ℕ) (key : Bytes) :
    a.findMemtableBucketUnsafe cfg db namespaceSlotIndex key =
      (findMemtableBucketUnsafe cfg (db.withArena cfg a) namespaceSlotIndex key).map
        BucketSearch.toArena := by
  unfold MemtableArena.findMemtableBucketUnsafe findMemtableBucketUnsafe
  split_ifs
  · rfl
  · exact h.probeMemtable_mirrors hregistry _ _ _ _ _

end ArenaSound

/-! ## Preflight -/

lemma lookupTablesLoop_withArena (db : Db) (a : MemtableArena) (m : Media) (key : CompositeKey)
    (fuel : ℕ) (examined : List ℕ) (best : Option (TableReference × ValueView)) :
    lookupTablesLoop cfg (db.withArena cfg a) m key fuel examined best =
      lookupTablesLoop cfg db m key fuel examined best := by
  have hcandidate : nextCandidate cfg (db.withArena cfg a) key = nextCandidate cfg db key := rfl
  have htable : lookupTableUnsafe cfg (db.withArena cfg a) m = lookupTableUnsafe cfg db m := rfl
  induction fuel generalizing examined best with
  | zero => rfl
  | succ fuel ih => simp only [lookupTablesLoop, hcandidate, htable, ih]

/-- The tables are searched without the memtable. -/
lemma lookupTablesUnsafe_withArena (db : Db) (a : MemtableArena) (m : Media)
    (key : CompositeKey) :
    lookupTablesUnsafe cfg (db.withArena cfg a) m key = lookupTablesUnsafe cfg db m key := by
  have htable : lookupTableUnsafe cfg (db.withArena cfg a) m = lookupTableUnsafe cfg db m := rfl
  unfold lookupTablesUnsafe
  simp only [lookupTablesLoop_withArena, htable]

/-- Where a search of the records ends: at the record of a bucket, or at a free bucket. -/
def BucketSearch.Ends (cfg : Config) (db : Db) : BucketSearch → Prop
  | .found b r => db.memtable.buckets b = some r
  | .free b => db.memtable.buckets b = none ∧ b < cfg.memtableEntryCount
  | .full => True

lemma probeMemtable_ends {db : Db} {hash : UInt32} {namespaceSlotIndex : ℕ} {key : Bytes}
    {remaining probe : ℕ} {search : BucketSearch}
    (hsearch : probeMemtable cfg db hash namespaceSlotIndex key remaining probe = .ok search) :
    search.Ends cfg db := by
  induction remaining generalizing probe with
  | zero =>
      cases hsearch
      trivial
  | succ remaining ih =>
      rw [probeMemtable] at hsearch
      cases hbucket : db.memtable.buckets (bucketIndex cfg hash probe) with
      | none =>
          rw [hbucket] at hsearch
          cases hsearch
          exact ⟨hbucket, bucketIndex_lt hash probe⟩
      | some r =>
          rw [hbucket] at hsearch
          dsimp only at hsearch
          split_ifs at hsearch
          · exact ih hsearch
          · cases hsearch
            exact hbucket
          · exact ih hsearch

lemma findMemtableBucketUnsafe_ends {db : Db} {namespaceSlotIndex : ℕ} {key : Bytes}
    {search : BucketSearch}
    (hsearch : findMemtableBucketUnsafe cfg db namespaceSlotIndex key = .ok search) :
    search.Ends cfg db := by
  unfold findMemtableBucketUnsafe at hsearch
  split_ifs at hsearch
  exact probeMemtable_ends hsearch

namespace ArenaSound

variable (h : ArenaSound cfg a records)
include h

/-- The record a search finds is that of a used bucket. -/
lemma found_used {b : ℕ} {r : MemtableRecord} (hb : (a.toMemtable cfg).buckets b = some r) :
    b ∈ a.usedBuckets cfg ∧ r = records b := by
  by_cases hused : b ∈ a.usedBuckets cfg
  · rw [h.buckets_used hused] at hb
    exact ⟨hused, (Option.some.inj hb).symm⟩
  · rw [MemtableArena.buckets_unused hused] at hb
    cases hb

lemma previousState_eq {b : ℕ} (hb : b ∈ a.usedBuckets cfg) :
    (a.header b).previousState = previousStateOf (records b).value := by
  unfold MemtableRecordHeader.previousState previousStateOf
  rw [h.header_eq hb, MemtableRecord.isTombstone_header]

lemma findPrevious_mirrors (hregistry : db.namespaces.length ≤ cfg.limits.maxNamespaces)
    (m : Media) (namespaceIndex : ℕ) (namespaceName key : Bytes) :
    a.findPrevious cfg db m namespaceIndex namespaceName key =
      (findPrevious cfg (db.withArena cfg a) m namespaceIndex namespaceName key).map fun p =>
        (p.1.map MemtableRecord.recordSize, p.2.map fun v => (previousStateOf v, v.size)) := by
  unfold MemtableArena.findPrevious findPrevious
  rw [h.findMemtableBucket_mirrors hregistry]
  cases hsearch : findMemtableBucketUnsafe cfg (db.withArena cfg a) namespaceIndex key with
  | error e => rfl
  | ok search =>
      cases search with
      | found b r =>
          obtain ⟨hb, rfl⟩ := h.found_used (findMemtableBucketUnsafe_ends hsearch)
          show Except.ok _ = Except.ok _
          rw [h.recordSize_eq hb, h.previousState_eq hb, h.header_eq hb]
          rfl
      | free b =>
          dsimp only
          rw [lookupTablesUnsafe_withArena]
          cases lookupTablesUnsafe cfg db m ⟨namespaceName, key⟩ with
          | ok view => rfl
          | error e => cases e <;> rfl
      | full =>
          dsimp only
          rw [lookupTablesUnsafe_withArena]
          cases lookupTablesUnsafe cfg db m ⟨namespaceName, key⟩ with
          | ok view => rfl
          | error e => cases e <;> rfl

lemma preflightMutation_mirrors (hregistry : db.namespaces.length ≤ cfg.limits.maxNamespaces)
    (m : Media) (namespaceIndex : ℕ) (namespaceName : Bytes) (t : PreflightTotals)
    (mutation : Mutation) :
    a.preflightMutation cfg db m namespaceIndex namespaceName t mutation =
      preflightMutation cfg (db.withArena cfg a) m namespaceIndex namespaceName t mutation := by
  unfold MemtableArena.preflightMutation preflightMutation
  rw [h.findPrevious_mirrors hregistry]
  cases findPrevious cfg (db.withArena cfg a) m namespaceIndex namespaceName mutation.key with
  | error e => rfl
  | ok p =>
      obtain ⟨record, previous⟩ := p
      cases record <;> cases previous <;> rfl

lemma preflightMutations_mirrors (hregistry : db.namespaces.length ≤ cfg.limits.maxNamespaces)
    (m : Media) (namespaceIndex : ℕ) (namespaceName : Bytes) (t : PreflightTotals)
    (mutations : List Mutation) :
    a.preflightMutations cfg db m namespaceIndex namespaceName t mutations =
      preflightMutations cfg (db.withArena cfg a) m namespaceIndex namespaceName t mutations := by
  induction mutations generalizing t with
  | nil => rfl
  | cons mutation rest ih =>
      rw [MemtableArena.preflightMutations, preflightMutations,
        h.preflightMutation_mirrors hregistry]
      simp only [ih]

/-- **The preflight of the arena is the preflight of the records.** -/
theorem preflight_mirrors (hregistry : db.namespaces.length ≤ cfg.limits.maxNamespaces)
    (m : Media) (namespaceName : Bytes) (mutations : List Mutation) :
    a.preflightMemtableTransactionUnsafe cfg db m namespaceName mutations =
      preflightMemtableTransactionUnsafe cfg (db.withArena cfg a) m namespaceName mutations := by
  unfold MemtableArena.preflightMemtableTransactionUnsafe preflightMemtableTransactionUnsafe
  simp only [h.preflightMutations_mirrors hregistry]
  rfl

end ArenaSound

/-! ## Replacing and appending -/

/-- The arena bytes stay far below the mark of a free bucket. -/
lemma isFree_eq_false {bucket : MemtableBucket}
    (h : bucket.recordOffset ≤ cfg.limits.memtableDataBytes) : bucket.isFree = false := by
  have hmax := cfg.ranges.2.2.2.2.2.1
  unfold MemtableBucket.isFree
  rw [beq_eq_false_iff_ne]
  simp only [uint32Max]
  omega

/-- What is left of an arena when a bucket has no record: the other records, packed, under the
same buckets. -/
structure Emptied (cfg : Config) (a a' : MemtableArena) (records : ℕ → MemtableRecord) (b : ℕ) :
    Prop where
  others : ∀ j, j ≠ b → (a'.memtableIndex j).isFree = (a.memtableIndex j).isFree ∧
    (a'.memtableIndex j).hash = (a.memtableIndex j).hash
  stores : Stores (a.usedBuckets cfg \ {b}) a'.extent a'.memtableDataUsed a'.memtableData
    fun j => (records j).toBytes

/-- **Removing a record leaves the others, packed.** -/
theorem ArenaSound.remove (h : ArenaSound cfg a records) {b : ℕ} (hb : b ∈ a.usedBuckets cfg) :
    Emptied cfg a (a.removeMemtableRecordUnsafe cfg b) records b where
  others j hj := by
    unfold MemtableArena.removeMemtableRecordUnsafe
    dsimp only
    rw [if_neg hj]
    split_ifs with hmoved
    · obtain ⟨hlt, hused, hbehind⟩ := hmoved
      have hwithin := h.stores.within j ⟨hlt, hused⟩
      have hbounded := h.bounded
      unfold MemtableArena.extent Extent.stop at hwithin
      dsimp only at hwithin
      exact ⟨by rw [hused]; exact @isFree_eq_false cfg _ (by dsimp only; omega), rfl⟩
    · exact ⟨rfl, rfl⟩
  stores := by
    refine (h.stores.remove hb).congr rfl (fun j hj => ?_) fun _ _ => rfl
    obtain ⟨⟨hlt, hused⟩, hne⟩ := hj
    have hne' : j ≠ b := hne
    unfold MemtableArena.extent closeGap MemtableArena.removeMemtableRecordUnsafe
    dsimp only
    rw [if_neg hne']
    by_cases hbehind : (a.memtableIndex b).recordOffset < (a.memtableIndex j).recordOffset
    · rw [if_pos ⟨hlt, hused, hbehind⟩, if_pos hbehind]
    · rw [if_neg fun hall => hbehind hall.2.2, if_neg hbehind]

/-- A free bucket has no record. -/
lemma ArenaSound.emptied_of_free (h : ArenaSound cfg a records) {b : ℕ}
    (hb : b ∉ a.usedBuckets cfg) (entries : ℕ) :
    Emptied cfg a { a with memtableEntryCount := entries } records b where
  others _ _ := ⟨rfl, rfl⟩
  stores := h.stores.congr (Set.sdiff_singleton_eq_self hb) (fun _ _ => rfl) fun _ _ => rfl

/-- The four pieces of an appended record are its bytes. -/
lemma memtableData_appendRecord (a : MemtableArena) (b namespaceSlotIndex sequence : ℕ)
    (m : Mutation) :
    (a.appendRecord b namespaceSlotIndex sequence m).memtableData =
      write a.memtableData a.memtableDataUsed
        (mutationRecord namespaceSlotIndex sequence m).toBytes := by
  have hheader : (mutationRecord namespaceSlotIndex sequence m).header =
    MemtableArena.mutationHeader namespaceSlotIndex sequence m := rfl
  have hkey : (mutationRecord namespaceSlotIndex sequence m).key = m.key := rfl
  have hvalue : (mutationRecord namespaceSlotIndex sequence m).value = m.value := rfl
  have hsize : (mutationRecord namespaceSlotIndex sequence m).recordSize = m.recordSize := rfl
  unfold MemtableRecord.toBytes
  rw [hheader, hkey, hvalue, hsize, ← write_write, ← write_write, ← write_write,
    MemtableRecordHeader.length_toMemory]
  unfold MemtableArena.appendRecord StoredValue.inlineSize
  dsimp only
  rw [← Nat.add_assoc, ← Nat.add_assoc]

/-- **Appending a record under an emptied bucket.** -/
theorem ArenaSound.append (h : ArenaSound cfg a records) {a' : MemtableArena} {b : ℕ}
    (hempty : Emptied cfg a a' records b) (hb : b < cfg.memtableEntryCount)
    {namespaceSlotIndex sequence : ℕ} {m : Mutation}
    (hrange : (mutationRecord namespaceSlotIndex sequence m).InRange)
    (hroom : a'.memtableDataUsed + m.recordSize ≤ cfg.limits.memtableDataBytes) :
    ArenaSound cfg (a'.appendRecord b namespaceSlotIndex sequence m)
      (Function.update records b (mutationRecord namespaceSlotIndex sequence m)) ∧
    ((a'.appendRecord b namespaceSlotIndex sequence m).toMemtable cfg).buckets =
      Function.update (a.toMemtable cfg).buckets b
        (some (mutationRecord namespaceSlotIndex sequence m)) := by
  obtain ⟨t, ht⟩ : ∃ t, t = a'.appendRecord b namespaceSlotIndex sequence m := ⟨_, rfl⟩
  obtain ⟨r, hr⟩ : ∃ r, r = mutationRecord namespaceSlotIndex sequence m := ⟨_, rfl⟩
  have hsize : r.toBytes.length = m.recordSize := by
    rw [MemtableRecord.length_toBytes, hr]
    rfl
  have hpos := m.recordSize_pos
  have hself : t.memtableIndex b = ⟨r.hash, a'.memtableDataUsed, m.recordSize⟩ := by
    rw [ht, hr]
    exact Function.update_self ..
  have hother : ∀ j, j ≠ b → t.memtableIndex j = a'.memtableIndex j := fun j hj => by
    rw [ht]
    exact Function.update_of_ne hj ..
  have hfree : (t.memtableIndex b).isFree = false := by
    rw [hself]
    exact @isFree_eq_false cfg _ (by dsimp only; omega)
  have hmem : ∀ j, j ≠ b → (j ∈ t.usedBuckets cfg ↔ j ∈ a.usedBuckets cfg) := fun j hj => by
    unfold MemtableArena.usedBuckets
    rw [Set.mem_ofPred_eq, Set.mem_ofPred_eq, hother j hj, (hempty.others j hj).1]
  have hslots : t.usedBuckets cfg = insert b (a.usedBuckets cfg \ {b}) := by
    refine Set.ext fun j => ?_
    by_cases hj : j = b
    · rw [hj]
      exact iff_of_true ⟨hb, hfree⟩ (Set.mem_insert _ _)
    · rw [hmem j hj]
      simp [hj]
  have hdata : t.memtableData = write a'.memtableData a'.memtableDataUsed r.toBytes := by
    rw [ht, hr]
    exact memtableData_appendRecord ..
  have hused : t.memtableDataUsed = a'.memtableDataUsed + r.toBytes.length := by
    rw [hsize, ht]
    rfl
  have hkept : ∀ j ∈ a.usedBuckets cfg \ {b}, Function.update records b r j = records j :=
    fun j hj => Function.update_of_ne hj.2 ..
  rw [← ht, ← hr]
  have hsound : ArenaSound cfg t (Function.update records b r) := by
    refine ⟨?_, fun j hj => ?_, fun j hj => ?_, ?_⟩
    · rw [hslots, hdata, hused]
      refine hempty.stores.append (fun hmem' => hmem'.2 rfl) (fun hnil => ?_) (fun j hj => ?_) ?_
        (fun j hj => ?_) ?_
      · rw [hnil] at hsize
        exact absurd hsize (ne_of_lt hpos)
      · unfold MemtableArena.extent
        rw [hother j hj.2]
      · unfold MemtableArena.extent
        rw [hself, hsize]
      · rw [hkept j hj]
      · rw [Function.update_self]
    · by_cases hne : j = b
      · rw [hne, hself, Function.update_self]
      · rw [Function.update_of_ne hne, hother j hne, (hempty.others j hne).2]
        exact h.hashed j ((hmem j hne).mp hj)
    · by_cases hne : j = b
      · rw [hne, Function.update_self, hr]
        exact hrange
      · rw [Function.update_of_ne hne]
        exact h.inRange j ((hmem j hne).mp hj)
    · rw [hused, hsize]
      exact hroom
  refine ⟨hsound, funext fun j => ?_⟩
  by_cases hne : j = b
  · subst hne
    rw [Function.update_self, hsound.buckets_used ⟨hb, hfree⟩, Function.update_self]
  · rw [Function.update_of_ne hne]
    by_cases hj : j ∈ a.usedBuckets cfg
    · rw [hsound.buckets_used ((hmem j hne).mpr hj), h.buckets_used hj, Function.update_of_ne hne]
    · rw [MemtableArena.buckets_unused hj,
        MemtableArena.buckets_unused fun hj' => hj ((hmem j hne).mp hj')]

/-! ## Application -/

/-- An instance whose memtable has been replaced by that of an arena. -/
lemma withArena_eq {db : Db} {a : MemtableArena} {stats : Stats} {mt : Memtable}
    (hbuckets : (a.toMemtable cfg).buckets = mt.buckets) (hused : a.memtableDataUsed = mt.dataUsed)
    (hentries : a.memtableEntryCount = mt.entryCount) :
    Db.withArena cfg { db with stats := stats } a = { db with memtable := mt, stats := stats } := by
  have hmemtable : a.toMemtable cfg = mt := by
    show (⟨(a.toMemtable cfg).buckets, a.memtableDataUsed, a.memtableEntryCount⟩ : Memtable) = mt
    rw [hbuckets, hused, hentries]
  unfold Db.withArena
  rw [hmemtable]

/-- What applying mutations to an arena leaves: a sound arena with the given records. -/
structure ArenaApplied (cfg : Config) (db db' : Db) (s : Db × MemtableArena) : Prop where
  frame : s.1 = { db with stats := s.1.stats }
  mirrors : s.1.withArena cfg s.2 = db'
  sound : ∃ records, ArenaSound cfg s.2 records

/-- **Applying a mutation to the arena is applying it to the records.** -/
theorem ArenaSound.applyMutation_mirrors (h : ArenaSound cfg a records)
    (hregistry : db.namespaces.length ≤ cfg.limits.maxNamespaces)
    {namespaceSlotIndex sequence : ℕ} {m : Mutation} {db' : Db}
    (hok : applyMutation cfg (db.withArena cfg a) namespaceSlotIndex sequence m = .ok db')
    (hrange : (mutationRecord namespaceSlotIndex sequence m).InRange)
    (hroom : db'.memtable.dataUsed ≤ cfg.limits.memtableDataBytes) :
    ∃ s, a.applyMutation cfg db namespaceSlotIndex sequence m = .ok s ∧
      ArenaApplied cfg db db' s := by
  unfold applyMutation at hok
  obtain ⟨search, hsearch, hok⟩ := bind_eq_ok.mp hok
  have hends := findMemtableBucketUnsafe_ends hsearch
  have hfind := h.findMemtableBucket_mirrors hregistry namespaceSlotIndex m.key
  rw [hsearch] at hfind
  unfold MemtableArena.applyMutation
  rw [hfind]
  cases search with
  | full => cases hok
  | found b r =>
      obtain ⟨hb, rfl⟩ := h.found_used hends
      cases hok
      have hempty := h.remove hb
      obtain ⟨hsound, hbuckets⟩ := h.append hempty hb.1 hrange (by
        unfold MemtableArena.removeMemtableRecordUnsafe
        dsimp only
        rw [h.recordSize_eq hb]
        exact hroom)
      refine ⟨_, rfl, rfl, ?_, _, hsound⟩
      have hslot : (a.header b).namespaceSlotIndex = (records b).namespaceSlotIndex := by
        rw [h.header_eq hb]
        rfl
      have hkeySize : (a.header b).keySize = (records b).key.length := by
        rw [h.header_eq hb]
        rfl
      have hvalueSize : (a.header b).valueSize = (records b).value.size := by
        rw [h.header_eq hb]
        rfl
      dsimp only
      rw [hslot, hkeySize, hvalueSize, h.previousState_eq hb]
      refine withArena_eq hbuckets ?_ rfl
      show a.memtableDataUsed - (a.memtableIndex b).recordSize + m.recordSize = _
      rw [h.recordSize_eq hb]
      rfl
  | free b =>
      cases hok
      obtain ⟨hnone, hlt⟩ := hends
      have hb : b ∉ a.usedBuckets cfg := fun hb => by
        have hsome : (db.withArena cfg a).memtable.buckets b = some (records b) := h.buckets_used hb
        rw [hsome] at hnone
        cases hnone
      obtain ⟨hsound, hbuckets⟩ := h.append (h.emptied_of_free hb (a.memtableEntryCount + 1)) hlt
        hrange hroom
      exact ⟨_, rfl, rfl, withArena_eq hbuckets rfl rfl, _, hsound⟩

/-- **Applying a transaction to the arena is applying it to the records.** -/
theorem ArenaSound.applyMutations_mirrors (h : ArenaSound cfg a records)
    (hregistry : db.namespaces.length ≤ cfg.limits.maxNamespaces)
    {namespaceSlotIndex sequence : ℕ} {mutations : List Mutation} {db' : Db}
    (hok : applyMutations cfg namespaceSlotIndex sequence (db.withArena cfg a) mutations = .ok db')
    (hrange : ∀ m ∈ mutations, (mutationRecord namespaceSlotIndex sequence m).InRange)
    (hroom : ∀ front rest db₁, mutations = front ++ rest →
      applyMutations cfg namespaceSlotIndex sequence (db.withArena cfg a) front = .ok db₁ →
      db₁.memtable.dataUsed ≤ cfg.limits.memtableDataBytes) :
    ∃ s, MemtableArena.applyMutations cfg namespaceSlotIndex sequence (db, a) mutations = .ok s ∧
      ArenaApplied cfg db db' s := by
  induction mutations generalizing db a records with
  | nil =>
      cases hok
      exact ⟨_, rfl, rfl, rfl, _, h⟩
  | cons m rest ih =>
      rw [applyMutations] at hok
      obtain ⟨db₁, hone, hok⟩ := bind_eq_ok.mp hok
      obtain ⟨⟨db₂, a₂⟩, hrun, hframe, hmirrors, records₂, hsound⟩ :=
        h.applyMutation_mirrors hregistry hone (hrange m List.mem_cons_self)
          (hroom [m] rest db₁ rfl (by rw [applyMutations, hone]; rfl))
      dsimp only at hframe hmirrors hsound
      subst hmirrors
      have hnamespaces : db₂.namespaces = db.namespaces := by rw [hframe]
      obtain ⟨s, hrest, hframe', hmirrors', hsound'⟩ := ih hsound (by rw [hnamespaces]; exact hregistry)
        hok (fun n hn => hrange n (List.mem_cons_of_mem _ hn)) fun front rest' db₃ hsplit hfront =>
          hroom (m :: front) rest' db₃ (by rw [hsplit]; rfl) (by
            rw [applyMutations, hone]
            exact hfront)
      refine ⟨s, ?_, ?_, hmirrors', hsound'⟩
      · rw [MemtableArena.applyMutations, hrun]
        exact hrest
      · rw [hframe] at hframe'
        exact hframe'

end On9kvdb
