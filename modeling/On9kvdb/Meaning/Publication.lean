import On9kvdb.Meaning.Maintenance
import On9kvdb.Meaning.Model

/-!
# A publication overrides the staged keys

`publish_transaction` applies the staged mutations to the memtable under the next sequence.  The
versions of the database are then those of before, but for the records that have been replaced, and
the newer ones of the mutations: the map that the database holds is the one of before with what was
staged over it (`Holding.published`).
-/

namespace On9kvdb

open Exceptional Versions

variable {cfg : Config} {w w' : World} {c : CompositeKey → Option Bytes} {staging : Staging}
  {namespaceName : Bytes} {index : ℕ} {namespaces : List Bytes} {db db' : Db} {key : CompositeKey}

/-- The edits that are staged in a list. -/
def Staging.edits (staging : Staging) : Edits := fun name => staging.lookup name

/-! ## Namespaces -/

/-- The registry with a namespace: as it was, or with the namespace behind it. -/
lemma ensureNamespaceCapacityUnsafe_spec (hnames : db.namespaces.Nodup)
    (h : ensureNamespaceCapacityUnsafe cfg db.namespaces namespaceName = .ok (index, namespaces)) :
    namespaces.Nodup ∧ namespaces.getD index [] = namespaceName ∧
      ∀ slot < db.namespaces.length, namespaces.getD slot [] = db.namespaces.getD slot [] := by
  unfold ensureNamespaceCapacityUnsafe at h
  by_cases hvalid : validateBytes namespaceName = true
  · rcases @findNamespaceUnsafe_spec db.namespaces _ hvalid with ⟨i, hfound, hi⟩ | ⟨habsent, hfound⟩
    · rw [hfound] at h
      cases h
      refine ⟨hnames, ?_, fun _ _ => rfl⟩
      rw [List.getD_eq_getElem?_getD, hi]
      rfl
    · rw [hfound] at h
      dsimp only at h
      split_ifs at h
      cases h
      refine ⟨List.nodup_append.mpr ⟨hnames, List.nodup_singleton _, ?_⟩, ?_, fun slot hslot => ?_⟩
      · rintro a ha b hb rfl
        rw [List.mem_singleton.mp hb] at ha
        exact habsent ha
      · rw [List.getD_append_right _ _ _ _ le_rfl, Nat.sub_self]
        rfl
      · exact List.getD_append _ _ _ _ hslot
  · unfold findNamespaceUnsafe at h
    rw [if_pos (by simpa using hvalid)] at h
    cases h

/-! ## The versions -/

/-- The versions of the mutations. -/
def newVersions (namespaceName : Bytes) (sequence : ℕ) (mutations : List Mutation) :
    Set StoreVersion :=
  {v | ∃ m ∈ mutations, v = ⟨⟨namespaceName, m.key⟩, sequence, m.value⟩}

/-- The mutations behind one transaction, found by their keys. -/
lemma find?_key {mutations : List Mutation} (hkeys : (mutations.map Mutation.key).Nodup)
    {m : Mutation} (hm : m ∈ mutations) : mutations.find? (fun n => n.key == m.key) = some m := by
  induction mutations with
  | nil => exact absurd hm List.not_mem_nil
  | cons n rest ih =>
      rw [List.map_cons, List.nodup_cons] at hkeys
      rcases List.mem_cons.mp hm with rfl | hm
      · rw [List.find?_cons_of_pos (by simp)]
      · have hne : n.key ≠ m.key := fun heq => hkeys.1 (heq ▸ List.mem_map_of_mem hm)
        rw [List.find?_cons_of_neg (by simpa using hne)]
        exact ih hkeys.2 hm

/-- What is staged under a key. -/
lemma Stages.lookup (h : Stages cfg staging w) (name : Bytes) :
    (∃ m ∈ w.db.transaction.mutations, m.key = name ∧ ∃ o, staging.lookup name = some o ∧
      Denotes w.db.manifest w.dev.current m.value o) ∨
    ((∀ m ∈ w.db.transaction.mutations, m.key ≠ name) ∧ staging.lookup name = none) := by
  obtain ⟨hmeans, -⟩ := h
  generalize w.db.transaction.mutations = mutations at hmeans
  rw [List.forall₂_map_left_iff] at hmeans
  induction hmeans with
  | nil => exact .inr ⟨fun m hm => absurd hm List.not_mem_nil, rfl⟩
  | @cons m s mutations staging hm _ ih =>
      obtain ⟨name', o⟩ := s
      obtain ⟨hkey, hdenotes⟩ := hm
      have hkey' : m.key = name' := hkey
      rw [List.lookup_cons]
      by_cases heq : name = name'
      · refine .inl ⟨m, List.mem_cons_self, hkey'.trans heq.symm, o, ?_, hdenotes⟩
        rw [beq_iff_eq.mpr heq]
      · rw [beq_eq_false_iff_ne.mpr heq]
        refine ih.imp (fun ⟨n, hn, hrest⟩ => ⟨n, List.mem_cons_of_mem _ hn, hrest⟩)
          fun ⟨hnone, hlookup⟩ => ⟨fun n hn => ?_, hlookup⟩
        rcases List.mem_cons.mp hn with rfl | hn
        · rw [hkey']
          exact fun h => heq h.symm
        · exact hnone n hn

variable {mutations : List Mutation} {sequence : ℕ}

/-- A record behind the mutations is one of theirs, or one of before that they leave alone. -/
lemma AppliedAll.has (h : AppliedAll cfg index sequence mutations db db')
    (hsound : ∀ r, db.memtable.Has cfg r ↔
      db.memtable.record? cfg r.namespaceSlotIndex r.key = some r)
    (hkeys : (mutations.map Mutation.key).Nodup) (r : MemtableRecord) :
    db'.memtable.Has cfg r ↔ (∃ m ∈ mutations, r = mutationRecord index sequence m) ∨
      (db.memtable.Has cfg r ∧ ∀ m ∈ mutations, ¬(r.namespaceSlotIndex = index ∧ m.key = r.key)) := by
  rw [h.sound.has_iff, h.record, hsound]
  unfold recordBehind
  constructor
  · intro hr
    by_cases hslot : r.namespaceSlotIndex = index
    · rw [if_pos hslot] at hr
      cases hfind : mutations.find? (fun m => m.key == r.key) with
      | some m =>
          rw [hfind] at hr
          exact .inl ⟨m, List.mem_of_find?_eq_some hfind, (Option.some.inj hr).symm⟩
      | none =>
          rw [hfind] at hr
          refine .inr ⟨hr, fun m hm hsame => ?_⟩
          exact List.find?_eq_none.mp hfind m hm (beq_iff_eq.mpr hsame.2)
    · rw [if_neg hslot] at hr
      exact .inr ⟨hr, fun m _ hsame => hslot hsame.1⟩
  · rintro (⟨m, hm, rfl⟩ | ⟨hr, hfree⟩)
    · have hfind : mutations.find? (fun n => n.key == m.key) = some m := find?_key hkeys hm
      have hslot : (mutationRecord index sequence m).namespaceSlotIndex = index := rfl
      have hkey : (mutationRecord index sequence m).key = m.key := rfl
      rw [if_pos hslot, hkey, hfind]
    · by_cases hslot : r.namespaceSlotIndex = index
      · have hnone : mutations.find? (fun m => m.key == r.key) = none :=
          List.find?_eq_none.mpr fun m hm heq => hfree m hm ⟨hslot, eq_of_beq heq⟩
        rw [if_pos hslot, hnone]
        exact hr
      · rw [if_neg hslot]
        exact hr

/-! ## The publication -/

variable (cfg) in
/-- The state behind a publication. -/
def World.published (w : World) (db : Db) : World := { w with db := db.published cfg }

variable (cfg) in
/-- A transaction that has been applied, and what it has been applied to. -/
structure Publishes (namespaceName : Bytes) (index : ℕ) (namespaces : List Bytes) (w : World)
    (db : Db) : Prop where
  prepared : Prepared cfg namespaceName w.db
  registered :
    ensureNamespaceCapacityUnsafe cfg w.db.namespaces namespaceName = .ok (index, namespaces)
  applied : AppliedAll cfg index w.db.nextTransactionSequence w.db.transaction.mutations
    { w.db with namespaces := namespaces } db

namespace Publishes

/-- A publication leaves everything but the memtable, the registry and the transaction. -/
lemma frame (h : Publishes cfg namespaceName index namespaces w db) :
    db.manifest = w.db.manifest ∧ db.namespaces = namespaces ∧
      db.tableIndexCache = w.db.tableIndexCache ∧ db.tableKeyFilters = w.db.tableKeyFilters ∧
      db.nextTransactionSequence = w.db.nextTransactionSequence := by
  have hframe := h.applied.frame
  refine ⟨?_, ?_, ?_, ?_, ?_⟩ <;> rw [hframe]

/-- The versions of the memtable behind a publication. -/
lemma memtableVersions (h : Publishes cfg namespaceName index namespaces w db)
    (hnames : w.db.namespaces.Nodup) (v : StoreVersion) :
    v ∈ memtableVersions cfg (db.published cfg) ↔
      v ∈ newVersions namespaceName w.db.nextTransactionSequence w.db.transaction.mutations ∨
      (v ∈ On9kvdb.memtableVersions cfg w.db ∧ ∀ m ∈ w.db.transaction.mutations,
        v.key ≠ ⟨namespaceName, m.key⟩) := by
  obtain ⟨hnodup, hname, hold⟩ := ensureNamespaceCapacityUnsafe_spec hnames h.registered
  have hsound := h.prepared.sound
  have hhas := h.applied.has (fun r => hsound.memtable.has_iff) hsound.staged.keys
  have hindex : index < namespaces.length :=
    (ensureNamespaceCapacityUnsafe_eq_ok hsound.registry h.registered).1
  -- the records of before keep their names, and share one with a mutation only in its slot
  have hkey : ∀ r, w.db.memtable.Has cfg r →
      recordKey namespaces r = recordKey w.db.namespaces r := fun r hr => by
    unfold recordKey
    rw [hold _ (hsound.memtable.registered hr).1]
  have hslot : ∀ r, w.db.memtable.Has cfg r →
      (recordKey namespaces r).namespaceName = namespaceName → r.namespaceSlotIndex = index :=
    fun r hr heq => by
      have hlt : r.namespaceSlotIndex < namespaces.length := (hsound.memtable.registered hr).1.trans_le
        (ensureNamespaceCapacityUnsafe_eq_ok hsound.registry h.registered).2.2
      unfold recordKey at heq
      dsimp only at heq
      rw [← hname, List.getD_eq_getElem _ _ hlt, List.getD_eq_getElem _ _ hindex] at heq
      exact (List.Nodup.getElem_inj_iff hnodup).mp heq
  have hrecord : ∀ m, recordKey namespaces (mutationRecord index w.db.nextTransactionSequence m) =
      ⟨namespaceName, m.key⟩ := fun m => by
    unfold recordKey mutationRecord
    dsimp only
    rw [hname]
  have hregistry : (db.published cfg).namespaces = namespaces := h.frame.2.1
  unfold On9kvdb.memtableVersions
  rw [hregistry]
  constructor
  · rintro ⟨r, hr, rfl⟩
    rcases (hhas r).mp hr with ⟨m, hm, rfl⟩ | ⟨hr, hfree⟩
    · refine .inl ⟨m, hm, ?_⟩
      rw [hrecord]
      rfl
    · refine .inr ⟨⟨r, hr, by rw [hkey r hr]⟩, fun m hm hsame => hfree m hm ⟨?_, ?_⟩⟩
      · exact hslot r hr (congrArg CompositeKey.namespaceName hsame)
      · exact (congrArg CompositeKey.key hsame).symm
  · rintro (⟨m, hm, rfl⟩ | ⟨⟨r, hr, rfl⟩, hfree⟩)
    · refine ⟨_, (hhas _).mpr (.inl ⟨m, hm, rfl⟩), ?_⟩
      rw [hrecord]
      rfl
    · refine ⟨r, (hhas r).mpr (.inr ⟨hr, fun m hm hsame => hfree m hm ?_⟩), by rw [hkey r hr]⟩
      rw [← hkey r hr]
      unfold recordKey
      rw [hsame.1, hsame.2, hname]

/-- The versions behind a publication: the new ones, and those of before whose keys they leave
alone. -/
lemma versions (h : Publishes cfg namespaceName index namespaces w db)
    (hnames : w.db.namespaces.Nodup) :
    (w.published cfg db).versions cfg ⊆ w.versions cfg ∪
        newVersions namespaceName w.db.nextTransactionSequence w.db.transaction.mutations ∧
      newVersions namespaceName w.db.nextTransactionSequence w.db.transaction.mutations ⊆
        (w.published cfg db).versions cfg ∧
      ∀ v ∈ w.versions cfg, (∀ m ∈ w.db.transaction.mutations, v.key ≠ ⟨namespaceName, m.key⟩) →
        v ∈ (w.published cfg db).versions cfg := by
  have hmemtable := h.memtableVersions hnames
  have htables : tableVersions cfg (w.published cfg db).db (w.published cfg db).dev.current =
      tableVersions cfg w.db w.dev.current := by
    have hmanifest : (w.published cfg db).db.manifest = w.db.manifest := h.frame.1
    unfold tableVersions
    rw [hmanifest]
    rfl
  unfold World.versions
  rw [htables]
  refine ⟨?_, fun v hv => .inr ((hmemtable v).mpr (.inl hv)), ?_⟩
  · rintro v (hv | hv)
    · exact .inl (.inl hv)
    · rcases (hmemtable v).mp hv with hv | ⟨hv, -⟩
      · exact .inr hv
      · exact .inl (.inr hv)
  · rintro v (hv | hv) hfree
    · exact .inl hv
    · exact .inr ((hmemtable v).mpr (.inr ⟨hv, hfree⟩))

/-- The store behind a publication. -/
lemma storeSound (h : Publishes cfg namespaceName index namespaces w db)
    (hholding : Holding cfg c staging w) : StoreSound cfg (w.published cfg db) := by
  obtain ⟨⟨hstore, -⟩, hstages⟩ := hholding
  obtain ⟨hmanifest, hregistry, hcache, hfilters, -⟩ := h.frame
  have hmanifest : (w.published cfg db).db.manifest = w.db.manifest := hmanifest
  have hsound := h.prepared.sound
  refine ⟨⟨fun slot reference htable => ?_, ?_⟩, ?_, fun bucket r hr => ?_⟩
  · rw [hmanifest] at htable
    refine (hstore.tables.table slot reference htable).keep ?_ (by rw [hmanifest])
      (by rw [hmanifest]) fun v hv => by rw [hmanifest]; exact hv
    exact .of_eq rfl rfl (congrFun hcache slot) (congrFun hfilters slot)
  · have htables := hstore.tables.unambiguous
    unfold tableVersions at htables ⊢
    rw [hmanifest]
    exact htables
  · show db.namespaces.Nodup
    rw [hregistry]
    exact (ensureNamespaceCapacityUnsafe_spec hstore.names h.registered).1
  · have hr : db.memtable.Has cfg r :=
      ⟨bucket, h.applied.sound.indexed.inRange bucket r hr, hr⟩
    rcases (h.applied.has (fun r => hsound.memtable.has_iff) hsound.staged.keys r).mp hr with
      ⟨m, hm, rfl⟩ | ⟨⟨b, -, hb⟩, -⟩
    · exact hstages.small _ (List.mem_map_of_mem hm)
    · exact hstore.small b r hb

/-- **A publication overrides the staged keys**, and nothing else. -/
theorem holding (h : Publishes cfg namespaceName index namespaces w db)
    (hordered : Ordered cfg w.db.stored) (hholding : Holding cfg c staging w) :
    Holding cfg (overlay c namespaceName staging.edits) [] (w.published cfg db) := by
  refine ⟨⟨h.storeSound hholding, fun key => ?_⟩, .nil, fun _ hm => absurd hm List.not_mem_nil⟩
  obtain ⟨⟨hstore, hmeaning⟩, hstages⟩ := hholding
  obtain ⟨hsub, hnew, hkept⟩ := h.versions hstore.names
  have hmanifest : (w.published cfg db).db.manifest = w.db.manifest := h.frame.1
  have hold : ∀ v ∈ w.versions cfg, v.sequence ≤ w.db.nextTransactionSequence - 1 := fun v hv => by
    have hcheckpoint := hordered.checkpoint
    rcases hv with hv | ⟨r, hr, rfl⟩
    · have hrecorded := hstore.tables.recorded hv
      exact Nat.le_sub_one_of_lt (hrecorded.trans_lt hcheckpoint)
    · exact Nat.le_sub_one_of_lt (hordered.between.logged r hr).2
  have hkeep : (∀ m ∈ w.db.transaction.mutations, key ≠ ⟨namespaceName, m.key⟩) →
      Says (Denotes w.db.manifest w.dev.current) ((w.published cfg db).versions cfg) key (c key) :=
    fun hfree => (hmeaning key).keep (fun n hn => by
        obtain ⟨m, hm, rfl⟩ := hn
        exact (hfree m hm).symm) hsub fun v hv hkey => hkept v hv fun m hm => hkey ▸ hfree m hm
  rw [hmanifest]
  show Says (Denotes w.db.manifest w.dev.current) _ key _
  unfold overlay Staging.edits
  by_cases hname : key.namespaceName = namespaceName
  · rw [if_pos hname]
    rcases hstages.lookup key.key with ⟨m, hm, hkey, o, hlookup, hdenotes⟩ | ⟨hnone, hlookup⟩
    · have hversion : (⟨⟨namespaceName, m.key⟩, w.db.nextTransactionSequence, m.value⟩ :
          StoreVersion) ∈ newVersions namespaceName w.db.nextTransactionSequence
            w.db.transaction.mutations := ⟨m, hm, rfl⟩
      have hsame : (⟨namespaceName, m.key⟩ : CompositeKey) = key := by rw [hkey, ← hname]
      rw [hlookup]
      refine Says.override (.newest ⟨hversion, hsame, ?_⟩ hdenotes) ⟨_, hversion, hsame⟩ hold ?_ hsub
        hnew
      · rintro u ⟨m', -, rfl⟩ -
        exact le_rfl
      · rintro u ⟨m', -, rfl⟩
        have hcheckpoint := hordered.checkpoint
        have hpos : 0 < w.db.nextTransactionSequence := Nat.zero_lt_of_lt hcheckpoint
        exact Nat.sub_one_lt_of_lt hpos
    · rw [hlookup]
      exact hkeep fun m hm heq => hnone m hm (congrArg CompositeKey.key heq).symm
  · rw [if_neg hname]
    exact hkeep fun m _ heq => hname (congrArg CompositeKey.namespaceName heq)

end Publishes

/-! ## Commits -/

/-- What a map depends on: the manifest, the memtable and the caches in memory, and the media. -/
lemma Serves.of_eq (h : Serves cfg c w) (hdev : w'.dev.current = w.dev.current)
    (hmanifest : w'.db.manifest = w.db.manifest) (hmemtable : w'.db.memtable = w.db.memtable)
    (hnamespaces : w'.db.namespaces = w.db.namespaces)
    (hcache : w'.db.tableIndexCache = w.db.tableIndexCache)
    (hfilters : w'.db.tableKeyFilters = w.db.tableKeyFilters) : Serves cfg c w' := by
  have htables : tableVersions cfg w'.db w'.dev.current = tableVersions cfg w.db w.dev.current := by
    unfold tableVersions
    rw [hmanifest, hdev]
  have hversions : w'.versions cfg = w.versions cfg := by
    unfold World.versions memtableVersions
    rw [htables, hmemtable, hnamespaces]
  obtain ⟨⟨⟨htable, hunambiguous⟩, hnames, hsmall⟩, hmeaning⟩ := h
  refine ⟨⟨⟨fun slot reference hactive => ?_, by rw [htables]; exact hunambiguous⟩,
    by rw [hnamespaces]; exact hnames, by rw [hmemtable]; exact hsmall⟩, fun key => ?_⟩
  · rw [hmanifest] at hactive
    exact (htable slot reference hactive).keep (.of_eq (by rw [hdev]) (by rw [hdev])
      (by rw [hcache]) (by rw [hfilters])) (by rw [hmanifest]) (by rw [hmanifest])
        fun v hv => by rw [hmanifest]; exact hv
  · rw [hversions, hmanifest, hdev]
    exact hmeaning key

/-- A cleared transaction leaves nothing staged. -/
lemma Holding.cleared (h : Holding cfg c staging w) :
    Holding cfg c [] { w with db := clearTransactionUnsafe cfg w.db } :=
  ⟨h.serves.of_eq rfl rfl rfl rfl rfl rfl, .of_empty rfl⟩

/-- **A commit puts the staged mutations over the map**, or leaves the database holding what it
held. -/
theorem triple_commit_holding {w₀ : World} (hholding : Holding cfg c staging w₀)
    (hsteady : Steady cfg w₀) (hhealthy : w₀.db.storageFaulted = false) (raw : ℕ) :
    Triple (· = w₀) (commit cfg raw)
      (fun _ w => w₀.db.valueWriter.active = false ∧
        ∃ handle, getTransactionUnsafe cfg w₀.db raw = .ok handle ∧
          Holding cfg (overlay c handle.namespaceName staging.edits) [] w)
      (fun _ w => w = w₀ ∨ (w₀.db.valueWriter.active = false ∧ Holding cfg c staging w)) := by
  refine triple_committable (fun _ hw => hw ▸ hsteady.sound) (fun _ _ hw => .inl hw)
    fun db handle => .of_state fun w₁ hw₁ => ?_
  obtain ⟨⟨hcommittable, rfl⟩, rfl⟩ := hw₁
  refine .ite (fun hnone => Triple.modifyDb fun w hw => ?_) fun _ => ?_
  · have hstaging : staging = [] := by
      have hmeans := hholding.stages.means
      rw [hnone] at hmeans
      cases hmeans
      rfl
    refine ⟨hcommittable.idle, handle, hcommittable.transaction, ?_⟩
    rw [hstaging, show Staging.edits [] = fun _ => none from rfl, overlay_none, hw]
    exact hholding.cleared
  · rw [commitMutations_eq]
    have htended : Tended cfg c staging w₁ := ⟨hholding, hsteady, hhealthy, hcommittable.idle⟩
    refine .bind (((tends_prepareCommit handle.namespaceName c staging).both
      (triple_prepareCommit handle.namespaceName)).conseq (fun w hw => ?_) (fun _ _ hw => hw)
        fun _ _ hw => .inr ⟨hcommittable.idle, hw.1⟩) fun _ =>
        Triple.onError (F := fun _ _ => False) (fun w hw => ?_) fun _ _ hw => hw.elim
    · rw [hw]
      exact ⟨htended, hsteady.sound, hcommittable.idle⟩
    · obtain ⟨htended', hprepared⟩ := hw
      obtain ⟨index, namespaces, db, happlicable, happlied⟩ := hprepared.applicable
      rw [exec_publishTransaction happlicable]
      have hpublishes : Publishes cfg handle.namespaceName index namespaces w db :=
        ⟨hprepared, happlicable.registered, happlied⟩
      exact ⟨hcommittable.idle, handle, hcommittable.transaction,
        hpublishes.holding htended'.steady.ordered htended'.holding⟩

end On9kvdb
