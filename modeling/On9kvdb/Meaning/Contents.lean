import Mathlib.Data.List.GetD
import On9kvdb.Meaning.Tables
import On9kvdb.Steady.Order

/-!
# What a database holds

The versions of a database are the records of its memtable and the entries of its active tables.
A stored value denotes bytes, its own ones or those of its chunks, or nothing when it is a
tombstone, and the newest version of a key tells what the key holds: `Serves c w` is this relation
between a map `c` and a state `w`.

`lookup_committed_unsafe` finds the newest version (`StoreSound.lookup`), so that a state that serves
`c` answers with `c`.
-/

namespace On9kvdb

open Versions

variable {cfg : Config} {w w' : World} {key : CompositeKey}

/-! ## Values -/

/-- The bytes a stored value stands for; none for a tombstone. -/
inductive Denotes (manifest : ManifestRecord) (m : Media) : StoredValue → Option Bytes → Prop
  | tombstone : Denotes manifest m .tombstone none
  | inline (bytes : Bytes) : Denotes manifest m (.inline bytes) (some bytes)
  | external {r : ValueRef} {bytes : Bytes} (h : Holds manifest m r bytes) :
      Denotes manifest m (.external r) (some bytes)

lemma Denotes.unique {manifest : ManifestRecord} {m : Media} {v : StoredValue} {o o' : Option Bytes}
    (h : Denotes manifest m v o) (h' : Denotes manifest m v o') : o = o' := by
  cases h with
  | tombstone =>
      cases h'
      rfl
  | inline bytes =>
      cases h'
      rfl
  | external h =>
      cases h' with
      | external h' =>
          have hsame := h.chunks.symm.trans h'.chunks
          cases hsame
          rfl

/-! ## Versions -/

variable (cfg) in
/-- The versions in the memtable. -/
def memtableVersions (db : Db) : Set StoreVersion :=
  {v | ∃ r, db.memtable.Has cfg r ∧
    v = ⟨recordKey db.namespaces r, r.transactionSequence, r.value⟩}

variable (cfg) in
/-- The versions of a database. -/
def World.versions (w : World) : Set StoreVersion :=
  tableVersions cfg w.db w.dev.current ∪ memtableVersions cfg w.db

variable (cfg) in
/-- What a state must keep so that lookups find the newest versions. -/
structure StoreSound (w : World) : Prop where
  tables : TablesSound cfg w.db w.dev.current
  names : w.db.namespaces.Nodup
  small : SmallRecords cfg w.db.memtable

variable (cfg) in
/-- The database holds this map. -/
structure Serves (c : CompositeKey → Option Bytes) (w : World) : Prop where
  store : StoreSound cfg w
  meaning : ∀ key, Says (Denotes w.db.manifest w.dev.current) (w.versions cfg) key (c key)

/-! ## The memtable -/

/-- The records of a sound memtable, by slot and key. -/
lemma MemtableSound.has_iff {db : Db} (h : MemtableSound cfg db) {r : MemtableRecord} :
    db.memtable.Has cfg r ↔ db.memtable.record? cfg r.namespaceSlotIndex r.key = some r := by
  unfold Memtable.record? Memtable.Has
  rw [h.indexed.lookup_eq_some_iff]
  constructor
  · rintro ⟨b, -, hb⟩
    exact ⟨b, hb, rfl⟩
  · rintro ⟨b, hb, -⟩
    exact ⟨b, h.indexed.inRange b r hb, hb⟩

/-- A record of a sound memtable belongs to a registered namespace. -/
lemma MemtableSound.registered {db : Db} (h : MemtableSound cfg db) {r : MemtableRecord}
    (hr : db.memtable.Has cfg r) : r.namespaceSlotIndex < db.namespaces.length ∧
      validateBytes r.key = true ∧ valueInActiveBank cfg db.manifest r.value = true := by
  obtain ⟨b, -, hb⟩ := hr
  have husable := h.usable b r hb
  unfold memtableRecordUsable at husable
  simp only [Bool.and_eq_true, decide_eq_true_eq] at husable
  exact ⟨husable.1.2, husable.1.1, husable.2⟩

/-- The memtable holds a key once. -/
lemma MemtableSound.has_unique {db : Db} (h : MemtableSound cfg db) (hnames : db.namespaces.Nodup)
    {r r' : MemtableRecord} (hr : db.memtable.Has cfg r) (hr' : db.memtable.Has cfg r')
    (hkey : recordKey db.namespaces r = recordKey db.namespaces r') : r = r' := by
  obtain ⟨hlt, -⟩ := h.registered hr
  obtain ⟨hlt', -⟩ := h.registered hr'
  unfold recordKey at hkey
  obtain ⟨hname, hkey⟩ := CompositeKey.mk.inj hkey
  rw [List.getD_eq_getElem _ _ hlt, List.getD_eq_getElem _ _ hlt'] at hname
  have hslot := (List.Nodup.getElem_inj_iff hnames).mp hname
  have hrecord := h.has_iff.mp hr
  rw [hslot, hkey, h.has_iff.mp hr'] at hrecord
  exact (Option.some.inj hrecord).symm

/-- The slot a namespace is found in. -/
lemma findNamespaceUnsafe_spec {namespaces : List Bytes} {name : Bytes}
    (hvalid : validateBytes name = true) :
    (∃ index, findNamespaceUnsafe namespaces name = .ok index ∧ namespaces[index]? = some name) ∨
      (name ∉ namespaces ∧ findNamespaceUnsafe namespaces name = .error .notFound) := by
  unfold findNamespaceUnsafe
  rw [if_neg (by rw [hvalid]; decide)]
  cases hfind : namespaces.findIdx? (· == name) with
  | none =>
      refine .inr ⟨fun hmem => ?_, rfl⟩
      have hnone := List.findIdx?_eq_none_iff.mp hfind name hmem
      simp at hnone
  | some index =>
      obtain ⟨hlt, hequal, -⟩ := List.findIdx?_eq_some_iff_getElem.mp hfind
      refine .inl ⟨index, rfl, ?_⟩
      rw [List.getElem?_eq_getElem hlt, eq_of_beq hequal]

/-- **A lookup in the memtable** finds the record of the key, or there is none. -/
lemma lookupMemtableUnsafe_spec {db : Db} (h : Sound cfg db) (hnames : db.namespaces.Nodup)
    (hvalid : key.valid = true) :
    (∃ r, db.memtable.Has cfg r ∧ recordKey db.namespaces r = key ∧
      lookupMemtableUnsafe cfg db key = .ok ⟨r.transactionSequence, r.value⟩) ∨
    ((∀ r, db.memtable.Has cfg r → recordKey db.namespaces r ≠ key) ∧
      lookupMemtableUnsafe cfg db key = .error .notFound) := by
  unfold CompositeKey.valid at hvalid
  rw [Bool.and_eq_true] at hvalid
  obtain ⟨hname, hkey⟩ := hvalid
  have hsound := h.memtable
  unfold lookupMemtableUnsafe
  rcases @findNamespaceUnsafe_spec db.namespaces _ hname with
    ⟨index, hfound, hindex⟩ | ⟨habsent, hfound⟩
  · obtain ⟨hlt, hget⟩ := List.getElem?_eq_some_iff.mp hindex
    have hmax : index < cfg.limits.maxNamespaces := lt_of_lt_of_le hlt h.registry
    rw [hfound, ok_bind, rejectIf_of_not (by rw [hkey]; decide), ok_bind,
      findMemtableBucketUnsafe_eq hsound hkey hmax, ok_bind]
    have hnone : (∀ b a, db.memtable.buckets b = some a →
        (memtableLayout cfg).key a ≠ (index, key.key)) →
        ∀ r, db.memtable.Has cfg r → recordKey db.namespaces r ≠ key := by
      rintro hall r hr rfl
      obtain ⟨hslot, -⟩ := hsound.registered hr
      obtain ⟨b, -, hb⟩ := hr
      refine hall b r hb (Prod.ext ?_ rfl)
      have hsame : db.namespaces[r.namespaceSlotIndex] = db.namespaces[index] := by
        rw [hget]
        exact (List.getD_eq_getElem _ _ hslot).symm
      exact (List.Nodup.getElem_inj_iff hnames).mp hsame
    cases hsearch : ProbeTable.search (memtableLayout cfg) db.memtable.buckets (index, key.key) with
    | found b r =>
        obtain ⟨hb, hlayout⟩ := hsound.indexed.search_eq_found_iff.mp hsearch
        obtain ⟨hslot, hname'⟩ := Prod.mk.inj hlayout
        refine .inl ⟨r, ⟨b, hsound.indexed.inRange b r hb, hb⟩, ?_, rfl⟩
        unfold recordKey
        rw [hslot, hname', List.getD_eq_getElem _ _ hlt, hget]
    | free b => exact .inr ⟨hnone (hsound.indexed.absent_of_free hsearch), rfl⟩
    | full =>
        refine .inr ⟨hnone fun b a hb hlayout => ?_, rfl⟩
        rw [hsound.indexed.search_eq_found_iff.mpr ⟨hb, hlayout⟩] at hsearch
        cases hsearch
  · rw [hfound]
    refine .inr ⟨?_, rfl⟩
    rintro r hr rfl
    obtain ⟨hslot, -⟩ := hsound.registered hr
    refine habsent ?_
    unfold recordKey
    rw [List.getD_eq_getElem _ _ hslot]
    exact List.getElem_mem _

/-! ## Lookups -/

/-- Every entry of a table has been recorded at the checkpoint. -/
lemma TablesSound.recorded {db : Db} {m : Media} (h : TablesSound cfg db m) {v : StoreVersion}
    (hv : v ∈ tableVersions cfg db m) : v.sequence ≤ db.manifest.safeCheckpointSequence := by
  obtain ⟨slot, reference, htable, e, he, rfl⟩ := hv
  have hsound := h.table slot reference htable
  exact (hsound.sequences e he).trans hsound.recorded

/-- Every record of the memtable is newer than the checkpoint. -/
lemma Ordered.newer {db : Db} (h : Ordered cfg db.stored) {v : StoreVersion}
    (hv : v ∈ memtableVersions cfg db) : db.manifest.safeCheckpointSequence < v.sequence := by
  obtain ⟨r, hr, rfl⟩ := hv
  exact (h.between.logged r hr).1

/-- The versions of a key are told apart by their sequences. -/
lemma StoreSound.unambiguous (h : StoreSound cfg w) (hsound : Sound cfg w.db)
    (hordered : Ordered cfg w.db.stored) : Unambiguous (w.versions cfg) := by
  refine h.tables.unambiguous.union ?_ (fun _ => h.tables.recorded) fun _ => hordered.newer
  rintro u ⟨r, hr, rfl⟩ v ⟨r', hr', rfl⟩ hkey -
  rw [hsound.memtable.has_unique h.names hr hr' hkey]

/-- **A lookup finds the newest version of the key**, in the memtable or in a table, or there is
none. -/
theorem StoreSound.lookup (h : StoreSound cfg w) (hsound : Sound cfg w.db)
    (hordered : Ordered cfg w.db.stored) (hvalid : key.valid = true) :
    (∃ v, Newest (w.versions cfg) key v ∧
      lookupCommittedUnsafe cfg w.db w.dev.current key = .ok ⟨v.sequence, v.value⟩) ∨
    ((∀ v ∈ w.versions cfg, v.key ≠ key) ∧
      lookupCommittedUnsafe cfg w.db w.dev.current key = .error .notFound) := by
  unfold lookupCommittedUnsafe
  rcases lookupMemtableUnsafe_spec hsound h.names hvalid with ⟨r, hr, hkey, hlookup⟩ |
    ⟨habsent, hlookup⟩
  · refine .inl ⟨⟨recordKey w.db.namespaces r, r.transactionSequence, r.value⟩, ?_, ?_⟩
    · refine Newest.of_newer ⟨⟨r, hr, rfl⟩, hkey, ?_⟩ (fun _ => h.tables.recorded)
        fun _ => hordered.newer
      rintro u ⟨r', hr', rfl⟩ hkey'
      rw [hsound.memtable.has_unique h.names hr' hr (hkey'.trans hkey.symm)]
    · rw [hlookup]
  · have hnone : ∀ v ∈ memtableVersions cfg w.db, v.key ≠ key := by
      rintro v ⟨r, hr, rfl⟩
      exact habsent r hr
    rw [hlookup]
    dsimp only
    rcases lookupTablesUnsafe_newest h.tables hordered.bank hvalid with ⟨v, hnewest, htables⟩ |
      ⟨habsent', htables⟩
    · exact .inl ⟨v, hnewest.of_older hnone, htables⟩
    · refine .inr ⟨?_, htables⟩
      rintro v (hv | hv)
      · exact habsent' v hv
      · exact hnone v hv

/-- **A lookup answers what the key holds**, and only a key that holds nothing is missing. -/
theorem Serves.lookup {c : CompositeKey → Option Bytes} (h : Serves cfg c w)
    (hsound : Sound cfg w.db) (hordered : Ordered cfg w.db.stored)
    (hkey : validateBytes key.key = true) :
    (∀ view, lookupCommittedUnsafe cfg w.db w.dev.current key = .ok view →
      Denotes w.db.manifest w.dev.current view.value (c key)) ∧
    (lookupCommittedUnsafe cfg w.db w.dev.current key = .error .notFound → c key = none) := by
  cases hname : validateBytes key.namespaceName with
  | false =>
      have hinvalid : lookupCommittedUnsafe cfg w.db w.dev.current key = .error .invalidArg := by
        unfold lookupCommittedUnsafe lookupMemtableUnsafe findNamespaceUnsafe
        rw [if_pos hname]
        rfl
      rw [hinvalid]
      exact ⟨fun _ hview => (by cases hview), fun hmissing => (by cases hmissing)⟩
  | true =>
      have hvalid : key.valid = true := by
        unfold CompositeKey.valid
        rw [hname, hkey]
        rfl
      have hmeaning := h.meaning key
      generalize c key = o at hmeaning ⊢
      rcases h.store.lookup hsound hordered hvalid with ⟨v, hnewest, hlookup⟩ | ⟨habsent, hlookup⟩
      · rw [hlookup]
        refine ⟨fun view hview => ?_, fun hmissing => (by cases hmissing)⟩
        cases hview
        cases hmeaning with
        | absent habsent => exact absurd hnewest.key (habsent _ hnewest.mem)
        | newest hnewest' hmeans =>
            rwa [hnewest.unique (h.store.unambiguous hsound hordered) hnewest']
      · rw [hlookup]
        refine ⟨fun _ hview => (by cases hview), fun _ => ?_⟩
        cases hmeaning with
        | absent => rfl
        | newest hnewest => exact absurd hnewest.key (habsent _ hnewest.mem)

end On9kvdb
