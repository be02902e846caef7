import On9kvdb.Commit.Index

/-!
# What the preflight promises and the application needs

`Fits` is the promise: along the mutations of a transaction the arena and the index never overflow.
A preflight that accepts makes it for the memtable it saw (`preflightMutations_fits`), it also holds
for an empty memtable (`Fits.empty`), and where it holds the application succeeds
(`applyMutations_sound`).
-/

namespace On9kvdb

open ProbeTable

variable {cfg : Config}

/-! ## Applying one mutation -/

/-- The arena bytes that replacing a record frees. -/
def freedBytes (old : Option MemtableRecord) : ℕ := old.elim 0 MemtableRecord.recordSize

/-- The number of entries behind a mutation. -/
def entriesBehind (old : Option MemtableRecord) (entries : ℕ) : ℕ :=
  if old.isSome then entries else entries + 1

lemma Mutation.recordSize_pos (m : Mutation) : 0 < m.recordSize := by
  have := le_align8 (memtableRecordHeaderSize + m.key.length + m.value.inlineSize)
  simp only [Mutation.recordSize, memtableRecordHeaderSize] at *
  omega

/-- What an applied mutation leaves behind. -/
structure Applied (cfg : Config) (namespaceSlotIndex sequence : ℕ) (m : Mutation)
    (db db' : Db) : Prop where
  sound : MemtableSound cfg db'
  frame : db' = { db with memtable := db'.memtable, stats := db'.stats }
  data : db'.memtable.dataUsed =
    db.memtable.dataUsed - freedBytes (db.memtable.record? cfg namespaceSlotIndex m.key) +
      m.recordSize
  entries : db'.memtable.entryCount =
    entriesBehind (db.memtable.record? cfg namespaceSlotIndex m.key) db.memtable.entryCount
  record : ∀ slot key, db'.memtable.record? cfg slot key =
    if (slot, key) = (namespaceSlotIndex, m.key) then
      some (mutationRecord namespaceSlotIndex sequence m)
    else db.memtable.record? cfg slot key

/-- The record a search ends at is the one that is replaced. -/
lemma stored_applied {db : Db} (h : MemtableSound cfg db) {namespaceSlotIndex sequence : ℕ}
    {m : Mutation} {bucket : ℕ} {old : Option MemtableRecord} (hold : db.memtable.buckets bucket = old)
    (hsearch : (search (memtableLayout cfg) db.memtable.buckets
      (namespaceSlotIndex, m.key)).bucket? = some bucket)
    (hrecord : db.memtable.record? cfg namespaceSlotIndex m.key = old)
    (husable : memtableRecordUsable cfg db (mutationRecord namespaceSlotIndex sequence m) = true)
    (hroom : m.recordSize ≤ cfg.limits.memtableDataBytes -
      (db.memtable.dataUsed - freedBytes old)) (stats : Stats) :
    Applied cfg namespaceSlotIndex sequence m db
      (storeRecord db bucket old (mutationRecord namespaceSlotIndex sequence m) stats) := by
  obtain ⟨r, hr⟩ : ∃ r, r = mutationRecord namespaceSlotIndex sequence m := ⟨_, rfl⟩
  have hkey : (memtableLayout cfg).key r = (namespaceSlotIndex, m.key) := by rw [hr]; rfl
  have hsize : r.recordSize = m.recordSize := by rw [hr]; rfl
  have hpos := m.recordSize_pos
  have hsearch' : (search (memtableLayout cfg) db.memtable.buckets
      ((memtableLayout cfg).key r)).bucket? = some bucket := by rw [hkey, hsearch]
  have hindexed := h.indexed.store hsearch'
  have hbucket : bucket < (memtableLayout cfg).size :=
    hindexed.inRange bucket r (Function.update_self ..)
  have htotal : ∀ w, total (memtableLayout cfg) (Function.update db.memtable.buckets bucket (some r))
      w + old.elim 0 w = total (memtableLayout cfg) db.memtable.buckets w + w r := fun w => by
    rw [← hold]
    exact total_store hbucket r w
  have hchecked : ∀ b r', Function.update db.memtable.buckets bucket (some r) b = some r' →
      r' = r ∨ db.memtable.buckets b = some r' := fun b r' hb => by
    by_cases heq : b = bucket
    · rw [heq, Function.update_self] at hb
      exact Or.inl (Option.some.inj hb).symm
    · rw [Function.update_of_ne heq] at hb
      exact Or.inr hb
  have hdata := htotal MemtableRecord.recordSize
  have helim : old.elim 0 MemtableRecord.recordSize = freedBytes old := rfl
  rw [← h.data, hsize, helim] at hdata
  have hlookup : ∀ slot key, (storeRecord db bucket old r stats).memtable.record? cfg slot key =
      if (slot, key) = (namespaceSlotIndex, m.key) then
        some (mutationRecord namespaceSlotIndex sequence m)
      else db.memtable.record? cfg slot key := fun slot key => by
    rw [← hkey, ← hr]
    exact h.indexed.lookup_store hsearch' (slot, key)
  have hused : (storeRecord db bucket old r stats).memtable.dataUsed =
      db.memtable.dataUsed - freedBytes old + m.recordSize := by
    have hmap : (old.map MemtableRecord.recordSize).getD 0 = freedBytes old := by
      cases old <;> rfl
    rw [← hsize, ← hmap]
    rfl
  have hfreed : freedBytes old ≤ db.memtable.dataUsed := by
    have hle := h.indexed.sum_lookup_le MemtableRecord.recordSize
      (List.nodup_singleton (namespaceSlotIndex, m.key))
    have hfound : lookup (memtableLayout cfg) db.memtable.buckets (namespaceSlotIndex, m.key) =
      old := hrecord
    rw [List.map_singleton, List.sum_singleton, hfound, ← h.data] at hle
    exact hle
  have hstored : db.memtable.dataUsed - freedBytes old + m.recordSize =
      total (memtableLayout cfg) (Function.update db.memtable.buckets bucket (some r))
        MemtableRecord.recordSize := by omega
  have hbound := h.bounded
  rw [← hr] at husable ⊢
  refine ⟨⟨hindexed, fun b r' hb => ?_, fun b r' hb => ?_, ?_, ?_, ?_⟩, rfl, ?_, ?_, hlookup⟩
  · rcases hchecked b r' hb with rfl | hb'
    · rw [hr]
      rfl
    · exact h.hashed b r' hb'
  · rcases hchecked b r' hb with rfl | hb'
    · exact husable
    · exact h.usable b r' hb'
  · have hone := htotal fun _ => 1
    rw [← h.entries] at hone
    cases old with
    | none => exact hone.symm
    | some r' => exact (Nat.add_right_cancel hone).symm
  · exact hused.trans hstored
  · rw [hused]
    omega
  · rw [hused, hrecord]
  · rw [hrecord]
    cases old <;> rfl

/-- **A mutation with room is applied.** -/
theorem applyMutation_sound {db : Db} (h : MemtableSound cfg db) {namespaceSlotIndex : ℕ}
    (hslot : namespaceSlotIndex < cfg.limits.maxNamespaces)
    (hused : namespaceSlotIndex < db.namespaces.length) {m : Mutation}
    (hkey : validateBytes m.key = true) (hvalue : valueInActiveBank cfg db.manifest m.value = true)
    (sequence : ℕ)
    (hroom : m.recordSize ≤ cfg.limits.memtableDataBytes - (db.memtable.dataUsed -
      freedBytes (db.memtable.record? cfg namespaceSlotIndex m.key)))
    (hcount : db.memtable.record? cfg namespaceSlotIndex m.key = none →
      db.memtable.entryCount < cfg.memtableEntryCount) :
    ∃ db', applyMutation cfg db namespaceSlotIndex sequence m = .ok db' ∧
      Applied cfg namespaceSlotIndex sequence m db db' := by
  have husable : memtableRecordUsable cfg db (mutationRecord namespaceSlotIndex sequence m) =
      true := by
    unfold memtableRecordUsable
    simp only [mutationRecord, hkey, hvalue, hused, decide_true, Bool.and_self]
  unfold applyMutation
  rw [findMemtableBucketUnsafe_eq h hkey hslot, ok_bind]
  cases hsearch : search (memtableLayout cfg) db.memtable.buckets (namespaceSlotIndex, m.key) with
  | found bucket r =>
      obtain ⟨hb, -⟩ := h.indexed.search_eq_found_iff.mp hsearch
      have hrecord : db.memtable.record? cfg namespaceSlotIndex m.key = some r := by
        unfold Memtable.record? lookup
        rw [hsearch]
      rw [hrecord] at hroom
      exact ⟨_, rfl, stored_applied h hb (by rw [hsearch]; rfl) hrecord husable hroom _⟩
  | free bucket =>
      have hnone : db.memtable.buckets bucket = none := search_free hsearch
      have hrecord : db.memtable.record? cfg namespaceSlotIndex m.key = none := by
        unfold Memtable.record? lookup
        rw [hsearch]
      rw [hrecord] at hroom
      exact ⟨_, rfl, stored_applied h hnone (by rw [hsearch]; rfl) hrecord husable hroom _⟩
  | full =>
      have hrecord : db.memtable.record? cfg namespaceSlotIndex m.key = none := by
        unfold Memtable.record? lookup
        rw [hsearch]
      have hlt := hcount hrecord
      rw [h.entries] at hlt
      exact absurd hsearch (search_ne_full hlt _)

/-! ## What fits -/

/-- Along the mutations neither the arena nor the index overflows; `old` is the record of each key
in front of them. -/
def Fits (cfg : Config) (old : Bytes → Option MemtableRecord) :
    (bytes entries : ℕ) → List Mutation → Prop
  | _, entries, [] => entries ≤ cfg.memtableEntryCount
  | bytes, entries, m :: rest =>
      m.recordSize ≤ cfg.limits.memtableDataBytes - (bytes - freedBytes (old m.key)) ∧
        Fits cfg old (bytes - freedBytes (old m.key) + m.recordSize)
          (entriesBehind (old m.key) entries) rest

/-- What decides whether a mutation fits: its key and its inline bytes. -/
def Mutation.shape (m : Mutation) : Bytes × ℕ := (m.key, m.value.inlineSize)

lemma Mutation.recordSize_eq {m m' : Mutation} (h : m'.shape = m.shape) :
    m'.recordSize = m.recordSize := by
  simp only [Mutation.shape, Prod.mk.injEq] at h
  unfold Mutation.recordSize
  rw [h.1, h.2]

section Fits
variable {old old' : Bytes → Option MemtableRecord} {bytes entries : ℕ} {mutations : List Mutation}

lemma le_entriesBehind (r : Option MemtableRecord) (entries : ℕ) :
    entries ≤ entriesBehind r entries := by
  unfold entriesBehind
  split_ifs <;> omega

lemma Fits.entries_le (h : Fits cfg old bytes entries mutations) :
    entries ≤ cfg.memtableEntryCount := by
  induction mutations generalizing bytes entries with
  | nil => exact h
  | cons m rest ih => exact (le_entriesBehind _ _).trans (ih h.2)

/-- The front of what fits fits. -/
lemma Fits.front {rest : List Mutation} (h : Fits cfg old bytes entries (mutations ++ rest)) :
    Fits cfg old bytes entries mutations := by
  induction mutations generalizing bytes entries with
  | nil => exact Fits.entries_le h
  | cons m front ih => exact ⟨h.1, ih h.2⟩

/-- Only the records of the mutated keys and the shapes of the mutations matter. -/
lemma Fits.congr {mutations' : List Mutation} (h : Fits cfg old bytes entries mutations)
    (hshape : mutations'.map Mutation.shape = mutations.map Mutation.shape)
    (hold : ∀ m ∈ mutations, old' m.key = old m.key) :
    Fits cfg old' bytes entries mutations' := by
  induction mutations generalizing bytes entries mutations' with
  | nil =>
      rw [List.map_nil, List.map_eq_nil_iff] at hshape
      rw [hshape]
      exact h
  | cons m rest ih =>
      obtain ⟨m', rest', rfl, hm, hrest⟩ := List.map_eq_cons_iff.mp hshape
      have hkey : m'.key = m.key := congrArg Prod.fst hm
      have hrecord : old' m'.key = old m.key := by rw [hkey, hold m List.mem_cons_self]
      obtain ⟨hroom, hfits⟩ := h
      rw [← hrecord, ← Mutation.recordSize_eq hm] at hroom hfits
      exact ⟨hroom, ih hfits hrest fun n hn => hold n (List.mem_cons_of_mem _ hn)⟩

/-- The mutations that replace a record of the memtable. -/
def replacing (old : Bytes → Option MemtableRecord) (mutations : List Mutation) : ℕ :=
  (mutations.map fun m => (old m.key).elim 0 fun _ => 1).sum

/-- What fits behind other records fits without them. -/
lemma Fits.without {fewerBytes fewerEntries : ℕ} (h : Fits cfg old bytes entries mutations)
    (hbytes : fewerBytes + (mutations.map fun m => freedBytes (old m.key)).sum ≤ bytes)
    (hentries : fewerEntries + replacing old mutations ≤ entries) :
    Fits cfg (fun _ => none) fewerBytes fewerEntries mutations := by
  induction mutations generalizing bytes entries fewerBytes fewerEntries with
  | nil =>
      have : entries ≤ cfg.memtableEntryCount := h
      exact le_trans (by simpa [replacing] using hentries) this
  | cons m rest ih =>
      obtain ⟨hroom, hfits⟩ := h
      rw [List.map_cons, List.sum_cons] at hbytes
      unfold replacing at hentries
      rw [List.map_cons, List.sum_cons] at hentries
      have hnone : freedBytes none = 0 := rfl
      refine ⟨?_, ih hfits ?_ ?_⟩
      · rw [hnone]
        omega
      · rw [hnone]
        omega
      · unfold replacing entriesBehind
        cases hm : old m.key with
        | none =>
            rw [hm, Option.elim_none] at hentries
            simp only [Option.isSome_none, Bool.false_eq_true, if_false]
            omega
        | some r =>
            rw [hm, Option.elim_some] at hentries
            simp only [Option.isSome_none, Option.isSome_some, Bool.false_eq_true, if_false, if_true]
            omega

end Fits

/-- **What fits the memtable fits an empty one.** -/
theorem Fits.empty {db : Db} (h : MemtableSound cfg db) {namespaceSlotIndex : ℕ}
    {mutations : List Mutation} (hkeys : (mutations.map Mutation.key).Nodup)
    (hfits : Fits cfg (db.memtable.record? cfg namespaceSlotIndex) db.memtable.dataUsed
      db.memtable.entryCount mutations) :
    Fits cfg (fun _ => none) 0 0 mutations := by
  have hnodup : ((mutations.map Mutation.key).map fun k => (namespaceSlotIndex, k)).Nodup :=
    hkeys.map fun a b hab => (Prod.mk.inj hab).2
  have hsum : ∀ w : MemtableRecord → ℕ, (mutations.map fun m =>
      (db.memtable.record? cfg namespaceSlotIndex m.key).elim 0 w).sum ≤
        total (memtableLayout cfg) db.memtable.buckets w := fun w => by
    have hle := h.indexed.sum_lookup_le w hnodup
    rw [List.map_map, List.map_map] at hle
    exact hle
  refine hfits.without ?_ ?_
  · rw [Nat.zero_add, h.data]
    exact hsum MemtableRecord.recordSize
  · rw [Nat.zero_add, h.entries]
    exact hsum fun _ => 1

/-! ## Preflight -/

/-- What a mutation means: its key and its value. -/
def Mutation.content (m : Mutation) : Bytes × StoredValue := (m.key, m.value)

lemma shape_of_content {mutations mutations' : List Mutation}
    (h : mutations'.map Mutation.content = mutations.map Mutation.content) :
    mutations'.map Mutation.shape = mutations.map Mutation.shape := by
  have hshape : ∀ ms : List Mutation, ms.map Mutation.shape =
      (ms.map Mutation.content).map fun c => (c.1, c.2.inlineSize) := fun ms => by
    rw [List.map_map]
    rfl
  rw [hshape, hshape, h]

lemma findPrevious_record {db : Db} (h : MemtableSound cfg db) {m : Media}
    {namespaceIndex : ℕ} {namespaceName key : Bytes} (hkey : validateBytes key = true)
    (hslot : namespaceIndex < cfg.limits.maxNamespaces)
    {found : Option MemtableRecord × Option StoredValue}
    (hfound : findPrevious cfg db m namespaceIndex namespaceName key = .ok found) :
    found.1 = db.memtable.record? cfg namespaceIndex key := by
  unfold findPrevious at hfound
  rw [findMemtableBucketUnsafe_eq h hkey hslot, ok_bind] at hfound
  unfold Memtable.record? lookup
  cases hsearch : search (memtableLayout cfg) db.memtable.buckets (namespaceIndex, key) with
  | found b r =>
      rw [hsearch] at hfound
      cases hfound
      rfl
  | free b =>
      rw [hsearch] at hfound
      cases htables : lookupTablesUnsafe cfg db m ⟨namespaceName, key⟩ with
      | ok view =>
          rw [htables] at hfound
          cases hfound
          rfl
      | error e =>
          rw [htables] at hfound
          cases e <;> cases hfound
          rfl
  | full =>
      rw [hsearch] at hfound
      cases htables : lookupTablesUnsafe cfg db m ⟨namespaceName, key⟩ with
      | ok view =>
          rw [htables] at hfound
          cases hfound
          rfl
      | error e =>
          rw [htables] at hfound
          cases e <;> cases hfound
          rfl

/-- **A preflight that accepts has seen the mutations fit**, and passes them on as they are. -/
theorem preflightMutations_fits {db : Db} (h : MemtableSound cfg db) {m : Media}
    {namespaceIndex : ℕ} (hslot : namespaceIndex < cfg.limits.maxNamespaces)
    {namespaceName : Bytes} {t t' : PreflightTotals} {mutations mutations' : List Mutation}
    (hkeys : ∀ n ∈ mutations, validateBytes n.key = true)
    (hrun : preflightMutations cfg db m namespaceIndex namespaceName t mutations =
      .ok (t', mutations'))
    (hcount : t'.finalEntries ≤ cfg.memtableEntryCount) :
    Fits cfg (db.memtable.record? cfg namespaceIndex) t.finalBytes t.finalEntries mutations ∧
      mutations'.map Mutation.content = mutations.map Mutation.content := by
  induction mutations generalizing t mutations' with
  | nil =>
      cases hrun
      exact ⟨hcount, rfl⟩
  | cons n rest ih =>
      rw [preflightMutations, bind_eq_ok] at hrun
      obtain ⟨⟨t₁, n'⟩, hone, hrun⟩ := hrun
      rw [bind_eq_ok] at hrun
      obtain ⟨⟨t₂, rest'⟩, hrest, hrun⟩ := hrun
      cases hrun
      obtain ⟨hfits, hcontent⟩ := ih (fun k hk => hkeys k (List.mem_cons_of_mem _ hk)) hrest
      unfold preflightMutation at hone
      rw [bind_eq_ok] at hone
      obtain ⟨⟨record, previous⟩, hprevious, hone⟩ := hone
      have hrecord := findPrevious_record h (hkeys n List.mem_cons_self) hslot hprevious
      dsimp only at hone hrecord
      rw [bind_eq_ok] at hone
      obtain ⟨-, -, hone⟩ := hone
      rw [bind_eq_ok] at hone
      obtain ⟨_, hroom, hone⟩ := hone
      rw [bind_eq_ok] at hone
      obtain ⟨-, -, hone⟩ := hone
      cases hone
      have hmap : (record.map MemtableRecord.recordSize).getD 0 =
          freedBytes (db.memtable.record? cfg namespaceIndex n.key) := by
        rw [← hrecord]
        cases record <;> rfl
      rw [hmap] at hroom hfits
      rw [hrecord] at hfits
      have hroom' := not_lt.mp (rejectIf_eq_ok.mp hroom)
      refine ⟨⟨hroom', hfits⟩, ?_⟩
      rw [List.map_cons, List.map_cons, hcontent]
      rfl

/-! ## Applying a transaction -/

/-- The record of a key behind the mutations of a transaction. -/
def recordBehind (namespaceSlotIndex sequence : ℕ) (mutations : List Mutation)
    (old : ℕ → Bytes → Option MemtableRecord) (slot : ℕ) (key : Bytes) : Option MemtableRecord :=
  if slot = namespaceSlotIndex then
    match mutations.find? (fun m => m.key == key) with
    | some m => some (mutationRecord namespaceSlotIndex sequence m)
    | none => old slot key
  else old slot key

/-- What applied mutations leave behind. -/
structure AppliedAll (cfg : Config) (namespaceSlotIndex sequence : ℕ) (mutations : List Mutation)
    (db db' : Db) : Prop where
  sound : MemtableSound cfg db'
  frame : db' = { db with memtable := db'.memtable, stats := db'.stats }
  record : ∀ slot key, db'.memtable.record? cfg slot key =
    recordBehind namespaceSlotIndex sequence mutations (db.memtable.record? cfg) slot key

/-- **Mutations that fit are applied.** -/
theorem applyMutations_sound {db : Db} (h : MemtableSound cfg db) {namespaceSlotIndex : ℕ}
    (hslot : namespaceSlotIndex < cfg.limits.maxNamespaces)
    (hused : namespaceSlotIndex < db.namespaces.length) (sequence : ℕ) {mutations : List Mutation}
    (hnodup : (mutations.map Mutation.key).Nodup)
    (hkeys : ∀ m ∈ mutations, validateBytes m.key = true)
    (hvalues : ∀ m ∈ mutations, valueInActiveBank cfg db.manifest m.value = true)
    (hfits : Fits cfg (db.memtable.record? cfg namespaceSlotIndex) db.memtable.dataUsed
      db.memtable.entryCount mutations) :
    ∃ db', applyMutations cfg namespaceSlotIndex sequence db mutations = .ok db' ∧
      AppliedAll cfg namespaceSlotIndex sequence mutations db db' := by
  induction mutations generalizing db with
  | nil =>
      refine ⟨db, rfl, h, rfl, fun slot key => ?_⟩
      unfold recordBehind
      rw [List.find?_nil, ite_self]
  | cons m rest ih =>
      obtain ⟨hroom, hrest⟩ := hfits
      obtain ⟨db₁, hone, happlied⟩ := applyMutation_sound h hslot hused
        (hkeys m List.mem_cons_self) (hvalues m List.mem_cons_self) sequence hroom fun hnone => by
          have hle := hrest.entries_le
          rw [hnone] at hle
          exact hle
      obtain ⟨hsound, hframe, hdata, hentries, hrecord⟩ := happlied
      rw [List.map_cons, List.nodup_cons] at hnodup
      obtain ⟨hfresh, hnodup⟩ := hnodup
      have hother : ∀ n ∈ rest, db₁.memtable.record? cfg namespaceSlotIndex n.key =
          db.memtable.record? cfg namespaceSlotIndex n.key := fun n hn => by
        rw [hrecord, if_neg]
        intro heq
        exact hfresh ((Prod.mk.inj heq).2 ▸ List.mem_map_of_mem hn)
      rw [← hdata, ← hentries] at hrest
      have hmanifest : db₁.manifest = db.manifest := by rw [hframe]
      obtain ⟨db₂, hrun, hsound₂, hframe₂, hrecord₂⟩ := ih hsound
        (by rw [hframe]; exact hused) hnodup (fun n hn => hkeys n (List.mem_cons_of_mem _ hn))
        (fun n hn => by rw [hmanifest]; exact hvalues n (List.mem_cons_of_mem _ hn))
        (hrest.congr rfl hother)
      refine ⟨db₂, ?_, hsound₂, ?_, fun slot key => ?_⟩
      · rw [applyMutations, hone, ok_bind, hrun]
      · rw [hframe] at hframe₂
        exact hframe₂
      · rw [hrecord₂]
        unfold recordBehind
        rw [List.find?_cons]
        by_cases hs : slot = namespaceSlotIndex
        · subst hs
          rw [if_pos rfl, if_pos rfl]
          cases hk : m.key == key with
          | true =>
              have hkey : m.key = key := eq_of_beq hk
              have hnone : rest.find? (fun n => n.key == key) = none := by
                refine List.find?_eq_none.mpr fun n hn heq => hfresh ?_
                rw [hkey, ← eq_of_beq heq]
                exact List.mem_map_of_mem hn
              rw [hnone]
              dsimp only
              rw [hrecord, if_pos (by rw [hkey])]
          | false =>
              dsimp only
              cases rest.find? (fun n => n.key == key) with
              | some n => rfl
              | none =>
                  dsimp only
                  rw [hrecord, if_neg]
                  intro heq
                  rw [(Prod.mk.inj heq).2, beq_self_eq_true] at hk
                  cases hk
        · rw [if_neg hs, if_neg hs, hrecord, if_neg]
          intro heq
          exact hs (Prod.mk.inj heq).1

end On9kvdb
