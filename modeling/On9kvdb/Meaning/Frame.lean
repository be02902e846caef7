import On9kvdb.Meaning.Contents
import On9kvdb.Snapshot.Beside

/-!
# What leaves the contents alone

`Undisturbed w w'` says that nothing has happened to what a database holds: the memtable, the active
tables with their caches, the values in the active bank and the staged mutations are the same.  Most
methods are undisturbing; a flush, a compaction, a staging and a publication are not, and are
followed on their own.
-/

namespace On9kvdb

open Exceptional Versions

variable {cfg : Config} {α : Type} {w w' : World} {c : CompositeKey → Option Bytes}

/-! ## The relation -/

variable (cfg) in
/-- Lookups find their way in a table, and its filter keeps no key back. -/
def TableServes (w : World) (reference : TableReference) : Prop :=
  Searchable cfg w.db w.dev.current reference ∧
    FilterServes w.db reference (storedEntries cfg w.dev.current reference)

variable (cfg) in
/-- The entries in a table slot are the same, and found as before. -/
structure SameTable (slot : ℕ) (w w' : World) : Prop where
  blocks : w'.dev.current.tableBlock slot = w.dev.current.tableBlock slot
  served : ∀ reference, reference.slot = slot → TableServes cfg w reference → TableServes cfg w' reference

variable (cfg) in
/-- The memtable, the staged mutations, and the tables and values that `m` refers to have been left
alone. -/
structure Retained (m : ManifestRecord) (w w' : World) : Prop where
  memtable : w'.db.memtable = w.db.memtable
  namespaces : w'.db.namespaces = w.db.namespaces
  staged : w'.db.transaction.mutations.map Mutation.content =
    w.db.transaction.mutations.map Mutation.content
  active : ∀ slot, m.tables slot ≠ none → SameTable cfg slot w w'
  values : ∀ v, valueInActiveBank cfg m v = true →
    SameChunks v.ref? w.dev.current w'.dev.current

variable (cfg) in
/-- What the database holds and what is staged have been left alone. -/
structure Undisturbed (w w' : World) : Prop where
  tables : w'.db.manifest.tables = w.db.manifest.tables
  tableBank : w'.db.manifest.activeTableBank = w.db.manifest.activeTableBank
  checkpoint : w'.db.manifest.safeCheckpointSequence = w.db.manifest.safeCheckpointSequence
  database : SameDatabase w.db.manifest w'.db.manifest
  inBank : ∀ v, valueInActiveBank cfg w.db.manifest v = true →
    valueInActiveBank cfg w'.db.manifest v = true
  rest : Retained cfg w.db.manifest w w'

section
variable {m m' : ManifestRecord} {slot : ℕ} {w'' : World}

lemma SameTable.refl (w : World) : SameTable cfg slot w w := ⟨rfl, fun _ _ h => h⟩

lemma SameTable.trans (h₁ : SameTable cfg slot w w') (h₂ : SameTable cfg slot w' w'') :
    SameTable cfg slot w w'' :=
  ⟨h₂.blocks.trans h₁.blocks, fun r hr h => h₂.served r hr (h₁.served r hr h)⟩

instance : Std.Refl (Retained cfg m) := ⟨fun w => ⟨rfl, rfl, rfl, fun _ _ => .refl w,
  fun _ _ _ _ _ _ => rfl⟩⟩

instance : IsTrans World (Retained cfg m) := ⟨fun _ _ _ h₁ h₂ =>
  ⟨h₂.memtable.trans h₁.memtable, h₂.namespaces.trans h₁.namespaces, h₂.staged.trans h₁.staged,
    fun slot hslot => (h₁.active slot hslot).trans (h₂.active slot hslot),
    fun v hv r hr i hi => (h₂.values v hv r hr i hi).trans (h₁.values v hv r hr i hi)⟩⟩

/-- What one manifest refers to, another one may refer to as well. -/
lemma Retained.of_manifest (h : Retained cfg m' w w')
    (htables : ∀ slot, m.tables slot ≠ none → m'.tables slot ≠ none)
    (hvalues : ∀ v, valueInActiveBank cfg m v = true → valueInActiveBank cfg m' v = true) :
    Retained cfg m w w' :=
  ⟨h.memtable, h.namespaces, h.staged, fun slot hslot => h.active slot (htables slot hslot),
    fun v hv => h.values v (hvalues v hv)⟩

/-- An edit of the manifest in memory. -/
lemma Retained.of_edit {db : Db} (hdb : db = { w.db with manifest := db.manifest }) :
    Retained cfg m w { w with db := db } := by
  rw [hdb]
  exact ⟨rfl, rfl, rfl, fun _ _ => ⟨rfl, fun _ _ h => h⟩, fun _ _ _ _ _ _ => rfl⟩

instance : Std.Refl (Undisturbed cfg) := ⟨fun _ => ⟨rfl, rfl, rfl, .refl _, fun _ hv => hv,
  refl_of (Retained cfg _) _⟩⟩

instance : IsTrans World (Undisturbed cfg) := ⟨fun _ _ _ h₁ h₂ =>
  ⟨h₂.tables.trans h₁.tables, h₂.tableBank.trans h₁.tableBank, h₂.checkpoint.trans h₁.checkpoint,
    h₁.database.trans h₂.database, fun v hv => h₂.inBank v (h₁.inBank v hv),
    trans_of (Retained cfg _) h₁.rest
      (h₂.rest.of_manifest (fun slot hslot => by rwa [h₁.tables]) h₁.inBank)⟩⟩

end

/-- What has been retained under the same manifest has not been disturbed. -/
lemma Undisturbed.of_retained (h : Retained cfg w.db.manifest w w')
    (hmanifest : w'.db.manifest = w.db.manifest) : Undisturbed cfg w w' :=
  ⟨by rw [hmanifest], by rw [hmanifest], by rw [hmanifest], by rw [hmanifest]; exact .refl _,
    fun v hv => by rwa [hmanifest], h⟩

/-! ## What it keeps -/

section
variable {m m' : Media} {slot : ℕ} {reference : TableReference}

lemma storedEntries_congr (h : m'.tableBlock reference.slot = m.tableBlock reference.slot) :
    storedEntries cfg m' reference = storedEntries cfg m reference := by
  unfold storedEntries entriesFrom blockEntries
  rw [h]

lemma BlocksHeaded.congr (h : m'.tableBlock reference.slot = m.tableBlock reference.slot)
    {start : ℕ} {entries : List TableIndexEntry} (hm : BlocksHeaded cfg m reference start entries) :
    BlocksHeaded cfg m' reference start entries := by
  induction entries generalizing start with
  | nil => trivial
  | cons ix rest ih =>
      obtain ⟨hfirst, hrest⟩ := hm
      refine ⟨?_, ih hrest⟩
      rw [h]
      exact hfirst

lemma IndexedTable.congr {bits : ℕ → Bool} {index : TableIndex}
    (hm : IndexedTable cfg m reference bits index)
    (hindex : m'.tableIndex reference.slot = m.tableIndex reference.slot)
    (hblocks : m'.tableBlock reference.slot = m.tableBlock reference.slot) :
    IndexedTable cfg m' reference bits index := by
  have hentries : storedEntries cfg m' reference = storedEntries cfg m reference :=
    storedEntries_congr hblocks
  exact ⟨hindex.trans hm.stored, hm.generation, hm.count, hm.headed.congr hblocks,
    by rw [hentries]; exact hm.sorted, by rw [hentries]; exact hm.filter⟩

/-- Two references that are served from one index name the same entries. -/
lemma IndexedTable.storedEntries_eq {reference' : TableReference} {bits bits' : ℕ → Bool}
    {index index' : TableIndex} (hm : IndexedTable cfg m reference bits index)
    (hm' : IndexedTable cfg m reference' bits' index') (hslot : reference'.slot = reference.slot) :
    index' = index ∧ storedEntries cfg m reference' = storedEntries cfg m reference := by
  have hindex : index' = index := by
    have hsame := hm'.stored.symm.trans ((congrArg m.tableIndex hslot).trans hm.stored)
    cases hsame
    rfl
  refine ⟨hindex, ?_⟩
  unfold storedEntries
  rw [hslot, ← hm'.count, ← hm.count, hindex]

end

variable (cfg) in
/-- What a validation leaves of the caches of a table: nothing, or what is on the media. -/
structure Refreshed (reference : TableReference) (w : World) : Prop where
  cache : (w.db.tableIndexCache reference.slot).valid = true → ∃ bits index,
    IndexedTable cfg w.dev.current reference bits index ∧
      (w.db.tableIndexCache reference.slot).entries = index.firstKeys
  filter : (w.db.tableKeyFilters reference.slot).valid = true → ∃ bits index,
    IndexedTable cfg w.dev.current reference bits index ∧
      (w.db.tableKeyFilters reference.slot).bits = bits

section
variable {reference : TableReference} {slot : ℕ}

/-- Caches that have been refreshed serve the table as well. -/
lemma Refreshed.sameTable (h : Refreshed cfg reference w')
    (hdev : w'.dev.current = w.dev.current) : SameTable cfg reference.slot w w' := by
  refine ⟨by rw [hdev], fun reference' hslot hserved => ?_⟩
  obtain ⟨⟨bits, index, hindexed, -⟩, -⟩ := hserved
  rw [← hdev] at hindexed
  refine ⟨⟨bits, index, hindexed, fun hserves => ?_⟩, fun hvalid _ e he probe hprobe => ?_⟩
  · obtain ⟨-, hvalid, -⟩ := hserves
    rw [hslot] at hvalid ⊢
    obtain ⟨bits', index', hindexed', hentries⟩ := h.cache hvalid
    rw [hentries, (hindexed'.storedEntries_eq hindexed hslot).1]
  · rw [hslot] at hvalid ⊢
    obtain ⟨bits', index', hindexed', hbits⟩ := h.filter hvalid
    rw [(hindexed'.storedEntries_eq hindexed hslot).2] at he
    rw [hbits]
    exact hindexed'.filter e he probe hprobe

/-- A table whose slot nobody has touched. -/
lemma SameTable.of_eq (hindex : w'.dev.current.tableIndex slot = w.dev.current.tableIndex slot)
    (hblocks : w'.dev.current.tableBlock slot = w.dev.current.tableBlock slot)
    (hcache : w'.db.tableIndexCache slot = w.db.tableIndexCache slot)
    (hfilter : w'.db.tableKeyFilters slot = w.db.tableKeyFilters slot) :
    SameTable cfg slot w w' := by
  refine ⟨hblocks, ?_⟩
  rintro reference rfl ⟨⟨bits, index, hindexed, hserves⟩, hpass⟩
  refine ⟨⟨bits, index, hindexed.congr hindex hblocks, ?_⟩, ?_⟩
  · unfold cacheServes at hserves ⊢
    rw [hcache]
    exact hserves
  · unfold FilterServes at hpass ⊢
    rw [storedEntries_congr hblocks, hfilter]
    exact hpass

end

/-- Retained values still denote the same bytes. -/
lemma Retained.denotes {m manifest manifest' : ManifestRecord} (h : Retained cfg m w w')
    (hdatabase : SameDatabase manifest manifest') {v : StoredValue} {o : Option Bytes}
    (hv : valueInActiveBank cfg m v = true) (hdenotes : Denotes manifest w.dev.current v o) :
    Denotes manifest' w'.dev.current v o := by
  cases hdenotes with
  | tombstone => exact .tombstone
  | inline bytes => exact .inline bytes
  | external held => exact .external (held.congr hdatabase (h.values _ hv _ rfl))

lemma Retained.memtableVersions {m : ManifestRecord} (h : Retained cfg m w w') :
    memtableVersions cfg w'.db = memtableVersions cfg w.db := by
  unfold On9kvdb.memtableVersions
  rw [h.memtable, h.namespaces]

/-- A table stays sound in a state that names it as well. -/
lemma TableSound.keep {slot : ℕ} {reference : TableReference}
    (h : TableSound cfg w.db w.dev.current slot reference) (hsame : SameTable cfg slot w w')
    (hbank : w'.db.manifest.activeTableBank = w.db.manifest.activeTableBank)
    (hcheckpoint : w.db.manifest.safeCheckpointSequence ≤ w'.db.manifest.safeCheckpointSequence)
    (hvalues : ∀ v, valueInActiveBank cfg w.db.manifest v = true →
      valueInActiveBank cfg w'.db.manifest v = true) :
    TableSound cfg w'.db w'.dev.current slot reference := by
  have hentries : storedEntries cfg w'.dev.current reference =
      storedEntries cfg w.dev.current reference :=
    storedEntries_congr (by rw [h.own]; exact hsame.blocks)
  obtain ⟨hsearchable, hfilter⟩ := hsame.served reference h.own ⟨h.searchable, h.filter⟩
  refine ⟨h.own, ?_, hsearchable, hfilter, ?_, ?_, h.recorded.trans hcheckpoint, ?_, fun e he => ?_⟩
  · unfold inputStart
    rw [hbank]
    exact h.lies
  · rw [hentries]
    exact h.range
  · rw [hentries]
    exact h.sequences
  · rw [hentries]
    exact h.small
  · rw [hentries] at he
    exact hvalues _ (h.inBank e he)

lemma Undisturbed.tableVersions (h : Undisturbed cfg w w')
    (hsound : TablesSound cfg w.db w.dev.current) :
    tableVersions cfg w'.db w'.dev.current = tableVersions cfg w.db w.dev.current := by
  ext v
  unfold On9kvdb.tableVersions
  simp only [Set.mem_ofPred_eq, h.tables]
  refine exists_congr fun slot => exists_congr fun reference => and_congr_right fun htable => ?_
  have hslot : w.db.manifest.tables reference.slot ≠ none := by
    rw [(hsound.table slot reference htable).own, htable]
    exact Option.some_ne_none _
  rw [storedEntries_congr (h.rest.active _ hslot).blocks]

lemma Undisturbed.versions (h : Undisturbed cfg w w')
    (hsound : TablesSound cfg w.db w.dev.current) : w'.versions cfg = w.versions cfg := by
  unfold World.versions
  rw [h.tableVersions hsound, h.rest.memtableVersions]

lemma Undisturbed.tablesSound (h : Undisturbed cfg w w')
    (hsound : TablesSound cfg w.db w.dev.current) : TablesSound cfg w'.db w'.dev.current := by
  refine ⟨fun slot reference htable => ?_, by rw [h.tableVersions hsound]; exact hsound.unambiguous⟩
  rw [h.tables] at htable
  have hsame : SameTable cfg slot w w' := h.rest.active _ (by
    rw [htable]
    exact Option.some_ne_none _)
  exact (hsound.table slot reference htable).keep hsame h.tableBank h.checkpoint.ge h.inBank

/-- Every version is in the active bank. -/
lemma StoreSound.inBank (h : StoreSound cfg w) (hsound : Sound cfg w.db) {v : StoreVersion}
    (hv : v ∈ w.versions cfg) : valueInActiveBank cfg w.db.manifest v.value = true := by
  rcases hv with ⟨slot, reference, htable, e, he, rfl⟩ | ⟨r, hr, rfl⟩
  · exact (h.tables.table slot reference htable).inBank e he
  · exact (hsound.memtable.registered hr).2.2

/-- **An undisturbed database holds the same.** -/
theorem Serves.undisturbed (h : Serves cfg c w) (hsound : Sound cfg w.db)
    (hundisturbed : Undisturbed cfg w w') : Serves cfg c w' where
  store := ⟨hundisturbed.tablesSound h.store.tables,
    by rw [hundisturbed.rest.namespaces]; exact h.store.names,
    by rw [hundisturbed.rest.memtable]; exact h.store.small⟩
  meaning key := by
    rw [hundisturbed.versions h.store.tables]
    exact (h.meaning key).mono fun v hv _ =>
      hundisturbed.rest.denotes hundisturbed.database (h.store.inBank hsound hv)

/-! ## Staged mutations -/

/-- What is staged: keys with the bytes they will hold, or nothing for an erased key. -/
abbrev Staging := List (Bytes × Option Bytes)

variable (cfg) in
/-- The staged mutations mean this. -/
structure Stages (staging : Staging) (w : World) : Prop where
  means : List.Forall₂ (fun m s => m.1 = s.1 ∧ Denotes w.db.manifest w.dev.current m.2 s.2)
    (w.db.transaction.mutations.map Mutation.content) staging
  small : ∀ m ∈ w.db.transaction.mutations.map Mutation.content,
    m.2.inlineSize ≤ cfg.inlineValueLen

/-- Without mutations nothing is staged. -/
lemma Stages.of_empty (h : w.db.transaction.mutations = []) : Stages cfg [] w := by
  constructor
  · rw [h]
    exact .nil
  · rw [h]
    exact fun _ hm => absurd hm List.not_mem_nil

/-- Retained mutations mean the same. -/
lemma Stages.retained {staging : Staging} (h : Stages cfg staging w) (hsound : Sound cfg w.db)
    (hretained : Retained cfg w.db.manifest w w')
    (hdatabase : SameDatabase w.db.manifest w'.db.manifest) : Stages cfg staging w' := by
  refine ⟨?_, by rw [hretained.staged]; exact h.small⟩
  rw [hretained.staged]
  have hinBank : ∀ m ∈ w.db.transaction.mutations.map Mutation.content,
      valueInActiveBank cfg w.db.manifest m.2 = true := by
    rintro _ hm
    obtain ⟨m, hmem, rfl⟩ := List.mem_map.mp hm
    exact hsound.staged.inBank m hmem
  obtain ⟨hlength, hget⟩ := List.forall₂_iff_get.mp h.means
  refine List.forall₂_iff_get.mpr ⟨hlength, fun i h₁ h₂ => ?_⟩
  obtain ⟨hkey, hdenotes⟩ := hget i h₁ h₂
  exact ⟨hkey, hretained.denotes hdatabase (hinBank _ (List.get_mem _ _)) hdenotes⟩

/-- Mutations whose values have moved mean the same. -/
lemma Stages.of_moved {staging : Staging} (h : Stages cfg staging w)
    (hmoved : List.Forall₂ (fun m m' : Mutation => m'.key = m.key ∧
      m'.value.inlineSize = m.value.inlineSize ∧ ∀ o, Denotes w.db.manifest w.dev.current m.value o →
        Denotes w'.db.manifest w'.dev.current m'.value o)
      w.db.transaction.mutations w'.db.transaction.mutations) : Stages cfg staging w' := by
  obtain ⟨hmeans, hsmall⟩ := h
  refine ⟨?_, ?_⟩ <;> generalize w.db.transaction.mutations = ms at hmoved hmeans hsmall <;>
    generalize w'.db.transaction.mutations = ms' at hmoved ⊢
  · induction hmoved generalizing staging with
    | nil =>
        cases hmeans
        exact .nil
    | @cons m m' ms ms' hm _ ih =>
        cases hmeans with
        | cons hhead htail =>
            exact .cons ⟨hm.1.trans hhead.1, hm.2.2 _ hhead.2⟩ (ih htail fun n hn =>
              hsmall n (List.mem_cons_of_mem _ hn))
  · intro n hn
    obtain ⟨m', hm', rfl⟩ := List.mem_map.mp hn
    obtain ⟨i, hi, hget⟩ := List.getElem_of_mem hm'
    obtain ⟨hlength, hall⟩ := List.forall₂_iff_get.mp hmoved
    have hmoved' := hall i (by omega) hi
    rw [List.get_eq_getElem, List.get_eq_getElem, hget] at hmoved'
    show m'.value.inlineSize ≤ _
    rw [hmoved'.2.1]
    exact hsmall _ (List.mem_map_of_mem (List.getElem_mem _))

variable (cfg) in
/-- The database holds a map, and mutations are staged. -/
structure Holding (c : CompositeKey → Option Bytes) (staging : Staging) (w : World) : Prop where
  serves : Serves cfg c w
  stages : Stages cfg staging w

lemma Holding.undisturbed {staging : Staging} (h : Holding cfg c staging w) (hsound : Sound cfg w.db)
    (hundisturbed : Undisturbed cfg w w') : Holding cfg c staging w' :=
  ⟨h.serves.undisturbed hsound hundisturbed,
    h.stages.retained hsound hundisturbed.rest hundisturbed.database⟩

/-! ## Device steps -/

variable (cfg) in
/-- The write touches no active table and no value below the tail of the active bank. -/
def SparesContents (m : ManifestRecord) (write : Write) : Prop :=
  (∀ slot offset block, write = .tableBlock slot offset block → m.tables slot = none) ∧
  (∀ slot index, write = .tableIndex slot index → m.tables slot = none) ∧
  ∀ v, valueInActiveBank cfg m v = true → ClearOf v.ref? write

/-- The write is no part of a table and of no value. -/
def NoContents : Write → Prop
  | .tableBlock _ _ _ => False
  | .tableIndex _ _ => False
  | .valueChunk _ _ _ => False
  | _ => True

lemma NoContents.spares {write : Write} (h : NoContents write) (m : ManifestRecord) :
    SparesContents cfg m write := by
  cases write with
  | tableBlock => exact h.elim
  | tableIndex => exact h.elim
  | valueChunk => exact h.elim
  | _ => exact ⟨fun _ _ _ h => (by cases h), fun _ _ h => (by cases h), fun _ _ => trivial⟩

/-- An active table is the same in both images. -/
def SameSlot (slot : ℕ) (m m' : Media) : Prop :=
  m'.tableIndex slot = m.tableIndex slot ∧ m'.tableBlock slot = m.tableBlock slot

lemma SparesContents.sameSlot {m : ManifestRecord} {write : Write} (h : SparesContents cfg m write)
    {slot : ℕ} (hslot : m.tables slot ≠ none) (image : Media) :
    SameSlot slot image (write.apply image) ∧ SameSlot slot image (write.applyTorn image) := by
  obtain ⟨hblock, hindex, -⟩ := h
  cases write with
  | tableBlock s offset block =>
      have hne : slot ≠ s := by
        rintro rfl
        exact hslot (hblock _ _ _ rfl)
      exact ⟨⟨rfl, Function.update_of_ne hne _ _⟩, rfl, Function.update_of_ne hne _ _⟩
  | tableIndex s index =>
      have hne : slot ≠ s := by
        rintro rfl
        exact hslot (hindex _ _ rfl)
      exact ⟨⟨Function.update_of_ne hne _ _, rfl⟩, Function.update_of_ne hne _ _, rfl⟩
  | _ => exact ⟨⟨rfl, rfl⟩, rfl, rfl⟩

/-- **Sparing writes leave the active tables and the values in the bank alone.** -/
lemma Device.Steps.sparesContents {m : ManifestRecord} {d d' : Device}
    (h : d.Steps (SparesContents cfg m) d') :
    (∀ slot, m.tables slot ≠ none → SameSlot slot d.current d'.current) ∧
      ∀ v, valueInActiveBank cfg m v = true → SameChunks v.ref? d.current d'.current := by
  refine ⟨fun slot hslot => ?_, fun v hv => (h.mono fun write hwrite => hwrite.2.2 v hv).sameChunks⟩
  refine h.invariant (P := fun d' => SameSlot slot d.current d'.current) (fun _ _ hd => hd)
    (fun d' write hwrite hd => ?_) (fun d' hd => ?_) ⟨rfl, rfl⟩
  · obtain ⟨happly, htorn⟩ := hwrite.sameSlot hslot d'.current
    rcases d'.current_write write with hcurrent | hcurrent | hcurrent
    · rw [hcurrent]
      exact hd
    · rw [hcurrent]
      exact ⟨htorn.1.trans hd.1, htorn.2.trans hd.2⟩
    · rw [hcurrent]
      exact ⟨happly.1.trans hd.1, happly.2.trans hd.2⟩
  · rw [Device.current_sync]
    exact hd

/-! ## Undisturbing methods -/

/-- The members of an instance that its contents consist of. -/
structure ContentParts where
  tables : ℕ → Option TableReference
  tableBank : ℕ
  checkpoint : ℕ
  databaseId : ℕ
  geometry : StorageGeometry
  place : BankPlace
  memtable : Memtable
  namespaces : List Bytes
  staged : List (Bytes × StoredValue)
  cache : ℕ → TableIndexCacheSlot
  filters : ℕ → TableKeyFilterSlot

def Db.contentParts (db : Db) : ContentParts where
  tables := db.manifest.tables
  tableBank := db.manifest.activeTableBank
  checkpoint := db.manifest.safeCheckpointSequence
  databaseId := db.manifest.databaseId
  geometry := db.manifest.geometry
  place := db.manifest.bankPlace
  memtable := db.memtable
  namespaces := db.namespaces
  staged := db.transaction.mutations.map Mutation.content
  cache := db.tableIndexCache
  filters := db.tableKeyFilters

/-- The same members, and sparing writes. -/
lemma Undisturbed.of_parts (hparts : w'.db.contentParts = w.db.contentParts)
    (hdev : w.dev.Steps (SparesContents cfg w.db.manifest) w'.dev) : Undisturbed cfg w w' := by
  simp only [Db.contentParts, ContentParts.mk.injEq] at hparts
  obtain ⟨htables, htableBank, hcheckpoint, hdatabase, hgeometry, hplace, hmemtable, hnamespaces,
    hstaged, hcache, hfilters⟩ := hparts
  obtain ⟨hslots, hvalues⟩ := hdev.sparesContents
  refine ⟨htables, htableBank, hcheckpoint, ⟨hdatabase, hgeometry⟩, fun v hv => ?_, hmemtable,
    hnamespaces, hstaged, fun slot hslot => .of_eq (hslots slot hslot).1 (hslots slot hslot).2
      (congrFun hcache slot) (congrFun hfilters slot), hvalues⟩
  rw [valueInActiveBank_congr hplace]
  exact hv

lemma Undisturbed.tick (w : World) : Undisturbed cfg w { w with dev := w.dev.tick } :=
  .of_parts rfl (.clock _ .refl)

lemma undisturbed_modifyDb {f : Db → Db} (h : ∀ db, (f db).contentParts = db.contentParts) :
    Within (Undisturbed cfg) (modifyDb f) := Within.modifyDb fun w => .of_parts (h w.db) .refl

lemma undisturbed_writeStorage {write : Write} (h : NoContents write) :
    Within (Undisturbed cfg) (writeStorage write) := fun w => by
  rw [exec_writeStorage]
  exact .of_parts rfl (.write (h.spares _) .refl)

lemma undisturbed_syncStorage : Within (Undisturbed cfg) syncStorage := fun w => by
  rw [exec_syncStorage]
  exact .of_parts rfl (.sync .refl)

/-- The manifest has been published, or could not be: no contents have been written. -/
structure Announcing (w w' : World) : Prop where
  publishing : Publishing w w'
  dev : w.dev.Steps NoContents w'.dev

instance : Std.Refl Announcing := ⟨fun w => ⟨refl_of Publishing w, .refl⟩⟩

instance : IsTrans World Announcing := ⟨fun _ _ _ h₁ h₂ =>
  ⟨trans_of Publishing h₁.publishing h₂.publishing, h₁.dev.trans h₂.dev⟩⟩

lemma Announcing.undisturbed (h : Announcing w w') : Undisturbed cfg w w' :=
  .of_parts (by rw [h.publishing.db]; rfl) (h.dev.mono fun _ hwrite => hwrite.spares _)

/-- Whatever a manifest refers to has been left alone. -/
lemma Announcing.retained (h : Announcing w w') (m : ManifestRecord) : Retained cfg m w w' := by
  have hdb := h.publishing.db
  obtain ⟨hslots, hvalues⟩ := (h.dev.mono fun _ hwrite => hwrite.spares m).sparesContents
  exact ⟨by rw [hdb], by rw [hdb], by rw [hdb], fun slot hslot => .of_eq (hslots slot hslot).1
    (hslots slot hslot).2 (by rw [hdb]) (by rw [hdb]), hvalues⟩

lemma announcing_syncStorage : Within Announcing syncStorage := fun w => by
  rw [exec_syncStorage]
  exact ⟨⟨rfl⟩, .sync .refl⟩

lemma announcing_writeManifestCopy (generation : ℕ) (state : ManifestState) :
    Within Announcing (writeManifestCopy generation state) := by
  refine .of_triple fun w₀ => (triple_writeManifestCopy_outcome w₀ generation state).conseq
    (fun _ hw => hw) (fun _ w hw => ?_) fun _ w hw => ?_
  · obtain ⟨h, -, hsync, rfl⟩ := hw
    exact ⟨⟨rfl⟩, steps_of_published h (S := NoContents) trivial hsync⟩
  · rcases hw with ⟨rfl, -⟩ | ⟨h, hdb, hfailed⟩
    · exact refl_of Announcing w
    · exact ⟨⟨by rw [hdb]⟩, hfailed.steps (S := NoContents) trivial⟩

lemma undisturbed_writeManifestCopy (generation : ℕ) (state : ManifestState) :
    Within (Undisturbed cfg) (writeManifestCopy generation state) := fun w =>
  (announcing_writeManifestCopy generation state w).undisturbed

lemma undisturbed_stabilizeManifestUnsafe : Within (Undisturbed cfg) stabilizeManifestUnsafe := by
  unfold stabilizeManifestUnsafe
  exact .bind Within.getDb fun db => .ite (.bind Within.failIf fun _ =>
    .bind (undisturbed_writeManifestCopy _ _) fun _ => undisturbed_modifyDb fun _ => rfl) .pure

lemma undisturbed_ensureWalHeader (slot generation first : ℕ) :
    Within (Undisturbed cfg) (ensureWalHeader cfg slot generation first) := by
  unfold ensureWalHeader
  refine .bind Within.failIf fun _ => .bind Within.getDb fun db => ?_
  cases encodeWalHeader db.manifest.databaseId generation first slot cfg.geometry.walSize with
  | none => exact .throw
  | some header =>
      exact .bind (undisturbed_writeStorage trivial) fun _ =>
        .bind (undisturbed_writeStorage trivial) fun _ => undisturbed_syncStorage

lemma undisturbed_rotateWalUnsafe : Within (Undisturbed cfg) (rotateWalUnsafe cfg) := by
  unfold rotateWalUnsafe
  refine .bind Within.getDb fun db => .bind Within.failIf fun _ =>
    .bind undisturbed_stabilizeManifestUnsafe fun _ =>
    .bind (undisturbed_ensureWalHeader _ _ _) fun _ => ?_
  exact .bind (undisturbed_modifyDb fun _ => rfl) fun _ => .bind Within.getDb fun _ =>
    .bind (Within.onError (undisturbed_writeManifestCopy _ _)
      (undisturbed_modifyDb fun _ => rfl)) fun _ =>
    .bind (undisturbed_modifyDb fun _ => rfl) fun _ => undisturbed_stabilizeManifestUnsafe

lemma undisturbed_writeFrames (namespaceName : Bytes) (mutations : List Mutation) (slot tail : ℕ)
    (g : FrameGroup) (remaining frameIndex : ℕ) : Within (Undisturbed cfg)
      (writeFrames namespaceName mutations slot tail g remaining frameIndex) := by
  induction remaining generalizing frameIndex with
  | zero => exact .pure
  | succ remaining ih =>
      unfold writeFrames
      refine .bind Within.liftResult fun payload => ?_
      cases encodeWalFrame g frameIndex payload with
      | none => exact .throw
      | some frame => exact .bind (undisturbed_writeStorage trivial) fun _ => ih _

/-! ## Validations -/

variable (cfg) in
/-- A table has been validated, or found damaged: its caches are fresh, and nothing else has
happened. -/
structure Revalidated (reference : TableReference) (w w' : World) : Prop where
  caching : Caching w w'
  others : ∀ slot ≠ reference.slot,
    w'.db.tableIndexCache slot = w.db.tableIndexCache slot ∧
      w'.db.tableKeyFilters slot = w.db.tableKeyFilters slot
  own : Refreshed cfg reference w'

lemma Caching.current (h : Caching w w') : w'.dev.current = w.dev.current := by
  rw [h.dev]

lemma Caching.refresh (h : Caching w w') (cache : ℕ → TableIndexCacheSlot)
    (filters : ℕ → TableKeyFilterSlot) : Caching w { w' with
      db := { w'.db with tableIndexCache := cache, tableKeyFilters := filters } } := by
  have hstep : Caching w' { w' with
      db := { w'.db with tableIndexCache := cache, tableKeyFilters := filters } } := ⟨rfl, rfl⟩
  exact trans_of Caching h hstep

/-- **A validation leaves fresh caches**, whatever it finds. -/
lemma triple_validateTableUnsafe_refreshed (w₀ : World) (reference : TableReference)
    (bank : BankBounds) :
    Triple (· = w₀) (validateTableUnsafe cfg reference bank)
      (fun _ => Revalidated cfg reference w₀)
      (fun _ w => w = w₀ ∨ Revalidated cfg reference w₀ w) := by
  unfold validateTableUnsafe
  have hempty : ∀ {w : World}, (w.db.tableIndexCache reference.slot).valid = false →
      (w.db.tableKeyFilters reference.slot).valid = false → Refreshed cfg reference w :=
    fun hcache hfilter => ⟨fun h => Bool.noConfusion (hcache.symm.trans h),
      fun h => Bool.noConfusion (hfilter.symm.trans h)⟩
  refine .bind (Q := fun _ => (· = w₀)) (Triple.failIf (fun _ hw _ => hw) fun _ hw _ => .inl hw)
    fun _ => .bind (Q := fun _ w => Revalidated cfg reference w₀ w ∧
      (w.db.tableIndexCache reference.slot).valid = false) (Triple.modifyDb fun w hw => ?_)
    fun _ => .bind (Triple.check fun w hw => .inr hw.1) fun _ =>
    .pre (S := fun w => Revalidated cfg reference w₀ w ∧
      (w.db.tableIndexCache reference.slot).valid = false) ?_ fun w hw => hw.1
  · subst hw
    exact ⟨⟨⟨rfl, rfl⟩, fun slot hslot => ⟨Function.update_of_ne hslot _ _,
      Function.update_of_ne hslot _ _⟩, hempty (by simp) (by simp)⟩, by simp⟩
  have htick : ∀ w : World, Revalidated cfg reference w₀ w →
      Revalidated cfg reference w₀ { w with dev := w.dev.tick } := fun w hw =>
    ⟨trans_of Caching hw.caching (Caching.tick w), hw.others, hw.own.cache, hw.own.filter⟩
  refine .bind (Q := fun found w => (Revalidated cfg reference w₀ w ∧
      (w.db.tableIndexCache reference.slot).valid = false) ∧
      IndexedTable cfg w.dev.current reference found.1 found.2)
    (Triple.readStorage (fun w found hw hread => ?_) fun w _ hw => .inr (htick w hw.1)) fun found => ?_
  · have hindexed : IndexedTable cfg w.dev.current reference found.1 found.2 :=
      checkTable_indexed hread
    exact ⟨⟨htick w hw.1, hw.2⟩, hindexed⟩
  obtain ⟨bits, index⟩ := found
  refine .bind (Q := fun _ w => Revalidated cfg reference w₀ w ∧
      IndexedTable cfg w.dev.current reference bits index) (Triple.modifyDb fun w hw => ?_) fun _ =>
    .ite (fun _ => .bind (Triple.check fun w hw => .inr hw.1) fun _ =>
      Triple.modifyDb fun w hw => ?_) fun _ => .pure fun w hw => hw.1
  · obtain ⟨⟨hw, hcache⟩, hindexed⟩ := hw
    refine ⟨⟨hw.caching.refresh _ _, fun slot hslot => ⟨(hw.others slot hslot).1,
      (Function.update_of_ne hslot _ _).trans (hw.others slot hslot).2⟩, fun h => ?_, fun _ => ?_⟩,
      hindexed⟩
    · rw [hcache] at h
      cases h
    · exact ⟨bits, index, hindexed, by simp⟩
  · obtain ⟨⟨hw, hindexed⟩, -⟩ := hw
    refine ⟨hw.caching.refresh _ _, fun slot hslot =>
      ⟨(Function.update_of_ne hslot _ _).trans (hw.others slot hslot).1, (hw.others slot hslot).2⟩,
      fun _ => ?_, hw.own.filter⟩
    exact ⟨bits, index, hindexed, by simp⟩

lemma Revalidated.sameTable {reference : TableReference} (h : Revalidated cfg reference w w')
    (slot : ℕ) : SameTable cfg slot w w' := by
  have hdev := h.caching.current
  by_cases hslot : slot = reference.slot
  · rw [hslot]
    exact h.own.sameTable hdev
  · exact .of_eq (by rw [hdev]) (by rw [hdev]) (h.others slot hslot).1 (h.others slot hslot).2

lemma Revalidated.undisturbed {reference : TableReference} (h : Revalidated cfg reference w w') :
    Undisturbed cfg w w' := by
  have hdb := h.caching.db
  have hdev := h.caching.current
  refine ⟨by rw [hdb], by rw [hdb], by rw [hdb], by rw [hdb]; exact .refl _,
    fun v hv => by rw [hdb]; exact hv, by rw [hdb], by rw [hdb], by rw [hdb],
    fun slot _ => h.sameTable slot, fun v _ r _ i _ => by rw [hdev]⟩

lemma undisturbed_validateTableUnsafe (reference : TableReference) (bank : BankBounds) :
    Within (Undisturbed cfg) (validateTableUnsafe cfg reference bank) :=
  .of_triple fun w₀ => (triple_validateTableUnsafe_refreshed w₀ reference bank).conseq
    (fun _ hw => hw) (fun _ _ hw => hw.undisturbed) fun _ w hw => by
      rcases hw with rfl | hw
      · exact refl_of (Undisturbed cfg) w
      · exact hw.undisturbed

lemma undisturbed_validateTables (slots : List ℕ) :
    Within (Undisturbed cfg) (validateTables cfg slots) := by
  induction slots with
  | nil => exact .pure
  | cons slot rest ih =>
      unfold validateTables
      refine .bind Within.getDb fun db => ?_
      cases db.manifest.tables slot with
      | none => exact ih
      | some reference => exact .bind (undisturbed_validateTableUnsafe _ _) fun _ => ih

end On9kvdb
