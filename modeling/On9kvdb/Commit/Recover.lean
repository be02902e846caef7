import On9kvdb.Commit.Keep
import On9kvdb.Start.Lives

/-!
# A start establishes the invariant

Whatever the media hold, a start that succeeds leaves a sound instance: provisioning and loading
change the manifest only, the counting merge of the tables registers namespaces only, and every
transaction the log replays has passed the preflight of a commit.
-/

namespace On9kvdb

open Exceptional

variable {cfg : Config} {α : Type}

/-! ## Replay -/

/-- What the replay keeps between two transactions. -/
structure ReplaySound (cfg : Config) (db : Db) : Prop where
  memtable : MemtableSound cfg db
  registry : db.namespaces.length ≤ cfg.limits.maxNamespaces
  tail : db.manifest.bankPlace.tail ≤ cfg.geometry.valueBankSize

/-- The active bank behind recovered descriptors: its tail has grown, and covers them. -/
structure DescriptorsRecovered (cfg : Config) (m m' : ManifestRecord) (mutations : List Mutation) :
    Prop where
  place : m'.bankPlace = { m.bankPlace with tail := m'.bankPlace.tail }
  grows : m.bankPlace.tail ≤ m'.bankPlace.tail
  bound : m.bankPlace.tail ≤ cfg.geometry.valueBankSize →
    m'.bankPlace.tail ≤ cfg.geometry.valueBankSize
  inBank : m.bankPlace.tail ≤ cfg.geometry.valueBankSize →
    ∀ n ∈ mutations, valueInActiveBank cfg m' n.value = true

lemma recoverDescriptor_eq_ok {m m' : ManifestRecord} {r : ValueRef}
    (h : recoverDescriptor cfg m r = .ok m') :
    m'.bankPlace = { m.bankPlace with tail := max m.bankPlace.tail r.endOffset } ∧
      r.endOffset ≤ cfg.geometry.valueBankSize ∧
      valueRefMatchesBankUnsafe cfg r m.bankPlace.slot m.bankPlace.generation
        cfg.geometry.valueBankSize = true := by
  unfold recoverDescriptor at h
  split_ifs at h with hchecks
  cases h
  push Not at hchecks
  obtain ⟨hbank, hend, hmatches⟩ := hchecks
  refine ⟨?_, hend, ?_⟩
  · unfold ManifestRecord.bankPlace
    dsimp only
    rw [hbank, Function.update_self]
  · rw [hbank] at hmatches
    exact Bool.eq_true_of_not_eq_false hmatches

lemma recoverDescriptors_recovered {m m' : ManifestRecord} {mutations : List Mutation}
    (h : recoverDescriptors cfg m mutations = .ok m') :
    DescriptorsRecovered cfg m m' mutations := by
  induction mutations generalizing m with
  | nil =>
      cases h
      exact ⟨rfl, le_rfl, fun h => h, fun _ _ hn => absurd hn List.not_mem_nil⟩
  | cons n rest ih =>
      rw [recoverDescriptors] at h
      cases hr : n.value.ref? with
      | none =>
          rw [hr] at h
          obtain ⟨hplace, hgrows, hbound, hrest⟩ := ih h
          refine ⟨hplace, hgrows, hbound, fun htail k hk => ?_⟩
          rcases List.mem_cons.mp hk with rfl | hk
          · rw [valueInActiveBank_eq, hr]
            rfl
          · exact hrest htail k hk
      | some r =>
          rw [hr] at h
          dsimp only at h
          rw [bind_eq_ok] at h
          obtain ⟨middle, hm, h⟩ := h
          obtain ⟨hmiddle, hend, hmatches⟩ := recoverDescriptor_eq_ok hm
          obtain ⟨hplace, hgrows, hbound, hrest⟩ := ih h
          rw [hmiddle] at hplace hgrows hbound hrest
          refine ⟨hplace, (le_max_left _ _).trans hgrows, fun htail => hbound (max_le htail hend),
            fun htail k hk => ?_⟩
          rcases List.mem_cons.mp hk with rfl | hk
          · rw [valueInActiveBank_eq, hr, Option.all_some, hplace]
            exact valueRefMatchesBankUnsafe_mono ((le_max_right _ _).trans hgrows)
              (hbound (max_le htail hend)) hmatches
          · exact hrest (max_le htail hend) k hk

/-- The keys of parsed mutations are valid and different. -/
lemma parseMutations_keys {payload : Bytes} {count offset stagedValueBytes : ℕ}
    {previous mutations : List Mutation} {next : ℕ}
    (hvalid : ∀ m ∈ previous, validateBytes m.key = true)
    (hnodup : (previous.map Mutation.key).Nodup)
    (h : parseMutations cfg payload count offset stagedValueBytes previous = .ok (mutations, next)) :
    (∀ m ∈ mutations, validateBytes m.key = true) ∧ (mutations.map Mutation.key).Nodup := by
  induction count generalizing offset stagedValueBytes previous with
  | zero =>
      cases h
      exact ⟨hvalid, hnodup⟩
  | succ count ih =>
      rw [parseMutations, bind_eq_ok] at h
      obtain ⟨⟨m, offset', staged'⟩, hone, h⟩ := h
      have hkey : validateBytes m.key = true ∧ m.key ∉ previous.map Mutation.key := by
        unfold parseMutation at hone
        rw [bind_eq_ok] at hone
        obtain ⟨_, -, hone⟩ := hone
        dsimp only at hone
        rw [bind_eq_ok] at hone
        obtain ⟨_, -, hone⟩ := hone
        rw [bind_eq_ok] at hone
        obtain ⟨_, hsize, hone⟩ := hone
        rw [bind_eq_ok] at hone
        obtain ⟨_, hfresh, hone⟩ := hone
        rw [bind_eq_ok] at hone
        obtain ⟨_, -, hone⟩ := hone
        rw [bind_eq_ok] at hone
        obtain ⟨_, -, hone⟩ := hone
        rw [bind_eq_ok] at hone
        obtain ⟨_, -, hone⟩ := hone
        rw [bind_eq_ok] at hone
        obtain ⟨_, -, hone⟩ := hone
        cases hone
        have hsize' := rejectIf_eq_ok.mp hsize
        have hfresh' := rejectIf_eq_ok.mp hfresh
        push Not at hsize'
        refine ⟨?_, fun hmem => hfresh' ?_⟩
        · unfold validateBytes
          simp only [List.length_take, List.length_drop, Bool.and_eq_true, decide_eq_true_eq]
          omega
        · obtain ⟨n, hn, hnk⟩ := List.mem_map.mp hmem
          exact List.any_eq_true.mpr ⟨n, hn, by rw [hnk]; exact beq_self_eq_true _⟩
      refine ih (fun n hn => ?_) ?_ h
      · rcases List.mem_append.mp hn with hn | hn
        · exact hvalid n hn
        · rw [List.mem_singleton.mp hn]
          exact hkey.1
      · rw [List.map_append]
        refine List.nodup_append.mpr ⟨hnodup, List.nodup_singleton _, fun a ha b hb hab => ?_⟩
        rw [List.map_singleton, List.mem_singleton] at hb
        rw [hab, hb] at ha
        exact hkey.2 ha

lemma parseRecoveredTransactionUnsafe_keys {payload : Bytes} {count : ℕ} {namespaceName : Bytes}
    {mutations : List Mutation}
    (h : parseRecoveredTransactionUnsafe cfg payload count = .ok (namespaceName, mutations)) :
    (∀ m ∈ mutations, validateBytes m.key = true) ∧ (mutations.map Mutation.key).Nodup := by
  unfold parseRecoveredTransactionUnsafe at h
  rw [bind_eq_ok] at h
  obtain ⟨_, -, h⟩ := h
  dsimp only at h
  rw [bind_eq_ok] at h
  obtain ⟨_, -, h⟩ := h
  rw [bind_eq_ok] at h
  obtain ⟨⟨parsed, next⟩, hparse, h⟩ := h
  rw [bind_eq_ok] at h
  obtain ⟨_, -, h⟩ := h
  cases h
  exact parseMutations_keys (fun _ hm => absurd hm List.not_mem_nil) List.nodup_nil hparse

/-- **Replaying a transaction keeps the memory sound.** -/
theorem ReplaySound.replay {db db' : Db} (h : ReplaySound cfg db) {m : Media} {payload : Bytes}
    {mutationCount sequence : ℕ}
    (hrun : replayTransaction cfg db m payload mutationCount sequence = .ok db') :
    ReplaySound cfg db' := by
  unfold replayTransaction at hrun
  rw [bind_eq_ok] at hrun
  obtain ⟨⟨namespaceName, mutations⟩, hparse, hrun⟩ := hrun
  obtain ⟨hvalid, hnodup⟩ := parseRecoveredTransactionUnsafe_keys hparse
  dsimp only at hrun
  unfold replayMutations at hrun
  rw [bind_eq_ok] at hrun
  obtain ⟨manifest, hmanifest, hrun⟩ := hrun
  obtain ⟨hplace, hgrows, hbound, hinBank⟩ := recoverDescriptors_recovered hmanifest
  rw [bind_eq_ok] at hrun
  obtain ⟨staged, hpreflight, hrun⟩ := hrun
  rw [bind_eq_ok] at hrun
  obtain ⟨⟨index, namespaces⟩, hensure, hrun⟩ := hrun
  have hmemtable : MemtableSound cfg { db with manifest := manifest } :=
    h.memtable.congr rfl fun r hr => by
      unfold memtableRecordUsable at hr ⊢
      simp only [Bool.and_eq_true] at hr ⊢
      exact ⟨hr.1, valueInActiveBank_mono hplace hgrows (hbound h.tail) hr.2⟩
  unfold preflightMemtableTransactionUnsafe at hpreflight
  rw [bind_eq_ok] at hpreflight
  obtain ⟨_, -, hpreflight⟩ := hpreflight
  rw [bind_eq_ok] at hpreflight
  obtain ⟨⟨index', namespaces'⟩, hensure', hpreflight⟩ := hpreflight
  rw [bind_eq_ok] at hpreflight
  obtain ⟨⟨t, staged'⟩, hloop, hpreflight⟩ := hpreflight
  rw [bind_eq_ok] at hpreflight
  obtain ⟨_, hcount, hpreflight⟩ := hpreflight
  cases hpreflight
  dsimp only at hensure hensure'
  rw [hensure] at hensure'
  cases hensure'
  obtain ⟨hindex, hmax, hmore⟩ := ensureNamespaceCapacityUnsafe_eq_ok h.registry hensure
  obtain ⟨hfits, hcontent⟩ := preflightMutations_fits hmemtable (hindex.trans_le hmax) hvalid hloop
    (not_lt.mp (rejectIf_eq_ok.mp hcount))
  have hbase : StagedSound cfg manifest { mutations := mutations, active := true } :=
    ⟨hnodup, hvalid, hinBank h.tail, fun hidle => by cases hidle⟩
  have hstaged : StagedSound cfg manifest { mutations := staged, active := true } :=
    hbase.of_content hcontent
  have hregistered : MemtableSound cfg { db with manifest := manifest, namespaces := namespaces } :=
    hmemtable.congr rfl fun r hr => by
      unfold memtableRecordUsable at hr ⊢
      simp only [Bool.and_eq_true, decide_eq_true_eq] at hr ⊢
      exact ⟨⟨hr.1.1, hr.1.2.trans_le hmore⟩, hr.2⟩
  obtain ⟨applied, happly, hall⟩ := applyMutations_sound hregistered (hindex.trans_le hmax) hindex
    sequence hstaged.keys hstaged.valid hstaged.inBank
      (hfits.congr (shape_of_content hcontent) fun _ _ => rfl)
  unfold applyTransactionToMemtableUnsafe at hrun
  dsimp only at hrun
  rw [happly, ok_bind] at hrun
  cases hrun
  have hframe := hall.frame
  refine ⟨hall.sound.of_place rfl rfl rfl, ?_, ?_⟩
  · show applied.namespaces.length ≤ _
    rw [hframe]
    exact hmax
  · show applied.manifest.bankPlace.tail ≤ _
    rw [hframe]
    exact hbound h.tail

/-- **The replay of the log keeps the memory sound.** -/
theorem scanInvariant_replaySound (m : Media) : ScanInvariant cfg m (ReplaySound cfg) where
  bookkept h hkept := by
    unfold Bookkept at hkept
    rw [hkept]
    exact ⟨h.memtable.of_place rfl rfl rfl, h.registry, h.tail⟩
  replay h hrun := h.replay hrun

/-! ## The manifest of a start -/

/-- The instance has not changed. -/
def SameDb (w w' : World) : Prop := w'.db = w.db

instance : Std.Refl SameDb := ⟨fun _ => rfl⟩

instance : IsTrans World SameDb := ⟨fun _ _ _ h₁ h₂ => h₂.trans h₁⟩

lemma sameDb_readStorage {decode : Db → Media → Except EspErr α} :
    Within SameDb (readStorage decode) := Within.readStorage fun _ => rfl

lemma sameDb_writeStorage (write : Write) : Within SameDb (writeStorage write) := fun w => by
  rw [exec_writeStorage]
  rfl

lemma sameDb_syncStorage : Within SameDb syncStorage := fun w => by
  rw [exec_syncStorage]
  rfl

lemma sameDb_ensureWalHeader (slot generation first : ℕ) :
    Within SameDb (ensureWalHeader cfg slot generation first) := by
  unfold ensureWalHeader
  refine .bind Within.failIf fun _ => .bind Within.getDb fun db => ?_
  cases encodeWalHeader db.manifest.databaseId generation first slot cfg.geometry.walSize with
  | none => exact .throw
  | some header =>
      exact .bind (sameDb_writeStorage _) fun _ => .bind (sameDb_writeStorage _) fun _ =>
        sameDb_syncStorage

lemma sameDb_writeUnlessValid (valid : Bool) (kind : FileKind) (slot copySlot : ℕ) :
    Within SameDb (writeUnlessValid valid kind slot copySlot) := by
  unfold writeUnlessValid writeFileIdentityCopy
  refine .ite (.bind Within.failIf fun _ => .bind Within.getDb fun db => ?_) .pure
  cases encodeFileIdentity 1 db.manifest.databaseId (db.manifest.geometry.dataFileSize kind)
      slot with
  | none => exact .throw
  | some identity => exact sameDb_writeStorage _

lemma sameDb_provisionOneDataFile (kind : FileKind) (slot : ℕ) :
    Within SameDb (provisionOneDataFile kind slot) := by
  unfold provisionOneDataFile writeTableMarkers writeMissingIdentities
  refine .bind sameDb_readStorage fun valid => .bind Within.getDb fun db => .ite ?_ Within.failIf
  refine .bind (.ite ?_ .pure) fun _ => .bind (sameDb_writeUnlessValid _ _ _ _) fun _ =>
    .bind (sameDb_writeUnlessValid _ _ _ _) fun _ => .bind sameDb_syncStorage fun _ =>
    .bind sameDb_readStorage fun _ => .bind Within.failIf fun _ => Within.failIf
  exact .bind (sameDb_writeStorage _) fun _ => .bind (sameDb_writeStorage _) fun _ =>
    .bind (sameDb_writeStorage _) fun _ => sameDb_syncStorage

lemma sameDb_provisionDataFiles (kind : FileKind) (slots : List ℕ) :
    Within SameDb (provisionDataFiles kind slots) := by
  induction slots with
  | nil => exact .pure
  | cons slot rest ih => exact .bind (sameDb_provisionOneDataFile kind slot) fun _ => ih

/-- Before the log is read a start changes the manifest and two flags. -/
def Starting (w w' : World) : Prop :=
  w'.db = { w.db with
    manifest := w'.db.manifest
    manifestStabilizationRequired := w'.db.manifestStabilizationRequired
    storageFaulted := w'.db.storageFaulted }

instance : Std.Refl Starting := ⟨fun _ => rfl⟩

instance : IsTrans World Starting := ⟨fun _ _ _ h₁ h₂ => by
  unfold Starting at h₁ h₂ ⊢
  rw [h₂, h₁]⟩

lemma Starting.of_sameDb {w w' : World} (h : SameDb w w') : Starting w w' := by
  unfold Starting
  rw [show w'.db = w.db from h]

lemma starting_of_sameDb {x : DbM α} (h : Within SameDb x) : Within Starting x :=
  fun w => .of_sameDb (h w)

lemma starting_writeManifestCopy (generation : ℕ) (state : ManifestState) :
    Within Starting (writeManifestCopy generation state) := fun w => by
  unfold Starting
  rw [(within_writeManifestCopy generation state w).db]

lemma starting_stabilizeManifestUnsafe : Within Starting stabilizeManifestUnsafe := fun w => by
  unfold Starting
  rw [(within_stabilizeManifestUnsafe w).db]

lemma starting_setupManifest : Within Starting (setupManifest cfg) := by
  unfold setupManifest createManifest randomDatabaseId openExistingManifest
  refine .bind (starting_of_sameDb sameDb_readStorage) fun blank => .ite ?_ ?_
  · exact .bind (fun w => rfl) fun _ => .bind (Within.modifyDb fun _ => rfl) fun _ =>
      .bind (starting_writeManifestCopy _ _) fun _ => starting_writeManifestCopy _ _
  · exact .bind (starting_of_sameDb sameDb_readStorage) fun loaded =>
      .bind (Within.modifyDb fun _ => rfl) fun _ => .bind Within.failIf fun _ =>
      .ite (.bind Within.failIf fun _ => starting_writeManifestCopy _ _) .pure

lemma starting_initialiseStorage : Within Starting (initialiseStorage cfg) := by
  have hfiles : ∀ kind slots, Within Starting (provisionDataFiles kind slots) := fun kind slots =>
    starting_of_sameDb (sameDb_provisionDataFiles kind slots)
  unfold initialiseStorage provisionAllDataFiles publishProvisioned initialiseFirstWal
  refine .bind starting_setupManifest fun _ => .bind Within.getDb fun db => .bind (hfiles _ _)
    fun _ => .bind (hfiles _ _) fun _ => .bind (hfiles _ _) fun _ => .ite ?_ .pure
  exact .bind Within.getDb fun _ => .bind Within.failIf fun _ =>
    .bind (starting_of_sameDb (sameDb_ensureWalHeader _ _ _)) fun _ =>
    .bind (Within.modifyDb fun _ => rfl) fun _ => .bind (starting_writeManifestCopy _ _) fun _ =>
    .bind (Within.modifyDb fun _ => rfl) fun _ => starting_stabilizeManifestUnsafe

/-- A manifest that has been stored: it is of this build, and once it is ready the active bank
ends within its region. -/
structure StoredSound (cfg : Config) (m : ManifestRecord) : Prop where
  geometry : m.geometry = cfg.geometry
  tail : m.state = .ready → m.bankPlace.tail ≤ cfg.geometry.valueBankSize

lemma readyValid_of_encodable {m : ManifestRecord} (h : m.encodable = true)
    (hready : m.state = .ready) : m.readyValid = true := by
  unfold ManifestRecord.encodable at h
  rw [hready, Bool.and_eq_true] at h
  exact h.2

lemma storedSound_of_readyValid {m : ManifestRecord} (hgeometry : m.geometry = cfg.geometry)
    (h : m.state = .ready → m.readyValid = true) : StoredSound cfg m := by
  refine ⟨hgeometry, fun hready => ?_⟩
  have hvalid := h hready
  unfold ManifestRecord.readyValid ManifestRecord.valueBankValid at hvalid
  simp only [Bool.and_eq_true, decide_eq_true_eq] at hvalid
  obtain ⟨⟨⟨-, hbank⟩, hbank₀⟩, hbank₁⟩ := hvalid
  rw [← hgeometry]
  show m.valueBankTail m.activeValueBank ≤ m.geometry.valueBankSize
  obtain hzero | hone : m.activeValueBank = 0 ∨ m.activeValueBank = 1 := by
    unfold valueBankCount at hbank
    omega
  · rw [hzero]
    exact hbank₀.1.2
  · rw [hone]
    exact hbank₁.1.2

lemma triple_writeManifestCopy_stored (generation : ℕ) (state : ManifestState) :
    Triple (fun w => w.db.manifest.geometry = cfg.geometry) (writeManifestCopy generation state)
      (fun _ w => StoredSound cfg w.db.manifest) (fun _ _ => True) := by
  refine .of_state fun w₀ hw₀ => (triple_writeManifestCopy_outcome w₀ generation state).conseq
    (fun _ hw => hw) (fun _ w hw => ?_) fun _ _ _ => trivial
  obtain ⟨h, -, -, rfl⟩ := hw
  refine storedSound_of_readyValid hw₀ fun hready => ?_
  have hvalid := readyValid_of_encodable (publishable_eq_true h).2 hready
  exact hvalid

lemma triple_stored_of_sameDb {x : DbM α} (h : Within SameDb x) :
    Triple (fun w => StoredSound cfg w.db.manifest) x (fun _ w => StoredSound cfg w.db.manifest)
      (fun _ _ => True) :=
  h.triple (fun w w' _ hw hsame => by rw [show w'.db = w.db from hsame]; exact hw)
    fun _ _ _ _ _ => trivial

lemma triple_setupManifest_stored :
    Triple (fun _ => True) (setupManifest cfg) (fun _ w => StoredSound cfg w.db.manifest)
      (fun _ _ => True) := by
  unfold setupManifest createManifest openExistingManifest
  refine .bind (Q := fun _ _ => True) (Triple.readStorage (fun _ _ _ _ => trivial)
    fun _ _ _ => trivial) fun blank => .ite (fun _ => ?_) fun _ => ?_
  · refine .bind (Q := fun _ _ => True) (fun _ _ => trivial) fun databaseId =>
      .bind (Q := fun _ w => w.db.manifest.geometry = cfg.geometry)
        (Triple.modifyDb fun _ _ => rfl) fun _ => .bind (triple_writeManifestCopy_stored _ _)
        fun _ => (triple_writeManifestCopy_stored _ _).pre fun _ hw => hw.geometry
  · refine .bind (Q := fun loaded _ => loaded.1.1.encodable = true)
      (Triple.readStorage (fun w loaded _ hread => ?_) fun _ _ _ => trivial) fun loaded => ?_
    · cases hload : loadManifest w.dev.current with
      | error e =>
          rw [hload] at hread
          cases hread
      | ok selected =>
          rw [hload] at hread
          cases hread
          obtain ⟨slot, copy, -, hcopy⟩ := loadManifest_eq_ok hload
          rw [← hcopy]
          exact copy.valid
    · refine .bind (Q := fun _ w => w.db.manifest = loaded.1.1 ∧ loaded.1.1.encodable = true)
        (Triple.modifyDb fun _ hw => ⟨rfl, hw⟩) fun _ => .bind (Triple.check fun _ _ => trivial)
        fun _ => .pre (S := fun w => StoredSound cfg w.db.manifest) ?_ fun w hw => ?_
      · refine .ite (fun _ => .bind (Q := fun _ w => StoredSound cfg w.db.manifest)
          (Triple.failIf (fun _ hw _ => hw) fun _ _ _ => trivial) fun _ =>
            (triple_writeManifestCopy_stored _ _).pre fun _ hw => hw.geometry)
          fun _ => .pure fun _ hw => hw
      · obtain ⟨⟨hmanifest, hencodable⟩, hbuild⟩ := hw
        push Not at hbuild
        rw [hmanifest]
        exact storedSound_of_readyValid hbuild.1 (readyValid_of_encodable hencodable)

lemma triple_stabilizeManifestUnsafe_stored :
    Triple (fun w => StoredSound cfg w.db.manifest) stabilizeManifestUnsafe
      (fun _ w => StoredSound cfg w.db.manifest) (fun _ _ => True) := by
  unfold stabilizeManifestUnsafe
  refine .bind Triple.fetch fun db => .ite (fun _ => ?_) fun _ => .pure fun _ hw => hw.1
  exact .bind (Q := fun _ w => StoredSound cfg w.db.manifest)
    (Triple.failIf (fun _ hw _ => hw.1) fun _ _ _ => trivial) fun _ =>
    .bind ((triple_writeManifestCopy_stored _ _).pre fun _ hw => hw.geometry) fun _ =>
    Triple.modifyDb fun _ hw => hw

lemma triple_publishProvisioned_stored :
    Triple (fun w => StoredSound cfg w.db.manifest) (publishProvisioned cfg)
      (fun _ w => StoredSound cfg w.db.manifest) (fun _ _ => True) := by
  unfold publishProvisioned initialiseFirstWal
  refine .bind Triple.fetch fun db => .bind (Q := fun _ w => StoredSound cfg w.db.manifest)
    (Triple.failIf (fun _ hw _ => hw.1) fun _ _ _ => trivial) fun _ =>
    .bind (triple_stored_of_sameDb (sameDb_ensureWalHeader _ _ _)) fun _ => ?_
  exact .bind (Q := fun _ w => w.db.manifest.geometry = cfg.geometry)
    (Triple.modifyDb fun _ hw => hw.geometry) fun _ =>
    .bind (triple_writeManifestCopy_stored _ _) fun _ =>
    .bind (Q := fun _ w => StoredSound cfg w.db.manifest) (Triple.modifyDb fun _ hw => hw) fun _ =>
    triple_stabilizeManifestUnsafe_stored

/-- **The manifest behind provisioning or loading** is a stored one of this build. -/
lemma triple_initialiseStorage_stored :
    Triple (fun _ => True) (initialiseStorage cfg) (fun _ w => StoredSound cfg w.db.manifest)
      (fun _ _ => True) := by
  have hfiles : ∀ kind slots, Triple (fun w => StoredSound cfg w.db.manifest)
      (provisionDataFiles kind slots) (fun _ w => StoredSound cfg w.db.manifest)
      (fun _ _ => True) := fun kind slots =>
    triple_stored_of_sameDb (sameDb_provisionDataFiles kind slots)
  unfold initialiseStorage provisionAllDataFiles
  exact .bind triple_setupManifest_stored fun _ => .bind Triple.fetch fun db =>
    .bind ((hfiles _ _).pre fun _ hw => hw.1) fun _ => .bind (hfiles _ _) fun _ =>
    .bind (hfiles _ _) fun _ => .ite (fun _ => triple_publishProvisioned_stored) fun _ =>
    .pure fun _ hw => hw

/-! ## Counting the tables -/

/-- The registry stays within its capacity. -/
def Registering (cfg : Config) (w w' : World) : Prop :=
  w.db.namespaces.length ≤ cfg.limits.maxNamespaces →
    w'.db.namespaces.length ≤ cfg.limits.maxNamespaces

instance : Std.Refl (Registering cfg) := ⟨fun _ h => h⟩

instance : IsTrans World (Registering cfg) := ⟨fun _ _ _ h₁ h₂ h => h₂ (h₁ h)⟩

lemma Registering.of_caching {w w' : World} (h : Caching w w') : Registering cfg w w' := by
  unfold Registering
  rw [h.db]
  exact id

lemma registering_countTables (fuel : ℕ) (cursors : List CompactionCursor) :
    Within (Registering cfg) (countTables cfg fuel cursors) := by
  induction fuel generalizing cursors with
  | zero => exact Within.failIf
  | succ fuel ih =>
      unfold countTables
      refine .ite ?_ .pure
      cases smallestKey [] [] cursors with
      | none => exact .throw
      | some key =>
          refine .bind Within.failIf fun _ => .bind Within.liftResult fun winner => ?_
          cases winner with
          | none => exact .throw
          | some winner =>
              intro w hw
              rw [exec_bind, exec_getDb]
              dsimp only
              rw [exec_bind, exec_liftResult]
              cases hcount : countWinner cfg w.db key winner with
              | error e => exact hw
              | ok db =>
                  dsimp only
                  rw [exec_bind, exec_modifyDb]
                  dsimp only
                  unfold countWinner at hcount
                  rw [bind_eq_ok] at hcount
                  obtain ⟨⟨index, namespaces⟩, hensure, hcount⟩ := hcount
                  rw [bind_eq_ok] at hcount
                  obtain ⟨_, -, hcount⟩ := hcount
                  cases hcount
                  have hadvance : Within (Registering cfg) (advanceCursors cfg key cursors) :=
                    fun w => .of_caching (.of_reading (within_advanceCursors key cursors w))
                  exact Within.bind hadvance (fun _ => ih _) _
                    (ensureNamespaceCapacityUnsafe_eq_ok hw hensure).2.1

lemma registering_recoverTableReferences (slots : List ℕ) :
    Within (Registering cfg) (recoverTableReferences cfg slots) := by
  induction slots with
  | nil => exact .pure
  | cons slot rest ih =>
      unfold recoverTableReferences
      refine .bind Within.getDb fun db => ?_
      cases db.manifest.tables slot with
      | none => exact ih
      | some reference =>
          exact .bind (fun w => .of_caching (within_validateTableUnsafe _ _ w)) fun _ =>
            .bind (Within.readStorage fun _ h => h) fun _ => .bind (Within.modifyDb fun _ h => h)
            fun _ => ih

lemma registering_recoverTablesUnsafe : Within (Registering cfg) (recoverTablesUnsafe cfg) := by
  unfold recoverTablesUnsafe
  exact .bind (Within.modifyDb fun _ h => h) fun _ =>
    .bind (registering_recoverTableReferences _) fun _ => .bind Within.getDb fun _ =>
    .bind Within.failIf fun _ =>
    .bind (fun w => .of_caching (.of_reading (within_loadCursors _ w))) fun _ =>
    .bind Within.failIf fun _ => registering_countTables _ _

/-! ## The start -/

/-- What the parts of a start leave of a new object until the log is read. -/
structure Unread (cfg : Config) (db : Db) : Prop where
  stored : StoredSound cfg db.manifest
  transaction : db.transaction = {}
  writer : db.valueWriter = {}

/-- Stages of a start: the transaction and the writer are those of a new object. -/
lemma Sound.of_replay {db : Db} (h : ReplaySound cfg db) (htransaction : db.transaction = {})
    (hwriter : db.valueWriter = {}) : Sound cfg db := by
  refine ⟨h.memtable, h.registry, ?_, fun hactive => ?_⟩
  · rw [htransaction]
    exact ⟨List.nodup_nil, fun _ hm => absurd hm List.not_mem_nil,
      fun _ hm => absurd hm List.not_mem_nil, fun _ => rfl⟩
  · rw [hwriter] at hactive
    cases hactive

lemma triple_recoverWal_sound :
    Triple (fun w => Unread cfg w.db) (recoverWal cfg) (fun _ w => Sound cfg w.db)
      (fun _ _ => True) := by
  unfold recoverWal
  refine .bind Triple.fetch fun db => .bind (Triple.check fun _ _ => trivial) fun _ =>
    .bind (Q := fun _ w => ReplaySound cfg w.db ∧ w.db.memtable = .empty ∧
      w.db.transaction = {} ∧ w.db.valueWriter = {}) (Triple.modifyDb fun w hw => ?_) fun _ => ?_
  · obtain ⟨⟨hfresh, rfl⟩, hstate⟩ := hw
    push Not at hstate
    exact ⟨⟨memtableSound_empty rfl, Nat.zero_le _, hfresh.stored.tail hstate.1⟩, rfl,
      hfresh.transaction, hfresh.writer⟩
  refine .bind (Q := fun _ w => ReplaySound cfg w.db ∧ w.db.transaction = {} ∧
      w.db.valueWriter = {}) (.of_state fun w₀ hw₀ => .of_exec fun s hs => ?_) fun _ =>
    .bind (Q := fun db _ => Sound cfg db) (Triple.readStorage (fun w db hw hread => ?_)
      fun _ _ _ => trivial) fun db =>
    .bind (Q := fun _ w => Sound cfg w.db) (Triple.modifyDb fun _ hw => hw) fun _ =>
      sameParts_stabilizeManifestUnsafe.triple (fun w w' _ (hw : Sound cfg w.db) h => hw.of_parts h)
        fun _ _ _ _ _ => trivial
  · refine ⟨fun _ w hrun => ?_, fun _ _ _ => trivial⟩
    obtain rfl := hs
    obtain ⟨hreplay, hempty, htransaction, hwriter⟩ := hw₀
    have hframe := @within_recoverTablesUnsafe cfg s
    have hregistry := @registering_recoverTablesUnsafe cfg s hreplay.registry
    rw [hrun] at hframe hregistry
    have hmemtable : w.db.memtable = .empty := by rw [hframe.db]; exact hempty
    have hplace : w.db.manifest.bankPlace = s.db.manifest.bankPlace :=
      show w.db.manifest.withoutKeyRanges.bankPlace = s.db.manifest.withoutKeyRanges.bankPlace from
        congrArg ManifestRecord.bankPlace hframe.manifest
    refine ⟨⟨memtableSound_empty hmemtable, hregistry, ?_⟩, ?_, ?_⟩
    · rw [hplace]
      exact hreplay.tail
    · rw [hframe.db]
      exact htransaction
    · rw [hframe.db]
      exact hwriter
  · obtain ⟨hreplay, htransaction, hwriter⟩ := hw
    have hframe := (replayWal_replayed hread).frame
    refine .of_replay ((scanInvariant_replaySound w.dev.current).replayWal hreplay hread) ?_ ?_
    · rw [hframe]
      exact htransaction
    · rw [hframe]
      exact hwriter

/-- **A successful start leaves a sound instance**, whatever the media hold. -/
theorem triple_init_sound {w₀ : World} (h : ∃ a b, w₀.db = Db.closed a b) :
    Triple (· = w₀) (init cfg) (fun _ w => Sound cfg w.db) (fun _ _ => True) := by
  unfold init closeStorageUnsafe
  refine .bind Triple.fetch fun db => .bind (Q := fun _ w => w = w₀)
    (Triple.failIf (fun _ hw _ => hw.1) fun _ _ _ => trivial) fun _ =>
    .bind (Q := fun _ w => Sound cfg w.db)
      (Triple.onError (F := fun _ _ => True)
        (.bind (Q := fun _ w => Unread cfg w.db) (.of_exec fun s hs => ?_) fun _ =>
          triple_recoverWal_sound)
        fun _ => Triple.modifyDb fun _ _ => trivial)
      fun _ => Triple.modifyDb fun _ hw => hw.of_parts rfl
  refine ⟨fun _ w hrun => ?_, fun _ _ _ => trivial⟩
  subst hs
  obtain ⟨a, b, hclosed⟩ := h
  have hframe : Starting s w := by
    have hstarting := @starting_initialiseStorage cfg s
    rwa [hrun] at hstarting
  have hstored := triple_initialiseStorage_stored.ok trivial hrun
  unfold Starting at hframe
  refine ⟨hstored, ?_, ?_⟩
  · rw [hframe, hclosed]
    rfl
  · rw [hframe, hclosed]
    rfl

/-- **Every open instance is sound.** -/
theorem openInvariant_sound : OpenInvariant cfg fun w => Sound cfg w.db where
  opened _ := triple_init_sound
  call _ w hlifecycle := keeping_perform hlifecycle w

end On9kvdb
