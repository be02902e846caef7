import On9kvdb.Accept.Recovery
import On9kvdb.Start.Crashes

/-!
# The tables behind a successful start

Which tables a start serves is decided by the range it finds: a blank range and a copy in the
provisioning state have none, a ready copy has those it names (`tablesFound`).  The start writes
nothing that belongs to a table, so each of them is recovered (`SlotRecovered`) when it succeeds.
-/

namespace On9kvdb

open Exceptional

variable {cfg : Config} {α : Type}

/-! ## The tables of a range -/

/-- The tables a start finds. -/
def tablesFound (m : Media) : ℕ → Option TableReference :=
  if m.blank.isSome then fun _ => none
  else match loadManifest m with
    | .ok (manifest, _) => manifest.tables
    | .error _ => fun _ => none

/-- A range found empty or in provisioning has no tables. -/
lemma tablesFound_eq_none {m : Media} (h : ¬ (m.blank = none ∧ SelectsReady m)) {slot : ℕ}
    (hslot : slot < maxTableCount) : tablesFound m slot = none := by
  unfold tablesFound
  split_ifs with hblank
  · rfl
  · rw [Option.not_isSome_iff_eq_none] at hblank
    cases hload : loadManifest m with
    | error e => rfl
    | ok loaded =>
        obtain ⟨manifest, required⟩ := loaded
        have hstate : manifest.state = .provisioningOwned := by
          by_contra hne
          refine h ⟨hblank, fun manifest' required' hload' => ?_⟩
          rw [hload] at hload'
          cases hload'
          exact hne
        obtain ⟨copySlot, copy, -, rfl⟩ := loadManifest_eq_ok hload
        have hvalid := copy.valid
        unfold ManifestRecord.encodable at hvalid
        rw [hstate, Bool.and_eq_true] at hvalid
        have hempty := hvalid.2
        unfold ManifestRecord.provisioningValid ManifestRecord.activeTables at hempty
        simp only [Bool.and_eq_true, List.isEmpty_iff, List.filterMap_eq_nil_iff,
          List.mem_range] at hempty
        exact hempty.1.1.1.1.1.1.1.2 slot hslot

/-- Every table found is in the slot it names. -/
lemma ownSlots_of_found {m : Media} {r : ManifestRecord} (h : r.tables = tablesFound m) :
    OwnSlots r := by
  intro slot hslot reference hreference
  rw [h] at hreference
  unfold tablesFound at hreference
  split_ifs at hreference
  cases hload : loadManifest m with
  | error e =>
      rw [hload] at hreference
      cases hreference
  | ok loaded =>
      rw [hload] at hreference
      obtain ⟨copySlot, copy, -, hcopy⟩ := loadManifest_eq_ok hload
      have hvalid := copy.valid
      rw [hcopy] at hvalid
      unfold ManifestRecord.encodable ManifestRecord.tableReferencesValid at hvalid
      simp only [Bool.and_eq_true, List.all_eq_true, List.mem_range] at hvalid
      have hown := hvalid.1.1.1.2.2 slot hslot
      rw [show loaded.1.tables slot = some reference from hreference] at hown
      simp only [Bool.and_eq_true, validTableReference, beq_iff_eq] at hown
      exact hown.1.2.1.1.1.1.1.1.1.1

/-! ## Provisioning and loading -/

/-- The manifest names the same tables. -/
def KeptReferences (w w' : World) : Prop := w'.db.manifest.tables = w.db.manifest.tables

instance : Std.Refl KeptReferences := ⟨fun _ => rfl⟩

instance : IsTrans World KeptReferences := ⟨fun _ _ _ h₁ h₂ => h₂.trans h₁⟩

lemma keptReferences_of_sameDb {x : DbM α} (h : Within SameDb x) :
    Within KeptReferences x := fun w => by
  have hdb : (exec x w).2.db = w.db := h w
  unfold KeptReferences
  rw [hdb]

lemma keptReferences_writeManifestCopy (generation : ℕ) (state : ManifestState) :
    Within KeptReferences (writeManifestCopy generation state) := fun w => by
  unfold KeptReferences
  rw [(within_writeManifestCopy generation state w).db]

lemma keptReferences_publishProvisioned : Within KeptReferences (publishProvisioned cfg) := by
  unfold publishProvisioned initialiseFirstWal stabilizeManifestUnsafe
  exact .bind Within.getDb fun _ => .bind Within.failIf fun _ =>
    .bind (keptReferences_of_sameDb (sameDb_ensureWalHeader _ _ _)) fun _ =>
    .bind (Within.modifyDb fun _ => rfl) fun _ => .bind (keptReferences_writeManifestCopy _ _)
    fun _ => .bind (Within.modifyDb fun _ => rfl) fun _ => .bind Within.getDb fun _ =>
    .ite (.bind Within.failIf fun _ => .bind (keptReferences_writeManifestCopy _ _) fun _ =>
      Within.modifyDb fun _ => rfl) .pure

lemma keptReferences_provisionAllDataFiles : Within KeptReferences (provisionAllDataFiles cfg) := by
  have hfiles : ∀ kind slots, Within KeptReferences (provisionDataFiles kind slots) :=
    fun kind slots => keptReferences_of_sameDb (sameDb_provisionDataFiles kind slots)
  unfold provisionAllDataFiles
  exact .bind Within.getDb fun _ => .bind (hfiles _ _) fun _ => .bind (hfiles _ _) fun _ =>
    .bind (hfiles _ _) fun _ => .ite keptReferences_publishProvisioned .pure

/-- **The manifest of a start names the tables found.** -/
lemma triple_initialiseStorage_tables (w₀ : World) :
    Triple (· = w₀) (initialiseStorage cfg)
      (fun _ w => w.db.manifest.tables = tablesFound w₀.dev.current) (fun _ _ => True) := by
  have hkeep : ∀ {β : Type} {x : DbM β}, Within KeptReferences x →
      Triple (fun w => w.db.manifest.tables = tablesFound w₀.dev.current) x
        (fun _ w => w.db.manifest.tables = tablesFound w₀.dev.current) (fun _ _ => True) :=
    fun h => h.triple (fun w w' _ hw hsame => Eq.trans hsame hw) fun _ _ _ _ _ => trivial
  unfold initialiseStorage setupManifest storageRegionIsBlankUnsafe createManifest
    openExistingManifest
  refine .bind (Q := fun _ w => w.db.manifest.tables = tablesFound w₀.dev.current)
    (.bind (Q := fun blank w => w.dev.current = w₀.dev.current ∧
      w₀.dev.current.blank.isSome = blank) (Triple.readStorage (fun w blank hw hread => ?_)
        fun _ _ _ => trivial) fun blank => .of_pure (fun _ hw => hw.2) fun hblank => ?_) fun _ =>
    hkeep keptReferences_provisionAllDataFiles
  · subst hw
    cases hread
    exact ⟨rfl, rfl⟩
  · refine .ite (fun htrue => ?_) fun hfalse => ?_
    · refine .bind (Q := fun _ _ => True) (fun _ _ => trivial) fun databaseId =>
        .bind (Q := fun _ w => w.db.manifest.tables = tablesFound w₀.dev.current)
          (Triple.modifyDb fun w _ => ?_) fun _ =>
        .bind (hkeep (keptReferences_writeManifestCopy _ _)) fun _ =>
          hkeep (keptReferences_writeManifestCopy _ _)
      unfold tablesFound
      rw [if_pos (hblank.trans htrue)]
      rfl
    · refine .bind (Q := fun loaded _ => loaded.1.1.tables = tablesFound w₀.dev.current)
        (Triple.readStorage (fun w loaded hw hread => ?_) fun _ _ _ => trivial) fun loaded => ?_
      · rw [hw.1] at hread
        unfold tablesFound
        rw [if_neg (by rw [hblank]; exact hfalse)]
        cases hload : loadManifest w₀.dev.current with
        | error e =>
            rw [hload] at hread
            cases hread
        | ok selected =>
            rw [hload] at hread
            cases hread
            rfl
      · refine .bind (Q := fun _ w => w.db.manifest.tables = tablesFound w₀.dev.current)
          (Triple.modifyDb fun _ hw => hw) fun _ =>
          .bind (Q := fun _ w => w.db.manifest.tables = tablesFound w₀.dev.current)
          (Triple.failIf (fun _ hw _ => hw) fun _ _ _ => trivial) fun _ => .ite (fun _ => ?_)
          fun _ => .pure fun _ hw => hw
        exact .bind (Q := fun _ w => w.db.manifest.tables = tablesFound w₀.dev.current)
          (Triple.failIf (fun _ hw _ => hw) fun _ _ _ => trivial) fun _ =>
          hkeep (keptReferences_writeManifestCopy _ _)

/-! ## Replayed records -/

/-- No record of the memtable holds more than an inline value. -/
def SmallRecords (cfg : Config) (t : Memtable) : Prop :=
  ∀ bucket r, t.buckets bucket = some r → r.value.inlineSize ≤ cfg.inlineValueLen

lemma smallRecords_empty : SmallRecords cfg .empty := fun _ _ h => by cases h

lemma parseMutationValue_small {kind reserved0 : UInt8} {external : Bool} {reference : ValueRef}
    {value : Bytes} {v : StoredValue}
    (h : parseMutationValue cfg kind reserved0 external reference value = .ok v) :
    v.inlineSize ≤ cfg.inlineValueLen := by
  unfold parseMutationValue at h
  split_ifs at h with hkind hrest hkind' hexternal hreference hlength
  · cases h
    exact Nat.zero_le _
  · cases h
    exact Nat.zero_le _
  · cases h
    exact not_lt.mp hlength

lemma parseMutation_small {payload : Bytes} {offset stagedValueBytes offset' staged' : ℕ}
    {previous : List Mutation} {m : Mutation}
    (h : parseMutation cfg payload offset stagedValueBytes previous = .ok (m, offset', staged')) :
    m.value.inlineSize ≤ cfg.inlineValueLen := by
  unfold parseMutation at h
  obtain ⟨_, -, h⟩ := bind_eq_ok.mp h
  dsimp only at h
  obtain ⟨_, -, h⟩ := bind_eq_ok.mp h
  obtain ⟨_, -, h⟩ := bind_eq_ok.mp h
  obtain ⟨_, -, h⟩ := bind_eq_ok.mp h
  obtain ⟨_, -, h⟩ := bind_eq_ok.mp h
  obtain ⟨_, -, h⟩ := bind_eq_ok.mp h
  obtain ⟨v, hvalue, h⟩ := bind_eq_ok.mp h
  obtain ⟨_, -, h⟩ := bind_eq_ok.mp h
  cases h
  exact parseMutationValue_small hvalue

lemma parseMutations_small {payload : Bytes} {count offset stagedValueBytes next : ℕ}
    {previous mutations : List Mutation}
    (hprevious : ∀ m ∈ previous, m.value.inlineSize ≤ cfg.inlineValueLen)
    (h : parseMutations cfg payload count offset stagedValueBytes previous = .ok (mutations, next)) :
    ∀ m ∈ mutations, m.value.inlineSize ≤ cfg.inlineValueLen := by
  induction count generalizing offset stagedValueBytes previous with
  | zero =>
      cases h
      exact hprevious
  | succ count ih =>
      obtain ⟨⟨m, offset', staged'⟩, hone, h⟩ := bind_eq_ok.mp h
      refine ih (fun n hn => ?_) h
      rcases List.mem_append.mp hn with hn | hn
      · exact hprevious n hn
      · rw [List.mem_singleton.mp hn]
        exact parseMutation_small hone

/-- The preflight leaves the values alone. -/
lemma preflightMutations_values {db : Db} {m : Media} {namespaceIndex : ℕ} {namespaceName : Bytes}
    {t t' : PreflightTotals} {mutations mutations' : List Mutation}
    (h : preflightMutations cfg db m namespaceIndex namespaceName t mutations =
      .ok (t', mutations')) : mutations'.map Mutation.value = mutations.map Mutation.value := by
  induction mutations generalizing t mutations' with
  | nil =>
      cases h
      rfl
  | cons n rest ih =>
      obtain ⟨⟨t₁, n'⟩, hone, h⟩ := bind_eq_ok.mp h
      obtain ⟨⟨t₂, rest'⟩, hrest, h⟩ := bind_eq_ok.mp h
      cases h
      have hvalue : n'.value = n.value := by
        unfold preflightMutation at hone
        obtain ⟨found, -, hone⟩ := bind_eq_ok.mp hone
        dsimp only at hone
        obtain ⟨_, -, hone⟩ := bind_eq_ok.mp hone
        obtain ⟨_, -, hone⟩ := bind_eq_ok.mp hone
        obtain ⟨_, -, hone⟩ := bind_eq_ok.mp hone
        cases hone
        rfl
      rw [List.map_cons, List.map_cons, ih hrest, hvalue]

lemma SmallRecords.store {db : Db} {bucket : ℕ} {replaced : Option MemtableRecord}
    {r : MemtableRecord} {stats : Stats} (h : SmallRecords cfg db.memtable)
    (hr : r.value.inlineSize ≤ cfg.inlineValueLen) :
    SmallRecords cfg (storeRecord db bucket replaced r stats).memtable := by
  intro b r' hr'
  change Function.update db.memtable.buckets bucket (some r) b = some r' at hr'
  by_cases hb : b = bucket
  · subst hb
    rw [Function.update_self] at hr'
    cases hr'
    exact hr
  · rw [Function.update_of_ne hb] at hr'
    exact h b r' hr'

lemma SmallRecords.applyMutations {db db' : Db} {namespaceSlotIndex sequence : ℕ}
    {mutations : List Mutation} (h : SmallRecords cfg db.memtable)
    (hvalues : ∀ m ∈ mutations, m.value.inlineSize ≤ cfg.inlineValueLen)
    (hrun : applyMutations cfg namespaceSlotIndex sequence db mutations = .ok db') :
    SmallRecords cfg db'.memtable := by
  induction mutations generalizing db with
  | nil =>
      cases hrun
      exact h
  | cons m rest ih =>
      obtain ⟨db₁, hone, hrun⟩ := bind_eq_ok.mp hrun
      refine ih ?_ (fun n hn => hvalues n (List.mem_cons_of_mem _ hn)) hrun
      have hm : (mutationRecord namespaceSlotIndex sequence m).value.inlineSize ≤
          cfg.inlineValueLen := hvalues m List.mem_cons_self
      unfold applyMutation at hone
      obtain ⟨search, -, hone⟩ := bind_eq_ok.mp hone
      cases search with
      | full => cases hone
      | found bucket old =>
          cases hone
          exact h.store hm
      | free bucket =>
          cases hone
          exact h.store hm

/-- **A replayed record is no longer than the inline limit.** -/
lemma scanInvariant_smallRecords (m : Media) :
    ScanInvariant cfg m fun db => SmallRecords cfg db.memtable where
  bookkept h hkept := by
    unfold Bookkept at hkept
    rw [hkept]
    exact h
  replay {db db' payload mutationCount sequence} h hrun := by
    unfold replayTransaction at hrun
    obtain ⟨⟨namespaceName, mutations⟩, hparse, hrun⟩ := bind_eq_ok.mp hrun
    have hsmall : ∀ n ∈ mutations, n.value.inlineSize ≤ cfg.inlineValueLen := by
      unfold parseRecoveredTransactionUnsafe at hparse
      obtain ⟨_, -, hparse⟩ := bind_eq_ok.mp hparse
      dsimp only at hparse
      obtain ⟨_, -, hparse⟩ := bind_eq_ok.mp hparse
      obtain ⟨⟨parsed, next⟩, hmutations, hparse⟩ := bind_eq_ok.mp hparse
      obtain ⟨_, -, hparse⟩ := bind_eq_ok.mp hparse
      cases hparse
      exact parseMutations_small (fun _ hn => absurd hn List.not_mem_nil) hmutations
    dsimp only at hrun
    unfold replayMutations at hrun
    obtain ⟨manifest, -, hrun⟩ := bind_eq_ok.mp hrun
    obtain ⟨staged, hpreflight, hrun⟩ := bind_eq_ok.mp hrun
    obtain ⟨⟨index, namespaces⟩, -, hrun⟩ := bind_eq_ok.mp hrun
    have hstaged : ∀ n ∈ staged, n.value.inlineSize ≤ cfg.inlineValueLen := by
      unfold preflightMemtableTransactionUnsafe at hpreflight
      obtain ⟨_, -, hpreflight⟩ := bind_eq_ok.mp hpreflight
      obtain ⟨found, -, hpreflight⟩ := bind_eq_ok.mp hpreflight
      obtain ⟨⟨t, staged'⟩, hloop, hpreflight⟩ := bind_eq_ok.mp hpreflight
      obtain ⟨_, -, hpreflight⟩ := bind_eq_ok.mp hpreflight
      cases hpreflight
      intro n hn
      have hvalue : n.value ∈ mutations.map Mutation.value :=
        preflightMutations_values hloop ▸ List.mem_map_of_mem hn
      obtain ⟨n', hn', heq⟩ := List.mem_map.mp hvalue
      rw [← heq]
      exact hsmall n' hn'
    unfold applyTransactionToMemtableUnsafe at hrun
    obtain ⟨applied, happly, hrun⟩ := bind_eq_ok.mp hrun
    cases hrun
    have hrecords : SmallRecords cfg applied.memtable :=
      SmallRecords.applyMutations (by exact h) hstaged happly
    exact hrecords

/-! ## Recovery -/

/-- What a recovery has left of the world `w₀` it began in: the same tables with their key ranges,
on files that have not changed, and a memtable of small records. -/
structure Opened (cfg : Config) (w₀ w : World) : Prop where
  recovered : ∀ slot < cfg.geometry.tableCount, SlotRecovered cfg w slot
  references : w.db.manifest.withoutKeyRanges.tables = w₀.db.manifest.withoutKeyRanges.tables
  footer : w.dev.current.tableFooter = w₀.dev.current.tableFooter
  block : w.dev.current.tableBlock = w₀.dev.current.tableBlock
  index : w.dev.current.tableIndex = w₀.dev.current.tableIndex
  records : SmallRecords cfg w.db.memtable

lemma Opened.kept {w₀ w w' : World} (h : Opened cfg w₀ w) (hkept : KeptTables w w')
    (hrecords : SmallRecords cfg w'.db.memtable) : Opened cfg w₀ w' := by
  refine ⟨fun slot hslot => (h.recovered slot hslot).kept hkept, ?_, hkept.footer.trans h.footer,
    hkept.block.trans h.block, hkept.index.trans h.index, hrecords⟩
  rw [← h.references]
  unfold ManifestRecord.withoutKeyRanges
  rw [hkept.tables]

lemma Opened.replayed {w₀ w : World} {db : Db} (h : Opened cfg w₀ w)
    (hrun : replayWal cfg w.db w.dev.current = .ok db) :
    Opened cfg w₀ { w with db := db, dev := w.dev.tick } := by
  have hreplayed := replayWal_replayed hrun
  refine h.kept ⟨?_, ?_, rfl, rfl, rfl⟩
    ((scanInvariant_smallRecords w.dev.current).replayWal h.records hrun)
  · show db.manifest.tables = w.db.manifest.tables
    rw [hreplayed.manifest]
  · show db.tableKeyFilters = w.db.tableKeyFilters
    rw [hreplayed.frame]

lemma tableCount_le (cfg : Config) : cfg.geometry.tableCount ≤ maxTableCount := by
  have hgeometry := cfg.geometry_valid
  unfold validateStorageGeometry at hgeometry
  simp only [Bool.and_eq_true, decide_eq_true_eq] at hgeometry
  omega

/-- **Every active table is recovered** when the recovery of the tables succeeds. -/
lemma triple_recoverTablesUnsafe_opened (w₀ : World) (hown : OwnSlots w₀.db.manifest)
    (hempty : w₀.db.memtable = .empty) :
    Triple (· = w₀) (recoverTablesUnsafe cfg) (fun _ => Opened cfg w₀) (fun _ _ => True) := by
  have hkeep : ∀ {β : Type} {x : DbM β}, Within KeptTables x →
      Triple (fun w => ∀ slot < cfg.geometry.tableCount, SlotRecovered cfg w slot) x
        (fun _ w => ∀ slot < cfg.geometry.tableCount, SlotRecovered cfg w slot)
        (fun _ _ => True) := fun h => h.triple
    (fun w w' _ hw hkept slot hslot => (hw slot hslot).kept hkept) fun _ _ _ _ _ => trivial
  have hslots : Triple (fun w => OwnSlots w.db.manifest) (recoverTablesUnsafe cfg)
      (fun _ w => ∀ slot < cfg.geometry.tableCount, SlotRecovered cfg w slot)
      (fun _ _ => True) := by
    unfold recoverTablesUnsafe
    refine .bind (Q := fun _ w => OwnSlots w.db.manifest) (Triple.modifyDb fun _ hw => hw)
      fun _ => .bind (Q := fun _ w => ∀ slot < cfg.geometry.tableCount, SlotRecovered cfg w slot)
      ((triple_recoverTableReferences _ (fun slot hslot => ?_) fun _ => False).conseq
        (fun w hw => ⟨hw, fun _ h => h.elim⟩)
        (fun _ w hw slot hslot => hw.2 slot (Or.inr (List.mem_range.mpr hslot)))
        fun _ _ _ => trivial) fun _ => .bind Triple.fetch fun db => ?_
    · exact (List.mem_range.mp hslot).trans_le (tableCount_le cfg)
    · exact .bind (Q := fun _ w => ∀ slot < cfg.geometry.tableCount, SlotRecovered cfg w slot)
        (Triple.failIf (fun _ hw _ => hw.1) fun _ _ _ => trivial) fun _ =>
        .bind (hkeep fun w => .of_reading (within_loadCursors _ w)) fun cursors =>
        .bind (Q := fun _ w => ∀ slot < cfg.geometry.tableCount, SlotRecovered cfg w slot)
        (Triple.failIf (fun _ hw _ => hw) fun _ _ _ => trivial) fun _ =>
        hkeep (keptTables_countTables _ _)
  refine .of_exec fun s hs => ⟨fun _ w hrun => ?_, fun _ _ _ => trivial⟩
  subst hs
  have hframe := @within_recoverTablesUnsafe cfg s
  rw [hrun] at hframe
  have hcurrent : w.dev.current = s.dev.current := by rw [hframe.dev]
  refine ⟨hslots.ok hown hrun, congrArg ManifestRecord.tables hframe.manifest,
    by rw [hcurrent], by rw [hcurrent], by rw [hcurrent], ?_⟩
  rw [hframe.db]
  show SmallRecords cfg s.db.memtable
  rw [hempty]
  exact smallRecords_empty

lemma triple_recoverWal_opened (w₀ : World) (hown : OwnSlots w₀.db.manifest) :
    Triple (· = w₀) (recoverWal cfg) (fun _ => Opened cfg w₀) (fun _ _ => True) := by
  have htables := @triple_recoverTablesUnsafe_opened cfg { w₀ with db := { w₀.db with
    stats := {}
    namespaces := []
    memtable := .empty } } hown rfl
  unfold recoverWal
  refine .bind (Q := fun _ => (· = w₀)) (Triple.getDb fun _ hw => hw) fun _ =>
    .bind (Q := fun _ => (· = w₀)) (Triple.failIf (fun _ hw _ => hw) fun _ _ _ => trivial) fun _ =>
    .bind (Triple.modifyDb fun _ hw => hw ▸ rfl) fun _ =>
    .bind (Q := fun _ => Opened cfg w₀) (htables.conseq (fun _ hw => hw) (fun _ _ hw =>
      ⟨hw.recovered, hw.references, hw.footer, hw.block, hw.index, hw.records⟩)
      fun _ _ _ => trivial) fun _ => ?_
  refine .bind (Q := fun db w => Opened cfg w₀ { w with db := db })
    (Triple.readStorage (fun w db hw hread => hw.replayed hread) fun _ _ _ => trivial) fun db =>
    .bind (Q := fun _ => Opened cfg w₀) (Triple.modifyDb fun _ hw => hw) fun _ => ?_
  refine .of_exec fun s hs => ⟨fun _ w hrun => ?_, fun _ _ _ => trivial⟩
  have hkept := keptTables_stabilizeManifestUnsafe s
  have hpublishing := within_stabilizeManifestUnsafe s
  rw [hrun] at hkept hpublishing
  refine hs.kept hkept ?_
  rw [hpublishing.db]
  exact hs.records

end On9kvdb
