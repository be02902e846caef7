import On9kvdb.Steady.Order

/-!
# The manifest copies

What `load_manifest` would select if power were lost now.  A publication overwrites the copy that is
not selected, with a record that agrees with the one that is, so there is always something to
select: `Backed` says so of every image the device has kept, and that the selected record is never
behind the one the database was found with.  While the instance is open and healthy the record that
is selected is the manifest in memory, up to the tails of the value banks and the key ranges of the
tables.
-/

namespace On9kvdb

open Exceptional

variable {cfg : Config}

/-! ## Selecting a copy -/

/-- The record that `load_manifest` selects. -/
def Selected (m : Media) (r : ManifestRecord) : Prop := ∃ required, loadManifest m = .ok (r, required)

lemma Selected.unique {m : Media} {r r' : ManifestRecord} (h : Selected m r) (h' : Selected m r') :
    r = r' := by
  obtain ⟨required, h⟩ := h
  obtain ⟨required', h'⟩ := h'
  rw [h] at h'
  cases h'
  rfl

lemma Selected.congr {m m' : Media} {r : ManifestRecord} (h : Selected m r)
    (hcopies : m'.manifestCopy = m.manifestCopy) : Selected m' r := by
  obtain ⟨required, h⟩ := h
  refine ⟨required, ?_⟩
  unfold loadManifest readManifestSlot newerManifestFound at h ⊢
  rw [hcopies]
  exact h

lemma readManifestSlot_slot {m : Media} {slot : ℕ} {r : ManifestRecord}
    (h : readManifestSlot m slot = .ok (some r)) :
    ∃ copy, m.manifestCopy (manifestSlotOf r.generation) = .ok copy ∧ copy.record = r := by
  unfold readManifestSlot at h
  cases hcell : m.manifestCopy slot with
  | error e =>
      rw [hcell] at h
      cases h
  | ok copy =>
      rw [hcell] at h
      dsimp only at h
      split_ifs at h with hslot
      cases h
      rw [not_not] at hslot
      exact ⟨copy, by rw [hslot, hcell], rfl⟩

/-- The selected record is that of the copy in its own slot. -/
lemma Selected.copy {m : Media} {r : ManifestRecord} (h : Selected m r) :
    ∃ copy, m.manifestCopy (manifestSlotOf r.generation) = .ok copy ∧ copy.record = r := by
  obtain ⟨required, h⟩ := h
  unfold loadManifest at h
  rw [bind_eq_ok] at h
  obtain ⟨first, hfirst, h⟩ := h
  rw [bind_eq_ok] at h
  obtain ⟨second, hsecond, h⟩ := h
  rw [bind_eq_ok] at h
  obtain ⟨-, -, h⟩ := h
  cases first with
  | none =>
      cases second with
      | none => cases h
      | some r₁ =>
          cases h
          exact readManifestSlot_slot hsecond
  | some r₀ =>
      cases second with
      | none =>
          cases h
          exact readManifestSlot_slot hfirst
      | some r₁ =>
          dsimp only at h
          split_ifs at h
          · rw [bind_eq_ok] at h
            obtain ⟨-, -, h⟩ := h
            cases h
            exact readManifestSlot_slot hsecond
          · rw [bind_eq_ok] at h
            obtain ⟨-, -, h⟩ := h
            cases h
            exact readManifestSlot_slot hfirst

/-- Two generations in a row are written to the two slots. -/
lemma manifestSlotOf_succ {generation : ℕ} (h : generation ≠ 0) :
    manifestSlotOf (generation + 1) = 1 - manifestSlotOf generation := by
  unfold manifestSlotOf manifestSlotCount
  omega

lemma readManifestSlot_of_copy {m : Media} {slot : ℕ} {copy : ManifestCopy}
    (hcell : m.manifestCopy slot = .ok copy) (hslot : manifestSlotOf copy.record.generation = slot) :
    readManifestSlot m slot = .ok (some copy.record) := by
  unfold readManifestSlot
  rw [hcell]
  exact if_neg (not_not.mpr hslot)

/-- **The newer of two copies that agree is selected.** -/
lemma selected_of_copies {m : Media} {older newer : ManifestCopy}
    (hpositive : older.record.generation ≠ 0)
    (hgeneration : newer.record.generation = older.record.generation + 1)
    (holder : m.manifestCopy (manifestSlotOf older.record.generation) = .ok older)
    (hnewer : m.manifestCopy (manifestSlotOf newer.record.generation) = .ok newer)
    (hagree : manifestCopiesAgree older.record newer.record = true) : Selected m newer.record := by
  have hslots := manifestSlotOf_succ hpositive
  rw [← hgeneration] at hslots
  have hbelow : older.record.generation < newer.record.generation := by omega
  have hfound : ∀ slot copy, m.manifestCopy slot = .ok copy → newerManifestFound m slot = false :=
    fun slot copy hcell => by rw [newerManifestFound, hcell]
  have hlt : manifestSlotOf older.record.generation < 2 := Nat.mod_lt _ Nat.two_pos
  obtain hslot | hslot : manifestSlotOf older.record.generation = 0 ∨
      manifestSlotOf older.record.generation = 1 := by omega
  · rw [hslot] at hslots holder
    rw [hslots] at hnewer
    refine ⟨decide (older.record.generation < newer.record.generation) &&
      manifestNeedsStabilization older.record newer.record, ?_⟩
    unfold loadManifest
    rw [readManifestSlot_of_copy holder hslot, readManifestSlot_of_copy hnewer hslots,
      hfound _ _ holder, hfound _ _ hnewer]
    simp only [ok_bind, Bool.false_eq_true, or_self, rejectIf_of_not, not_false_eq_true, hbelow,
      if_true, hagree]
    rfl
  · rw [hslot] at hslots holder
    rw [hslots] at hnewer
    refine ⟨decide (older.record.generation < newer.record.generation) &&
      manifestNeedsStabilization older.record newer.record, ?_⟩
    unfold loadManifest
    rw [readManifestSlot_of_copy hnewer hslots, readManifestSlot_of_copy holder hslot,
      hfound _ _ holder, hfound _ _ hnewer]
    simp only [ok_bind, Bool.false_eq_true, or_self, rejectIf_of_not, not_false_eq_true,
      not_lt.mpr hbelow.le, if_false, hagree, Bool.true_eq_false]
    rfl

/-- A record that is published next to the selected one. -/
lemma selected_published {m : Media} {r manifest : ManifestRecord} {state : ManifestState}
    (h : publishable manifest (manifest.generation + 1) state = true) (hselected : Selected m r)
    (hgeneration : manifest.generation = r.generation)
    (hagree : manifestCopiesAgree r
      (nextManifest manifest (manifest.generation + 1) state).withoutKeyRanges = true) :
    Selected ((publication h).apply m)
      (nextManifest manifest (manifest.generation + 1) state).withoutKeyRanges := by
  obtain ⟨copy, hcell, rfl⟩ := hselected.copy
  have hpositive : copy.record.generation ≠ 0 := by
    have hvalid := copy.valid
    unfold ManifestRecord.encodable at hvalid
    simp only [Bool.and_eq_true, bne_iff_ne] at hvalid
    tauto
  have hslots := manifestSlotOf_succ hpositive
  have hlt : manifestSlotOf copy.record.generation < 2 := Nat.mod_lt _ Nat.two_pos
  refine @selected_of_copies _ copy (publishedCopy h) hpositive (congrArg (· + 1) hgeneration) ?_
    (Function.update_self _ _ _) hagree
  refine (Function.update_of_ne ?_ _ _).trans hcell
  rw [hgeneration, hslots]
  omega

/-! ## Successors -/

/-- The record `r'` is a later one of the same ready database. -/
structure Succeeds (r r' : ManifestRecord) : Prop where
  databaseId : r'.databaseId = r.databaseId
  geometry : r'.geometry = r.geometry
  limits : r'.limits = r.limits
  ready : r'.state = .ready
  generation : r.generation ≤ r'.generation
  checkpoint : r.safeCheckpointSequence ≤ r'.safeCheckpointSequence
  tableGeneration : r.nextTableGeneration ≤ r'.nextTableGeneration

lemma Succeeds.trans {r r' r'' : ManifestRecord} (h₁ : Succeeds r r') (h₂ : Succeeds r' r'') :
    Succeeds r r'' where
  databaseId := h₂.databaseId.trans h₁.databaseId
  geometry := h₂.geometry.trans h₁.geometry
  limits := h₂.limits.trans h₁.limits
  ready := h₂.ready
  generation := h₁.generation.trans h₂.generation
  checkpoint := h₁.checkpoint.trans h₂.checkpoint
  tableGeneration := h₁.tableGeneration.trans h₂.tableGeneration

/-- The manifest in memory is the stored record, up to the key ranges, which are not stored, and the
tails, which grow between two publications. -/
def Matches (m r : ManifestRecord) : Prop :=
  m.withoutKeyRanges = { r.withoutKeyRanges with valueBankTail := m.valueBankTail }

lemma ManifestRecord.withoutKeyRanges_idem (m : ManifestRecord) :
    m.withoutKeyRanges.withoutKeyRanges = m.withoutKeyRanges := by
  unfold ManifestRecord.withoutKeyRanges
  simp only [Option.map_map]
  rfl

namespace Matches

variable {m r : ManifestRecord}

lemma refl (m : ManifestRecord) : Matches m m := rfl

lemma stored (m : ManifestRecord) : Matches m m.withoutKeyRanges := by
  unfold Matches
  rw [m.withoutKeyRanges_idem]
  rfl

/-- What the two agree on. -/
lemma field {β : Type} (h : Matches m r) (f : ManifestRecord → β)
    (hranges : ∀ m : ManifestRecord, f m.withoutKeyRanges = f m)
    (htail : ∀ (m : ManifestRecord) tail, f { m with valueBankTail := tail } = f m) : f m = f r := by
  rw [← hranges m, show m.withoutKeyRanges = _ from h, htail, hranges]

lemma generation (h : Matches m r) : m.generation = r.generation :=
  h.field ManifestRecord.generation (fun _ => rfl) fun _ _ => rfl

/-- Tails may move. -/
lemma moved (h : Matches m r) (tail : ℕ → ℕ) : Matches { m with valueBankTail := tail } r := by
  unfold Matches at h ⊢
  show { m.withoutKeyRanges with valueBankTail := tail } = _
  rw [h]

/-- A table is referenced in both, with the same range of sequences and the same content. -/
lemma table (h : Matches m r) {slot : ℕ} {reference : TableReference}
    (hr : r.tables slot = some reference) :
    ∃ held, m.tables slot = some held ∧ ∀ other, tableReferenceEqual other held =
      tableReferenceEqual other reference := by
  have htables := congrArg (fun m : ManifestRecord => m.tables slot) h
  dsimp only [ManifestRecord.withoutKeyRanges] at htables
  rw [hr] at htables
  cases hheld : m.tables slot with
  | none =>
      rw [hheld] at htables
      cases htables
  | some held =>
      rw [hheld] at htables
      simp only [Option.map_some, Option.some.injEq, TableReference.mk.injEq] at htables
      refine ⟨held, rfl, fun other => ?_⟩
      unfold tableReferenceEqual
      rw [htables.1, htables.2.1, htables.2.2.1, htables.2.2.2.1, htables.2.2.2.2.1,
        htables.2.2.2.2.2.1, htables.2.2.2.2.2.2.1, htables.2.2.2.2.2.2.2.1]

end Matches

/-- What every published manifest shares with the one before it. -/
structure Edited (m m' : ManifestRecord) : Prop where
  databaseId : m'.databaseId = m.databaseId
  geometry : m'.geometry = m.geometry
  limits : m'.limits = m.limits
  generation : m'.generation = m.generation
  checkpoint : m.safeCheckpointSequence ≤ m'.safeCheckpointSequence
  tableGeneration : m.nextTableGeneration ≤ m'.nextTableGeneration
  tables : m'.activeTableBank ≠ m.activeTableBank ∨
    ∀ slot reference, m.tables slot = some reference → m'.tables slot = some reference

lemma Edited.refl (m : ManifestRecord) : Edited m m :=
  ⟨rfl, rfl, rfl, rfl, le_rfl, le_rfl, .inr fun _ _ h => h⟩

lemma Edit.edited {db : Db} {m : ManifestRecord} {memtable : Memtable} (h : Edit cfg db m memtable)
    (hordered : Ordered cfg db.stored) : Edited db.manifest m := by
  obtain ⟨hcheckpoint, -⟩ := h.ordered hordered
  cases h with
  | same => exact .refl _
  | rotated walGeneration =>
      exact ⟨rfl, rfl, rfl, rfl, hcheckpoint, le_rfl, .inr fun _ _ h => h⟩
  | @flushed slot reference hflushed =>
      refine ⟨rfl, rfl, rfl, rfl, hcheckpoint, Nat.le_succ _, .inr fun slot' reference' h => ?_⟩
      refine (Function.update_of_ne (fun hslot => ?_) _ _).trans h
      rw [hslot, hflushed.free] at h
      cases h
  | compacted hcompacted =>
      have hbank : db.manifest.activeTableBank < 2 := hordered.bank
      refine ⟨by rw [hcompacted.rest], by rw [hcompacted.rest], by rw [hcompacted.rest],
        by rw [hcompacted.rest], hcheckpoint, hcompacted.generations, .inl ?_⟩
      rw [hcompacted.rest]
      show 1 - db.manifest.activeTableBank ≠ db.manifest.activeTableBank
      omega

namespace Edited

variable {m m' r : ManifestRecord} (h : Edited m m') (hmatches : Matches m r)
include h hmatches

/-- **A published manifest succeeds the stored one.** -/
lemma succeeds : Succeeds r (nextManifest m' (m'.generation + 1) .ready).withoutKeyRanges := by
  have hfield : ∀ {β : Type} (f : ManifestRecord → β),
      (∀ m : ManifestRecord, f m.withoutKeyRanges = f m) →
      (∀ (m : ManifestRecord) tail, f { m with valueBankTail := tail } = f m) →
      f m = f r := hmatches.field
  refine ⟨h.databaseId.trans ?_, h.geometry.trans ?_, h.limits.trans ?_, rfl, ?_, ?_, ?_⟩
  · exact hfield ManifestRecord.databaseId (fun _ => rfl) fun _ _ => rfl
  · exact hfield ManifestRecord.geometry (fun _ => rfl) fun _ _ => rfl
  · exact hfield ManifestRecord.limits (fun _ => rfl) fun _ _ => rfl
  · rw [← hmatches.generation, ← h.generation]
    exact Nat.le_succ _
  · rw [← hfield ManifestRecord.safeCheckpointSequence (fun _ => rfl) fun _ _ => rfl]
    exact h.checkpoint
  · rw [← hfield ManifestRecord.nextTableGeneration (fun _ => rfl) fun _ _ => rfl]
    exact h.tableGeneration

/-- **A published manifest agrees with the stored one**, so that both may stand side by side. -/
lemma agrees : manifestCopiesAgree r
    (nextManifest m' (m'.generation + 1) .ready).withoutKeyRanges = true := by
  have hsucceeds := h.succeeds hmatches
  have hgeneration : (nextManifest m' (m'.generation + 1) .ready).withoutKeyRanges.generation =
      r.generation + 1 := by
    rw [← hmatches.generation, ← h.generation]
    rfl
  have hbank : m.activeTableBank = r.activeTableBank :=
    hmatches.field ManifestRecord.activeTableBank (fun _ => rfl) fun _ _ => rfl
  unfold manifestCopiesAgree
  rw [hsucceeds.databaseId, hsucceeds.geometry, hsucceeds.limits, hsucceeds.ready, hgeneration]
  simp only [beq_self_eq_true, Bool.true_and, Nat.add_sub_cancel_left, Bool.or_true,
    hsucceeds.tableGeneration, hsucceeds.checkpoint, decide_true, Bool.and_true]
  simp only [Bool.and_eq_true, Bool.or_eq_true, Bool.not_eq_true', bne_iff_ne, ne_eq,
    Bool.and_eq_false_iff, List.all_eq_true, beq_eq_false_iff_ne]
  refine ⟨⟨.inl (Nat.succ_ne_self _).symm, .inr ?_⟩, ?_⟩
  · decide
  · rcases h.tables with hne | hkept
    · refine .inl (.inr ?_)
      rw [← hbank]
      exact hne.symm
    · refine .inr fun slot _ => ?_
      cases hr : r.tables slot with
      | none => rfl
      | some reference =>
          obtain ⟨held, hheld, hequal⟩ := hmatches.table hr
          dsimp only [ManifestRecord.withoutKeyRanges]
          rw [hkept slot held hheld]
          refine (hequal reference).trans ?_
          unfold tableReferenceEqual
          simp

end Edited

/-! ## Images -/

/-- A start on this image finds a later record of the database. -/
def Startable (base : ManifestRecord) (m : Media) : Prop :=
  m.blank = none ∧ ∃ r, Selected m r ∧ Succeeds base r

lemma Startable.congr {base : ManifestRecord} {m m' : Media} (h : Startable base m)
    (hblank : m'.blank = none) (hcopies : m'.manifestCopy = m.manifestCopy) : Startable base m' := by
  obtain ⟨-, r, hselected, hsucceeds⟩ := h
  exact ⟨hblank, r, hselected.congr hcopies, hsucceeds⟩

namespace Device

variable {d d' : Device} {w : Write} {m : Media}

/-- A write adds what it leaves as a whole and in part. -/
lemma mem_images_write (h : m ∈ (d.write w).2.images) :
    m ∈ d.images ∨ m = w.applyTorn d.current ∨ m = w.apply d.current := by
  unfold write at h
  cases hfault : d.fault with
  | none =>
      rw [hfault] at h
      simp only [push, images, tick, List.mem_cons] at h ⊢
      tauto
  | keepOld =>
      rw [hfault] at h
      exact .inl h
  | torn =>
      rw [hfault] at h
      simp only [push, images, tick, List.mem_cons] at h ⊢
      tauto
  | keepNew =>
      rw [hfault] at h
      simp only [push, images, tick, List.mem_cons] at h ⊢
      tauto

lemma current_mem_images (d : Device) : d.current ∈ d.images := List.mem_cons_self

lemma mem_images_sync (h : m ∈ d.sync.2.images) : m ∈ d.images := by
  unfold sync at h
  cases hfault : d.fault with
  | none =>
      rw [hfault] at h
      rw [List.mem_singleton.mp h]
      exact d.current_mem_images
  | _ =>
      rw [hfault] at h
      exact h

/-- Any write but that of a copy leaves the copies, on the whole and in part. -/
lemma noCopy_apply (hw : NoCopy w) (m : Media) :
    ((w.apply m).manifestCopy = m.manifestCopy ∧ (m.blank = none → (w.apply m).blank = none)) ∧
      (w.applyTorn m).manifestCopy = m.manifestCopy ∧
        (m.blank = none → (w.applyTorn m).blank = none) := by
  cases w with
  | manifestCopy => exact hw.elim
  | tableHeaderMarker =>
      refine ⟨⟨rfl, fun hblank => ?_⟩, rfl, fun hblank => hblank⟩
      show m.blankBehindZeros = none
      rw [Media.blankBehindZeros, hblank]
      rfl
  | tableFooterMarker =>
      refine ⟨⟨rfl, fun hblank => ?_⟩, rfl, fun hblank => hblank⟩
      show m.blankBehindZeros = none
      rw [Media.blankBehindZeros, hblank]
      rfl
  | tableBlock => exact ⟨⟨rfl, fun _ => rfl⟩, rfl, fun _ => rfl⟩
  | tableIndex => exact ⟨⟨rfl, fun _ => rfl⟩, rfl, fun _ => rfl⟩
  | _ => exact ⟨⟨rfl, fun _ => rfl⟩, rfl, fun hblank => hblank⟩

/-- Steps without a copy leave every image startable. -/
lemma startable_steps {base : ManifestRecord} (h : ∀ m ∈ d.images, Startable base m)
    (hsteps : d.Steps NoCopy d') : (∀ m ∈ d'.images, Startable base m) ∧
      d'.current.manifestCopy = d.current.manifestCopy := by
  refine hsteps.invariant (P := fun d' => (∀ m ∈ d'.images, Startable base m) ∧
    d'.current.manifestCopy = d.current.manifestCopy) (fun _ _ hd => hd) (fun e w hw hd => ?_)
    (fun e hd => ⟨fun m hm => hd.1 m (mem_images_sync hm), ?_⟩) ⟨h, rfl⟩
  · obtain ⟨himages, hcopies⟩ := hd
    obtain ⟨⟨hcopy, hblank⟩, hcopyTorn, hblankTorn⟩ := noCopy_apply hw e.current
    have hcurrent := himages _ e.current_mem_images
    refine ⟨fun m hm => ?_, ?_⟩
    · rcases mem_images_write hm with hold | rfl | rfl
      · exact himages m hold
      · exact hcurrent.congr (hblankTorn hcurrent.1) hcopyTorn
      · exact hcurrent.congr (hblank hcurrent.1) hcopy
    · rcases e.current_write w with he | he | he
      · rw [he, hcopies]
      · rw [he, hcopyTorn, hcopies]
      · rw [he, hcopy, hcopies]
  · rw [current_sync]
    exact hd.2

end Device

/-! ## The invariant -/

/-- Every image a power loss may leave can be started from, and the selected copy is the manifest in
memory as long as no publication has failed. -/
structure Backed (base : ManifestRecord) (w : World) : Prop where
  images : ∀ m ∈ w.dev.images, Startable base m
  memory : w.db.initialized = true → w.db.storageFaulted = false →
    ∃ r, Selected w.dev.current r ∧ Matches w.db.manifest r

section
variable {base r m m' : ManifestRecord} {d d' : Device}

/-- The copy that is selected behind a publication. -/
lemma PublishedOn.startable (h : PublishedOn d d' m' .ready)
    (himages : ∀ image ∈ d.images, Startable base image) (hselected : Selected d.current r)
    (hmatches : Matches m r) (hedited : Edited m m') :
    (∀ image ∈ d'.images, Startable base image) ∧
      Selected d'.current (nextManifest m' (m'.generation + 1) .ready).withoutKeyRanges := by
  obtain ⟨h, hfault, -, rfl⟩ := h
  have hcurrent : (d.write (publication h)).2.current = (publication h).apply d.current :=
    Device.current_write_of_none hfault
  have hnew : Selected (d.write (publication h)).2.current
      (nextManifest m' (m'.generation + 1) .ready).withoutKeyRanges := by
    rw [hcurrent]
    exact selected_published h hselected (hedited.generation.trans hmatches.generation)
      (hedited.agrees hmatches)
  refine ⟨fun image himage => ?_, hnew⟩
  obtain ⟨-, r', hselected', hbase⟩ := himages _ d.current_mem_images
  rw [hselected'.unique hselected] at hbase
  rw [List.mem_singleton.mp himage]
  refine ⟨?_, _, hnew, hbase.trans (hedited.succeeds hmatches)⟩
  show (d.write (publication h)).2.current.blank = none
  rw [hcurrent]
  rfl

/-- A failed publication leaves the old copy or the new one. -/
lemma FailedOn.startable (h : FailedOn d d' m' .ready)
    (himages : ∀ image ∈ d.images, Startable base image) (hselected : Selected d.current r)
    (hmatches : Matches m r) (hedited : Edited m m') :
    ∀ image ∈ d'.images, Startable base image := by
  obtain ⟨h, hfailed⟩ := h
  have hwritten : ∀ image ∈ (d.write (publication h)).2.images, Startable base image :=
    fun image himage => by
      obtain ⟨hblank, r', hselected', hbase⟩ := himages _ d.current_mem_images
      rcases Device.mem_images_write himage with hold | rfl | rfl
      · exact himages image hold
      · exact ⟨hblank, r', hselected', hbase⟩
      · rw [hselected'.unique hselected] at hbase
        exact ⟨rfl, _, selected_published h hselected
          (hedited.generation.trans hmatches.generation) (hedited.agrees hmatches),
          hbase.trans (hedited.succeeds hmatches)⟩
  rcases hfailed with ⟨rfl, -⟩ | ⟨rfl, -⟩
  · exact hwritten
  · exact hwritten

end

lemma Turn.initialized {w w' : World} (h : Turn cfg w w') : w'.db.initialized = w.db.initialized := by
  cases h with
  | quiet h => exact congrArg Stored.initialized h.stored
  | latched stored _ => exact congrArg Stored.initialized stored
  | published _ _ _ _ stored => exact congrArg Stored.initialized stored
  | failed _ _ _ _ stored => exact congrArg Stored.initialized stored
  | grown _ stored _ => exact congrArg Stored.initialized stored
  | applied _ stored _ => exact congrArg Stored.initialized stored

/-- **Every step of the stored state keeps it.** -/
theorem Turn.backed {base : ManifestRecord} {w w' : World} (h : Turn cfg w w')
    (hordered : Ordered cfg w.db.stored) (hopen : w.db.initialized = true)
    (hbacked : Backed base w) : Backed base w' := by
  have hready : w.db.manifest.state = .ready := hordered.ready
  cases h with
  | quiet h =>
      obtain ⟨himages, hcopies⟩ := Device.startable_steps hbacked.images h.dev
      refine ⟨himages, fun hopen' hhealthy => ?_⟩
      have hstored := h.stored
      obtain ⟨r, hselected, hmatches⟩ := hbacked.memory hopen
        ((congrArg Stored.storageFaulted hstored).symm.trans hhealthy)
      refine ⟨r, hselected.congr hcopies, ?_⟩
      rw [show w'.db.manifest = w.db.manifest from congrArg Stored.manifest hstored]
      exact hmatches
  | latched stored dev =>
      refine ⟨by rw [dev]; exact hbacked.images, fun _ hhealthy => ?_⟩
      cases (congrArg Stored.storageFaulted stored).symm.trans hhealthy
  | published healthy edit ready dev stored =>
      obtain ⟨r, hselected, hmatches⟩ := hbacked.memory hopen healthy
      rw [ready hready] at dev stored
      obtain ⟨himages, hnew⟩ :=
        dev.startable hbacked.images hselected hmatches (edit.edited hordered)
      refine ⟨himages, fun _ _ => ⟨_, hnew, ?_⟩⟩
      rw [show w'.db.manifest = _ from congrArg Stored.manifest stored]
      exact Matches.stored _
  | failed healthy edit ready dev stored =>
      obtain ⟨r, hselected, hmatches⟩ := hbacked.memory hopen healthy
      rw [ready hready] at dev
      refine ⟨dev.startable hbacked.images hselected hmatches (edit.edited hordered),
        fun _ hhealthy => ?_⟩
      cases (congrArg Stored.storageFaulted stored).symm.trans hhealthy
  | grown h stored dev =>
      refine ⟨by rw [dev]; exact hbacked.images, fun _ hhealthy => ?_⟩
      obtain ⟨r, hselected, hmatches⟩ := hbacked.memory hopen
        ((congrArg Stored.storageFaulted stored).symm.trans hhealthy)
      refine ⟨r, by rw [dev]; exact hselected, ?_⟩
      rw [show w'.db.manifest = _ from congrArg Stored.manifest stored]
      exact hmatches.moved _
  | applied happlied stored dev =>
      refine ⟨by rw [dev]; exact hbacked.images, fun _ hhealthy => ?_⟩
      obtain ⟨r, hselected, hmatches⟩ := hbacked.memory hopen
        ((congrArg Stored.storageFaulted stored).symm.trans hhealthy)
      refine ⟨r, by rw [dev]; exact hselected, ?_⟩
      rw [show w'.db.manifest = w.db.manifest from congrArg Stored.manifest stored]
      exact hmatches

end On9kvdb
