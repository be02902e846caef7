import On9kvdb.Store.Api
import On9kvdb.Store.Publish

/-!
# Images of a range that is being provisioned

Provisioning moves the manifest copies through four stages: the range is claimed by a first copy,
owned by both, half ready and ready.  Until it is owned the data files may be in any state between
blank and provisioned; from the first ready copy on they are complete.  `StartImage` collects the
blank range and the images of all stages, for any database id.
-/

namespace On9kvdb

variable (cfg : Config) (databaseId : ℕ)

/-! ## Records -/

/-- The manifest of a generation in the provisioning state. -/
def ownedRecord (generation : ℕ) : ManifestRecord :=
  nextManifest (initialManifest cfg databaseId) generation .provisioningOwned

variable {cfg databaseId}

lemma ownedRecord_withoutKeyRanges (generation : ℕ) :
    (ownedRecord cfg databaseId generation).withoutKeyRanges =
      ownedRecord cfg databaseId generation := rfl

lemma provisionedRecord_withoutKeyRanges (generation : ℕ) :
    (provisionedRecord cfg databaseId generation).withoutKeyRanges =
      provisionedRecord cfg databaseId generation := rfl

lemma activeTables_of_no_tables {r : ManifestRecord} (htables : r.tables = fun _ => none) :
    r.activeTables = [] := by
  unfold ManifestRecord.activeTables
  rw [htables, List.filterMap_eq_nil_iff]
  exact fun _ _ => rfl

/-- Without tables the encoder only looks at the scalar fields. -/
lemma encodable_of_no_tables {r : ManifestRecord} (htables : r.tables = fun _ => none)
    (hfields : r.generation ≠ 0 ∧ r.databaseId ≠ 0 ∧ r.activeTableBank < 2 ∧
      r.activeWalSlot < walFileCount ∧ 0 < r.nextTableGeneration)
    (hcapacity : validateCompactionCapacity r.geometry r.limits = true)
    (hstate : r.state = .provisioningOwned ∧ r.provisioningValid = true ∨
      r.state = .ready ∧ r.readyValid = true) : r.encodable = true := by
  have hactive := activeTables_of_no_tables htables
  obtain ⟨hgen, hid, hbank, hwal, hnext⟩ := hfields
  have hvalid : r.tableReferencesValid = true := by
    unfold ManifestRecord.tableReferencesValid
    rw [Bool.and_eq_true, List.all_eq_true]
    exact ⟨decide_eq_true hbank, fun slot _ => by rw [htables]⟩
  have hgreatest : r.greatestTableGeneration = 0 := by
    unfold ManifestRecord.greatestTableGeneration
    rw [hactive]
    rfl
  unfold ManifestRecord.encodable
  rw [hvalid, hactive, hgreatest]
  simp only [Bool.and_eq_true, bne_iff_ne, decide_eq_true_eq]
  refine ⟨⟨⟨⟨⟨⟨⟨⟨hgen, hid⟩, hcapacity⟩, hwal⟩, hnext.ne'⟩, trivial⟩, hnext⟩, rfl⟩, ?_⟩
  rcases hstate with ⟨hs, hv⟩ | ⟨hs, hv⟩
  · rw [hs]
    exact hv
  · rw [hs]
    exact hv

variable (cfg) in
lemma ownedRecord_encodable (hid : databaseId ≠ 0) {generation : ℕ} (hgen : generation ≠ 0) :
    (ownedRecord cfg databaseId generation).encodable = true := by
  refine encodable_of_no_tables rfl ⟨hgen, hid, Nat.two_pos, Nat.two_pos, Nat.one_pos⟩ cfg.valid
    (Or.inl ⟨rfl, ?_⟩)
  have hactive := activeTables_of_no_tables (r := ownedRecord cfg databaseId generation) rfl
  unfold ManifestRecord.provisioningValid
  rw [hactive]
  rfl

variable (cfg) in
lemma provisionedRecord_encodable (hid : databaseId ≠ 0) {generation : ℕ} (hgen : 3 ≤ generation) :
    (provisionedRecord cfg databaseId generation).encodable = true := by
  have hbank : ∀ bank, (provisionedRecord cfg databaseId generation).valueBankValid bank = true := by
    intro bank
    have hgeometry := cfg.geometry_valid
    unfold validateStorageGeometry at hgeometry
    simp only [Bool.and_eq_true, decide_eq_true_eq] at hgeometry
    have hsize : identityRegionSize ≤ cfg.geometry.valueBankSize := by omega
    unfold ManifestRecord.valueBankValid
    simp only [provisionedRecord, Bool.and_eq_true]
    exact ⟨⟨⟨rfl, decide_eq_true le_rfl⟩, decide_eq_true hsize⟩, rfl⟩
  refine encodable_of_no_tables rfl
    ⟨by show generation ≠ 0; omega, hid, Nat.two_pos, Nat.two_pos, Nat.one_pos⟩ cfg.valid
    (Or.inr ⟨rfl, ?_⟩)
  unfold ManifestRecord.readyValid
  rw [hbank 0, hbank 1, show decide (3 ≤ (provisionedRecord cfg databaseId generation).generation) =
    true from decide_eq_true hgen]
  rfl

/-! ## Stages -/

variable (cfg databaseId)

/-- The copies of a claimed range: only the first one has been written. -/
def claimedCopies : ℕ → Cell ManifestCopy :=
  Function.update (fun _ => .error .invalidMagic) 0
    (writtenOrBlank (encodeManifestRecord (ownedRecord cfg databaseId 1)))

/-- The copies of an owned range: both are in the provisioning state. -/
def ownedCopies : ℕ → Cell ManifestCopy :=
  Function.update (claimedCopies cfg databaseId) 1
    (writtenOrBlank (encodeManifestRecord (ownedRecord cfg databaseId 2)))

/-- The copies of a half ready range. -/
def halfReadyCopies : ℕ → Cell ManifestCopy :=
  Function.update (ownedCopies cfg databaseId) 0
    (writtenOrBlank (encodeManifestRecord (provisionedRecord cfg databaseId 3)))

/-- The media with these copies and provisioned files. -/
def filesMedia (copies : ℕ → Cell ManifestCopy) : Media :=
  { provisionedMedia cfg databaseId with manifestCopy := copies }

variable {cfg databaseId}

/-- A manifest copy as the image of its stage holds it. -/
lemma writtenOrBlank_encode {r : ManifestRecord} (h : r.encodable = true)
    (hstored : r.withoutKeyRanges = r) :
    writtenOrBlank (encodeManifestRecord r) = .ok ⟨r, h⟩ := by
  unfold encodeManifestRecord
  rw [dif_pos (by rw [hstored]; exact h)]
  simp only [hstored]
  rfl

lemma readyCopies :
    Function.update (halfReadyCopies cfg databaseId) 1
      (writtenOrBlank (encodeManifestRecord (provisionedRecord cfg databaseId 4))) =
      (provisionedMedia cfg databaseId).manifestCopy := by
  funext slot
  match slot with
  | 0 => rfl
  | 1 => rfl
  | slot + 2 => rfl

variable (cfg databaseId) in
/-- The files of an owned range: every identity and WAL header is blank or as it will be, and
nothing else has been written. -/
inductive Filling (copies : ℕ → Cell ManifestCopy) : Media → Prop
  | intro (identity : FileKind → ℕ → ℕ → Cell FileIdentity) (walHeader : ℕ → ℕ → Cell WalHeader)
      (hidentity : ∀ kind slot copySlot, identity kind slot copySlot = .error .invalidMagic ∨
        identity kind slot copySlot =
          (provisionedMedia cfg databaseId).identity kind slot copySlot)
      (hheader : ∀ slot copySlot, walHeader slot copySlot = .error .invalidMagic ∨
        walHeader slot copySlot = (provisionedMedia cfg databaseId).walHeader slot copySlot) :
      Filling copies { filesMedia cfg databaseId copies with
        identity := identity
        walHeader := walHeader }

variable (cfg) in
/-- **The images an interrupted `init` may leave.** -/
inductive StartImage : Media → Prop
  | blank (b : UInt8) : StartImage (blankMedia b)
  | claimed {databaseId : ℕ} {m : Media} (hid : databaseId ≠ 0)
      (h : Filling cfg databaseId (claimedCopies cfg databaseId) m) : StartImage m
  | owned {databaseId : ℕ} {m : Media} (hid : databaseId ≠ 0)
      (h : Filling cfg databaseId (ownedCopies cfg databaseId) m) : StartImage m
  | halfReady {databaseId : ℕ} (hid : databaseId ≠ 0) :
      StartImage (filesMedia cfg databaseId (halfReadyCopies cfg databaseId))
  | ready {databaseId : ℕ} (hid : databaseId ≠ 0) : StartImage (provisionedMedia cfg databaseId)

/-! ## What is loaded from them -/

/-- A copy in the slot of its generation is read as such. -/
lemma readManifestSlot_eq {m : Media} {slot : ℕ} {r : ManifestRecord} (h : r.encodable = true)
    (hstored : r.withoutKeyRanges = r) (hslot : manifestSlotOf r.generation = slot)
    (hcell : m.manifestCopy slot = writtenOrBlank (encodeManifestRecord r)) :
    readManifestSlot m slot = .ok (some r) := by
  unfold readManifestSlot
  rw [hcell, writtenOrBlank_encode h hstored]
  exact if_neg fun hne => hne hslot

lemma newerManifestFound_of_ok {m : Media} {slot : ℕ} {r : ManifestRecord}
    (h : r.encodable = true) (hstored : r.withoutKeyRanges = r)
    (hcell : m.manifestCopy slot = writtenOrBlank (encodeManifestRecord r)) :
    newerManifestFound m slot = false := by
  unfold newerManifestFound
  rw [hcell, writtenOrBlank_encode h hstored]

/-- Two written copies: the newer one is selected. -/
lemma loadManifest_of_both {m : Media} {r₀ r₁ : ManifestRecord}
    (h₀ : r₀.encodable = true) (h₁ : r₁.encodable = true)
    (hs₀ : r₀.withoutKeyRanges = r₀) (hs₁ : r₁.withoutKeyRanges = r₁)
    (hslot₀ : manifestSlotOf r₀.generation = 0) (hslot₁ : manifestSlotOf r₁.generation = 1)
    (hc₀ : m.manifestCopy 0 = writtenOrBlank (encodeManifestRecord r₀))
    (hc₁ : m.manifestCopy 1 = writtenOrBlank (encodeManifestRecord r₁)) :
    loadManifest m =
      (let (selected, older) := if r₀.generation < r₁.generation then (r₁, r₀) else (r₀, r₁)
      if manifestCopiesAgree older selected = false then .error .invalidCrc
      else .ok (selected, older.generation < selected.generation &&
        manifestNeedsStabilization older selected)) := by
  unfold loadManifest
  rw [readManifestSlot_eq h₀ hs₀ hslot₀ hc₀, readManifestSlot_eq h₁ hs₁ hslot₁ hc₁,
    newerManifestFound_of_ok h₀ hs₀ hc₀, newerManifestFound_of_ok h₁ hs₁ hc₁]
  simp only [ok_bind, Bool.false_eq_true, or_self, rejectIf_of_not, not_false_eq_true]
  by_cases hgen : r₀.generation < r₁.generation
  · simp only [hgen, if_true]
    split_ifs with hagree
    · rw [rejectIf_of hagree]
      rfl
    · rw [rejectIf_of_not hagree]
      rfl
  · simp only [hgen, if_false]
    split_ifs with hagree
    · rw [rejectIf_of hagree]
      rfl
    · rw [rejectIf_of_not hagree]
      rfl

lemma loadManifest_claimed (hid : databaseId ≠ 0) {m : Media}
    (h : m.manifestCopy = claimedCopies cfg databaseId) :
    loadManifest m = .ok (ownedRecord cfg databaseId 1, true) := by
  have h₀ := ownedRecord_encodable cfg hid one_ne_zero
  have hc₀ : m.manifestCopy 0 = writtenOrBlank (encodeManifestRecord (ownedRecord cfg databaseId 1)) := by
    rw [h]
    rfl
  have hc₁ : m.manifestCopy 1 = .error .invalidMagic := by
    rw [h]
    rfl
  have hsecond : readManifestSlot m 1 = .ok none := by
    unfold readManifestSlot
    rw [hc₁]
  have hnewer : newerManifestFound m 1 = false := by
    unfold newerManifestFound
    rw [hc₁]
    rfl
  unfold loadManifest
  rw [readManifestSlot_eq h₀ rfl (show manifestSlotOf 1 = 0 from rfl) hc₀, hsecond, newerManifestFound_of_ok h₀ rfl hc₀, hnewer]
  rfl

lemma loadManifest_owned (hid : databaseId ≠ 0) {m : Media}
    (h : m.manifestCopy = ownedCopies cfg databaseId) :
    loadManifest m = .ok (ownedRecord cfg databaseId 2, false) := by
  rw [loadManifest_of_both (ownedRecord_encodable cfg hid one_ne_zero)
    (ownedRecord_encodable cfg hid two_ne_zero) rfl rfl rfl rfl (by rw [h]; rfl) (by rw [h]; rfl)]
  have hagree : manifestCopiesAgree (ownedRecord cfg databaseId 1) (ownedRecord cfg databaseId 2) =
      true := by
    simp [manifestCopiesAgree, ownedRecord, initialManifest, ManifestRecord.blank]
  have hsettled : manifestNeedsStabilization (ownedRecord cfg databaseId 1)
      (ownedRecord cfg databaseId 2) = false := by
    simp [manifestNeedsStabilization, ownedRecord, initialManifest]
  have hgen : (ownedRecord cfg databaseId 1).generation < (ownedRecord cfg databaseId 2).generation :=
    Nat.one_lt_two
  simp only [hgen, if_true, hagree, hsettled, Bool.and_false, Bool.true_eq_false, if_false]

lemma loadManifest_halfReady (hid : databaseId ≠ 0) {m : Media}
    (h : m.manifestCopy = halfReadyCopies cfg databaseId) :
    loadManifest m = .ok (provisionedRecord cfg databaseId 3, true) := by
  rw [loadManifest_of_both (provisionedRecord_encodable cfg hid le_rfl)
    (ownedRecord_encodable cfg hid two_ne_zero) rfl rfl (show manifestSlotOf 3 = 0 from rfl)
    (show manifestSlotOf 2 = 1 from rfl) (by rw [h]; rfl) (by rw [h]; rfl)]
  have hagree : manifestCopiesAgree (ownedRecord cfg databaseId 2)
      (provisionedRecord cfg databaseId 3) = true := by
    simp [manifestCopiesAgree, ownedRecord, initialManifest, ManifestRecord.blank,
      provisionedRecord]
  have hunsettled : manifestNeedsStabilization (ownedRecord cfg databaseId 2)
      (provisionedRecord cfg databaseId 3) = true := by
    simp [manifestNeedsStabilization, ownedRecord, initialManifest, ManifestRecord.blank,
      provisionedRecord]
  have hgen : ¬ (provisionedRecord cfg databaseId 3).generation <
      (ownedRecord cfg databaseId 2).generation := by
    show ¬ 3 < 2
    omega
  have hgen' : (ownedRecord cfg databaseId 2).generation <
      (provisionedRecord cfg databaseId 3).generation := Nat.lt_succ_self 2
  simp only [hgen, if_false, hagree, hunsettled, hgen', decide_true, Bool.and_true,
    Bool.true_eq_false]

lemma loadManifest_ready (hid : databaseId ≠ 0) {m : Media}
    (h : m.manifestCopy = (provisionedMedia cfg databaseId).manifestCopy) :
    loadManifest m = .ok (provisionedRecord cfg databaseId 4, false) := by
  rw [loadManifest_of_both (provisionedRecord_encodable cfg hid le_rfl)
    (provisionedRecord_encodable cfg hid (Nat.le_succ 3)) rfl rfl
    (show manifestSlotOf 3 = 0 from rfl) (show manifestSlotOf 4 = 1 from rfl) (by rw [h]; rfl)
    (by rw [h]; rfl)]
  have hagree : manifestCopiesAgree (provisionedRecord cfg databaseId 3)
      (provisionedRecord cfg databaseId 4) = true := by
    simp [manifestCopiesAgree, provisionedRecord]
  have hsettled : manifestNeedsStabilization (provisionedRecord cfg databaseId 3)
      (provisionedRecord cfg databaseId 4) = false := by
    simp [manifestNeedsStabilization, provisionedRecord]
  have hgen : (provisionedRecord cfg databaseId 3).generation <
      (provisionedRecord cfg databaseId 4).generation := Nat.lt_succ_self 3
  simp only [hgen, if_true, hagree, hsettled, Bool.and_false, Bool.true_eq_false, if_false]

lemma manifestValidCopyCount_owned (hid : databaseId ≠ 0) {m : Media}
    (h : m.manifestCopy = ownedCopies cfg databaseId) : manifestValidCopyCount m = 2 := by
  have h₀ : m.manifestCopy 0 = .ok ⟨_, ownedRecord_encodable cfg hid one_ne_zero⟩ := by
    rw [h]
    exact writtenOrBlank_encode (ownedRecord_encodable cfg hid one_ne_zero) rfl
  have h₁ : m.manifestCopy 1 = .ok ⟨_, ownedRecord_encodable cfg hid two_ne_zero⟩ := by
    rw [h]
    exact writtenOrBlank_encode (ownedRecord_encodable cfg hid two_ne_zero) rfl
  unfold manifestValidCopyCount
  simp [List.range_succ, h₀, h₁]

lemma manifestValidCopyCount_claimed (hid : databaseId ≠ 0) {m : Media}
    (h : m.manifestCopy = claimedCopies cfg databaseId) : manifestValidCopyCount m = 1 := by
  have h₀ : m.manifestCopy 0 = .ok ⟨_, ownedRecord_encodable cfg hid one_ne_zero⟩ := by
    rw [h]
    exact writtenOrBlank_encode (ownedRecord_encodable cfg hid one_ne_zero) rfl
  have h₁ : m.manifestCopy 1 = .error .invalidMagic := by
    rw [h]
    rfl
  unfold manifestValidCopyCount
  simp [List.range_succ, h₀, h₁]

/-! ## Writes -/

variable (cfg databaseId) in
/-- The writes that fill an owned range. -/
def FillingWrite : Write → Prop
  | .identity kind slot copySlot record =>
      (provisionedMedia cfg databaseId).identity kind slot copySlot = .ok record
  | .walHeader slot copySlot header =>
      (provisionedMedia cfg databaseId).walHeader slot copySlot = .ok header
  | .tableHeaderMarker _ _ => True
  | .tableFooterMarker _ => True
  | _ => False

lemma update₂_blank {α : Type} (i j : ℕ) (a : α) : update₂ (fun _ _ => a) i j a = fun _ _ => a := by
  funext i' j'
  rw [update₂_apply, ite_self]

/-- Filling writes lead from one filling to another. -/
lemma keeps_filling {copies : ℕ → Cell ManifestCopy} {w : Write}
    (hw : FillingWrite cfg databaseId w) : Device.Keeps (Filling cfg databaseId copies) w := by
  rintro _ ⟨identity, walHeader, hidentity, hheader⟩ r
  have hsame : Filling cfg databaseId copies _ := .intro identity walHeader hidentity hheader
  cases w with
  | identity kind slot copySlot record =>
      cases r with
      | whole =>
          refine .intro (Function.update identity kind
            (update₂ (identity kind) slot copySlot (.ok record))) walHeader
            (fun kind' slot' copySlot' => ?_) hheader
          by_cases hkind : kind' = kind
          · subst hkind
            rw [Function.update_self, update₂_apply]
            split_ifs with hplace
            · rw [hplace.1, hplace.2]
              exact Or.inr hw.symm
            · exact hidentity _ _ _
          · rw [Function.update_of_ne hkind]
            exact hidentity _ _ _
      | _ => exact hsame
  | walHeader slot copySlot header =>
      cases r with
      | whole =>
          refine .intro identity (update₂ walHeader slot copySlot (.ok header)) hidentity
            fun slot' copySlot' => ?_
          rw [update₂_apply]
          split_ifs with hplace
          · rw [hplace.1, hplace.2]
            exact Or.inr hw.symm
          · exact hheader _ _
      | _ => exact hsame
  | tableHeaderMarker slot copySlot =>
      cases r with
      | whole =>
          have hblank := update₂_blank slot copySlot
            (Except.error FormatStatus.invalidMagic : Cell TableMetadataRecord)
          simp only [Write.remain, Write.apply, filesMedia, provisionedMedia, hblank]
          exact hsame
      | _ => exact hsame
  | tableFooterMarker slot =>
      cases r with
      | whole =>
          have hblank : Function.update (fun _ => Except.error FormatStatus.invalidMagic) slot
              (Except.error FormatStatus.invalidMagic : Cell TableMetadataRecord) = fun _ =>
                Except.error FormatStatus.invalidMagic := Function.update_eq_self slot _
          simp only [Write.remain, Write.apply, filesMedia, provisionedMedia, hblank]
          exact hsame
      | _ => exact hsame
  | _ => exact hw.elim

/-- A manifest copy moves a filling to the next stage. -/
lemma Filling.manifestCopy {copies : ℕ → Cell ManifestCopy} {m : Media}
    (h : Filling cfg databaseId copies m) (slot : ℕ) (copy : ManifestCopy) :
    Filling cfg databaseId (Function.update copies slot (.ok copy))
      ((Write.manifestCopy slot copy).apply m) := by
  obtain ⟨identity, walHeader, hidentity, hheader⟩ := h
  exact .intro identity walHeader hidentity hheader

end On9kvdb
