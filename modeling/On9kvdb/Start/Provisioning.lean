import On9kvdb.Start.Images

/-!
# Provisioning, step by step

What each part of `init` does to an image of a range that is being provisioned.  Every triple here
has the same error postcondition, `Troubled`: a part only fails when a device call does, and then
every image a power loss may leave is again one that `init` can start from.
-/

namespace On9kvdb

open Exceptional

variable {cfg : Config} {databaseId : ℕ}

/-! ## Failing and publishing -/

variable (cfg) in
/-- A device call has failed, and every image that may be left is an image to start from. -/
structure Troubled (w : World) : Prop where
  images : w.dev.Safe (StartImage cfg)
  failed : ¬ w.dev.Faultless

lemma Troubled.tick {w : World} {C : Media → Prop} (h : w.dev.Safe C)
    (hC : ∀ m, C m → StartImage cfg m) (hfault : w.dev.fault ≠ .none) :
    Troubled cfg { w with dev := w.dev.tick } :=
  ⟨(h.mono hC).tick, fun hd => hfault (hd w.dev.clock)⟩

/-- A read that rejects nothing in `C` only fails with the device. -/
lemma triple_readSafe {α : Type} {decode : Db → Media → Except EspErr α} {C : Media → Prop}
    {P : World → Prop} {Q : α → World → Prop} (hC : ∀ m, C m → StartImage cfg m)
    (hP : ∀ w, P w → w.dev.Safe C)
    (hdecode : ∀ w, P w → ∃ a, decode w.db w.dev.current = .ok a)
    (hok : ∀ w a, P w → decode w.db w.dev.current = .ok a → Q a { w with dev := w.dev.tick }) :
    Triple P (readStorage decode) Q (fun _ => Troubled cfg) := by
  refine Triple.inspect (fun w a hw _ hread => hok w a hw hread) (fun w e hw hread => ?_)
    fun w hw hfault => .tick (hP w hw) hC hfault
  obtain ⟨a, ha⟩ := hdecode w hw
  rw [ha] at hread
  cases hread

/-- **A stage of provisioning.**  The publication of `r` moves every image from `C` to `C'`. -/
theorem triple_publishStage {w₀ : World} {generation : ℕ} {state : ManifestState}
    (r : ManifestRecord) {C C' : Media → Prop} (hsafe : w₀.dev.Safe C)
    (hpublishable : publishable w₀.db.manifest generation state = true)
    (hr : nextManifest w₀.db.manifest generation state = r) (hstored : r.withoutKeyRanges = r)
    (hmove : ∀ copy : ManifestCopy, copy.record = r → ∀ m, C m ∨ C' m →
      C' ((Write.manifestCopy (manifestSlotOf generation) copy).apply m))
    (himage : ∀ m, C m ∨ C' m → StartImage cfg m) :
    Triple (· = w₀) (writeManifestCopy generation state)
      (fun _ w => w.db = { w₀.db with manifest := r } ∧ w.dev.Safe C')
      (fun _ => Troubled cfg) := by
  have hmove' : ∀ (h : publishable w₀.db.manifest generation state = true) (m : Media),
      C m ∨ C' m → C' ((publication h).apply m) := fun h =>
    hmove (publishedCopy h) ((congrArg ManifestRecord.withoutKeyRanges hr).trans hstored)
  refine (triple_writeManifestCopy_outcome w₀ generation state).conseq (fun _ hw => hw)
    (fun _ w hw => ?_) fun _ w hw => ?_
  · obtain ⟨h, hnone, -, rfl⟩ := hw
    exact ⟨by rw [hr], hsafe.written hnone fun m hm => hmove' h m (Or.inl hm)⟩
  · rcases hw with ⟨-, hnot⟩ | ⟨h, -, hfailed⟩
    · rw [hpublishable] at hnot
      cases hnot
    · have hkeeps : Device.Keeps (fun m => C m ∨ C' m) (publication h) := fun m hm r => by
        cases r with
        | whole => exact Or.inr (hmove' h m hm)
        | _ => exact hm
      have himages : (w₀.dev.write (publication h)).2.Safe (StartImage cfg) :=
        ((hsafe.mono fun m => Or.inl).write hkeeps).mono himage
      refine ⟨?_, hfailed.not_faultless⟩
      rcases hfailed with ⟨hdev, -⟩ | ⟨hdev, -⟩
      · rw [hdev]
        exact himages
      · rw [hdev]
        exact himages.tick

/-! ## Claiming the range -/

lemma written_eq {r : ManifestRecord} {copy : ManifestCopy} (h : copy.record = r)
    (hstored : r.withoutKeyRanges = r) : writtenOrBlank (encodeManifestRecord r) = .ok copy := by
  subst h
  exact writtenOrBlank_encode copy.valid hstored

lemma publishable_of (generation : ℕ) {m : ManifestRecord} {state : ManifestState}
    (hid : m.databaseId ≠ 0) (hm : m.generation = generation) (hmax : generation ≠ uint64Max)
    (hnext : (nextManifest m (generation + 1) state).withoutKeyRanges.encodable = true) :
    publishable m (generation + 1) state = true := by
  unfold publishable
  rw [hm, hnext]
  simp only [Bool.and_eq_true, bne_iff_ne, beq_iff_eq]
  exact ⟨⟨⟨⟨Nat.succ_ne_zero _, hid⟩, hmax⟩, trivial⟩, trivial⟩

/-- Writing the copy of a stage again changes nothing. -/
lemma Filling.again {copies : ℕ → Cell ManifestCopy} {slot : ℕ} {copy : ManifestCopy} {m : Media}
    (h : Filling cfg databaseId (Function.update copies slot (.ok copy)) m) :
    Filling cfg databaseId (Function.update copies slot (.ok copy))
      ((Write.manifestCopy slot copy).apply m) := by
  have hnext := h.manifestCopy slot copy
  rwa [Function.update_idem] at hnext

variable (cfg databaseId) in
/-- The range is owned: both copies are in the provisioning state, and so is the memory. -/
structure Owned (w : World) : Prop where
  manifest : w.db.manifest = ownedRecord cfg databaseId 2
  images : w.dev.Safe (Filling cfg databaseId (ownedCopies cfg databaseId))

/-- The first copy claims a blank range. -/
lemma triple_claim {w₀ : World} {b : UInt8} (hid : databaseId ≠ 0)
    (hmanifest : w₀.db.manifest = initialManifest cfg databaseId)
    (hsafe : w₀.dev.Safe (· = blankMedia b)) :
    Triple (· = w₀) (writeManifestCopy 1 .provisioningOwned)
      (fun _ w => w.db.manifest = ownedRecord cfg databaseId 1 ∧
        w.dev.Safe (Filling cfg databaseId (claimedCopies cfg databaseId)))
      (fun _ => Troubled cfg) := by
  have hencodable := ownedRecord_encodable cfg hid one_ne_zero
  refine (triple_publishStage (ownedRecord cfg databaseId 1) hsafe ?_ (by rw [hmanifest]; rfl)
    rfl (fun copy hcopy m hm => ?_) fun m hm => ?_).conseq (fun _ hw => hw)
    (fun _ w hw => ⟨by rw [hw.1], hw.2⟩) fun _ _ hw => hw
  · rw [hmanifest]
    exact publishable_of (m := initialManifest cfg databaseId) 0 hid rfl (by decide) hencodable
  · have hcopies : claimedCopies cfg databaseId =
        Function.update (fun _ => .error .invalidMagic) 0 (.ok copy) := by
      unfold claimedCopies
      rw [written_eq hcopy rfl]
    rw [hcopies] at hm ⊢
    rcases hm with rfl | hm
    · exact .intro (fun _ _ _ => .error .invalidMagic) (fun _ _ => .error .invalidMagic)
        (fun _ _ _ => Or.inl rfl) fun _ _ => Or.inl rfl
    · exact hm.again
  · rcases hm with rfl | hm
    · exact .blank b
    · exact .claimed hid hm

/-- The second copy completes the claim. -/
lemma triple_own {w₀ : World} (hid : databaseId ≠ 0)
    (hmanifest : w₀.db.manifest = ownedRecord cfg databaseId 1)
    (hsafe : w₀.dev.Safe (Filling cfg databaseId (claimedCopies cfg databaseId))) :
    Triple (· = w₀) (writeManifestCopy 2 .provisioningOwned)
      (fun _ => Owned cfg databaseId) (fun _ => Troubled cfg) := by
  have hencodable := ownedRecord_encodable cfg hid two_ne_zero
  refine (triple_publishStage (ownedRecord cfg databaseId 2) hsafe ?_ (by rw [hmanifest]; rfl)
    rfl (fun copy hcopy m hm => ?_) fun m hm => ?_).conseq (fun _ hw => hw)
    (fun _ w hw => ⟨by rw [hw.1], hw.2⟩) fun _ _ hw => hw
  · rw [hmanifest]
    exact publishable_of (m := ownedRecord cfg databaseId 1) 1 hid rfl (by decide) hencodable
  · have hcopies : ownedCopies cfg databaseId =
        Function.update (claimedCopies cfg databaseId) 1 (.ok copy) := by
      unfold ownedCopies
      rw [written_eq hcopy rfl]
    rw [hcopies] at hm ⊢
    rcases hm with hm | hm
    · exact hm.manifestCopy 1 copy
    · exact hm.again
  · rcases hm with hm | hm
    · exact .claimed hid hm
    · exact .owned hid hm

lemma triple_randomDatabaseId {C : Media → Prop} {E : EspErr → World → Prop} :
    Triple (fun w => w.dev.Safe C) randomDatabaseId (fun id w => w.dev.Safe C ∧ id ≠ 0) E :=
  fun w hw => ⟨hw.tick, (w.dev.entropy w.dev.clock).2⟩

lemma triple_createManifest (b : UInt8) :
    Triple (fun w => w.dev.Safe (· = blankMedia b)) (createManifest cfg)
      (fun _ w => ∃ databaseId, databaseId ≠ 0 ∧ Owned cfg databaseId w) (fun _ => Troubled cfg) := by
  unfold createManifest
  refine .bind triple_randomDatabaseId fun databaseId => .of_pure (fun w hw => hw.2) fun hid => ?_
  refine .bind (Q := fun _ w => w.db.manifest = initialManifest cfg databaseId ∧
      w.dev.Safe (· = blankMedia b)) (Triple.modifyDb fun w hw => ⟨rfl, hw.1⟩) fun _ => ?_
  refine .bind (.of_state fun w hw => triple_claim hid hw.1 hw.2) fun _ =>
    .of_state fun w hw => ?_
  exact (triple_own hid hw.1 hw.2).conseq (fun _ h => h) (fun _ _ h => ⟨databaseId, hid, h⟩)
    fun _ _ h => h

/-! ## Filling the files -/

lemma Owned.image {w : World} (hid : databaseId ≠ 0) (h : Owned cfg databaseId w) :
    w.dev.Safe (StartImage cfg) := h.images.mono fun _ => .owned hid

/-- One write of the filling; `K` follows what the current image already holds. -/
lemma triple_fillingWrite (hid : databaseId ≠ 0) {write : Write}
    (hw : FillingWrite cfg databaseId write) {K L : Media → Prop}
    (hK : ∀ m, K m → L (write.apply m)) :
    Triple (fun w => Owned cfg databaseId w ∧ K w.dev.current) (writeStorage write)
      (fun _ w => Owned cfg databaseId w ∧ L w.dev.current) (fun _ => Troubled cfg) := by
  refine Triple.writeStorage (fun w hown hnone => ?_) fun w hown hfault => ?_
  · refine ⟨⟨hown.1.manifest, hown.1.images.write (keeps_filling hw)⟩, ?_⟩
    show L (w.dev.write write).2.current
    rw [Device.current_write_of_none hnone]
    exact hK _ hown.2
  · refine ⟨(hown.1.images.write (keeps_filling hw)).mono fun _ => .owned hid, fun hd => hfault ?_⟩
    have hnone := hd w.dev.clock
    rwa [Device.faults_write] at hnone

lemma triple_fillingSync (hid : databaseId ≠ 0) {K : Media → Prop} :
    Triple (fun w => Owned cfg databaseId w ∧ K w.dev.current) syncStorage
      (fun _ w => Owned cfg databaseId w ∧ K w.dev.current) (fun _ => Troubled cfg) :=
  Triple.syncStorage (fun _ hw _ => ⟨⟨hw.1.manifest, hw.1.images.flushed⟩, hw.2⟩)
    fun _ hw hfault => .tick hw.1.images (fun _ => .owned hid) hfault

variable (cfg) in
/-- The identity copy of a provisioned file. -/
lemma identity_provisioned (hid : databaseId ≠ 0) {kind : FileKind} {slot copySlot : ℕ}
    (hslot : slot < cfg.geometry.dataFileCount kind) (hcopy : copySlot < identitySlotCount) :
    ∃ record, encodeFileIdentity 1 databaseId (cfg.geometry.dataFileSize kind) slot = some record ∧
      (provisionedMedia cfg databaseId).identity kind slot copySlot = .ok record ∧
      identityMatches record databaseId (cfg.geometry.dataFileSize kind) slot = true := by
  have hgeometry := cfg.geometry_valid
  have hsizes := cfg.sizes
  unfold validateStorageGeometry at hgeometry
  simp only [Bool.and_eq_true, decide_eq_true_eq, beq_iff_eq] at hgeometry
  have hsize : identityRegionSize < cfg.geometry.dataFileSize kind ∧
      cfg.geometry.dataFileSize kind ≤ maxStorageObjectSize ∧
      cfg.geometry.dataFileSize kind % formatAlignment = 0 := by
    cases kind with
    | wal =>
        simp only [StorageGeometry.dataFileSize, identityRegionSize, walRecordRegionOffset,
          walFrameSize, formatAlignment, maxStorageObjectSize, uint32Max] at *
        omega
    | table =>
        simp only [StorageGeometry.dataFileSize, identityRegionSize,
          formatAlignment, maxStorageObjectSize, uint32Max] at *
        omega
    | valueBank =>
        simp only [StorageGeometry.dataFileSize, identityRegionSize,
          formatAlignment, maxStorageObjectSize, uint32Max] at *
        omega
  have hvalid : ((1 : ℕ) != 0 && databaseId != 0 &&
      identityRegionSize < cfg.geometry.dataFileSize kind &&
      cfg.geometry.dataFileSize kind ≤ maxStorageObjectSize &&
      cfg.geometry.dataFileSize kind % formatAlignment == 0) = true := by
    simp only [Bool.and_eq_true, bne_iff_ne, decide_eq_true_eq, beq_iff_eq]
    exact ⟨⟨⟨⟨one_ne_zero, hid⟩, hsize.1⟩, hsize.2.1⟩, hsize.2.2⟩
  have hencode : encodeFileIdentity 1 databaseId (cfg.geometry.dataFileSize kind) slot =
      some ⟨1, databaseId, cfg.geometry.dataFileSize kind, slot, hvalid⟩ := dif_pos hvalid
  refine ⟨_, hencode, ?_, ?_⟩
  · show writtenOrBlank (if _ then _ else none) = _
    rw [if_pos ⟨hslot, hcopy⟩, hencode]
    rfl
  · unfold identityMatches
    simp only [Bool.and_eq_true, beq_iff_eq, and_self]

/-- A copy of an owned range that is not blank is valid. -/
lemma readFileIdentity_filling (hid : databaseId ≠ 0) {m : Media} (manifest : ManifestRecord)
    {kind : FileKind} {slot copySlot : ℕ} (hmanifest : manifest.databaseId = databaseId)
    (hgeometry : manifest.geometry = cfg.geometry)
    (hslot : slot < cfg.geometry.dataFileCount kind) (hcopy : copySlot < identitySlotCount)
    (hcell : m.identity kind slot copySlot = .error .invalidMagic ∨
      m.identity kind slot copySlot =
        (provisionedMedia cfg databaseId).identity kind slot copySlot) :
    ∃ valid, readFileIdentity m manifest kind slot copySlot = .ok valid ∧
      (valid = true ↔ m.identity kind slot copySlot =
        (provisionedMedia cfg databaseId).identity kind slot copySlot) := by
  obtain ⟨record, -, hfinal, hmatches⟩ := identity_provisioned cfg hid hslot hcopy
  unfold readFileIdentity
  rw [hmanifest, hgeometry, hfinal]
  rcases hcell with hcell | hcell
  · rw [hcell]
    exact ⟨false, rfl, by simp⟩
  · rw [hcell, hfinal]
    dsimp only
    rw [hmatches]
    exact ⟨true, rfl, by simp⟩

variable (cfg databaseId) in
/-- The identity copy is in place. -/
def Identified (kind : FileKind) (slot copySlot : ℕ) (m : Media) : Prop :=
  m.identity kind slot copySlot = (provisionedMedia cfg databaseId).identity kind slot copySlot

variable (cfg databaseId) in
/-- What no filling write undoes. -/
def Kept (K : Media → Prop) : Prop :=
  ∀ m w, FillingWrite cfg databaseId w → K m → K (w.apply m)

lemma Kept.and {K K' : Media → Prop} (h : Kept cfg databaseId K) (h' : Kept cfg databaseId K') :
    Kept cfg databaseId fun m => K m ∧ K' m :=
  fun m w hw hm => ⟨h m w hw hm.1, h' m w hw hm.2⟩

lemma kept_forall {ι : Type} {p : ι → Prop} {K : ι → Media → Prop}
    (h : ∀ i, p i → Kept cfg databaseId (K i)) :
    Kept cfg databaseId fun m => ∀ i, p i → K i m :=
  fun m w hw hm i hi => h i hi m w hw (hm i hi)

lemma kept_identified (kind : FileKind) (slot copySlot : ℕ) :
    Kept cfg databaseId (Identified cfg databaseId kind slot copySlot) := by
  intro m w hw hm
  cases w with
  | identity kind' slot' copySlot' record =>
      unfold Identified
      show Function.update m.identity kind' _ kind slot copySlot = _
      by_cases hkind : kind = kind'
      · subst hkind
        rw [Function.update_self, update₂_apply]
        split_ifs with hplace
        · rw [hplace.1, hplace.2]
          exact hw.symm
        · exact hm
      · rw [Function.update_of_ne hkind]
        exact hm
  | walHeader => exact hm
  | tableHeaderMarker => exact hm
  | tableFooterMarker => exact hm
  | _ => exact hw.elim

section
variable {K : Media → Prop}

lemma triple_writeFileIdentityCopy (hid : databaseId ≠ 0) (hK : Kept cfg databaseId K)
    {kind : FileKind} {slot copySlot : ℕ} (hslot : slot < cfg.geometry.dataFileCount kind)
    (hcopy : copySlot < identitySlotCount) :
    Triple (fun w => Owned cfg databaseId w ∧ K w.dev.current)
      (writeFileIdentityCopy kind slot copySlot)
      (fun _ w => Owned cfg databaseId w ∧ K w.dev.current ∧
        Identified cfg databaseId kind slot copySlot w.dev.current)
      (fun _ => Troubled cfg) := by
  obtain ⟨record, hencode, hfinal, -⟩ := identity_provisioned cfg hid hslot hcopy
  unfold writeFileIdentityCopy
  refine .bind (Q := fun _ w => Owned cfg databaseId w ∧ K w.dev.current)
    (Triple.failIf (fun w hw _ => hw) fun w _ hle => absurd hcopy (not_lt.mpr hle)) fun _ =>
    .bind (Q := fun db w => (Owned cfg databaseId w ∧ K w.dev.current) ∧
        db.manifest = ownedRecord cfg databaseId 2)
      (Triple.getDb fun w hw => ⟨hw, hw.1.manifest⟩) fun db =>
    .of_pure (fun w hw => hw.2) fun hdb => ?_
  rw [show encodeFileIdentity 1 db.manifest.databaseId (db.manifest.geometry.dataFileSize kind) slot =
    some record by rw [hdb]; exact hencode]
  have hwrite : FillingWrite cfg databaseId (.identity kind slot copySlot record) := hfinal
  have hstep := triple_fillingWrite hid hwrite (K := K)
    (L := fun m => K m ∧ Identified cfg databaseId kind slot copySlot m) fun m hm =>
      ⟨hK m _ hwrite hm, ?_⟩
  · exact hstep.pre fun _ hw => hw.1
  unfold Identified
  rw [hfinal]
  show Function.update m.identity kind _ kind slot copySlot = _
  rw [Function.update_self, update₂_apply, if_pos ⟨rfl, rfl⟩]

lemma triple_writeTableMarkers (hid : databaseId ≠ 0) (hK : Kept cfg databaseId K)
    (kind : FileKind) (slot : ℕ) :
    Triple (fun w => Owned cfg databaseId w ∧ K w.dev.current) (writeTableMarkers kind slot)
      (fun _ w => Owned cfg databaseId w ∧ K w.dev.current) (fun _ => Troubled cfg) := by
  have hstep : ∀ w : Write, FillingWrite cfg databaseId w →
      Triple (fun w => Owned cfg databaseId w ∧ K w.dev.current) (writeStorage w)
        (fun _ w => Owned cfg databaseId w ∧ K w.dev.current) (fun _ => Troubled cfg) :=
    fun w hw => triple_fillingWrite hid hw fun m hm => hK m w hw hm
  unfold writeTableMarkers
  exact .ite (fun _ => .bind (hstep _ trivial) fun _ => .bind (hstep _ trivial) fun _ =>
    .bind (hstep _ trivial) fun _ => triple_fillingSync hid) fun _ => .pure fun _ hw => hw

lemma loadFileIdentity_filling (hid : databaseId ≠ 0) {kind : FileKind} {slot : ℕ} {w : World}
    (hslot : slot < cfg.geometry.dataFileCount kind) (hw : Owned cfg databaseId w) :
    ∃ valid, loadFileIdentity w.dev.current w.db.manifest kind slot = .ok valid ∧
      (valid.1 = true ↔ Identified cfg databaseId kind slot 0 w.dev.current) ∧
      (valid.2 = true ↔ Identified cfg databaseId kind slot 1 w.dev.current) := by
  have hcell : ∀ copySlot, w.dev.current.identity kind slot copySlot = .error .invalidMagic ∨
      w.dev.current.identity kind slot copySlot =
        (provisionedMedia cfg databaseId).identity kind slot copySlot := by
    intro copySlot
    have hcurrent := hw.images.current
    generalize w.dev.current = m at hcurrent ⊢
    obtain ⟨identity, walHeader, hidentity, -⟩ := hcurrent
    exact hidentity kind slot copySlot
  have hmanifest := hw.manifest
  obtain ⟨first, hfirst, hfirst'⟩ := readFileIdentity_filling hid w.db.manifest
    (by rw [hmanifest]; rfl) (by rw [hmanifest]; rfl) hslot (by decide : 0 < identitySlotCount)
    (hcell 0)
  obtain ⟨second, hsecond, hsecond'⟩ := readFileIdentity_filling hid w.db.manifest
    (by rw [hmanifest]; rfl) (by rw [hmanifest]; rfl) hslot (by decide : 1 < identitySlotCount)
    (hcell 1)
  refine ⟨(first, second), ?_, hfirst', hsecond'⟩
  unfold loadFileIdentity
  rw [hfirst, hsecond]
  rfl

lemma Owned.tick {w : World} (h : Owned cfg databaseId w) :
    Owned cfg databaseId { w with dev := w.dev.tick } := ⟨h.manifest, h.images.tick⟩

/-- One identity copy is written unless it is there. -/
lemma triple_writeUnlessValid (hid : databaseId ≠ 0) (hK : Kept cfg databaseId K)
    {kind : FileKind} {slot : ℕ} (hslot : slot < cfg.geometry.dataFileCount kind) (copySlot : ℕ)
    (hcopy : copySlot < identitySlotCount) (valid : Bool) :
    Triple (fun w => Owned cfg databaseId w ∧ K w.dev.current ∧
        (valid = true → Identified cfg databaseId kind slot copySlot w.dev.current))
      (writeUnlessValid valid kind slot copySlot)
      (fun _ w => Owned cfg databaseId w ∧ K w.dev.current ∧
        Identified cfg databaseId kind slot copySlot w.dev.current)
      (fun _ => Troubled cfg) := by
  unfold writeUnlessValid
  refine .ite (fun _ => (triple_writeFileIdentityCopy hid hK hslot hcopy).pre fun w hw =>
    ⟨hw.1, hw.2.1⟩) fun hvalid => .pure fun w hw => ⟨hw.1, hw.2.1, hw.2.2 ?_⟩
  rwa [Bool.not_eq_false] at hvalid

/-- Behind the missing copies both copies are in place, and read back as such. -/
lemma triple_writeMissingIdentities (hid : databaseId ≠ 0) (hK : Kept cfg databaseId K)
    {kind : FileKind} {slot : ℕ} (hslot : slot < cfg.geometry.dataFileCount kind)
    (valid : Bool × Bool) :
    Triple (fun w => Owned cfg databaseId w ∧ K w.dev.current ∧
        (valid.1 = true → Identified cfg databaseId kind slot 0 w.dev.current) ∧
        (valid.2 = true → Identified cfg databaseId kind slot 1 w.dev.current))
      (writeMissingIdentities kind slot valid)
      (fun _ w => Owned cfg databaseId w ∧ (K w.dev.current ∧
        Identified cfg databaseId kind slot 0 w.dev.current) ∧
        Identified cfg databaseId kind slot 1 w.dev.current)
      (fun _ => Troubled cfg) := by
  unfold writeMissingIdentities
  have hK₁ : Kept cfg databaseId fun m => K m ∧
      (valid.2 = true → Identified cfg databaseId kind slot 1 m) :=
    hK.and fun m w hw hm hv => kept_identified kind slot 1 m w hw (hm hv)
  have hK₀ := hK.and (kept_identified kind slot 0)
  have hfirst := triple_writeUnlessValid hid hK₁ hslot 0 (by decide) valid.1
  have hsecond := triple_writeUnlessValid hid hK₀ hslot 1 (by decide) valid.2
  refine .bind (hfirst.pre fun w hw => ⟨hw.1, ⟨hw.2.1, hw.2.2.2⟩, hw.2.2.1⟩) fun _ =>
    .bind (hsecond.pre fun w hw => ⟨hw.1, ⟨hw.2.1.1, hw.2.2⟩, hw.2.1.2⟩) fun _ =>
    .bind (triple_fillingSync hid (K := fun m => (K m ∧ Identified cfg databaseId kind slot 0 m) ∧
      Identified cfg databaseId kind slot 1 m)) fun _ => ?_
  refine .bind (Q := fun final w => (Owned cfg databaseId w ∧
      (K w.dev.current ∧ Identified cfg databaseId kind slot 0 w.dev.current) ∧
        Identified cfg databaseId kind slot 1 w.dev.current) ∧ final = (true, true))
    (triple_readSafe (fun _ => .owned hid) (fun w hw => hw.1.images) (fun w hw => ?_)
      fun w final hw hread => ⟨⟨hw.1.tick, hw.2⟩, ?_⟩) fun final =>
    .of_pure (fun w hw => hw.2) ?_
  · obtain ⟨valid, hload, -⟩ := loadFileIdentity_filling hid hslot hw.1
    exact ⟨valid, hload⟩
  · obtain ⟨valid, hload, hfirst, hsecond⟩ := loadFileIdentity_filling hid hslot hw.1
    rw [hload, Except.ok.injEq] at hread
    rw [← hread]
    exact Prod.ext (hfirst.mpr hw.2.1.2) (hsecond.mpr hw.2.2)
  · rintro rfl
    exact .bind (Triple.failIf (fun w hw _ => hw.1) fun w _ h => by cases h) fun _ =>
      Triple.failIf (fun w hw _ => hw) fun w _ h => by simp at h

/-- **One data file** of an owned range is provisioned. -/
lemma triple_provisionOneDataFile (hid : databaseId ≠ 0) (hK : Kept cfg databaseId K)
    {kind : FileKind} {slot : ℕ} (hslot : slot < cfg.geometry.dataFileCount kind) :
    Triple (fun w => Owned cfg databaseId w ∧ K w.dev.current) (provisionOneDataFile kind slot)
      (fun _ w => Owned cfg databaseId w ∧ (K w.dev.current ∧
        Identified cfg databaseId kind slot 0 w.dev.current) ∧
        Identified cfg databaseId kind slot 1 w.dev.current)
      (fun _ => Troubled cfg) := by
  unfold provisionOneDataFile
  have hvalid : ∀ valid : Bool × Bool, Kept cfg databaseId fun m => K m ∧
      (valid.1 = true → Identified cfg databaseId kind slot 0 m) ∧
      (valid.2 = true → Identified cfg databaseId kind slot 1 m) := fun valid =>
    hK.and fun m w hw hm => ⟨fun hv => kept_identified kind slot 0 m w hw (hm.1 hv),
      fun hv => kept_identified kind slot 1 m w hw (hm.2 hv)⟩
  refine .bind (Q := fun valid w => Owned cfg databaseId w ∧ K w.dev.current ∧
      (valid.1 = true → Identified cfg databaseId kind slot 0 w.dev.current) ∧
      (valid.2 = true → Identified cfg databaseId kind slot 1 w.dev.current))
    (triple_readSafe (fun _ => .owned hid) (fun w hw => hw.1.images) (fun w hw => ?_)
      fun w valid hw hread => ?_) fun valid => ?_
  · obtain ⟨valid, hload, -⟩ := loadFileIdentity_filling hid hslot hw.1
    exact ⟨valid, hload⟩
  · obtain ⟨valid', hload, hfirst, hsecond⟩ := loadFileIdentity_filling hid hslot hw.1
    rw [hload, Except.ok.injEq] at hread
    subst hread
    exact ⟨hw.1.tick, hw.2, hfirst.mp, hsecond.mp⟩
  · refine .bind (Q := fun db w => (Owned cfg databaseId w ∧ K w.dev.current ∧
        (valid.1 = true → Identified cfg databaseId kind slot 0 w.dev.current) ∧
        (valid.2 = true → Identified cfg databaseId kind slot 1 w.dev.current)) ∧
        db.manifest.state = .provisioningOwned)
      (Triple.getDb fun w hw => ⟨hw, by rw [hw.1.manifest]; rfl⟩) fun db =>
      .of_pure (fun w hw => hw.2) fun hstate => ?_
    rw [if_pos hstate]
    refine Triple.pre ?_ fun w hw => hw.1
    exact .bind (triple_writeTableMarkers hid (hvalid valid) kind slot) fun _ =>
      triple_writeMissingIdentities hid hK hslot valid

end

/-! ## All files -/

variable (cfg databaseId) in
/-- Both identity copies of these files are in place. -/
def FilesIdentified (kind : FileKind) (slots : List ℕ) (m : Media) : Prop :=
  ∀ slot, slot ∈ slots → Identified cfg databaseId kind slot 0 m ∧
    Identified cfg databaseId kind slot 1 m

lemma kept_filesIdentified (kind : FileKind) (slots : List ℕ) :
    Kept cfg databaseId (FilesIdentified cfg databaseId kind slots) :=
  kept_forall fun slot _ => (kept_identified kind slot 0).and (kept_identified kind slot 1)

lemma triple_provisionDataFiles (hid : databaseId ≠ 0) {kind : FileKind} {slots : List ℕ}
    (hslots : ∀ slot ∈ slots, slot < cfg.geometry.dataFileCount kind) {K : Media → Prop}
    (hK : Kept cfg databaseId K) :
    Triple (fun w => Owned cfg databaseId w ∧ K w.dev.current) (provisionDataFiles kind slots)
      (fun _ w => Owned cfg databaseId w ∧ K w.dev.current ∧
        FilesIdentified cfg databaseId kind slots w.dev.current)
      (fun _ => Troubled cfg) := by
  induction slots generalizing K with
  | nil => exact .pure fun w hw => ⟨hw.1, hw.2, fun slot hslot => by cases hslot⟩
  | cons slot rest ih =>
      have hfirst := triple_provisionOneDataFile hid hK (hslots slot List.mem_cons_self)
      have hrest := ih (fun s hs => hslots s (List.mem_cons_of_mem _ hs))
        ((hK.and (kept_identified kind slot 0)).and (kept_identified kind slot 1))
      refine .bind hfirst fun _ => hrest.conseq (fun _ hw => hw) (fun _ w hw => ?_) fun _ _ hw => hw
      obtain ⟨hown, ⟨⟨hkept, h₀⟩, h₁⟩, hfiles⟩ := hw
      refine ⟨hown, hkept, fun s hs => ?_⟩
      rcases List.mem_cons.mp hs with rfl | hs
      · exact ⟨h₀, h₁⟩
      · exact hfiles s hs

variable (cfg databaseId) in
/-- The identities of all data files are in place. -/
def AllIdentified (m : Media) : Prop :=
  ∀ kind slot copySlot, m.identity kind slot copySlot =
    (provisionedMedia cfg databaseId).identity kind slot copySlot

/-- Copies outside the files of the geometry stay blank. -/
lemma allIdentified_of_files {m : Media}
    (hm : Filling cfg databaseId (ownedCopies cfg databaseId) m)
    (h : ∀ kind, FilesIdentified cfg databaseId kind
      (List.range (cfg.geometry.dataFileCount kind)) m) : AllIdentified cfg databaseId m := by
  intro kind slot copySlot
  by_cases hplace : slot < cfg.geometry.dataFileCount kind ∧ copySlot < identitySlotCount
  · obtain ⟨h₀, h₁⟩ := h kind slot (List.mem_range.mpr hplace.1)
    match copySlot with
    | 0 => exact h₀
    | 1 => exact h₁
    | copySlot + 2 => exact absurd hplace.2 (by simp)
  · have hblank : (provisionedMedia cfg databaseId).identity kind slot copySlot =
        .error .invalidMagic := by
      show writtenOrBlank (if _ then _ else none) = _
      rw [if_neg hplace]
      rfl
    obtain ⟨identity, walHeader, hidentity, -⟩ := hm
    rcases hidentity kind slot copySlot with hcell | hcell
    · rw [hblank]
      exact hcell
    · exact hcell

/-! ## The first WAL header -/

variable (cfg) in
/-- The first WAL header of a provisioned database. -/
lemma walHeader_provisioned (hid : databaseId ≠ 0) :
    ∃ header, encodeWalHeader databaseId 1 1 0 cfg.geometry.walSize = some header ∧
      header.databaseId = databaseId ∧ header.slot = 0 ∧ header.generation = 1 ∧
      header.recordRegionEnd = cfg.geometry.walSize ∧ header.firstTransactionSequence = 1 ∧
      ∀ copySlot < walHeaderSlotCount,
        (provisionedMedia cfg databaseId).walHeader 0 copySlot = .ok header := by
  obtain ⟨hsize, hframes⟩ := cfg.walSize_valid
  have hvalid : (databaseId != 0 && (1 : ℕ) != 0 && (1 : ℕ) != 0 && (0 : ℕ) < walFileCount &&
      walRecordRegionOffset < cfg.geometry.walSize && cfg.geometry.walSize % walFrameSize == 0) =
      true := by
    simp only [Bool.and_eq_true, bne_iff_ne, decide_eq_true_eq, beq_iff_eq]
    refine ⟨⟨⟨⟨⟨hid, one_ne_zero⟩, one_ne_zero⟩, by decide⟩, ?_⟩, hframes⟩
    simp only [walRecordRegionOffset, walFrameSize, formatAlignment] at hsize ⊢
    omega
  have hencode : encodeWalHeader databaseId 1 1 0 cfg.geometry.walSize =
      some ⟨databaseId, 1, 1, 0, cfg.geometry.walSize, hvalid⟩ := dif_pos hvalid
  refine ⟨_, hencode, rfl, rfl, rfl, rfl, rfl, fun copySlot hcopy => ?_⟩
  show writtenOrBlank (if _ then _ else none) = _
  rw [if_pos ⟨rfl, hcopy⟩, hencode]
  rfl

variable (cfg databaseId) in
/-- The owned range with all its files, durable. -/
structure Filled (w : World) : Prop where
  manifest : w.db.manifest = ownedRecord cfg databaseId 2
  images : w.dev.Safe (· = filesMedia cfg databaseId (ownedCopies cfg databaseId))

lemma kept_allIdentified : Kept cfg databaseId (AllIdentified cfg databaseId) :=
  fun m w hw hm kind slot copySlot => kept_identified kind slot copySlot m w hw (hm kind slot copySlot)

/-- A filling with all identities and both headers is complete. -/
lemma filling_complete {m : Media} (hm : Filling cfg databaseId (ownedCopies cfg databaseId) m)
    (hidentity : AllIdentified cfg databaseId m)
    (h₀ : m.walHeader 0 0 = (provisionedMedia cfg databaseId).walHeader 0 0)
    (h₁ : m.walHeader 0 1 = (provisionedMedia cfg databaseId).walHeader 0 1) :
    m = filesMedia cfg databaseId (ownedCopies cfg databaseId) := by
  obtain ⟨identity, walHeader, -, hheader⟩ := hm
  have hidentities : identity = (provisionedMedia cfg databaseId).identity := by
    funext kind slot copySlot
    exact hidentity kind slot copySlot
  have hheaders : walHeader = (provisionedMedia cfg databaseId).walHeader := by
    funext slot copySlot
    by_cases hplace : slot = 0 ∧ copySlot < walHeaderSlotCount
    · obtain ⟨rfl, hcopy⟩ := hplace
      match copySlot with
      | 0 => exact h₀
      | 1 => exact h₁
      | copySlot + 2 => exact absurd hcopy (by simp)
    · have hblank : (provisionedMedia cfg databaseId).walHeader slot copySlot =
          .error .invalidMagic := by
        show writtenOrBlank (if _ then _ else none) = _
        rw [if_neg hplace]
        rfl
      rcases hheader slot copySlot with hcell | hcell
      · rw [hblank]
        exact hcell
      · exact hcell
  subst hidentities hheaders
  rfl

/-- Behind the first WAL header the owned range is complete. -/
lemma triple_initialiseFirstWal (hid : databaseId ≠ 0) :
    Triple (fun w => Owned cfg databaseId w ∧ AllIdentified cfg databaseId w.dev.current)
      (initialiseFirstWal cfg) (fun _ => Filled cfg databaseId) (fun _ => Troubled cfg) := by
  obtain ⟨header, hencode, -, -, -, -, -, hcells⟩ := walHeader_provisioned cfg hid
  have hwrite₀ : FillingWrite cfg databaseId (.walHeader 0 0 header) := hcells 0 (by decide)
  have hwrite₁ : FillingWrite cfg databaseId (.walHeader 0 1 header) := hcells 1 (by decide)
  unfold initialiseFirstWal ensureWalHeader
  refine .bind (Q := fun _ w => Owned cfg databaseId w ∧ AllIdentified cfg databaseId w.dev.current)
    (Triple.failIf (fun w hw _ => hw) fun w _ h => absurd h (by decide)) fun _ =>
    .bind (Q := fun db w => (Owned cfg databaseId w ∧ AllIdentified cfg databaseId w.dev.current) ∧
        db.manifest = ownedRecord cfg databaseId 2)
      (Triple.getDb fun w hw => ⟨hw, hw.1.manifest⟩) fun db =>
    .of_pure (fun w hw => hw.2) fun hdb => ?_
  rw [show encodeWalHeader db.manifest.databaseId 1 1 0 cfg.geometry.walSize = some header by
    rw [hdb]; exact hencode]
  dsimp only
  have hfirst := triple_fillingWrite hid hwrite₀ (K := AllIdentified cfg databaseId)
    (L := fun m => AllIdentified cfg databaseId m ∧ m.walHeader 0 0 = .ok header) fun m hm =>
      ⟨kept_allIdentified m _ hwrite₀ hm, by
        show update₂ m.walHeader 0 0 (.ok header) 0 0 = _
        rw [update₂_apply, if_pos ⟨rfl, rfl⟩]⟩
  have hsecond := triple_fillingWrite hid hwrite₁
    (K := fun m => AllIdentified cfg databaseId m ∧ m.walHeader 0 0 = .ok header)
    (L := fun m => AllIdentified cfg databaseId m ∧ m.walHeader 0 0 = .ok header ∧
      m.walHeader 0 1 = .ok header) fun m hm =>
      ⟨kept_allIdentified m _ hwrite₁ hm.1, by
        show update₂ m.walHeader 0 1 (.ok header) 0 0 = _
        rw [update₂_apply, if_neg (by decide)]
        exact hm.2, by
        show update₂ m.walHeader 0 1 (.ok header) 0 1 = _
        rw [update₂_apply, if_pos ⟨rfl, rfl⟩]⟩
  refine .bind (hfirst.pre fun w hw => hw.1) fun _ => .bind hsecond fun _ =>
    Triple.syncStorage (fun w hw _ => ?_) fun w hw hfault =>
      .tick hw.1.images (fun _ => .owned hid) hfault
  obtain ⟨hown, hidentity, h₀, h₁⟩ := hw
  have hcurrent := filling_complete hown.images.current hidentity
    (h₀.trans (hcells 0 (by decide)).symm) (h₁.trans (hcells 1 (by decide)).symm)
  exact ⟨hown.manifest, hcurrent, fun _ => hcurrent⟩

/-! ## The ready copies -/

variable (cfg databaseId) in
/-- The memory holds this generation of the ready manifest and every image is `m`. -/
structure Ready (generation : ℕ) (m : Media) (w : World) : Prop where
  manifest : w.db.manifest = provisionedRecord cfg databaseId generation
  images : w.dev.Safe (· = m)

lemma filesMedia_manifestCopy (copies : ℕ → Cell ManifestCopy) (slot : ℕ) (copy : ManifestCopy) :
    (Write.manifestCopy slot copy).apply (filesMedia cfg databaseId copies) =
      filesMedia cfg databaseId (Function.update copies slot (.ok copy)) := rfl

/-- The first ready copy. -/
lemma triple_publishReady {w₀ : World} (hid : databaseId ≠ 0)
    (hmanifest : nextManifest w₀.db.manifest 3 .ready = provisionedRecord cfg databaseId 3)
    (hgeneration : w₀.db.manifest.generation = 2)
    (hsafe : w₀.dev.Safe (· = filesMedia cfg databaseId (ownedCopies cfg databaseId))) :
    Triple (· = w₀) (writeManifestCopy 3 .ready)
      (fun _ => Ready cfg databaseId 3 (filesMedia cfg databaseId (halfReadyCopies cfg databaseId)))
      (fun _ => Troubled cfg) := by
  have hencodable := provisionedRecord_encodable cfg hid (le_refl 3)
  have hdatabaseId : w₀.db.manifest.databaseId = databaseId :=
    congrArg ManifestRecord.databaseId hmanifest
  refine (triple_publishStage (provisionedRecord cfg databaseId 3) hsafe ?_ hmanifest
    rfl (fun copy hcopy m hm => ?_) fun m hm => ?_).conseq (fun _ hw => hw)
    (fun _ w hw => ⟨by rw [hw.1], hw.2⟩) fun _ _ hw => hw
  · refine publishable_of 2 (by rw [hdatabaseId]; exact hid) hgeneration
      (by decide) ?_
    rw [hmanifest]
    exact hencodable
  · have hcopies : halfReadyCopies cfg databaseId =
        Function.update (ownedCopies cfg databaseId) 0 (.ok copy) := by
      unfold halfReadyCopies
      rw [written_eq hcopy rfl]
    rw [hcopies] at hm ⊢
    rcases hm with rfl | rfl
    · rfl
    · show filesMedia cfg databaseId (Function.update (Function.update _ 0 _) 0 _) = _
      rw [Function.update_idem]
  · rcases hm with rfl | rfl
    · exact .owned hid (.intro _ _ (fun _ _ _ => Or.inr rfl) fun _ _ => Or.inr rfl)
    · exact .halfReady hid

/-- The second ready copy: the stabilization behind a first one. -/
lemma triple_stabilizeReady {w₀ : World} (hid : databaseId ≠ 0)
    (hready : Ready cfg databaseId 3 (filesMedia cfg databaseId (halfReadyCopies cfg databaseId)) w₀)
    (hrequired : w₀.db.manifestStabilizationRequired = true) :
    Triple (· = w₀) stabilizeManifestUnsafe
      (fun _ w => Ready cfg databaseId 4 (provisionedMedia cfg databaseId) w ∧
        w.db = { w₀.db with
          manifest := provisionedRecord cfg databaseId 4
          manifestStabilizationRequired := false })
      (fun _ => Troubled cfg) := by
  have hencodable := provisionedRecord_encodable cfg hid (Nat.le_succ 3)
  have hmanifest := hready.manifest
  unfold stabilizeManifestUnsafe
  refine .bind (Q := fun db w => w = w₀ ∧ db = w₀.db)
    (Triple.getDb fun w hw => ⟨hw, by rw [hw]⟩) fun db => .of_pure (fun w hw => hw.2) ?_
  rintro rfl
  rw [if_pos hrequired, hmanifest]
  refine .bind (Q := fun _ w => w = w₀) (Triple.failIf (fun w hw _ => hw.1) fun w _ h =>
    absurd h (by simp [provisionedRecord])) fun _ => ?_
  have hpublish : Triple (· = w₀) (writeManifestCopy 4 .ready)
      (fun _ w => w.db = { w₀.db with manifest := provisionedRecord cfg databaseId 4 } ∧
        w.dev.Safe (· = provisionedMedia cfg databaseId)) (fun _ => Troubled cfg) := by
    refine triple_publishStage (provisionedRecord cfg databaseId 4)
      hready.images ?_ (by rw [hmanifest]; rfl) rfl (fun copy hcopy m hm => ?_) fun m hm => ?_
    · rw [hmanifest]
      exact publishable_of (m := provisionedRecord cfg databaseId 3) 3 hid rfl (by decide)
        hencodable
    · have hcopies : (provisionedMedia cfg databaseId).manifestCopy =
          Function.update (halfReadyCopies cfg databaseId) 1 (.ok copy) := by
        rw [← readyCopies, written_eq hcopy rfl]
      have hfiles : provisionedMedia cfg databaseId = filesMedia cfg databaseId
          (Function.update (halfReadyCopies cfg databaseId) 1 (.ok copy)) := by
        rw [← hcopies]
        rfl
      rw [hfiles] at hm ⊢
      rcases hm with rfl | rfl
      · rfl
      · show filesMedia cfg databaseId (Function.update (Function.update _ 1 _) 1 _) = _
        rw [Function.update_idem]
    · rcases hm with rfl | rfl
      · exact .halfReady hid
      · exact .ready hid
  refine .bind hpublish fun _ => Triple.modifyDb fun w hw => ?_
  rw [hw.1]
  exact ⟨⟨rfl, hw.2⟩, rfl⟩

/-- **An owned range becomes a ready database.** -/
theorem triple_publishProvisioned (hid : databaseId ≠ 0) :
    Triple (fun w => Owned cfg databaseId w ∧ AllIdentified cfg databaseId w.dev.current)
      (publishProvisioned cfg)
      (fun _ w => Ready cfg databaseId 4 (provisionedMedia cfg databaseId) w ∧
        w.db.manifestStabilizationRequired = false)
      (fun _ => Troubled cfg) := by
  unfold publishProvisioned
  refine .bind (Q := fun db w => (Owned cfg databaseId w ∧
      AllIdentified cfg databaseId w.dev.current) ∧ db.manifest = ownedRecord cfg databaseId 2)
    (Triple.getDb fun w hw => ⟨hw, hw.1.manifest⟩) fun db => .of_pure (fun w hw => hw.2) fun hdb => ?_
  rw [hdb]
  refine .bind (Q := fun _ w => Owned cfg databaseId w ∧ AllIdentified cfg databaseId w.dev.current)
    (Triple.failIf (fun w hw _ => hw.1) fun w _ h => absurd h (by simp [ownedRecord])) fun _ =>
    .bind (triple_initialiseFirstWal hid) fun _ => ?_
  refine .bind (Q := fun _ w => nextManifest w.db.manifest 3 .ready =
      provisionedRecord cfg databaseId 3 ∧ w.db.manifest.generation = 2 ∧
      w.dev.Safe (· = filesMedia cfg databaseId (ownedCopies cfg databaseId)))
    (Triple.modifyDb fun w hw => ?_) fun _ => ?_
  · refine ⟨?_, ?_, hw.images⟩
    · dsimp only
      rw [hw.manifest]
      rfl
    · dsimp only
      rw [hw.manifest]
      rfl
  · refine .bind (.of_state fun w hw => triple_publishReady hid hw.1 hw.2.1 hw.2.2) fun _ =>
      .bind (Q := fun _ w => Ready cfg databaseId 3
          (filesMedia cfg databaseId (halfReadyCopies cfg databaseId)) w ∧
          w.db.manifestStabilizationRequired = true)
        (Triple.modifyDb fun w hw => ⟨⟨hw.manifest, hw.images⟩, rfl⟩) fun _ =>
      .of_state fun w hw => ?_
    exact (triple_stabilizeReady hid hw.1 hw.2).conseq (fun _ h => h)
      (fun _ w' h => ⟨h.1, by rw [h.2]⟩) fun _ _ h => h

end On9kvdb
