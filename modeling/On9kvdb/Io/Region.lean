import On9kvdb.Format.Records
import On9kvdb.Lib.PackedArena

/-!
# Storage regions

The physical image has no allocation metadata: `get_storage_region_unsafe` maps a file and a slot to
a byte range by arithmetic.  On an accepted geometry the ranges of all files tile the image.
-/

namespace On9kvdb

open PackedArena

/-! ## Checked arithmetic -/

/-- `checked_add_u64`. -/
def checkedAddU64 (lhs rhs : ℕ) : Option ℕ :=
  if uint64Max - lhs < rhs then none else some (lhs + rhs)

/-- `checked_mul_u64`. -/
def checkedMulU64 (lhs rhs : ℕ) : Option ℕ :=
  if lhs ≠ 0 ∧ uint64Max / lhs < rhs then none else some (lhs * rhs)

lemma checkedAddU64_of_le {lhs rhs : ℕ} (h : lhs + rhs ≤ uint64Max) :
    checkedAddU64 lhs rhs = some (lhs + rhs) := if_neg (by omega)

lemma checkedMulU64_of_le {lhs rhs : ℕ} (h : lhs * rhs ≤ uint64Max) :
    checkedMulU64 lhs rhs = some (lhs * rhs) :=
  if_neg fun hover => by
    have hpos : 0 < lhs := Nat.pos_of_ne_zero hover.1
    have hle : rhs ≤ uint64Max / lhs := (Nat.le_div_iff_mul_le hpos).mpr (by rwa [mul_comm])
    exact absurd hover.2 (not_lt.mpr hle)

/-! ## The mapping -/

/-- The regions of the image: `file_kind` and the slot. -/
inductive StorageRegion
  | manifest (slot : ℕ)
  | data (kind : FileKind) (slot : ℕ)
  deriving DecidableEq, Repr

/-- An overflow is reported as a wrong size. -/
def sizeChecked (r : Option ℕ) : Except EspErr ℕ :=
  match r with
  | some n => .ok n
  | none => .error .invalidSize

variable (g : StorageGeometry)

/-- The branches of `get_storage_region_unsafe`. -/
def regionBounds : StorageRegion → Except EspErr Extent
  | .manifest slot => do
      rejectIf (slot ≠ 0) .invalidArg
      return ⟨0, g.manifestSize⟩
  | .data .wal slot => do
      rejectIf (g.walCount ≤ slot) .invalidSize
      let offset ← sizeChecked (checkedMulU64 slot g.walSize)
      let offset ← sizeChecked (checkedAddU64 g.manifestSize offset)
      return ⟨offset, g.walSize⟩
  | .data .table slot => do
      rejectIf (g.tableCount ≤ slot) .invalidSize
      let walBytes ← sizeChecked (checkedMulU64 g.walCount g.walSize)
      let tableOffset ← sizeChecked (checkedMulU64 slot g.tableSize)
      let offset ← sizeChecked (checkedAddU64 g.manifestSize walBytes)
      let offset ← sizeChecked (checkedAddU64 offset tableOffset)
      return ⟨offset, g.tableSize⟩
  | .data .valueBank slot => do
      rejectIf (g.valueBankCount ≤ slot) .invalidSize
      let walBytes ← sizeChecked (checkedMulU64 g.walCount g.walSize)
      let tableBytes ← sizeChecked (checkedMulU64 g.tableCount g.tableSize)
      let valueOffset ← sizeChecked (checkedMulU64 slot g.valueBankSize)
      let offset ← sizeChecked (checkedAddU64 g.manifestSize walBytes)
      let offset ← sizeChecked (checkedAddU64 offset tableBytes)
      let offset ← sizeChecked (checkedAddU64 offset valueOffset)
      return ⟨offset, g.valueBankSize⟩

/-- `get_storage_region_unsafe`. -/
def getStorageRegionUnsafe (region : StorageRegion) : Except EspErr Extent := do
  let bounds ← regionBounds g region
  let regionEnd ← sizeChecked (checkedAddU64 bounds.offset bounds.size)
  rejectIf (g.provisionedSize < regionEnd) .invalidSize
  return bounds

/-! ## What the mapping assigns -/

/-- The slots of a region's file kind. -/
def StorageRegion.valid : StorageRegion → Bool
  | .manifest slot => slot == 0
  | .data .wal slot => slot < g.walCount
  | .data .table slot => slot < g.tableCount
  | .data .valueBank slot => slot < g.valueBankCount

/-- The range of a region. -/
def StorageRegion.extent : StorageRegion → Extent
  | .manifest slot => ⟨0 + slot * g.manifestSize, g.manifestSize⟩
  | .data .wal slot => ⟨g.manifestSize + slot * g.walSize, g.walSize⟩
  | .data .table slot => ⟨g.manifestSize + g.walCount * g.walSize + slot * g.tableSize, g.tableSize⟩
  | .data .valueBank slot => ⟨g.manifestSize + g.walCount * g.walSize + g.tableCount * g.tableSize +
      slot * g.valueBankSize, g.valueBankSize⟩

/-- The widths of the fields of a geometry. -/
structure StorageGeometry.InRange : Prop where
  provisionedSize : g.provisionedSize ≤ uint64Max
  walSize : g.walSize ≤ uint32Max
  tableSize : g.tableSize ≤ uint32Max
  valueBankSize : g.valueBankSize ≤ uint32Max

/-- What an accepted geometry promises about the ranges. -/
structure StorageGeometry.Tiled : Prop where
  manifestSize : g.manifestSize = manifestFileSize
  walPos : 0 < g.walSize
  tablePos : 0 < g.tableSize
  valueBankPos : 0 < g.valueBankSize
  walAligned : formatAlignment ∣ g.walSize
  tableAligned : formatAlignment ∣ g.tableSize
  valueBankAligned : formatAlignment ∣ g.valueBankSize
  provisionedSize : g.provisionedSize = g.manifestSize + g.walCount * g.walSize +
    g.tableCount * g.tableSize + g.valueBankCount * g.valueBankSize

variable {g}

lemma tiled_of_valid (h : validateStorageGeometry g = true) : g.Tiled := by
  simp only [validateStorageGeometry, Bool.and_eq_true, decide_eq_true_eq, beq_iff_eq,
    bne_iff_ne] at h
  obtain ⟨⟨⟨⟨⟨⟨⟨⟨⟨⟨⟨⟨⟨⟨⟨⟨⟨-, -⟩, -⟩, hmanifest⟩, hwal⟩, -⟩, htable⟩, -⟩, -⟩, -⟩, hvalue⟩, -⟩, -⟩,
    hwal'⟩, htable'⟩, hvalue'⟩, hsum⟩, -⟩ := h
  refine ⟨hmanifest, by simp only [walRecordRegionOffset, walFrameSize] at hwal; omega, by omega,
    by omega, Nat.dvd_of_mod_eq_zero hwal', Nat.dvd_of_mod_eq_zero htable',
    Nat.dvd_of_mod_eq_zero hvalue', ?_⟩
  rw [← hsum, mul_comm g.walCount, mul_comm g.tableCount, mul_comm g.valueBankCount]

/-- **The regions tile the image.** -/
theorem regions_packed (h : g.Tiled) :
    Packed {r : StorageRegion | r.valid g = true} (StorageRegion.extent g) g.provisionedSize := by
  have hmanifest : 0 < g.manifestSize := by
    rw [h.manifestSize]
    decide
  have hinjective : ∀ kind, (StorageRegion.data kind).Injective := fun kind i j heq =>
    (StorageRegion.data.inj heq).2
  have h₁ := (packed_empty (StorageRegion.extent g)).row (f := StorageRegion.manifest) (n := 1)
    (fun i j heq => StorageRegion.manifest.inj heq) hmanifest (fun _ _ => Set.notMem_empty _)
    fun _ _ => rfl
  have h₂ := h₁.row (f := .data .wal) (n := g.walCount) (hinjective .wal) h.walPos (by simp)
    fun k _ => by simp [StorageRegion.extent]
  have h₃ := h₂.row (f := .data .table) (n := g.tableCount) (hinjective .table) h.tablePos (by simp)
    fun k _ => by simp [StorageRegion.extent]
  have h₄ := h₃.row (f := .data .valueBank) (n := g.valueBankCount) (hinjective .valueBank)
    h.valueBankPos (by simp) fun k _ => by simp [StorageRegion.extent]
  refine (h₄.congr ?_ fun _ _ => rfl).cast_used (by rw [h.provisionedSize]; ring)
  ext r
  cases r with
  | manifest slot => simp [StorageRegion.valid]
  | data kind slot => cases kind <;> simp [StorageRegion.valid]

lemma StorageRegion.stop_le (h : g.Tiled) {r : StorageRegion} (hr : r.valid g = true) :
    (r.extent g).stop ≤ g.provisionedSize := (regions_packed h).within r hr

/-- The branch of a valid region. -/
lemma regionBounds_of_valid (h : g.Tiled) (hrange : g.InRange) {r : StorageRegion}
    (hr : r.valid g = true) : regionBounds g r = .ok (r.extent g) := by
  have hstop := (r.stop_le h hr).trans hrange.provisionedSize
  have hadd : ∀ {a b : ℕ}, a + b ≤ uint64Max → sizeChecked (checkedAddU64 a b) = .ok (a + b) :=
    fun hle => by rw [checkedAddU64_of_le hle]; rfl
  have hmul : ∀ {a b : ℕ}, a * b ≤ uint64Max → sizeChecked (checkedMulU64 a b) = .ok (a * b) :=
    fun hle => by rw [checkedMulU64_of_le hle]; rfl
  cases r with
  | manifest slot =>
      obtain rfl : slot = 0 := beq_iff_eq.mp hr
      rw [regionBounds, rejectIf_of_not (by omega), ok_bind]
      simp [StorageRegion.extent]
  | data kind slot =>
      cases kind with
      | wal =>
          have hslot : slot < g.walCount := of_decide_eq_true hr
          simp only [StorageRegion.extent, Extent.stop] at hstop
          rw [regionBounds, rejectIf_of_not (by omega), ok_bind, hmul (by omega), ok_bind,
            hadd (by omega), ok_bind]
          rfl
      | table =>
          have hslot : slot < g.tableCount := of_decide_eq_true hr
          simp only [StorageRegion.extent, Extent.stop] at hstop
          rw [regionBounds, rejectIf_of_not (by omega), ok_bind, hmul (by omega), ok_bind,
            hmul (by omega), ok_bind, hadd (by omega), ok_bind, hadd (by omega), ok_bind]
          rfl
      | valueBank =>
          have hslot : slot < g.valueBankCount := of_decide_eq_true hr
          simp only [StorageRegion.extent, Extent.stop] at hstop
          rw [regionBounds, rejectIf_of_not (by omega), ok_bind, hmul (by omega), ok_bind,
            hmul (by omega), ok_bind, hmul (by omega), ok_bind, hadd (by omega), ok_bind,
            hadd (by omega), ok_bind, hadd (by omega), ok_bind]
          rfl

/-- A slot beyond the last one has no range. -/
lemma regionBounds_of_not_valid {r : StorageRegion} (hr : r.valid g = false) :
    ∃ e, regionBounds g r = .error e := by
  cases r with
  | manifest slot =>
      have hslot : slot ≠ 0 := beq_eq_false_iff_ne.mp hr
      exact ⟨.invalidArg, by rw [regionBounds, rejectIf_of hslot]; rfl⟩
  | data kind slot =>
      refine ⟨.invalidSize, ?_⟩
      cases kind with
      | wal => rw [regionBounds, rejectIf_of (not_lt.mp (of_decide_eq_false hr))]; rfl
      | table => rw [regionBounds, rejectIf_of (not_lt.mp (of_decide_eq_false hr))]; rfl
      | valueBank => rw [regionBounds, rejectIf_of (not_lt.mp (of_decide_eq_false hr))]; rfl

/-- **The mapping assigns the valid regions their ranges, and rejects the others.** -/
theorem getStorageRegionUnsafe_eq_ok (h : g.Tiled) (hrange : g.InRange) {r : StorageRegion}
    {e : Extent} : getStorageRegionUnsafe g r = .ok e ↔ r.valid g = true ∧ e = r.extent g := by
  unfold getStorageRegionUnsafe
  cases hr : r.valid g with
  | true =>
      have hstop := r.stop_le h hr
      have hend : sizeChecked (checkedAddU64 (r.extent g).offset (r.extent g).size) =
          .ok (r.extent g).stop := by
        rw [checkedAddU64_of_le (hstop.trans hrange.provisionedSize)]
        rfl
      rw [regionBounds_of_valid h hrange hr, ok_bind, hend, ok_bind,
        rejectIf_of_not (not_lt.mpr hstop), ok_bind]
      simp [eq_comm]
  | false =>
      obtain ⟨e', he⟩ := regionBounds_of_not_valid hr
      rw [he]
      simp

/-- A range begins and ends at a multiple of the alignment. -/
lemma StorageRegion.aligned (h : g.Tiled) (r : StorageRegion) :
    formatAlignment ∣ (r.extent g).offset ∧ formatAlignment ∣ (r.extent g).size := by
  have hmanifest : formatAlignment ∣ g.manifestSize := by
    rw [h.manifestSize]
    decide
  cases r with
  | manifest slot => exact ⟨by simpa [StorageRegion.extent] using hmanifest.mul_left slot, hmanifest⟩
  | data kind slot =>
      have hwal := hmanifest.add (h.walAligned.mul_left g.walCount)
      cases kind with
      | wal => exact ⟨hmanifest.add (h.walAligned.mul_left slot), h.walAligned⟩
      | table => exact ⟨hwal.add (h.tableAligned.mul_left slot), h.tableAligned⟩
      | valueBank => exact ⟨(hwal.add (h.tableAligned.mul_left _)).add
          (h.valueBankAligned.mul_left slot), h.valueBankAligned⟩

lemma StorageGeometry.Tiled.aligned (h : g.Tiled) : formatAlignment ∣ g.provisionedSize := by
  have hmanifest : formatAlignment ∣ g.manifestSize := by
    rw [h.manifestSize]
    decide
  rw [h.provisionedSize]
  exact ((hmanifest.add (h.walAligned.mul_left _)).add (h.tableAligned.mul_left _)).add
    (h.valueBankAligned.mul_left _)

lemma StorageRegion.size_le (h : g.Tiled) (hrange : g.InRange) (r : StorageRegion) :
    (r.extent g).size ≤ uint32Max := by
  cases r with
  | manifest slot =>
      show g.manifestSize ≤ uint32Max
      rw [h.manifestSize]
      decide
  | data kind slot =>
      cases kind with
      | wal => exact hrange.walSize
      | table => exact hrange.tableSize
      | valueBank => exact hrange.valueBankSize

end On9kvdb
