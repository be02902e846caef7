import On9kvdb.Io.Bytes

/-!
# Regions as arrays

Each region behaves as a byte array of its own.  The arrays behind a sequence of writes are computed
call by call (`arraysBehind`); the device behind the same writes holds them region by region
(`HoldsArrays`), and a read returns what they hold (`regions_are_arrays`).
-/

namespace On9kvdb

open PackedArena Exceptional

/-! ## The arrays -/

/-- A call of `write_storage_bytes_unsafe`. -/
structure WriteCall where
  region : StorageRegion
  offset : ℕ
  source : Bytes
  deriving DecidableEq, Repr

/-- The array of a call's region with the bytes written; the other arrays stay. -/
def WriteCall.apply (arrays : StorageRegion → ℕ → UInt8) (c : WriteCall) :
    StorageRegion → ℕ → UInt8 :=
  Function.update arrays c.region (write (arrays c.region) c.offset c.source)

/-- The arrays behind a sequence of writes. -/
def arraysBehind (arrays : StorageRegion → ℕ → UInt8) (calls : List WriteCall) :
    StorageRegion → ℕ → UInt8 := calls.foldl WriteCall.apply arrays

variable (g : StorageGeometry)

/-- The bytes of the device from the beginning of a region on. -/
def regionBytes (d : BlockDevice) (r : StorageRegion) : ℕ → UInt8 :=
  fun i => d.bytes ((r.extent g).offset + i)

/-- A sequence of writes, up to the first that fails. -/
def writeAll : List WriteCall → IoM Unit
  | [] => pure ()
  | c :: rest => do
      writeStorageBytesUnsafe g c.region c.offset c.source
      writeAll rest

/-- The regions of the device hold the arrays. -/
def HoldsArrays (d : BlockDevice) (arrays : StorageRegion → ℕ → UInt8) : Prop :=
  ∀ r : StorageRegion, r.valid g = true → ∀ i < (r.extent g).size,
    regionBytes g d r i = arrays r i

variable {g} {d d' : BlockDevice} {arrays : StorageRegion → ℕ → UInt8}

lemma slice_regionBytes (r : StorageRegion) (offset size : ℕ) :
    slice (regionBytes g d r) offset size = slice d.bytes ((r.extent g).offset + offset) size :=
  slice_shift d.bytes _ _ _

/-- A write changes a cell by what the cell held alone. -/
lemma write_congr {memory memory' : ℕ → UInt8} {i : ℕ} (h : memory i = memory' i) (offset : ℕ)
    (cells : Bytes) : write memory offset cells i = write memory' offset cells i := by
  unfold write
  rw [h]

section

variable (h : g.Tiled) (hrange : g.InRange)
include h

/-- What lies outside a range of one region includes every other region. -/
lemma regionBytes_of_outside {r : StorageRegion} (hr : r.valid g = true) {offset size : ℕ}
    (hinside : offset + size ≤ (r.extent g).size)
    (houtside : ∀ p, p < (r.extent g).offset + offset ∨ (r.extent g).offset + offset + size ≤ p →
      d'.bytes p = d.bytes p) {r' : StorageRegion} (hr' : r'.valid g = true) (hne : r' ≠ r) {i : ℕ}
    (hi : i < (r'.extent g).size) : regionBytes g d' r' i = regionBytes g d r' i := by
  have hdisjoint := (regions_packed h).disjoint r' hr' r hr hne
  simp only [Extent.stop] at hdisjoint
  exact houtside _ (by omega)

include hrange

/-- **A write changes no byte of another region**, whatever its outcome. -/
theorem write_spares_regions (hdevice : d.Holds g.provisionedSize) (r : StorageRegion) (offset : ℕ)
    (source : Bytes) {r' : StorageRegion} (hr' : r'.valid g = true) (hne : r' ≠ r) {i : ℕ}
    (hi : i < (r'.extent g).size) :
    regionBytes g (exec (writeStorageBytesUnsafe g r offset source) d).2 r' i =
      regionBytes g d r' i := by
  rcases exec_writeStorageBytesUnsafe h hrange hdevice r offset source with
    ⟨e, he⟩ | ⟨⟨hr, hinside⟩, hwrite⟩
  · rw [he]
  · exact regionBytes_of_outside h hr hinside hwrite.outside hr' hne hi

/-- A write that succeeds changes the arrays as the call says. -/
lemma HoldsArrays.write (hholds : HoldsArrays g d arrays) (hdevice : d.Holds g.provisionedSize)
    {c : WriteCall}
    (hrun : exec (writeStorageBytesUnsafe g c.region c.offset c.source) d = (.ok (), d')) :
    HoldsArrays g d' (c.apply arrays) ∧ d'.Holds g.provisionedSize ∧ d'.fault = d.fault := by
  rcases exec_writeStorageBytesUnsafe h hrange hdevice c.region c.offset c.source with
    ⟨e, he⟩ | ⟨⟨hr, hinside⟩, hwrite⟩
  · rw [hrun] at he
    cases he
  · rw [hrun] at hwrite
    obtain ⟨⟨hblock, hcount⟩, hfaults, houtside, hdone⟩ := hwrite
    dsimp only at hblock hcount hfaults houtside hdone
    refine ⟨fun r hr' i hi => ?_, ⟨by rw [hblock]; exact hdevice.blockSize,
      by rw [hblock, hcount]; exact hdevice.enough⟩, hfaults⟩
    unfold WriteCall.apply
    by_cases heq : r = c.region
    · subst heq
      rw [Function.update_self]
      have hshift : regionBytes g d' c.region =
          PackedArena.write (regionBytes g d c.region) c.offset c.source := by
        unfold regionBytes
        rw [hdone rfl]
        exact write_shift d.bytes _ _ _
      rw [hshift]
      exact write_congr (hholds c.region hr' i hi) _ _
    · rw [Function.update_of_ne heq, regionBytes_of_outside h hr hinside houtside hr' heq hi]
      exact hholds r hr' i hi

/-- The device holds the arrays behind every sequence of writes that succeeds. -/
lemma HoldsArrays.writeAll {calls : List WriteCall} (hholds : HoldsArrays g d arrays)
    (hdevice : d.Holds g.provisionedSize) (hrun : exec (writeAll g calls) d = (.ok (), d')) :
    HoldsArrays g d' (arraysBehind arrays calls) ∧ d'.Holds g.provisionedSize ∧
      d'.fault = d.fault := by
  induction calls generalizing d arrays with
  | nil =>
      cases hrun
      exact ⟨hholds, hdevice, rfl⟩
  | cons c rest ih =>
      rw [On9kvdb.writeAll, exec_bind] at hrun
      rcases hfirst : exec (writeStorageBytesUnsafe g c.region c.offset c.source) d with ⟨o, d₁⟩
      rw [hfirst] at hrun
      cases o with
      | error e => cases hrun
      | ok u =>
          obtain ⟨hholds₁, hdevice₁, hfaults⟩ := hholds.write h hrange hdevice hfirst
          obtain ⟨hholds', hdevice', hfaults'⟩ := ih hholds₁ hdevice₁ hrun
          exact ⟨hholds', hdevice', hfaults'.trans hfaults⟩

/-- A read returns what the arrays hold. -/
lemma HoldsArrays.read (hholds : HoldsArrays g d arrays) (hdevice : d.Holds g.provisionedSize)
    {r : StorageRegion} (hr : r.valid g = true) {offset size : ℕ}
    (hinside : offset + size ≤ (r.extent g).size) :
    (exec (readStorageBytesUnsafe g r offset size) d).2.bytes = d.bytes ∧
      ((exec (readStorageBytesUnsafe g r offset size) d).1 = .ok (slice (arrays r) offset size) ∨
        ∃ n e, d.fault n = some e ∧
          (exec (readStorageBytesUnsafe g r offset size) d).1 = .error e) := by
  have hread := exec_readStorageBytesUnsafe h hrange hdevice hr hinside
  have hslice : slice (arrays r) offset size =
      slice d.bytes ((r.extent g).offset + offset) size := by
    rw [← slice_regionBytes]
    exact slice_congr fun i hi => (hholds r hr (offset + i) (by omega)).symm
  rw [hslice]
  exact ⟨hread.bytes, hread.outcome⟩

end

/-- **Regions are independent arrays.**  On every accepted geometry and every block size that
divides the alignment, the mapping assigns ranges that tile the image; behind any sequence of
successful writes a read inside a region, aligned or not, returns what the writes to that region
have left there, unless a call of the device fails; a write changes no byte of another region; and a
request that reaches past its region is refused before the device is called. -/
theorem regions_are_arrays (hvalid : validateStorageGeometry g = true) (hrange : g.InRange)
    (hdevice : d.Holds g.provisionedSize) :
    (∀ r e, getStorageRegionUnsafe g r = .ok e ↔ r.valid g = true ∧ e = r.extent g) ∧
    Packed {r : StorageRegion | r.valid g = true} (StorageRegion.extent g) g.provisionedSize ∧
    (∀ calls d', exec (writeAll g calls) d = (.ok (), d') →
      ∀ r : StorageRegion, r.valid g = true → ∀ offset size, offset + size ≤ (r.extent g).size →
        (exec (readStorageBytesUnsafe g r offset size) d').2.bytes = d'.bytes ∧
        ((exec (readStorageBytesUnsafe g r offset size) d').1 =
            .ok (slice (arraysBehind (regionBytes g d) calls r) offset size) ∨
          ∃ n e, d.fault n = some e ∧
            (exec (readStorageBytesUnsafe g r offset size) d').1 = .error e)) ∧
    (∀ r offset source r', r'.valid g = true → r' ≠ r → ∀ i < (r'.extent g).size,
      regionBytes g (exec (writeStorageBytesUnsafe g r offset source) d).2 r' i =
        regionBytes g d r' i) ∧
    ∀ r : StorageRegion, ∀ offset,
      (∀ size, (r.valid g = true → (r.extent g).size < offset + size) →
        ∃ e, exec (readStorageBytesUnsafe g r offset size) d = (.error e, d)) ∧
      ∀ source : Bytes, (r.valid g = true → (r.extent g).size < offset + source.length) →
        ∃ e, exec (writeStorageBytesUnsafe g r offset source) d = (.error e, d) := by
  have h := tiled_of_valid hvalid
  refine ⟨fun r e => getStorageRegionUnsafe_eq_ok h hrange, regions_packed h,
    fun calls d' hrun r hr offset size hinside => ?_,
    fun r offset source r' hr' hne i hi =>
      write_spares_regions h hrange hdevice r offset source hr' hne hi,
    fun r offset => exec_past h hrange⟩
  have hholds : HoldsArrays g d (regionBytes g d) := fun _ _ _ _ => rfl
  obtain ⟨hholds', hdevice', hfaults⟩ := hholds.writeAll h hrange hdevice hrun
  have hread := hholds'.read h hrange hdevice' hr hinside
  rwa [hfaults] at hread

/-- A device of 512-byte blocks that holds the image of the host tests. -/
def hostDevice : BlockDevice := ⟨512, 2256, fun _ => 0, 0, fun _ => none, fun _ _ => 0⟩

/-- Two blocks are written to the manifest and one to a log; 600 bytes read across them. -/
theorem regions_are_arrays_host :
    validateStorageGeometry hostConfig.geometry = true ∧
    (exec (writeAll hostConfig.geometry
      [⟨.manifest 0, 512, List.replicate 1024 1⟩, ⟨.data .wal 1, 0, List.replicate 512 2⟩])
        hostDevice).1 = .ok () ∧
    ((exec (readStorageBytesUnsafe hostConfig.geometry (.manifest 0) 1000 600)
      (exec (writeAll hostConfig.geometry
        [⟨.manifest 0, 512, List.replicate 1024 1⟩, ⟨.data .wal 1, 0, List.replicate 512 2⟩])
          hostDevice).2).1 =
        .ok (slice (arraysBehind (regionBytes hostConfig.geometry hostDevice)
          [⟨.manifest 0, 512, List.replicate 1024 1⟩, ⟨.data .wal 1, 0, List.replicate 512 2⟩]
            (.manifest 0)) 1000 600)) := by
  have hvalid : validateStorageGeometry hostConfig.geometry = true := by decide +kernel
  have hdevice : hostDevice.Holds hostConfig.geometry.provisionedSize :=
    ⟨by decide, by decide⟩
  have hrun : (exec (writeAll hostConfig.geometry
      [⟨.manifest 0, 512, List.replicate 1024 1⟩, ⟨.data .wal 1, 0, List.replicate 512 2⟩])
        hostDevice).1 = .ok () := by decide +kernel
  refine ⟨hvalid, hrun, ?_⟩
  have hread := (regions_are_arrays hvalid ⟨by decide, by decide, by decide, by decide⟩ hdevice).2.2.1
    _ _ (exec_eq hrun) (.manifest 0) (by decide) 1000 600 (by decide)
  rcases hread.2 with hok | ⟨n, e, hfault, -⟩
  · exact hok
  · cases hfault

end On9kvdb
