import On9kvdb.Io.Region
import On9kvdb.Lib.Triple

/-!
# Bytes on the block device

The device reads and writes whole native blocks.  `read_storage_bytes_unsafe` and
`write_storage_bytes_unsafe` serve byte ranges of a region with it: an aligned request in one
transfer, any other read block by block through the bounce buffer.
-/

namespace On9kvdb

open PackedArena Exceptional

/-! ## The device -/

/-- A block device: `on9kvdb_io` as its backends implement it.  Its calls are counted; one of them
may fail, and a write that fails may leave anything in the blocks it was given. -/
structure BlockDevice where
  blockSize : ℕ
  blockCount : ℕ
  bytes : ℕ → UInt8
  calls : ℕ
  fault : ℕ → Option EspErr
  torn : ℕ → ℕ → UInt8

/-- A method that may access the device. -/
abbrev IoM (α : Type) := Prog BlockDevice EspErr α

/-- `range_is_valid`. -/
def BlockDevice.rangeIsValid (d : BlockDevice) (startBlock count : ℕ) : Bool :=
  startBlock ≤ d.blockCount && count ≤ d.blockCount - startBlock

/-- The device behind a call. -/
def BlockDevice.called (d : BlockDevice) : BlockDevice := { d with calls := d.calls + 1 }

/-- The device with other bytes from an offset on. -/
def BlockDevice.put (d : BlockDevice) (offset : ℕ) (cells : Bytes) : BlockDevice :=
  { d with bytes := write d.bytes offset cells }

/-- `read_blocks`. -/
def readBlocks (startBlock count : ℕ) : IoM Bytes := do
  let d ← get
  set d.called
  match d.fault d.calls with
  | some e => throw e
  | none =>
      if d.rangeIsValid startBlock count = false then throw .invalidArg
      else return slice d.bytes (startBlock * d.blockSize) (count * d.blockSize)

/-- `write_blocks`, of as many blocks as `source` has. -/
def writeBlocks (startBlock count : ℕ) (source : Bytes) : IoM Unit := do
  let d ← get
  if d.rangeIsValid startBlock count = false then
    set d.called
    throw .invalidArg
  else
    match d.fault d.calls with
    | some e => do
        set (d.called.put (startBlock * d.blockSize)
          ((List.range source.length).map (d.torn d.calls)))
        throw e
    | none => set (d.called.put (startBlock * d.blockSize) source)

/-! ## Requests -/

variable (g : StorageGeometry)

/-- The common beginning: the range of the region, unless the request reaches past it. -/
def requestRegion (region : StorageRegion) (offset size : ℕ) : Except EspErr Extent := do
  let bounds ← getStorageRegionUnsafe g region
  rejectIf (bounds.size < offset ∨ bounds.size - offset < size) .invalidSize
  return bounds

/-- The bounce loop of `read_storage_bytes_unsafe`. -/
def bounceBytes (blockSize absoluteOffset remaining : ℕ) : IoM Bytes :=
  if _h : remaining = 0 ∨ blockSize = 0 then pure [] else do
    let blockOffset := absoluteOffset % blockSize
    let copySize := if remaining < blockSize - blockOffset then remaining else
      blockSize - blockOffset
    let ioBounce ← readBlocks (absoluteOffset / blockSize) 1
    let rest ← bounceBytes blockSize (absoluteOffset + copySize) (remaining - copySize)
    return (ioBounce.drop blockOffset).take copySize ++ rest
termination_by remaining
decreasing_by
  obtain ⟨hremaining, hblock⟩ := not_or.mp _h
  have hlt := Nat.mod_lt absoluteOffset (Nat.pos_of_ne_zero hblock)
  split_ifs <;> omega

/-- The transfer of a nonempty read. -/
def readRange (blockSize absoluteOffset size : ℕ) : IoM Bytes :=
  if absoluteOffset % blockSize = 0 ∧ size % blockSize = 0 then
    if uint32Max < size / blockSize then throw .invalidSize
    else readBlocks (absoluteOffset / blockSize) (size / blockSize)
  else bounceBytes blockSize absoluteOffset size

/-- `read_storage_bytes_unsafe`. -/
def readStorageBytesUnsafe (region : StorageRegion) (offset size : ℕ) : IoM Bytes := do
  match requestRegion g region offset size with
  | .error e => throw e
  | .ok bounds =>
      if size = 0 then return []
      else
        let d ← get
        if d.blockSize = 0 ∨ formatAlignment % d.blockSize ≠ 0 ∨ formatAlignment < d.blockSize then
          throw .invalidState
        else
          match checkedAddU64 bounds.offset offset with
          | none => throw .invalidSize
          | some absoluteOffset => readRange d.blockSize absoluteOffset size

/-- `write_storage_bytes_unsafe`. -/
def writeStorageBytesUnsafe (region : StorageRegion) (offset : ℕ) (source : Bytes) : IoM Unit := do
  match requestRegion g region offset source.length with
  | .error e => throw e
  | .ok bounds =>
      if source.length = 0 then return ()
      else
        let d ← get
        if d.blockSize = 0 ∨ formatAlignment % d.blockSize ≠ 0 ∨ offset % d.blockSize ≠ 0 ∨
            source.length % d.blockSize ≠ 0 then
          throw .invalidSize
        else
          match checkedAddU64 bounds.offset offset with
          | none => throw .invalidSize
          | some absoluteOffset =>
              if uint32Max < source.length / d.blockSize then throw .invalidSize
              else writeBlocks (absoluteOffset / d.blockSize) (source.length / d.blockSize) source

/-! ## Reading -/

/-- The block size divides the alignment, and the device holds the image: what
`validate_init_args` requires of it. -/
structure BlockDevice.Holds (d : BlockDevice) (size : ℕ) : Prop where
  blockSize : d.blockSize ∣ formatAlignment
  enough : size / d.blockSize ≤ d.blockCount

/-- What a read does: it changes no byte, and returns the bytes it is asked for unless a call of
the device has failed. -/
structure ReadsBytes (d d' : BlockDevice) (absoluteOffset size : ℕ) (o : Except EspErr Bytes) :
    Prop where
  bytes : d'.bytes = d.bytes
  geometry : d'.blockSize = d.blockSize ∧ d'.blockCount = d.blockCount
  faults : d'.fault = d.fault
  outcome : o = .ok (slice d.bytes absoluteOffset size) ∨
    ∃ n e, d.fault n = some e ∧ o = .error e

variable {d : BlockDevice}

lemma exec_readBlocks {startBlock count : ℕ} (hrange : d.rangeIsValid startBlock count = true) :
    ReadsBytes d (exec (readBlocks startBlock count) d).2 (startBlock * d.blockSize)
      (count * d.blockSize) (exec (readBlocks startBlock count) d).1 := by
  unfold readBlocks
  rw [exec_bind, exec_get]
  dsimp only
  rw [exec_bind, exec_set]
  dsimp only
  cases hfault : d.fault d.calls with
  | some e => exact ⟨rfl, ⟨rfl, rfl⟩, rfl, Or.inr ⟨_, e, hfault, rfl⟩⟩
  | none =>
      rw [if_neg (by rw [hrange]; decide)]
      exact ⟨rfl, ⟨rfl, rfl⟩, rfl, Or.inl rfl⟩

/-- The calls of the device range over the image. -/
lemma rangeIsValid_of_le {startBlock count : ℕ} (h : startBlock + count ≤ d.blockCount) :
    d.rangeIsValid startBlock count = true := by
  simp only [BlockDevice.rangeIsValid, Bool.and_eq_true, decide_eq_true_eq]
  omega

lemma ReadsBytes.append {d₁ d₂ : BlockDevice} {absoluteOffset size size' : ℕ} {bytes : Bytes}
    {o : Except EspErr Bytes} (h : ReadsBytes d d₁ absoluteOffset size (.ok bytes))
    (h' : ReadsBytes d₁ d₂ (absoluteOffset + size) size' o) :
    ReadsBytes d d₂ absoluteOffset (size + size') (o.map (bytes ++ ·)) := by
  obtain ⟨hbytes, ⟨hblock, hcount⟩, hfaults, houtcome⟩ := h
  obtain ⟨hbytes', ⟨hblock', hcount'⟩, hfaults', houtcome'⟩ := h'
  refine ⟨hbytes'.trans hbytes, ⟨hblock'.trans hblock, hcount'.trans hcount⟩,
    hfaults'.trans hfaults, ?_⟩
  rcases houtcome with heq | ⟨_, _, -, habsurd⟩
  · rcases houtcome' with rfl | ⟨n, e, hfault, rfl⟩
    · refine Or.inl ?_
      rw [slice_add, ← Except.ok.inj heq, ← hbytes]
      rfl
    · exact Or.inr ⟨n, e, hfaults ▸ hfault, rfl⟩
  · cases habsurd

/-- **The bounce loop reads the range byte for byte.** -/
theorem exec_bounceBytes {size : ℕ} (hpos : 0 < d.blockSize) {absoluteOffset remaining : ℕ}
    (hend : absoluteOffset + remaining ≤ size) (hsize : size ≤ d.blockCount * d.blockSize) :
    ReadsBytes d (exec (bounceBytes d.blockSize absoluteOffset remaining) d).2 absoluteOffset
      remaining (exec (bounceBytes d.blockSize absoluteOffset remaining) d).1 := by
  induction remaining using Nat.strong_induction_on generalizing d absoluteOffset with
  | _ remaining ih =>
      rw [bounceBytes]
      by_cases hdone : remaining = 0
      · rw [dif_pos (Or.inl hdone), hdone]
        exact ⟨rfl, ⟨rfl, rfl⟩, rfl, Or.inl rfl⟩
      · rw [dif_neg (by omega)]
        obtain ⟨copySize, hcopy⟩ : ∃ n, n = if remaining < d.blockSize -
          absoluteOffset % d.blockSize then remaining else
            d.blockSize - absoluteOffset % d.blockSize := ⟨_, rfl⟩
        dsimp only
        rw [← hcopy]
        have hlt := Nat.mod_lt absoluteOffset hpos
        have hcopyPos : 0 < copySize := by split_ifs at hcopy <;> omega
        have hcopyLe : copySize ≤ remaining := by split_ifs at hcopy <;> omega
        have hcopyBlock : absoluteOffset % d.blockSize + copySize ≤ d.blockSize := by
          split_ifs at hcopy <;> omega
        have hblock : absoluteOffset / d.blockSize + 1 ≤ d.blockCount :=
          Nat.div_lt_of_lt_mul (by rw [mul_comm]; omega)
        have hread := exec_readBlocks (rangeIsValid_of_le hblock)
        rw [exec_bind]
        rcases hrun : exec (readBlocks (absoluteOffset / d.blockSize) 1) d with ⟨o, d₁⟩
        rw [hrun] at hread
        dsimp only at hread
        obtain ⟨hbytes, ⟨hsame, hcount⟩, hfaults, rfl | ⟨n, e, hfault, rfl⟩⟩ := hread
        · dsimp only
          have hpart : ((slice d.bytes (absoluteOffset / d.blockSize * d.blockSize)
              (1 * d.blockSize)).drop (absoluteOffset % d.blockSize)).take copySize =
                slice d.bytes absoluteOffset copySize := by
            rw [take_drop_slice _ (by omega), mul_comm, Nat.div_add_mod]
          have hfront : ReadsBytes d d₁ absoluteOffset copySize
            (.ok (slice d.bytes absoluteOffset copySize)) :=
              ⟨hbytes, ⟨hsame, hcount⟩, hfaults, Or.inl rfl⟩
          have hback : ReadsBytes d₁ (exec (bounceBytes d₁.blockSize (absoluteOffset + copySize)
              (remaining - copySize)) d₁).2 (absoluteOffset + copySize) (remaining - copySize)
              (exec (bounceBytes d₁.blockSize (absoluteOffset + copySize) (remaining - copySize))
                d₁).1 :=
            ih (remaining - copySize) (by omega) (by rw [hsame]; exact hpos) (by omega)
              (by rw [hsame, hcount]; exact hsize)
          rw [hsame] at hback
          have hboth := hfront.append hback
          rw [Nat.add_sub_cancel' hcopyLe] at hboth
          rw [hpart, exec_bind]
          rcases hrest : exec (bounceBytes d.blockSize (absoluteOffset + copySize)
            (remaining - copySize)) d₁ with ⟨o, d₂⟩
          rw [hrest] at hboth
          cases o with
          | ok bytes => exact hboth
          | error e => exact hboth
        · exact ⟨hbytes, ⟨hsame, hcount⟩, hfaults, Or.inr ⟨n, e, hfault, rfl⟩⟩

section

variable {g : StorageGeometry} (h : g.Tiled) (hrange : g.InRange)
include h hrange

/-- A request is served exactly when it stays inside a region. -/
lemma requestRegion_eq_ok {r : StorageRegion} {offset size : ℕ} {e : Extent} :
    requestRegion g r offset size = .ok e ↔
      (r.valid g = true ∧ e = r.extent g) ∧ offset + size ≤ (r.extent g).size := by
  unfold requestRegion
  constructor
  · intro hrequest
    obtain ⟨bounds, hbounds, hrequest⟩ := bind_eq_ok.mp hrequest
    obtain ⟨_, hinside, hrequest⟩ := bind_eq_ok.mp hrequest
    cases hrequest
    have hregion := (getStorageRegionUnsafe_eq_ok h hrange).mp hbounds
    have hinside := rejectIf_eq_ok.mp hinside
    rw [hregion.2] at hinside
    exact ⟨hregion, by omega⟩
  · rintro ⟨hregion, hinside⟩
    rw [(getStorageRegionUnsafe_eq_ok h hrange).mpr hregion, ok_bind, rejectIf_of_not, ok_bind]
    · rfl
    · rw [hregion.2]
      omega

lemma requestRegion_eq_error {r : StorageRegion} {offset size : ℕ}
    (hpast : r.valid g = true → (r.extent g).size < offset + size) :
    ∃ e, requestRegion g r offset size = .error e := by
  cases hrequest : requestRegion g r offset size with
  | error e => exact ⟨e, rfl⟩
  | ok e =>
      obtain ⟨⟨hvalid, -⟩, hinside⟩ := (requestRegion_eq_ok h hrange).mp hrequest
      have := hpast hvalid
      omega

omit hrange in
lemma BlockDevice.Holds.size_le (hdevice : d.Holds g.provisionedSize) :
    g.provisionedSize ≤ d.blockCount * d.blockSize :=
  (Nat.div_le_iff_le_mul_of_dvd (Nat.pos_of_dvd_of_pos hdevice.blockSize (by decide)).ne'
    (hdevice.blockSize.trans h.aligned)).mp hdevice.enough

/-- **A read inside a region returns its bytes.** -/
theorem exec_readStorageBytesUnsafe (hdevice : d.Holds g.provisionedSize) {r : StorageRegion}
    (hr : r.valid g = true) {offset size : ℕ} (hinside : offset + size ≤ (r.extent g).size) :
    ReadsBytes d (exec (readStorageBytesUnsafe g r offset size) d).2
      ((r.extent g).offset + offset) size (exec (readStorageBytesUnsafe g r offset size) d).1 := by
  have hpos : 0 < d.blockSize := Nat.pos_of_dvd_of_pos hdevice.blockSize (by decide)
  have hle : d.blockSize ≤ formatAlignment := Nat.le_of_dvd (by decide) hdevice.blockSize
  have hstop := r.stop_le h hr
  have hsize := r.size_le h hrange
  simp only [Extent.stop] at hstop
  have hend := hdevice.size_le h
  unfold readStorageBytesUnsafe
  rw [(requestRegion_eq_ok h hrange).mpr ⟨⟨hr, rfl⟩, hinside⟩]
  dsimp only
  by_cases hempty : size = 0
  · rw [if_pos hempty, hempty]
    exact ⟨rfl, ⟨rfl, rfl⟩, rfl, Or.inl rfl⟩
  · rw [if_neg hempty, exec_bind, exec_get]
    dsimp only
    rw [if_neg (by
      rintro (hzero | hmod | hover)
      · omega
      · exact hmod (Nat.mod_eq_zero_of_dvd hdevice.blockSize)
      · omega), checkedAddU64_of_le (by have := hrange.provisionedSize; omega)]
    dsimp only
    unfold readRange
    split_ifs with haligned hcount
    · have hdiv := Nat.div_le_self size d.blockSize
      omega
    · have hstart : ((r.extent g).offset + offset) / d.blockSize * d.blockSize =
        (r.extent g).offset + offset := Nat.div_mul_cancel (Nat.dvd_of_mod_eq_zero haligned.1)
      have hlength : size / d.blockSize * d.blockSize = size :=
        Nat.div_mul_cancel (Nat.dvd_of_mod_eq_zero haligned.2)
      have hblocks : ((r.extent g).offset + offset) / d.blockSize + size / d.blockSize ≤
          d.blockCount := by
        refine Nat.le_of_mul_le_mul_right ?_ hpos
        rw [Nat.add_mul, hstart, hlength]
        omega
      have hread := exec_readBlocks (rangeIsValid_of_le hblocks)
      rwa [hstart, hlength] at hread
    · exact exec_bounceBytes hpos (by omega) hend

end

/-! ## How much is read -/

lemma readBlocks_length (blockSize startBlock count : ℕ) :
    Triple (fun d => d.blockSize = blockSize) (readBlocks startBlock count)
      (fun bytes d => bytes.length = count * blockSize ∧ d.blockSize = blockSize)
      (fun _ _ => True) := by
  refine .of_state fun d hd => ?_
  unfold readBlocks
  refine .bind (.get (Q := fun d' d'' => d' = d ∧ d'' = d) fun s hs => ⟨hs, hs⟩) fun d' => ?_
  refine .of_pure (fun s hs => hs.1) fun heq => ?_
  subst heq
  refine .bind (Q := fun _ d => d.blockSize = blockSize) (fun s _ => ?_) fun _ => ?_
  · rw [exec_set]
    exact hd
  split
  · exact .throw fun _ _ => trivial
  · refine .ite (fun _ => .throw fun _ _ => trivial) fun _ => .pure fun s hs => ⟨?_, hs⟩
    rw [length_slice, hd]

/-- The bounce loop returns as many bytes as it is asked for, from any device. -/
lemma bounceBytes_length {blockSize : ℕ} (hpos : 0 < blockSize) (absoluteOffset remaining : ℕ) :
    Triple (fun d => d.blockSize = blockSize) (bounceBytes blockSize absoluteOffset remaining)
      (fun bytes _ => bytes.length = remaining) (fun _ _ => True) := by
  induction remaining using Nat.strong_induction_on generalizing absoluteOffset with
  | _ remaining ih =>
      rw [bounceBytes]
      by_cases hdone : remaining = 0
      · rw [dif_pos (Or.inl hdone)]
        exact .pure fun _ _ => hdone.symm
      · rw [dif_neg (by omega)]
        dsimp only
        have hlt := Nat.mod_lt absoluteOffset hpos
        generalize hcopy : (if remaining < blockSize - absoluteOffset % blockSize then remaining
          else blockSize - absoluteOffset % blockSize) = copySize
        have hcopyBounds : 0 < copySize ∧ copySize ≤ remaining ∧
            absoluteOffset % blockSize + copySize ≤ blockSize := by
          split_ifs at hcopy <;> omega
        refine .bind (readBlocks_length blockSize (absoluteOffset / blockSize) 1) fun ioBounce => ?_
        refine .of_pure (fun s hs => hs.1) fun hlength => ?_
        have hrest := ih (remaining - copySize) (by omega) (absoluteOffset + copySize)
        refine .bind (hrest.pre fun _ hd => And.right hd) fun rest => ?_
        refine .pure fun s hrest => ?_
        rw [List.length_append, List.length_take, List.length_drop, hlength, hrest]
        omega

/-- A read that succeeds returns as many bytes as it was asked for, from any device. -/
lemma returns_readStorageBytesUnsafe (g : StorageGeometry) (r : StorageRegion)
    (offset size : ℕ) :
    Returns (fun bytes => bytes.length = size) (readStorageBytesUnsafe g r offset size) := by
  suffices h : Triple (fun _ => True) (readStorageBytesUnsafe g r offset size)
      (fun bytes _ => bytes.length = size) (fun _ _ => True) from fun s a s' hrun =>
    h.ok trivial hrun
  unfold readStorageBytesUnsafe
  cases requestRegion g r offset size with
  | error e => exact .throw fun _ _ => trivial
  | ok bounds =>
      refine .ite (fun hempty => .pure fun _ _ => hempty.symm) fun _ => ?_
      refine .bind (.get (Q := fun d d' => d' = d) fun _ _ => rfl) fun d => ?_
      refine .ite (fun _ => .throw fun _ _ => trivial) fun hblock => ?_
      cases checkedAddU64 bounds.offset offset with
      | none => exact .throw fun _ _ => trivial
      | some absoluteOffset =>
          refine .ite (fun haligned => .ite (fun _ => .throw fun _ _ => trivial) fun _ => ?_)
            fun _ => ?_
          · refine ((readBlocks_length d.blockSize _ _).pre fun s hs => by rw [hs]).conseq
              (fun s hs => hs) (fun bytes s h => ?_) fun _ _ _ => trivial
            rw [h.1, Nat.div_mul_cancel (Nat.dvd_of_mod_eq_zero haligned.2)]
          · exact (bounceBytes_length (by omega) _ _).pre fun s hs => by rw [hs]

/-! ## Writing -/

/-- What a write does: unless it succeeds it may leave anything in its range, and nothing else. -/
structure WritesBytes (d d' : BlockDevice) (absoluteOffset : ℕ) (source : Bytes)
    (o : Except EspErr Unit) : Prop where
  geometry : d'.blockSize = d.blockSize ∧ d'.blockCount = d.blockCount
  faults : d'.fault = d.fault
  outside : ∀ p, p < absoluteOffset ∨ absoluteOffset + source.length ≤ p → d'.bytes p = d.bytes p
  done : o = .ok () → d'.bytes = write d.bytes absoluteOffset source

lemma write_outside {memory : ℕ → UInt8} {offset p : ℕ} {cells : Bytes}
    (h : p < offset ∨ offset + cells.length ≤ p) : write memory offset cells p = memory p := by
  unfold write
  split_ifs with hfront
  · rw [List.getElem?_eq_none (by omega)]
    rfl
  · rfl

lemma exec_writeBlocks {startBlock count : ℕ} {source : Bytes} :
    WritesBytes d (exec (writeBlocks startBlock count source) d).2 (startBlock * d.blockSize) source
      (exec (writeBlocks startBlock count source) d).1 := by
  unfold writeBlocks
  rw [exec_bind, exec_get]
  dsimp only
  split_ifs
  · rw [exec_bind, exec_set]
    exact ⟨⟨rfl, rfl⟩, rfl, fun _ _ => rfl, fun hok => by cases hok⟩
  · cases hfault : d.fault d.calls with
    | some e =>
        dsimp only
        rw [exec_bind, exec_set]
        refine ⟨⟨rfl, rfl⟩, rfl, fun p hp => ?_, fun hok => by cases hok⟩
        exact write_outside (by simpa using hp)
    | none =>
        dsimp only
        rw [exec_set]
        exact ⟨⟨rfl, rfl⟩, rfl, fun p hp => write_outside hp, fun _ => rfl⟩

section

variable {g : StorageGeometry} (h : g.Tiled) (hrange : g.InRange)
include h hrange

/-- **A write that is not refused outright changes at most its own range of a region.** -/
theorem exec_writeStorageBytesUnsafe (hdevice : d.Holds g.provisionedSize) (r : StorageRegion)
    (offset : ℕ) (source : Bytes) :
    (∃ e, exec (writeStorageBytesUnsafe g r offset source) d = (.error e, d)) ∨
      (r.valid g = true ∧ offset + source.length ≤ (r.extent g).size) ∧
      WritesBytes d (exec (writeStorageBytesUnsafe g r offset source) d).2
        ((r.extent g).offset + offset) source
        (exec (writeStorageBytesUnsafe g r offset source) d).1 := by
  unfold writeStorageBytesUnsafe
  cases hrequest : requestRegion g r offset source.length with
  | error e => exact Or.inl ⟨e, rfl⟩
  | ok bounds =>
      obtain ⟨⟨hr, rfl⟩, hinside⟩ := (requestRegion_eq_ok h hrange).mp hrequest
      have hstop := r.stop_le h hr
      simp only [Extent.stop] at hstop
      dsimp only
      by_cases hempty : source.length = 0
      · rw [if_pos hempty]
        obtain rfl := List.length_eq_zero_iff.mp hempty
        exact Or.inr ⟨⟨hr, hinside⟩, ⟨rfl, rfl⟩, rfl, fun _ _ => rfl, fun _ => (write_nil ..).symm⟩
      · rw [if_neg hempty, exec_bind, exec_get]
        dsimp only
        by_cases hblocks : d.blockSize = 0 ∨ formatAlignment % d.blockSize ≠ 0 ∨
            offset % d.blockSize ≠ 0 ∨ source.length % d.blockSize ≠ 0
        · rw [if_pos hblocks]
          exact Or.inl ⟨_, rfl⟩
        · rw [if_neg hblocks,
            checkedAddU64_of_le (by have := hrange.provisionedSize; omega)]
          dsimp only
          split_ifs
          · exact Or.inl ⟨_, rfl⟩
          · refine Or.inr ⟨⟨hr, hinside⟩, ?_⟩
            have hdvd : d.blockSize ∣ (r.extent g).offset + offset :=
              (hdevice.blockSize.trans (r.aligned h).1).add (Nat.dvd_of_mod_eq_zero (by omega))
            have hwrite := @exec_writeBlocks d (((r.extent g).offset + offset) / d.blockSize)
              (source.length / d.blockSize) source
            rwa [Nat.div_mul_cancel hdvd] at hwrite

/-- **A request past its region never reaches the device.** -/
theorem exec_past {r : StorageRegion} {offset : ℕ} :
    (∀ size, (r.valid g = true → (r.extent g).size < offset + size) →
      ∃ e, exec (readStorageBytesUnsafe g r offset size) d = (.error e, d)) ∧
    ∀ source : Bytes, (r.valid g = true → (r.extent g).size < offset + source.length) →
      ∃ e, exec (writeStorageBytesUnsafe g r offset source) d = (.error e, d) := by
  refine ⟨fun size hpast => ?_, fun source hpast => ?_⟩
  · obtain ⟨e, he⟩ := requestRegion_eq_error h hrange hpast
    unfold readStorageBytesUnsafe
    rw [he]
    exact ⟨e, rfl⟩
  · obtain ⟨e, he⟩ := requestRegion_eq_error h hrange hpast
    unfold writeStorageBytesUnsafe
    rw [he]
    exact ⟨e, rfl⟩

end

end On9kvdb
