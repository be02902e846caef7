import On9kvdb.Store.Lookup

/-!
# Manifest copies

Two manifest copies alternate between generations.  `writeManifestCopy` publishes the in-memory
manifest as the next generation; `stabilizeManifestUnsafe` repeats the publication so that no
valid copy reaches what the previous generation did; `loadManifest` selects a copy at start-up.
-/

namespace On9kvdb

/-- The slot a generation is written to. -/
def manifestSlotOf (generation : ℕ) : ℕ := (generation - 1) % manifestSlotCount

/-- `encode_manifest_record`: the stored form of a record that passes its checks. -/
def encodeManifestRecord (r : ManifestRecord) : Option ManifestCopy :=
  if h : r.withoutKeyRanges.encodable = true then some ⟨r.withoutKeyRanges, h⟩ else none

/-- `write_manifest_copy`. -/
def writeManifestCopy (generation : ℕ) (state : ManifestState) : DbM Unit := do
  let db ← getDb
  failIf (generation = 0 ∨ db.manifest.databaseId = 0 ∨ db.manifest.generation = uint64Max ∨
    generation ≠ db.manifest.generation + 1) .invalidState
  let next := { db.manifest with generation := generation, state := state }
  match encodeManifestRecord next with
  | none => throw .invalidState
  | some copy =>
      -- A failed write or sync cannot prove whether this generation is durable: latch the fault.
      onError
        (do
          writeStorage (.manifestCopy (manifestSlotOf generation) copy)
          syncStorage)
        (modifyDb fun db => { db with storageFaulted := true })
      modifyDb fun db => { db with manifest := next }

/-- `stabilize_manifest_unsafe`. -/
def stabilizeManifestUnsafe : DbM Unit := do
  let db ← getDb
  if db.manifestStabilizationRequired then
    failIf (db.manifest.generation = uint64Max) .invalidState
    writeManifestCopy (db.manifest.generation + 1) db.manifest.state
    modifyDb fun db => { db with manifestStabilizationRequired := false }

/-! ## Loading -/

/-- What the first loop of `load_manifest` makes of one slot: nothing, a copy, or an error. -/
def readManifestSlot (m : Media) (slot : ℕ) : Except EspErr (Option ManifestRecord) :=
  match m.manifestCopy slot with
  | .error _ => .ok none
  | .ok copy =>
      if manifestSlotOf copy.record.generation ≠ slot then .error .invalidCrc
      else .ok (some copy.record)

/-- Whether a slot holds a record of another format revision. -/
def newerManifestFound (m : Media) (slot : ℕ) : Bool :=
  match m.manifestCopy slot with
  | .error status => status.isVersion
  | .ok _ => false

/-- Whether a slot's copy may stand next to the selected one. -/
def manifestCopiesAgree (copy selected : ManifestRecord) : Bool :=
  copy.databaseId == selected.databaseId && copy.geometry == selected.geometry &&
  copy.limits == selected.limits &&
  (copy.generation == selected.generation || selected.generation - copy.generation == 1) &&
  copy.nextTableGeneration ≤ selected.nextTableGeneration &&
  copy.safeCheckpointSequence ≤ selected.safeCheckpointSequence &&
  (copy.generation != selected.generation || copy.state == selected.state) &&
  !(copy.generation < selected.generation && copy.state == .ready &&
    selected.state == .provisioningOwned) &&
  (!(copy.generation < selected.generation && copy.activeTableBank == selected.activeTableBank) ||
    (List.range selected.geometry.tableCount).all fun slot =>
      match copy.tables slot with
      | none => true
      | some reference => (selected.tables slot).any (tableReferenceEqual reference))

/-- Whether the older copy still reaches storage the selected one has released. -/
def manifestNeedsStabilization (older selected : ManifestRecord) : Bool :=
  older.activeTableBank != selected.activeTableBank ||
  older.activeWalSlot != selected.activeWalSlot ||
  older.walGeneration 0 != selected.walGeneration 0 ||
  older.walGeneration 1 != selected.walGeneration 1 ||
  older.activeValueBank != selected.activeValueBank ||
  older.valueBankGeneration 0 != selected.valueBankGeneration 0 ||
  older.valueBankGeneration 1 != selected.valueBankGeneration 1 ||
  older.valueBankTail 0 != selected.valueBankTail 0 ||
  older.valueBankTail 1 != selected.valueBankTail 1

/-- `load_manifest`: the selected record, and whether the manifest has to be stabilized. -/
def loadManifest (m : Media) : Except EspErr (ManifestRecord × Bool) := do
  let first ← readManifestSlot m 0
  let second ← readManifestSlot m 1
  rejectIf (newerManifestFound m 0 ∨ newerManifestFound m 1) .invalidVersion
  match first, second with
  | none, none => .error .invalidCrc
  | some selected, none => .ok (selected, true)
  | none, some selected => .ok (selected, true)
  | some r₀, some r₁ =>
      let (selected, older) := if r₀.generation < r₁.generation then (r₁, r₀) else (r₀, r₁)
      rejectIf (manifestCopiesAgree older selected = false) .invalidCrc
      return (selected,
        older.generation < selected.generation && manifestNeedsStabilization older selected)

/-- `manifest_valid_copy_count` behind `load_manifest`. -/
def manifestValidCopyCount (m : Media) : ℕ :=
  ((List.range manifestSlotCount).filter fun slot =>
    match m.manifestCopy slot with
    | .ok _ => true
    | .error _ => false).length

end On9kvdb
