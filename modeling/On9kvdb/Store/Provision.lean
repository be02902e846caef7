import On9kvdb.Store.Wal

/-!
# Provisioning

What `init` does before recovery: a uniformly erased range is taken over with two manifest copies
in the provisioning state, then every data file gets its identity and the tables their zero
publication markers, and last the manifest is published as ready.  On a ready database the same
path only reads: it selects a manifest copy and checks the identities.
-/

namespace On9kvdb

variable (cfg : Config)

/-! ## The manifest -/

/-- `storage_region_is_blank_unsafe`. -/
def storageRegionIsBlankUnsafe : DbM Bool := readStorage fun _ m => .ok m.blank.isSome

/-- The loop around `esp_random` of `create_manifest`. -/
def randomDatabaseId : DbM ℕ := do
  let w ← get
  set { w with dev := w.dev.tick }
  return w.dev.entropy w.dev.clock

/-- The manifest of a database that is being provisioned. -/
def initialManifest (databaseId : ℕ) : ManifestRecord :=
  { ManifestRecord.blank with
    databaseId := databaseId
    geometry := cfg.geometry
    limits := cfg.limits
    activeWalSlot := 0
    activeValueBank := 0
    valueBankGeneration := fun _ => 1
    valueBankTail := fun _ => identityRegionSize }

/-- `create_manifest`. -/
def createManifest : DbM Unit := do
  let databaseId ← randomDatabaseId
  modifyDb fun db => { db with manifest := initialManifest cfg databaseId }
  writeManifestCopy 1 .provisioningOwned
  writeManifestCopy 2 .provisioningOwned

/-- `open_existing_manifest`: the selected copy must match the build. -/
def openExistingManifest : DbM Unit := do
  let ((manifest, stabilizationRequired), validCopyCount) ← readStorage fun _ m =>
    (loadManifest m).map fun loaded => (loaded, manifestValidCopyCount m)
  modifyDb fun db => { db with
    manifest := manifest
    manifestStabilizationRequired := stabilizationRequired }
  failIf (manifest.geometry ≠ cfg.geometry ∨ manifest.limits ≠ cfg.limits) .invalidSize
  if manifest.state = .provisioningOwned ∧ validCopyCount < manifestSlotCount then
    failIf (manifest.generation = uint64Max) .invalidCrc
    writeManifestCopy (manifest.generation + 1) .provisioningOwned

/-- `setup_manifest`. -/
def setupManifest : DbM Unit := do
  if ← storageRegionIsBlankUnsafe then createManifest cfg else openExistingManifest cfg

/-! ## Identities -/

/-- The success test of `encode_file_identity`. -/
def encodeFileIdentity (generation databaseId fileSize slot : ℕ) : Option FileIdentity :=
  if h : (generation != 0 && databaseId != 0 && identityRegionSize < fileSize &&
      fileSize ≤ maxStorageObjectSize && fileSize % formatAlignment == 0) = true
  then some ⟨generation, databaseId, fileSize, slot, h⟩
  else none

/-- `identity_matches`. -/
def identityMatches (identity : FileIdentity) (databaseId fileSize slot : ℕ) : Bool :=
  identity.generation == 1 && identity.databaseId == databaseId &&
  identity.fileSize == fileSize && identity.slot == slot

/-- `write_file_identity_copy`. -/
def writeFileIdentityCopy (kind : FileKind) (slot copySlot : ℕ) : DbM Unit := do
  failIf (identitySlotCount ≤ copySlot) .invalidArg
  let db ← getDb
  match encodeFileIdentity 1 db.manifest.databaseId (db.manifest.geometry.dataFileSize kind)
      slot with
  | none => throw .invalidState
  | some identity => writeStorage (.identity kind slot copySlot identity)

/-- One round of `load_file_identity`: whether the copy is valid. -/
def readFileIdentity (m : Media) (manifest : ManifestRecord) (kind : FileKind)
    (slot copySlot : ℕ) : Except EspErr Bool :=
  match m.identity kind slot copySlot with
  | .error status => if status.isVersion then .error .invalidVersion else .ok false
  | .ok identity =>
      if identityMatches identity manifest.databaseId (manifest.geometry.dataFileSize kind)
          slot = false then .error .invalidCrc
      else .ok true

/-- `load_file_identity`: which of the two copies are valid.  Without a valid copy the source
reports `ESP_ERR_NOT_FOUND`. -/
def loadFileIdentity (m : Media) (manifest : ManifestRecord) (kind : FileKind) (slot : ℕ) :
    Except EspErr (Bool × Bool) := do
  let first ← readFileIdentity m manifest kind slot 0
  let second ← readFileIdentity m manifest kind slot 1
  return (first, second)

/-! ## Data files -/

/-- The zero publication markers of a table, made durable together. -/
def writeTableMarkers (kind : FileKind) (slot : ℕ) : DbM Unit :=
  if kind = .table then do
    writeStorage (.tableHeaderMarker slot 0)
    writeStorage (.tableHeaderMarker slot 1)
    writeStorage (.tableFooterMarker slot)
    syncStorage
  else pure ()

/-- One round of the identity loop: a valid copy is left alone. -/
def writeUnlessValid (valid : Bool) (kind : FileKind) (slot copySlot : ℕ) : DbM Unit :=
  if valid = false then writeFileIdentityCopy kind slot copySlot else pure ()

/-- The missing identity copies of one file, made durable together and read back. -/
def writeMissingIdentities (kind : FileKind) (slot : ℕ) (valid : Bool × Bool) : DbM Unit := do
  writeUnlessValid valid.1 kind slot 0
  writeUnlessValid valid.2 kind slot 1
  syncStorage
  let final ← readStorage fun db m => loadFileIdentity m db.manifest kind slot
  failIf (final = (false, false)) .notFound
  failIf (final.1 = false ∨ final.2 = false) .invalidCrc

/-- `provision_one_data_file`. -/
def provisionOneDataFile (kind : FileKind) (slot : ℕ) : DbM Unit := do
  let valid ← readStorage fun db m => loadFileIdentity m db.manifest kind slot
  let db ← getDb
  if db.manifest.state = .provisioningOwned then
    writeTableMarkers kind slot
    writeMissingIdentities kind slot valid
  else failIf (valid = (false, false)) .invalidCrc

/-- One loop of `provision_all_data_files`. -/
def provisionDataFiles (kind : FileKind) : List ℕ → DbM Unit
  | [] => pure ()
  | slot :: rest => do
      provisionOneDataFile kind slot
      provisionDataFiles kind rest

/-- `initialise_first_wal`. -/
def initialiseFirstWal : DbM Unit := ensureWalHeader cfg 0 1 1

/-- The end of `provision_all_data_files`: the first WAL header and the ready copies. -/
def publishProvisioned : DbM Unit := do
  let db ← getDb
  failIf (db.manifest.generation = uint64Max) .invalidCrc
  initialiseFirstWal cfg
  modifyDb fun db => { db with
    manifest := { db.manifest with
      activeWalSlot := 0
      walGeneration := Function.update (fun _ => 0) 0 1
      safeCheckpointSequence := 0 } }
  writeManifestCopy (db.manifest.generation + 1) .ready
  -- A fallback that still says "provisioning" would let a later start erase the log.
  modifyDb fun db => { db with manifestStabilizationRequired := true }
  stabilizeManifestUnsafe

/-- `provision_all_data_files`. -/
def provisionAllDataFiles : DbM Unit := do
  let db ← getDb
  provisionDataFiles .wal (List.range db.manifest.geometry.walCount)
  provisionDataFiles .table (List.range db.manifest.geometry.tableCount)
  provisionDataFiles .valueBank (List.range db.manifest.geometry.valueBankCount)
  if db.manifest.state ≠ .ready then publishProvisioned cfg

/-- `initialise_storage`. -/
def initialiseStorage : DbM Unit := do
  setupManifest cfg
  provisionAllDataFiles cfg

end On9kvdb
