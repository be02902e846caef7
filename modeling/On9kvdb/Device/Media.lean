import On9kvdb.Format.Records

/-!
# Media and the block device

The provisioned range as a collection of records: one `Cell` for each place a record is written.
A cell is what the matching decoder returns there, so a cell either holds a record some encoder
produced or the reason its bytes are rejected; two different records never share their bytes.

The device keeps every image a power loss may leave, in two ways.  `older` holds the images the
writes since the last successful sync started from: a crash that keeps an issue-order prefix of
those writes leaves one of them.  `synced` and `pending` hold the image of that sync and the writes
themselves: `survivor` is the image of a crash that keeps an arbitrary selection of their units.
-/

namespace On9kvdb

/-- What the decoders find in the provisioned range.  WAL frames, data blocks and value chunks
are addressed by their byte offset in their region, as the source addresses them. -/
structure Media where
  /-- The byte, `0x00` or `0xff`, the whole range consists of, when it consists of one. -/
  blank : Option UInt8
  manifestCopy : ℕ → Cell ManifestCopy
  identity : FileKind → ℕ → ℕ → Cell FileIdentity
  walHeader : ℕ → ℕ → Cell WalHeader
  walFrame : ℕ → ℕ → Cell WalFrame
  tableHeader : ℕ → ℕ → Cell TableMetadataRecord
  tableFooter : ℕ → Cell TableMetadataRecord
  tableBlock : ℕ → ℕ → Cell TableBlock
  tableIndex : ℕ → Cell TableIndex
  valueChunk : ℕ → ℕ → Cell ValueChunk

/-- A range that consists of the byte `b` only. -/
def blankMedia (b : UInt8) : Media where
  blank := some b
  manifestCopy _ := .error .invalidMagic
  identity _ _ _ := .error .invalidMagic
  walHeader _ _ := .error .invalidMagic
  walFrame _ _ := .error .invalidMagic
  tableHeader _ _ := .error .invalidMagic
  tableFooter _ := .error .invalidMagic
  tableBlock _ _ := .error .invalidMagic
  tableIndex _ := .error .invalidMagic
  valueChunk _ _ := .error .invalidMagic

/-- One `write_storage_bytes_unsafe` call.  The markers are the frames of zeros that provisioning
puts where a table's headers and footer will be. -/
inductive Write
  | manifestCopy (slot : ℕ) (copy : ManifestCopy)
  | identity (kind : FileKind) (slot copySlot : ℕ) (record : FileIdentity)
  | walHeader (slot copySlot : ℕ) (header : WalHeader)
  | walFrame (slot offset : ℕ) (frame : WalFrame)
  | tableHeaderMarker (slot copySlot : ℕ)
  | tableFooterMarker (slot : ℕ)
  | tableHeader (slot copySlot : ℕ) (metadata : TableMetadataRecord)
  | tableFooter (slot : ℕ) (metadata : TableMetadataRecord)
  | tableBlock (slot offset : ℕ) (block : TableBlock)
  | tableIndex (slot : ℕ) (index : TableIndex)
  | valueChunk (bank offset : ℕ) (chunk : ValueChunk)

/-- `f` with the value at `(i, j)` replaced. -/
def update₂ {α : Type} (f : ℕ → ℕ → α) (i j : ℕ) (a : α) : ℕ → ℕ → α :=
  Function.update f i (Function.update (f i) j a)

lemma update₂_apply {α : Type} (f : ℕ → ℕ → α) (i j : ℕ) (a : α) (i' j' : ℕ) :
    update₂ f i j a i' j' = if i' = i ∧ j' = j then a else f i' j' := by
  unfold update₂
  by_cases hi : i' = i
  · subst hi
    by_cases hj : j' = j
    · simp [hj]
    · simp [hj]
  · simp [hi]

/-- A frame of zeros leaves a range of zeros as it is. -/
def Media.blankBehindZeros (m : Media) : Option UInt8 := if m.blank = some 0 then some 0 else none

/-- The image after the write has reached the media as a whole. -/
def Write.apply (m : Media) : Write → Media
  | manifestCopy slot copy =>
      { m with
        blank := none
        manifestCopy := Function.update m.manifestCopy slot (.ok copy) }
  | identity kind slot copySlot record =>
      { m with
        blank := none
        identity := Function.update m.identity kind
          (update₂ (m.identity kind) slot copySlot (.ok record)) }
  | walHeader slot copySlot header =>
      { m with blank := none, walHeader := update₂ m.walHeader slot copySlot (.ok header) }
  | walFrame slot offset frame =>
      { m with blank := none, walFrame := update₂ m.walFrame slot offset (.ok frame) }
  | tableHeaderMarker slot copySlot =>
      { m with
        blank := m.blankBehindZeros
        tableHeader := update₂ m.tableHeader slot copySlot (.error .invalidMagic) }
  | tableFooterMarker slot =>
      { m with
        blank := m.blankBehindZeros
        tableFooter := Function.update m.tableFooter slot (.error .invalidMagic) }
  | tableHeader slot copySlot metadata =>
      { m with blank := none, tableHeader := update₂ m.tableHeader slot copySlot (.ok metadata) }
  | tableFooter slot metadata =>
      { m with blank := none, tableFooter := Function.update m.tableFooter slot (.ok metadata) }
  | tableBlock slot offset block =>
      { m with blank := none, tableBlock := update₂ m.tableBlock slot offset (.ok block) }
  | tableIndex slot index =>
      { m with blank := none, tableIndex := Function.update m.tableIndex slot (.ok index) }
  | valueChunk bank offset chunk =>
      { m with blank := none, valueChunk := update₂ m.valueChunk bank offset (.ok chunk) }

/-- The image after only some of the write's 4096-byte units have reached the media.  Data and
index blocks span several units and then fail their checksum; every other record is one unit and
keeps its old bytes. -/
def Write.applyTorn (m : Media) : Write → Media
  | tableBlock slot offset _ =>
      { m with
        blank := none
        tableBlock := update₂ m.tableBlock slot offset (.error .corrupt) }
  | tableIndex slot _ =>
      { m with
        blank := none
        tableIndex := Function.update m.tableIndex slot (.error .corrupt) }
  | _ => m

/-! ## Power losses -/

/-- How much of an unsynced write a power loss leaves: none of its units, some, or all. -/
inductive Remnant
  | lost
  | part
  | whole
  deriving DecidableEq, Repr

/-- The image with what is left of one write. -/
def Write.remain (w : Write) (m : Media) : Remnant → Media
  | .lost => m
  | .part => w.applyTorn m
  | .whole => w.apply m

/-- What is left of several writes, newest first; `choice` counts them from the oldest. -/
def remainder (base : Media) (choice : ℕ → Remnant) : List Write → Media
  | [] => base
  | w :: earlier => w.remain (remainder base choice earlier) (choice earlier.length)

/-! ## The device -/

/-- What the device does with one call. -/
inductive Fault
  /-- The call succeeds. -/
  | none
  /-- The call fails and no unit reached the media. -/
  | keepOld
  /-- The call fails after some of the units reached the media. -/
  | torn
  /-- The call fails after every unit reached the media. -/
  | keepNew
  deriving DecidableEq, Repr

/-- The block device and what else the instance is given by its surroundings.  `older` holds,
newest first, the images a power loss may still fall back to, `pending` the writes since the last
successful sync, which left `synced`; `faults` decides the outcome of each call, `scrap` is what a
call leaves in the buffer of a reader when it delivers no usable record, `entropy` is the nonzero
number that `esp_random` yields, and `issued` records every write together with the image that was
durable when it was issued. -/
structure Device where
  current : Media
  older : List Media
  synced : Media
  pending : List Write
  faults : ℕ → Fault
  scrap : ℕ → Bytes
  entropy : ℕ → {id : ℕ // id ≠ 0}
  clock : ℕ
  issued : List (Write × Media)

namespace Device

/-- A device that has just been powered on. -/
def boot (m : Media) (faults : ℕ → Fault) (scrap : ℕ → Bytes) (entropy : ℕ → {id : ℕ // id ≠ 0}) :
    Device where
  current := m
  older := []
  synced := m
  pending := []
  faults := faults
  scrap := scrap
  entropy := entropy
  clock := 0
  issued := []

/-- Every image a crash may leave that keeps a prefix of the writes, newest first. -/
def images (d : Device) : List Media := d.current :: d.older

/-- The image that survives whatever happens: the one of the last successful sync. -/
def durable (d : Device) : Media := d.older.getLastD d.current

/-- The image of a crash that keeps, of every write since the last successful sync, what `choice`
says. -/
def survivor (d : Device) (choice : ℕ → Remnant) : Media := remainder d.synced choice d.pending

/-- The outcome of the next call. -/
def fault (d : Device) : Fault := d.faults d.clock

def tick (d : Device) : Device := { d with clock := d.clock + 1 }

/-- The device now holds `m`; the image it replaces may still survive a crash. -/
def push (d : Device) (m : Media) : Device := { d with current := m, older := d.images }

/-- `write_blocks`. -/
def write (d : Device) (w : Write) : Bool × Device :=
  let d' := { d.tick with issued := (w, d.durable) :: d.issued }
  let torn := Device.push { d' with pending := w :: d.pending } (w.applyTorn d.current)
  match d.fault with
  | .none => (true, torn.push (w.apply d.current))
  | .keepOld => (false, d')
  | .torn => (false, torn)
  | .keepNew => (false, torn.push (w.apply d.current))

/-- The device after a successful sync. -/
def flushed (d : Device) : Device :=
  { d.tick with older := [], synced := d.current, pending := [] }

/-- `sync`: makes every earlier write durable, or fails and promises nothing. -/
def sync (d : Device) : Bool × Device :=
  match d.fault with
  | .none => (true, d.flushed)
  | _ => (false, d.tick)

/-- `read_blocks` of a whole record or group of records. -/
def read (d : Device) : Bool × Device := (d.fault == .none, d.tick)

/-- A power loss that leaves the image `m`. -/
def crash (d : Device) (m : Media) : Device :=
  { d with current := m, older := [], synced := m, pending := [] }

end Device

end On9kvdb
