import On9kvdb.Format.Basic

/-!
# Little-endian fields and the CRC-32

Every durable record is a little-endian byte string closed by a CRC-32 that was computed while
its own four bytes were zero.  `leBytes`/`readLe` are the `write_uN_le`/`read_uN_le` family with
the width as a parameter; `calcCrc32Update` is the table-driven update, with each table entry
computed by `makeCrc32LutEntry` as the source does at compile time.
-/

namespace On9kvdb

/-! ## Little-endian fields -/

/-- `write_uN_le`: the `width` low bytes of `value`, least significant first. -/
def leBytes : (width : ℕ) → (value : ℕ) → Bytes
  | 0, _ => []
  | width + 1, value => UInt8.ofNat (value % 256) :: leBytes width (value / 256)

/-- The number a little-endian byte string denotes. -/
def leNat : Bytes → ℕ
  | [] => 0
  | b :: bs => b.toNat + 256 * leNat bs

/-- `read_uN_le`: `width` bytes at `offset`, or nothing when they do not fit in the buffer. -/
def readLe (width : ℕ) (buf : Bytes) (offset : ℕ) : Option ℕ :=
  if offset + width ≤ buf.length then some (leNat ((buf.drop offset).take width)) else none

@[simp] lemma length_leBytes (width value : ℕ) : (leBytes width value).length = width := by
  induction width generalizing value with
  | zero => rfl
  | succ width ih => simp [leBytes, ih]

/-- What is written is what is read, as long as the value fits its width. -/
lemma leNat_leBytes {width value : ℕ} (h : value < 256 ^ width) :
    leNat (leBytes width value) = value := by
  induction width generalizing value with
  | zero => simp_all [leBytes, leNat]
  | succ width ih =>
      have hdiv : value / 256 < 256 ^ width := by
        rw [Nat.div_lt_iff_lt_mul (by norm_num)]
        rwa [pow_succ] at h
      have hbyte : (UInt8.ofNat (value % 256)).toNat = value % 256 := by
        simp [UInt8.toNat_ofNat']
      rw [leBytes, leNat, ih hdiv, hbyte]
      omega

/-- A field read at the place where it was written. -/
lemma readLe_append {width value : ℕ} (pre post : Bytes) (h : value < 256 ^ width) :
    readLe width (pre ++ (leBytes width value ++ post)) pre.length = some value := by
  have hlen : pre.length + width ≤ (pre ++ (leBytes width value ++ post)).length := by
    simp only [List.length_append, length_leBytes]
    omega
  have htake : ((pre ++ (leBytes width value ++ post)).drop pre.length).take width =
      leBytes width value := by
    rw [List.drop_left]
    exact List.take_left' (length_leBytes width value)
  rw [readLe, if_pos hlen, htake, leNat_leBytes h]

/-! ## CRC-32 -/

/-- `crc32_polynomial`, the reflected IEEE 802.3 polynomial. -/
def crc32Polynomial : UInt32 := 0xedb88320

/-- One bit of `make_crc32_lut_entry`. -/
def crc32Step (value : UInt32) : UInt32 :=
  if value &&& 1 = 1 then (value >>> 1) ^^^ crc32Polynomial else value >>> 1

/-- `make_crc32_lut_entry`: eight bits of polynomial division. -/
def makeCrc32LutEntry (value : UInt32) : UInt32 := crc32Step^[8] value

/-- `calc_crc32_update`. -/
def calcCrc32Update (crc : UInt32) (buf : Bytes) : UInt32 :=
  buf.foldl (fun crc b => makeCrc32LutEntry ((crc ^^^ b.toUInt32) &&& 0xff) ^^^ (crc >>> 8)) crc

/-- `UINT32_MAX`, the initial state of every checksum. -/
def crcInit : UInt32 := 0xffffffff

/-- `calc_crc32`. -/
def calcCrc32 (buf : Bytes) : UInt32 := ~~~ calcCrc32Update crcInit buf

@[simp] lemma calcCrc32Update_nil (crc : UInt32) : calcCrc32Update crc [] = crc := rfl

/-- Updating block by block is updating with the concatenation. -/
@[simp] lemma calcCrc32Update_append (crc : UInt32) (a b : Bytes) :
    calcCrc32Update crc (a ++ b) = calcCrc32Update (calcCrc32Update crc a) b :=
  List.foldl_append

/-- A record whose checksum field sits between `pre` and `post` (`calc_record_crc`): the field
itself counts as zero. -/
def withRecordCrc (pre post : Bytes) : Bytes :=
  pre ++ leBytes 4 (calcCrc32 (pre ++ (List.replicate 4 0 ++ post))).toNat ++ post

@[simp] lemma length_withRecordCrc (pre post : Bytes) :
    (withRecordCrc pre post).length = pre.length + 4 + post.length := by
  simp only [withRecordCrc, List.length_append, length_leBytes]

end On9kvdb
