import On9kvdb.Durable.Manifest

/-!
# The table references of a manifest

One reference takes 56 bytes: all zero when it is inactive, else a flag, its fields and two gaps of
zeros (`HoldsReference`).  Decoding a reference and holding its bytes are the same thing
(`run_decodeManifestTableReference_eq_ok`), and so the loop of the decoder returns the references
whose bytes are there, exactly when the loop of the encoder accepts them (`run_decodeTables`,
`holds_of_decodeTables`).
-/

namespace On9kvdb

namespace Durable

open Decode Patch

/-- The range from `offset` on is zero. -/
def ZeroAt (buf : Bytes) (offset len : ℕ) : Prop := slice buf offset len = List.replicate len 0

/-- The 56 bytes of a reference. -/
def HoldsReference (buf : Bytes) (offset : ℕ) (reference : TableReference) : Prop :=
  if reference.active then
    Holds buf (tableReferenceFields offset reference) ∧ ZeroAt buf (offset + 2) 6 ∧
      ZeroAt buf (offset + 52) 4
  else ZeroAt buf offset manifestTableReferenceSize

/-- A reference as the manifest keeps it: an inactive one has no fields. -/
def TableReference.stored (reference : TableReference) : TableReference :=
  if reference.active then reference else .blank

namespace TableReference

variable {reference other : TableReference}

lemma active_stored : reference.stored.active = reference.active := by
  unfold stored
  split_ifs with h
  · rfl
  · exact (Bool.eq_false_iff.mpr h).symm

lemma active_of_stored (h : reference.stored = other.stored) :
    reference.active = other.active := by
  rw [← active_stored, h, active_stored]

lemma eq_of_stored (h : reference.stored = other.stored) (hactive : reference.active = true) :
    reference = other := by
  have hother := (active_of_stored h).symm.trans hactive
  rwa [stored, if_pos hactive, stored, if_pos hother] at h

/-- Storing a reference keeps it, as far as references are compared. -/
lemma tableReferenceEqual_stored : tableReferenceEqual reference reference.stored = true := by
  unfold stored
  split_ifs with h
  · simp [tableReferenceEqual]
  · simp [tableReferenceEqual, Bool.eq_false_iff.mpr h, blank]

end TableReference

/-! ## Running a part of a codec -/

section
variable {α β : Type} {condition : Prop} [Decidable condition] {b : β} {f : Unit → Option β}
  {x : Decode β} {buf : Bytes} {offset len : ℕ}

lemma guard_bind_eq_some : (guard condition >>= f) = some b ↔ condition ∧ f () = some b := by
  by_cases h : condition
  · rw [guard, if_pos h]
    exact ⟨fun heq => ⟨h, heq⟩, fun heq => heq.2⟩
  · rw [guard, if_neg h]
    exact ⟨fun heq => (by cases heq), fun heq => absurd heq.1 h⟩

/-- A check for zeros, and the rejection that depends on it. -/
lemma run_zero_bind_eq_ok {status : FormatStatus} (hfits : offset + len ≤ buf.length) :
    (do let zero ← isZeroRange buf offset len
        reject (zero = false) status
        x : Decode β).run = some (.ok b) ↔ ZeroAt buf offset len ∧ x.run = some (.ok b) := by
  rw [run_bind_eq_ok]
  constructor
  · rintro ⟨zero, hzero, h⟩
    obtain ⟨_, hreject, h⟩ := run_bind_eq_ok.mp h
    cases zero with
    | false => exact absurd rfl (run_reject_eq_ok.mp hreject)
    | true => exact ⟨(run_isZeroRange_eq_true hfits).mp hzero, h⟩
  · rintro ⟨hzero, h⟩
    refine ⟨true, (run_isZeroRange_eq_true hfits).mpr hzero, ?_⟩
    rw [run_bind_ok (run_reject_not (by decide)), h]

lemma run_reject_bind_eq_ok {status : FormatStatus} :
    (do reject condition status
        x : Decode β).run = some (.ok b) ↔ ¬ condition ∧ x.run = some (.ok b) := by
  rw [run_bind_eq_ok]
  constructor
  · rintro ⟨_, hreject, h⟩
    exact ⟨run_reject_eq_ok.mp hreject, h⟩
  · rintro ⟨hcondition, h⟩
    exact ⟨(), run_reject_eq_ok.mpr hcondition, h⟩

lemma run_peek_eq_ok {byte : UInt8} (hfits : offset + 1 ≤ buf.length) :
    (peek buf offset).run = some (.ok byte) ↔ slice buf offset 1 = [byte] := by
  have hslice : slice buf offset 1 = [buf[offset]] := by
    unfold slice
    rw [List.drop_eq_getElem_cons hfits, List.take_succ_cons, List.take_zero]
  rw [run_peek hfits, hslice]
  constructor
  · intro h
    cases h
    rfl
  · intro h
    rw [(List.cons.inj h).1]

/-- A range that starts with another byte is not zero. -/
lemma not_zeroAt {byte : UInt8} (hslice : slice buf offset 1 = [byte]) (hbyte : byte ≠ 0)
    (hlen : 0 < len) : ¬ ZeroAt buf offset len := by
  intro hzero
  have hfirst := congrArg (fun s => s[0]?) hslice
  have hfirst' := congrArg (fun s => s[0]?) hzero
  simp only [getElem?_slice, List.getElem?_replicate, hlen, if_pos] at hfirst hfirst'
  rw [if_pos one_pos, hfirst'] at hfirst
  cases hfirst
  exact hbyte rfl

end

/-! ## One reference -/

section
variable {buf : Bytes} {offset : ℕ} {reference : TableReference}

/-- Decoding a reference finds its bytes. -/
lemma run_decodeManifestTableReference_eq_ok (hfits : offset + 56 ≤ buf.length) :
    (decodeManifestTableReference buf offset).run = some (.ok reference) ↔
      HoldsReference buf offset reference ∧
        (reference.active = false → reference = .blank) ∧
        (reference.active = true → reference.level = 0) := by
  have hrange : ¬ isRangeValid buf.length offset manifestTableReferenceSize = false := by
    rw [Bool.not_eq_false]
    exact isRangeValid_iff.mpr ⟨hfits, by omega⟩
  have hzero : (isZeroRange buf offset manifestTableReferenceSize).run = some (.ok true) ↔
      ZeroAt buf offset manifestTableReferenceSize := run_isZeroRange_eq_true hfits
  unfold decodeManifestTableReference
  rw [run_reject_bind_eq_ok, run_bind_eq_ok]
  constructor
  · rintro ⟨-, zero, hrun, h⟩
    cases zero with
    | true =>
        obtain rfl : TableReference.blank = reference := run_pure_eq_ok.mp h
        exact ⟨hzero.mp hrun, fun _ => rfl, fun hactive => (by cases hactive)⟩
    | false =>
        obtain ⟨flags, hflags, h⟩ := run_bind_eq_ok.mp h
        obtain ⟨level, hlevel, h⟩ := run_bind_eq_ok.mp h
        obtain ⟨hbytes, h⟩ := run_reject_bind_eq_ok.mp h
        obtain ⟨hgap, h⟩ := (run_zero_bind_eq_ok (by omega)).mp h
        obtain ⟨hend, h⟩ := (run_zero_bind_eq_ok (by omega)).mp h
        simp only [run_bind_eq_ok, run_read32_eq_ok, run_read64_eq_ok, run_pure_eq_ok] at h
        obtain ⟨slot, ⟨-, hslot⟩, count, ⟨-, hcount⟩, generation, ⟨-, hgeneration⟩, minimum,
          ⟨-, hminimum⟩, maximum, ⟨-, hmaximum⟩, entries, ⟨-, hentries⟩, bytes, ⟨-, hdata⟩,
          checksum, ⟨-, hchecksum⟩, rfl⟩ := h
        obtain ⟨rfl, rfl⟩ : flags = tableReferenceFlagActive ∧ level = 0 := by tauto
        have hflag := (run_peek_eq_ok (by omega)).mp hflags
        have hzeroLevel := (run_peek_eq_ok (by omega)).mp hlevel
        refine ⟨?_, fun hactive => (by cases hactive), fun _ => rfl⟩
        simp only [HoldsReference, tableReferenceFields, if_true, holds_cons, holds_nil,
          length_le32, length_le64, List.length_singleton, and_true]
        exact ⟨⟨hflag, hzeroLevel, hslot, hcount, hgeneration, hminimum, hmaximum, hentries, hdata,
          hchecksum⟩, hgap, hend⟩
  · rintro ⟨hholds, hblank, hlevel⟩
    refine ⟨hrange, ?_⟩
    cases hactive : reference.active with
    | false =>
        rw [hblank hactive] at hholds ⊢
        exact ⟨true, hzero.mpr hholds, rfl⟩
    | true =>
        rw [HoldsReference, if_pos hactive, tableReferenceFields, if_pos hactive] at hholds
        simp only [holds_cons, holds_nil, length_le32, length_le64, List.length_singleton,
          and_true] at hholds
        obtain ⟨⟨hflag, hlevelByte, hslot, hcount, hgeneration, hminimum, hmaximum, hentries, hdata,
          hchecksum⟩, hgap, hend⟩ := hholds
        obtain ⟨zero, hrun⟩ := @run_isZeroRange buf offset manifestTableReferenceSize hfits
        have hfalse : zero = false := by
          cases zero with
          | false => rfl
          | true => exact absurd (hzero.mp hrun) (not_zeroAt hflag (by decide) (by decide))
        subst hfalse
        refine ⟨false, hrun, ?_⟩
        rw [if_neg Bool.false_ne_true, run_bind_ok ((run_peek_eq_ok (by omega)).mpr hflag),
          run_bind_ok ((run_peek_eq_ok (by omega)).mpr hlevelByte), run_reject_bind_eq_ok,
          run_zero_bind_eq_ok (by omega), run_zero_bind_eq_ok (by omega), hlevel hactive]
        refine ⟨by decide, hgap, hend, ?_⟩
        simp only [run_bind_eq_ok, run_read32_eq_ok, run_read64_eq_ok, run_pure_eq_ok]
        refine ⟨_, ⟨by omega, hslot⟩, _, ⟨by omega, hcount⟩, _, ⟨by omega, hgeneration⟩, _,
          ⟨by omega, hminimum⟩, _, ⟨by omega, hmaximum⟩, _, ⟨by omega, hentries⟩, _,
          ⟨by omega, hdata⟩, _, ⟨by omega, hchecksum⟩, ?_⟩
        rw [← hlevel hactive, ← hactive]

/-- The fields of a reference are within its 56 bytes. -/
lemma tableReferenceFields_within :
    ∀ p ∈ tableReferenceFields offset reference, offset ≤ p.1 ∧ stop p ≤ offset + 56 := by
  intro p hp
  unfold tableReferenceFields at hp
  split_ifs at hp
  · simp only [List.mem_cons, List.not_mem_nil, or_false] at hp
    rcases hp with rfl | rfl | rfl | rfl | rfl | rfl | rfl | rfl | rfl | rfl <;> simp [stop]
  · cases hp

lemma tableReferenceFields_rising : Rising offset (tableReferenceFields offset reference) := by
  unfold tableReferenceFields
  split_ifs
  · simp [Rising, stop]
  · trivial

/-- They leave two gaps. -/
lemma tableReferenceFields_apart {i : ℕ} (hi : offset + 2 ≤ i ∧ i < offset + 8 ∨
    offset + 52 ≤ i) : ∀ p ∈ tableReferenceFields offset reference, i < p.1 ∨ stop p ≤ i := by
  intro p hp
  unfold tableReferenceFields at hp
  split_ifs at hp
  · simp only [List.mem_cons, List.not_mem_nil, or_false] at hp
    rcases hp with rfl | rfl | rfl | rfl | rfl | rfl | rfl | rfl | rfl | rfl <;>
      simp only [stop, length_le32, length_le64, List.length_singleton] <;> omega
  · cases hp

lemma zeroAt_iff {len : ℕ} :
    ZeroAt buf offset len ↔ ∀ i, offset ≤ i → i < offset + len → buf[i]? = some 0 := by
  constructor
  · intro h i hlow hhigh
    have hi := congrArg (fun s => s[i - offset]?) h
    simp only [getElem?_slice, List.getElem?_replicate] at hi
    rwa [if_pos (by omega), if_pos (by omega), Nat.add_sub_cancel' hlow] at hi
  · intro h
    apply List.ext_getElem?
    intro i
    rw [getElem?_slice, List.getElem?_replicate]
    split_ifs with hi
    · exact h _ (by omega) (by omega)
    · rfl

/-- A part of a zero range is zero. -/
lemma ZeroAt.part {start len n : ℕ} (h : ZeroAt buf start n) (hlow : start ≤ offset)
    (hhigh : offset + len ≤ start + n) : ZeroAt buf offset len :=
  zeroAt_iff.mpr fun i hi hi' => zeroAt_iff.mp h i (by omega) (by omega)

/-- A zero range stays zero where the buffer stays. -/
lemma ZeroAt.congr {out : Bytes} {len : ℕ} (hzero : ZeroAt buf offset len)
    (h : ∀ i, offset ≤ i → i < offset + len → buf[i]? = out[i]?) : ZeroAt out offset len :=
  (slice_congr h).symm.trans hzero

/-- A reference is held by its 56 bytes. -/
lemma HoldsReference.congr {out : Bytes} (hholds : HoldsReference buf offset reference)
    (h : ∀ i, offset ≤ i → i < offset + 56 → buf[i]? = out[i]?) :
    HoldsReference out offset reference := by
  unfold HoldsReference at hholds ⊢
  split_ifs at hholds ⊢
  · obtain ⟨hfields, hgap, hend⟩ := hholds
    exact ⟨hfields.congr tableReferenceFields_within h,
      hgap.congr fun i hi hi' => h i (by omega) (by omega),
      hend.congr fun i hi hi' => h i (by omega) (by omega)⟩
  · exact hholds.congr h

/-- Written over zeros, the fields are the reference's bytes. -/
lemma holdsReference_patchAll
    (hfits : ∀ p ∈ tableReferenceFields offset reference, stop p ≤ buf.length)
    (hzero : ZeroAt buf offset 56) :
    HoldsReference (patchAll buf (tableReferenceFields offset reference)) offset reference := by
  unfold HoldsReference
  split_ifs with hactive
  · refine ⟨holds_patchAll hfits tableReferenceFields_rising, ?_, ?_⟩
    · exact (hzero.part (by omega) (by omega)).congr fun i hlow hhigh =>
        (getElem?_patchAll hfits (tableReferenceFields_apart (.inl ⟨hlow, by omega⟩))).symm
    · exact (hzero.part (by omega) (by omega)).congr fun i hlow _ =>
        (getElem?_patchAll hfits (tableReferenceFields_apart (.inr hlow))).symm
  · rw [tableReferenceFields, if_neg hactive]
    exact hzero

/-- What decoding returns for a reference that was stored. -/
lemma holdsReference_stored :
    HoldsReference buf offset reference.stored ↔ HoldsReference buf offset reference := by
  unfold TableReference.stored
  split_ifs with h
  · rfl
  · rw [HoldsReference, HoldsReference, if_neg h, if_neg (by decide)]

/-- Two buffers with the same reference agree on its bytes. -/
lemma HoldsReference.agree {out : Bytes} (hbuf : HoldsReference buf offset reference)
    (hout : HoldsReference out offset reference) {i : ℕ} (hlow : offset ≤ i)
    (hhigh : i < offset + 56) : buf[i]? = out[i]? := by
  unfold HoldsReference at hbuf hout
  split_ifs at hbuf hout with hactive
  · obtain ⟨hfields, hgap, hend⟩ := hbuf
    obtain ⟨hfields', hgap', hend'⟩ := hout
    have hhead : Tiles offset ((tableReferenceFields offset reference).take 2) (offset + 2) := by
      simp [tableReferenceFields, hactive, Tiles, stop]
    have htail : Tiles (offset + 8) ((tableReferenceFields offset reference).drop 2)
        (offset + 52) := by
      simp [tableReferenceFields, hactive, Tiles, stop]
    rcases Nat.lt_or_ge i (offset + 2) with h2 | h2
    · exact hhead.agree (fun p hp => hfields p (List.mem_of_mem_take hp))
        (fun p hp => hfields' p (List.mem_of_mem_take hp)) hlow h2
    rcases Nat.lt_or_ge i (offset + 8) with h8 | h8
    · exact getElem?_of_slice (hgap.trans hgap'.symm) h2 h8
    rcases Nat.lt_or_ge i (offset + 52) with h52 | h52
    · exact htail.agree (fun p hp => hfields p (List.mem_of_mem_drop hp))
        (fun p hp => hfields' p (List.mem_of_mem_drop hp)) h8 h52
    · exact getElem?_of_slice (hend.trans hend'.symm) h52 hhigh
  · exact getElem?_of_slice (hbuf.trans hout.symm) hlow hhigh

end

/-! ## The loops -/

section
variable {buf : Bytes} {tables : ℕ → TableReference} {count : ℕ}

/-- The encoder's loop writes the references over cleared bytes. -/
lemma encodeTables_spec (hfits : tableReferenceOffset count ≤ buf.length)
    (hzero : ∀ slot < count, ZeroAt buf (tableReferenceOffset slot) 56) :
    ∃ out, encodeTables tables buf count = some out ∧ out.length = buf.length ∧
      (∀ i, i < manifestTableReferenceOffset ∨ tableReferenceOffset count ≤ i →
        out[i]? = buf[i]?) ∧
      ∀ slot < count, HoldsReference out (tableReferenceOffset slot) (tables slot) := by
  induction count with
  | zero => exact ⟨buf, rfl, rfl, fun _ _ => rfl, fun slot h => (by omega)⟩
  | succ n ih =>
      have hoffset : tableReferenceOffset (n + 1) = tableReferenceOffset n + 56 := by
        unfold tableReferenceOffset manifestTableReferenceSize
        ring
      have hstart : manifestTableReferenceOffset ≤ tableReferenceOffset n := Nat.le_add_right _ _
      obtain ⟨mid, hmid, hlength, hframe, hholds⟩ := ih (by omega)
        fun slot h => hzero slot (by omega)
      have hpieces : ∀ p ∈ tableReferenceFields (tableReferenceOffset n) (tables n),
          stop p ≤ mid.length := by
        intro p hp
        have hwithin := (tableReferenceFields_within p hp).2
        omega
      have hkept : ∀ i, i < tableReferenceOffset n ∨ tableReferenceOffset n + 56 ≤ i →
          (patchAll mid (tableReferenceFields (tableReferenceOffset n) (tables n)))[i]? =
            mid[i]? := by
        intro i hi
        refine getElem?_patchAll hpieces fun p hp => ?_
        have hwithin := tableReferenceFields_within p hp
        omega
      refine ⟨patchAll mid (tableReferenceFields (tableReferenceOffset n) (tables n)), ?_, ?_, ?_,
        ?_⟩
      · unfold encodeTables
        rw [hmid]
        exact writeAll_of_fits hpieces
      · exact (length_patchAll hpieces).trans hlength
      · intro i hi
        exact (hkept i (by omega)).trans (hframe i (by omega))
      · intro slot hslot
        rcases Nat.lt_or_eq_of_le (Nat.le_of_lt_succ hslot) with hlt | rfl
        · have hbefore : tableReferenceOffset slot + 56 ≤ tableReferenceOffset n := by
            unfold tableReferenceOffset manifestTableReferenceSize
            omega
          exact (hholds slot hlt).congr fun i _ hhigh => (hkept i (by omega)).symm
        · have hclean : ZeroAt mid (tableReferenceOffset slot) 56 :=
            (hzero slot (by omega)).congr fun i hlow _ => (hframe i (by omega)).symm
          exact holdsReference_patchAll hpieces hclean

/-- Only what is stored of the references is looked at. -/
lemma repeatsGeneration_congr {other : ℕ → TableReference} {start slot : ℕ}
    (h : ∀ s ≤ slot, (tables s).stored = (other s).stored) (hslot : (tables slot).active = true) :
    repeatsGeneration tables start slot = repeatsGeneration other start slot := by
  have hsame := TableReference.eq_of_stored (h slot le_rfl) hslot
  have hround : ∀ s ∈ List.range slot,
      (start ≤ s && (tables s).active && (tables s).generation == (tables slot).generation) =
        (start ≤ s && (other s).active && (other s).generation == (other slot).generation) := by
    intro s hs
    have hstored := h s (List.mem_range.mp hs).le
    cases hactive : (tables s).active with
    | false => simp [(TableReference.active_of_stored hstored).symm.trans hactive]
    | true => rw [← TableReference.eq_of_stored hstored hactive, ← hsame, hactive]
  unfold repeatsGeneration
  rw [List.any_eq, List.any_eq]
  simp only [decide_eq_decide]
  exact exists_congr fun s => and_congr_right fun hs => by rw [hround s hs]

lemma scanTables_congr {other : ℕ → TableReference} {g : StorageGeometry} {bank : UInt32}
    {checkpoint : UInt64} (h : ∀ s < count, (tables s).stored = (other s).stored) :
    scanTables g bank checkpoint tables count = scanTables g bank checkpoint other count := by
  induction count with
  | zero => rfl
  | succ n ih =>
      unfold scanTables
      rw [ih fun s hs => h s (by omega)]
      have hstored := h n (Nat.lt_succ_self n)
      cases hactive : (tables n).active with
      | false => simp [(TableReference.active_of_stored hstored).symm.trans hactive]
      | true =>
          rw [repeatsGeneration_congr (fun s hs => h s (by omega)) hactive,
            ← TableReference.eq_of_stored hstored hactive, hactive]

/-- The references of the first `count` slots, the others blank. -/
def firstTables (tables : ℕ → TableReference) (count : ℕ) (slot : ℕ) : TableReference :=
  if slot < count then tables slot else .blank

lemma update_firstTables (n : ℕ) :
    Function.update (firstTables tables n) n (tables n) = firstTables tables (n + 1) := by
  funext slot
  unfold firstTables
  rcases lt_trichotomy slot n with h | rfl | h
  · rw [Function.update_of_ne h.ne, if_pos h, if_pos (by omega)]
  · rw [Function.update_self, if_pos (Nat.lt_succ_self slot)]
  · rw [Function.update_of_ne h.ne', if_neg (by omega), if_neg (by omega)]

lemma firstTables_stored {slot : ℕ} (h : slot < count) :
    (firstTables (fun slot => (tables slot).stored) count slot).stored = (tables slot).stored := by
  rw [firstTables, if_pos h]
  unfold TableReference.stored
  split_ifs <;> rfl

/-- A round of the decoder's loop accepts what a round of the encoder's loop does. -/
lemma run_admitTable_eq_ok {g : StorageGeometry} {bank : UInt32} {checkpoint : UInt64}
    {totals totals' : TableTotals} {slot : ℕ} :
    (admitTable g bank checkpoint tables totals slot).run = some (.ok totals') ↔
      if (tables slot).active = false then totals = totals' else
        bankGeometryValid g bank = true ∧ ((bankStart g bank).toNat ≤ slot ∧
          slot < (bankEnd g bank).toNat ∧
          validTableReference (tables slot) slot checkpoint = true) ∧
        repeatsGeneration tables (bankStart g bank).toNat slot = false ∧
        totals.add (tables slot) = totals' := by
  unfold admitTable
  split_ifs with hactive
  · exact run_pure_eq_ok
  · rw [run_reject_bind_eq_ok, run_reject_bind_eq_ok, run_pure_eq_ok, Bool.not_eq_true]
    simp only [not_or, Bool.not_eq_false, not_lt, not_le, and_assoc]

lemma scanTables_succ_eq_some {g : StorageGeometry} {bank : UInt32} {checkpoint : UInt64}
    {totals' : TableTotals} {slot : ℕ} :
    scanTables g bank checkpoint tables (slot + 1) = some totals' ↔
      ∃ totals, scanTables g bank checkpoint tables slot = some totals ∧
        if (tables slot).active = false then totals = totals' else
          ((bankStart g bank).toNat ≤ slot ∧ slot < (bankEnd g bank).toNat ∧
            validTableReference (tables slot) slot checkpoint = true) ∧
          repeatsGeneration tables (bankStart g bank).toNat slot = false ∧
          totals.add (tables slot) = totals' := by
  rw [scanTables, Option.bind_eq_bind, Option.bind_eq_some_iff]
  refine exists_congr fun totals => and_congr_right fun _ => ?_
  split_ifs with hactive
  · exact Option.some_inj
  · rw [guard_bind_eq_some, guard_bind_eq_some]
    exact and_congr_right fun _ => and_congr_right fun _ => Option.some_inj

/-- **The decoder's loop returns the references whose bytes are there**, as long as the encoder's
loop accepts them. -/
theorem run_decodeTables {g : StorageGeometry} {bank : UInt32} {checkpoint : UInt64}
    {totals : TableTotals} (hfits : tableReferenceOffset count ≤ buf.length)
    (hbank : ∀ slot < count, (tables slot).active = true → bankGeometryValid g bank = true)
    (hholds : ∀ slot < count, HoldsReference buf (tableReferenceOffset slot) (tables slot))
    (hscan : scanTables g bank checkpoint tables count = some totals) :
    (decodeTables buf g bank checkpoint count).run =
      some (.ok (firstTables (fun slot => (tables slot).stored) count, totals)) := by
  induction count generalizing totals with
  | zero =>
      cases hscan
      rfl
  | succ n ih =>
      have hoffset : tableReferenceOffset (n + 1) = tableReferenceOffset n + 56 := by
        unfold tableReferenceOffset manifestTableReferenceSize
        ring
      obtain ⟨before, hbefore, hround⟩ := scanTables_succ_eq_some.mp hscan
      have hread : (decodeManifestTableReference buf (tableReferenceOffset n)).run =
          some (.ok (tables n).stored) := by
        refine (run_decodeManifestTableReference_eq_ok (by omega)).mpr
          ⟨holdsReference_stored.mpr (hholds n (Nat.lt_succ_self n)), ?_, ?_⟩
        · intro hinactive
          unfold TableReference.stored at hinactive ⊢
          split_ifs at hinactive ⊢ with h
          · exact absurd h (by rw [hinactive]; decide)
          · rfl
        · intro hactive
          have hsame : (tables n).active = true := by
            rw [← hactive]
            exact TableReference.active_stored.symm
          rw [if_neg (by rw [hsame]; decide)] at hround
          have hvalid := hround.1.2.2
          unfold validTableReference at hvalid
          simp only [Bool.and_eq_true, beq_iff_eq] at hvalid
          rw [TableReference.stored, if_pos hsame]
          exact hvalid.1.1.1.1.1.1.1.1.1.2
      unfold decodeTables
      rw [run_bind_ok (ih (by omega) (fun slot h => hbank slot (by omega))
        (fun slot h => hholds slot (by omega)) hbefore),
        run_bind_ok hread, update_firstTables n]
      refine run_bind_ok (run_admitTable_eq_ok.mpr ?_)
      have hsame := @firstTables_stored tables (n + 1) n (Nat.lt_succ_self n)
      have hactive := TableReference.active_of_stored hsame
      cases hn : (tables n).active with
      | false =>
          rw [if_pos hn] at hround
          rwa [if_pos (hactive.trans hn)]
      | true =>
          have htrue := hactive.trans hn
          have hrepeats := @repeatsGeneration_congr
            (firstTables (fun slot => (tables slot).stored) (n + 1)) tables
            (bankStart g bank).toNat n (fun s hs => firstTables_stored (Nat.lt_succ_of_le hs)) htrue
          rw [if_neg (by rw [hn]; decide)] at hround
          rw [if_neg (by rw [htrue]; decide), TableReference.eq_of_stored hsame htrue, hrepeats]
          exact ⟨hbank n (Nat.lt_succ_self n) hn, hround⟩

/-- **What the decoder's loop returns is there**, and the encoder's loop accepts it. -/
theorem holds_of_decodeTables {g : StorageGeometry} {bank : UInt32} {checkpoint : UInt64}
    {totals : TableTotals} (hfits : tableReferenceOffset count ≤ buf.length)
    (h : (decodeTables buf g bank checkpoint count).run = some (.ok (tables, totals))) :
    (∀ slot < count, HoldsReference buf (tableReferenceOffset slot) (tables slot)) ∧
      scanTables g bank checkpoint tables count = some totals := by
  induction count generalizing tables totals with
  | zero =>
      cases h
      exact ⟨fun slot hslot => absurd hslot (by omega), rfl⟩
  | succ n ih =>
      have hoffset : tableReferenceOffset (n + 1) = tableReferenceOffset n + 56 := by
        unfold tableReferenceOffset manifestTableReferenceSize
        ring
      unfold decodeTables at h
      obtain ⟨⟨before, totalsBefore⟩, hbefore, h⟩ := run_bind_eq_ok.mp h
      obtain ⟨reference, hread, h⟩ := run_bind_eq_ok.mp h
      obtain ⟨totalsAfter, hadmit, h⟩ := run_bind_eq_ok.mp h
      cases run_pure_eq_ok.mp h
      obtain ⟨hholds, hscan⟩ := ih (by omega) hbefore
      have hreference := ((run_decodeManifestTableReference_eq_ok (by omega)).mp hread).1
      have hupdate : ∀ slot < n, Function.update before n reference slot = before slot :=
        fun slot hslot => Function.update_of_ne hslot.ne _ _
      constructor
      · intro slot hslot
        rcases Nat.lt_or_eq_of_le (Nat.le_of_lt_succ hslot) with hlt | rfl
        · rw [hupdate slot hlt]
          exact hholds slot hlt
        · rwa [Function.update_self]
      · refine scanTables_succ_eq_some.mpr ⟨totalsBefore, ?_, ?_⟩
        · rw [← hscan]
          exact scanTables_congr fun slot hslot => by rw [hupdate slot hslot]
        · have hround := run_admitTable_eq_ok.mp hadmit
          split_ifs at hround ⊢
          · exact hround
          · exact hround.2

end

end Durable

end On9kvdb
