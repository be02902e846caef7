import On9kvdb.Store.Value
import On9kvdb.Store.Rules

/-!
# Room for the live values in one bank

A compaction copies every live external value into the other value bank, in chunks of 4096 bytes
with 4032 bytes of payload.  `validate_compaction_capacity` budgets as if the smallest external
value had the worst ratio of chunk bytes to logical bytes.  The ratio is a sawtooth: just behind a
multiple of 4032 a value pays for a chunk it hardly uses.  `valueBank_suffices` says for which
geometries and limits the budget covers every list of records all the same.
-/

namespace On9kvdb

open Exceptional

variable {cfg : Config}

/-! ## Copies -/

/-- A copy that has room does not run out of it, and moves the tail by its chunks. -/
lemma copyExternalValueUnsafe_room {source : ValueRef} {bank generation tail : ℕ}
    (hroom : tail + chunkCount source.valueSize * valueChunkSize ≤ cfg.geometry.valueBankSize) :
    Raises (· ≠ .noMem) (copyExternalValueUnsafe cfg source bank generation tail) ∧
    Returns (fun r => r.1.valueSize = source.valueSize ∧
        r.2 = tail + chunkCount source.valueSize * valueChunkSize)
      (copyExternalValueUnsafe cfg source bank generation tail) := by
  have hchunks : ∀ (destination : ValueRef) (remaining index : ℕ) (checksumState : UInt32),
      Raises (· ≠ .noMem) (copyValueChunks source destination remaining index checksumState) := by
    intro destination remaining
    induction remaining with
    | zero => exact fun _ _ => .pure
    | succ remaining ih =>
        intro index checksumState
        unfold copyValueChunks
        refine .bind (Raises.readStorage (by decide) fun db m e h => ?_) fun input => ?_
        · unfold checkValueChunk at h
          split at h
          · cases h
            split_ifs <;> decide
          · split_ifs at h
            · cases h
              decide
        · cases encodeValueChunk input.databaseId destination.bankGeneration
            destination.firstChunkOffset input.valueSize input.valueOffset input.payload with
          | none => exact .throw (by decide)
          | some output =>
              exact .bind (Raises.writeStorage (by decide)) fun _ => ih _ _
  unfold copyExternalValueUnsafe
  constructor
  · refine .bind (Raises.failIf (by decide)) fun _ => ?_
    dsimp only
    refine .bind (fun w e w' hrun => ?_) fun _ => .bind (hchunks _ _ _ _) fun _ =>
      .bind (Raises.failIf (by decide)) fun _ => .pure
    rw [exec_failIf, if_neg (by omega)] at hrun
    cases hrun
  · exact .bind .trivial fun _ _ => .bind .trivial fun _ _ => .bind .trivial fun _ _ =>
      .bind .trivial fun _ _ => .pure ⟨rfl, rfl⟩

/-! ## External records -/

/-- The sizes of a live record whose value is external. -/
structure ExternalRecord (inlineLimit : ℕ) where
  namespaceSize : ℕ
  keySize : ℕ
  valueSize : ℕ
  names : 1 ≤ namespaceSize ∧ namespaceSize ≤ maxNameLen ∧ 1 ≤ keySize ∧ keySize ≤ maxNameLen
  external : inlineLimit < valueSize ∧ valueSize ≤ maxValueLen

namespace ExternalRecord

variable {inlineLimit : ℕ}

/-- What the record counts for against `max_live_bytes`. -/
def logicalSize (r : ExternalRecord inlineLimit) : ℕ :=
  logicalRecordSize r.namespaceSize r.keySize r.valueSize

/-- The bytes its chunks take in a bank. -/
def chunkBytes (r : ExternalRecord inlineLimit) : ℕ := chunkCount r.valueSize * valueChunkSize

/-- A record of one-byte names. -/
def ofSize (valueSize : ℕ) (h : inlineLimit < valueSize ∧ valueSize ≤ maxValueLen) :
    ExternalRecord inlineLimit where
  namespaceSize := 1
  keySize := 1
  valueSize := valueSize
  names := by decide
  external := h

end ExternalRecord

/-- The logical sizes of a list of records, added up. -/
def logicalBytes {inlineLimit : ℕ} (records : List (ExternalRecord inlineLimit)) : ℕ :=
  (records.map ExternalRecord.logicalSize).sum

/-- The chunk bytes of a list of records. -/
def chunkBytes {inlineLimit : ℕ} (records : List (ExternalRecord inlineLimit)) : ℕ :=
  (records.map ExternalRecord.chunkBytes).sum

/-! ## The cheapest way to fill a bank -/

/-- The chunks a bank holds. -/
def bankChunks (g : StorageGeometry) : ℕ := (g.valueBankSize - identityRegionSize) / valueChunkSize

/-- `minimum_external_record`. -/
def minimumExternalRecord (l : LogicalLimits) : ℕ :=
  align8 (tableEntryHeaderSize + 2 + (l.inlineValueBytes + 1))

/-- The least logical size of records with `chunks` chunks, when a value of two chunks is cheaper
than two of the smallest values: pairs of chunks at 4064 bytes, and the odd one either as a smallest
value or as a third chunk. -/
def cheapestChunks (l : LogicalLimits) (chunks : ℕ) : ℕ :=
  chunks / 2 * 4064 + chunks % 2 * min (minimumExternalRecord l) 4032

/-- The budget covers the rounding of every value: no value has a worse ratio than the smallest, or
one chunk more than a bank holds costs more than the live set may. -/
def ChunkRoundingCovered (g : StorageGeometry) (l : LogicalLimits) : Prop :=
  l.inlineValueBytes ≤ 2005 ∨ 4032 ≤ l.inlineValueBytes ∨
    g.maxLiveBytes < cheapestChunks l (bankChunks g + 1)

instance (g : StorageGeometry) (l : LogicalLimits) : Decidable (ChunkRoundingCovered g l) := by
  unfold ChunkRoundingCovered
  infer_instance

section
variable {g : StorageGeometry} {l : LogicalLimits}

/-- The check on the value banks. -/
lemma valueBank_budget (h : validateCompactionCapacity g l = true) :
    (g.maxLiveBytes + (minimumExternalRecord l - 1)) / minimumExternalRecord l *
      (chunkCount (l.inlineValueBytes + 1) * valueChunkSize) + identityRegionSize ≤
        g.valueBankSize := by
  simp only [validateCompactionCapacity, Bool.and_eq_true, decide_eq_true_eq] at h
  exact h.1.2

lemma valueBank_aligned (h : validateCompactionCapacity g l = true) :
    identityRegionSize < g.valueBankSize ∧ g.valueBankSize % formatAlignment = 0 := by
  simp only [validateCompactionCapacity, validateStorageGeometry, Bool.and_eq_true,
    decide_eq_true_eq, beq_iff_eq] at h
  obtain ⟨⟨⟨⟨⟨⟨hg, -⟩, -⟩, -⟩, -⟩, -⟩, -⟩ := h
  exact ⟨hg.1.1.1.1.1.1.1.2, hg.1.1.2⟩

/-! ## One record -/

/-- With its names and its header a value of `c + 1` chunks counts for at least this much. -/
lemma logicalSize_ge (r : ExternalRecord l.inlineValueBytes) :
    minimumExternalRecord l ≤ r.logicalSize ∧
    4032 * chunkCount r.valueSize ≤ r.logicalSize + 4000 := by
  have hnames := r.names
  have hsize := r.external
  simp only [ExternalRecord.logicalSize, logicalRecordSize, minimumExternalRecord, align8,
    chunkCount, tableEntryHeaderSize, valueChunkPayloadSize, valueChunkSize, formatAlignment]
  omega

lemma chunkCount_pos (r : ExternalRecord l.inlineValueBytes) : 1 ≤ chunkCount r.valueSize := by
  have hsize := r.external
  simp only [chunkCount, valueChunkPayloadSize, valueChunkSize, formatAlignment]
  omega

/-- Where the smallest value has the worst ratio, no record beats it. -/
lemma logicalSize_ratio (hinline : 1 ≤ l.inlineValueBytes ∧ l.inlineValueBytes ≤ 4096)
    (h : l.inlineValueBytes ≤ 2005 ∨ 4032 ≤ l.inlineValueBytes)
    (r : ExternalRecord l.inlineValueBytes) :
    minimumExternalRecord l * chunkCount r.valueSize ≤
      chunkCount (l.inlineValueBytes + 1) * r.logicalSize := by
  obtain ⟨hleast, hchunks⟩ := logicalSize_ge r
  have hpos := chunkCount_pos r
  have hmany : 2 ≤ chunkCount r.valueSize → 4064 ≤ r.logicalSize := fun h => by omega
  rcases h with hsmall | hlarge
  · have hone : chunkCount (l.inlineValueBytes + 1) = 1 := by
      simp only [chunkCount, valueChunkPayloadSize, valueChunkSize, formatAlignment]
      omega
    have hratio : minimumExternalRecord l ≤ 2032 := by
      simp only [minimumExternalRecord, align8, tableEntryHeaderSize]
      omega
    rw [hone, one_mul]
    rcases Nat.lt_or_ge (chunkCount r.valueSize) 2 with hsingle | hmore
    · rw [show chunkCount r.valueSize = 1 by omega, mul_one]
      exact hleast
    · calc minimumExternalRecord l * chunkCount r.valueSize
          ≤ 2032 * chunkCount r.valueSize := Nat.mul_le_mul_right _ hratio
        _ ≤ r.logicalSize := by omega
  · have htwo : chunkCount (l.inlineValueBytes + 1) = 2 := by
      simp only [chunkCount, valueChunkPayloadSize, valueChunkSize, formatAlignment]
      omega
    have hratio : minimumExternalRecord l ≤ 4128 := by
      simp only [minimumExternalRecord, align8, tableEntryHeaderSize]
      omega
    rw [htwo]
    rcases Nat.lt_or_ge (chunkCount r.valueSize) 3 with hfew | hmore
    · calc minimumExternalRecord l * chunkCount r.valueSize
          ≤ minimumExternalRecord l * 2 := Nat.mul_le_mul_left _ (by omega)
        _ ≤ 2 * r.logicalSize := by omega
    · calc minimumExternalRecord l * chunkCount r.valueSize
          ≤ 4128 * chunkCount r.valueSize := Nat.mul_le_mul_right _ hratio
        _ ≤ 2 * r.logicalSize := by omega

/-- In between, pairs of chunks are the cheapest. -/
lemma cheapestChunks_le (hinline : 2006 ≤ l.inlineValueBytes)
    (r : ExternalRecord l.inlineValueBytes) (chunks : ℕ) :
    cheapestChunks l (chunkCount r.valueSize + chunks) ≤ r.logicalSize + cheapestChunks l chunks := by
  obtain ⟨hleast, hchunks⟩ := logicalSize_ge r
  have hpos := chunkCount_pos r
  have hratio : 2033 ≤ minimumExternalRecord l := by
    simp only [minimumExternalRecord, align8, tableEntryHeaderSize]
    omega
  unfold cheapestChunks
  generalize hodd : min (minimumExternalRecord l) 4032 = odd
  have hodd' : 2033 ≤ odd ∧ odd ≤ 4032 ∧ odd ≤ minimumExternalRecord l := by omega
  rcases Nat.mod_two_eq_zero_or_one chunks with hc | hc <;>
    rcases Nat.mod_two_eq_zero_or_one (chunkCount r.valueSize + chunks) with hs | hs <;>
    rw [hc, hs] <;> omega

/-! ## Lists of records -/

/-- A list of records whose logical sizes fit `max_live_bytes` has few enough chunks. -/
lemma chunks_ratio (hinline : 1 ≤ l.inlineValueBytes ∧ l.inlineValueBytes ≤ 4096)
    (h : l.inlineValueBytes ≤ 2005 ∨ 4032 ≤ l.inlineValueBytes)
    (records : List (ExternalRecord l.inlineValueBytes)) :
    minimumExternalRecord l * (records.map fun r => chunkCount r.valueSize).sum ≤
      chunkCount (l.inlineValueBytes + 1) * logicalBytes records := by
  unfold logicalBytes
  induction records with
  | nil => simp
  | cons r rest ih =>
      simp only [List.map_cons, List.sum_cons, Nat.mul_add]
      exact Nat.add_le_add (logicalSize_ratio hinline h r) ih

lemma cheapestChunks_le_sum (hinline : 2006 ≤ l.inlineValueBytes)
    (records : List (ExternalRecord l.inlineValueBytes)) :
    cheapestChunks l (records.map fun r => chunkCount r.valueSize).sum ≤ logicalBytes records := by
  unfold logicalBytes
  induction records with
  | nil => simp [cheapestChunks]
  | cons r rest ih =>
      simp only [List.map_cons, List.sum_cons]
      exact (cheapestChunks_le hinline r _).trans (Nat.add_le_add_left ih _)

lemma chunkBytes_eq (records : List (ExternalRecord l.inlineValueBytes)) :
    chunkBytes records = (records.map fun r => chunkCount r.valueSize).sum * valueChunkSize := by
  unfold chunkBytes
  induction records with
  | nil => simp
  | cons r rest ih => simp only [List.map_cons, List.sum_cons, Nat.add_mul, ih,
      ExternalRecord.chunkBytes]

/-- More chunks cost more. -/
lemma cheapestChunks_mono (hinline : 2006 ≤ l.inlineValueBytes) {a b : ℕ} (h : a ≤ b) :
    cheapestChunks l a ≤ cheapestChunks l b := by
  have hratio : 2033 ≤ minimumExternalRecord l := by
    simp only [minimumExternalRecord, align8, tableEntryHeaderSize]
    omega
  unfold cheapestChunks
  rcases Nat.mod_two_eq_zero_or_one a with ha | ha <;>
    rcases Nat.mod_two_eq_zero_or_one b with hb | hb <;> rw [ha, hb] <;> omega

/-! ## A list that overflows the bank -/

/-- `pairs` values of two chunks, and one more for an odd number of chunks. -/
def cheapestRecords (l : LogicalLimits) (hl : 2006 ≤ l.inlineValueBytes ∧ l.inlineValueBytes ≤ 4031)
    (chunks : ℕ) : List (ExternalRecord l.inlineValueBytes) :=
  let two : ExternalRecord l.inlineValueBytes := .ofSize 4033 (by simp; omega)
  if chunks % 2 = 0 then List.replicate (chunks / 2) two
  else if minimumExternalRecord l ≤ 4032 then
    .ofSize (l.inlineValueBytes + 1) (by simp; omega) :: List.replicate (chunks / 2) two
  else .ofSize 8065 (by simp; omega) :: List.replicate (chunks / 2 - 1) two

lemma cheapestRecords_spec (hl : 2006 ≤ l.inlineValueBytes ∧ l.inlineValueBytes ≤ 4031)
    {chunks : ℕ} (hchunks : 2 ≤ chunks) :
    logicalBytes (cheapestRecords l hl chunks) = cheapestChunks l chunks ∧
    chunkBytes (cheapestRecords l hl chunks) = chunks * valueChunkSize := by
  have hone : chunkCount (l.inlineValueBytes + 1) = 1 := by
    simp only [chunkCount, valueChunkPayloadSize, valueChunkSize, formatAlignment]
    omega
  have hleast : logicalRecordSize 1 1 (l.inlineValueBytes + 1) = minimumExternalRecord l := rfl
  unfold cheapestRecords cheapestChunks
  dsimp only
  split_ifs with heven hsmall
  · constructor
    · simp only [logicalBytes, List.map_replicate, List.sum_replicate, smul_eq_mul, heven, zero_mul,
        add_zero, ExternalRecord.logicalSize, ExternalRecord.ofSize,
        show logicalRecordSize 1 1 4033 = 4064 from rfl]
    · simp only [chunkBytes, List.map_replicate, List.sum_replicate, smul_eq_mul,
        ExternalRecord.chunkBytes, ExternalRecord.ofSize, show chunkCount 4033 = 2 from rfl,
        valueChunkSize, formatAlignment]
      omega
  · constructor
    · simp only [logicalBytes, List.map_cons, List.sum_cons, List.map_replicate, List.sum_replicate,
        smul_eq_mul, ExternalRecord.logicalSize, ExternalRecord.ofSize, hleast,
        show logicalRecordSize 1 1 4033 = 4064 from rfl, show chunks % 2 = 1 by omega]
      omega
    · simp only [chunkBytes, List.map_cons, List.sum_cons, List.map_replicate, List.sum_replicate,
        smul_eq_mul, ExternalRecord.chunkBytes, ExternalRecord.ofSize, hone,
        show chunkCount 4033 = 2 from rfl, valueChunkSize, formatAlignment]
      omega
  · constructor
    · simp only [logicalBytes, List.map_cons, List.sum_cons, List.map_replicate, List.sum_replicate,
        smul_eq_mul, ExternalRecord.logicalSize, ExternalRecord.ofSize,
        show logicalRecordSize 1 1 8065 = 8096 from rfl,
        show logicalRecordSize 1 1 4033 = 4064 from rfl, show chunks % 2 = 1 by omega]
      omega
    · simp only [chunkBytes, List.map_cons, List.sum_cons, List.map_replicate, List.sum_replicate,
        smul_eq_mul, ExternalRecord.chunkBytes, ExternalRecord.ofSize,
        show chunkCount 8065 = 3 from rfl, show chunkCount 4033 = 2 from rfl, valueChunkSize,
        formatAlignment]
      omega

/-! ## The bank -/

/-- Every live set of external records has room for its chunks in one bank. -/
def LiveValuesFit (g : StorageGeometry) (l : LogicalLimits) : Prop :=
  ∀ records : List (ExternalRecord l.inlineValueBytes), logicalBytes records ≤ g.maxLiveBytes →
    chunkBytes records ≤ g.valueBankSize - identityRegionSize

/-- The checked budget bounds the chunks of records that respect the ratio it assumes. -/
lemma chunks_le_budget {chunks : ℕ}
    (hbudget : (g.maxLiveBytes + (minimumExternalRecord l - 1)) / minimumExternalRecord l *
      (chunkCount (l.inlineValueBytes + 1) * valueChunkSize) + identityRegionSize ≤
        g.valueBankSize)
    (hchunks : bankChunks g * 4096 = g.valueBankSize - identityRegionSize)
    (hratio : minimumExternalRecord l * chunks ≤
      chunkCount (l.inlineValueBytes + 1) * g.maxLiveBytes) : chunks ≤ bankChunks g := by
  have hpos : 0 < minimumExternalRecord l :=
    lt_of_lt_of_le (by simp) (le_align8 (tableEntryHeaderSize + 2 + (l.inlineValueBytes + 1)))
  generalize hceiling : (g.maxLiveBytes + (minimumExternalRecord l - 1)) /
    minimumExternalRecord l = ceiling at hbudget
  generalize chunkCount (l.inlineValueBytes + 1) = first at hbudget hratio
  have hlive : g.maxLiveBytes ≤ minimumExternalRecord l * ceiling := by
    have hdiv := Nat.div_add_mod (g.maxLiveBytes + (minimumExternalRecord l - 1))
      (minimumExternalRecord l)
    have hmod := Nat.mod_lt (g.maxLiveBytes + (minimumExternalRecord l - 1)) hpos
    rw [hceiling] at hdiv
    omega
  have hfirst : chunks ≤ first * ceiling := by
    refine Nat.le_of_mul_le_mul_left ?_ hpos
    calc minimumExternalRecord l * chunks ≤ first * g.maxLiveBytes := hratio
      _ ≤ first * (minimumExternalRecord l * ceiling) := Nat.mul_le_mul_left _ hlive
      _ = minimumExternalRecord l * (first * ceiling) := by ring
  have hbytes : ceiling * (first * 4096) = first * ceiling * 4096 := by ring
  simp only [valueChunkSize, formatAlignment, hbytes] at hbudget
  have hroom : first * ceiling * 4096 ≤ bankChunks g * 4096 := by
    rw [hchunks]
    exact Nat.le_sub_of_add_le hbudget
  exact hfirst.trans (Nat.le_of_mul_le_mul_right hroom (by decide))

/-- **When an accepted geometry has room for every live set of external values**: exactly when the
rounding to chunks is covered, that is for inline limits up to 2005 and from 4032 on, and in between
for those geometries whose banks hold the cheapest chunks `max_live_bytes` can pay for. -/
theorem valueBank_suffices (hvalid : validateCompactionCapacity g l = true)
    (hinline : 1 ≤ l.inlineValueBytes ∧ l.inlineValueBytes ≤ 4096) :
    LiveValuesFit g l ↔ ChunkRoundingCovered g l := by
  have hbudget := valueBank_budget hvalid
  obtain ⟨hbank, haligned⟩ := valueBank_aligned hvalid
  have hchunks : bankChunks g * 4096 = g.valueBankSize - identityRegionSize := by
    simp only [bankChunks, valueChunkSize, identityRegionSize, formatAlignment] at hbank haligned ⊢
    omega
  constructor
  · intro hfit
    by_contra hcovered
    unfold ChunkRoundingCovered at hcovered
    push Not at hcovered
    obtain ⟨hlow, hhigh, hcheap⟩ := hcovered
    have hl : 2006 ≤ l.inlineValueBytes ∧ l.inlineValueBytes ≤ 4031 := by omega
    have htwo : 2 ≤ bankChunks g + 1 := by
      simp only [identityRegionSize, formatAlignment] at hbank haligned hchunks
      omega
    obtain ⟨hcost, hsize⟩ := cheapestRecords_spec hl htwo
    have hroom := hfit (cheapestRecords l hl (bankChunks g + 1)) (hcost ▸ hcheap)
    rw [hsize, ← hchunks] at hroom
    simp only [valueChunkSize, formatAlignment] at hroom
    omega
  · intro hcovered records hlive
    rw [chunkBytes_eq, ← hchunks]
    refine Nat.mul_le_mul_right 4096 ?_
    by_cases hratio : l.inlineValueBytes ≤ 2005 ∨ 4032 ≤ l.inlineValueBytes
    · exact chunks_le_budget hbudget hchunks ((chunks_ratio hinline hratio records).trans
        (Nat.mul_le_mul_left _ hlive))
    · have hcheap : g.maxLiveBytes < cheapestChunks l (bankChunks g + 1) := by
        rcases hcovered with hlow | hhigh | hcheap
        · exact absurd (.inl hlow) hratio
        · exact absurd (.inr hhigh) hratio
        · exact hcheap
      have hbetween : 2006 ≤ l.inlineValueBytes := by omega
      by_contra hmore
      have hcost := cheapestChunks_le_sum hbetween records
      have hmono := cheapestChunks_mono hbetween (Nat.lt_of_not_le hmore)
      exact absurd (hmono.trans (hcost.trans hlive)) (not_le.mpr hcheap)

end

/-- The host tests' configuration has room. -/
theorem valueBank_suffices_host : LiveValuesFit hostConfig.geometry hostConfig.limits :=
  (valueBank_suffices hostConfig.valid (by decide)).mpr (.inl (by decide))

/-- The host tests' geometry with banks of 22 chunks. -/
def tightGeometry : StorageGeometry :=
  { hostConfig.geometry with provisionedSize := 811008, valueBankSize := 98304 }

/-- The host tests' limits with an inline limit of 3000. -/
def wideLimits : LogicalLimits := { hostConfig.limits with inlineValueBytes := 3000 }

/-- An accepted geometry whose live set may need more chunks than a bank has: sixteen values of 4033
bytes count for 65024 of 65536 live bytes and take 32 chunks, where the bank holds 22. -/
theorem valueBank_overflows :
    validateCompactionCapacity tightGeometry wideLimits = true ∧
    ¬ LiveValuesFit tightGeometry wideLimits := by
  refine ⟨by decide +kernel, fun hfit => ?_⟩
  have hroom := hfit (List.replicate 16 (.ofSize 4033 (by decide))) (by decide)
  exact absurd hroom (by decide)

end On9kvdb
