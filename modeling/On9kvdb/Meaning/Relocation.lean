import On9kvdb.Snapshot.Content
import On9kvdb.Store.Writes

/-!
# Copies of external values

A compaction copies external values to the other bank.  Behind a copy that succeeds the media hold
the same bytes under both descriptors: every chunk has been verified where it came from, its copy
passes the checks of a reader, and the checksum of the whole is the one of the source.
-/

namespace On9kvdb

open Exceptional

variable {cfg : Config}

/-- Chunks `index` and onwards of a value have been copied from `m` to `m'`. -/
structure ChunksCopied (manifest : ManifestRecord) (m m' : Media) (source destination : ValueRef)
    (remaining index : ℕ) (bytes : Bytes) : Prop where
  source : readValueChunks manifest m source remaining index = .ok bytes
  copy : readValueChunks manifest m' destination remaining index = .ok bytes
  others : ∀ bank offset, (bank = destination.bankSlot → offset < destination.chunkOffset index) →
    m'.valueChunk bank offset = m.valueChunk bank offset

/-- A chunk that has been checked, under the descriptor of the copy. -/
lemma checkValueChunk_copy {manifest : ManifestRecord} {source destination : ValueRef} {index : ℕ}
    {cell : Cell ValueChunk} {input output : ValueChunk}
    (hcheck : checkValueChunk manifest source index cell = .ok input)
    (hencode : encodeValueChunk input.databaseId destination.bankGeneration
      destination.firstChunkOffset input.valueSize input.valueOffset input.payload = some output)
    (hsize : destination.valueSize = source.valueSize) :
    checkValueChunk manifest destination index (.ok output) = .ok output ∧
      output.payload = input.payload := by
  unfold encodeValueChunk at hencode
  split_ifs at hencode
  cases hencode
  unfold checkValueChunk at hcheck
  cases cell with
  | error status => cases hcheck
  | ok chunk =>
      dsimp only at hcheck
      split_ifs at hcheck with hfields
      cases hcheck
      push Not at hfields
      obtain ⟨hdatabase, -, -, hvalue, hoffset, hlength, hfinal⟩ := hfields
      have hexpected : expectedPayload destination index = expectedPayload source index := by
        unfold expectedPayload
        rw [hsize]
      refine ⟨?_, rfl⟩
      unfold checkValueChunk
      dsimp only
      rw [if_neg]
      push Not
      refine ⟨hdatabase, rfl, rfl, hvalue.trans hsize.symm, hoffset, hlength.trans hexpected.symm, ?_⟩
      rw [hsize]
      exact hfinal

/-- **The chunk loop copies.** -/
lemma triple_copyValueChunks_copied {source destination : ValueRef}
    (hbank : source.bankSlot ≠ destination.bankSlot)
    (hsize : destination.valueSize = source.valueSize) (remaining index : ℕ)
    (checksumState : UInt32) (w₀ : World) :
    Triple (· = w₀) (copyValueChunks source destination remaining index checksumState)
      (fun checksumState' w => w.db = w₀.db ∧ ∃ bytes,
        ChunksCopied w₀.db.manifest w₀.dev.current w.dev.current source destination remaining index
          bytes ∧ checksumState' = calcCrc32Update checksumState bytes)
      (fun _ _ => True) := by
  induction remaining generalizing index checksumState w₀ with
  | zero =>
      refine .pure fun w hw => ?_
      subst hw
      exact ⟨rfl, [], ⟨rfl, rfl, fun _ _ _ => rfl⟩, rfl⟩
  | succ remaining ih =>
      unfold copyValueChunks
      refine .bind (Q := fun input w => w = { w₀ with dev := w₀.dev.tick } ∧
          checkValueChunk w₀.db.manifest source index (w₀.dev.current.valueChunk source.bankSlot
            (source.chunkOffset index)) = .ok input)
        (Triple.readStorage (fun w input hw hread => ?_) fun _ _ _ => trivial) fun input =>
        .of_pure (fun _ hw => hw.2) fun hinput => ?_
      · subst hw
        exact ⟨rfl, hread⟩
      cases hencode : encodeValueChunk input.databaseId destination.bankGeneration
          destination.firstChunkOffset input.valueSize input.valueOffset input.payload with
      | none => exact .throw fun _ _ => trivial
      | some output =>
          obtain ⟨hcheck, hpayload⟩ := checkValueChunk_copy hinput hencode hsize
          refine .bind (Q := fun _ w => w.db = w₀.db ∧ w.dev.current =
              (Write.valueChunk destination.bankSlot (destination.chunkOffset index) output).apply
                w₀.dev.current)
            (Triple.writeStorage (fun w hw hfault => ?_) fun _ _ _ => trivial) fun _ => ?_
          · rw [hw.1] at hfault ⊢
            exact ⟨rfl, Device.current_write_of_none hfault⟩
          refine .of_state fun w₁ hw₁ => ?_
          obtain ⟨hdb, hcurrent⟩ := hw₁
          have hcell : ∀ bank offset, w₁.dev.current.valueChunk bank offset =
              if bank = destination.bankSlot ∧ offset = destination.chunkOffset index then .ok output
              else w₀.dev.current.valueChunk bank offset := fun bank offset => by
            rw [hcurrent]
            exact update₂_apply _ _ _ _ _ _
          refine (ih (index + 1) _ w₁).conseq (fun _ hw => hw) (fun cs w hw => ?_) fun _ _ h => h
          obtain ⟨hdb', bytes, ⟨hsource, hcopy, hothers⟩, hchecksum⟩ := hw
          have hsource' : readValueChunks w₀.db.manifest w₀.dev.current source remaining (index + 1) =
              .ok bytes := by
            rw [← hsource, hdb]
            refine readValueChunks_congr (.refl _) fun i _ => ?_
            rw [hcell, if_neg]
            rintro ⟨hsame, -⟩
            exact hbank hsame
          have hwritten : w.dev.current.valueChunk destination.bankSlot
              (destination.chunkOffset index) = .ok output := by
            rw [hothers _ _ fun _ => ?_, hcell, if_pos ⟨rfl, rfl⟩]
            unfold ValueRef.chunkOffset
            rw [Nat.add_mul]
            simp only [valueChunkSize, formatAlignment]
            omega
          refine ⟨hdb'.trans hdb, input.payload ++ bytes, ⟨?_, ?_, fun bank offset hoffset => ?_⟩, ?_⟩
          · unfold readValueChunks
            rw [hinput, ok_bind, hsource', ok_bind]
            rfl
          · unfold readValueChunks
            rw [hwritten, hcheck, ok_bind, ← hdb, hcopy, ok_bind, hpayload]
            rfl
          · have hstep : destination.chunkOffset index < destination.chunkOffset (index + 1) := by
              unfold ValueRef.chunkOffset
              rw [Nat.add_mul]
              simp only [valueChunkSize, formatAlignment]
              omega
            rw [hothers bank offset fun hsame => (hoffset hsame).trans hstep, hcell, if_neg]
            rintro ⟨hsame, heq⟩
            exact absurd heq (hoffset hsame).ne
          · rw [hchecksum, calcCrc32Update_append]

/-- A value and its copy behind the tail of the other bank. -/
structure Transferred (w₀ w : World) (source copy : ValueRef) (bytes : Bytes) : Prop where
  held : Holds w₀.db.manifest w₀.dev.current source bytes
  copied : Holds w.db.manifest w.dev.current copy bytes
  others : ∀ bank offset, (bank = copy.bankSlot → offset < copy.firstChunkOffset) →
    w.dev.current.valueChunk bank offset = w₀.dev.current.valueChunk bank offset

/-- The descriptor of a copy. -/
def ValueRef.movedTo (r : ValueRef) (bank generation tail : ℕ) : ValueRef :=
  { r with
    bankSlot := bank
    bankGeneration := generation
    firstChunkOffset := tail }

/-- **A copy that succeeds has the bytes of its source.** -/
lemma triple_copyExternalValueUnsafe_relocated (source : ValueRef) (bank generation tail : ℕ)
    (w₀ : World) :
    Triple (· = w₀) (copyExternalValueUnsafe cfg source bank generation tail)
      (fun r w => w.db = w₀.db ∧ r.1 = source.movedTo bank generation tail ∧
        r.2 = tail + chunkCount source.valueSize * valueChunkSize ∧
        tail % valueChunkSize = 0 ∧ identityRegionSize ≤ tail ∧ generation ≠ 0 ∧
        bank < valueBankCount ∧ r.2 ≤ cfg.geometry.valueBankSize ∧
        valueRefIsValid source cfg.geometry.valueBankSize = true ∧
        ∃ bytes, Transferred w₀ w source r.1 bytes)
      (fun _ _ => True) := by
  unfold copyExternalValueUnsafe
  refine .bind (Triple.check fun _ _ => trivial) fun _ => .of_pure (fun _ hw => hw.2) fun hargs =>
    .bind (Triple.check fun _ _ => trivial) fun _ => .of_pure (fun _ hw => hw.2) fun hroom =>
    .pre (S := (· = w₀)) ?_ fun _ hw => hw.1.1
  push Not at hargs
  obtain ⟨hvalid, hbankSlot, hgeneration, hbank, hfirst, hlast, haligned⟩ := hargs
  dsimp only
  refine .bind (@triple_copyValueChunks_copied source (source.movedTo bank generation tail)
    hbank rfl _ _ _ w₀) fun checksumState => .bind (Triple.check fun _ _ => trivial) fun _ =>
      .pure fun w hw => ?_
  obtain ⟨⟨hdb, bytes, hcopied, hchecksum⟩, hequal⟩ := hw
  rw [not_not] at hequal
  have hwhole : calcCrc32 bytes = source.valueChecksum := by
    rw [← hequal, hchecksum]
    rfl
  refine ⟨hdb, rfl, rfl, haligned, by omega, hgeneration, by omega, ?_, by simpa using hvalid,
    bytes, ⟨hcopied.source, hwhole⟩, ⟨by rw [hdb]; exact hcopied.copy, hwhole⟩,
    fun b offset hoffset => hcopied.others b offset fun hsame => ?_⟩
  · dsimp only
    simp only [valueChunkSize, formatAlignment] at *
    omega
  · have hbefore := hoffset hsame
    unfold ValueRef.chunkOffset
    rw [Nat.zero_mul, Nat.add_zero]
    exact hbefore

end On9kvdb
