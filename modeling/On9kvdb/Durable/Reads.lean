import On9kvdb.Durable.Records
import On9kvdb.Lib.Guarded

/-!
# The log's decoders stay inside their buffers

`decode_wal_header` and `decode_wal_frame` check the length of the buffer first, and what they read
after that lies in it.  A frame that is accepted has its payload in the frame.
-/

namespace On9kvdb

namespace Durable

open Decode Guarded Patch

section
variable {buf : Bytes} {offset len width checksumOffset : ℕ} {status : FormatStatus}
  {condition : Prop} [Decidable condition]

lemma defined_reject :
    Defined (reject condition status : Decode Unit) fun _ => ¬ condition := by
  by_cases h : condition
  · exact Defined.of_run (run_reject h) fun _ heq => by cases heq
  · exact Defined.of_run (run_reject_not h) fun _ _ => h

/-- A field that is not in the buffer is not read. -/
lemma defined_field : Defined (field width buf offset status) fun _ => True := by
  unfold field
  cases readLe width buf offset with
  | none => exact Defined.of_run (r := .error status) rfl fun _ _ => trivial
  | some value => exact Defined.pure trivial

lemma defined_map {α β : Type} {x : Decode α} {g : α → β} (h : Defined x fun _ => True) :
    Defined (g <$> x) fun _ => True := by
  rw [map_eq_pure_bind]
  exact Defined.bind h fun a _ => Defined.pure trivial

lemma defined_read16 : Defined (read16 buf offset) fun _ => True := defined_map defined_field
lemma defined_read32 : Defined (read32 buf offset) fun _ => True := defined_map defined_field
lemma defined_read64 : Defined (read64 buf offset) fun _ => True := defined_map defined_field

lemma defined_bytesAt (h : offset + len ≤ buf.length) :
    Defined (bytesAt buf offset len) fun _ => True :=
  Defined.of_run (run_bytesAt h) fun _ _ => trivial

lemma defined_readRecordCrc (hcover : checksumOffset + 4 ≤ len) (hfits : len ≤ buf.length) :
    Defined (readRecordCrc buf len checksumOffset) fun _ => True :=
  Defined.bind (defined_bytesAt (by omega)) fun _ _ =>
    Defined.bind (defined_bytesAt (by omega)) fun _ _ => Defined.pure trivial

lemma defined_readCrc (h : offset + len ≤ buf.length) :
    Defined (readCrc buf offset len) fun _ => True := defined_map (defined_bytesAt h)

lemma defined_isZeroRange (h : offset + len ≤ buf.length) :
    Defined (isZeroRange buf offset len) fun _ => True := by
  obtain ⟨zero, hrun⟩ := run_isZeroRange h
  exact Defined.of_run hrun fun _ _ => trivial

end

/-- **`decode_wal_header` stays inside its buffer**, whatever its length and content; a header
it accepts is valid. -/
theorem defined_decodeWalHeader (buf : Bytes) :
    Defined (decodeWalHeader buf) fun header => header.valid = true := by
  unfold decodeWalHeader
  refine Defined.bind defined_reject fun _ hlen => ?_
  have hlen : 64 ≤ buf.length := Nat.not_lt.mp hlen
  refine Defined.bind defined_read32 fun magic _ => ?_
  refine Defined.bind defined_read16 fun revision _ => ?_
  refine Defined.bind defined_read16 fun size _ => ?_
  refine Defined.bind defined_read64 fun databaseId _ => ?_
  refine Defined.bind defined_read32 fun slot _ => ?_
  refine Defined.bind defined_read16 fun state _ => ?_
  refine Defined.bind defined_read16 fun reserved16 _ => ?_
  refine Defined.bind defined_read64 fun generation _ => ?_
  refine Defined.bind defined_read32 fun recordRegionStart _ => ?_
  refine Defined.bind defined_read32 fun recordRegionEnd _ => ?_
  refine Defined.bind defined_read32 fun frameSize _ => ?_
  refine Defined.bind defined_read32 fun _ _ => ?_
  refine Defined.bind defined_read64 fun firstTransactionSequence _ => ?_
  refine Defined.bind defined_read32 fun _ _ => ?_
  refine Defined.bind defined_read32 fun checksum _ => ?_
  refine Defined.bind (defined_readRecordCrc (by decide) hlen) fun crc _ => ?_
  refine Defined.bind defined_reject fun _ _ => ?_
  refine Defined.bind defined_reject fun _ _ => ?_
  refine Defined.bind defined_reject fun _ _ => ?_
  refine Defined.bind defined_reject fun _ _ => ?_
  refine Defined.bind defined_reject fun _ _ => ?_
  refine Defined.bind defined_reject fun _ hvalid => ?_
  refine Defined.bind (defined_isZeroRange (by omega)) fun zero _ => ?_
  refine Defined.bind defined_reject fun _ _ => ?_
  refine Defined.bind (defined_isZeroRange (by omega)) fun zero _ => ?_
  refine Defined.bind defined_reject fun _ _ => ?_
  exact Defined.pure ((Bool.not_eq_false _).mp (not_or.mp hvalid).1)

/-- **`decode_wal_frame` stays inside its buffer**, whatever its length and content; the payload of
a frame it accepts lies in the frame. -/
theorem defined_decodeWalFrame (frame : Bytes) :
    Defined (decodeWalFrame frame) fun header =>
      walFrameHeaderSize + header.payloadSize.toNat ≤ walFrameSize := by
  unfold decodeWalFrame
  refine Defined.bind defined_reject fun _ hlen => ?_
  have hlen : 4096 ≤ frame.length := Nat.not_lt.mp hlen
  refine Defined.bind defined_read32 fun magic _ => ?_
  refine Defined.bind defined_read16 fun revision _ => ?_
  refine Defined.bind defined_read16 fun headerSize _ => ?_
  refine Defined.bind defined_read64 fun databaseId _ => ?_
  refine Defined.bind defined_read64 fun walGeneration _ => ?_
  refine Defined.bind defined_read64 fun transactionSequence _ => ?_
  refine Defined.bind defined_read16 fun frameIndex _ => ?_
  refine Defined.bind defined_read16 fun frameCount _ => ?_
  refine Defined.bind defined_read16 fun mutationCount _ => ?_
  refine Defined.bind defined_read16 fun flags _ => ?_
  refine Defined.bind defined_read32 fun payloadSize _ => ?_
  refine Defined.bind defined_read32 fun transactionPayloadSize _ => ?_
  refine Defined.bind defined_read32 fun transactionChecksum _ => ?_
  refine Defined.bind defined_read32 fun payloadChecksum _ => ?_
  refine Defined.bind defined_read32 fun reserved _ => ?_
  refine Defined.bind defined_read32 fun frameChecksum _ => ?_
  refine Defined.bind (defined_readRecordCrc (by decide) hlen) fun crc _ => ?_
  refine Defined.bind defined_reject fun _ _ => ?_
  refine Defined.bind defined_reject fun _ _ => ?_
  refine Defined.bind defined_reject fun _ _ => ?_
  refine Defined.bind defined_reject fun _ _ => ?_
  refine Defined.bind defined_reject fun _ hsize => ?_
  have hpayload : payloadSize.toNat ≤ walFramePayloadCapacity :=
    Nat.not_lt.mp (not_or.mp hsize).2
  simp only [walFramePayloadCapacity, walFrameSize, formatAlignment, walFrameHeaderSize]
    at hpayload
  refine Defined.bind defined_reject fun _ _ => ?_
  refine Defined.bind (defined_isZeroRange ?_) fun zero _ => ?_
  · simp only [walFramePayloadCapacity, walFrameSize, formatAlignment, walFrameHeaderSize]
    omega
  refine Defined.bind defined_reject fun _ _ => ?_
  refine Defined.bind (defined_readCrc ?_) fun crc _ => ?_
  · simp only [walFrameHeaderSize]
    omega
  refine Defined.bind defined_reject fun _ _ => ?_
  refine Defined.pure ?_
  simp only [walFrameSize, formatAlignment, walFrameHeaderSize]
  omega

end Durable

end On9kvdb
