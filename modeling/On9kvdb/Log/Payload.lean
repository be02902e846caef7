import On9kvdb.Store.Wal

/-!
# Payloads written and read back

The writer never assembles a payload, the reader only ever sees it in pieces.  Two facts connect
them: a window copied segment by segment is the window of the concatenated payload
(`copyTransactionPayloadUnsafe_eq`), and parsing the concatenated payload returns the namespace
and the mutations it was made from (`parseRecoveredTransactionUnsafe_payload`).
-/

namespace On9kvdb

/-- The payload of a transaction, all segments in stream order. -/
def transactionPayload (namespaceName : Bytes) (mutations : List Mutation) : Bytes :=
  (payloadSegments namespaceName mutations).flatten

/-! ## Lengths -/

lemma length_mutationReference (v : StoredValue) : (mutationReference v).length = 20 := by
  cases v <;> simp [mutationReference]

lemma length_mutationHeaderPrefix (m : Mutation) : (mutationHeaderPrefix m).length = 28 := by
  simp [mutationHeaderPrefix, length_mutationReference]

lemma length_mutationHeader (m : Mutation) : (mutationHeader m).length = 32 := by
  simp [mutationHeader, length_mutationHeaderPrefix]

/-- The bytes of one mutation: header, key and inline value. -/
def mutationBytes (m : Mutation) : Bytes := mutationHeader m ++ m.key ++ m.value.inlineBytes

lemma length_mutationBytes (m : Mutation) :
    (mutationBytes m).length = mutationHeaderSize + m.key.length + m.value.inlineSize := by
  simp [mutationBytes, length_mutationHeader, StoredValue.inlineSize, Nat.add_assoc]

/-- The eight bytes in front of the namespace. -/
def transactionHeader (namespaceName : Bytes) (mutations : List Mutation) : Bytes :=
  leBytes 2 namespaceName.length ++ leBytes 2 mutations.length ++ List.replicate 4 0

lemma length_transactionHeader (namespaceName : Bytes) (mutations : List Mutation) :
    (transactionHeader namespaceName mutations).length = transactionHeaderSize := by
  simp [transactionHeader]

lemma transactionPayload_eq (namespaceName : Bytes) (mutations : List Mutation) :
    transactionPayload namespaceName mutations =
      transactionHeader namespaceName mutations ++
        (namespaceName ++ (mutations.map mutationBytes).flatten) := by
  have h : (mutations.flatMap fun m => [mutationHeader m, m.key, m.value.inlineBytes]).flatten =
      (mutations.map mutationBytes).flatten := by
    induction mutations with
    | nil => rfl
    | cons m rest ih =>
        simp only [List.flatMap_cons, List.flatten_append, List.map_cons, List.flatten_cons, ih]
        simp [mutationBytes]
  simp only [transactionPayload, payloadSegments, List.flatten_cons, h]
  rfl

lemma length_transactionPayload (namespaceName : Bytes) (mutations : List Mutation) :
    (transactionPayload namespaceName mutations).length =
      transactionPayloadSize namespaceName mutations := by
  rw [transactionPayload_eq, transactionPayloadSize]
  simp only [List.length_append, length_transactionHeader, List.length_flatten, List.map_map]
  rw [Nat.add_assoc]
  congr 3
  exact List.map_congr_left fun m _ => length_mutationBytes m

/-! ## Windows -/

/-- The part of `data`, placed at `logicalOffset` of the stream, that lies in the window of
`size` bytes at `streamOffset`. -/
def streamWindow (streamOffset size logicalOffset : ℕ) (data : Bytes) : Bytes :=
  (data.drop (streamOffset - logicalOffset)).take
    (streamOffset + size - max streamOffset logicalOffset)

lemma streamWindow_append (streamOffset size logicalOffset : ℕ) (a b : Bytes) :
    streamWindow streamOffset size logicalOffset (a ++ b) =
      streamWindow streamOffset size logicalOffset a ++
        streamWindow streamOffset size (logicalOffset + a.length) b := by
  unfold streamWindow
  rw [List.drop_append, List.take_append, List.length_drop]
  congr 2 <;> [skip; congr 1] <;> omega

/-- The copy of one segment keeps exactly its part of the window. -/
lemma copyWalPayloadSegmentUnsafe_eq (s : WalPayloadCopyState) (data : Bytes) :
    copyWalPayloadSegmentUnsafe s data =
      { s with
        destination := s.destination ++
          streamWindow s.streamOffset s.requestSize s.logicalOffset data
        logicalOffset := s.logicalOffset + data.length } := by
  unfold copyWalPayloadSegmentUnsafe streamWindow
  dsimp only
  congr 2
  split_ifs with h hend hfirst hfirst
  · congr 1; omega
  · rw [show s.streamOffset - s.logicalOffset = 0 by omega]
    congr 1; omega
  · rw [List.take_of_length_le (by rw [List.length_drop]),
      List.take_of_length_le (by rw [List.length_drop]; omega)]
  · rw [show s.streamOffset - s.logicalOffset = 0 by omega,
      List.take_of_length_le (by simp only [List.length_drop, le_refl]),
      List.take_of_length_le (by rw [List.length_drop]; omega)]
  · rcases not_and_or.mp h with h | h
    · rw [List.drop_of_length_le (by omega), List.take_nil]
    · rw [show s.streamOffset + s.requestSize - max s.streamOffset s.logicalOffset = 0 by omega,
        List.take_zero]

lemma foldl_copyWalPayloadSegmentUnsafe (segments : List Bytes) (s : WalPayloadCopyState) :
    (segments.foldl copyWalPayloadSegmentUnsafe s).destination =
      s.destination ++
        streamWindow s.streamOffset s.requestSize s.logicalOffset segments.flatten := by
  induction segments generalizing s with
  | nil => simp [streamWindow]
  | cons data rest ih =>
      rw [List.foldl_cons, ih, copyWalPayloadSegmentUnsafe_eq, List.flatten_cons,
        streamWindow_append, List.append_assoc]

/-- **Copying a window of the stream is taking that window of the payload.** -/
theorem copyTransactionPayloadUnsafe_eq {namespaceName : Bytes} {mutations : List Mutation}
    {streamOffset size : ℕ}
    (h : streamOffset + size ≤ (transactionPayload namespaceName mutations).length) :
    copyTransactionPayloadUnsafe namespaceName mutations streamOffset size =
      .ok (((transactionPayload namespaceName mutations).drop streamOffset).take size) := by
  have hlen := length_transactionPayload namespaceName mutations
  have hwindow : ((payloadSegments namespaceName mutations).foldl copyWalPayloadSegmentUnsafe
      ⟨streamOffset, size, [], 0⟩).destination =
        ((transactionPayload namespaceName mutations).drop streamOffset).take size := by
    rw [foldl_copyWalPayloadSegmentUnsafe]
    simp [streamWindow, transactionPayload]
  unfold copyTransactionPayloadUnsafe
  dsimp only
  rw [if_neg (by omega), hwindow, if_pos]
  rw [List.length_take, List.length_drop]
  omega

/-- The checksum loop runs over everything from its offset on. -/
lemma checksumPayload_eq (namespaceName : Bytes) (mutations : List Mutation) (fuel offset : ℕ)
    (crc : UInt32)
    (h : transactionPayloadSize namespaceName mutations ≤
      offset + fuel * walFramePayloadCapacity) :
    checksumPayload namespaceName mutations (transactionPayloadSize namespaceName mutations) fuel
      offset crc =
        .ok (calcCrc32Update crc ((transactionPayload namespaceName mutations).drop offset)) := by
  have hlen := length_transactionPayload namespaceName mutations
  induction fuel generalizing offset crc with
  | zero =>
      rw [checksumPayload, List.drop_of_length_le (by omega), calcCrc32Update_nil]
  | succ fuel ih =>
      rw [checksumPayload]
      split_ifs with hdone
      · rw [List.drop_of_length_le (by omega), calcCrc32Update_nil]
      · have hsize : offset + min (transactionPayloadSize namespaceName mutations - offset)
            walFramePayloadCapacity ≤ (transactionPayload namespaceName mutations).length := by
          omega
        dsimp only
        rw [copyTransactionPayloadUnsafe_eq hsize]
        change checksumPayload _ _ _ fuel _ _ = _
        rw [ih _ _ (by rw [Nat.add_one_mul] at h; omega), ← calcCrc32Update_append, ← List.drop_drop,
          List.take_append_drop]

/-- **The logged checksum is the CRC-32 of the payload.** -/
theorem calculateTransactionPayloadUnsafe_eq {cfg : Config} {namespaceName : Bytes}
    {mutations : List Mutation} (hne : mutations ≠ [])
    (hcount : mutations.length ≤ cfg.limits.maxTransactionMutations)
    (hsize : transactionPayloadSize namespaceName mutations ≤ maxTransactionPayloadSize cfg)
    (hfit : transactionPayloadSize namespaceName mutations ≤ uint32Max) :
    calculateTransactionPayloadUnsafe cfg namespaceName mutations =
      .ok (transactionPayloadSize namespaceName mutations,
        calcCrc32 (transactionPayload namespaceName mutations)) := by
  have hfuel : transactionPayloadSize namespaceName mutations ≤
      0 + frameCountOf (transactionPayloadSize namespaceName mutations) *
        walFramePayloadCapacity := by
    unfold frameCountOf
    simp only [walFramePayloadCapacity, walFrameSize, formatAlignment, walFrameHeaderSize]
    omega
  unfold calculateTransactionPayloadUnsafe
  rw [rejectIf_of_not (by simp only [not_or, not_lt]; exact ⟨hne, hcount⟩), ok_bind]
  dsimp only
  rw [rejectIf_of_not (by omega), ok_bind, checksumPayload_eq _ _ _ _ _ hfuel]
  rfl

/-! ## Mutation headers, field by field -/

/-- What a mutation is once it has been logged: the previous state is not part of the log. -/
def Mutation.logged (m : Mutation) : Mutation := ⟨m.key, m.value, .none, 0⟩

/-- The descriptor fields of a header: those of an external value, or zeroes. -/
def loggedRef (v : StoredValue) : ValueRef := v.ref?.getD ⟨0, 0, v.size, 0, 0⟩

/-- The fields of a descriptor fit their widths. -/
def ValueRef.fits (r : ValueRef) : Prop :=
  r.bankGeneration ≤ uint64Max ∧ r.firstChunkOffset ≤ uint32Max ∧ r.valueSize ≤ uint32Max ∧
    r.bankSlot < 256

lemma mutationHeader_keySize (m : Mutation) :
    ((mutationHeader m).drop 2).take 2 = leBytes 2 m.key.length := rfl

lemma mutationHeader_valueSize (m : Mutation) :
    ((mutationHeader m).drop 4).take 4 = leBytes 4 m.value.size := rfl

lemma mutationHeader_checksum (m : Mutation) :
    ((mutationHeader m).drop 28).take 4 =
      leBytes 4
        (calcMutationChecksum (mutationHeaderPrefix m) m.key m.value.inlineBytes).toNat := by
  rw [mutationHeader, List.drop_left' (length_mutationHeaderPrefix m), List.take_of_length_le]
  rw [length_leBytes]

lemma mutationHeader_kind (m : Mutation) : (mutationHeader m).getD 0 0 = m.value.kind := rfl

lemma mutationHeader_reserved (m : Mutation) : (mutationHeader m).getD 1 0 = 0 := rfl

lemma mutationHeader_flags (m : Mutation) :
    (mutationHeader m).getD 8 0 = if m.value.ref?.isSome then 1 else 0 := by
  unfold mutationHeader mutationHeaderPrefix
  cases m.value <;> rfl

lemma mutationHeader_padding (m : Mutation) :
    (mutationHeader m).getD 10 0 = 0 ∧ (mutationHeader m).getD 11 0 = 0 := by
  unfold mutationHeader mutationHeaderPrefix
  cases m.value <;> exact ⟨rfl, rfl⟩

lemma mutationHeader_blank {m : Mutation} (h : m.value.ref? = none) :
    ((mutationHeader m).drop 9).take 19 = List.replicate 19 0 := by
  unfold mutationHeader mutationHeaderPrefix
  cases hv : m.value with
  | tombstone => rfl
  | inline bytes => rfl
  | external r => rw [hv] at h; cases h

lemma mutationHeader_bankSlot {m : Mutation} {r : ValueRef} (h : m.value = .external r) :
    (mutationHeader m).getD 9 0 = UInt8.ofNat r.bankSlot := by
  unfold mutationHeader mutationHeaderPrefix
  rw [h]
  rfl

lemma mutationHeader_bankGeneration {m : Mutation} {r : ValueRef} (h : m.value = .external r) :
    ((mutationHeader m).drop 12).take 8 = leBytes 8 r.bankGeneration := by
  unfold mutationHeader mutationHeaderPrefix
  rw [h]
  rfl

lemma mutationHeader_firstChunkOffset {m : Mutation} {r : ValueRef}
    (h : m.value = .external r) :
    ((mutationHeader m).drop 20).take 4 = leBytes 4 r.firstChunkOffset := by
  unfold mutationHeader mutationHeaderPrefix
  rw [h]
  rfl

lemma mutationHeader_valueChecksum {m : Mutation} {r : ValueRef} (h : m.value = .external r) :
    ((mutationHeader m).drop 24).take 4 = leBytes 4 r.valueChecksum.toNat := by
  unfold mutationHeader mutationHeaderPrefix
  rw [h]
  rfl

/-- The checksum of the stored header is the one stored in it. -/
lemma calcMutationChecksum_mutationHeader (m : Mutation) :
    calcMutationChecksum (mutationHeader m) m.key m.value.inlineBytes =
      calcMutationChecksum (mutationHeaderPrefix m) m.key m.value.inlineBytes := by
  have hpre : (mutationHeaderPrefix m).take 28 = mutationHeaderPrefix m :=
    List.take_of_length_le (by rw [length_mutationHeaderPrefix])
  have hhead : (mutationHeader m).take 28 = mutationHeaderPrefix m := by
    rw [mutationHeader, List.take_left' (length_mutationHeaderPrefix m)]
  unfold calcMutationChecksum
  rw [hpre, hhead]

/-! ## One mutation -/

section
variable {cfg : Config}

/-- What the log can hold as the value of a mutation. -/
def loggableValue (cfg : Config) : StoredValue → Prop
  | .tombstone => True
  | .inline bytes => bytes.length ≤ cfg.inlineValueLen
  | .external r => cfg.inlineValueLen < r.valueSize ∧ r.bankGeneration ≤ uint64Max ∧
      valueRefIsValid r cfg.geometry.valueBankSize = true

lemma leNat_leBytes_two {n : ℕ} (h : n ≤ uint16Max) : leNat (leBytes 2 n) = n :=
  leNat_leBytes (by simp only [uint16Max] at h; omega)

lemma leNat_leBytes_four {n : ℕ} (h : n ≤ uint32Max) : leNat (leBytes 4 n) = n :=
  leNat_leBytes (by simp only [uint32Max] at h; omega)

/-- A value that is not external is stored inline as a whole. -/
lemma loggableValue.size_eq {v : StoredValue} (h : v.ref? = none) : v.inlineSize = v.size := by
  cases v with
  | tombstone => rfl
  | inline bytes => rfl
  | external r => cases h

lemma parseMutationValue_header {m : Mutation} (h : loggableValue cfg m.value)
    (reference : ValueRef) (href : ∀ r, m.value = .external r → reference = r) :
    parseMutationValue cfg m.value.kind 0 m.value.ref?.isSome reference m.value.inlineBytes =
      .ok m.value := by
  unfold parseMutationValue
  cases hv : m.value with
  | tombstone => simp [StoredValue.kind, StoredValue.inlineBytes, StoredValue.ref?]
  | inline bytes =>
      rw [hv] at h
      have hle : ¬ cfg.limits.inlineValueBytes < bytes.length := not_lt.mpr h
      simp [StoredValue.kind, StoredValue.inlineBytes, StoredValue.ref?, hle]
  | external r =>
      rw [hv] at h
      obtain ⟨hsize, -, hvalid⟩ := h
      rw [href r hv]
      have hle : ¬ r.valueSize ≤ cfg.limits.inlineValueBytes := not_le.mpr hsize
      simp [StoredValue.kind, StoredValue.ref?, hvalid, hle]

/-- The descriptor read from the header of an external value is the one written. -/
lemma reference_of_mutationHeader {m : Mutation} {r : ValueRef} (hv : m.value = .external r)
    (h : loggableValue cfg m.value) :
    (⟨leNat (((mutationHeader m).drop 12).take 8), leNat (((mutationHeader m).drop 20).take 4),
      m.value.size, UInt32.ofNat (leNat (((mutationHeader m).drop 24).take 4)),
      ((mutationHeader m).getD 9 0).toNat⟩ : ValueRef) = r := by
  rw [mutationHeader_bankGeneration hv, mutationHeader_firstChunkOffset hv,
    mutationHeader_valueChecksum hv, mutationHeader_bankSlot hv, hv]
  rw [hv] at h
  obtain ⟨-, hgeneration, hvalid⟩ := h
  simp only [valueRefIsValid, Bool.and_eq_true, decide_eq_true_eq] at hvalid
  have hbank := cfg.sizes.2.2.1
  have hslot : (UInt8.ofNat r.bankSlot).toNat = r.bankSlot := by
    have : r.bankSlot < 2 := hvalid.1.1.1.1.1.1.1.1
    simp only [UInt8.toNat_ofNat']
    omega
  have hoffset : r.firstChunkOffset ≤ uint32Max :=
    le_trans hvalid.1.2 (le_trans (Nat.sub_le _ _) hbank)
  have hchecksum : leNat (leBytes 4 r.valueChecksum.toNat) = r.valueChecksum.toNat :=
    leNat_leBytes (by have := r.valueChecksum.toNat_lt; omega)
  rw [leNat_leBytes (by simp only [uint64Max] at hgeneration; omega),
    leNat_leBytes_four hoffset, hchecksum, hslot]
  simp [StoredValue.size]

lemma size_le_uint32Max {v : StoredValue} (h : loggableValue cfg v) : v.size ≤ uint32Max := by
  cases v with
  | tombstone => simp [StoredValue.size]
  | inline bytes =>
      have hinline := cfg.ranges.2.1
      have hlen : bytes.length ≤ cfg.limits.inlineValueBytes := h
      simp only [StoredValue.size, uint32Max, formatAlignment] at *
      omega
  | external r =>
      have hvalid := h.2.2
      simp only [valueRefIsValid, Bool.and_eq_true, decide_eq_true_eq] at hvalid
      have : r.valueSize ≤ maxValueLen := hvalid.1.1.1.1.1.2
      simp only [StoredValue.size, maxValueLen] at *
      omega

/-- **A mutation is parsed where it was written.** -/
theorem parseMutation_at {m : Mutation} {payload rest : Bytes} {offset staged : ℕ}
    {previous : List Mutation} (hdrop : payload.drop offset = mutationBytes m ++ rest)
    (hkey : validateBytes m.key = true) (hvalue : loggableValue cfg m.value)
    (hnew : ∀ p ∈ previous, p.key ≠ m.key)
    (hstaged : staged + m.value.inlineSize ≤ cfg.limits.transactionStagingBytes) :
    parseMutation cfg payload offset staged previous =
      .ok (m.logged, offset + (mutationBytes m).length, staged + m.value.inlineSize) := by
  have hlen := congrArg List.length hdrop
  simp only [List.length_drop, List.length_append, length_mutationBytes] at hlen
  have hkey' : 0 < m.key.length ∧ m.key.length ≤ maxNameLen := by
    simpa only [validateBytes, Bool.and_eq_true, decide_eq_true_eq] using hkey
  have hheader : (payload.drop offset).take mutationHeaderSize = mutationHeader m := by
    rw [hdrop, mutationBytes, List.append_assoc, List.append_assoc]
    exact List.take_left' (length_mutationHeader m)
  have hdropKey : payload.drop (offset + mutationHeaderSize) =
      m.key ++ (m.value.inlineBytes ++ rest) := by
    rw [← List.drop_drop, hdrop, mutationBytes, List.append_assoc, List.append_assoc]
    exact List.drop_left' (length_mutationHeader m)
  have hkeyBytes : (payload.drop (offset + mutationHeaderSize)).take m.key.length = m.key := by
    rw [hdropKey]
    exact List.take_left' rfl
  have hdropValue : payload.drop (offset + mutationHeaderSize + m.key.length) =
      m.value.inlineBytes ++ rest := by
    rw [← List.drop_drop, hdropKey]
    exact List.drop_left' rfl
  have hkeySize : leNat (((mutationHeader m).drop 2).take 2) = m.key.length := by
    rw [mutationHeader_keySize]
    exact leNat_leBytes_two (by simp only [maxNameLen, uint16Max] at *; omega)
  have hvalueSize : leNat (((mutationHeader m).drop 4).take 4) = m.value.size := by
    rw [mutationHeader_valueSize]
    exact leNat_leBytes_four (size_le_uint32Max hvalue)
  have hexternal : ((mutationHeader m).getD 8 0 &&& 1 = 1) ↔ m.value.ref?.isSome = true := by
    rw [mutationHeader_flags]
    cases m.value.ref?.isSome <;> simp
  have hinline : (if (mutationHeader m).getD 8 0 &&& 1 = 1 then 0 else m.value.size) =
      m.value.inlineSize := by
    split_ifs with h
    · cases hv : m.value with
      | external r => rfl
      | _ => rw [hexternal, hv] at h; cases h
    · have hnone : m.value.ref? = none :=
        Option.not_isSome_iff_eq_none.mp fun hsome => h (hexternal.mpr hsome)
      exact (loggableValue.size_eq hnone).symm
  have hvalueBytes : (payload.drop (offset + mutationHeaderSize + m.key.length)).take
      m.value.inlineSize = m.value.inlineBytes := by
    rw [hdropValue]
    exact List.take_left' rfl
  have hreference : ∀ r, m.value = .external r →
      (⟨leNat (((mutationHeader m).drop 12).take 8), leNat (((mutationHeader m).drop 20).take 4),
        m.value.size, UInt32.ofNat (leNat (((mutationHeader m).drop 24).take 4)),
        ((mutationHeader m).getD 9 0).toNat⟩ : ValueRef) = r :=
    fun r hr => reference_of_mutationHeader hr hvalue
  have hstored := parseMutationValue_header hvalue _ hreference
  have hdecide : decide ((mutationHeader m).getD 8 0 &&& 1 = 1) = m.value.ref?.isSome := by
    rw [Bool.eq_iff_iff, decide_eq_true_eq, hexternal]
  unfold parseMutation
  rw [rejectIf_of_not (by simp only [mutationHeaderSize] at *; omega), ok_bind]
  dsimp only
  rw [hheader, hkeySize, hvalueSize, hinline]
  rw [rejectIf_of_not]
  · rw [ok_bind, rejectIf_of_not (by simp only [mutationHeaderSize] at *; omega), ok_bind,
      hkeyBytes, rejectIf_of_not, ok_bind, rejectIf_of_not, ok_bind, hvalueBytes,
      mutationHeader_checksum, calcMutationChecksum_mutationHeader, rejectIf_of_not, ok_bind]
    · rw [mutationHeader_kind, mutationHeader_reserved, hdecide, hstored, ok_bind,
        rejectIf_of_not (by omega), ok_bind, length_mutationBytes]
      simp only [pure_eq_ok, Mutation.logged, Nat.add_assoc]
    · rw [leNat_leBytes (by have := (calcMutationChecksum (mutationHeaderPrefix m) m.key
        m.value.inlineBytes).toNat_lt; omega)]
      exact fun h => h rfl
    · rintro (hshort | ⟨hinlined, hlong⟩)
      · simp only [mutationHeaderSize] at *
        omega
      · have hnone : m.value.ref? = none :=
          Option.not_isSome_iff_eq_none.mp fun hsome => hinlined (hexternal.mpr hsome)
        cases hv : m.value with
        | tombstone => rw [hv] at hlong; exact absurd hlong (Nat.not_lt_zero _)
        | inline bytes =>
            rw [hv] at hlong hvalue
            exact absurd hlong (not_lt.mpr hvalue)
        | external r => rw [hv] at hnone; cases hnone
    · simp only [List.any_eq_true, beq_iff_eq, not_exists, not_and]
      exact hnew
  · rintro (hflags | hpad | hpad | ⟨hinlined, hblank⟩)
    · rw [mutationHeader_flags] at hflags
      split_ifs at hflags <;> exact hflags rfl
    · exact hpad (mutationHeader_padding m).1
    · exact hpad (mutationHeader_padding m).2
    · exact hblank (mutationHeader_blank
        (Option.not_isSome_iff_eq_none.mp fun hsome => hinlined (hexternal.mpr hsome)))

/-! ## The whole payload -/

/-- A transaction as `commit` hands it to the log: what staging has checked. -/
structure CommittedTransaction (cfg : Config) where
  namespaceName : Bytes
  mutations : List Mutation
  namespaceValid : validateBytes namespaceName = true
  nonempty : mutations ≠ []
  count : mutations.length ≤ cfg.limits.maxTransactionMutations
  keysValid : ∀ m ∈ mutations, validateBytes m.key = true
  keysDistinct : (mutations.map Mutation.key).Nodup
  valuesLoggable : ∀ m ∈ mutations, loggableValue cfg m.value
  staged : (mutations.map fun m => m.value.inlineSize).sum ≤ cfg.limits.transactionStagingBytes

lemma parseMutations_at {payload : Bytes} (mutations : List Mutation) (previous : List Mutation)
    (offset staged : ℕ)
    (hdrop : payload.drop offset = (mutations.map mutationBytes).flatten)
    (hkeys : ∀ m ∈ mutations, validateBytes m.key = true)
    (hvalues : ∀ m ∈ mutations, loggableValue cfg m.value)
    (hdistinct : ((previous ++ mutations).map Mutation.key).Nodup)
    (hstaged : staged + (mutations.map fun m => m.value.inlineSize).sum ≤
      cfg.limits.transactionStagingBytes) :
    parseMutations cfg payload mutations.length offset staged previous =
      .ok (previous ++ mutations.map Mutation.logged,
        offset + (mutations.map mutationBytes).flatten.length) := by
  induction mutations generalizing previous offset staged with
  | nil => simp [parseMutations]
  | cons m rest ih =>
      simp only [List.map_cons, List.flatten_cons, List.sum_cons] at hdrop hstaged
      have hnew : ∀ p ∈ previous, p.key ≠ m.key := by
        intro p hp heq
        rw [List.map_append, List.map_cons] at hdistinct
        exact List.disjoint_of_nodup_append hdistinct (List.mem_map_of_mem hp)
          (by rw [heq]; exact List.mem_cons_self)
      have hparse : parseMutation cfg payload offset staged previous = _ :=
        parseMutation_at hdrop (hkeys m List.mem_cons_self) (hvalues m List.mem_cons_self) hnew
          (by omega)
      have hnext : payload.drop (offset + (mutationBytes m).length) =
          (rest.map mutationBytes).flatten := by
        rw [← List.drop_drop, hdrop, List.drop_left]
      have hdistinct' : ((previous ++ [m.logged] ++ rest).map Mutation.key).Nodup := by
        simpa [Mutation.logged] using hdistinct
      have hrest := ih (previous ++ [m.logged]) _ (staged + m.value.inlineSize) hnext
        (fun p hp => hkeys p (List.mem_cons_of_mem _ hp))
        (fun p hp => hvalues p (List.mem_cons_of_mem _ hp)) hdistinct' (by omega)
      rw [List.length_cons, parseMutations, hparse, ok_bind]
      dsimp only
      rw [hrest]
      simp [Nat.add_assoc]

namespace CommittedTransaction

variable (t : CommittedTransaction cfg)

/-- The payload the transaction leaves in the log. -/
def payload : Bytes := transactionPayload t.namespaceName t.mutations

lemma namespace_le : 0 < t.namespaceName.length ∧ t.namespaceName.length ≤ maxNameLen := by
  simpa only [validateBytes, Bool.and_eq_true, decide_eq_true_eq] using t.namespaceValid

lemma mutations_length_pos : 0 < t.mutations.length := List.length_pos_iff.mpr t.nonempty

lemma count_le : t.mutations.length ≤ maxTransactionMutations := by
  exact le_trans t.count cfg.maxTransactionMutations_le

lemma length_payload_pos : 0 < t.payload.length := by
  rw [payload, length_transactionPayload, transactionPayloadSize]
  simp only [transactionHeaderSize]
  omega

/-- The payload is within the bound recovery puts on it. -/
lemma length_payload_le : t.payload.length ≤ maxTransactionPayloadSize cfg := by
  have hsum : (t.mutations.map fun m =>
      mutationHeaderSize + m.key.length + m.value.inlineSize).sum ≤
        t.mutations.length * (mutationHeaderSize + maxNameLen) +
          (t.mutations.map fun m => m.value.inlineSize).sum := by
    have hkeys := t.keysValid
    generalize t.mutations = mutations at hkeys
    induction mutations with
    | nil => simp
    | cons m rest ih =>
        have hkey : m.key.length ≤ maxNameLen := by
          have := hkeys m List.mem_cons_self
          simp only [validateBytes, Bool.and_eq_true, decide_eq_true_eq] at this
          exact this.2
        have := ih fun p hp => hkeys p (List.mem_cons_of_mem _ hp)
        simp only [List.map_cons, List.sum_cons, List.length_cons, Nat.add_one_mul]
        omega
  have hcount := Nat.mul_le_mul_right (mutationHeaderSize + maxNameLen) t.count
  have hstaged := t.staged
  have hname := t.namespace_le.2
  rw [payload, length_transactionPayload, transactionPayloadSize, maxTransactionPayloadSize]
  omega

/-- **Parsing a logged payload returns the transaction it was made from.** -/
theorem parseRecoveredTransactionUnsafe_payload :
    parseRecoveredTransactionUnsafe cfg t.payload t.mutations.length =
      .ok (t.namespaceName, t.mutations.map Mutation.logged) := by
  obtain ⟨hnamePos, hnameLe⟩ := t.namespace_le
  have hpos := t.mutations_length_pos
  have hcount := t.count_le
  have heq : t.payload = transactionHeader t.namespaceName t.mutations ++
      (t.namespaceName ++ (t.mutations.map mutationBytes).flatten) :=
    transactionPayload_eq _ _
  have hlen : t.payload.length = transactionHeaderSize +
      (t.namespaceName.length + (t.mutations.map mutationBytes).flatten.length) := by
    rw [heq, List.length_append, List.length_append, length_transactionHeader]
  have hnameSize : leNat (t.payload.take 2) = t.namespaceName.length := by
    rw [heq]
    exact leNat_leBytes_two (by simp only [maxNameLen, uint16Max] at *; omega)
  have hmutationCount : leNat ((t.payload.drop 2).take 2) = t.mutations.length := by
    rw [heq]
    exact leNat_leBytes_two (by simp only [maxTransactionMutations, uint16Max] at *; omega)
  have hreserved : leNat ((t.payload.drop 4).take 4) = 0 := by
    rw [heq]
    rfl
  have hdropName : t.payload.drop transactionHeaderSize =
      t.namespaceName ++ (t.mutations.map mutationBytes).flatten := by
    rw [heq]
    exact List.drop_left' (length_transactionHeader _ _)
  have hname : (t.payload.drop transactionHeaderSize).take t.namespaceName.length =
      t.namespaceName := by
    rw [hdropName]
    exact List.take_left' rfl
  have hdrop : t.payload.drop (transactionHeaderSize + t.namespaceName.length) =
      (t.mutations.map mutationBytes).flatten := by
    rw [← List.drop_drop, hdropName]
    exact List.drop_left' rfl
  have hmutations := parseMutations_at t.mutations [] _ 0 hdrop t.keysValid t.valuesLoggable
    (by simpa using t.keysDistinct) (by simpa using t.staged)
  unfold parseRecoveredTransactionUnsafe
  rw [rejectIf_of_not (by have := t.count; omega), ok_bind]
  dsimp only
  rw [hnameSize, hmutationCount, hreserved, rejectIf_of_not (by omega), ok_bind, hname,
    hmutations, ok_bind]
  dsimp only
  rw [rejectIf_of_not (by simp only [hlen, Nat.add_assoc, not_not]), ok_bind]
  rfl

end CommittedTransaction

end

end On9kvdb
