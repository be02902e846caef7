import On9kvdb.Lib.PackedArena
import On9kvdb.Store.Transaction

/-!
# The staging arena

The staged mutations as `transaction_slot` keeps them: an array of slots, of which those with a
non-empty inline value hold an extent of `transaction_staging`.  Staging a key again takes its old
extent out, by sliding the tail down over it and lowering the offsets behind it, and writes the new
value behind the last staged byte.  `StagingSound` is what every sequence of calls keeps: the extents are
packed, and every slot carries the value last staged for its key.
-/

namespace On9kvdb

open PackedArena

/-- `mutation_kind_set` and `mutation_kind_tombstone`. -/
inductive MutationKind
  | set
  | tombstone
  deriving DecidableEq, Repr

/-- `mutation_slot`. -/
structure MutationSlot where
  valueOffset : ℕ := 0
  valueSize : ℕ := 0
  key : Bytes := []
  kind : MutationKind := .set
  previousState : PreviousState := .none
  previousValueSize : ℕ := 0
  externalValue : Bool := false
  externalValueRef : ValueRef := .blank
  deriving DecidableEq, Repr

/-- The staged part of `transaction_slot`, and `transaction_staging`. -/
structure StagingArea where
  mutations : ℕ → MutationSlot
  mutationCount : ℕ
  stagedValueBytes : ℕ
  transactionStaging : ℕ → UInt8

/-- External values occupy the value bank, not the arena. -/
def MutationSlot.heldSize (m : MutationSlot) : ℕ := if m.externalValue then 0 else m.valueSize

namespace StagingArea

/-! ## The methods -/

/-- The area `begin_transaction` leaves; the arena keeps whatever bytes it had. -/
def fresh (transactionStaging : ℕ → UInt8) : StagingArea :=
  ⟨fun _ => {}, 0, 0, transactionStaging⟩

/-- `find_staged_mutation_unsafe`. -/
def findStagedMutationUnsafe (s : StagingArea) (key : Bytes) : Option ℕ :=
  if validateBytes key then
    (List.range s.mutationCount).find? fun idx => (s.mutations idx).key == key
  else none

/-- Takes the inline value of a mutation out of the arena. -/
def withdraw (s : StagingArea) (idx : ℕ) : StagingArea :=
  let mutation := s.mutations idx
  let tailOffset := mutation.valueOffset + mutation.heldSize
  let tailSize := s.stagedValueBytes - tailOffset
  { s with
    transactionStaging := move s.transactionStaging mutation.valueOffset tailOffset tailSize
    mutations := fun i =>
      let candidate := s.mutations i
      if i < s.mutationCount ∧ i ≠ idx ∧ candidate.externalValue = false ∧
          0 < candidate.valueSize ∧ mutation.valueOffset < candidate.valueOffset then
        { candidate with valueOffset := candidate.valueOffset - mutation.heldSize }
      else candidate
    stagedValueBytes := s.stagedValueBytes - mutation.heldSize }

/-- The slot of a key, without a value in the arena: the staged one, or a new one. -/
def vacate (s : StagingArea) : Option ℕ → ℕ × StagingArea
  | some idx => (idx, if 0 < (s.mutations idx).heldSize then s.withdraw idx else s)
  | none =>
      (s.mutationCount,
        { s with
          mutations := Function.update s.mutations s.mutationCount {}
          mutationCount := s.mutationCount + 1 })

/-- Fills a slot, its value behind the last staged byte. -/
def put (s : StagingArea) (idx : ℕ) (key value : Bytes) (kind : MutationKind)
    (newStagedSize : ℕ) : StagingArea :=
  { s with
    mutations := Function.update s.mutations idx { s.mutations idx with
      valueOffset := s.stagedValueBytes
      valueSize := value.length
      key := key
      kind := kind
      externalValue := false
      externalValueRef := .blank }
    transactionStaging := write s.transactionStaging s.stagedValueBytes value
    stagedValueBytes := newStagedSize }

/-- The slot a key is staged in. -/
def slotOf (s : StagingArea) (key : Bytes) : ℕ := (s.vacate (s.findStagedMutationUnsafe key)).1

/-- The area with that slot vacated. -/
def vacated (s : StagingArea) (key : Bytes) : StagingArea :=
  (s.vacate (s.findStagedMutationUnsafe key)).2

lemma put_mutations_self (s : StagingArea) (idx : ℕ) (key value : Bytes) (kind : MutationKind)
    (newStagedSize : ℕ) :
    (s.put idx key value kind newStagedSize).mutations idx = { s.mutations idx with
      valueOffset := s.stagedValueBytes, valueSize := value.length, key := key, kind := kind,
      externalValue := false, externalValueRef := .blank } :=
  Function.update_self ..

lemma put_mutations_of_ne (s : StagingArea) {idx j : ℕ} (h : j ≠ idx) (key value : Bytes)
    (kind : MutationKind) (newStagedSize : ℕ) :
    (s.put idx key value kind newStagedSize).mutations j = s.mutations j :=
  Function.update_of_ne h ..

/-- The size of the staged value a new one replaces. -/
def oldValueSize (s : StagingArea) (key : Bytes) : ℕ :=
  (s.findStagedMutationUnsafe key).elim 0 fun idx => (s.mutations idx).heldSize

variable (cfg : Config) (db : Db)

/-- `stage_value_unsafe`. -/
def stageValueUnsafe (s : StagingArea) (raw : ℕ) (key value : Bytes) (kind : MutationKind) :
    Except EspErr StagingArea := do
  rejectIf (validateBytes key = false ∨ cfg.inlineValueLen < value.length) .invalidArg
  let _ ← getTransactionUnsafe cfg db raw
  let mutation := s.findStagedMutationUnsafe key
  let newStagedSize := s.stagedValueBytes - s.oldValueSize key + value.length
  rejectIf (cfg.limits.transactionStagingBytes < newStagedSize) .invalidSize
  rejectIf (mutation = none ∧ cfg.limits.maxTransactionMutations ≤ s.mutationCount) .invalidSize
  let (idx, s) := s.vacate mutation
  return s.put idx key value kind newStagedSize

/-- Turns the value of a slot into a descriptor. -/
def describe (s : StagingArea) (idx : ℕ) (reference : ValueRef) : StagingArea :=
  { s with
    mutations := Function.update s.mutations idx { s.mutations idx with
      valueSize := reference.valueSize
      externalValue := true
      externalValueRef := reference } }

lemma describe_mutations_self (s : StagingArea) (idx : ℕ) (reference : ValueRef) :
    (s.describe idx reference).mutations idx = { s.mutations idx with
      valueSize := reference.valueSize, externalValue := true, externalValueRef := reference } :=
  Function.update_self ..

lemma describe_mutations_of_ne (s : StagingArea) {idx j : ℕ} (h : j ≠ idx)
    (reference : ValueRef) : (s.describe idx reference).mutations j = s.mutations j :=
  Function.update_of_ne h ..

/-- `stage_external_value_unsafe`: stages an empty value and turns it into a descriptor. -/
def stageExternalValueUnsafe (s : StagingArea) (raw : ℕ) (key : Bytes) (reference : ValueRef) :
    Except EspErr Unit × StagingArea :=
  if valueRefMatchesBankUnsafe cfg reference db.manifest.activeValueBank
      (db.manifest.valueBankGeneration db.manifest.activeValueBank)
      cfg.geometry.valueBankSize = false then (.error .invalidArg, s)
  else match s.stageValueUnsafe cfg db raw key [] .set with
    | .error e => (.error e, s)
    | .ok s =>
        match getTransactionUnsafe cfg db raw with
        | .error e => (.error e, s)
        | .ok _ =>
            match s.findStagedMutationUnsafe key with
            | none => (.error .invalidState, s)
            | some idx => (.ok (), s.describe idx reference)

/-- The value a slot stands for: what `value_view` and the log read of it. -/
def value (s : StagingArea) (idx : ℕ) : StoredValue :=
  let mutation := s.mutations idx
  match mutation.kind with
  | .tombstone => .tombstone
  | .set =>
      if mutation.externalValue then .external mutation.externalValueRef
      else .inline (slice s.transactionStaging mutation.valueOffset mutation.valueSize)

/-- `lookup_transaction_unsafe`, where `committed` is what `lookup_committed_unsafe` answers. -/
def lookupTransactionUnsafe (s : StagingArea) (committed : Bytes → Except EspErr ValueView)
    (key : Bytes) : Except EspErr ValueView :=
  match s.findStagedMutationUnsafe key with
  | some idx => .ok ⟨0, s.value idx⟩
  | none => committed key

/-- `erase_key`. -/
def eraseKey (s : StagingArea) (raw : ℕ) (committed : Bytes → Except EspErr ValueView)
    (key : Bytes) : Except EspErr StagingArea := do
  rejectIf (validateBytes key = false) .invalidArg
  let _ ← getTransactionUnsafe cfg db raw
  let current ← s.lookupTransactionUnsafe committed key
  rejectIf (current.value.isTombstone = true) .notFound
  s.stageValueUnsafe cfg db raw key [] .tombstone

/-- What a compaction does to the staged descriptors: each becomes that of its copy. -/
def relocateStaged (s : StagingArea) (copy : Bytes → ValueRef → ValueRef) : StagingArea :=
  { s with
    mutations := fun i =>
      let mutation := s.mutations i
      if i < s.mutationCount ∧ mutation.externalValue = true then
        { mutation with externalValueRef := copy mutation.key mutation.externalValueRef }
      else mutation }

/-! ## The layout -/

variable {cfg db}

/-- The slots with bytes in the arena. -/
def inlineSlots (s : StagingArea) : Set ℕ :=
  {i | i < s.mutationCount ∧ (s.mutations i).externalValue = false ∧ 0 < (s.mutations i).valueSize}

/-- The range of the arena a slot refers to. -/
def extent (s : StagingArea) (i : ℕ) : Extent :=
  ⟨(s.mutations i).valueOffset, (s.mutations i).valueSize⟩

end StagingArea

/-- The fields of a slot that say what it carries, the bytes of an inline value apart. -/
def MutationSlot.Carries (m : MutationSlot) : StoredValue → Prop
  | .tombstone => m.kind = .tombstone ∧ m.externalValue = false ∧ m.valueSize = 0
  | .inline bytes => m.kind = .set ∧ m.externalValue = false ∧ m.valueSize = bytes.length
  | .external ref => m.kind = .set ∧ m.externalValue = true ∧ m.externalValueRef = ref ∧
      m.valueSize = ref.valueSize

/-- A staging area within its limits whose slots carry `values`. -/
structure StagingSound (cfg : Config) (s : StagingArea) (values : ℕ → StoredValue) : Prop where
  valid : ∀ i < s.mutationCount, validateBytes (s.mutations i).key = true
  distinct : ∀ i < s.mutationCount, ∀ j < s.mutationCount,
    (s.mutations i).key = (s.mutations j).key → i = j
  carries : ∀ i < s.mutationCount, (s.mutations i).Carries (values i)
  stores : Stores s.inlineSlots s.extent s.stagedValueBytes s.transactionStaging
    fun i => (values i).inlineBytes
  count_le : s.mutationCount ≤ cfg.limits.maxTransactionMutations
  bytes_le : s.stagedValueBytes ≤ cfg.limits.transactionStagingBytes

/-- Two slots that differ in their offsets at most. -/
def MutationSlot.SameBut (m m' : MutationSlot) : Prop :=
  ∃ offset, m' = { m with valueOffset := offset }

namespace MutationSlot.SameBut

variable {m m' : MutationSlot}

lemma of_eq (h : m' = m) : m.SameBut m' := ⟨m.valueOffset, h⟩

lemma key_eq (h : m.SameBut m') : m'.key = m.key := by
  obtain ⟨_, rfl⟩ := h
  rfl

lemma externalValue_eq (h : m.SameBut m') : m'.externalValue = m.externalValue := by
  obtain ⟨_, rfl⟩ := h
  rfl

lemma valueSize_eq (h : m.SameBut m') : m'.valueSize = m.valueSize := by
  obtain ⟨_, rfl⟩ := h
  rfl

lemma carries (h : m.SameBut m') {v : StoredValue} (hv : m.Carries v) : m'.Carries v := by
  obtain ⟨_, rfl⟩ := h
  cases v <;> exact hv

end MutationSlot.SameBut

namespace StagingSound

variable {cfg : Config} {s : StagingArea} {values : ℕ → StoredValue}

lemma fresh (transactionStaging : ℕ → UInt8) :
    StagingSound cfg (StagingArea.fresh transactionStaging) values where
  valid i hi := absurd hi (Nat.not_lt_zero i)
  distinct i hi := absurd hi (Nat.not_lt_zero i)
  carries i hi := absurd hi (Nat.not_lt_zero i)
  stores := (stores_empty _ _ _).congr (Set.eq_empty_of_forall_notMem fun i hi =>
    absurd hi.1 (Nat.not_lt_zero i)) (fun _ _ => rfl) (fun _ _ => rfl)
  count_le := Nat.zero_le _
  bytes_le := Nat.zero_le _

/-! ## Searching -/

lemma find_eq_some (h : StagingSound cfg s values) {key : Bytes} {idx : ℕ} :
    s.findStagedMutationUnsafe key = some idx ↔
      idx < s.mutationCount ∧ (s.mutations idx).key = key := by
  unfold StagingArea.findStagedMutationUnsafe
  constructor
  · intro hfind
    split_ifs at hfind
    have hmem := List.mem_of_find?_eq_some hfind
    have hkey := List.find?_some hfind
    simp only [beq_iff_eq] at hkey
    exact ⟨List.mem_range.mp hmem, hkey⟩
  · rintro ⟨hidx, rfl⟩
    rw [if_pos (h.valid idx hidx)]
    cases hfind : (List.range s.mutationCount).find?
        (fun i => (s.mutations i).key == (s.mutations idx).key) with
    | none =>
        have habsent := List.find?_eq_none.mp hfind idx (List.mem_range.mpr hidx)
        exact absurd (beq_self_eq_true _) habsent
    | some i =>
        have hi := List.mem_range.mp (List.mem_of_find?_eq_some hfind)
        have hkey := List.find?_some hfind
        simp only [beq_iff_eq] at hkey
        rw [h.distinct i hi idx hidx hkey]

lemma find_eq_none (h : StagingSound cfg s values) {key : Bytes} :
    s.findStagedMutationUnsafe key = none ↔ ∀ i < s.mutationCount, (s.mutations i).key ≠ key := by
  constructor
  · intro hfind i hi hkey
    rw [h.find_eq_some.mpr ⟨hi, hkey⟩] at hfind
    cases hfind
  · intro habsent
    cases hfind : s.findStagedMutationUnsafe key with
    | none => rfl
    | some i =>
        obtain ⟨hi, hkey⟩ := h.find_eq_some.mp hfind
        exact absurd hkey (habsent i hi)

/-- **A slot reads as the value it carries.** -/
theorem value_eq (h : StagingSound cfg s values) {i : ℕ} (hi : i < s.mutationCount) :
    s.value i = values i := by
  have hcarries := h.carries i hi
  unfold StagingArea.value
  dsimp only
  cases hvalue : values i with
  | tombstone =>
      rw [hvalue] at hcarries
      rw [hcarries.1]
  | inline bytes =>
      rw [hvalue] at hcarries
      obtain ⟨hkind, hexternal, hsize⟩ := hcarries
      rw [hkind, hexternal]
      by_cases hempty : bytes = []
      · rw [hsize, hempty]
        rfl
      · have howner : i ∈ s.inlineSlots :=
          ⟨hi, hexternal, by rw [hsize]; exact List.length_pos_iff.mpr hempty⟩
        have hcontent := h.stores.content i howner
        simp only [hvalue, StoredValue.inlineBytes, StagingArea.extent] at hcontent
        simp only [hcontent, Bool.false_eq_true, if_false]
  | external ref =>
      rw [hvalue] at hcarries
      obtain ⟨hkind, hexternal, href, -⟩ := hcarries
      rw [hkind, hexternal, href]
      rfl

/-- The bytes a slot holds in the arena are those of its inline value. -/
lemma heldSize_eq (h : StagingSound cfg s values) {i : ℕ} (hi : i < s.mutationCount) :
    (s.mutations i).heldSize = (values i).inlineSize := by
  have hcarries := h.carries i hi
  unfold MutationSlot.heldSize
  cases hvalue : values i <;> rw [hvalue] at hcarries <;>
    simp [hcarries.2.1, hcarries.2.2, StoredValue.inlineSize, StoredValue.inlineBytes]

lemma mem_inlineSlots {i : ℕ} (hi : i < s.mutationCount) :
    i ∈ s.inlineSlots ↔ 0 < (s.mutations i).heldSize := by
  unfold MutationSlot.heldSize StagingArea.inlineSlots
  cases hexternal : (s.mutations i).externalValue <;> simp [hi, hexternal]

end StagingSound

/-! ## Staging a value -/

/-- What `vacate` leaves: the slot has no extent, and the others are where the tail slid to. -/
structure Vacated (s s' : StagingArea) (values : ℕ → StoredValue) (idx held : ℕ) : Prop where
  idx_lt : idx < s'.mutationCount
  count_le : s.mutationCount ≤ s'.mutationCount
  others : ∀ j < s'.mutationCount, j ≠ idx →
    j < s.mutationCount ∧ (s.mutations j).SameBut (s'.mutations j)
  staged : s'.stagedValueBytes = s.stagedValueBytes - held
  stores : Stores (s.inlineSlots \ {idx}) s'.extent s'.stagedValueBytes s'.transactionStaging
    fun i => (values i).inlineBytes

namespace StagingSound

variable {cfg : Config} {db : Db} {s s' : StagingArea} {values : ℕ → StoredValue}

/-- Sliding the tail over a staged value. -/
lemma withdraw (h : StagingSound cfg s values) {idx : ℕ} (hidx : idx < s.mutationCount)
    (hheld : 0 < (s.mutations idx).heldSize) :
    Vacated s (s.withdraw idx) values idx (s.mutations idx).heldSize where
  idx_lt := hidx
  count_le := le_rfl
  others j hj _ := by
    refine ⟨hj, ?_⟩
    unfold StagingArea.withdraw
    dsimp only
    split_ifs
    · exact ⟨_, rfl⟩
    · exact .of_eq rfl
  staged := rfl
  stores := by
    have howner : idx ∈ s.inlineSlots := (mem_inlineSlots hidx).mpr hheld
    have hsize : (s.mutations idx).heldSize = (s.mutations idx).valueSize := by
      unfold MutationSlot.heldSize
      rw [howner.2.1]
      rfl
    have hremoved := h.stores.remove howner
    unfold StagingArea.withdraw
    dsimp only
    rw [hsize]
    refine hremoved.congr rfl (fun j hj => ?_) fun _ _ => rfl
    obtain ⟨⟨hlt, hinline, hpos⟩, hne⟩ := hj
    have hne' : j ≠ idx := hne
    unfold StagingArea.extent closeGap
    dsimp only
    by_cases hbehind : (s.mutations idx).valueOffset < (s.mutations j).valueOffset
    · rw [if_pos ⟨hlt, hne', hinline, hpos, hbehind⟩, if_pos hbehind]
    · rw [if_neg fun hall => hbehind hall.2.2.2.2, if_neg hbehind]

lemma vacate (h : StagingSound cfg s values) (key : Bytes) :
    Vacated s (s.vacated key) values (s.slotOf key) (s.oldValueSize key) := by
  unfold StagingArea.oldValueSize StagingArea.slotOf StagingArea.vacated
  cases hfind : s.findStagedMutationUnsafe key with
  | some idx =>
      obtain ⟨hidx, -⟩ := h.find_eq_some.mp hfind
      simp only [StagingArea.vacate, Option.elim_some]
      by_cases hheld : 0 < (s.mutations idx).heldSize
      · rw [if_pos hheld]
        exact h.withdraw hidx hheld
      · have hzero : (s.mutations idx).heldSize = 0 := Nat.eq_zero_of_not_pos hheld
        have hfree : idx ∉ s.inlineSlots := fun hmem => hheld ((mem_inlineSlots hidx).mp hmem)
        rw [if_neg hheld, hzero]
        refine ⟨hidx, le_rfl, fun j hj _ => ⟨hj, .of_eq rfl⟩, (Nat.sub_zero _).symm, ?_⟩
        exact h.stores.congr (Set.sdiff_singleton_eq_self hfree) (fun _ _ => rfl) fun _ _ => rfl
  | none =>
      have hfree : s.mutationCount ∉ s.inlineSlots := fun hmem => lt_irrefl _ hmem.1
      have hother : ∀ j, j ≠ s.mutationCount →
          Function.update s.mutations s.mutationCount {} j = s.mutations j :=
        fun j hj => Function.update_of_ne hj ..
      refine ⟨Nat.lt_succ_self _, Nat.le_succ _, fun j hj hne => ?_, (Nat.sub_zero _).symm, ?_⟩
      · have hj' : j < s.mutationCount + 1 := hj
        have hne' : j ≠ s.mutationCount := hne
        exact ⟨by omega, .of_eq (hother j hne')⟩
      · refine h.stores.congr (Set.sdiff_singleton_eq_self hfree) (fun j hj => ?_) fun _ _ => rfl
        have hne : j ≠ s.mutationCount := hj.1.ne
        show (⟨_, _⟩ : Extent) = _
        rw [show (s.vacate none).2.mutations j = s.mutations j from hother j hne]
        rfl

/-- Filling a vacated slot. -/
lemma put (h : StagingSound cfg s values) {idx held : ℕ} (hvacated : Vacated s s' values idx held)
    {key value : Bytes} {kind : MutationKind} {v : StoredValue} (hkey : validateBytes key = true)
    (hkeys : ∀ j < s.mutationCount, j ≠ idx → (s.mutations j).key ≠ key)
    (hcarries : ∀ m : MutationSlot, m.kind = kind → m.externalValue = false →
      m.valueSize = value.length → m.Carries v)
    (hvalue : v.inlineBytes = value)
    (hcount : s'.mutationCount ≤ cfg.limits.maxTransactionMutations)
    (hbytes : s.stagedValueBytes - held + value.length ≤ cfg.limits.transactionStagingBytes) :
    StagingSound cfg (s'.put idx key value kind (s.stagedValueBytes - held + value.length))
      (Function.update values idx v) := by
  obtain ⟨hidx, hle, hothers, hstaged, hstores⟩ := hvacated
  obtain ⟨t, ht⟩ : ∃ t, t = s'.put idx key value kind (s.stagedValueBytes - held + value.length) :=
    ⟨_, rfl⟩
  have hcount' : t.mutationCount = s'.mutationCount := by rw [ht]; rfl
  have hslot : t.mutations idx = { s'.mutations idx with
      valueOffset := s'.stagedValueBytes, valueSize := value.length, key := key, kind := kind,
      externalValue := false, externalValueRef := .blank } := by
    rw [ht]
    exact StagingArea.put_mutations_self ..
  have hother : ∀ j, j ≠ idx → t.mutations j = s'.mutations j := fun j hj => by
    rw [ht]
    exact StagingArea.put_mutations_of_ne _ hj ..
  have hkept : ∀ j < t.mutationCount, j ≠ idx →
      j < s.mutationCount ∧ (s.mutations j).SameBut (t.mutations j) := fun j hj hne => by
    rw [hother j hne]
    exact hothers j (hcount' ▸ hj) hne
  have hkeyOf : ∀ j < t.mutationCount, j ≠ idx → (t.mutations j).key = (s.mutations j).key :=
    fun j hj hne => (hkept j hj hne).2.key_eq
  have hmem : ∀ j, j ≠ idx → (j ∈ t.inlineSlots ↔ j ∈ s.inlineSlots) := fun j hne => by
    have hcarried : j < t.mutationCount →
        (t.mutations j).externalValue = (s.mutations j).externalValue ∧
          (t.mutations j).valueSize = (s.mutations j).valueSize := fun hj =>
      ⟨(hkept j hj hne).2.externalValue_eq, (hkept j hj hne).2.valueSize_eq⟩
    constructor
    · rintro ⟨hj, hinline, hpos⟩
      obtain ⟨hexternal, hsize⟩ := hcarried hj
      exact ⟨(hkept j hj hne).1, hexternal ▸ hinline, hsize ▸ hpos⟩
    · rintro ⟨hj, hinline, hpos⟩
      have hj' : j < t.mutationCount := hcount' ▸ lt_of_lt_of_le hj hle
      obtain ⟨hexternal, hsize⟩ := hcarried hj'
      exact ⟨hj', hexternal.trans hinline, hsize ▸ hpos⟩
  have hself : idx ∈ t.inlineSlots ↔ value ≠ [] := by
    unfold StagingArea.inlineSlots
    rw [Set.mem_ofPred_eq, hslot, hcount']
    simp [hidx, List.length_pos_iff]
  have hmemory : t.transactionStaging = write s'.transactionStaging s'.stagedValueBytes value := by
    rw [ht]
    rfl
  have hused : t.stagedValueBytes = s'.stagedValueBytes + value.length := by
    rw [ht, hstaged]
    rfl
  have hextent : ∀ j ∈ s.inlineSlots \ {idx}, t.extent j = s'.extent j := fun j hj => by
    unfold StagingArea.extent
    rw [hother j hj.2]
  have hvalues : ∀ j ∈ s.inlineSlots \ {idx},
      (Function.update values idx v j).inlineBytes = (values j).inlineBytes := fun j hj => by
    rw [Function.update_of_ne hj.2]
  rw [← ht]
  refine ⟨fun i hi => ?_, fun i hi j hj hij => ?_, fun i hi => ?_, ?_, ?_, ?_⟩
  · by_cases hne : i = idx
    · rw [hne, hslot]
      exact hkey
    · rw [hkeyOf i hi hne]
      exact h.valid i (hkept i hi hne).1
  · by_cases hne : i = idx
    · by_cases hne' : j = idx
      · rw [hne, hne']
      · rw [hne, hslot, hkeyOf j hj hne'] at hij
        exact absurd hij.symm (hkeys j (hkept j hj hne').1 hne')
    · by_cases hne' : j = idx
      · rw [hne', hslot, hkeyOf i hi hne] at hij
        exact absurd hij (hkeys i (hkept i hi hne).1 hne)
      · rw [hkeyOf i hi hne, hkeyOf j hj hne'] at hij
        exact h.distinct i (hkept i hi hne).1 j (hkept j hj hne').1 hij
  · by_cases hne : i = idx
    · rw [hne, Function.update_self, hslot]
      exact hcarries _ rfl rfl rfl
    · obtain ⟨hi', hsame⟩ := hkept i hi hne
      rw [Function.update_of_ne hne]
      exact hsame.carries (h.carries i hi')
  · by_cases hempty : value = []
    · rw [hmemory, hused, hempty, write_nil]
      refine hstores.congr (Set.ext fun j => ?_) hextent hvalues
      by_cases hne : j = idx
      · rw [hne, hself]
        simp [hempty]
      · rw [hmem j hne]
        simp [hne]
    · rw [hmemory, hused]
      have happended := hstores.append (fun hmem' => hmem'.2 rfl) hempty hextent
        (by unfold StagingArea.extent; rw [hslot]) hvalues (by rw [Function.update_self, hvalue])
      refine happended.congr (Set.ext fun j => ?_) (fun _ _ => rfl) fun _ _ => rfl
      by_cases hne : j = idx
      · rw [hne, hself]
        simp [hempty]
      · rw [hmem j hne]
        simp [hne]
  · rw [hcount']
    exact hcount
  · rw [hused, hstaged]
    exact hbytes

end StagingSound

end On9kvdb
