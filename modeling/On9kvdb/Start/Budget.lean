import On9kvdb.Lib.Carve
import On9kvdb.Store.Table

/-!
# The memory budget

`allocate_runtime_memory` carves its tables and buffers from one block and leaves the rest of it as
scratch memory; `minimum_runtime_memory_budget` is what `validate_init_args` asks for.  The minimum
counts the padding of every area, so the areas of the first group always fit.  An index cache and a
lookup buffer are carved on trial behind them, and kept when enough scratch memory remains.  That
test is made before the scratch memory is aligned: behind a lookup buffer of an odd size the budgets
of a small window pass it and are then refused (`carving_succeeds_iff`).
-/

namespace On9kvdb

open Carve

/-! ## Types in memory -/

/-- Size and alignment of a type; `heap_caps_aligned_alloc` is asked for a multiple of 16. -/
structure CType where
  size : ℕ
  alignment : ℕ
  dvd : alignment ∣ 16

namespace CType

def bool : CType := ⟨1, 1, by decide⟩
def uint8 : CType := ⟨1, 1, by decide⟩
def uint16 : CType := ⟨2, 2, by decide⟩
def uint32 : CType := ⟨4, 4, by decide⟩
def uint64 : CType := ⟨8, 8, by decide⟩

def array (t : CType) (n : ℕ) : CType := ⟨t.size * n, t.alignment, t.dvd⟩

lemma aligned (t : CType) : ∃ k, t.alignment = 2 ^ k := by
  obtain ⟨k, -, hk⟩ := (Nat.dvd_prime_pow Nat.prime_two).mp (show t.alignment ∣ 2 ^ 4 from t.dvd)
  exact ⟨k, hk⟩

/-- The alignment of a structure is the greatest of its members'. -/
def structAlignment (members : List CType) : ℕ := members.foldr (fun t a => t.alignment.lcm a) 1

lemma structAlignment_dvd (members : List CType) : structAlignment members ∣ 16 := by
  induction members with
  | nil => exact one_dvd _
  | cons t rest ih => exact Nat.lcm_dvd t.dvd ih

/-- A structure: each member at its next aligned offset, the whole padded to its alignment. -/
def struct (members : List CType) : CType where
  size := alignUp (members.foldl (fun offset t => alignUp offset t.alignment + t.size) 0)
    (structAlignment members)
  alignment := structAlignment members
  dvd := structAlignment_dvd members

end CType

/-- What the compiler decides about the types of the runtime memory. -/
structure Abi where
  uint64 : CType
  namespaceSlot : CType
  handleSlot : CType
  transactionSlot : CType
  memtableBucket : CType
  tableKeyFilterSlot : CType
  valueReaderSlot : CType
  valueWriterSlot : CType
  /-- `table_index_cache_slot`, for `maximum_table_data_blocks` entries. -/
  tableIndexCacheSlot : ℕ → CType
  compactionCursor : CType
  manifestRecord : CType
  valueRef : CType

/-! ## The minimum -/

section Minimum

variable (abi : Abi) (cfg : Config)

/-- `internal_io_bytes`. -/
def internalIoBytes : ℕ := walFrameSize * (3 + cfg.maxValueReaders)

/-- `table_sort_bytes`. -/
def tableSortBytes : ℕ := cfg.memtableEntryCount * 4

/-- `manifest_snapshot_offset`. -/
def manifestSnapshotOffset : ℕ := alignUp abi.manifestRecord.size 16

/-- `manifest_scratch_bytes`. -/
def manifestScratchBytes : ℕ :=
  manifestSnapshotOffset abi + abi.manifestRecord.size + maxTransactionMutations * abi.valueRef.size

/-- `transaction_recovery_overhead`. -/
def transactionRecoveryOverhead : ℕ :=
  8 + maxNameLen + maxTransactionMutations * (32 + maxNameLen)

/-- `minimum_future_scratch_size`. -/
def minimumFutureScratchSize : ℕ :=
  let compactionBytes := tableSortBytes cfg + 2 * cfg.blockBytes +
    cfg.geometry.tableCount / 2 * abi.compactionCursor.size
  if manifestScratchBytes abi < compactionBytes then compactionBytes else manifestScratchBytes abi

/-- `minimum_runtime_memory_budget`. -/
def minimumRuntimeMemoryBudget : ℕ :=
  let arenaBytes :=
    (abi.namespaceSlot.alignment - 1) + abi.namespaceSlot.size * cfg.limits.maxNamespaces +
    (abi.handleSlot.alignment - 1) + abi.handleSlot.size * cfg.limits.maxOpenHandles +
    (abi.transactionSlot.alignment - 1) + abi.transactionSlot.size +
    (abi.valueReaderSlot.alignment - 1) + abi.valueReaderSlot.size * cfg.maxValueReaders +
    (abi.valueWriterSlot.alignment - 1) + abi.valueWriterSlot.size +
    (abi.memtableBucket.alignment - 1) + abi.memtableBucket.size * cfg.memtableEntryCount +
    (abi.uint64.alignment - 1) + cfg.limits.transactionStagingBytes + transactionRecoveryOverhead +
    (abi.uint64.alignment - 1) + cfg.limits.memtableDataBytes +
    (abi.tableKeyFilterSlot.alignment - 1) +
    abi.tableKeyFilterSlot.size * cfg.geometry.tableCount +
    (abi.uint64.alignment - 1) + minimumFutureScratchSize abi cfg
  internalIoBytes cfg + arenaBytes

/-- `runtime_memory_budget_max`. -/
def runtimeMemoryBudgetMax : ℕ := 200 * 1024 - 1

/-- The check of `validate_init_args` on the budget. -/
def budgetAccepted (budget : ℕ) : Prop :=
  minimumRuntimeMemoryBudget abi cfg ≤ budget ∧ budget ≤ runtimeMemoryBudgetMax

instance (budget : ℕ) : Decidable (budgetAccepted abi cfg budget) :=
  inferInstanceAs (Decidable (_ ∧ _))

end Minimum

/-! ## The allocation -/

section Allocation

variable (abi : Abi) (cfg : Config)

/-- A request for `size` bytes aligned as a type. -/
def requestFor (t : CType) (size : ℕ) : Request := ⟨t.alignment, size, t.aligned⟩

/-- The requests that are always made, in their order: `namespaces`, `handles`, `transaction`,
`memtable_index`, `transaction_staging`, `memtable_data`, `table_key_filters`, `value_readers` and
`value_writer`. -/
def mandatoryRequests : List Request :=
  [ requestFor abi.namespaceSlot (abi.namespaceSlot.size * cfg.limits.maxNamespaces),
    requestFor abi.handleSlot (abi.handleSlot.size * cfg.limits.maxOpenHandles),
    requestFor abi.transactionSlot abi.transactionSlot.size,
    requestFor abi.memtableBucket (abi.memtableBucket.size * cfg.memtableEntryCount),
    requestFor abi.uint64 (cfg.limits.transactionStagingBytes + transactionRecoveryOverhead),
    requestFor abi.uint64 cfg.limits.memtableDataBytes,
    requestFor abi.tableKeyFilterSlot (abi.tableKeyFilterSlot.size * cfg.geometry.tableCount),
    requestFor abi.valueReaderSlot (abi.valueReaderSlot.size * cfg.maxValueReaders),
    requestFor abi.valueWriterSlot abi.valueWriterSlot.size ]

/-- `table_index_cache`. -/
def cacheRequest : Request :=
  let slot := abi.tableIndexCacheSlot cfg.maximumDataBlocks
  requestFor slot (slot.size * cfg.geometry.tableCount)

/-- `table_index_cache` and `table_lookup_value`. -/
def optionalRequests : List Request :=
  [cacheRequest abi cfg, requestFor abi.uint64 cfg.inlineValueLen]

/-- What `allocate_runtime_memory` sets up: the areas, and the scratch memory behind them. -/
structure RuntimeMemory where
  areas : List Area
  futureScratch : Area
  deriving DecidableEq

/-- The trial of the optional areas: they are kept when enough remains behind them. -/
def carveOptional (cursor remaining : ℕ) : List Area × ℕ × ℕ :=
  match carveAll cursor remaining (optionalRequests abi cfg) with
  | some (areas, optionalCursor, optionalRemaining) =>
      if minimumFutureScratchSize abi cfg ≤ optionalRemaining then
        (areas, optionalCursor, optionalRemaining)
      else ([], cursor, remaining)
  | none => ([], cursor, remaining)

/-- `allocate_runtime_memory`, with the address of the block that `heap_caps_aligned_alloc` has
returned. -/
def allocateRuntimeMemory (budget runtimeArena : ℕ) : Except EspErr RuntimeMemory :=
  if budget ≤ internalIoBytes cfg then .error .invalidState
  else
    match carveAll runtimeArena (budget - internalIoBytes cfg) (mandatoryRequests abi cfg) with
    | none => .error .invalidSize
    | some (areas, cursor, remaining) =>
        let (optional, cursor, remaining) := carveOptional abi cfg cursor remaining
        match carve cursor remaining (requestFor abi.uint64 0) with
        | none => .error .invalidSize
        | some (scratch, _, remaining) =>
            if remaining < minimumFutureScratchSize abi cfg then .error .invalidSize
            else .ok ⟨areas ++ optional, { scratch with size := remaining }⟩

end Allocation

/-! ## What it sets up -/

section Outcome

variable (abi : Abi) (cfg : Config) (budget runtimeArena : ℕ)

/-- The areas are what was asked for, aligned, in the block and apart from each other, and enough
scratch memory remains. -/
structure RuntimeMemory.Sound (memory : RuntimeMemory) : Prop where
  requested : ∃ optional, (optional = [] ∨ optional = optionalRequests abi cfg) ∧
    memory.areas.map (fun a => (a.alignment, a.size)) =
      (mandatoryRequests abi cfg ++ optional).map fun r => (r.alignment, r.size)
  aligned : ∀ a ∈ memory.areas ++ [memory.futureScratch], a.alignment ∣ a.start
  inside : ∀ a ∈ memory.areas ++ [memory.futureScratch],
    runtimeArena ≤ a.start ∧ a.stop ≤ runtimeArena + (budget - internalIoBytes cfg)
  disjoint : (memory.areas ++ [memory.futureScratch]).Pairwise fun a b => a.stop ≤ b.start
  scratchAligned : memory.futureScratch.alignment = abi.uint64.alignment
  scratchSize : minimumFutureScratchSize abi cfg ≤ memory.futureScratch.size

/-- The smallest budget with which the optional areas are kept. -/
def optionalThreshold : ℕ :=
  internalIoBytes cfg + carvedEnd 0 (mandatoryRequests abi cfg ++ optionalRequests abi cfg) +
    minimumFutureScratchSize abi cfg

/-- The bytes between a lookup buffer and the next aligned address. -/
def scratchPadding : ℕ :=
  (abi.uint64.alignment - cfg.inlineValueLen % abi.uint64.alignment) % abi.uint64.alignment

variable {abi cfg budget runtimeArena}

/-- The minimum covers the areas that are always carved, however they are padded. -/
lemma mandatory_fits (hbudget : minimumRuntimeMemoryBudget abi cfg ≤ budget) :
    internalIoBytes cfg < budget ∧
    alignUp (carvedEnd runtimeArena (mandatoryRequests abi cfg)) abi.uint64.alignment +
      minimumFutureScratchSize abi cfg ≤ runtimeArena + (budget - internalIoBytes cfg) := by
  have hend := carvedEnd_le runtimeArena (mandatoryRequests abi cfg)
  have hscratch : alignUp (carvedEnd runtimeArena (mandatoryRequests abi cfg))
      abi.uint64.alignment ≤ _ := alignUp_le abi.uint64.aligned
  have hoverhead : 0 < transactionRecoveryOverhead := by decide
  revert hend hscratch
  generalize carvedEnd runtimeArena (mandatoryRequests abi cfg) = finish
  intro hend hscratch
  simp only [mandatoryRequests, requestFor, List.map_cons, List.map_nil, List.sum_cons,
    List.sum_nil] at hend
  unfold minimumRuntimeMemoryBudget at hbudget
  dsimp only at hbudget
  -- The paddings as numbers: what each of them is does not matter here.
  generalize abi.namespaceSlot.alignment - 1 = p₁ at *
  generalize abi.handleSlot.alignment - 1 = p₂ at *
  generalize abi.transactionSlot.alignment - 1 = p₃ at *
  generalize abi.memtableBucket.alignment - 1 = p₄ at *
  generalize abi.tableKeyFilterSlot.alignment - 1 = p₅ at *
  generalize abi.valueReaderSlot.alignment - 1 = p₆ at *
  generalize abi.valueWriterSlot.alignment - 1 = p₇ at *
  generalize abi.uint64.alignment - 1 = p₈ at *
  omega

/-- The scratch memory behind a cursor, when enough of it remains. -/
lemma scratch_eq {cursor remaining : ℕ} (areas : List Area) :
    (match carve cursor remaining (requestFor abi.uint64 0) with
      | none => (.error .invalidSize : Except EspErr RuntimeMemory)
      | some (scratch, _, remaining) =>
          if remaining < minimumFutureScratchSize abi cfg then .error .invalidSize
          else .ok ⟨areas, { scratch with size := remaining }⟩) =
      if alignUp cursor abi.uint64.alignment + minimumFutureScratchSize abi cfg ≤
          cursor + remaining then
        .ok ⟨areas, ⟨alignUp cursor abi.uint64.alignment,
          cursor + remaining - alignUp cursor abi.uint64.alignment, abi.uint64.alignment⟩⟩
      else .error .invalidSize := by
  by_cases hfits : alignUp cursor abi.uint64.alignment ≤ cursor + remaining
  · have hcarve : carve cursor remaining (requestFor abi.uint64 0) =
        some (⟨alignUp cursor abi.uint64.alignment, 0, abi.uint64.alignment⟩,
          alignUp cursor abi.uint64.alignment,
          cursor + remaining - alignUp cursor abi.uint64.alignment) :=
      (carve_eq cursor remaining _).trans (if_pos hfits)
    rw [hcarve]
    dsimp only
    by_cases hscratch : alignUp cursor abi.uint64.alignment + minimumFutureScratchSize abi cfg ≤
        cursor + remaining
    · rw [if_neg (by omega), if_pos hscratch]
    · rw [if_pos (by omega), if_neg hscratch]
  · have hcarve : carve cursor remaining (requestFor abi.uint64 0) = none :=
      (carve_eq cursor remaining _).trans (if_neg hfits)
    rw [hcarve, if_neg (by omega)]

/-- When the optional areas are kept. -/
lemma carveOptional_eq (cursor remaining : ℕ) :
    carveOptional abi cfg cursor remaining =
      if carvedEnd cursor (optionalRequests abi cfg) + minimumFutureScratchSize abi cfg ≤
          cursor + remaining then
        (placed cursor (optionalRequests abi cfg), carvedEnd cursor (optionalRequests abi cfg),
          cursor + remaining - carvedEnd cursor (optionalRequests abi cfg))
      else ([], cursor, remaining) := by
  unfold carveOptional
  rw [carveAll_eq]
  by_cases hfits : carvedEnd cursor (optionalRequests abi cfg) ≤ cursor + remaining
  · rw [if_pos hfits]
    dsimp only
    by_cases hkept : carvedEnd cursor (optionalRequests abi cfg) +
        minimumFutureScratchSize abi cfg ≤ cursor + remaining
    · rw [if_pos (by omega), if_pos hkept]
    · rw [if_neg (by omega), if_neg hkept]
  · rw [if_neg hfits, if_neg (by omega)]

/-- Where the carving ends: behind the optional areas when they are kept. -/
def keptRequests (abi : Abi) (cfg : Config) (budget runtimeArena : ℕ) : List Request :=
  if carvedEnd runtimeArena (mandatoryRequests abi cfg ++ optionalRequests abi cfg) +
      minimumFutureScratchSize abi cfg ≤ runtimeArena + (budget - internalIoBytes cfg) then
    mandatoryRequests abi cfg ++ optionalRequests abi cfg
  else mandatoryRequests abi cfg

/-- **What the allocation sets up**, with a budget that was accepted. -/
lemma allocateRuntimeMemory_eq (hbudget : minimumRuntimeMemoryBudget abi cfg ≤ budget) :
    allocateRuntimeMemory abi cfg budget runtimeArena =
      let kept := keptRequests abi cfg budget runtimeArena
      let start := alignUp (carvedEnd runtimeArena kept) abi.uint64.alignment
      let finish := runtimeArena + (budget - internalIoBytes cfg)
      if start + minimumFutureScratchSize abi cfg ≤ finish then
        .ok ⟨placed runtimeArena kept, ⟨start, finish - start, abi.uint64.alignment⟩⟩
      else .error .invalidSize := by
  obtain ⟨hio, hfits⟩ := @mandatory_fits abi cfg budget runtimeArena hbudget
  have hend : carvedEnd runtimeArena (mandatoryRequests abi cfg) ≤
      alignUp (carvedEnd runtimeArena (mandatoryRequests abi cfg)) abi.uint64.alignment :=
    le_alignUp abi.uint64.aligned
  have hinside : carvedEnd runtimeArena (mandatoryRequests abi cfg) ≤
      runtimeArena + (budget - internalIoBytes cfg) := by omega
  unfold allocateRuntimeMemory
  rw [if_neg (by omega), carveAll_eq, if_pos hinside]
  dsimp only
  unfold keptRequests
  rw [carveOptional_eq, Nat.add_sub_cancel' hinside, carvedEnd_append]
  by_cases hkept : carvedEnd (carvedEnd runtimeArena (mandatoryRequests abi cfg))
      (optionalRequests abi cfg) + minimumFutureScratchSize abi cfg ≤
        runtimeArena + (budget - internalIoBytes cfg)
  · rw [if_pos hkept, if_pos hkept]
    dsimp only
    rw [scratch_eq, placed_append, carvedEnd_append, Nat.add_sub_cancel' (by omega)]
  · rw [if_neg hkept, if_neg hkept]
    dsimp only
    rw [scratch_eq, List.append_nil, Nat.add_sub_cancel' hinside]

/-- Whatever was kept, the areas and the scratch memory are sound when enough remains. -/
lemma placed_sound {kept : List Request}
    (hkept : kept = mandatoryRequests abi cfg ∨
      kept = mandatoryRequests abi cfg ++ optionalRequests abi cfg)
    (hscratch : alignUp (carvedEnd runtimeArena kept) abi.uint64.alignment +
      minimumFutureScratchSize abi cfg ≤ runtimeArena + (budget - internalIoBytes cfg)) :
    RuntimeMemory.Sound abi cfg budget runtimeArena
      ⟨placed runtimeArena kept, ⟨alignUp (carvedEnd runtimeArena kept) abi.uint64.alignment,
        runtimeArena + (budget - internalIoBytes cfg) -
          alignUp (carvedEnd runtimeArena kept) abi.uint64.alignment, abi.uint64.alignment⟩⟩ := by
  have hle : carvedEnd runtimeArena kept ≤
      alignUp (carvedEnd runtimeArena kept) abi.uint64.alignment := le_alignUp abi.uint64.aligned
  have hstart := le_carvedEnd runtimeArena kept
  constructor
  · rcases hkept with rfl | rfl
    · exact ⟨[], Or.inl rfl, by rw [List.append_nil, placed_map]⟩
    · exact ⟨_, Or.inr rfl, placed_map _ _⟩
  · intro a ha
    rcases List.mem_append.mp ha with ha | ha
    · exact (mem_placed ha).2.2
    · rw [List.mem_singleton.mp ha]
      exact dvd_alignUp abi.uint64.aligned
  · intro a ha
    rcases List.mem_append.mp ha with ha | ha
    · obtain ⟨hafter, hbefore, -⟩ := mem_placed ha
      exact ⟨hafter, by omega⟩
    · rw [List.mem_singleton.mp ha]
      unfold Area.stop
      dsimp only
      omega
  · refine List.pairwise_append.mpr ⟨placed_pairwise _ _, List.pairwise_singleton .., ?_⟩
    intro a ha b hb
    rw [List.mem_singleton.mp hb]
    exact (mem_placed ha).2.1.trans hle
  · rfl
  · dsimp only
    omega

/-- A lookup buffer begins aligned, so only its size decides where it ends. -/
lemma carvedEnd_optional_mod (cursor : ℕ) :
    carvedEnd cursor (optionalRequests abi cfg) % abi.uint64.alignment =
      cfg.inlineValueLen % abi.uint64.alignment := by
  simp only [optionalRequests, carvedEnd, requestFor]
  rw [Nat.add_mod, Nat.mod_eq_zero_of_dvd (dvd_alignUp abi.uint64.aligned), zero_add, Nat.mod_mod]

lemma requests_dvd (h : 16 ∣ runtimeArena) :
    ∀ r ∈ mandatoryRequests abi cfg ++ optionalRequests abi cfg, r.alignment ∣ runtimeArena := by
  intro r hr
  simp only [mandatoryRequests, optionalRequests, cacheRequest, List.mem_append, List.mem_cons,
    List.not_mem_nil, or_false] at hr
  rcases hr with (rfl | rfl | rfl | rfl | rfl | rfl | rfl | rfl | rfl) | rfl | rfl <;>
    exact (CType.dvd _).trans h

end Outcome

/-- **An accepted budget is refused exactly in a window above the optional areas.**  Outside of it
everything is carved soundly; inside, the optional areas are kept and the padding behind the lookup
buffer takes what the scratch memory needed. -/
theorem carving_succeeds_iff (abi : Abi) (cfg : Config) (budget runtimeArena : ℕ)
    (hbudget : budgetAccepted abi cfg budget) (harena : 16 ∣ runtimeArena) :
    (∃ memory, allocateRuntimeMemory abi cfg budget runtimeArena = .ok memory ∧
      memory.Sound abi cfg budget runtimeArena) ↔
    budget < optionalThreshold abi cfg ∨
      optionalThreshold abi cfg + scratchPadding abi cfg ≤ budget := by
  obtain ⟨hio, hfits⟩ := @mandatory_fits abi cfg budget runtimeArena hbudget.1
  have hend := carvedEnd_add (@requests_dvd abi cfg runtimeArena harena) 0
  have hmod := @carvedEnd_optional_mod abi cfg (carvedEnd runtimeArena (mandatoryRequests abi cfg))
  rw [← carvedEnd_append] at hmod
  have hpadding : alignUp (carvedEnd runtimeArena
      (mandatoryRequests abi cfg ++ optionalRequests abi cfg)) abi.uint64.alignment =
      carvedEnd runtimeArena (mandatoryRequests abi cfg ++ optionalRequests abi cfg) +
        scratchPadding abi cfg := by
    rw [alignUp_padding abi.uint64.aligned, hmod]
    rfl
  have hthreshold : carvedEnd runtimeArena
        (mandatoryRequests abi cfg ++ optionalRequests abi cfg) + minimumFutureScratchSize abi cfg ≤
        runtimeArena + (budget - internalIoBytes cfg) ↔ optionalThreshold abi cfg ≤ budget := by
    rw [add_zero] at hend
    unfold optionalThreshold
    omega
  rw [allocateRuntimeMemory_eq hbudget.1]
  dsimp only
  unfold keptRequests
  by_cases hkept : optionalThreshold abi cfg ≤ budget
  · rw [if_pos (hthreshold.mpr hkept)]
    have hwindow : alignUp (carvedEnd runtimeArena
        (mandatoryRequests abi cfg ++ optionalRequests abi cfg)) abi.uint64.alignment +
        minimumFutureScratchSize abi cfg ≤ runtimeArena + (budget - internalIoBytes cfg) ↔
        optionalThreshold abi cfg + scratchPadding abi cfg ≤ budget := by
      rw [add_zero] at hend
      rw [hpadding]
      unfold optionalThreshold
      omega
    constructor
    · rintro ⟨memory, hmemory, -⟩
      split_ifs at hmemory with hroom
      exact Or.inr (hwindow.mp hroom)
    · intro houtside
      have hroom := hwindow.mpr (houtside.resolve_left (not_lt.mpr hkept))
      rw [if_pos hroom]
      exact ⟨_, rfl, placed_sound (Or.inr rfl) hroom⟩
  · rw [if_neg (mt hthreshold.mp hkept), if_pos hfits]
    exact ⟨fun _ => Or.inl (not_le.mp hkept), fun _ => ⟨_, rfl, placed_sound (Or.inl rfl) hfits⟩⟩

/-! ## A budget that is refused -/

section Layout

open CType

def valueRefType : CType := struct [uint64, uint32, uint32, uint32, uint8]

def compositeKeyType : CType :=
  struct [uint16, uint16, array uint8 maxNameLen, array uint8 maxNameLen]

def mutationSlotType : CType :=
  struct [uint32, uint32, uint32, uint16, uint8, uint8, uint8, bool, valueRefType,
    array uint8 maxNameLen]

def tableReferenceType : CType :=
  struct [bool, uint8, uint32, uint32, uint64, uint64, uint64, uint32, uint32, uint32,
    compositeKeyType, compositeKeyType]

def storageGeometryType : CType :=
  struct [uint64, uint64, uint32, uint32, uint32, uint32, uint32, uint32, uint32, uint32]

/-- The layout of the members as `on9kvdb.hpp` and `on9kvdb_defs.hpp` declare them, where
`uint64_t` is aligned to its size. -/
def naturalAbi : Abi where
  uint64 := CType.uint64
  namespaceSlot := struct [bool, uint16, array uint8 maxNameLen]
  handleSlot := struct [CType.uint64, bool, bool, uint8, uint16, array uint8 maxNameLen]
  transactionSlot := struct [CType.uint64, uint16, CType.uint64, uint16, uint32, bool,
    array mutationSlotType maxTransactionMutations]
  memtableBucket := struct [uint32, uint32, uint32]
  tableKeyFilterSlot := struct [CType.uint64, bool, array uint8 256]
  valueReaderSlot := struct [uint32, CType.uint64, uint32, uint32, uint32, uint32, valueRefType,
    bool, bool, bool]
  valueWriterSlot := struct [CType.uint64, CType.uint64, CType.uint64, uint32, uint32, uint32,
    uint32, uint16, array uint8 maxNameLen, valueRefType, bool, bool]
  tableIndexCacheSlot n := struct [CType.uint64, uint32, bool,
    array (struct [compositeKeyType, uint32]) n]
  compactionCursor := struct [compositeKeyType, CType.uint64, uint32, uint32, uint32, uint32, uint32,
    uint32, valueRefType, uint16, uint16, uint8, uint8, bool]
  manifestRecord := struct [CType.uint64, CType.uint64, uint16, storageGeometryType,
    array uint32 9, uint32, array CType.uint64 2, CType.uint64, CType.uint64, uint32, uint32,
    array CType.uint64 2, array uint32 2, array tableReferenceType maxTableCount]
  valueRef := valueRefType

end Layout

/-- With blocks of at most 64 KiB the minimum is computed without a wrap of `size_t`. -/
lemma minimumRuntimeMemoryBudget_lt (cfg : Config) (hblock : cfg.blockBytes ≤ 2 ^ 16) :
    minimumRuntimeMemoryBudget naturalAbi cfg < 2 ^ 32 := by
  obtain ⟨-, -, hentries, hnamespaces, hhandles, hdata, hstaging⟩ := cfg.ranges
  have hreaders := cfg.readers.2
  have htables : cfg.geometry.tableCount ≤ 16 := by
    have hvalid := cfg.geometry_valid
    simp only [validateStorageGeometry, Bool.and_eq_true, decide_eq_true_eq] at hvalid
    exact hvalid.1.1.1.1.1.1.1.1.1.2
  have hcursor : naturalAbi.compactionCursor.size = 328 := by decide +kernel
  have hmanifest : manifestScratchBytes naturalAbi = 19024 := by decide +kernel
  have hscratch : minimumFutureScratchSize naturalAbi cfg ≤ 2 ^ 20 := by
    unfold minimumFutureScratchSize tableSortBytes
    rw [hcursor, hmanifest]
    dsimp only [Config.memtableEntryCount, Config.blockBytes] at *
    unfold formatAlignment at hentries
    split_ifs <;> omega
  have hsizes : naturalAbi.namespaceSlot.size = 132 ∧ naturalAbi.handleSlot.size = 144 ∧
      naturalAbi.transactionSlot.size = 1800 ∧ naturalAbi.valueReaderSlot.size = 64 ∧
      naturalAbi.valueWriterSlot.size = 208 ∧ naturalAbi.memtableBucket.size = 12 ∧
      naturalAbi.tableKeyFilterSlot.size = 272 := by decide +kernel
  have halignments : naturalAbi.namespaceSlot.alignment = 2 ∧
      naturalAbi.handleSlot.alignment = 8 ∧ naturalAbi.transactionSlot.alignment = 8 ∧
      naturalAbi.valueReaderSlot.alignment = 8 ∧ naturalAbi.valueWriterSlot.alignment = 8 ∧
      naturalAbi.memtableBucket.alignment = 4 ∧ naturalAbi.uint64.alignment = 8 ∧
      naturalAbi.tableKeyFilterSlot.alignment = 8 := by decide +kernel
  have hoverhead : transactionRecoveryOverhead = 1736 := by decide
  obtain ⟨h₁, h₂, h₃, h₄, h₅, h₆, h₇⟩ := hsizes
  obtain ⟨a₁, a₂, a₃, a₄, a₅, a₆, a₇, a₈⟩ := halignments
  unfold minimumRuntimeMemoryBudget internalIoBytes
  dsimp only
  rw [h₁, h₂, h₃, h₄, h₅, h₆, h₇, a₁, a₂, a₃, a₄, a₅, a₆, a₇, a₈, hoverhead]
  dsimp only [Config.memtableEntryCount] at *
  unfold formatAlignment at hentries
  have hframe : walFrameSize = 4096 := rfl
  rw [hframe]
  omega

/-- The host configuration with an inline limit that is no multiple of eight. -/
def oddInlineConfig : Config where
  geometry := hostConfig.geometry
  limits := { hostConfig.limits with inlineValueBytes := 1021 }
  maxValueReaders := 2
  optionalCaches := true
  valid := by decide +kernel
  sizes := by decide
  ranges := by decide
  readers := hostConfig.readers

/-- **A budget that is accepted and refused**, one byte above one that is served. -/
theorem accepted_budget_refused :
    budgetAccepted naturalAbi oddInlineConfig 83501 ∧
    (¬ ∃ memory, allocateRuntimeMemory naturalAbi oddInlineConfig 83501 0x3c000000 = .ok memory ∧
      memory.Sound naturalAbi oddInlineConfig 83501 0x3c000000) ∧
    allocateRuntimeMemory naturalAbi oddInlineConfig 83501 0x3c000000 = .error .invalidSize ∧
    budgetAccepted naturalAbi oddInlineConfig 83500 ∧
    (allocateRuntimeMemory naturalAbi oddInlineConfig 83500 0x3c000000).toOption.isSome = true := by
  have hrefused : allocateRuntimeMemory naturalAbi oddInlineConfig 83501 0x3c000000 =
      .error .invalidSize := by decide +kernel
  refine ⟨by decide +kernel, ?_, hrefused, by decide +kernel, by decide +kernel⟩
  rintro ⟨memory, hmemory, -⟩
  rw [hrefused] at hmemory
  cases hmemory

/-- The budget of the host tests serves their configuration. -/
theorem carving_succeeds_iff_host :
    ∃ memory, allocateRuntimeMemory naturalAbi hostConfig 122880 0x3c000000 = .ok memory ∧
      memory.Sound naturalAbi hostConfig 122880 0x3c000000 :=
  (carving_succeeds_iff naturalAbi hostConfig 122880 0x3c000000 (by decide +kernel)
    (by decide)).mpr (Or.inr (by decide +kernel))

end On9kvdb
