import On9kvdb.Arena.Staging
import On9kvdb.Token.FailedSet

/-!
# The staging overlay

A transaction in progress covers the committed state: a key it has staged answers with the value
staged last, any other key with its committed version.  `staging_overlay` proves it for every
sequence of calls on one transaction, failed ones included, with anything that happens to the rest
of the instance in between.  One thing reaches into the staged values from outside: a compaction
copies the staged external values to the other value bank and rewrites their descriptors.
-/

namespace On9kvdb

open PackedArena Exceptional

/-- The value last staged for each key. -/
abbrev Overlay := Bytes → Option StoredValue

/-- What a staged value of each kind stands for. -/
def MutationKind.value : MutationKind → Bytes → StoredValue
  | .set, bytes => .inline bytes
  | .tombstone, _ => .tombstone

/-- A staging area within its limits that shows the values of an overlay. -/
def Shows (cfg : Config) (s : StagingArea) (overlay : Overlay) : Prop :=
  ∃ values, StagingSound cfg s values ∧ ∀ key, overlay key = (s.findStagedMutationUnsafe key).map values

/-! ## Calls -/

/-- The calls that stage something: `set` with an inline value, or the end of an inline writer; the
end of a progressive write of an external value, by `set` or by a writer; `erase_key`. -/
inductive StagingCall
  | set (key value : Bytes)
  | finish (key : Bytes) (reference : ValueRef)
  | erase (key : Bytes)

/-- The key a call stages. -/
def StagingCall.key : StagingCall → Bytes
  | .set key _ => key
  | .finish key _ => key
  | .erase key => key

/-- What a call stages for its key. -/
def StagingCall.value : StagingCall → StoredValue
  | .set _ value => .inline value
  | .finish _ reference => .external reference
  | .erase _ => .tombstone

/-- A result that replaces the area, or an error that leaves it. -/
def settle (s : StagingArea) : Except EspErr StagingArea → Except EspErr Unit × StagingArea
  | .ok s => (.ok (), s)
  | .error e => (.error e, s)

/-- A call with the instance around the area and the committed answers at that moment. -/
def StagingArea.perform (cfg : Config) (db : Db) (raw : ℕ)
    (committed : Bytes → Except EspErr ValueView) (s : StagingArea) :
    StagingCall → Except EspErr Unit × StagingArea
  | .set key value => settle s (s.stageValueUnsafe cfg db raw key value .set)
  | .finish key reference => s.stageExternalValueUnsafe cfg db raw key reference
  | .erase key => settle s (s.eraseKey cfg db raw committed key)

/-- How a compaction places a staged value: the copy has the size of the original. -/
structure DescriptorCopy where
  place : ValueRef → ValueRef
  valueSize_place : ∀ r, (place r).valueSize = r.valueSize

/-- A value whose descriptor has moved. -/
def DescriptorCopy.relocate (c : DescriptorCopy) : StoredValue → StoredValue
  | .external r => .external (c.place r)
  | v => v

/-- What happens to a staging area: calls, each with whatever the rest of the instance has become,
and compactions. -/
inductive StagingEvent
  | call (db : Db) (committed : Bytes → Except EspErr ValueView) (c : StagingCall)
  | compaction (copy : Bytes → DescriptorCopy)

/-- The overlay behind a call: a call that succeeded has staged its value. -/
def Overlay.after (overlay : Overlay) (c : StagingCall) : Except EspErr Unit → Overlay
  | .ok _ => Function.update overlay c.key (some c.value)
  | .error _ => overlay

/-- The area behind an event, and the overlay that its callers expect. -/
def stagingStep (cfg : Config) (raw : ℕ) : StagingArea × Overlay → StagingEvent →
    StagingArea × Overlay
  | (s, overlay), .call db committed c =>
      let (result, s) := s.perform cfg db raw committed c
      (s, overlay.after c result)
  | (s, overlay), .compaction copy =>
      (s.relocateStaged fun key => (copy key).place, fun key => (overlay key).map (copy key).relocate)

/-- The area and the overlay behind a sequence of events of a new transaction. -/
def stagingRun (cfg : Config) (raw : ℕ) (transactionStaging : ℕ → UInt8)
    (events : List StagingEvent) : StagingArea × Overlay :=
  events.foldl (stagingStep cfg raw) (.fresh transactionStaging, fun _ => none)

variable {cfg : Config} {db : Db} {raw : ℕ} {s s' : StagingArea} {values : ℕ → StoredValue}
  {overlay : Overlay} {key value : Bytes} {kind : MutationKind} {reference : ValueRef}

/-! ## One staged value -/

/-- A tombstone is staged without a value. -/
lemma MutationKind.carries (hkind : kind = .tombstone → value = []) (m : MutationSlot)
    (hm : m.kind = kind) (hexternal : m.externalValue = false)
    (hsize : m.valueSize = value.length) : m.Carries (kind.value value) := by
  cases kind with
  | set => exact ⟨hm, hexternal, hsize⟩
  | tombstone =>
      rw [hkind rfl] at hsize
      exact ⟨hm, hexternal, hsize⟩

lemma MutationKind.inlineBytes_value (hkind : kind = .tombstone → value = []) :
    (kind.value value).inlineBytes = value := by
  cases kind with
  | set => rfl
  | tombstone => exact (hkind rfl).symm

/-- The slot a staged key ends up in, and the slots beside it. -/
structure StagedAt (s s' : StagingArea) (key : Bytes) (idx : ℕ) : Prop where
  idx_lt : idx < s'.mutationCount
  key_eq : (s'.mutations idx).key = key
  count_le : s.mutationCount ≤ s'.mutationCount
  others : ∀ j < s'.mutationCount, j ≠ idx →
    j < s.mutationCount ∧ (s.mutations j).SameBut (s'.mutations j)
  old : idx < s.mutationCount → (s.mutations idx).key = key

/-- The guards of `stage_value_unsafe` passed, and what it did then. -/
lemma stageValueUnsafe_ok (hok : s.stageValueUnsafe cfg db raw key value kind = .ok s') :
    validateBytes key = true ∧ (∃ handle, getTransactionUnsafe cfg db raw = .ok handle) ∧
    s.stagedValueBytes - s.oldValueSize key + value.length ≤ cfg.limits.transactionStagingBytes ∧
    (s.findStagedMutationUnsafe key = none →
      s.mutationCount < cfg.limits.maxTransactionMutations) ∧
    s' = (s.vacated key).put (s.slotOf key) key value kind
      (s.stagedValueBytes - s.oldValueSize key + value.length) := by
  unfold StagingArea.stageValueUnsafe at hok
  obtain ⟨_, hvalid, hok⟩ := bind_eq_ok.mp hok
  obtain ⟨handle, htransaction, hok⟩ := bind_eq_ok.mp hok
  obtain ⟨_, hbytes, hok⟩ := bind_eq_ok.mp hok
  obtain ⟨_, hcount, hok⟩ := bind_eq_ok.mp hok
  rw [rejectIf_eq_ok] at hvalid hbytes hcount
  rw [not_or, Bool.not_eq_false] at hvalid
  refine ⟨hvalid.1, ⟨handle, htransaction⟩, not_lt.mp hbytes, fun hnone => ?_, ?_⟩
  · by_contra hle
    exact hcount ⟨hnone, not_lt.mp hle⟩
  · cases hok
    rfl

/-- **Staging a value keeps the area sound and puts the value into the slot of its key.** -/
theorem StagingSound.stageValue (h : StagingSound cfg s values)
    (hkind : kind = .tombstone → value = [])
    (hok : s.stageValueUnsafe cfg db raw key value kind = .ok s') :
    StagedAt s s' key (s.slotOf key) ∧
      StagingSound cfg s' (Function.update values (s.slotOf key) (kind.value value)) := by
  obtain ⟨hvalid, -, hbytes, hcount, rfl⟩ := stageValueUnsafe_ok hok
  have hvacated := h.vacate key
  have hother : ∀ j < s.mutationCount, j ≠ s.slotOf key → (s.mutations j).key ≠ key :=
    fun j hj hne hkey => by
      unfold StagingArea.slotOf at hne
      rw [h.find_eq_some.mpr ⟨hj, hkey⟩] at hne
      exact hne rfl
  have hlimit : (s.vacated key).mutationCount ≤ cfg.limits.maxTransactionMutations := by
    unfold StagingArea.vacated
    cases hfind : s.findStagedMutationUnsafe key with
    | some idx =>
        have hsame : (s.vacate (some idx)).2.mutationCount = s.mutationCount := by
          unfold StagingArea.vacate
          dsimp only
          split_ifs <;> rfl
        rw [hsame]
        exact h.count_le
    | none => exact hcount hfind
  have hput := h.put hvacated hvalid hother (MutationKind.carries hkind)
    (MutationKind.inlineBytes_value hkind) hlimit hbytes
  refine ⟨⟨hvacated.idx_lt, ?_, hvacated.count_le, fun j hj hne => ?_, fun hlt => ?_⟩, hput⟩
  · rw [StagingArea.put_mutations_self]
  · rw [StagingArea.put_mutations_of_ne _ hne]
    exact hvacated.others j hj hne
  · unfold StagingArea.slotOf at hlt ⊢
    cases hfind : s.findStagedMutationUnsafe key with
    | some idx => exact (h.find_eq_some.mp hfind).2
    | none =>
        rw [hfind] at hlt
        exact absurd hlt (lt_irrefl _)

/-- The slot of a staged key takes over the key; the other keys keep their slots. -/
lemma StagedAt.shows {idx : ℕ} (hat : StagedAt s s' key idx) (h : StagingSound cfg s values)
    {v : StoredValue} (h' : StagingSound cfg s' (Function.update values idx v))
    (hshown : ∀ k, overlay k = (s.findStagedMutationUnsafe k).map values) :
    Shows cfg s' (Function.update overlay key (some v)) := by
  refine ⟨_, h', fun k => ?_⟩
  by_cases hk : k = key
  · subst hk
    rw [Function.update_self, h'.find_eq_some.mpr ⟨hat.idx_lt, hat.key_eq⟩, Option.map_some,
      Function.update_self]
  · rw [Function.update_of_ne hk, hshown]
    have hsame : s'.findStagedMutationUnsafe k = s.findStagedMutationUnsafe k := by
      refine Option.ext fun j => ?_
      rw [h'.find_eq_some, h.find_eq_some]
      constructor
      · rintro ⟨hj, hkey⟩
        have hne : j ≠ idx := fun heq => hk (by rw [← hkey, heq, hat.key_eq])
        obtain ⟨hj', hslot⟩ := hat.others j hj hne
        exact ⟨hj', by rw [← hslot.key_eq, hkey]⟩
      · rintro ⟨hj, hkey⟩
        have hne : j ≠ idx := fun heq => hk (by rw [← hkey, heq, hat.old (heq ▸ hj)])
        have hj' : j < s'.mutationCount := lt_of_lt_of_le hj hat.count_le
        exact ⟨hj', by rw [(hat.others j hj' hne).2.key_eq, hkey]⟩
    rw [hsame]
    cases hfind : s.findStagedMutationUnsafe k with
    | none => rfl
    | some j =>
        obtain ⟨hj, hkey⟩ := h.find_eq_some.mp hfind
        have hne : j ≠ idx := fun heq => hk (by rw [← hkey, heq, hat.old (heq ▸ hj)])
        rw [Option.map_some, Option.map_some, Function.update_of_ne hne]

lemma Shows.stageValue (h : Shows cfg s overlay) (hkind : kind = .tombstone → value = [])
    (hok : s.stageValueUnsafe cfg db raw key value kind = .ok s') :
    Shows cfg s' (Function.update overlay key (some (kind.value value))) := by
  obtain ⟨values, hsound, hshown⟩ := h
  obtain ⟨hat, hsound'⟩ := hsound.stageValue hkind hok
  exact hat.shows hsound hsound' hshown

/-! ## Descriptors -/

/-- Turning an empty value into a descriptor. -/
lemma StagingSound.describe (h : StagingSound cfg s values) {idx : ℕ} (hidx : idx < s.mutationCount)
    (hempty : values idx = .inline []) (reference : ValueRef) :
    StagingSound cfg (s.describe idx reference)
      (Function.update values idx (.external reference)) := by
  obtain ⟨hkind, hinline, hsize⟩ : (s.mutations idx).Carries (.inline []) :=
    hempty ▸ h.carries idx hidx
  have hslot := s.describe_mutations_self idx reference
  have hother : ∀ j, j ≠ idx → (s.describe idx reference).mutations j = s.mutations j :=
    fun j hj => s.describe_mutations_of_ne hj reference
  have hkeyOf : ∀ j, ((s.describe idx reference).mutations j).key = (s.mutations j).key :=
    fun j => by
      by_cases hne : j = idx
      · rw [hne, hslot]
      · rw [hother j hne]
  have hfree : idx ∉ s.inlineSlots := fun hmem => by
    have hpos := hmem.2.2
    rw [hsize] at hpos
    exact absurd hpos (Nat.lt_irrefl 0)
  have hslots : (s.describe idx reference).inlineSlots = s.inlineSlots := by
    refine Set.ext fun j => ?_
    by_cases hne : j = idx
    · subst hne
      refine iff_of_false (fun hmem => ?_) hfree
      have hexternal := hmem.2.1
      rw [hslot] at hexternal
      cases hexternal
    · unfold StagingArea.inlineSlots
      rw [Set.mem_ofPred_eq, hother j hne]
      rfl
  refine ⟨fun i hi => ?_, fun i hi j hj hij => ?_, fun i hi => ?_, ?_, h.count_le, h.bytes_le⟩
  · rw [hkeyOf]
    exact h.valid i hi
  · rw [hkeyOf, hkeyOf] at hij
    exact h.distinct i hi j hj hij
  · by_cases hne : i = idx
    · rw [hne, Function.update_self, hslot]
      exact ⟨hkind, rfl, rfl, rfl⟩
    · rw [Function.update_of_ne hne, hother i hne]
      exact h.carries i hi
  · refine h.stores.congr hslots (fun j hj => ?_) fun j hj => ?_
    · have hne : j ≠ idx := fun heq => hfree (heq ▸ hj)
      unfold StagingArea.extent
      rw [hother j hne]
    · have hne : j ≠ idx := fun heq => hfree (heq ▸ hj)
      rw [Function.update_of_ne hne]

/-- **Staging a descriptor puts it into the slot of its key, or changes nothing.** -/
theorem Shows.stageExternalValue (h : Shows cfg s overlay) (db : Db) (raw : ℕ) (key : Bytes)
    (reference : ValueRef) :
    Shows cfg (s.stageExternalValueUnsafe cfg db raw key reference).2
      (overlay.after (.finish key reference)
        (s.stageExternalValueUnsafe cfg db raw key reference).1) := by
  unfold StagingArea.stageExternalValueUnsafe
  split_ifs with hbank
  · exact h
  cases hstage : s.stageValueUnsafe cfg db raw key [] .set with
  | error e => exact h
  | ok staged =>
      obtain ⟨values, hsound, hshown⟩ := h
      obtain ⟨-, ⟨handle, htransaction⟩, -⟩ := stageValueUnsafe_ok hstage
      obtain ⟨hat, hstaged⟩ := hsound.stageValue (fun _ => rfl) hstage
      have hfind := hstaged.find_eq_some.mpr ⟨hat.idx_lt, hat.key_eq⟩
      simp only [htransaction, hfind]
      have hdescribed := hstaged.describe hat.idx_lt (Function.update_self ..) reference
      rw [Function.update_idem] at hdescribed
      have hslot : ∀ j, ((staged.describe (s.slotOf key) reference).mutations j).key =
          (staged.mutations j).key := fun j => by
        by_cases hne : j = s.slotOf key
        · rw [hne, StagingArea.describe_mutations_self]
        · rw [StagingArea.describe_mutations_of_ne _ hne]
      have hat' : StagedAt s (staged.describe (s.slotOf key) reference) key (s.slotOf key) :=
        ⟨hat.idx_lt, (hslot _).trans hat.key_eq, hat.count_le, fun j hj hne => by
          rw [StagingArea.describe_mutations_of_ne _ hne]
          exact hat.others j hj hne, hat.old⟩
      exact hat'.shows hsound hdescribed hshown

/-- **A compaction moves the staged descriptors and nothing else.** -/
theorem Shows.relocateStaged (h : Shows cfg s overlay) (copy : Bytes → DescriptorCopy) :
    Shows cfg (s.relocateStaged fun key => (copy key).place)
      fun key => (overlay key).map (copy key).relocate := by
  obtain ⟨values, hsound, hshown⟩ := h
  obtain ⟨t, ht⟩ : ∃ t, t = s.relocateStaged fun key => (copy key).place := ⟨_, rfl⟩
  have hslot : ∀ i, t.mutations i = if i < s.mutationCount ∧ (s.mutations i).externalValue = true
      then { s.mutations i with
        externalValueRef := (copy (s.mutations i).key).place (s.mutations i).externalValueRef }
      else s.mutations i := fun i => by
    rw [ht]
    rfl
  have hkeyOf : ∀ i, (t.mutations i).key = (s.mutations i).key := fun i => by
    rw [hslot]
    split_ifs <;> rfl
  have hcount : t.mutationCount = s.mutationCount := by rw [ht]; rfl
  have hinline : ∀ i, (s.mutations i).externalValue = false → t.mutations i = s.mutations i :=
    fun i hi => by rw [hslot, if_neg fun hboth => by rw [hi] at hboth; exact absurd hboth.2 (by simp)]
  have hexternalOf : ∀ i, (t.mutations i).externalValue = (s.mutations i).externalValue :=
    fun i => by
      rw [hslot]
      split_ifs <;> rfl
  have hslots : t.inlineSlots = s.inlineSlots := by
    refine Set.ext fun i => ?_
    unfold StagingArea.inlineSlots
    rw [Set.mem_ofPred_eq, Set.mem_ofPred_eq, hexternalOf, hcount]
    refine and_congr_right fun _ => and_congr_right fun hi => ?_
    rw [hinline i hi]
  rw [← ht]
  have hsound' : StagingSound cfg t fun i => (copy (s.mutations i).key).relocate (values i) := by
    refine ⟨fun i hi => ?_, fun i hi j hj hij => ?_, fun i hi => ?_, ?_, ?_, ?_⟩
    · rw [hkeyOf]
      exact hsound.valid i (hcount ▸ hi)
    · rw [hkeyOf, hkeyOf] at hij
      exact hsound.distinct i (hcount ▸ hi) j (hcount ▸ hj) hij
    · rw [hcount] at hi
      have hcarries := hsound.carries i hi
      cases hvalue : values i with
      | external r =>
          rw [hvalue] at hcarries
          obtain ⟨hkind, hexternal, href, hsize⟩ := hcarries
          rw [hslot, if_pos ⟨hi, hexternal⟩]
          refine ⟨hkind, hexternal, congrArg _ href, ?_⟩
          rw [(copy (s.mutations i).key).valueSize_place]
          exact hsize
      | tombstone =>
          rw [hvalue] at hcarries
          rw [hinline i hcarries.2.1]
          exact hcarries
      | «inline» bytes =>
          rw [hvalue] at hcarries
          rw [hinline i hcarries.2.1]
          exact hcarries
    · have hbytes : t.stagedValueBytes = s.stagedValueBytes := by rw [ht]; rfl
      have hmemory : t.transactionStaging = s.transactionStaging := by rw [ht]; rfl
      rw [hbytes, hmemory]
      refine hsound.stores.congr hslots (fun i hi => ?_) fun i _ => ?_
      · unfold StagingArea.extent
        rw [hinline i hi.2.1]
      · cases values i <;> rfl
    · rw [hcount]
      exact hsound.count_le
    · rw [ht]
      exact hsound.bytes_le
  refine ⟨_, hsound', fun k => ?_⟩
  have hsame : t.findStagedMutationUnsafe k = s.findStagedMutationUnsafe k :=
    Option.ext fun j => by
      rw [hsound'.find_eq_some, hsound.find_eq_some, hcount, hkeyOf]
  dsimp only
  rw [hsame, hshown]
  cases hfind : s.findStagedMutationUnsafe k with
  | none => rfl
  | some j =>
      obtain ⟨-, hkey⟩ := hsound.find_eq_some.mp hfind
      rw [Option.map_some, Option.map_some, Option.map_some, hkey]

/-! ## Runs -/

/-- **A call stages its value for its key, or fails and changes nothing.** -/
theorem Shows.perform (h : Shows cfg s overlay) (committed : Bytes → Except EspErr ValueView)
    (c : StagingCall) :
    Shows cfg (s.perform cfg db raw committed c).2
      (overlay.after c (s.perform cfg db raw committed c).1) := by
  cases c with
  | set key value =>
      unfold StagingArea.perform
      dsimp only
      cases hstage : s.stageValueUnsafe cfg db raw key value .set with
      | error e => exact h
      | ok s' => exact h.stageValue (fun hkind => by cases hkind) hstage
  | finish key reference => exact h.stageExternalValue db raw key reference
  | erase key =>
      unfold StagingArea.perform
      dsimp only
      cases herase : s.eraseKey cfg db raw committed key with
      | error e => exact h
      | ok s' =>
          unfold StagingArea.eraseKey at herase
          obtain ⟨_, -, herase⟩ := bind_eq_ok.mp herase
          obtain ⟨_, -, herase⟩ := bind_eq_ok.mp herase
          obtain ⟨_, -, herase⟩ := bind_eq_ok.mp herase
          obtain ⟨_, -, herase⟩ := bind_eq_ok.mp herase
          exact h.stageValue (fun _ => rfl) herase

/-- What every event preserves, every run preserves. -/
lemma stagingRun_shows (cfg : Config) (raw : ℕ) (transactionStaging : ℕ → UInt8)
    (events : List StagingEvent) :
    Shows cfg (stagingRun cfg raw transactionStaging events).1
      (stagingRun cfg raw transactionStaging events).2 := by
  unfold stagingRun
  have hempty : StagingSound cfg (.fresh transactionStaging) fun _ => .tombstone :=
    .fresh transactionStaging
  have hstart : Shows cfg (.fresh transactionStaging) fun _ => none :=
    ⟨_, hempty, fun key => by
      rw [hempty.find_eq_none.mpr fun i hi => absurd hi (Nat.not_lt_zero i)]
      rfl⟩
  generalize StagingArea.fresh transactionStaging = s at hstart ⊢
  generalize (fun _ => none : Overlay) = overlay at hstart ⊢
  induction events generalizing s overlay with
  | nil => exact hstart
  | cons event events ih =>
      rw [List.foldl_cons]
      cases event with
      | call db committed c => exact ih _ _ (hstart.perform committed c)
      | compaction copy => exact ih _ _ (hstart.relocateStaged copy)

/-- **The staging overlay.**  Behind any sequence of calls and compactions, a key answers with what
was last staged for it, and any other key with its committed version; the inline values fill the
first `staged_value_bytes` bytes of the arena without gaps or overlaps; and the limits hold. -/
theorem staging_overlay (cfg : Config) (raw : ℕ) (transactionStaging : ℕ → UInt8)
    (events : List StagingEvent) :
    let s := (stagingRun cfg raw transactionStaging events).1
    let overlay := (stagingRun cfg raw transactionStaging events).2
    (∀ committed key, s.lookupTransactionUnsafe committed key =
      (overlay key).elim (committed key) fun v => .ok ⟨0, v⟩) ∧
    Packed s.inlineSlots s.extent s.stagedValueBytes ∧
    s.stagedValueBytes ≤ cfg.limits.transactionStagingBytes ∧
    (∀ i < s.mutationCount, ∀ j < s.mutationCount,
      (s.mutations i).key = (s.mutations j).key → i = j) ∧
    s.mutationCount ≤ cfg.limits.maxTransactionMutations := by
  obtain ⟨values, hsound, hshown⟩ := stagingRun_shows cfg raw transactionStaging events
  dsimp only
  refine ⟨fun committed key => ?_, hsound.stores.toPacked, hsound.bytes_le, hsound.distinct,
    hsound.count_le⟩
  unfold StagingArea.lookupTransactionUnsafe
  rw [hshown]
  cases hfind : (stagingRun cfg raw transactionStaging events).1.findStagedMutationUnsafe key with
  | none => rfl
  | some idx =>
      obtain ⟨hidx, -⟩ := hsound.find_eq_some.mp hfind
      dsimp only
      rw [hsound.value_eq hidx]
      rfl

/-- A configuration whose value banks hold three chunks, and whose inline values have eight bytes. -/
def crampedConfig : Config where
  geometry := { hostConfig.geometry with
    provisionedSize := 655360, maxLiveBytes := 100, valueBankSize := 20480 }
  limits := { hostConfig.limits with inlineValueBytes := 8 }
  maxValueReaders := 2
  optionalCaches := true
  valid := by decide +kernel
  sizes := by decide
  ranges := by decide
  readers := hostConfig.readers

/-- A transaction that has set a value of nine bytes for one key, and twice for another. -/
def crampedWorld : World :=
  [LifeStep.call .init, .call (.openNamespace [97] .readWrite), .call (.begin 513),
    .call (.set 513 [1] (List.replicate 9 5)), .call (.set 513 [2] (List.replicate 9 5)),
    .call (.set 513 [2] (List.replicate 9 5))].foldl (live crampedConfig)
    (powerOn (provisionedMedia crampedConfig 7) (fun _ => .none) (fun _ => [])
      fun _ => ⟨1, Nat.one_ne_zero⟩)

/-- The fourth value finds the bank full: setting it compacts, and the descriptor staged for the
first key is now that of a copy in the other bank. -/
theorem staged_descriptor_moves :
    lookupTransactionUnsafe crampedConfig crampedWorld.db crampedWorld.dev.current [97] [1] =
      .ok ⟨0, .external ⟨1, 8192, 9, 308501746, 0⟩⟩ ∧
    (exec (perform crampedConfig (.set 513 [2] (List.replicate 9 5))) crampedWorld).1.isOk = true ∧
    lookupTransactionUnsafe crampedConfig
      (exec (perform crampedConfig (.set 513 [2] (List.replicate 9 5))) crampedWorld).2.db
      (exec (perform crampedConfig (.set 513 [2] (List.replicate 9 5))) crampedWorld).2.dev.current
      [97] [1] = .ok ⟨0, .external ⟨2, 8192, 9, 308501746, 1⟩⟩ := by
  decide +kernel

end On9kvdb
