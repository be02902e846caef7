import On9kvdb.Lib.Versions

/-!
# Condensing versions

A merge takes the versions of one key after the other, in key order, and keeps of each key the
newest one, unless that is dead.  `Condenses` is its invariant: how the versions kept so far account
for those that have been taken.  When nothing is left, the kept versions have the meaning of all of
them (`Says.condensed`).
-/

namespace Versions

variable {K V B : Type} [LinearOrder K] {all remaining out : Set (Version K V)} {k : K}
  {u v e : Version K V}

/-! ## What is left -/

/-- What is left are the versions of the greatest keys. -/
structure Behind (all remaining : Set (Version K V)) : Prop where
  subset : remaining ⊆ all
  before : ∀ u ∈ all, u ∉ remaining → ∀ v ∈ remaining, u.key < v.key

/-- The versions of the other keys. -/
def without (k : K) (S : Set (Version K V)) : Set (Version K V) := {v | v ∈ S ∧ v.key ≠ k}

lemma Behind.start : Behind all all := ⟨fun _ hv => hv, fun _ hu hnot => absurd hu hnot⟩

/-- The newest version of a key that is left is the newest one of all. -/
lemma Behind.newest (h : Behind all remaining) (hv : Newest remaining k v) : Newest all k v := by
  refine ⟨h.subset hv.mem, hv.key, fun u hu hkey => ?_⟩
  by_cases hleft : u ∈ remaining
  · exact hv.latest u hleft hkey
  · have hlt := h.before u hu hleft v hv.mem
    rw [hkey, hv.key] at hlt
    exact absurd hlt (lt_irrefl k)

/-- The smallest key is taken. -/
lemma Behind.without (h : Behind all remaining) (hleast : ∀ u ∈ remaining, k ≤ u.key) :
    Behind all (without k remaining) := by
  refine ⟨fun v hv => h.subset hv.1, fun u hu hnot v hv => ?_⟩
  by_cases hleft : u ∈ remaining
  · have hkey : u.key = k := by
      by_contra hne
      exact hnot ⟨hleft, hne⟩
    rw [hkey]
    exact lt_of_le_of_ne (hleast v hv.1) (Ne.symm hv.2)
  · exact h.before u hu hleft v hv.1

/-! ## What has been kept -/

/-- `out` accounts for the versions that are no longer in `remaining`. -/
structure Condenses (Live : V → Prop) (Moved : V → V → Prop) (all remaining out : Set (Version K V)) :
    Prop where
  origin : ∀ e ∈ out, ∃ v, Newest all e.key v ∧ v.sequence = e.sequence ∧ Moved v.value e.value
  complete : ∀ k v, Newest all k v → (∀ u ∈ remaining, u.key ≠ k) → Live v.value →
    ∃ e ∈ out, e.key = k
  distinct : ∀ e ∈ out, ∀ e' ∈ out, e.key = e'.key → e = e'
  before : ∀ e ∈ out, ∀ v ∈ remaining, e.key < v.key

section
variable {Live : V → Prop} {Moved Moved' : V → V → Prop}

lemma Condenses.start : Condenses Live Moved all all ∅ where
  origin e he := absurd he (Set.notMem_empty e)
  complete _ v hv hnone _ := absurd hv.key (hnone v hv.mem)
  distinct e he := absurd he (Set.notMem_empty e)
  before e he := absurd he (Set.notMem_empty e)

lemma Condenses.mono (h : Condenses Live Moved all remaining out)
    (hmoved : ∀ e ∈ out, ∀ v, Moved v e.value → Moved' v e.value) :
    Condenses Live Moved' all remaining out where
  origin e he := by
    obtain ⟨v, hv, hsequence, hvalue⟩ := h.origin e he
    exact ⟨v, hv, hsequence, hmoved e he _ hvalue⟩
  complete := h.complete
  distinct := h.distinct
  before := h.before

/-- A key whose newest version is dead leaves nothing behind. -/
lemma Condenses.drop (h : Condenses Live Moved all remaining out) (hall : Unambiguous all)
    (hbehind : Behind all remaining) (hv : Newest remaining k v) (hdead : ¬Live v.value) :
    Condenses Live Moved all (without k remaining) out where
  origin := h.origin
  complete k' v' hv' hnone hlive := by
    by_cases hkey : k' = k
    · rw [hkey] at hv'
      rw [(hbehind.newest hv).unique hall hv'] at hdead
      exact absurd hlive hdead
    · refine h.complete k' v' hv' (fun u hu hu' => ?_) hlive
      exact hnone u ⟨hu, fun heq => hkey (hu'.symm.trans heq)⟩ hu'
  distinct := h.distinct
  before e he v hv := h.before e he v hv.1

/-- **One key more**: its newest version is kept, moved or as it is. -/
lemma Condenses.emit (h : Condenses Live Moved all remaining out)
    (hbehind : Behind all remaining) (hv : Newest remaining k v)
    (hleast : ∀ u ∈ remaining, k ≤ u.key) (hkey : e.key = k) (hsequence : v.sequence = e.sequence)
    (hmoved : Moved v.value e.value) :
    Condenses Live Moved all (without k remaining) (insert e out) where
  origin e' he' := by
    rcases he' with rfl | he'
    · exact ⟨v, by rw [hkey]; exact hbehind.newest hv, hsequence, hmoved⟩
    · exact h.origin e' he'
  complete k' v' hv' hnone hlive := by
    by_cases hk' : k' = k
    · exact ⟨e, Set.mem_insert e out, hkey.trans hk'.symm⟩
    · obtain ⟨e', he', heq⟩ := h.complete k' v' hv' (fun u hu hu' =>
        hnone u ⟨hu, fun heq => hk' (hu'.symm.trans heq)⟩ hu') hlive
      exact ⟨e', Set.mem_insert_of_mem e he', heq⟩
  distinct e₁ he₁ e₂ he₂ hsame := by
    have hfresh : ∀ e' ∈ out, e'.key ≠ e.key := fun e' he' heq => by
      have hlt := h.before e' he' v hv.mem
      rw [heq, hkey, hv.key] at hlt
      exact lt_irrefl k hlt
    rcases he₁ with rfl | he₁ <;> rcases he₂ with rfl | he₂
    · rfl
    · exact absurd hsame.symm (hfresh e₂ he₂)
    · exact absurd hsame (hfresh e₁ he₁)
    · exact h.distinct e₁ he₁ e₂ he₂ hsame
  before e' he' u hu := by
    rcases he' with rfl | he'
    · rw [hkey]
      exact lt_of_le_of_ne (hleast u hu.1) (Ne.symm hu.2)
    · exact h.before e' he' u hu.1

/-- **What is left at the end has the meaning of all.** -/
theorem Says.condensed {Means Means' : V → Option B → Prop} {o : Option B}
    (h : Condenses Live Moved all ∅ out) (hall : Unambiguous all)
    (hmoved : ∀ e ∈ out, ∀ v o, Moved v e.value → Means v o → Means' e.value o)
    (hdead : ∀ v ∈ all, ∀ o, ¬Live v.value → Means v.value o → o = none)
    (htold : Says Means all k o) : Says Means' out k o := by
  cases htold with
  | absent habsent =>
      refine .absent fun e he hkey => ?_
      obtain ⟨v, hv, -⟩ := h.origin e he
      exact habsent v hv.mem (hv.key.trans hkey)
  | @newest v _ hv hmeans =>
      by_cases hkept : ∃ e ∈ out, e.key = k
      · obtain ⟨e, he, hkey⟩ := hkept
        obtain ⟨v', hv', -, hvalue⟩ := h.origin e he
        rw [hkey] at hv'
        rw [hv'.unique hall hv] at hvalue
        refine .newest ⟨he, hkey, fun u hu hu' => ?_⟩ (hmoved e he _ _ hvalue hmeans)
        rw [h.distinct u hu e he (hu'.trans hkey.symm)]
      · have hnone : o = none := by
          refine hdead v hv.mem o (fun hlive => hkept ?_) hmeans
          exact h.complete k v hv (fun u hu => absurd hu (Set.notMem_empty u)) hlive
        rw [hnone]
        exact .absent fun e he hkey => hkept ⟨e, he, hkey⟩

end

end Versions
