import Mathlib.Tactic

/-!
# Versions

A store that never changes a record in place keeps several versions of a key, each under the
sequence it was written with, and the newest one counts.  `Says S k o` is the meaning of a set of
versions: the newest version of `k` means `o`, or there is none and `o` is `none`.

`Says.override` and `Says.keep` are the meaning of a set in which newer versions have replaced the
ones of their keys.
-/

namespace Versions

variable {K V B : Type}

/-- One version of a key. -/
@[ext]
structure Version (K V : Type) where
  key : K
  sequence : ℕ
  value : V

/-- The newest version of a key. -/
structure Newest (S : Set (Version K V)) (k : K) (v : Version K V) : Prop where
  mem : v ∈ S
  key : v.key = k
  latest : ∀ u ∈ S, u.key = k → u.sequence ≤ v.sequence

/-- No two versions of a key have the same sequence. -/
def Unambiguous (S : Set (Version K V)) : Prop :=
  ∀ u ∈ S, ∀ v ∈ S, u.key = v.key → u.sequence = v.sequence → u = v

/-- What the versions say about a key, when `Means` gives values their meaning. -/
inductive Says (Means : V → Option B → Prop) (S : Set (Version K V)) (k : K) : Option B → Prop
  | absent (h : ∀ v ∈ S, v.key ≠ k) : Says Means S k none
  | newest {v : Version K V} {o : Option B} (h : Newest S k v) (means : Means v.value o) :
      Says Means S k o

section
variable {S T : Set (Version K V)} {k : K} {u v : Version K V}

lemma Newest.unique (hS : Unambiguous S) (hu : Newest S k u) (hv : Newest S k v) : u = v :=
  hS u hu.mem v hv.mem (hu.key.trans hv.key.symm)
    (le_antisymm (hv.latest u hu.mem hu.key) (hu.latest v hv.mem hv.key))

lemma Unambiguous.subset (hS : Unambiguous S) (h : T ⊆ S) : Unambiguous T :=
  fun u hu v hv => hS u (h hu) v (h hv)

/-- Newer versions do not collide with older ones. -/
lemma Unambiguous.union (hS : Unambiguous S) (hT : Unambiguous T) {bound : ℕ}
    (hold : ∀ v ∈ S, v.sequence ≤ bound) (hnew : ∀ v ∈ T, bound < v.sequence) :
    Unambiguous (S ∪ T) := by
  rintro u (hu | hu) v (hv | hv) hkey hsequence
  · exact hS u hu v hv hkey hsequence
  · have h₁ := hold u hu
    have h₂ := hnew v hv
    omega
  · have h₁ := hold v hv
    have h₂ := hnew u hu
    omega
  · exact hT u hu v hv hkey hsequence

/-- In a union of older and newer versions a newer one decides, when there is one. -/
lemma Newest.of_newer (h : Newest T k v) {bound : ℕ} (hold : ∀ v ∈ S, v.sequence ≤ bound)
    (hnew : ∀ v ∈ T, bound < v.sequence) : Newest (S ∪ T) k v where
  mem := .inr h.mem
  key := h.key
  latest := by
    rintro u (hu | hu) hkey
    · exact (hold u hu).trans (hnew v h.mem).le
    · exact h.latest u hu hkey

lemma Newest.of_older (h : Newest S k v) (habsent : ∀ v ∈ T, v.key ≠ k) : Newest (S ∪ T) k v where
  mem := .inl h.mem
  key := h.key
  latest := by
    rintro u (hu | hu) hkey
    · exact h.latest u hu hkey
    · exact absurd hkey (habsent u hu)

end

section
variable {Means : V → Option B → Prop} {S S' : Set (Version K V)} {k : K} {o o' : Option B}

/-- Values with the same meaning may be exchanged. -/
lemma Says.mono {Means' : V → Option B → Prop} (h : Says Means S k o)
    (hmeans : ∀ v ∈ S, v.key = k → Means v.value o → Means' v.value o) : Says Means' S k o := by
  cases h with
  | absent habsent => exact .absent habsent
  | newest hnewest hv => exact .newest hnewest (hmeans _ hnewest.mem hnewest.key hv)

/-- **Newer versions override** the ones of their keys. -/
lemma Says.override {N : Set (Version K V)} {bound : ℕ} (h : Says Means N k o)
    (hk : ∃ n ∈ N, n.key = k) (hold : ∀ v ∈ S, v.sequence ≤ bound)
    (hnew : ∀ v ∈ N, bound < v.sequence) (hsub : S' ⊆ S ∪ N) (hN : N ⊆ S') :
    Says Means S' k o := by
  cases h with
  | absent habsent =>
      obtain ⟨n, hn, hkey⟩ := hk
      exact absurd hkey (habsent n hn)
  | newest hnewest hv =>
      refine .newest ⟨hN hnewest.mem, hnewest.key, fun u hu hkey => ?_⟩ hv
      exact (hnewest.of_newer hold hnew).latest u (hsub hu) hkey

/-- The other keys keep their meaning. -/
lemma Says.keep {N : Set (Version K V)} (h : Says Means S k o) (hk : ∀ n ∈ N, n.key ≠ k)
    (hsub : S' ⊆ S ∪ N) (hkept : ∀ v ∈ S, v.key = k → v ∈ S') : Says Means S' k o := by
  cases h with
  | absent habsent =>
      refine .absent fun v hv hkey => ?_
      rcases hsub hv with hv | hv
      · exact habsent v hv hkey
      · exact hk v hv hkey
  | newest hnewest hv =>
      refine .newest ⟨hkept _ hnewest.mem hnewest.key, hnewest.key, fun u hu hkey => ?_⟩ hv
      exact (hnewest.of_older hk).latest u (hsub hu) hkey

end

end Versions
