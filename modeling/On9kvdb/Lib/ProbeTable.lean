import Mathlib.Algebra.Order.BigOperators.Group.Finset
import Mathlib.Tactic

/-!
# Open-addressed tables that only grow

A table of `size` buckets in which every key has a path: the order in which a search visits the
buckets.  Entries are replaced in place and inserted at the first free bucket of their path, and
never removed one by one.  Under these operations every entry stays reachable (`Indexed`), a search
finds a key exactly when the table holds it, and a table with fewer entries than buckets is never
full.  `total` sums a weight over the entries: their number, or the room they take.
-/

namespace ProbeTable

open Finset

variable {κ α : Type} [DecidableEq κ]

/-- The outcome of a search. -/
inductive Search (α : Type)
  | found (bucket : ℕ) (entry : α)
  | free (bucket : ℕ)
  | full

/-- Where keys are searched: every path visits every bucket. -/
structure Layout (κ α : Type) where
  size : ℕ
  key : α → κ
  path : κ → ℕ → ℕ
  path_lt : ∀ k p, path k p < size
  covers : ∀ k, ∀ b < size, ∃ p < size, path k p = b

variable (L : Layout κ α) (buckets : ℕ → Option α)

/-- The search loop: `remaining` more steps, from step `p` of the path. -/
def probe (k : κ) : (remaining p : ℕ) → Search α
  | 0, _ => .full
  | remaining + 1, p =>
      match buckets (L.path k p) with
      | none => .free (L.path k p)
      | some a => if L.key a = k then .found (L.path k p) a else probe k remaining (p + 1)

/-- The search for a key. -/
def search (k : κ) : Search α := probe L buckets k L.size 0

/-- The entry of a key. -/
def lookup (k : κ) : Option α :=
  match search L buckets k with
  | .found _ a => some a
  | _ => none

/-- The bucket is taken by another key. -/
def Passed (k : κ) (p : ℕ) : Prop := ∃ a, buckets (L.path k p) = some a ∧ L.key a ≠ k

/-- Every entry is in range and reached by the search for its key. -/
structure Indexed : Prop where
  inRange : ∀ b a, buckets b = some a → b < L.size
  reached : ∀ b a, buckets b = some a →
    ∃ p < L.size, L.path (L.key a) p = b ∧ ∀ q < p, Passed L buckets (L.key a) q

variable {L buckets}

omit [DecidableEq κ] in
lemma indexed_empty : Indexed L fun _ => (none : Option α) where
  inRange := by simp
  reached := by simp

/-! ## Searching -/

/-- What the loop has seen when it stops. -/
def Outcome (L : Layout κ α) (buckets : ℕ → Option α) (k : κ) (remaining p : ℕ) :
    Search α → Prop
  | .found b a => buckets b = some a ∧ L.key a = k
  | .free b => buckets b = none ∧ ∃ q, p ≤ q ∧ q < p + remaining ∧ L.path k q = b ∧
      ∀ r, p ≤ r → r < q → Passed L buckets k r
  | .full => ∀ r, p ≤ r → r < p + remaining → Passed L buckets k r

lemma probe_outcome (k : κ) (remaining p : ℕ) :
    Outcome L buckets k remaining p (probe L buckets k remaining p) := by
  induction remaining generalizing p with
  | zero => exact fun r hr hlt => absurd hlt (by omega)
  | succ remaining ih =>
      rw [probe]
      cases hb : buckets (L.path k p) with
      | none => exact ⟨hb, p, le_rfl, by omega, rfl, fun r hr hlt => absurd hlt (by omega)⟩
      | some a =>
          dsimp only
          split_ifs with hk
          · exact ⟨hb, hk⟩
          · have hfirst : Passed L buckets k p := ⟨a, hb, hk⟩
            have hrest := ih (p + 1)
            have hfront : ∀ r, p ≤ r → (p + 1 ≤ r → Passed L buckets k r) →
                Passed L buckets k r := fun r hr h => by
              rcases Nat.eq_or_lt_of_le hr with rfl | hlt
              · exact hfirst
              · exact h hlt
            cases hs : probe L buckets k remaining (p + 1) with
            | found b a => rwa [hs] at hrest
            | free b =>
                rw [hs] at hrest
                obtain ⟨hnone, q, hq, hlt, hpath, hpassed⟩ := hrest
                exact ⟨hnone, q, by omega, by omega, hpath,
                  fun r hr hrq => hfront r hr fun h => hpassed r h hrq⟩
            | full =>
                rw [hs] at hrest
                exact fun r hr hlt => hfront r hr fun h => hrest r h (by omega)

/-- The loop stops at the first bucket that holds the key. -/
lemma probe_reached {k : κ} {a : α} (hk : L.key a = k) (n remaining p : ℕ) (hn : n < remaining)
    (hb : buckets (L.path k (p + n)) = some a) (hpassed : ∀ q < n, Passed L buckets k (p + q)) :
    probe L buckets k remaining p = .found (L.path k (p + n)) a := by
  induction n generalizing remaining p with
  | zero =>
      obtain ⟨remaining, rfl⟩ : ∃ m, remaining = m + 1 := ⟨remaining - 1, by omega⟩
      rw [Nat.add_zero] at hb
      rw [probe, hb]
      dsimp only
      rw [if_pos hk, Nat.add_zero]
  | succ n ih =>
      obtain ⟨remaining, rfl⟩ : ∃ m, remaining = m + 1 := ⟨remaining - 1, by omega⟩
      obtain ⟨a', ha', hne⟩ := hpassed 0 (Nat.succ_pos n)
      rw [Nat.add_zero] at ha'
      have hshift : ∀ q, p + 1 + q = p + (q + 1) := fun q => by omega
      rw [probe, ha']
      dsimp only
      rw [if_neg hne, ih remaining (p + 1) (by omega) (by rw [hshift]; exact hb)
        (fun q hq => by rw [hshift]; exact hpassed (q + 1) (by omega)), hshift]

/-- What a search has seen when it stops. -/
lemma search_outcome (k : κ) : Outcome L buckets k L.size 0 (search L buckets k) :=
  probe_outcome k L.size 0

/-- A search stops at a free bucket only when it is free. -/
lemma search_free {k : κ} {b : ℕ} (hs : search L buckets k = .free b) : buckets b = none := by
  have houtcome : Outcome L buckets k L.size 0 (search L buckets k) := search_outcome k
  rw [hs] at houtcome
  exact houtcome.1

section Indexed

variable (h : Indexed L buckets)
include h

/-- **A search finds a key exactly where the table holds it.** -/
theorem Indexed.search_eq_found_iff {k : κ} {b : ℕ} {a : α} :
    search L buckets k = .found b a ↔ buckets b = some a ∧ L.key a = k := by
  constructor
  · intro hs
    have houtcome : Outcome L buckets k L.size 0 (search L buckets k) := search_outcome k
    rwa [hs] at houtcome
  · rintro ⟨hb, rfl⟩
    obtain ⟨p, hp, rfl, hpassed⟩ := h.reached b a hb
    have hreached : search L buckets (L.key a) = .found (L.path (L.key a) (0 + p)) a :=
      probe_reached rfl p L.size 0 hp (by rwa [Nat.zero_add]) fun q hq => by
        rw [Nat.zero_add]
        exact hpassed q hq
    rwa [Nat.zero_add] at hreached

lemma Indexed.lookup_eq_some_iff {k : κ} {a : α} :
    lookup L buckets k = some a ↔ ∃ b, buckets b = some a ∧ L.key a = k := by
  unfold lookup
  constructor
  · intro hs
    cases hsearch : search L buckets k with
    | found b a' =>
        rw [hsearch] at hs
        cases hs
        exact ⟨b, h.search_eq_found_iff.mp hsearch⟩
    | free b => rw [hsearch] at hs; cases hs
    | full => rw [hsearch] at hs; cases hs
  · rintro ⟨b, hb⟩
    rw [h.search_eq_found_iff.mpr hb]

/-- The table holds a key once. -/
lemma Indexed.unique {b b' : ℕ} {a a' : α} (hb : buckets b = some a) (hb' : buckets b' = some a')
    (hkey : L.key a = L.key a') : b = b' := by
  have h₁ : search L buckets (L.key a) = .found b a := h.search_eq_found_iff.mpr ⟨hb, rfl⟩
  have h₂ : search L buckets (L.key a) = .found b' a' :=
    h.search_eq_found_iff.mpr ⟨hb', hkey.symm⟩
  rw [h₁] at h₂
  exact (Search.found.inj h₂).1

lemma Indexed.absent_of_free {k : κ} {b : ℕ} (hs : search L buckets k = .free b) :
    ∀ b' a, buckets b' = some a → L.key a ≠ k := by
  intro b' a hb' hkey
  rw [h.search_eq_found_iff.mpr ⟨hb', hkey⟩] at hs
  cases hs

end Indexed

/-! ## Storing -/

/-- The bucket a search ends at, when it ends at one. -/
def Search.bucket? : Search α → Option ℕ
  | found b _ => some b
  | free b => some b
  | full => none

omit [DecidableEq κ] in
lemma passed_update {k : κ} {b p : ℕ} {a : α} (h : Passed L buckets k p)
    (hb : L.path k p ≠ b ∨ L.key a ≠ k) :
    Passed L (Function.update buckets b (some a)) k p := by
  obtain ⟨a', ha', hne⟩ := h
  by_cases heq : L.path k p = b
  · exact ⟨a, by rw [heq, Function.update_self], hb.resolve_left (not_not.mpr heq)⟩
  · exact ⟨a', by rw [Function.update_of_ne heq, ha'], hne⟩

/-- **Storing an entry where the search for its key ends keeps the table indexed.** -/
theorem Indexed.store (h : Indexed L buckets) {b : ℕ} {a : α}
    (hs : (search L buckets (L.key a)).bucket? = some b) :
    Indexed L (Function.update buckets b (some a)) := by
  have hbucket : b < L.size ∧ (∀ a', buckets b = some a' → L.key a' = L.key a) ∧
      ∃ p < L.size, L.path (L.key a) p = b ∧ ∀ q < p, Passed L buckets (L.key a) q := by
    have houtcome : Outcome L buckets (L.key a) L.size 0 (search L buckets (L.key a)) :=
      search_outcome _
    cases hsearch : search L buckets (L.key a) with
    | found b' a' =>
        rw [hsearch] at hs
        cases hs
        obtain ⟨hb, hkey⟩ := h.search_eq_found_iff.mp hsearch
        refine ⟨h.inRange _ _ hb, fun a'' ha'' => ?_, ?_⟩
        · rw [hb] at ha''
          cases ha''
          exact hkey
        · rw [← hkey]
          exact h.reached _ _ hb
    | free b' =>
        rw [hsearch] at hs
        cases hs
        rw [hsearch] at houtcome
        obtain ⟨hnone, q, -, hq, rfl, hpassed⟩ := houtcome
        refine ⟨L.path_lt _ _, fun a'' ha'' => ?_, q, by omega, rfl,
          fun r hr => hpassed r (Nat.zero_le r) hr⟩
        rw [hnone] at ha''
        cases ha''
    | full =>
        rw [hsearch] at hs
        cases hs
  obtain ⟨hlt, hsame, p, hp, rfl, hpassed⟩ := hbucket
  refine ⟨fun b' a' hb' => ?_, fun b' a' hb' => ?_⟩
  · by_cases heq : b' = L.path (L.key a) p
    · rwa [heq]
    · rw [Function.update_of_ne heq] at hb'
      exact h.inRange _ _ hb'
  · by_cases heq : b' = L.path (L.key a) p
    · subst heq
      rw [Function.update_self] at hb'
      cases hb'
      refine ⟨p, hp, rfl, fun q hq => passed_update (hpassed q hq) (Or.inl fun hpath => ?_)⟩
      obtain ⟨a', ha', hne⟩ := hpassed q hq
      rw [hpath] at ha'
      exact hne (hsame _ ha')
    · rw [Function.update_of_ne heq] at hb'
      obtain ⟨p', hp', hpath, hpassed'⟩ := h.reached b' a' hb'
      refine ⟨p', hp', hpath, fun q hq => passed_update (hpassed' q hq) ?_⟩
      -- Another entry of the stored key would share its bucket.
      by_contra hboth
      rw [not_or, not_not, not_not] at hboth
      have hfound : search L buckets (L.key a) = .found b' a' :=
        h.search_eq_found_iff.mpr ⟨hb', hboth.2.symm⟩
      rw [hfound] at hs
      cases hs
      exact heq rfl

/-- Storing an entry changes the entry of its own key only. -/
lemma Indexed.lookup_store (h : Indexed L buckets) {b : ℕ} {a : α}
    (hs : (search L buckets (L.key a)).bucket? = some b) (k : κ) :
    lookup L (Function.update buckets b (some a)) k =
      if k = L.key a then some a else lookup L buckets k := by
  have hstored := h.store hs
  split_ifs with hk
  · exact hstored.lookup_eq_some_iff.mpr ⟨b, Function.update_self .., hk.symm⟩
  · have hother : ∀ a', buckets b = some a' → L.key a' = L.key a := fun a' ha' => by
      cases hsearch : search L buckets (L.key a) with
      | found b' a'' =>
          rw [hsearch] at hs
          cases hs
          obtain ⟨hb, hkey⟩ := h.search_eq_found_iff.mp hsearch
          rw [hb] at ha'
          cases ha'
          exact hkey
      | free b' =>
          rw [hsearch] at hs
          cases hs
          rw [search_free hsearch] at ha'
          cases ha'
      | full => rw [hsearch] at hs; cases hs
    refine Option.ext fun a' => ?_
    rw [hstored.lookup_eq_some_iff, h.lookup_eq_some_iff]
    refine exists_congr fun b' => and_congr_left fun hkey => ?_
    by_cases heq : b' = b
    · subst heq
      rw [Function.update_self]
      constructor
      · intro hsome
        cases hsome
        exact absurd hkey.symm hk
      · intro hsome
        exact absurd (hkey.symm.trans (hother a' hsome)) hk
    · rw [Function.update_of_ne heq]

/-! ## Sums over the entries -/

/-- The sum of a weight over the entries. -/
def total (L : Layout κ α) (buckets : ℕ → Option α) (w : α → ℕ) : ℕ :=
  ∑ b ∈ range L.size, (buckets b).elim 0 w

omit [DecidableEq κ] in
lemma total_empty (w : α → ℕ) : total L (fun _ => none) w = 0 := sum_eq_zero fun _ _ => rfl

omit [DecidableEq κ] in
/-- Storing an entry exchanges the weight of its bucket. -/
lemma total_store {b : ℕ} (hb : b < L.size) (a : α) (w : α → ℕ) :
    total L (Function.update buckets b (some a)) w + (buckets b).elim 0 w =
      total L buckets w + w a := by
  have hmem : b ∈ range L.size := mem_range.mpr hb
  unfold total
  rw [← add_sum_erase _ _ hmem, ← add_sum_erase (range L.size) (fun b => (buckets b).elim 0 w) hmem]
  have hrest : ∑ x ∈ (range L.size).erase b, (Function.update buckets b (some a) x).elim 0 w =
      ∑ x ∈ (range L.size).erase b, (buckets x).elim 0 w :=
    sum_congr rfl fun x hx => by rw [Function.update_of_ne (ne_of_mem_erase hx)]
  rw [hrest, Function.update_self]
  simp only [Option.elim_some]
  omega

/-- A table with fewer entries than buckets has a free bucket on every path. -/
theorem search_ne_full (h : total L buckets (fun _ => 1) < L.size) (k : κ) :
    search L buckets k ≠ .full := by
  intro hfull
  have houtcome : Outcome L buckets k L.size 0 (search L buckets k) := search_outcome k
  rw [hfull] at houtcome
  have htaken : ∀ b ∈ range L.size, (buckets b).elim 0 (fun _ => 1) = 1 := fun b hb => by
    obtain ⟨p, hp, rfl⟩ := L.covers k b (mem_range.mp hb)
    obtain ⟨a, ha, -⟩ := houtcome p (Nat.zero_le p) (by omega)
    rw [ha]
    rfl
  have htotal : total L buckets (fun _ => 1) = L.size := by
    unfold total
    rw [sum_congr rfl htaken, sum_const, card_range, smul_eq_mul, Nat.mul_one]
  omega

/-- Different keys have different entries. -/
lemma Indexed.sum_lookup_le (h : Indexed L buckets) (w : α → ℕ) {keys : List κ}
    (hkeys : keys.Nodup) :
    (keys.map fun k => (lookup L buckets k).elim 0 w).sum ≤ total L buckets w := by
  have hone : ∀ k, (lookup L buckets k).elim 0 w ≤
      ∑ b ∈ range L.size, (buckets b).elim 0 fun a => if L.key a = k then w a else 0 := fun k => by
    cases hlookup : lookup L buckets k with
    | none => exact Nat.zero_le _
    | some a =>
        obtain ⟨b, hb, hkey⟩ := h.lookup_eq_some_iff.mp hlookup
        have hle := single_le_sum
          (f := fun b => (buckets b).elim 0 fun a => if L.key a = k then w a else 0)
          (fun _ _ => Nat.zero_le _) (mem_range.mpr (h.inRange b a hb))
        rw [hb, Option.elim_some, if_pos hkey] at hle
        exact hle
  calc (keys.map fun k => (lookup L buckets k).elim 0 w).sum
      = ∑ k ∈ keys.toFinset, (lookup L buckets k).elim 0 w := (List.sum_toFinset _ hkeys).symm
    _ ≤ ∑ k ∈ keys.toFinset,
          ∑ b ∈ range L.size, (buckets b).elim 0 fun a => if L.key a = k then w a else 0 :=
        sum_le_sum fun k _ => hone k
    _ = ∑ b ∈ range L.size,
          ∑ k ∈ keys.toFinset, (buckets b).elim 0 fun a => if L.key a = k then w a else 0 :=
        sum_comm
    _ ≤ ∑ b ∈ range L.size, (buckets b).elim 0 w := sum_le_sum fun b _ => by
        cases buckets b with
        | none => simp
        | some a =>
            simp only [Option.elim_some, sum_ite_eq]
            split_ifs
            · exact le_rfl
            · exact Nat.zero_le _

end ProbeTable
