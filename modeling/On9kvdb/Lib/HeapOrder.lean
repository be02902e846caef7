import On9kvdb.Lib.HeapSort

/-!
# Heap sort sorts

The segment is rearranged by a permutation that fixes everything behind it (`sort_eq_comp`), and
when the comparison is the one of a key in a linear order, the keys ascend (`sort_ascending`).
The heap property is stated position by position: `Dominates` at every position but the one being
sifted, and the children of that one below its parent.
-/

namespace HeapSort

variable {α β : Type}

/-! ## Rearrangement -/

section Rearrangement

variable (lt : α → α → Bool)

/-- A permutation of the positions that keeps those behind the segment. -/
def FixesFrom (σ : Equiv.Perm ℕ) (count : ℕ) : Prop := ∀ i, count ≤ i → σ i = i

lemma FixesFrom.inside {σ : Equiv.Perm ℕ} {count i : ℕ} (h : FixesFrom σ count) (hi : i < count) :
    σ i < count := by
  by_contra hge
  have hfixed : σ (σ i) = σ i := h _ (not_lt.mp hge)
  exact hge ((σ.injective hfixed).symm ▸ hi)

lemma FixesFrom.mul {σ τ : Equiv.Perm ℕ} {count : ℕ} (hσ : FixesFrom σ count)
    (hτ : FixesFrom τ count) : FixesFrom (σ * τ) count := by
  intro i hi
  rw [Equiv.Perm.mul_apply, hτ i hi, hσ i hi]

lemma FixesFrom.mono {σ : Equiv.Perm ℕ} {count bound : ℕ} (h : FixesFrom σ count)
    (hle : count ≤ bound) : FixesFrom σ bound := fun i hi => h i (hle.trans hi)

lemma fixesFrom_swap {i j count : ℕ} (hi : i < count) (hj : j < count) :
    FixesFrom (Equiv.swap i j) count := fun _ hk =>
  Equiv.swap_apply_of_ne_of_ne (hi.trans_le hk).ne' (hj.trans_le hk).ne'

lemma largerChild_cases (a : ℕ → α) (count root : ℕ) :
    largerChild lt a count root = root * 2 + 1 ∨
      largerChild lt a count root = root * 2 + 2 ∧ root * 2 + 2 < count := by
  unfold largerChild
  dsimp only
  split_ifs with h
  · exact Or.inr ⟨rfl, h.1⟩
  · exact Or.inl rfl

lemma largerChild_lt {a : ℕ → α} {count root : ℕ} (h : 2 ≤ count ∧ root ≤ (count - 2) / 2) :
    largerChild lt a count root < count := by
  rcases largerChild_cases lt a count root with hc | ⟨hc, hlt⟩ <;> omega

lemma lt_largerChild (a : ℕ → α) (count root : ℕ) : root < largerChild lt a count root := by
  rcases largerChild_cases lt a count root with hc | ⟨hc, hlt⟩ <;> omega

lemma sift_eq_comp (fuel : ℕ) (a : ℕ → α) (count root : ℕ) :
    ∃ σ : Equiv.Perm ℕ, sift lt fuel a count root = a ∘ ⇑σ ∧ FixesFrom σ count := by
  have hstay : ∃ σ : Equiv.Perm ℕ, a = a ∘ ⇑σ ∧ FixesFrom σ count := ⟨1, rfl, fun _ _ => rfl⟩
  induction fuel generalizing a root with
  | zero => exact hstay
  | succ fuel ih =>
      rw [sift]
      split_ifs with hhas
      · dsimp only
        have hroot := lt_largerChild lt a count root
        have hcount := largerChild_lt lt (a := a) hhas
        revert hroot hcount
        generalize largerChild lt a count root = child
        intro hroot hcount
        split_ifs with hless
        · obtain ⟨σ, hσ, hfix⟩ := ih (a ∘ Equiv.swap root child) child ⟨1, rfl, fun _ _ => rfl⟩
          exact ⟨Equiv.swap root child * σ, hσ,
            (fixesFrom_swap (hroot.trans hcount) hcount).mul hfix⟩
        · exact hstay
      · exact hstay

lemma heapify_eq_comp (a : ℕ → α) (count root : ℕ) :
    ∃ σ : Equiv.Perm ℕ, heapify lt a count root = a ∘ ⇑σ ∧ FixesFrom σ count := by
  induction root generalizing a with
  | zero => exact ⟨1, rfl, fun _ _ => rfl⟩
  | succ root ih =>
      obtain ⟨σ, hσ, hfix⟩ := sift_eq_comp lt count a count root
      obtain ⟨τ, hτ, hfix'⟩ := ih (a ∘ ⇑σ)
      rw [heapify, hσ]
      exact ⟨σ * τ, hτ, hfix.mul hfix'⟩

lemma drain_eq_comp (a : ℕ → α) (last : ℕ) :
    ∃ σ : Equiv.Perm ℕ, drain lt a last = a ∘ ⇑σ ∧ FixesFrom σ last := by
  induction last generalizing a with
  | zero => exact ⟨1, rfl, fun _ _ => rfl⟩
  | succ last ih =>
      rw [drain]
      split_ifs with hlast
      · exact ⟨1, rfl, fun _ _ => rfl⟩
      · obtain ⟨σ, hσ, hfix⟩ := sift_eq_comp lt (last + 1) (a ∘ Equiv.swap 0 last) last 0
        obtain ⟨τ, hτ, hfix'⟩ := ih (a ∘ Equiv.swap 0 last ∘ ⇑σ)
        have hswap := fixesFrom_swap (Nat.succ_pos last) (Nat.lt_succ_self last)
        rw [hσ]
        exact ⟨Equiv.swap 0 last * σ * τ, hτ,
          (hswap.mul (hfix.mono last.le_succ)).mul (hfix'.mono last.le_succ)⟩

/-- **Sorting rearranges the segment.** -/
theorem sort_eq_comp (a : ℕ → α) (count : ℕ) :
    ∃ σ : Equiv.Perm ℕ, sort lt a count = a ∘ ⇑σ ∧ FixesFrom σ count := by
  unfold sort
  split_ifs
  · exact ⟨1, rfl, fun _ _ => rfl⟩
  · obtain ⟨σ, hσ, hfix⟩ := heapify_eq_comp lt a count (count / 2)
    obtain ⟨τ, hτ, hfix'⟩ := drain_eq_comp lt (a ∘ ⇑σ) count
    rw [hσ]
    exact ⟨σ * τ, hτ, hfix.mul hfix'⟩

lemma FixesFrom.perm_range {σ : Equiv.Perm ℕ} {count : ℕ} (h : FixesFrom σ count) :
    ((List.range count).map ⇑σ).Perm (List.range count) := by
  rw [List.perm_ext_iff_of_nodup (List.nodup_range.map σ.injective) List.nodup_range]
  intro i
  rw [List.mem_map, List.mem_range]
  constructor
  · rintro ⟨j, hj, rfl⟩
    exact h.inside (List.mem_range.mp hj)
  · intro hi
    refine ⟨σ.symm i, List.mem_range.mpr ?_, σ.apply_symm_apply i⟩
    by_contra hge
    have hfixed := h _ (not_lt.mp hge)
    rw [σ.apply_symm_apply] at hfixed
    exact hge (hfixed ▸ hi)

/-- The segment before and after. -/
lemma sort_perm (a : ℕ → α) (count : ℕ) :
    ((List.range count).map (sort lt a count)).Perm ((List.range count).map a) := by
  obtain ⟨σ, hσ, hfix⟩ := sort_eq_comp lt a count
  rw [hσ, ← List.map_map]
  exact hfix.perm_range.map a

end Rearrangement

/-! ## Order -/

section Order

variable [LinearOrder β] (key : α → β)

/-- No child of `i` has a larger key. -/
def Dominates (a : ℕ → α) (count i : ℕ) : Prop :=
  ∀ child, child = i * 2 + 1 ∨ child = i * 2 + 2 → child < count → key (a child) ≤ key (a i)

variable {key} {lt : α → α → Bool} (hlt : ∀ x y, lt x y = true ↔ key x < key y)
include hlt

lemma le_largerChild {a : ℕ → α} {count root child : ℕ}
    (hchild : child = root * 2 + 1 ∨ child = root * 2 + 2) (hcount : child < count) :
    key (a child) ≤ key (a (largerChild lt a count root)) := by
  unfold largerChild
  simp only [hlt]
  split_ifs with h
  · rcases hchild with rfl | rfl
    · exact h.2.le
    · exact le_rfl
  · rcases hchild with rfl | rfl
    · exact le_rfl
    · exact not_lt.mp fun hless => h ⟨hcount, hless⟩

/-- **A sift restores the heap** above `low` when only `root` may violate it. -/
lemma sift_dominates {fuel : ℕ} {a : ℕ → α} {count root low : ℕ} (hfuel : count ≤ fuel + root)
    (hothers : ∀ i, low ≤ i → i ≠ root → Dominates key a count i)
    (hparent : ∀ i, low ≤ i → root = i * 2 + 1 ∨ root = i * 2 + 2 → ∀ child,
      child = root * 2 + 1 ∨ child = root * 2 + 2 → child < count → key (a child) ≤ key (a i)) :
    ∀ i, low ≤ i → Dominates key (sift lt fuel a count root) count i := by
  induction fuel generalizing a root with
  | zero =>
      intro i hi
      by_cases hroot : i = root
      · intro child hchild hcount
        omega
      · exact hothers i hi hroot
  | succ fuel ih =>
      rw [sift]
      split_ifs with hhas
      swap
      · intro i hi
        by_cases hroot : i = root
        · intro child hchild hcount
          omega
        · exact hothers i hi hroot
      dsimp only
      have hcase := largerChild_cases lt a count root
      have hmax := fun child hchild => @le_largerChild α β _ key lt hlt a count root child hchild
      revert hcase hmax
      generalize largerChild lt a count root = larger
      intro hcase hmax
      simp only [hlt]
      split_ifs with hless
      · have hne : root ≠ larger := by omega
        have hat : (a ∘ Equiv.swap root larger) root = a larger := by simp
        have hat' : (a ∘ Equiv.swap root larger) larger = a root := by simp
        have hfar : ∀ i, i ≠ root → i ≠ larger → (a ∘ Equiv.swap root larger) i = a i :=
          fun i hi hi' => congrArg a (Equiv.swap_apply_of_ne_of_ne hi hi')
        refine ih (by omega) (fun i hi hi' child hchild hcount => ?_)
          fun i hi hi' child hchild hcount => ?_
        · by_cases hroot : i = root
          · subst hroot
            rw [hat]
            by_cases heq : child = larger
            · rw [heq, hat']
              exact hless.le
            · rw [hfar child (by omega) heq]
              exact hmax child hchild hcount
          · rw [hfar i hroot hi']
            by_cases heq : child = root
            · rw [heq, hat]
              exact hparent i hi (heq ▸ hchild) larger (by omega) (by omega)
            · rw [hfar child heq (by omega)]
              exact hothers i hi hroot child hchild hcount
        · obtain rfl : i = root := by omega
          rw [hat, hfar child (by omega) (by omega)]
          exact hothers larger (by omega) (by omega) child hchild hcount
      · intro i hi
        by_cases hroot : i = root
        · subst hroot
          exact fun child hchild hcount => (hmax child hchild hcount).trans (not_lt.mp hless)
        · exact hothers i hi hroot

/-- The first phase makes a heap. -/
lemma heapify_dominates {a : ℕ → α} {count root : ℕ}
    (habove : ∀ i, root ≤ i → Dominates key a count i) :
    ∀ i, Dominates key (heapify lt a count root) count i := by
  induction root generalizing a with
  | zero => exact fun i => habove i (Nat.zero_le i)
  | succ root ih =>
      rw [heapify]
      refine ih (sift_dominates hlt (Nat.le_add_right _ _) (fun i hi hne => ?_) fun i hi hi' => ?_)
      · exact habove i (by omega)
      · omega

omit hlt in
/-- The root of a heap is its maximum. -/
lemma le_root {a : ℕ → α} {count : ℕ} (hheap : ∀ i, Dominates key a count i) {i : ℕ}
    (hi : i < count) : key (a i) ≤ key (a 0) := by
  induction i using Nat.strong_induction_on with
  | _ i ih =>
      rcases Nat.eq_zero_or_pos i with rfl | hpos
      · exact le_rfl
      · have hparent : (i - 1) / 2 < i := by omega
        exact (hheap ((i - 1) / 2) i (by omega) hi).trans (ih _ hparent (hparent.trans hi))

/-- The second phase keeps what is behind the heap sorted and above the heap. -/
lemma drain_ascending {a : ℕ → α} {last count : ℕ} (hlast : last ≤ count)
    (hheap : ∀ i, Dominates key a last i)
    (hsorted : ∀ i j, i < j → last ≤ j → j < count → key (a i) ≤ key (a j)) :
    ∀ i j, i < j → j < count → key (drain lt a last i) ≤ key (drain lt a last j) := by
  induction last generalizing a with
  | zero => exact fun i j hij hj => hsorted i j hij (Nat.zero_le j) hj
  | succ last ih =>
      rw [drain]
      split_ifs with hzero
      · exact fun i j hij hj => hsorted i j hij (by omega) hj
      · obtain ⟨σ, hσ, hfix⟩ := sift_eq_comp lt (last + 1) (a ∘ Equiv.swap 0 last) last 0
        have hswap : ∀ i, last < i → Equiv.swap 0 last i = i := fun i hi =>
          Equiv.swap_apply_of_ne_of_ne (by omega) (by omega)
        have hinside : ∀ i, i ≤ last → Equiv.swap 0 last i ≤ last := fun i hi => by
          have hfixes := fixesFrom_swap (Nat.succ_pos last) (Nat.lt_succ_self last)
          exact Nat.lt_succ_iff.mp (hfixes.inside (Nat.lt_succ_iff.mpr hi))
        refine ih (by omega) (fun i => sift_dominates hlt (by omega)
          (fun i hi hne child hchild hcount => ?_) (fun i hi hi' => ?_) i (Nat.zero_le i))
          fun i j hij hj hcount => ?_
        · have hi : i ≠ last := by omega
          rw [Function.comp_apply, Function.comp_apply,
            Equiv.swap_apply_of_ne_of_ne (by omega) (by omega),
            Equiv.swap_apply_of_ne_of_ne hne hi]
          exact hheap i child hchild (by omega)
        · omega
        · -- Position `j` holds the old maximum when it is `last`, else what it held before.
          rw [hσ, Function.comp_apply, Function.comp_apply, Function.comp_apply,
            Function.comp_apply, hfix j hj]
          have hsource : σ i < j := by
            rcases lt_or_ge i last with hi | hi
            · exact (hfix.inside hi).trans_le hj
            · rwa [hfix i hi]
          rcases Nat.eq_or_lt_of_le hj with rfl | hbehind
          · rw [Equiv.swap_apply_right]
            exact le_root hheap (Nat.lt_succ_iff.mpr (hinside _ hsource.le))
          · rw [hswap j hbehind]
            refine hsorted _ _ ?_ hbehind hcount
            rcases lt_or_ge last (σ i) with h | h
            · rwa [hswap _ h]
            · exact (hinside _ h).trans_lt hbehind

/-- **The sorted segment ascends.** -/
theorem sort_ascending (a : ℕ → α) (count : ℕ) :
    ∀ i j, i < j → j < count → key (sort lt a count i) ≤ key (sort lt a count j) := by
  unfold sort
  split_ifs with hcount
  · intro i j hij hj
    omega
  · refine drain_ascending hlt le_rfl (heapify_dominates hlt fun i hi child hchild hlast => ?_)
      fun i j hij hj hj' => ?_
    · omega
    · omega

/-- Distinct keys ascend strictly. -/
lemma sort_strictly_ascending {a : ℕ → α} {count : ℕ}
    (hdistinct : ∀ i j, i < j → j < count → key (a i) ≠ key (a j)) :
    ∀ i j, i < j → j < count → key (sort lt a count i) < key (sort lt a count j) := by
  intro i j hij hj
  refine lt_of_le_of_ne (sort_ascending hlt a count i j hij hj) ?_
  obtain ⟨σ, hσ, hfix⟩ := sort_eq_comp lt a count
  have hi' := hfix.inside (hij.trans hj)
  have hj' := hfix.inside hj
  rw [hσ]
  rcases lt_or_gt_of_ne (σ.injective.ne hij.ne) with h | h
  · exact hdistinct _ _ h hj'
  · exact (hdistinct _ _ h hi').symm

end Order

/-! ## Lists -/

section Lists

variable [Inhabited α] (lt : α → α → Bool)

lemma sortList_perm (l : List α) : (sortList lt l).Perm l := by
  refine (sort_perm lt (fun i => l.getD i default) l.length).trans (List.Perm.of_eq ?_)
  refine List.ext_getElem (by simp) fun i hi hi' => ?_
  simp [List.getD_eq_getElem?_getD, hi']

lemma sortList_pairwise [LinearOrder β] {key : α → β} {lt : α → α → Bool}
    (hlt : ∀ x y, lt x y = true ↔ key x < key y) {l : List α} (hdistinct : (l.map key).Nodup) :
    (sortList lt l).Pairwise fun x y => key x < key y := by
  unfold sortList
  rw [List.pairwise_map]
  refine List.pairwise_lt_range.imp_of_mem fun {i j} hi hj hij => ?_
  refine sort_strictly_ascending hlt (fun i j hij hj heq => ?_) i j hij (List.mem_range.mp hj)
  have hi := hij.trans hj
  rw [List.getD_eq_getElem?_getD, List.getD_eq_getElem?_getD, List.getElem?_eq_getElem hi,
    List.getElem?_eq_getElem hj] at heq
  have hinjective := @List.Nodup.getElem_inj_iff _ _ hdistinct i (by simpa using hi) j
    (by simpa using hj)
  rw [List.getElem_map, List.getElem_map] at hinjective
  exact hij.ne (hinjective.mp heq)

end Lists

end HeapSort
