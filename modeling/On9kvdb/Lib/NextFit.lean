import Mathlib.Tactic

/-!
# Next-fit packing

Items go into the open block as long as they fit; the first one that does not opens the next block.
Blocks are kept newest first, the items of a block in the order they came.

Two bounds follow from the rule.  Of two consecutive blocks the items together exceed the capacity
(`Adjacent`), because the first item of the later one did not fit into the earlier; and where no
item is larger than `m`, every closed block is filled up to `m` (`ClosedWithin`).
-/

namespace NextFit

variable {α : Type}

/-- What the items of a block add up to. -/
def load (size : α → ℕ) (block : List α) : ℕ := (block.map size).sum

@[simp] lemma load_append (size : α → ℕ) (block : List α) (x : α) :
    load size (block ++ [x]) = load size block + size x := by simp [load]

@[simp] lemma load_singleton (size : α → ℕ) (x : α) : load size [x] = size x := by simp [load]

/-- One item more. -/
def insert (capacity : ℕ) (size : α → ℕ) : List (List α) → α → List (List α)
  | [], x => [[x]]
  | block :: rest, x =>
      if capacity - load size block < size x then [x] :: block :: rest
      else (block ++ [x]) :: rest

lemma insert_cons (capacity : ℕ) (size : α → ℕ) (block : List α) (rest : List (List α)) (x : α) :
    insert capacity size (block :: rest) x =
      if capacity - load size block < size x then [x] :: block :: rest
      else (block ++ [x]) :: rest := rfl

/-- The blocks a list of items is packed into. -/
def pack (capacity : ℕ) (size : α → ℕ) (items : List α) : List (List α) :=
  items.foldl (insert capacity size) []

@[simp] lemma pack_nil (capacity : ℕ) (size : α → ℕ) : pack capacity size [] = [] := rfl

lemma pack_append (capacity : ℕ) (size : α → ℕ) (items : List α) (x : α) :
    pack capacity size (items ++ [x]) = insert capacity size (pack capacity size items) x := by
  simp [pack]

/-- What all blocks add up to. -/
def total (size : α → ℕ) (blocks : List (List α)) : ℕ := (blocks.map (load size)).sum

/-- Two consecutive blocks exceed the capacity. -/
def Adjacent (capacity : ℕ) (size : α → ℕ) (blocks : List (List α)) : Prop :=
  blocks.IsChain fun later earlier => capacity < load size later + load size earlier

/-- Every closed block is filled up to `m`. -/
def ClosedWithin (capacity m : ℕ) (size : α → ℕ) (blocks : List (List α)) : Prop :=
  ∀ block ∈ blocks.tail, capacity < load size block + m

section
variable {capacity m : ℕ} {size : α → ℕ} {blocks : List (List α)} {x : α}

/-! ## One item -/

lemma total_insert : total size (insert capacity size blocks x) = total size blocks + size x := by
  cases blocks with
  | nil => simp [insert, total]
  | cons block rest =>
      rw [insert_cons]
      split_ifs
      · simp only [total, List.map_cons, List.sum_cons, load_singleton]
        omega
      · simp only [total, List.map_cons, List.sum_cons, load_append]
        omega

lemma Adjacent.insert (h : Adjacent capacity size blocks) :
    Adjacent capacity size (insert capacity size blocks x) := by
  cases blocks with
  | nil => exact .singleton _
  | cons block rest =>
      rw [insert_cons]
      split_ifs with hfull
      · refine List.isChain_cons_cons.mpr ⟨?_, h⟩
        rw [load_singleton]
        omega
      · cases rest with
        | nil => exact .singleton _
        | cons earlier rest =>
            obtain ⟨hfirst, hrest⟩ := List.isChain_cons_cons.mp h
            refine List.isChain_cons_cons.mpr ⟨?_, hrest⟩
            rw [load_append]
            omega

lemma ClosedWithin.insert (h : ClosedWithin capacity m size blocks) (hx : size x ≤ m) :
    ClosedWithin capacity m size (insert capacity size blocks x) := by
  cases blocks with
  | nil =>
      intro block hblock
      cases hblock
  | cons block rest =>
      rw [insert_cons]
      split_ifs with hfull
      · intro b hb
        rcases List.mem_cons.mp hb with heq | hmem
        · rw [heq]
          omega
        · exact h b hmem
      · exact h

lemma forall_insert {P : α → Prop} (h : ∀ block ∈ blocks, ∀ y ∈ block, P y) (hx : P x) :
    ∀ block ∈ insert capacity size blocks x, ∀ y ∈ block, P y := by
  cases blocks with
  | nil =>
      intro block hblock y hy
      simp only [insert, List.mem_singleton] at hblock
      rw [hblock, List.mem_singleton] at hy
      rwa [hy]
  | cons open_ rest =>
      rw [insert_cons]
      split_ifs
      · intro block hblock y hy
        rcases List.mem_cons.mp hblock with rfl | hmem
        · rw [List.mem_singleton] at hy
          rwa [hy]
        · exact h block hmem y hy
      · intro block hblock y hy
        rcases List.mem_cons.mp hblock with rfl | hmem
        · rcases List.mem_append.mp hy with hold | hnew
          · exact h open_ List.mem_cons_self y hold
          · rw [List.mem_singleton] at hnew
            rwa [hnew]
        · exact h block (List.mem_cons_of_mem _ hmem) y hy

/-! ## All items -/

/-- What one item preserves holds of every packing. -/
lemma pack_induction {P : List (List α) → Prop} {Q : α → Prop} (hnil : P [])
    (hinsert : ∀ blocks x, Q x → P blocks → P (insert capacity size blocks x)) {items : List α}
    (hitems : ∀ x ∈ items, Q x) : P (pack capacity size items) := by
  induction items using List.reverseRecOn with
  | nil => exact hnil
  | append_singleton items x ih =>
      rw [pack_append]
      exact hinsert _ x (hitems x (by simp)) (ih fun y hy => hitems y (by simp [hy]))

lemma total_pack (items : List α) : total size (pack capacity size items) = load size items := by
  induction items using List.reverseRecOn with
  | nil => rfl
  | append_singleton items x ih => rw [pack_append, total_insert, ih, load_append]

lemma adjacent_pack (items : List α) : Adjacent capacity size (pack capacity size items) :=
  pack_induction (Q := fun _ => True) .nil (fun _ _ _ h => h.insert) fun _ _ => trivial

lemma closedWithin_pack {items : List α} (h : ∀ x ∈ items, size x ≤ m) :
    ClosedWithin capacity m size (pack capacity size items) :=
  pack_induction (fun _ hblock => by cases hblock) (fun _ _ hx h => h.insert hx) h

lemma forall_pack {P : α → Prop} {items : List α} (h : ∀ x ∈ items, P x) :
    ∀ block ∈ pack capacity size items, ∀ x ∈ block, P x :=
  pack_induction (P := fun blocks => ∀ block ∈ blocks, ∀ x ∈ block, P x)
    (fun _ hblock => by cases hblock) (fun _ _ hx h => forall_insert h hx) h

/-- Only the sizes of the items matter. -/
lemma loads_pack (items : List α) :
    (pack capacity size items).map (load size) =
      (pack capacity id (items.map size)).map (load id) := by
  have hlength : ∀ items : List α,
      (pack capacity size items).map (fun b => b.map size) = pack capacity id (items.map size) := by
    intro items
    induction items using List.reverseRecOn with
    | nil => rfl
    | append_singleton items x ih =>
        rw [List.map_append, List.map_singleton, pack_append, pack_append, ← ih]
        cases pack capacity size items with
        | nil => rfl
        | cons block rest =>
            rw [List.map_cons, insert_cons, insert_cons]
            have hload : load id (block.map size) = load size block := by simp [load]
            rw [hload, id]
            split_ifs
            · rfl
            · simp
  rw [← hlength, List.map_map]
  exact List.map_congr_left fun block _ => by simp [load]

lemma length_pack_congr {items items' : List α} (h : items.map size = items'.map size) :
    (pack capacity size items).length = (pack capacity size items').length := by
  have hloads := @loads_pack _ capacity size items
  rw [h, ← loads_pack items'] at hloads
  simpa using congrArg List.length hloads

/-! ## Bounds on the number of blocks -/

/-- Each pair of blocks exceeds the capacity. -/
lemma Adjacent.length_le (h : Adjacent capacity size blocks) :
    blocks.length / 2 * (capacity + 1) ≤ total size blocks := by
  induction blocks using List.twoStepInduction with
  | nil => simp
  | singleton block => simp
  | cons_cons later earlier rest ih =>
      obtain ⟨hpair, hrest⟩ := List.isChain_cons_cons.mp h
      have hih := ih hrest.tail
      simp only [total, List.map_cons, List.sum_cons, List.length_cons] at hih ⊢
      rw [show (rest.length + 1 + 1) / 2 = rest.length / 2 + 1 by omega, Nat.add_mul, one_mul]
      omega

/-- Each closed block is nearly full. -/
lemma ClosedWithin.length_le (h : ClosedWithin capacity m size blocks) :
    (blocks.length - 1) * (capacity + 1) ≤ total size blocks + (blocks.length - 1) * m := by
  cases blocks with
  | nil => simp
  | cons block rest =>
      have hrest : ∀ rest : List (List α), (∀ b ∈ rest, capacity < load size b + m) →
          rest.length * (capacity + 1) ≤ total size rest + rest.length * m := by
        intro rest hclosed
        induction rest with
        | nil => simp
        | cons b rest ih =>
            have hb := hclosed b List.mem_cons_self
            have hih := ih fun b' hb' => hclosed b' (List.mem_cons_of_mem _ hb')
            simp only [total, List.map_cons, List.sum_cons, List.length_cons, Nat.add_mul,
              one_mul] at hih ⊢
            omega
      have hbound := hrest rest h
      simp only [total, List.map_cons, List.sum_cons, List.length_cons,
        Nat.add_sub_cancel] at hbound ⊢
      omega

end

end NextFit
