import On9kvdb.Device.Media

/-!
# Device steps

How a program moves the device it works on: it lets calls pass, issues writes and syncs.  `Steps S`
collects the moves of a program all of whose writes lie in `S`, so that what a method does to the
media can be stated once, as the set `S`, and every property of the device follows from it by
`Steps.invariant`.
-/

namespace On9kvdb

namespace Device

/-- No call of the device fails. -/
def Faultless (d : Device) : Prop := ∀ n, d.faults n = .none

lemma Faultless.fault {d : Device} (h : d.Faultless) : d.fault = .none := h d.clock

/-! ## Single calls -/

@[simp] lemma durable_push (d : Device) (m : Media) : (d.push m).durable = d.durable := by
  unfold push durable images
  cases h : d.older with
  | nil => rfl
  | cons a l => simp [List.getLastD]

@[simp] lemma durable_write (d : Device) (w : Write) : (d.write w).2.durable = d.durable := by
  unfold write
  cases d.fault with
  | none => exact (durable_push _ _).trans (durable_push _ _)
  | keepOld => rfl
  | torn => exact durable_push _ _
  | keepNew => exact (durable_push _ _).trans (durable_push _ _)

@[simp] lemma issued_write (d : Device) (w : Write) :
    (d.write w).2.issued = (w, d.durable) :: d.issued := by
  unfold write
  cases d.fault <;> rfl

@[simp] lemma faults_write (d : Device) (w : Write) : (d.write w).2.faults = d.faults := by
  unfold write
  cases d.fault <;> rfl

@[simp] lemma faults_sync (d : Device) : d.sync.2.faults = d.faults := by
  unfold sync
  cases d.fault <;> rfl

lemma current_write (d : Device) (w : Write) :
    (d.write w).2.current = d.current ∨ (d.write w).2.current = w.applyTorn d.current ∨
      (d.write w).2.current = w.apply d.current := by
  unfold write
  cases d.fault with
  | none => exact Or.inr (Or.inr rfl)
  | keepOld => exact Or.inl rfl
  | torn => exact Or.inr (Or.inl rfl)
  | keepNew => exact Or.inr (Or.inr rfl)

@[simp] lemma current_sync (d : Device) : d.sync.2.current = d.current := by
  unfold sync
  cases d.fault <;> rfl

@[simp] lemma issued_sync (d : Device) : d.sync.2.issued = d.issued := by
  unfold sync
  cases d.fault <;> rfl

lemma durable_sync (d : Device) : d.sync.2.durable = d.durable ∨ d.sync.2.durable = d.current := by
  unfold sync
  cases d.fault with
  | none => exact Or.inr rfl
  | _ => exact Or.inl rfl

lemma durable_mem_images (d : Device) : d.durable ∈ d.images := List.getLastD_mem_cons

/-- The image a power loss leaves is one the device has kept. -/
lemma kept_mem_images (d : Device) (kept : ℕ) : d.images.getD kept d.durable ∈ d.images := by
  rw [List.getD_eq_getElem?_getD]
  cases h : d.images[kept]? with
  | none => exact d.durable_mem_images
  | some m => exact List.mem_of_getElem? h

/-! ## Sequences of calls -/

/-- The moves of a program whose writes lie in `S`. -/
inductive Steps (S : Write → Prop) (d : Device) : Device → Prop
  | refl : Steps S d d
  | clock {d' : Device} (n : ℕ) (h : Steps S d d') : Steps S d { d' with clock := n }
  | write {d' : Device} {w : Write} (hw : S w) (h : Steps S d d') : Steps S d (d'.write w).2
  | sync {d' : Device} (h : Steps S d d') : Steps S d d'.sync.2

namespace Steps

variable {S T : Write → Prop} {d d' d'' : Device}

lemma trans (h₁ : Steps S d d') (h₂ : Steps S d' d'') : Steps S d d'' := by
  induction h₂ with
  | refl => exact h₁
  | clock n _ ih => exact ih.clock n
  | write hw _ ih => exact ih.write hw
  | sync _ ih => exact ih.sync

lemma mono (h : Steps S d d') (hST : ∀ w, S w → T w) : Steps T d d' := by
  induction h with
  | refl => exact .refl
  | clock n _ ih => exact ih.clock n
  | write hw _ ih => exact ih.write (hST _ hw)
  | sync _ ih => exact ih.sync

/-- A property that every single call keeps. -/
theorem invariant {P : Device → Prop} (hclock : ∀ d n, P d → P { d with clock := n })
    (hwrite : ∀ d w, S w → P d → P (d.write w).2) (hsync : ∀ d, P d → P d.sync.2)
    (h : Steps S d d') (hd : P d) : P d' := by
  induction h with
  | refl => exact hd
  | clock n _ ih => exact hclock _ n ih
  | write hw _ ih => exact hwrite _ _ hw ih
  | sync _ ih => exact hsync _ ih

/-- The writes of the moves are what has been issued on top. -/
lemma issued (h : Steps S d d') :
    ∃ new, d'.issued = new ++ d.issued ∧ ∀ entry ∈ new, S entry.1 := by
  induction h with
  | refl => exact ⟨[], rfl, by simp⟩
  | clock n _ ih => exact ih
  | @write d' w hw _ ih =>
      obtain ⟨new, hnew, hS⟩ := ih
      refine ⟨(w, d'.durable) :: new, by rw [issued_write, hnew, List.cons_append], ?_⟩
      rintro entry (_ | ⟨_, hentry⟩)
      · exact hw
      · exact hS entry hentry
  | sync _ ih => rwa [issued_sync]

/-- The calls that will fail are fixed beforehand. -/
lemma faults (h : Steps S d d') : d'.faults = d.faults :=
  h.invariant (P := fun d' => d'.faults = d.faults) (fun _ _ hd => hd)
    (fun _ _ _ hd => (faults_write _ _).trans hd) (fun _ hd => (faults_sync _).trans hd) rfl

lemma faultless (h : Steps S d d') (hd : d.Faultless) : d'.Faultless := fun n => by
  rw [h.faults]
  exact hd n

end Steps

/-! ## Images -/

/-- Every image the device holds or a power loss may leave lies in `C`. -/
structure Safe (C : Media → Prop) (d : Device) : Prop where
  current : C d.current
  survivor : ∀ choice, C (d.survivor choice)

/-- What is left of a write keeps an image in `C`. -/
def Keeps (C : Media → Prop) (w : Write) : Prop := ∀ m, C m → ∀ r, C (w.remain m r)

namespace Safe

variable {C C' : Media → Prop} {d d' : Device}

lemma mono (h : d.Safe C) (hC : ∀ m, C m → C' m) : d.Safe C' :=
  ⟨hC _ h.current, fun choice => hC _ (h.survivor choice)⟩

lemma boot {m : Media} (h : C m) (faults : ℕ → Fault) (scrap : ℕ → Bytes)
    (entropy : ℕ → {id : ℕ // id ≠ 0}) : (Device.boot m faults scrap entropy).Safe C :=
  ⟨h, fun _ => h⟩

lemma crash (h : d.Safe C) (choice : ℕ → Remnant) : (d.crash (d.survivor choice)).Safe C :=
  ⟨h.survivor choice, fun _ => h.survivor choice⟩

lemma clock (h : d.Safe C) (n : ℕ) : Device.Safe C { d with clock := n } := ⟨h.current, h.survivor⟩

lemma tick (h : d.Safe C) : d.tick.Safe C := h.clock _

lemma flushed (h : d.Safe C) : d.flushed.Safe C := ⟨h.current, fun _ => h.current⟩

lemma sync (h : d.Safe C) : d.sync.2.Safe C := by
  unfold Device.sync
  cases d.fault with
  | none => exact h.flushed
  | _ => exact h.tick

/-- A write that keeps `C` as a whole and in parts keeps the device in it. -/
lemma write {w : Write} (h : d.Safe C) (hw : Keeps C w) : (d.write w).2.Safe C := by
  refine ⟨?_, fun choice => ?_⟩
  · rcases d.current_write w with hd | hd | hd
    · rw [hd]
      exact h.current
    · rw [hd]
      exact hw _ h.current .part
    · rw [hd]
      exact hw _ h.current .whole
  · have hsurvivor : (d.write w).2.survivor choice = d.survivor choice ∨
        (d.write w).2.survivor choice =
          w.remain (d.survivor choice) (choice d.pending.length) := by
      unfold Device.write
      cases d.fault with
      | keepOld => exact Or.inl rfl
      | _ => exact Or.inr rfl
    rcases hsurvivor with hd | hd
    · rw [hd]
      exact h.survivor choice
    · rw [hd]
      exact hw _ (h.survivor choice) _

/-- **Writes that keep an image in `C` keep every image there.** -/
lemma steps {S : Write → Prop} (h : d.Safe C) (hsteps : Steps S d d')
    (hS : ∀ w, S w → Keeps C w) : d'.Safe C :=
  hsteps.invariant (P := Safe C) (fun _ n hd => hd.clock n) (fun _ w hw hd => hd.write (hS w hw))
    (fun _ hd => hd.sync) h

end Safe

/-- The current image behind a write the device has performed. -/
lemma current_write_of_none {d : Device} {w : Write} (h : d.fault = .none) :
    (d.write w).2.current = w.apply d.current := by
  unfold write
  rw [h]
  rfl

/-- A performed write that has been made durable leaves nothing but its own image. -/
lemma Safe.written {C C' : Media → Prop} {d : Device} {w : Write} (h : d.Safe C)
    (hnone : d.fault = .none) (hw : ∀ m, C m → C' (w.apply m)) :
    (d.write w).2.flushed.Safe C' := by
  have hcurrent : C' (d.write w).2.current := by
    rw [current_write_of_none hnone]
    exact hw _ h.current
  exact ⟨hcurrent, fun _ => hcurrent⟩

end Device

end On9kvdb
