import On9kvdb.Store.Writes

/-!
# What the manifest copies reach

A manifest copy reaches the tables it names, the headers of the WAL slots it gives a generation
and the chunks below the tail of its active value bank.  The memory only holds the newest
manifest; `Covers` says that it reaches at least what a copy does, and `Guarded` that this is so
for every copy on the durable and on the current image.
-/

namespace On9kvdb

variable {cfg : Config}

/-! ## Reach -/

/-- The write falls into what the manifest refers to. -/
def Write.touches (c : ManifestRecord) : Write → Bool
  | manifestCopy _ _ => false
  | identity _ _ _ _ => false
  | walHeader slot _ _ => c.walGeneration slot != 0
  | walFrame _ _ _ => false
  | tableHeaderMarker slot _ => (c.tables slot).isSome
  | tableFooterMarker slot => (c.tables slot).isSome
  | tableHeader slot _ _ => (c.tables slot).isSome
  | tableFooter slot _ => (c.tables slot).isSome
  | tableBlock slot _ _ => (c.tables slot).isSome
  | tableIndex slot _ => (c.tables slot).isSome
  | valueChunk bank offset _ => bank == c.activeValueBank && offset < c.valueBankTail bank

/-- The write stays clear of every valid manifest copy of the image. -/
def Write.avoidsCopies (m : Media) (w : Write) : Bool :=
  (List.range manifestSlotCount).all fun slot =>
    match m.manifestCopy slot with
    | .ok copy => !w.touches copy.record
    | .error _ => true

/-- The manifest `m` reaches whatever `c` does. -/
structure Covers (m c : ManifestRecord) : Prop where
  tables : ∀ slot, m.tables slot = none → c.tables slot = none
  wal : ∀ slot, m.walGeneration slot = 0 → c.walGeneration slot = 0
  bank : c.activeValueBank = m.activeValueBank
  tail : c.valueBankTail c.activeValueBank ≤ m.valueBankTail m.activeValueBank

namespace Covers

variable {a b c : ManifestRecord}

lemma refl (c : ManifestRecord) : Covers c c := ⟨fun _ h => h, fun _ h => h, rfl, le_rfl⟩

lemma trans (h₁ : Covers a b) (h₂ : Covers b c) : Covers a c :=
  ⟨fun slot h => h₂.tables slot (h₁.tables slot h), fun slot h => h₂.wal slot (h₁.wal slot h),
    h₂.bank.trans h₁.bank, h₂.tail.trans h₁.tail⟩

/-- The stored form of a manifest reaches the same. -/
lemma withoutKeyRanges (c : ManifestRecord) : Covers c c.withoutKeyRanges :=
  ⟨fun slot h => by simp [ManifestRecord.withoutKeyRanges, h], fun _ h => h, rfl, le_rfl⟩

lemma of_withoutKeyRanges (h : a.withoutKeyRanges = b.withoutKeyRanges) : Covers a b := by
  have htables : ∀ slot, a.tables slot = none → b.tables slot = none := fun slot hslot => by
    have hboth := congrArg (fun r : ManifestRecord => r.tables slot) h
    simpa [ManifestRecord.withoutKeyRanges, hslot] using hboth.symm
  have hrest := eq_of_withoutKeyRanges h
  rw [hrest] at htables ⊢
  exact ⟨htables, fun _ h => h, rfl, le_rfl⟩

end Covers

/-- The write stays clear of what the manifest reaches, and is not a manifest copy itself. -/
def Write.freeOf (m : ManifestRecord) : Write → Prop
  | manifestCopy _ _ => False
  | identity _ _ _ _ => True
  | walHeader slot _ _ => m.walGeneration slot = 0
  | walFrame _ _ _ => True
  | tableHeaderMarker slot _ => m.tables slot = none
  | tableFooterMarker slot => m.tables slot = none
  | tableHeader slot _ _ => m.tables slot = none
  | tableFooter slot _ => m.tables slot = none
  | tableBlock slot _ _ => m.tables slot = none
  | tableIndex slot _ => m.tables slot = none
  | valueChunk bank offset _ => bank = m.activeValueBank → m.valueBankTail bank ≤ offset

lemma Covers.not_touches {m c : ManifestRecord} (h : Covers m c) {w : Write}
    (hw : w.freeOf m) : w.touches c = false := by
  cases w with
  | manifestCopy => rfl
  | identity => rfl
  | walFrame => rfl
  | walHeader slot copySlot header =>
      simp only [Write.touches, h.wal slot hw, bne_self_eq_false]
  | tableHeaderMarker slot => simp only [Write.touches, h.tables slot hw, Option.isSome_none]
  | tableFooterMarker slot => simp only [Write.touches, h.tables slot hw, Option.isSome_none]
  | tableHeader slot => simp only [Write.touches, h.tables slot hw, Option.isSome_none]
  | tableFooter slot => simp only [Write.touches, h.tables slot hw, Option.isSome_none]
  | tableBlock slot => simp only [Write.touches, h.tables slot hw, Option.isSome_none]
  | tableIndex slot => simp only [Write.touches, h.tables slot hw, Option.isSome_none]
  | valueChunk bank offset chunk =>
      simp only [Write.touches, Bool.and_eq_false_imp, beq_iff_eq, decide_eq_false_iff_not, not_lt]
      intro hbank
      rw [hbank]
      refine h.tail.trans ?_
      rw [← h.bank, ← hbank]
      exact hw (hbank.trans h.bank)

lemma Write.freeOf_table {m : ManifestRecord} {slot : ℕ} {w : Write} (hw : IntoTable slot w)
    (h : m.tables slot = none) : w.freeOf m := by
  cases w <;> simp_all [IntoTable, Write.freeOf]

lemma Write.freeOf_bank {m : ManifestRecord} {bank : ℕ} {w : Write} (hw : IntoBank bank w)
    (h : bank ≠ m.activeValueBank) : w.freeOf m := by
  cases w <;> simp_all [IntoBank, Write.freeOf]

/-! ## Devices -/

namespace Device

/-- Every write so far has avoided the copies that were durable when it was issued. -/
def IssuedSafe (d : Device) : Prop := ∀ entry ∈ d.issued, entry.1.avoidsCopies entry.2 = true

/-- Every valid manifest copy in `slot`, durable or current, satisfies `P`. -/
def CopyIn (d : Device) (slot : ℕ) (P : ManifestRecord → Prop) : Prop :=
  ∀ copy, d.durable.manifestCopy slot = .ok copy ∨ d.current.manifestCopy slot = .ok copy →
    P copy.record

/-- The manifest reaches what any valid copy does. -/
structure Guarded (d : Device) (m : ManifestRecord) : Prop where
  issued : d.IssuedSafe
  copies : ∀ slot < manifestSlotCount, d.CopyIn slot (Covers m)

variable {d d' : Device} {m m' : ManifestRecord}

lemma Guarded.of_covers (h : d.Guarded m) (hm : Covers m' m) : d.Guarded m' :=
  ⟨h.issued, fun slot hslot copy hcopy => hm.trans (h.copies slot hslot copy hcopy)⟩

lemma Guarded.avoids (h : d.Guarded m) {w : Write} (hw : w.freeOf m) :
    w.avoidsCopies d.durable = true := by
  refine List.all_eq_true.mpr fun slot hslot => ?_
  cases hcopy : d.durable.manifestCopy slot with
  | error status => rfl
  | ok copy =>
      have hcovers := h.copies slot (List.mem_range.mp hslot) copy (Or.inl hcopy)
      simp only [hcovers.not_touches hw, Bool.not_false]

lemma manifestCopy_apply {m : Media} {w : Write} {r : ManifestRecord} (hw : w.freeOf r) :
    (w.apply m).manifestCopy = m.manifestCopy := by
  cases w with
  | manifestCopy => exact hw.elim
  | _ => rfl

lemma manifestCopy_applyTorn (m : Media) (w : Write) :
    (w.applyTorn m).manifestCopy = m.manifestCopy := by
  cases w <;> rfl

lemma manifestCopy_write {w : Write} {r : ManifestRecord} (hw : w.freeOf r) :
    (d.write w).2.current.manifestCopy = d.current.manifestCopy := by
  rcases d.current_write w with h | h | h
  · rw [h]
  · rw [h, manifestCopy_applyTorn]
  · rw [h, manifestCopy_apply hw]

lemma Guarded.write (h : d.Guarded m) {w : Write} (hw : w.freeOf m) :
    (d.write w).2.Guarded m := by
  refine ⟨fun entry hentry => ?_, fun slot hslot copy hcopy => ?_⟩
  · rw [issued_write] at hentry
    rcases List.mem_cons.mp hentry with rfl | hold
    · exact h.avoids hw
    · exact h.issued entry hold
  · rw [durable_write, manifestCopy_write hw] at hcopy
    exact h.copies slot hslot copy hcopy

lemma CopyIn.sync {slot : ℕ} {P : ManifestRecord → Prop} (h : d.CopyIn slot P) :
    d.sync.2.CopyIn slot P := by
  rintro copy hcopy
  rw [current_sync] at hcopy
  rcases d.durable_sync with hd | hd
  · rw [hd] at hcopy
    exact h copy hcopy
  · rw [hd, or_self] at hcopy
    exact h copy (Or.inr hcopy)

lemma Guarded.sync (h : d.Guarded m) : d.sync.2.Guarded m :=
  ⟨by unfold IssuedSafe; rw [issued_sync]; exact h.issued,
    fun slot hslot => (h.copies slot hslot).sync⟩

lemma Guarded.tick (h : d.Guarded m) : d.tick.Guarded m := ⟨h.issued, h.copies⟩

/-- A successful sync makes the current copies the durable ones. -/
lemma Guarded.synced (h : d.Guarded m) : d.flushed.Guarded m :=
  ⟨h.issued, fun slot hslot copy hcopy =>
    h.copies slot hslot copy (Or.inr (by rcases hcopy with hc | hc <;> exact hc))⟩

/-- **Writes clear of the manifest keep it guarding the copies.** -/
lemma Guarded.steps {S : Write → Prop} (h : d.Guarded m) (hsteps : Steps S d d')
    (hS : ∀ w, S w → w.freeOf m) : d'.Guarded m :=
  hsteps.invariant (P := fun d => d.Guarded m) (fun _ _ h => ⟨h.issued, h.copies⟩)
    (fun _ w hw h => h.write (hS w hw)) (fun _ h => h.sync) h

end Device

end On9kvdb
