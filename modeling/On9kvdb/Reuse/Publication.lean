import On9kvdb.Reuse.Footprint
import On9kvdb.Store.Publish

/-!
# Publishing and stabilizing

What a manifest publication does to the copies: the new record replaces the copy of its slot, on
the durable image too, or the fault is latched.  Between a publication that releases storage and
its stabilization only the newest copy is covered by the memory (`Unsettled`); afterwards both are
(`Settled`).
-/

namespace On9kvdb

open Exceptional

/-! ## Publication -/

/-- The device has taken over `r` as the copy of its generation, from a device `d`. -/
structure TakenOver (d d' : Device) (r : ManifestRecord) : Prop where
  issued : d'.IssuedSafe
  newest : d'.CopyIn (manifestSlotOf r.generation) (· = r.withoutKeyRanges)
  others : ∀ slot ≠ manifestSlotOf r.generation, ∀ P, d.CopyIn slot P → d'.CopyIn slot P

lemma issuedSafe_write_manifestCopy {d : Device} (h : d.IssuedSafe) (slot : ℕ)
    (copy : ManifestCopy) : (d.write (.manifestCopy slot copy)).2.IssuedSafe := by
  intro entry hentry
  rw [Device.issued_write] at hentry
  rcases List.mem_cons.mp hentry with rfl | hold
  · refine List.all_eq_true.mpr fun slot _ => ?_
    cases d.durable.manifestCopy slot <;> rfl
  · exact h entry hold

lemma takenOver_write {d : Device} (h : d.IssuedSafe) {copy : ManifestCopy} {r : ManifestRecord}
    (hcopy : copy.record = r.withoutKeyRanges) (hwrite : d.fault = .none) :
    let d' := (d.write (.manifestCopy (manifestSlotOf r.generation) copy)).2
    TakenOver d d'.flushed r := by
  intro d'
  have hcurrent : d'.current.manifestCopy =
      Function.update d.current.manifestCopy (manifestSlotOf r.generation) (.ok copy) := by
    show (d.write _).2.current.manifestCopy = _
    unfold Device.write
    rw [hwrite]
    rfl
  have hissued : d'.IssuedSafe := issuedSafe_write_manifestCopy h _ _
  refine ⟨hissued, fun c hc => ?_, fun slot hslot P hP c hc => hP c (Or.inr ?_)⟩
  · have hc' : d'.current.manifestCopy (manifestSlotOf r.generation) = .ok c := by
      rcases hc with hc | hc <;> exact hc
    rw [hcurrent, Function.update_self, Except.ok.injEq] at hc'
    rw [← hc', hcopy]
  · have hc' : d'.current.manifestCopy slot = .ok c := by
      rcases hc with hc | hc <;> exact hc
    rwa [hcurrent, Function.update_of_ne hslot] at hc'

/-- **A publication either takes over the new record or leaves everything as it is, or the fault
is latched.** -/
theorem triple_writeManifestCopy {w₀ : World} (h : w₀.dev.IssuedSafe) (generation : ℕ)
    (state : ManifestState) :
    Triple (· = w₀) (writeManifestCopy generation state)
      (fun _ w => w.db = { w₀.db with manifest := nextManifest w₀.db.manifest generation state } ∧
        publishable w₀.db.manifest generation state = true ∧
        TakenOver w₀.dev w.dev (nextManifest w₀.db.manifest generation state))
      (fun _ w => w = w₀ ∧ publishable w₀.db.manifest generation state = false ∨
        w.db = { w₀.db with storageFaulted := true } ∧ w.dev.IssuedSafe) := by
  refine (triple_writeManifestCopy_outcome w₀ generation state).conseq (fun _ hw => hw)
    (fun _ w hw => ?_) fun _ w hw => ?_
  · obtain ⟨hp, hfault, -, rfl⟩ := hw
    have hcopy : (publishedCopy hp).record =
        (nextManifest w₀.db.manifest generation state).withoutKeyRanges := rfl
    exact ⟨rfl, hp, takenOver_write h hcopy hfault⟩
  · rcases hw with hsame | ⟨hp, hdb, hfailed⟩
    · exact Or.inl hsame
    · have hissued : (w₀.dev.write (publication hp)).2.IssuedSafe :=
        issuedSafe_write_manifestCopy h _ _
      refine Or.inr ⟨hdb, ?_⟩
      rcases hfailed with ⟨hdev, -⟩ | ⟨hdev, -⟩
      · rw [hdev]
        exact hissued
      · rw [hdev]
        exact hissued

/-! ## Settled states -/

/-- An active writer belongs to the active transaction and writes behind the tail of the active
value bank. -/
structure WriterPlaced (db : Db) : Prop where
  owner : db.valueWriter.active = true → db.transaction.active = true ∧
    decodeHandleValue db.valueWriter.transactionHandleRaw = some (0, db.transaction.generation)
  place : db.valueWriter.active = true → db.valueWriter.inlineValue = false →
    db.valueWriter.reference.bankSlot = db.manifest.activeValueBank ∧
      db.manifest.valueBankTail db.manifest.activeValueBank ≤ db.valueWriter.nextChunkOffset

/-- Nothing waits for a stabilization: the manifest in memory covers both copies. -/
structure Settled (w : World) : Prop where
  required : w.db.manifestStabilizationRequired = false
  guarded : w.dev.Guarded w.db.manifest
  writer : WriterPlaced w.db

/-- Where a failed method of an open instance may stop: settled, or with the fault latched. -/
structure Stopped (w : World) : Prop where
  issued : w.dev.IssuedSafe
  initialized : w.db.initialized = true
  state : w.db.storageFaulted = true ∨ Settled w

/-- The manifest in memory covers the newest copy, and the other one too unless a stabilization
is required. -/
structure Unsettled (w : World) : Prop where
  issued : w.dev.IssuedSafe
  newest : w.dev.CopyIn (manifestSlotOf w.db.manifest.generation) (Covers w.db.manifest)
  both : w.db.manifestStabilizationRequired = false →
    ∀ slot < manifestSlotCount, w.dev.CopyIn slot (Covers w.db.manifest)
  writer : WriterPlaced w.db

/-- The manifest can be published once more under the next generation. -/
def Stabilizable (m : ManifestRecord) : Prop :=
  m.generation ≠ uint64Max ∧ m.withoutKeyRanges.encodable = true

lemma encodable_of_generation_le {r : ManifestRecord} {generation : ℕ}
    (h : r.encodable = true) (hle : r.generation ≤ generation) :
    ManifestRecord.encodable { r with generation := generation } = true := by
  unfold ManifestRecord.encodable at h ⊢
  simp only [Bool.and_eq_true, bne_iff_ne] at h ⊢
  obtain ⟨⟨⟨⟨⟨⟨⟨⟨hgeneration, hid⟩, hcapacity⟩, hwal⟩, hnext⟩, htables⟩, hgreatest⟩, hsequence⟩,
    hstate⟩ := h
  refine ⟨⟨⟨⟨⟨⟨⟨⟨by omega, hid⟩, hcapacity⟩, hwal⟩, hnext⟩, htables⟩, hgreatest⟩, hsequence⟩, ?_⟩
  cases hs : r.state with
  | provisioningOwned =>
      rw [hs] at hstate
      exact hstate
  | ready =>
      rw [hs] at hstate
      dsimp only at hstate ⊢
      unfold ManifestRecord.readyValid at hstate ⊢
      simp only [Bool.and_eq_true, decide_eq_true_eq] at hstate ⊢
      obtain ⟨⟨⟨⟨h₃, hgen⟩, hbank⟩, h₀⟩, h₁⟩ := hstate
      exact ⟨⟨⟨⟨h₃.trans hle, hgen⟩, hbank⟩, h₀⟩, h₁⟩

lemma Stabilizable.publishable {m : ManifestRecord} (h : Stabilizable m) :
    publishable m (m.generation + 1) m.state = true := by
  obtain ⟨hgeneration, hencodable⟩ := h
  have hnext := encodable_of_generation_le hencodable (Nat.le_succ _)
  have hid : m.databaseId ≠ 0 := by
    unfold ManifestRecord.encodable at hencodable
    simp only [Bool.and_eq_true, bne_iff_ne] at hencodable
    exact hencodable.1.1.1.1.1.1.1.2
  unfold On9kvdb.publishable
  simp only [Bool.and_eq_true, bne_iff_ne, beq_iff_eq]
  exact ⟨⟨⟨⟨Nat.succ_ne_zero _, hid⟩, hgeneration⟩, trivial⟩, hnext⟩

lemma manifestSlotOf_lt (generation : ℕ) : manifestSlotOf generation < manifestSlotCount :=
  Nat.mod_lt _ (by decide)

/-- The other slot than that of the next generation is that of the current one. -/
lemma eq_manifestSlotOf {slot generation : ℕ} (hslot : slot < manifestSlotCount)
    (hne : slot ≠ manifestSlotOf (generation + 1)) (hpos : generation ≠ 0) :
    slot = manifestSlotOf generation := by
  unfold manifestSlotOf at hne ⊢
  simp only [manifestSlotCount] at *
  omega

lemma Covers.nextManifest (m : ManifestRecord) (generation : ℕ) (state : ManifestState) :
    Covers (nextManifest m generation state) m :=
  ⟨fun _ h => h, fun _ h => h, rfl, le_rfl⟩

/-- A device that has taken over a covered record next to a covered one is guarded. -/
lemma TakenOver.guarded {d d' : Device} {m : ManifestRecord} {state : ManifestState}
    (h : TakenOver d d' (On9kvdb.nextManifest m (m.generation + 1) state))
    (hpos : m.generation ≠ 0) (hold : d.CopyIn (manifestSlotOf m.generation) (Covers m)) :
    d'.Guarded (On9kvdb.nextManifest m (m.generation + 1) state) := by
  refine ⟨h.issued, fun slot hslot copy hcopy => ?_⟩
  by_cases hnew : slot = manifestSlotOf (m.generation + 1)
  · subst hnew
    rw [h.newest copy hcopy]
    exact .withoutKeyRanges _
  · rw [eq_manifestSlotOf hslot hnew hpos] at hcopy hnew
    exact (Covers.nextManifest m _ _).trans (h.others _ hnew _ hold copy hcopy)

/-- **Stabilization settles**, or stops with the fault latched, or cannot publish at all. -/
theorem triple_stabilizeManifestUnsafe {w₀ : World} (h : Unsettled w₀)
    (hpos : w₀.db.manifest.generation ≠ 0) :
    Triple (· = w₀) stabilizeManifestUnsafe
      (fun _ w => Settled w ∧ w.db.valueWriter = w₀.db.valueWriter ∧
        w.db.initialized = w₀.db.initialized)
      (fun _ w => w.dev.IssuedSafe ∧ w.db.initialized = w₀.db.initialized ∧
        (w.db.storageFaulted = true ∨ ¬ Stabilizable w₀.db.manifest)) := by
  unfold stabilizeManifestUnsafe
  refine .bind (Q := fun db w => w = w₀ ∧ db = w₀.db)
    (Triple.getDb fun w hw => ⟨hw, by rw [hw]⟩) fun db => .of_pure (fun w hw => hw.2) ?_
  rintro rfl
  refine .ite (fun hrequired => ?_) fun hrequired => .pure fun w hw => ?_
  · refine .bind (Q := fun _ w => w = w₀) (Triple.failIf (fun w hw _ => hw.1) fun w hw hmax => ?_)
      fun _ => .bind ((triple_writeManifestCopy h.issued _ _).conseq (fun _ hw => hw)
        (fun _ _ hw => hw) fun e w hw => ?_) fun _ => Triple.modifyDb fun w hw => ?_
    · rw [hw.1]
      exact ⟨h.issued, rfl, Or.inr fun hs => hs.1 hmax⟩
    · rcases hw with ⟨rfl, hnot⟩ | ⟨hdb, hissued⟩
      · refine ⟨h.issued, rfl, Or.inr fun hs => ?_⟩
        rw [hs.publishable] at hnot
        cases hnot
      · exact ⟨hissued, by rw [hdb], Or.inl (by rw [hdb])⟩
    · obtain ⟨hdb, -, htaken⟩ := hw
      rw [hdb]
      exact ⟨⟨rfl, htaken.guarded hpos h.newest, ⟨h.writer.owner, h.writer.place⟩⟩, rfl, rfl⟩
  · obtain ⟨rfl, -⟩ := hw
    have hfalse : w.db.manifestStabilizationRequired = false := by simpa using hrequired
    exact ⟨⟨hfalse, ⟨h.issued, h.both hfalse⟩, h.writer⟩, rfl, rfl⟩

/-- Without a required stabilization nothing happens. -/
lemma exec_stabilizeManifestUnsafe {w : World}
    (h : w.db.manifestStabilizationRequired = false) :
    exec stabilizeManifestUnsafe w = (.ok (), w) := by
  unfold stabilizeManifestUnsafe
  rw [exec_bind, exec_getDb]
  dsimp only
  rw [h]
  rfl

/-! ## Calm states -/

/-- An open instance without an active writer. -/
structure Idle (db : Db) : Prop where
  writer : db.valueWriter.active = false
  initialized : db.initialized = true

/-- A settled state without an active writer, as the methods behind a commit find it. -/
structure Calm (w : World) : Prop where
  required : w.db.manifestStabilizationRequired = false
  guarded : w.dev.Guarded w.db.manifest
  idle : Idle w.db

lemma WriterPlaced.of_idle {db : Db} (h : db.valueWriter.active = false) : WriterPlaced db :=
  ⟨fun ha => absurd ha (by rw [h]; decide), fun ha => absurd ha (by rw [h]; decide)⟩

lemma Calm.settled {w : World} (h : Calm w) : Settled w :=
  ⟨h.required, h.guarded, .of_idle h.idle.writer⟩

lemma Calm.stopped {w : World} (h : Calm w) : Stopped w :=
  ⟨h.guarded.issued, h.idle.initialized, Or.inr h.settled⟩

/-- Nothing but caches has changed and the writes were clear of the manifest. -/
lemma Calm.writing {D : Db → Db → Prop} {S : Write → Prop} {w w' : World} (h : Calm w)
    (hw : Writing D S w w') (hD : ∀ db db', D db db' → SameButCaches db db')
    (hS : ∀ write, S write → write.freeOf w.db.manifest) : Calm w' := by
  have hdb : SameButCaches w.db w'.db := hD _ _ hw.db
  unfold SameButCaches at hdb
  refine ⟨?_, ?_, ?_⟩
  · rw [hdb]
    exact h.required
  · rw [hdb]
    exact h.guarded.steps hw.dev hS
  · rw [hdb]
    exact ⟨h.idle.writer, h.idle.initialized⟩

lemma triple_stabilize_skip {P : World → Prop} {E : EspErr → World → Prop}
    (h : ∀ w, P w → w.db.manifestStabilizationRequired = false) :
    Triple P stabilizeManifestUnsafe (fun _ => P) E :=
  .of_exec fun w hw => by
    rw [exec_stabilizeManifestUnsafe (h w hw)]
    exact ⟨fun _ _ h => by cases h; exact hw, fun _ _ h => by cases h⟩

/-- A device that has taken over a record covering both old copies is guarded. -/
lemma TakenOver.guarded_of_both {d d' : Device} {m r : ManifestRecord} (h : TakenOver d d' r)
    (hd : d.Guarded m) (hr : Covers r m) : d'.Guarded r := by
  refine ⟨h.issued, fun slot hslot copy hcopy => ?_⟩
  by_cases hnew : slot = manifestSlotOf r.generation
  · subst hnew
    rw [h.newest copy hcopy]
    exact .withoutKeyRanges _
  · exact hr.trans (h.others _ hnew _ (hd.copies slot hslot) copy hcopy)

end On9kvdb
