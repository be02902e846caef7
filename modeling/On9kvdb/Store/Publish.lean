import On9kvdb.Store.Frame
import On9kvdb.Device.Steps

/-!
# What a manifest publication does

`write_manifest_copy` has three outcomes: a test in front of its write fails and nothing has
happened, the device fails and the fault is latched, or the next generation is on durable media.
Every other statement about publications is derived from this one.
-/

namespace On9kvdb

open Exceptional

/-- The record `write_manifest_copy` publishes. -/
abbrev nextManifest (m : ManifestRecord) (generation : ℕ) (state : ManifestState) :
    ManifestRecord :=
  { m with generation := generation, state := state }

/-- The tests of `write_manifest_copy` in front of its write. -/
def publishable (m : ManifestRecord) (generation : ℕ) (state : ManifestState) : Bool :=
  generation != 0 && m.databaseId != 0 && m.generation != uint64Max &&
    generation == m.generation + 1 &&
    (nextManifest m generation state).withoutKeyRanges.encodable

lemma publishable_eq_true {m : ManifestRecord} {generation : ℕ} {state : ManifestState}
    (h : publishable m generation state = true) : generation = m.generation + 1 ∧
      (nextManifest m generation state).withoutKeyRanges.encodable = true := by
  unfold publishable at h
  simp only [Bool.and_eq_true, bne_iff_ne, beq_iff_eq] at h
  exact ⟨h.1.2, h.2⟩

/-- The stored form of a publishable manifest. -/
def publishedCopy {m : ManifestRecord} {generation : ℕ} {state : ManifestState}
    (h : publishable m generation state = true) : ManifestCopy :=
  ⟨(nextManifest m generation state).withoutKeyRanges, (publishable_eq_true h).2⟩

/-- The write of a publication. -/
def publication {m : ManifestRecord} {generation : ℕ} {state : ManifestState}
    (h : publishable m generation state = true) : Write :=
  .manifestCopy (manifestSlotOf generation) (publishedCopy h)

lemma encodeManifestRecord_eq {m : ManifestRecord} {generation : ℕ} {state : ManifestState}
    (h : publishable m generation state = true) :
    encodeManifestRecord (nextManifest m generation state) = some (publishedCopy h) :=
  dif_pos (publishable_eq_true h).2

/-- The device that is left when the publication fails on it. -/
def PublicationFailed (d d' : Device) {m : ManifestRecord} {generation : ℕ} {state : ManifestState}
    (h : publishable m generation state = true) : Prop :=
  d' = (d.write (publication h)).2 ∧ d.fault ≠ .none ∨
    d' = (d.write (publication h)).2.tick ∧ (d.write (publication h)).2.fault ≠ .none

/-- A publication only fails when the device does. -/
lemma PublicationFailed.not_faultless {d d' : Device} {m : ManifestRecord} {generation : ℕ}
    {state : ManifestState} {h : publishable m generation state = true}
    (hfailed : PublicationFailed d d' h) : ¬ d'.Faultless := by
  rcases hfailed with ⟨rfl, hfault⟩ | ⟨rfl, hfault⟩
  · intro hd
    have hnone := hd d.clock
    rw [Device.faults_write] at hnone
    exact hfault hnone
  · exact fun hd => hfault (hd (d.write (publication h)).2.clock)

/-- **The outcomes of a publication.** -/
theorem triple_writeManifestCopy_outcome (w₀ : World) (generation : ℕ) (state : ManifestState) :
    Triple (· = w₀) (writeManifestCopy generation state)
      (fun _ w => ∃ h : publishable w₀.db.manifest generation state = true,
        w₀.dev.fault = .none ∧ (w₀.dev.write (publication h)).2.fault = .none ∧
        w = ⟨{ w₀.db with manifest := nextManifest w₀.db.manifest generation state },
          (w₀.dev.write (publication h)).2.flushed⟩)
      (fun _ w => w = w₀ ∧ publishable w₀.db.manifest generation state = false ∨
        ∃ h : publishable w₀.db.manifest generation state = true,
          w.db = { w₀.db with storageFaulted := true } ∧ PublicationFailed w₀.dev w.dev h) := by
  unfold writeManifestCopy
  refine .bind (Q := fun db w => w = w₀ ∧ db = w₀.db)
    (Triple.getDb fun w hw => ⟨hw, by rw [hw]⟩) fun db => .of_pure (fun w hw => hw.2) ?_
  rintro rfl
  refine .bind (Q := fun _ w => w = w₀ ∧ ¬ (generation = 0 ∨ w₀.db.manifest.databaseId = 0 ∨
      w₀.db.manifest.generation = uint64Max ∨ generation ≠ w₀.db.manifest.generation + 1))
    (Triple.failIf (fun w hw hc => ⟨hw.1, hc⟩) fun w hw hc => Or.inl ⟨hw.1, ?_⟩) fun _ =>
      .of_pure (fun w hw => hw.2) fun hchecks => ?_
  · unfold publishable
    rcases hc with hc | hc | hc | hc <;> simp [hc]
  push Not at hchecks
  dsimp only
  by_cases h : publishable w₀.db.manifest generation state = true
  · rw [encodeManifestRecord_eq h]
    refine .bind (Q := fun _ w => w₀.dev.fault = .none ∧
        (w₀.dev.write (publication h)).2.fault = .none ∧
        w = { w₀ with dev := (w₀.dev.write (publication h)).2.flushed })
      (Triple.onError (F := fun _ w => w.db = w₀.db ∧ PublicationFailed w₀.dev w.dev h) ?_
        fun _ => Triple.modifyDb fun w hw => Or.inr ⟨h, by rw [hw.1], hw.2⟩) fun _ =>
          Triple.modifyDb fun w hw => ⟨h, hw.1, hw.2.1, by rw [hw.2.2]⟩
    refine .bind (Q := fun _ w => w₀.dev.fault = .none ∧
        w = { w₀ with dev := (w₀.dev.write (publication h)).2 })
      (Triple.writeStorage (fun w hw hfault => ?_) fun w hw hfault => ?_) fun _ =>
        Triple.syncStorage (fun w hw hsync => ?_) fun w hw hfault => ?_
    · obtain ⟨rfl, -⟩ := hw
      exact ⟨hfault, rfl⟩
    · obtain ⟨rfl, -⟩ := hw
      exact ⟨rfl, Or.inl ⟨rfl, hfault⟩⟩
    · obtain ⟨hnone, rfl⟩ := hw
      exact ⟨hnone, hsync, rfl⟩
    · obtain ⟨-, rfl⟩ := hw
      exact ⟨rfl, Or.inr ⟨rfl, hfault⟩⟩
  · have hencode : encodeManifestRecord (nextManifest w₀.db.manifest generation state) = none :=
      dif_neg fun hencodable => h (by
        unfold publishable
        simp only [Bool.and_eq_true, bne_iff_ne, beq_iff_eq]
        exact ⟨⟨⟨⟨hchecks.1, hchecks.2.1⟩, hchecks.2.2.1⟩, hchecks.2.2.2⟩, hencodable⟩)
    rw [hencode]
    exact .throw fun w hw => Or.inl ⟨hw.1, Bool.eq_false_iff.mpr h⟩

/-- What `stabilize_manifest_unsafe` publishes, when it publishes at all. -/
theorem triple_stabilizeManifestUnsafe_outcome (w₀ : World)
    (hrequired : w₀.db.manifestStabilizationRequired = true) :
    Triple (· = w₀) stabilizeManifestUnsafe
      (fun _ w => ∃ h : publishable w₀.db.manifest (w₀.db.manifest.generation + 1)
          w₀.db.manifest.state = true,
        w₀.dev.fault = .none ∧ (w₀.dev.write (publication h)).2.fault = .none ∧
        w = ⟨{ w₀.db with
            manifest := nextManifest w₀.db.manifest (w₀.db.manifest.generation + 1)
              w₀.db.manifest.state
            manifestStabilizationRequired := false },
          (w₀.dev.write (publication h)).2.flushed⟩)
      (fun _ w => w = w₀ ∧ (w₀.db.manifest.generation = uint64Max ∨
          publishable w₀.db.manifest (w₀.db.manifest.generation + 1)
            w₀.db.manifest.state = false) ∨
        ∃ h : publishable w₀.db.manifest (w₀.db.manifest.generation + 1)
            w₀.db.manifest.state = true,
          w.db = { w₀.db with storageFaulted := true } ∧ PublicationFailed w₀.dev w.dev h) := by
  unfold stabilizeManifestUnsafe
  refine .bind (Q := fun db w => w = w₀ ∧ db = w₀.db)
    (Triple.getDb fun w hw => ⟨hw, by rw [hw]⟩) fun db => .of_pure (fun w hw => hw.2) ?_
  rintro rfl
  rw [if_pos hrequired]
  refine .bind (Q := fun _ w => w = w₀)
    (Triple.failIf (fun w hw _ => hw.1) fun w hw hmax => Or.inl ⟨hw.1, Or.inl hmax⟩) fun _ =>
      .bind ((triple_writeManifestCopy_outcome w₀ _ _).conseq (fun _ hw => hw) (fun _ _ hw => hw)
        fun e w hw => ?_) fun _ => Triple.modifyDb fun w hw => ?_
  · rcases hw with ⟨rfl, hnot⟩ | hfailed
    · exact Or.inl ⟨rfl, Or.inr hnot⟩
    · exact Or.inr hfailed
  · obtain ⟨h, hfault, hsync, rfl⟩ := hw
    exact ⟨h, hfault, hsync, rfl⟩

end On9kvdb
