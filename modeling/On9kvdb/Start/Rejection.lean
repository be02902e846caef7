import On9kvdb.Store.Api
import On9kvdb.Store.Publish

/-!
# A rejected range keeps its bytes

`init` shares its path with provisioning and ends with a manifest stabilization.  On a range that
is not blank and whose selected manifest copy is not in the provisioning state it nevertheless
only reads until the stabilization, and that is its last step: when it reports an error although
the device has not failed, it has not written at all.
-/

namespace On9kvdb

open Exceptional

variable {cfg : Config}

/-- Nothing but the clock of the device has moved. -/
def SameDevice (w w' : World) : Prop := w'.dev = { w.dev with clock := w'.dev.clock }

lemma SameDevice.refl (w : World) : SameDevice w w := rfl

lemma SameDevice.trans {w w' w'' : World} (h : SameDevice w w') (h' : SameDevice w' w'') :
    SameDevice w w'' := by
  unfold SameDevice at *
  rw [h', h]

lemma SameDevice.tick {w w' : World} (h : SameDevice w w') :
    SameDevice w { w' with dev := w'.dev.tick } := h.trans rfl

lemma SameDevice.current {w w' : World} (h : SameDevice w w') :
    w'.dev.current = w.dev.current := by
  rw [h]

/-! ## Provisioning a ready database -/

/-- What holds while `init` checks the files of a ready database. -/
structure Checking (w₀ w : World) : Prop where
  device : SameDevice w₀ w
  ready : w.db.manifest.state = .ready

lemma triple_provisionOneDataFile_ready (w₀ : World) (kind : FileKind) (slot : ℕ) :
    Triple (Checking w₀) (provisionOneDataFile kind slot) (fun _ => Checking w₀)
      (fun _ => SameDevice w₀) := by
  unfold provisionOneDataFile
  refine .bind (Q := fun _ => Checking w₀)
    (Triple.readStorage (fun w _ hw _ => ⟨hw.device.tick, hw.ready⟩) fun w _ hw => hw.device.tick)
    fun valid => .bind (Q := fun db w => Checking w₀ w ∧ w.db = db) Triple.fetch fun db => ?_
  refine .ite (fun hstate => ?_) fun _ => Triple.failIf (fun w hw _ => hw.1) fun w hw _ => hw.1.device
  rintro w ⟨hw, rfl⟩
  exact absurd (hw.ready.symm.trans hstate) (by decide)

lemma triple_provisionDataFiles_ready (w₀ : World) (kind : FileKind) (slots : List ℕ) :
    Triple (Checking w₀) (provisionDataFiles kind slots) (fun _ => Checking w₀)
      (fun _ => SameDevice w₀) := by
  induction slots with
  | nil => exact .pure fun _ hw => hw
  | cons slot rest ih => exact .bind (triple_provisionOneDataFile_ready w₀ kind slot) fun _ => ih

lemma triple_provisionAllDataFiles_ready (w₀ : World) :
    Triple (Checking w₀) (provisionAllDataFiles cfg) (fun _ => Checking w₀)
      (fun _ => SameDevice w₀) := by
  unfold provisionAllDataFiles
  refine .bind (Q := fun db w => Checking w₀ w ∧ db.manifest.state = .ready)
    (Triple.getDb fun w hw => ⟨hw, hw.ready⟩) fun db => .of_pure (fun w hw => hw.2) fun hready => ?_
  refine .bind ((triple_provisionDataFiles_ready w₀ _ _).pre fun _ hw => hw.1) fun _ =>
    .bind (triple_provisionDataFiles_ready w₀ _ _) fun _ =>
    .bind (triple_provisionDataFiles_ready w₀ _ _) fun _ =>
    .ite (fun hnot => absurd hready hnot) fun _ => .pure fun _ hw => hw

/-! ## Selecting a copy -/

/-- The copy that `load_manifest` selects, if any, is not in the provisioning state. -/
def SelectsReady (m : Media) : Prop :=
  ∀ manifest required, loadManifest m = .ok (manifest, required) →
    manifest.state ≠ .provisioningOwned

lemma triple_openExistingManifest_ready {w₀ : World} (h : SelectsReady w₀.dev.current) :
    Triple (SameDevice w₀) (openExistingManifest cfg) (fun _ => Checking w₀)
      (fun _ => SameDevice w₀) := by
  unfold openExistingManifest
  refine .bind (Q := fun loaded w => SameDevice w₀ w ∧ loaded.1.1.state = .ready)
    (Triple.readStorage (fun w loaded hw hload => ⟨hw.tick, ?_⟩) fun w _ hw => hw.tick)
    fun loaded => .of_pure (fun w hw => hw.2) fun hready => ?_
  · rw [hw.current] at hload
    cases hselected : loadManifest w₀.dev.current with
    | error e =>
        rw [hselected] at hload
        cases hload
    | ok selected =>
        rw [hselected] at hload
        cases hload
        have hnot := h selected.1 selected.2 hselected
        cases hstate : selected.1.state with
        | ready => rfl
        | provisioningOwned => exact absurd hstate hnot
  · obtain ⟨⟨manifest, required⟩, copies⟩ := loaded
    refine .bind (Q := fun _ => Checking w₀) (Triple.modifyDb fun w hw => ⟨hw.1, hready⟩) fun _ =>
      .bind (Q := fun _ => Checking w₀) (Triple.failIf (fun w hw _ => hw) fun w hw _ => hw.device)
      fun _ => .ite (fun hstate => ?_) fun _ => .pure fun _ hw => hw
    exact absurd (hready.symm.trans hstate.1) (by decide)

lemma triple_initialiseStorage_ready {w₀ : World} (hblank : w₀.dev.current.blank = none)
    (h : SelectsReady w₀.dev.current) :
    Triple (SameDevice w₀) (initialiseStorage cfg) (fun _ => Checking w₀)
      (fun _ => SameDevice w₀) := by
  unfold initialiseStorage setupManifest storageRegionIsBlankUnsafe
  refine .bind (Q := fun _ => Checking w₀) (.bind (Q := fun blank w =>
      SameDevice w₀ w ∧ blank = false) (Triple.readStorage (fun w blank hw hread => ⟨hw.tick, ?_⟩)
        fun w _ hw => hw.tick) fun blank => .of_pure (fun w hw => hw.2) ?_) fun _ =>
    triple_provisionAllDataFiles_ready w₀
  · rw [hw.current, hblank] at hread
    cases hread
    rfl
  · rintro rfl
    exact (triple_openExistingManifest_ready h).pre fun _ hw => hw.1

/-! ## Recovery -/

lemma Recovering.sameDevice {w w' : World} (h : Recovering w w') : SameDevice w w' := h.dev

/-- Without a device failure a stabilization only fails in front of its write. -/
lemma triple_stabilizeManifestUnsafe_faultless {w₀ : World} (h : w₀.dev.Faultless) :
    Triple (SameDevice w₀) stabilizeManifestUnsafe (fun _ _ => True) (fun _ => SameDevice w₀) := by
  refine .of_state fun w hw => ?_
  have hfaultless : w.dev.Faultless := by
    rw [hw]
    exact h
  cases hrequired : w.db.manifestStabilizationRequired with
  | false =>
      unfold stabilizeManifestUnsafe
      refine .bind (Q := fun db _ => db = w.db) (Triple.getDb fun w' h' => by rw [h']) fun db => ?_
      refine .of_pure (fun _ h' => h') ?_
      rintro rfl
      rw [hrequired]
      exact .pure fun _ _ => True.intro
  | true =>
      refine (triple_stabilizeManifestUnsafe_outcome w hrequired).conseq (fun _ h' => h')
        (fun _ _ _ => True.intro) fun _ w' h' => ?_
      rcases h' with ⟨rfl, -⟩ | ⟨hp, -, hfailed⟩
      · exact hw
      · have hnone : (w.dev.write (publication hp)).2.Faultless := fun n => by
          rw [Device.faults_write]
          exact hfaultless n
        rcases hfailed with ⟨-, hfault⟩ | ⟨-, hfault⟩
        · exact absurd hfaultless.fault hfault
        · exact absurd hnone.fault hfault

lemma triple_recoverWal_faultless {w₀ : World} (h : w₀.dev.Faultless) :
    Triple (SameDevice w₀) (recoverWal cfg) (fun _ _ => True) (fun _ => SameDevice w₀) := by
  unfold recoverWal
  refine .bind (Q := fun _ => SameDevice w₀) (Triple.getDb fun w hw => hw) fun db =>
    .bind (Q := fun _ => SameDevice w₀) (Triple.failIf (fun w hw _ => hw) fun w hw _ => hw) fun _ =>
    .bind (Q := fun _ => SameDevice w₀) (Triple.modifyDb fun w hw => hw) fun _ =>
    .bind (within_recoverTablesUnsafe.invariant fun w w' hw hrec => hw.trans hrec.sameDevice)
      fun _ =>
    .bind (Q := fun _ => SameDevice w₀) (Triple.readStorage (fun w _ hw _ => hw.tick)
      fun w _ hw => hw.tick) fun _ =>
    .bind (Q := fun _ => SameDevice w₀) (Triple.modifyDb fun w hw => hw) fun _ =>
    triple_stabilizeManifestUnsafe_faultless h

/-- **A rejected range keeps its bytes.**  Whatever the range contains, as long as it is not
uniformly blank and no copy in the provisioning state is selected: when `init` fails although
every device call succeeds, no write has been issued and the media is what it was. -/
theorem init_rejected {w w' : World} {e : EspErr} (hblank : w.dev.current.blank = none)
    (hdevice : w.dev.Faultless) (hselected : SelectsReady w.dev.current)
    (hinit : exec (init cfg) w = (.error e, w')) :
    w'.dev.current = w.dev.current ∧ w'.dev.issued = w.dev.issued := by
  have htriple : Triple (· = w) (init cfg) (fun _ _ => True) (fun _ => SameDevice w) := by
    unfold init
    refine .bind (Q := fun _ => SameDevice w) (Triple.getDb fun v hv => by rw [hv]; exact .refl w)
      fun db => .bind (Q := fun _ => SameDevice w) (Triple.failIf (fun v hv _ => hv) fun v hv _ => hv)
      fun _ => .bind (Q := fun _ _ => True) (Triple.onError (F := fun _ => SameDevice w)
        (.bind (triple_initialiseStorage_ready hblank hselected) fun _ =>
          (triple_recoverWal_faultless hdevice).pre fun _ hw => hw.device)
        fun _ => Triple.modifyDb fun v hv => hv) fun _ => Triple.modifyDb fun _ _ => True.intro
  have hsame : SameDevice w w' := htriple.error rfl hinit
  exact ⟨hsame.current, by rw [hsame]⟩

/-- A provisioned range whose first WAL header has lost both copies. -/
def headlessWorld : World where
  db := Db.closed 1 1
  dev := .boot { provisionedMedia hostConfig 7 with walHeader := fun _ _ => .error .corrupt }
    (fun _ => .none) (fun _ => []) fun _ => ⟨1, Nat.one_ne_zero⟩

lemma init_headless : (exec (init hostConfig) headlessWorld).1 = .error .invalidCrc := by
  decide +kernel

lemma selectsReady_headless : SelectsReady headlessWorld.dev.current := by
  intro manifest required h
  have hstate : (loadManifest headlessWorld.dev.current).map (fun loaded => loaded.1.state) =
      .ok .ready := by decide +kernel
  rw [h] at hstate
  cases hmanifest : manifest.state with
  | ready => decide
  | provisioningOwned =>
      simp only [Except.map, hmanifest, Except.ok.injEq] at hstate
      cases hstate

/-- Recovery rejects that range behind all of provisioning and leaves it alone. -/
theorem init_rejected_headless :
    (exec (init hostConfig) headlessWorld).2.dev.current = headlessWorld.dev.current ∧
      (exec (init hostConfig) headlessWorld).2.dev.issued = headlessWorld.dev.issued := by
  have hrun : exec (init hostConfig) headlessWorld =
      (.error .invalidCrc, (exec (init hostConfig) headlessWorld).2) :=
    Prod.ext init_headless rfl
  exact init_rejected rfl (fun _ => rfl) selectsReady_headless hrun

end On9kvdb
