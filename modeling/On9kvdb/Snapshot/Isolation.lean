import On9kvdb.Snapshot.Answers
import On9kvdb.Snapshot.Beside
import On9kvdb.Steady.Survival

/-!
# Snapshot isolation

A reader shows the value its key had when it was opened, whatever is called until it is closed.
`Isolated` is the condition of an open reader between two calls; a call beside the reader keeps it
because it spares the slot and the chunks of the value, a call on the reader because it is answered
from the value and only moves the cursor.
-/

namespace On9kvdb

open Exceptional

variable {cfg : Config} {token index cursor : ℕ} {value : Option ValueRef} {bytes : Bytes}

/-! ## Steps -/

/-- A call while a reader is open: on the reader, or beside it. -/
inductive SnapshotCall
  | own (c : ReaderCall)
  | other (c : Call)

namespace SnapshotCall

/-- The call of the public interface, with the token of the reader. -/
def call (token : ℕ) : SnapshotCall → Call
  | own c => c.call token
  | other c => c

/-- A call beside the reader is on no reader with its token and does not force the instance shut. -/
def Allowed (token : ℕ) : SnapshotCall → Prop
  | own _ => True
  | other c => c.reader? ≠ some token ∧ c ≠ .deinit true

/-- The cursor behind the call. -/
def move (size cursor : ℕ) : SnapshotCall → ℕ
  | own c => c.move size cursor
  | other _ => cursor

end SnapshotCall

/-- The cursor behind a sequence of calls, on a value of this size. -/
def cursorAfter (size : ℕ) (steps : List SnapshotCall) (cursor : ℕ) : ℕ :=
  steps.foldl (fun cursor step => step.move size cursor) cursor

variable (cfg) in
/-- The world behind a sequence of calls. -/
def afterSteps (token : ℕ) (w : World) (steps : List SnapshotCall) : World :=
  steps.foldl (fun w step => (exec (perform cfg (step.call token)) w).2) w

/-! ## The invariant -/

/-- The bytes a reader shows: its slot has them, or it follows them on the media. -/
inductive Showing (bytes : Bytes) (cursor index : ℕ) (value : Option ValueRef) (w : World) : Prop
  | inline (hvalue : value = none) (h : Inlined bytes cursor (w.db.valueReaders index))
  | external {reference : ValueRef} (hvalue : value = some reference)
      (h : Follows bytes reference cursor (w.db.valueReaders index))
      (held : Holds w.db.manifest w.dev.current reference bytes)
      (valid : valueRefIsValid reference w.db.manifest.geometry.valueBankSize = true)

/-- An open reader between two calls. -/
structure Isolated (cfg : Config) (token index : ℕ) (value : Option ValueRef) (bytes : Bytes)
    (cursor : ℕ) (w : World) : Prop where
  sound : Sound cfg w.db
  sheltered : Sheltered cfg token index value w
  healthy : w.db.storageFaulted = false
  device : w.dev.Faultless
  shown : Showing bytes cursor index value w

/-- What a spared reader showed it shows on. -/
lemma Showing.spared {w w' : World} (h : Showing bytes cursor index value w)
    (hspared : Spared index value w w') : Showing bytes cursor index value w' := by
  cases h with
  | inline hvalue h =>
      refine .inline hvalue ?_
      rw [hspared.reader]
      exact h
  | external hvalue h held valid =>
      refine .external hvalue ?_ (held.congr hspared.database fun i hi => ?_) ?_
      · rw [hspared.reader]
        exact h
      · exact hspared.steps.sameChunks _ (by rw [hvalue]; rfl) i hi
      · rw [hspared.database.geometry]
        exact valid

lemma sameTokens_readerCall (token : ℕ) (c : ReaderCall) :
    Within SameTokens (perform cfg (c.call token)) := by
  cases c with
  | peek => exact Within.map (sameTokens_withReader token sameTokens_peekValueUnsafe)
  | readInto size =>
      exact Within.map (sameTokens_withReader token fun i => sameTokens_readValueIntoUnsafe i size)
  | consume size =>
      exact Within.done (sameTokens_withReader token fun i => sameTokens_consumeValueUnsafe i size)
  | seek offset =>
      exact Within.done (sameTokens_withReader token fun i => sameTokens_seekValueUnsafe i offset)

namespace Isolated

variable {w : World}

lemma reaches (h : Isolated cfg token index value bytes cursor w) : Reaches cfg token index w :=
  ⟨h.sheltered.initialized, h.healthy, h.sheltered.token⟩

/-- **A call beside the reader** leaves it as it is. -/
lemma other (h : Isolated cfg token index value bytes cursor w) {c : Call}
    (hreader : c.reader? ≠ some token) (hforce : c ≠ .deinit true) :
    Isolated cfg token index value bytes cursor (exec (perform cfg c) w).2 := by
  have hguarding : Guarding cfg token index value w (exec (perform cfg c) w).2 :=
    guarding_perform hreader hforce w
  obtain ⟨hsound, huntouched⟩ := hguarding h.sound h.sheltered
  have hspared := huntouched.spared
  exact ⟨hsound, h.sheltered.spared hspared huntouched.below,
    (hspared.healthy h.device).trans h.healthy, hspared.steps.faultless h.device,
    h.shown.spared hspared⟩

/-- Behind a call on the reader only its slot has moved. -/
lemma reached (h : Isolated cfg token index value bytes cursor w) {w' : World} {r : ValueReaderSlot}
    {cursor' : ℕ} (hreached : Reached w index r w') (htokens : SameTokens w w')
    (hlies : r.externalValue = value)
    (hshown : ∀ v : World, v.db.valueReaders index = r → v.db.manifest = w.db.manifest →
      v.dev.current = w.dev.current → Showing bytes cursor' index value v) :
    Isolated cfg token index value bytes cursor' w' := by
  have hdb := hreached.db
  have hdev := hreached.dev
  have hslot := hreached.slot
  have hmanifest : w'.db.manifest = w.db.manifest := by rw [hdb]
  refine ⟨h.sound.of_parts (by rw [hdb]; rfl), ⟨?_, ?_, by rw [hslot]; exact hlies, ?_⟩, ?_, ?_,
    hshown w' hslot hmanifest (by rw [hdev])⟩
  · rw [hdb]
    exact h.sheltered.initialized
  · have hreaders := congrArg Tokens.readers (show w'.db.tokens = w.db.tokens from htokens)
    exact getValueReaderUnsafe_congr h.sheltered.token
      (congrFun (congrArg Generational.Slots.used hreaders) index)
      (congrFun (congrArg Generational.Slots.tag hreaders) index)
  · rw [hmanifest]
    exact h.sheltered.below
  · rw [hdb]
    exact h.healthy
  · rw [hdev]
    exact h.device

/-- **A call on the reader** is answered from the value, and only moves the cursor. -/
lemma own (h : Isolated cfg token index value bytes cursor w) (c : ReaderCall) :
    c.Answers bytes cursor (exec (perform cfg (c.call token)) w).1 ∧
      Isolated cfg token index value bytes (c.move bytes.length cursor)
        (exec (perform cfg (c.call token)) w).2 := by
  have htokens : SameTokens w (exec (perform cfg (c.call token)) w).2 :=
    sameTokens_readerCall token c w
  rw [exec_readerCall h.reaches] at htokens ⊢
  cases h.shown with
  | inline hvalue hinlined =>
      have hcall := triple_inlined hinlined c w (Reached.refl w index)
      have hafter : ∀ {w' r'}, SameTokens w w' → Reached w index r' w' →
          Inlined bytes (c.move bytes.length cursor) r' →
          Isolated cfg token index value bytes (c.move bytes.length cursor) w' :=
        fun htokens hreached hinlined => h.reached hreached htokens
          (hinlined.external.trans hvalue.symm) fun v hslot _ _ =>
            .inline hvalue (by rw [hslot]; exact hinlined)
      rcases hrun : exec (c.body index) w with ⟨result, w'⟩
      rw [hrun] at hcall htokens
      cases result with
      | ok reply =>
          obtain ⟨hanswers, r', hreached, hinlined⟩ := hcall
          exact ⟨hanswers, hafter htokens hreached hinlined⟩
      | error e =>
          obtain ⟨hanswers, r', hreached, hinlined⟩ := hcall
          exact ⟨hanswers, hafter htokens hreached hinlined⟩
  | @external reference hvalue hfollows held valid =>
      have hcall := triple_follows held (held.readable h.device valid) hfollows c w
        (Reached.refl w index)
      have hafter : ∀ {w' r'}, SameTokens w w' → Reached w index r' w' →
          Follows bytes reference (c.move bytes.length cursor) r' →
          Isolated cfg token index value bytes (c.move bytes.length cursor) w' :=
        fun htokens hreached hfollows => h.reached hreached htokens
          (hfollows.reader.external.trans hvalue.symm) fun v hslot hmanifest hcurrent =>
            .external hvalue (by rw [hslot]; exact hfollows) (by rw [hmanifest, hcurrent]; exact held)
              (by rw [hmanifest]; exact valid)
      rcases hrun : exec (c.body index) w with ⟨result, w'⟩
      rw [hrun] at hcall htokens
      cases result with
      | ok reply =>
          obtain ⟨hanswers, r', hreached, hfollows⟩ := hcall
          exact ⟨hanswers, hafter htokens hreached hfollows⟩
      | error e =>
          obtain ⟨hanswers, r', hreached, hfollows⟩ := hcall
          exact ⟨hanswers, hafter htokens hreached hfollows⟩

/-- **Every sequence of calls keeps it.** -/
lemma steps (h : Isolated cfg token index value bytes cursor w) {steps : List SnapshotCall}
    (hsteps : ∀ step ∈ steps, step.Allowed token) :
    Isolated cfg token index value bytes (cursorAfter bytes.length steps cursor)
      (afterSteps cfg token w steps) := by
  induction steps generalizing w cursor with
  | nil => exact h
  | cons step rest ih =>
      have hstep : Isolated cfg token index value bytes (step.move bytes.length cursor)
          (exec (perform cfg (step.call token)) w).2 := by
        cases step with
        | own c => exact (h.own c).2
        | other c =>
            obtain ⟨hreader, hforce⟩ := hsteps _ List.mem_cons_self
            exact h.other hreader hforce
      exact ih hstep fun step hstep => hsteps step (List.mem_cons_of_mem _ hstep)

end Isolated

/-! ## Opening a reader -/

variable (cfg) in
/-- The bytes that a handle shows for a key: inline, or on the media. -/
def HasBytes (w : World) (handle : ℕ) (key bytes : Bytes) : Prop :=
  ∃ p view, getHandleSlotUnsafe cfg w.db handle = .ok p ∧
    lookupCommittedUnsafe cfg w.db w.dev.current ⟨p.2.namespaceName, key⟩ = .ok view ∧
    (view.value = .inline bytes ∨ ∃ reference, view.value = .external reference ∧
      Holds w.db.manifest w.dev.current reference bytes)

/-- The slot a new reader of this view is put into. -/
def Db.withReader (db : Db) (index : ℕ) (view : ValueView) : Db :=
  { db with
    handleGenerationCounter := nextGeneration db.handleGenerationCounter
    valueReaders := Function.update db.valueReaders index
      (newReader db.handleGenerationCounter view) }

/-- What `open_value` has found, and where the new reader is. -/
structure OpenedReader (cfg : Config) (w₀ : World) (handle : ℕ) (key : Bytes) (view : ValueView)
    (index : ℕ) (w : World) : Prop where
  initialized : w₀.db.initialized = true
  healthy : w₀.db.storageFaulted = false
  looked : ∃ p, getHandleSlotUnsafe cfg w₀.db handle = .ok p ∧
    lookupCommittedUnsafe cfg w₀.db w₀.dev.current ⟨p.2.namespaceName, key⟩ = .ok view
  inBank : valueInActiveBank cfg w₀.db.manifest view.value = true
  counter : w₀.db.handleGenerationCounter ≠ 0
  free : index < cfg.maxValueReaders
  db : w.db = w₀.db.withReader index view
  dev : w.dev = w₀.dev.tick

lemma triple_openValue (w₀ : World) (handle : ℕ) (key : Bytes) :
    Triple (· = w₀) (openValue cfg handle key)
      (fun token w => ∃ view index, OpenedReader cfg w₀ handle key view index w ∧
        token = makeHandleValue index w₀.db.handleGenerationCounter) (fun _ _ => True) := by
  unfold openValue openValueUnsafe
  refine .bind (Q := fun _ w => w = w₀) (Triple.failIf (fun _ hw _ => hw) fun _ _ _ => trivial)
    fun _ => .bind (Q := fun _ w => w = w₀ ∧ w₀.db.initialized = true ∧
      w₀.db.storageFaulted = false) ?_ fun _ => .of_pure (fun _ hw => hw.2) fun hlock =>
    .bind (Q := fun db w => w = w₀ ∧ db = w₀.db) (Triple.getDb fun w hw => ⟨hw.1, by rw [hw.1]⟩)
      fun db => .of_pure (fun _ hw => hw.2) ?_
  · unfold acquireOperationLock
    refine .bind Triple.fetch fun db => Triple.failIf (fun w hw hc => ?_) fun _ _ _ => trivial
    obtain ⟨rfl, rfl⟩ := hw
    push Not at hc
    exact ⟨rfl, by simpa using hc.1, by simpa using hc.2⟩
  rintro rfl
  refine .bind (Q := fun p w => w = w₀ ∧ getHandleSlotUnsafe cfg w₀.db handle = .ok p)
    (Triple.liftResult (fun _ _ hw hp => ⟨hw.1, hp⟩) fun _ _ _ _ => trivial) fun p =>
    .of_pure (fun _ hw => hw.2) fun hhandle => ?_
  refine .bind (Q := fun view w => w = { w₀ with dev := w₀.dev.tick } ∧
      lookupCommittedUnsafe cfg w₀.db w₀.dev.current ⟨p.2.namespaceName, key⟩ = .ok view)
    (Triple.readStorage (fun w view hw hread => ?_) fun _ _ _ => trivial) fun view =>
    .of_pure (fun _ hw => hw.2) fun hview => ?_
  · obtain ⟨rfl, -⟩ := hw
    exact ⟨rfl, hread⟩
  refine .bind (Q := fun _ w => w = { w₀ with dev := w₀.dev.tick })
    (Triple.failIf (fun _ hw _ => hw.1) fun _ _ _ => trivial) fun _ =>
    .bind (Q := fun db w => w = { w₀ with dev := w₀.dev.tick } ∧ db = w₀.db)
      (Triple.getDb fun w hw => ⟨hw, by rw [hw]⟩) fun db => .of_pure (fun _ hw => hw.2) ?_
  rintro rfl
  refine .bind (Triple.check fun _ _ => trivial) fun _ => .of_pure (fun _ hw => hw.2) fun hbank =>
    .bind (Triple.check fun _ _ => trivial) fun _ => .of_pure (fun _ hw => hw.2) fun hcounter => ?_
  cases hfree : (List.range cfg.maxValueReaders).find? fun index =>
      !(w₀.db.valueReaders index).used with
  | none => exact .throw fun _ _ => trivial
  | some index =>
      refine .bind (Q := fun _ w => w = ⟨{ w₀.db with
        handleGenerationCounter := nextGeneration w₀.db.handleGenerationCounter }, w₀.dev.tick⟩)
        (Triple.modifyDb fun w hw => ?_) fun _ =>
        .bind (Q := fun _ w => w = ⟨w₀.db.withReader index view, w₀.dev.tick⟩)
          (Triple.modifyDb fun w hw => by rw [hw]; rfl) fun _ => .pure fun w hw => ⟨view, index, ?_, rfl⟩
      · rw [hw.1.1.1]
      · rw [hw]
        exact ⟨hlock.1, hlock.2, ⟨p, hhandle, hview⟩, by simpa using hbank, hcounter,
          List.mem_range.mp (List.mem_of_find?_eq_some hfree), rfl, rfl⟩

/-- A value in the active bank lies below its tail. -/
lemma below_of_inActiveBank {m : ManifestRecord} {v : StoredValue}
    (h : valueInActiveBank cfg m v = true) : Below v.ref? m := by
  intro r hr _
  unfold valueInActiveBank at h
  rw [Option.mem_def.mp hr, Option.all_some] at h
  unfold matchesActiveBank valueRefMatchesBankUnsafe at h
  simp only [Bool.and_eq_true, decide_eq_true_eq] at h
  exact h.2

lemma valid_of_inActiveBank {m : ManifestRecord} {reference : ValueRef}
    (h : valueInActiveBank cfg m (.external reference) = true) :
    valueRefIsValid reference cfg.geometry.valueBankSize = true := by
  have hmatches : matchesActiveBank cfg m reference = true := h
  unfold matchesActiveBank valueRefMatchesBankUnsafe at hmatches
  simp only [Bool.and_eq_true, decide_eq_true_eq] at hmatches
  exact hmatches.1.2

/-- **A new reader is isolated** at the first byte. -/
lemma OpenedReader.isolated {w₀ w : World} {handle : ℕ} {key : Bytes} {view : ValueView}
    (h : OpenedReader cfg w₀ handle key view index w) (hsteady : Steady cfg w₀)
    (hcounted : Counted w₀.db.tokens) (hdevice : w₀.dev.Faultless)
    (hbytes : HasBytes cfg w₀ handle key bytes) :
    Isolated cfg (makeHandleValue index w₀.db.handleGenerationCounter) index view.value.ref? bytes 0
      w := by
  obtain ⟨p, view', hhandle, hview, hvalue⟩ := hbytes
  obtain ⟨p', hhandle', hview'⟩ := h.looked
  rw [hhandle'] at hhandle
  cases hhandle
  rw [hview'] at hview
  cases hview
  have hdb := h.db
  have hslot : w.db.valueReaders index = newReader w₀.db.handleGenerationCounter view := by
    rw [hdb]
    exact Function.update_self _ _ _
  have hmanifest : w.db.manifest = w₀.db.manifest := by
    rw [hdb]
    rfl
  have hgeneration : w₀.db.handleGenerationCounter ≤ maxHandleGeneration := hcounted.handle
  have hreaders := cfg.readers
  have hindex := h.free
  refine ⟨hsteady.sound.of_parts (by rw [hdb]; rfl), ⟨?_, ?_, by rw [hslot]; rfl, ?_⟩, ?_, ?_, ?_⟩
  · rw [hdb]
    exact h.initialized
  · unfold getValueReaderUnsafe
    rw [decodeHandleValue_makeHandleValue (by omega) h.counter hgeneration]
    dsimp only
    rw [hslot, if_neg]
    rintro (hbeyond | hunused | hother)
    · omega
    · cases hunused
    · exact hother rfl
  · rw [hmanifest]
    exact below_of_inActiveBank h.inBank
  · rw [hdb]
    exact h.healthy
  · rw [h.dev]
    exact hdevice
  · rcases hvalue with hinline | ⟨reference, hexternal, held⟩
    · refine .inline (by rw [hinline]; rfl) ?_
      rw [hslot]
      exact .opened hinline
    · have hgeometry : w₀.db.manifest.geometry = cfg.geometry := hsteady.ordered.geometry
      have hbank := h.inBank
      rw [hexternal] at hbank
      refine .external (by rw [hexternal]; rfl) ?_ ?_ ?_
      · rw [hslot]
        exact .opened hexternal held.length
      · rw [hmanifest, h.dev]
        exact held
      · rw [hmanifest, hgeometry]
        exact valid_of_inActiveBank hbank

/-! ## Whole lives -/

lemma tidy_closed (dev : Device) : Tidy cfg (fun _ => ∅) ⟨Db.closed 1 1, dev⟩ where
  inhabited := inhabited_closed ⟨1, 1, rfl⟩
  linked := ⟨fun _ => ⟨fun h => (by cases h), fun h => (by cases h.1)⟩, fun h => (by cases h)⟩
  counted := ⟨show 1 ≤ maxHandleGeneration by decide, show 1 ≤ maxHandleGeneration by decide⟩
  tracks kind raw := by
    rw [show (⟨Db.closed 1 1, dev⟩ : World).db.tokens = .closed 1 1 from rfl, Tokens.live_closed]
    simp

/-- Calls do not change which device calls fail. -/
lemma faultless_afterCalls {w : World} (h : Steady cfg w) (hdevice : w.dev.Faultless)
    {calls : List Call} (hcalls : ∀ c ∈ calls, c.isLifecycle = false) :
    (afterCalls cfg w calls).dev.Faultless := by
  induction calls generalizing w with
  | nil => exact hdevice
  | cons c rest ih =>
      have hlifecycle := hcalls c List.mem_cons_self
      have hsteps := ((@serving_perform cfg c hlifecycle w).ready h.ordered.ready).2
      exact ih (openInvariant_steady.call c w hlifecycle h) (hsteps.faultless hdevice)
        fun c hc => hcalls c (List.mem_cons_of_mem _ hc)

/-- In every life the tokens are those of some registry. -/
lemma Lived.tidy {w : World} (h : Lived cfg w) : ∃ r, Tidy cfg r w := by
  obtain ⟨m, faults, scrap, entropy, steps, rfl⟩ := h
  have hlife : ∀ (steps : List LifeStep) (v : World) (r : Registry), Tidy cfg r v →
      ∃ r', Tidy cfg r' (steps.foldl (live cfg) v) := fun steps => by
    induction steps with
    | nil => exact fun _ r h => ⟨r, h⟩
    | cons step rest ih =>
        intro v r h
        cases step with
        | call c => exact ih _ _ (h.call c)
        | powerLoss choice => exact ih _ _ (tidy_closed _)
  exact hlife steps _ _ (Tidy.powerOn m faults scrap entropy)

/-- The method behind a call that has opened a reader. -/
lemma exec_openValue {w w' : World} {handle token : ℕ} {key : Bytes}
    (hopened : exec (perform cfg (.openValue handle key)) w = (.ok (.token token), w')) :
    exec (openValue cfg handle key) w = (.ok token, w') := by
  have hmap : exec (perform cfg (.openValue handle key)) w = _ := exec_map Reply.token _ w
  rw [hmap] at hopened
  rcases hrun : exec (openValue cfg handle key) w with ⟨result, v⟩
  rw [hrun] at hopened
  cases result with
  | error e => cases hopened
  | ok t =>
      cases hopened
      rfl

lemma steady_startedWorld : Steady hostConfig startedWorld :=
  openInvariant_steady.of_lived lived_startedWorld (by decide +kernel)

lemma faults_startedWorld : startedWorld.dev.faults = fun _ => .none :=
  @Within.done SameFaults _ _ (init hostConfig) .done sameFaults_init _

/-- A value of one chunk. -/
def longValue : Bytes := List.replicate 1025 7

/-- A database in which it has been committed as an external value. -/
def longWorld : World :=
  afterCalls hostConfig startedWorld
    [.openNamespace [97] .readWrite, .begin 513, .set 513 [98] longValue, .commit 513]

lemma lived_longWorld : Lived hostConfig longWorld :=
  ⟨provisionedMedia hostConfig 7, fun _ => .none, fun _ => [], fun _ => ⟨1, Nat.one_ne_zero⟩,
    [.call .init, .call (.openNamespace [97] .readWrite), .call (.begin 513),
      .call (.set 513 [98] longValue), .call (.commit 513)], rfl⟩

lemma faultless_longWorld : longWorld.dev.Faultless :=
  faultless_afterCalls steady_startedWorld (fun n => congrFun faults_startedWorld n) (by decide)

/-- Its descriptor. -/
def longRef : ValueRef := ⟨1, 8192, 1025, 434597663, 0⟩

set_option maxRecDepth 20000 in
lemma hasBytes_longWorld : HasBytes hostConfig longWorld 513 [98] longValue :=
  ⟨(0, ⟨1, true, false, .readWrite, [97]⟩), ⟨1, .external longRef⟩, by decide +kernel,
    by decide +kernel, .inr ⟨longRef, rfl, by decide +kernel, by decide +kernel⟩⟩

lemma opened_longWorld :
    (exec (perform hostConfig (.openValue 513 [98])) longWorld).1 = .ok (.token 1537) := by
  decide +kernel

end On9kvdb
