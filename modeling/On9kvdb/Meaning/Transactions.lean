import On9kvdb.Meaning.Staging

/-!
# What the calls of a transaction stage

The calls on handles, readers and transactions leave the map and the value that is being written
alone (`Aside`); `set` and `erase_key` add an edit, `begin` starts without one and `abort` drops
them.  A new writer may need a compaction for its room, and a long `set` is a writer of its own.
-/

namespace On9kvdb

open Exceptional Versions

variable {cfg : Config} {α : Type} {w w' w₀ : World} {c : CompositeKey → Option Bytes}
  {staging : Staging} {key : Bytes}

/-! ## Calls aside -/

/-- Nothing has changed but the handles, the readers, the transaction and the counters. -/
structure Aside (w w' : World) : Prop where
  db : w'.db = { w.db with
    handles := w'.db.handles
    handleGenerationCounter := w'.db.handleGenerationCounter
    transactionGenerationCounter := w'.db.transactionGenerationCounter
    transaction := w'.db.transaction
    valueReaders := w'.db.valueReaders }
  current : w'.dev.current = w.dev.current

instance : Std.Refl Aside := ⟨fun _ => ⟨rfl, rfl⟩⟩

instance : IsTrans World Aside := ⟨fun _ _ _ h₁ h₂ =>
  ⟨by rw [h₂.db, h₁.db], h₂.current.trans h₁.current⟩⟩

lemma Aside.tick (w : World) : Aside w { w with dev := w.dev.tick } := ⟨rfl, rfl⟩

lemma Aside.serves (h : Aside w w') (hserves : Serves cfg c w) : Serves cfg c w' := by
  have hdb := h.db
  exact hserves.of_eq h.current (by rw [hdb]) (by rw [hdb]) (by rw [hdb]) (by rw [hdb])
    (by rw [hdb])

/-- The contents are the same when the staged mutations are. -/
lemma Aside.holding (h : Aside w w') (hholding : Holding cfg c staging w)
    (hmutations : w'.db.transaction.mutations = w.db.transaction.mutations) :
    Holding cfg c staging w' := by
  have hmanifest : w'.db.manifest = w.db.manifest := by rw [h.db]
  obtain ⟨hmeans, hsmall⟩ := hholding.stages
  refine ⟨h.serves hholding.serves, ?_, by rw [hmutations]; exact hsmall⟩
  rw [hmutations, hmanifest, h.current]
  exact hmeans

/-- Nothing is staged behind a call that leaves no mutations. -/
lemma Aside.emptied (h : Aside w w') (hserves : Serves cfg c w)
    (hmutations : w'.db.transaction.mutations = []) : Holding cfg c [] w' :=
  ⟨h.serves hserves, .of_empty hmutations⟩

lemma Aside.writer (h : Aside w w') {size : ℕ} {written : Bytes}
    (hwritten : WriterHas cfg key size written w) : WriterHas cfg key size written w' := by
  have hdb := h.db
  have hwriter : w'.db.valueWriter = w.db.valueWriter := by rw [hdb]
  have hmanifest : w'.db.manifest = w.db.manifest := by rw [hdb]
  obtain ⟨hactive, hkey, hexpected, hkind, hcount, hchecksum, hinline, hexternal⟩ := hwritten
  constructor
  all_goals rw [hwriter]
  · exact hactive
  · exact hkey
  · exact hexpected
  · exact hkind
  · exact hcount
  · exact hchecksum
  · exact hinline
  · rw [hmanifest, h.current]
    exact hexternal

/-- A call aside that leaves what is staged. -/
structure Passing (w w' : World) : Prop where
  aside : Aside w w'
  staged : w'.db.transaction.mutations = w.db.transaction.mutations

instance : Std.Refl Passing := ⟨fun w => ⟨refl_of Aside w, rfl⟩⟩

instance : IsTrans World Passing := ⟨fun _ _ _ h₁ h₂ =>
  ⟨trans_of Aside h₁.aside h₂.aside, h₂.staged.trans h₁.staged⟩⟩

lemma passing_of_eq {x : DbM α} (h : Within Eq x) : Within Passing x := fun w => by
  rw [← h w]
  exact refl_of Passing w

lemma passing_acquireOperationLock : Within Passing acquireOperationLock :=
  passing_of_eq unchanged_acquireOperationLock

lemma passing_openNamespace (name : Bytes) (mode : OpenMode) :
    Within Passing (openNamespace cfg name mode) := by
  unfold openNamespace
  refine .bind Within.failIf fun _ => .bind passing_acquireOperationLock fun _ =>
    .bind Within.getDb fun db => .bind Within.liftResult fun _ => ?_
  cases (List.range cfg.limits.maxOpenHandles).find? fun index => !(db.handles index).used with
  | none => exact .throw
  | some index =>
      exact .bind Within.failIf fun _ => .bind (Within.modifyDb fun _ => ⟨⟨rfl, rfl⟩, rfl⟩)
        fun _ => .pure

lemma passing_closeHandle (raw : ℕ) : Within Passing (closeHandle cfg raw) := by
  unfold closeHandle
  exact .bind passing_acquireOperationLock fun _ => .bind Within.getDb fun _ =>
    .bind Within.liftResult fun _ => .bind Within.failIf fun _ =>
    Within.modifyDb fun _ => ⟨⟨rfl, rfl⟩, rfl⟩

lemma passing_of_turning {index : ℕ} {x : DbM α} (h : Within (Turning index) x) :
    Within Passing x := fun w => by
  have hturning := h w
  refine ⟨⟨?_, ?_⟩, ?_⟩
  · rw [hturning.db]
  · rw [hturning.dev]
  · rw [hturning.db]

lemma passing_withReader (raw : ℕ) {x : ℕ → DbM α} (h : ∀ i, Within (Turning i) (x i)) :
    Within Passing (withReader cfg raw x) := by
  unfold withReader
  exact .bind passing_acquireOperationLock fun _ => .bind Within.getDb fun _ =>
    .bind Within.liftResult fun i => passing_of_turning (h i)

lemma passing_openValue (raw : ℕ) (key : Bytes) : Within Passing (openValue cfg raw key) := by
  unfold openValue openValueUnsafe
  refine .bind Within.failIf fun _ => .bind passing_acquireOperationLock fun _ =>
    .bind Within.getDb fun _ => .bind Within.liftResult fun _ =>
    .bind (Within.readStorage fun w => ⟨Aside.tick w, rfl⟩) fun view => .bind Within.failIf fun _ =>
    .bind Within.getDb fun db => .bind Within.failIf fun _ => .bind Within.failIf fun _ => ?_
  cases (List.range cfg.maxValueReaders).find? fun index => !(db.valueReaders index).used with
  | none => exact .throw
  | some index =>
      exact .bind (Within.modifyDb fun _ => ⟨⟨rfl, rfl⟩, rfl⟩) fun _ =>
        .bind (passing_of_turning (turning_setReader _ _)) fun _ => .pure

lemma aside_acquireOperationLock : Within Aside acquireOperationLock := fun w =>
  (passing_acquireOperationLock w).aside

lemma aside_beginTransaction (raw : ℕ) : Within Aside (beginTransaction cfg raw) := by
  unfold beginTransaction
  exact .bind aside_acquireOperationLock fun _ =>
    .bind Within.getDb fun _ => .bind Within.liftResult fun _ => .bind Within.failIf fun _ =>
    .bind Within.failIf fun _ => .bind Within.failIf fun _ =>
    .bind (Within.modifyDb fun _ => ⟨rfl, rfl⟩) fun _ => .pure

lemma aside_abort (raw : ℕ) : Within Aside (abort cfg raw) := by
  unfold abort
  exact .bind aside_acquireOperationLock fun _ =>
    .bind Within.getDb fun _ => .bind Within.liftResult fun _ => .bind Within.failIf fun _ =>
    Within.modifyDb fun _ => ⟨rfl, rfl⟩

/-- A value is staged in an open transaction. -/
lemma stageValueUnsafe_transaction {db db' : Db} {raw : ℕ} {v : StoredValue}
    (h : stageValueUnsafe cfg db raw key v = .ok db') :
    ∃ handle, getTransactionUnsafe cfg db raw = .ok handle := by
  unfold stageValueUnsafe at h
  simp only [bind_eq_ok] at h
  obtain ⟨-, -, handle, hhandle, -⟩ := h
  exact ⟨handle, hhandle⟩

/-- A staging that succeeds, and one that does not. -/
lemma triple_stageValueUnsafe_holding (hholding : Holding cfg c staging w₀) (raw : ℕ)
    {v : StoredValue} {o : Option Bytes} (hdenotes : Denotes w₀.db.manifest w₀.dev.current v o) :
    Triple (· = w₀) (do
        let db ← getDb
        let db ← liftResult (stageValueUnsafe cfg db raw key v)
        modifyDb fun _ => db)
      (fun _ w => Aside w₀ w ∧ Holding cfg c (staging.put key o) w ∧
        ∃ handle, getTransactionUnsafe cfg w₀.db raw = .ok handle)
      (fun e w => w = w₀ ∧ stageValueUnsafe cfg w₀.db raw key v = .error e) := by
  refine Triple.fetched (.bind (Q := fun db w => w = w₀ ∧
    stageValueUnsafe cfg w₀.db raw key v = .ok db) (Triple.liftResult (fun _ _ hw hf => ⟨hw, hf⟩)
      fun _ _ hw hf => ⟨hw, hf⟩) fun db => Triple.modifyDb fun w hw => ?_)
  obtain ⟨rfl, hstage⟩ := hw
  have hframe := stageValueUnsafe_frame hstage
  exact ⟨⟨by rw [hframe], rfl⟩, hholding.stageValue hstage hdenotes,
    stageValueUnsafe_transaction hstage⟩

/-! ## Begin and abort -/

/-- A method behind the lock. -/
lemma triple_behindLock {f : Unit → DbM α} {Q : α → World → Prop} {E : EspErr → World → Prop}
    (hE : E .invalidState w₀) (h : Triple (· = w₀) (f ()) Q E) :
    Triple (· = w₀) (acquireOperationLock >>= f) Q E := by
  unfold acquireOperationLock
  exact .bind (Q := fun _ => (· = w₀)) (Triple.fetched (Triple.failIf (fun _ hw _ => hw)
    fun _ hw _ => hw ▸ hE)) fun _ => h

lemma triple_beginTransaction_begun (w₀ : World) (raw : ℕ) :
    Triple (· = w₀) (beginTransaction cfg raw)
      (fun token w => ∃ index, getHandleSlotUnsafe cfg w₀.db raw =
          .ok (index, w₀.db.handles index) ∧ (w₀.db.handles index).mode = .readWrite ∧
        w₀.db.transaction.active = false ∧ w₀.db.transactionGenerationCounter ≠ 0 ∧
        token = makeHandleValue 0 w₀.db.transactionGenerationCounter ∧
        w.db.tokens = w₀.db.tokens.begin index ∧ w.db.transaction.mutations = [])
      (fun _ => (· = w₀)) := by
  unfold beginTransaction
  refine triple_behindLock rfl (Triple.fetched ?_)
  refine .bind (Q := fun found w => w = w₀ ∧ getHandleSlotUnsafe cfg w₀.db raw = .ok found)
    (Triple.liftResult (fun _ _ hw hf => ⟨hw, hf⟩) fun _ _ hw _ => hw) fun found =>
    .of_pure (fun _ hw => hw.2) fun hfound => .pre (S := (· = w₀)) ?_ fun _ hw => hw.1
  obtain ⟨index, handle⟩ := found
  obtain ⟨-, -, -, rfl⟩ := getHandleSlotUnsafe_eq_ok hfound
  refine .bind (Triple.check fun _ hw => hw) fun _ => .of_pure (fun _ hw => hw.2) fun hmode =>
    .pre (S := (· = w₀)) ?_ fun _ hw => hw.1
  refine .bind (Triple.check fun _ hw => hw) fun _ => .of_pure (fun _ hw => hw.2) fun hidle =>
    .pre (S := (· = w₀)) ?_ fun _ hw => hw.1
  refine .bind (Triple.check fun _ hw => hw) fun _ => .of_pure (fun _ hw => hw.2) fun hcounter =>
    .pre (S := (· = w₀)) ?_ fun _ hw => hw.1
  push Not at hidle
  refine .bind (Q := fun _ w => w.db.tokens = w₀.db.tokens.begin index ∧
    w.db.transaction.mutations = []) (Triple.modifyDb fun w hw => ?_) fun _ =>
    .pure fun w hw => ⟨index, hfound, not_not.mp hmode, by simpa using hidle.1, hcounter, rfl, hw⟩
  rw [hw]
  exact ⟨rfl, rfl⟩

lemma triple_abort_cleared (hsound : Sound cfg w₀.db) (raw : ℕ) :
    Triple (· = w₀) (abort cfg raw)
      (fun _ w => w₀.db.valueWriter.active = false ∧ w.db.transaction.mutations = [])
      (fun _ => (· = w₀)) :=
  triple_committable (fun _ hw => hw ▸ hsound) (fun _ _ hw => hw) fun _ _ =>
    Triple.modifyDb fun _ hw => ⟨hw.2 ▸ hw.1.1.idle, rfl⟩

/-! ## Erasures -/

lemma Denotes.isTombstone_iff {manifest : ManifestRecord} {m : Media} {v : StoredValue}
    {o : Option Bytes} (h : Denotes manifest m v o) : v.isTombstone = true ↔ o = none := by
  cases h with
  | tombstone => exact ⟨fun _ => rfl, fun _ => rfl⟩
  | inline => exact ⟨fun h => (by cases h), fun h => (by cases h)⟩
  | external => exact ⟨fun h => (by cases h), fun h => (by cases h)⟩

/-- **A transaction sees its edits over the map.** -/
lemma Holding.lookupTransaction (h : Holding cfg c staging w) (hsteady : Steady cfg w)
    (hkey : validateBytes key = true) (namespaceName : Bytes) :
    (∀ view, lookupTransactionUnsafe cfg w.db w.dev.current namespaceName key = .ok view →
      Denotes w.db.manifest w.dev.current view.value
        (overlay c namespaceName staging.edits ⟨namespaceName, key⟩)) ∧
    (lookupTransactionUnsafe cfg w.db w.dev.current namespaceName key = .error .notFound →
      overlay c namespaceName staging.edits ⟨namespaceName, key⟩ = none) := by
  unfold lookupTransactionUnsafe findStagedMutationUnsafe overlay Staging.edits
  rw [if_pos hkey]
  dsimp only
  rw [if_pos rfl]
  rcases h.stages.lookup key with ⟨m, hm, hsame, o, hlookup, hdenotes⟩ | ⟨hnone, hlookup⟩
  · have hfind : w.db.transaction.mutations.find? (fun n => n.key == key) = some m := by
      rw [← hsame]
      exact find?_key hsteady.sound.staged.keys hm
    rw [hfind, hlookup]
    refine ⟨fun view hview => ?_, fun hmissing => (by cases hmissing)⟩
    cases hview
    exact hdenotes
  · have hfind : w.db.transaction.mutations.find? (fun n => n.key == key) = none :=
      List.find?_eq_none.mpr fun m hm heq => hnone m hm (eq_of_beq heq)
    rw [hfind, hlookup]
    exact h.serves.lookup hsteady.sound hsteady.ordered hkey

/-- A stale token is not reported as a missing key. -/
lemma getTransactionUnsafe_found {db : Db} {raw : ℕ} {e : EspErr}
    (herror : getTransactionUnsafe cfg db raw = .error e) : e ≠ .notFound := by
  rintro rfl
  unfold getTransactionUnsafe at herror
  split at herror
  · cases herror
  · dsimp only at herror
    split_ifs at herror <;> cases herror

/-- A staging is not refused for a missing key. -/
lemma stageValueUnsafe_found {db : Db} {raw : ℕ} {handle : HandleSlot} {v : StoredValue}
    {e : EspErr} (hhandle : getTransactionUnsafe cfg db raw = .ok handle)
    (herror : stageValueUnsafe cfg db raw key v = .error e) : e ≠ .notFound := by
  unfold stageValueUnsafe at herror
  rw [hhandle] at herror
  simp only [bind_eq_error, rejectIf_eq_error] at herror
  rcases herror with ⟨-, rfl⟩ | ⟨_, -, herror | ⟨_, -, ⟨-, rfl⟩ | ⟨_, -, ⟨-, rfl⟩ | ⟨_, -, herror⟩⟩⟩⟩
  · decide
  · cases herror
  · decide
  · decide
  · cases herror

/-- **An erasure is an edit of a key that is there**, and only a missing key is reported so. -/
lemma triple_eraseKey_holding (hholding : Holding cfg c staging w₀) (hsteady : Steady cfg w₀)
    (raw : ℕ) :
    Triple (· = w₀) (eraseKey cfg raw key)
      (fun _ w => Aside w₀ w ∧ Holding cfg c (staging.put key none) w ∧
        ∃ handle, getTransactionUnsafe cfg w₀.db raw = .ok handle ∧
          overlay c handle.namespaceName staging.edits ⟨handle.namespaceName, key⟩ ≠ none)
      (fun e w => (Aside w₀ w ∧ w.db = w₀.db) ∧ (e = .notFound → ∃ handle,
        getTransactionUnsafe cfg w₀.db raw = .ok handle ∧
          overlay c handle.namespaceName staging.edits ⟨handle.namespaceName, key⟩ = none)) := by
  have hsame : Aside w₀ w₀ ∧ w₀.db = w₀.db := ⟨refl_of Aside w₀, rfl⟩
  unfold eraseKey
  refine .bind (Triple.check fun w hw => ⟨hw ▸ hsame, fun he => (by cases he)⟩) fun _ =>
    .of_pure (fun _ hw => hw.2) fun hkey => .pre (S := (· = w₀)) ?_ fun _ hw => hw.1
  have hkey : validateBytes key = true := by simpa using hkey
  refine triple_behindLock ⟨hsame, fun he => (by cases he)⟩ (Triple.fetched ?_)
  refine .bind (Q := fun handle w => w = w₀ ∧ getTransactionUnsafe cfg w₀.db raw = .ok handle)
    (Triple.liftResult (fun _ _ hw hf => ⟨hw, hf⟩) fun w e hw hf => ⟨hw ▸ hsame, fun he =>
      absurd he (getTransactionUnsafe_found hf)⟩)
    fun handle => .of_pure (fun _ hw => hw.2) fun hhandle => .pre (S := (· = w₀)) ?_ fun _ hw => hw.1
  have hseen := hholding.lookupTransaction hsteady hkey handle.namespaceName
  obtain ⟨w₁, hw₁⟩ : ∃ w₁ : World, w₁ = { w₀ with dev := w₀.dev.tick } := ⟨_, rfl⟩
  have haside : Aside w₀ w₁ := by rw [hw₁]; exact Aside.tick w₀
  have hdb : w₁.db = w₀.db := by rw [hw₁]
  refine .bind (Q := fun view w => w = w₁ ∧ lookupTransactionUnsafe cfg w₀.db w₀.dev.current
      handle.namespaceName key = .ok view) (Triple.inspect (fun w view hw _ hread => ?_)
        (fun w e hw hread => ?_) fun w hw _ => ?_) fun view => .of_pure (fun _ hw => hw.2)
    fun hview => .pre (S := (· = w₁)) ?_ fun _ hw => hw.1
  · rw [hw] at hread
    exact ⟨by rw [hw, hw₁], hread⟩
  · rw [hw] at hread ⊢
    refine ⟨⟨Aside.tick w₀, rfl⟩, fun he => ⟨handle, hhandle, hseen.2 ?_⟩⟩
    rw [hread, he]
  · rw [hw]
    exact ⟨⟨Aside.tick w₀, rfl⟩, fun he => (by cases he)⟩
  have hdenotes := hseen.1 view hview
  refine .bind (Q := fun _ w => w = w₁ ∧ view.value.isTombstone ≠ true)
    (Triple.failIf (fun _ hw hthere => ⟨hw, hthere⟩) fun w hw htombstone => ?_) fun _ =>
    .of_pure (fun _ hw => hw.2) fun hthere => .pre (S := (· = w₁)) ?_ fun _ hw => hw.1
  · rw [hw]
    exact ⟨⟨haside, hdb⟩, fun _ => ⟨handle, hhandle, hdenotes.isTombstone_iff.mp htombstone⟩⟩
  have hholding₁ : Holding cfg c staging w₁ := haside.holding hholding (by rw [hdb])
  refine (triple_stageValueUnsafe_holding hholding₁ raw .tombstone).conseq (fun _ hw => hw)
    (fun _ w hw => ⟨trans_of Aside haside hw.1, hw.2.1, handle, hhandle, fun hnone =>
      hthere (hdenotes.isTombstone_iff.mpr hnone)⟩) fun e w hw => ?_
  rw [hw.1]
  refine ⟨⟨haside, hdb⟩, fun he => ?_⟩
  rw [hdb] at hw
  exact absurd he (stageValueUnsafe_found hhandle hw.2)

/-! ## Lookups -/

/-- A stale handle is not reported as a missing key. -/
lemma getHandleSlotUnsafe_found {db : Db} {raw : ℕ} {e : EspErr}
    (herror : getHandleSlotUnsafe cfg db raw = .error e) : e ≠ .notFound := by
  rintro rfl
  unfold getHandleSlotUnsafe at herror
  split at herror
  · cases herror
  · dsimp only at herror
    split_ifs at herror <;> cases herror

/-- **A value that is opened is there**, and only a missing key is reported so. -/
lemma triple_openValue_there (hserves : Serves cfg c w₀) (hsteady : Steady cfg w₀) (raw : ℕ) :
    Triple (· = w₀) (openValue cfg raw key)
      (fun _ _ => ∃ p bytes, getHandleSlotUnsafe cfg w₀.db raw = .ok p ∧
        c ⟨p.2.namespaceName, key⟩ = some bytes ∧ HasBytes cfg w₀ raw key bytes)
      (fun e _ => e = .notFound → ∃ p, getHandleSlotUnsafe cfg w₀.db raw = .ok p ∧
        c ⟨p.2.namespaceName, key⟩ = none) := by
  unfold openValue openValueUnsafe
  refine .bind (Triple.check fun w hw he => by cases he) fun _ => .of_pure (fun _ hw => hw.2)
    fun hkey => .pre (S := (· = w₀)) ?_ fun _ hw => hw.1
  have hkey : validateBytes key = true := by simpa using hkey
  refine triple_behindLock (fun he => by cases he) (Triple.fetched ?_)
  refine .bind (Q := fun p w => w = w₀ ∧ getHandleSlotUnsafe cfg w₀.db raw = .ok p)
    (Triple.liftResult (fun _ _ hw hf => ⟨hw, hf⟩) fun w e hw hf he =>
      absurd he (getHandleSlotUnsafe_found hf)) fun p => .of_pure (fun _ hw => hw.2) fun hhandle =>
    .pre (S := (· = w₀)) ?_ fun _ hw => hw.1
  have hseen := @Serves.lookup cfg w₀ ⟨p.2.namespaceName, key⟩ c hserves hsteady.sound
    hsteady.ordered hkey
  refine .bind (Q := fun view _ => lookupCommittedUnsafe cfg w₀.db w₀.dev.current
      ⟨p.2.namespaceName, key⟩ = .ok view) (Triple.inspect (fun w view hw _ hread => ?_)
        (fun w e hw hread he => ⟨p, hhandle, hseen.2 ?_⟩) fun w hw _ he => by cases he) fun view =>
    .of_pure (fun _ hw => hw) fun hview => ?_
  · rwa [hw] at hread
  · rw [hw] at hread
    rw [hread, he]
  have hdenotes := hseen.1 view hview
  refine .bind (Q := fun _ _ => view.value.isTombstone ≠ true)
    (Triple.failIf (fun _ _ hthere => hthere) fun w _ htombstone _ =>
      ⟨p, hhandle, hdenotes.isTombstone_iff.mp htombstone⟩) fun _ =>
    .of_pure (fun _ hw => hw) fun hthere => ?_
  obtain ⟨bytes, hbytes⟩ : ∃ bytes, c ⟨p.2.namespaceName, key⟩ = some bytes :=
    Option.ne_none_iff_exists'.mp fun hnone => hthere (hdenotes.isTombstone_iff.mpr hnone)
  have hshown : HasBytes cfg w₀ raw key bytes := by
    refine ⟨p, view, hhandle, hview, ?_⟩
    rw [hbytes] at hdenotes
    generalize view.value = v at hdenotes
    cases hdenotes with
    | inline => exact .inl rfl
    | external hheld => exact .inr ⟨_, rfl, hheld⟩
  refine .bind (Q := fun _ _ => True) (Triple.getDb fun _ _ => trivial) fun db =>
    .bind (Q := fun _ _ => True) (Triple.failIf (fun _ _ _ => trivial) fun _ _ _ he => by cases he)
      fun _ => .bind (Q := fun _ _ => True)
        (Triple.failIf (fun _ _ _ => trivial) fun _ _ _ he => by cases he) fun _ => ?_
  cases (List.range cfg.maxValueReaders).find? fun index => !(db.valueReaders index).used with
  | none => exact .throw fun _ _ he => by cases he
  | some index =>
      exact .bind (Q := fun _ _ => True) (Triple.modifyDb fun _ _ => trivial) fun _ =>
        .bind (Q := fun _ _ => True) (Triple.modifyDb fun _ _ => trivial) fun _ =>
          .pure fun _ _ => ⟨p, bytes, hhandle, hbytes, hshown⟩

/-! ## Writers -/

variable {size : ℕ}

/-- A writer that has not been given any bytes. -/
lemma WriterHas.new {writer : ValueWriterSlot} (hwriter : w.db.valueWriter = writer)
    (hactive : writer.active = true) (hkey : writer.key = key)
    (hexpected : writer.expectedSize = size)
    (hkind : writer.inlineValue = decide (size ≤ cfg.inlineValueLen))
    (hcount : writer.writtenSize = 0) (hchecksum : writer.checksumState = crcInit)
    (hbuffer : writer.buffer = []) : WriterHas cfg key size [] w := by
  subst hwriter
  refine ⟨hactive, hkey, hexpected, hkind, hcount, hchecksum, fun _ => hbuffer, fun _ => ⟨?_, ?_⟩⟩
  · rw [hbuffer, List.drop_nil]
  · rw [List.take_nil]
    exact .nil

/-- **A new writer**, behind the compaction that makes room for it. -/
lemma triple_beginValueWriteUnsafe_composing (hholding : Holding cfg c staging w₀)
    (hsteady : Steady cfg w₀) (hhealthy : w₀.db.storageFaulted = false) (raw : ℕ) :
    Triple (· = w₀) (beginValueWriteUnsafe cfg raw key size)
      (fun _ w => w₀.db.valueWriter.active = false ∧ Composing cfg c staging key size [] w ∧
        ∃ handle, getTransactionUnsafe cfg w₀.db raw = .ok handle)
      (fun _ w => w = w₀ ∨ (w₀.db.valueWriter.active = false ∧ w.db.valueWriter.active = false ∧
        Holding cfg c staging w)) := by
  unfold beginValueWriteUnsafe
  refine .bind (Triple.check fun w hw => .inl hw) fun _ => .pre (S := (· = w₀))
    (Triple.fetched ?_) fun _ hw => hw.1
  refine .bind (Q := fun handle w => w = w₀ ∧ getTransactionUnsafe cfg w₀.db raw = .ok handle)
    (Triple.liftResult (fun _ _ hw hf => ⟨hw, hf⟩) fun _ _ hw _ => .inl hw) fun handle =>
    .of_pure (fun _ hw => hw.2) fun hhandle => .pre (S := (· = w₀)) ?_ fun _ hw => hw.1
  refine .bind (Triple.check fun w hw => .inl hw) fun _ => .of_pure (fun _ hw => hw.2)
    fun hchecks => .pre (S := (· = w₀)) ?_ fun _ hw => hw.1
  push Not at hchecks
  have hidle : w₀.db.valueWriter.active = false := by simpa using hchecks.1
  have htended : Tended cfg c staging w₀ := ⟨hholding, hsteady, hhealthy, hidle⟩
  refine .bind (((tends_makeValueRoom size c staging).both ((carrying_makeValueRoom size).triple
      (P := (· = w₀)) (Q := fun _ w => Carried cfg w₀ w) (E := fun _ w => Carried cfg w₀ w)
      (fun w w' _ hw h => ?_) fun w w' _ hw h => ?_)).conseq (fun w hw => ⟨hw ▸ htended, hw⟩)
      (fun _ w hw => hw) fun _ w hw => .inr ⟨hidle, hw.2.idle, hw.1⟩) fun _ => ?_
  · rw [hw] at h
    exact h hsteady.sound hidle
  · rw [hw] at h
    exact h hsteady.sound hidle
  refine .bind Triple.fetch fun db => .bind (Q := fun _ w => Composing cfg c staging key size [] w)
    (Triple.modifyDb fun w hw => ?_) fun _ => .pure fun w hw => ⟨hidle, hw, handle, hhandle⟩
  obtain ⟨⟨htended', -⟩, rfl⟩ := hw
  obtain ⟨hserves, hmeans, hsmall⟩ := htended'.holding
  refine ⟨⟨hserves.of_eq rfl rfl rfl rfl rfl rfl, hmeans, hsmall⟩, ?_⟩
  dsimp only
  split_ifs with hinline
  · exact .new rfl rfl rfl rfl rfl rfl rfl rfl
  · exact .new rfl rfl rfl rfl rfl rfl rfl rfl

/-- **A long value is an edit like any other**; when it cannot be staged, no writer is left. -/
lemma triple_setExternal_holding (hholding : Holding cfg c staging w₀) (hsteady : Steady cfg w₀)
    (hhealthy : w₀.db.storageFaulted = false) (raw : ℕ) (value : Bytes) :
    Triple (· = w₀) (setExternal cfg raw key value)
      (fun _ w => w₀.db.valueWriter.active = false ∧ w.db.valueWriter.active = false ∧
        (∃ handle, getTransactionUnsafe cfg w₀.db raw = .ok handle) ∧
        ∃ staging', Holding cfg c staging' w ∧
          staging'.edits = Function.update staging.edits key (some (some value)))
      (fun _ w => w.db.valueWriter.active = false ∧ Holding cfg c staging w) := by
  unfold setExternal
  refine Triple.onError (F := fun _ => Holding cfg c staging) ?_ fun _ => .bind Triple.fetch
    fun db => .ite (fun _ => ?_) fun hidle => .pure fun w hw => ⟨?_, hw.1⟩
  · have hsteps : Triple (· = w₀) (beginValueWriteUnsafe cfg raw key value.length)
        (fun _ w => Sound cfg w.db) fun _ _ => True :=
      (keeping_beginValueWriteUnsafe raw key value.length).triple
        (fun w _ _ hw hkeep => hkeep (hw ▸ hsteady.sound)) fun _ _ _ _ _ => trivial
    refine .bind (((triple_beginValueWriteUnsafe_composing hholding hsteady hhealthy raw).both
      hsteps).conseq (fun _ hw => ⟨hw, hw⟩) (fun _ _ hw => hw) fun _ w hw => ?_) fun _ => ?_
    · rcases hw.1 with rfl | hw
      · exact hholding
      · exact hw.2.2
    · refine .of_state fun w₁ hw₁ => ?_
      obtain ⟨⟨hidle, hcomposing, hhandle⟩, hsound⟩ := hw₁
      have hwrites : Triple (· = w₁) (writeValueUnsafe value)
          (fun _ w => Sound cfg w.db) fun _ _ => True :=
        (keeping_writeValueUnsafe value).triple
          (fun w _ _ hw hkeep => hkeep (hw ▸ hsound)) fun _ _ _ _ _ => trivial
      refine .bind (((triple_writeValueUnsafe_written hcomposing hsound value).both hwrites).conseq
        (fun _ hw => ⟨hw, hw⟩) (fun _ _ hw => hw) fun _ w hw => ?_) fun _ => ?_
      · obtain ⟨⟨front, -, hcomposing⟩, -⟩ := hw
        exact hcomposing.holding
      · refine .of_state fun w₂ hw₂ => ?_
        obtain ⟨⟨-, hcomposing₂⟩, hsound₂⟩ := hw₂
        refine (triple_finishValueWriteUnsafe_composing hcomposing₂ hsound₂).conseq
          (fun _ hw => hw) (fun _ w hw => ⟨hidle, hw.2.1, hhandle, hw.2.2⟩) fun _ w hw => ?_
        rcases hw with rfl | rfl
        · exact hcomposing₂.holding
        · exact hcomposing₂.holding.withWriter _
  · unfold resetWriter modifyWriter
    exact Triple.modifyDb fun w hw => ⟨rfl, hw.1.withWriter _⟩
  · rw [hw.2]
    exact Bool.eq_false_of_not_eq_true hidle

end On9kvdb
