import On9kvdb.Steady.Maintenance

/-!
# The steps of the calls

Every call between `init` and `deinit` is a sequence of steps of the stored state
(`turns_perform`).  Only a finished value and a commit rest on the invariant of the instance: the
first on what it says about the writer, the second on the promise of the preflight.
-/

namespace On9kvdb

open Exceptional

variable {cfg : Config} {α β : Type}

/-! ## Methods on a sound instance -/

variable (cfg) in
/-- The method is a sequence of steps on a healthy and sound instance, which it leaves healthy and
sound unless it fails. -/
def Advances (x : DbM α) : Prop :=
  ∀ w₀, Triple (fun w => Going cfg w₀ w ∧ Sound cfg w.db) x
    (fun _ w => Going cfg w₀ w ∧ Sound cfg w.db) (fun _ => Turns cfg w₀)

namespace Advances

variable {x : DbM α}

lemma of_progresses (hx : Progresses cfg x) (hkeep : Within (Keeping cfg) x) : Advances cfg x :=
  fun w₀ => ((hx w₀).both (hkeep.triple (P := fun w => Sound cfg w.db) (Q := fun _ w => Sound cfg w.db)
    (E := fun _ _ => True) (fun _ _ _ hw h => h hw) fun _ _ _ _ _ => trivial)).conseq
      (fun _ hw => hw) (fun _ _ hw => hw) fun _ _ hw => hw.1

lemma of_quiet (hx : Within Quiet x) (hkeep : Within (Keeping cfg) x) : Advances cfg x :=
  .of_progresses (.of_quiet hx) hkeep

lemma bind {f : α → DbM β} (hx : Advances cfg x) (hf : ∀ a, Advances cfg (f a)) :
    Advances cfg (x >>= f) := fun w₀ => .bind (hx w₀) fun a => hf a w₀

lemma map {f : α → β} (hx : Advances cfg x) : Advances cfg (f <$> x) := by
  rw [map_eq_pure_bind]
  exact hx.bind fun _ _ => .pure fun _ hw => hw

lemma done {x : DbM Unit} (hx : Advances cfg x) {reply : Reply} :
    Advances cfg (do x; return reply) := hx.bind fun _ _ => .pure fun _ hw => hw

/-- What a method does to a healthy and sound instance. -/
lemma turns (hx : Advances cfg x) {w : World} (hw : w.db.storageFaulted = false)
    (hsound : Sound cfg w.db) : Turns cfg w (exec x w).2 := by
  refine Triple.final (P := fun v => Going cfg w v ∧ Sound cfg v.db) (F := Turns cfg w) ?_
    ⟨⟨.refl, hw⟩, hsound⟩
  exact (hx w).conseq (fun _ h => h) (fun _ _ h => h.1.1) fun _ _ h => h

end Advances

/-! ## Staging -/

lemma quiet_acquireOperationLock : Within Quiet acquireOperationLock :=
  .bind Within.getDb fun _ => Within.failIf

lemma quiet_openNamespace (name : Bytes) (mode : OpenMode) :
    Within Quiet (openNamespace cfg name mode) := by
  unfold openNamespace
  refine .bind Within.failIf fun _ => .bind quiet_acquireOperationLock fun _ =>
    .bind Within.getDb fun db => .bind Within.liftResult fun _ => ?_
  cases (List.range cfg.limits.maxOpenHandles).find? fun index => !(db.handles index).used with
  | none => exact .throw
  | some index =>
      exact .bind Within.failIf fun _ => .bind (quiet_modifyDb fun _ => rfl) fun _ => .pure

lemma quiet_closeHandle (raw : ℕ) : Within Quiet (closeHandle cfg raw) := by
  unfold closeHandle
  exact .bind quiet_acquireOperationLock fun _ => .bind Within.getDb fun _ =>
    .bind Within.liftResult fun _ => .bind Within.failIf fun _ => quiet_modifyDb fun _ => rfl

lemma quiet_beginTransaction (raw : ℕ) : Within Quiet (beginTransaction cfg raw) := by
  unfold beginTransaction
  exact .bind quiet_acquireOperationLock fun _ => .bind Within.getDb fun _ =>
    .bind Within.liftResult fun _ => .bind Within.failIf fun _ => .bind Within.failIf fun _ =>
    .bind Within.failIf fun _ => .bind (quiet_modifyDb fun _ => rfl) fun _ => .pure

lemma quiet_abort (raw : ℕ) : Within Quiet (abort cfg raw) := by
  unfold abort
  exact .bind quiet_acquireOperationLock fun _ => .bind Within.getDb fun _ =>
    .bind Within.liftResult fun _ => .bind Within.failIf fun _ => quiet_modifyDb fun _ => rfl

lemma quiet_stageValueUnsafe (raw : ℕ) (key : Bytes) (v : StoredValue) :
    Within Quiet (do
      let db ← getDb
      let db ← liftResult (stageValueUnsafe cfg db raw key v)
      modifyDb fun _ => db) :=
  quiet_replace fun db db' h => by
    rw [stageValueUnsafe_frame h]
    rfl

lemma quiet_eraseKey (raw : ℕ) (key : Bytes) : Within Quiet (eraseKey cfg raw key) := by
  unfold eraseKey
  exact .bind Within.failIf fun _ => .bind quiet_acquireOperationLock fun _ =>
    .bind Within.getDb fun _ => .bind Within.liftResult fun _ => .bind quiet_readStorage fun _ =>
    .bind Within.failIf fun _ => quiet_stageValueUnsafe raw key .tombstone

lemma quiet_resetWriter : Within Quiet resetWriter := quiet_modifyDb fun _ => rfl

/-! ## Writers -/

lemma progresses_beginValueWriteUnsafe (raw : ℕ) (key : Bytes) (valueSize : ℕ) :
    Progresses cfg (beginValueWriteUnsafe cfg raw key valueSize) := by
  unfold beginValueWriteUnsafe makeValueRoom
  refine .bind .failIf fun _ => .bind .getDb fun _ => .bind .liftResult fun _ =>
    .bind .failIf fun _ => .bind (.bind .getDb fun _ => .ite
      (.bind progresses_compactTablesUnsafe fun _ => .bind .getDb fun _ => .failIf) .pure) fun _ => ?_
  exact .bind .getDb fun _ => .bind (.of_quiet (quiet_modifyDb fun _ => rfl)) fun _ => .pure

lemma quiet_flushCollectedChunk : Within Quiet flushCollectedChunk := by
  unfold flushCollectedChunk flushValueWriterChunkUnsafe
  refine .bind Within.getDb fun _ => .ite (.bind Within.getDb fun db =>
    .bind Within.failIf fun _ => ?_) .pure
  cases encodeValueChunk db.manifest.databaseId db.valueWriter.reference.bankGeneration
      db.valueWriter.reference.firstChunkOffset db.valueWriter.expectedSize
      (db.valueWriter.writtenSize - db.valueWriter.chunkPayloadSize)
      (db.valueWriter.buffer.take db.valueWriter.chunkPayloadSize) with
  | none => exact .throw
  | some chunk => exact .bind (quiet_writeStorage trivial) fun _ => quiet_modifyDb fun _ => rfl

lemma quiet_writeValueLoop (fuel : ℕ) (data : Bytes) : Within Quiet (writeValueLoop fuel data) := by
  induction fuel generalizing data with
  | zero => exact .pure
  | succ fuel ih =>
      unfold writeValueLoop
      exact .ite (.bind Within.getDb fun _ => .bind (quiet_modifyDb fun _ => rfl) fun _ =>
        .bind quiet_flushCollectedChunk fun _ => ih _) .pure

lemma quiet_writeValueUnsafe (data : Bytes) : Within Quiet (writeValueUnsafe data) := by
  unfold writeValueUnsafe
  exact .bind Within.getDb fun _ => .bind Within.failIf fun _ =>
    .ite (quiet_modifyDb fun _ => rfl) (quiet_writeValueLoop _ data)

/-- A finished external value ends where the tail moves to. -/
lemma tailMoved_of_stage {db db' : Db} (h : Sound cfg db) (hactive : db.valueWriter.active = true)
    (hexternal : db.valueWriter.inlineValue = false)
    (hwritten : db.valueWriter.writtenSize = db.valueWriter.expectedSize)
    (hflushed : db.valueWriter.chunkPayloadSize = 0) (hstage : stageWriterValue cfg db = .ok db') :
    TailMoved cfg db.manifest db.valueWriter.nextChunkOffset := by
  have hfills := (h.writer hactive).fills hexternal
  have hnext := hfills.next
  unfold stageWriterValue at hstage
  dsimp only at hstage
  rw [hexternal, if_neg (by decide)] at hstage
  unfold stageExternalValueUnsafe at hstage
  rw [bind_eq_ok] at hstage
  obtain ⟨_, hmatches, -⟩ := hstage
  have hmatches' := Bool.eq_true_of_not_eq_false (rejectIf_eq_ok.mp hmatches)
  refine ⟨by omega, ?_, ?_⟩
  · rw [← hfills.complete hwritten hflushed]
    unfold valueRefMatchesBankUnsafe at hmatches'
    simp only [Bool.and_eq_true, decide_eq_true_eq] at hmatches'
    exact hmatches'.2
  · rw [hnext, Nat.add_sub_cancel_left, Nat.mul_mod_left]

/-- **A finished value moves the tail of the active bank behind it.** -/
theorem advances_finishValueWriteUnsafe : Advances cfg (finishValueWriteUnsafe cfg) := by
  suffices h : ∀ w₁, w₁.db.storageFaulted = false → Sound cfg w₁.db →
      Triple (· = w₁) (finishValueWriteUnsafe cfg) (fun _ => Going cfg w₁)
        (fun _ => Turns cfg w₁) by
    refine fun w₀ => .of_state fun w₁ hw₁ => ((h w₁ hw₁.1.2 hw₁.2).both
      ((@keeping_finishValueWriteUnsafe cfg).triple (P := (· = w₁))
        (Q := fun _ w => Sound cfg w.db) (E := fun _ _ => True)
        (fun _ _ _ hw hkeep => hkeep (hw ▸ hw₁.2)) fun _ _ _ _ _ => trivial)).conseq
      (fun w hw => ⟨hw, hw⟩) (fun _ w hw => ?_) fun _ w hw => hw₁.1.1.trans hw.1
    exact ⟨⟨hw₁.1.1.trans hw.1.1, hw.1.2⟩, hw.2⟩
  intro w₁ hhealthy hsound
  unfold finishValueWriteUnsafe
  refine .bind Triple.fetch fun db => .of_pure (fun w hw => hw.2 ▸ congrArg World.db hw.1) ?_
  rintro rfl
  refine .pre (S := (· = w₁)) ?_ fun w hw => hw.1
  refine .bind (Triple.check fun w hw => hw ▸ .refl) fun _ => .of_pure (fun w hw => hw.2)
    fun hchecks => .pre (S := (· = w₁)) ?_ fun w hw => hw.1
  push Not at hchecks
  obtain ⟨hactive, hwritten, hflushed⟩ := hchecks
  refine .bind (Q := fun _ => Going cfg w₁) (Triple.onError (F := fun _ => (· = w₁))
    (.bind (Q := fun db w => w = w₁ ∧ stageWriterValue cfg w₁.db = .ok db)
      (Triple.liftResult (fun _ _ hw hf => ⟨hw, hf⟩) fun _ _ hw _ => hw) fun db =>
        Triple.modifyDb fun w hw => ?_) fun _ => ?_) fun _ =>
    (Progresses.of_quiet quiet_resetWriter) w₁
  · obtain ⟨rfl, hstage⟩ := hw
    have hframe := stageWriterValue_frame hstage
    have hstored : db.stored = w.db.stored := by
      rw [hframe]
      rfl
    split_ifs with hinline
    · exact ⟨.single (.quiet ⟨hstored, .refl⟩), (congrArg Stored.storageFaulted hstored).trans hhealthy⟩
    · have hexternal : w.db.valueWriter.inlineValue = false := by simpa using hinline
      have hactive' : w.db.valueWriter.active = true := by simpa using hactive
      have hmoved := tailMoved_of_stage hsound hactive' hexternal hwritten hflushed hstage
      have hbank := ((hsound.writer hactive').fills hexternal).bank
      have hwriter : db.valueWriter = w.db.valueWriter := by rw [hframe]
      have hmanifest : db.manifest = w.db.manifest := by rw [hframe]
      refine ⟨.single (.grown hmoved ?_ rfl), (congrArg Stored.storageFaulted hstored).trans hhealthy⟩
      show { db.stored with manifest := (publishWriterTail db).manifest } = _
      unfold publishWriterTail
      dsimp only
      rw [hstored, hwriter, hmanifest, hbank]
      rfl
  · exact (triple_quiet quiet_resetWriter).conseq (fun w hw => hw ▸ refl_of Quiet w₁)
      (fun _ _ hw => .single (.quiet hw)) fun _ _ hw => hw

lemma advances_set (raw : ℕ) (key value : Bytes) : Advances cfg (set cfg raw key value) := by
  have hlock : Advances cfg acquireOperationLock :=
    .of_quiet quiet_acquireOperationLock (keeping_of_sameParts sameParts_acquireOperationLock)
  have hundo : Within Quiet (do let db ← getDb; if db.valueWriter.active then resetWriter) :=
    .bind Within.getDb fun _ => .ite quiet_resetWriter .pure
  unfold set setExternal
  refine .bind (.of_quiet Within.failIf Within.failIf) fun _ => .bind hlock fun _ => ?_
  split_ifs with hinline
  · exact .of_quiet (quiet_stageValueUnsafe raw key _) (keeping_stageValueUnsafe raw key rfl)
  · exact fun w₀ => Triple.onError (F := fun _ => Turns cfg w₀)
      ((Advances.bind (.of_progresses (progresses_beginValueWriteUnsafe _ _ _)
        (keeping_beginValueWriteUnsafe _ _ _)) fun _ => .bind (.of_quiet (quiet_writeValueUnsafe _)
          (keeping_writeValueUnsafe _)) fun _ => advances_finishValueWriteUnsafe) w₀) fun _ =>
      hundo.invariant fun _ _ hw hquiet => hw.quiet hquiet

/-! ## Commits -/

lemma preflightMutations_content {db : Db} {m : Media} {namespaceIndex : ℕ} {namespaceName : Bytes}
    {mutations : List Mutation} {t : PreflightTotals} {r : PreflightTotals × List Mutation}
    (h : preflightMutations cfg db m namespaceIndex namespaceName t mutations = .ok r) :
    r.2.map Mutation.content = mutations.map Mutation.content := by
  induction mutations generalizing t r with
  | nil =>
      cases h
      rfl
  | cons mutation rest ih =>
      unfold preflightMutations at h
      rw [bind_eq_ok] at h
      obtain ⟨⟨t', mutation'⟩, hone, h⟩ := h
      rw [bind_eq_ok] at h
      obtain ⟨r', hrest, h⟩ := h
      cases h
      have hsame : mutation'.content = mutation.content := by
        unfold preflightMutation at hone
        rw [bind_eq_ok] at hone
        obtain ⟨found, -, hone⟩ := hone
        dsimp only at hone
        rw [bind_eq_ok] at hone
        obtain ⟨_, -, hone⟩ := hone
        rw [bind_eq_ok] at hone
        obtain ⟨_, -, hone⟩ := hone
        rw [bind_eq_ok] at hone
        obtain ⟨_, -, hone⟩ := hone
        cases hone
        rfl
      rw [List.map_cons, List.map_cons, hsame, ih hrest]

/-- The staged mutations are as many and on the same keys. -/
def SameShapes (w w' : World) : Prop :=
  w'.db.transaction.mutations.map Mutation.shape = w.db.transaction.mutations.map Mutation.shape

instance : Std.Refl SameShapes := ⟨fun _ => rfl⟩

instance : IsTrans World SameShapes := ⟨fun _ _ _ h₁ h₂ => Eq.trans h₂ h₁⟩

lemma sameShapes_preflightTransaction (namespaceName : Bytes) :
    Within SameShapes (preflightTransaction cfg namespaceName) := by
  refine .of_triple fun w₀ => ?_
  unfold preflightTransaction
  refine .bind (Q := fun mutations w => w.db = w₀.db ∧
      mutations.map Mutation.content = w₀.db.transaction.mutations.map Mutation.content)
    (Triple.readStorage (fun w mutations hw hrun => ⟨by rw [hw], ?_⟩)
      fun w _ hw => by rw [hw]; exact refl_of SameShapes _) fun mutations => Triple.modifyDb fun w hw => ?_
  · rw [hw] at hrun
    unfold preflightMemtableTransactionUnsafe at hrun
    rw [bind_eq_ok] at hrun
    obtain ⟨_, -, hrun⟩ := hrun
    rw [bind_eq_ok] at hrun
    obtain ⟨registered, -, hrun⟩ := hrun
    rw [bind_eq_ok] at hrun
    obtain ⟨r, hpreflight, hrun⟩ := hrun
    rw [bind_eq_ok] at hrun
    obtain ⟨_, -, hrun⟩ := hrun
    cases hrun
    exact preflightMutations_content hpreflight
  · exact shape_of_content hw.2

/-- A sound instance without an active writer that keeps its staged mutations. -/
def ShapesKept (cfg : Config) (w₀ w : World) : Prop :=
  (Sound cfg w.db ∧ w.db.valueWriter.active = false) ∧ SameShapes w₀ w

lemma ShapesKept.carried {w₀ w w' : World} (h : ShapesKept cfg w₀ w) (hw : Carrying cfg w w') :
    ShapesKept cfg w₀ w' :=
  ⟨⟨(hw h.1.1 h.1.2).sound, (hw h.1.1 h.1.2).idle⟩, (hw h.1.1 h.1.2).shapes.trans h.2⟩

/-- The preparation of a commit keeps the staged mutations, whatever it makes room for. -/
lemma triple_prepareCommit_shapes (namespaceName : Bytes) (w₀ : World) :
    Triple (ShapesKept cfg w₀) (prepareCommit cfg namespaceName) (fun _ => ShapesKept cfg w₀)
      (fun _ _ => True) := by
  have hcarry : ∀ {α : Type} {x : DbM α}, Within (Carrying cfg) x →
      Triple (ShapesKept cfg w₀) x (fun _ => ShapesKept cfg w₀) (fun _ => ShapesKept cfg w₀) :=
    fun hx => hx.invariant fun _ _ hw h => hw.carried h
  have hpreflight : Triple (ShapesKept cfg w₀) (preflightTransaction cfg namespaceName)
      (fun _ => ShapesKept cfg w₀) (fun _ => ShapesKept cfg w₀) :=
    ((triple_preflightTransaction namespaceName).both
      ((sameShapes_preflightTransaction namespaceName).invariant
        fun _ _ hw h => trans_of SameShapes hw h)).conseq (fun _ hw => hw)
      (fun _ _ hw => ⟨⟨hw.1.sound, hw.1.idle⟩, hw.2⟩) fun _ _ hw => hw
  have hsync : Within (Carrying cfg) syncDirtyBanks :=
    .bind Within.getDb fun _ => .ite (.bind (carrying_of_sameParts sameParts_syncStorage)
      fun _ => carrying_of_sameParts (sameParts_modifyDb fun _ => rfl)) .pure
  have hrest : Triple (ShapesKept cfg w₀) (prepareCommit cfg namespaceName)
      (fun _ => ShapesKept cfg w₀) (fun _ => ShapesKept cfg w₀) := by
    unfold prepareCommit
    exact .bind (Triple.tryCatch hpreflight fun e => .bind (hcarry Within.getDb) fun _ =>
      .ite (fun _ => .bind (hcarry carrying_flushMemtableUnsafe) fun _ => hpreflight)
        fun _ => .throw fun _ hw => hw) fun _ => .bind (hcarry hsync) fun _ =>
      hcarry (carrying_appendTransactionUnsafe namespaceName)
  exact hrest.conseq (fun _ hw => hw) (fun _ _ hw => hw) fun _ _ _ => trivial

lemma quiet_preflightTransaction (namespaceName : Bytes) :
    Within Quiet (preflightTransaction cfg namespaceName) :=
  .bind quiet_readStorage fun _ => quiet_modifyDb fun _ => rfl

lemma progresses_prepareCommit (namespaceName : Bytes) :
    Progresses cfg (prepareCommit cfg namespaceName) := by
  have hpreflight : ∀ w₀, Triple (Going cfg w₀) (preflightTransaction cfg namespaceName)
      (fun _ => Going cfg w₀) (fun _ => Going cfg w₀) := fun w₀ =>
    (quiet_preflightTransaction namespaceName).invariant fun _ _ hw hquiet => hquiet.going hw
  have hsync : Within Quiet syncDirtyBanks := .bind Within.getDb fun _ =>
    .ite (.bind quiet_syncStorage fun _ => quiet_modifyDb fun _ => rfl) .pure
  unfold prepareCommit
  refine .bind (fun w₀ => Triple.tryCatch (hpreflight w₀) fun e => ?_) fun _ =>
    .bind (.of_quiet hsync) fun _ => progresses_appendTransactionUnsafe namespaceName
  exact Progresses.bind .getDb (fun _ => .ite (.bind progresses_flushMemtableUnsafe fun _ =>
    .of_quiet (quiet_preflightTransaction namespaceName)) .throw) w₀

variable (cfg) in
/-- The bucket a search ends at, if any, is one of the index. -/
def BucketSearch.InRange : BucketSearch → Prop
  | .found bucket _ => bucket < cfg.memtableEntryCount
  | .free bucket => bucket < cfg.memtableEntryCount
  | .full => True

lemma bucketIndex_inRange (hash : UInt32) (probe : ℕ) : bucketIndex cfg hash probe < cfg.memtableEntryCount := by
  have hentries := (@Config.memtableEntries_valid cfg).1
  rw [bucketIndex_eq]
  exact Nat.mod_lt _ (by omega)

lemma probeMemtable_inRange {db : Db} {hash : UInt32} {namespaceSlotIndex : ℕ} {key : Bytes}
    {remaining probe : ℕ} {search : BucketSearch}
    (h : probeMemtable cfg db hash namespaceSlotIndex key remaining probe = .ok search) :
    search.InRange cfg := by
  induction remaining generalizing probe with
  | zero =>
      cases h
      trivial
  | succ remaining ih =>
      unfold probeMemtable at h
      dsimp only at h
      cases hb : db.memtable.buckets (bucketIndex cfg hash probe) with
      | none =>
          rw [hb] at h
          cases h
          exact bucketIndex_inRange hash probe
      | some r =>
          rw [hb] at h
          dsimp only at h
          split_ifs at h
          · exact ih h
          · cases h
            exact bucketIndex_inRange hash probe
          · exact ih h

lemma findMemtableBucketUnsafe_inRange {db : Db} {namespaceSlotIndex : ℕ} {key : Bytes}
    {search : BucketSearch} (h : findMemtableBucketUnsafe cfg db namespaceSlotIndex key = .ok search) :
    search.InRange cfg := by
  unfold findMemtableBucketUnsafe at h
  split_ifs at h
  exact probeMemtable_inRange h

lemma appliedUnder_applyMutation {db db' : Db} {namespaceSlotIndex sequence : ℕ} {m : Mutation}
    (h : applyMutation cfg db namespaceSlotIndex sequence m = .ok db') :
    AppliedUnder cfg sequence db.memtable db'.memtable := by
  have hstored : ∀ bucket old stats, bucket < cfg.memtableEntryCount →
      AppliedUnder cfg sequence db.memtable
        (storeRecord db bucket old (mutationRecord namespaceSlotIndex sequence m) stats).memtable :=
      fun bucket old stats hbucket => by
    refine ⟨fun bucket' r hr => ?_, bucket, hbucket, _, Function.update_self .., rfl⟩
    by_cases hsame : bucket' = bucket
    · subst hsame
      rw [show (storeRecord db bucket' old (mutationRecord namespaceSlotIndex sequence m)
        stats).memtable.buckets bucket' = some (mutationRecord namespaceSlotIndex sequence m) from
          Function.update_self ..] at hr
      cases hr
      exact .inl rfl
    · exact .inr ((Function.update_of_ne hsame ..).symm.trans hr)
  unfold applyMutation at h
  rw [bind_eq_ok] at h
  obtain ⟨search, hsearch, h⟩ := h
  have hrange := findMemtableBucketUnsafe_inRange hsearch
  cases search with
  | full => cases h
  | found bucket old =>
      cases h
      exact hstored _ _ _ hrange
  | free bucket =>
      cases h
      exact hstored _ _ _ hrange

/-- Applying mutations, one by one, leaves records of their sequence. -/
lemma appliedUnder_applyMutations {db db' : Db} {namespaceSlotIndex sequence : ℕ}
    {mutations : List Mutation} (hne : mutations ≠ [])
    (h : applyMutations cfg namespaceSlotIndex sequence db mutations = .ok db') :
    AppliedUnder cfg sequence db.memtable db'.memtable := by
  induction mutations generalizing db with
  | nil => exact absurd rfl hne
  | cons m rest ih =>
      rw [applyMutations, bind_eq_ok] at h
      obtain ⟨middle, hone, hrest⟩ := h
      have hfirst := appliedUnder_applyMutation hone
      rcases eq_or_ne rest [] with rfl | hmore
      · cases hrest
        exact hfirst
      · have hlast := ih hmore hrest
        refine ⟨fun bucket r hr => ?_, hlast.newest⟩
        rcases hlast.records bucket r hr with hsequence | hold
        · exact .inl hsequence
        · exact hfirst.records bucket r hold

lemma appliedUnder_applyTransaction {db db' : Db} {namespaceSlotIndex sequence : ℕ}
    {mutations : List Mutation} (hne : mutations ≠ [])
    (h : applyTransactionToMemtableUnsafe cfg db mutations namespaceSlotIndex sequence = .ok db') :
    AppliedUnder cfg sequence db.memtable db'.memtable := by
  unfold applyTransactionToMemtableUnsafe at h
  rw [bind_eq_ok] at h
  obtain ⟨middle, hm, h⟩ := h
  have hunder := appliedUnder_applyMutations hne hm
  cases h
  exact hunder

/-- **A commit applies its mutations under the next sequence**, behind the maintenance it needs. -/
theorem advances_commit (raw : ℕ) : Advances cfg (commit cfg raw) := by
  intro w₀
  refine triple_committable (fun _ hw => hw.2) (fun _ _ hw => hw.1.1) fun db handle =>
    .ite (fun _ => ?_) fun hmutations => ?_
  · refine Triple.modifyDb fun w hw => ⟨Quiet.going (w := w) ⟨rfl, .refl⟩ hw.2.1, ?_⟩
    exact hw.1.1.sound.clearTransaction hw.1.1.idle
  rw [commitMutations_eq]
  refine .of_state fun w₁ hw₁ => ?_
  obtain ⟨⟨hcommittable, rfl⟩, hgoing, -⟩ := hw₁
  refine .bind (Q := fun _ w => (Going cfg w₀ w ∧ Prepared cfg handle.namespaceName w.db) ∧
      SameShapes w₁ w) ((((progresses_prepareCommit handle.namespaceName w₀).both
    (triple_prepareCommit handle.namespaceName)).both
      (triple_prepareCommit_shapes handle.namespaceName w₁)).conseq (fun w hw => ?_)
      (fun _ _ hw => ⟨hw.1, hw.2.2⟩) fun _ _ hw => hw.1.1) fun _ => ?_
  · subst hw
    exact ⟨⟨hgoing, hcommittable.sound, hcommittable.idle⟩, ⟨hcommittable.sound, hcommittable.idle⟩,
      refl_of SameShapes _⟩
  refine Triple.onError (F := fun _ _ => False) (fun w hw => ?_) fun _ _ hw => hw.elim
  obtain ⟨⟨hgoing', hprepared⟩, hshapes⟩ := hw
  obtain ⟨index, namespaces, db', happlicable, happlied⟩ := hprepared.applicable
  rw [exec_publishTransaction happlicable]
  have hne : w.db.transaction.mutations ≠ [] := fun hnil => hmutations <| by
    have hshapes' : w.db.transaction.mutations.map Mutation.shape =
        w₁.db.transaction.mutations.map Mutation.shape := hshapes
    rwa [hnil, List.map_nil, eq_comm, List.map_eq_nil_iff] at hshapes'
  have hunder := appliedUnder_applyTransaction hne happlicable.applied
  have hframe := happlied.frame
  refine ⟨⟨hgoing'.1.tail (.applied hunder ?_ rfl), ?_⟩,
    hprepared.published happlicable.registered happlied⟩
  · show { db'.stored with nextTransactionSequence := db'.nextTransactionSequence + 1 } = _
    rw [hframe]
    rfl
  · show db'.storageFaulted = false
    rw [hframe]
    exact hgoing'.2

/-! ## Readers -/

lemma quiet_openValue (raw : ℕ) (key : Bytes) : Within Quiet (openValue cfg raw key) := by
  unfold openValue openValueUnsafe
  refine .bind Within.failIf fun _ => .bind quiet_acquireOperationLock fun _ =>
    .bind Within.getDb fun _ => .bind Within.liftResult fun _ => .bind quiet_readStorage
    fun view => .bind Within.failIf fun _ => .bind Within.getDb fun db => .bind Within.failIf
    fun _ => .bind Within.failIf fun _ => ?_
  cases (List.range cfg.maxValueReaders).find? fun index => !(db.valueReaders index).used with
  | none => exact .throw
  | some index =>
      exact .bind (quiet_modifyDb fun _ => rfl) fun _ =>
        .bind (quiet_of_turning (turning_setReader _ _)) fun _ => .pure

lemma quiet_withReader (raw : ℕ) {x : ℕ → DbM α} (h : ∀ i, Within (Turning i) (x i)) :
    Within Quiet (withReader cfg raw x) := by
  unfold withReader
  exact .bind quiet_acquireOperationLock fun _ => .bind Within.getDb fun _ =>
    .bind Within.liftResult fun i => quiet_of_turning (h i)

/-! ## All calls -/

lemma advances_withWriter (raw : ℕ) {x : DbM Unit} (h : Advances cfg x) :
    Advances cfg (withWriter raw x) := by
  unfold withWriter
  exact .bind (.of_quiet quiet_acquireOperationLock
      (keeping_of_sameParts sameParts_acquireOperationLock)) fun _ =>
    .bind (.of_quiet Within.getDb Within.getDb) fun _ =>
    .bind (.of_quiet Within.liftResult Within.liftResult) fun _ => h

lemma advances_perform {c : Call} (h : c.isLifecycle = false) : Advances cfg (perform cfg c) := by
  have hquiet : Within Quiet (perform cfg c) → Advances cfg (perform cfg c) := fun hx =>
    .of_quiet hx (keeping_perform h)
  cases c with
  | init => cases h
  | deinit force => cases h
  | openNamespace name mode => exact hquiet (Within.map (quiet_openNamespace name mode))
  | closeHandle raw => exact hquiet (Within.done (quiet_closeHandle raw))
  | begin raw => exact hquiet (Within.map (quiet_beginTransaction raw))
  | set raw key value => exact (advances_set raw key value).done
  | eraseKey raw key => exact hquiet (Within.done (quiet_eraseKey raw key))
  | beginValueWrite raw key valueSize =>
      exact .bind (.of_quiet quiet_acquireOperationLock
        (keeping_of_sameParts sameParts_acquireOperationLock)) fun _ =>
          (Advances.of_progresses (progresses_beginValueWriteUnsafe raw key valueSize)
            (keeping_beginValueWriteUnsafe raw key valueSize)).map
  | writeValue raw data =>
      exact (advances_withWriter raw (.of_quiet (quiet_writeValueUnsafe data)
        (keeping_writeValueUnsafe data))).done
  | finishValueWrite raw => exact (advances_withWriter raw advances_finishValueWriteUnsafe).done
  | abortValueWrite raw =>
      exact (advances_withWriter raw (.of_quiet quiet_resetWriter keeping_resetWriter)).done
  | commit raw => exact (advances_commit raw).done
  | abort raw => exact hquiet (Within.done (quiet_abort raw))
  | openValue raw key => exact hquiet (Within.map (quiet_openValue raw key))
  | peekValue raw => exact hquiet (Within.map (quiet_withReader raw turning_peekValueUnsafe))
  | readValueInto raw size =>
      exact hquiet (Within.map (quiet_withReader raw fun i => turning_readValueIntoUnsafe i size))
  | consumeValue raw size =>
      exact hquiet (Within.done (quiet_withReader raw fun i => turning_consumeValueUnsafe i size))
  | seekValue raw offset =>
      exact hquiet (Within.done (quiet_withReader raw fun i => turning_seekValueUnsafe i offset))
  | closeReader raw => exact hquiet (Within.done (quiet_withReader raw turning_closeReader))

/-! ## A latched fault -/

/-- An instance whose fault is latched is left alone. -/
def Latched (w w' : World) : Prop := w.db.storageFaulted = true → w' = w

instance : Std.Refl Latched := ⟨fun _ _ => rfl⟩

instance : IsTrans World Latched := ⟨fun _ _ _ h₁ h₂ h => by
  have hb := h₁ h
  subst hb
  exact h₂ h⟩

/-- What stands behind the lock is not reached behind a latched fault. -/
lemma latched_acquireOperationLock (f : Unit → DbM α) :
    Within Latched (acquireOperationLock >>= f) := by
  intro w hfault
  unfold acquireOperationLock
  rw [exec_bind, exec_bind, exec_getDb]
  dsimp only
  rw [exec_failIf, if_pos (Or.inr hfault)]

/-- **Behind a latched fault every call but `init` and `deinit` is refused.** -/
theorem latched_perform {c : Call} (h : c.isLifecycle = false) :
    Within Latched (perform cfg c) := by
  cases c with
  | init => cases h
  | deinit force => cases h
  | openNamespace name mode =>
      exact Within.map (.bind Within.failIf fun _ => latched_acquireOperationLock _)
  | set raw key value => exact Within.done (.bind Within.failIf fun _ => latched_acquireOperationLock _)
  | eraseKey raw key => exact Within.done (.bind Within.failIf fun _ => latched_acquireOperationLock _)
  | openValue raw key =>
      exact Within.map (.bind Within.failIf fun _ => latched_acquireOperationLock _)
  | closeHandle raw => exact Within.done (latched_acquireOperationLock _)
  | begin raw => exact Within.map (latched_acquireOperationLock _)
  | beginValueWrite raw key valueSize => exact latched_acquireOperationLock _
  | writeValue raw data => exact Within.done (latched_acquireOperationLock _)
  | finishValueWrite raw => exact Within.done (latched_acquireOperationLock _)
  | abortValueWrite raw => exact Within.done (latched_acquireOperationLock _)
  | commit raw => exact Within.done (latched_acquireOperationLock _)
  | abort raw => exact Within.done (latched_acquireOperationLock _)
  | peekValue raw => exact Within.map (latched_acquireOperationLock _)
  | readValueInto raw size => exact Within.map (latched_acquireOperationLock _)
  | consumeValue raw size => exact Within.done (latched_acquireOperationLock _)
  | seekValue raw offset => exact Within.done (latched_acquireOperationLock _)
  | closeReader raw => exact Within.done (latched_acquireOperationLock _)

/-- **A call is a sequence of steps of the stored state.** -/
theorem turns_perform {c : Call} (h : c.isLifecycle = false) {w : World} (hsound : Sound cfg w.db) :
    Turns cfg w (exec (perform cfg c) w).2 := by
  cases hfault : w.db.storageFaulted with
  | false => exact (advances_perform h).turns hfault hsound
  | true =>
      rw [show (exec (perform cfg c) w).2 = w from latched_perform h w hfault]

end On9kvdb
