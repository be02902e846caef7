import On9kvdb.Meaning.Compacted
import On9kvdb.Steady.Calls

/-!
# Maintenance keeps the contents

`Tended` is what a healthy database satisfies while no value is being written, and `Tends x` says
that a method keeps it, and what the database holds even when it fails.  The methods that make room
tend it: for the memtable, for the log, for a value, and in front of a commit.
-/

namespace On9kvdb

open Exceptional Versions

variable {cfg : Config} {α β : Type} {w w' : World} {c : CompositeKey → Option Bytes}
  {staging : Staging}

variable (cfg) in
/-- A healthy database that holds `c` and has `staging` staged, without a value being written. -/
structure Tended (c : CompositeKey → Option Bytes) (staging : Staging) (w : World) : Prop where
  holding : Holding cfg c staging w
  steady : Steady cfg w
  healthy : w.db.storageFaulted = false
  idle : w.db.valueWriter.active = false

/-- A quiet step that disturbs nothing. -/
lemma Tended.quietly (h : Tended cfg c staging w) (hundisturbed : Undisturbed cfg w w')
    (hquiet : Quiet w w') (hsound : Sound cfg w'.db) (hidle : w'.db.valueWriter.active = false) :
    Tended cfg c staging w' := by
  have hstored := hquiet.stored
  refine ⟨h.holding.undisturbed h.steady.sound hundisturbed, ⟨hsound, ?_⟩,
    (congrArg Stored.storageFaulted hstored).trans h.healthy, hidle⟩
  rw [hstored]
  exact h.steady.ordered

variable (cfg) in
/-- The method keeps what the database holds and what is staged. -/
def Tends (x : DbM α) : Prop := ∀ c staging,
  Triple (Tended cfg c staging) x (fun _ => Tended cfg c staging) (fun _ => Holding cfg c staging)

namespace Tends

variable {x : DbM α}

/-- A method that is known to keep the instance sound and in order. -/
lemma of_holding (hprogresses : Progresses cfg x) (hcarrying : Within (Carrying cfg) x)
    (hholding : ∀ c staging w₀, Tended cfg c staging w₀ →
      Triple (· = w₀) x (fun _ => Holding cfg c staging) (fun _ => Holding cfg c staging)) :
    Tends cfg x := fun c staging => .of_state fun w₀ hw₀ => by
  refine (((hholding c staging w₀ hw₀).both (hprogresses w₀)).both (hcarrying.triple
    (P := (· = w₀)) (Q := fun _ w => Carried cfg w₀ w) (E := fun _ _ => True)
    (fun w w' _ hw h => ?_) fun _ _ _ _ _ => trivial)).conseq (fun w hw => ⟨⟨hw, ?_⟩, hw⟩)
      (fun _ w hw => ?_) fun _ w hw => hw.1.1
  · rw [hw] at h
    exact h hw₀.steady.sound hw₀.idle
  · rw [hw]
    exact ⟨.refl, hw₀.healthy⟩
  · obtain ⟨⟨hholding, hturns, hhealthy⟩, hcarried⟩ := hw
    exact ⟨hholding, ⟨hcarried.sound, hturns.invariant (P := fun w => Ordered cfg w.db.stored)
      (fun _ _ hw hturn => hturn.ordered hw) hw₀.steady.ordered⟩, hhealthy, hcarried.idle⟩

lemma of_undisturbed (hprogresses : Progresses cfg x) (hcarrying : Within (Carrying cfg) x)
    (hundisturbed : Within (Undisturbed cfg) x) : Tends cfg x :=
  .of_holding hprogresses hcarrying fun _ _ _ hw₀ =>
    hundisturbed.triple (fun _ _ _ hw h => hw₀.holding.undisturbed hw₀.steady.sound (hw ▸ h))
      fun _ _ _ hw h => hw₀.holding.undisturbed hw₀.steady.sound (hw ▸ h)

lemma pure {a : α} : Tends cfg (Pure.pure a : DbM α) := fun _ _ => .pure fun _ hw => hw

lemma bind {f : α → DbM β} (hx : Tends cfg x) (hf : ∀ a, Tends cfg (f a)) : Tends cfg (x >>= f) :=
  fun c staging => .bind (hx c staging) fun a => hf a c staging

lemma ite {p : Prop} [Decidable p] {y : DbM α} (hx : Tends cfg x) (hy : Tends cfg y) :
    Tends cfg (if p then x else y) := fun c staging => .ite (fun _ => hx c staging) fun _ => hy c staging

lemma getDb : Tends cfg On9kvdb.getDb := .of_undisturbed .getDb Within.getDb Within.getDb

lemma failIf {p : Prop} [Decidable p] {e : EspErr} : Tends cfg (On9kvdb.failIf p e) :=
  .of_undisturbed .failIf Within.failIf Within.failIf

lemma liftResult {r : Except EspErr α} : Tends cfg (On9kvdb.liftResult r) :=
  .of_undisturbed .liftResult Within.liftResult Within.liftResult

lemma syncStorage : Tends cfg On9kvdb.syncStorage :=
  .of_undisturbed (.of_quiet quiet_syncStorage) (carrying_of_sameParts sameParts_syncStorage)
    undisturbed_syncStorage

end Tends

/-! ## Room -/

theorem tends_compactTablesUnsafe : Tends cfg (compactTablesUnsafe cfg) :=
  .of_holding progresses_compactTablesUnsafe carrying_compactTablesUnsafe fun _ _ _ hw₀ =>
    triple_compactTablesUnsafe_holding hw₀.holding hw₀.steady.sound hw₀.steady.ordered hw₀.idle

lemma holding_flushMemtableUnsafe {w₀ : World} (hw₀ : Tended cfg c staging w₀) :
    Triple (· = w₀) (flushMemtableUnsafe cfg) (fun _ => Holding cfg c staging)
      (fun _ => Holding cfg c staging) := by
  unfold flushMemtableUnsafe
  refine .bind Triple.fetch fun db => .of_pure (fun w hw => hw.2 ▸ congrArg World.db hw.1) ?_
  rintro rfl
  refine .pre (S := (· = w₀)) (.ite (fun hentries => ?_) fun _ => .pure fun w hw =>
    hw ▸ hw₀.holding) fun w hw => hw.1
  refine .bind (Q := fun _ => (· = w₀)) (Triple.failIf (fun w hw _ => hw)
    fun w hw _ => hw ▸ hw₀.holding) fun _ => ?_
  cases hslot : freeTableSlot cfg w₀.db.manifest with
  | none =>
      exact triple_compactTablesUnsafe_holding hw₀.holding hw₀.steady.sound hw₀.steady.ordered hw₀.idle
  | some slot =>
      exact triple_flushToSlot_holding hw₀.holding hw₀.steady.sound hw₀.steady.ordered
        (freeTableSlot_lies hslot) (freeTableSlot_free hslot) hentries

theorem tends_flushMemtableUnsafe : Tends cfg (flushMemtableUnsafe cfg) :=
  .of_holding progresses_flushMemtableUnsafe carrying_flushMemtableUnsafe fun _ _ _ hw₀ =>
    holding_flushMemtableUnsafe hw₀

lemma tends_rotateWalUnsafe : Tends cfg (rotateWalUnsafe cfg) :=
  .of_undisturbed progresses_rotateWalUnsafe (carrying_of_sameParts sameParts_rotateWalUnsafe)
    undisturbed_rotateWalUnsafe

lemma tends_makeWalRoom (transactionBytes : ℕ) : Tends cfg (makeWalRoom cfg transactionBytes) := by
  unfold makeWalRoom releaseOlderLog
  refine .bind .getDb fun db => .ite (.bind ?_ fun _ => .bind tends_rotateWalUnsafe fun _ => .pure)
    .pure
  exact .bind .getDb fun db => .ite (.bind tends_compactTablesUnsafe fun _ => .pure)
    (.ite (.bind tends_flushMemtableUnsafe fun _ => .pure) .pure)

/-- **Room for a value** may take a compaction. -/
lemma tends_makeValueRoom (valueSize : ℕ) : Tends cfg (makeValueRoom cfg valueSize) := by
  unfold makeValueRoom
  exact .bind .getDb fun db => .ite (.bind tends_compactTablesUnsafe fun _ =>
    .bind .getDb fun _ => .failIf) .pure

/-! ## In front of a publication -/

lemma tends_writeFrames (namespaceName : Bytes) (mutations : List Mutation) (slot tail : ℕ)
    (g : FrameGroup) (remaining frameIndex : ℕ) :
    Tends cfg (writeFrames namespaceName mutations slot tail g remaining frameIndex) :=
  .of_undisturbed (.of_quiet (quiet_writeFrames _ _ _ _ _ _ _))
    (carrying_of_sameParts (sameParts_writeFrames _ _ _ _ _ _ _)) (undisturbed_writeFrames _ _ _ _ _ _ _)

/-- **An append to the log** keeps the contents, with all the room it makes. -/
theorem tends_appendTransactionUnsafe (namespaceName : Bytes) :
    Tends cfg (appendTransactionUnsafe cfg namespaceName) := by
  unfold appendTransactionUnsafe
  refine .bind .getDb fun db => .bind .failIf fun _ => .bind (.of_undisturbed
    progresses_stabilizeManifestUnsafe (carrying_of_sameParts sameParts_stabilizeManifestUnsafe)
      undisturbed_stabilizeManifestUnsafe) fun _ => .bind .liftResult fun size =>
    .bind (tends_makeWalRoom _) fun moved => .bind .getDb fun db => .bind .failIf fun _ =>
    .bind ?_ fun checksum => .bind (tends_writeFrames _ _ _ _ _ _ _) fun _ => .bind .syncStorage
      fun _ => .of_undisturbed (.of_quiet (quiet_modifyDb fun _ => rfl))
        (carrying_of_sameParts (sameParts_modifyDb fun _ => rfl)) (undisturbed_modifyDb fun _ => rfl)
  unfold refreshChecksum
  exact .ite (.bind .getDb fun _ => .bind .liftResult fun _ => .bind .failIf fun _ => .pure) .pure

/-- A preflight only notes what the mutations replace. -/
lemma undisturbed_preflightTransaction (namespaceName : Bytes) :
    Within (Undisturbed cfg) (preflightTransaction cfg namespaceName) := by
  refine .of_triple fun w₀ => ?_
  unfold preflightTransaction
  refine .bind (Q := fun mutations w => Undisturbed cfg w₀ w ∧ w.db = w₀.db ∧
      mutations.map Mutation.content = w₀.db.transaction.mutations.map Mutation.content)
    (Triple.readStorage (fun w mutations hw hrun => ?_) fun w _ hw => hw ▸ .tick w) fun mutations =>
      Triple.modifyDb fun w hw => ?_
  · rw [hw] at hrun ⊢
    refine ⟨.tick w₀, rfl, ?_⟩
    unfold preflightMemtableTransactionUnsafe at hrun
    rw [bind_eq_ok] at hrun
    obtain ⟨_, -, hrun⟩ := hrun
    rw [bind_eq_ok] at hrun
    obtain ⟨registered, -, hrun⟩ := hrun
    rw [bind_eq_ok] at hrun
    obtain ⟨r, hpreflight, hrun⟩ := hrun
    rw [bind_eq_ok] at hrun
    obtain ⟨_, -, hrun⟩ := hrun
    cases hrun
    exact preflightMutations_content hpreflight
  · obtain ⟨hundisturbed, hdb, hcontent⟩ := hw
    have hstep : Undisturbed cfg w { w with db := { w.db with
        transaction := { w.db.transaction with mutations := mutations } } } := by
      refine .of_parts ?_ .refl
      rw [hdb]
      unfold Db.contentParts
      rw [hcontent]
    exact trans_of (Undisturbed cfg) hundisturbed hstep

/-- A preflight that refuses leaves the database tended as well. -/
lemma triple_preflightTransaction_tended (namespaceName : Bytes) :
    Triple (Tended cfg c staging) (preflightTransaction cfg namespaceName)
      (fun _ => Tended cfg c staging) (fun _ => Tended cfg c staging) := by
  refine .of_state fun w₀ hw₀ => ?_
  refine ((((undisturbed_preflightTransaction namespaceName).triple (P := (· = w₀))
    (Q := fun _ w => Undisturbed cfg w₀ w) (E := fun _ w => Undisturbed cfg w₀ w)
    (fun _ _ _ hw h => hw ▸ h) fun _ _ _ hw h => hw ▸ h).both
    ((quiet_preflightTransaction namespaceName).triple (P := (· = w₀)) (Q := fun _ w => Quiet w₀ w)
      (E := fun _ w => Quiet w₀ w) (fun _ _ _ hw h => hw ▸ h) fun _ _ _ hw h => hw ▸ h)).both
    (triple_preflightTransaction namespaceName)).conseq (fun w hw => ⟨⟨hw, hw⟩, ?_⟩)
      (fun _ w hw => hw₀.quietly hw.1.1 hw.1.2 hw.2.sound hw.2.idle)
      fun _ w hw => hw₀.quietly hw.1.1 hw.1.2 hw.2.1 hw.2.2
  rw [hw]
  exact ⟨hw₀.steady.sound, hw₀.idle⟩

lemma tends_syncDirtyBanks : Tends cfg syncDirtyBanks := by
  unfold syncDirtyBanks
  exact .bind .getDb fun db => .ite (.bind .syncStorage fun _ =>
    .of_undisturbed (.of_quiet (quiet_modifyDb fun _ => rfl))
      (carrying_of_sameParts (sameParts_modifyDb fun _ => rfl)) (undisturbed_modifyDb fun _ => rfl)) .pure

/-- **The preparation of a commit** keeps the contents, whatever it makes room for. -/
theorem tends_prepareCommit (namespaceName : Bytes) : Tends cfg (prepareCommit cfg namespaceName) := by
  intro c staging
  have hpreflight := @triple_preflightTransaction_tended cfg c staging namespaceName
  unfold prepareCommit
  refine .bind (Q := fun _ => Tended cfg c staging) (Triple.tryCatch hpreflight fun e =>
    .bind Triple.fetch fun db => .ite (fun _ => ?_) fun _ => .throw fun w hw => hw.1.holding)
    fun _ => .bind (tends_syncDirtyBanks c staging) fun _ =>
      tends_appendTransactionUnsafe namespaceName c staging
  refine .bind ((tends_flushMemtableUnsafe c staging).pre fun w hw => hw.1) fun _ =>
    hpreflight.conseq (fun _ hw => hw) (fun _ _ hw => hw) fun _ _ hw => hw.holding

end On9kvdb
