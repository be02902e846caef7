import On9kvdb.Store.Recovery
import On9kvdb.Store.Rules

/-!
# What the auxiliary methods leave alone

Validating, loading and counting tables read the media and keep what they learn in the caches, the
registry and the counters; publishing a manifest changes two of its fields and two flags.  Each of
these methods is placed in the smallest of the relations `Reading`, `Caching`, `Recovering` and
`Publishing`; an invariant that ignores what the relation leaves free survives them.
-/

namespace On9kvdb

open Exceptional

variable {cfg : Config} {α : Type}

/-! ## The relations -/

/-- Nothing but the clock of the device has moved. -/
structure Reading (w w' : World) : Prop where
  db : w'.db = w.db
  dev : w'.dev = { w.dev with clock := w'.dev.clock }

/-- Besides the clock only the table caches differ. -/
structure Caching (w w' : World) : Prop where
  db : w'.db = { w.db with
    tableIndexCache := w'.db.tableIndexCache
    tableKeyFilters := w'.db.tableKeyFilters }
  dev : w'.dev = { w.dev with clock := w'.dev.clock }

/-- What `recover_tables_unsafe` may change: caches, registry, counters and the key ranges of the
table references. -/
structure Recovering (w w' : World) : Prop where
  db : w'.db = { w.db with
    manifest := w'.db.manifest
    namespaces := w'.db.namespaces
    stats := w'.db.stats
    tableIndexCache := w'.db.tableIndexCache
    tableKeyFilters := w'.db.tableKeyFilters }
  manifest : w'.db.manifest.withoutKeyRanges = w.db.manifest.withoutKeyRanges
  dev : w'.dev = { w.dev with clock := w'.dev.clock }

lemma Caching.of_reading {w w' : World} (h : Reading w w') : Caching w w' :=
  ⟨by rw [h.db], h.dev⟩

lemma Recovering.of_caching {w w' : World} (h : Caching w w') : Recovering w w' :=
  ⟨by rw [h.db], by rw [h.db], h.dev⟩

instance : Std.Refl Reading := ⟨fun _ => ⟨rfl, rfl⟩⟩
instance : Std.Refl Caching := ⟨fun _ => ⟨rfl, rfl⟩⟩
instance : Std.Refl Recovering := ⟨fun _ => ⟨rfl, rfl, rfl⟩⟩

instance : IsTrans World Reading :=
  ⟨fun _ _ _ h₁ h₂ => ⟨by rw [h₂.db, h₁.db], by rw [h₂.dev, h₁.dev]⟩⟩

instance : IsTrans World Caching :=
  ⟨fun _ _ _ h₁ h₂ => ⟨by rw [h₂.db, h₁.db], by rw [h₂.dev, h₁.dev]⟩⟩

instance : IsTrans World Recovering :=
  ⟨fun _ _ _ h₁ h₂ => ⟨by rw [h₂.db, h₁.db], by rw [h₂.manifest, h₁.manifest],
    by rw [h₂.dev, h₁.dev]⟩⟩

/-! ## Primitives -/

namespace Within

section
variable {R : World → World → Prop} [Std.Refl R]

lemma getDb : Exceptional.Within R On9kvdb.getDb := fun w => refl_of R w

lemma failIf {condition : Prop} [Decidable condition] {error : EspErr} :
    Exceptional.Within R (On9kvdb.failIf condition error) := fun w => by
  rw [exec_failIf]
  split_ifs <;> exact refl_of R w

lemma liftResult {r : Except EspErr α} : Exceptional.Within R (On9kvdb.liftResult r) :=
  fun w => by
    rw [exec_liftResult]
    exact refl_of R w

end

/-- A read stays within every relation that lets the clock move. -/
lemma readStorage {R : World → World → Prop} {decode : Db → Media → Except EspErr α}
    (h : ∀ w, R w { w with dev := w.dev.tick }) :
    Exceptional.Within R (On9kvdb.readStorage decode) := fun w => by
  rw [exec_readStorage]
  exact h w

lemma modifyDb {R : World → World → Prop} {f : Db → Db} (h : ∀ w, R w { w with db := f w.db }) :
    Exceptional.Within R (On9kvdb.modifyDb f) := fun w => h w

end Within

lemma Reading.tick (w : World) : Reading w { w with dev := w.dev.tick } := ⟨rfl, rfl⟩

lemma Caching.tick (w : World) : Caching w { w with dev := w.dev.tick } := ⟨rfl, rfl⟩

lemma Recovering.tick (w : World) : Recovering w { w with dev := w.dev.tick } := ⟨rfl, rfl, rfl⟩

/-! ## Validation and cursors -/

lemma within_validateTableUnsafe (reference : TableReference) (bank : BankBounds) :
    Within Caching (validateTableUnsafe cfg reference bank) := by
  unfold validateTableUnsafe
  refine .bind Within.failIf fun _ => .bind (Within.modifyDb fun _ => ⟨rfl, rfl⟩) fun _ =>
    .bind Within.failIf fun _ => .bind (Within.readStorage Caching.tick) fun _ =>
    .bind (Within.modifyDb fun _ => ⟨rfl, rfl⟩) fun _ => .ite ?_ .pure
  exact .bind Within.failIf fun _ => Within.modifyDb fun _ => ⟨rfl, rfl⟩

lemma within_validateTables (slots : List ℕ) : Within Caching (validateTables cfg slots) := by
  induction slots with
  | nil => exact .pure
  | cons slot rest ih =>
      unfold validateTables
      refine .bind Within.getDb fun db => ?_
      cases db.manifest.tables slot with
      | none => exact ih
      | some reference => exact .bind (within_validateTableUnsafe _ _) fun _ => ih

lemma within_loadCursors (slots : List ℕ) : Within Reading (loadCursors cfg slots) := by
  induction slots with
  | nil => exact .pure
  | cons slot rest ih =>
      unfold loadCursors
      refine .bind Within.getDb fun db => ?_
      cases db.manifest.tables slot with
      | none => exact ih
      | some reference =>
          exact .bind (Within.readStorage Reading.tick) fun _ => .bind ih fun _ => .pure

lemma within_advanceCursors (key : CompositeKey) (cursors : List CompactionCursor) :
    Within Reading (advanceCursors cfg key cursors) := by
  induction cursors with
  | nil => exact .pure
  | cons c rest ih =>
      unfold advanceCursors
      exact .bind (.ite (Within.readStorage Reading.tick) .pure) fun _ => .bind ih fun _ => .pure

/-! ## Table recovery -/

lemma countWinner_frame {db db' : Db} {key : CompositeKey} {winner : MergeWinner}
    (h : countWinner cfg db key winner = .ok db') :
    db' = { db with namespaces := db'.namespaces, stats := db'.stats } := by
  unfold countWinner at h
  rw [bind_eq_ok] at h
  obtain ⟨⟨index, namespaces⟩, -, h⟩ := h
  rw [bind_eq_ok] at h
  obtain ⟨_, -, h⟩ := h
  cases h
  rfl

lemma within_countTables (fuel : ℕ) (cursors : List CompactionCursor) :
    Within Recovering (countTables cfg fuel cursors) := by
  induction fuel generalizing cursors with
  | zero => exact Within.failIf
  | succ fuel ih =>
      unfold countTables
      refine .ite ?_ .pure
      cases smallestKey [] [] cursors with
      | none => exact .throw
      | some key =>
          refine .bind Within.failIf fun _ => .bind Within.liftResult fun winner => ?_
          cases winner with
          | none => exact .throw
          | some winner =>
              intro w
              rw [exec_bind, exec_getDb]
              dsimp only
              rw [exec_bind, exec_liftResult]
              cases hcount : countWinner cfg w.db key winner with
              | error e => exact refl_of Recovering w
              | ok db =>
                  dsimp only
                  rw [exec_bind, exec_modifyDb]
                  dsimp only
                  have hstep : Recovering w { w with db := db } := by
                    rw [countWinner_frame hcount]
                    exact ⟨rfl, rfl, rfl⟩
                  refine trans_of Recovering hstep (Within.bind ?_ (fun _ => ih _) _)
                  exact fun w => .of_caching (.of_reading (within_advanceCursors key cursors w))

/-- Taking over a key range does not change the stored form of a manifest. -/
lemma withoutKeyRanges_update {manifest : ManifestRecord} {slot : ℕ} {reference : TableReference}
    (h : manifest.tables slot = some reference) (minKey maxKey : CompositeKey) :
    ManifestRecord.withoutKeyRanges { manifest with
      tables := Function.update manifest.tables slot
        (some { reference with minKey := minKey, maxKey := maxKey }) } =
      manifest.withoutKeyRanges := by
  unfold ManifestRecord.withoutKeyRanges
  congr 1
  funext i
  by_cases hi : i = slot
  · subst hi
    simp [h]
  · simp [Function.update_of_ne hi]

/-- Manifests with the same stored form differ at most in their table references. -/
lemma eq_of_withoutKeyRanges {manifest manifest' : ManifestRecord}
    (h : manifest'.withoutKeyRanges = manifest.withoutKeyRanges) :
    manifest' = { manifest with tables := manifest'.tables } := by
  cases manifest
  cases manifest'
  simp only [ManifestRecord.withoutKeyRanges, ManifestRecord.mk.injEq] at h ⊢
  tauto

lemma within_recoverTableReferences (slots : List ℕ) :
    Within Recovering (recoverTableReferences cfg slots) := by
  induction slots with
  | nil => exact .pure
  | cons slot rest ih =>
      refine .of_triple fun w₀ => ?_
      unfold recoverTableReferences
      refine .bind (Triple.getDb (Q := fun db w => w = w₀ ∧ db = w₀.db)
        (fun w hw => ⟨hw, congrArg World.db hw⟩)) fun db => ?_
      cases hslot : db.manifest.tables slot with
      | none => exact ih.triple (fun w w' _ hw h => hw.1 ▸ h) (fun w w' _ hw h => hw.1 ▸ h)
      | some reference =>
          refine .bind (Q := fun _ w => Caching w₀ w ∧ db = w₀.db)
            ((within_validateTableUnsafe _ _).triple (fun w w' _ hw h => ⟨hw.1 ▸ h, hw.2⟩)
              (fun w w' _ hw h => .of_caching (hw.1 ▸ h))) fun _ => ?_
          refine .bind (Q := fun _ w => Caching w₀ w ∧ db = w₀.db)
            (Triple.readStorage (fun w _ hw _ => ⟨trans_of Caching hw.1 (Caching.tick w), hw.2⟩)
              (fun w _ hw => .of_caching (trans_of Caching hw.1 (Caching.tick w)))) fun footer => ?_
          refine .bind (Q := fun _ => Recovering w₀) (Triple.modifyDb fun w hw => ?_) fun _ =>
            ih.invariant fun _ _ => trans_of Recovering
          obtain ⟨hw, rfl⟩ := hw
          refine ⟨?_, ?_, hw.dev⟩
          · dsimp only
            rw [hw.db]
          · dsimp only
            rw [withoutKeyRanges_update (by rw [hw.db]; exact hslot), hw.db]

lemma within_recoverTablesUnsafe : Within Recovering (recoverTablesUnsafe cfg) := by
  unfold recoverTablesUnsafe
  refine .bind (Within.modifyDb fun _ => ⟨rfl, rfl, rfl⟩) fun _ =>
    .bind (within_recoverTableReferences _) fun _ => .bind Within.getDb fun _ =>
    .bind Within.failIf fun _ => .bind (fun w => .of_caching (.of_reading (within_loadCursors _ w)))
      fun _ => .bind Within.failIf fun _ => within_countTables _ _

/-! ## Manifest publication -/

/-- What a manifest publication may change in memory. -/
structure Publishing (w w' : World) : Prop where
  db : w'.db = { w.db with
    manifest := { w.db.manifest with
      generation := w'.db.manifest.generation
      state := w'.db.manifest.state }
    manifestStabilizationRequired := w'.db.manifestStabilizationRequired
    storageFaulted := w'.db.storageFaulted }

instance : Std.Refl Publishing := ⟨fun _ => ⟨rfl⟩⟩

instance : IsTrans World Publishing := ⟨fun _ _ _ h₁ h₂ => ⟨by rw [h₂.db, h₁.db]⟩⟩

lemma within_writeManifestCopy (generation : ℕ) (state : ManifestState) :
    Within Publishing (writeManifestCopy generation state) := by
  refine .of_triple fun w₀ => ?_
  unfold writeManifestCopy
  refine .bind (Triple.getDb (Q := fun db w => w.db = db ∧ db = w₀.db)
    (fun w hw => ⟨rfl, congrArg World.db hw⟩)) fun db => ?_
  have hkeep : ∀ w : World, w.db = db ∧ db = w₀.db → Publishing w₀ w := fun w hw =>
    ⟨by rw [hw.1, hw.2]⟩
  refine .bind (Q := fun _ w => w.db = db ∧ db = w₀.db)
    (Triple.failIf (fun _ hw _ => hw) fun w hw _ => hkeep w hw) fun _ => ?_
  dsimp only
  cases encodeManifestRecord { db.manifest with generation := generation, state := state } with
  | none => exact .throw hkeep
  | some copy =>
      refine .bind (Q := fun _ w => w.db = db ∧ db = w₀.db)
        (Triple.onError (F := fun _ w => w.db = db ∧ db = w₀.db)
          (.bind (Q := fun _ w => w.db = db ∧ db = w₀.db)
            (Triple.writeStorage (fun _ hw _ => hw) fun _ hw _ => hw)
            fun _ => Triple.syncStorage (fun _ hw _ => hw) fun _ hw _ => hw)
          fun _ => Triple.modifyDb fun w hw => ⟨by dsimp only; rw [hw.1, hw.2]⟩) fun _ => ?_
      exact Triple.modifyDb fun w hw => ⟨by dsimp only; rw [hw.1, hw.2]⟩

lemma within_stabilizeManifestUnsafe : Within Publishing stabilizeManifestUnsafe := by
  unfold stabilizeManifestUnsafe
  refine .bind Within.getDb fun db => .ite ?_ .pure
  exact .bind Within.failIf fun _ => .bind (within_writeManifestCopy _ _) fun _ =>
    Within.modifyDb fun _ => ⟨rfl⟩

end On9kvdb
