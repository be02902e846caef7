import On9kvdb.Store.Publish
import On9kvdb.Store.Wal
import On9kvdb.Store.Writes

/-!
# What maintenance leaves alone

Flushing, compacting, rotating and appending work on the manifest, the memtable, the tails, the
counters and the staged descriptors.  Handles, readers, the writer, the registry, the next sequence
and the token of the transaction are as before, whatever the outcome; and a ready database stays
ready: every manifest copy that is written says so, and nothing of provisioning is written again.
-/

namespace On9kvdb

open Exceptional

variable {cfg : Config}

/-! ## The relation -/

/-- The writes of a ready database. -/
def ReadyWrite : Write → Prop
  | .manifestCopy _ copy => copy.record.state = .ready
  | .identity _ _ _ _ => False
  | .tableHeaderMarker _ _ => False
  | .tableFooterMarker _ => False
  | _ => True

/-- A ready manifest stays ready, and only writes of a ready database are issued. -/
def StaysReady (w w' : World) : Prop :=
  w.db.manifest.state = .ready →
    w'.db.manifest.state = .ready ∧ w.dev.Steps ReadyWrite w'.dev

instance : Std.Refl StaysReady := ⟨fun _ h => ⟨h, .refl⟩⟩

instance : IsTrans World StaysReady :=
  ⟨fun _ _ _ h₁ h₂ h => ⟨(h₂ (h₁ h).1).1, (h₁ h).2.trans (h₂ (h₁ h).1).2⟩⟩

/-- The members maintenance may change. -/
structure Maintaining (w w' : World) : Prop where
  db : w'.db = { w.db with
    storageFaulted := w'.db.storageFaulted
    manifest := w'.db.manifest
    manifestStabilizationRequired := w'.db.manifestStabilizationRequired
    memtable := w'.db.memtable
    walTail := w'.db.walTail
    stats := w'.db.stats
    transaction := { w.db.transaction with mutations := w'.db.transaction.mutations }
    tableIndexCache := w'.db.tableIndexCache
    tableKeyFilters := w'.db.tableKeyFilters }
  ready : StaysReady w w'

instance : Std.Refl Maintaining := ⟨fun _ => ⟨rfl, refl_of StaysReady _⟩⟩

instance : IsTrans World Maintaining :=
  ⟨fun _ _ _ h₁ h₂ => ⟨by rw [h₂.db, h₁.db], trans_of StaysReady h₁.ready h₂.ready⟩⟩

lemma StaysReady.of_caching {w w' : World} (h : Caching w w') : StaysReady w w' :=
  fun hw => ⟨by rw [h.db]; exact hw, by rw [h.dev]; exact .clock _ .refl⟩

lemma Maintaining.of_caching {w w' : World} (h : Caching w w') : Maintaining w w' :=
  ⟨by rw [h.db], .of_caching h⟩

lemma Maintaining.of_writing {S : Write → Prop} {w w' : World}
    (h : Writing SameButCaches S w w') (hS : ∀ write, S write → ReadyWrite write) :
    Maintaining w w' := by
  have hdb := h.db
  unfold SameButCaches at hdb
  exact ⟨by rw [hdb], fun hw => ⟨by rw [hdb]; exact hw, h.dev.mono hS⟩⟩

lemma Maintaining.of_writing_eq {S : Write → Prop} {w w' : World} (h : Writing Eq S w w')
    (hS : ∀ write, S write → ReadyWrite write) : Maintaining w w' :=
  .of_writing (h.mono (fun _ _ hdb => hdb ▸ refl_of SameButCaches _) fun _ hw => hw) hS

lemma readyWrite_of_table {slot : ℕ} {w : Write} (h : IntoTable slot w) : ReadyWrite w := by
  cases w with
  | tableHeader => trivial
  | tableFooter => trivial
  | tableBlock => trivial
  | tableIndex => trivial
  | _ => exact h.elim

lemma readyWrite_of_bank {bank : ℕ} {w : Write} (h : IntoBank bank w) : ReadyWrite w := by
  cases w with
  | valueChunk => trivial
  | _ => exact h.elim

lemma Maintaining.of_merging {w w' : World} {destination : Destination}
    (h : Merging cfg w destination w') : Maintaining w w' := by
  refine ⟨by rw [h.db.rest], fun hw => ⟨by rw [h.db.rest]; exact hw, h.dev.mono fun write hwrite => ?_⟩⟩
  rcases hwrite with ⟨slot, -, hslot⟩ | hbank
  · exact readyWrite_of_table hslot
  · exact readyWrite_of_bank hbank

/-- A change of the memory that leaves the state of the manifest alone. -/
lemma Maintaining.update {w : World} {db : Db} (hdb : db = { w.db with
      storageFaulted := db.storageFaulted
      manifest := db.manifest
      manifestStabilizationRequired := db.manifestStabilizationRequired
      memtable := db.memtable
      walTail := db.walTail
      stats := db.stats
      transaction := { w.db.transaction with mutations := db.transaction.mutations }
      tableIndexCache := db.tableIndexCache
      tableKeyFilters := db.tableKeyFilters })
    (hstate : w.db.manifest.state = .ready → db.manifest.state = .ready) :
    Maintaining w { w with db := db } :=
  ⟨hdb, fun hw => ⟨hstate hw, .refl⟩⟩

lemma maintaining_writeStorage {write : Write} (h : ReadyWrite write) :
    Within Maintaining (writeStorage write) := fun w =>
  .of_writing_eq (Within.writeStorage h w) fun _ hw => hw

lemma maintaining_syncStorage : Within Maintaining syncStorage := fun w =>
  .of_writing_eq (Within.syncStorage w) fun _ hw => hw

/-! ## Publications -/

/-- The device of a failed publication has made at most its write. -/
lemma PublicationFailed.steps {d d' : Device} {m : ManifestRecord} {generation : ℕ}
    {state : ManifestState} {h : publishable m generation state = true} {S : Write → Prop}
    (hfailed : PublicationFailed d d' h) (hS : S (publication h)) : d.Steps S d' := by
  have hwrite : d.Steps S (d.write (publication h)).2 := .write hS .refl
  rcases hfailed with ⟨rfl, -⟩ | ⟨rfl, -⟩
  · exact hwrite
  · exact .clock _ hwrite

lemma steps_of_published {d : Device} {m : ManifestRecord} {generation : ℕ}
    {state : ManifestState} (h : publishable m generation state = true) {S : Write → Prop}
    (hS : S (publication h)) (hsync : (d.write (publication h)).2.fault = .none) :
    d.Steps S (d.write (publication h)).2.flushed := by
  have hflushed : (d.write (publication h)).2.sync.2 = (d.write (publication h)).2.flushed := by
    unfold Device.sync
    rw [hsync]
  rw [← hflushed]
  exact .sync (.write hS .refl)

/-- A publication of a ready manifest keeps it ready. -/
lemma staysReady_writeManifestCopy (generation : ℕ) :
    Within StaysReady (writeManifestCopy generation .ready) := by
  refine .of_triple fun w₀ => (triple_writeManifestCopy_outcome w₀ generation .ready).conseq
    (fun _ hw => hw) (fun _ w hw => ?_) fun _ w hw => ?_
  · obtain ⟨h, -, hsync, rfl⟩ := hw
    exact fun _ => ⟨rfl, steps_of_published h (S := ReadyWrite) rfl hsync⟩
  · rcases hw with ⟨rfl, -⟩ | ⟨h, hdb, hfailed⟩
    · exact refl_of StaysReady w
    · exact fun hready => ⟨by rw [hdb]; exact hready, hfailed.steps rfl⟩

lemma maintaining_writeManifestCopy (generation : ℕ) :
    Within Maintaining (writeManifestCopy generation .ready) := fun w =>
  ⟨by rw [(within_writeManifestCopy generation .ready w).db],
    staysReady_writeManifestCopy generation w⟩

lemma staysReady_stabilizeManifestUnsafe : Within StaysReady stabilizeManifestUnsafe := by
  refine .of_triple fun w₀ => ?_
  unfold stabilizeManifestUnsafe
  refine .bind (Q := fun db w => w = w₀ ∧ db = w₀.db)
    (Triple.getDb fun w hw => ⟨hw, by rw [hw]⟩) fun db => .of_pure (fun w hw => hw.2) ?_
  rintro rfl
  refine .ite (fun _ => ?_) fun _ => .pure fun w hw => hw.1 ▸ refl_of StaysReady _
  refine .bind (Q := fun _ w => w = w₀) (Triple.failIf (fun w hw _ => hw.1)
    fun w hw _ => hw.1 ▸ refl_of StaysReady _) fun _ => ?_
  cases hstate : w₀.db.manifest.state with
  | ready =>
      have hstep := (staysReady_writeManifestCopy (w₀.db.manifest.generation + 1)).triple
        (P := (· = w₀)) (Q := fun _ => StaysReady w₀) (E := fun _ => StaysReady w₀)
        (fun w w' _ hw h => hw ▸ h) fun w w' _ hw h => hw ▸ h
      exact .bind hstep fun _ => Triple.modifyDb fun w hw => trans_of StaysReady hw
        fun h => ⟨h, .refl⟩
  | provisioningOwned =>
      -- Nothing is said about a manifest that is not ready.
      refine Triple.of_exec fun w hw => ⟨fun _ _ _ h => ?_, fun _ _ _ h => ?_⟩
      · rw [hstate] at h
        cases h
      · rw [hstate] at h
        cases h

lemma maintaining_stabilizeManifestUnsafe : Within Maintaining stabilizeManifestUnsafe := fun w =>
  ⟨by rw [(within_stabilizeManifestUnsafe w).db], staysReady_stabilizeManifestUnsafe w⟩

lemma Within.onError {R : World → World → Prop} [IsTrans World R] [Std.Refl R] {α : Type}
    {x : DbM α} {undo : DbM Unit} (hx : Exceptional.Within R x)
    (hundo : Exceptional.Within R undo) : Exceptional.Within R (On9kvdb.onError x undo) :=
  .tryCatch hx fun _ => .bind hundo fun _ => .throw

/-! ## Flush and compaction -/

lemma maintaining_mergeTables (destination : Destination) (fuel : ℕ) {s : MergeState}
    (hs : s.output = none) : Within Maintaining (mergeTables cfg destination fuel s) :=
  .of_triple fun _ => (triple_mergeTables fuel hs).conseq
    (fun w hw => hw ▸ refl_of (Writing _ _) w) (fun _ _ h => .of_merging h)
    fun _ _ h => .of_merging h

/-- **A compaction is maintenance.** -/
theorem maintaining_compactTablesUnsafe : Within Maintaining (compactTablesUnsafe cfg) := by
  refine .of_triple fun w₀ => ?_
  have hkeep : ∀ {α : Type} {x : DbM α}, Within Maintaining x →
      Triple (Maintaining w₀) x (fun _ => Maintaining w₀) (fun _ => Maintaining w₀) :=
    fun hx => hx.invariant fun _ _ => trans_of Maintaining
  have hupdate : ∀ {f : Db → Db}, (∀ w : World, Maintaining w { w with db := f w.db }) →
      Within Maintaining (modifyDb f) := fun hf => Within.modifyDb hf
  unfold compactTablesUnsafe
  refine .bind (Q := fun _ => Maintaining w₀)
    (Triple.getDb fun w hw => hw ▸ refl_of Maintaining _) fun db => .bind (hkeep Within.liftResult)
    fun _ => ?_
  refine .bind (hkeep fun w => .of_caching (within_validateTables _ w)) fun _ => ?_
  refine .bind (hkeep Within.failIf) fun _ => .bind (hkeep Within.liftResult) fun pending => ?_
  refine .bind (hkeep fun w => .of_caching (.of_reading (within_loadCursors _ w))) fun cursors => ?_
  have hclear : Within Maintaining
      (modifyDb fun db => { db with manifest := clearOutputTables cfg db.manifest }) :=
    hupdate fun _ => .update rfl fun h => h
  refine .bind (hkeep (Within.onError (.bind (maintaining_mergeTables _ _ rfl) fun s => .bind
    (fun w => .of_writing_eq (within_relocateStaged _ _ _ w) fun _ => readyWrite_of_bank)
      fun _ => .pure) hclear)) fun r => ?_
  -- The manifest a failure restores was ready when the method was called on a ready one.
  refine .bind (Q := fun previous w => Maintaining w₀ w ∧
      (w₀.db.manifest.state = .ready → previous.manifest.state = .ready))
    (Triple.getDb fun w hw => ⟨hw, fun h => (hw.ready h).1⟩) fun previous =>
    .of_pure (fun w hw => hw.2) fun hprevious => Triple.pre ?_ fun w hw => hw.1
  refine .bind (hkeep (hupdate fun _ => .update rfl fun h => h)) fun _ => ?_
  refine .bind (Triple.onError (F := fun _ => Maintaining w₀)
    (.bind (hkeep maintaining_syncStorage) fun _ => .bind (hkeep Within.getDb) fun _ =>
      hkeep (maintaining_writeManifestCopy _)) fun _ => ?_) fun _ => ?_
  · refine .bind (Q := fun _ => Maintaining w₀) (Triple.modifyDb fun w hw => ?_) fun _ =>
      hkeep hclear
    exact ⟨by rw [hw.db], fun h => ⟨hprevious h, (hw.ready h).2⟩⟩
  · refine .bind (hkeep (hupdate fun w => .update ?_ fun h => h)) fun _ => ?_
    · unfold afterCompaction
      rfl
    · exact .bind (hkeep (Within.onError maintaining_stabilizeManifestUnsafe
        (hupdate fun _ => .update rfl fun h => h))) fun _ =>
          hkeep (hupdate fun _ => .update rfl fun h => h)

lemma maintaining_flushToSlot (slot : ℕ) : Within Maintaining (flushToSlot cfg slot) := by
  unfold flushToSlot
  refine .bind (Within.modifyDb fun _ => .update rfl fun h => h) fun _ => .bind Within.getDb
    fun db => ?_
  refine .bind Within.liftResult fun records => ?_
  refine .bind (fun w => .of_writing_eq (within_flushRecords _ _ _ w)
    fun _ => readyWrite_of_table) fun b => ?_
  refine .bind (fun w => .of_writing_eq (within_finishTableDataBlockUnsafe b w)
    fun _ => readyWrite_of_table) fun b₁ => ?_
  refine .bind (fun w => .of_writing (within_finishTableUnsafe b₁ _ w)
    fun _ => readyWrite_of_table) fun reference => ?_
  exact .bind (Within.modifyDb fun _ => .update rfl fun h => h) fun _ => .bind
    (Within.onError (maintaining_writeManifestCopy _)
      (Within.modifyDb fun _ => .update rfl fun h => h))
    fun _ => Within.modifyDb fun _ => .update rfl fun h => h

lemma maintaining_flushMemtableUnsafe : Within Maintaining (flushMemtableUnsafe cfg) := by
  unfold flushMemtableUnsafe
  refine .bind Within.getDb fun db => .ite (.bind Within.failIf fun _ => ?_) .pure
  cases freeTableSlot cfg db.manifest with
  | none => exact maintaining_compactTablesUnsafe
  | some slot => exact maintaining_flushToSlot slot

/-! ## The log -/

lemma maintaining_ensureWalHeader (slot generation first : ℕ) :
    Within Maintaining (ensureWalHeader cfg slot generation first) := by
  unfold ensureWalHeader
  refine .bind Within.failIf fun _ => .bind Within.getDb fun db => ?_
  cases encodeWalHeader db.manifest.databaseId generation first slot cfg.geometry.walSize with
  | none => exact .throw
  | some header =>
      exact .bind (maintaining_writeStorage trivial) fun _ =>
        .bind (maintaining_writeStorage trivial) fun _ => maintaining_syncStorage

lemma maintaining_rotateWalUnsafe : Within Maintaining (rotateWalUnsafe cfg) := by
  unfold rotateWalUnsafe
  refine .bind Within.getDb fun db => .bind Within.failIf fun _ => ?_
  refine .bind maintaining_stabilizeManifestUnsafe fun _ => ?_
  refine .bind (maintaining_ensureWalHeader _ _ _) fun _ => ?_
  exact .bind (Within.modifyDb fun _ => .update rfl fun h => h) fun _ => .bind Within.getDb
    fun _ => .bind (Within.onError (maintaining_writeManifestCopy _)
      (Within.modifyDb fun _ => .update rfl fun h => h)) fun _ =>
    .bind (Within.modifyDb fun _ => .update rfl fun h => h) fun _ =>
      maintaining_stabilizeManifestUnsafe

lemma maintaining_makeWalRoom (transactionBytes : ℕ) :
    Within Maintaining (makeWalRoom cfg transactionBytes) := by
  unfold makeWalRoom releaseOlderLog
  refine .bind Within.getDb fun db => .ite (.bind ?_ fun _ =>
    .bind maintaining_rotateWalUnsafe fun _ => .pure) .pure
  exact .bind Within.getDb fun db => .ite
    (.bind maintaining_compactTablesUnsafe fun _ => .pure)
    (.ite (.bind maintaining_flushMemtableUnsafe fun _ => .pure) .pure)

lemma maintaining_writeFrames (namespaceName : Bytes) (mutations : List Mutation)
    (slot tail : ℕ) (g : FrameGroup) (remaining frameIndex : ℕ) :
    Within Maintaining
      (writeFrames namespaceName mutations slot tail g remaining frameIndex) := by
  induction remaining generalizing frameIndex with
  | zero => exact .pure
  | succ remaining ih =>
      unfold writeFrames
      refine .bind Within.liftResult fun payload => ?_
      cases encodeWalFrame g frameIndex payload with
      | none => exact .throw
      | some frame => exact .bind (maintaining_writeStorage trivial) fun _ => ih _

/-- **An append, with all the room it makes, is maintenance.** -/
theorem maintaining_appendTransactionUnsafe (namespaceName : Bytes) :
    Within Maintaining (appendTransactionUnsafe cfg namespaceName) := by
  unfold appendTransactionUnsafe
  refine .bind Within.getDb fun db => .bind Within.failIf fun _ => ?_
  refine .bind maintaining_stabilizeManifestUnsafe fun _ => .bind Within.liftResult fun size => ?_
  refine .bind (maintaining_makeWalRoom _) fun moved => ?_
  refine .bind Within.getDb fun db => .bind Within.failIf fun _ => .bind ?_ fun checksum => ?_
  · unfold refreshChecksum
    exact .ite (.bind Within.getDb fun _ => .bind Within.liftResult fun _ =>
      .bind Within.failIf fun _ => .pure) .pure
  · exact .bind (maintaining_writeFrames _ _ _ _ _ _ _) fun _ => .bind maintaining_syncStorage
      fun _ => Within.modifyDb fun _ => .update rfl fun h => h

end On9kvdb
