import On9kvdb.Store.Maintenance
import On9kvdb.Store.Recovery

/-!
# Making room in the log

An append that does not fit the active slot compacts or flushes and rotates to the other slot.
Compactions, flushes and publications leave the log where it is (`SameLog`); a rotation that
succeeds has written the header of the other slot and moved the tail in front of its first frame
(`Rotated`).
-/

namespace On9kvdb

open Exceptional

variable {cfg : Config} {α : Type}

/-! ## Where the log is -/

/-- What an instance knows of the end of its log. -/
structure LogPlace where
  databaseId : ℕ
  slot : ℕ
  generation : ℕ
  tail : ℕ
  sequence : ℕ

/-- The end of the log of an instance. -/
def Db.logPlace (db : Db) : LogPlace where
  databaseId := db.manifest.databaseId
  slot := db.manifest.activeWalSlot
  generation := db.manifest.walGeneration db.manifest.activeWalSlot
  tail := db.walTail db.manifest.activeWalSlot
  sequence := db.nextTransactionSequence

/-- A write outside the log. -/
def OutsideLog : Write → Prop
  | .walHeader _ _ _ => False
  | .walFrame _ _ _ => False
  | _ => True

/-- The log has not been touched. -/
structure SameLog (w w' : World) : Prop where
  place : w'.db.logPlace = w.db.logPlace
  headers : w'.dev.current.walHeader = w.dev.current.walHeader
  frames : w'.dev.current.walFrame = w.dev.current.walFrame

instance : Std.Refl SameLog := ⟨fun _ => ⟨rfl, rfl, rfl⟩⟩

instance : IsTrans World SameLog :=
  ⟨fun _ _ _ h₁ h₂ => ⟨h₂.place.trans h₁.place, h₂.headers.trans h₁.headers,
    h₂.frames.trans h₁.frames⟩⟩

lemma OutsideLog.apply {w : Write} (h : OutsideLog w) (m : Media) :
    (w.apply m).walHeader = m.walHeader ∧ (w.apply m).walFrame = m.walFrame := by
  cases w with
  | walHeader => exact h.elim
  | walFrame => exact h.elim
  | _ => exact ⟨rfl, rfl⟩

lemma OutsideLog.applyTorn {w : Write} (m : Media) :
    (w.applyTorn m).walHeader = m.walHeader ∧ (w.applyTorn m).walFrame = m.walFrame := by
  cases w <;> exact ⟨rfl, rfl⟩

/-- Writes outside the log leave its headers and frames on the media. -/
lemma steps_outsideLog {d d' : Device} (h : d.Steps OutsideLog d') :
    d'.current.walHeader = d.current.walHeader ∧ d'.current.walFrame = d.current.walFrame := by
  refine h.invariant (P := fun e => e.current.walHeader = d.current.walHeader ∧
    e.current.walFrame = d.current.walFrame) (fun _ _ he => he) (fun e w hw he => ?_)
    (fun e he => by rw [Device.current_sync]; exact he) ⟨rfl, rfl⟩
  rcases e.current_write w with hcurrent | hcurrent | hcurrent
  · rw [hcurrent]
    exact he
  · rw [hcurrent, (OutsideLog.applyTorn e.current).1, (OutsideLog.applyTorn e.current).2]
    exact he
  · rw [hcurrent, (hw.apply e.current).1, (hw.apply e.current).2]
    exact he

lemma SameLog.of_steps {w w' : World} (hplace : w'.db.logPlace = w.db.logPlace)
    (h : w.dev.Steps OutsideLog w'.dev) : SameLog w w' :=
  ⟨hplace, (steps_outsideLog h).1, (steps_outsideLog h).2⟩

lemma SameLog.of_caching {w w' : World} (h : Caching w w') : SameLog w w' :=
  .of_steps (by rw [h.db]; rfl) (by rw [h.dev]; exact .clock _ .refl)

lemma SameLog.of_writing {S : Write → Prop} {w w' : World} (h : Writing SameButCaches S w w')
    (hS : ∀ write, S write → OutsideLog write) : SameLog w w' := by
  have hdb := h.db
  unfold SameButCaches at hdb
  exact .of_steps (by rw [hdb]; rfl) (h.dev.mono hS)

lemma SameLog.of_writing_eq {S : Write → Prop} {w w' : World} (h : Writing Eq S w w')
    (hS : ∀ write, S write → OutsideLog write) : SameLog w w' :=
  .of_writing (h.mono (fun _ _ hdb => hdb ▸ refl_of SameButCaches _) fun _ hw => hw) hS

lemma outsideLog_of_table {slot : ℕ} {w : Write} (h : IntoTable slot w) : OutsideLog w := by
  cases w with
  | walHeader => exact h
  | walFrame => exact h
  | _ => trivial

lemma outsideLog_of_bank {bank : ℕ} {w : Write} (h : IntoBank bank w) : OutsideLog w := by
  cases w with
  | walHeader => exact h
  | walFrame => exact h
  | _ => trivial

lemma SameLog.of_merging {w w' : World} {destination : Destination}
    (h : Merging cfg w destination w') : SameLog w w' := by
  refine .of_steps (by rw [h.db.rest]; rfl) (h.dev.mono fun write hwrite => ?_)
  rcases hwrite with ⟨slot, -, hslot⟩ | hbank
  · exact outsideLog_of_table hslot
  · exact outsideLog_of_bank hbank

/-- A change of the memory that keeps the end of the log. -/
lemma SameLog.update {w : World} {db : Db} (h : db.logPlace = w.db.logPlace) :
    SameLog w { w with db := db } := ⟨h, rfl, rfl⟩

/-! ## Publications, flushes and compactions -/

lemma sameLog_writeManifestCopy (generation : ℕ) (state : ManifestState) :
    Within SameLog (writeManifestCopy generation state) := by
  refine .of_triple fun w₀ => (triple_writeManifestCopy_outcome w₀ generation state).conseq
    (fun _ hw => hw) (fun _ w hw => ?_) fun _ w hw => ?_
  · obtain ⟨h, -, hsync, rfl⟩ := hw
    exact .of_steps rfl (steps_of_published h trivial hsync)
  · rcases hw with ⟨rfl, -⟩ | ⟨h, hdb, hfailed⟩
    · exact refl_of SameLog w
    · exact .of_steps (by rw [hdb]; rfl) (hfailed.steps trivial)

lemma sameLog_stabilizeManifestUnsafe : Within SameLog stabilizeManifestUnsafe := by
  unfold stabilizeManifestUnsafe
  exact .bind Within.getDb fun _ => .ite (.bind Within.failIf fun _ =>
    .bind (sameLog_writeManifestCopy _ _) fun _ => Within.modifyDb fun _ => .update rfl) .pure

lemma sameLog_mergeTables (destination : Destination) (fuel : ℕ) {s : MergeState}
    (hs : s.output = none) : Within SameLog (mergeTables cfg destination fuel s) :=
  .of_triple fun _ => (triple_mergeTables fuel hs).conseq
    (fun w hw => hw ▸ refl_of (Writing _ _) w) (fun _ _ h => .of_merging h)
    fun _ _ h => .of_merging h

/-- Changes of the inactive slot play no part in where the log ends. -/
lemma update_other_slot {β : Type} (f : ℕ → β) (slot : ℕ) (b : β) :
    Function.update f (1 - slot) b slot = f slot :=
  Function.update_of_ne (by omega) _ _

/-- Restoring a manifest that named the same end of the log restores it. -/
lemma SameLog.restore {w₀ w : World} (h : SameLog w₀ w) {db : Db}
    (hdb : db.logPlace = w₀.db.logPlace) :
    SameLog w₀ { w with db := { w.db with manifest := db.manifest } } := by
  obtain ⟨hplace, hheaders, hframes⟩ := h
  simp only [Db.logPlace, LogPlace.mk.injEq] at hplace hdb
  obtain ⟨-, hslot, -, htail, hsequence⟩ := hplace
  obtain ⟨hid', hslot', hgeneration', -, -⟩ := hdb
  refine ⟨?_, hheaders, hframes⟩
  simp only [Db.logPlace, LogPlace.mk.injEq]
  exact ⟨hid', hslot', hgeneration', by rw [hslot', ← hslot, htail, hslot], hsequence⟩

/-- **A compaction leaves the log where it is.** -/
theorem sameLog_compactTablesUnsafe : Within SameLog (compactTablesUnsafe cfg) := by
  refine .of_triple fun w₀ => ?_
  have hkeep : ∀ {α : Type} {x : DbM α}, Within SameLog x →
      Triple (SameLog w₀) x (fun _ => SameLog w₀) (fun _ => SameLog w₀) :=
    fun hx => hx.invariant fun _ _ => trans_of SameLog
  have hupdate : ∀ {f : Db → Db}, (∀ w : World, (f w.db).logPlace = w.db.logPlace) →
      Within SameLog (modifyDb f) := fun hf => Within.modifyDb fun w => .update (hf w)
  have hclear : Within SameLog
      (modifyDb fun db => { db with manifest := clearOutputTables cfg db.manifest }) :=
    hupdate fun _ => rfl
  unfold compactTablesUnsafe
  refine .bind (Q := fun _ => SameLog w₀) (Triple.getDb fun w hw => hw ▸ refl_of SameLog _)
    fun db => .bind (hkeep Within.liftResult) fun _ => ?_
  refine .bind (hkeep fun w => .of_caching (within_validateTables _ w)) fun _ => ?_
  refine .bind (hkeep Within.failIf) fun _ => .bind (hkeep Within.liftResult) fun pending => ?_
  refine .bind (hkeep fun w => .of_caching (.of_reading (within_loadCursors _ w))) fun cursors => ?_
  refine .bind (hkeep (Within.onError (.bind (sameLog_mergeTables _ _ rfl) fun s => .bind
    (fun w => .of_writing_eq (within_relocateStaged _ _ _ w) fun _ => outsideLog_of_bank)
      fun _ => .pure) hclear)) fun r => ?_
  refine .bind (Q := fun previous w => SameLog w₀ w ∧ previous.logPlace = w₀.db.logPlace)
    (Triple.getDb fun w hw => ⟨hw, hw.place⟩) fun previous => .of_pure (fun w hw => hw.2)
      fun hprevious => Triple.pre ?_ fun w hw => hw.1
  refine .bind (hkeep (hupdate fun w => ?_)) fun _ => ?_
  · simp only [Db.logPlace, compactedManifest, update_other_slot]
  refine .bind (Triple.onError (F := fun _ => SameLog w₀)
    (.bind (hkeep fun w => .of_writing_eq (Within.syncStorage w) fun _ hw => hw) fun _ =>
      .bind (hkeep Within.getDb) fun _ => hkeep (sameLog_writeManifestCopy _ _)) fun _ =>
        .bind (Triple.modifyDb fun w hw => hw.restore hprevious) fun _ => hkeep hclear) fun _ => ?_
  refine .bind (hkeep (hupdate fun w => ?_)) fun _ => ?_
  · simp only [Db.logPlace, afterCompaction, update_other_slot]
  · exact .bind (hkeep (Within.onError sameLog_stabilizeManifestUnsafe (hupdate fun _ => rfl)))
      fun _ => hkeep (hupdate fun _ => rfl)

lemma sameLog_flushToSlot (slot : ℕ) : Within SameLog (flushToSlot cfg slot) := by
  have hupdate : ∀ {f : Db → Db}, (∀ w : World, (f w.db).logPlace = w.db.logPlace) →
      Within SameLog (modifyDb f) := fun hf => Within.modifyDb fun w => .update (hf w)
  unfold flushToSlot
  refine .bind (hupdate fun _ => rfl) fun _ => .bind Within.getDb fun db => ?_
  refine .bind Within.liftResult fun records => ?_
  refine .bind (fun w => .of_writing_eq (within_flushRecords _ _ _ w)
    fun _ => outsideLog_of_table) fun b => ?_
  refine .bind (fun w => .of_writing_eq (within_finishTableDataBlockUnsafe b w)
    fun _ => outsideLog_of_table) fun b₁ => ?_
  refine .bind (fun w => .of_writing (within_finishTableUnsafe b₁ _ w)
    fun _ => outsideLog_of_table) fun reference => ?_
  exact .bind (hupdate fun _ => rfl) fun _ => .bind
    (Within.onError (sameLog_writeManifestCopy _ _) (hupdate fun _ => rfl)) fun _ =>
      hupdate fun _ => rfl

lemma sameLog_flushMemtableUnsafe : Within SameLog (flushMemtableUnsafe cfg) := by
  unfold flushMemtableUnsafe
  refine .bind Within.getDb fun db => .ite (.bind Within.failIf fun _ => ?_) .pure
  cases freeTableSlot cfg db.manifest with
  | none => exact sameLog_compactTablesUnsafe
  | some slot => exact sameLog_flushToSlot slot

/-! ## Headers -/

/-- The header of a slot names this generation and this first sequence. -/
def HeaderLoads (cfg : Config) (m : Media) (manifest : ManifestRecord)
    (slot generation first : ℕ) : Prop :=
  ∃ h, loadWalHeader cfg m manifest slot generation = .ok h ∧ h.firstTransactionSequence = first

/-- What a header says depends on its two copies and the identity of the database. -/
lemma loadWalHeader_congr {m m' : Media} {manifest manifest' : ManifestRecord}
    {slot : ℕ} (hm : m'.walHeader slot = m.walHeader slot)
    (hid : manifest'.databaseId = manifest.databaseId) (generation : ℕ) :
    loadWalHeader cfg m' manifest' slot generation =
      loadWalHeader cfg m manifest slot generation := by
  unfold loadWalHeader readWalHeader
  rw [hm, hid]

lemma HeaderLoads.congr {m m' : Media} {manifest manifest' : ManifestRecord}
    {slot generation first : ℕ} (h : HeaderLoads cfg m manifest slot generation first)
    (hm : m'.walHeader slot = m.walHeader slot)
    (hid : manifest'.databaseId = manifest.databaseId) :
    HeaderLoads cfg m' manifest' slot generation first := by
  obtain ⟨header, hload, hfirst⟩ := h
  exact ⟨header, by rw [loadWalHeader_congr hm hid, hload], hfirst⟩

lemma encodeWalHeader_fields {databaseId generation first slot recordRegionEnd : ℕ}
    {h : WalHeader}
    (hencode : encodeWalHeader databaseId generation first slot recordRegionEnd = some h) :
    h.databaseId = databaseId ∧ h.generation = generation ∧ h.firstTransactionSequence = first ∧
      h.slot = slot ∧ h.recordRegionEnd = recordRegionEnd := by
  unfold encodeWalHeader at hencode
  split_ifs at hencode
  cases hencode
  exact ⟨rfl, rfl, rfl, rfl, rfl⟩

/-- Two copies of the header a rotation encodes load as that header. -/
lemma HeaderLoads.of_copies {m : Media} {manifest : ManifestRecord}
    {slot generation first : ℕ} {h : WalHeader} (hslot : slot < walFileCount)
    (hgeneration : generation ≠ 0)
    (hencode : encodeWalHeader manifest.databaseId generation first slot cfg.geometry.walSize =
      some h) (h₀ : m.walHeader slot 0 = .ok h) (h₁ : m.walHeader slot 1 = .ok h) :
    HeaderLoads cfg m manifest slot generation first := by
  obtain ⟨hid, hgen, hfirst, hs, hend⟩ := encodeWalHeader_fields hencode
  refine ⟨h, ?_, hfirst⟩
  unfold loadWalHeader readWalHeader
  rw [rejectIf_of_not (by omega), ok_bind, h₀, h₁]
  dsimp only
  have hgood : ¬ (h.databaseId ≠ manifest.databaseId ∨ h.slot ≠ slot ∨
      h.generation ≠ generation ∨ h.recordRegionEnd ≠ cfg.geometry.walSize) := by
    rintro (hne | hne | hne | hne)
    · exact hne hid
    · exact hne hs
    · exact hne hgen
    · exact hne hend
  rw [if_neg hgood, ok_bind, ok_bind]
  exact if_neg fun hne => hne rfl

lemma triple_ensureWalHeader_laid (w₀ : World) (slot generation first : ℕ) :
    Triple (· = w₀) (ensureWalHeader cfg slot generation first)
      (fun _ w => w.db = w₀.db ∧ w.dev.current.walFrame = w₀.dev.current.walFrame ∧
        HeaderLoads cfg w.dev.current w₀.db.manifest slot generation first) (fun _ _ => True) := by
  unfold ensureWalHeader
  refine .bind (Triple.check fun _ _ => trivial) fun _ => .of_pure (fun w hw => hw.2)
    fun hchecks => .pre ?_ fun w hw => hw.1
  refine .bind Triple.fetch fun db => .of_pure (fun w hw => hw.2 ▸ congrArg World.db hw.1) ?_
  rintro rfl
  cases hencode : encodeWalHeader w₀.db.manifest.databaseId generation first slot
      cfg.geometry.walSize with
  | none => exact .throw fun _ _ => trivial
  | some header =>
      dsimp only
      refine .bind (Q := fun _ w => w.db = w₀.db ∧
          w.dev.current.walFrame = w₀.dev.current.walFrame ∧
          w.dev.current.walHeader slot 0 = .ok header)
        (Triple.writeStorage (fun w hw hnone => ?_) fun _ _ _ => trivial) fun _ => ?_
      · obtain ⟨rfl, -⟩ := hw
        dsimp only
        rw [Device.current_write_of_none hnone]
        exact ⟨rfl, rfl, by simp [Write.apply, update₂_apply]⟩
      refine .bind (Q := fun _ w => w.db = w₀.db ∧
          w.dev.current.walFrame = w₀.dev.current.walFrame ∧
          w.dev.current.walHeader slot 0 = .ok header ∧
          w.dev.current.walHeader slot 1 = .ok header)
        (Triple.writeStorage (fun w hw hnone => ?_) fun _ _ _ => trivial) fun _ => ?_
      · obtain ⟨hdb, hframes, hzero⟩ := hw
        dsimp only
        rw [Device.current_write_of_none hnone]
        exact ⟨hdb, hframes, by simpa [Write.apply, update₂_apply] using hzero,
          by simp [Write.apply, update₂_apply]⟩
      refine Triple.syncStorage (fun w hw _ => ?_) fun _ _ _ => trivial
      obtain ⟨hdb, hframes, hzero, hone⟩ := hw
      exact ⟨hdb, hframes, .of_copies (by omega) (by omega) hencode hzero hone⟩

/-! ## Rotation -/

/-- The other slot has become the active one; its log is empty and ends at `tail`. -/
structure RotatedTo (cfg : Config) (w₀ : World) (tail : ℕ) (w : World) : Prop where
  place : w.db.logPlace =
    ⟨w₀.db.manifest.databaseId, 1 - w₀.db.manifest.activeWalSlot,
      w₀.db.manifest.walGeneration w₀.db.manifest.activeWalSlot + 1, tail,
      w₀.db.nextTransactionSequence⟩
  header : HeaderLoads cfg w.dev.current w.db.manifest (1 - w₀.db.manifest.activeWalSlot)
    (w₀.db.manifest.walGeneration w₀.db.manifest.activeWalSlot + 1) w₀.db.nextTransactionSequence
  frames : w.dev.current.walFrame = w₀.dev.current.walFrame

/-- A publication that moves neither the log nor the staged transaction. -/
def Unmoved (w w' : World) : Prop := SameLog w w' ∧ w'.db.transaction = w.db.transaction

lemma unmoved_writeManifestCopy (generation : ℕ) (state : ManifestState) :
    Within Unmoved (writeManifestCopy generation state) := fun w =>
  ⟨sameLog_writeManifestCopy generation state w,
    by rw [(within_writeManifestCopy generation state w).db]⟩

lemma unmoved_stabilizeManifestUnsafe : Within Unmoved stabilizeManifestUnsafe := fun w =>
  ⟨sameLog_stabilizeManifestUnsafe w, by rw [(within_stabilizeManifestUnsafe w).db]⟩

lemma RotatedTo.unmoved {w₀ w w' : World} {tail : ℕ} (h : RotatedTo cfg w₀ tail w)
    (hw : Unmoved w w') : RotatedTo cfg w₀ tail w' := by
  have hid := congrArg LogPlace.databaseId hw.1.place
  exact ⟨hw.1.place.trans h.place, h.header.congr (congrFun hw.1.headers _) hid,
    hw.1.frames.trans h.frames⟩

/-- What has moved nothing of the log in front of a rotation plays no part in it. -/
lemma RotatedTo.of_sameLog {w₀ w₁ w : World} {tail : ℕ} (hsame : SameLog w₀ w₁)
    (h : RotatedTo cfg w₁ tail w) : RotatedTo cfg w₀ tail w := by
  obtain ⟨hplace, -, hframes⟩ := hsame
  simp only [Db.logPlace, LogPlace.mk.injEq] at hplace
  obtain ⟨hid, hslot, hgeneration, -, hsequence⟩ := hplace
  refine ⟨?_, ?_, h.frames.trans hframes⟩
  · rw [h.place, hid, hgeneration, hslot, hsequence]
  · rw [← hgeneration, ← hsequence, ← hslot]
    exact h.header

/-- **What a rotation leaves behind when it succeeds.** -/
theorem triple_rotateWalUnsafe_rotated (w₀ : World) :
    Triple (· = w₀) (rotateWalUnsafe cfg)
      (fun _ w => RotatedTo cfg w₀ walRecordRegionOffset w ∧
        w.db.transaction = w₀.db.transaction) (fun _ _ => True) := by
  unfold rotateWalUnsafe
  refine .bind Triple.fetch fun db => .of_pure (fun w hw => hw.2 ▸ congrArg World.db hw.1) ?_
  rintro rfl
  refine .bind (Triple.check fun _ _ => trivial) fun _ => ?_
  refine .bind (Q := fun _ w => Unmoved w₀ w) (unmoved_stabilizeManifestUnsafe.triple
    (fun w w' _ hw h => hw.1.1 ▸ h) fun _ _ _ _ _ => trivial) fun _ => .of_state fun w₁ hw₁ => ?_
  obtain ⟨⟨hplace, -, hframes⟩, htransaction⟩ := hw₁
  simp only [Db.logPlace, LogPlace.mk.injEq] at hplace
  obtain ⟨hid, hslot, hgeneration, -, hsequence⟩ := hplace
  refine .bind (triple_ensureWalHeader_laid w₁ _ _ _) fun _ => ?_
  refine .bind (Q := fun _ w => ∃ tail, RotatedTo cfg w₀ tail w ∧
      w.db.transaction = w₀.db.transaction)
    (Triple.modifyDb fun w hw => ?_) fun _ => ?_
  · obtain ⟨hdb, hsame, hheader⟩ := hw
    refine ⟨w.db.walTail (1 - w₀.db.manifest.activeWalSlot), ⟨?_, hheader.congr rfl ?_,
      hsame.trans hframes⟩, by rw [← htransaction, ← hdb]⟩
    · simp only [Db.logPlace, LogPlace.mk.injEq, hdb, Function.update_self]
      exact ⟨hid, trivial, trivial, trivial, hsequence⟩
    · rw [← hdb]
  refine .bind Triple.fetch fun db => ?_
  refine .bind (Q := fun _ w => ∃ tail, RotatedTo cfg w₀ tail w ∧
      w.db.transaction = w₀.db.transaction) ?_ fun _ => ?_
  · refine Triple.onError (F := fun _ _ => True) ?_ fun _ => Triple.modifyDb fun _ _ => trivial
    refine (unmoved_writeManifestCopy _ _).triple (fun w w' _ hw h => ?_) fun _ _ _ _ _ => trivial
    obtain ⟨tail, hrotated, hstaged⟩ := hw.1
    exact ⟨tail, hrotated.unmoved h, h.2.trans hstaged⟩
  refine .bind (Q := fun _ w => RotatedTo cfg w₀ walRecordRegionOffset w ∧
      w.db.transaction = w₀.db.transaction) (Triple.modifyDb fun w hw => ?_) fun _ =>
      unmoved_stabilizeManifestUnsafe.triple
        (fun w w' _ hw h => ⟨hw.1.unmoved h, h.2.trans hw.2⟩) fun _ _ _ _ _ => trivial
  obtain ⟨tail, ⟨hplace, hheader, hsame⟩, hstaged⟩ := hw
  refine ⟨⟨?_, hheader, hsame⟩, hstaged⟩
  simp only [Db.logPlace, LogPlace.mk.injEq] at hplace ⊢
  obtain ⟨hid', hslot', hgeneration', -, hsequence'⟩ := hplace
  exact ⟨hid', hslot', hgeneration', by rw [hslot', Function.update_self], hsequence'⟩

/-- What an append finds once it has made room: the slot it found, or the other one, empty. -/
def RoomMade (cfg : Config) (w₀ w : World) : Prop :=
  SameLog w₀ w ∨ RotatedTo cfg w₀ walRecordRegionOffset w

lemma triple_releaseOlderLog (w₀ : World) :
    Triple (· = w₀) (releaseOlderLog cfg)
      (fun moved w => SameLog w₀ w ∧ (moved = false → w.db.transaction = w₀.db.transaction))
      (fun _ _ => True) := by
  have hkept : ∀ {x : DbM Unit}, Within SameLog x → Triple (· = w₀)
      (do x; return true) (fun moved w => SameLog w₀ w ∧
        (moved = false → w.db.transaction = w₀.db.transaction)) (fun _ _ => True) := fun hx =>
    .bind (Q := fun _ => SameLog w₀) (hx.triple (fun w w' _ hw h => hw ▸ h)
      fun _ _ _ _ _ => trivial) fun _ => .pure fun w hw => ⟨hw, fun h => by cases h⟩
  unfold releaseOlderLog
  refine .bind Triple.fetch fun db => .ite (fun _ => ?_) fun _ => .ite (fun _ => ?_) fun _ => ?_
  · exact (hkept sameLog_compactTablesUnsafe).pre fun w hw => hw.1
  · exact (hkept sameLog_flushMemtableUnsafe).pre fun w hw => hw.1
  · exact .pure fun w hw => ⟨hw.1 ▸ refl_of SameLog w, fun _ => by rw [hw.1]⟩

lemma triple_makeWalRoom_made (w₀ : World) (transactionBytes : ℕ) :
    Triple (· = w₀) (makeWalRoom cfg transactionBytes)
      (fun moved w => RoomMade cfg w₀ w ∧
        (moved = false → w.db.transaction = w₀.db.transaction)) (fun _ _ => True) := by
  unfold makeWalRoom
  refine .bind Triple.fetch fun db => .ite (fun _ => ?_) fun _ =>
    .pure fun w hw => ⟨Or.inl (hw.1 ▸ refl_of SameLog w), fun _ => by rw [hw.1]⟩
  refine .bind ((triple_releaseOlderLog w₀).pre fun w hw => hw.1) fun moved =>
    .of_state fun w₁ hw₁ => ?_
  refine .bind (triple_rotateWalUnsafe_rotated w₁) fun _ => .pure fun w hw => ?_
  exact ⟨Or.inr (hw.1.of_sameLog hw₁.1), fun h => hw.2.trans (hw₁.2 h)⟩

end On9kvdb
