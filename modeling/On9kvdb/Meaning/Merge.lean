import On9kvdb.Meaning.Relocation
import On9kvdb.Meaning.Sources

/-!
# What a merge puts out

`Condensed` is the invariant of the merge of a compaction: the output tables finished so far and the
one under construction account for the versions that have been taken from the sources.  External
values are copied on the way, so an entry has the meaning of its source, not its value
(`MovedTo`).
-/

namespace On9kvdb

open Exceptional Versions

variable {cfg : Config} {w w' w₁ : World} {destination : Destination} {tail : ℕ}

/-! ## Values in the destination bank -/

/-- Chunks of a bank behind its tail. -/
def BehindTail (bank tail : ℕ) : Write → Prop
  | .valueChunk b offset _ => b = bank ∧ tail ≤ offset
  | _ => False

lemma behindTail_copyValueChunks {source copy : ValueRef} (remaining index : ℕ)
    (checksumState : UInt32) :
    Within (Writing Eq (BehindTail copy.bankSlot copy.firstChunkOffset))
      (copyValueChunks source copy remaining index checksumState) := by
  induction remaining generalizing index checksumState with
  | zero => exact .pure
  | succ remaining ih =>
      unfold copyValueChunks
      refine .bind Within.readOnly fun input => ?_
      cases encodeValueChunk input.databaseId copy.bankGeneration copy.firstChunkOffset
        input.valueSize input.valueOffset input.payload with
      | none => exact .throw
      | some output =>
          exact .bind (Within.writeStorage ⟨rfl, Nat.le_add_right _ _⟩) fun _ => ih _ _

lemma behindTail_copyExternalValueUnsafe (source : ValueRef) (bank generation tail : ℕ) :
    Within (Writing Eq (BehindTail bank tail))
      (copyExternalValueUnsafe cfg source bank generation tail) := by
  unfold copyExternalValueUnsafe
  have hcopy := @behindTail_copyValueChunks source (source.movedTo bank generation tail)
    (chunkCount source.valueSize) 0 crcInit
  exact .bind Within.failIf fun _ => .bind Within.failIf fun _ => .bind hcopy fun _ =>
    .bind Within.failIf fun _ => .pure

lemma behindTail_relocateValue (v : StoredValue) :
    Within (Writing Eq (BehindTail destination.bankSlot tail))
      (relocateValue cfg destination tail v) := by
  cases v with
  | external r =>
      exact .tryCatch (.bind (behindTail_copyExternalValueUnsafe _ _ _ _) fun _ => .pure)
        fun e => .ite .pure .throw
  | tombstone => exact .pure
  | inline bytes => exact .pure

/-- The manifest with the destination bank as the active one. -/
def ManifestRecord.aimedAt (m : ManifestRecord) (destination : Destination) (tail : ℕ) :
    ManifestRecord :=
  { m with
    activeValueBank := destination.bankSlot
    valueBankGeneration :=
      Function.update m.valueBankGeneration destination.bankSlot destination.bankGeneration
    valueBankTail := Function.update m.valueBankTail destination.bankSlot tail }

lemma bankPlace_aimedAt (m : ManifestRecord) : (m.aimedAt destination tail).bankPlace =
    ⟨destination.bankSlot, destination.bankGeneration, tail⟩ := by
  unfold ManifestRecord.aimedAt ManifestRecord.bankPlace
  simp

/-- Values below the tail are not touched behind it. -/
lemma BehindTail.spares {m : ManifestRecord} {write : Write}
    (h : BehindTail destination.bankSlot tail write) :
    SparesContents cfg (m.aimedAt destination tail) write := by
  cases write with
  | valueChunk b offset chunk =>
      refine ⟨fun _ _ _ h => (by cases h), fun _ _ h => (by cases h), fun v hv r hr _ => ?_⟩
      rw [valueInActiveBank_eq, bankPlace_aimedAt, Option.all_eq_true] at hv
      exact (endOffset_le_of_matches (hv r hr)).trans h.2
  | _ => exact h.elim

/-- A step that leaves the instance alone and spares what `m` refers to. -/
lemma Retained.of_writing {m : ManifestRecord} {S : Write → Prop} (h : Writing Eq S w w')
    (hS : ∀ write, S write → SparesContents cfg m write) : Retained cfg m w w' := by
  obtain ⟨hslots, hvalues⟩ := (h.dev.mono hS).sparesContents
  have hdb := h.db
  exact ⟨by rw [hdb], by rw [hdb], by rw [hdb], fun slot hslot => .of_eq (hslots slot hslot).1
    (hslots slot hslot).2 (by rw [hdb]) (by rw [hdb]), hvalues⟩

lemma Retained.tick {m : ManifestRecord} (w : World) :
    Retained cfg m w { w with dev := w.dev.tick } :=
  .of_writing (S := fun _ => False) ⟨rfl, .clock _ .refl⟩ fun _ h => h.elim

variable (cfg) in
/-- A value has moved to the destination bank, or is kept in its record. -/
structure MovedTo (w₁ w : World) (destination : Destination) (tail : ℕ) (v v' : StoredValue) :
    Prop where
  inlineSize : v'.inlineSize = v.inlineSize
  means : ∀ o, Denotes w₁.db.manifest w₁.dev.current v o →
    Denotes w₁.db.manifest w.dev.current v' o
  inBank : valueInActiveBank cfg (w₁.db.manifest.aimedAt destination tail) v' = true

lemma valueInActiveBank_aimedAt (m m' : ManifestRecord) (v : StoredValue) :
    valueInActiveBank cfg (m'.aimedAt destination tail) v =
      valueInActiveBank cfg (m.aimedAt destination tail) v :=
  valueInActiveBank_congr (by rw [bankPlace_aimedAt, bankPlace_aimedAt]) v

/-- A copy lies in its bank, below the tail behind it. -/
lemma matches_movedTo {source : ValueRef} {bank generation : ℕ} (hbank : bank < valueBankCount)
    (hgeneration : generation ≠ 0) (hlow : identityRegionSize ≤ tail)
    (haligned : tail % valueChunkSize = 0)
    (hend : tail + chunkCount source.valueSize * valueChunkSize ≤ cfg.geometry.valueBankSize)
    (hvalid : valueRefIsValid source cfg.geometry.valueBankSize = true)
    (hlarge : cfg.inlineValueLen < source.valueSize) :
    valueRefMatchesBankUnsafe cfg (source.movedTo bank generation tail) bank generation
      (tail + chunkCount source.valueSize * valueChunkSize) = true := by
  unfold valueRefIsValid at hvalid
  simp only [Bool.and_eq_true, decide_eq_true_eq, bne_iff_ne, ne_eq, beq_iff_eq] at hvalid
  obtain ⟨⟨⟨⟨⟨⟨⟨⟨-, -⟩, hsize⟩, hmax⟩, -⟩, -⟩, hroom⟩, -⟩, -⟩ := hvalid
  have hcount : 1 ≤ chunkCount source.valueSize := by
    unfold chunkCount
    rw [Nat.le_div_iff_mul_le (by decide)]
    omega
  have hchunk : valueChunkSize ≤ chunkCount source.valueSize * valueChunkSize :=
    Nat.le_mul_of_pos_left _ hcount
  have hfirst : tail ≤ cfg.geometry.valueBankSize - valueChunkSize := by omega
  have hcopy : valueRefIsValid (source.movedTo bank generation tail) cfg.geometry.valueBankSize =
      true := by
    unfold valueRefIsValid ValueRef.movedTo ValueRef.endOffset
    simp only [Bool.and_eq_true, decide_eq_true_eq, bne_iff_ne, ne_eq, beq_iff_eq]
    exact ⟨⟨⟨⟨⟨⟨⟨⟨hbank, hgeneration⟩, hsize⟩, hmax⟩, hlow⟩, haligned⟩, hroom⟩, hfirst⟩, hend⟩
  unfold valueRefMatchesBankUnsafe
  simp only [Bool.and_eq_true, decide_eq_true_eq, bne_iff_ne, ne_eq, beq_iff_eq]
  exact ⟨⟨⟨⟨⟨⟨⟨hbank, hgeneration⟩, hend⟩, hlarge⟩, rfl⟩, rfl⟩, hcopy⟩, le_rfl⟩

/-- A tail moves on within the bank, or stays. -/
def TailMoves (cfg : Config) (tail tail' : ℕ) : Prop :=
  tail' = tail ∨ tail ≤ tail' ∧ tail' ≤ cfg.geometry.valueBankSize

/-- **A relocated value has the meaning of its source.** -/
lemma triple_relocateValue_moved {w₀ : World} {v : StoredValue}
    (hin : valueInActiveBank cfg w₁.db.manifest v = true)
    (hretained : Retained cfg w₁.db.manifest w₁ w₀)
    (hdatabase : SameDatabase w₁.db.manifest w₀.db.manifest) :
    Triple (· = w₀) (relocateValue cfg destination tail v)
      (fun r w => ∀ v' tail', r = some (v', tail') →
        TailMoves cfg tail tail' ∧ MovedTo cfg w₁ w destination tail' v v')
      (fun _ _ => True) := by
  cases v with
  | tombstone =>
      refine .pure fun w _ v' tail' h => ?_
      cases h
      refine ⟨.inl rfl, rfl, fun o ho => ?_, rfl⟩
      cases ho
      exact .tombstone
  | inline bytes =>
      refine .pure fun w _ v' tail' h => ?_
      cases h
      refine ⟨.inl rfl, rfl, fun o ho => ?_, rfl⟩
      cases ho
      exact .inline bytes
  | external r =>
      suffices hcopy : Triple (· = w₀) _ _ (fun _ _ => True) from .tryCatch hcopy fun e =>
        .ite (fun _ => .pure fun _ _ _ _ h => by cases h) fun _ => .throw fun _ _ => trivial
      refine .bind (triple_copyExternalValueUnsafe_relocated r _ _ _ w₀) fun copied =>
        .pure fun w hw => ?_
      obtain ⟨hdb, hcopy, htail, haligned, hlow, hgeneration, hbank, hend, hvalid, bytes, hmoved⟩ := hw
      rintro v' tail' h
      cases h
      have hlarge : cfg.inlineValueLen < r.valueSize := by
        have hmatch : valueRefMatchesBankUnsafe cfg r _ _ _ = true := hin
        unfold valueRefMatchesBankUnsafe at hmatch
        simp only [Bool.and_eq_true, decide_eq_true_eq] at hmatch
        exact hmatch.1.1.1.1.2
      refine ⟨.inr ⟨by rw [htail]; exact Nat.le_add_right _ _, hend⟩, rfl, fun o ho => ?_, ?_⟩
      · have hheld : Denotes w₁.db.manifest w₀.dev.current (.external r) (some bytes) :=
          .external (hmoved.held.congr ⟨hdatabase.databaseId.symm, hdatabase.geometry.symm⟩
            fun _ _ => rfl)
        have hsame : o = some bytes := (hretained.denotes (.refl _) hin ho).unique hheld
        rw [hsame]
        refine .external (hmoved.copied.congr ⟨?_, ?_⟩ fun _ _ => rfl)
        · rw [hdb]
          exact hdatabase.databaseId.symm
        · rw [hdb]
          exact hdatabase.geometry.symm
      · rw [valueInActiveBank_eq, bankPlace_aimedAt, hcopy, htail]
        rw [htail] at hend
        exact matches_movedTo hbank hgeneration hlow haligned hend hvalid hlarge

/-- A value that has moved stays where it is. -/
lemma MovedTo.later {m : ManifestRecord} {tail' : ℕ} {v v' : StoredValue}
    (h : MovedTo cfg w₁ w destination tail v v')
    (hretained : Retained cfg (m.aimedAt destination tail) w w') (htail : TailMoves cfg tail tail') :
    MovedTo cfg w₁ w' destination tail' v v' := by
  refine ⟨h.inlineSize, fun o ho => hretained.denotes (.refl _) ?_ (h.means o ho), ?_⟩
  · rw [valueInActiveBank_aimedAt w₁.db.manifest]
    exact h.inBank
  · rcases htail with rfl | ⟨htail, hbound⟩
    · exact h.inBank
    · refine valueInActiveBank_mono (m := w₁.db.manifest.aimedAt destination tail) ?_ ?_ hbound
        h.inBank
      · rw [bankPlace_aimedAt, bankPlace_aimedAt]
      · rw [bankPlace_aimedAt]
        exact htail

/-! ## The invariant -/

variable (cfg) in
/-- What a compaction starts from. -/
structure CompactionStart (w₁ : World) (destination : Destination) : Prop where
  free : ∀ slot ∈ outputSlots cfg w₁, w₁.db.manifest.tables slot = none
  bank : destination.bankSlot = 1 - w₁.db.manifest.activeValueBank
  store : StoreSound cfg w₁
  sound : Sound cfg w₁.db
  ordered : Ordered cfg w₁.db.stored

variable (cfg) in
/-- The compaction has only worked on its output tables and on its bank. -/
abbrev Compacting (w₁ : World) (destination : Destination) : World → Prop :=
  BuildsAside (SameButTables (outputSlots cfg w₁)) (outputSlots cfg w₁) destination.bankSlot w₁

variable (cfg) in
/-- The versions in the output tables, the one under construction included. -/
def outVersions (w₁ : World) (building : List TableEntry) (w : World) : Set StoreVersion :=
  {v | ∃ slot ∈ outputSlots cfg w₁, ∃ reference, w.db.manifest.tables slot = some reference ∧
    v ∈ entryVersions (storedEntries cfg w.dev.current reference)} ∪ entryVersions building

variable (cfg) in
/-- A finished table of the output. -/
structure OutputTable (w₁ w : World) (slot : ℕ) (reference : TableReference) : Prop where
  own : reference.slot = slot
  finished : Finished cfg reference (storedEntries cfg w.dev.current reference) w
  recorded : reference.maxSequence < w₁.db.nextTransactionSequence

variable (cfg) in
/-- The output accounts for the versions that are no longer left. -/
structure Condensed (w₁ : World) (destination : Destination) (count tail : ℕ)
    (left : Set StoreVersion) (building : List TableEntry) (w : World) : Prop where
  aside : Compacting cfg w₁ destination w
  free : ∀ i, count ≤ i → i < cfg.bankSize →
    w.db.manifest.tables (outputStart cfg w₁.db.manifest + i) = none
  tables : ∀ slot ∈ outputSlots cfg w₁, ∀ reference, w.db.manifest.tables slot = some reference →
    OutputTable cfg w₁ w slot reference
  condenses : Condenses (fun v => v.isTombstone = false) (MovedTo cfg w₁ w destination tail)
    (w₁.versions cfg) left (outVersions cfg w₁ building w)

section
variable {count : ℕ} {left : Set StoreVersion} {building : List TableEntry} {b : TableBuild}
  {α : Type}

lemma Compacting.retained (start : CompactionStart cfg w₁ destination)
    (h : Compacting cfg w₁ destination w) : Retained cfg w₁.db.manifest w₁ w :=
  BuildsAside.retained h start.free fun v hv => by
    rw [start.bank]
    exact elsewhere_of_inBank hv

/-- The sources are as they were. -/
lemma Compacting.sees (start : CompactionStart cfg w₁ destination)
    (h : Compacting cfg w₁ destination w) :
    SeesTables w₁.db.manifest.tables w₁.dev.current w := by
  intro slot reference htable
  have hactive : w₁.db.manifest.tables slot ≠ none := by
    rw [htable]
    exact Option.some_ne_none _
  have hother : slot ∉ outputSlots cfg w₁ := fun hmem => hactive (start.free slot hmem)
  exact ⟨(h.writing.db.tables slot hother).trans htable,
    ((Compacting.retained start h).active slot hactive).blocks⟩

lemma Finished.retained {m : ManifestRecord} {reference : TableReference}
    {entries : List TableEntry} (h : Finished cfg reference entries w)
    (hretained : Retained cfg m w w') (hactive : m.tables reference.slot ≠ none) :
    Finished cfg reference entries w' := by
  have hsame := hretained.active _ hactive
  exact ⟨(storedEntries_congr hsame.blocks).trans h.stored, hsame.served reference rfl h.serves,
    h.range, h.sequences⟩

/-- **A step past the output keeps it.** -/
lemma Condensed.step (h : Condensed cfg w₁ destination count tail left building w)
    (haside : Compacting cfg w₁ destination w')
    (hretained : Retained cfg (w.db.manifest.aimedAt destination tail) w w')
    (htables : w'.db.manifest.tables = w.db.manifest.tables) :
    Condensed cfg w₁ destination count tail left building w' := by
  have hstored : ∀ slot ∈ outputSlots cfg w₁, ∀ reference,
      w.db.manifest.tables slot = some reference →
      w.db.manifest.tables reference.slot ≠ none ∧
        storedEntries cfg w'.dev.current reference = storedEntries cfg w.dev.current reference := by
    intro slot hslot reference htable
    have hactive : w.db.manifest.tables reference.slot ≠ none := by
      rw [(h.tables slot hslot reference htable).own, htable]
      exact Option.some_ne_none _
    exact ⟨hactive, storedEntries_congr (hretained.active _ hactive).blocks⟩
  have hversions : outVersions cfg w₁ building w' = outVersions cfg w₁ building w := by
    unfold outVersions
    rw [htables]
    congr 1
    ext v
    refine exists_congr fun slot => and_congr_right fun hslot => exists_congr fun reference =>
      and_congr_right fun htable => ?_
    rw [(hstored slot hslot reference htable).2]
  refine ⟨haside, by rw [htables]; exact h.free, fun slot hslot reference htable => ?_, ?_⟩
  · rw [htables] at htable
    obtain ⟨hown, hfinished, hrecorded⟩ := h.tables slot hslot reference htable
    obtain ⟨hactive, hentries⟩ := hstored slot hslot reference htable
    exact ⟨hown, by rw [hentries]; exact hfinished.retained hretained hactive, hrecorded⟩
  · rw [hversions]
    exact h.condenses.mono fun e _ v hmoved => hmoved.later hretained (.inl rfl)

lemma Condensed.move {tail' : ℕ} (h : Condensed cfg w₁ destination count tail left building w)
    (htail : TailMoves cfg tail tail') :
    Condensed cfg w₁ destination count tail' left building w :=
  ⟨h.aside, h.free, h.tables, h.condenses.mono fun _ _ _ hmoved =>
    hmoved.later (refl_of (Retained cfg (w₁.db.manifest.aimedAt destination tail)) w) htail⟩

lemma Condensed.tick (h : Condensed cfg w₁ destination count tail left building w) :
    Condensed cfg w₁ destination count tail left building { w with dev := w.dev.tick } :=
  h.step (trans_of (BuildsAside _ _ _) h.aside (.tick w)) (.tick w) rfl

/-! ## The parts -/

/-- Work on one of the slots is work on them. -/
lemma BuildsAside.widen {slot : ℕ} {slots : List ℕ} {bank : ℕ}
    (h : BuildsAside SameButCaches [slot] bank w w') (hslot : slot ∈ slots) :
    BuildsAside (SameButTables slots) slots bank w w' := by
  refine ⟨h.writing.mono (fun _ _ => SameButTables.of_caches) fun write hwrite => ?_,
    fun s hs => h.caches s fun hmem => hs ?_⟩
  · rcases hwrite with ⟨s, hs, hwrite⟩ | hwrite
    · exact .inl ⟨slot, hslot, by rwa [List.mem_singleton.mp hs] at hwrite⟩
    · exact .inr hwrite
  · rw [List.mem_singleton.mp hmem]
    exact hslot

/-- Building the open table keeps the output. -/
lemma triple_condensed_build {x : DbM α}
    (hx : ∀ bank, Within (BuildsAside SameButCaches [b.slot] bank) x)
    (hplaced : OutputPlaced cfg w₁ b count) :
    Triple (Condensed cfg w₁ destination count tail left building) x
      (fun _ => Condensed cfg w₁ destination count tail left building)
      (fun _ => Compacting cfg w₁ destination) := by
  have hstep : ∀ w, Condensed cfg w₁ destination count tail left building w →
      Condensed cfg w₁ destination count tail left building (exec x w).2 := by
    intro w hw
    have hmine := hx destination.bankSlot w
    have hothers := hx (1 - destination.bankSlot) w
    have hfree : w.db.manifest.tables b.slot = none := by
      rw [hplaced.2]
      exact hw.free count le_rfl hplaced.1
    refine hw.step (trans_of (BuildsAside _ _ _) hw.aside (hmine.widen hplaced.mem))
      (hothers.weaken.retained (fun s hs => ?_) fun v hv => elsewhere_of_inBank hv) ?_
    · rw [List.mem_singleton.mp hs]
      exact hfree
    · rw [hmine.writing.db]
  exact .of_exec fun w hw => ⟨fun _ w' hrun => by have h := hstep w hw; rwa [hrun] at h,
    fun _ w' hrun => by have h := (hstep w hw).aside; rwa [hrun] at h⟩

lemma table_builds_block :
    ∀ bank, Within (BuildsAside SameButCaches [b.slot] bank) (finishTableDataBlockUnsafe cfg b) :=
  fun _ w => .of_writing (within_finishTableDataBlockUnsafe b w) fun _ h =>
    .inl ⟨_, List.mem_singleton_self _, h⟩

lemma triple_closeFullBlock_condensed (hplaced : OutputPlaced cfg w₁ b count) (size : ℕ) :
    Triple (fun w => Condensed cfg w₁ destination count tail left building w ∧
        Built cfg w.dev.current b building) (closeFullBlock cfg b size)
      (fun b' w => (Condensed cfg w₁ destination count tail left building w ∧
        Built cfg w.dev.current b' building) ∧ b'.slot = b.slot)
      (fun _ => Compacting cfg w₁ destination) :=
  ((triple_condensed_build (fun _ w => .of_writing (within_closeFullBlock b size w) fun _ h =>
    .inl ⟨_, List.mem_singleton_self _, h⟩) hplaced).both (triple_closeFullBlock_built size)
      |>.and_returns (returns_closeFullBlock b size)).conseq (fun _ hw => hw) (fun _ _ hw => hw)
      fun _ _ hw => hw.1

/-- Copies do not touch blocks. -/
lemma BehindTail.tableBlock {S : Write → Prop} (h : Writing Eq S w w') {bank : ℕ}
    (hS : ∀ write, S write → BehindTail bank tail write) :
    w'.dev.current.tableBlock = w.dev.current.tableBlock := by
  refine h.dev.invariant (P := fun d => d.current.tableBlock = w.dev.current.tableBlock)
    (fun _ _ hd => hd) (fun d write hwrite hd => ?_) (fun d hd => ?_) rfl
  · have hother : ∀ m : Media, (write.apply m).tableBlock = m.tableBlock ∧
        (write.applyTorn m).tableBlock = m.tableBlock := by
      intro m
      have hbehind := hS write hwrite
      cases write with
      | valueChunk => exact ⟨rfl, rfl⟩
      | _ => exact hbehind.elim
    rw [← hd]
    rcases d.current_write write with hcurrent | hcurrent | hcurrent
    · rw [hcurrent]
    · rw [hcurrent, (hother _).2]
    · rw [hcurrent, (hother _).1]
  · rw [Device.current_sync, hd]

/-- **A value moves behind the output.** -/
lemma triple_relocateValue_condensed (start : CompactionStart cfg w₁ destination) {v : StoredValue}
    (hin : valueInActiveBank cfg w₁.db.manifest v = true) :
    Triple (fun w => Condensed cfg w₁ destination count tail left building w ∧
        Built cfg w.dev.current b building) (relocateValue cfg destination tail v)
      (fun r w => Built cfg w.dev.current b building ∧
        match r with
        | none => Condensed cfg w₁ destination count tail left building w
        | some (v', tail') => TailMoves cfg tail tail' ∧
            Condensed cfg w₁ destination count tail' left building w ∧
            MovedTo cfg w₁ w destination tail' v v')
      (fun _ => Compacting cfg w₁ destination) := by
  have hstep : ∀ w, Condensed cfg w₁ destination count tail left building w →
      Condensed cfg w₁ destination count tail left building
        (exec (relocateValue cfg destination tail v) w).2 := by
    intro w hw
    have hwriting := @behindTail_relocateValue cfg destination tail v w
    refine hw.step (trans_of (BuildsAside _ _ _) hw.aside (.of_writing hwriting fun write h => ?_))
      (.of_writing hwriting fun _ h => h.spares) ?_
    · cases write with
      | valueChunk => exact .inr h.1
      | _ => exact h.elim
    · rw [← hwriting.db]
  refine .of_exec fun w hw => ⟨fun r w' hrun => ?_, fun _ w' hrun => by
    have h := (hstep w hw.1).aside
    rwa [hrun] at h⟩
  have hcondensed := hstep w hw.1
  have hblocks := BehindTail.tableBlock (@behindTail_relocateValue cfg destination tail v w)
    fun _ h => h
  rw [hrun] at hcondensed hblocks
  refine ⟨hw.2.congr (by rw [hblocks]), ?_⟩
  have hdatabase : SameDatabase w₁.db.manifest w.db.manifest := by
    rw [hw.1.aside.writing.db.rest]
    exact ⟨rfl, rfl⟩
  cases r with
  | none => exact hcondensed
  | some moved =>
      obtain ⟨htail, hmoved⟩ := (triple_relocateValue_moved hin
        (Compacting.retained start hw.1.aside) hdatabase).ok rfl hrun moved.1 moved.2 rfl
      exact ⟨htail, hcondensed.move htail, hmoved⟩

end

end On9kvdb
