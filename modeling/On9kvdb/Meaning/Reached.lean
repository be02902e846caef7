import On9kvdb.Meaning.Refinement

/-!
# Behind every run

What the refinement says about the states that a run of calls reaches from a new database: a lookup
finds the newest version of a key and changes its answer only behind a commit, a transaction reads
its own edits, a reader shows what the map holds, and the maintenance that calls do on their way, a
flush or a compaction, does not show.
-/

namespace On9kvdb

open Exceptional Versions

variable {cfg : Config} {w : World}

/-! ## Maintenance -/

/-- A method that tends the database leaves it standing for the same. -/
lemma Modelled.tended {α : Type} {names : Names} {M : Model} {x : DbM α}
    (h : Modelled cfg names M w) (hhealthy : w.db.storageFaulted = false)
    (hidle : w.db.valueWriter.active = false) (htends : Tends cfg x)
    (hcarrying : Within (Carrying cfg) x) : Represents cfg M (exec x w).2 := by
  obtain ⟨staging, hholding, hedits⟩ := h.represents.holding
  have hheld : Holding cfg M.committed staging (exec x w).2 :=
    ((htends M.committed staging).conseq (fun _ hw => hw) (fun _ _ hw => hw.holding)
      fun _ _ hw => hw).final ⟨hholding, h.steady, hhealthy, hidle⟩
  exact h.represents.undrafted hidle hheld hedits (hcarrying w h.steady.sound hidle).idle

/-! ## Lookups -/

/-- A lookup finds the newest version, which means what the map holds. -/
lemma Modelled.newest {names : Names} {M : Model} (h : Modelled cfg names M w)
    {key : CompositeKey} (hkey : key.valid = true) :
    (∃ v, Newest (w.versions cfg) key v ∧
      Denotes w.db.manifest w.dev.current v.value (M.committed key) ∧
      lookupCommittedUnsafe cfg w.db w.dev.current key = .ok ⟨v.sequence, v.value⟩) ∨
    ((∀ v ∈ w.versions cfg, v.key ≠ key) ∧ M.committed key = none ∧
      lookupCommittedUnsafe cfg w.db w.dev.current key = .error .notFound) := by
  obtain ⟨staging, hholding, -⟩ := h.represents.holding
  have hmeaning := hholding.serves.meaning key
  generalize M.committed key = o at hmeaning ⊢
  rcases hholding.serves.store.lookup h.steady.sound h.steady.ordered hkey with
    ⟨v, hnewest, hlookup⟩ | ⟨habsent, hlookup⟩
  · refine .inl ⟨v, hnewest, ?_, hlookup⟩
    cases hmeaning with
    | absent habsent => exact absurd hnewest.key (habsent _ hnewest.mem)
    | newest hnewest' hmeans =>
        rwa [hnewest.unique (hholding.serves.store.unambiguous h.steady.sound h.steady.ordered)
          hnewest']
  · refine .inr ⟨habsent, ?_, hlookup⟩
    cases hmeaning with
    | absent => rfl
    | newest hnewest => exact absurd hnewest.key (habsent _ hnewest.mem)

variable (cfg) in
/-- A lookup of the key answers with these bytes, or with none. -/
def Answered (w : World) (key : CompositeKey) (o : Option Bytes) : Prop :=
  (∃ view, lookupCommittedUnsafe cfg w.db w.dev.current key = .ok view ∧
    Denotes w.db.manifest w.dev.current view.value o) ∨
  (o = none ∧ lookupCommittedUnsafe cfg w.db w.dev.current key = .error .notFound)

lemma Modelled.answered {names : Names} {M : Model} (h : Modelled cfg names M w)
    {key : CompositeKey} (hkey : key.valid = true) : Answered cfg w key (M.committed key) := by
  rcases h.newest hkey with ⟨v, -, hdenotes, hlookup⟩ | ⟨-, hnone, hlookup⟩
  · exact .inl ⟨_, hlookup, hdenotes⟩
  · exact .inr ⟨hnone, hlookup⟩

/-! ## States of runs -/

section
variable (ones : Bool) (crashes : List Interruption) {faults : ℕ → Fault} {scrap : ℕ → Bytes}
  {entropy : ℕ → {id : ℕ // id ≠ 0}}
  (hstart : exec (init cfg) (powerOn (crashes.foldl (interrupted cfg)
    (blankMedia (if ones then 0xff else 0x00))) faults scrap entropy) = (.ok (), w))
  {calls : List Call} (hcalls : ∀ c ∈ calls, c.isLifecycle = false)
include hstart hcalls

/-- **Lookups find the newest version.**  Behind any run of calls from a new database no two versions
of a key, in the memtable or in the active tables, have the same sequence.  A lookup finds the one
with the greatest sequence, and its value is the bytes that the map of the model holds; it reports
`ESP_ERR_NOT_FOUND` when there is none, and then the map holds nothing. -/
theorem lookups_find_newest :
    ∃ M, Model.empty.Run .closed (trace cfg w calls) M ∧
      let w' := afterCalls cfg w calls
      Unambiguous (w'.versions cfg) ∧ ∀ key : CompositeKey, key.valid = true →
        (∃ v, Newest (w'.versions cfg) key v ∧
          Denotes w'.db.manifest w'.dev.current v.value (M.committed key) ∧
          lookupCommittedUnsafe cfg w'.db w'.dev.current key = .ok ⟨v.sequence, v.value⟩) ∨
        ((∀ v ∈ w'.versions cfg, v.key ≠ key) ∧ M.committed key = none ∧
          lookupCommittedUnsafe cfg w'.db w'.dev.current key = .error .notFound) := by
  obtain ⟨M, hrun, hmodelled⟩ := (modelled_started ones crashes hstart).run hcalls
  obtain ⟨staging, hholding, -⟩ := hmodelled.represents.holding
  exact ⟨M, hrun, hholding.serves.store.unambiguous hmodelled.steady.sound hmodelled.steady.ordered,
    fun key hkey => hmodelled.newest hkey⟩

/-- **Only commits change what lookups answer.**  Between two states of a run without a successful
`commit`, whatever has been staged, aborted, written, flushed, compacted or has failed, every lookup
answers the same bytes. -/
theorem only_commits_change_lookups {more : List Call}
    (hmore : ∀ c ∈ more, c.isLifecycle = false)
    (hkeeps : ∀ event ∈ trace cfg (afterCalls cfg w calls) more, event.commits = false)
    {key : CompositeKey} (hkey : key.valid = true) :
    ∃ o, Answered cfg (afterCalls cfg w calls) key o ∧
      Answered cfg (afterCalls cfg (afterCalls cfg w calls) more) key o := by
  obtain ⟨M, -, hmodelled⟩ := (modelled_started ones crashes hstart).run hcalls
  obtain ⟨M', hrun, hmodelled'⟩ := hmodelled.run hmore
  have hanswered := hmodelled'.answered hkey
  rw [hrun.committed_eq hkeeps] at hanswered
  exact ⟨_, hmodelled.answered hkey, hanswered⟩

/-- **Maintenance does not show.**  Behind any run of calls that leaves no writer open and no fault
latched, a compaction and a flush leave a state that stands for the same map and the same staged
edits, whether they succeed or are stopped by any failure of the device. -/
theorem maintenance_does_not_show
    (hhealthy : (afterCalls cfg w calls).db.storageFaulted = false)
    (hidle : (afterCalls cfg w calls).db.valueWriter.active = false) :
    ∃ M, Model.empty.Run .closed (trace cfg w calls) M ∧
      Represents cfg M (exec (compactTablesUnsafe cfg) (afterCalls cfg w calls)).2 ∧
      Represents cfg M (exec (flushMemtableUnsafe cfg) (afterCalls cfg w calls)).2 := by
  obtain ⟨M, hrun, hmodelled⟩ := (modelled_started ones crashes hstart).run hcalls
  exact ⟨M, hrun,
    hmodelled.tended hhealthy hidle tends_compactTablesUnsafe carrying_compactTablesUnsafe,
    hmodelled.tended hhealthy hidle tends_flushMemtableUnsafe carrying_flushMemtableUnsafe⟩

end

/-! ## A committed key -/

/-- A range of ones on a device that does not fail. -/
def blankWorld : World :=
  powerOn (([] : List Interruption).foldl (interrupted hostConfig)
    (blankMedia (if true then 0xff else 0x00))) (fun _ => .none) (fun _ => [])
      fun _ => ⟨1, Nat.one_ne_zero⟩

/-- A provisioned database that has been opened. -/
def formattedWorld : World := (exec (init hostConfig) blankWorld).2

lemma started_formattedWorld : exec (init hostConfig) blankWorld = (.ok (), formattedWorld) := by
  unfold formattedWorld
  exact exec_eq (by decide +kernel)

lemma faultless_formattedWorld :
    (afterCalls hostConfig formattedWorld commitCalls).dev.Faultless := by
  have hfaults : formattedWorld.dev.faults = fun _ => .none := by
    unfold formattedWorld
    exact sameFaults_init blankWorld
  exact faultless_afterCalls (modelled_started true [] started_formattedWorld).steady
    (fun n => congrFun hfaults n) (by decide)

lemma opened_formattedWorld : (exec (perform hostConfig (.openValue 513 [98]))
    (afterCalls hostConfig formattedWorld commitCalls)).1 = .ok (.token 1025) := by
  decide +kernel

/-- Behind one commit there is one version. -/
theorem lookups_find_newest_committed :
    ∃ M, Model.empty.Run .closed (trace hostConfig formattedWorld commitCalls) M ∧
      let w' := afterCalls hostConfig formattedWorld commitCalls
      Unambiguous (w'.versions hostConfig) ∧ ∀ key : CompositeKey, key.valid = true →
        (∃ v, Newest (w'.versions hostConfig) key v ∧
          Denotes w'.db.manifest w'.dev.current v.value (M.committed key) ∧
          lookupCommittedUnsafe hostConfig w'.db w'.dev.current key = .ok ⟨v.sequence, v.value⟩) ∨
        ((∀ v ∈ w'.versions hostConfig, v.key ≠ key) ∧ M.committed key = none ∧
          lookupCommittedUnsafe hostConfig w'.db w'.dev.current key = .error .notFound) :=
  lookups_find_newest true [] started_formattedWorld
    (show ∀ c ∈ commitCalls, c.isLifecycle = false by decide)

/-- Another transaction on the key is staged and aborted. -/
theorem only_commits_change_lookups_aborted :
    ∃ o, Answered hostConfig (afterCalls hostConfig formattedWorld commitCalls) ⟨[97], [98]⟩ o ∧
      Answered hostConfig (afterCalls hostConfig (afterCalls hostConfig formattedWorld commitCalls)
        [.begin 513, .set 1025 [98] [1], .abort 1025]) ⟨[97], [98]⟩ o :=
  only_commits_change_lookups true [] started_formattedWorld
    (show ∀ c ∈ commitCalls, c.isLifecycle = false by decide) (by decide) (by decide +kernel)
      (by decide)

/-- The committed key is flushed, or finds its way through a compaction. -/
theorem maintenance_does_not_show_committed :
    ∃ M, Model.empty.Run .closed (trace hostConfig formattedWorld commitCalls) M ∧
      Represents hostConfig M (exec (compactTablesUnsafe hostConfig)
        (afterCalls hostConfig formattedWorld commitCalls)).2 ∧
      Represents hostConfig M (exec (flushMemtableUnsafe hostConfig)
        (afterCalls hostConfig formattedWorld commitCalls)).2 :=
  maintenance_does_not_show true [] started_formattedWorld
    (show ∀ c ∈ commitCalls, c.isLifecycle = false by decide) (by decide +kernel)
      (by decide +kernel)

end On9kvdb
