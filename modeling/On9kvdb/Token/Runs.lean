import On9kvdb.Token.Calls

/-!
# Tokens over whole runs

For every sequence of calls on one database object, with any results and any failures, the tokens
that are accepted are the ones whose resource is open: the registry of the calls made so far, and
nothing else, says which tokens the instance takes (`tokens_resolve_while_open`).

* `trace`: the events of a run.
* `Tidy`: the invariant of runs, an instance beside the registry of its events.
* `issued_nodup`: no token is returned twice.
-/

namespace On9kvdb

open Exceptional Generational

variable {cfg : Config}

/-! ## Acceptance -/

lemma isOk_iff {α : Type} {x : Except EspErr α} : x.isOk = true ↔ ∃ a, x = .ok a := by
  cases x with
  | ok a => exact ⟨fun _ => ⟨a, rfl⟩, fun _ => rfl⟩
  | error e => exact ⟨fun h => (by cases h), fun ⟨a, h⟩ => (by cases h)⟩

section
variable {db : Db} {p : ℕ × ℕ}

lemma mem_live_handle : p ∈ db.tokens.live cfg .handle ↔ p.1 < cfg.limits.maxOpenHandles ∧
    (db.handles p.1).used = true ∧ (db.handles p.1).generation = p.2 := by
  show (decide (p.1 < cfg.limits.maxOpenHandles) && (db.handles p.1).used) = true ∧
    (db.handles p.1).generation = p.2 ↔ _
  rw [Bool.and_eq_true, decide_eq_true_eq, and_assoc]

lemma mem_live_reader : p ∈ db.tokens.live cfg .reader ↔ p.1 < cfg.maxValueReaders ∧
    (db.valueReaders p.1).used = true ∧ (db.valueReaders p.1).generation = p.2 := by
  show (decide (p.1 < cfg.maxValueReaders) && (db.valueReaders p.1).used) = true ∧
    (db.valueReaders p.1).generation = p.2 ↔ _
  rw [Bool.and_eq_true, decide_eq_true_eq, and_assoc]

lemma mem_live_transaction : p ∈ db.tokens.live cfg .transaction ↔
    db.transaction.active = true ∧ p = (0, db.transaction.generation) := by
  rw [Tokens.live_transaction]
  show p ∈ (if db.transaction.active = true then {(0, db.transaction.generation)} else ∅ :
    Set (ℕ × ℕ)) ↔ _
  split_ifs with h <;> simp [h]

lemma mem_live_writer : p ∈ db.tokens.live cfg .writer ↔
    db.valueWriter.active = true ∧ p = (0, db.valueWriter.generation) := by
  rw [Tokens.live_writer]
  show p ∈ (if db.valueWriter.active = true then {(0, db.valueWriter.generation)} else ∅ :
    Set (ℕ × ℕ)) ↔ _
  split_ifs with h <;> simp [h]

end

/-- **The check of a token looks it up in its slots.** -/
lemma accepts_iff {db : Db} (h : db.tokens.Linked cfg) (kind : TokenKind) (raw : ℕ) :
    accepts cfg db kind raw = true ↔
      ∃ p ∈ db.tokens.live cfg kind, decodeHandleValue raw = some p := by
  cases kind with
  | handle =>
      refine isOk_iff.trans ⟨?_, ?_⟩
      · rintro ⟨⟨index, handle⟩, hfound⟩
        obtain ⟨hdecode, hindex, hused, rfl⟩ := getHandleSlotUnsafe_eq_ok hfound
        exact ⟨_, mem_live_handle.mpr ⟨hindex, hused, rfl⟩, hdecode⟩
      · rintro ⟨⟨index, generation⟩, hp, hdecode⟩
        obtain ⟨hindex, hused, hgeneration⟩ := mem_live_handle.mp hp
        unfold getHandleSlotUnsafe
        rw [hdecode]
        dsimp only at hindex hused hgeneration ⊢
        rw [if_neg (by rw [hused, hgeneration]; simpa using hindex)]
        exact ⟨_, rfl⟩
  | transaction =>
      refine isOk_iff.trans ⟨?_, ?_⟩
      · rintro ⟨handle, hfound⟩
        obtain ⟨hactive, hdecode⟩ := getTransactionUnsafe_eq_ok hfound
        exact ⟨_, mem_live_transaction.mpr ⟨hactive, rfl⟩, hdecode⟩
      · rintro ⟨p, hp, hdecode⟩
        obtain ⟨hactive, rfl⟩ := mem_live_transaction.mp hp
        have howner : db.transaction.handleSlotIndex < cfg.limits.maxOpenHandles ∧
            (db.handles db.transaction.handleSlotIndex).used = true ∧
            (db.handles db.transaction.handleSlotIndex).generation =
              db.transaction.handleGeneration := h.owner hactive
        obtain ⟨hindex, hused, hgeneration⟩ := howner
        have hmarked : (db.handles db.transaction.handleSlotIndex).transactionActive = true :=
          (h.marked _).mpr ⟨hactive, rfl⟩
        refine ⟨db.handles db.transaction.handleSlotIndex, ?_⟩
        unfold getTransactionUnsafe
        rw [hdecode]
        dsimp only
        rw [if_neg (by rw [hactive]; simp), if_neg (not_le.mpr hindex),
          if_neg (by rw [hused, hgeneration, hmarked]; simp)]
  | reader =>
      refine isOk_iff.trans ⟨?_, ?_⟩
      · rintro ⟨index, hfound⟩
        obtain ⟨hdecode, hindex, hused⟩ := getValueReaderUnsafe_eq_ok hfound
        exact ⟨_, mem_live_reader.mpr ⟨hindex, hused, rfl⟩, hdecode⟩
      · rintro ⟨⟨index, generation⟩, hp, hdecode⟩
        obtain ⟨hindex, hused, hgeneration⟩ := mem_live_reader.mp hp
        unfold getValueReaderUnsafe
        rw [hdecode]
        dsimp only at hindex hused hgeneration ⊢
        rw [if_neg (by rw [hused, hgeneration]; simpa using hindex)]
        exact ⟨_, rfl⟩
  | writer =>
      refine isOk_iff.trans ⟨?_, ?_⟩
      · rintro ⟨_, hfound⟩
        obtain ⟨hdecode, hactive⟩ := getValueWriterUnsafe_eq_ok hfound
        exact ⟨_, mem_live_writer.mpr ⟨hactive, rfl⟩, hdecode⟩
      · rintro ⟨p, hp, hdecode⟩
        obtain ⟨hactive, rfl⟩ := mem_live_writer.mp hp
        unfold getValueWriterUnsafe
        rw [hdecode]
        dsimp only
        rw [if_neg (by rw [hactive]; simp)]
        exact ⟨_, rfl⟩

/-! ## Runs -/

variable (cfg) in
/-- The world behind a sequence of calls. -/
def afterCalls (w : World) (calls : List Call) : World :=
  calls.foldl (fun w c => (exec (perform cfg c) w).2) w

variable (cfg) in
/-- The events of a sequence of calls. -/
def trace : World → List Call → List Event
  | _, [] => []
  | w, c :: rest => Event.of cfg w c :: trace (exec (perform cfg c) w).2 rest

variable (cfg) in
/-- The registry behind a sequence of events. -/
def registryAfter (r : Registry) (events : List Event) : Registry :=
  events.foldl (Registry.step cfg) r

/-- The invariant of runs: the registry lists the tokens of the instance. -/
structure Tidy (cfg : Config) (r : Registry) (w : World) : Prop where
  inhabited : Inhabited (fun w => Sound cfg w.db) w
  linked : w.db.tokens.Linked cfg
  counted : Counted w.db.tokens
  tracks : Tracks cfg r w.db.tokens

namespace Tidy

variable {r : Registry} {w : World}

lemma tokenSound (h : Tidy cfg r w) : TokenSound cfg w :=
  ⟨h.inhabited.closed, h.inhabited.opened, h.linked⟩

/-- A new object has no tokens. -/
lemma powerOn (m : Media) (faults : ℕ → Fault) (scrap : ℕ → Bytes)
    (entropy : ℕ → {id : ℕ // id ≠ 0}) :
    Tidy cfg (fun _ => ∅) (On9kvdb.powerOn m faults scrap entropy) where
  inhabited := inhabited_closed ⟨1, 1, rfl⟩
  linked := ⟨fun _ => ⟨fun h => (by cases h), fun h => (by cases h.1)⟩, fun h => (by cases h)⟩
  counted := ⟨show 1 ≤ maxHandleGeneration by decide, show 1 ≤ maxHandleGeneration by decide⟩
  tracks kind raw := by
    rw [show (On9kvdb.powerOn m faults scrap entropy).db.tokens = .closed 1 1 from rfl,
      Tokens.live_closed]
    simp

/-- **Every call keeps it.** -/
lemma call (h : Tidy cfg r w) (c : Call) :
    Tidy cfg (r.step cfg (Event.of cfg w c)) (exec (perform cfg c) w).2 :=
  have heffect := tokenEffect_perform h.tokenSound c
  ⟨openInvariant_sound.live h.inhabited (.call c), heffect.linked h.linked,
    heffect.keeps_counted h.counted, heffect.tracks h.counted h.tracks⟩

lemma run (h : Tidy cfg r w) (calls : List Call) :
    Tidy cfg (registryAfter cfg r (trace cfg w calls)) (afterCalls cfg w calls) := by
  induction calls generalizing r w with
  | nil => exact h
  | cons c rest ih => exact ih (h.call c)

/-- **No token is returned twice**, and none that the counters had handed out before. -/
lemma issued_nodup (h : Tidy cfg r w) (calls : List Call) (kind : TokenKind) :
    ((trace cfg w calls).filterMap (Event.issued kind)).Nodup ∧
      ∀ raw ∈ (trace cfg w calls).filterMap (Event.issued kind), ∀ slot generation,
        decodeHandleValue raw = some (slot, generation) →
          ¬ Issued (w.db.tokens.counter kind) generation := by
  induction calls generalizing r w with
  | nil => exact ⟨List.nodup_nil, fun raw hraw => absurd hraw List.not_mem_nil⟩
  | cons c rest ih =>
      obtain ⟨hnodup, hfresh⟩ := ih (h.call c)
      have heffect := tokenEffect_perform h.tokenSound c
      have hlater : ∀ raw ∈ (trace cfg (exec (perform cfg c) w).2 rest).filterMap
          (Event.issued kind), ∀ slot generation, decodeHandleValue raw = some (slot, generation) →
            ¬ Issued (w.db.tokens.counter kind) generation :=
        fun raw hraw slot generation hdecode hissued =>
          hfresh raw hraw slot generation hdecode (heffect.keeps_issued hissued)
      unfold trace
      cases hissued : (Event.of cfg w c).issued kind with
      | none =>
          rw [List.filterMap_cons_none hissued]
          exact ⟨hnodup, hlater⟩
      | some raw =>
          obtain ⟨hcounter, ⟨slot, hdecode⟩, hnext⟩ := heffect.issued h.counted hissued
          rw [List.filterMap_cons_some hissued]
          refine ⟨List.nodup_cons.mpr ⟨fun hmem => ?_, hnodup⟩, fun other hother slot' generation
            hdecode' => ?_⟩
          · exact hfresh raw hmem _ _ hdecode hnext
          · rcases List.mem_cons.mp hother with rfl | hother
            · rw [hdecode] at hdecode'
              cases hdecode'
              exact fun hissued => absurd (hissued.lt hcounter) (lt_irrefl _)
            · exact hlater other hother slot' generation hdecode'

end Tidy

/-! ## Exhausted counters -/

/-- **With an exhausted counter nothing is opened.** -/
lemma exhausted {w : World} {c : Call} {kind : TokenKind} (hissues : c.issues = some kind)
    (hcounter : w.db.tokens.counter kind = 0) : ∃ e, (exec (perform cfg c) w).1 = .error e := by
  suffices hcall : Triple (· = w) (perform cfg c) (fun _ _ => False) (fun _ _ => True) by
    have hrun := hcall w rfl
    rcases hexec : exec (perform cfg c) w with ⟨o, w'⟩
    rw [hexec] at hrun
    cases o with
    | ok reply => exact hrun.elim
    | error e => exact ⟨e, rfl⟩
  cases c with
  | openNamespace name mode =>
      cases hissues
      exact triple_map Reply.token ((triple_tokens_openNamespace w name mode).conseq
        (fun _ hw => hw) (fun _ _ ⟨_, _, _, h, _⟩ => h hcounter) fun _ _ _ => trivial)
  | begin raw =>
      cases hissues
      exact triple_map Reply.token ((triple_tokens_beginTransaction w raw).conseq
        (fun _ hw => hw) (fun _ _ ⟨_, _, _, _, h, _⟩ => h hcounter) fun _ _ _ => trivial)
  | openValue raw key =>
      cases hissues
      exact triple_map Reply.token ((triple_tokens_openValue w raw key).conseq
        (fun _ hw => hw) (fun _ _ ⟨_, _, _, h, _⟩ => h hcounter) fun _ _ _ => trivial)
  | beginValueWrite raw key valueSize =>
      cases hissues
      exact .bind (unchanged_acquireOperationLock.triple (Q := fun _ w' => w' = w)
        (fun _ _ _ hw hu => hu ▸ hw) fun _ _ _ _ _ => trivial) fun _ =>
        triple_map Reply.token ((triple_tokens_beginValueWriteUnsafe w raw key valueSize).conseq
          (fun _ hw => hw) (fun _ _ ⟨_, h, _⟩ => h hcounter) fun _ _ _ => trivial)
  | _ => cases hissues

/-! ## The result -/

namespace Registry

variable {r : Registry} {kind other : TokenKind} {raw token : ℕ}

lemma mem_update {tokens : Finset ℕ} (hsubset : tokens ⊆ r other)
    (h : raw ∈ Function.update r other tokens kind) : raw ∈ r kind := by
  rcases eq_or_ne kind other with rfl | hne
  · rw [Function.update_self] at h
    exact hsubset h
  · rwa [Function.update_of_ne hne] at h

lemma mem_leave (h : raw ∈ r.leave other token kind) : raw ∈ r kind :=
  mem_update (Finset.erase_subset _ _) h

lemma mem_enter (h : raw ∈ r.enter other token kind) : raw ∈ r kind ∨ other = kind ∧ token = raw := by
  unfold enter at h
  rcases eq_or_ne kind other with rfl | hne
  · rw [Function.update_self, Finset.mem_insert] at h
    rcases h with rfl | h
    · exact .inr ⟨rfl, rfl⟩
    · exact .inl h
  · rw [Function.update_of_ne hne] at h
    exact .inl h

/-- A token that an event enters has been returned by it. -/
lemma mem_step {e : Event} (h : raw ∈ r.step cfg e kind) :
    raw ∈ r kind ∨ e.issued kind = some raw := by
  have hentered : ∀ {call blocked other token}, call.issues = some other →
      raw ∈ r.enter other token kind →
      raw ∈ r kind ∨ Event.issued kind ⟨call, blocked, .ok (.token token)⟩ = some raw := by
    intro call blocked other token hissues hmem
    rcases mem_enter hmem with hmem | ⟨rfl, rfl⟩
    · exact .inl hmem
    · exact .inr (if_pos hissues)
  obtain ⟨call, blocked, outcome⟩ := e
  cases call with
  | set token key value =>
      refine .inl ?_
      unfold step at h
      dsimp only at h
      split_ifs at h
      · exact h
      · exact mem_update (Finset.empty_subset _) h
  | finishValueWrite token =>
      refine .inl ?_
      unfold step at h
      dsimp only at h
      split_ifs at h
      · exact h
      · exact mem_leave h
  | deinit force =>
      rcases outcome with _ | reply
      · exact .inl h
      · exact absurd h (Finset.notMem_empty raw)
  | _ =>
      rcases outcome with _ | reply
      · exact .inl h
      · first
        | exact .inl (mem_leave h)
        | cases reply with
          | token token => first | exact hentered rfl h | exact .inl h
          | _ => exact .inl h

end Registry

/-- Only returned tokens are listed. -/
lemma registryAfter_subset (r : Registry) (events : List Event) (kind : TokenKind) {raw : ℕ}
    (h : raw ∈ registryAfter cfg r events kind) :
    raw ∈ r kind ∨ raw ∈ events.filterMap (Event.issued kind) := by
  induction events generalizing r with
  | nil => exact .inl h
  | cons e rest ih =>
      rw [List.filterMap_cons]
      rcases ih _ h with hmem | hmem
      · rcases Registry.mem_step hmem with hmem | hissued
        · exact .inl hmem
        · rw [hissued]
          exact .inr List.mem_cons_self
      · refine .inr ?_
        split
        · exact hmem
        · exact List.mem_cons_of_mem _ hmem

variable (cfg) in
/-- **Stale tokens never resolve.**  Over every sequence of calls on one database object no token is
returned twice; a token is accepted exactly while the registry of these calls lists it, so until its
resource ends, and only returned tokens are listed; the handle that is marked is the one that owns
the active transaction; and with an exhausted counter nothing is opened. -/
theorem tokens_resolve_while_open (m : Media) (faults : ℕ → Fault) (scrap : ℕ → Bytes)
    (entropy : ℕ → {id : ℕ // id ≠ 0}) (calls : List Call) :
    let events := trace cfg (powerOn m faults scrap entropy) calls
    let w := afterCalls cfg (powerOn m faults scrap entropy) calls
    (∀ kind, (events.filterMap (Event.issued kind)).Nodup) ∧
    (∀ kind raw, accepts cfg w.db kind raw = true ↔
      raw ∈ registryAfter cfg (fun _ => ∅) events kind) ∧
    (∀ kind raw, raw ∈ registryAfter cfg (fun _ => ∅) events kind →
      raw ∈ events.filterMap (Event.issued kind)) ∧
    (∀ i, (w.db.handles i).transactionActive = true ↔
      w.db.transaction.active = true ∧ w.db.transaction.handleSlotIndex = i) ∧
    (w.db.transaction.active = true →
      (w.db.handles w.db.transaction.handleSlotIndex).used = true ∧
      (w.db.handles w.db.transaction.handleSlotIndex).generation =
        w.db.transaction.handleGeneration) ∧
    (∀ c kind, c.issues = some kind → w.db.tokens.counter kind = 0 →
      ∃ e, (exec (perform cfg c) w).1 = .error e) := by
  have hstart := @Tidy.powerOn cfg m faults scrap entropy
  have hend := hstart.run calls
  refine ⟨fun kind => (hstart.issued_nodup calls kind).1, fun kind raw => ?_, fun kind raw hraw => ?_,
    hend.linked.marked, fun hactive => (hend.linked.owner hactive).2, fun c kind => exhausted⟩
  · rw [accepts_iff hend.linked]
    exact (hend.tracks kind raw).symm
  · rcases registryAfter_subset _ _ kind hraw with hempty | hissued
    · exact absurd hempty (Finset.notMem_empty raw)
    · exact hissued

end On9kvdb
