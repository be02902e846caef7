import On9kvdb.Token.Registry

/-!
# What the database is for

A database seen from its callers: a map from composite keys to bytes, the edits of a transaction
that have been staged over it, and the value that is being written.  `Model.Step` is what a call may
reply and do: a commit puts the edits over the map, and nothing else changes the map.  `Names` are
the namespaces that the tokens of the callers stand for.

A call may be refused, for want of room or because the device fails, and then changes nothing; of
a piece of a value that could not be written some bytes may have been taken, and the value may be
given up by a refused `set` or when it could not be finished.
-/

namespace On9kvdb

/-! ## Edits -/

/-- The edits of a transaction: for some keys of its namespace the bytes they will hold, or nothing
for an erased key. -/
abbrev Edits := Bytes → Option (Option Bytes)

/-- A map with the edits of a namespace over it. -/
def overlay (c : CompositeKey → Option Bytes) (namespaceName : Bytes) (edits : Edits) :
    CompositeKey → Option Bytes := fun key =>
  if key.namespaceName = namespaceName then (edits key.key).getD (c key) else c key

/-- A map without edits over it. -/
lemma overlay_none (c : CompositeKey → Option Bytes) (namespaceName : Bytes) :
    overlay c namespaceName (fun _ => none) = c := by
  funext key
  unfold overlay
  split_ifs <;> rfl

/-! ## Names -/

/-- The namespaces of the open handles and of the open transaction, by their tokens. -/
structure Names where
  handle : ℕ → Option Bytes
  transaction : ℕ → Option Bytes

namespace Names

/-- No handle and no transaction is open. -/
def closed : Names := ⟨fun _ => none, fun _ => none⟩

/-- **What a call and its outcome do to the names.**  A transaction takes the namespace of its
handle. -/
def step (n : Names) (e : Event) : Names :=
  match e.call, e.outcome with
  | .openNamespace name _, .ok (.token raw) =>
      { n with handle := Function.update n.handle raw (some name) }
  | .closeHandle raw, .ok _ => { n with handle := Function.update n.handle raw none }
  | .begin handle, .ok (.token raw) =>
      { n with transaction := Function.update (fun _ => none) raw (n.handle handle) }
  | .commit _, .ok _ => { n with transaction := fun _ => none }
  | .abort _, .ok _ => { n with transaction := fun _ => none }
  | .deinit _, .ok _ => closed
  | _, _ => n

/-- The names behind a sequence of events. -/
def after (n : Names) (events : List Event) : Names := events.foldl step n

end Names

/-! ## The state -/

/-- The value that is being written, and the bytes it has been given. -/
structure Draft where
  key : Bytes
  size : ℕ
  written : Bytes

/-- A database: its map, the staged edits and the value that is being written. -/
structure Model where
  committed : CompositeKey → Option Bytes
  edits : Edits
  draft : Option Draft

namespace Model

/-- A database that holds nothing. -/
def empty : Model := ⟨fun _ => none, fun _ => none, none⟩

/-- What a transaction sees of a key of its namespace. -/
def seen (M : Model) (namespaceName key : Bytes) : Option Bytes :=
  overlay M.committed namespaceName M.edits ⟨namespaceName, key⟩

/-- One more edit. -/
def stage (M : Model) (key : Bytes) (value : Option Bytes) : Model :=
  { M with edits := Function.update M.edits key (some value) }

/-! ## Calls -/

/-- What a call reports as missing is missing. -/
def Missing (names : Names) (M : Model) : Call → Prop
  | .openValue handle key =>
      ∀ name, names.handle handle = some name → M.committed ⟨name, key⟩ = none
  | .eraseKey raw key => ∀ name, names.transaction raw = some name → M.seen name key = none
  | _ => True

/-- A call that does not ask for contents and does not change them. -/
def passes : Call → Bool
  | .openNamespace _ _ => true
  | .closeHandle _ => true
  | .peekValue _ => true
  | .readValueInto _ _ => true
  | .consumeValue _ _ => true
  | .seekValue _ _ => true
  | .closeReader _ => true
  | _ => false

/-- A call that gives the draft up when it fails. -/
def dropsDraft : Call → Bool
  | .set _ _ _ => true
  | .finishValueWrite _ => true
  | _ => false

/-- **What a call may reply and do.** -/
inductive Step (names : Names) (M : Model) : Call → Except EspErr Reply → Model → Prop
  | pass {c : Call} {reply : Reply} (h : passes c = true) : Step names M c (.ok reply) M
  | begin {handle token : ℕ} {name : Bytes} (found : names.handle handle = some name) :
      Step names M (.begin handle) (.ok (.token token)) { M with edits := fun _ => none }
  | set {raw : ℕ} {name key value : Bytes} (found : names.transaction raw = some name) :
      Step names M (.set raw key value) (.ok .done) (M.stage key (some value))
  | eraseKey {raw : ℕ} {name key : Bytes} (found : names.transaction raw = some name)
      (there : M.seen name key ≠ none) :
      Step names M (.eraseKey raw key) (.ok .done) (M.stage key none)
  | beginValueWrite {raw size token : ℕ} {name key : Bytes}
      (found : names.transaction raw = some name) (idle : M.draft = none) :
      Step names M (.beginValueWrite raw key size) (.ok (.token token))
        { M with draft := some ⟨key, size, []⟩ }
  | writeValue {raw : ℕ} {data : Bytes} {d : Draft} (writing : M.draft = some d)
      (room : d.written.length + data.length ≤ d.size) :
      Step names M (.writeValue raw data) (.ok .done)
        { M with draft := some { d with written := d.written ++ data } }
  | writeFront {raw : ℕ} {data front : Bytes} {d : Draft} {e : EspErr}
      (writing : M.draft = some d) (part : front <+: data) :
      Step names M (.writeValue raw data) (.error e)
        { M with draft := some { d with written := d.written ++ front } }
  | finishValueWrite {raw : ℕ} {d : Draft} (writing : M.draft = some d)
      (complete : d.written.length = d.size) :
      Step names M (.finishValueWrite raw) (.ok .done)
        { M.stage d.key (some d.written) with draft := none }
  | abortValueWrite {raw : ℕ} {d : Draft} (writing : M.draft = some d) :
      Step names M (.abortValueWrite raw) (.ok .done) { M with draft := none }
  | dropDraft {c : Call} {e : EspErr} (h : dropsDraft c = true) :
      Step names M c (.error e) { M with draft := none }
  | commit {raw : ℕ} {name : Bytes} (found : names.transaction raw = some name)
      (idle : M.draft = none) :
      Step names M (.commit raw) (.ok .done)
        { M with committed := overlay M.committed name M.edits, edits := fun _ => none }
  | abort {raw : ℕ} (idle : M.draft = none) :
      Step names M (.abort raw) (.ok .done) { M with edits := fun _ => none }
  | openValue {raw token : ℕ} {name key bytes : Bytes} (found : names.handle raw = some name)
      (there : M.committed ⟨name, key⟩ = some bytes) :
      Step names M (.openValue raw key) (.ok (.token token)) M
  | refused {c : Call} {e : EspErr} (missing : e = .notFound → M.Missing names c) :
      Step names M c (.error e) M

end Model

/-- The call has published a transaction. -/
def Event.commits (e : Event) : Bool :=
  match e.call, e.outcome with
  | .commit _, .ok _ => true
  | _, _ => false

namespace Model

/-- A run: every event is a step, and the names follow. -/
inductive Run : Names → Model → List Event → Model → Prop
  | nil (names : Names) (M : Model) : Run names M [] M
  | cons {names : Names} {M M' M'' : Model} {event : Event} {rest : List Event}
      (h : M.Step names event.call event.outcome M') (hrest : Run (names.step event) M' rest M'') :
      Run names M (event :: rest) M''

/-- A call that does not publish a transaction leaves the map. -/
lemma Step.committed_eq {names : Names} {M M' : Model} {event : Event}
    (h : M.Step names event.call event.outcome M') (hkeeps : event.commits = false) :
    M'.committed = M.committed := by
  obtain ⟨call, blocked, outcome⟩ := event
  dsimp only at h
  cases h with
  | commit => cases hkeeps
  | _ => rfl

/-- **Only a commit changes the map.** -/
lemma Run.committed_eq {names : Names} {M M' : Model} {events : List Event}
    (h : M.Run names events M') (hkeeps : ∀ event ∈ events, event.commits = false) :
    M'.committed = M.committed := by
  induction h with
  | nil => rfl
  | cons hstep _ ih =>
      rw [ih fun event hevent => hkeeps event (List.mem_cons_of_mem _ hevent)]
      exact hstep.committed_eq (hkeeps _ List.mem_cons_self)

end Model

end On9kvdb
