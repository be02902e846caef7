import On9kvdb.Commit.Recover

/-!
# Publication behind a durable log record

In every state a life reaches, a commit whose preparation succeeds also succeeds: the transaction
that was checked against one memtable, table set and value bank and logged after any flushes,
compactions and rotations fits the memtable that is there then.
-/

namespace On9kvdb

open Exceptional

variable {cfg : Config}

/-- The outcome of a commit whose log record is durable, in terms of the state behind the record. -/
lemma exec_commit_of_prepared {w w₁ : World} {raw : ℕ} {handle : HandleSlot} {index : ℕ}
    {namespaces : List Bytes} {db' : Db} (hopen : w.db.initialized = true)
    (hhealthy : w.db.storageFaulted = false)
    (htransaction : getTransactionUnsafe cfg w.db raw = .ok handle)
    (hwriter : writerOfTransaction w.db raw = false) (hstaged : w.db.transaction.mutations ≠ [])
    (hprepared : exec (prepareCommit cfg handle.namespaceName) w = (.ok (), w₁))
    (happlicable : Applicable cfg handle.namespaceName w₁.db index namespaces db') :
    exec (commit cfg raw) w = (.ok (), { w₁ with db := db'.published cfg }) := by
  have hlock : exec acquireOperationLock w = (.ok (), w) := by
    unfold acquireOperationLock
    rw [exec_bind, exec_getDb]
    dsimp only
    rw [exec_failIf, if_neg]
    rw [hopen, hhealthy]
    decide
  unfold commit
  rw [exec_bind, hlock]
  dsimp only
  rw [exec_bind, exec_getDb]
  dsimp only
  rw [exec_bind, exec_liftResult, htransaction]
  dsimp only
  rw [exec_bind, exec_failIf, if_neg (by rw [hwriter]; decide)]
  dsimp only
  rw [if_neg hstaged, commitMutations_eq, exec_bind, hprepared]
  dsimp only
  unfold onError
  rw [exec_tryCatch, exec_publishTransaction happlicable]

/-- **Publication behind a durable log record cannot fail.**  The namespace has a slot, every
mutation is applied within the memtable arena, and the commit succeeds without a latched fault. -/
theorem publication_cannot_fail {w w₁ : World} {raw : ℕ} {handle : HandleSlot}
    (hlived : Lived cfg w) (hopen : w.db.initialized = true)
    (hhealthy : w.db.storageFaulted = false)
    (htransaction : getTransactionUnsafe cfg w.db raw = .ok handle)
    (hwriter : writerOfTransaction w.db raw = false) (hstaged : w.db.transaction.mutations ≠ [])
    (hprepared : exec (prepareCommit cfg handle.namespaceName) w = (.ok (), w₁)) :
    ∃ index namespaces db', Applicable cfg handle.namespaceName w₁.db index namespaces db' ∧
      exec (publishTransaction cfg handle.namespaceName) w₁ =
        (.ok (), { w₁ with db := db'.published cfg }) ∧
      exec (commit cfg raw) w = (.ok (), { w₁ with db := db'.published cfg }) ∧
      (db'.published cfg).storageFaulted = w₁.db.storageFaulted := by
  have hsound : Sound cfg w.db := openInvariant_sound.of_lived hlived hopen
  have hidle := hsound.no_writer htransaction hwriter
  have hready : Prepared cfg handle.namespaceName w₁.db :=
    (triple_prepareCommit _).ok ⟨hsound, hidle⟩ hprepared
  obtain ⟨index, namespaces, db', happlicable, happlied⟩ := hready.applicable
  refine ⟨index, namespaces, db', happlicable, exec_publishTransaction happlicable,
    exec_commit_of_prepared hopen hhealthy htransaction hwriter hstaged hprepared happlicable, ?_⟩
  show db'.storageFaulted = _
  rw [happlied.frame]

/-- A new database with one value staged under a new namespace. -/
def stagedValueWorld : World :=
  [LifeStep.call .init, .call (.openNamespace [97] .readWrite), .call (.begin 513),
    .call (.set 513 [98] [1])].foldl (live hostConfig)
    (powerOn (provisionedMedia hostConfig 7) (fun _ => .none) (fun _ => []) fun _ =>
      ⟨1, Nat.one_ne_zero⟩)

lemma lived_stagedValueWorld : Lived hostConfig stagedValueWorld := ⟨_, _, _, _, _, rfl⟩

/-- Its commit publishes the namespace and the value. -/
theorem publication_cannot_fail_small :
    ∃ index namespaces db',
      Applicable hostConfig [97] (exec (prepareCommit hostConfig [97]) stagedValueWorld).2.db index
        namespaces db' ∧
      exec (publishTransaction hostConfig [97])
          (exec (prepareCommit hostConfig [97]) stagedValueWorld).2 =
        (.ok (), { (exec (prepareCommit hostConfig [97]) stagedValueWorld).2 with
          db := db'.published hostConfig }) ∧
      exec (commit hostConfig 513) stagedValueWorld =
        (.ok (), { (exec (prepareCommit hostConfig [97]) stagedValueWorld).2 with
          db := db'.published hostConfig }) ∧
      (db'.published hostConfig).storageFaulted =
        (exec (prepareCommit hostConfig [97]) stagedValueWorld).2.db.storageFaulted := by
  have htransaction : getTransactionUnsafe hostConfig stagedValueWorld.db 513 =
      .ok ⟨1, true, true, .readWrite, [97]⟩ := by decide +kernel
  have hprepared : (exec (prepareCommit hostConfig [97]) stagedValueWorld).1 = .ok () := by
    decide +kernel
  exact publication_cannot_fail lived_stagedValueWorld (by decide +kernel) (by decide +kernel)
    htransaction (by decide +kernel) (by decide +kernel) (exec_eq hprepared)

end On9kvdb
