import On9kvdb.Lib.Condensing
import On9kvdb.Meaning.Flush

/-!
# The sources of a merge

A cursor stands in front of what is left of its table (`CursorAt`).  The smallest key of all sources
is the smallest of what is left, its winner the newest version that is left, and behind a round
what is left are the versions of the other keys.
-/

namespace On9kvdb

open Exceptional Versions

variable {cfg : Config} {tables tables' : ℕ → Option TableReference} {m m' : Media}
  {c c' : CompactionCursor} {rest : List TableEntry} {key : CompositeKey}

/-! ## Cursors -/

variable (cfg) in
/-- What is left of a table behind a cursor. -/
inductive CursorAt (tables : ℕ → Option TableReference) (m : Media) (c : CompactionCursor) :
    List TableEntry → Prop
  | finished (entry : c.entry = none) : CursorAt tables m c []
  | standing {reference : TableReference} {block : TableBlock} {e : TableEntry}
      {behind : List TableEntry} (table : tables c.sourceSlot = some reference)
      (stored : m.tableBlock c.sourceSlot (blockOffset cfg c.blockIndex) = .ok block)
      (count : c.blockEntryCount = block.entries.length)
      (left : block.entries.drop c.entryIndex = e :: behind) (entry : c.entry = some e)
      (index : c.blockIndex < reference.dataBlockCount) :
      CursorAt tables m c (e :: behind ++ entriesFrom cfg m c.sourceSlot (c.blockIndex + 1)
        (reference.dataBlockCount - (c.blockIndex + 1)))

/-- The entry of a cursor is the first one left. -/
lemma CursorAt.head (h : CursorAt cfg tables m c rest) : c.entry = rest.head? := by
  cases h with
  | finished entry => exact entry
  | standing _ _ _ _ entry _ => exact entry

lemma loadCursorEntry_eq_ok (h : loadCursorEntry cfg m c = .ok c') : ∃ block e,
    m.tableBlock c.sourceSlot (blockOffset cfg c.blockIndex) = .ok block ∧
      block.entries[c.entryIndex]? = some e ∧ c' = { c with entry := some e } := by
  unfold loadCursorEntry at h
  cases hblock : m.tableBlock c.sourceSlot (blockOffset cfg c.blockIndex) with
  | error e =>
      rw [hblock] at h
      cases h
  | ok block =>
      rw [hblock] at h
      dsimp only at h
      cases hentry : block.entries[c.entryIndex]? with
      | none =>
          rw [hentry] at h
          cases h
      | some e =>
          rw [hentry] at h
          dsimp only at h
          split_ifs at h
          cases h
          exact ⟨block, e, rfl, hentry, rfl⟩

/-- A cursor in front of a block stands before its entries. -/
lemma loadBlock {db : Db} (hcount : c.blockEntryCount = 0)
    (h : loadCompactionCursorUnsafe cfg c db m = .ok c') : c'.sourceSlot = c.sourceSlot ∧
      ∃ reference, db.manifest.tables c.sourceSlot = some reference ∧
        CursorAt cfg db.manifest.tables m c' (entriesFrom cfg m c.sourceSlot c.blockIndex
          (reference.dataBlockCount - c.blockIndex)) := by
  unfold loadCompactionCursorUnsafe at h
  cases htable : db.manifest.tables c.sourceSlot with
  | none =>
      rw [htable] at h
      cases h
  | some reference =>
      rw [htable] at h
      dsimp only at h
      rw [if_neg (not_not.mpr hcount)] at h
      by_cases hend : reference.dataBlockCount ≤ c.blockIndex
      · rw [if_pos hend] at h
        cases h
        refine ⟨rfl, reference, rfl, ?_⟩
        rw [Nat.sub_eq_zero_of_le hend]
        exact .finished rfl
      · rw [if_neg hend] at h
        cases hblock : m.tableBlock c.sourceSlot (blockOffset cfg c.blockIndex) with
        | error e =>
            rw [hblock] at h
            cases h
        | ok block =>
            rw [hblock] at h
            dsimp only at h
            split_ifs at h
            obtain ⟨block', e, hblock', hentry, rfl⟩ := loadCursorEntry_eq_ok h
            dsimp only at hblock' hentry
            rw [hblock] at hblock'
            cases hblock'
            refine ⟨rfl, reference, rfl, ?_⟩
            obtain ⟨behind, hleft⟩ : ∃ behind, block.entries = e :: behind := by
              cases hentries : block.entries with
              | nil =>
                  rw [hentries] at hentry
                  cases hentry
              | cons first behind =>
                  rw [hentries] at hentry
                  cases hentry
                  exact ⟨behind, rfl⟩
            have hsucc : reference.dataBlockCount - c.blockIndex =
                reference.dataBlockCount - (c.blockIndex + 1) + 1 := by omega
            have hown : blockEntries m c.sourceSlot (blockOffset cfg c.blockIndex) = e :: behind := by
              rw [blockEntries, hblock]
              exact hleft
            rw [hsucc, entriesFrom_succ, hown]
            exact .standing htable hblock rfl (by rw [List.drop_zero]; exact hleft) rfl (by
              dsimp only
              omega)

/-- **A cursor advances over one entry.** -/
lemma CursorAt.advance {db : Db} {e : TableEntry}
    (hc : CursorAt cfg db.manifest.tables m c (e :: rest))
    (h : advanceCompactionCursorUnsafe cfg c db m = .ok c') :
    c'.sourceSlot = c.sourceSlot ∧ CursorAt cfg db.manifest.tables m c' rest := by
  obtain ⟨left, hleft⟩ : ∃ left, left = e :: rest := ⟨_, rfl⟩
  rw [← hleft] at hc
  cases hc with
  | finished entry => cases hleft
  | @standing reference block e' behind table stored count left' entry index =>
      rw [List.cons_append] at hleft
      obtain ⟨rfl, rfl⟩ := List.cons.inj hleft
      have hlength : block.entries.length = c.entryIndex + (behind.length + 1) := by
        have hdrop := congrArg List.length left'
        rw [List.length_drop, List.length_cons] at hdrop
        omega
      unfold advanceCompactionCursorUnsafe at h
      dsimp only at h
      by_cases hlast : c.entryIndex + 1 = c.blockEntryCount
      · rw [if_pos hlast] at h
        have hbehind : behind = [] := by
          rw [← List.length_eq_zero_iff]
          omega
        obtain ⟨hslot, reference', htable, hcursor⟩ := loadBlock rfl h
        dsimp only at hslot htable hcursor
        rw [table] at htable
        cases htable
        rw [hbehind, List.nil_append]
        exact ⟨hslot, hcursor⟩
      · rw [if_neg hlast] at h
        unfold loadCompactionCursorUnsafe at h
        dsimp only at h
        rw [table] at h
        dsimp only at h
        rw [if_pos (by omega)] at h
        obtain ⟨block', next, hblock', hnext, rfl⟩ := loadCursorEntry_eq_ok h
        dsimp only at hblock' hnext
        rw [stored] at hblock'
        cases hblock'
        refine ⟨rfl, ?_⟩
        have hbehind : block.entries.drop (c.entryIndex + 1) = behind := by
          rw [← List.tail_drop, left']
          rfl
        obtain ⟨behind', rfl⟩ : ∃ behind', behind = next :: behind' := by
          rw [← hbehind]
          obtain ⟨hlt, hget⟩ := List.getElem?_eq_some_iff.mp hnext
          exact ⟨_, by rw [List.drop_eq_getElem_cons hlt, hget]⟩
        exact .standing table stored count hbehind rfl index

lemma CursorAt.congr (h : CursorAt cfg tables m c rest)
    (hsame : ∀ reference, tables c.sourceSlot = some reference →
      tables' c.sourceSlot = some reference ∧ m'.tableBlock c.sourceSlot = m.tableBlock c.sourceSlot) :
    CursorAt cfg tables' m' c rest := by
  cases h with
  | finished entry => exact .finished entry
  | @standing reference block e behind table stored count left entry index =>
      obtain ⟨htable, hblocks⟩ := hsame reference table
      rw [← entriesFrom_congr hblocks]
      exact .standing htable (by rw [hblocks]; exact stored) count left entry index

/-! ## What is left -/

/-- The versions in some lists of entries. -/
def entryVersions (entries : List TableEntry) : Set StoreVersion :=
  {v | ∃ e ∈ entries, v = e.version}

/-- The versions left in the sources. -/
def leftVersions (namespaces : List Bytes) (pending : List MemtableRecord)
    (rests : List (List TableEntry)) : Set StoreVersion :=
  {v | (∃ r ∈ pending, v = recordVersion namespaces r) ∨ ∃ rest ∈ rests, v ∈ entryVersions rest}

/-- Every source is in strict key order. -/
structure SortedSources (namespaces : List Bytes) (pending : List MemtableRecord)
    (rests : List (List TableEntry)) : Prop where
  pending : pending.Pairwise fun r r' => recordKey namespaces r < recordKey namespaces r'
  rests : ∀ rest ∈ rests, rest.Pairwise fun e e' => e.key < e'.key

/-- The cursors stand before what is left of their tables. -/
abbrev CursorsAt (cfg : Config) (tables : ℕ → Option TableReference) (m : Media) :
    List CompactionCursor → List (List TableEntry) → Prop :=
  List.Forall₂ (CursorAt cfg tables m)

section
variable {namespaces : List Bytes} {pending : List MemtableRecord} {cursors : List CompactionCursor}
  {rests : List (List TableEntry)}

lemma CursorsAt.mem (h : CursorsAt cfg tables m cursors rests) (hc : c ∈ cursors) :
    ∃ rest ∈ rests, CursorAt cfg tables m c rest := by
  induction h with
  | nil => exact absurd hc List.not_mem_nil
  | @cons c₀ rest₀ _ _ h₀ _ ih =>
      rcases List.mem_cons.mp hc with rfl | hc
      · exact ⟨rest₀, List.mem_cons_self, h₀⟩
      · obtain ⟨rest, hrest, hat⟩ := ih hc
        exact ⟨rest, List.mem_cons_of_mem _ hrest, hat⟩

lemma CursorsAt.mem_rest (h : CursorsAt cfg tables m cursors rests) (hrest : rest ∈ rests) :
    ∃ c ∈ cursors, CursorAt cfg tables m c rest := by
  induction h with
  | nil => exact absurd hrest List.not_mem_nil
  | @cons c₀ rest₀ _ _ h₀ _ ih =>
      rcases List.mem_cons.mp hrest with rfl | hrest
      · exact ⟨c₀, List.mem_cons_self, h₀⟩
      · obtain ⟨c, hc, hat⟩ := ih hrest
        exact ⟨c, List.mem_cons_of_mem _ hc, hat⟩

/-! ## The smallest key -/

/-- The smallest of a key and the keys of some cursors. -/
def SmallestOf (found : Option CompositeKey) (cursors : List CompactionCursor) :
    Option CompositeKey → Prop
  | none => found = none ∧ ∀ c ∈ cursors, c.key? = none
  | some key => (found = some key ∨ ∃ c ∈ cursors, c.key? = some key) ∧
      (∀ k, found = some k → key ≤ k) ∧ ∀ c ∈ cursors, ∀ k, c.key? = some k → key ≤ k

lemma smallestOf_foldl (found : Option CompositeKey) (cursors : List CompactionCursor) :
    SmallestOf found cursors (cursors.foldl smallerKey found) := by
  have hstep : ∀ (cursors seen : List CompactionCursor) (best : Option CompositeKey),
      SmallestOf found seen best →
        SmallestOf found (seen ++ cursors) (cursors.foldl smallerKey best) := by
    intro cursors
    induction cursors with
    | nil =>
        intro seen best h
        rwa [List.append_nil]
    | cons c rest ih =>
        intro seen best h
        rw [List.foldl_cons, List.append_cons]
        refine ih _ _ ?_
        unfold smallerKey
        cases hkey : c.key? with
        | none =>
            dsimp only
            cases best with
            | none =>
                refine ⟨h.1, fun c' hc' => ?_⟩
                rcases List.mem_append.mp hc' with hc' | hc'
                · exact h.2 c' hc'
                · rw [List.mem_singleton.mp hc', hkey]
            | some best =>
                obtain ⟨hattained, hfound, hleast⟩ := h
                refine ⟨hattained.imp_right fun ⟨c', hc', hc'key⟩ =>
                  ⟨c', List.mem_append_left _ hc', hc'key⟩, hfound, fun c' hc' k hk => ?_⟩
                rcases List.mem_append.mp hc' with hc' | hc'
                · exact hleast c' hc' k hk
                · rw [List.mem_singleton.mp hc', hkey] at hk
                  cases hk
        | some key =>
            have hnew : c ∈ seen ++ [c] := List.mem_append_right _ (List.mem_singleton_self _)
            cases best with
            | none =>
                refine ⟨.inr ⟨c, hnew, hkey⟩, fun k hk => ?_, fun c' hc' k hk => ?_⟩
                · rw [h.1] at hk
                  cases hk
                · rcases List.mem_append.mp hc' with hc' | hc'
                  · rw [h.2 c' hc'] at hk
                    cases hk
                  · rw [List.mem_singleton.mp hc', hkey] at hk
                    cases hk
                    exact le_rfl
            | some best =>
                obtain ⟨hattained, hfound, hleast⟩ := h
                dsimp only
                split_ifs with hlt
                · rw [compareCompositeKey_lt] at hlt
                  refine ⟨.inr ⟨c, hnew, hkey⟩, fun k hk => hlt.le.trans (hfound k hk),
                    fun c' hc' k hk => ?_⟩
                  rcases List.mem_append.mp hc' with hc' | hc'
                  · exact hlt.le.trans (hleast c' hc' k hk)
                  · rw [List.mem_singleton.mp hc', hkey] at hk
                    cases hk
                    exact le_rfl
                · have hle : best ≤ key := not_lt.mp (mt compareCompositeKey_lt.mpr hlt)
                  refine ⟨hattained.imp_right fun ⟨c', hc', hc'key⟩ =>
                    ⟨c', List.mem_append_left _ hc', hc'key⟩, hfound, fun c' hc' k hk => ?_⟩
                  rcases List.mem_append.mp hc' with hc' | hc'
                  · exact hleast c' hc' k hk
                  · rw [List.mem_singleton.mp hc', hkey] at hk
                    cases hk
                    exact hle
  exact hstep cursors [] found (by
    cases found with
    | none => exact ⟨rfl, fun c hc => absurd hc List.not_mem_nil⟩
    | some key => exact ⟨.inl rfl, fun k hk => by cases hk; exact le_rfl,
        fun c hc => absurd hc List.not_mem_nil⟩)

lemma CursorAt.key? (h : CursorAt cfg tables m c rest) :
    c.key? = rest.head?.map TableEntry.key := by
  unfold CompactionCursor.key?
  rw [h.head]

/-- Without a smallest key nothing is left. -/
lemma leftVersions_empty (h : CursorsAt cfg tables m cursors rests)
    (hnone : smallestKey namespaces pending cursors = none) :
    leftVersions namespaces pending rests = ∅ := by
  have hsmallest := smallestOf_foldl (pending.head?.map (recordKey namespaces)) cursors
  unfold smallestKey at hnone
  rw [hnone] at hsmallest
  obtain ⟨hpending, hcursors⟩ := hsmallest
  ext v
  refine ⟨?_, fun hv => absurd hv (Set.notMem_empty v)⟩
  rintro (⟨r, hr, -⟩ | ⟨rest, hrest, e, he, -⟩)
  · cases pending with
    | nil => exact absurd hr List.not_mem_nil
    | cons => cases hpending
  · obtain ⟨c, hc, hat⟩ := h.mem_rest hrest
    have hkey := hcursors c hc
    rw [hat.key?] at hkey
    cases rest with
    | nil => exact absurd he List.not_mem_nil
    | cons => cases hkey

/-- **The smallest key** is the smallest one that is left. -/
lemma smallestKey_spec (h : CursorsAt cfg tables m cursors rests)
    (hsorted : SortedSources namespaces pending rests)
    (hkey : smallestKey namespaces pending cursors = some key) :
    (∀ v ∈ leftVersions namespaces pending rests, key ≤ v.key) ∧
      ∃ v ∈ leftVersions namespaces pending rests, v.key = key := by
  have hsmallest := smallestOf_foldl (pending.head?.map (recordKey namespaces)) cursors
  unfold smallestKey at hkey
  rw [hkey] at hsmallest
  obtain ⟨hattained, hpending, hcursors⟩ := hsmallest
  constructor
  · rintro v (⟨r, hr, rfl⟩ | ⟨rest, hrest, e, he, rfl⟩)
    · cases hlist : pending with
      | nil =>
          rw [hlist] at hr
          exact absurd hr List.not_mem_nil
      | cons first behind =>
          have hfirst : key ≤ recordKey namespaces first := hpending _ (by rw [hlist]; rfl)
          have hordered := hsorted.pending
          rw [hlist] at hr hordered
          rcases List.mem_cons.mp hr with rfl | hr
          · exact hfirst
          · exact hfirst.trans ((List.pairwise_cons.mp hordered).1 r hr).le
    · obtain ⟨c, hc, hat⟩ := h.mem_rest hrest
      have hordered := hsorted.rests rest hrest
      cases rest with
      | nil => exact absurd he List.not_mem_nil
      | cons first behind =>
          have hfirst : key ≤ first.key := hcursors c hc _ hat.key?
          rcases List.mem_cons.mp he with rfl | he
          · exact hfirst
          · exact hfirst.trans ((List.pairwise_cons.mp hordered).1 e he).le
  · rcases hattained with hhead | ⟨c, hc, hhead⟩
    · cases hlist : pending with
      | nil =>
          rw [hlist] at hhead
          cases hhead
      | cons first behind =>
          rw [hlist] at hhead
          exact ⟨_, .inl ⟨first, List.mem_cons_self, rfl⟩, Option.some.inj hhead⟩
    · obtain ⟨rest, hrest, hat⟩ := h.mem hc
      rw [hat.key?] at hhead
      cases rest with
      | nil => cases hhead
      | cons first behind =>
          exact ⟨_, .inr ⟨_, hrest, first, List.mem_cons_self, rfl⟩, Option.some.inj hhead⟩

/-! ## The winner -/

/-- A winner comes from one of the sources. -/
def WinnerFrom (namespaces : List Bytes) (pending : List MemtableRecord)
    (cursors : List CompactionCursor) (key : CompositeKey) : MergeWinner → Prop
  | .memtable r => pending.head? = some r ∧ recordKey namespaces r = key
  | .table c e => c ∈ cursors ∧ c.entry = some e ∧ e.key = key

/-- A winner as a version of the key. -/
def MergeWinner.version (winner : MergeWinner) (key : CompositeKey) : StoreVersion :=
  ⟨key, winner.transactionSequence, winner.value⟩

lemma memtableWinner_from {winner : MergeWinner}
    (h : memtableWinner namespaces pending key = some winner) :
    WinnerFrom namespaces pending cursors key winner := by
  unfold memtableWinner at h
  cases pending with
  | nil => cases h
  | cons r behind =>
      dsimp only at h
      split_ifs at h with hkey
      cases h
      exact ⟨rfl, hkey⟩

/-- The winner of the search so far has the greatest sequence among the cursors on the key. -/
structure GreatestAmong (key : CompositeKey) (cursors : List CompactionCursor)
    (found : Option MergeWinner) (winner : MergeWinner) : Prop where
  source : found = some winner ∨ ∃ c ∈ cursors, ∃ e, c.entry = some e ∧ e.key = key ∧
    winner = .table c e
  beats : ∀ f, found = some f → f.transactionSequence ≤ winner.transactionSequence
  greatest : ∀ c ∈ cursors, ∀ e, c.entry = some e → e.key = key →
    e.transactionSequence ≤ winner.transactionSequence

lemma selectWinner_greatest {found : Option MergeWinner} {winner : MergeWinner}
    (h : selectWinner key cursors found = .ok (some winner)) :
    GreatestAmong key cursors found winner := by
  induction cursors generalizing found with
  | nil =>
      cases h
      exact ⟨.inl rfl, fun f hf => by cases hf; exact le_rfl, fun c hc => absurd hc List.not_mem_nil⟩
  | cons c rest ih =>
      have hskip : selectWinner key rest found = .ok (some winner) →
          (∀ e, c.entry = some e → e.key = key →
            e.transactionSequence ≤ (found.map MergeWinner.transactionSequence).getD 0) →
          GreatestAmong key (c :: rest) found winner := by
        intro hrest hnot
        obtain ⟨hsource, hbeats, hgreatest⟩ := ih hrest
        refine ⟨hsource.imp_right fun ⟨c', hc', hrest⟩ => ⟨c', List.mem_cons_of_mem _ hc', hrest⟩,
          hbeats, fun c' hc' e he hkey => ?_⟩
        rcases List.mem_cons.mp hc' with rfl | hc'
        · have hle := hnot e he hkey
          cases hf : found with
          | none =>
              rw [hf] at hle
              exact hle.trans (Nat.zero_le _)
          | some f =>
              rw [hf] at hle
              exact hle.trans (hbeats f hf)
        · exact hgreatest c' hc' e he hkey
      unfold selectWinner at h
      dsimp only at h
      cases hentry : c.entry with
      | none =>
          rw [hentry] at h hskip
          exact hskip h fun e he => by cases he
      | some entry =>
          rw [hentry] at h hskip
          dsimp only at h
          split_ifs at h with hkey hequal hlt
          · exact hskip h fun e he hekey => by
              cases he
              exact absurd hekey hkey
          · obtain ⟨hsource, hbeats, hgreatest⟩ := ih h
            rw [not_not] at hkey
            have hthis := hbeats _ rfl
            refine ⟨.inr ?_, fun f hf => ?_, fun c' hc' e he hekey => ?_⟩
            · rcases hsource with hsource | ⟨c', hc', hrest⟩
              · cases hsource
                exact ⟨c, List.mem_cons_self, entry, hentry, hkey, rfl⟩
              · exact ⟨c', List.mem_cons_of_mem _ hc', hrest⟩
            · rw [hf] at hlt
              exact hlt.le.trans hthis
            · rcases List.mem_cons.mp hc' with rfl | hc'
              · rw [hentry] at he
                cases he
                exact hthis
              · exact hgreatest c' hc' e he hekey
          · exact hskip h fun e he _ => by
              cases he
              exact not_lt.mp hlt

/-- In key order the smallest key is at the head of a list. -/
lemma head?_of_least {α : Type} {f : α → CompositeKey} {l : List α} {a : α}
    (hsorted : l.Pairwise fun x y => f x < f y) (hleast : ∀ x ∈ l, key ≤ f x) (ha : a ∈ l)
    (hkey : f a = key) : l.head? = some a := by
  cases l with
  | nil => exact absurd ha List.not_mem_nil
  | cons first behind =>
      rcases List.mem_cons.mp ha with rfl | hbehind
      · rfl
      · have hlt := (List.pairwise_cons.mp hsorted).1 a hbehind
        rw [hkey] at hlt
        exact absurd hlt (not_lt.mpr (hleast first List.mem_cons_self))

/-- **The winner is the newest version that is left.** -/
lemma selectWinner_newest (h : CursorsAt cfg tables m cursors rests)
    (hsorted : SortedSources namespaces pending rests)
    (hleast : ∀ v ∈ leftVersions namespaces pending rests, key ≤ v.key) {winner : MergeWinner}
    (hwinner : selectWinner key cursors (memtableWinner namespaces pending key) =
      .ok (some winner)) :
    Newest (leftVersions namespaces pending rests) key (winner.version key) ∧
      WinnerFrom namespaces pending cursors key winner := by
  obtain ⟨hsource, hbeats, hgreatest⟩ := selectWinner_greatest hwinner
  have hwinnerFrom : WinnerFrom namespaces pending cursors key winner := by
    rcases hsource with hsource | ⟨c, hc, e, he, hkey, rfl⟩
    · exact memtableWinner_from hsource
    · exact ⟨hc, he, hkey⟩
  refine ⟨⟨?_, rfl, ?_⟩, hwinnerFrom⟩
  · cases winner with
    | memtable r =>
        obtain ⟨hhead, hkey⟩ := hwinnerFrom
        refine .inl ⟨r, List.mem_of_mem_head? hhead, ?_⟩
        rw [← hkey]
        rfl
    | table c e =>
        obtain ⟨hc, he, hkey⟩ := hwinnerFrom
        obtain ⟨rest, hrest, hat⟩ := h.mem hc
        rw [hat.head] at he
        refine .inr ⟨rest, hrest, e, List.mem_of_mem_head? he, ?_⟩
        rw [← hkey]
        rfl
  · rintro v (⟨r, hr, rfl⟩ | ⟨rest, hrest, e, he, rfl⟩) hkey
    · have hhead : pending.head? = some r := head?_of_least hsorted.pending
        (fun r' hr' => hleast (recordVersion namespaces r') (.inl ⟨r', hr', rfl⟩)) hr hkey
      cases pending with
      | nil => cases hhead
      | cons first behind =>
          cases hhead
          exact hbeats (.memtable r) (if_pos hkey)
    · obtain ⟨c, hc, hat⟩ := h.mem_rest hrest
      have hhead : rest.head? = some e := head?_of_least (hsorted.rests rest hrest)
        (fun e' he' => hleast e'.version (.inr ⟨rest, hrest, e', he', rfl⟩)) he hkey
      exact hgreatest c hc e (hat.head.trans hhead) hkey

/-- A state in which the active tables are the ones of `tables` in `m`. -/
def SeesTables (tables : ℕ → Option TableReference) (m : Media) (w : World) : Prop :=
  ∀ slot reference, tables slot = some reference → w.db.manifest.tables slot = some reference ∧
    w.dev.current.tableBlock slot = m.tableBlock slot

/-- **A winner is read again as it was.** -/
lemma triple_winnerValue_at {P : World → Prop}
    (htick : ∀ w, P w → P { w with dev := w.dev.tick }) (hsees : ∀ w, P w → SeesTables tables m w)
    (h : CursorsAt cfg tables m cursors rests) {winner : MergeWinner}
    (hfrom : WinnerFrom namespaces pending cursors key winner) :
    Triple P (winnerValue cfg winner) (fun v w => P w ∧ v = winner.value) (fun _ => P) := by
  cases winner with
  | memtable r => exact .pure fun w hw => ⟨hw, rfl⟩
  | table c e =>
      obtain ⟨hc, hentry, -⟩ := hfrom
      obtain ⟨rest, -, hat⟩ := h.mem hc
      refine .bind (Q := fun decoded w => P w ∧ decoded = e) (Triple.readStorage
        (fun w decoded hw hread => ⟨htick w hw, ?_⟩) fun w _ hw => htick w hw) fun decoded =>
        .pure fun w hw => ⟨hw.1, by rw [hw.2]; rfl⟩
      cases hat with
      | finished entry =>
          rw [entry] at hentry
          cases hentry
      | @standing reference block e' behind table stored count left entry index =>
          rw [entry] at hentry
          cases hentry
          have hblock := (hsees w hw _ _ table).2
          unfold readWinner at hread
          rw [hblock, stored] at hread
          dsimp only at hread
          have hget : block.entries[c.entryIndex]? = some e := by
            have hhead := congrArg List.head? left
            rwa [List.head?_drop] at hhead
          rw [hget] at hread
          dsimp only at hread
          split_ifs at hread
          cases hread
          rfl

/-! ## Behind the key -/

/-- A list without its head, when that is of the key. -/
def dropHead {α : Type} (f : α → CompositeKey) (key : CompositeKey) : List α → List α
  | [] => []
  | a :: behind => if f a = key then behind else a :: behind

lemma dropHead_cons {α : Type} (f : α → CompositeKey) (a : α) (behind : List α) :
    dropHead f key (a :: behind) = if f a = key then behind else a :: behind := rfl

lemma dropHead_sublist {α : Type} (f : α → CompositeKey) (l : List α) :
    (dropHead f key l).Sublist l := by
  cases l with
  | nil => exact .slnil
  | cons a behind =>
      rw [dropHead_cons]
      split_ifs
      · exact List.sublist_cons_self a behind
      · exact List.Sublist.refl _

/-- In key order this takes the smallest key away. -/
lemma mem_dropHead_iff {α : Type} {f : α → CompositeKey} {l : List α} {a : α}
    (hsorted : l.Pairwise fun x y => f x < f y) (hleast : ∀ x ∈ l, key ≤ f x) :
    a ∈ dropHead f key l ↔ a ∈ l ∧ f a ≠ key := by
  cases l with
  | nil => exact ⟨fun h => absurd h List.not_mem_nil, fun h => absurd h.1 List.not_mem_nil⟩
  | cons first behind =>
      have hbehind := (List.pairwise_cons.mp hsorted).1
      have hfirst := hleast first List.mem_cons_self
      have hlater : ∀ x ∈ behind, f x ≠ key := fun x hx heq => by
        have hlt := hbehind x hx
        rw [heq] at hlt
        exact absurd hlt (not_lt.mpr hfirst)
      rw [dropHead_cons]
      split_ifs with hkey
      · refine ⟨fun ha => ⟨List.mem_cons_of_mem _ ha, hlater a ha⟩, fun ⟨ha, hne⟩ => ?_⟩
        rcases List.mem_cons.mp ha with rfl | ha
        · exact absurd hkey hne
        · exact ha
      · refine ⟨fun ha => ⟨ha, fun heq => ?_⟩, fun ha => ha.1⟩
        rcases List.mem_cons.mp ha with rfl | ha
        · exact hkey heq
        · exact hlater a ha heq

lemma advancePending_eq : advancePending namespaces pending key =
    dropHead (recordKey namespaces) key pending := by
  cases pending <;> rfl

/-- Cursors of which the last inactive ones have been dropped. -/
lemma CursorsAt.trim (h : CursorsAt cfg tables m cursors rests) : ∃ rests',
    CursorsAt cfg tables m (trimCursors cursors) rests' ∧ (∀ rest ∈ rests', rest ∈ rests) ∧
      ∀ rest ∈ rests, rest ≠ [] → rest ∈ rests' := by
  induction h with
  | nil => exact ⟨[], .nil, fun _ h => h, fun _ h _ => h⟩
  | @cons c rest cursors rests hc _ ih =>
      obtain ⟨rests', hat, hsub, hkept⟩ := ih
      unfold trimCursors
      cases htrim : trimCursors cursors with
      | nil =>
          rw [htrim] at hat
          cases hat
          dsimp only
          split_ifs with hnone
          · refine ⟨[], .nil, fun _ h => absurd h List.not_mem_nil, fun rest' hrest' hne => ?_⟩
            rcases List.mem_cons.mp hrest' with rfl | hrest'
            · rw [hc.head, Option.isNone_iff_eq_none, List.head?_eq_none_iff] at hnone
              exact absurd hnone hne
            · exact hkept rest' hrest' hne
          · refine ⟨[rest], .cons hc .nil, fun rest' hrest' => ?_, fun rest' hrest' hne => ?_⟩
            · rw [List.mem_singleton.mp hrest']
              exact List.mem_cons_self
            · rcases List.mem_cons.mp hrest' with rfl | hrest'
              · exact List.mem_singleton_self _
              · exact absurd (hkept rest' hrest' hne) List.not_mem_nil
      | cons c' cursors' =>
          rw [htrim] at hat
          refine ⟨rest :: rests', .cons hc hat, fun rest' hrest' => ?_, fun rest' hrest' hne => ?_⟩
          · rcases List.mem_cons.mp hrest' with rfl | hrest'
            · exact List.mem_cons_self
            · exact List.mem_cons_of_mem _ (hsub rest' hrest')
          · rcases List.mem_cons.mp hrest' with rfl | hrest'
            · exact List.mem_cons_self
            · exact List.mem_cons_of_mem _ (hkept rest' hrest' hne)

/-- **All cursors on the key advance.** -/
lemma triple_advanceCursors_at {P : World → Prop}
    (htick : ∀ w, P w → P { w with dev := w.dev.tick }) (hsees : ∀ w, P w → SeesTables tables m w)
    (h : CursorsAt cfg tables m cursors rests) :
    Triple P (advanceCursors cfg key cursors)
      (fun cursors' w => P w ∧
        CursorsAt cfg tables m cursors' (rests.map (dropHead TableEntry.key key)))
      (fun _ => P) := by
  induction h with
  | nil => exact .pure fun w hw => ⟨hw, .nil⟩
  | @cons c rest cursors rests hc _ ih =>
      unfold advanceCursors
      refine .bind (Q := fun c' w => P w ∧ CursorAt cfg tables m c' (dropHead TableEntry.key key rest))
        (.ite (fun hkey => Triple.readStorage (fun w c' hw hread => ⟨htick w hw, ?_⟩)
          fun w _ hw => htick w hw) fun hkey => .pure fun w hw => ⟨hw, ?_⟩) fun c' =>
        .of_pure (fun w hw => hw.2) fun hc' => .bind (ih.pre fun w hw => hw.1) fun cursors' =>
          .pure fun w hw => ⟨hw.1, .cons hc' hw.2⟩
      · cases rest with
        | nil =>
            rw [hc.key?] at hkey
            cases hkey
        | cons e behind =>
            rw [hc.key?] at hkey
            have hdrop : dropHead TableEntry.key key (e :: behind) = behind :=
              if_pos (Option.some.inj hkey)
            rw [hdrop]
            have hnow : CursorAt cfg w.db.manifest.tables w.dev.current c (e :: behind) :=
              hc.congr fun reference hreference => hsees w hw _ _ hreference
            obtain ⟨hslot, hadvanced⟩ := hnow.advance hread
            refine hadvanced.congr fun reference hreference => ?_
            rw [hslot] at hreference ⊢
            have htable : ∃ reference, tables c.sourceSlot = some reference := by
              generalize hleft : e :: behind = left at hc
              cases hc with
              | finished => cases hleft
              | standing table => exact ⟨_, table⟩
            obtain ⟨reference', htable⟩ := htable
            obtain ⟨hsame, hblocks⟩ := hsees w hw _ _ htable
            rw [hsame] at hreference
            exact ⟨htable.trans hreference, hblocks.symm⟩
      · cases rest with
        | nil => exact hc
        | cons e behind =>
            rw [hc.key?] at hkey
            have hdrop : dropHead TableEntry.key key (e :: behind) = e :: behind :=
              if_neg fun heq => hkey (congrArg some heq)
            rw [hdrop]
            exact hc

/-- **Behind a round the other keys are left.** -/
lemma leftVersions_advanced (hsorted : SortedSources namespaces pending rests)
    (hleast : ∀ v ∈ leftVersions namespaces pending rests, key ≤ v.key)
    {rests' : List (List TableEntry)}
    (hsub : ∀ rest ∈ rests', rest ∈ rests.map (dropHead TableEntry.key key))
    (hkept : ∀ rest ∈ rests.map (dropHead TableEntry.key key), rest ≠ [] → rest ∈ rests') :
    leftVersions namespaces (advancePending namespaces pending key) rests' =
        without key (leftVersions namespaces pending rests) ∧
      SortedSources namespaces (advancePending namespaces pending key) rests' := by
  have hpending : ∀ r, r ∈ dropHead (recordKey namespaces) key pending ↔
      r ∈ pending ∧ recordKey namespaces r ≠ key := fun r =>
    mem_dropHead_iff hsorted.pending fun r' hr' =>
      hleast (recordVersion namespaces r') (.inl ⟨r', hr', rfl⟩)
  have hrest : ∀ rest ∈ rests, ∀ e, e ∈ dropHead TableEntry.key key rest ↔ e ∈ rest ∧ e.key ≠ key :=
    fun rest hrest e => mem_dropHead_iff (hsorted.rests rest hrest) fun e' he' =>
      hleast e'.version (.inr ⟨rest, hrest, e', he', rfl⟩)
  rw [advancePending_eq]
  refine ⟨?_, hsorted.pending.sublist (dropHead_sublist _ _), fun rest' hrest' => ?_⟩
  · ext v
    constructor
    · rintro (⟨r, hr, rfl⟩ | ⟨rest', hrest', e, he, rfl⟩)
      · obtain ⟨hr, hne⟩ := (hpending r).mp hr
        exact ⟨.inl ⟨r, hr, rfl⟩, hne⟩
      · obtain ⟨rest, hmem, rfl⟩ := List.mem_map.mp (hsub rest' hrest')
        obtain ⟨he, hne⟩ := (hrest rest hmem e).mp he
        exact ⟨.inr ⟨rest, hmem, e, he, rfl⟩, hne⟩
    · rintro ⟨⟨r, hr, rfl⟩ | ⟨rest, hmem, e, he, rfl⟩, hne⟩
      · exact .inl ⟨r, (hpending r).mpr ⟨hr, hne⟩, rfl⟩
      · have he' := (hrest rest hmem e).mpr ⟨he, hne⟩
        exact .inr ⟨_, hkept _ (List.mem_map_of_mem hmem) (List.ne_nil_of_mem he'), e, he', rfl⟩
  · obtain ⟨rest, hmem, rfl⟩ := List.mem_map.mp (hsub rest' hrest')
    exact (hsorted.rests rest hmem).sublist (dropHead_sublist _ _)

end

/-! ## All sources -/

/-- The memtable holds every key once. -/
lemma MemtableSound.keys_nodup {db : Db} (h : MemtableSound cfg db) (hnames : db.namespaces.Nodup) :
    ((memtableRecords cfg db).map (recordKey db.namespaces)).Nodup := by
  unfold memtableRecords
  refine List.pairwise_map.mpr (List.Pairwise.filterMap _ (fun i j hij r hr r' hr' heq => ?_)
    List.pairwise_lt_range)
  have hsame : r = r' := h.has_unique hnames ⟨i, h.indexed.inRange i r hr, hr⟩
    ⟨j, h.indexed.inRange j r' hr', hr'⟩ heq
  subst hsame
  have hi := h.indexed.search_eq_found_iff.mpr ⟨hr, rfl⟩
  have hj := h.indexed.search_eq_found_iff.mpr ⟨hr', rfl⟩
  rw [hi] at hj
  cases hj
  exact absurd hij (lt_irrefl i)

/-- The gathered records are those of the memtable, in strict key order. -/
lemma gatherMemtable_sorted {db : Db} (h : MemtableSound cfg db) (hnames : db.namespaces.Nodup)
    {records : List MemtableRecord} (hgather : gatherMemtable cfg db = .ok records) :
    (records.Pairwise fun r r' => recordKey db.namespaces r < recordKey db.namespaces r') ∧
      ∀ r, r ∈ records ↔ db.memtable.Has cfg r := by
  unfold gatherMemtable at hgather
  dsimp only at hgather
  split_ifs at hgather
  cases hgather
  refine ⟨HeapSort.sortList_pairwise (fun r r' => ?_) (h.keys_nodup hnames), fun r => ?_⟩
  · rw [beq_iff_eq, compareCompositeKey_lt]
  · rw [← mem_memtableRecords]
    exact (HeapSort.sortList_perm _ _).mem_iff

/-- The entries of the tables among `slots`. -/
def tableRests (cfg : Config) (tables : ℕ → Option TableReference) (m : Media) (slots : List ℕ) :
    List (List TableEntry) :=
  slots.filterMap fun slot => (tables slot).map fun reference =>
    entriesFrom cfg m slot 0 reference.dataBlockCount

/-- **The loaded cursors stand before whole tables.** -/
lemma triple_loadCursors_at (w₁ : World) (slots : List ℕ) :
    Triple (Reading w₁) (loadCursors cfg slots)
      (fun cursors w => Reading w₁ w ∧ CursorsAt cfg w₁.db.manifest.tables w₁.dev.current cursors
        (tableRests cfg w₁.db.manifest.tables w₁.dev.current slots))
      (fun _ _ => True) := by
  induction slots with
  | nil => exact .pure fun w hw => ⟨hw, .nil⟩
  | cons slot rest ih =>
      unfold loadCursors
      refine .bind Triple.fetch fun db => .of_pure (p := w₁.db = db)
        (fun w hw => by rw [← hw.2, hw.1.db]) fun hdb => .pre (S := Reading w₁) ?_ fun w hw => hw.1
      rw [← hdb]
      cases htable : w₁.db.manifest.tables slot with
      | none =>
          refine ih.conseq (fun _ hw => hw) (fun cursors w hw => ?_) fun _ _ h => h
          unfold tableRests
          rw [List.filterMap_cons, htable]
          exact hw
      | some reference =>
          refine .bind (Q := fun c w => Reading w₁ w ∧ CursorAt cfg w₁.db.manifest.tables
              w₁.dev.current c (entriesFrom cfg w₁.dev.current slot 0 reference.dataBlockCount))
            (Triple.readStorage (fun w c hw hread => ?_) fun _ _ _ => trivial) fun c =>
            .of_pure (fun w hw => hw.2) fun hc => .bind (ih.pre fun w hw => hw.1) fun cursors =>
              .pure fun w hw => ?_
          · have hdev : w.dev.current = w₁.dev.current := by rw [hw.dev]
            rw [hw.db, hdev] at hread
            obtain ⟨-, reference', htable', hat⟩ := loadBlock rfl hread
            rw [show ({ sourceSlot := slot } : CompactionCursor).sourceSlot = slot from rfl,
              htable] at htable'
            cases htable'
            exact ⟨trans_of Reading hw (Reading.tick w), hat⟩
          · refine ⟨hw.1, ?_⟩
            unfold tableRests
            rw [List.filterMap_cons, htable]
            exact .cons hc hw.2

/-- **At the start everything is left.** -/
lemma leftVersions_start {w : World} (h : StoreSound cfg w) (hmemtable : MemtableSound cfg w.db)
    {records : List MemtableRecord} (hgather : gatherMemtable cfg w.db = .ok records) :
    leftVersions w.db.namespaces records (tableRests cfg w.db.manifest.tables w.dev.current
        (bankSlots cfg (inputStart cfg w.db.manifest))) = w.versions cfg ∧
      SortedSources w.db.namespaces records (tableRests cfg w.db.manifest.tables w.dev.current
        (bankSlots cfg (inputStart cfg w.db.manifest))) := by
  obtain ⟨hpending, hrecords⟩ := gatherMemtable_sorted hmemtable h.names hgather
  have hrests : ∀ rest, rest ∈ tableRests cfg w.db.manifest.tables w.dev.current
      (bankSlots cfg (inputStart cfg w.db.manifest)) ↔ ∃ slot reference,
        w.db.manifest.tables slot = some reference ∧
          rest = storedEntries cfg w.dev.current reference := by
    intro rest
    unfold tableRests
    rw [List.mem_filterMap]
    constructor
    · rintro ⟨slot, -, hslot⟩
      obtain ⟨reference, htable, rfl⟩ := Option.map_eq_some_iff.mp hslot
      refine ⟨slot, reference, htable, ?_⟩
      unfold storedEntries
      rw [(h.tables.table slot reference htable).own]
    · rintro ⟨slot, reference, htable, rfl⟩
      have hsound := h.tables.table slot reference htable
      refine ⟨slot, hsound.lies, ?_⟩
      rw [htable, Option.map_some]
      unfold storedEntries
      rw [hsound.own]
  refine ⟨?_, hpending, fun rest hrest => ?_⟩
  · ext v
    constructor
    · rintro (⟨r, hr, rfl⟩ | ⟨rest, hrest, e, he, rfl⟩)
      · exact .inr ⟨r, (hrecords r).mp hr, rfl⟩
      · obtain ⟨slot, reference, htable, rfl⟩ := (hrests rest).mp hrest
        exact .inl ⟨slot, reference, htable, e, he, rfl⟩
    · rintro (⟨slot, reference, htable, e, he, rfl⟩ | ⟨r, hr, rfl⟩)
      · exact .inr ⟨_, (hrests _).mpr ⟨slot, reference, htable, rfl⟩, e, he, rfl⟩
      · exact .inl ⟨r, (hrecords r).mpr hr, rfl⟩
  · obtain ⟨slot, reference, htable, rfl⟩ := (hrests rest).mp hrest
    exact (h.tables.table slot reference htable).sorted

end On9kvdb
