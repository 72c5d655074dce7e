import Mathlib.Data.List.AList
import Mathlib.Data.List.Induction

namespace Sigproxy.Library

section LastWriter
variable {State Action Value : Type}

def lastFor (touches : Action → Bool) (actions : List Action) : Option Action := actions.reverse.find? touches

theorem lastFor_snoc (touches : Action → Bool) (actions : List Action) (action : Action) :
    lastFor touches (actions ++ [action]) = if touches action then some action else lastFor touches actions := by
  cases touched : touches action <;> simp [lastFor,touched]

theorem lastFor_some (last : lastFor touches actions = some action) : touches action = true ∧ action ∈ actions :=
  ⟨List.find?_some last,List.mem_reverse.mp (List.mem_of_find?_eq_some last)⟩

theorem lastFor_eq_some {actions : List Action} {touches : Action → Bool} : lastFor touches actions = some action ↔
    touches action = true ∧ ∃ before after, actions = before ++ action :: after ∧ ∀ other ∈ after, touches other = false := by
  rw [lastFor,List.find?_eq_some_iff_append]
  refine and_congr_right fun _ => ⟨?_,?_⟩
  · intro given
    rcases given with ⟨after,before,reversed,quiet⟩
    refine ⟨before.reverse,after.reverse,?_,by simpa using quiet⟩
    simpa using congrArg List.reverse reversed
  · intro given
    rcases given with ⟨before,after,rfl,quiet⟩
    exact ⟨after.reverse,before.reverse,by simp,by simpa using quiet⟩

theorem lastFor_narrow (narrower : ∀ action, kept action = true → touches action = true)
    (last : lastFor touches actions = some action) (stays : kept action = true) :
    lastFor kept actions = some action := by
  induction actions using List.reverseRecOn with
  | nil => cases last
  | append_singleton rest final ih =>
      rw [lastFor_snoc] at last ⊢
      split at last
      · cases last; rw [if_pos stays]
      · rename_i untouched
        rw [if_neg fun keeps => untouched (narrower final keeps),ih last]

theorem lastFor_none (narrower : ∀ action, kept action = true → touches action = true)
    (absent : lastFor touches actions = none) : lastFor kept actions = none := by
  unfold lastFor at absent ⊢
  rw [List.find?_eq_none] at absent ⊢
  exact fun action member keeps => absent action member (narrower action keeps)

-- Last writer wins: where each action either decides a view or leaves it alone,
-- the last action that decides it has the say.
theorem view_foldl (view : State → Option Value) {step : State → Action → State} {touches : Action → Bool}
    {outcome : Action → Option Value}
    (decides : ∀ s action, view (step s action) = if touches action then outcome action else view s)
    (actions : List Action) (s : State) :
    view (actions.foldl step s) = (lastFor touches actions).elim (view s) outcome := by
  induction actions using List.reverseRecOn with
  | nil => rfl
  | append_singleton rest final ih =>
      rw [List.foldl_append,List.foldl_cons,List.foldl_nil,decides,lastFor_snoc,ih]
      cases touches final <;> rfl

end LastWriter

-- A hash map whose iteration order is of no account: the entries are kept with
-- distinct keys by construction, so no lookup depends on where an entry stands.
abbrev Table (Key Value : Type) := AList (fun _ : Key => Value)

namespace Table
variable {Key Value : Type} [DecidableEq Key]

def retain (keep : Key → Value → Bool) (table : Table Key Value) : Table Key Value where
  entries := table.entries.filter fun entry => keep entry.1 entry.2
  nodupKeys := table.nodupKeys.sublist List.filter_sublist

def values (table : Table Key Value) : List Value := table.entries.map Sigma.snd

-- Collecting an iterator of pairs inserts them one by one: a later pair wins.
def collect (pairs : List (Key × Value)) : Table Key Value :=
  pairs.foldl (fun table pair => table.insert pair.1 pair.2) ∅

theorem lookup_insert_eq (table : Table Key Value) (key other : Key) (value : Value) :
    (table.insert key value).lookup other = if other = key then some value else table.lookup other := by
  by_cases same : other = key
  · subst same; simp
  · simp [same,AList.lookup_insert_ne]

theorem lookup_erase_eq (table : Table Key Value) (key other : Key) :
    (table.erase key).lookup other = if other = key then none else table.lookup other := by
  by_cases same : other = key
  · subst same; simp
  · simp [same,AList.lookup_erase_ne]

theorem lookup_iff_mem {table : Table Key Value} {key : Key} {value : Value} :
    table.lookup key = some value ↔ (⟨key,value⟩ : Sigma fun _ : Key => Value) ∈ table.entries := by
  simpa using AList.mem_lookup_iff (s := table) (a := key) (b := value)

theorem eq_empty {table : Table Key Value} (absent : ∀ key, table.lookup key = none) : table = ∅ := by
  apply AList.ext
  apply List.eq_nil_iff_forall_not_mem.mpr
  intro both member
  rcases both with ⟨key,value⟩
  cases (absent key).symm.trans (lookup_iff_mem.mpr member)

theorem lookup_retain (keep : Key → Value → Bool) (table : Table Key Value) (key : Key) :
    (table.retain keep).lookup key = (table.lookup key).filter (keep key) := by
  apply Option.ext
  intro value
  simp only [lookup_iff_mem,retain,List.mem_filter,Option.filter_eq_some_iff]

theorem lookup_collect (pairs : List (Key × Value)) (key : Key) :
    (collect pairs).lookup key = (lastFor (fun pair => decide (pair.1 = key)) pairs).map Prod.snd := by
  have decides : ∀ (table : Table Key Value) (pair : Key × Value), (table.insert pair.1 pair.2).lookup key =
      if decide (pair.1 = key) then some pair.2 else table.lookup key := by
    intro table pair
    rw [lookup_insert_eq]
    exact if_congr (by rw [decide_eq_true_eq,eq_comm]) rfl rfl
  unfold collect
  rw [view_foldl (fun table : Table Key Value => table.lookup key) decides pairs ∅]
  cases lastFor (fun pair : Key × Value => decide (pair.1 = key)) pairs <;> rfl

theorem mem_values {table : Table Key Value} {value : Value} :
    value ∈ table.values ↔ ∃ key, table.lookup key = some value := by
  simp [values,lookup_iff_mem]

-- A table is rebuilt from the pairs of what it holds, whatever their order.
theorem lookup_collect_graph {pairs : List (Key × Value)} {find : Key → Option Value}
    (graph : ∀ key value, (key,value) ∈ pairs ↔ find key = some value) (key : Key) : (collect pairs).lookup key = find key := by
  rw [lookup_collect]
  cases last : lastFor (fun pair : Key × Value => decide (pair.1 = key)) pairs with
  | some pair =>
      obtain ⟨same,member⟩ := lastFor_some last
      rw [← of_decide_eq_true same,Option.map_some,(graph _ _).mp member]
  | none =>
      cases found : find key with
      | none => rfl
      | some value =>
          have member := (graph key value).mpr found
          exact absurd (decide_eq_true rfl) (List.find?_eq_none.mp last _ (List.mem_reverse.mpr member))

-- A table whose values know their own keys is rebuilt from its values.
theorem lookup_collect_values {table : Table Key Value} {label : Value → Key}
    (labelled : ∀ key value, table.lookup key = some value → label value = key) (keep : Value → Bool) (key : Key) :
    (collect ((table.values.filter keep).map fun value => (label value,value))).lookup key =
      (table.lookup key).filter keep := by
  refine @lookup_collect_graph _ _ _ _ (fun key => (table.lookup key).filter keep) (fun key value => ?_) key
  simp only [List.mem_map,List.mem_filter,mem_values,Option.filter_eq_some_iff,Prod.mk.injEq]
  constructor
  · intro given
    rcases given with ⟨value,⟨⟨own,found⟩,keeps⟩,rfl,rfl⟩
    exact ⟨labelled own value found ▸ found,keeps⟩
  · intro both
    rcases both with ⟨found,keeps⟩
    exact ⟨value,⟨⟨key,found⟩,keeps⟩,labelled key value found,rfl⟩

-- One write of a key-value store, and the store that a sequence of them leaves.
inductive Write (Key Value : Type) where
  | put (key : Key) (value : Value)
  | drop (key : Key)

def Write.key : Write Key Value → Key
  | .put key _ => key
  | .drop key => key

def Write.outcome : Write Key Value → Option Value
  | .put _ value => some value
  | .drop _ => none

def write (table : Table Key Value) : Write Key Value → Table Key Value
  | .put key value => table.insert key value
  | .drop key => table.erase key

def replay (table : Table Key Value) (writes : List (Write Key Value)) : Table Key Value :=
  writes.foldl write table

theorem lookup_write (table : Table Key Value) (change : Write Key Value) (key : Key) :
    (table.write change).lookup key = if change.key = key then change.outcome else table.lookup key := by
  cases change with
  | put written value => simp [write,Write.key,Write.outcome,lookup_insert_eq,eq_comm]
  | drop written => simp [write,Write.key,Write.outcome,lookup_erase_eq,eq_comm]

theorem replay_snoc (table : Table Key Value) (writes : List (Write Key Value)) (change : Write Key Value) :
    table.replay (writes ++ [change]) = (table.replay writes).write change := by
  simp [replay]

theorem replay_filterMap_snoc {Record : Type} (table : Table Key Value) (write : Record → Option (Write Key Value)) (history : List Record)
    (record : Record) : table.replay ((history ++ [record]).filterMap write) =
      (write record).elim (table.replay (history.filterMap write)) (table.replay (history.filterMap write)).write := by
  rw [List.filterMap_append]
  cases written : write record with
  | none => simp [written]
  | some change => simp [written,replay]

-- The last write of a key decides its entry; `none` where no write names it.
def lastWrite (key : Key) (writes : List (Write Key Value)) : Option (Write Key Value) :=
  lastFor (fun change => decide (change.key = key)) writes

theorem lastWrite_snoc (key : Key) (writes : List (Write Key Value)) (change : Write Key Value) :
    lastWrite key (writes ++ [change]) = if change.key = key then some change else lastWrite key writes := by
  simp [lastWrite,lastFor_snoc]

theorem lookup_replay (table : Table Key Value) (writes : List (Write Key Value)) (key : Key) :
    (table.replay writes).lookup key = (lastWrite key writes).elim (table.lookup key) Write.outcome := by
  unfold replay lastWrite
  refine view_foldl (fun table : Table Key Value => table.lookup key) ?_ writes table
  intro table change
  simp [lookup_write]

theorem lastWrite_append (key : Key) (early late : List (Write Key Value)) :
    lastWrite key (early ++ late) = (lastWrite key late).or (lastWrite key early) := by
  simp [lastWrite,lastFor,List.find?_append]

theorem lastWrite_eq_none {writes : List (Write Key Value)} : lastWrite key writes = none ↔ ∀ change ∈ writes, change.key ≠ key := by
  simp [lastWrite,lastFor]

-- Writes that a table has already seen may be replayed with those that follow them.
theorem lookup_replay_overlap (table : Table Key Value) (early middle late : List (Write Key Value)) (key : Key) :
    ((table.replay (early ++ middle)).replay (middle ++ late)).lookup key = (table.replay (early ++ middle ++ late)).lookup key := by
  simp only [lookup_replay,lastWrite_append]
  cases lastWrite key late <;> cases lastWrite key middle <;> rfl

theorem lookup_replay_option {table : Table Key Value} {change : Option (Write Key Value)}
    (found : (table.replay change.toList).lookup key = some value) : table.lookup key = some value ∨ change = some (.put key value) := by
  cases change with
  | none => exact .inl found
  | some change =>
      simp only [Option.toList_some,replay,List.foldl_cons,List.foldl_nil,lookup_write] at found
      split at found
      · rename_i same
        cases change with
        | put other value => cases found; cases same; exact .inr rfl
        | drop other => cases found
      · exact .inl found

theorem lookup_replay_congr {table other : Table Key Value} (same : ∀ key, table.lookup key = other.lookup key)
    (writes : List (Write Key Value)) (key : Key) : (table.replay writes).lookup key = (other.replay writes).lookup key := by
  rw [lookup_replay,lookup_replay,same]

-- An entry of a table that began empty was put there by the last record that
-- writes its key.
theorem lookup_replay_last {Record : Type} {write : Record → Option (Write Key Value)} {history : List Record} :
    ((∅ : Table Key Value).replay (history.filterMap write)).lookup key = some value ↔
      ∃ before record after, history = before ++ record :: after ∧ write record = some (.put key value) ∧
        ∀ other ∈ after, ∀ change, write other = some change → change.key ≠ key := by
  have read : ((∅ : Table Key Value).replay (history.filterMap write)).lookup key =
      (lastFor (fun record => (write record).any fun change => decide (change.key = key)) history).bind
        fun record => (write record).bind Write.outcome := by
    rw [lookup_replay,lastWrite,lastFor,lastFor,← List.filterMap_reverse,List.find?_filterMap]
    cases history.reverse.find? _ with
    | none => rfl
    | some record => cases written : write record <;> simp [written]
  have silent (record : Record) : ((write record).any fun change => decide (change.key = key)) = false ↔
      ∀ change, write record = some change → change.key ≠ key := by
    cases write record <;> simp
  rw [read,Option.bind_eq_some_iff]
  simp only [lastFor_eq_some,silent]
  constructor
  · intro given
    rcases given with ⟨record,⟨touched,before,after,rfl,quiet⟩,outcome⟩
    refine ⟨before,record,after,rfl,?_,quiet⟩
    obtain ⟨change,written,named⟩ := Option.any_eq_true _ _ |>.mp touched
    rw [written] at outcome ⊢
    cases change with
    | put other value => cases of_decide_eq_true named; cases outcome; rfl
    | drop other => cases outcome
  · intro given
    rcases given with ⟨before,record,after,rfl,put,quiet⟩
    exact ⟨record,⟨by simp [put,Write.key],before,after,rfl,quiet⟩,by simp [put,Write.outcome]⟩

theorem lookup_replay_put {Record : Type} {write : Record → Option (Write Key Value)} {history : List Record}
    (found : ((∅ : Table Key Value).replay (history.filterMap write)).lookup key = some value) :
    ∃ record ∈ history, write record = some (.put key value) := by
  obtain ⟨before,record,after,rfl,put,_⟩ := lookup_replay_last.mp found
  exact ⟨record,by simp,put⟩

-- What replayed writes leave present: puts only add, drops only take away.
theorem replay_isSome_put {table : Table Key Value} {writes : List (Write Key Value)}
    (present : ((table.replay writes).lookup key).isSome = true) :
    (table.lookup key).isSome = true ∨ ∃ change ∈ writes, change.key = key ∧ change.outcome.isSome = true := by
  rw [lookup_replay] at present
  cases last : lastWrite key writes with
  | none => exact .inl (by simpa [last] using present)
  | some change =>
      obtain ⟨named,member⟩ := lastFor_some last
      exact .inr ⟨change,member,of_decide_eq_true named,by simpa [last] using present⟩

theorem replay_puts_isSome {table : Table Key Value} {writes : List (Write Key Value)}
    (puts : ∀ change ∈ writes, change.outcome.isSome = true) : ((table.replay writes).lookup key).isSome = true ↔
      (table.lookup key).isSome = true ∨ ∃ change ∈ writes, change.key = key := by
  constructor
  · intro present
    exact (replay_isSome_put present).imp_right fun ⟨change,member,named,_⟩ => ⟨change,member,named⟩
  · intro before
    rw [lookup_replay]
    cases last : lastWrite key writes with
    | none =>
        refine before.elim id fun ⟨change,member,named⟩ => ?_
        exact absurd (decide_eq_true named) (List.find?_eq_none.mp last change (List.mem_reverse.mpr member))
    | some change => exact puts change (lastFor_some last).2

theorem replay_drops_isSome {table : Table Key Value} {writes : List (Write Key Value)}
    (drops : ∀ change ∈ writes, change.outcome = none) : ((table.replay writes).lookup key).isSome = true ↔
      (table.lookup key).isSome = true ∧ ∀ change ∈ writes, change.key ≠ key := by
  rw [lookup_replay]
  cases last : lastWrite key writes with
  | none =>
      refine ⟨fun present => ⟨present,fun change member named => ?_⟩,fun before => before.1⟩
      exact List.find?_eq_none.mp last change (List.mem_reverse.mpr member) (decide_eq_true named)
  | some change =>
      obtain ⟨named,member⟩ := lastFor_some last
      refine ⟨fun present => ?_,fun before => absurd (of_decide_eq_true named) (before.2 change member)⟩
      simp [drops change member] at present

-- Writes of other keys are of no account.
theorem lookup_replay_filter (table : Table Key Value) (writes : List (Write Key Value)) (key : Key) :
    (table.replay (writes.filter fun change => decide (change.key = key))).lookup key =
      (table.replay writes).lookup key := by
  rw [lookup_replay,lookup_replay]
  unfold lastWrite lastFor
  rw [← List.filter_reverse,List.find?_filter]
  simp

end Table
end Sigproxy.Library
