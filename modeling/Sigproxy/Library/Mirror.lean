import Sigproxy.Library.Table
import Mathlib.Order.Basic

namespace Sigproxy.Library
open Table

-- A table in memory and a second copy of it whose rows are read back as values.
-- Entries run out at a time of their own; what has run out does not count.
variable {Key Value Row : Type} [DecidableEq Key] (expiry : Value → Nat) (read : Key → Row → Value)

def alive (time : Nat) (held : Option Value) : Option Value := held.filter fun value => decide (time < expiry value)

theorem alive_eq_some {expiry : Value → Nat} : alive expiry time held = some value ↔ held = some value ∧ time < expiry value := by
  simp [alive,Option.filter_eq_some_iff]

theorem alive_some_dead {expiry : Value → Nat} (dead : expiry value ≤ time) : alive expiry time (some value) = none := by
  simp [alive,dead]

theorem alive_alive (later : time ≤ time') (held : Option Value) : alive expiry time' (alive expiry time held) = alive expiry time' held := by
  rw [alive,alive,alive,Option.filter_filter]
  congr 1
  funext value
  rw [Bool.eq_iff_iff]
  simp only [Bool.and_eq_true,decide_eq_true_eq]
  omega

def Mirrors (time : Nat) (memory : Table Key Value) (disk : Table Key Row) : Prop :=
  ∀ key, alive expiry time (memory.lookup key) = alive expiry time ((disk.lookup key).map (read key))

variable {expiry : Value → Nat} {read : Key → Row → Value} {memory : Table Key Value} {disk : Table Key Row}

theorem Mirrors.later (mirrors : Mirrors expiry read time memory disk) (later : time ≤ time') : Mirrors expiry read time' memory disk := by
  intro key
  rw [← alive_alive expiry later,mirrors key,alive_alive expiry later]

-- The writes of one change: both copies follow it, or memory alone takes what is
-- dead already in the place of what is dead.
inductive Paired (expiry : Value → Nat) (read : Key → Row → Value) (time : Nat) (memory : Table Key Value) :
    Option (Write Key Value) → Option (Write Key Row) → Prop where
  | silent : Paired expiry read time memory none none
  | put (key : Key) (row : Row) : Paired expiry read time memory (some (.put key (read key row))) (some (.put key row))
  | drop (key : Key) : Paired expiry read time memory (some (.drop key)) (some (.drop key))
  | lapsed (change : Write Key Value) (dead : alive expiry time change.outcome = none)
      (idle : alive expiry time (memory.lookup change.key) = none) : Paired expiry read time memory (some change) none

theorem Mirrors.paired (mirrors : Mirrors expiry read time memory disk) (paired : Paired expiry read time memory change row) :
    Mirrors expiry read time (memory.replay change.toList) (disk.replay row.toList) := by
  intro key
  cases paired with
  | silent => exact mirrors key
  | put named row =>
      change alive expiry time ((memory.insert named (read named row)).lookup key) =
        alive expiry time (((disk.insert named row).lookup key).map (read key))
      rw [lookup_insert_eq,lookup_insert_eq]
      by_cases same : key = named
      · simp [same]
      · rw [if_neg same,if_neg same]
        exact mirrors key
  | drop named =>
      change alive expiry time ((memory.erase named).lookup key) = alive expiry time (((disk.erase named).lookup key).map (read key))
      rw [lookup_erase_eq,lookup_erase_eq]
      by_cases same : key = named
      · simp [same]
      · rw [if_neg same,if_neg same]
        exact mirrors key
  | lapsed change dead idle =>
      simp only [Option.toList_some,replay,List.foldl_cons,List.foldl_nil,lookup_write]
      change _ = alive expiry time ((disk.lookup key).map (read key))
      rw [← mirrors key]
      split
      · rename_i same
        rw [dead,← same,idle]
      · rfl

-- Two copies of one kind.
theorem Mirrors.refl (table : Table Key Value) : Mirrors expiry (fun _ value => value) time table table := by
  intro key
  simp

theorem Mirrors.replay_same {other : Table Key Value} (mirrors : Mirrors expiry (fun _ value => value) time memory other)
    (change : Option (Write Key Value)) :
    Mirrors expiry (fun _ value => value) time (memory.replay change.toList) (other.replay change.toList) := by
  apply mirrors.paired
  match change with
  | none => exact .silent
  | some (.put key value) => exact .put key value
  | some (.drop key) => exact .drop key

section Refill
variable {Item : Type} {items : List Item} {label : Item → Key} {stamp : Item → Nat} {value : Item → Value} {row : Item → Row}

theorem lookup_collect_filter (keep : Item → Bool) (entry : Item → Value) (key : Key) :
    (collect ((items.filter keep).map fun item => (label item,entry item))).lookup key =
      (lastFor (fun item => keep item && decide (label item = key)) items).map entry := by
  rw [lookup_collect,lastFor,lastFor,← List.map_reverse,← List.filter_reverse,List.find?_map,List.find?_filter]
  simp [Option.map_map,Function.comp_def]

-- What is left of the items of a key at two times, the later one second.
section Last
variable {loaded time : Nat} {key : Key} (order : loaded ≤ time)
include order

theorem kept_narrower (item : Item) (kept : (decide (time < stamp item) && decide (label item = key)) = true) :
    (decide (loaded < stamp item) && decide (label item = key)) = true := by
  simp only [Bool.and_eq_true,decide_eq_true_eq] at kept ⊢
  exact ⟨by omega,kept.2⟩

theorem last_loaded (alone : ∀ item, lastFor (fun item => decide (loaded < stamp item) && decide (label item = key)) items = some item →
      stamp item ≤ time → ∀ other ∈ items, label other = key → stamp other ≤ time)
    (last : lastFor (fun item => decide (time < stamp item) && decide (label item = key)) items = some item) :
    lastFor (fun item => decide (loaded < stamp item) && decide (label item = key)) items = some item := by
  obtain ⟨kept,member⟩ := lastFor_some last
  simp only [Bool.and_eq_true,decide_eq_true_eq] at kept
  cases before : lastFor (fun item => decide (loaded < stamp item) && decide (label item = key)) items with
  | none =>
      rw [lastFor_none (kept_narrower order) before] at last
      cases last
  | some other =>
      obtain ⟨named,_⟩ := lastFor_some before
      by_cases lives : time < stamp other
      · simp only [Bool.and_eq_true,decide_eq_true_eq] at named
        rw [← last,lastFor_narrow (kept_narrower order) before (by simp [lives,named.2])]
      · have dead := alone other before (by omega) item member kept.2
        omega

end Last

-- Both copies are filled anew from one list, memory first: where the last entry
-- of a key dies in between, no other entry of the key may outlive it.
theorem mirrors_refill (order : loaded ≤ time)
    (shorter : ∀ item, loaded < stamp item → expiry (value item) ≤ stamp item)
    (fits : ∀ key item, lastFor (fun item => decide (loaded < stamp item) && decide (label item = key)) items = some item →
      (stamp item ≤ time → ∀ other ∈ items, label other = key → stamp other ≤ time) ∧
      (time < stamp item → value item = read (label item) (row item))) :
    Mirrors expiry read time
      (collect ((items.filter fun item => decide (loaded < stamp item)).map fun item => (label item,value item)))
      (collect ((items.filter fun item => decide (time < stamp item)).map fun item => (label item,row item))) := by
  intro key
  rw [lookup_collect_filter,lookup_collect_filter]
  cases after : lastFor (fun item => decide (time < stamp item) && decide (label item = key)) items with
  | some item =>
      have before := last_loaded order (fun item last => (fits key item last).1) after
      obtain ⟨kept,_⟩ := lastFor_some after
      simp only [Bool.and_eq_true,decide_eq_true_eq] at kept
      rw [before,Option.map_some,Option.map_some,Option.map_some,(fits key item before).2 kept.1,kept.2]
  | none =>
      cases before : lastFor (fun item => decide (loaded < stamp item) && decide (label item = key)) items with
      | none => rfl
      | some item =>
          obtain ⟨named,_⟩ := lastFor_some before
          simp only [Bool.and_eq_true,decide_eq_true_eq] at named
          have dead : stamp item ≤ time := by
            by_contra lives
            rw [lastFor_narrow (kept_narrower order) before (by simp [Nat.lt_of_not_le lives,named.2])] at after
            cases after
          exact alive_some_dead (Nat.le_trans (shorter item named.1) dead)

end Refill

end Sigproxy.Library
