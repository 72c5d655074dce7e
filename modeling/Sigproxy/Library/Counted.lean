import Mathlib.Algebra.BigOperators.Group.Finset.Piecewise
import Mathlib.Algebra.Order.BigOperators.Group.Finset
import Sigproxy.Library.Program

namespace Sigproxy.Library.Counted

-- What tasks do on stores behind locks of their own, next to one atomic counter of
-- what the stores hold. An edit answers with the store as it was.
inductive Op (Shard Store : Type) where
  | lock (shard : Shard)
  | edit (shard : Shard) (change : Store → Store)
  | replace (fresh : Shard → Store)
  | unlock (shard : Shard)
  | add (count : Nat)
  | subtract (count : Nat)
  | store (count : Nat)
  | load
  | clock

abbrev Op.Reply {Shard Store : Type} : Op Shard Store → Type
  | .edit .. => Store
  | .load => Nat
  | .clock => Nat
  | _ => Unit

abbrev Task (Shard Store Result : Type) := Program (@Op.Reply Shard Store) Result

-- The counter is the exact number: the atomic one is this modulo its width, and a
-- subtraction that leaves a negative number is where it wraps around.
structure World (Shard Store : Type) where
  stores : Shard → Store
  holder : Shard → Option Nat
  counter : Int
  now : Nat

structure Pool (Shard Store Result : Type) where
  world : World Shard Store
  tasks : List (Task Shard Store Result)

inductive Action (Input : Type) where
  | spawn (input : Input)
  | step (task : Nat)
  | elapse (duration : Nat)

section Machine
variable {Shard Store Input Result : Type} [DecidableEq Shard] [Fintype Shard]

def World.hold (w : World Shard Store) (shard : Shard) (holder : Option Nat) : World Shard Store :=
  { w with holder := Function.update w.holder shard holder }

def World.put (w : World Shard Store) (shard : Shard) (content : Store) : World Shard Store :=
  { w with stores := Function.update w.stores shard content }

-- A lock is taken where it is free; every other access to a store is made by its holder.
def perform (task : Nat) : (op : Op Shard Store) → World Shard Store → Option (op.Reply × World Shard Store)
  | .lock shard,w =>
    if w.holder shard = none then some ((),w.hold shard (some task)) else none
  | .edit shard change,w =>
    if w.holder shard = some task then some (w.stores shard,w.put shard (change (w.stores shard))) else none
  | .replace fresh,w => if ∀ shard, w.holder shard = some task then some ((),{ w with stores := fresh }) else none
  | .unlock shard,w =>
    if w.holder shard = some task then some ((),w.hold shard none) else none
  | .add count,w => some ((),{ w with counter := w.counter + count })
  | .subtract count,w => some ((),{ w with counter := w.counter - count })
  | .store count,w => some ((),{ w with counter := count })
  | .load,w => some ((w.counter % 2 ^ 64).toNat,w)
  | .clock,w => some (w.now,w)

def advance (handler : Input → Task Shard Store Result) (pool : Pool Shard Store Result) : Action Input → Option (Pool Shard Store Result)
  | .spawn input => some { pool with tasks := pool.tasks ++ [handler input] }
  | .step task =>
    match pool.tasks[task]? with
    | some (.call op next) => (perform task op pool.world).map fun done => ⟨done.2,pool.tasks.set task (next done.1)⟩
    | _ => none
  | .elapse duration => some { pool with world := { pool.world with now := pool.world.now + duration } }

-- A task that has given back its lock and has its subtraction still before it.
def owing (pool : Pool Shard Store Result) (task : Nat) : Bool :=
  match pool.tasks[task]? with
  | some (.call (.subtract _) _) => decide (∀ shard, pool.world.holder shard ≠ some task)
  | _ => false

-- No task sets the counter while another one owes it a subtraction.
def clear (pool : Pool Shard Store Result) : Action Input → Bool
  | .step task =>
    match pool.tasks[task]? with
    | some (.call (.store _) _) => (List.range pool.tasks.length).all fun other => !owing pool other
    | _ => true
  | _ => true

-- What a task is about to take off the counter.
def takes : Task Shard Store Result → Nat
  | .call (.subtract count) _ => count
  | _ => 0

def quiet (pool : Pool Shard Store Result) : Bool := pool.tasks.all fun task => task.outcome.isSome

variable (size : Store → Nat)

def total (w : World Shard Store) : Nat := ∑ shard, size (w.stores shard)

-- A task keeps account of the shards it holds (what each holds, and how much of that is
-- counted) and of what it owes behind its last lock, which it pays with its next call.
inductive Sound : (Shard → Option (Store × Nat)) → Nat → Task Shard Store Result → Prop where
  | done : (∀ shard, held shard = none) → Sound held 0 (.done result)
  | fail : (∀ shard, held shard = none) → Sound held 0 (.fail error)
  | lock : (∀ content, Sound (Function.update held shard (some (content,size content))) 0 (next ())) →
      Sound held 0 (.call (.lock shard) next)
  | edit : held shard = some (content,counted) → Sound (Function.update held shard (some (change content,counted))) 0 (next content) →
      Sound held 0 (.call (.edit shard change) next)
  | replace {counted : Shard → Nat} {contents : Shard → Store} : (∀ shard, held shard = some (contents shard,counted shard)) →
      Sound (fun shard => some (fresh shard,counted shard)) 0 (next ()) → Sound held 0 (.call (.replace fresh) next)
  | unlock : held shard = some (content,counted) → size content ≤ counted →
      Sound (Function.update held shard none) (counted - size content) (next ()) → Sound held 0 (.call (.unlock shard) next)
  | add : held shard = some (content,counted) → Sound (Function.update held shard (some (content,counted + count))) 0 (next ()) →
      Sound held 0 (.call (.add count) next)
  | subtract : held shard = some (content,counted) → count ≤ counted →
      Sound (Function.update held shard (some (content,counted - count))) 0 (next ()) → Sound held 0 (.call (.subtract count) next)
  | settle {next : Unit → Task Shard Store Result} : (∀ shard, held shard = none) → Sound held 0 (next ()) → Sound held owed (.call (.subtract owed) next)
  | store {counted : Shard → Nat} {contents : Shard → Store} {next : Unit → Task Shard Store Result} :
      (∀ shard, held shard = some (contents shard,counted shard)) → count = ∑ shard, size (contents shard) →
      Sound (fun shard => some (contents shard,size (contents shard))) 0 (next ()) → Sound held 0 (.call (.store count) next)
  | load : (∀ number, Sound held 0 (next number)) → Sound held 0 (.call .load next)
  | clock : (∀ number, Sound held 0 (next number)) → Sound held 0 (.call .clock next)

-- What a task knows of the shards it holds.
def view (w : World Shard Store) (counted : Shard → Nat) (task : Nat) (shard : Shard) : Option (Store × Nat) :=
  if w.holder shard = some task then some (w.stores shard,counted shard) else none

structure Accounted (pool : Pool Shard Store Result) (counted : Shard → Nat) (owed : Nat → Nat) : Prop where
  sound : ∀ task program, pool.tasks[task]? = some program → Sound size (view pool.world counted task) (owed task) program
  free : ∀ shard, pool.world.holder shard = none → counted shard = size (pool.world.stores shard)
  started : ∀ shard task, pool.world.holder shard = some task → task < pool.tasks.length
  counter : pool.world.counter = ((∑ shard, counted shard + ∑ task ∈ Finset.range pool.tasks.length, owed task : Nat) : Int)

end Machine

section Views
variable {Shard Store : Type} {w : World Shard Store} {counted : Shard → Nat}

theorem view_holder (holds : w.holder shard = some task) : view w counted task shard = some (w.stores shard,counted shard) := if_pos holds

theorem holder_of_view (held : view w counted task shard = some (content,count)) :
    w.holder shard = some task ∧ w.stores shard = content ∧ counted shard = count := by
  unfold view at held
  split at held
  · rename_i holds
    cases held
    exact ⟨holds,rfl,rfl⟩
  · cases held

theorem view_none (held : view w counted task shard = none) : w.holder shard ≠ some task := by
  intro holds
  cases (view_holder holds).symm.trans held

theorem holder_alone (holds : w.holder shard = some task) : ∀ other ≠ task, w.holder shard ≠ some other :=
  fun _ different found => different (Option.some.inj (found.symm.trans holds))

-- Worlds and accounts that are the same at all shards but one.
def Elsewhere (w after : World Shard Store) (counted recounted : Shard → Nat) (shard : Shard) : Prop :=
  ∀ other ≠ shard, after.holder other = w.holder other ∧ after.stores other = w.stores other ∧ recounted other = counted other

theorem view_changed [DecidableEq Shard] {after : World Shard Store} {recounted : Shard → Nat} (elsewhere : Elsewhere w after counted recounted shard)
    (task : Nat) : view after recounted task = Function.update (view w counted task) shard (view after recounted task shard) := by
  funext other
  by_cases same : other = shard
  · rw [same,Function.update_self]
  · obtain ⟨holder,content,count⟩ := elsewhere other same
    rw [Function.update_of_ne same,view,view,holder,content,count]

theorem view_untouched {after : World Shard Store} {recounted : Shard → Nat} (elsewhere : Elsewhere w after counted recounted shard)
    (before : w.holder shard ≠ some task) (later : after.holder shard ≠ some task) : view after recounted task = view w counted task := by
  funext other
  by_cases same : other = shard
  · rw [same,view,view,if_neg before,if_neg later]
  · obtain ⟨holder,content,count⟩ := elsewhere other same
    rw [view,view,holder,content,count]

-- Where one task holds all the shards no other one knows of any.
theorem view_all {contents : Shard → Store} {counts : Shard → Nat} (all : ∀ shard, view w counted task shard = some (contents shard,counts shard)) :
    contents = w.stores ∧ counts = counted ∧ ∀ shard, w.holder shard = some task :=
  ⟨funext fun shard => (holder_of_view (all shard)).2.1.symm,funext fun shard => (holder_of_view (all shard)).2.2.symm,
    fun shard => (holder_of_view (all shard)).1⟩

theorem view_held (held : ∀ shard, w.holder shard = some task) : view w counted task = fun shard => some (w.stores shard,counted shard) :=
  funext fun shard => view_holder (held shard)

theorem view_free (held : ∀ shard, w.holder shard = some task) {other : Nat} (different : other ≠ task) : view w counted other = fun _ => none :=
  funext fun shard => if_neg (holder_alone (held shard) other different)

end Views
section Steps
variable {Shard Store Result : Type} [DecidableEq Shard] [Fintype Shard] {size : Store → Nat} {pool : Pool Shard Store Result}
  {counted : Shard → Nat} {owed : Nat → Nat}

theorem sum_update_add {Index : Type} [DecidableEq Index] {among : Finset Index} {index : Index} (member : index ∈ among) (counts : Index → Nat) (count : Nat) :
    ∑ other ∈ among, Function.update counts index count other + counts index = ∑ other ∈ among, counts other + count := by
  rw [Finset.sum_update_of_mem member,Finset.sum_eq_add_sum_sdiff_singleton_of_mem member counts]
  omega

-- A step of one task changes the account of its own shards and of what it owes.
theorem Accounted.stepped (accounted : Accounted size pool counted owed) (stands : pool.tasks[task]? = some before) {after : World Shard Store}
    {recounted : Shard → Nat} {left : Nat} {program : Task Shard Store Result} (sound : Sound size (view after recounted task) left program)
    (others : ∀ other ≠ task, view after recounted other = view pool.world counted other)
    (free : ∀ shard, after.holder shard = none → recounted shard = size (after.stores shard))
    (holder : ∀ shard other, after.holder shard = some other → pool.world.holder shard = some other ∨ other = task)
    (counter : after.counter + ((∑ shard, counted shard + owed task : Nat) : Int) =
      pool.world.counter + ((∑ shard, recounted shard + left : Nat) : Int)) :
    Accounted size ⟨after,pool.tasks.set task program⟩ recounted (Function.update owed task left) := by
  have inside : task < pool.tasks.length := (List.getElem?_eq_some_iff.mp stands).1
  refine ⟨fun other following found => ?_,free,fun shard other holds => ?_,?_⟩
  · by_cases same : other = task
    · subst same
      rw [List.getElem?_set_self inside] at found
      cases found
      rw [Function.update_self]
      exact sound
    · rw [List.getElem?_set_ne (Ne.symm same)] at found
      rw [others other same,Function.update_of_ne same]
      exact accounted.sound other following found
  · rw [List.length_set]
    cases holder shard other holds with
    | inl held => exact accounted.started shard other held
    | inr same => exact same ▸ inside
  · rw [List.length_set]
    have sums := sum_update_add (Finset.mem_range.mpr inside) owed left
    have before := accounted.counter
    change after.counter = _
    omega

-- A step at one shard that no other task holds.
theorem Accounted.touched (accounted : Accounted size pool counted owed) (stands : pool.tasks[task]? = some before) {after : World Shard Store}
    {recounted : Shard → Nat} (elsewhere : Elsewhere pool.world after counted recounted shard)
    (own : ∀ other ≠ task, pool.world.holder shard ≠ some other) (stays : ∀ other ≠ task, after.holder shard ≠ some other)
    {program : Task Shard Store Result}
    (sound : Sound size (Function.update (view pool.world counted task) shard (view after recounted task shard)) left program)
    (free : after.holder shard = none → recounted shard = size (after.stores shard))
    (counter : after.counter + ((counted shard + owed task : Nat) : Int) = pool.world.counter + ((recounted shard + left : Nat) : Int)) :
    Accounted size ⟨after,pool.tasks.set task program⟩ recounted (Function.update owed task left) := by
  have recount : recounted = Function.update counted shard (recounted shard) := by
    funext other
    by_cases same : other = shard
    · rw [same,Function.update_self]
    · rw [Function.update_of_ne same,(elsewhere other same).2.2]
  refine accounted.stepped stands (view_changed elsewhere task ▸ sound) (fun other different => ?_) ?_ ?_ ?_
  · exact view_untouched elsewhere (own other different) (stays other different)
  · intro other unlocked
    by_cases same : other = shard
    · subst same
      exact free unlocked
    · obtain ⟨holder,content,count⟩ := elsewhere other same
      rw [content,count]
      exact accounted.free other (holder ▸ unlocked)
  · intro other found holds
    by_cases same : other = shard
    · subst same
      by_contra neither
      rw [not_or] at neither
      exact stays found neither.2 holds
    · exact .inl ((elsewhere other same).1 ▸ holds)
  · have sums := sum_update_add (Finset.mem_univ shard) counted (recounted shard)
    rw [← recount] at sums
    omega

section Calls
variable {before : Task Shard Store Result} {next : Unit → Task Shard Store Result}

theorem Accounted.lock (accounted : Accounted size pool counted owed) (stands : pool.tasks[task]? = some before) (free : pool.world.holder shard = none)
    (nothing : owed task = 0)
    (sound : ∀ content, Sound size (Function.update (view pool.world counted task) shard (some (content,size content))) 0 (next ())) :
    Accounted size ⟨pool.world.hold shard (some task),pool.tasks.set task (next ())⟩ counted (Function.update owed task 0) := by
  have held : (pool.world.hold shard (some task)).holder shard = some task := Function.update_self ..
  have elsewhere : Elsewhere pool.world (pool.world.hold shard (some task)) counted counted shard :=
    fun other different => ⟨Function.update_of_ne different ..,rfl,rfl⟩
  have shown : view (pool.world.hold shard (some task)) counted task shard = some (pool.world.stores shard,size (pool.world.stores shard)) := by
    rw [view_holder held,accounted.free shard free]
    rfl
  refine accounted.touched stands elsewhere (fun other _ found => ?_) (holder_alone held) (shown ▸ sound _) (fun unlocked => ?_) ?_
  · cases free.symm.trans found
  · cases held.symm.trans unlocked
  · rw [nothing]
    rfl

theorem Accounted.edit (accounted : Accounted size pool counted owed) (stands : pool.tasks[task]? = some before)
    (held : view pool.world counted task shard = some (content,count)) (nothing : owed task = 0) {program : Task Shard Store Result}
    (sound : Sound size (Function.update (view pool.world counted task) shard (some (changed,count))) 0 program) :
    Accounted size ⟨pool.world.put shard changed,pool.tasks.set task program⟩ counted (Function.update owed task 0) := by
  obtain ⟨holds,rfl,rfl⟩ := holder_of_view held
  have elsewhere : Elsewhere pool.world (pool.world.put shard changed) counted counted shard :=
    fun other different => ⟨rfl,Function.update_of_ne different ..,rfl⟩
  have holdsStill : (pool.world.put shard changed).holder shard = some task := holds
  have shown : view (pool.world.put shard changed) counted task shard = some (changed,counted shard) := by
    rw [view_holder holdsStill]
    exact congrArg (fun content => some (content,counted shard)) (Function.update_self ..)
  refine accounted.touched stands elsewhere (holder_alone holds) (holder_alone holdsStill) (shown ▸ sound) (fun unlocked => ?_) ?_
  · cases holds.symm.trans unlocked
  · rw [nothing]
    rfl

theorem Accounted.unlock (accounted : Accounted size pool counted owed) (stands : pool.tasks[task]? = some before)
    (held : view pool.world counted task shard = some (content,count)) (nothing : owed task = 0) (enough : size content ≤ count)
    (sound : Sound size (Function.update (view pool.world counted task) shard none) (count - size content) (next ())) :
    Accounted size ⟨pool.world.hold shard none,pool.tasks.set task (next ())⟩ (Function.update counted shard (size content))
      (Function.update owed task (count - size content)) := by
  obtain ⟨holds,rfl,rfl⟩ := holder_of_view held
  have elsewhere : Elsewhere pool.world (pool.world.hold shard none) counted (Function.update counted shard (size (pool.world.stores shard))) shard :=
    fun other different => ⟨Function.update_of_ne different ..,rfl,Function.update_of_ne different ..⟩
  have free : (pool.world.hold shard none).holder shard = none := Function.update_self ..
  have shown : view (pool.world.hold shard none) (Function.update counted shard (size (pool.world.stores shard))) task shard = none := by
    rw [view,free]
    rfl
  refine accounted.touched stands elsewhere (holder_alone holds) (fun other _ found => ?_) (shown ▸ sound) (fun _ => Function.update_self ..) ?_
  · cases free.symm.trans found
  · rw [nothing,Function.update_self]
    change pool.world.counter + _ = _
    omega

-- The counter is changed under the lock of a shard, by as much as what is counted of it.
theorem Accounted.recount (accounted : Accounted size pool counted owed) (stands : pool.tasks[task]? = some before)
    (held : view pool.world counted task shard = some (content,count)) (nothing : owed task = 0) {counter : Int} {amount : Nat}
    (changed : counter + count = pool.world.counter + amount)
    (sound : Sound size (Function.update (view pool.world counted task) shard (some (content,amount))) 0 (next ())) :
    Accounted size ⟨{ pool.world with counter },pool.tasks.set task (next ())⟩ (Function.update counted shard amount) (Function.update owed task 0) := by
  obtain ⟨holds,rfl,rfl⟩ := holder_of_view held
  have elsewhere : Elsewhere pool.world { pool.world with counter } counted (Function.update counted shard amount) shard :=
    fun other different => ⟨rfl,rfl,Function.update_of_ne different ..⟩
  have holdsStill : World.holder { pool.world with counter } shard = some task := holds
  have shown : view { pool.world with counter } (Function.update counted shard amount) task shard = some (pool.world.stores shard,amount) := by
    rw [view_holder holdsStill,Function.update_self]
  refine accounted.touched stands elsewhere (holder_alone holds) (holder_alone holdsStill) (shown ▸ sound) (fun unlocked => ?_) ?_
  · cases holds.symm.trans unlocked
  · rw [nothing,Function.update_self]
    exact changed

theorem Accounted.settle (accounted : Accounted size pool counted owed) (stands : pool.tasks[task]? = some before)
    {program : Task Shard Store Result} (sound : Sound size (view pool.world counted task) 0 program) :
    Accounted size ⟨{ pool.world with counter := pool.world.counter - owed task },pool.tasks.set task program⟩ counted (Function.update owed task 0) := by
  refine accounted.stepped stands sound (fun _ _ => rfl) accounted.free (fun _ _ holds => .inl holds) ?_
  change pool.world.counter - owed task + _ = _
  omega

theorem Accounted.whole (accounted : Accounted size pool counted owed) (stands : pool.tasks[task]? = some before) {after : World Shard Store}
    (held : ∀ shard, pool.world.holder shard = some task) (holder : after.holder = pool.world.holder) {recounted : Shard → Nat}
    {program : Task Shard Store Result} (sound : Sound size (fun shard => some (after.stores shard,recounted shard)) 0 program)
    (nothing : owed task = 0) (counter : after.counter + (∑ shard, counted shard : Nat) = pool.world.counter + (∑ shard, recounted shard : Nat)) :
    Accounted size ⟨after,pool.tasks.set task program⟩ recounted (Function.update owed task 0) := by
  have still : ∀ shard, after.holder shard = some task := fun shard => holder ▸ held shard
  refine accounted.stepped stands (view_held still ▸ sound) (fun other different => ?_) (fun shard unlocked => ?_)
    (fun shard other holds => .inl (holder ▸ holds)) ?_
  · rw [view_free held different,view_free still different]
  · cases (still shard).symm.trans unlocked
  · rw [nothing]
    exact counter

theorem Accounted.kept (accounted : Accounted size pool counted owed) (stands : pool.tasks[task]? = some before) (nothing : owed task = 0)
    {program : Task Shard Store Result} (sound : Sound size (view pool.world counted task) 0 program) :
    Accounted size ⟨pool.world,pool.tasks.set task program⟩ counted (Function.update owed task 0) := by
  apply accounted.stepped stands sound (fun _ _ => rfl) accounted.free (fun _ _ holds => .inl holds)
  rw [nothing]

end Calls

-- A step of a sound task, where no other task owes when it sets the counter.
theorem Accounted.call (accounted : Accounted size pool counted owed) {op : Op Shard Store} {next : op.Reply → Task Shard Store Result}
    {reply : op.Reply} {after : World Shard Store} (stands : pool.tasks[task]? = some (.call op next))
    (performed : perform task op pool.world = some (reply,after))
    (unowed : ∀ count, op = .store count → ∀ other < pool.tasks.length, other ≠ task → owed other = 0) :
    ∃ recounted left, Accounted size ⟨after,pool.tasks.set task (next reply)⟩ recounted (Function.update owed task left) := by
  have sound := accounted.sound task _ stands
  generalize nothing : owed task = debt at sound
  cases sound with
  | lock following =>
      obtain ⟨free,done⟩ := Option.ite_none_right_eq_some.mp performed
      cases done
      exact ⟨_,_,accounted.lock stands free nothing following⟩
  | edit held following =>
      obtain ⟨_,done⟩ := Option.ite_none_right_eq_some.mp performed
      cases done
      obtain ⟨_,rfl,_⟩ := holder_of_view held
      exact ⟨_,_,accounted.edit stands held nothing following⟩
  | replace all following =>
      obtain ⟨_,done⟩ := Option.ite_none_right_eq_some.mp performed
      cases done
      obtain ⟨rfl,rfl,held⟩ := view_all all
      refine ⟨_,_,accounted.whole stands held ?_ following nothing ?_⟩
      all_goals rfl
  | unlock held enough following =>
      obtain ⟨_,done⟩ := Option.ite_none_right_eq_some.mp performed
      cases done
      exact ⟨_,_,accounted.unlock stands held nothing enough following⟩
  | add held following =>
      cases performed
      exact ⟨_,_,accounted.recount stands held nothing (by push_cast; omega) following⟩
  | subtract held enough following =>
      cases performed
      exact ⟨_,_,accounted.recount stands held nothing (by omega) following⟩
  | settle held following =>
      cases performed
      subst nothing
      exact ⟨_,_,accounted.settle stands following⟩
  | store all whole following =>
      cases performed
      obtain ⟨rfl,rfl,held⟩ := view_all all
      have paid : ∑ other ∈ Finset.range pool.tasks.length, owed other = 0 := by
        apply Finset.sum_eq_zero
        intro other member
        by_cases same : other = task
        · rw [same,nothing]
        · exact unowed _ rfl other (Finset.mem_range.mp member) same
      refine ⟨_,_,accounted.whole stands held ?_ following nothing ?_⟩
      · rfl
      · change ((_ : Nat) : Int) + _ = _
        rw [whole,accounted.counter,paid]
        omega
  | load following =>
      cases performed
      exact ⟨_,_,accounted.kept stands nothing (following _)⟩
  | clock following =>
      cases performed
      exact ⟨_,_,accounted.kept stands nothing (following _)⟩

end Steps

section Runs
variable {Shard Store Input Result : Type} [DecidableEq Shard] [Fintype Shard] {size : Store → Nat} {pool : Pool Shard Store Result}
  {handler : Input → Task Shard Store Result}

def start (w : World Shard Store) : Pool Shard Store Result := ⟨w,[]⟩

-- A task that owes holds nothing and stands at its subtraction.
theorem Accounted.owing (accounted : Accounted size pool counted owed) (found : pool.tasks[task]? = some program) (owes : owed task ≠ 0) :
    Counted.owing pool task = true := by
  have sound := accounted.sound task program found
  generalize debt : owed task = amount at sound
  cases sound with
  | settle held following => simpa [Counted.owing,found] using fun shard => view_none (held shard)
  | _ => exact absurd debt owes

theorem Accounted.spawn (accounted : Accounted size pool counted owed) {program : Task Shard Store Result} (sound : Sound size (fun _ => none) 0 program) :
    Accounted size { pool with tasks := pool.tasks ++ [program] } counted (Function.update owed pool.tasks.length 0) := by
  have unheld : view pool.world counted pool.tasks.length = fun _ => none :=
    funext fun shard => if_neg fun holds => Nat.lt_irrefl _ (accounted.started shard _ holds)
  refine ⟨fun task found stands => ?_,accounted.free,fun shard task holds => ?_,?_⟩
  · by_cases last : task = pool.tasks.length
    · subst last
      rw [List.getElem?_concat_length] at stands
      cases stands
      rw [Function.update_self,unheld]
      exact sound
    · have inside : task < pool.tasks.length := by
        have within := (List.getElem?_eq_some_iff.mp stands).1
        rw [List.length_append,List.length_singleton] at within
        omega
      rw [List.getElem?_append_left inside] at stands
      rw [Function.update_of_ne last]
      exact accounted.sound task found stands
  · rw [List.length_append]
    exact Nat.lt_add_right _ (accounted.started shard task holds)
  · have same : ∑ task ∈ Finset.range pool.tasks.length, Function.update owed pool.tasks.length 0 task = ∑ task ∈ Finset.range pool.tasks.length, owed task :=
      Finset.sum_congr rfl fun task member => Function.update_of_ne (Nat.ne_of_lt (Finset.mem_range.mp member)) ..
    rw [List.length_append,List.length_singleton,Finset.sum_range_succ,Function.update_self,same]
    exact accounted.counter

theorem Accounted.advance (sound : ∀ input, Sound size (fun _ => none) 0 (handler input)) (accounted : Accounted size pool counted owed)
    {action : Action Input} (cleared : clear pool action = true) (stepped : Counted.advance handler pool action = some next) :
    ∃ recounted left, Accounted size next recounted left := by
  cases action with
  | spawn input =>
      cases stepped
      exact ⟨_,_,accounted.spawn (sound input)⟩
  | elapse duration =>
      cases stepped
      exact ⟨counted,owed,accounted.sound,accounted.free,accounted.started,accounted.counter⟩
  | step task =>
      simp only [Counted.advance] at stepped
      split at stepped
      · rename_i op following stands
        obtain ⟨⟨reply,after⟩,performed,rfl⟩ := Option.map_eq_some_iff.mp stepped
        have unowed : ∀ count, op = .store count → ∀ other < pool.tasks.length, other ≠ task → owed other = 0 := by
          intro count same other inside _
          subst same
          simp only [clear,stands,List.all_eq_true,List.mem_range,Bool.not_eq_true'] at cleared
          by_contra owes
          have owing := accounted.owing (List.getElem?_eq_getElem inside) owes
          cases owing.symm.trans (cleared other inside)
        obtain ⟨recounted,left,next⟩ := accounted.call stands performed unowed
        exact ⟨recounted,_,next⟩
      · cases stepped

-- From a quiet start every run keeps an account in which no task sets the counter over
-- the subtraction of another.
theorem run_accounted (sound : ∀ input, Sound size (fun _ => none) 0 (handler input)) {w : World Shard Store} (free : ∀ shard, w.holder shard = none)
    (counter : w.counter = total size w) (within : Machine.Within (Counted.advance handler) (fun pool action => clear pool action = true) (start w) actions)
    (ran : Machine.run (Counted.advance handler) (start w) actions = some next) : ∃ counted owed, Accounted size next counted owed := by
  refine Machine.run_preserves_within (fun pool => ∃ counted owed, Accounted size pool counted owed) ?_ within ?_ ran
  · intro pool action following cleared held stepped
    obtain ⟨counted,owed,accounted⟩ := held
    exact accounted.advance sound cleared stepped
  · refine ⟨fun shard => size (w.stores shard),fun _ => 0,fun _ _ found => (nomatch found),fun _ _ => rfl,fun shard task holds => ?_,?_⟩
    · cases (free shard).symm.trans holds
    · exact counter

-- A task that is done holds no lock and owes nothing.
theorem Sound.over {program : Task Shard Store Result} (sound : Sound size held debt program) (finished : program.outcome.isSome = true) :
    (∀ shard, held shard = none) ∧ debt = 0 := by
  cases sound with
  | done unheld => exact ⟨unheld,rfl⟩
  | fail unheld => exact ⟨unheld,rfl⟩
  | _ => cases finished

theorem Accounted.settled (accounted : Accounted size pool counted owed) (idle : quiet pool = true) : pool.world.counter = total size pool.world := by
  have finished : ∀ task program, pool.tasks[task]? = some program → (∀ shard, view pool.world counted task shard = none) ∧ owed task = 0 :=
    fun task program found => (accounted.sound task program found).over (List.all_eq_true.mp idle program (List.mem_of_getElem? found))
  have unlocked : ∀ shard, pool.world.holder shard = none := by
    intro shard
    cases holds : pool.world.holder shard with
    | none => rfl
    | some task =>
        have inside := accounted.started shard task holds
        exact absurd holds (view_none ((finished task _ (List.getElem?_eq_getElem inside)).1 shard))
  have counts : ∑ shard, counted shard = total size pool.world := Finset.sum_congr rfl fun shard _ => accounted.free shard (unlocked shard)
  have paid : ∑ task ∈ Finset.range pool.tasks.length, owed task = 0 := by
    apply Finset.sum_eq_zero
    intro task member
    exact (finished task _ (List.getElem?_eq_getElem (Finset.mem_range.mp member))).2
  rw [accounted.counter,counts,paid,Nat.add_zero]

-- No task is about to take away more than there is.
theorem Accounted.funded (accounted : Accounted size pool counted owed) : ∀ program ∈ pool.tasks, (takes program : Int) ≤ pool.world.counter := by
  intro program member
  obtain ⟨task,found⟩ := List.mem_iff_getElem?.mp member
  have inside := (List.getElem?_eq_some_iff.mp found).1
  have sound := accounted.sound task program found
  rw [accounted.counter]
  generalize debt : owed task = amount at sound
  cases sound with
  | subtract held enough _ =>
      obtain ⟨_,_,same⟩ := holder_of_view held
      rw [← same] at enough
      have among := enough.trans (Finset.single_le_sum (f := counted) (fun _ _ => Nat.zero_le _) (Finset.mem_univ _))
      simp only [takes]
      omega
  | settle _ _ =>
      have among := Finset.single_le_sum (f := owed) (fun _ _ => Nat.zero_le _) (Finset.mem_range.mpr inside)
      simp only [takes]
      omega
  | _ => exact Int.natCast_nonneg _

end Runs
def ask {Shard Store : Type} (op : Op Shard Store) : Task Shard Store op.Reply := Program.perform op

-- The guard of a lock and its scope.
def withLock {Shard Store Result : Type} (shard : Shard) (body : Task Shard Store Result) : Task Shard Store Result := do
  ask (.lock shard)
  let result ← body
  ask (.unlock shard)
  return result

def lockAll {Shard Store : Type} : List Shard → Task Shard Store Unit
  | [] => return ()
  | shard :: rest => do
    ask (.lock shard)
    lockAll rest

def unlockAll {Shard Store : Type} : List Shard → Task Shard Store Unit
  | [] => return ()
  | shard :: rest => do
    ask (.unlock shard)
    unlockAll rest

section Holding
variable {Shard Store : Type} [DecidableEq Shard]

def holding (shard : Shard) (content : Store) (counted : Nat) : Shard → Option (Store × Nat) :=
  Function.update (fun _ => none) shard (some (content,counted))

@[simp] theorem holding_self (shard : Shard) (content : Store) (counted : Nat) : holding shard content counted shard = some (content,counted) :=
  Function.update_self ..

@[simp] theorem update_holding (shard : Shard) (content : Store) (counted : Nat) (held : Option (Store × Nat)) :
    Function.update (holding shard content counted) shard held = Function.update (fun _ => none) shard held := Function.update_idem ..

theorem update_free (shard : Shard) : Function.update (fun _ : Shard => (none : Option (Store × Nat))) shard none = fun _ => none :=
  Function.update_eq_self shard fun _ : Shard => (none : Option (Store × Nat))

end Holding

section Rules
variable {Shard Store : Type} [DecidableEq Shard] [Fintype Shard] (size : Store → Nat)

-- A part of a task that begins and ends without a lock or a debt.
def Clean (program : Task Shard Store Result) : Prop :=
  ∀ (Final : Type) (next : Result → Task Shard Store Final), (∀ result, Sound size (fun _ => none) 0 (next result)) →
    Sound size (fun _ => none) 0 (program >>= next)

-- A part of a task that begins and ends with the lock of one shard, and all of the shard counted.
def Keeps (shard : Shard) (body : Task Shard Store Result) : Prop :=
  ∀ (Final : Type) (next : Result → Task Shard Store Final) content,
    (∀ content result, Sound size (holding shard content (size content)) 0 (next result)) →
    Sound size (holding shard content (size content)) 0 (body >>= next)

variable {size : Store → Nat}

theorem clean_return (result : Result) : Clean size (return result : Task Shard Store Result) := fun _ _ rest => rest result

theorem clean_fail (error : String) : Clean size (.fail error : Task Shard Store Result) := fun _ _ _ => .fail fun _ => rfl

theorem clean_bind {program : Task Shard Store First} {next : First → Task Shard Store Second} (first : Clean size program)
    (rest : ∀ result, Clean size (next result)) : Clean size (program >>= next) := by
  intro Final following sound
  rw [bind_assoc]
  exact first Final _ fun result => rest result Final following sound

theorem clean_lift (value : Except String Result) : Clean size (Program.lift value : Task Shard Store Result) := by
  cases value with
  | ok result => exact clean_return result
  | error error => exact clean_fail error

theorem clean_clock : Clean size (ask .clock : Task Shard Store Nat) := fun _ _ rest => .clock rest

theorem clean_load : Clean size (ask .load : Task Shard Store Nat) := fun _ _ rest => .load rest

theorem clean_withLock {body : Task Shard Store Result} (keeps : Keeps size shard body) : Clean size (withLock shard body) := by
  intro Final next rest
  refine .lock fun content => ?_
  have inside := keeps Final (fun result => ask (.unlock shard) >>= fun _ => next result) content fun content result =>
    .unlock (holding_self shard content (size content)) (Nat.le_refl _) (by
      rw [update_holding,update_free,Nat.sub_self]
      exact rest result)
  have same : (body >>= fun result => ask (.unlock shard) >>= fun _ => return result) >>= next =
      body >>= fun result => ask (.unlock shard) >>= fun _ => next result := by
    rw [bind_assoc]
    rfl
  have goal : Sound size (holding shard content (size content)) 0 ((body >>= fun result => ask (.unlock shard) >>= fun _ => return result) >>= next) := by
    rw [same]
    exact inside
  exact goal

theorem keeps_return (shard : Shard) (result : Result) : Keeps size shard (return result : Task Shard Store Result) := fun _ _ content rest => rest content result

theorem keeps_clock (shard : Shard) : Keeps size shard (ask .clock : Task Shard Store Nat) := fun _ _ content rest => .clock (rest content)

theorem keeps_bind {program : Task Shard Store First} {next : First → Task Shard Store Second} (first : Keeps size shard program)
    (rest : ∀ result, Keeps size shard (next result)) : Keeps size shard (program >>= next) := by
  intro Final following content sound
  rw [bind_assoc]
  exact first Final _ content fun content result => rest result Final following content sound

-- The holder of one shard settles with the counter what its edit put in or took out.
theorem keeps_edit {change : Store → Store} {settle : Store → Task Shard Store Unit} {result : Store → Result}
    (settles : ∀ (Final : Type) (next : Unit → Task Shard Store Final) content,
      Sound size (holding shard (change content) (size (change content))) 0 (next ()) →
      Sound size (holding shard (change content) (size content)) 0 (settle content >>= next)) :
    Keeps size shard (ask (.edit shard change) >>= fun content => settle content >>= fun _ => return result content) := by
  intro Final next content rest
  refine .edit (holding_self shard content (size content)) ?_
  rw [update_holding]
  have settled := settles Final (fun _ => next (result content)) content (rest (change content) (result content))
  have same : (settle content >>= fun _ => return result content) >>= next = settle content >>= fun _ => next (result content) := by
    rw [bind_assoc]
    rfl
  have goal : Sound size (holding shard (change content) (size content)) 0 ((settle content >>= fun _ => return result content) >>= next) := by
    rw [same]
    exact settled
  exact goal

theorem sound_lockAll {shards : List Shard} {Final : Type} {next : Unit → Task Shard Store Final}
    (rest : ∀ after : Shard → Option (Store × Nat), (∀ shard ∈ shards, ∃ content, after shard = some (content,size content)) →
      (∀ shard ∉ shards, after shard = held shard) → Sound size after 0 (next ())) : Sound size held 0 (lockAll shards >>= next) := by
  induction shards generalizing held with
  | nil => exact rest held (List.forall_mem_nil _) fun _ _ => rfl
  | cons shard shards ih =>
      refine .lock fun content => ih fun after locked others => rest after ?_ ?_
      · intro other member
        by_cases later : other ∈ shards
        · exact locked other later
        · have same : other = shard := (List.mem_cons.mp member).resolve_right later
          rw [others other later,same,Function.update_self]
          exact ⟨content,rfl⟩
      · intro other absent
        obtain ⟨different,later⟩ := not_or.mp (List.mem_cons.not.mp absent)
        rw [others other later,Function.update_of_ne different]

theorem sound_unlockAll {shards : List Shard} (nodup : shards.Nodup) {Final : Type} {next : Unit → Task Shard Store Final}
    (locked : ∀ shard ∈ shards, ∃ content, held shard = some (content,size content)) (others : ∀ shard ∉ shards, held shard = none)
    (rest : Sound size (fun _ => none) 0 (next ())) : Sound size held 0 (unlockAll shards >>= next) := by
  induction shards generalizing held with
  | nil =>
      have free : held = fun _ => none := funext fun shard => others shard List.not_mem_nil
      rw [free]
      exact rest
  | cons shard shards ih =>
      obtain ⟨absent,nodup⟩ := List.nodup_cons.mp nodup
      obtain ⟨content,here⟩ := locked shard List.mem_cons_self
      refine .unlock here (Nat.le_refl _) ?_
      rw [Nat.sub_self]
      refine ih nodup (fun other member => ?_) fun other later => ?_
      · have different : other ≠ shard := fun same => absent (by rwa [same] at member)
        rw [Function.update_of_ne different]
        exact locked other (List.mem_cons_of_mem shard member)
      · by_cases same : other = shard
        · rw [same,Function.update_self]
        · rw [Function.update_of_ne same]
          exact others other fun member => later ((List.mem_cons.mp member).resolve_left same)

theorem Clean.sound {program : Task Shard Store Result} (clean : Clean size program) : Sound size (fun _ => none) 0 (program >>= fun _ => (return () : Task Shard Store Unit)) :=
  clean Unit _ fun _ => .done fun _ => rfl

end Rules
end Sigproxy.Library.Counted
