import Mathlib.Data.List.Induction
import Sigproxy.Library.Machine

namespace Sigproxy.Library

-- A task is the tree of the calls it makes on a shared world: a call is one
-- atomic section, and what it answers decides how the task goes on.
inductive Program {Op : Type} (Reply : Op → Type) (Result : Type) where
  | done (result : Result)
  | fail (error : String)
  | call (op : Op) (next : Reply op → Program Reply Result)

structure Event {Op : Type} (Reply : Op → Type) where
  op : Op
  reply : Reply op

section Throughout
variable {Item : Type}

-- Every item of a list stands in the given relation to what precedes it.
def Throughout (holds : List Item → Item → Prop) (items : List Item) : Prop :=
  ∀ before item after, items = before ++ item :: after → holds before item

theorem throughout_nil (holds : List Item → Item → Prop) : Throughout holds [] := by
  intro before item after split
  simp at split

theorem throughout_snoc {holds : List Item → Item → Prop} :
    Throughout holds (items ++ [item]) ↔ Throughout holds items ∧ holds items item := by
  constructor
  · intro all
    refine ⟨fun before earlier after split => all before earlier (after ++ [item]) ?_,all items item [] rfl⟩
    rw [split,List.append_assoc,List.cons_append]
  · intro both before found after split
    rcases both with ⟨earlier,last⟩
    induction after using List.reverseRecOn with
    | nil =>
        obtain ⟨rfl,same⟩ := List.append_inj' split rfl
        cases same
        exact last
    | append_singleton after final _ =>
        rw [← List.cons_append,← List.append_assoc] at split
        exact earlier before found after (List.append_inj' split rfl).1

-- Of two items that are not the same, one stands before the other.
theorem Throughout.pair {holds : List Item → Item → Prop} (all : Throughout holds items) (first : one ∈ items)
    (second : two ∈ items) :
    one = two ∨ (∃ before, one ∈ before ∧ holds before two) ∨ ∃ before, two ∈ before ∧ holds before one := by
  obtain ⟨before,after,rfl⟩ := List.append_of_mem first
  rcases List.mem_append.mp second with earlier | later
  · exact .inr (.inr ⟨before,earlier,all before one after rfl⟩)
  · rcases List.mem_cons.mp later with rfl | further
    · exact .inl rfl
    · obtain ⟨between,rest,rfl⟩ := List.append_of_mem further
      have held := all (before ++ one :: between) two rest (by simp)
      exact .inr (.inl ⟨before ++ one :: between,by simp,held⟩)

end Throughout

namespace Program
variable {Op : Type} {Reply : Op → Type}

def bind : Program Reply First → (First → Program Reply Second) → Program Reply Second
  | .done result,next => next result
  | .fail error,_ => .fail error
  | .call op rest,next => .call op fun reply => (rest reply).bind next

instance : Monad (Program Reply) where
  pure := .done
  bind := bind

instance : LawfulMonad (Program Reply) := by
  refine LawfulMonad.mk' _ (fun program => ?_) (fun _ _ => rfl) fun program first second => ?_
  · induction program with
    | done result => rfl
    | fail error => rfl
    | call op rest ih => exact congrArg (Program.call op) (funext ih)
  · induction program with
    | done result => rfl
    | fail error => rfl
    | call op rest ih => exact congrArg (Program.call op) (funext ih)

def perform (op : Op) : Program Reply (Reply op) := .call op .done

-- `?` on a value at hand, and the arms of a match on the result of a task.
def lift : Except String Result → Program Reply Result
  | .ok result => .done result
  | .error error => .fail error

def attempt : Program Reply Result → Program Reply (Except String Result)
  | .done result => .done (.ok result)
  | .fail error => .done (.error error)
  | .call op rest => .call op fun reply => (rest reply).attempt

-- Along every path of a task: `admits` relates each event to the events before
-- it, and `ends` holds of the whole path and the outcome it leads to.
def Along (admits : List (Event Reply) → Event Reply → Prop) (ends : List (Event Reply) → Except String Result → Prop) :
    List (Event Reply) → Program Reply Result → Prop
  | past,.done result => ends past (.ok result)
  | past,.fail error => ends past (.error error)
  | past,.call op next => ∀ reply, admits past ⟨op,reply⟩ ∧ (next reply).Along admits ends (past ++ [⟨op,reply⟩])

def outcome : Program Reply Result → Option (Except String Result)
  | .done result => some (.ok result)
  | .fail error => some (.error error)
  | .call .. => none

section Rules
variable {admits : List (Event Reply) → Event Reply → Prop}

theorem along_bind (middle : List (Event Reply) → Except String First → Prop)
    {ends : List (Event Reply) → Except String Second → Prop} {next : First → Program Reply Second}
    {program : Program Reply First} (first : program.Along admits middle past)
    (rest : ∀ past result, middle past (.ok result) → (next result).Along admits ends past)
    (failed : ∀ past error, middle past (.error error) → ends past (.error error)) :
    (program >>= next).Along admits ends past := by
  induction program generalizing past with
  | done result => exact rest past result first
  | fail error => exact failed past error first
  | call op following ih => exact fun reply => ⟨(first reply).1,ih reply (first reply).2⟩

theorem along_mono {admits' : List (Event Reply) → Event Reply → Prop} {ends ends' : List (Event Reply) → Except String Result → Prop}
    {program : Program Reply Result} (along : program.Along admits ends past)
    (admitted : ∀ past event, admits past event → admits' past event)
    (ended : ∀ past outcome, ends past outcome → ends' past outcome) : program.Along admits' ends' past := by
  induction program generalizing past with
  | done result => exact ended past _ along
  | fail error => exact ended past _ along
  | call op following ih => exact fun reply => ⟨admitted past _ (along reply).1,ih reply (along reply).2⟩

theorem along_both {admits' : List (Event Reply) → Event Reply → Prop} {ends ends' : List (Event Reply) → Except String Result → Prop}
    {program : Program Reply Result} (first : program.Along admits ends past) (second : program.Along admits' ends' past) :
    program.Along (fun past event => admits past event ∧ admits' past event)
      (fun past outcome => ends past outcome ∧ ends' past outcome) past := by
  induction program generalizing past with
  | done result => exact ⟨first,second⟩
  | fail error => exact ⟨first,second⟩
  | call op following ih =>
      intro reply
      exact ⟨⟨(first reply).1,(second reply).1⟩,ih reply (first reply).2 (second reply).2⟩

theorem along_call {ends : List (Event Reply) → Except String Result → Prop} {op : Op}
    {next : Reply op → Program Reply Result}
    (rest : ∀ reply, admits past ⟨op,reply⟩ ∧ (next reply).Along admits ends (past ++ [⟨op,reply⟩])) :
    (perform op >>= next).Along admits ends past := rest

theorem along_attempt {ends : List (Event Reply) → Except String (Except String Result) → Prop}
    {program : Program Reply Result} (along : program.Along admits (fun past outcome => ends past (.ok outcome)) past) :
    program.attempt.Along admits ends past := by
  induction program generalizing past with
  | done result => exact along
  | fail error => exact along
  | call op following ih => exact fun reply => ⟨(along reply).1,ih reply (along reply).2⟩

theorem along_lift {ends : List (Event Reply) → Except String Second → Prop} {value : Except String First}
    {next : First → Program Reply Second} (rest : ∀ result, value = .ok result → (next result).Along admits ends past)
    (failed : ∀ error, value = .error error → ends past (.error error)) : (lift value >>= next).Along admits ends past := by
  cases value with
  | ok result => exact rest result rfl
  | error error => exact failed error rfl

-- What any call leaves as it is holds at the end.
theorem along_kept (kept : List (Event Reply) → Prop) {ends : List (Event Reply) → Except String Result → Prop}
    (program : Program Reply Result) (keeps : ∀ past event, kept past → kept (past ++ [event])) (start : kept past)
    (ended : ∀ past outcome, kept past → ends past outcome) : program.Along (fun _ _ => True) ends past := by
  induction program generalizing past with
  | done result => exact ended past _ start
  | fail error => exact ended past _ start
  | call op following ih => exact fun reply => ⟨trivial,ih reply (keeps past ⟨op,reply⟩ start)⟩

-- A path of a task with its outcome.
inductive Trace : Program Reply Result → List (Event Reply) → Except String Result → Prop where
  | done : Trace (.done result) [] (.ok result)
  | fail : Trace (.fail error) [] (.error error)
  | call {op : Op} {reply : Reply op} {next : Reply op → Program Reply Result} {result : Except String Result} :
    Trace (next reply) events result → Trace (.call op next) (⟨op,reply⟩ :: events) result

theorem along_trace {ends : List (Event Reply) → Except String Result → Prop} {program : Program Reply Result}
    (all : ∀ events outcome, program.Trace events outcome → ends (past ++ events) outcome) : program.Along (fun _ _ => True) ends past := by
  induction program generalizing past with
  | done result => exact List.append_nil past ▸ all [] _ .done
  | fail error => exact List.append_nil past ▸ all [] _ .fail
  | call op following ih =>
      refine fun reply => ⟨trivial,ih reply fun events outcome traced => ?_⟩
      simpa using all _ outcome (.call traced)

-- The path of a task that goes on with another goes through both, or fails in the first.
theorem trace_bind {program : Program Reply First} {next : First → Program Reply Second} {outcome : Except String Second}
    (traced : (program >>= next).Trace events outcome) :
    (∃ error, program.Trace events (.error error) ∧ outcome = .error error) ∨
      ∃ early late result, events = early ++ late ∧ program.Trace early (.ok result) ∧ (next result).Trace late outcome := by
  induction program generalizing events with
  | done result => exact .inr ⟨[],events,result,rfl,.done,traced⟩
  | fail error =>
      cases traced
      exact .inl ⟨error,.fail,rfl⟩
  | call op following ih =>
      cases traced with
      | call traced =>
          obtain ⟨error,failed,rfl⟩ | ⟨early,late,result,rfl,first,rest⟩ := ih _ traced
          · exact .inl ⟨error,.call failed,rfl⟩
          · exact .inr ⟨_ :: early,late,result,rfl,.call first,rest⟩

theorem along_outcome {ends : List (Event Reply) → Except String Result → Prop} {program : Program Reply Result}
    (along : program.Along admits ends past) (finished : program.outcome = some result) : ends past result := by
  cases program with
  | done value => cases finished; exact along
  | fail error => cases finished; exact along
  | call op next => cases finished

end Rules

-- The calls a task may make at all.
def Uses (allowed : Op → Prop) : Program Reply Result → Prop
  | .done _ => True
  | .fail _ => True
  | .call op next => allowed op ∧ ∀ reply, (next reply).Uses allowed

section Uses
variable {allowed : Op → Prop}

theorem uses_fail (error : String) : (.fail error : Program Reply Result).Uses allowed := trivial

theorem uses_perform {op : Op} (admitted : allowed op) : (perform op : Program Reply (Reply op)).Uses allowed :=
  ⟨admitted,fun _ => trivial⟩

theorem uses_lift (value : Except String Result) : (lift value : Program Reply Result).Uses allowed := by
  cases value <;> trivial

theorem uses_bind {program : Program Reply First} {next : First → Program Reply Second} (first : program.Uses allowed)
    (rest : ∀ result, (next result).Uses allowed) : (program >>= next).Uses allowed := by
  induction program with
  | done result => exact rest result
  | fail error => trivial
  | call op following ih => exact ⟨first.1,fun reply => ih reply (first.2 reply)⟩

theorem uses_call {op : Op} {next : Reply op → Program Reply Result} (admitted : allowed op)
    (rest : ∀ reply, (next reply).Uses allowed) : (perform op >>= next).Uses allowed :=
  uses_bind (uses_perform admitted) rest

theorem Uses.mono {wider : Op → Prop} {program : Program Reply Result} (uses : program.Uses allowed)
    (widens : ∀ op, allowed op → wider op) : program.Uses wider := by
  induction program with
  | done result => trivial
  | fail error => trivial
  | call op following ih => exact ⟨widens op uses.1,fun reply => ih reply (uses.2 reply)⟩

-- A part of a task that makes only such calls keeps what they all keep.
theorem along_uses {admits : List (Event Reply) → Event Reply → Prop} {kept : List (Event Reply) → Prop}
    {program : Program Reply Result} (uses : program.Uses allowed)
    (admitted : ∀ past event, kept past → allowed event.op → admits past event)
    (keeps : ∀ past event, kept past → allowed event.op → kept (past ++ [event])) (start : kept past) :
    program.Along admits (fun past _ => kept past) past := by
  induction program generalizing past with
  | done result => exact start
  | fail error => exact start
  | call op following ih =>
      intro reply
      exact ⟨admitted past ⟨op,reply⟩ start uses.1,ih reply (uses.2 reply) (keeps past ⟨op,reply⟩ start uses.1)⟩

-- Such calls only, and no error of its own.
def Sure (allowed : Op → Prop) : Program Reply Result → Prop
  | .done _ => True
  | .fail _ => False
  | .call op next => allowed op ∧ ∀ reply, (next reply).Sure allowed

theorem sure_perform {op : Op} (admitted : allowed op) : (perform op : Program Reply (Reply op)).Sure allowed :=
  ⟨admitted,fun _ => trivial⟩

theorem sure_bind {program : Program Reply First} {next : First → Program Reply Second} (first : program.Sure allowed)
    (rest : ∀ result, (next result).Sure allowed) : (program >>= next).Sure allowed := by
  induction program with
  | done result => exact rest result
  | fail error => exact first.elim
  | call op following ih => exact ⟨first.1,fun reply => ih reply (first.2 reply)⟩

theorem trace_sure {program : Program Reply Result} {outcome : Except String Result} (sure : program.Sure allowed) (traced : program.Trace events outcome) :
    ∃ result, outcome = .ok result := by
  induction traced with
  | done => exact ⟨_,rfl⟩
  | fail => exact sure.elim
  | call _ ih => exact ih (sure.2 _)

theorem Sure.uses {program : Program Reply Result} (sure : program.Sure allowed) : program.Uses allowed := by
  induction program with
  | done result => trivial
  | fail error => trivial
  | call op following ih => exact ⟨sure.1,fun reply => ih reply (sure.2 reply)⟩

theorem along_sure {admits : List (Event Reply) → Event Reply → Prop} {kept : List (Event Reply) → Prop}
    {ends : List (Event Reply) → Except String Second → Prop} {program : Program Reply First} {next : First → Program Reply Second}
    (sure : program.Sure allowed) (admitted : ∀ past event, kept past → allowed event.op → admits past event)
    (keeps : ∀ past event, kept past → allowed event.op → kept (past ++ [event])) (start : kept past)
    (rest : ∀ past result, kept past → (next result).Along admits ends past) : (program >>= next).Along admits ends past := by
  induction program generalizing past with
  | done result => exact rest past result start
  | fail error => exact sure.elim
  | call op following ih =>
      intro reply
      exact ⟨admitted past ⟨op,reply⟩ start sure.1,ih reply (sure.2 reply) (keeps past ⟨op,reply⟩ start sure.1)⟩

end Uses
end Program

-- Tasks that share a world. The scheduler picks the task, the surroundings answer
-- what the world leaves open, and the history keeps every call with its reply.
structure System {Op : Type} (Reply : Op → Type) (Input World Choice Change Result : Type) where
  handler : Input → Program Reply Result
  perform : (op : Op) → Choice → World → Reply op × World
  clock : World → Nat
  change : Change → World → World

structure Entry {Op : Type} (Reply : Op → Type) where
  task : Nat
  time : Nat
  event : Event Reply

structure Pool {Op : Type} (Reply : Op → Type) (Input World Result : Type) where
  inputs : List Input
  tasks : List (Program Reply Result)
  world : World
  history : List (Entry Reply)

namespace System
variable {Op : Type} {Reply : Op → Type} {Input World Choice Change Result : Type}

inductive Action (Input Choice Change : Type) where
  | spawn (input : Input)
  | step (task : Nat) (choice : Choice)
  | change (change : Change)

def start (world : World) : Pool Reply Input World Result := ⟨[],[],world,[]⟩

def advance (system : System Reply Input World Choice Change Result) (pool : Pool Reply Input World Result) :
    Action Input Choice Change → Option (Pool Reply Input World Result)
  | .spawn input => some {pool with inputs:=pool.inputs ++ [input],tasks:=pool.tasks ++ [system.handler input]}
  | .change change => some {pool with world:=system.change change pool.world}
  | .step task choice =>
    match pool.tasks[task]? with
    | some (.call op next) =>
      let (reply,world) := system.perform op choice pool.world
      let entry : Entry Reply := ⟨task,system.clock pool.world,⟨op,reply⟩⟩
      some {pool with tasks:=pool.tasks.set task (next reply),world:=world,history:=pool.history ++ [entry]}
    | _ => none

variable {system : System Reply Input World Choice Change Result} {pool next : Pool Reply Input World Result}

theorem advance_step (stepped : system.advance pool (.step task choice) = some next) :
    ∃ op rest, pool.tasks[task]? = some (.call op rest) ∧
      let result := system.perform op choice pool.world
      next = {pool with
        tasks:=pool.tasks.set task (rest result.1)
        world:=result.2
        history:=pool.history ++ [⟨task,system.clock pool.world,⟨op,result.1⟩⟩]} := by
  simp only [advance] at stepped
  split at stepped
  · rename_i op rest found
    exact ⟨op,rest,found,(Option.some.inj stepped).symm⟩
  · cases stepped

-- What one task has done so far.
def own (task : Nat) (history : List (Entry Reply)) : List (Event Reply) :=
  (history.filter fun entry => decide (entry.task = task)).map Entry.event

theorem own_append (task : Nat) (first second : List (Entry Reply)) :
    own task (first ++ second) = own task first ++ own task second := by
  simp [own]

theorem own_cons_self (entry : Entry Reply) (rest : List (Entry Reply)) :
    own entry.task (entry :: rest) = entry.event :: own entry.task rest := by
  simp [own]

theorem own_snoc_self (task time : Nat) (event : Event Reply) (history : List (Entry Reply)) :
    own task (history ++ [⟨task,time,event⟩]) = own task history ++ [event] := by
  simp [own]

theorem own_snoc_other (other : task ≠ mine) (time : Nat) (event : Event Reply) (history : List (Entry Reply)) :
    own mine (history ++ [⟨task,time,event⟩]) = own mine history := by
  simp [own,other]

theorem mem_own {event : Event Reply} :
    event ∈ own task history ↔ ∃ entry ∈ history, entry.task = task ∧ entry.event = event := by
  simp [own,and_assoc]

-- An event of a task is the event of some entry of the history.
theorem own_split {history : List (Entry Reply)} (split : own task history = earlier ++ event :: later) :
    ∃ before entry after, history = before ++ entry :: after ∧ entry.task = task ∧ entry.event = event ∧
      own task before = earlier ∧ own task after = later := by
  obtain ⟨first,rest,parts,isEarlier,isRest⟩ := List.map_eq_append_iff.mp split
  obtain ⟨entry,others,rfl,rfl,isLater⟩ := List.map_eq_cons_iff.mp isRest
  obtain ⟨before,tail,rfl,keepsFirst,keepsRest⟩ := List.filter_eq_append_iff.mp parts
  obtain ⟨passed,after,rfl,skipped,ofTask,keepsLater⟩ := List.filter_eq_cons_iff.mp keepsRest
  have silent : passed.filter (fun entry => decide (entry.task = task)) = [] :=
    List.filter_eq_nil_iff.mpr fun other member => skipped other member
  refine ⟨before ++ passed,entry,after,by simp,of_decide_eq_true ofTask,rfl,?_,?_⟩
  · simp only [own,List.filter_append,keepsFirst,silent,List.append_nil]
    exact isEarlier
  · simp only [own,keepsLater]
    exact isLater

-- The call that a task stands before.
def nextOp (pool : Pool Reply Input World Result) (task : Nat) : Option Op :=
  match pool.tasks[task]? with
  | some (.call op _) => some op
  | _ => none

theorem nextOp_outcome {program : Program Reply Result} (stands : pool.tasks[task]? = some program)
    (idle : nextOp pool task = none) : ∃ outcome, program.outcome = some outcome := by
  cases program with
  | done result => exact ⟨.ok result,rfl⟩
  | fail error => exact ⟨.error error,rfl⟩
  | call op next => simp [nextOp,stands] at idle

section Tracking
variable (system)

-- Each task stands on a path of its handler: the path so far has been admitted,
-- and every way on from here is.
structure Tracked (admits : Input → List (Event Reply) → Event Reply → Prop)
    (ends : Input → List (Event Reply) → Except String Result → Prop) (pool : Pool Reply Input World Result) : Prop where
  sized : pool.tasks.length = pool.inputs.length
  started : ∀ entry ∈ pool.history, entry.task < pool.inputs.length
  path : ∀ (task : Nat) input rest, pool.inputs[task]? = some input → pool.tasks[task]? = some rest →
    rest.Along (admits input) (ends input) (own task pool.history)
  past : ∀ (task : Nat) input, pool.inputs[task]? = some input → Throughout (admits input) (own task pool.history)

end Tracking

variable {admits : Input → List (Event Reply) → Event Reply → Prop}
  {ends : Input → List (Event Reply) → Except String Result → Prop}

theorem start_tracked (world : World) : Tracked admits ends (start world : Pool Reply Input World Result) where
  sized := rfl
  started := by simp [start]
  path := by simp [start]
  past := by simp [start]

theorem own_unstarted (tracked : Tracked admits ends pool) (beyond : pool.inputs.length ≤ task) :
    own task pool.history = [] := by
  rw [own,List.map_eq_nil_iff,List.filter_eq_nil_iff]
  intro entry member same
  have inside := tracked.started entry member
  rw [of_decide_eq_true same] at inside
  omega

theorem spawn_tracked (tracked : Tracked admits ends pool)
    (followed : (system.handler input).Along (admits input) (ends input) [])
    (stepped : system.advance pool (.spawn input) = some next) : Tracked admits ends next := by
  cases stepped
  refine ⟨by simp [tracked.sized],?_,?_,?_⟩
  · intro entry member
    have inside := tracked.started entry member
    simp only [List.length_append,List.length_singleton]
    omega
  · intro task given rest hasInput hasTask
    rcases Nat.lt_trichotomy task pool.inputs.length with inside | same | beyond
    · rw [List.getElem?_append_left inside] at hasInput
      rw [List.getElem?_append_left (by rw [tracked.sized]; exact inside)] at hasTask
      exact tracked.path task given rest hasInput hasTask
    · subst same
      rw [List.getElem?_concat_length] at hasInput
      rw [← tracked.sized,List.getElem?_concat_length] at hasTask
      cases hasInput
      cases hasTask
      have unstarted := own_unstarted tracked (Nat.le_refl pool.inputs.length)
      simp only [unstarted]
      exact followed
    · rw [List.getElem?_eq_none (by simp; omega)] at hasInput
      cases hasInput
  · intro task given hasInput
    rcases Nat.lt_or_ge task pool.inputs.length with inside | beyond
    · rw [List.getElem?_append_left inside] at hasInput
      exact tracked.past task given hasInput
    · show Throughout (admits given) (own task pool.history)
      rw [own_unstarted tracked beyond]
      exact throughout_nil _

theorem step_tracked (tracked : Tracked admits ends pool)
    (stepped : system.advance pool (.step task choice) = some next) : Tracked admits ends next := by
  obtain ⟨op,rest,found,rfl⟩ := advance_step stepped
  have inside : task < pool.tasks.length := (List.getElem?_eq_some_iff.mp found).1
  refine ⟨by simp [tracked.sized],?_,?_,?_⟩
  · intro entry member
    rcases List.mem_append.mp member with earlier | last
    · exact tracked.started entry earlier
    · cases List.mem_singleton.mp last
      rw [← tracked.sized]
      exact inside
  · intro other given following hasInput hasTask
    by_cases same : task = other
    · subst same
      rw [List.getElem?_set_self inside] at hasTask
      cases hasTask
      have here := tracked.path task given _ hasInput found
      simp only [own_snoc_self]
      exact (here _).2
    · rw [List.getElem?_set_ne same] at hasTask
      simp only [own_snoc_other same]
      exact tracked.path other given following hasInput hasTask
  · intro other given hasInput
    by_cases same : task = other
    · subst same
      have here := tracked.path task given _ hasInput found
      simp only [own_snoc_self]
      exact throughout_snoc.mpr ⟨tracked.past task given hasInput,(here _).1⟩
    · simp only [own_snoc_other same]
      exact tracked.past other given hasInput

theorem run_tracked {actions : List (Action Input Choice Change)} {world : World}
    (followed : ∀ input, (system.handler input).Along (admits input) (ends input) [])
    (ran : Machine.run system.advance (start world) actions = some next) : Tracked admits ends next := by
  refine Machine.run_preserves (Tracked admits ends) ?_ (start_tracked world) ran
  intro pool action following tracked stepped
  cases action with
  | spawn input => exact spawn_tracked tracked (followed input) stepped
  | step task choice => exact step_tracked tracked stepped
  | change change =>
      cases stepped
      exact ⟨tracked.sized,tracked.started,tracked.path,tracked.past⟩

-- A run adds to the inputs and to the history.
theorem run_grows {actions : List (Action Input Choice Change)} (ran : Machine.run system.advance pool actions = some next) :
    pool.inputs <+: next.inputs ∧ pool.history <+: next.history := by
  refine Machine.run_preserves (fun reached => pool.inputs <+: reached.inputs ∧ pool.history <+: reached.history) ?_
    ⟨List.prefix_rfl,List.prefix_rfl⟩ ran
  intro before action after both stepped
  rcases both with ⟨inputs,history⟩
  cases action with
  | spawn input =>
      cases stepped
      exact ⟨inputs.trans (List.prefix_append _ _),history⟩
  | change change =>
      cases stepped
      exact ⟨inputs,history⟩
  | step task choice =>
      obtain ⟨op,rest,_,rfl⟩ := advance_step stepped
      exact ⟨inputs,history.trans (List.prefix_append _ _)⟩

-- Every entry of the history was made by a step of the run.
theorem run_recorded {actions : List (Action Input Choice Change)} {world : World} {entry : Entry Reply}
    (ran : Machine.run system.advance (start world) actions = some next) (split : next.history = before ++ entry :: after) :
    ∃ earlier choice later reached, actions = earlier ++ .step entry.task choice :: later ∧
      Machine.run system.advance (start world) earlier = some reached ∧ reached.history = before ∧
      nextOp reached entry.task = some entry.event.op ∧ entry.time = system.clock reached.world ∧
      entry.event.reply = (system.perform entry.event.op choice reached.world).1 := by
  induction actions using List.reverseRecOn generalizing next after with
  | nil =>
      cases ran
      simp [start] at split
  | append_singleton actions last ih =>
      obtain ⟨middle,reached,stepped⟩ := Machine.run_append.mp ran
      obtain ⟨_,taken,done⟩ := Machine.run_cons.mp stepped
      cases done
      have extended {rest : List (Entry Reply)} (earlier : middle.history = before ++ entry :: rest) :
          ∃ earlier choice later pool, actions ++ [last] = earlier ++ .step entry.task choice :: later ∧
            Machine.run system.advance (start world) earlier = some pool ∧ pool.history = before ∧
            nextOp pool entry.task = some entry.event.op ∧ entry.time = system.clock pool.world ∧
            entry.event.reply = (system.perform entry.event.op choice pool.world).1 := by
        obtain ⟨earlier,choice,later,pool,rfl,facts⟩ := ih reached earlier
        exact ⟨earlier,choice,later ++ [last],pool,by simp,facts⟩
      cases last with
      | spawn input =>
          cases taken
          exact extended split
      | change change =>
          cases taken
          exact extended split
      | step task choice =>
          obtain ⟨op,rest,stands,rfl⟩ := advance_step taken
          rcases List.eq_nil_or_concat after with rfl | ⟨after,final,rfl⟩
          · obtain ⟨same,last⟩ := List.append_inj' split rfl
            cases last
            exact ⟨actions,choice,[],middle,rfl,reached,same,by simp [nextOp,stands],rfl,rfl⟩
          · rw [List.concat_eq_append,← List.cons_append,← List.append_assoc] at split
            exact extended (List.append_inj' split rfl).1

-- The invariant rule for what ties the world to the history.
theorem run_world {actions : List (Action Input Choice Change)} {world : World}
    (holds : World → List (Entry Reply) → Prop)
    (performed : ∀ world history task op choice, holds world history →
      let result := system.perform op choice world
      holds result.2 (history ++ [⟨task,system.clock world,⟨op,result.1⟩⟩]))
    (changed : ∀ world history change, holds world history → holds (system.change change world) history)
    (begins : holds world [])
    (ran : Machine.run system.advance (start world) actions = some next) : holds next.world next.history := by
  refine Machine.run_preserves (fun pool => holds pool.world pool.history) ?_ begins ran
  intro pool action following held stepped
  cases action with
  | spawn input => cases stepped; exact held
  | change change => cases stepped; exact changed _ _ change held
  | step task choice =>
      obtain ⟨op,rest,_,rfl⟩ := advance_step stepped
      exact performed _ _ task op choice held

-- The clock of the world stamps the history in order.
theorem run_times {actions : List (Action Input Choice Change)} {world : World}
    (performed : ∀ op choice world, system.clock world ≤ system.clock (system.perform op choice world).2)
    (changed : ∀ change world, system.clock world ≤ system.clock (system.change change world))
    (ran : Machine.run system.advance (start world) actions = some next) :
    Throughout (fun before entry => ∀ earlier ∈ before, earlier.time ≤ entry.time) next.history := by
  have ordered := run_world (fun world history => (∀ entry ∈ history, entry.time ≤ system.clock world) ∧
    Throughout (fun before entry => ∀ earlier ∈ before, earlier.time ≤ entry.time) history) ?_ ?_ ⟨by simp,throughout_nil _⟩ ran
  · exact ordered.2
  · intro world history task op choice both
    rcases both with ⟨past,ordered⟩
    refine ⟨fun entry member => ?_,throughout_snoc.mpr ⟨ordered,past⟩⟩
    rcases List.mem_append.mp member with earlier | last
    · exact Nat.le_trans (past entry earlier) (performed op choice world)
    · cases List.mem_singleton.mp last
      exact performed op choice world
  · intro world history change both
    rcases both with ⟨past,ordered⟩
    exact ⟨fun entry member => Nat.le_trans (past entry member) (changed change world),ordered⟩

-- An event of a task, seen with what the task had done before it.
theorem Tracked.admitted (tracked : Tracked admits ends pool) :
    Throughout (fun before entry => ∃ input, pool.inputs[entry.task]? = some input ∧
      admits input (own entry.task before) entry.event) pool.history := by
  intro before entry after split
  have member : entry ∈ pool.history := by simp [split]
  have hasInput := List.getElem?_eq_getElem (tracked.started entry member)
  refine ⟨_,hasInput,tracked.past entry.task _ hasInput (own entry.task before) entry.event (own entry.task after) ?_⟩
  rw [split,own_append,own_cons_self]

-- Where a mark excludes an earlier mark on the same path, a task makes it once.
theorem Tracked.once (tracked : Tracked admits ends pool) {marked : Op → Bool}
    (alone : ∀ input past event, admits input past event → marked event.op = true → ∀ other ∈ past, marked other.op = false)
    (first : one ∈ pool.history) (second : two ∈ pool.history) (same : one.task = two.task)
    (firstMarked : marked one.event.op = true) (secondMarked : marked two.event.op = true) : one = two := by
  rcases tracked.admitted.pair first second with equal | ⟨before,earlier,input,_,held⟩ | ⟨before,earlier,input,_,held⟩
  · exact equal
  · have unmarked := alone input _ _ held secondMarked one.event (mem_own.mpr ⟨one,earlier,same,rfl⟩)
    cases unmarked.symm.trans firstMarked
  · have unmarked := alone input _ _ held firstMarked two.event (mem_own.mpr ⟨two,earlier,same.symm,rfl⟩)
    cases unmarked.symm.trans secondMarked

end System
end Sigproxy.Library
