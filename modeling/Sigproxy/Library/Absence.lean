import Sigproxy.Library.Program

namespace Sigproxy.Library

section Places
variable {Input Item : Type} (gone : Input → Bool)

-- What is left of a list that runs along the inputs, and the place that is left
-- to each of its members.
def stay : List Input → List Item → List Item
  | input :: inputs,item :: items => if gone input then stay inputs items else item :: stay inputs items
  | _,_ => []

def place : List Input → Nat → Nat
  | input :: inputs,index + 1 => if gone input then place inputs index else place inputs index + 1
  | _,_ => 0

theorem stay_self (inputs : List Input) : stay gone inputs inputs = inputs.filter fun input => !gone input := by
  induction inputs with
  | nil => rfl
  | cons input inputs ih => cases leaves : gone input <;> simp [stay,leaves,ih]

theorem stay_append {items more : List Item} (sized : items.length = inputs.length) :
    stay gone (inputs ++ others) (items ++ more) = stay gone inputs items ++ stay gone others more := by
  induction inputs generalizing items with
  | nil => rw [List.length_eq_zero_iff.mp sized]; rfl
  | cons input inputs ih =>
      cases items with
      | nil => simp at sized
      | cons item items =>
          have rest := ih (Nat.succ.inj sized)
          cases leaves : gone input <;> simp [stay,leaves,rest]

theorem place_append (inside : index < inputs.length) : place gone (inputs ++ more) index = place gone inputs index := by
  induction inputs generalizing index with
  | nil => simp at inside
  | cons input inputs ih =>
      cases index with
      | zero => rfl
      | succ index => simp only [List.cons_append,place,ih (Nat.lt_of_succ_lt_succ inside)]

variable {gone} {items : List Item}

theorem stay_getElem? (found : inputs[index]? = some input) (stays : gone input = false) (sized : items.length = inputs.length) :
    (stay gone inputs items)[place gone inputs index]? = items[index]? := by
  induction inputs generalizing index items with
  | nil => simp at found
  | cons first inputs ih =>
      cases items with
      | nil => simp at sized
      | cons item items =>
          cases index with
          | zero =>
              cases found
              simp [stay,place,stays]
          | succ index =>
              have rest := ih found (Nat.succ.inj sized)
              cases leaves : gone first <;> simp [stay,place,leaves,rest]

theorem stay_set (found : inputs[index]? = some input) (stays : gone input = false) (item : Item) :
    stay gone inputs (items.set index item) = (stay gone inputs items).set (place gone inputs index) item := by
  induction inputs generalizing index items with
  | nil => simp at found
  | cons first inputs ih =>
      cases items with
      | nil => rfl
      | cons head items =>
          cases index with
          | zero =>
              cases found
              simp [stay,place,stays]
          | succ index => cases leaves : gone first <;> simp [stay,place,leaves,@ih items index found]

theorem stay_set_gone (found : inputs[index]? = some input) (leaves : gone input = true) (item : Item) :
    stay gone inputs (items.set index item) = stay gone inputs items := by
  induction inputs generalizing index items with
  | nil => simp at found
  | cons first inputs ih =>
      cases items with
      | nil => rfl
      | cons head items =>
          cases index with
          | zero =>
              cases found
              simp [stay,leaves]
          | succ index => cases leaving : gone first <;> simp [stay,leaving,@ih items index found]

end Places

namespace System
variable {Op : Type} {Reply : Op → Type} {Input World Choice Change Result : Type}

section Without
variable (gone : Input → Bool)

def renamed (inputs : List Input) (entry : Entry Reply) : Option (Entry Reply) :=
  match inputs[entry.task]? with
  | some input => if gone input then none else some {entry with task:=place gone inputs entry.task}
  | none => none

-- The same pool as if the inputs that are gone had never come.
def without (pool : Pool Reply Input World Result) : Pool Reply Input World Result where
  inputs := pool.inputs.filter fun input => !gone input
  tasks := stay gone pool.inputs pool.tasks
  world := pool.world
  history := pool.history.filterMap (renamed gone pool.inputs)

def deletedAction (inputs : List Input) : Action Input Choice Change → List (Action Input Choice Change)
  | .spawn input => if gone input then [] else [.spawn input]
  | .step task choice =>
    match inputs[task]? with
    | some input => if gone input then [] else [.step (place gone inputs task) choice]
    | none => []
  | .change change => [.change change]

def grown (inputs : List Input) : Action Input Choice Change → List Input
  | .spawn input => inputs ++ [input]
  | _ => inputs

-- The schedule without them, the remaining tasks numbered anew.
def deleted (inputs : List Input) : List (Action Input Choice Change) → List (Action Input Choice Change)
  | [] => []
  | action :: rest => deletedAction gone inputs action ++ deleted (grown inputs action) rest

-- What the tasks have sent out, with the input each of them handles.
def emitted (emits : Op → Bool) (pool : Pool Reply Input World Result) : List (Input × Nat × Event Reply) :=
  pool.history.filterMap fun entry =>
    if emits entry.event.op then (pool.inputs[entry.task]?).map fun input => (input,entry.time,entry.event) else none

variable (system : System Reply Input World Choice Change Result)

-- A task that leaves the world as it is, whatever it is answered.
def Inert (quiet : Op → Prop) : Program Reply Result → Prop
  | .done _ => True
  | .fail _ => True
  | .call op next => quiet op ∧ ∀ choice world, (system.perform op choice world).2 = world ∧
    Inert quiet (next (system.perform op choice world).1)

structure Idle (quiet : Input → Op → Prop) (pool : Pool Reply Input World Result) : Prop where
  sized : pool.tasks.length = pool.inputs.length
  started : ∀ entry ∈ pool.history, entry.task < pool.inputs.length
  inert : ∀ (task : Nat) input program, pool.inputs[task]? = some input → gone input = true → pool.tasks[task]? = some program →
    Inert system (quiet input) program
  quiet : ∀ entry ∈ pool.history, ∀ input, pool.inputs[entry.task]? = some input → gone input = true → quiet input entry.event.op

end Without

section Run
variable {gone : Input → Bool} {system : System Reply Input World Choice Change Result} {quiet : Input → Op → Prop}
  {pool next : Pool Reply Input World Result}

theorem renamed_append (inside : entry.task < inputs.length) (more : List Input) :
    renamed gone (inputs ++ more) entry = (renamed gone inputs entry : Option (Entry Reply)) := by
  unfold renamed
  rw [List.getElem?_append_left inside,place_append gone inside]

theorem history_append (idle : Idle gone system quiet pool) (more : List Input) :
    pool.history.filterMap (renamed gone (pool.inputs ++ more)) = pool.history.filterMap (renamed gone pool.inputs) :=
  List.filterMap_congr fun entry member => renamed_append (idle.started entry member) more

theorem spawn_without (idle : Idle gone system quiet pool) (inert : gone input = true → Inert system (quiet input) (system.handler input))
    (stepped : system.advance pool (.spawn input) = some next) : Idle gone system quiet next ∧
      Machine.run system.advance (without gone pool) (deletedAction gone pool.inputs (.spawn input : Action Input Choice Change)) =
        some (without gone next) := by
  cases stepped
  refine ⟨⟨by simp [idle.sized],fun entry member => ?_,fun task given program hasInput leaves stands => ?_,
    fun entry member given hasInput leaves => ?_⟩,?_⟩
  · have inside := idle.started entry member
    simp only [List.length_append]
    omega
  · rcases Nat.lt_or_ge task pool.inputs.length with inside | outside
    · rw [List.getElem?_append_left inside] at hasInput
      rw [List.getElem?_append_left (idle.sized ▸ inside)] at stands
      exact idle.inert task given program hasInput leaves stands
    · rw [List.getElem?_append_right outside,List.getElem?_singleton] at hasInput
      rw [List.getElem?_append_right (idle.sized ▸ outside),List.getElem?_singleton,idle.sized] at stands
      split at hasInput
      · rename_i last
        rw [if_pos last] at stands
        cases hasInput
        cases stands
        exact inert leaves
      · cases hasInput
  · rw [List.getElem?_append_left (idle.started entry member)] at hasInput
    exact idle.quiet entry member given hasInput leaves
  · cases leaves : gone input with
    | true =>
        simp [deletedAction,leaves,Machine.run,without,List.filter_append,stay_append gone idle.sized,stay,history_append idle]
    | false =>
        simp [deletedAction,leaves,Machine.run,advance,without,List.filter_append,stay_append gone idle.sized,stay,
          history_append idle]

theorem step_without (idle : Idle gone system quiet pool) (stepped : system.advance pool (.step task choice) = some next) :
    Idle gone system quiet next ∧
      Machine.run system.advance (without gone pool) (deletedAction gone pool.inputs (.step task choice : Action Input Choice Change)) =
        some (without gone next) := by
  obtain ⟨op,rest,stands,rfl⟩ := advance_step stepped
  have inside : task < pool.inputs.length := idle.sized ▸ (List.getElem?_eq_some_iff.mp stands).1
  obtain ⟨input,hasInput⟩ : ∃ input, pool.inputs[task]? = some input := ⟨_,List.getElem?_eq_getElem inside⟩
  refine ⟨⟨by simp [idle.sized],fun entry member => ?_,fun other given program hasGiven leaves standing => ?_,
    fun entry member given hasGiven leaves => ?_⟩,?_⟩
  · rcases List.mem_append.mp member with earlier | last
    · exact idle.started entry earlier
    · cases List.mem_singleton.mp last
      exact inside
  · by_cases same : other = task
    · subst same
      cases hasInput.symm.trans hasGiven
      rw [List.getElem?_set_self (idle.sized ▸ inside)] at standing
      cases standing
      exact ((idle.inert _ _ _ hasInput leaves stands).2 choice pool.world).2
    · rw [List.getElem?_set_ne (Ne.symm same)] at standing
      exact idle.inert other given program hasGiven leaves standing
  · rcases List.mem_append.mp member with earlier | last
    · exact idle.quiet entry earlier given hasGiven leaves
    · cases List.mem_singleton.mp last
      cases hasInput.symm.trans hasGiven
      exact (idle.inert _ _ _ hasInput leaves stands).1
  · cases leaves : gone input with
    | true =>
        have unmoved := ((idle.inert _ _ _ hasInput leaves stands).2 choice pool.world).1
        simp [deletedAction,hasInput,leaves,Machine.run,without,stay_set_gone hasInput leaves,unmoved,renamed]
    | false =>
        have standing : (stay gone pool.inputs pool.tasks)[place gone pool.inputs task]? = some (.call op rest) := by
          rw [stay_getElem? hasInput leaves idle.sized,stands]
        simp [deletedAction,hasInput,leaves,Machine.run,advance,without,stay_set hasInput leaves,standing,renamed]

theorem change_without {moved : Change} (idle : Idle gone system quiet pool)
    (stepped : system.advance pool (.change moved) = some next) : Idle gone system quiet next ∧
      Machine.run system.advance (without gone pool) (deletedAction gone pool.inputs (.change moved : Action Input Choice Change)) =
        some (without gone next) := by
  cases stepped
  exact ⟨⟨idle.sized,idle.started,idle.inert,idle.quiet⟩,rfl⟩

theorem grown_inputs {action : Action Input Choice Change} (stepped : system.advance pool action = some next) :
    grown pool.inputs action = next.inputs := by
  cases action with
  | spawn input => cases stepped; rfl
  | change change => cases stepped; rfl
  | step task choice =>
      obtain ⟨op,rest,_,rfl⟩ := advance_step stepped
      rfl

theorem run_without {actions : List (Action Input Choice Change)} (idle : Idle gone system quiet pool)
    (inert : ∀ input, .spawn input ∈ actions → gone input = true → Inert system (quiet input) (system.handler input))
    (ran : Machine.run system.advance pool actions = some next) : Idle gone system quiet next ∧
      Machine.run system.advance (without gone pool) (deleted gone pool.inputs actions) = some (without gone next) := by
  induction actions generalizing pool with
  | nil => cases ran; exact ⟨idle,rfl⟩
  | cons action rest ih =>
      obtain ⟨middle,stepped,later⟩ := Machine.run_cons.mp ran
      have moved : Idle gone system quiet middle ∧
          Machine.run system.advance (without gone pool) (deletedAction gone pool.inputs action) = some (without gone middle) := by
        cases action with
        | spawn input => exact spawn_without idle (inert input (by simp)) stepped
        | step task choice => exact step_without idle stepped
        | change change => exact change_without idle stepped
      obtain ⟨settled,reached⟩ := ih moved.1 (fun input member => inert input (List.mem_cons_of_mem _ member)) later
      refine ⟨settled,?_⟩
      rw [deleted,grown_inputs stepped]
      exact Machine.run_append.mpr ⟨_,moved.2,reached⟩

theorem start_idle (world : World) : Idle gone system quiet (start world) :=
  ⟨rfl,fun _ member => (nomatch member),fun _ _ _ hasInput => (nomatch hasInput),fun _ member => (nomatch member)⟩

-- The others send what they would have sent, in the same order.
theorem emitted_without (idle : Idle gone system quiet pool) (emits : Op → Bool) :
    emitted emits (without gone pool) = (emitted emits pool).filter fun sent => !gone sent.1 := by
  unfold emitted without
  rw [List.filterMap_filterMap,List.filter_filterMap]
  apply List.filterMap_congr
  intro entry member
  obtain ⟨input,hasInput⟩ : ∃ input, pool.inputs[entry.task]? = some input := ⟨_,List.getElem?_eq_getElem (idle.started entry member)⟩
  cases leaves : gone input with
  | true => cases emits entry.event.op <;> simp [renamed,hasInput,leaves,Option.filter]
  | false =>
      have kept : (stay gone pool.inputs pool.inputs)[place gone pool.inputs entry.task]? = pool.inputs[entry.task]? :=
        stay_getElem? hasInput leaves rfl
      rw [stay_self] at kept
      cases sends : emits entry.event.op <;> simp [renamed,hasInput,leaves,kept,sends,Option.filter]

end Run
end System
end Sigproxy.Library
