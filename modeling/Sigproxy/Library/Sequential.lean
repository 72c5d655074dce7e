import Sigproxy.Library.Program

namespace Sigproxy.Library.System
variable {Op : Type} {Reply : Op → Type} {Input World Choice Change Result Outcome First Second : Type}
  (system : System Reply Input World Choice Change Result)

-- A task that no other task interrupts; the surroundings answer its calls in turn.
def exec : Program Reply Outcome → (Nat → Choice) → World → Except String Outcome × World
  | .done result,_,world => (.ok result,world)
  | .fail error,_,world => (.error error,world)
  | .call op next,answers,world =>
    let (reply,world) := system.perform op (answers 0) world
    exec (next reply) (fun index => answers (index + 1)) world

-- Whatever fair surroundings answer, it ends so.
def Ensures (fair : Choice → Prop) (post : Except String Outcome → World → Prop) : Program Reply Outcome → World → Prop
  | .done result,world => post (.ok result) world
  | .fail error,world => post (.error error) world
  | .call op next,world => ∀ choice, fair choice →
    Ensures fair post (next (system.perform op choice world).1) (system.perform op choice world).2

-- It returns a result.
def Returned (post : Outcome → World → Prop) : Except String Outcome → World → Prop
  | .ok result,world => post result world
  | .error _,_ => False

variable {system} {fair : Choice → Prop} {world : World}

theorem exec_ensured {post : Except String Outcome → World → Prop} {program : Program Reply Outcome}
    (ensured : Ensures system fair post program world) (answers : Nat → Choice) (fairly : ∀ index, fair (answers index)) :
    post (system.exec program answers world).1 (system.exec program answers world).2 := by
  induction program generalizing answers world with
  | done result => exact ensured
  | fail error => exact ensured
  | call op next ih => exact ih _ (ensured (answers 0) (fairly 0)) _ fun index => fairly (index + 1)

theorem exec_returned {post : Outcome → World → Prop} {program : Program Reply Outcome}
    (ensured : Ensures system fair (Returned post) program world) (answers : Nat → Choice) (fairly : ∀ index, fair (answers index)) :
    ∃ result after, system.exec program answers world = (.ok result,after) ∧ post result after := by
  have ended := exec_ensured ensured answers fairly
  cases outcome : system.exec program answers world with
  | mk returned after =>
      rw [outcome] at ended
      cases returned with
      | ok result => exact ⟨result,after,rfl,ended⟩
      | error error => exact ended.elim

theorem ensures_mono {post wider : Except String Outcome → World → Prop} {program : Program Reply Outcome}
    (ensured : Ensures system fair post program world) (widens : ∀ outcome after, post outcome after → wider outcome after) :
    Ensures system fair wider program world := by
  induction program generalizing world with
  | done result => exact widens _ _ ensured
  | fail error => exact widens _ _ ensured
  | call op next ih => exact fun choice fairly => ih _ (ensured choice fairly)

theorem returned_mono {post wider : Outcome → World → Prop} {program : Program Reply Outcome}
    (ensured : Ensures system fair (Returned post) program world) (widens : ∀ result after, post result after → wider result after) :
    Ensures system fair (Returned wider) program world :=
  ensures_mono ensured fun outcome after ended => match outcome,ended with
    | .ok result,held => widens result after held

theorem returned_bind {middle : First → World → Prop} {post : Second → World → Prop} {program : Program Reply First}
    {next : First → Program Reply Second} (first : Ensures system fair (Returned middle) program world)
    (rest : ∀ result after, middle result after → Ensures system fair (Returned post) (next result) after) :
    Ensures system fair (Returned post) (program >>= next) world := by
  induction program generalizing world with
  | done result => exact rest result world first
  | fail error => exact first.elim
  | call op following ih => exact fun choice fairly => ih _ (first choice fairly)

theorem ensures_call {post : Except String Outcome → World → Prop} {op : Op} {next : Reply op → Program Reply Outcome}
    (rest : ∀ choice, fair choice →
      Ensures system fair post (next (system.perform op choice world).1) (system.perform op choice world).2) :
    Ensures system fair post (Program.perform op >>= next) world := rest

theorem returned_lift {post : Second → World → Prop} {value : Except String First} {next : First → Program Reply Second}
    (given : value = .ok result) (rest : Ensures system fair (Returned post) (next result) world) :
    Ensures system fair (Returned post) (Program.lift value >>= next) world := by
  subst given
  exact rest

-- What all parts of a task keep it keeps, also where it fails.
theorem kept_bind {kept : World → Prop} {program : Program Reply First} {next : First → Program Reply Second}
    (first : Ensures system fair (fun _ => kept) program world)
    (rest : ∀ result after, kept after → Ensures system fair (fun _ => kept) (next result) after) :
    Ensures system fair (fun _ => kept) (program >>= next) world := by
  induction program generalizing world with
  | done result => exact rest result world first
  | fail error => exact first
  | call op following ih => exact fun choice fairly => ih _ (first choice fairly)

theorem kept_uses {allowed : Op → Prop} {kept : World → Prop} {program : Program Reply Outcome} (uses : program.Uses allowed)
    (keeps : ∀ op choice world, allowed op → kept world → kept (system.perform op choice world).2) (start : kept world) :
    Ensures system fair (fun _ => kept) program world := by
  induction program generalizing world with
  | done result => exact start
  | fail error => exact start
  | call op next ih => exact fun choice _ => ih _ (uses.2 _) (keeps op choice world uses.1 start)

section Recorded
variable (system)

-- The calls are written down as in a history, and before each of them the world may
-- have moved.
def recorded (task : Nat) : System Reply Input (World × List (Entry Reply)) (List Change × Choice) Change Result where
  handler := system.handler
  perform op choice state :=
    let world := choice.1.foldl (fun world change => system.change change world) state.1
    let result := system.perform op choice.2 world
    (result.1,result.2,state.2 ++ [⟨task,system.clock world,⟨op,result.1⟩⟩])
  clock state := system.clock state.1
  change change state := (system.change change state.1,state.2)

variable {system} {task : Nat} {past : List (Entry Reply)}

theorem recorded_kept {answers : Nat → List Change × Choice} {program : Program Reply Outcome} {after : World × List (Entry Reply)}
    (holds : World → List (Entry Reply) → Prop)
    (performed : ∀ world history op choice, holds world history →
      let result := system.perform op choice world
      holds result.2 (history ++ [⟨task,system.clock world,⟨op,result.1⟩⟩]))
    (changed : ∀ world history change, holds world history → holds (system.change change world) history)
    (begins : holds world past) (ran : (system.recorded task).exec program answers (world,past) = (outcome,after)) :
    holds after.1 after.2 := by
  induction program generalizing answers world past with
  | done result => cases ran; exact begins
  | fail error => cases ran; exact begins
  | call op next ih =>
      have moved (changes : List Change) (world : World) (held : holds world past) :
          holds (changes.foldl (fun world change => system.change change world) world) past := by
        induction changes generalizing world with
        | nil => exact held
        | cons change rest more => exact more _ (changed world past change held)
      exact ih _ (performed _ past op _ (moved _ world begins)) ran

-- A task that is added to a history keeps what the steps of the history keep.
theorem recorded_continues {answers : Nat → List Change × Choice} {program : Program Reply Outcome} {after : World × List (Entry Reply)}
    {history : List (Entry Reply)} (holds : World → List (Entry Reply) → Prop)
    (performed : ∀ world history task op choice, holds world history →
      let result := system.perform op choice world
      holds result.2 (history ++ [⟨task,system.clock world,⟨op,result.1⟩⟩]))
    (changed : ∀ world history change, holds world history → holds (system.change change world) history)
    (begins : holds world history) (ran : (system.recorded task).exec program answers (world,[]) = (outcome,after)) :
    holds after.1 (history ++ after.2) := by
  refine recorded_kept (fun world log => holds world (history ++ log)) (fun world log op choice held => ?_)
    (fun world log change held => changed world _ change held) ?_ ran
  · dsimp only
    rw [← List.append_assoc]
    exact performed world _ task op choice held
  · rw [List.append_nil]
    exact begins

-- What holds along every path of a task holds of what it has written down.
theorem recorded_along {answers : Nat → List Change × Choice} {program : Program Reply Outcome} {after : World × List (Entry Reply)}
    {admits : List (Event Reply) → Event Reply → Prop} {ends : List (Event Reply) → Except String Outcome → Prop}
    (along : program.Along admits ends (past.map Entry.event)) (before : Throughout admits (past.map Entry.event))
    (ran : (system.recorded task).exec program answers (world,past) = (outcome,after)) :
    Throughout admits (after.2.map Entry.event) ∧ ends (after.2.map Entry.event) outcome := by
  induction program generalizing answers world past with
  | done result => cases ran; exact ⟨before,along⟩
  | fail error => cases ran; exact ⟨before,along⟩
  | call op next ih =>
      refine ih _ ?_ ?_ ran
      · rw [List.map_append]
        exact (along _).2
      · rw [List.map_append]
        exact throughout_snoc.mpr ⟨before,(along _).1⟩

end Recorded

end Sigproxy.Library.System
