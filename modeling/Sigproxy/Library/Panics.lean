import Sigproxy.Library.Sequential

namespace Sigproxy.Library
variable {Op : Type} {Reply : Op → Type} {World Choice Outcome : Type}

-- A task in surroundings where a call may panic: there it ends for good.
def Program.orPanic (perform : (op : Op) → Choice → World → Option (Reply op × World)) :
    Program Reply Outcome → (Nat → Choice) → World → Option (Except String Outcome × World)
  | .done result,_,world => some (.ok result,world)
  | .fail error,_,world => some (.error error,world)
  | .call op next,answers,world => do
    let (reply,world) ← perform op (answers 0) world
    (next reply).orPanic perform (fun index => answers (index + 1)) world

variable {perform : (op : Op) → Choice → World → Option (Reply op × World)} {answers : Nat → Choice} {world : World}

theorem orPanic_call {op : Op} {next : Reply op → Program Reply Outcome} :
    (Program.call op next).orPanic perform answers world = (perform op (answers 0) world).bind fun made =>
      (next made.1).orPanic perform (fun index => answers (index + 1)) made.2 := rfl

section Refinement
variable {Input Plain PlainChoice Change : Type} {system : System Reply Input Plain PlainChoice Change Outcome}

-- Where no call panics, the task does what it does in surroundings without panics.
theorem orPanic_refines {program : Program Reply Outcome} {plain : Plain} (seen : Choice → PlainChoice) (fair : Choice → Prop)
    (related : World → Plain → Prop)
    (step : ∀ op choice world plain made, related world plain → fair choice → perform op choice world = some made →
      made.1 = (system.perform op (seen choice) plain).1 ∧ related made.2 (system.perform op (seen choice) plain).2)
    (start : related world plain) (fairly : ∀ index, fair (answers index))
    (finished : program.orPanic perform answers world = some (outcome,after)) :
    (system.exec program (fun index => seen (answers index)) plain).1 = outcome ∧
      related after (system.exec program (fun index => seen (answers index)) plain).2 := by
  induction program generalizing answers world plain with
  | done result =>
      cases finished
      exact ⟨rfl,start⟩
  | fail error =>
      cases finished
      exact ⟨rfl,start⟩
  | call op next ih =>
      obtain ⟨⟨reply,middle⟩,performed,rest⟩ := Option.bind_eq_some_iff.mp finished
      obtain ⟨same,further⟩ := step op (answers 0) world plain _ start (fairly 0) performed
      cases same
      exact ih _ further (fun index => fairly (index + 1)) rest

end Refinement
end Sigproxy.Library
