import Sigproxy.Library.Program

namespace Sigproxy.Library.System
variable {Op : Type} {Reply : Op → Type} {Input World Choice Change Result : Type}

-- Some tasks keep to what `same` sees of a world and the others keep out of it, so
-- that what the others do is not seen there.
structure Isolates (system : System Reply Input World Choice Change Result) (inputs : List Input) (mine : Input → Bool)
    (same : World → World → Prop) (inside outside : Op → Prop) : Prop where
  own : ∀ input ∈ inputs, mine input = true → (system.handler input).Uses inside
  others : ∀ input ∈ inputs, mine input = false → (system.handler input).Uses outside
  apart : ∀ op choice first second, outside op → same first second → same (system.perform op choice first).2 second
  determined : ∀ op choice first second, inside op → same first second →
    (system.perform op choice first).1 = (system.perform op choice second).1 ∧
      same (system.perform op choice first).2 (system.perform op choice second).2
  changes : ∀ change first second, same first second → same (system.change change first) (system.change change second)

-- The turns of the other tasks are left out; their arrivals stay, so that a task
-- keeps its number.
def keeps (mine : Input → Bool) (inputs : List Input) : Action Input Choice Change → Bool
  | .step task _ => inputs[task]?.any mine
  | _ => true

-- Two pools, the second one without the turns of the other tasks.
structure Alike (mine : Input → Bool) (same : World → World → Prop) (pool alone : Pool Reply Input World Result) : Prop where
  inputs : alone.inputs = pool.inputs
  world : same pool.world alone.world
  tasks : ∀ (task : Nat) input, pool.inputs[task]? = some input → mine input = true → alone.tasks[task]? = pool.tasks[task]?
  history : ∀ (task : Nat) input, pool.inputs[task]? = some input → mine input = true → own task alone.history = own task pool.history

section Steps
variable {system : System Reply Input World Choice Change Result} {inputs : List Input} {mine : Input → Bool} {same : World → World → Prop}
  {inside outside : Op → Prop} {pool alone : Pool Reply Input World Result}

def keepsTo (mine : Input → Bool) (inside outside : Op → Prop) (inputs : List Input) (input : Input) (_ : List (Event Reply))
    (event : Event Reply) : Prop :=
  input ∈ inputs → if mine input then inside event.op else outside event.op

abbrev Parted (mine : Input → Bool) (inside outside : Op → Prop) (inputs : List Input) (pool : Pool Reply Input World Result) : Prop :=
  Tracked (keepsTo mine inside outside inputs) (fun _ _ _ => True) pool

theorem Isolates.followed (isolates : system.Isolates inputs mine same inside outside) (input : Input) :
    (system.handler input).Along (keepsTo mine inside outside inputs input) (fun _ _ => True) [] := by
  by_cases listed : input ∈ inputs
  · cases own : mine input with
    | true =>
        refine Program.along_uses (isolates.own input listed own) (fun _ _ _ used _ => ?_) (fun _ _ _ _ => trivial) trivial
        rw [if_pos own]
        exact used
    | false =>
        refine Program.along_uses (isolates.others input listed own) (fun _ _ _ used _ => ?_) (fun _ _ _ _ => trivial) trivial
        rw [own,if_neg Bool.false_ne_true]
        exact used
  · exact Program.along_mono (Program.along_kept (fun _ => True) _ (fun _ _ _ => trivial) trivial fun _ _ _ => trivial)
      (fun _ _ _ listed' => absurd listed' listed) fun _ _ _ => trivial

theorem Alike.spawn (alike : Alike mine same pool alone) (parted : Parted mine inside outside inputs pool)
    (aloneParted : Parted mine inside outside inputs alone) (input : Input) (program : Program Reply Result) :
    Alike mine same {pool with inputs:=pool.inputs ++ [input],tasks:=pool.tasks ++ [program]}
      {alone with inputs:=alone.inputs ++ [input],tasks:=alone.tasks ++ [program]} := by
  have sized : alone.tasks.length = pool.tasks.length := by rw [aloneParted.sized,alike.inputs,parted.sized]
  have either {task : Nat} {given : Input} (found : (pool.inputs ++ [input])[task]? = some given) :
      pool.inputs[task]? = some given ∨ task = pool.inputs.length := by
    rcases Nat.lt_or_ge task pool.inputs.length with early | late
    · exact .inl ((List.getElem?_append_left early).symm.trans found)
    · have within := (List.getElem?_eq_some_iff.mp found).1
      simp only [List.length_append,List.length_singleton] at within
      exact .inr (by omega)
  refine ⟨by rw [alike.inputs],alike.world,fun task given found own => ?_,fun task given found own => ?_⟩
  · rcases either found with known | rfl
    · have early : task < pool.tasks.length := parted.sized ▸ (List.getElem?_eq_some_iff.mp known).1
      rw [List.getElem?_append_left early,List.getElem?_append_left (sized ▸ early)]
      exact alike.tasks task given known own
    · rw [← parted.sized,List.getElem?_concat_length,← sized,List.getElem?_concat_length]
  · rcases either found with known | rfl
    · exact alike.history task given known own
    · exact (own_unstarted aloneParted (alike.inputs ▸ Nat.le_refl _)).trans (own_unstarted parted (Nat.le_refl _)).symm

-- A turn of a task that is mine goes the same way in both.
theorem Alike.turn (isolates : system.Isolates inputs mine same inside outside) (alike : Alike mine same pool alone) {op : Op}
    {rest : Reply op → Program Reply Result} (stands : pool.tasks[task]? = some (.call op rest)) (found : pool.inputs[task]? = some input)
    (own : mine input = true) (used : inside op) (choice : Choice) :
    ∃ next, system.advance alone (.step task choice) = some next ∧
      let result := system.perform op choice pool.world
      Alike mine same {pool with
        tasks:=pool.tasks.set task (rest result.1)
        world:=result.2
        history:=pool.history ++ [⟨task,system.clock pool.world,⟨op,result.1⟩⟩]} next := by
  have there : alone.tasks[task]? = some (.call op rest) := (alike.tasks task input found own).trans stands
  obtain ⟨replied,worlds⟩ := isolates.determined op choice _ _ used alike.world
  let answer := system.perform op choice alone.world
  have turned : system.advance alone (.step task choice) = some {alone with
      tasks:=alone.tasks.set task (rest answer.1)
      world:=answer.2
      history:=alone.history ++ [⟨task,system.clock alone.world,⟨op,answer.1⟩⟩]} := by
    simp only [advance,there]
    rfl
  refine ⟨_,turned,alike.inputs,worlds,fun other given known ours => ?_,fun other given known ours => ?_⟩
  · dsimp only
    by_cases this : task = other
    · subst this
      rw [List.getElem?_set_self (List.getElem?_eq_some_iff.mp there).1,List.getElem?_set_self (List.getElem?_eq_some_iff.mp stands).1,replied]
    · rw [List.getElem?_set_ne this,List.getElem?_set_ne this]
      exact alike.tasks other given known ours
  · dsimp only
    by_cases this : task = other
    · subst this
      rw [own_snoc_self,own_snoc_self,alike.history task given known ours,replied]
    · rw [own_snoc_other this,own_snoc_other this]
      exact alike.history other given known ours

-- A turn of another task is not seen.
theorem Alike.aside (isolates : system.Isolates inputs mine same inside outside) (alike : Alike mine same pool alone) {op : Op}
    {rest : Reply op → Program Reply Result} (found : pool.inputs[task]? = some input) (other : mine input = false) (used : outside op)
    (choice : Choice) :
    let result := system.perform op choice pool.world
    Alike mine same {pool with
      tasks:=pool.tasks.set task (rest result.1)
      world:=result.2
      history:=pool.history ++ [⟨task,system.clock pool.world,⟨op,result.1⟩⟩]} alone := by
  have apart {number : Nat} {given : Input} (known : pool.inputs[number]? = some given) (ours : mine given = true) : task ≠ number := by
    rintro rfl
    rw [Option.some.inj (found.symm.trans known),ours] at other
    cases other
  refine ⟨alike.inputs,isolates.apart op choice _ _ used alike.world,fun number given known ours => ?_,fun number given known ours => ?_⟩
  · rw [alike.tasks number given known ours]
    exact (List.getElem?_set_ne (apart known ours)).symm
  · rw [alike.history number given known ours]
    exact (own_snoc_other (apart known ours) _ _ _).symm

-- Without the turns of the others, the run exists and goes the same way for mine.
theorem run_alike {world : World} {actions : List (Action Input Choice Change)} (isolates : system.Isolates inputs mine same inside outside)
    (seen : same world world) (ran : Machine.run system.advance (start world) actions = some pool) (within : pool.inputs <+: inputs) :
    ∃ alone, Machine.run system.advance (start world) (actions.filter (keeps mine inputs)) = some alone ∧ Alike mine same pool alone := by
  induction actions using List.reverseRecOn generalizing pool with
  | nil =>
      cases ran
      exact ⟨_,rfl,rfl,seen,fun _ _ _ _ => rfl,fun _ _ _ _ => rfl⟩
  | append_singleton actions last ih =>
      obtain ⟨middle,reached,stepped⟩ := Machine.run_append.mp ran
      have grown := (run_grows stepped).1.trans within
      obtain ⟨alone,went,alike⟩ := ih reached grown
      have parted := run_tracked isolates.followed reached
      have aloneParted := run_tracked isolates.followed went
      obtain ⟨_,taken,done⟩ := Machine.run_cons.mp stepped
      cases done
      rw [List.filter_append]
      have further {next : Pool Reply Input World Result} (kept : keeps mine inputs last = true)
          (turned : system.advance alone last = some next) (still : Alike mine same pool next) :
          ∃ alone, Machine.run system.advance (start world) (actions.filter (keeps mine inputs) ++ [last].filter (keeps mine inputs)) = some alone ∧
            Alike mine same pool alone := by
        refine ⟨next,Machine.run_append.mpr ⟨alone,went,?_⟩,still⟩
        rw [List.filter_cons_of_pos kept]
        exact Machine.run_cons.mpr ⟨next,turned,rfl⟩
      cases last with
      | spawn input =>
          cases taken
          exact further rfl rfl (alike.spawn parted aloneParted input _)
      | change change =>
          cases taken
          exact further rfl rfl ⟨alike.inputs,isolates.changes change _ _ alike.world,alike.tasks,alike.history⟩
      | step task choice =>
          obtain ⟨op,rest,stands,rfl⟩ := advance_step taken
          have inRange : task < middle.inputs.length := parted.sized ▸ (List.getElem?_eq_some_iff.mp stands).1
          have found := List.getElem?_eq_getElem inRange
          have listed : inputs[task]? = some middle.inputs[task] := (List.prefix_iff_getElem?.mp grown task inRange)
          have used := (parted.path task _ _ found stands (system.perform op choice middle.world).1).1 (List.mem_of_getElem? listed)
          cases own : mine middle.inputs[task] with
          | true =>
              rw [if_pos own] at used
              obtain ⟨next,turned,still⟩ := alike.turn isolates stands found own used choice
              exact further (by simp [keeps,listed,own]) turned still
          | false =>
              rw [own,if_neg Bool.false_ne_true] at used
              have dropped : [Action.step task choice].filter (keeps mine inputs : Action Input Choice Change → Bool) = [] := by simp [keeps,listed,own]
              rw [dropped,List.append_nil]
              exact ⟨alone,went,alike.aside isolates found own used choice⟩

end Steps
end Sigproxy.Library.System
