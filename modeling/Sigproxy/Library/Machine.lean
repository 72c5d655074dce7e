import Mathlib.Data.List.Basic
import Mathlib.Data.List.Induction

namespace Sigproxy.Library.Machine

-- A machine is an executable partial step: every choice of the scheduler, the
-- network or the clock stands in the action, so a run is a list of actions.
variable {State Action : Type} {advance : State → Action → Option State}

def run (advance : State → Action → Option State) : State → List Action → Option State
  | s,[] => some s
  | s,action :: rest => (advance s action).bind (run advance · rest)

theorem run_cons : run advance s (action :: rest) = some final ↔
    ∃ next, advance s action = some next ∧ run advance next rest = some final := by
  simp [run,Option.bind_eq_some_iff]

theorem run_append : run advance s (first ++ second) = some final ↔
    ∃ middle, run advance s first = some middle ∧ run advance middle second = some final := by
  induction first generalizing s with
  | nil => simp [run]
  | cons action rest ih => simp only [List.cons_append,run,Option.bind_eq_some_iff,ih]; grind

theorem run_snoc (ran : run advance s actions = some next) (stepped : advance next action = some final) :
    run advance s (actions ++ [action]) = some final :=
  run_append.mpr ⟨next,ran,run_cons.mpr ⟨final,stepped,rfl⟩⟩

-- A view that shows a value at the end and did not at the start took it on in some
-- step, and has shown it ever since.
theorem run_since {View : Type} {value : View} (view : State → View) (ran : run advance s actions = some final) (shown : view final = value)
    (unlike : view s ≠ value) : ∃ earlier action later before after, actions = earlier ++ action :: later ∧
      run advance s earlier = some before ∧ advance before action = some after ∧ view before ≠ value ∧
      ∀ part rest, later = part ++ rest → ∀ middle, run advance after part = some middle → view middle = value := by
  induction actions using List.reverseRecOn generalizing final with
  | nil =>
      cases ran
      exact (unlike shown).elim
  | append_singleton actions last ih =>
      obtain ⟨before,reached,stepped⟩ := run_append.mp ran
      obtain ⟨after,taken,done⟩ := run_cons.mp stepped
      cases done
      by_cases early : view before = value
      · obtain ⟨earlier,action,later,start,begun,rfl,reachedStart,turned,other,stays⟩ := ih reached early
        refine ⟨earlier,action,later ++ [last],start,begun,by simp,reachedStart,turned,other,fun part rest split middle held => ?_⟩
        rcases List.eq_nil_or_concat rest with rfl | ⟨rest,closing,rfl⟩
        · rw [List.append_nil] at split
          rw [← split] at held
          have whole := run_append.mpr ⟨start,reachedStart,run_cons.mpr ⟨begun,turned,held⟩⟩
          simp only [List.append_assoc,List.cons_append] at ran
          cases whole.symm.trans ran
          exact shown
        · rw [List.concat_eq_append,← List.append_assoc] at split
          exact stays part rest (List.append_inj' split rfl).1 middle held
      · refine ⟨actions,last,[],before,final,rfl,reached,taken,early,fun part rest split middle held => ?_⟩
        obtain ⟨rfl,rfl⟩ := List.append_eq_nil_iff.mp split.symm
        cases held
        exact shown

-- The invariant rule, with a premise on the actions taken.
theorem run_preserves_on (invariant : State → Prop) {admitted : Action → Prop}
    (step : ∀ s action next, admitted action → invariant s → advance s action = some next → invariant next)
    (taken : ∀ action ∈ actions, admitted action) (start : invariant s)
    (ran : run advance s actions = some final) : invariant final := by
  induction actions generalizing s with
  | nil => cases ran; exact start
  | cons action rest ih =>
      obtain ⟨next,stepped,later⟩ := run_cons.mp ran
      have admittedHead := taken action (by simp)
      have admittedRest : ∀ other ∈ rest, admitted other := fun other member =>
        taken other (List.mem_cons_of_mem _ member)
      exact ih admittedRest (step s action next admittedHead start stepped) later

-- A schedule whose every action is taken in a state that `guard` allows it in.
def Within (advance : State → Action → Option State) (guard : State → Action → Prop) :
    State → List Action → Prop
  | _,[] => True
  | s,action :: rest => guard s action ∧ ∀ next ∈ advance s action, Within advance guard next rest

instance decidableWithin {guard : State → Action → Prop} [∀ s action, Decidable (guard s action)] :
    ∀ s actions, Decidable (Within advance guard s actions)
  | _,[] => inferInstanceAs (Decidable True)
  | s,action :: rest =>
    have (next : State) : Decidable (Within advance guard next rest) := decidableWithin next rest
    inferInstanceAs (Decidable (guard s action ∧ ∀ next ∈ advance s action, Within advance guard next rest))

theorem Within.and {first second : State → Action → Prop} (one : Within advance first s actions)
    (two : Within advance second s actions) : Within advance (fun s action => first s action ∧ second s action) s actions := by
  induction actions generalizing s with
  | nil => trivial
  | cons action rest ih =>
      exact ⟨⟨one.1,two.1⟩,fun next stepped => ih (one.2 next stepped) (two.2 next stepped)⟩

theorem Within.mono {first second : State → Action → Prop} (within : Within advance first s actions)
    (weaker : ∀ s action, first s action → second s action) : Within advance second s actions := by
  induction actions generalizing s with
  | nil => trivial
  | cons action rest ih => exact ⟨weaker s action within.1,fun next stepped => ih (within.2 next stepped)⟩

theorem Within.split {guard : State → Action → Prop} (within : Within advance guard s (first ++ second))
    (ran : run advance s first = some middle) : Within advance guard s first ∧ Within advance guard middle second := by
  induction first generalizing s with
  | nil => cases ran; exact ⟨trivial,within⟩
  | cons action rest ih =>
      obtain ⟨next,stepped,later⟩ := run_cons.mp ran
      obtain ⟨_,after⟩ := ih (within.2 next stepped) later
      refine ⟨⟨within.1,fun other taken => ?_⟩,after⟩
      cases stepped.symm.trans taken
      exact (ih (within.2 next stepped) later).1

theorem run_preserves_within (invariant : State → Prop) {guard : State → Action → Prop}
    (step : ∀ s action next, guard s action → invariant s → advance s action = some next → invariant next)
    (within : Within advance guard s actions) (start : invariant s)
    (ran : run advance s actions = some final) : invariant final := by
  induction actions generalizing s with
  | nil => cases ran; exact start
  | cons action rest ih =>
      obtain ⟨next,stepped,later⟩ := run_cons.mp ran
      exact ih (within.2 next stepped) (step s action next within.1 start stepped) later

theorem run_preserves (invariant : State → Prop)
    (step : ∀ s action next, invariant s → advance s action = some next → invariant next)
    (start : invariant s) (ran : run advance s actions = some final) : invariant final :=
  run_preserves_on invariant (fun s action next _ => step s action next)
    (fun _ _ => trivial) start ran

-- Actions taken one after another until the machine refuses one, or whatever it
-- runs on gives out after `lasts` of them: what was taken, and where that leads.
def attempt (advance : State → Action → Option State) : Option Nat → State → List Action → List Action × State
  | _,s,[] => ([],s)
  | some 0,s,_ :: _ => ([],s)
  | lasts,s,action :: rest =>
    match advance s action with
    | none => ([],s)
    | some next =>
      let (taken,final) := attempt advance (lasts.map (· - 1)) next rest
      (action :: taken,final)

theorem attempt_ran (lasts : Option Nat) (s : State) (actions : List Action) :
    run advance s (attempt advance lasts s actions).1 = some (attempt advance lasts s actions).2 := by
  fun_induction attempt advance lasts s actions with
  | case1 => rfl
  | case2 => rfl
  | case3 => rfl
  | case4 lasts s action rest _ next stepped taken final later ih =>
      rw [later] at ih
      exact run_cons.mpr ⟨next,stepped,ih⟩

theorem attempt_initial (lasts : Option Nat) (s : State) (actions : List Action) :
    (attempt advance lasts s actions).1 <+: actions := by
  fun_induction attempt advance lasts s actions with
  | case1 => exact List.prefix_rfl
  | case2 => exact List.nil_prefix
  | case3 => exact List.nil_prefix
  | case4 lasts s action rest _ next stepped taken final later ih =>
      rw [later] at ih
      exact List.prefix_cons_inj action |>.mpr ih

end Sigproxy.Library.Machine
