import Mathlib

namespace Sigproxy.Library.Throttle

-- A log that warns of a failure at most once an interval, until the failures end.
structure Log where
  lastWarning : Option Nat
  suppressed : Nat
  deriving DecidableEq, Repr

def new : Log := ⟨none,0⟩

def Log.warnIfDue (interval : Nat) (log : Log) (now : Nat) : Option Nat × Log :=
  if log.lastWarning.any fun last => now - last < interval then (none,{log with suppressed:=log.suppressed + 1})
  else (some log.suppressed,⟨some now,0⟩)

def Log.recovered (log : Log) : Option Nat × Log :=
  match log.lastWarning with
  | none => (none,log)
  | some _ => (some log.suppressed,⟨none,0⟩)

inductive Event where
  | failure (now : Nat)
  | recovery
  deriving DecidableEq, Repr

def Log.step (interval : Nat) (log : Log) : Event → Option Nat × Log
  | .failure now => log.warnIfDue interval now
  | .recovery => log.recovered

-- An event, and the failures left out so far where it is written down.
abbrev Entry := Event × Option Nat

def run (interval : Nat) : Log → List Event → List Entry × Log
  | log,[] => ([],log)
  | log,event :: rest =>
    let (told,next) := log.step interval event
    let (entries,final) := run interval next rest
    ((event,told) :: entries,final)

def failures (entries : List Entry) : Nat := entries.countP fun entry => entry.1 != .recovery

def warnings (entries : List Entry) : Nat := entries.countP fun entry => entry.1 != .recovery && entry.2.isSome

def reported (entries : List Entry) : Nat := (entries.map fun entry => entry.2.getD 0).sum

-- The warning that still keeps later ones back: nothing has been written down since.
def Standing (entries : List Entry) (now : Nat) : Prop :=
  ∃ earlier told between, entries = earlier ++ (.failure now,some told) :: between ∧ ∀ entry ∈ between, entry.2 = none

section Runs
variable {interval : Nat}

theorem run_append (log : Log) (first second : List Event) : run interval log (first ++ second) =
    ((run interval log first).1 ++ (run interval (run interval log first).2 second).1,(run interval (run interval log first).2 second).2) := by
  induction first generalizing log with
  | nil => rfl
  | cons event rest ih => simp [run,ih]

theorem run_snoc (log : Log) (events : List Event) (event : Event) : run interval log (events ++ [event]) =
    ((run interval log events).1 ++ [(event,((run interval log events).2.step interval event).1)],((run interval log events).2.step interval event).2) := by
  rw [run_append]
  rfl

theorem run_events (log : Log) (events : List Event) : (run interval log events).1.map Prod.fst = events := by
  induction events generalizing log with
  | nil => rfl
  | cons event rest ih => simp [run,ih]

-- No failure is left uncounted, and none is counted twice.
theorem run_accounted (log : Log) (events : List Event) : failures (run interval log events).1 + log.suppressed =
    warnings (run interval log events).1 + reported (run interval log events).1 + (run interval log events).2.suppressed := by
  induction events generalizing log with
  | nil => simp [run,failures,warnings,reported]
  | cons event rest ih =>
      have later := ih (log.step interval event).2
      simp only [failures,warnings,reported] at later ⊢
      cases event with
      | failure now =>
          simp only [run,Log.step,Log.warnIfDue] at later ⊢
          split at later <;> simp_all <;> omega
      | recovery =>
          simp only [run,Log.step,Log.recovered] at later ⊢
          split at later <;> simp_all
          omega

theorem standing_snoc (entries : List Entry) (entry : Entry) (now : Nat) : Standing (entries ++ [entry]) now ↔
    (Standing entries now ∧ entry.2 = none) ∨ ∃ told, entry = (.failure now,some told) := by
  constructor
  · intro standing
    obtain ⟨earlier,told,between,split,quiet⟩ := standing
    rcases List.eq_nil_or_concat between with rfl | ⟨front,last,rfl⟩
    · exact .inr ⟨told,(List.cons.inj (List.append_inj' split rfl).2).1⟩
    · rw [List.concat_eq_append] at split quiet
      have parts : entries ++ [entry] = (earlier ++ (.failure now,some told) :: front) ++ [last] := by
        rw [split,List.append_assoc,List.cons_append]
      obtain ⟨before,same⟩ := List.append_inj' parts rfl
      cases same
      exact .inl ⟨⟨earlier,told,front,before,fun entry member => quiet entry (List.mem_append_left _ member)⟩,
        quiet entry (List.mem_append_right _ List.mem_cons_self)⟩
  · intro either
    rcases either with ⟨⟨earlier,told,between,rfl,quiet⟩,silent⟩ | ⟨told,rfl⟩
    · refine ⟨earlier,told,between ++ [entry],by simp,fun other member => ?_⟩
      rcases List.mem_append.mp member with before | last
      · exact quiet other before
      · exact List.mem_singleton.mp last ▸ silent
    · exact ⟨entries,told,[],rfl,by simp⟩

theorem run_standing (interval : Nat) (events : List Event) (now : Nat) :
    (run interval new events).2.lastWarning = some now ↔ Standing (run interval new events).1 now := by
  induction events using List.reverseRecOn generalizing now with
  | nil => simp [run,new,Standing]
  | append_singleton events event ih =>
      rw [run_snoc,standing_snoc,← ih]
      generalize (run interval new events).2 = log
      cases event with
      | failure at_ =>
          simp only [Log.step,Log.warnIfDue]
          split <;> simp
      | recovery =>
          simp only [Log.step,Log.recovered]
          split <;> simp_all

-- A failure is warned of unless a warning less than an interval ago still stands.
theorem run_paced (interval : Nat) (events : List Event) (parts : (run interval new events).1 = before ++ (.failure now,told) :: after) :
    told.isSome = true ↔ ∀ last, Standing before last → interval ≤ now - last := by
  have split : events = before.map Prod.fst ++ .failure now :: after.map Prod.fst := by
    rw [← run_events new events,parts]
    simp
  rw [split,run_append] at parts
  have many : (run interval new (before.map Prod.fst)).1.length = before.length := by
    rw [← List.length_map Prod.fst,run_events,List.length_map]
  obtain ⟨front,back⟩ := List.append_inj parts many
  have here : told = ((run interval new (before.map Prod.fst)).2.warnIfDue interval now).1 := by
    simp only [run,Log.step,List.cons.injEq,Prod.mk.injEq,true_and] at back
    exact back.1.symm
  have standing := run_standing interval (before.map Prod.fst)
  rw [front] at standing
  simp only [← standing,here,Log.warnIfDue]
  cases (run interval new (before.map Prod.fst)).2.lastWarning with
  | none => simp
  | some last =>
      by_cases early : now - last < interval <;> simp [early]
      omega

end Runs

section Families
variable {Key Item : Type} [DecidableEq Key] {interval : Nat}

-- Many logs, each with a key of its own.
def runAll (interval : Nat) : (Key → Log) → List (Key × Event) → List (Key × Entry) × (Key → Log)
  | logs,[] => ([],logs)
  | logs,(key,event) :: rest =>
    let (told,next) := (logs key).step interval event
    let (entries,final) := runAll interval (Function.update logs key next) rest
    ((key,event,told) :: entries,final)

def own (key : Key) (items : List (Key × Item)) : List Item := items.filterMap fun item => if item.1 = key then some item.2 else none

@[simp] theorem own_cons (key : Key) (item : Key × Item) (rest : List (Key × Item)) :
    own key (item :: rest) = if item.1 = key then item.2 :: own key rest else own key rest := by
  unfold own
  by_cases same : item.1 = key <;> simp [same]

-- Nothing that happens under the other keys shows.
theorem runAll_own (logs : Key → Log) (events : List (Key × Event)) (key : Key) :
    (own key (runAll interval logs events).1,(runAll interval logs events).2 key) = run interval (logs key) (own key events) := by
  induction events generalizing logs with
  | nil => rfl
  | cons event rest ih =>
      obtain ⟨other,event⟩ := event
      have later := ih (Function.update logs other ((logs other).step interval event).2)
      obtain ⟨entries,final⟩ := Prod.mk.inj later
      simp only [runAll,own_cons]
      by_cases same : other = key
      · subst same
        simp only [Function.update_self] at entries final
        simp [run,entries,final]
      · rw [Function.update_of_ne (Ne.symm same)] at entries final
        simp [same,entries,final]

end Families

end Sigproxy.Library.Throttle
