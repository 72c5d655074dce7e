import Mathlib.Data.List.Perm.Basic
import Sigproxy.Library.Machine
import Sigproxy.Upstream.Routing

-- The tasks of the process: those of app::run, and those that the server runs within one of them.
namespace Sigproxy.Supervision
open Library Config Proxy

section Tasks

-- What the one who joins a task gets.
inductive Outcome where
  | finished
  | failed (error : String)
  | panicked (text : String)
  deriving DecidableEq, Repr

-- `task.await??`
def Outcome.result : Outcome → Except String Unit
  | .finished => .ok ()
  | .failed error => .error error
  | .panicked text => .error text

inductive Task where
  | running
  | ended (outcome : Outcome)
  deriving DecidableEq, Repr

end Tasks

section Server

inductive Duty where
  | refreshGeo
  | refreshThreat
  | prune
  | healthChecks (group : String)
  | metrics
  | listen (listener : ProxyListenerConfig) (worker : Nat)

-- run_refresh_loop and run_prune_loop log what fails in them and break at the shutdown only.
def Duty.loops : Duty → Bool
  | .refreshGeo => true
  | .refreshThreat => true
  | .prune => true
  | _ => false

def Duty.permits (duty : Duty) (shutdown : Bool) : Outcome → Bool
  | .finished => !duty.loops || shutdown
  | .failed _ => !duty.loops
  | .panicked _ => true

inductive Setup where
  | restore
  | spawn (duty : Duty)
  | bind (duty : Duty)

-- The refresh tasks there are, the groups that are checked (in the order of a hash map),
-- the workers of a listener, and whether an addon is configured.
structure Plan where
  config : Config
  refreshesGeo : Bool
  refreshesThreat : Bool
  checkedGroups : List String
  workersPerListener : Nat
  addon : Bool

def Plan.listening (plan : Plan) : List Setup :=
  plan.config.proxy.listeners.flatMap fun configured => configured.concreteListeners.flatMap fun listener =>
    (List.range plan.workersPerListener).map fun worker => .bind (.listen listener.toProxyListenerConfig worker)

def Plan.setup (plan : Plan) : List Setup :=
  .restore :: (if plan.refreshesGeo then [.spawn .refreshGeo] else []) ++ (if plan.refreshesThreat then [.spawn .refreshThreat] else []) ++
    .spawn .prune :: plan.checkedGroups.map (fun group => .spawn (.healthChecks group)) ++
    (if plan.config.proxy.metrics.enabled then [.spawn .metrics] else []) ++ plan.listening

inductive ServerStage where
  | starting (rest : List Setup)
  | awaiting (next : Nat)
  | returned (result : Except String Unit)

structure Server where
  tasks : List (Duty × Task)
  stage : ServerStage

-- `answer` is what restore_persistent_state or a bind comes to.
def Server.turn (server : Server) (answer : Except String Unit) : Option Server :=
  match server.stage with
  | .starting [] => some {server with stage:=.awaiting 0}
  | .starting (.spawn duty :: rest) => some ⟨server.tasks ++ [(duty,.running)],.starting rest⟩
  | .starting (.restore :: rest) =>
    match answer with
    | .ok _ => some {server with stage:=.starting rest}
    | .error error => some {server with stage:=.returned (.error error)}
  | .starting (.bind duty :: rest) =>
    match answer with
    | .ok _ => some ⟨server.tasks ++ [(duty,.running)],.starting rest⟩
    | .error error => some {server with stage:=.returned (.error error)}
  | .awaiting next =>
    match server.tasks[next]? with
    | none => some {server with stage:=.returned (.ok ())}
    | some (_,.ended outcome) =>
      match outcome.result with
      | .ok _ => some {server with stage:=.awaiting (next + 1)}
      | .error error => some {server with stage:=.returned (.error error)}
    | some (_,.running) => none
  | .returned _ => none

end Server

section App

inductive Job where
  | leaderMonitor
  | activeStandby
  | stateReplication
  | cleanup
  | server
  deriving DecidableEq, Repr

inductive JobState where
  | running
  | ended (outcome : Outcome)
  | joined (outcome : Outcome)
  deriving DecidableEq, Repr

def JobState.result : JobState → Option Outcome
  | .joined outcome => some outcome
  | _ => none

-- In the order of spawning. Without an active-standby runtime the addon has its monitor.
def Plan.jobs (plan : Plan) : List Job :=
  (if plan.addon && !plan.config.ha.enabled then [.leaderMonitor] else []) ++
    (if plan.config.ha.enabled then [.activeStandby,.stateReplication] else []) ++
    (if plan.config.persistence.enabled then [.cleanup] else []) ++ [.server]

inductive AppStage where
  | selecting
  | draining
  | stopping
  | returned (result : Except String Unit)

-- The last two are what has been joined, in that order, and whether the signal came first.
structure App where
  jobs : List (Job × JobState)
  server : Server
  shutdown : Bool
  stage : AppStage
  taskFailure : Option String
  joined : List (Job × Outcome)
  signalled : Bool

def start (plan : Plan) : App :=
  ⟨plan.jobs.map fun job => (job,.running),⟨[],.starting plan.setup⟩,false,.selecting,none,[],false⟩

inductive Action where
  | ends (index : Nat) (outcome : Outcome)
  | dutyEnds (index : Nat) (outcome : Outcome)
  | serve (answer : Except String Unit)
  | signal (waited : Except String Unit)
  | join (index : Nat)
  | joinNone
  | stop (answer : Except String Unit)

def Outcome.unexpected : Outcome → String
  | .finished => "background task exited unexpectedly"
  | .failed error => error
  | .panicked text => "background task panicked: " ++ text

def Outcome.late : Outcome → Option String
  | .finished => none
  | .failed error => some error
  | .panicked text => some ("background task panicked: " ++ text)

def Server.outcome (server : Server) : Option Outcome :=
  match server.stage with
  | .returned (.ok _) => some .finished
  | .returned (.error error) => some (.failed error)
  | _ => none

namespace App

def setServer (app : App) (server : Server) : App :=
  match server.outcome with
  | none => {app with server:=server}
  | some outcome =>
    {app with server:=server,jobs:=app.jobs.map fun entry => if entry.1 = .server then (entry.1,.ended outcome) else entry}

-- The tasks of the process end when and how they like, but for the loops of the server.
def environs (app : App) : Action → Option App
  | .ends index outcome =>
    match app.jobs[index]? with
    | some (job,.running) => if job = .server then none else some {app with jobs:=app.jobs.set index (job,.ended outcome)}
    | _ => none
  | .dutyEnds index outcome =>
    match app.server.tasks[index]? with
    | some (duty,.running) =>
      if duty.permits app.shutdown outcome then
        some {app with server:={app.server with tasks:=app.server.tasks.set index (duty,.ended outcome)}}
      else none
    | _ => none
  | _ => none

def supervises (app : App) : Action → Option App
  | .serve answer => (app.server.turn answer).map app.setServer
  | .signal waited =>
    match app.stage,waited with
    | .selecting,.ok _ => some {app with stage:=.draining,shutdown:=true,signalled:=true}
    | .selecting,.error _ => some {app with stage:=.returned (.error "failed to wait for shutdown signal")}
    | _,_ => none
  | .join index =>
    match app.jobs[index]? with
    | some (job,.ended outcome) =>
      let jobs := app.jobs.set index (job,.joined outcome)
      let joined := app.joined ++ [(job,outcome)]
      match app.stage with
      | .selecting => some {app with jobs:=jobs,joined:=joined,stage:=.draining,shutdown:=true,taskFailure:=some outcome.unexpected}
      | .draining => some {app with jobs:=jobs,joined:=joined,taskFailure:=app.taskFailure.or outcome.late}
      | _ => none
    | _ => none
  | .joinNone =>
    if app.jobs.all fun entry => entry.2.result.isSome then
      match app.stage with
      | .selecting => some {app with stage:=.draining,shutdown:=true,taskFailure:=some "all background tasks exited unexpectedly"}
      | .draining => some {app with stage:=.stopping}
      | _ => none
    else none
  | .stop answer =>
    match app.stage,answer with
    | .stopping,.error error => some {app with stage:=.returned (.error error)}
    | .stopping,.ok _ => some {app with stage:=.returned (app.taskFailure.elim (.ok ()) .error)}
    | _,_ => none
  | _ => none

-- A step of what runs, or of app::run and the server that wait for it.
def advance (app : App) (action : Action) : Option App :=
  match app.stage with
  | .returned _ => none
  | _ => (app.environs action).or (app.supervises action)

end App
end App

section Steps

-- What one step does, whoever makes it.
inductive Step (app : App) : Action → App → Prop where
  | ends : app.jobs[index]? = some (job,.running) → job ≠ .server →
    Step app (.ends index outcome) {app with jobs:=app.jobs.set index (job,.ended outcome)}
  | dutyEnds : app.server.tasks[index]? = some (duty,.running) → duty.permits app.shutdown outcome = true →
    Step app (.dutyEnds index outcome) {app with server:={app.server with tasks:=app.server.tasks.set index (duty,.ended outcome)}}
  | serve {answer : Except String Unit} {server : Server} : app.server.turn answer = some server → Step app (.serve answer) (app.setServer server)
  | signal : app.stage = .selecting → Step app (.signal (.ok ())) {app with stage:=.draining,shutdown:=true,signalled:=true}
  | unheard : app.stage = .selecting →
    Step app (.signal (.error error)) {app with stage:=.returned (.error "failed to wait for shutdown signal")}
  | joinFirst : app.jobs[index]? = some (job,.ended outcome) → app.stage = .selecting →
    Step app (.join index) {app with
      jobs:=app.jobs.set index (job,.joined outcome)
      joined:=app.joined ++ [(job,outcome)]
      stage:=.draining
      shutdown:=true
      taskFailure:=some outcome.unexpected}
  | joinNext : app.jobs[index]? = some (job,.ended outcome) → app.stage = .draining →
    Step app (.join index) {app with
      jobs:=app.jobs.set index (job,.joined outcome)
      joined:=app.joined ++ [(job,outcome)]
      taskFailure:=app.taskFailure.or outcome.late}
  | noneLeft : (∀ entry ∈ app.jobs, entry.2.result.isSome = true) → app.stage = .selecting →
    Step app .joinNone {app with stage:=.draining,shutdown:=true,taskFailure:=some "all background tasks exited unexpectedly"}
  | drained : (∀ entry ∈ app.jobs, entry.2.result.isSome = true) → app.stage = .draining → Step app .joinNone {app with stage:=.stopping}
  | stop {answer : Except String Unit} : app.stage = .stopping → Step app (.stop answer)
    {app with stage:=.returned (match answer with | .error error => .error error | .ok _ => app.taskFailure.elim (.ok ()) .error)}

theorem advance_step {app next : App} {action : Action} (stepped : app.advance action = some next) :
    Step app action next ∧ ∀ result, app.stage ≠ .returned result := by
  have running : ∀ result, app.stage ≠ .returned result := by
    intro result ended
    simp [App.advance,ended] at stepped
  have taken : (app.environs action).or (app.supervises action) = some next := by
    unfold App.advance at stepped
    split at stepped
    · cases stepped
    · exact stepped
  refine ⟨?_,running⟩
  cases action with
  | ends index outcome =>
      simp only [App.environs,App.supervises,Option.or_none] at taken
      split at taken
      · rename_i job found
        split at taken
        · cases taken
        · rename_i other
          cases taken
          exact .ends found other
      · cases taken
  | dutyEnds index outcome =>
      simp only [App.environs,App.supervises,Option.or_none] at taken
      split at taken
      · rename_i duty found
        split at taken
        · rename_i permitted
          cases taken
          exact .dutyEnds found permitted
        · cases taken
      · cases taken
  | serve answer =>
      obtain ⟨server,turned,rfl⟩ := Option.map_eq_some_iff.mp taken
      exact .serve turned
  | signal waited =>
      simp only [App.environs,App.supervises,Option.none_or] at taken
      split at taken
      · rename_i selecting
        cases taken
        exact .signal selecting
      · rename_i selecting
        cases taken
        exact .unheard selecting
      · cases taken
  | join index =>
      simp only [App.environs,App.supervises,Option.none_or] at taken
      split at taken
      · rename_i job outcome found
        split at taken
        · rename_i selecting
          cases taken
          exact .joinFirst found selecting
        · rename_i draining
          cases taken
          exact .joinNext found draining
        · cases taken
      · cases taken
  | joinNone =>
      simp only [App.environs,App.supervises,Option.none_or] at taken
      split at taken
      · rename_i left
        rw [List.all_eq_true] at left
        split at taken
        · rename_i selecting
          cases taken
          exact .noneLeft left selecting
        · rename_i draining
          cases taken
          exact .drained left draining
        · cases taken
      · cases taken
  | stop answer =>
      simp only [App.environs,App.supervises,Option.none_or] at taken
      split at taken
      · rename_i stopping
        cases taken
        exact .stop stopping
      · rename_i stopping
        cases taken
        exact .stop stopping
      · cases taken

end Steps

section Duties

def Setup.duty : Setup → Option Duty
  | .restore => none
  | .spawn duty => some duty
  | .bind duty => some duty

def Plan.duties (plan : Plan) : List Duty := plan.setup.filterMap Setup.duty

-- What the server has started so far.
def Server.Begun (plan : Plan) (server : Server) (rest : List Setup) : Prop :=
  ∃ before, plan.setup = before ++ rest ∧ server.tasks.map Prod.fst = before.filterMap Setup.duty

def Ended (tasks : List (Duty × Task)) (index : Nat) (outcome : Outcome) : Prop := ∃ duty, tasks[index]? = some (duty,.ended outcome)

-- An error comes from the first of the tasks, in the order of their start, that has not finished well.
def Server.Blames (server : Server) (error : String) : Prop :=
  ∃ index outcome, Ended server.tasks index outcome ∧ outcome.result = .error error ∧ ∀ earlier < index, Ended server.tasks earlier .finished

def Server.Told (plan : Plan) (server : Server) : ServerStage → Prop
  | .starting rest => server.Begun plan rest
  | .awaiting next => server.Begun plan [] ∧ next ≤ server.tasks.length ∧ ∀ index < next, Ended server.tasks index .finished
  | .returned (.ok _) => server.Begun plan [] ∧ ∀ index < server.tasks.length, Ended server.tasks index .finished
  | .returned (.error error) => (∃ step rest, server.Begun plan (step :: rest)) ∨ server.Begun plan [] ∧ server.Blames error

theorem Ended.kept {tasks : List (Duty × Task)} (ended : Ended tasks index outcome) (running : tasks[other]? = some (duty,.running))
    (entry : Duty × Task) : Ended (tasks.set other entry) index outcome := by
  obtain ⟨duty,found⟩ := ended
  have apart : other ≠ index := by
    rintro rfl
    cases running.symm.trans found
  exact ⟨duty,(List.getElem?_set_ne apart).trans found⟩

theorem map_fst_set {Key Value : Type} {entries : List (Key × Value)} {index : Nat} {key : Key} {old : Value} (found : entries[index]? = some (key,old)) (value : Value) :
    (entries.set index (key,value)).map Prod.fst = entries.map Prod.fst := by
  obtain ⟨within,same⟩ := List.getElem?_eq_some_iff.mp found
  have mapped : index < (entries.map Prod.fst).length := by simpa using within
  have named : (entries.map Prod.fst)[index] = key := by simp [same]
  rw [List.map_set,← named,List.set_getElem_self]

-- A task that ends is none that has been waited for.
theorem told_ended {plan : Plan} {server : Server} (told : server.Told plan stage) (running : server.tasks[index]? = some (duty,.running))
    (outcome : Outcome) : Server.Told plan {server with tasks:=server.tasks.set index (duty,.ended outcome)} stage := by
  have begun {rest : List Setup} (begun : server.Begun plan rest) :
      Server.Begun plan {server with tasks:=server.tasks.set index (duty,.ended outcome)} rest := by
    obtain ⟨before,split,names⟩ := begun
    exact ⟨before,split,(map_fst_set running _).trans names⟩
  cases stage with
  | starting rest => exact begun told
  | awaiting next =>
      obtain ⟨started,within,finished⟩ := told
      exact ⟨begun started,by simpa using within,fun earlier before => (finished earlier before).kept running _⟩
  | returned result =>
      cases result with
      | ok _ =>
          obtain ⟨started,finished⟩ := told
          exact ⟨begun started,fun earlier before => (finished earlier (by simpa using before)).kept running _⟩
      | error error =>
          rcases told with ⟨step,rest,started⟩ | ⟨started,blamed,outcome',ended,bad,finished⟩
          · exact .inl ⟨step,rest,begun started⟩
          · exact .inr ⟨begun started,blamed,outcome',ended.kept running _,bad,fun earlier before => (finished earlier before).kept running _⟩

theorem Server.Begun.spawn {plan : Plan} {server : Server} {step : Setup} (begun : server.Begun plan (step :: rest)) (spawns : step.duty = some duty)
    (stage : ServerStage) : Server.Begun plan ⟨server.tasks ++ [(duty,.running)],stage⟩ rest := by
  obtain ⟨before,split,names⟩ := begun
  exact ⟨before ++ [step],by simp [split],by simp [names,spawns]⟩

theorem told_turn {plan : Plan} {server next : Server} {answer : Except String Unit} (told : server.Told plan server.stage)
    (turned : server.turn answer = some next) :
    next.Told plan next.stage := by
  obtain ⟨tasks,stage⟩ := server
  unfold Server.turn at turned
  dsimp only at turned told
  split at turned
  · cases turned
    exact ⟨told,Nat.zero_le _,fun index early => absurd early (Nat.not_lt_zero _)⟩
  · cases turned
    exact told.spawn rfl _
  · split at turned
    · cases turned
      obtain ⟨before,split,names⟩ := told
      exact ⟨before ++ [.restore],by simp [split],by simp [Setup.duty,List.filterMap_cons,names]⟩
    · cases turned
      exact .inl ⟨_,_,told⟩
  · split at turned
    · cases turned
      exact told.spawn rfl _
    · cases turned
      exact .inl ⟨_,_,told⟩
  · obtain ⟨started,within,finished⟩ := told
    split at turned
    · rename_i beyond
      cases turned
      exact ⟨started,fun index early => finished index (Nat.lt_of_lt_of_le early (List.getElem?_eq_none_iff.mp beyond))⟩
    · rename_i duty outcome found
      split at turned
      · rename_i well
        cases turned
        refine ⟨started,(List.getElem?_eq_some_iff.mp found).1,fun index early => ?_⟩
        rcases Nat.lt_succ_iff_lt_or_eq.mp early with before | rfl
        · exact finished index before
        · cases outcome with
          | finished => exact ⟨duty,found⟩
          | failed error => cases well
          | panicked text => cases well
      · rename_i error bad
        cases turned
        exact .inr ⟨started,_,outcome,⟨duty,found⟩,bad,finished⟩
    · cases turned
  · cases turned

end Duties

section Jobs

def joinedEntry (entry : Job × JobState) : Option (Job × Outcome) := entry.2.result.map fun outcome => (entry.1,outcome)

-- What app::run makes of what it has joined: without a signal the first task should not have ended at all.
def reported (signalled : Bool) (joined : List (Job × Outcome)) : Option String :=
  if signalled then joined.findSome? fun entry => entry.2.late else joined.head?.map fun entry => entry.2.unexpected

def concluded (answer : Except String Unit) (failure : Option String) : Except String Unit :=
  match answer with
  | .error error => .error error
  | .ok _ => failure.elim (.ok ()) .error

-- The entry of the server stands where the server does.
def Serves (server : Server) (state : JobState) : Prop :=
  match server.outcome with
  | none => state = .running
  | some outcome => state = .ended outcome ∨ state = .joined outcome

def App.Told (actions : List Action) (app : App) : AppStage → Prop
  | .selecting => app.shutdown = false ∧ app.joined = [] ∧ app.signalled = false ∧ app.taskFailure = none
  | .draining => app.shutdown = true ∧ (app.signalled = true ∨ app.joined ≠ []) ∧ app.taskFailure = reported app.signalled app.joined
  | .stopping => app.shutdown = true ∧ (∀ entry ∈ app.jobs, entry.2.result.isSome = true) ∧ app.taskFailure = reported app.signalled app.joined
  | .returned result =>
    ((∃ error, .signal (.error error) ∈ actions) ∧ result = .error "failed to wait for shutdown signal" ∧ app.shutdown = false ∧ app.joined = []) ∨
      app.shutdown = true ∧ (∀ entry ∈ app.jobs, entry.2.result.isSome = true) ∧
        ∃ answer, .stop answer ∈ actions ∧ result = concluded answer (reported app.signalled app.joined)

structure Sound (plan : Plan) (actions : List Action) (app : App) : Prop where
  server : app.server.Told plan app.server.stage
  loops : ∀ entry ∈ app.server.tasks, entry.1.loops = true → ∀ outcome, entry.2 = .ended outcome →
    (outcome = .finished → app.shutdown = true) ∧ ∀ error, outcome ≠ .failed error
  jobs : app.jobs.map Prod.fst = plan.jobs
  serves : ∀ entry ∈ app.jobs, entry.1 = .server → Serves app.server entry.2
  joined : app.joined.Perm (app.jobs.filterMap joinedEntry)
  told : app.Told actions app.stage

theorem start_sound (plan : Plan) : Sound plan [] (start plan) where
  server := ⟨[],rfl,rfl⟩
  loops := by simp [start]
  jobs := by simp [start,Function.comp_def]
  serves := by simp [start,Serves,Server.outcome]
  joined := by simp [start,joinedEntry,JobState.result]
  told := ⟨rfl,rfl,rfl,rfl⟩

theorem turn_outcome {server next : Server} {answer : Except String Unit} (turned : server.turn answer = some next) : server.outcome = none := by
  unfold Server.turn at turned
  unfold Server.outcome
  cases stage : server.stage with
  | starting rest => rfl
  | awaiting next => rfl
  | returned result => simp [stage] at turned

theorem told_more {app : App} (told : app.Told actions stage) (action : Action) : app.Told (actions ++ [action]) stage := by
  cases stage with
  | selecting => exact told
  | draining => exact told
  | stopping => exact told
  | returned result =>
      rcases told with ⟨⟨error,member⟩,rest⟩ | ⟨sent,all,answer,member,same⟩
      · exact .inl ⟨⟨error,List.mem_append_left _ member⟩,rest⟩
      · exact .inr ⟨sent,all,answer,List.mem_append_left _ member,same⟩

theorem filterMap_set_same {Entry Value : Type} {entries : List Entry} {view : Entry → Option Value} {index : Nat} {old entry : Entry}
    (found : entries[index]? = some old) (same : view entry = view old) : (entries.set index entry).filterMap view = entries.filterMap view := by
  obtain ⟨within,rfl⟩ := List.getElem?_eq_some_iff.mp found
  rw [List.set_eq_take_append_cons_drop,if_pos within]
  conv => rhs; rw [← List.take_append_drop index entries,List.drop_eq_getElem_cons within]
  simp only [List.filterMap_append,List.filterMap_cons,same]

theorem filterMap_set_more {Entry Value : Type} {entries : List Entry} {view : Entry → Option Value} {index : Nat} {old entry : Entry} {value : Value}
    (found : entries[index]? = some old) (unseen : view old = none) (seen : view entry = some value) :
    (entries.filterMap view ++ [value]).Perm ((entries.set index entry).filterMap view) := by
  obtain ⟨within,rfl⟩ := List.getElem?_eq_some_iff.mp found
  rw [List.set_eq_take_append_cons_drop,if_pos within]
  conv => lhs; rw [← List.take_append_drop index entries,List.drop_eq_getElem_cons within]
  simp only [List.filterMap_append,List.filterMap_cons,unseen,seen,List.append_assoc]
  exact (List.perm_append_singleton value _).append_left _

section Server
variable {app : App} {server : Server}

@[simp] theorem setServer_server : (app.setServer server).server = server := by unfold App.setServer; split <;> rfl
@[simp] theorem setServer_shutdown : (app.setServer server).shutdown = app.shutdown := by unfold App.setServer; split <;> rfl
@[simp] theorem setServer_stage : (app.setServer server).stage = app.stage := by unfold App.setServer; split <;> rfl
@[simp] theorem setServer_taskFailure : (app.setServer server).taskFailure = app.taskFailure := by unfold App.setServer; split <;> rfl
@[simp] theorem setServer_joined : (app.setServer server).joined = app.joined := by unfold App.setServer; split <;> rfl
@[simp] theorem setServer_signalled : (app.setServer server).signalled = app.signalled := by unfold App.setServer; split <;> rfl

-- The entry of a server that has not returned runs; it ends when the server returns.
theorem setServer_jobs (running : ∀ entry ∈ app.jobs, entry.1 = .server → entry.2 = .running) :
    (app.setServer server).jobs.map Prod.fst = app.jobs.map Prod.fst ∧
    (app.setServer server).jobs.filterMap joinedEntry = app.jobs.filterMap joinedEntry ∧
    ∀ entry ∈ (app.setServer server).jobs, (entry.1 ≠ .server ∧ entry ∈ app.jobs) ∨ (entry.1 = .server ∧ Serves server entry.2) := by
  unfold App.setServer Serves
  cases ended : server.outcome with
  | none =>
      refine ⟨rfl,rfl,fun entry member => ?_⟩
      by_cases serves : entry.1 = .server
      · exact .inr ⟨serves,running entry member serves⟩
      · exact .inl ⟨serves,member⟩
  | some outcome =>
      refine ⟨?_,?_,fun entry member => ?_⟩
      · rw [List.map_map]
        refine List.map_congr_left fun entry member => ?_
        dsimp only [Function.comp_apply]
        split <;> rfl
      · rw [List.filterMap_map]
        refine List.filterMap_congr fun entry member => ?_
        dsimp only [Function.comp_apply]
        split
        · rename_i serves
          simp [joinedEntry,running entry member serves,JobState.result]
        · rfl
      · obtain ⟨old,listed,rfl⟩ := List.mem_map.mp member
        split
        · rename_i serves
          exact .inr ⟨serves,.inl rfl⟩
        · rename_i other
          exact .inl ⟨other,listed⟩

end Server

theorem serves_joined {server : Server} (serves : Serves server (.ended outcome)) : Serves server (.joined outcome) := by
  unfold Serves at serves ⊢
  cases ended : server.outcome with
  | none => simp [ended] at serves
  | some other =>
      have same : other = outcome := by simpa [ended,eq_comm] using serves
      exact .inr (congrArg JobState.joined same.symm)

theorem reported_snoc {joined : List (Job × Outcome)} (started : signalled = true ∨ joined ≠ []) (entry : Job × Outcome) :
    (reported signalled joined).or entry.2.late = reported signalled (joined ++ [entry]) := by
  cases signalled with
  | true => simp [reported,List.findSome?_append]
  | false =>
      cases joined with
      | nil => simp at started
      | cons first rest => simp [reported]

theorem turn_tasks {server next : Server} {answer : Except String Unit} (turned : server.turn answer = some next) (member : entry ∈ next.tasks) :
    entry ∈ server.tasks ∨ entry.2 = .running := by
  unfold Server.turn at turned
  split at turned
  · cases turned
    exact .inl member
  · cases turned
    exact (List.mem_append.mp member).imp_right fun last => by rw [List.mem_singleton.mp last]
  · split at turned <;> cases turned <;> exact .inl member
  · split at turned
    · cases turned
      exact (List.mem_append.mp member).imp_right fun last => by rw [List.mem_singleton.mp last]
    · cases turned
      exact .inl member
  · split at turned
    · cases turned
      exact .inl member
    · split at turned <;> cases turned <;> exact .inl member
    · cases turned
  · cases turned

theorem server_listed (plan : Plan) : Job.server ∈ plan.jobs := by simp [Plan.jobs]

theorem step_sound {app next : App} {action : Action} (sound : Sound plan actions app) (step : Step app action next) :
    Sound plan (actions ++ [action]) next := by
  have told := told_more sound.told action
  cases step with
  | ends found other =>
      rename_i index job outcome
      have unjoined : ¬ ∀ entry ∈ app.jobs, entry.2.result.isSome = true := fun all => by
        simpa [JobState.result] using all _ (List.mem_of_getElem? found)
      refine ⟨sound.server,sound.loops,(map_fst_set found _).trans sound.jobs,fun entry member isServer => ?_,?_,?_⟩
      · rcases List.mem_or_eq_of_mem_set member with old | rfl
        · exact sound.serves entry old isServer
        · exact absurd isServer other
      · have kept : (app.jobs.set index (job,.ended outcome)).filterMap joinedEntry = app.jobs.filterMap joinedEntry := filterMap_set_same found rfl
        show app.joined.Perm ((app.jobs.set index (job,.ended outcome)).filterMap joinedEntry)
        rw [kept]
        exact sound.joined
      · revert told
        show App.Told _ _ app.stage → App.Told _ _ app.stage
        cases app.stage with
        | selecting => exact id
        | draining => exact id
        | stopping => exact fun told => absurd told.2.1 unjoined
        | returned result => exact Or.imp_right fun done => absurd done.2.1 unjoined
  | dutyEnds found permitted =>
      rename_i index duty outcome
      refine ⟨told_ended sound.server found outcome,fun entry member loops result ended => ?_,sound.jobs,sound.serves,sound.joined,told⟩
      rcases List.mem_or_eq_of_mem_set member with old | rfl
      · exact sound.loops entry old loops result ended
      · cases ended
        cases outcome with
        | finished => exact ⟨fun _ => (by simpa [Duty.permits,loops] using permitted),fun _ same => (by cases same)⟩
        | failed error => simp [Duty.permits,loops] at permitted
        | panicked text => exact ⟨fun same => (by cases same),fun _ same => (by cases same)⟩
  | serve turned =>
      rename_i answer server
      have before := turn_outcome turned
      have running : ∀ entry ∈ app.jobs, entry.1 = .server → entry.2 = .running := fun entry member isServer => by
        simpa [Serves,before] using sound.serves entry member isServer
      obtain ⟨names,ends,entries⟩ := setServer_jobs running
      refine ⟨by simpa using told_turn sound.server turned,?_,names.trans sound.jobs,fun entry member isServer => ?_,?_,?_⟩
      · intro entry member loops result ended
        rw [setServer_server] at member
        rw [setServer_shutdown]
        rcases turn_tasks turned member with old | fresh
        · exact sound.loops entry old loops result ended
        · cases fresh.symm.trans ended
      · rcases entries entry member with old | new
        · exact absurd isServer old.1
        · simpa using new.2
      · rw [ends]
        simpa using sound.joined
      · have unjoined : ¬ ∀ entry ∈ app.jobs, entry.2.result.isSome = true := fun all => by
          obtain ⟨entry,member,isServer⟩ := List.mem_map.mp (sound.jobs ▸ server_listed plan)
          have stands := all entry member
          simp [running entry member isServer,JobState.result] at stands
        rw [setServer_stage]
        revert told
        cases app.stage with
        | selecting => simp [App.Told]
        | draining => simp [App.Told]
        | stopping => exact fun told => absurd told.2.1 unjoined
        | returned result =>
            intro told
            rcases told with ⟨heard,same,open',none⟩ | ⟨_,all,_⟩
            · exact .inl ⟨heard,same,by simpa using open',by simpa using none⟩
            · exact absurd all unjoined
  | signal selecting =>
      rw [selecting] at told
      obtain ⟨_,joined,_,failure⟩ := told
      exact ⟨sound.server,fun entry member loops result ended => ⟨fun _ => rfl,(sound.loops entry member loops result ended).2⟩,sound.jobs,sound.serves,
        sound.joined,rfl,.inl rfl,by simp [failure,joined,reported]⟩
  | unheard selecting =>
      rename_i error
      rw [selecting] at told
      exact ⟨sound.server,sound.loops,sound.jobs,sound.serves,sound.joined,.inl ⟨⟨error,by simp⟩,rfl,told.1,told.2.1⟩⟩
  | joinFirst found selecting =>
      rename_i index job outcome
      rw [selecting] at told
      obtain ⟨_,joined,unsignalled,_⟩ := told
      refine ⟨sound.server,fun entry member loops result ended => ⟨fun _ => rfl,(sound.loops entry member loops result ended).2⟩,
        (map_fst_set found _).trans sound.jobs,fun entry member isServer => ?_,
        (sound.joined.append_right _).trans (filterMap_set_more found rfl rfl),rfl,.inr (by simp),?_⟩
      · rcases List.mem_or_eq_of_mem_set member with old | rfl
        · exact sound.serves entry old isServer
        · exact serves_joined (sound.serves _ (List.mem_of_getElem? found) isServer)
      · simp [reported,unsignalled,joined]
  | joinNext found draining =>
      rename_i index job outcome
      rw [draining] at told
      obtain ⟨sent,started,failure⟩ := told
      refine ⟨sound.server,sound.loops,(map_fst_set found _).trans sound.jobs,fun entry member isServer => ?_,
        (sound.joined.append_right _).trans (filterMap_set_more found rfl rfl),?_⟩
      · rcases List.mem_or_eq_of_mem_set member with old | rfl
        · exact sound.serves entry old isServer
        · exact serves_joined (sound.serves _ (List.mem_of_getElem? found) isServer)
      · show App.Told _ _ app.stage
        rw [draining]
        exact ⟨sent,.inr (by simp),by rw [failure]; exact reported_snoc started (job,outcome)⟩
  | noneLeft left selecting =>
      rw [selecting] at told
      obtain ⟨entry,member,_⟩ := List.mem_map.mp (sound.jobs ▸ server_listed plan)
      obtain ⟨outcome,stands⟩ := Option.isSome_iff_exists.mp (left entry member)
      have listed : (entry.1,outcome) ∈ app.joined := sound.joined.mem_iff.mpr (List.mem_filterMap.mpr ⟨entry,member,by simp [joinedEntry,stands]⟩)
      simp [told.2.1] at listed
  | drained left draining =>
      rw [draining] at told
      exact ⟨sound.server,sound.loops,sound.jobs,sound.serves,sound.joined,told.1,left,told.2.2⟩
  | stop stopping =>
      rename_i answer
      rw [stopping] at told
      refine ⟨sound.server,sound.loops,sound.jobs,sound.serves,sound.joined,.inr ⟨told.1,told.2.1,answer,by simp,?_⟩⟩
      rw [← told.2.2]
      cases answer <;> rfl

theorem run_sound (ran : Machine.run App.advance (start plan) actions = some app) : Sound plan actions app := by
  induction actions using List.reverseRecOn generalizing app with
  | nil =>
      cases ran
      exact start_sound plan
  | append_singleton actions last ih =>
      obtain ⟨before,reached,stepped⟩ := Machine.run_append.mp ran
      obtain ⟨_,taken,done⟩ := Machine.run_cons.mp stepped
      cases done
      exact step_sound (ih reached) (advance_step taken).1

theorem joined_names {jobs : List (Job × JobState)} (all : ∀ entry ∈ jobs, entry.2.result.isSome = true) :
    (jobs.filterMap joinedEntry).map Prod.fst = jobs.map Prod.fst := by
  induction jobs with
  | nil => rfl
  | cons entry rest ih =>
      obtain ⟨outcome,stands⟩ := Option.isSome_iff_exists.mp (all entry List.mem_cons_self)
      have seen : joinedEntry entry = some (entry.1,outcome) := by simp [joinedEntry,stands]
      rw [List.filterMap_cons_some seen,List.map_cons,List.map_cons,ih fun other member => all other (List.mem_cons_of_mem _ member)]

-- A listener panics at once and is heard of at the shutdown.
def tenantPlan : Plan := ⟨{Upstream.Routing.tenantConfig with persistence:={Upstream.Routing.tenantConfig.persistence with enabled:=true}},false,false,[],1,false⟩

def crash : List Action := .replicate 5 (.serve (.ok ())) ++ [.dutyEnds 1 (.panicked "udp")]

def crashed : List Action :=
  crash ++ [.signal (.ok ()),.dutyEnds 0 .finished,.serve (.ok ()),.serve (.ok ()),.ends 0 .finished,.join 1,.join 0,.joinNone,.stop (.ok ())]

end Jobs

section Watching

theorem Server.Begun.all {plan : Plan} {server : Server} (begun : server.Begun plan []) : server.tasks.map Prod.fst = plan.duties := by
  obtain ⟨before,split,names⟩ := begun
  rw [names,Plan.duties,split,List.append_nil]

theorem duties_loop (plan : Plan) : ∃ duty rest, plan.duties = duty :: rest ∧ duty.loops = true := by
  unfold Plan.duties Plan.setup
  cases plan.refreshesGeo with
  | true => exact ⟨.refreshGeo,_,rfl,rfl⟩
  | false =>
      cases plan.refreshesThreat with
      | true => exact ⟨.refreshThreat,_,rfl,rfl⟩
      | false => exact ⟨.prune,_,rfl,rfl⟩

theorem Server.Begun.first {plan : Plan} {server : Server} (begun : server.Begun plan []) :
    ∃ duty task, server.tasks[0]? = some (duty,task) ∧ duty.loops = true := by
  obtain ⟨duty,rest,named,loops⟩ := duties_loop plan
  obtain ⟨entry,others,split,first,_⟩ := List.map_eq_cons_iff.mp (begun.all.trans named)
  exact ⟨duty,entry.2,by simp [split,← first],loops⟩

end Watching

section Ending

-- What app::run and the server do by themselves.
def Action.waits : Action → Bool
  | .serve _ => true
  | .join _ => true
  | .joinNone => true
  | .stop _ => true
  | _ => false

def Server.work (server : Server) : Nat :=
  match server.stage with
  | .starting rest => server.tasks.length + (rest.filterMap Setup.duty).length + rest.length + 2
  | .awaiting next => server.tasks.length - next + 1
  | .returned _ => 0

def AppStage.work : AppStage → Nat
  | .selecting => 3
  | .draining => 2
  | .stopping => 1
  | .returned _ => 0

def App.work (app : App) : Nat := app.server.work + (app.jobs.length - app.joined.length) + app.stage.work

theorem turn_work {server next : Server} {answer : Except String Unit} (turned : server.turn answer = some next) : next.work < server.work := by
  obtain ⟨tasks,stage⟩ := server
  unfold Server.turn at turned
  dsimp only at turned
  split at turned
  · cases turned
    simp [Server.work]
  · cases turned
    simp only [Server.work,List.filterMap_cons,Setup.duty,List.length_append,List.length_cons,List.length_nil]
    omega
  · split at turned <;> cases turned <;> simp [Server.work,Setup.duty,List.filterMap_cons]
  · split at turned
    · cases turned
      simp only [Server.work,List.filterMap_cons,Setup.duty,List.length_append,List.length_cons,List.length_nil]
      omega
    · cases turned
      simp [Server.work]
  · split at turned
    · cases turned
      simp [Server.work]
    · rename_i found
      have within := (List.getElem?_eq_some_iff.mp found).1
      split at turned
      · cases turned
        simp only [Server.work]
        omega
      · cases turned
        simp [Server.work]
    · cases turned
  · cases turned

theorem Sound.few {app : App} (sound : Sound plan actions app) : app.joined.length ≤ app.jobs.length := by
  rw [sound.joined.length_eq]
  exact List.length_filterMap_le _ _

theorem step_work {app next : App} {action : Action} (sound : Sound plan actions app) (step : Step app action next) :
    next.work + (if action.waits then 1 else 0) ≤ app.work := by
  have few := (step_sound sound step).few
  cases step with
  | ends found other => simp [App.work,Action.waits]
  | dutyEnds found permitted =>
      simp [App.work,Action.waits,Server.work]
  | serve turned =>
      have less := turn_work turned
      have same (server : Server) : (app.setServer server).jobs.length = app.jobs.length := by
        unfold App.setServer
        split <;> simp
      simp only [App.work,Action.waits,setServer_server,setServer_joined,setServer_stage,same,if_true]
      omega
  | signal selecting => simp [App.work,Action.waits,selecting,AppStage.work]
  | unheard selecting => simp [App.work,Action.waits,selecting,AppStage.work]
  | joinFirst found selecting =>
      simp only [List.length_append,List.length_set,List.length_cons,List.length_nil] at few
      simp only [App.work,Action.waits,selecting,AppStage.work,List.length_append,List.length_set,List.length_cons,List.length_nil,if_true]
      omega
  | joinNext found draining =>
      simp only [List.length_append,List.length_set,List.length_cons,List.length_nil] at few
      simp only [App.work,Action.waits,draining,AppStage.work,List.length_append,List.length_set,List.length_cons,List.length_nil,if_true]
      omega
  | noneLeft left selecting => simp [App.work,Action.waits,selecting,AppStage.work]
  | drained left draining => simp [App.work,Action.waits,draining,AppStage.work]
  | stop stopping => simp [App.work,Action.waits,stopping,AppStage.work]

theorem run_work (ran : Machine.run App.advance (start plan) actions = some app) :
    app.work + actions.countP Action.waits ≤ (start plan).work := by
  induction actions using List.reverseRecOn generalizing app with
  | nil =>
      cases ran
      exact Nat.le_refl _
  | append_singleton actions last ih =>
      obtain ⟨before,reached,stepped⟩ := Machine.run_append.mp ran
      obtain ⟨_,taken,done⟩ := Machine.run_cons.mp stepped
      cases done
      have earlier := ih reached
      have less := step_work (run_sound reached) (advance_step taken).1
      rw [List.countP_append,List.countP_singleton]
      omega

theorem unreturned_turn {server : Server} (open' : server.outcome = none) :
    (server.turn (.ok ())).isSome = true ∨ ∃ entry ∈ server.tasks, entry.2 = .running := by
  obtain ⟨tasks,stage⟩ := server
  cases stage with
  | starting rest =>
      cases rest with
      | nil => exact .inl rfl
      | cons step rest => cases step <;> exact .inl rfl
  | awaiting next =>
      cases found : tasks[next]? with
      | none => exact .inl (by simp [Server.turn,found])
      | some entry =>
          obtain ⟨duty,task⟩ := entry
          cases task with
          | running => exact .inr ⟨_,List.mem_of_getElem? found,rfl⟩
          | ended outcome => cases outcome <;> exact .inl (by simp [Server.turn,found,Outcome.result])
  | returned result => cases result <;> cases open'

-- The process takes a bounded number of steps of its own, and until it has ended it has a next one,
-- unless it waits for a task that still runs.
theorem supervised_run_ends (ran : Machine.run App.advance (start plan) actions = some app) :
    actions.countP Action.waits ≤ plan.setup.length + plan.duties.length + plan.jobs.length + 5 ∧
    ((∃ result, app.stage = .returned result) ∨ (∃ action, action.waits = true ∧ (app.advance action).isSome = true) ∨
      (∃ entry ∈ app.jobs, entry.1 ≠ .server ∧ entry.2 = .running) ∨ ∃ entry ∈ app.server.tasks, entry.2 = .running) := by
  have sound := run_sound ran
  refine ⟨?_,?_⟩
  · have bounded := run_work ran
    have begins : (start plan).work = plan.duties.length + plan.setup.length + 2 + plan.jobs.length + 3 := by
      simp [start,App.work,Server.work,AppStage.work,Plan.duties]
    omega
  · by_cases returned : ∃ result, app.stage = .returned result
    · exact .inl returned
    · refine .inr ?_
      have goes (action : Action) (moves : ((app.environs action).or (app.supervises action)).isSome = true) : (app.advance action).isSome = true := by
        unfold App.advance
        split
        · rename_i result stage
          exact absurd ⟨result,stage⟩ returned
        · exact moves
      have joins (open' : app.stage = .selecting ∨ app.stage = .draining) : (∃ action, action.waits = true ∧ (app.advance action).isSome = true) ∨
          (∃ entry ∈ app.jobs, entry.1 ≠ .server ∧ entry.2 = .running) ∨ ∃ entry ∈ app.server.tasks, entry.2 = .running := by
        by_cases all : ∀ entry ∈ app.jobs, entry.2.result.isSome = true
        · have checked : (app.jobs.all fun entry => entry.2.result.isSome) = true := List.all_eq_true.mpr all
          refine .inl ⟨.joinNone,rfl,goes _ ?_⟩
          rcases open' with stage | stage <;> simp [App.environs,App.supervises,checked,stage]
        · simp only [not_forall] at all
          obtain ⟨⟨job,state⟩,member,unjoined⟩ := all
          obtain ⟨index,within,same⟩ := List.getElem_of_mem member
          have found : app.jobs[index]? = some (job,state) := by rw [List.getElem?_eq_getElem within,same]
          cases state with
          | joined outcome => exact absurd rfl unjoined
          | ended outcome =>
              refine .inl ⟨.join index,rfl,goes _ ?_⟩
              rcases open' with stage | stage <;> simp [App.environs,App.supervises,found,stage]
          | running =>
              by_cases isServer : job = .server
              · have serves := sound.serves _ member isServer
                have unreturned : app.server.outcome = none := by
                  unfold Serves at serves
                  cases ended : app.server.outcome with
                  | none => rfl
                  | some outcome => simp [ended] at serves
                rcases unreturned_turn unreturned with turns | waits
                · exact .inl ⟨.serve (.ok ()),rfl,goes _ (by simpa [App.environs,App.supervises] using turns)⟩
                · exact .inr (.inr waits)
              · exact .inr (.inl ⟨_,member,isServer,rfl⟩)
      cases stage : app.stage with
      | selecting => exact joins (.inl stage)
      | draining => exact joins (.inr stage)
      | stopping => exact .inl ⟨.stop (.ok ()),rfl,goes _ (by simp [App.environs,App.supervises,stage])⟩
      | returned result => exact absurd ⟨result,stage⟩ returned

theorem crash_ends : crashed.countP Action.waits ≤ tenantPlan.setup.length + tenantPlan.duties.length + tenantPlan.jobs.length + 5 := by
  obtain ⟨app,ran⟩ : ∃ app, Machine.run App.advance (start tenantPlan) crashed = some app := Option.isSome_iff_exists.mp rfl
  exact (supervised_run_ends ran).1

end Ending

end Sigproxy.Supervision
