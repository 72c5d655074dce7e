import Sigproxy.Ha.Election
import Sigproxy.Library.Changes
import Sigproxy.Library.Machine
import Sigproxy.Library.Throttle

namespace Sigproxy.Ha.Hooks
open Cluster Library Changes Election

section Addon

structure HaContext where
  nodeId : NodeId
  role : ClusterRole
  deriving DecidableEq, Repr

inductive Hook where
  | onBecomeLeader (ctx : HaContext)
  | onStepDown (ctx : HaContext)
  | onLeaderChanged (ctx : HaContext) (leader : Option NodeId)
  deriving DecidableEq, Repr

-- What the hook tells the outside: the node is the active one from now on, or no longer.
def Hook.turn : Hook → Option Bool
  | .onBecomeLeader _ => some true
  | .onStepDown _ => some false
  | .onLeaderChanged .. => none

def Hook.told : Hook → Option (Option NodeId)
  | .onLeaderChanged _ leader => some leader
  | _ => none

def Hook.name : Hook → String
  | .onBecomeLeader _ => "on_become_leader"
  | .onStepDown _ => "on_step_down"
  | .onLeaderChanged .. => "on_leader_changed"

def runRequiredHaHook (result : Except String Unit) (hook : String) : Except String Unit :=
  result.mapError fun _ => "required HA addon hook " ++ hook ++ " failed"

end Addon

section Observing

structure HaMonitorState where
  initialized : Bool
  previousRole : Option ClusterRole
  previousLeader : Option NodeId
  deriving DecidableEq, Repr

def HaMonitorState.default : HaMonitorState := ⟨false,none,none⟩

def isActiveRole : ClusterRole → Bool
  | .leader | .standalone => true
  | _ => false

-- The hook that must succeed before anything else is done.
def requiredHook (state : HaMonitorState) (nodeId : NodeId) (role : ClusterRole) : Option Hook :=
  let ctx := ⟨nodeId,role⟩
  let wasActive := state.previousRole.any isActiveRole
  let isActive := isActiveRole role
  if !state.initialized then (if isActive then some (.onBecomeLeader ctx) else none)
  else if wasActive && !isActive then some (.onStepDown ctx)
  else if !wasActive && isActive then some (.onBecomeLeader ctx)
  else none

def leaderHook (state : HaMonitorState) (nodeId : NodeId) (role : ClusterRole) (leader : Option NodeId) : Option Hook :=
  if !state.initialized || state.previousLeader ≠ leader then some (.onLeaderChanged ⟨nodeId,role⟩ leader) else none

-- The hooks that are run, and the state behind them. `result` is how each of them ends.
def observeHaState (state : HaMonitorState) (nodeId : NodeId) (result : Hook → Except String Unit) (role : ClusterRole)
    (leader : Option NodeId) : List Hook × Except String HaMonitorState :=
  let required := requiredHook state nodeId role
  match required.elim (.ok ()) fun hook => runRequiredHaHook (result hook) hook.name with
  | .error message => (required.toList,.error message)
  | .ok () => (required.toList ++ (leaderHook state nodeId role leader).toList,.ok ⟨true,some role,leader⟩)

-- What the replicator says at one tick of run_leader_monitor.
structure Observation where
  role : ClusterRole
  leader : Option NodeId
  result : Hook → Except String Unit

-- The loop, up to the first error.
def observeAll (nodeId : NodeId) : HaMonitorState → List Observation → List Hook × Except String HaMonitorState
  | state,[] => ([],.ok state)
  | state,observation :: rest =>
    match observeHaState state nodeId observation.result observation.role observation.leader with
    | (hooks,.error message) => (hooks,.error message)
    | (hooks,.ok next) =>
      let (later,final) := observeAll nodeId next rest
      (hooks ++ later,final)

def Observation.active (observation : Observation) : Bool := isActiveRole observation.role

end Observing

section Edges
variable {nodeId : NodeId}

def HaMonitorState.active (state : HaMonitorState) : Bool := state.previousRole.any isActiveRole

-- The states that the monitor can be in.
def HaMonitorState.Wellformed (state : HaMonitorState) : Prop := state.initialized = state.previousRole.isSome

theorem requiredHook_none {state : HaMonitorState} (formed : state.Wellformed) (quiet : requiredHook state nodeId role = none) :
    isActiveRole role = state.active := by
  obtain ⟨initialized,previous,leader⟩ := state
  change initialized = previous.isSome at formed
  subst formed
  cases previous with
  | none => cases active : isActiveRole role <;> simp [requiredHook,HaMonitorState.active,active] at quiet ⊢
  | some before =>
      cases active : isActiveRole role <;> cases was : isActiveRole before <;>
        simp [requiredHook,HaMonitorState.active,active,was] at quiet ⊢

theorem requiredHook_some {state : HaMonitorState} (formed : state.Wellformed) (asked : requiredHook state nodeId role = some hook) :
    hook.turn = some (isActiveRole role) ∧ isActiveRole role ≠ state.active ∧ hook.told = none := by
  obtain ⟨initialized,previous,leader⟩ := state
  change initialized = previous.isSome at formed
  subst formed
  cases previous with
  | none =>
      cases active : isActiveRole role <;> simp [requiredHook,HaMonitorState.active,active] at asked ⊢
      subst asked
      exact ⟨rfl,rfl⟩
  | some before =>
      cases active : isActiveRole role <;> cases was : isActiveRole before <;>
        simp [requiredHook,HaMonitorState.active,active,was] at asked ⊢
      all_goals
        subst asked
        exact ⟨rfl,rfl⟩

-- The leader that was told last, if one was.
def HaMonitorState.heard (state : HaMonitorState) : Option (Option NodeId) := if state.initialized then some state.previousLeader else none

theorem leaderHook_turn (state : HaMonitorState) (role : ClusterRole) (leader : Option NodeId) :
    (leaderHook state nodeId role leader).toList.filterMap Hook.turn = [] := by
  unfold leaderHook
  split <;> rfl

theorem leaderHook_told (state : HaMonitorState) (role : ClusterRole) (leader : Option NodeId) :
    ((leaderHook state nodeId role leader).toList.filterMap Hook.told).map some = changes state.heard [some leader] := by
  cases began : state.initialized with
  | false => simp [leaderHook,HaMonitorState.heard,began,changes,Hook.told]
  | true =>
      by_cases same : state.previousLeader = leader
      · simp [leaderHook,HaMonitorState.heard,began,changes,same]
      · simp [leaderHook,HaMonitorState.heard,began,changes,Hook.told,same,Ne.symm same]

theorem observe_cases {state : HaMonitorState} (formed : state.Wellformed) (nodeId : NodeId) (observation : Observation) :
    (∃ hook text, observeHaState state nodeId observation.result observation.role observation.leader =
        ([hook],.error ("required HA addon hook " ++ hook.name ++ " failed")) ∧ observation.result hook = .error text ∧
        hook.turn = some observation.active ∧ observation.active ≠ state.active ∧ hook.told = none) ∨
      ∃ hooks next, observeHaState state nodeId observation.result observation.role observation.leader = (hooks,.ok next) ∧
        next.Wellformed ∧ next.active = observation.active ∧ next.heard = some observation.leader ∧
        hooks.filterMap Hook.turn = changes state.active [observation.active] ∧
        (hooks.filterMap Hook.told).map some = changes state.heard [some observation.leader] := by
  unfold observeHaState
  dsimp only
  cases required : requiredHook state nodeId observation.role with
  | none =>
      have same : observation.active = state.active := requiredHook_none formed required
      refine .inr ⟨_,_,rfl,rfl,rfl,rfl,?_,leaderHook_told state observation.role observation.leader⟩
      rw [Option.toList_none,List.nil_append,leaderHook_turn,changes,if_pos same]
      rfl
  | some hook =>
      obtain ⟨turned,different,untold⟩ := requiredHook_some formed required
      cases ended : observation.result hook with
      | error text => exact .inl ⟨hook,text,by simp [runRequiredHaHook,Except.mapError,ended],ended,turned,different,untold⟩
      | ok done =>
          refine .inr ⟨hook :: (leaderHook state nodeId observation.role observation.leader).toList,⟨true,some observation.role,observation.leader⟩,
            by simp [runRequiredHaHook,Except.mapError,ended],rfl,rfl,rfl,?_,?_⟩
          · rw [List.filterMap_cons_some turned,leaderHook_turn,changes,if_neg (show observation.active ≠ state.active from different)]
            rfl
          · rw [List.filterMap_cons_none untold]
            exact leaderHook_told state observation.role observation.leader

theorem observeAll_hooks {state : HaMonitorState} (formed : state.Wellformed) (nodeId : NodeId) (observations : List Observation) :
    ((∃ final, (observeAll nodeId state observations).2 = .ok final) ∧
        (observeAll nodeId state observations).1.filterMap Hook.turn = changes state.active (observations.map Observation.active) ∧
        ((observeAll nodeId state observations).1.filterMap Hook.told).map some =
          changes state.heard (observations.map fun observation => some observation.leader)) ∨
      ∃ before last after hook text, observations = before ++ last :: after ∧ (observeAll nodeId state observations).1.getLast? = some hook ∧
        last.result hook = .error text ∧ (observeAll nodeId state observations).2 = .error ("required HA addon hook " ++ hook.name ++ " failed") ∧
        hook.turn = some last.active ∧ last.active ≠ latest state.active (before.map Observation.active) ∧
        (observeAll nodeId state observations).1.filterMap Hook.turn = changes state.active ((before ++ [last]).map Observation.active) ∧
        ((observeAll nodeId state observations).1.filterMap Hook.told).map some =
          changes state.heard (before.map fun observation => some observation.leader) := by
  induction observations generalizing state with
  | nil => exact .inl ⟨⟨state,rfl⟩,rfl,rfl⟩
  | cons observation rest ih =>
      rcases observe_cases formed nodeId observation with ⟨hook,text,stepped,ended,turned,different,untold⟩ |
        ⟨hooks,next,stepped,formed',active,heard,turns,tellings⟩
      · right
        have whole : observeAll nodeId state (observation :: rest) = ([hook],.error ("required HA addon hook " ++ hook.name ++ " failed")) := by
          rw [observeAll,stepped]
        rw [whole]
        refine ⟨[],observation,rest,hook,text,rfl,rfl,ended,rfl,turned,different,?_,?_⟩
        · simp [turned,changes,different]
        · simp [untold,changes]
      · have whole : observeAll nodeId state (observation :: rest) =
            (hooks ++ (observeAll nodeId next rest).1,(observeAll nodeId next rest).2) := by
          rw [observeAll,stepped]
        rw [whole]
        dsimp only
        rw [List.map_cons,List.map_cons,changes_cons,changes_cons state.heard,List.filterMap_append,List.filterMap_append,List.map_append,turns,tellings,
          ← active,← heard]
        rcases ih formed' with ⟨done,later,laterTold⟩ | ⟨before,last,after,hook,text,rfl,final,ended,failed,turned,different,later,laterTold⟩
        · exact .inl ⟨done,by rw [later],by rw [laterTold]⟩
        · refine .inr ⟨observation :: before,last,after,hook,text,rfl,?_,ended,failed,turned,?_,?_,?_⟩
          · rw [List.getLast?_append,final]
            rfl
          · rw [List.map_cons,latest_cons,← active]
            exact different
          · rw [later,List.cons_append,List.map_cons,changes_cons state.active _ ((before ++ [last]).map Observation.active),← active]
          · rw [laterTold,List.map_cons,changes_cons state.heard _ (before.map fun observation => some observation.leader),← heard]

end Edges

section Leading

end Leading

section Standby

def haHeartbeatFailureLogInterval : Nat := 30000

inductive Stage where
  | opening
  | watching
  | checking
  | promoting (timedOut : Bool)
  | demoting
  | ended (result : Except String Unit)

structure HaActiveStandbyConfig where
  peerHeartbeatAddr : Option String
  failoverTimeoutMs : Nat

-- run_active_standby and its monitor. `hooks` keeps what has been run, and whether it succeeded.
structure Monitor where
  runtime : ActiveStandbyRuntime
  stage : Stage
  now : Nat
  lastSeen : Nat
  failureLog : Throttle.Log
  hooks : List (Hook × Bool)

inductive Action where
  | wait (duration : Nat)
  | hook (result : Except String Unit)
  | heard (peer : HaHeartbeat)
  | missed
  | check
  | shutdown

def Monitor.start (nodeId : NodeId) (initial : HaInitialRole) (now : Nat) : Monitor :=
  let runtime := ActiveStandbyRuntime.new nodeId initial
  ⟨runtime,if runtime.role.acceptsWrites then .opening else .watching,now,now,Throttle.new,[]⟩

-- A hook that fails ends the monitor before the role is changed.
def Monitor.ran (monitor : Monitor) (hook : Hook) (result : Except String Unit) (next : Monitor) : Monitor :=
  match runRequiredHaHook result hook.name with
  | .ok () => {next with hooks:=monitor.hooks ++ [(hook,true)]}
  | .error message => {monitor with stage:=.ended (.error message),hooks:=monitor.hooks ++ [(hook,false)]}

-- Only the monitor changes the role, so that it stays as it was when a hook was begun.
def Monitor.advance (config : HaActiveStandbyConfig) (monitor : Monitor) : Action → Option Monitor
  | .wait duration => some {monitor with now:=monitor.now + duration}
  | .hook result =>
    let leading := Hook.onBecomeLeader ⟨monitor.runtime.nodeId,.leader⟩
    match monitor.stage with
    | .opening => some (monitor.ran leading result {monitor with stage:=.watching,lastSeen:=monitor.now})
    | .promoting timedOut =>
      some (monitor.ran leading result {monitor with runtime:=monitor.runtime.promote,stage:=if timedOut then .watching else .checking})
    | .demoting =>
      some (monitor.ran (.onStepDown ⟨monitor.runtime.nodeId,.follower⟩) result {monitor with runtime:=monitor.runtime.demote,stage:=.checking})
    | _ => none
  | .heard peer =>
    match monitor.stage,config.peerHeartbeatAddr with
    | .watching,some _ =>
      let stage := match reconcile monitor.runtime.heartbeat peer with
        | .keep => .checking
        | .promote => .promoting false
        | .demote => .demoting
      some {monitor with stage:=stage,lastSeen:=monitor.now,failureLog:=monitor.failureLog.recovered.2}
    | _,_ => none
  | .missed =>
    match monitor.stage,config.peerHeartbeatAddr with
    | .watching,some _ =>
      some {monitor with stage:=.checking,failureLog:=(monitor.failureLog.warnIfDue haHeartbeatFailureLogInterval monitor.now).2}
    | _,_ => none
  | .check =>
    match monitor.stage with
    | .checking =>
      let silent := !monitor.runtime.role.acceptsWrites && decide (config.failoverTimeoutMs ≤ monitor.now - monitor.lastSeen)
      some {monitor with stage:=if silent then .promoting true else .watching}
    | _ => none
  | .shutdown =>
    match monitor.stage with
    | .watching => some {monitor with stage:=.ended (.ok ())}
    | _ => none

-- What the outside has been told, by the hooks that succeeded.
def Monitor.turns (monitor : Monitor) : List Bool := (monitor.hooks.filter Prod.snd).filterMap fun entry => entry.1.turn

end Standby

section Invariant
variable {config : HaActiveStandbyConfig} {nodeId : NodeId} {initial : HaInitialRole} {monitor next : Monitor}

def Stage.failed : Stage → Bool
  | .ended (.error _) => true
  | _ => false

-- While the first hook of a node that starts as the active one is out, it has told nothing.
def Stage.Stands (initial : HaInitialRole) (turns : List Bool) (role : ClusterRole) : Stage → Prop
  | .opening => initial = .active ∧ turns = []
  | .watching | .checking | .ended (.ok _) => initial = .active → turns ≠ []
  | .promoting _ => (initial = .active → turns ≠ []) ∧ role.acceptsWrites = false
  | .demoting => (initial = .active → turns ≠ []) ∧ role.acceptsWrites = true
  | .ended (.error _) => True

structure Sound (initial : HaInitialRole) (monitor : Monitor) : Prop where
  alternate : (false :: monitor.turns).IsChain (· ≠ ·)
  role : monitor.runtime.role.acceptsWrites = latest (decide (initial = .active)) monitor.turns
  epoch : monitor.runtime.epoch + (if initial = .active ∧ monitor.turns ≠ [] then 1 else 0) = 1 + monitor.turns.count true
  stands : monitor.stage.Stands initial monitor.turns monitor.runtime.role
  succeeded : monitor.stage.failed = false → ∀ entry ∈ monitor.hooks, entry.2 = true

theorem start_sound (nodeId : NodeId) (initial : HaInitialRole) (now : Nat) : Sound initial (.start nodeId initial now) := by
  cases initial with
  | active => exact ⟨.singleton _,rfl,rfl,⟨rfl,rfl⟩,by simp [Monitor.start]⟩
  | standby => exact ⟨.singleton _,rfl,rfl,by simp [Monitor.start,ActiveStandbyRuntime.new,ClusterRole.acceptsWrites,Stage.Stands],by simp [Monitor.start]⟩

theorem Sound.told (sound : Sound initial monitor) (begun : initial = .active → monitor.turns ≠ []) :
    latest false monitor.turns = monitor.runtime.role.acceptsWrites := by
  rw [sound.role]
  cases initial with
  | active => exact latest_some (begun rfl) _ _
  | standby => rfl

theorem turns_ran (monitor : Monitor) (hook : Hook) (result : Except String Unit) (ahead : Monitor) (turned : hook.turn = some turn) :
    (∃ text, result = .error text ∧
        monitor.ran hook result ahead =
          {monitor with stage:=.ended (.error ("required HA addon hook " ++ hook.name ++ " failed")),hooks:=monitor.hooks ++ [(hook,false)]} ∧
        (monitor.ran hook result ahead).turns = monitor.turns) ∨
      (result = .ok () ∧ monitor.ran hook result ahead = {ahead with hooks:=monitor.hooks ++ [(hook,true)]} ∧
        (monitor.ran hook result ahead).turns = monitor.turns ++ [turn]) := by
  cases result with
  | error text => exact .inl ⟨text,rfl,rfl,by simp [Monitor.ran,Monitor.turns,runRequiredHaHook,Except.mapError]⟩
  | ok done => exact .inr ⟨rfl,rfl,by simp [Monitor.ran,Monitor.turns,runRequiredHaHook,Except.mapError,turned]⟩

-- A hook that fails changes nothing but that it has been run.
theorem Sound.fails (sound : Sound initial monitor) (hook : Hook) (message : String) :
    Sound initial {monitor with stage:=.ended (.error message),hooks:=monitor.hooks ++ [(hook,false)]} := by
  have same : Monitor.turns {monitor with stage:=.ended (.error message),hooks:=monitor.hooks ++ [(hook,false)]} = monitor.turns := by
    simp [Monitor.turns]
  exact ⟨same ▸ sound.alternate,same ▸ sound.role,same ▸ sound.epoch,trivial,fun failing => by cases failing⟩

-- One that succeeds turns the outside from what it has been told so far to the new role.
theorem Sound.succeeds (sound : Sound initial monitor) {hook : Hook} {turn : Bool} (turned : hook.turn = some turn)
    (intact : monitor.stage.failed = false) (other : latest false monitor.turns ≠ turn) {runtime : ActiveStandbyRuntime} {stage : Stage} (lastSeen : Nat)
    (role : runtime.role.acceptsWrites = turn)
    (epoch : runtime.epoch + (if initial = .active then 1 else 0) = 1 + monitor.turns.count true + if turn = true then 1 else 0)
    (stands : ∀ turns, turns ≠ [] → stage.Stands initial turns runtime.role) :
    Sound initial {monitor with runtime:=runtime,stage:=stage,lastSeen:=lastSeen,hooks:=monitor.hooks ++ [(hook,true)]} := by
  have more : Monitor.turns {monitor with runtime:=runtime,stage:=stage,lastSeen:=lastSeen,hooks:=monitor.hooks ++ [(hook,true)]} =
      monitor.turns ++ [turn] := by
    simp [Monitor.turns,turned]
  refine ⟨?_,?_,?_,?_,fun _ entry member => ?_⟩
  · rw [more]
    exact chain_snoc sound.alternate other
  · rw [more,latest_snoc]
    exact role
  · rw [more,List.count_append]
    dsimp only
    have some : monitor.turns ++ [turn] ≠ [] := by simp
    simp only [ne_eq,some,not_false_eq_true,and_true]
    cases turn <;> simpa [Nat.add_assoc] using epoch
  · rw [more]
    exact stands _ (by simp)
  · rcases List.mem_append.mp member with before | last
    · exact sound.succeeded intact entry before
    · cases List.mem_singleton.mp last
      rfl

theorem step_sound (sound : Sound initial monitor) (stepped : monitor.advance config action = some next) : Sound initial next := by
  cases action with
  | wait duration =>
      cases stepped
      exact ⟨sound.alternate,sound.role,sound.epoch,sound.stands,sound.succeeded⟩
  | hook result =>
      have stands := sound.stands
      have intact := sound.succeeded
      simp only [Monitor.advance] at stepped
      split at stepped
      · rename_i opening
        rw [opening] at stands
        obtain ⟨active,none⟩ := stands
        rcases turns_ran monitor (.onBecomeLeader ⟨monitor.runtime.nodeId,.leader⟩) result {monitor with stage:=.watching,lastSeen:=monitor.now} rfl with
          ⟨text,_,failed,_⟩ | ⟨_,worked,_⟩
        · cases stepped.symm.trans (congrArg some failed)
          exact sound.fails _ _
        · cases stepped.symm.trans (congrArg some worked)
          have role := sound.role
          have epoch := sound.epoch
          simp only [none,latest_nil,active,decide_true] at role epoch
          refine sound.succeeds (show (Hook.onBecomeLeader _).turn = some true from rfl) (by rw [opening]; rfl) (by simp [none]) monitor.now role ?_ fun turns some => fun _ => some
          simp [active,none] at epoch ⊢
          omega
      · rename_i timedOut promoting
        rw [promoting] at stands
        obtain ⟨begun,idle⟩ := stands
        rcases turns_ran monitor (.onBecomeLeader ⟨monitor.runtime.nodeId,.leader⟩) result
          {monitor with runtime:=monitor.runtime.promote,stage:=if timedOut then .watching else .checking} rfl with ⟨text,_,failed,_⟩ | ⟨_,worked,_⟩
        · cases stepped.symm.trans (congrArg some failed)
          exact sound.fails _ _
        · cases stepped.symm.trans (congrArg some worked)
          have epoch := sound.epoch
          have started : initial = .active ∧ monitor.turns ≠ [] ↔ initial = .active := and_iff_left_of_imp begun
          simp only [started] at epoch
          have promoted : monitor.runtime.promote = {monitor.runtime with epoch:=monitor.runtime.epoch + 1,role:=.leader} := if_neg (by simp [idle])
          refine sound.succeeds (show (Hook.onBecomeLeader _).turn = some true from rfl) (by rw [promoting]; rfl) ?_ monitor.lastSeen ?_ ?_ fun turns some => ?_
          · rw [sound.told begun,idle]
            decide
          · rw [promoted]
            rfl
          · rw [promoted,← epoch]
            exact Nat.add_right_comm ..
          · cases timedOut <;> exact fun _ => some
      · rename_i demoting
        rw [demoting] at stands
        obtain ⟨begun,active⟩ := stands
        rcases turns_ran monitor (.onStepDown ⟨monitor.runtime.nodeId,.follower⟩) result
          {monitor with runtime:=monitor.runtime.demote,stage:=.checking} rfl with ⟨text,_,failed,_⟩ | ⟨_,worked,_⟩
        · cases stepped.symm.trans (congrArg some failed)
          exact sound.fails _ _
        · cases stepped.symm.trans (congrArg some worked)
          have epoch := sound.epoch
          have started : initial = .active ∧ monitor.turns ≠ [] ↔ initial = .active := and_iff_left_of_imp begun
          simp only [started] at epoch
          refine sound.succeeds (show (Hook.onStepDown _).turn = some false from rfl) (by rw [demoting]; rfl) ?_ monitor.lastSeen rfl ?_ fun turns some => fun _ => some
          · rw [sound.told begun,active]
            decide
          · simpa [ActiveStandbyRuntime.demote] using epoch
      · cases stepped
  | heard peer =>
      simp only [Monitor.advance] at stepped
      split at stepped
      · rename_i watching _
        cases stepped
        have stands := sound.stands
        rw [watching] at stands
        refine ⟨sound.alternate,sound.role,sound.epoch,?_,fun _ => sound.succeeded (by rw [watching]; rfl)⟩
        cases verdict : reconcile monitor.runtime.heartbeat peer with
        | keep => exact stands
        | promote => exact ⟨stands,(reconcile_promote.mp verdict).1⟩
        | demote => exact ⟨stands,(reconcile_demote.mp verdict).1⟩
      · cases stepped
  | missed =>
      simp only [Monitor.advance] at stepped
      split at stepped
      · rename_i watching _
        cases stepped
        have stands := sound.stands
        rw [watching] at stands
        exact ⟨sound.alternate,sound.role,sound.epoch,stands,fun _ => sound.succeeded (by rw [watching]; rfl)⟩
      · cases stepped
  | check =>
      simp only [Monitor.advance] at stepped
      split at stepped
      · rename_i checking
        cases stepped
        have stands := sound.stands
        rw [checking] at stands
        refine ⟨sound.alternate,sound.role,sound.epoch,?_,fun _ => sound.succeeded (by rw [checking]; rfl)⟩
        dsimp only
        split
        · rename_i silent
          simp only [Bool.and_eq_true,Bool.not_eq_true'] at silent
          exact ⟨stands,silent.1⟩
        · exact stands
      · cases stepped
  | shutdown =>
      simp only [Monitor.advance] at stepped
      split at stepped
      · rename_i watching
        cases stepped
        have stands := sound.stands
        rw [watching] at stands
        exact ⟨sound.alternate,sound.role,sound.epoch,stands,fun _ => sound.succeeded (by rw [watching]; rfl)⟩
      · cases stepped

theorem run_sound (ran : Machine.run (Monitor.advance config) (.start nodeId initial began) actions = some monitor) : Sound initial monitor :=
  Machine.run_preserves (Sound initial) (fun _ _ _ sound stepped => step_sound sound stepped) (start_sound nodeId initial began) ran

end Invariant

section Silence
variable {config : HaActiveStandbyConfig} {nodeId : NodeId} {initial : HaInitialRole} {monitor next : Monitor}

def Action.waited : Action → Nat
  | .wait duration => duration
  | _ => 0

def waited (actions : List Action) : Nat := (actions.map Action.waited).sum

-- What a monitor that has given up on its peer can say of the heartbeats before.
structure Silent (config : HaActiveStandbyConfig) (actions : List Action) (monitor : Monitor) : Prop where
  seen : monitor.lastSeen ≤ monitor.now
  since : ∀ earlier peer later, actions = earlier ++ .heard peer :: later → monitor.now - monitor.lastSeen ≤ waited later
  overdue : monitor.stage = .promoting true → config.failoverTimeoutMs ≤ monitor.now - monitor.lastSeen

theorem start_silent (nodeId : NodeId) (initial : HaInitialRole) (now : Nat) : Silent config [] (.start nodeId initial now) := by
  refine ⟨Nat.le_refl _,fun earlier peer later split => ?_,fun promoting => ?_⟩
  · cases earlier <;> cases split
  · cases initial <;> cases promoting

theorem ran_cases (monitor : Monitor) (hook : Hook) (result : Except String Unit) (ahead : Monitor) :
    ((monitor.ran hook result ahead).now = ahead.now ∧ (monitor.ran hook result ahead).lastSeen = ahead.lastSeen ∧
      (monitor.ran hook result ahead).stage = ahead.stage) ∨
    ((monitor.ran hook result ahead).now = monitor.now ∧ (monitor.ran hook result ahead).lastSeen = monitor.lastSeen ∧
      ∃ message, (monitor.ran hook result ahead).stage = .ended (.error message)) := by
  cases result with
  | error text => exact .inr ⟨rfl,rfl,_,rfl⟩
  | ok done => exact .inl ⟨rfl,rfl,rfl⟩

theorem step_times (stepped : monitor.advance config action = some next) : next.now = monitor.now + action.waited ∧
    (next.lastSeen = monitor.lastSeen ∨ next.lastSeen = monitor.now) ∧ (∀ peer, action = .heard peer → next.lastSeen = monitor.now) ∧
    (next.stage = .promoting true → next.lastSeen = monitor.lastSeen ∧
      (monitor.stage = .promoting true ∨ config.failoverTimeoutMs ≤ monitor.now - monitor.lastSeen)) := by
  cases action with
  | wait duration =>
      cases stepped
      exact ⟨rfl,.inl rfl,(fun peer same => by cases same),fun promoting => ⟨rfl,.inl promoting⟩⟩
  | hook result =>
      simp only [Monitor.advance] at stepped
      split at stepped
      · cases stepped
        rcases ran_cases monitor (.onBecomeLeader ⟨monitor.runtime.nodeId,.leader⟩) result {monitor with stage:=.watching,lastSeen:=monitor.now} with
          ⟨now,seen,stage⟩ | ⟨now,seen,message,stage⟩
        · exact ⟨now,.inr seen,(fun peer same => by cases same),fun promoting => by cases stage.symm.trans promoting⟩
        · exact ⟨now,.inl seen,(fun peer same => by cases same),fun promoting => by cases stage.symm.trans promoting⟩
      · rename_i timedOut _
        cases stepped
        rcases ran_cases monitor (.onBecomeLeader ⟨monitor.runtime.nodeId,.leader⟩) result
          {monitor with runtime:=monitor.runtime.promote,stage:=if timedOut then .watching else .checking} with ⟨now,seen,stage⟩ | ⟨now,seen,message,stage⟩
        · exact ⟨now,.inl seen,(fun peer same => by cases same),fun promoting => by cases timedOut <;> cases stage.symm.trans promoting⟩
        · exact ⟨now,.inl seen,(fun peer same => by cases same),fun promoting => by cases stage.symm.trans promoting⟩
      · cases stepped
        rcases ran_cases monitor (.onStepDown ⟨monitor.runtime.nodeId,.follower⟩) result
          {monitor with runtime:=monitor.runtime.demote,stage:=.checking} with ⟨now,seen,stage⟩ | ⟨now,seen,message,stage⟩
        all_goals exact ⟨now,.inl seen,(fun peer same => by cases same),fun promoting => by cases stage.symm.trans promoting⟩
      · cases stepped
  | heard peer =>
      simp only [Monitor.advance] at stepped
      split at stepped
      · cases stepped
        refine ⟨rfl,.inr rfl,fun _ _ => rfl,fun promoting => ?_⟩
        dsimp only at promoting
        split at promoting <;> cases promoting
      · cases stepped
  | missed =>
      simp only [Monitor.advance] at stepped
      split at stepped
      · cases stepped
        exact ⟨rfl,.inl rfl,(fun peer same => by cases same),fun promoting => by cases promoting⟩
      · cases stepped
  | check =>
      simp only [Monitor.advance] at stepped
      split at stepped
      · cases stepped
        refine ⟨rfl,.inl rfl,(fun peer same => by cases same),fun promoting => ⟨rfl,.inr ?_⟩⟩
        dsimp only at promoting
        split at promoting
        · rename_i silent
          simp only [Bool.and_eq_true,decide_eq_true_eq] at silent
          exact silent.2
        · cases promoting
      · cases stepped
  | shutdown =>
      simp only [Monitor.advance] at stepped
      split at stepped
      · cases stepped
        exact ⟨rfl,.inl rfl,(fun peer same => by cases same),fun promoting => by cases promoting⟩
      · cases stepped

theorem step_silent (silent : Silent config actions monitor) (stepped : monitor.advance config action = some next) :
    Silent config (actions ++ [action]) next := by
  obtain ⟨now,either,heard,overdue⟩ := step_times stepped
  have seen := silent.seen
  refine ⟨?_,fun earlier peer later split => ?_,fun promoting => ?_⟩
  · rcases either with same | same <;> omega
  · rcases List.eq_nil_or_concat later with rfl | ⟨front,last,rfl⟩
    · obtain ⟨_,same⟩ := List.append_inj' split rfl
      cases same
      have here := heard peer rfl
      have none : Action.waited (.heard peer) = 0 := rfl
      rw [none] at now
      simp [now,here]
    · rw [List.concat_eq_append,← List.cons_append,← List.append_assoc] at split
      obtain ⟨before,same⟩ := List.append_inj' split rfl
      cases same
      have since := silent.since earlier peer front before
      have more : waited (front.concat action) = waited front + action.waited := by simp [waited]
      rw [more]
      rcases either with same | same <;> omega
  · obtain ⟨same,standing⟩ := overdue promoting
    rcases standing with before | now_overdue
    · have held := silent.overdue before
      omega
    · omega

theorem run_silent (ran : Machine.run (Monitor.advance config) (.start nodeId initial began) actions = some monitor) : Silent config actions monitor := by
  induction actions using List.reverseRecOn generalizing monitor with
  | nil =>
      cases ran
      exact start_silent nodeId initial began
  | append_singleton actions last ih =>
      obtain ⟨before,reached,stepped⟩ := Machine.run_append.mp ran
      obtain ⟨_,stepped,done⟩ := Machine.run_cons.mp stepped
      cases done
      exact step_silent (ih reached) stepped

end Silence

section Ended
variable {config : HaActiveStandbyConfig} {nodeId : NodeId} {initial : HaInitialRole} {monitor next : Monitor}

theorem step_ended (ended : monitor.stage = .ended result) (stepped : monitor.advance config action = some next) :
    next.stage = .ended result ∧ next.runtime = monitor.runtime ∧ next.hooks = monitor.hooks := by
  cases action with
  | wait duration =>
      cases stepped
      exact ⟨ended,rfl,rfl⟩
  | hook | heard | missed | check | shutdown => simp [Monitor.advance,ended] at stepped

theorem run_ended (ended : monitor.stage = .ended result) (ran : Machine.run (Monitor.advance config) monitor later = some next) :
    next.runtime = monitor.runtime ∧ next.hooks = monitor.hooks := by
  have kept : next.stage = .ended result ∧ next.runtime = monitor.runtime ∧ next.hooks = monitor.hooks := by
    refine Machine.run_preserves (fun other => other.stage = .ended result ∧ other.runtime = monitor.runtime ∧ other.hooks = monitor.hooks)
      (fun other action after held stepped => ?_) ⟨ended,rfl,rfl⟩ ran
    obtain ⟨stage,runtime,hooks⟩ := step_ended held.1 stepped
    exact ⟨stage,runtime.trans held.2.1,hooks.trans held.2.2⟩
  exact kept.2

-- The standby takes over, gives way to its peer, and cannot take over again.
def refusedTakeover : List Action :=
  [.wait 3000,.missed,.check,.hook (.ok ()),.heard ⟨1,.leader,5⟩,.hook (.ok ()),.check,.wait 3000,.missed,.check,.hook (.error "exit status: 1")]

def pairConfig : HaActiveStandbyConfig := ⟨some "10.0.0.1:9000",3000⟩

end Ended

end Sigproxy.Ha.Hooks
