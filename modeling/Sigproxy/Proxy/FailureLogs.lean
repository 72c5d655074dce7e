import Sigproxy.Library.Table
import Sigproxy.Library.Throttle

namespace Sigproxy.Proxy.FailureLogs
open Library Throttle

section HealthChecks

def healthCheckFailureLogInterval : Nat := 60000

-- One log for each server of the group; the sockets are left to the surroundings.
structure HealthCheckRuntime where
  failureLogs : List Log

def HealthCheckRuntime.new (servers : Nat) : HealthCheckRuntime := ⟨List.replicate servers Throttle.new⟩

def HealthCheckRuntime.failureWarningDue (probes : HealthCheckRuntime) (index now : Nat) : Option (Option Nat) × HealthCheckRuntime :=
  match probes.failureLogs[index]? with
  | none => (none,probes)
  | some log =>
    let (told,next) := log.warnIfDue healthCheckFailureLogInterval now
    (some told,⟨probes.failureLogs.set index next⟩)

def HealthCheckRuntime.recoverFailureLog (probes : HealthCheckRuntime) (index : Nat) : Option Nat × HealthCheckRuntime :=
  match probes.failureLogs[index]? with
  | none => (none,probes)
  | some log =>
    let (told,next) := log.recovered
    (told,⟨probes.failureLogs.set index next⟩)

-- A probe that has been joined: it failed at some time, or it found the server healthy.
abbrev Joined := Nat × Event

-- What run_health_check_round does with the logs, in the order in which the probes are joined.
def HealthCheckRuntime.join (probes : HealthCheckRuntime) : Joined → Option Nat × HealthCheckRuntime
  | (index,.failure now) =>
    let (due,next) := probes.failureWarningDue index now
    (due.join,next)
  | (index,.recovery) => probes.recoverFailureLog index

def HealthCheckRuntime.joinAll : HealthCheckRuntime → List Joined → List (Nat × Entry) × HealthCheckRuntime
  | probes,[] => ([],probes)
  | probes,joined :: rest =>
    let (told,next) := probes.join joined
    let (entries,final) := next.joinAll rest
    ((joined.1,joined.2,told) :: entries,final)

def HealthCheckRuntime.view (probes : HealthCheckRuntime) (index : Nat) : Log := probes.failureLogs[index]?.getD Throttle.new

end HealthChecks

section DroppedPackets

def udpHandlerQueueDropLogInterval : Nat := 60000

-- One log for each listener that has dropped a packet.
def udpHandlerQueueDropLogSuppressed (logs : Table String Log) (listenerKey : String) (now : Nat) : Option Nat × Table String Log :=
  let (told,next) := ((logs.lookup listenerKey).getD Throttle.new).warnIfDue udpHandlerQueueDropLogInterval now
  (told,logs.insert listenerKey next)

def dropAll : Table String Log → List (String × Nat) → List (String × Entry) × Table String Log
  | logs,[] => ([],logs)
  | logs,(listenerKey,now) :: rest =>
    let (told,next) := udpHandlerQueueDropLogSuppressed logs listenerKey now
    let (entries,final) := dropAll next rest
    ((listenerKey,.failure now,told) :: entries,final)

def view (logs : Table String Log) (listenerKey : String) : Log := (logs.lookup listenerKey).getD Throttle.new

end DroppedPackets

section Refinement

theorem join_view {probes : HealthCheckRuntime} {joined : Joined} (within : joined.1 < probes.failureLogs.length) :
    (probes.join joined).1 = ((probes.view joined.1).step healthCheckFailureLogInterval joined.2).1 ∧
    (probes.join joined).2.view = Function.update probes.view joined.1 ((probes.view joined.1).step healthCheckFailureLogInterval joined.2).2 ∧
    (probes.join joined).2.failureLogs.length = probes.failureLogs.length := by
  obtain ⟨index,event⟩ := joined
  have found : probes.failureLogs[index]? = some probes.failureLogs[index] := List.getElem?_eq_getElem within
  have viewed : probes.view index = probes.failureLogs[index] := by simp [HealthCheckRuntime.view,found]
  have set_view (log : Log) : HealthCheckRuntime.view ⟨probes.failureLogs.set index log⟩ = Function.update probes.view index log := by
    funext other
    by_cases same : other = index
    · subst same
      simp [HealthCheckRuntime.view,within]
    · simp [HealthCheckRuntime.view,Function.update_of_ne same,List.getElem?_set_ne (Ne.symm same)]
  cases event with
  | failure now =>
      simp only [HealthCheckRuntime.join,HealthCheckRuntime.failureWarningDue,found,viewed,Log.step,Option.join_some,set_view,List.length_set,and_self]
  | recovery =>
      simp only [HealthCheckRuntime.join,HealthCheckRuntime.recoverFailureLog,found,viewed,Log.step,set_view,List.length_set,and_self]

theorem joinAll_view {probes : HealthCheckRuntime} (within : ∀ joined ∈ results, joined.1 < probes.failureLogs.length) :
    ((probes.joinAll results).1,(probes.joinAll results).2.view) = runAll healthCheckFailureLogInterval probes.view results := by
  induction results generalizing probes with
  | nil => rfl
  | cons joined rest ih =>
      obtain ⟨here,later⟩ := List.forall_mem_cons.mp within
      obtain ⟨told,viewed,many⟩ := join_view here
      obtain ⟨entries,final⟩ := Prod.mk.inj (ih fun other member => many ▸ later other member)
      obtain ⟨index,event⟩ := joined
      simp only [HealthCheckRuntime.joinAll,runAll,told,entries,final,viewed]

theorem dropAll_view (logs : Table String Log) (drops : List (String × Nat)) : ((dropAll logs drops).1,view (dropAll logs drops).2) =
    runAll udpHandlerQueueDropLogInterval (view logs) (drops.map fun drop => (drop.1,.failure drop.2)) := by
  induction drops generalizing logs with
  | nil => rfl
  | cons drop rest ih =>
      obtain ⟨listenerKey,now⟩ := drop
      have viewed (log : Log) : view (logs.insert listenerKey log) = Function.update (view logs) listenerKey log := by
        funext other
        by_cases same : other = listenerKey
        · subst same
          simp [view]
        · simp [view,same]
      obtain ⟨entries,final⟩ := Prod.mk.inj (ih (udpHandlerQueueDropLogSuppressed logs listenerKey now).2)
      simp only [dropAll,entries,final]
      simp only [udpHandlerQueueDropLogSuppressed,viewed,List.map_cons,runAll,Log.step]
      rfl

-- What stands in a log: every failure, in a warning, in the number one gives, or still to be
-- given; and a warning for every failure with none in the interval before it.
structure Accounted (interval : Nat) (entries : List Entry) (log : Log) : Prop where
  whole : failures entries = warnings entries + reported entries + log.suppressed
  paced : ∀ before now told after, entries = before ++ (.failure now,told) :: after →
    (told.isSome = true ↔ ∀ last, Standing before last → interval ≤ now - last)

theorem run_new_accounted (interval : Nat) (events : List Event) :
    Accounted interval (run interval Throttle.new events).1 (run interval Throttle.new events).2 :=
  ⟨run_accounted Throttle.new events,fun _ _ _ _ parts => run_paced interval events parts⟩

def probed : List Joined := [(1,.failure 10),(0,.failure 20),(1,.failure 500),(0,.recovery)]

end Refinement

end Sigproxy.Proxy.FailureLogs
