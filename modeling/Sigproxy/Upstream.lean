import Mathlib.Data.BitVec
import Sigproxy.Library.Fallible
import Sigproxy.Library.Table
import Sigproxy.Net

namespace Sigproxy.Upstream
open Library Net

-- Counters of the type usize wrap around.
abbrev Usize := BitVec 64

inductive UpstreamHealthProbeConfig where
  | options (transport : SipTransport) (uri : String) (successCodes : List Nat)
  | tcpConnect
  deriving DecidableEq, Repr

structure UpstreamHealthCheckConfig where
  enabled : Bool
  intervalMs : Nat
  timeoutMs : Nat
  successThreshold : Usize
  failureThreshold : Usize
  probe : UpstreamHealthProbeConfig
  deriving DecidableEq, Repr

def UpstreamHealthCheckConfig.default : UpstreamHealthCheckConfig where
  enabled := false
  intervalMs := 5000
  timeoutMs := 1000
  successThreshold := 2
  failureThreshold := 3
  probe := .options .udp "sip:healthcheck@localhost" [200,202,405,481]

structure UpstreamGroupConfig where
  name : String
  healthCheck : UpstreamHealthCheckConfig
  servers : List String
  deriving DecidableEq, Repr

-- The entry of one server in the three vectors of a group.
structure ServerHealth where
  healthy : Bool
  consecutiveSuccesses : Usize
  consecutiveFailures : Usize
  deriving DecidableEq, Repr

def ServerHealth.initial : ServerHealth := ⟨true,0,0⟩

structure UpstreamGroupRuntime where
  name : String
  servers : List SocketAddr
  health : Fin servers.length → ServerHealth
  next : Usize
  healthCheck : UpstreamHealthCheckConfig

structure UpstreamServerRef where
  group : String
  index : Nat
  deriving DecidableEq, Repr

-- The groups by name, and where each server stands.
structure UpstreamGroups where
  groups : Table String UpstreamGroupRuntime

namespace UpstreamGroupRuntime

-- Resolving a server's name is left to the surroundings.
def new (resolveUpstreamServer : String → String → Except String SocketAddr) (config : UpstreamGroupConfig) :
    Except String UpstreamGroupRuntime := do
  let servers ← config.servers.mapM (resolveUpstreamServer config.name)
  return ⟨config.name,servers,fun _ => .initial,0,config.healthCheck⟩

section Select

def place (servers : List SocketAddr) (nonempty : 0 < servers.length) (next : Usize) : Fin servers.length :=
  ⟨next.toNat % servers.length,Nat.mod_lt _ nonempty⟩

-- What is left of the loop, and the draw behind it.
def selectFrom (group : UpstreamGroupRuntime) (nonempty : 0 < group.servers.length) : Nat → SocketAddr × UpstreamGroupRuntime
  | 0 => (group.servers[place group.servers nonempty group.next],{group with next:=group.next + 1})
  | left + 1 =>
    let index := place group.servers nonempty group.next
    let drawn := {group with next:=group.next + 1}
    if (group.health index).healthy then (group.servers[index],drawn) else selectFrom drawn nonempty left

def select (group : UpstreamGroupRuntime) : Except String SocketAddr × UpstreamGroupRuntime :=
  if nonempty : 0 < group.servers.length then
    let (server,drawn) := group.selectFrom nonempty group.servers.length
    (.ok server,drawn)
  else (.error ("upstream group '" ++ group.name ++ "' has no servers"),group)

theorem selectFrom_mem (group : UpstreamGroupRuntime) (nonempty : 0 < group.servers.length) (left : Nat) :
    (group.selectFrom nonempty left).1 ∈ group.servers ∧ (group.selectFrom nonempty left).2.servers = group.servers := by
  induction left generalizing group with
  | zero => exact ⟨List.getElem_mem _,rfl⟩
  | succ left ih =>
      rw [selectFrom]
      split
      · exact ⟨List.getElem_mem _,rfl⟩
      · exact ih {group with next:=group.next + 1} nonempty

-- A group that has servers always finds one of them.
theorem select_mem (group : UpstreamGroupRuntime) (nonempty : group.servers ≠ []) : ∃ server ∈ group.servers, group.select.1 = .ok server := by
  have positive := List.length_pos_iff.mpr nonempty
  rw [select,dif_pos positive]
  exact ⟨_,(selectFrom_mem group positive _).1,rfl⟩

theorem select_servers (group : UpstreamGroupRuntime) : group.select.2.servers = group.servers := by
  rw [select]
  split
  · exact (selectFrom_mem group _ _).2
  · rfl

end Select

section Health

def record (check : UpstreamHealthCheckConfig) (server : ServerHealth) (healthy : Bool) : ServerHealth :=
  if healthy then
    let successes := server.consecutiveSuccesses + 1
    ⟨server.healthy || decide (check.successThreshold ≤ successes),successes,0⟩
  else
    let failures := server.consecutiveFailures + 1
    ⟨server.healthy && !decide (check.failureThreshold ≤ failures),0,failures⟩

def recordHealthResult (group : UpstreamGroupRuntime) (index : Fin group.servers.length) (healthy : Bool) : UpstreamGroupRuntime :=
  {group with health:=Function.update group.health index (record group.healthCheck (group.health index) healthy)}

def recordPassiveResultAt (group : UpstreamGroupRuntime) (index : Nat) (healthy : Bool) : UpstreamGroupRuntime :=
  if !group.healthCheck.enabled then group
  else if bounded : index < group.servers.length then group.recordHealthResult ⟨index,bounded⟩ healthy
  else group

end Health
end UpstreamGroupRuntime

namespace UpstreamGroups

def new (resolveUpstreamServer : String → String → Except String SocketAddr) (configs : List UpstreamGroupConfig) :
    Except String UpstreamGroups := do
  let groups ← configs.mapM fun config => do
    let group ← UpstreamGroupRuntime.new resolveUpstreamServer config
    return (config.name,group)
  return ⟨Table.collect groups⟩

-- In each group that names the server, its first place.
def serversByAddr (upstreams : UpstreamGroups) (server : SocketAddr) : List UpstreamServerRef :=
  upstreams.groups.entries.filterMap fun entry => (entry.2.servers.idxOf? server).map fun index => ⟨entry.1,index⟩

def select (upstreams : UpstreamGroups) (name : String) : Except String SocketAddr × UpstreamGroups :=
  match upstreams.groups.lookup name with
  | none => (.error ("unknown upstream group '" ++ name ++ "'"),upstreams)
  | some group => (group.select.1,⟨upstreams.groups.insert name group.select.2⟩)

def recordPassiveResult (upstreams : UpstreamGroups) (server : SocketAddr) (healthy : Bool) : UpstreamGroups :=
  (upstreams.serversByAddr server).foldl (fun upstreams place =>
    match upstreams.groups.lookup place.group with
    | none => upstreams
    | some group => ⟨upstreams.groups.insert place.group (group.recordPassiveResultAt place.index healthy)⟩) upstreams

def isHealthy (upstreams : UpstreamGroups) (server : SocketAddr) : Bool :=
  match upstreams.serversByAddr server with
  | [] => true
  | servers => servers.any fun place =>
    match upstreams.groups.lookup place.group with
    | none => false
    | some group => if bounded : place.index < group.servers.length then (group.health ⟨place.index,bounded⟩).healthy else false

section Created

theorem new_pairs (created : new resolveUpstreamServer configs = .ok upstreams) :
    ∃ pairs, upstreams.groups = Table.collect pairs ∧ List.Forall₂ (fun (config : UpstreamGroupConfig) (pair : String × UpstreamGroupRuntime) =>
      pair.1 = config.name ∧ UpstreamGroupRuntime.new resolveUpstreamServer config = .ok pair.2) configs pairs := by
  obtain ⟨pairs,built,done⟩ := bind_ok.mp created
  cases done
  refine ⟨pairs,rfl,(mapM_ok.mp built).imp fun config pair entered => ?_⟩
  obtain ⟨group,made,named⟩ := bind_ok.mp entered
  cases named
  exact ⟨rfl,made⟩

-- A group that is found was made from a configured group of its name.
theorem new_found (created : new resolveUpstreamServer configs = .ok upstreams) (found : upstreams.groups.lookup name = some group) :
    ∃ config ∈ configs, config.name = name ∧ UpstreamGroupRuntime.new resolveUpstreamServer config = .ok group := by
  obtain ⟨pairs,collected,paired⟩ := new_pairs created
  rw [collected,Table.lookup_collect] at found
  obtain ⟨pair,last,rfl⟩ := Option.map_eq_some_iff.mp found
  obtain ⟨same,member⟩ := lastFor_some last
  obtain ⟨config,listed,named,made⟩ := forall₂_mem paired.flip member
  exact ⟨config,listed,named.symm.trans (of_decide_eq_true same),made⟩

-- Every configured group is found.
theorem new_finds (created : new resolveUpstreamServer configs = .ok upstreams) (listed : config ∈ configs) :
    ∃ group, upstreams.groups.lookup config.name = some group := by
  obtain ⟨pairs,collected,paired⟩ := new_pairs created
  obtain ⟨pair,member,named,-⟩ := forall₂_mem paired listed
  rw [collected,Table.lookup_collect]
  cases last : lastFor (fun pair : String × UpstreamGroupRuntime => decide (pair.1 = config.name)) pairs with
  | some pair => exact ⟨pair.2,rfl⟩
  | none => exact absurd (decide_eq_true named) (List.find?_eq_none.mp last pair (List.mem_reverse.mpr member))

end Created

end UpstreamGroups
end Sigproxy.Upstream
