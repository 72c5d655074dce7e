import Sigproxy.Ha.ActiveStandby
import Sigproxy.Proxy.State

namespace Sigproxy.Ha.StandbyPull
open Library Cluster Persistence Proxy

-- A submit call after its role check, and whether its command has reached memory.
inductive CallPhase where
  | accepted
  | applied
  | failed
  deriving DecidableEq, Repr

structure Call where
  command : ClusterCommand
  phase : CallPhase
  deriving DecidableEq, Repr

-- The monitor waits for a hook between the role it has read and the role it sets.
inductive MonitorPhase where
  | idle
  | promoting
  | demoting
  deriving DecidableEq, Repr

-- One round of run_snapshot_pull, await by await.
inductive PullPhase where
  | waiting
  | checked
  | requested
  | applying (expected : Nat) (events : List HaEventRecord)
  | persisting (expected : Nat) (event : HaEventRecord) (rest : List HaEventRecord)
  | fetching
  | installing (snapshot : HaStateSnapshot)
  | contactsInstalled (snapshot : HaStateSnapshot)
  | affinityInstalled (snapshot : HaStateSnapshot)
  deriving DecidableEq, Repr

-- How many promotions the node had seen at the role check of a round, and at the
-- moment when data of that round entered the node.
structure Install where
  checkedAt : Nat
  installedAt : Nat
  deriving DecidableEq, Repr

-- The last four fields are history; `issued` holds the commands applied to memory
-- since the role last changed.
structure Node where
  now : Nat
  runtime : ActiveStandbyRuntime
  server : ProxyState
  monitor : MonitorPhase
  pull : PullPhase
  calls : List Call
  promotions : Nat
  round : Nat
  installs : List Install
  issued : List ClusterCommand

inductive Action where
  | tick (elapsed : Nat)
  | submit (command : ClusterCommand)
  | apply (call : Nat)
  | fail (call : Nat)
  | lookup (aor : String)
  | promote
  | demote
  | hookFails
  | hookReturns
  | pullTick
  | askEvents
  | eventsArrive (response : HaEventsResponse) (readFails : Bool)
  | eventsFail
  | applyEvent
  | persistEvent (fails : Bool)
  | snapshotArrives (snapshot : HaStateSnapshot)
  | snapshotFails
  | installContacts
  | installAffinity
  | persistSnapshot (fails : Bool)

namespace Node

def start (runtime : ActiveStandbyRuntime) (server : ProxyState) : Node :=
  ⟨0,runtime,server,.idle,.waiting,[],0,0,[],[]⟩

def acceptsWrites (s : Node) : Bool := s.runtime.role.acceptsWrites

-- Data of the current round enters the node.
def install (s : Node) (server : ProxyState) (pull : PullPhase) : Node :=
  {s with server,pull,installs:=s.installs ++ [⟨s.round,s.promotions⟩]}

def expectedSeq (s : Node) (readFails : Bool) : Nat :=
  (if readFails then 0 else s.server.lastAppliedHaEventSeq) + 1

def afterEvents (s : Node) (response : HaEventsResponse) (readFails : Bool) : PullPhase :=
  if response.snapshotRequired then .fetching
  else if response.events.isEmpty then .waiting
  else .applying (s.expectedSeq readFails) response.events

variable (computeChecksum : HaStateSnapshot → String)

def advance (s : Node) : Action → Option Node
  | .tick elapsed => some {s with now:=s.now + elapsed}
  | .submit command =>
    if s.acceptsWrites then some {s with calls:=s.calls ++ [⟨command,.accepted⟩]} else some s
  | .apply call =>
    match s.calls[call]? with
    | some ⟨command,.accepted⟩ =>
      some {s with
        server:={s.server with state:=s.server.state.apply command}
        calls:=s.calls.set call ⟨command,.applied⟩
        issued:=s.issued ++ [command]}
    | _ => none
  | .fail call =>
    match s.calls[call]? with
    | some ⟨command,.accepted⟩ => some {s with calls:=s.calls.set call ⟨command,.failed⟩}
    | _ => none
  | .lookup aor => some {s with server:={s.server with state:=(s.server.state.lookup s.now aor).2}}
  | .promote => if s.monitor = .idle ∧ ¬ s.acceptsWrites then some {s with monitor:=.promoting} else none
  | .demote => if s.monitor = .idle ∧ s.acceptsWrites then some {s with monitor:=.demoting} else none
  | .hookFails => if s.monitor = .idle then none else some {s with monitor:=.idle}
  | .hookReturns =>
    match s.monitor with
    | .idle => none
    | .promoting =>
      some {s with monitor:=.idle,runtime:=s.runtime.promote,promotions:=s.promotions + 1,issued:=[]}
    | .demoting => some {s with monitor:=.idle,runtime:=s.runtime.demote,issued:=[]}
  | .pullTick =>
    match s.pull with
    | .waiting => if s.acceptsWrites then some s else some {s with pull:=.checked,round:=s.promotions}
    | _ => none
  | .askEvents =>
    match s.pull with
    | .checked => some {s with pull:=if s.server.persistence.isNone then .fetching else .requested}
    | _ => none
  | .eventsArrive response readFails =>
    match s.pull with
    | .requested => some {s with pull:=s.afterEvents response readFails}
    | _ => none
  | .eventsFail =>
    match s.pull with
    | .requested => some {s with pull:=.fetching}
    | _ => none
  | .applyEvent =>
    match s.pull with
    | .applying _ [] => some {s with pull:=.waiting}
    | .applying expected (event :: rest) =>
      if event.seq = expected then
        some (s.install (s.server.applyHaEventToMemory s.now event) (.persisting expected event rest))
      else some {s with pull:=.fetching}
    | _ => none
  | .persistEvent fails =>
    match s.pull with
    | .persisting expected event rest =>
      if fails then some {s with pull:=.fetching}
      else some (s.install (s.server.persistHaEvent s.now event) (.applying (expected + 1) rest))
    | _ => none
  | .snapshotArrives snapshot =>
    match s.pull with
    | .fetching =>
      some {s with pull:=if snapshot.checksumIsValid computeChecksum then .installing snapshot else .waiting}
    | _ => none
  | .snapshotFails =>
    match s.pull with
    | .fetching => some {s with pull:=.waiting}
    | _ => none
  | .installContacts =>
    match s.pull with
    | .installing snapshot => some (s.install (s.server.installContacts s.now snapshot) (.contactsInstalled snapshot))
    | _ => none
  | .installAffinity =>
    match s.pull with
    | .contactsInstalled snapshot =>
      some (s.install (s.server.installAffinity s.now snapshot) (.affinityInstalled snapshot))
    | _ => none
  | .persistSnapshot fails =>
    match s.pull with
    | .affinityInstalled snapshot =>
      if fails then some {s with pull:=.waiting}
      else some (s.install (s.server.persistSnapshot s.now snapshot) .waiting)
    | _ => none

def run (s : Node) (actions : List Action) : Option Node := Machine.run (advance computeChecksum) s actions

end Node

inductive Step (computeChecksum : HaStateSnapshot → String) : Node → Action → Node → Prop where
  | tick : Step computeChecksum s (.tick elapsed) {s with now:=s.now + elapsed}
  | refused (closed : s.acceptsWrites = false) : Step computeChecksum s (.submit command) s
  | submit (leading : s.acceptsWrites = true) :
      Step computeChecksum s (.submit command) {s with calls:=s.calls ++ [⟨command,.accepted⟩]}
  | apply (due : s.calls[call]? = some ⟨command,.accepted⟩) :
      Step computeChecksum s (.apply call)
        {s with
          server:={s.server with state:=s.server.state.apply command}
          calls:=s.calls.set call ⟨command,.applied⟩
          issued:=s.issued ++ [command]}
  | fail (due : s.calls[call]? = some ⟨command,.accepted⟩) :
      Step computeChecksum s (.fail call) {s with calls:=s.calls.set call ⟨command,.failed⟩}
  | lookup : Step computeChecksum s (.lookup aor)
      {s with server:={s.server with state:=(s.server.state.lookup s.now aor).2}}
  | promote (closed : s.acceptsWrites = false) : Step computeChecksum s .promote {s with monitor:=.promoting}
  | demote (leading : s.acceptsWrites = true) : Step computeChecksum s .demote {s with monitor:=.demoting}
  | hookFails : Step computeChecksum s .hookFails {s with monitor:=.idle}
  | promoted (hook : s.monitor = .promoting) : Step computeChecksum s .hookReturns
      {s with monitor:=.idle,runtime:=s.runtime.promote,promotions:=s.promotions + 1,issued:=[]}
  | demoted (hook : s.monitor = .demoting) : Step computeChecksum s .hookReturns
      {s with monitor:=.idle,runtime:=s.runtime.demote,issued:=[]}
  | noPull (leading : s.acceptsWrites = true) : Step computeChecksum s .pullTick s
  | pullTick (closed : s.acceptsWrites = false) :
      Step computeChecksum s .pullTick {s with pull:=.checked,round:=s.promotions}
  | askEvents (reached : s.pull = .checked) : Step computeChecksum s .askEvents
      {s with pull:=if s.server.persistence.isNone then .fetching else .requested}
  | eventsArrive (reached : s.pull = .requested) :
      Step computeChecksum s (.eventsArrive response readFails) {s with pull:=s.afterEvents response readFails}
  | eventsFail (reached : s.pull = .requested) : Step computeChecksum s .eventsFail {s with pull:=.fetching}
  | batchDone (reached : s.pull = .applying expected []) : Step computeChecksum s .applyEvent {s with pull:=.waiting}
  | gap (reached : s.pull = .applying expected (event :: rest)) (other : event.seq ≠ expected) :
      Step computeChecksum s .applyEvent {s with pull:=.fetching}
  | applyEvent (reached : s.pull = .applying event.seq (event :: rest)) :
      Step computeChecksum s .applyEvent
        (s.install (s.server.applyHaEventToMemory s.now event) (.persisting event.seq event rest))
  | persistEventFails (reached : s.pull = .persisting expected event rest) :
      Step computeChecksum s (.persistEvent true) {s with pull:=.fetching}
  | persistEvent (reached : s.pull = .persisting expected event rest) :
      Step computeChecksum s (.persistEvent false)
        (s.install (s.server.persistHaEvent s.now event) (.applying (expected + 1) rest))
  | snapshotArrives (reached : s.pull = .fetching) : Step computeChecksum s (.snapshotArrives snapshot)
      {s with pull:=if snapshot.checksumIsValid computeChecksum then .installing snapshot else .waiting}
  | snapshotFails (reached : s.pull = .fetching) : Step computeChecksum s .snapshotFails {s with pull:=.waiting}
  | installContacts (reached : s.pull = .installing snapshot) : Step computeChecksum s .installContacts
      (s.install (s.server.installContacts s.now snapshot) (.contactsInstalled snapshot))
  | installAffinity (reached : s.pull = .contactsInstalled snapshot) : Step computeChecksum s .installAffinity
      (s.install (s.server.installAffinity s.now snapshot) (.affinityInstalled snapshot))
  | persistSnapshotFails (reached : s.pull = .affinityInstalled snapshot) :
      Step computeChecksum s (.persistSnapshot true) {s with pull:=.waiting}
  | persistSnapshot (reached : s.pull = .affinityInstalled snapshot) :
      Step computeChecksum s (.persistSnapshot false) (s.install (s.server.persistSnapshot s.now snapshot) .waiting)

variable {computeChecksum : HaStateSnapshot → String} {s next : Node}

theorem advance_sound (advanced : s.advance computeChecksum action = some next) :
    Step computeChecksum s action next := by
  cases action with
  | tick elapsed => cases advanced; exact .tick
  | lookup aor => cases advanced; exact .lookup
  | submit command =>
      simp only [Node.advance] at advanced
      split at advanced
      next leading => cases advanced; exact .submit leading
      next closed => cases advanced; exact .refused (Bool.eq_false_iff.mpr closed)
  | apply call =>
      simp only [Node.advance] at advanced
      split at advanced
      next command due => cases advanced; exact .apply due
      next => cases advanced
  | fail call =>
      simp only [Node.advance] at advanced
      split at advanced
      next command due => cases advanced; exact .fail due
      next => cases advanced
  | promote =>
      simp only [Node.advance] at advanced
      split at advanced
      next ready => cases advanced; exact .promote (Bool.eq_false_iff.mpr ready.2)
      next => cases advanced
  | demote =>
      simp only [Node.advance] at advanced
      split at advanced
      next ready => cases advanced; exact .demote ready.2
      next => cases advanced
  | hookFails =>
      simp only [Node.advance] at advanced
      split at advanced
      next => cases advanced
      next => cases advanced; exact .hookFails
  | hookReturns =>
      simp only [Node.advance] at advanced
      split at advanced
      next => cases advanced
      next hook => cases advanced; exact .promoted hook
      next hook => cases advanced; exact .demoted hook
  | pullTick =>
      simp only [Node.advance] at advanced
      split at advanced
      next =>
        split at advanced
        next leading => cases advanced; exact .noPull leading
        next closed => cases advanced; exact .pullTick (Bool.eq_false_iff.mpr closed)
      next => cases advanced
  | applyEvent =>
      simp only [Node.advance] at advanced
      split at advanced
      next reached => cases advanced; exact .batchDone reached
      next reached =>
        split at advanced
        next same => cases advanced; subst same; exact .applyEvent reached
        next other => cases advanced; exact .gap reached other
      next => cases advanced
  | persistEvent fails =>
      simp only [Node.advance] at advanced
      split at advanced
      next reached =>
        cases fails with
        | true => cases advanced; exact .persistEventFails reached
        | false => cases advanced; exact .persistEvent reached
      next => cases advanced
  | persistSnapshot fails =>
      simp only [Node.advance] at advanced
      split at advanced
      next reached =>
        cases fails with
        | true => cases advanced; exact .persistSnapshotFails reached
        | false => cases advanced; exact .persistSnapshot reached
      next => cases advanced
  | _ =>
      simp only [Node.advance] at advanced
      split at advanced
      · rename_i reached
        cases advanced
        constructor
        exact reached
      · cases advanced

end Sigproxy.Ha.StandbyPull
