import Sigproxy.Cluster
import Sigproxy.Library.Machine

namespace Sigproxy.Ha
open Cluster

inductive HaInitialRole where
  | active
  | standby
  deriving DecidableEq, Repr

structure HaHeartbeat where
  nodeId : NodeId
  role : ClusterRole
  epoch : Nat
  deriving DecidableEq, Repr

-- The epoch is an AtomicU64 that only `promote` increments, once per promotion.
structure ActiveStandbyRuntime where
  nodeId : NodeId
  role : ClusterRole
  epoch : Nat
  deriving DecidableEq, Repr

namespace ActiveStandbyRuntime

def new (nodeId : NodeId) : HaInitialRole → ActiveStandbyRuntime
  | .active => ⟨nodeId,.leader,1⟩
  | .standby => ⟨nodeId,.follower,1⟩

def heartbeat (runtime : ActiveStandbyRuntime) : HaHeartbeat :=
  ⟨runtime.nodeId,runtime.role,runtime.epoch⟩

def promote (runtime : ActiveStandbyRuntime) : ActiveStandbyRuntime :=
  if runtime.role.acceptsWrites then runtime
  else {runtime with epoch:=runtime.epoch+1,role:=.leader}

def demote (runtime : ActiveStandbyRuntime) : ActiveStandbyRuntime :=
  {runtime with role:=.follower}

end ActiveStandbyRuntime

def peerShouldWin (local_ peer : HaHeartbeat) : Bool :=
  decide (peer.epoch > local_.epoch) || (peer.epoch == local_.epoch && decide (peer.nodeId < local_.nodeId))

inductive Verdict where
  | keep
  | demote
  | promote
  deriving DecidableEq, Repr

-- The match of reconcile_active_standby, before any hook is run.
def reconcile (local_ peer : HaHeartbeat) : Verdict :=
  match local_.role.acceptsWrites,peer.role.acceptsWrites with
  | true,true => if peerShouldWin local_ peer then .demote else .keep
  | false,false => if local_.nodeId < peer.nodeId then .promote else .keep
  | _,_ => .keep

-- The two nodes of an active-standby deployment.
inductive Side where
  | one
  | two
  deriving DecidableEq, Repr

def Side.other : Side → Side
  | .one => .two
  | .two => .one

@[simp] theorem Side.other_other (x : Side) : x.other.other = x := by cases x <;> rfl
@[simp] theorem Side.other_ne (x : Side) : x.other ≠ x := by cases x <;> decide
@[simp] theorem Side.ne_other (x : Side) : x ≠ x.other := by cases x <;> decide

theorem Side.eq_or_other (x y : Side) : y = x ∨ y = x.other := by
  cases x <;> cases y <;> decide

def put {Value : Type} (field : Side → Value) (x : Side) (value : Value) : Side → Value :=
  fun y => if y = x then value else field y

@[simp] theorem put_same {Value : Type} (field : Side → Value) (x : Side) (value : Value) :
    put field x value x = value := by simp [put]
@[simp] theorem put_other {Value : Type} (field : Side → Value) (x : Side) (value : Value) :
    put field x value x.other = field x.other := by simp [put]
theorem put_ne {Value : Type} {field : Side → Value} {value : Value} (different : y ≠ x) :
    put field x value y = field y := by simp [put,different]

-- A side has what was put there, or still what it had.
theorem put_at {Value : Type} (field : Side → Value) (x : Side) (value : Value) (y : Side) :
    y = x ∧ put field x value y = value ∨ put field x value y = field y := by
  by_cases same : y = x
  · subst same
    exact .inl ⟨rfl,put_same ..⟩
  · exact .inr (put_ne same)

theorem of_put {Value : Type} {field : Side → Value} {value held : Value} (found : put field x value y = held) : y = x ∧ value = held ∨ field y = held := by
  obtain ⟨same,shown⟩ | kept := put_at field x value y
  · exact .inl ⟨same,shown.symm.trans found⟩
  · exact .inr (kept.symm.trans found)

theorem mem_put_cons {Value : Type} {field : Side → List Value} {fresh held : Value} :
    held ∈ put field x (fresh :: field x) y ↔ y = x ∧ held = fresh ∨ held ∈ field y := by
  by_cases same : y = x
  · subst same
    simp
  · simp [put_ne same,same]

theorem mem_put_erase {Value : Type} [DecidableEq Value] {field : Side → List Value} {gone held : Value}
    (member : held ∈ put field x ((field x).erase gone) y) : held ∈ field y := by
  obtain ⟨rfl,shown⟩ | kept := put_at field x ((field x).erase gone) y
  · exact List.mem_of_mem_erase (shown ▸ member)
  · exact kept ▸ member

-- What a monitor is doing: waiting for its next tick, or awaiting the hook of a
-- promotion, or awaiting the hook of a demotion that `peer` caused.
inductive Phase where
  | idle
  | promoting
  | demoting (peer : HaHeartbeat)
  deriving DecidableEq, Repr

structure Leadership where
  side : Side
  epoch : Nat
  deriving DecidableEq, Repr

-- A promotion, with the epochs its node had received in heartbeats before it.
structure Promotion where
  side : Side
  epoch : Nat
  heard : List Nat
  deriving DecidableEq, Repr

-- `serving` holds the role reads of heartbeat handlers that have not read the
-- epoch yet. `sent` only grows, so a heartbeat may be delivered late, again or
-- never. The last three fields are history that no step reads.
structure Pair where
  runtime : Side → ActiveStandbyRuntime
  phase : Side → Phase
  serving : Side → List ClusterRole
  sent : Side → List HaHeartbeat
  received : Side → List HaHeartbeat
  leaderships : List Leadership
  promotions : List Promotion

inductive Action where
  | readRole (x : Side)
  | respond (x : Side) (role : ClusterRole)
  | reconcile (x : Side) (peer : HaHeartbeat)
  | failover (x : Side)
  | complete (x : Side)
  deriving DecidableEq, Repr

def initialLeadership (x : Side) : HaInitialRole → List Leadership
  | .active => [⟨x,1⟩]
  | .standby => []

def Pair.start (nodeId : Side → NodeId) (initial : Side → HaInitialRole) : Pair where
  runtime := fun x => .new (nodeId x) (initial x)
  phase := fun _ => .idle
  serving := fun _ => []
  sent := fun _ => []
  received := fun _ => []
  leaderships := initialLeadership .one (initial .one) ++ initialLeadership .two (initial .two)
  promotions := []

def Phase.decided (peer : HaHeartbeat) : Verdict → Phase
  | .keep => .idle
  | .demote => .demoting peer
  | .promote => .promoting

-- A heartbeat is answered in two reads, first the role and then the epoch, and
-- either monitor may act between them. A promotion is one change, because the
-- role's write lock is held from before the epoch is incremented.
def Pair.advance (s : Pair) : Action → Option Pair
  | .readRole x => some {s with serving:=put s.serving x ((s.runtime x).role :: s.serving x)}
  | .respond x role =>
    if role ∈ s.serving x then
      some {s with
        serving:=put s.serving x ((s.serving x).erase role)
        sent:=put s.sent x (⟨(s.runtime x).nodeId,role,(s.runtime x).epoch⟩ :: s.sent x)}
    else none
  | .reconcile x peer =>
    if s.phase x = .idle ∧ peer ∈ s.sent x.other then
      some {s with
        received:=put s.received x (peer :: s.received x)
        phase:=put s.phase x (.decided peer (Ha.reconcile (s.runtime x).heartbeat peer))}
    else none
  | .failover x =>
    if s.phase x = .idle ∧ (s.runtime x).role.acceptsWrites = false then
      some {s with phase:=put s.phase x .promoting}
    else none
  | .complete x =>
    match s.phase x with
    | .idle => none
    | .promoting =>
      some {s with
        runtime:=put s.runtime x (s.runtime x).promote
        phase:=put s.phase x .idle
        leaderships:=s.leaderships ++ [⟨x,(s.runtime x).promote.epoch⟩]
        promotions:=s.promotions ++ [⟨x,(s.runtime x).promote.epoch,(s.received x).map HaHeartbeat.epoch⟩]}
    | .demoting _ =>
      some {s with
        runtime:=put s.runtime x (s.runtime x).demote
        phase:=put s.phase x .idle}

def Pair.run : Pair → List Action → Option Pair := Library.Machine.run Pair.advance

inductive Step : Pair → Action → Pair → Prop where
  | readRole : Step s (.readRole x) {s with serving:=put s.serving x ((s.runtime x).role :: s.serving x)}
  | respond (read : role ∈ s.serving x) : Step s (.respond x role) {s with
      serving:=put s.serving x ((s.serving x).erase role)
      sent:=put s.sent x (⟨(s.runtime x).nodeId,role,(s.runtime x).epoch⟩ :: s.sent x)}
  | reconcile (idle : s.phase x = .idle) (arrived : peer ∈ s.sent x.other) : Step s (.reconcile x peer) {s with
      received:=put s.received x (peer :: s.received x)
      phase:=put s.phase x (.decided peer (Ha.reconcile (s.runtime x).heartbeat peer))}
  | failover (idle : s.phase x = .idle) (inactive : (s.runtime x).role.acceptsWrites = false) :
      Step s (.failover x) {s with phase:=put s.phase x .promoting}
  | promoted (phase : s.phase x = .promoting) : Step s (.complete x) {s with
      runtime:=put s.runtime x (s.runtime x).promote
      phase:=put s.phase x .idle
      leaderships:=s.leaderships ++ [⟨x,(s.runtime x).promote.epoch⟩]
      promotions:=s.promotions ++ [⟨x,(s.runtime x).promote.epoch,(s.received x).map HaHeartbeat.epoch⟩]}
  | demoted (phase : s.phase x = .demoting peer) : Step s (.complete x) {s with
      runtime:=put s.runtime x (s.runtime x).demote
      phase:=put s.phase x .idle}

theorem advance_sound (advanced : s.advance action = some next) : Step s action next := by
  cases action with
  | readRole x => cases Option.some.inj advanced; exact .readRole
  | respond x role =>
      simp only [Pair.advance] at advanced
      split at advanced
      · rename_i read; cases Option.some.inj advanced; exact .respond read
      · cases advanced
  | reconcile x peer =>
      simp only [Pair.advance] at advanced
      split at advanced
      · rename_i ready; cases Option.some.inj advanced; exact .reconcile ready.1 ready.2
      · cases advanced
  | failover x =>
      simp only [Pair.advance] at advanced
      split at advanced
      · rename_i ready; cases Option.some.inj advanced; exact .failover ready.1 ready.2
      · cases advanced
  | complete x =>
      simp only [Pair.advance] at advanced
      split at advanced
      · cases advanced
      · rename_i phase; cases Option.some.inj advanced; exact .promoted phase
      · rename_i peer phase; cases Option.some.inj advanced; exact .demoted phase

end Sigproxy.Ha
