import Sigproxy.Ha.Election

namespace Sigproxy.Ha.Convergence
open Cluster Election

def promoteActiveStandby (runtime : ActiveStandbyRuntime) : ActiveStandbyRuntime :=
  if runtime.role.acceptsWrites then runtime else runtime.promote

def demoteActiveStandby (runtime : ActiveStandbyRuntime) : ActiveStandbyRuntime :=
  if runtime.role.acceptsWrites then runtime.demote else runtime

-- reconcile_active_standby whose hook succeeds, with nothing else in between.
def reconcileActiveStandby (runtime : ActiveStandbyRuntime) (peer : HaHeartbeat) : ActiveStandbyRuntime :=
  match reconcile runtime.heartbeat peer with
  | .keep => runtime
  | .demote => demoteActiveStandby runtime
  | .promote => promoteActiveStandby runtime

-- A node hears what the other one is at that moment.
def consult (nodes : Side → ActiveStandbyRuntime) (x : Side) : Side → ActiveStandbyRuntime :=
  put nodes x (reconcileActiveStandby (nodes x) (nodes x.other).heartbeat)

section Monitor

theorem reconcile_promotes {runtime : ActiveStandbyRuntime} (verdict : reconcile runtime.heartbeat peer = .promote) :
    reconcileActiveStandby runtime peer = runtime.promote := by
  have idle : runtime.role.acceptsWrites = false := (reconcile_promote.mp verdict).1
  simp [reconcileActiveStandby,verdict,promoteActiveStandby,idle]

theorem reconcile_demotes {runtime : ActiveStandbyRuntime} (verdict : reconcile runtime.heartbeat peer = .demote) :
    reconcileActiveStandby runtime peer = runtime.demote := by
  have active : runtime.role.acceptsWrites = true := (reconcile_demote.mp verdict).1
  simp [reconcileActiveStandby,verdict,demoteActiveStandby,active]

theorem reconcile_keeps {runtime : ActiveStandbyRuntime} (verdict : reconcile runtime.heartbeat peer = .keep) :
    reconcileActiveStandby runtime peer = runtime := by
  simp [reconcileActiveStandby,verdict]

-- The other node answers at once and the monitor acts on the answer.
def asking (s : Pair) (x : Side) : List Action :=
  let peer := (s.runtime x.other).heartbeat
  [.readRole x.other,.respond x.other peer.role,.reconcile x peer]

def consulting (s : Pair) (x : Side) : List Action :=
  asking s x ++ match reconcile (s.runtime x).heartbeat (s.runtime x.other).heartbeat with
    | .keep => []
    | .demote | .promote => [.complete x]

theorem put_still (field : Side → Value) (x : Side) : put field x (field x) = field := by
  funext y
  by_cases same : y = x
  · subst same
    exact put_same ..
  · exact put_ne same

theorem put_put (field : Side → Value) (x : Side) (first second : Value) : put (put field x first) x second = put field x second := by
  funext y
  by_cases same : y = x
  · simp [put,same]
  · simp only [put_ne same]

theorem asking_runs (idle : s.phase x = .idle) : ∃ asked, Pair.run s (asking s x) = some asked ∧ asked.runtime = s.runtime ∧
    asked.phase = put s.phase x (.decided (s.runtime x.other).heartbeat
      (reconcile (s.runtime x).heartbeat (s.runtime x.other).heartbeat)) := by
  simp [asking,Pair.run,Library.Machine.run,Pair.advance,idle,ActiveStandbyRuntime.heartbeat]

-- The sequential rule is what the monitors of the pair do when nothing comes
-- between the heartbeat and the end of the hook.
theorem consulting_runs (idle : s.phase x = .idle) : ∃ next, Pair.run s (consulting s x) = some next ∧
    next.runtime = consult s.runtime x ∧ next.phase = s.phase := by
  obtain ⟨asked,ran,runtime,phase⟩ := asking_runs idle
  have rested : put s.phase x .idle = s.phase := by rw [← idle]; exact put_still ..
  rw [consulting,consult]
  cases verdict : reconcile (s.runtime x).heartbeat (s.runtime x.other).heartbeat with
  | keep =>
      rw [reconcile_keeps verdict,put_still]
      exact ⟨asked,by rw [List.append_nil]; exact ran,runtime,by rw [phase,verdict]; exact rested⟩
  | demote =>
      have demoting : asked.phase x = .demoting (s.runtime x.other).heartbeat := by rw [phase,verdict]; exact put_same ..
      have completed : asked.advance (.complete x) =
          some {asked with runtime:=put asked.runtime x (asked.runtime x).demote,phase:=put asked.phase x .idle} := by
        simp only [Pair.advance,demoting]
      refine ⟨_,Library.Machine.run_snoc ran completed,?_,?_⟩
      · rw [reconcile_demotes verdict,runtime]
      · simp only [phase,put_put,rested]
  | promote =>
      have promoting : asked.phase x = .promoting := by rw [phase,verdict]; exact put_same ..
      obtain ⟨next,completed,left⟩ : ∃ next, asked.advance (.complete x) = some next ∧
          (next.runtime = put asked.runtime x (asked.runtime x).promote ∧ next.phase = put asked.phase x .idle) := by
        simp only [Pair.advance,promoting]
        exact ⟨_,rfl,rfl,rfl⟩
      refine ⟨next,Library.Machine.run_snoc ran completed,?_,?_⟩
      · rw [left.1,reconcile_promotes verdict,runtime]
      · rw [left.2,phase,put_put,rested]

end Monitor

section Settling
variable {nodes : Side → ActiveStandbyRuntime} {x : Side}

theorem consult_self : consult nodes x x = reconcileActiveStandby (nodes x) (nodes x.other).heartbeat := put_same ..

theorem consult_other : consult nodes x x.other = nodes x.other := put_other ..

theorem consult_rest : consult nodes x.other x = nodes x := by
  have rest := @consult_other nodes x.other
  rwa [Side.other_other] at rest

theorem consult_keeps (keeps : reconcile (nodes x).heartbeat (nodes x.other).heartbeat = .keep) : consult nodes x = nodes := by
  rw [consult,reconcile_keeps keeps]
  exact put_still ..

theorem apart_other (distinct : (nodes .one).nodeId ≠ (nodes .two).nodeId) (x : Side) : (nodes x).nodeId ≠ (nodes x.other).nodeId := by
  cases x with
  | one => exact distinct
  | two => exact distinct.symm

def Sole (nodes : Side → ActiveStandbyRuntime) (x : Side) : Prop :=
  (nodes x).role.acceptsWrites = true ∧ (nodes x.other).role.acceptsWrites = false

-- A pair with one active node has settled.
theorem sole_still (sole : Sole nodes x) (y : Side) : consult nodes y = nodes := by
  have keeps : reconcile (nodes y).heartbeat (nodes y.other).heartbeat = .keep := by
    rcases Side.eq_or_other x y with rfl | rfl
    · simp [reconcile,ActiveStandbyRuntime.heartbeat,sole.1,sole.2]
    · simp [reconcile,ActiveStandbyRuntime.heartbeat,sole.1,sole.2]
  exact consult_keeps keeps

theorem sole_stays (sole : Sole nodes x) (order : List Side) : order.foldl consult nodes = nodes := by
  induction order with
  | nil => rfl
  | cons y rest ih => rw [List.foldl_cons,sole_still sole]; exact ih

theorem sole_unique (sole : Sole nodes x) : ∃! y, (nodes y).role.acceptsWrites = true := by
  refine ⟨x,sole.1,fun y active => ?_⟩
  rcases Side.eq_or_other x y with same | other
  · exact same
  · rw [other] at active
    cases sole.2.symm.trans active

theorem promote_active (runtime : ActiveStandbyRuntime) : runtime.promote.role.acceptsWrites = true := by
  unfold ActiveStandbyRuntime.promote
  split
  · assumption
  · rfl

-- Two active nodes: the first to hear of the other steps down where it is beaten,
-- and beats the other one otherwise.
theorem both_active (distinct : (nodes .one).nodeId ≠ (nodes .two).nodeId) (first : (nodes x).role.acceptsWrites = true)
    (second : (nodes x.other).role.acceptsWrites = true) :
    ∃ winner, Sole (consult (consult nodes x) x.other) winner ∧
      Beats (nodes winner).epoch (nodes winner).nodeId (nodes winner.other).epoch (nodes winner.other).nodeId := by
  by_cases wins : peerShouldWin (nodes x).heartbeat (nodes x.other).heartbeat = true
  · have demotes := reconcile_demotes (reconcile_demote.mpr ⟨first,second,wins⟩)
    have sole : Sole (consult nodes x) x.other := by
      refine ⟨by rw [consult_other]; exact second,?_⟩
      rw [Side.other_other,consult_self,demotes]
      rfl
    refine ⟨x.other,by rw [sole_still sole]; exact sole,?_⟩
    rw [Side.other_other]
    exact peerShouldWin_exact.mp wins
  · have kept : consult nodes x = nodes := by
      apply consult_keeps
      rw [reconcile]
      simp only [ActiveStandbyRuntime.heartbeat,first,second] at wins ⊢
      exact if_neg wins
    have beats : Beats (nodes x).epoch (nodes x).nodeId (nodes x.other).epoch (nodes x.other).nodeId := by
      have lost := mt peerShouldWin_exact.mpr wins
      have apart : (nodes x).nodeId ≠ (nodes x.other).nodeId := apart_other distinct x
      simp only [Beats,ActiveStandbyRuntime.heartbeat,NodeId] at lost apart ⊢
      omega
    have sole : Sole (consult nodes x.other) x := by
      have lost : peerShouldWin (nodes x.other).heartbeat (nodes x.other.other).heartbeat = true := by
        rw [Side.other_other]
        exact peerShouldWin_exact.mpr beats
      have demotes := reconcile_demotes (reconcile_demote.mpr ⟨second,by rw [Side.other_other]; exact first,lost⟩)
      exact ⟨by rw [consult_rest]; exact first,by rw [consult_self,demotes]; rfl⟩
    exact ⟨x,by rw [kept]; exact sole,beats⟩

-- Two standby nodes: the lower node id is promoted, whoever hears first.
theorem both_standby (distinct : (nodes .one).nodeId ≠ (nodes .two).nodeId) (first : (nodes x).role.acceptsWrites = false)
    (second : (nodes x.other).role.acceptsWrites = false) : ∃ winner, Sole (consult (consult nodes x) x.other) winner := by
  by_cases lower : (nodes x).nodeId < (nodes x.other).nodeId
  · have promotes := @reconcile_promotes (nodes x.other).heartbeat (nodes x) (reconcile_promote.mpr ⟨first,second,lower⟩)
    have sole : Sole (consult nodes x) x := by
      refine ⟨?_,by rw [consult_other]; exact second⟩
      rw [consult_self,promotes]
      exact promote_active _
    exact ⟨x,by rw [sole_still sole]; exact sole⟩
  · have kept : consult nodes x = nodes := by
      apply consult_keeps
      rw [reconcile]
      simp only [ActiveStandbyRuntime.heartbeat,first,second]
      exact if_neg lower
    have higher : (nodes x.other).nodeId < (nodes x).nodeId := by
      have apart : (nodes x).nodeId ≠ (nodes x.other).nodeId := apart_other distinct x
      simp only [NodeId] at lower apart ⊢
      omega
    have promotes := @reconcile_promotes (nodes x.other.other).heartbeat (nodes x.other)
      (reconcile_promote.mpr ⟨second,by rw [Side.other_other]; exact first,by rw [Side.other_other]; exact higher⟩)
    refine ⟨x.other,?_,?_⟩
    · rw [kept,consult_self,promotes]
      exact promote_active _
    · rw [kept,Side.other_other,consult_rest]
      exact first

theorem consulted_sole (distinct : (nodes .one).nodeId ≠ (nodes .two).nodeId) (x : Side) :
    ∃ winner, Sole (consult (consult nodes x) x.other) winner := by
  cases first : (nodes x).role.acceptsWrites with
  | true =>
      cases second : (nodes x.other).role.acceptsWrites with
      | true => exact (both_active distinct first second).imp fun _ => And.left
      | false =>
          have sole : Sole nodes x := ⟨first,second⟩
          exact ⟨x,by rw [sole_still sole,sole_still sole]; exact sole⟩
  | false =>
      cases second : (nodes x.other).role.acceptsWrites with
      | true =>
          have sole : Sole nodes x.other := ⟨second,by rw [Side.other_other]; exact first⟩
          exact ⟨x.other,by rw [sole_still sole,sole_still sole]; exact sole⟩
      | false => exact both_standby distinct first second

-- Each node hears of the other once: exactly one is left to accept writes, of two
-- active ones the better, and hearing of each other again changes neither.
theorem election_converges (distinct : (nodes .one).nodeId ≠ (nodes .two).nodeId) (x : Side) :
    (∃! y, (consult (consult nodes x) x.other y).role.acceptsWrites = true) ∧
    ((∀ y, (nodes y).role.acceptsWrites = true) → ∀ y, (consult (consult nodes x) x.other y).role.acceptsWrites = true →
      Beats (nodes y).epoch (nodes y).nodeId (nodes y.other).epoch (nodes y.other).nodeId) ∧
    ∀ order : List Side, order.foldl consult (consult (consult nodes x) x.other) = consult (consult nodes x) x.other := by
  obtain ⟨winner,sole⟩ := consulted_sole distinct x
  refine ⟨sole_unique sole,fun active y survives => ?_,sole_stays sole⟩
  obtain ⟨better,left,beats⟩ := both_active distinct (active x) (active x.other)
  rw [(sole_unique left).unique survives left.1]
  exact beats

def rivals : Side → ActiveStandbyRuntime
  | .one => ⟨1,.leader,3⟩
  | .two => ⟨2,.leader,3⟩

theorem rivals_converge : (rivals .one).nodeId ≠ (rivals .two).nodeId ∧
    (∃! y, (consult (consult rivals .two) .one y).role.acceptsWrites = true) ∧
    (consult (consult rivals .two) .one .one).role.acceptsWrites = true := by
  have converges := @election_converges rivals (by decide) .two
  exact ⟨by decide,converges.1,by decide⟩

end Settling
end Sigproxy.Ha.Convergence
