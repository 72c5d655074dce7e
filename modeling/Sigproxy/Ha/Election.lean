import Sigproxy.Ha.ActiveStandby

namespace Sigproxy.Ha.Election
open Cluster

-- The order in which peer_should_win ranks leaderships: by epoch, then by the
-- lower node id.
def Beats (epoch id epoch' id' : Nat) : Prop :=
  epoch' < epoch ∨ epoch = epoch' ∧ id < id'

theorem peerShouldWin_exact : peerShouldWin local_ peer = true ↔
    Beats peer.epoch peer.nodeId local_.epoch local_.nodeId := by
  simp [peerShouldWin,Beats]

theorem Beats.asymm (one : Beats e i e' i') (two : Beats e' i' e i) : False := by
  unfold Beats at one two; omega

theorem Beats.raise (won : Beats e i e' i') (later : e ≤ e'') : Beats e'' i e' i' := by
  unfold Beats at *; omega

theorem reconcile_demote : reconcile local_ peer = .demote ↔
    local_.role.acceptsWrites = true ∧ peer.role.acceptsWrites = true ∧ peerShouldWin local_ peer = true := by
  unfold reconcile
  cases local_.role.acceptsWrites <;> cases peer.role.acceptsWrites <;> simp
  split <;> simp

theorem reconcile_promote : reconcile local_ peer = .promote ↔
    local_.role.acceptsWrites = false ∧ peer.role.acceptsWrites = false ∧ local_.nodeId < peer.nodeId := by
  unfold reconcile
  cases local_.role.acceptsWrites <;> cases peer.role.acceptsWrites <;> simp
  split <;> simp

theorem decided_demoting : Phase.decided peer verdict = .demoting h ↔ verdict = .demote ∧ h = peer := by
  cases verdict <;> simp [Phase.decided,eq_comm]

theorem decided_promoting : Phase.decided peer verdict = .promoting ↔ verdict = .promote := by
  cases verdict <;> simp [Phase.decided]

variable {nodeId : Side → NodeId} {initial : Side → HaInitialRole}

def Active (s : Pair) (x : Side) : Prop := (s.runtime x).role.acceptsWrites = true

-- Every epoch past the first was entered by a promotion, the first one only by
-- a node configured as active.
def Led (initial : Side → HaInitialRole) (x : Side) (epoch : Nat) : Prop :=
  2 ≤ epoch ∨ initial x = .active

theorem Led.later (led : Led initial x e) (later : e ≤ e') : Led initial x e' :=
  led.imp (fun bound => Nat.le_trans bound later) id

-- What heartbeats tell: a claimed epoch is never ahead of its sender, and an
-- active role is only claimed for an epoch in which the sender has led.
structure Truthful (nodeId : Side → NodeId) (initial : Side → HaInitialRole) (s : Pair) : Prop where
  ids : ∀ x, (s.runtime x).nodeId = nodeId x
  roles : ∀ x, (s.runtime x).role = .leader ∨ (s.runtime x).role = .follower
  positive : ∀ x, 1 ≤ (s.runtime x).epoch
  active : ∀ x, Active s x → Led initial x (s.runtime x).epoch
  serving : ∀ x, ∀ role ∈ s.serving x, role.acceptsWrites = true → Led initial x (s.runtime x).epoch
  sentId : ∀ x, ∀ h ∈ s.sent x, h.nodeId = nodeId x
  sentEpoch : ∀ x, ∀ h ∈ s.sent x, h.epoch ≤ (s.runtime x).epoch
  sentActive : ∀ x, ∀ h ∈ s.sent x, h.role.acceptsWrites = true → Led initial x h.epoch

theorem start_truthful : Truthful nodeId initial (.start nodeId initial) := by
  refine ⟨?_,?_,?_,?_,?_,?_,?_,?_⟩
  · intro x; cases role : initial x <;> simp [Pair.start,ActiveStandbyRuntime.new,role]
  · intro x; cases role : initial x <;> simp [Pair.start,ActiveStandbyRuntime.new,role]
  · intro x; cases role : initial x <;> simp [Pair.start,ActiveStandbyRuntime.new,role]
  · intro x active
    cases role : initial x with
    | active => exact .inr role
    | standby => simp [Active,Pair.start,ActiveStandbyRuntime.new,role,ClusterRole.acceptsWrites] at active
  all_goals simp [Pair.start]

@[simp] theorem promote_nodeId (r : ActiveStandbyRuntime) : r.promote.nodeId = r.nodeId := by
  unfold ActiveStandbyRuntime.promote; split <;> rfl
theorem promote_epoch_le (r : ActiveStandbyRuntime) : r.epoch ≤ r.promote.epoch := by
  unfold ActiveStandbyRuntime.promote; split <;> simp
theorem promote_inactive {r : ActiveStandbyRuntime} (inactive : r.role.acceptsWrites = false) :
    r.promote = {r with epoch:=r.epoch+1,role:=.leader} := by
  simp [ActiveStandbyRuntime.promote,inactive]
@[simp] theorem demote_nodeId (r : ActiveStandbyRuntime) : r.demote.nodeId = r.nodeId := rfl
@[simp] theorem demote_epoch (r : ActiveStandbyRuntime) : r.demote.epoch = r.epoch := rfl

-- Node ids never change and epochs never fall, whichever step is taken.
theorem step_nodeId (step : Step s action next) (x : Side) :
    (next.runtime x).nodeId = (s.runtime x).nodeId := by
  cases step with
  | @promoted _ y phase => by_cases same : x = y <;> simp [put,same]
  | @demoted _ y peer phase => by_cases same : x = y <;> simp [put,same]
  | _ => rfl

theorem step_epoch (step : Step s action next) (x : Side) :
    (s.runtime x).epoch ≤ (next.runtime x).epoch := by
  cases step with
  | @promoted _ y phase => by_cases same : x = y <;> simp [put,same,promote_epoch_le]
  | @demoted _ y peer phase => by_cases same : x = y <;> simp [put,same]
  | _ => exact Nat.le_refl _

theorem step_roles (roles : ∀ x, (s.runtime x).role = .leader ∨ (s.runtime x).role = .follower)
    (step : Step s action next) (x : Side) :
    (next.runtime x).role = .leader ∨ (next.runtime x).role = .follower := by
  cases step with
  | @promoted _ y phase =>
      obtain ⟨rfl,_⟩ | kept := put_at s.runtime y (s.runtime y).promote x
      · simp only [put_same,ActiveStandbyRuntime.promote]
        split
        · exact roles x
        · exact .inl rfl
      · simpa [kept] using roles x
  | @demoted _ y peer phase =>
      obtain ⟨rfl,_⟩ | kept := put_at s.runtime y (s.runtime y).demote x
      · simp [ActiveStandbyRuntime.demote]
      · simpa [kept] using roles x
  | _ => exact roles x

theorem step_truthful (truthful : Truthful nodeId initial s) (step : Step s action next) :
    Truthful nodeId initial next := by
  have ids : ∀ x, (next.runtime x).nodeId = nodeId x := fun x =>
    (step_nodeId step x).trans (truthful.ids x)
  have roles := step_roles truthful.roles step
  have positive : ∀ x, 1 ≤ (next.runtime x).epoch := fun x =>
    Nat.le_trans (truthful.positive x) (step_epoch step x)
  -- Whatever was led before is led at the epoch reached now.
  have carry : ∀ x, Led initial x (s.runtime x).epoch → Led initial x (next.runtime x).epoch :=
    fun x led => led.later (step_epoch step x)
  have sentEpoch : ∀ x, ∀ h ∈ s.sent x, h.epoch ≤ (next.runtime x).epoch := fun x h member =>
    Nat.le_trans (truthful.sentEpoch x h member) (step_epoch step x)
  have serving : ∀ x, ∀ role ∈ s.serving x, role.acceptsWrites = true →
      Led initial x (next.runtime x).epoch := fun x role member writes =>
    carry x (truthful.serving x role member writes)
  cases step with
  | @readRole _ y =>
      refine ⟨ids,roles,positive,truthful.active,?_,truthful.sentId,sentEpoch,truthful.sentActive⟩
      intro x role member writes
      obtain ⟨rfl,rfl⟩ | earlier := mem_put_cons.mp member
      · exact truthful.active x writes
      · exact serving x role earlier writes
  | @respond role _ y read =>
      refine ⟨ids,roles,positive,truthful.active,?_,?_,?_,?_⟩
      · intro x other member writes
        exact serving x other (mem_put_erase member) writes
      · intro x h member
        obtain ⟨rfl,rfl⟩ | old := mem_put_cons.mp member
        · exact truthful.ids x
        · exact truthful.sentId x h old
      · intro x h member
        obtain ⟨rfl,rfl⟩ | old := mem_put_cons.mp member
        · exact Nat.le_refl _
        · exact sentEpoch x h old
      · intro x h member writes
        obtain ⟨rfl,rfl⟩ | old := mem_put_cons.mp member
        · exact serving x role read writes
        · exact truthful.sentActive x h old writes
  | reconcile idle arrived =>
      exact ⟨ids,roles,positive,truthful.active,serving,truthful.sentId,sentEpoch,truthful.sentActive⟩
  | failover idle inactive =>
      exact ⟨ids,roles,positive,truthful.active,serving,truthful.sentId,sentEpoch,truthful.sentActive⟩
  | @promoted _ y phase =>
      refine ⟨ids,roles,positive,?_,serving,truthful.sentId,sentEpoch,truthful.sentActive⟩
      intro x writes
      obtain ⟨rfl,_⟩ | kept := put_at s.runtime y (s.runtime y).promote x
      · -- A node that was already active keeps its epoch, any other enters a new one.
        by_cases already : (s.runtime x).role.acceptsWrites = true
        · exact carry x (truthful.active x already)
        · have bound := truthful.positive x
          simp only [put_same,promote_inactive (by simpa using already)]
          exact .inl (by simp; omega)
      · exact carry x (truthful.active x (by simpa [Active,kept] using writes))
  | @demoted _ y peer phase =>
      refine ⟨ids,roles,positive,?_,serving,truthful.sentId,sentEpoch,truthful.sentActive⟩
      intro x writes
      obtain ⟨rfl,_⟩ | kept := put_at s.runtime y (s.runtime y).demote x
      · simp [Active,ActiveStandbyRuntime.demote,ClusterRole.acceptsWrites] at writes
      · exact carry x (truthful.active x (by simpa [Active,kept] using writes))

-- A monitor awaiting a hook holds the decision it took: its own role has not
-- changed since, because only this monitor changes it.
structure Deciding (s : Pair) : Prop where
  promoting : ∀ x, s.phase x = .promoting → (s.runtime x).role.acceptsWrites = false
  demotingActive : ∀ x h, s.phase x = .demoting h → Active s x
  demotingArrived : ∀ x h, s.phase x = .demoting h → h ∈ s.sent x.other ∧ h.role.acceptsWrites = true
  demotingBeaten : ∀ x h, s.phase x = .demoting h →
    Beats h.epoch h.nodeId (s.runtime x).epoch (s.runtime x).nodeId

theorem start_deciding : Deciding (.start nodeId initial) := by
  constructor <;> simp [Pair.start]

-- A completed hook leaves its monitor idle; the other one is untouched.
theorem completed_deciding (deciding : Deciding s) {runtime : ActiveStandbyRuntime}
    {leaderships : List Leadership} {promotions : List Promotion} :
    Deciding {s with runtime:=put s.runtime y runtime,phase:=put s.phase y .idle,leaderships,promotions} := by
  constructor
  all_goals
    intro x
    by_cases same : x = y
    · subst same; simp
    · simp only [put_ne same,Active]
      first
      | exact deciding.promoting x
      | exact deciding.demotingActive x
      | exact deciding.demotingArrived x
      | exact deciding.demotingBeaten x

theorem step_deciding (deciding : Deciding s) (step : Step s action next) : Deciding next := by
  cases step with
  | readRole =>
      exact ⟨deciding.promoting,deciding.demotingActive,deciding.demotingArrived,deciding.demotingBeaten⟩
  | @respond role _ y read =>
      refine ⟨deciding.promoting,deciding.demotingActive,?_,deciding.demotingBeaten⟩
      intro x h phase
      obtain ⟨arrived,writes⟩ := deciding.demotingArrived x h phase
      exact ⟨mem_put_cons.mpr (.inr arrived),writes⟩
  | @reconcile peer _ y idle arrived =>
      -- Only the phase of `y` changes, and to what the verdict says.
      have verdict := @reconcile_demote (s.runtime y).heartbeat peer
      refine ⟨?_,?_,?_,?_⟩
      · intro x phase
        obtain ⟨rfl,decided⟩ | before := of_put phase
        · exact (reconcile_promote.mp (decided_promoting.mp decided)).1
        · exact deciding.promoting x before
      · intro x h phase
        obtain ⟨rfl,decided⟩ | before := of_put phase
        · exact (verdict.mp (decided_demoting.mp decided).1).1
        · exact deciding.demotingActive x h before
      · intro x h phase
        obtain ⟨rfl,decided⟩ | before := of_put phase
        · obtain ⟨demote,rfl⟩ := decided_demoting.mp decided
          exact ⟨arrived,(verdict.mp demote).2.1⟩
        · exact deciding.demotingArrived x h before
      · intro x h phase
        obtain ⟨rfl,decided⟩ | before := of_put phase
        · obtain ⟨demote,rfl⟩ := decided_demoting.mp decided
          exact peerShouldWin_exact.mp (verdict.mp demote).2.2
        · exact deciding.demotingBeaten x h before
  | @failover _ y idle inactive =>
      have before : ∀ x h, put s.phase y .promoting x = .demoting h → s.phase x = .demoting h := by
        intro x h phase
        obtain ⟨_,promoting⟩ | before := of_put phase
        · cases promoting
        · exact before
      refine ⟨?_,?_,?_,?_⟩
      · intro x phase
        obtain ⟨rfl,_⟩ | before := of_put phase
        · exact inactive
        · exact deciding.promoting x before
      · exact fun x h phase => deciding.demotingActive x h (before x h phase)
      · exact fun x h phase => deciding.demotingArrived x h (before x h phase)
      · exact fun x h phase => deciding.demotingBeaten x h (before x h phase)
  | promoted phase => exact completed_deciding deciding
  | demoted phase => exact completed_deciding deciding
-- A leadership is over once its node has entered a later epoch or left the
-- active role. Whoever ended it still ranks above it, for epochs never fall.
def Over (s : Pair) (x : Side) (epoch : Nat) : Prop :=
  epoch < (s.runtime x).epoch ∨ epoch = (s.runtime x).epoch ∧ ¬ Active s x

def Succeeded (nodeId : Side → NodeId) (initial : Side → HaInitialRole) (s : Pair) : Prop :=
  ∀ x epoch, Led initial x epoch → Over s x epoch →
    Beats (s.runtime x.other).epoch (nodeId x.other) epoch (nodeId x)

theorem start_succeeded : Succeeded nodeId initial (.start nodeId initial) := by
  intro x epoch led ended
  rcases ended with earlier | ⟨same,inactive⟩
  · cases mine : initial x <;> cases theirs : initial x.other <;>
      simp_all [Pair.start,ActiveStandbyRuntime.new,Beats]
  · cases mine : initial x with
    | active => simp [Active,Pair.start,ActiveStandbyRuntime.new,mine,ClusterRole.acceptsWrites] at inactive
    | standby =>
        simp [Pair.start,ActiveStandbyRuntime.new,mine] at same
        simp [Led,mine,same] at led

theorem step_succeeded (truthful : Truthful nodeId initial s) (deciding : Deciding s)
    (succeeded : Succeeded nodeId initial s) (step : Step s action next) :
    Succeeded nodeId initial next := by
  intro x epoch led ended
  -- It suffices that the leadership was over before: the winner's epoch has not fallen.
  have before : Over s x epoch → Beats (next.runtime x.other).epoch (nodeId x.other) epoch (nodeId x) :=
    fun past => (succeeded x epoch led past).raise (step_epoch step x.other)
  cases step with
  | readRole => exact before ended
  | respond read => exact before ended
  | reconcile idle arrived => exact before ended
  | failover idle inactive => exact before ended
  | @promoted _ y phase =>
      by_cases same : x = y
      · subst same
        have inactive := deciding.promoting x phase
        apply before
        simp only [Over,put_same,promote_inactive inactive,Active] at ended ⊢
        rcases ended with earlier | ⟨_,still⟩
        · by_cases last : epoch = (s.runtime x).epoch
          · exact .inr ⟨last,by simp [inactive]⟩
          · exact .inl (by omega)
        · simp [ClusterRole.acceptsWrites] at still
      · apply before
        simpa [Over,Active,put,same] using ended
  | @demoted _ y peer phase =>
      by_cases same : x = y
      · subst same
        simp only [Over,put_same,demote_epoch] at ended
        rcases ended with earlier | ⟨last,_⟩
        · exact before (.inl earlier)
        · -- The leadership that ends here was beaten by the heartbeat of the peer.
          subst last
          have beaten := deciding.demotingBeaten x peer phase
          obtain ⟨arrived,_⟩ := deciding.demotingArrived x peer phase
          rw [truthful.sentId _ _ arrived,truthful.ids x] at beaten
          simpa using beaten.raise (truthful.sentEpoch _ _ arrived)
      · apply before
        simpa [Over,Active,put,same] using ended

structure Sound (nodeId : Side → NodeId) (initial : Side → HaInitialRole) (s : Pair) : Prop where
  truthful : Truthful nodeId initial s
  deciding : Deciding s
  succeeded : Succeeded nodeId initial s

theorem start_sound : Sound nodeId initial (.start nodeId initial) :=
  ⟨start_truthful,start_deciding,start_succeeded⟩

theorem step_sound (sound : Sound nodeId initial s) (step : Step s action next) : Sound nodeId initial next :=
  ⟨step_truthful sound.truthful step,step_deciding sound.deciding step,
    step_succeeded sound.truthful sound.deciding sound.succeeded step⟩

theorem run_sound (ran : (Pair.start nodeId initial).run actions = some s) : Sound nodeId initial s :=
  Library.Machine.run_preserves _ (fun _ _ _ sound advanced => step_sound sound (advance_sound advanced))
    start_sound ran

-- The leadership whose heartbeat demotes a node is still going on: its node
-- leads, and at the very epoch the heartbeat carried.
theorem demotion_leaves_leader (ran : (Pair.start nodeId initial).run actions = some s)
    (demoting : s.phase x = .demoting peer) (completed : s.advance (.complete x) = some next) :
    (next.runtime x.other).role = .leader ∧ (next.runtime x.other).epoch = peer.epoch ∧
      (next.runtime x).role = .follower := by
  obtain ⟨truthful,deciding,succeeded⟩ := run_sound ran
  obtain ⟨arrived,writes⟩ := deciding.demotingArrived x peer demoting
  have led := truthful.sentActive _ _ arrived writes
  have beaten := deciding.demotingBeaten x peer demoting
  rw [truthful.sentId _ _ arrived,truthful.ids x] at beaten
  have ongoing : ¬ Over s x.other peer.epoch := by
    intro ended
    have successor := succeeded x.other peer.epoch led ended
    rw [Side.other_other] at successor
    exact beaten.asymm successor
  have bound := truthful.sentEpoch _ _ arrived
  unfold Over at ongoing
  push Not at ongoing
  have epoch : peer.epoch = (s.runtime x.other).epoch := Nat.le_antisymm bound ongoing.1
  simp only [Pair.advance,demoting,Option.some.injEq] at completed
  subst completed
  refine ⟨?_,?_,?_⟩
  · have leads := ongoing.2 epoch
    rcases truthful.roles x.other with leader | follower
    · simpa using leader
    · simp [Active,follower,ClusterRole.acceptsWrites] at leads
  · simpa using epoch.symm
  · simp [ActiveStandbyRuntime.demote]

-- Node 1 starts active, node 2 takes over during a partition, and node 1 hears
-- of it when the partition heals.
def nodeIds : Side → NodeId
  | .one => 1
  | .two => 2
def configured : Side → HaInitialRole
  | .one => .active
  | .two => .standby
def healedPartition : List Action :=
  [.failover .two,.complete .two,.readRole .two,.respond .two .leader,.reconcile .one ⟨2,.leader,2⟩]

theorem demotion_leaves_leader_after_failover :
    ∃ s next, (Pair.start nodeIds configured).run healedPartition = some s ∧
      s.phase .one = .demoting ⟨2,.leader,2⟩ ∧ s.advance (.complete .one) = some next ∧
      (next.runtime .two).role = .leader ∧ (next.runtime .two).epoch = 2 ∧ (next.runtime .one).role = .follower := by
  have healed : ∃ s, (Pair.start nodeIds configured).run healedPartition = some s ∧
      s.phase .one = .demoting ⟨2,.leader,2⟩ ∧ ∃ next, s.advance (.complete .one) = some next :=
    ⟨_,rfl,rfl,_,rfl⟩
  obtain ⟨s,ran,demoting,next,completed⟩ := healed
  exact ⟨s,next,ran,demoting,completed,demotion_leaves_leader ran demoting completed⟩

-- The node with the higher id is never promoted by a heartbeat. While it leads,
-- which it then does from the start, nothing it or its peer has said can move
-- the other node: every word of the leader claims the active role, every word
-- of the peer denies it.
structure Reigning (low : Side) (s : Pair) : Prop where
  lowInactive : ¬ Active s low
  lowPhase : s.phase low ≠ .promoting
  highServing : ∀ role ∈ s.serving low.other, role.acceptsWrites = true
  highSent : ∀ h ∈ s.sent low.other, h.role.acceptsWrites = true
  lowServing : ∀ role ∈ s.serving low, role.acceptsWrites = false
  lowSent : ∀ h ∈ s.sent low, h.role.acceptsWrites = false

structure Undivided (low : Side) (s : Pair) : Prop where
  highPhase : s.phase low.other ≠ .promoting
  reigning : Active s low.other → Reigning low s

theorem start_undivided (single : ¬ (initial .one = .active ∧ initial .two = .active)) (low : Side) :
    Undivided low (.start nodeId initial) := by
  refine ⟨by simp [Pair.start],?_⟩
  intro leads
  have high : initial low.other = .active := by
    cases role : initial low.other with
    | active => rfl
    | standby => simp [Active,Pair.start,ActiveStandbyRuntime.new,role,ClusterRole.acceptsWrites] at leads
  have standby : initial low = .standby := by
    cases role : initial low with
    | standby => rfl
    | active => cases low <;> simp_all [Side.other]
  constructor <;> simp [Active,Pair.start,ActiveStandbyRuntime.new,standby,ClusterRole.acceptsWrites]

theorem step_undivided (lower : nodeId low < nodeId low.other) (truthful : Truthful nodeId initial s)
    (deciding : Deciding s) (undivided : Undivided low s) (quiet : ∀ x, action ≠ .failover x)
    (step : Step s action next) : Undivided low next := by
  cases step with
  | @readRole _ y =>
      refine ⟨undivided.highPhase,fun leads => ?_⟩
      have reign := undivided.reigning leads
      refine ⟨reign.lowInactive,reign.lowPhase,?_,reign.highSent,?_,reign.lowSent⟩
      · intro role member
        obtain ⟨rfl,rfl⟩ | earlier := mem_put_cons.mp member
        · exact leads
        · exact reign.highServing role earlier
      · intro role member
        obtain ⟨rfl,rfl⟩ | earlier := mem_put_cons.mp member
        · exact Bool.eq_false_iff.mpr reign.lowInactive
        · exact reign.lowServing role earlier
  | @respond role _ y read =>
      refine ⟨undivided.highPhase,fun leads => ?_⟩
      have reign := undivided.reigning leads
      refine ⟨reign.lowInactive,reign.lowPhase,?_,?_,?_,?_⟩
      · intro other member
        exact reign.highServing other (mem_put_erase member)
      · intro h member
        obtain ⟨rfl,rfl⟩ | old := mem_put_cons.mp member
        · exact reign.highServing role read
        · exact reign.highSent h old
      · intro other member
        exact reign.lowServing other (mem_put_erase member)
      · intro h member
        obtain ⟨rfl,rfl⟩ | old := mem_put_cons.mp member
        · exact reign.lowServing role read
        · exact reign.lowSent h old
  | @reconcile peer _ y idle arrived =>
      have peerId := truthful.sentId _ _ arrived
      refine ⟨?_,fun leads => ?_⟩
      · rcases Side.eq_or_other low y with rfl | rfl
        · simpa using undivided.highPhase
        · -- A heartbeat of the lower id never promotes the higher one.
          simp only [put_same,ne_eq,decided_promoting,reconcile_promote,ActiveStandbyRuntime.heartbeat,
            truthful.ids,peerId,Side.other_other]
          exact fun promoted => Nat.lt_asymm lower promoted.2.2
      · have reign := undivided.reigning leads
        refine ⟨reign.lowInactive,?_,reign.highServing,reign.highSent,reign.lowServing,reign.lowSent⟩
        rcases Side.eq_or_other low y with rfl | rfl
        · have claims := reign.highSent peer arrived
          simp [decided_promoting,reconcile_promote,claims]
        · simpa [put] using reign.lowPhase
  | @failover _ y idle inactive => exact absurd rfl (quiet y)
  | @promoted _ y phase =>
      rcases Side.eq_or_other low y with rfl | rfl
      · refine ⟨by simpa using undivided.highPhase,fun leads => ?_⟩
        exact absurd phase (undivided.reigning (by simpa [Active] using leads)).lowPhase
      · exact absurd phase undivided.highPhase
  | @demoted _ y peer phase =>
      rcases Side.eq_or_other low y with rfl | rfl
      · refine ⟨by simpa using undivided.highPhase,fun leads => ?_⟩
        have reign := undivided.reigning (by simpa [Active] using leads)
        exact absurd (deciding.demotingActive y peer phase) reign.lowInactive
      · refine ⟨by simp,fun leads => ?_⟩
        simp [Active,ActiveStandbyRuntime.demote,ClusterRole.acceptsWrites] at leads

theorem no_split_brain_without_failover (distinct : nodeId .one ≠ nodeId .two)
    (single : ¬ (initial .one = .active ∧ initial .two = .active))
    (quiet : ∀ action ∈ actions, ∀ x, action ≠ .failover x)
    (ran : (Pair.start nodeId initial).run actions = some s) :
    ¬ ((s.runtime .one).role.acceptsWrites = true ∧ (s.runtime .two).role.acceptsWrites = true) := by
  obtain ⟨low,lower⟩ : ∃ low, nodeId low < nodeId low.other := by
    rcases Nat.lt_or_gt_of_ne distinct with less | greater
    · exact ⟨.one,less⟩
    · exact ⟨.two,greater⟩
  have invariant : Sound nodeId initial s ∧ Undivided low s := by
    refine Library.Machine.run_preserves_on (fun s => Sound nodeId initial s ∧ Undivided low s) ?_ quiet
      ⟨start_sound,start_undivided single low⟩ ran
    intro s action next admitted ⟨sound,undivided⟩ advanced
    have step := advance_sound advanced
    exact ⟨step_sound sound step,step_undivided lower sound.truthful sound.deciding undivided admitted step⟩
  intro both
  rcases both with ⟨one,two⟩
  cases low with
  | one => exact (invariant.2.reigning two).lowInactive one
  | two => exact (invariant.2.reigning one).lowInactive two

theorem no_split_brain_of_two_standbys :
    ∃ s, (Pair.start nodeIds fun _ => .standby).run
        [.readRole .two,.respond .two .follower,.reconcile .one ⟨2,.follower,1⟩,.complete .one] = some s ∧
      (s.runtime .one).role = .leader ∧
      ¬ ((s.runtime .one).role.acceptsWrites = true ∧ (s.runtime .two).role.acceptsWrites = true) := by
  have promoted : ∃ s, (Pair.start nodeIds fun _ => .standby).run
      [.readRole .two,.respond .two .follower,.reconcile .one ⟨2,.follower,1⟩,.complete .one] = some s ∧
      (s.runtime .one).role = .leader := ⟨_,rfl,rfl⟩
  obtain ⟨s,ran,leads⟩ := promoted
  exact ⟨s,ran,leads,no_split_brain_without_failover (by decide) (by decide) (by simp) ran⟩

end Sigproxy.Ha.Election
