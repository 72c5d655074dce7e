import Sigproxy.Ha.Election
import Mathlib.Data.List.Pairwise
import Mathlib.Data.List.Range

namespace Sigproxy.Ha.Fencing
open Cluster Election

variable {nodeId : Side → NodeId} {initial : Side → HaInitialRole}

def Leadership.heartbeat (nodeId : Side → NodeId) (leadership : Leadership) : HaHeartbeat :=
  ⟨nodeId leadership.side,.leader,leadership.epoch⟩

-- What a fencing epoch is for, over the whole history of a run.
structure Fenced (nodeId : Side → NodeId) (s : Pair) : Prop where
  ahead : ∀ promotion ∈ s.promotions, ∀ epoch ∈ promotion.heard, epoch < promotion.epoch
  distinct : s.leaderships.Pairwise fun earlier later => earlier.epoch ≠ later.epoch
  recent : s.leaderships.Pairwise fun earlier later =>
    peerShouldWin (Leadership.heartbeat nodeId earlier) (Leadership.heartbeat nodeId later) = true ∧
    peerShouldWin (Leadership.heartbeat nodeId later) (Leadership.heartbeat nodeId earlier) = false

def epochsOf (s : Pair) (x : Side) : List Nat :=
  (s.promotions.filter fun promotion => promotion.side = x).map Promotion.epoch

-- A node counts its own promotions and nothing else, so its n-th promotion
-- enters epoch n+1 whatever the peer has been doing.
structure Counted (initial : Side → HaInitialRole) (s : Pair) : Prop where
  epochs : ∀ x, epochsOf s x = List.range' 2 ((s.runtime x).epoch - 1)
  leaderships : s.leaderships =
    initialLeadership .one (initial .one) ++ initialLeadership .two (initial .two) ++
      s.promotions.map fun promotion => ⟨promotion.side,promotion.epoch⟩
  received : ∀ x, ∀ h ∈ s.received x, h ∈ s.sent x.other
  heard : ∀ promotion ∈ s.promotions, ∀ epoch ∈ promotion.heard,
    epoch ≤ (s.runtime promotion.side.other).epoch

theorem start_counted : Counted initial (.start nodeId initial) := by
  refine ⟨?_,?_,?_,?_⟩
  · intro x; cases role : initial x <;> simp [epochsOf,Pair.start,ActiveStandbyRuntime.new,role]
  all_goals simp [Pair.start]

theorem step_counted (sound : Sound nodeId initial s) (counted : Counted initial s)
    (step : Step s action next) : Counted initial next := by
  have heard : ∀ promotion ∈ s.promotions, ∀ epoch ∈ promotion.heard,
      epoch ≤ (next.runtime promotion.side.other).epoch := fun promotion member epoch said =>
    Nat.le_trans (counted.heard promotion member epoch said) (step_epoch step _)
  cases step with
  | readRole => exact ⟨counted.epochs,counted.leaderships,counted.received,heard⟩
  | @respond role _ y read =>
      refine ⟨counted.epochs,counted.leaderships,?_,heard⟩
      intro x h member
      exact mem_put_cons.mpr (.inr (counted.received x h member))
  | @reconcile peer _ y idle arrived =>
      refine ⟨counted.epochs,counted.leaderships,?_,heard⟩
      intro x h member
      obtain ⟨rfl,rfl⟩ | earlier := mem_put_cons.mp member
      · exact arrived
      · exact counted.received x h earlier
  | failover idle inactive => exact ⟨counted.epochs,counted.leaderships,counted.received,heard⟩
  | @promoted _ y phase =>
      have raised := promote_inactive (sound.deciding.promoting y phase)
      refine ⟨?_,?_,counted.received,?_⟩
      · intro x
        have before := counted.epochs x
        by_cases same : x = y
        · subst same
          obtain ⟨n,positive⟩ := Nat.exists_eq_add_of_le (sound.truthful.positive x)
          simp only [epochsOf,List.filter_append,List.map_append] at before ⊢
          rw [before]
          simp only [raised,positive,put_same]
          rw [show 1+n+1-1 = n+1 by omega,List.range'_concat,show 1+n-1 = n by omega]
          simp; omega
        · have other : ¬ y = x := fun equal => same equal.symm
          simpa [epochsOf,put,same,other] using before
      · simp [counted.leaderships]
      · intro promotion member epoch said
        simp only [List.mem_append,List.mem_singleton] at member
        rcases member with old | rfl
        · exact heard promotion old epoch said
        · -- What the promoted node has heard was sent, so its sender had reached it.
          simp only [List.mem_map] at said
          obtain ⟨h,received,rfl⟩ := said
          simpa using sound.truthful.sentEpoch _ h (counted.received y h received)
  | @demoted _ y peer phase =>
      refine ⟨?_,counted.leaderships,counted.received,heard⟩
      intro x
      have before := counted.epochs x
      by_cases same : x = y
      · subst same; simpa [epochsOf] using before
      · simpa [epochsOf,put,same] using before

theorem run_counted (ran : (Pair.start nodeId initial).run actions = some s) :
    Sound nodeId initial s ∧ Counted initial s := by
  refine Library.Machine.run_preserves (fun s => Sound nodeId initial s ∧ Counted initial s) ?_
    ⟨start_sound,start_counted⟩ ran
  intro s action next ⟨sound,counted⟩ advanced
  have step := advance_sound advanced
  exact ⟨step_sound sound step,step_counted sound counted step⟩

theorem initialLeadership_epoch (member : leadership ∈ initialLeadership x role) : leadership.epoch = 1 := by
  cases role <;> simp_all [initialLeadership]

theorem recent_of_later (later : earlier.epoch < recent.epoch) :
    peerShouldWin (Leadership.heartbeat nodeId earlier) (Leadership.heartbeat nodeId recent) = true ∧
    peerShouldWin (Leadership.heartbeat nodeId recent) (Leadership.heartbeat nodeId earlier) = false := by
  simp [peerShouldWin,Leadership.heartbeat]; omega

-- The first promotion of either node enters epoch 2, so two promoted nodes have
-- led the same epoch.
theorem led_second (counted : Counted initial s) (promoted : promotion ∈ s.promotions) :
    (⟨promotion.side,2⟩ : Leadership) ∈ s.leaderships := by
  have listed : promotion.epoch ∈ epochsOf s promotion.side :=
    List.mem_map_of_mem (List.mem_filter.mpr ⟨promoted,by simp⟩)
  have second : 2 ∈ epochsOf s promotion.side := by
    rw [counted.epochs] at listed ⊢
    simp only [List.mem_range'_1] at listed ⊢
    omega
  obtain ⟨first,member,epoch⟩ := List.mem_map.mp second
  obtain ⟨member,side⟩ := List.mem_filter.mp member
  rw [counted.leaderships]
  exact List.mem_append_right _ (List.mem_map.mpr ⟨first,member,by simp_all⟩)

theorem fenced_single (counted : Counted initial s) (fenced : Fenced nodeId s) :
    ¬ (initial .one = .active ∧ initial .two = .active) ∧ ∃ x, ∀ promotion ∈ s.promotions, promotion.side = x := by
  have symmetric : Std.Symm fun earlier later : Leadership => earlier.epoch ≠ later.epoch :=
    ⟨fun _ _ different => different.symm⟩
  have apart : ∀ first ∈ s.leaderships, ∀ second ∈ s.leaderships, first ≠ second → first.epoch ≠ second.epoch :=
    fun _ one _ two different => fenced.distinct.forall one two different
  refine ⟨?_,?_⟩
  · intro both
    rcases both with ⟨one,two⟩
    have members : (⟨.one,1⟩ : Leadership) ∈ s.leaderships ∧ (⟨.two,1⟩ : Leadership) ∈ s.leaderships := by
      simp [counted.leaderships,one,two,initialLeadership]
    exact apart _ members.1 _ members.2 (by decide) rfl
  · cases none : s.promotions with
    | nil => exact ⟨.one,by simp⟩
    | cons first rest =>
        refine ⟨first.side,fun promotion member => ?_⟩
        by_contra different
        have one := led_second counted (none ▸ member)
        have two := led_second counted (show first ∈ s.promotions by simp [none])
        exact apart _ one _ two (by simpa using different) rfl

theorem single_fenced (sound : Sound nodeId initial s) (counted : Counted initial s)
    (single : ¬ (initial .one = .active ∧ initial .two = .active))
    (only : ∀ promotion ∈ s.promotions, promotion.side = x) : Fenced nodeId s := by
  have mine : s.promotions.map Promotion.epoch = List.range' 2 ((s.runtime x).epoch - 1) := by
    rw [← counted.epochs x,epochsOf,List.filter_eq_self.mpr (fun promotion member => by simpa using only promotion member)]
  have theirs : (s.runtime x.other).epoch = 1 := by
    have empty := counted.epochs x.other
    have none : epochsOf s x.other = [] := by
      simp only [epochsOf,List.map_eq_nil_iff,List.filter_eq_nil_iff]
      intro promotion member
      simp [only promotion member]
    have positive := sound.truthful.positive x.other
    rw [none] at empty
    simp only [List.nil_eq,List.range'_eq_nil_iff] at empty
    omega
  have second : ∀ promotion ∈ s.promotions, 2 ≤ promotion.epoch := by
    intro promotion member
    have listed : promotion.epoch ∈ s.promotions.map Promotion.epoch := List.mem_map_of_mem member
    rw [mine] at listed
    simp only [List.mem_range'_1] at listed
    omega
  -- The initial leadership, if any, has epoch 1 and the promotions count up from 2.
  have increasing : s.leaderships.Pairwise fun earlier later => earlier.epoch < later.epoch := by
    have promoted : (s.promotions.map fun promotion => (⟨promotion.side,promotion.epoch⟩ : Leadership)).Pairwise
        fun earlier later => earlier.epoch < later.epoch := by
      have ordered : (s.promotions.map Promotion.epoch).Pairwise (· < ·) := mine ▸ List.pairwise_lt_range'
      simpa only [List.pairwise_map] using ordered
    rw [counted.leaderships,List.pairwise_append]
    refine ⟨?_,promoted,?_⟩
    · cases one : initial .one <;> cases two : initial .two <;> simp_all [initialLeadership]
    · intro first member later promotion
      have early : first.epoch = 1 :=
        (List.mem_append.mp member).elim initialLeadership_epoch initialLeadership_epoch
      obtain ⟨source,listed,rfl⟩ := List.mem_map.mp promotion
      have bound := second source listed
      simp only
      omega
  refine ⟨?_,increasing.imp fun less => Nat.ne_of_lt less,increasing.imp recent_of_later⟩
  intro promotion member epoch said
  have bound := counted.heard promotion member epoch said
  rw [only promotion member,theirs] at bound
  have entered := second promotion member
  omega

theorem fenced_exact (ran : (Pair.start nodeId initial).run actions = some s) :
    Fenced nodeId s ↔ ¬ (initial .one = .active ∧ initial .two = .active) ∧
      ∃ x, ∀ promotion ∈ s.promotions, promotion.side = x := by
  obtain ⟨sound,counted⟩ := run_counted ran
  exact ⟨fenced_single counted,fun ⟨single,x,only⟩ => single_fenced sound counted single only⟩

theorem fenced_after_one_failover :
    ∃ s, (Pair.start nodeIds configured).run healedPartition = some s ∧ Fenced nodeIds s := by
  have healed : ∃ s, (Pair.start nodeIds configured).run healedPartition = some s ∧
      s.promotions = [⟨.two,2,[]⟩] := ⟨_,rfl,rfl⟩
  obtain ⟨s,ran,promotions⟩ := healed
  exact ⟨s,ran,(fenced_exact ran).mpr ⟨by decide,.two,by simp [promotions]⟩⟩

-- Node 1 yields to epoch 2, and a second partition sends it back to epoch 2.
theorem second_failover_unfenced :
    ∃ s, (Pair.start nodeIds configured).run
        (healedPartition ++ [.complete .one,.failover .one,.complete .one]) = some s ∧
      s.promotions = [⟨.two,2,[]⟩,⟨.one,2,[2]⟩] ∧ ¬ Fenced nodeIds s := by
  refine ⟨_,rfl,rfl,fun fenced => ?_⟩
  exact absurd (fenced.ahead ⟨.one,2,[2]⟩ (by decide) 2 (by decide)) (by decide)

end Sigproxy.Ha.Fencing
