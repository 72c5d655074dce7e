import Sigproxy.Ha.StandbyPull

namespace Sigproxy.Ha.StandbyPull
open Library Cluster Persistence Proxy

-- What a promotion promises: the commands of the leadership stay in memory, and
-- nothing enters the node on the word of a role check from before the promotion.
structure Undisturbed (s : Node) : Prop where
  reflected : s.acceptsWrites = true → ∀ aor change,
    Table.lastWrite aor (s.issued.map ClusterCommand.write) = some change →
      s.server.state.live s.now aor = change.outcome.filter fun binding => !binding.isExpired s.now
  installs : ∀ install ∈ s.installs, install.checkedAt = install.installedAt

-- Peer data that the round will install.
def PullPhase.holds : PullPhase → Bool
  | .applying expected events => events.head?.any fun event => event.seq == expected
  | .persisting .. | .installing _ | .contactsInstalled _ | .affinityInstalled _ => true
  | _ => false

variable (computeChecksum : HaStateSnapshot → String)

-- A promotion does not complete over data in hand, and a round that it has
-- overtaken is not answered with anything to install.
def unovertaken (s : Node) : Action → Bool
  | .hookReturns => s.monitor ≠ .promoting || !s.pull.holds
  | .eventsArrive response readFails => s.round == s.promotions || !(s.afterEvents response readFails).holds
  | .snapshotArrives snapshot => s.round == s.promotions || !snapshot.checksumIsValid computeChecksum
  | _ => true

variable {computeChecksum} {s next : Node}

structure Sound (s : Node) : Prop where
  -- Data in hand belongs to a round that no promotion has overtaken.
  current : s.pull.holds = true → s.round = s.promotions
  -- Such a round still runs on a standby.
  standby : s.pull ≠ .waiting → s.round = s.promotions → s.acceptsWrites = false
  counted : s.round ≤ s.promotions
  promoting : s.monitor = .promoting → s.acceptsWrites = false
  reflected : s.acceptsWrites = true → ∀ time, s.now ≤ time → ∀ aor change,
    Table.lastWrite aor (s.issued.map ClusterCommand.write) = some change →
      s.server.state.live time aor = change.outcome.filter fun binding => !binding.isExpired time
  installs : ∀ install ∈ s.installs, install.checkedAt = install.installedAt

theorem start_sound (runtime : ActiveStandbyRuntime) (server : ProxyState) : Sound (.start runtime server) := by
  refine ⟨?_,?_,?_,?_,?_,?_⟩
  · intro holds; cases holds
  · intro running; exact absurd rfl running
  · exact Nat.le_refl 0
  · intro hook; cases hook
  · intro _ _ _ aor change last; cases last
  · intro install member; cases member

theorem holds_standby (sound : Sound s) (holds : s.pull.holds = true) :
    s.round = s.promotions ∧ s.acceptsWrites = false := by
  have fresh := sound.current holds
  refine ⟨fresh,sound.standby ?_ fresh⟩
  intro waiting
  rw [waiting] at holds
  cases holds

-- Moving the round on without touching the node.
theorem pull_sound (sound : Sound s) (running : s.pull ≠ .waiting) (pull : PullPhase)
    (fresh : pull.holds = true → s.round = s.promotions) : Sound {s with pull} :=
  ⟨fresh,fun _ => sound.standby running,sound.counted,sound.promoting,sound.reflected,sound.installs⟩

-- Installing data in hand, which only a standby has.
theorem install_sound (sound : Sound s) (holds : s.pull.holds = true) (server : ProxyState) (pull : PullPhase) :
    Sound (s.install server pull) := by
  obtain ⟨fresh,closed⟩ := holds_standby sound holds
  refine ⟨fun _ => fresh,fun _ _ => closed,sound.counted,sound.promoting,?_,?_⟩
  · intro leading
    rw [show s.acceptsWrites = true from leading] at closed
    cases closed
  · intro install member
    rcases List.mem_append.mp member with old | new
    · exact sound.installs install old
    · rw [List.mem_singleton.mp new]
      exact fresh

theorem apply_reflected (sound : Sound s) (leading : s.acceptsWrites = true) (later : s.now ≤ time)
    (last : Table.lastWrite aor ((s.issued ++ [command]).map ClusterCommand.write) = some change) :
    (s.server.state.apply command).live time aor = change.outcome.filter fun binding => !binding.isExpired time := by
  rw [List.map_append,List.map_singleton,Table.lastWrite_snoc] at last
  have held := sound.reflected leading time later aor change
  rw [SharedState.live_eq] at held ⊢
  rw [SharedState.apply_contacts,Table.lookup_write]
  split at last
  next own =>
    cases last
    rw [if_pos own]
  next other =>
    rw [if_neg other]
    exact held last

theorem step_sound (sound : Sound s) (admitted : unovertaken computeChecksum s action = true)
    (step : Step computeChecksum s action next) : Sound next := by
  cases step with
  | tick =>
      refine ⟨sound.current,sound.standby,sound.counted,sound.promoting,fun leading time later => ?_,sound.installs⟩
      exact sound.reflected leading time (Nat.le_trans (Nat.le_add_right _ _) later)
  | refused closed => exact sound
  | submit leading => exact ⟨sound.current,sound.standby,sound.counted,sound.promoting,sound.reflected,sound.installs⟩
  | apply due =>
      refine ⟨sound.current,sound.standby,sound.counted,sound.promoting,?_,sound.installs⟩
      exact fun leading time later aor change last => apply_reflected sound leading later last
  | fail due => exact ⟨sound.current,sound.standby,sound.counted,sound.promoting,sound.reflected,sound.installs⟩
  | lookup =>
      refine ⟨sound.current,sound.standby,sound.counted,sound.promoting,?_,sound.installs⟩
      intro leading time later aor change last
      exact (SharedState.lookup_live s.server.state later _ aor).trans
        (sound.reflected leading time later aor change last)
  | promote closed =>
      exact ⟨sound.current,sound.standby,sound.counted,fun _ => closed,sound.reflected,sound.installs⟩
  | demote leading => exact ⟨sound.current,sound.standby,sound.counted,(nomatch ·),sound.reflected,sound.installs⟩
  | hookFails => exact ⟨sound.current,sound.standby,sound.counted,(nomatch ·),sound.reflected,sound.installs⟩
  | promoted hook =>
      have empty : s.pull.holds = false := by simpa [unovertaken,hook] using admitted
      refine ⟨?_,?_,Nat.le_succ_of_le sound.counted,(nomatch ·),fun _ _ _ _ _ last => (nomatch last),sound.installs⟩
      · intro holds
        rw [show s.pull.holds = true from holds] at empty
        cases empty
      · intro _ same
        have counted := sound.counted
        have ahead : s.round = s.promotions + 1 := same
        omega
  | demoted hook =>
      exact ⟨sound.current,fun _ _ => rfl,sound.counted,(nomatch ·),fun _ _ _ _ _ last => (nomatch last),sound.installs⟩
  | noPull leading => exact sound
  | pullTick closed =>
      exact ⟨(nomatch ·),fun _ _ => closed,Nat.le_refl _,sound.promoting,sound.reflected,sound.installs⟩
  | askEvents reached =>
      apply pull_sound sound (by simp [reached]) _
      split <;> exact (nomatch ·)
  | eventsArrive reached =>
      apply pull_sound sound (by simp [reached]) _
      intro holds
      simpa [unovertaken,holds] using admitted
  | eventsFail reached => exact pull_sound sound (by simp [reached]) _ (nomatch ·)
  | batchDone reached => exact pull_sound sound (by simp [reached]) _ (nomatch ·)
  | gap reached other => exact pull_sound sound (by simp [reached]) _ (nomatch ·)
  | applyEvent reached => exact install_sound sound (by simp [reached,PullPhase.holds]) _ _
  | persistEventFails reached => exact pull_sound sound (by simp [reached]) _ (nomatch ·)
  | persistEvent reached => exact install_sound sound (by simp [reached,PullPhase.holds]) _ _
  | snapshotArrives reached =>
      apply pull_sound sound (by simp [reached]) _
      intro holds
      split at holds
      · rename_i valid
        simpa [unovertaken,valid] using admitted
      · cases holds
  | snapshotFails reached => exact pull_sound sound (by simp [reached]) _ (nomatch ·)
  | installContacts reached => exact install_sound sound (by simp [reached,PullPhase.holds]) _ _
  | installAffinity reached => exact install_sound sound (by simp [reached,PullPhase.holds]) _ _
  | persistSnapshotFails reached => exact pull_sound sound (by simp [reached]) _ (nomatch ·)
  | persistSnapshot reached => exact install_sound sound (by simp [reached,PullPhase.holds]) _ _

theorem promotion_undisturbed {server : ProxyState}
    (within : Machine.Within (Node.advance computeChecksum)
      (fun s action => unovertaken computeChecksum s action = true) (.start runtime server) actions)
    (ran : (Node.start runtime server).run computeChecksum actions = some s) : Undisturbed s := by
  have sound := Machine.run_preserves_within Sound
    (fun _ _ _ admitted sound advanced => step_sound sound admitted (advance_sound advanced))
    within (start_sound runtime server) ran
  exact ⟨fun leading aor change last => sound.reflected leading s.now (Nat.le_refl _) aor change last,sound.installs⟩

def carol : ClusterCommand := .registerContact ⟨"sip:carol@example.com","sip:carol@10.0.0.3","10.0.0.3:5060",1000⟩
-- An empty snapshot with the digest that the source computes for it.
def emptyDigest : String := "fnv1a64:e603f73a248f3d8e"
def peerSnapshot : HaStateSnapshot := ⟨0,emptyDigest,⟨[]⟩,⟨[]⟩⟩
def standbyNode : Node := .start (.new 2 .standby) (.new ⟨true,60⟩ none)

-- The round is over before the hook returns.
def promotedBetweenRounds : List Action :=
  [.pullTick,.askEvents,.snapshotArrives peerSnapshot,.installContacts,.installAffinity,.persistSnapshot true,
    .promote,.hookReturns,.submit carol,.apply 0]

-- The peer's snapshot is asked for by the standby and installed by the leader.
def promotedDuringRound : List Action :=
  [.pullTick,.askEvents,.promote,.hookReturns,.submit carol,.apply 0,.snapshotArrives peerSnapshot,.installContacts]

theorem promoted_between_rounds_undisturbed :
    ∃ s, standbyNode.run (fun _ => emptyDigest) promotedBetweenRounds = some s ∧ s.acceptsWrites = true ∧
      s.issued = [carol] ∧ Undisturbed s := by
  have reached : ∃ s, standbyNode.run (fun _ => emptyDigest) promotedBetweenRounds = some s ∧
      s.acceptsWrites = true ∧ s.issued = [carol] := ⟨_,rfl,rfl,rfl⟩
  obtain ⟨s,ran,leading,issued⟩ := reached
  exact ⟨s,ran,leading,issued,promotion_undisturbed (by decide) ran⟩

theorem promoted_during_round_loses_command :
    ∃ s, standbyNode.run (fun _ => emptyDigest) promotedDuringRound = some s ∧ s.acceptsWrites = true ∧
      s.issued = [carol] ∧ s.server.state.live s.now "sip:carol@example.com" = none ∧ ¬ Undisturbed s := by
  have reached : ∃ s, standbyNode.run (fun _ => emptyDigest) promotedDuringRound = some s ∧ s.acceptsWrites = true ∧
      s.issued = [carol] ∧ s.server.state.live s.now "sip:carol@example.com" = none ∧ s.installs = [⟨0,1⟩] :=
    ⟨_,rfl,rfl,rfl,rfl,rfl⟩
  obtain ⟨s,ran,leading,issued,lost,installs⟩ := reached
  refine ⟨s,ran,leading,issued,lost,fun undisturbed => ?_⟩
  have stale := undisturbed.installs ⟨0,1⟩ (by simp [installs])
  cases stale

end Sigproxy.Ha.StandbyPull
