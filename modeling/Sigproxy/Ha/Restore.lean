import Sigproxy.Ha.DiskAgreement
import Sigproxy.Ha.Checkpoint

namespace Sigproxy.Ha.Restore
open Library Cluster Affinity Persistence Proxy Database DiskAgreement
open Checkpoint (nextSeq)

-- restore_persistent_state, await by await. The load holds the connection lock
-- for the whole of its reads.
inductive RestorePhase where
  | waiting
  | loaded (snapshot : HaStateSnapshot)
  | contactsInstalled (snapshot : HaStateSnapshot)
  | restored
  deriving DecidableEq, Repr

-- A pull between its memory and its disk, with the clock readings it has taken.
inductive PullPhase where
  | idle
  | persisting (appliedAt : Nat) (event : HaEventRecord)
  | contactsInstalled (contactsAt : Nat) (snapshot : HaStateSnapshot)
  | affinityInstalled (contactsAt affinityAt : Nat) (snapshot : HaStateSnapshot)
  deriving DecidableEq, Repr

-- `pulled` is history: the memory of the process that left the file, with every
-- completed pull of this process applied to it.
structure Node where
  clock : Nat
  server : ProxyState
  restore : RestorePhase
  pull : PullPhase
  pulled : ProxyState

-- Both tasks run from the start; every step is one that succeeds.
inductive Action where
  | load (contactsAt affinityAt : Nat)
  | restoreContacts (now : Nat)
  | restoreAffinity (now : Nat)
  | applyEvent (now : Nat) (event : HaEventRecord)
  | persistEvent (now : Nat)
  | installContacts (now : Nat) (snapshot : HaStateSnapshot)
  | installAffinity (now : Nat)
  | persistSnapshot (now : Nat)

section Steps

def PullPhase.since (clock : Nat) : PullPhase → Nat
  | .idle => clock
  | .persisting appliedAt _ => appliedAt
  | .contactsInstalled contactsAt _ => contactsAt
  | .affinityInstalled contactsAt _ _ => contactsAt

-- The pull under way as far as it has come.
def PullPhase.begun (pulled : ProxyState) : PullPhase → ProxyState
  | .idle => pulled
  | .persisting appliedAt event => pulled.applyHaEventToMemory appliedAt event
  | .contactsInstalled contactsAt snapshot => pulled.installContacts contactsAt snapshot
  | .affinityInstalled contactsAt affinityAt snapshot => (pulled.installContacts contactsAt snapshot).installAffinity affinityAt snapshot

namespace Node

def begun (s : Node) : ProxyState := s.pull.begun s.pulled

variable (digest : Nat → ContactStateSnapshot → AffinityStateSnapshot → String) (computeChecksum : HaStateSnapshot → String)

def advance (s : Node) : Action → Option Node
  | .load contactsAt affinityAt =>
    match s.restore,s.server.persistence with
    | .waiting,some db =>
      if s.clock ≤ contactsAt ∧ contactsAt ≤ affinityAt then
        match loadSnapshot digest db contactsAt affinityAt with
        | .ok snapshot => some {s with clock:=affinityAt,restore:=.loaded snapshot}
        | .error _ => none
      else none
    | _,_ => none
  | .restoreContacts now =>
    match s.restore with
    | .loaded snapshot =>
      if s.clock ≤ now then
        some {s with clock:=now,server:=s.server.installContacts now snapshot,restore:=.contactsInstalled snapshot}
      else none
    | _ => none
  | .restoreAffinity now =>
    match s.restore with
    | .contactsInstalled snapshot =>
      if s.clock ≤ now then some {s with clock:=now,server:=s.server.installAffinity now snapshot,restore:=.restored} else none
    | _ => none
  | .applyEvent now event =>
    match s.pull with
    | .idle =>
      if s.clock ≤ now ∧ event.seq = nextSeq s.server.lastAppliedHaEventSeq then
        some {s with clock:=now,server:=s.server.applyHaEventToMemory now event,pull:=.persisting now event}
      else none
    | _ => none
  | .persistEvent now =>
    match s.pull with
    | .persisting appliedAt event =>
      if s.clock ≤ now then
        some {s with
          clock:=now
          server:=s.server.persistHaEvent now event
          pull:=.idle
          pulled:=s.pulled.applyHaEvent appliedAt now event}
      else none
    | _ => none
  | .installContacts now snapshot =>
    match s.pull with
    | .idle =>
      if s.clock ≤ now ∧ snapshot.checksumIsValid computeChecksum = true then
        some {s with clock:=now,server:=s.server.installContacts now snapshot,pull:=.contactsInstalled now snapshot}
      else none
    | _ => none
  | .installAffinity now =>
    match s.pull with
    | .contactsInstalled contactsAt snapshot =>
      if s.clock ≤ now then
        some {s with clock:=now,server:=s.server.installAffinity now snapshot,pull:=.affinityInstalled contactsAt now snapshot}
      else none
    | _ => none
  | .persistSnapshot now =>
    match s.pull with
    | .affinityInstalled contactsAt affinityAt snapshot =>
      if s.clock ≤ now then
        some {s with
          clock:=now
          server:=s.server.persistSnapshot now snapshot
          pull:=.idle
          pulled:=((s.pulled.installContacts contactsAt snapshot).installAffinity affinityAt snapshot).persistSnapshot now snapshot}
      else none
    | _ => none

end Node

-- An event that leaves both tables in memory alone.
def Silent (now : Nat) (payload : HaEventPayload) : Prop := contactWrite now payload = none ∧ affinityWrite now payload = none

-- No pull stands between memory and disk at the load, none reaches a table in
-- memory between the load and the install of that table, and what is pulled before
-- the load is kept by the disk as it is by memory.
def Undisturbed (s : Node) : Action → Prop
  | .load _ _ =>
    match s.pull with
    | .idle => True
    | .persisting appliedAt event => Silent appliedAt event.payload
    | _ => False
  | .applyEvent now event =>
    match s.restore with
    | .loaded _ => Silent now event.payload
    | .contactsInstalled _ => affinityWrite now event.payload = none
    | _ => True
  | .installContacts _ _ =>
    match s.restore with
    | .loaded _ => False
    | _ => True
  | .installAffinity _ =>
    match s.restore with
    | .loaded _ => False
    | .contactsInstalled _ => False
    | _ => True
  | .persistEvent persistedAt =>
    match s.restore,s.pull with
    | .waiting,.persisting appliedAt event => KeptEvent s.pulled appliedAt persistedAt event.payload
    | _,_ => True
  | .persistSnapshot persistedAt =>
    match s.restore,s.pull with
    | .waiting,.affinityInstalled contactsAt affinityAt snapshot => KeptInstall contactsAt affinityAt persistedAt snapshot
    | _,_ => True
  | _ => True

end Steps

section Invariant

-- Two memories that agree on what is alive.
abbrev SameContacts (time : Nat) (server other : ProxyState) : Prop :=
  Mirrors ContactBinding.expiresAtEpochMs (fun _ binding => binding) time server.state.contacts other.state.contacts
abbrev SameAffinity (time : Nat) (server other : ProxyState) : Prop :=
  Mirrors AffinityBinding.expiresAt (fun _ binding => binding) time server.affinity.bindings other.affinity.bindings

-- What the loaded snapshot will make of memory.
def ContactsPending (clock : Nat) (pulled : ProxyState) (snapshot : HaStateSnapshot) : Prop :=
  ∀ now, clock ≤ now → ∀ server : ProxyState, SameContacts now (server.installContacts now snapshot) pulled
def AffinityPending (clock : Nat) (pulled : ProxyState) (snapshot : HaStateSnapshot) : Prop :=
  ∀ now, clock ≤ now → ∀ server : ProxyState, SameAffinity now (server.installAffinity now snapshot) pulled

def Restoring (s : Node) : RestorePhase → Prop
  | .waiting => ∃ db, s.pulled.persistence = some db ∧ Agrees (s.pull.since s.clock) s.pulled db
  | .loaded snapshot => ContactsPending s.clock s.begun snapshot ∧ AffinityPending s.clock s.begun snapshot
  | .contactsInstalled snapshot => SameContacts s.clock s.server s.begun ∧ AffinityPending s.clock s.begun snapshot
  | .restored => SameContacts s.clock s.server s.begun ∧ SameAffinity s.clock s.server s.begun

def PullPhase.Ordered (clock : Nat) : PullPhase → Prop
  | .idle => True
  | .persisting appliedAt _ => appliedAt ≤ clock
  | .contactsInstalled contactsAt _ => contactsAt ≤ clock
  | .affinityInstalled contactsAt affinityAt _ => contactsAt ≤ affinityAt ∧ affinityAt ≤ clock

theorem PullPhase.Ordered.later {pull : PullPhase} (ordered : pull.Ordered clock) (order : clock ≤ clock') : pull.Ordered clock' := by
  cases pull with
  | idle => trivial
  | persisting | contactsInstalled => exact Nat.le_trans ordered order
  | affinityInstalled => exact ⟨ordered.1,Nat.le_trans ordered.2 order⟩

structure Invariant (s : Node) : Prop where
  shared : s.server.persistence = s.pulled.persistence
  ordered : s.pull.Ordered s.clock
  restoring : Restoring s s.restore

end Invariant

section Pulls
variable {server other pulled : ProxyState} {snapshot : HaStateSnapshot}

theorem SameContacts.event (same : SameContacts time server other) (now : Nat) (event : HaEventRecord) :
    SameContacts time (server.applyHaEventToMemory now event) (other.applyHaEventToMemory now event) := by
  rw [SameContacts,memory_contacts,memory_contacts]
  exact same.replay_same _

theorem SameAffinity.event (same : SameAffinity time server other) (now : Nat) (event : HaEventRecord) :
    SameAffinity time (server.applyHaEventToMemory now event) (other.applyHaEventToMemory now event) := by
  rw [SameAffinity,memory_affinity,memory_affinity]
  exact same.replay_same _

theorem contacts_silent (silent : contactWrite now event.payload = none) :
    (pulled.applyHaEventToMemory now event).state.contacts = pulled.state.contacts := by
  rw [memory_contacts,silent]
  rfl

theorem affinity_silent (silent : affinityWrite now event.payload = none) :
    (pulled.applyHaEventToMemory now event).affinity.bindings = pulled.affinity.bindings := by
  rw [memory_affinity,silent]
  rfl

-- What is pending or settled stays so while the tables it speaks of stay.
theorem ContactsPending.kept (pending : ContactsPending clock pulled snapshot) (order : clock ≤ clock')
    (same : other.state.contacts = pulled.state.contacts) : ContactsPending clock' other snapshot := by
  intro now later server
  rw [SameContacts,same]
  exact pending now (Nat.le_trans order later) server

theorem AffinityPending.kept (pending : AffinityPending clock pulled snapshot) (order : clock ≤ clock')
    (same : other.affinity.bindings = pulled.affinity.bindings) : AffinityPending clock' other snapshot := by
  intro now later server
  rw [SameAffinity,same]
  exact pending now (Nat.le_trans order later) server

end Pulls

section Restores
variable {digest : Nat → ContactStateSnapshot → AffinityStateSnapshot → String} {pulled : ProxyState}

theorem loaded_pending (agrees : Agrees time pulled db) (first : time ≤ contactsAt) (second : contactsAt ≤ affinityAt)
    (loaded : loadSnapshot digest db contactsAt affinityAt = .ok snapshot) :
    ContactsPending affinityAt pulled snapshot ∧ AffinityPending affinityAt pulled snapshot := by
  obtain ⟨read,reads,contacts,affinity⟩ := loadSnapshot_ok digest agrees (Nat.le_trans first second) contactsAt
  rw [loaded] at reads
  cases reads
  refine ⟨fun now later server aor => ?_,fun now later server key => ?_⟩
  · rw [restored_contacts agrees first (Nat.le_trans second later) server contacts,alive_alive _ (Nat.le_refl now),Option.map_id']
  · rw [restored_affinity agrees (Nat.le_trans first second) later server affinity,alive_alive _ (Nat.le_refl now),Option.map_id']

-- One step of the restore.
theorem load_invariant (invariant : Invariant s) (calm : Undisturbed s (.load contactsAt affinityAt)) (waiting : s.restore = .waiting)
    (opened : s.server.persistence = some db) (first : s.clock ≤ contactsAt) (second : contactsAt ≤ affinityAt)
    (loaded : loadSnapshot digest db contactsAt affinityAt = .ok snapshot) :
    Invariant {s with clock:=affinityAt,restore:=.loaded snapshot} := by
  obtain ⟨shared,ordered,restoring⟩ := invariant
  rw [waiting] at restoring
  obtain ⟨stored,held,agrees⟩ := restoring
  rw [opened,held] at shared
  cases shared
  have began : s.pull.since s.clock ≤ s.clock ∧ s.begun.state.contacts = s.pulled.state.contacts ∧
      s.begun.affinity.bindings = s.pulled.affinity.bindings ∧ s.pull.Ordered affinityAt := by
    unfold Undisturbed at calm
    cases phase : s.pull with
    | idle => simp [Node.begun,phase,PullPhase.since,PullPhase.begun,PullPhase.Ordered]
    | persisting appliedAt event =>
        rw [phase] at calm ordered
        have order : appliedAt ≤ s.clock := ordered
        rw [Node.begun,phase]
        exact ⟨order,contacts_silent calm.1,affinity_silent calm.2,Nat.le_trans order (Nat.le_trans first second)⟩
    | _ => rw [phase] at calm; exact calm.elim
  obtain ⟨order,contacts,affinity,still⟩ := began
  have pending := loaded_pending agrees (Nat.le_trans order first) second loaded
  exact ⟨by rw [opened,held],still,pending.1.kept (Nat.le_refl _) contacts,pending.2.kept (Nat.le_refl _) affinity⟩

theorem restoreContacts_invariant (invariant : Invariant s) (loaded : s.restore = .loaded snapshot) (later : s.clock ≤ now) :
    Invariant {s with clock:=now,server:=s.server.installContacts now snapshot,restore:=.contactsInstalled snapshot} := by
  obtain ⟨shared,ordered,restoring⟩ := invariant
  rw [loaded] at restoring
  exact ⟨shared,ordered.later later,restoring.1 now later s.server,restoring.2.kept later rfl⟩

theorem restoreAffinity_invariant (invariant : Invariant s) (half : s.restore = .contactsInstalled snapshot) (later : s.clock ≤ now) :
    Invariant {s with clock:=now,server:=s.server.installAffinity now snapshot,restore:=.restored} := by
  obtain ⟨shared,ordered,restoring⟩ := invariant
  rw [half] at restoring
  exact ⟨shared,ordered.later later,restoring.1.later later,restoring.2 now later s.server⟩

end Restores

section PullSteps

-- A step of the pull after the load acts on both memories alike.
theorem applyEvent_invariant (invariant : Invariant s) (calm : Undisturbed s (.applyEvent now event)) (idle : s.pull = .idle)
    (later : s.clock ≤ now) :
    Invariant {s with clock:=now,server:=s.server.applyHaEventToMemory now event,pull:=.persisting now event} := by
  obtain ⟨shared,_,restoring⟩ := invariant
  have before : s.begun = s.pulled := by rw [Node.begun,idle]; rfl
  refine ⟨(ProxyState.applyHaEventToMemory_persistence ..).trans shared,Nat.le_refl now,?_⟩
  unfold Undisturbed at calm
  cases phase : s.restore with
  | waiting =>
      rw [phase,Restoring,idle] at restoring
      obtain ⟨db,held,agrees⟩ := restoring
      exact ⟨db,held,agrees.later later⟩
  | loaded snapshot =>
      rw [phase,Restoring,before] at restoring
      rw [phase] at calm
      exact ⟨restoring.1.kept later (contacts_silent calm.1),restoring.2.kept later (affinity_silent calm.2)⟩
  | contactsInstalled snapshot =>
      rw [phase,Restoring,before] at restoring
      rw [phase] at calm
      exact ⟨SameContacts.event (restoring.1.later later) now event,restoring.2.kept later (affinity_silent calm)⟩
  | restored =>
      rw [phase,Restoring,before] at restoring
      exact ⟨SameContacts.event (restoring.1.later later) now event,SameAffinity.event (restoring.2.later later) now event⟩

theorem persistEvent_invariant (invariant : Invariant s) (calm : Undisturbed s (.persistEvent now)) (pull : s.pull = .persisting appliedAt event)
    (later : s.clock ≤ now) :
    Invariant {s with clock:=now,server:=s.server.persistHaEvent now event,pull:=.idle,pulled:=s.pulled.applyHaEvent appliedAt now event} := by
  obtain ⟨shared,ordered,restoring⟩ := invariant
  have before : s.begun = s.pulled.applyHaEventToMemory appliedAt event := by rw [Node.begun,pull]; rfl
  refine ⟨by simp [ProxyState.persistHaEvent,ProxyState.applyHaEvent,shared],trivial,?_⟩
  unfold Undisturbed at calm
  rw [pull] at calm ordered
  cases phase : s.restore with
  | waiting =>
      rw [phase,Restoring,pull] at restoring
      rw [phase] at calm
      obtain ⟨db,held,agrees⟩ := restoring
      refine ⟨db.applyEventWithoutAppend now event,?_,event_agrees agrees (Nat.le_refl _) (Nat.le_trans ordered later) calm⟩
      simp [ProxyState.applyHaEvent,ProxyState.persistHaEvent,held]
  | loaded snapshot =>
      rw [phase,Restoring,before] at restoring
      exact ⟨restoring.1.kept later rfl,restoring.2.kept later rfl⟩
  | contactsInstalled snapshot =>
      rw [phase,Restoring,before] at restoring
      exact ⟨restoring.1.later later,restoring.2.kept later rfl⟩
  | restored =>
      rw [phase,Restoring,before] at restoring
      exact ⟨restoring.1.later later,restoring.2.later later⟩

theorem installContacts_invariant (invariant : Invariant s) (calm : Undisturbed s (.installContacts now snapshot)) (idle : s.pull = .idle)
    (later : s.clock ≤ now) :
    Invariant {s with clock:=now,server:=s.server.installContacts now snapshot,pull:=.contactsInstalled now snapshot} := by
  obtain ⟨shared,_,restoring⟩ := invariant
  have before : s.begun = s.pulled := by rw [Node.begun,idle]; rfl
  refine ⟨shared,Nat.le_refl now,?_⟩
  unfold Undisturbed at calm
  cases phase : s.restore with
  | waiting =>
      rw [phase,Restoring,idle] at restoring
      obtain ⟨db,held,agrees⟩ := restoring
      exact ⟨db,held,agrees.later later⟩
  | loaded => rw [phase] at calm; exact calm.elim
  | contactsInstalled =>
      rw [phase,Restoring,before] at restoring
      exact ⟨Mirrors.refl _,restoring.2.kept later rfl⟩
  | restored =>
      rw [phase,Restoring,before] at restoring
      exact ⟨Mirrors.refl _,restoring.2.later later⟩

theorem installAffinity_invariant (invariant : Invariant s) (calm : Undisturbed s (.installAffinity now))
    (pull : s.pull = .contactsInstalled contactsAt snapshot) (later : s.clock ≤ now) :
    Invariant {s with clock:=now,server:=s.server.installAffinity now snapshot,pull:=.affinityInstalled contactsAt now snapshot} := by
  obtain ⟨shared,ordered,restoring⟩ := invariant
  have before : s.begun = s.pulled.installContacts contactsAt snapshot := by rw [Node.begun,pull]; rfl
  rw [pull] at ordered
  refine ⟨shared,⟨Nat.le_trans ordered later,Nat.le_refl now⟩,?_⟩
  unfold Undisturbed at calm
  cases phase : s.restore with
  | waiting =>
      rw [phase,Restoring,pull] at restoring
      exact restoring
  | loaded => rw [phase] at calm; exact calm.elim
  | contactsInstalled => rw [phase] at calm; exact calm.elim
  | restored =>
      rw [phase,Restoring,before] at restoring
      exact ⟨restoring.1.later later,Mirrors.refl _⟩

theorem persistSnapshot_invariant (invariant : Invariant s) (calm : Undisturbed s (.persistSnapshot now))
    (pull : s.pull = .affinityInstalled contactsAt affinityAt snapshot) (later : s.clock ≤ now) :
    Invariant {s with
      clock:=now
      server:=s.server.persistSnapshot now snapshot
      pull:=.idle
      pulled:=((s.pulled.installContacts contactsAt snapshot).installAffinity affinityAt snapshot).persistSnapshot now snapshot} := by
  obtain ⟨shared,ordered,restoring⟩ := invariant
  have before : s.begun = (s.pulled.installContacts contactsAt snapshot).installAffinity affinityAt snapshot := by rw [Node.begun,pull]; rfl
  refine ⟨by simp [ProxyState.persistSnapshot,ProxyState.installAffinity,ProxyState.installContacts,shared],trivial,?_⟩
  unfold Undisturbed at calm
  rw [pull] at calm ordered
  cases phase : s.restore with
  | waiting =>
      rw [phase,Restoring] at restoring
      rw [phase] at calm
      obtain ⟨db,held,_⟩ := restoring
      have installed : Agrees now ((s.pulled.installContacts contactsAt snapshot).installAffinity affinityAt snapshot)
          (db.installSnapshot now snapshot.lastSeq snapshot.contacts snapshot.affinity) :=
        install_agrees ordered.1 (Nat.le_trans ordered.2 later) calm
      refine ⟨db.installSnapshot now snapshot.lastSeq snapshot.contacts snapshot.affinity,?_,?_⟩
      · simp [ProxyState.persistSnapshot,ProxyState.installAffinity,ProxyState.installContacts,held]
      · obtain ⟨contacts,affinity,storable,legible⟩ := installed
        exact ⟨contacts,affinity,storable,legible⟩
  | loaded =>
      rw [phase,Restoring,before] at restoring
      exact ⟨restoring.1.kept later rfl,restoring.2.kept later rfl⟩
  | contactsInstalled =>
      rw [phase,Restoring,before] at restoring
      exact ⟨restoring.1.later later,restoring.2.kept later rfl⟩
  | restored =>
      rw [phase,Restoring,before] at restoring
      exact ⟨restoring.1.later later,restoring.2.later later⟩

end PullSteps

section Result
variable {digest : Nat → ContactStateSnapshot → AffinityStateSnapshot → String} {computeChecksum : HaStateSnapshot → String}

theorem advance_invariant (s : Node) (action : Action) (next : Node) (calm : Undisturbed s action) (invariant : Invariant s)
    (stepped : s.advance digest computeChecksum action = some next) : Invariant next := by
  cases action with
  | load contactsAt affinityAt =>
      simp only [Node.advance] at stepped
      split at stepped
      · rename_i db waiting opened
        split at stepped
        · rename_i order
          split at stepped
          · rename_i snapshot loaded
            cases stepped
            exact load_invariant invariant calm waiting opened order.1 order.2 loaded
          · cases stepped
        · cases stepped
      · cases stepped
  | restoreContacts now =>
      simp only [Node.advance] at stepped
      split at stepped
      · rename_i snapshot loaded
        obtain ⟨later,stepped⟩ := Option.ite_none_right_eq_some.mp stepped
        cases stepped
        exact restoreContacts_invariant invariant loaded later
      · cases stepped
  | restoreAffinity now =>
      simp only [Node.advance] at stepped
      split at stepped
      · rename_i snapshot half
        obtain ⟨later,stepped⟩ := Option.ite_none_right_eq_some.mp stepped
        cases stepped
        exact restoreAffinity_invariant invariant half later
      · cases stepped
  | applyEvent now event =>
      simp only [Node.advance] at stepped
      split at stepped
      · rename_i idle
        obtain ⟨⟨later,_⟩,stepped⟩ := Option.ite_none_right_eq_some.mp stepped
        cases stepped
        exact applyEvent_invariant invariant calm idle later
      · cases stepped
  | persistEvent now =>
      simp only [Node.advance] at stepped
      split at stepped
      · rename_i appliedAt event pull
        obtain ⟨later,stepped⟩ := Option.ite_none_right_eq_some.mp stepped
        cases stepped
        exact persistEvent_invariant invariant calm pull later
      · cases stepped
  | installContacts now snapshot =>
      simp only [Node.advance] at stepped
      split at stepped
      · rename_i idle
        obtain ⟨⟨later,_⟩,stepped⟩ := Option.ite_none_right_eq_some.mp stepped
        cases stepped
        exact installContacts_invariant invariant calm idle later
      · cases stepped
  | installAffinity now =>
      simp only [Node.advance] at stepped
      split at stepped
      · rename_i contactsAt snapshot pull
        obtain ⟨later,stepped⟩ := Option.ite_none_right_eq_some.mp stepped
        cases stepped
        exact installAffinity_invariant invariant calm pull later
      · cases stepped
  | persistSnapshot now =>
      simp only [Node.advance] at stepped
      split at stepped
      · rename_i contactsAt affinityAt snapshot pull
        obtain ⟨later,stepped⟩ := Option.ite_none_right_eq_some.mp stepped
        cases stepped
        exact persistSnapshot_invariant invariant calm pull later
      · cases stepped

-- A process that has just opened the file an earlier one left behind.
structure Opened (s : Node) : Prop where
  waiting : s.restore = .waiting
  idle : s.pull = .idle
  left : ∃ db, s.server.persistence = some db ∧ s.pulled.persistence = some db ∧ Agrees s.clock s.pulled db

-- Every lookup answers as if the restore had come first.
def Reflects (s : Node) : Prop :=
  s.server.lastAppliedHaEventSeq = s.pulled.lastAppliedHaEventSeq ∧
  ∀ time, s.clock ≤ time → (∀ aor, s.server.state.live time aor = s.pulled.state.live time aor) ∧
    ∀ key, s.server.affinity.live time key = s.pulled.affinity.live time key

theorem Opened.invariant (opened : Opened s) : Invariant s := by
  obtain ⟨waiting,idle,db,disk,left,agrees⟩ := opened
  refine ⟨by rw [disk,left],by rw [idle]; trivial,?_⟩
  rw [waiting,Restoring,idle]
  exact ⟨db,left,agrees⟩

theorem Invariant.reflects (invariant : Invariant s) (restored : s.restore = .restored) (idle : s.pull = .idle) : Reflects s := by
  obtain ⟨shared,_,restoring⟩ := invariant
  rw [restored,Restoring,Node.begun,idle] at restoring
  obtain ⟨contacts,affinity⟩ := restoring
  refine ⟨by rw [ProxyState.lastAppliedHaEventSeq,shared]; rfl,fun time later => ⟨fun aor => ?_,fun key => ?_⟩⟩
  · rw [live_eq_alive,live_eq_alive,contacts.later later aor,Option.map_id']
    rfl
  · rw [live_eq_alive_target,live_eq_alive_target,affinity.later later key,Option.map_id']
    rfl

theorem restore_keeps_pulls (digest : Nat → ContactStateSnapshot → AffinityStateSnapshot → String)
    (computeChecksum : HaStateSnapshot → String) (start final : Node) (actions : List Action) (opened : Opened start)
    (calm : Machine.Within (Node.advance digest computeChecksum) Undisturbed start actions)
    (ran : Machine.run (Node.advance digest computeChecksum) start actions = some final)
    (restored : final.restore = .restored) (idle : final.pull = .idle) : Reflects final :=
  (Machine.run_preserves_within Invariant advance_invariant calm opened.invariant ran).reflects restored idle

def registered : HaEventRecord := ⟨1,.registerContact ⟨"sip:a@example.com","sip:a@10.0.0.1","10.0.0.1:5060",1000⟩,0⟩
def emptyFile : ProxyState := .new ⟨true,60⟩ (some migrate)
def openedNode : Node := ⟨0,emptyFile,.waiting,.idle,emptyFile⟩

theorem openedNode_opened : Opened openedNode :=
  ⟨rfl,rfl,migrate,rfl,rfl,fun _ => rfl,fun _ => rfl,fun _ _ found => (nomatch found),fun _ _ found => (nomatch found)⟩

def runFrom : List Action → Option Node := Machine.run (Node.advance noDigest fun _ => "") openedNode

-- The event is pulled and persisted between the load and the install.
def pullBetween : List Action := [.load 10 10,.applyEvent 11 registered,.persistEvent 12,.restoreContacts 13,.restoreAffinity 14]

theorem pulled_event_rolled_back : Opened openedNode ∧ ∃ final, runFrom pullBetween = some final ∧ final.restore = .restored ∧
    final.pull = .idle ∧ final.server.lastAppliedHaEventSeq = 1 ∧ final.server.state.live 20 "sip:a@example.com" = none ∧
      (final.pulled.state.live 20 "sip:a@example.com").isSome = true := by
  refine ⟨openedNode_opened,_,rfl,rfl,rfl,?_⟩
  decide +kernel

def pullAfter : List Action := [.load 10 10,.restoreContacts 11,.applyEvent 12 registered,.restoreAffinity 13,.persistEvent 14]

theorem pull_after_contacts_kept : ∃ final, runFrom pullAfter = some final ∧ final.server.lastAppliedHaEventSeq = 1 ∧ Reflects final := by
  refine ⟨_,rfl,by decide +kernel,restore_keeps_pulls noDigest (fun _ => "") openedNode _ pullAfter openedNode_opened ?_ rfl rfl rfl⟩
  refine ⟨trivial,fun _ stepped => ?_⟩
  cases stepped
  refine ⟨trivial,fun _ stepped => ?_⟩
  cases stepped
  refine ⟨rfl,fun _ stepped => ?_⟩
  cases stepped
  refine ⟨trivial,fun _ stepped => ?_⟩
  cases stepped
  exact ⟨trivial,fun _ _ => trivial⟩

end Result

end Sigproxy.Ha.Restore
