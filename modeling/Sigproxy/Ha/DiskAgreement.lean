import Sigproxy.Library.Machine
import Sigproxy.Library.Mirror
import Sigproxy.Proxy.State

namespace Sigproxy.Ha.DiskAgreement
open Library Cluster Affinity Persistence Proxy Database

section Copies

def affinityOf (_ : AffinityKey) (row : AffinityRow) : AffinityBinding := ⟨row.target,row.expiresAtEpochMs⟩

abbrev ContactsMirror := Mirrors ContactBinding.expiresAtEpochMs contactOf
abbrev AffinityMirrors := Mirrors AffinityBinding.expiresAt affinityOf

theorem isExpired_iff (binding : ContactBinding) (now : Nat) : binding.isExpired now = !decide (now < binding.expiresAtEpochMs) := by
  rw [ContactBinding.isExpired,← decide_not]
  exact decide_eq_decide.mpr Nat.not_lt.symm

theorem live_eq_alive (state : SharedState) (now : Nat) (aor : String) :
    state.live now aor = alive ContactBinding.expiresAtEpochMs now (state.contacts.lookup aor) := by
  rw [SharedState.live_eq,Library.alive]
  simp only [isExpired_iff,Bool.not_not]

theorem live_eq_alive_target (table : AffinityTable) (now : Nat) (key : AffinityKey) :
    table.live now key = (alive AffinityBinding.expiresAt now (table.bindings.lookup key)).map AffinityBinding.target :=
  table.live_eq now key

end Copies

section Run

structure Standby where
  clock : Nat
  server : ProxyState

-- Calls that return with success. An install whose transaction fails only logs a
-- warning and returns true.
inductive Action where
  | event (appliedAt persistedAt : Nat) (event : HaEventRecord)
  | install (contactsAt affinityAt persistedAt : Nat) (persists : Bool) (snapshot : HaStateSnapshot)

variable (computeChecksum : HaStateSnapshot → String)

def advance (s : Standby) : Action → Option Standby
  | .event appliedAt persistedAt event =>
    if s.clock ≤ appliedAt ∧ appliedAt ≤ persistedAt then some ⟨persistedAt,s.server.applyHaEvent appliedAt persistedAt event⟩ else none
  | .install contactsAt affinityAt persistedAt persists snapshot =>
    if (s.clock ≤ contactsAt ∧ contactsAt ≤ affinityAt ∧ affinityAt ≤ persistedAt) ∧ snapshot.checksumIsValid computeChecksum = true then
      let installed := (s.server.installContacts contactsAt snapshot).installAffinity affinityAt snapshot
      some ⟨persistedAt,if persists then installed.persistSnapshot persistedAt snapshot else installed⟩
    else none

-- What both copies keep of an affinity binding that is alive: a lifetime that fits
-- a u64 and a transport that can be read back.
def Storable (now : Nat) (binding : AffinityBindingSnapshot) : Prop :=
  binding.expiresAtEpochMs - now < 2 ^ 64 ∧ binding.target.transport ≠ .tcpUdp

-- A binding that has run out by the time of the transaction displaces nothing
-- that is still alive then.
def KeptEvent (server : ProxyState) (appliedAt persistedAt : Nat) : HaEventPayload → Prop
  | .registerContact binding => appliedAt < binding.expiresAtEpochMs → binding.expiresAtEpochMs ≤ persistedAt →
    alive ContactBinding.expiresAtEpochMs persistedAt (server.state.contacts.lookup binding.aor) = none
  | .upsertAffinity binding =>
    (binding.expiresAtEpochMs ≤ persistedAt →
      alive AffinityBinding.expiresAt persistedAt (server.affinity.bindings.lookup binding.key) = none) ∧
    (persistedAt < binding.expiresAtEpochMs → Storable appliedAt binding)
  | _ => True

-- Where the last binding of a key runs out between the two copies, so has every
-- other binding of the key.
def KeptInstall (contactsAt affinityAt persistedAt : Nat) (snapshot : HaStateSnapshot) : Prop :=
  (∀ aor binding,
    lastFor (fun binding => decide (contactsAt < binding.expiresAtEpochMs) && decide (binding.aor = aor)) snapshot.contacts.contacts = some binding →
    binding.expiresAtEpochMs ≤ persistedAt → ∀ other ∈ snapshot.contacts.contacts, other.aor = aor → other.expiresAtEpochMs ≤ persistedAt) ∧
  ∀ key binding,
    lastFor (fun binding => decide (affinityAt < binding.expiresAtEpochMs) && decide (binding.key = key)) snapshot.affinity.bindings = some binding →
    (binding.expiresAtEpochMs ≤ persistedAt → ∀ other ∈ snapshot.affinity.bindings, other.key = key → other.expiresAtEpochMs ≤ persistedAt) ∧
    (persistedAt < binding.expiresAtEpochMs → Storable affinityAt binding)

def Kept (s : Standby) : Action → Prop
  | .event appliedAt persistedAt event => KeptEvent s.server appliedAt persistedAt event.payload
  | .install contactsAt affinityAt persistedAt persists snapshot => persists = true ∧ KeptInstall contactsAt affinityAt persistedAt snapshot

-- The two copies agree on what is alive, and a restart can read it all back.
structure Agrees (time : Nat) (server : ProxyState) (db : Database) : Prop where
  contacts : ContactsMirror time server.state.contacts db.contacts
  affinity : AffinityMirrors time server.affinity.bindings db.affinity
  storable : ∀ key binding, server.affinity.bindings.lookup key = some binding → binding.expiresAt < time + 2 ^ 64
  legible : ∀ key row, db.affinity.lookup key = some row → time < row.expiresAtEpochMs → row.target.transport ≠ .tcpUdp

theorem Agrees.later {server : ProxyState} (agrees : Agrees time server db) (order : time ≤ time') : Agrees time' server db where
  contacts := agrees.contacts.later order
  affinity := agrees.affinity.later order
  storable key binding found := by
    have before := agrees.storable key binding found
    omega
  legible key row found alive := agrees.legible key row found (by omega)

end Run

section Events
variable {server : ProxyState} {db : Database} {event : HaEventRecord}

theorem contacts_paired (order : appliedAt ≤ persistedAt) (kept : KeptEvent server appliedAt persistedAt event.payload) :
    Paired ContactBinding.expiresAtEpochMs contactOf persistedAt server.state.contacts (contactWrite appliedAt event.payload)
      (contactRowWrite persistedAt event) := by
  unfold contactWrite contactRowWrite
  cases payload : event.payload with
  | registerContact binding =>
      rw [payload] at kept
      simp only [isExpired_iff]
      by_cases arrives : appliedAt < binding.expiresAtEpochMs
      · by_cases lasts : persistedAt < binding.expiresAtEpochMs
        · simp only [arrives,lasts,decide_true,Bool.not_true,Bool.false_eq_true,if_false]
          exact Paired.put binding.aor (⟨binding.contact,binding.source,binding.expiresAtEpochMs,some event.seq⟩ : ContactRow)
        · simp only [arrives,lasts,decide_true,decide_false,Bool.not_true,Bool.not_false,Bool.false_eq_true,if_false,if_true]
          have spent : binding.expiresAtEpochMs ≤ persistedAt := by omega
          exact .lapsed _ (alive_some_dead spent) (kept arrives spent)
      · have spent : ¬ persistedAt < binding.expiresAtEpochMs := by omega
        simp only [arrives,spent,decide_false,Bool.not_false,if_true]
        exact .silent
  | unregisterContact aor => exact .drop aor
  | upsertAffinity binding => exact .silent
  | removeAffinity key => exact .silent

theorem affinity_paired (order : appliedAt ≤ persistedAt) (kept : KeptEvent server appliedAt persistedAt event.payload) :
    Paired AffinityBinding.expiresAt affinityOf persistedAt server.affinity.bindings (affinityWrite appliedAt event.payload)
      (affinityRowWrite persistedAt event) := by
  unfold affinityWrite affinityRowWrite
  cases payload : event.payload with
  | upsertAffinity binding =>
      rw [payload] at kept
      obtain ⟨idle,storable⟩ := kept
      dsimp only
      by_cases lasts : persistedAt < binding.expiresAtEpochMs
      · have exact : AffinityTable.expiryFrom appliedAt binding.expiresAtEpochMs = binding.expiresAtEpochMs := by
          unfold AffinityTable.expiryFrom
          rw [Nat.mod_eq_of_lt (storable lasts).1]
          omega
        rw [if_neg (by omega),if_pos lasts,exact]
        exact Paired.put binding.key (⟨binding.target,binding.expiresAtEpochMs,some event.seq⟩ : AffinityRow)
      · rw [if_neg lasts]
        have spent : binding.expiresAtEpochMs ≤ persistedAt := by omega
        split
        · exact .lapsed _ rfl (idle spent)
        · refine .lapsed _ (alive_some_dead ?_) (idle spent)
          have below := Nat.mod_le (binding.expiresAtEpochMs - appliedAt) (2 ^ 64)
          dsimp only [AffinityTable.expiryFrom]
          omega
  | removeAffinity key => exact .drop key
  | registerContact binding => exact .silent
  | unregisterContact aor => exact .silent

theorem event_agrees (agrees : Agrees time server db) (begun : time ≤ appliedAt) (order : appliedAt ≤ persistedAt)
    (kept : KeptEvent server appliedAt persistedAt event.payload) :
    Agrees persistedAt (server.applyHaEvent appliedAt persistedAt event) (db.applyEventWithoutAppend persistedAt event) := by
  have agrees := agrees.later (Nat.le_trans begun order)
  refine ⟨?_,?_,fun key binding found => ?_,fun key row found lasts => ?_⟩
  · rw [ProxyState.applyHaEvent_state,memory_contacts,disk_contacts]
    exact agrees.contacts.paired (contacts_paired order kept)
  · rw [ProxyState.applyHaEvent_affinity,memory_affinity,disk_affinity]
    exact agrees.affinity.paired (affinity_paired order kept)
  · rw [ProxyState.applyHaEvent_affinity,memory_affinity] at found
    rcases Table.lookup_replay_option found with old | put
    · exact agrees.storable key binding old
    · obtain ⟨snapshot,_,_,_,rfl⟩ := affinityWrite_put.mp put
      have below := Nat.mod_lt (snapshot.expiresAtEpochMs - appliedAt) (Nat.two_pow_pos 64)
      dsimp only [AffinityTable.expiryFrom]
      omega
  · rw [disk_affinity] at found
    rcases Table.lookup_replay_option found with old | put
    · exact agrees.legible key row old lasts
    · obtain ⟨snapshot,payload,_,rfl⟩ := affinityRowWrite_put put
      rw [payload] at kept
      exact (kept.2 lasts).2

end Events

section Installs
variable {server : ProxyState} {db : Database} {snapshot : HaStateSnapshot}

theorem install_agrees (first : contactsAt ≤ affinityAt) (second : affinityAt ≤ persistedAt)
    (kept : KeptInstall contactsAt affinityAt persistedAt snapshot) :
    Agrees persistedAt ((server.installContacts contactsAt snapshot).installAffinity affinityAt snapshot)
      (db.installSnapshot persistedAt snapshot.lastSeq snapshot.contacts snapshot.affinity) := by
  obtain ⟨contacts,affinity⟩ := kept
  refine ⟨?_,?_,fun key binding found => ?_,fun key row found lasts => ?_⟩
  · rw [installSnapshot_contacts]
    change ContactsMirror persistedAt (Table.collect _) _
    simp only [isExpired_iff,Bool.not_not]
    exact mirrors_refill (Nat.le_trans first second) (fun _ _ => Nat.le_refl _) fun aor binding last => ⟨contacts aor binding last,fun _ => rfl⟩
  · rw [installSnapshot_affinity]
    refine mirrors_refill second (fun binding arrives => ?_) fun key binding last => ⟨(affinity key binding last).1,fun lasts => ?_⟩
    · have below := Nat.mod_le (binding.expiresAtEpochMs - affinityAt) (2 ^ 64)
      dsimp only [AffinityTable.expiryFrom]
      omega
    · have storable := ((affinity key binding last).2 lasts).1
      dsimp only [AffinityTable.expiryFrom,affinityOf]
      rw [Nat.mod_eq_of_lt storable,Nat.add_sub_cancel' (by omega)]
  · change (Table.collect _).lookup key = _ at found
    rw [lookup_collect_filter] at found
    obtain ⟨listed,_,rfl⟩ := Option.map_eq_some_iff.mp found
    have below := Nat.mod_lt (listed.expiresAtEpochMs - affinityAt) (Nat.two_pow_pos 64)
    dsimp only [AffinityTable.expiryFrom]
    omega
  · rw [installSnapshot_affinity,lookup_collect_filter] at found
    obtain ⟨listed,last,rfl⟩ := Option.map_eq_some_iff.mp found
    have before := last_loaded second (fun binding last => (affinity key binding last).1) last
    exact ((affinity key listed before).2 lasts).2

end Installs

section Restart
variable {server : ProxyState} {db : Database}

theorem alive_contact_keyed (agrees : Agrees time server db) (later : time ≤ now)
    (held : alive ContactBinding.expiresAtEpochMs now (server.state.contacts.lookup aor) = some binding) : binding.aor = aor := by
  rw [agrees.contacts.later later aor,alive_eq_some] at held
  obtain ⟨row,_,rfl⟩ := Option.map_eq_some_iff.mp held.1
  rfl

theorem mem_loadContacts (agrees : Agrees time server db) (later : time ≤ now) (binding : ContactBinding) :
    binding ∈ (db.loadContacts now).contacts ↔
      alive ContactBinding.expiresAtEpochMs now (server.state.contacts.lookup binding.aor) = some binding := by
  rw [agrees.contacts.later later binding.aor,alive_eq_some]
  simp only [loadContacts,List.mem_filter,List.mem_map,decide_eq_true_eq,Option.map_eq_some_iff]
  apply and_congr_left
  intro _
  constructor
  · intro given
    rcases given with ⟨⟨aor,row⟩,listed,rfl⟩
    exact ⟨row,Table.lookup_iff_mem.mpr listed,rfl⟩
  · intro given
    rcases given with ⟨row,found,same⟩
    exact ⟨⟨binding.aor,row⟩,Table.lookup_iff_mem.mp found,same⟩

theorem loadAffinity_ok (agrees : Agrees time server db) (later : time ≤ now) :
    db.loadAffinity now = .ok ⟨(db.affinity.entries.filter fun entry => decide (now < entry.2.expiresAtEpochMs)).map fun entry =>
      ⟨entry.1,entry.2.target,entry.2.expiresAtEpochMs⟩⟩ := by
  have read (rows : List (Sigma fun _ : AffinityKey => AffinityRow)) (legible : ∀ entry ∈ rows, entry.2.target.transport ≠ .tcpUdp) :
      rows.mapM (fun entry => loadAffinityRow entry.1 entry.2) =
        .ok (rows.map fun entry => ⟨entry.1,entry.2.target,entry.2.expiresAtEpochMs⟩) := by
    induction rows with
    | nil => rfl
    | cons entry rest ih =>
        obtain ⟨here,later⟩ := List.forall_mem_cons.mp legible
        have row : loadAffinityRow entry.1 entry.2 = .ok ⟨entry.1,entry.2.target,entry.2.expiresAtEpochMs⟩ := by
          unfold loadAffinityRow
          split
          · contradiction
          · rfl
        rw [List.mapM_cons,row,ih later]
        rfl
  rw [loadAffinity,read]
  · rfl
  · intro entry listed
    obtain ⟨stored,lasts⟩ := List.mem_filter.mp listed
    exact agrees.legible entry.1 entry.2 (Table.lookup_iff_mem.mpr stored) (Nat.lt_of_le_of_lt later (of_decide_eq_true lasts))

theorem mem_loadAffinity (agrees : Agrees time server db) (later : time ≤ now) (loaded : db.loadAffinity now = .ok stored)
    (binding : AffinityBindingSnapshot) : binding ∈ stored.bindings ↔
      alive AffinityBinding.expiresAt now (server.affinity.bindings.lookup binding.key) = some ⟨binding.target,binding.expiresAtEpochMs⟩ := by
  rw [loadAffinity_ok agrees later] at loaded
  cases loaded
  rw [agrees.affinity.later later binding.key,alive_eq_some]
  simp only [List.mem_map,List.mem_filter,decide_eq_true_eq,Option.map_eq_some_iff,affinityOf,AffinityBinding.mk.injEq]
  constructor
  · intro given
    rcases given with ⟨⟨key,row⟩,⟨listed,lasts⟩,rfl⟩
    exact ⟨⟨row,Table.lookup_iff_mem.mpr listed,rfl,rfl⟩,lasts⟩
  · intro given
    rcases given with ⟨⟨row,found,target,expires⟩,lasts⟩
    refine ⟨⟨binding.key,row⟩,⟨Table.lookup_iff_mem.mp found,?_⟩,?_⟩
    · dsimp only
      omega
    · cases binding
      simp_all

theorem loadSnapshot_ok (digest : Nat → ContactStateSnapshot → AffinityStateSnapshot → String) (agrees : Agrees time server db)
    (later : time ≤ affinityAt) (contactsAt : Nat) : ∃ snapshot, loadSnapshot digest db contactsAt affinityAt = .ok snapshot ∧
      snapshot.contacts = db.loadContacts contactsAt ∧ db.loadAffinity affinityAt = .ok snapshot.affinity := by
  have read := loadAffinity_ok agrees later
  rw [loadSnapshot,read]
  exact ⟨_,rfl,rfl,rfl⟩

theorem restored_contacts (agrees : Agrees time server db) (later : time ≤ loadedAt) (next : loadedAt ≤ installedAt)
    (fresh : ProxyState) (contacts : snapshot.contacts = db.loadContacts loadedAt) (aor : String) :
    (fresh.installContacts installedAt snapshot).state.contacts.lookup aor =
      alive ContactBinding.expiresAtEpochMs installedAt (server.state.contacts.lookup aor) := by
  refine @Table.lookup_collect_graph _ _ _ _
    (fun aor => alive ContactBinding.expiresAtEpochMs installedAt (server.state.contacts.lookup aor)) (fun aor binding => ?_) aor
  rw [contacts]
  simp only [List.mem_map,List.mem_filter,mem_loadContacts agrees later,isExpired_iff,Bool.not_not,decide_eq_true_eq,Prod.mk.injEq]
  constructor
  · intro given
    rcases given with ⟨_,⟨held,lasts⟩,rfl,rfl⟩
    exact alive_eq_some.mpr ⟨(alive_eq_some.mp held).1,lasts⟩
  · intro held
    obtain ⟨found,lasts⟩ := alive_eq_some.mp held
    obtain rfl := alive_contact_keyed agrees (Nat.le_trans later next) held
    exact ⟨binding,⟨alive_eq_some.mpr ⟨found,Nat.lt_of_le_of_lt next lasts⟩,lasts⟩,rfl,rfl⟩

theorem restored_affinity (agrees : Agrees time server db) (later : time ≤ loadedAt) (next : loadedAt ≤ installedAt)
    (fresh : ProxyState) (affinity : db.loadAffinity loadedAt = .ok snapshot.affinity) (key : AffinityKey) :
    (fresh.installAffinity installedAt snapshot).affinity.bindings.lookup key =
      alive AffinityBinding.expiresAt installedAt (server.affinity.bindings.lookup key) := by
  have whole (binding : AffinityBinding) (lasts : installedAt < binding.expiresAt) (bound : binding.expiresAt < time + 2 ^ 64) :
      AffinityTable.expiryFrom installedAt binding.expiresAt = binding.expiresAt := by
    unfold AffinityTable.expiryFrom
    rw [Nat.mod_eq_of_lt (by omega)]
    omega
  refine @Table.lookup_collect_graph _ _ _ _
    (fun key => alive AffinityBinding.expiresAt installedAt (server.affinity.bindings.lookup key)) (fun key binding => ?_) key
  simp only [List.mem_map,List.mem_filter,mem_loadAffinity agrees later affinity,decide_eq_true_eq,Prod.mk.injEq]
  constructor
  · intro given
    rcases given with ⟨stored,⟨held,lasts⟩,rfl,rfl⟩
    have found := (alive_eq_some.mp held).1
    rw [whole _ lasts (agrees.storable _ _ found)]
    exact alive_eq_some.mpr ⟨found,lasts⟩
  · intro held
    obtain ⟨found,lasts⟩ := alive_eq_some.mp held
    refine ⟨⟨key,binding.target,binding.expiresAt⟩,⟨alive_eq_some.mpr ⟨found,Nat.lt_of_le_of_lt next lasts⟩,lasts⟩,rfl,?_⟩
    rw [whole binding lasts (agrees.storable _ _ found)]

end Restart

section Result

def InAgreement (s : Standby) : Prop := ∃ db, s.server.persistence = some db ∧ Agrees s.clock s.server db

theorem advance_agrees {computeChecksum : HaStateSnapshot → String} (s : Standby) (action : Action) (next : Standby)
    (kept : Kept s action) (agreement : InAgreement s) (stepped : advance computeChecksum s action = some next) : InAgreement next := by
  obtain ⟨db,opened,agrees⟩ := agreement
  cases action with
  | event appliedAt persistedAt event =>
      simp only [advance,Option.ite_none_right_eq_some] at stepped
      obtain ⟨⟨begun,order⟩,stepped⟩ := stepped
      cases stepped
      refine ⟨db.applyEventWithoutAppend persistedAt event,?_,event_agrees agrees begun order kept⟩
      rw [ProxyState.applyHaEvent,ProxyState.persistHaEvent,ProxyState.applyHaEventToMemory_persistence,opened]
      rfl
  | install contactsAt affinityAt persistedAt persists snapshot =>
      simp only [advance,Option.ite_none_right_eq_some] at stepped
      obtain ⟨⟨⟨_,first,second⟩,_⟩,stepped⟩ := stepped
      obtain ⟨rfl,fits⟩ := kept
      cases stepped
      have installed : Agrees persistedAt ((s.server.installContacts contactsAt snapshot).installAffinity affinityAt snapshot)
          (db.installSnapshot persistedAt snapshot.lastSeq snapshot.contacts snapshot.affinity) := install_agrees first second fits
      obtain ⟨contacts,affinity,storable,legible⟩ := installed
      refine ⟨db.installSnapshot persistedAt snapshot.lastSeq snapshot.contacts snapshot.affinity,?_,contacts,affinity,storable,legible⟩
      simp [ProxyState.persistSnapshot,ProxyState.installAffinity,ProxyState.installContacts,opened]

-- What a restart reads is what memory holds, and it leaves every lookup as it was.
structure Survives (digest : Nat → ContactStateSnapshot → AffinityStateSnapshot → String) (s : Standby) (db : Database) : Prop where
  loads : ∀ contactsAt affinityAt, s.clock ≤ contactsAt → s.clock ≤ affinityAt →
    ∃ snapshot, loadSnapshot digest db contactsAt affinityAt = .ok snapshot ∧
      (∀ binding, binding ∈ snapshot.contacts.contacts ↔
        alive ContactBinding.expiresAtEpochMs contactsAt (s.server.state.contacts.lookup binding.aor) = some binding) ∧
      ∀ binding, binding ∈ snapshot.affinity.bindings ↔
        alive AffinityBinding.expiresAt affinityAt (s.server.affinity.bindings.lookup binding.key) =
          some ⟨binding.target,binding.expiresAtEpochMs⟩
  restarts : ∀ (fresh : ProxyState) snapshot contactsAt affinityAt restoredAt time, s.clock ≤ contactsAt → contactsAt ≤ affinityAt →
    affinityAt ≤ restoredAt → restoredAt ≤ time → loadSnapshot digest db contactsAt affinityAt = .ok snapshot →
    (∀ aor, ((fresh.installContacts restoredAt snapshot).installAffinity restoredAt snapshot).state.live time aor =
      s.server.state.live time aor) ∧
    ∀ key, ((fresh.installContacts restoredAt snapshot).installAffinity restoredAt snapshot).affinity.live time key =
      s.server.affinity.live time key

theorem Agrees.survives (digest : Nat → ContactStateSnapshot → AffinityStateSnapshot → String) {s : Standby}
    (agrees : Agrees s.clock s.server db) : Survives digest s db where
  loads contactsAt affinityAt first second := by
    obtain ⟨snapshot,loaded,contacts,affinity⟩ := loadSnapshot_ok digest agrees second contactsAt
    refine ⟨snapshot,loaded,fun binding => ?_,mem_loadAffinity agrees second affinity⟩
    rw [contacts]
    exact mem_loadContacts agrees first binding
  restarts fresh snapshot contactsAt affinityAt restoredAt time first second third later loaded := by
    obtain ⟨snapshot',loaded',contacts,affinity⟩ := loadSnapshot_ok digest agrees (Nat.le_trans first second) contactsAt
    rw [loaded] at loaded'
    cases loaded'
    refine ⟨fun aor => ?_,fun key => ?_⟩
    · rw [live_eq_alive,live_eq_alive]
      change alive _ time ((fresh.installContacts restoredAt snapshot).state.contacts.lookup aor) = _
      rw [restored_contacts agrees first (Nat.le_trans second third) fresh contacts,alive_alive _ later]
    · rw [live_eq_alive_target,live_eq_alive_target,
        restored_affinity agrees (Nat.le_trans first second) third _ affinity,alive_alive _ later]

theorem standby_memory_on_disk (digest : Nat → ContactStateSnapshot → AffinityStateSnapshot → String)
    (computeChecksum : HaStateSnapshot → String) (start final : Standby) (actions : List Action) (agreement : InAgreement start)
    (kept : Machine.Within (advance computeChecksum) Kept start actions)
    (ran : Machine.run (advance computeChecksum) start actions = some final) :
    ∃ db, final.server.persistence = some db ∧ Survives digest final db := by
  obtain ⟨db,opened,agrees⟩ := Machine.run_preserves_within InAgreement advance_agrees kept agreement ran
  exact ⟨db,opened,agrees.survives digest⟩

-- A standby that holds a live affinity binding in both copies.
def callKey : AffinityKey := ⟨"call-id:a"⟩
def firstTarget : AffinityTarget := ⟨⟨.v4 0x0a000002,5060⟩,.udp⟩
def otherTarget : AffinityTarget := ⟨⟨.v4 0x0a000003,5060⟩,.udp⟩
def upsert (seq expires : Nat) (target : AffinityTarget) : HaEventRecord := ⟨seq,.upsertAffinity ⟨callKey,target,expires⟩,0⟩
def opened : Standby := ⟨0,.new ⟨true,60⟩ (some migrate)⟩

theorem opened_agrees : InAgreement opened :=
  ⟨migrate,rfl,fun _ => rfl,fun _ => rfl,fun _ _ found => (nomatch found),fun _ _ found => (nomatch found)⟩

def noDigest : Nat → ContactStateSnapshot → AffinityStateSnapshot → String := fun _ _ _ => ""

def memoryTarget (s : Standby) (now : Nat) : Option AffinityTarget := s.server.affinity.live now callKey
def diskTargets (s : Standby) (now : Nat) : Option (List AffinityTarget) := do
  let db ← s.server.persistence
  let snapshot ← (loadSnapshot noDigest db now now).toOption
  return snapshot.affinity.bindings.map AffinityBindingSnapshot.target

-- The second event has expired when it arrives: memory drops the binding of the
-- first, the file keeps it.
def lateArrival : List Action := [.event 10 10 (upsert 1 1000 firstTarget),.event 20 20 (upsert 2 15 otherTarget)]

theorem expired_event_leaves_row : InAgreement opened ∧
    ∃ final, Machine.run (advance fun _ => "") opened lateArrival = some final ∧
      memoryTarget final 30 = none ∧ diskTargets final 30 = some [firstTarget] := by
  refine ⟨opened_agrees,_,rfl,?_,?_⟩ <;> decide +kernel

def timelyArrival : List Action := [.event 10 11 (upsert 1 1000 firstTarget),.event 20 21 (upsert 2 2000 otherTarget)]

theorem live_upserts_survive : ∃ final, Machine.run (advance fun _ => "") opened timelyArrival = some final ∧
    ∃ db, final.server.persistence = some db ∧ Survives noDigest final db := by
  refine ⟨_,rfl,standby_memory_on_disk noDigest (fun _ => "") opened _ timelyArrival opened_agrees ?_ rfl⟩
  refine ⟨⟨fun spent => ?_,fun _ => ?_⟩,fun next stepped => ⟨⟨fun spent => ?_,fun _ => ?_⟩,fun _ _ => trivial⟩⟩
  · exact absurd spent (by decide)
  · exact ⟨by decide,by decide⟩
  · exact absurd spent (by decide)
  · exact ⟨by decide,by decide⟩

end Result

end Sigproxy.Ha.DiskAgreement
