import Sigproxy.Proxy.State

namespace Sigproxy.Ha.Replay
open Library Cluster Affinity Persistence Proxy

-- One event of the leader with the clock readings of the standby that applies it.
structure Delivery where
  event : HaEventRecord
  appliedAt : Nat
  persistedAt : Nat
  afterCreation : event.createdAtEpochMs ≤ appliedAt

def deliver (server : ProxyState) (delivery : Delivery) : ProxyState :=
  server.applyHaEvent delivery.appliedAt delivery.persistedAt delivery.event

def standby (start : ProxyState) (deliveries : List Delivery) : ProxyState := deliveries.foldl deliver start

-- What the leader did to its own tables when it issued the event: contact
-- commands and affinity bindings enter them whatever their expiry.
def issue (server : ProxyState) (delivery : Delivery) : ProxyState :=
  match delivery.event.payload with
  | .registerContact binding => {server with state:=server.state.apply (.registerContact binding)}
  | .unregisterContact aor => {server with state:=server.state.apply (.unregisterContact aor)}
  | .upsertAffinity binding =>
    let bindings := server.affinity.bindings.insert binding.key ⟨binding.target,binding.expiresAtEpochMs⟩
    {server with affinity:={server.affinity with bindings}}
  | .removeAffinity key => {server with affinity:=server.affinity.removeKey key}

def leader (start : ProxyState) (deliveries : List Delivery) : ProxyState := deliveries.foldl issue start

-- The affinity events of one message carry what `remember` has just put in the
-- leader's table.
theorem leader_upserts (server : ProxyState) (bindings : List AffinityBindingSnapshot) (deliveries : List Delivery)
    (payloads : deliveries.map (fun delivery => delivery.event.payload) = bindings.map HaEventPayload.upsertAffinity) :
    (leader server deliveries).affinity = ⟨server.affinity.config,bindings.foldl
      (fun table binding => table.insert binding.key ⟨binding.target,binding.expiresAtEpochMs⟩) server.affinity.bindings⟩ := by
  induction bindings generalizing server deliveries with
  | nil =>
      cases List.map_eq_nil_iff.mp payloads
      rfl
  | cons binding rest ih =>
      obtain ⟨delivery,later,rfl,payload,remaining⟩ := List.map_eq_cons_iff.mp payloads
      simp only [leader,List.foldl_cons] at ih ⊢
      rw [ih (issue server delivery) later remaining]
      simp [issue,payload]

theorem leader_rememberKeys (server : ProxyState) (now : Nat) (keys : List AffinityKey) (target : AffinityTarget)
    (deliveries : List Delivery) (payloads : deliveries.map (fun delivery => delivery.event.payload) =
      (server.affinity.rememberKeys now keys target).1.map HaEventPayload.upsertAffinity) :
    (leader server deliveries).affinity = (server.affinity.rememberKeys now keys target).2 := by
  rw [leader_upserts server _ deliveries payloads]
  unfold AffinityTable.rememberKeys
  split
  · simp only [List.foldl_map]
  · rfl

theorem leader_rememberKey (server : ProxyState) (now : Nat) (key : AffinityKey) (target : AffinityTarget) (ttl : Nat)
    (deliveries : List Delivery) (payloads : deliveries.map (fun delivery => delivery.event.payload) =
      (server.affinity.rememberKey now key target ttl).1.map HaEventPayload.upsertAffinity) :
    (leader server deliveries).affinity = (server.affinity.rememberKey now key target ttl).2 := by
  rw [leader_upserts server _ deliveries payloads]
  unfold AffinityTable.rememberKey
  split <;> rfl

namespace Delivery

def contactOf (delivery : Delivery) : Option String :=
  match delivery.event.payload with
  | .registerContact binding => some binding.aor
  | .unregisterContact aor => some aor
  | _ => none

def affinityOf (delivery : Delivery) : Option AffinityKey :=
  match delivery.event.payload with
  | .upsertAffinity binding => some binding.key
  | .removeAffinity key => some key
  | _ => none

def registered (delivery : Delivery) : Option ContactBinding :=
  match delivery.event.payload with
  | .registerContact binding => some binding
  | _ => none

def upserted (delivery : Delivery) : Option AffinityBindingSnapshot :=
  match delivery.event.payload with
  | .upsertAffinity binding => some binding
  | _ => none

def expiredOnArrival (delivery : Delivery) : Bool :=
  delivery.registered.any fun binding => binding.isExpired delivery.appliedAt

end Delivery

def lastContact (aor : String) (deliveries : List Delivery) : Option Delivery :=
  lastFor (fun delivery => decide (delivery.contactOf = some aor)) deliveries

def lastArrived (aor : String) (deliveries : List Delivery) : Option Delivery :=
  lastFor (fun delivery => decide (delivery.contactOf = some aor) && !delivery.expiredOnArrival) deliveries

def lastAffinity (key : AffinityKey) (deliveries : List Delivery) : Option Delivery :=
  lastFor (fun delivery => decide (delivery.affinityOf = some key)) deliveries

def horizon (deliveries : List Delivery) : Nat := (deliveries.getLast?.map Delivery.appliedAt).getD 0

def Ordered (deliveries : List Delivery) : Prop :=
  deliveries.Pairwise fun earlier later => earlier.appliedAt ≤ later.appliedAt

-- From the last application on, both nodes answer every lookup alike.
def InStep (config : ProxyAffinityConfig) (persistence : Option Database) (deliveries : List Delivery) : Prop :=
  ∀ now, horizon deliveries ≤ now →
    (∀ aor, (standby (.new config persistence) deliveries).state.live now aor =
      (leader (.new config persistence) deliveries).state.live now aor) ∧
    (∀ key, (standby (.new config persistence) deliveries).affinity.live now key =
      (leader (.new config persistence) deliveries).affinity.live now key)

-- An expired registration displaces nothing that is still alive, and no live
-- affinity binding has more than a u64 of milliseconds left on arrival.
structure Timely (deliveries : List Delivery) : Prop where
  contacts : ∀ aor last kept binding, lastContact aor deliveries = some last → last.expiredOnArrival = true →
    lastArrived aor deliveries = some kept → kept.registered = some binding →
    binding.expiresAtEpochMs ≤ horizon deliveries
  affinity : ∀ key last binding, lastAffinity key deliveries = some last → last.upserted = some binding →
    binding.expiresAtEpochMs ≤ horizon deliveries ∨ binding.expiresAtEpochMs - last.appliedAt < 2 ^ 64

theorem leader_contact (start : ProxyState) (deliveries : List Delivery) (aor : String) :
    (leader start deliveries).state.contacts.lookup aor =
      (lastContact aor deliveries).elim (start.state.contacts.lookup aor) Delivery.registered := by
  refine view_foldl (fun server : ProxyState => server.state.contacts.lookup aor) ?_ deliveries start
  intro server delivery
  cases payload : delivery.event.payload <;>
    simp [issue,payload,Delivery.contactOf,Delivery.registered,SharedState.apply,
      Table.lookup_insert_eq,Table.lookup_erase_eq,eq_comm]

theorem standby_contact (start : ProxyState) (deliveries : List Delivery) (aor : String) :
    (standby start deliveries).state.contacts.lookup aor =
      (lastArrived aor deliveries).elim (start.state.contacts.lookup aor) Delivery.registered := by
  refine view_foldl (fun server : ProxyState => server.state.contacts.lookup aor) ?_ deliveries start
  intro server delivery
  cases payload : delivery.event.payload with
  | registerContact binding =>
      cases expired : binding.isExpired delivery.appliedAt <;>
        simp [deliver,ProxyState.applyHaEventToMemory,payload,expired,Delivery.contactOf,Delivery.expiredOnArrival,
          Delivery.registered,SharedState.apply,Table.lookup_insert_eq,eq_comm]
  | _ =>
      simp [deliver,ProxyState.applyHaEventToMemory,payload,Delivery.contactOf,Delivery.expiredOnArrival,
        Delivery.registered,SharedState.apply,Table.lookup_erase_eq,eq_comm]

theorem leader_affinity (start : ProxyState) (deliveries : List Delivery) (key : AffinityKey) :
    (leader start deliveries).affinity.bindings.lookup key =
      (lastAffinity key deliveries).elim (start.affinity.bindings.lookup key) fun delivery =>
        delivery.upserted.map fun binding => ⟨binding.target,binding.expiresAtEpochMs⟩ := by
  refine view_foldl (fun server : ProxyState => server.affinity.bindings.lookup key) ?_ deliveries start
  intro server delivery
  cases payload : delivery.event.payload <;>
    simp [issue,payload,Delivery.affinityOf,Delivery.upserted,AffinityTable.removeKey,
      Table.lookup_insert_eq,Table.lookup_erase_eq,eq_comm]

theorem standby_affinity (start : ProxyState) (deliveries : List Delivery) (key : AffinityKey) :
    (standby start deliveries).affinity.bindings.lookup key =
      (lastAffinity key deliveries).elim (start.affinity.bindings.lookup key) fun delivery =>
        (delivery.upserted.filter fun binding => decide (delivery.appliedAt < binding.expiresAtEpochMs)).map
          fun binding => ⟨binding.target,AffinityTable.expiryFrom delivery.appliedAt binding.expiresAtEpochMs⟩ := by
  refine view_foldl (fun server : ProxyState => server.affinity.bindings.lookup key) ?_ deliveries start
  intro server delivery
  cases payload : delivery.event.payload with
  | upsertAffinity binding =>
      by_cases expired : binding.expiresAtEpochMs ≤ delivery.appliedAt
      · have spent : ¬ delivery.appliedAt < binding.expiresAtEpochMs := by omega
        simp [deliver,ProxyState.applyHaEventToMemory,payload,expired,spent,Delivery.affinityOf,Delivery.upserted,
          AffinityTable.upsertSnapshotBindings,AffinityTable.upsertSnapshotBinding,Table.lookup_erase_eq,Option.filter,
          eq_comm]
      · have alive : delivery.appliedAt < binding.expiresAtEpochMs := by omega
        simp [deliver,ProxyState.applyHaEventToMemory,payload,expired,alive,Delivery.affinityOf,Delivery.upserted,
          AffinityTable.upsertSnapshotBindings,AffinityTable.upsertSnapshotBinding,Table.lookup_insert_eq,Option.filter,
          eq_comm]
  | registerContact binding =>
      cases expired : binding.isExpired delivery.appliedAt <;>
        simp [deliver,ProxyState.applyHaEventToMemory,payload,expired,Delivery.affinityOf]
  | _ =>
      simp [deliver,ProxyState.applyHaEventToMemory,payload,Delivery.affinityOf,Delivery.upserted,
        AffinityTable.removeKey,Table.lookup_erase_eq,eq_comm]

variable {delivery : Delivery} {deliveries : List Delivery} {config : ProxyAffinityConfig}
  {persistence : Option Database}

theorem applied_by_horizon (ordered : Ordered deliveries) (member : delivery ∈ deliveries) :
    delivery.appliedAt ≤ horizon deliveries := by
  induction deliveries using List.reverseRecOn with
  | nil => cases member
  | append_singleton rest final _ =>
      obtain ⟨-,-,before⟩ := List.pairwise_append.mp ordered
      simp only [horizon,List.getLast?_append,List.getLast?_singleton,Option.some_or,Option.map_some,Option.getD_some]
      rcases List.mem_append.mp member with early | last
      · exact before delivery early final (by simp)
      · rw [List.mem_singleton.mp last]

theorem expired_registered (expired : delivery.expiredOnArrival = true) :
    ∃ binding, delivery.registered = some binding ∧ binding.expiresAtEpochMs ≤ delivery.appliedAt := by
  unfold Delivery.expiredOnArrival at expired
  cases registered : delivery.registered with
  | none => simp [registered] at expired
  | some binding => exact ⟨binding,rfl,by simpa [registered,ContactBinding.isExpired] using expired⟩

theorem arrived_of_unexpired (last : lastContact aor deliveries = some delivery)
    (alive : delivery.expiredOnArrival = false) : lastArrived aor deliveries = some delivery := by
  refine lastFor_narrow ?_ last ?_
  · intro other keeps
    exact (Bool.and_eq_true_iff.mp keeps).1
  · rw [(lastFor_some last).1,alive]
    rfl

theorem contacts_in_step (ordered : Ordered deliveries) (timely : Timely deliveries)
    (later : horizon deliveries ≤ now) (aor : String) :
    (standby (.new config persistence) deliveries).state.live now aor =
      (leader (.new config persistence) deliveries).state.live now aor := by
  rw [SharedState.live_eq,SharedState.live_eq,standby_contact,leader_contact]
  cases last : lastContact aor deliveries with
  | none =>
      have absent : lastArrived aor deliveries = none :=
        lastFor_none (fun other keeps => (Bool.and_eq_true_iff.mp keeps).1) last
      rw [absent]
  | some delivery =>
      cases expired : delivery.expiredOnArrival with
      | false => rw [arrived_of_unexpired last expired]
      | true =>
          -- The leader holds a binding that has run out, so the standby must hold none alive.
          obtain ⟨binding,registered,spent⟩ := expired_registered expired
          have applied := applied_by_horizon ordered (lastFor_some last).2
          have gone : binding.isExpired now = true := by
            simp [ContactBinding.isExpired]; omega
          simp only [Option.elim_some,registered,Option.filter,gone]
          cases arrived : lastArrived aor deliveries with
          | none => rfl
          | some kept =>
              cases held : kept.registered with
              | none => simp [held]
              | some old =>
                  have outlived := timely.contacts aor delivery kept old last expired arrived held
                  have spent : old.isExpired now = true := by
                    simp [ContactBinding.isExpired]; omega
                  simp [held,spent]

theorem expiryFrom_le (alive : applied < expires) : AffinityTable.expiryFrom applied expires ≤ expires := by
  have rest := Nat.mod_le (expires - applied) (2 ^ 64)
  unfold AffinityTable.expiryFrom
  omega

theorem expiryFrom_fits (alive : applied < expires) (fits : expires - applied < 2 ^ 64) :
    AffinityTable.expiryFrom applied expires = expires := by
  unfold AffinityTable.expiryFrom
  rw [Nat.mod_eq_of_lt fits]
  omega

theorem leader_target (last : lastAffinity key deliveries = some delivery)
    (upserted : delivery.upserted = some binding) :
    (leader (.new config persistence) deliveries).affinity.live now key =
      if now < binding.expiresAtEpochMs then some binding.target else none := by
  rw [AffinityTable.live_eq,leader_affinity,last]
  split <;> simp_all [Option.filter]

theorem standby_target (last : lastAffinity key deliveries = some delivery)
    (upserted : delivery.upserted = some binding) :
    (standby (.new config persistence) deliveries).affinity.live now key =
      if delivery.appliedAt < binding.expiresAtEpochMs ∧
          now < AffinityTable.expiryFrom delivery.appliedAt binding.expiresAtEpochMs
        then some binding.target else none := by
  rw [AffinityTable.live_eq,standby_affinity,last]
  by_cases alive : delivery.appliedAt < binding.expiresAtEpochMs
  · split <;> simp_all [Option.filter]
  · simp [upserted,alive,Option.filter]

theorem affinity_in_step (ordered : Ordered deliveries) (timely : Timely deliveries)
    (later : horizon deliveries ≤ now) (key : AffinityKey) :
    (standby (.new config persistence) deliveries).affinity.live now key =
      (leader (.new config persistence) deliveries).affinity.live now key := by
  cases last : lastAffinity key deliveries with
  | none =>
      rw [AffinityTable.live_eq,AffinityTable.live_eq,standby_affinity,leader_affinity,last]
      rfl
  | some delivery =>
      have applied := applied_by_horizon ordered (lastFor_some last).2
      cases upserted : delivery.upserted with
      | none => simp [AffinityTable.live_eq,standby_affinity,leader_affinity,last,upserted]
      | some binding =>
          rw [leader_target last upserted,standby_target last upserted]
          refine if_congr ⟨?_,?_⟩ rfl rfl
          · intro both
            rcases both with ⟨alive,before⟩
            exact Nat.lt_of_lt_of_le before (expiryFrom_le alive)
          · intro before
            have alive : delivery.appliedAt < binding.expiresAtEpochMs := by omega
            have fits := (timely.affinity key delivery binding last upserted).resolve_left (by omega)
            rw [expiryFrom_fits alive fits]
            exact ⟨alive,before⟩

theorem timely_of_in_step (ordered : Ordered deliveries) (inStep : InStep config persistence deliveries) :
    Timely deliveries := by
  refine ⟨?_,?_⟩
  · intro aor last kept binding contact expired arrived registered
    obtain ⟨spentBinding,spent,ended⟩ := expired_registered expired
    have applied := applied_by_horizon ordered (lastFor_some contact).2
    have same := (inStep (horizon deliveries) (Nat.le_refl _)).1 aor
    rw [SharedState.live_eq,SharedState.live_eq,standby_contact,leader_contact,contact,arrived] at same
    have gone : spentBinding.isExpired (horizon deliveries) = true := by
      simp [ContactBinding.isExpired]; omega
    by_contra outlives
    have alive : binding.isExpired (horizon deliveries) = false := by
      simp [ContactBinding.isExpired]; omega
    simp [registered,spent,gone,alive,Option.filter] at same
  · intro key last binding affinity upserted
    have applied := applied_by_horizon ordered (lastFor_some affinity).2
    by_contra cut
    have large : ¬ binding.expiresAtEpochMs - last.appliedAt < 2 ^ 64 := fun fits => cut (.inr fits)
    have outlives : ¬ binding.expiresAtEpochMs ≤ horizon deliveries := fun spent => cut (.inl spent)
    have short : AffinityTable.expiryFrom last.appliedAt binding.expiresAtEpochMs < binding.expiresAtEpochMs := by
      have rest := Nat.mod_lt (binding.expiresAtEpochMs - last.appliedAt) (y := 2 ^ 64) (by decide)
      unfold AffinityTable.expiryFrom
      omega
    -- Between the two expiries only the leader still answers.
    have same := (inStep (binding.expiresAtEpochMs - 1) (by omega)).2 key
    have held : binding.expiresAtEpochMs - 1 < binding.expiresAtEpochMs := by omega
    have dropped : ¬ (last.appliedAt < binding.expiresAtEpochMs ∧ binding.expiresAtEpochMs - 1 <
        AffinityTable.expiryFrom last.appliedAt binding.expiresAtEpochMs) := by omega
    rw [leader_target affinity upserted,standby_target affinity upserted,if_pos held,if_neg dropped] at same
    cases same

theorem replay_exact (ordered : Ordered deliveries) : InStep config persistence deliveries ↔ Timely deliveries := by
  constructor
  · exact timely_of_in_step ordered
  · intro timely now later
    exact ⟨contacts_in_step ordered timely later,affinity_in_step ordered timely later⟩

-- The second registration runs out on the way: the leader forgets the first one
-- and the standby brings it back.
def firstBinding : ContactBinding := ⟨"sip:a@example.com","sip:a@10.0.0.1","10.0.0.1:5060",1000⟩
def shortBinding : ContactBinding := ⟨"sip:a@example.com","sip:a@10.0.0.2","10.0.0.2:5060",10⟩
def arrivingAt (time : Nat) (late : 1 ≤ time) : List Delivery :=
  [⟨⟨1,.registerContact firstBinding,0⟩,time,time,Nat.zero_le _⟩,
    ⟨⟨2,.registerContact shortBinding,1⟩,time,time,late⟩]

theorem arrivingAt_ordered (time : Nat) (late : 1 ≤ time) : Ordered (arrivingAt time late) := by
  simp [Ordered,arrivingAt]

theorem replay_in_time :
    Ordered (arrivingAt 5 (by decide)) ∧ InStep ⟨true,60⟩ none (arrivingAt 5 (by decide)) := by
  have ordered := arrivingAt_ordered 5 (by decide)
  refine ⟨ordered,(replay_exact ordered).mpr ⟨?_,?_⟩⟩
  · intro aor last kept binding contact expired
    obtain ⟨-,member⟩ := lastFor_some contact
    simp only [arrivingAt,List.mem_cons,List.not_mem_nil,or_false] at member
    rcases member with rfl | rfl <;> exact absurd expired (by decide)
  · intro key last binding affinity upserted
    obtain ⟨-,member⟩ := lastFor_some affinity
    simp only [arrivingAt,List.mem_cons,List.not_mem_nil,or_false] at member
    rcases member with rfl | rfl <;> cases upserted

theorem displaced_contact_returns :
    Ordered (arrivingAt 20 (by decide)) ∧ ¬ InStep ⟨true,60⟩ none (arrivingAt 20 (by decide)) := by
  refine ⟨arrivingAt_ordered 20 (by decide),fun inStep => ?_⟩
  have same := (inStep 20 (by decide)).1 "sip:a@example.com"
  revert same
  decide

end Sigproxy.Ha.Replay
