import Sigproxy.Xdp.Upkeep

namespace Sigproxy.Xdp
open Library Net Security

section Capacities

structure XdpMapSizing where
  autoSizeMaps : Bool
  maxDenyCidrsEntries : Nat
  maxGeoCidrsEntries : Nat

structure XdpMapCapacities where
  denyCidrs : Nat
  geoCidrs : Nat
  deriving DecidableEq

def xdpDenyCidrsDefaultMaxEntries : Nat := 65536
def xdpGeoCidrsDefaultMaxEntries : Nat := 262144

-- `u32::checked_next_power_of_two`.
def checkedNextPowerOfTwo (value : Nat) : Option Nat := if value ≤ 2 ^ 31 then some value.nextPowerOfTwo else none

def desiredXdpMapEntries (mapName : String) (required defaultEntries maxEntries : Nat) (autoSize : Bool) : Except String Nat :=
  if 2 ^ 32 ≤ required then .error ("XDP " ++ mapName ++ " map requires too many entries")
  else if maxEntries < defaultEntries then
    .error ("XDP " ++ mapName ++ " configured max_entries " ++ Nat.repr maxEntries ++ " is below default capacity " ++
      Nat.repr defaultEntries)
  else if defaultEntries < required ∧ ¬ autoSize then
    .error ("XDP " ++ mapName ++ " map requires " ++ Nat.repr required ++ " entries but object capacity is " ++
      Nat.repr defaultEntries ++ "; enable proxy.security.xdp.auto_size_maps or increase the BPF map capacity")
  else if maxEntries < required then
    .error ("XDP " ++ mapName ++ " map requires " ++ Nat.repr required ++ " entries but configured max_entries is " ++
      Nat.repr maxEntries ++ "; increase proxy.security.xdp.max_" ++ mapName ++
      "_entries or reduce enabled XDP listeners/prefix sources")
  else if ¬ autoSize then .ok defaultEntries
  else if required ≤ defaultEntries then .ok defaultEntries
  else .ok (max (min ((checkedNextPowerOfTwo (min (required * 2) (2 ^ 32 - 1))).getD maxEntries) maxEntries) defaultEntries)

def computeXdpMapCapacities (listeners : List XdpListenerSpec) (geo : List GeoIpPrefix) (threat : List ThreatIpPrefix)
    (sizing : XdpMapSizing) : Except String XdpMapCapacities :=
  let keys := buildXdpStaticKeys listeners geo threat
  match desiredXdpMapEntries "deny_cidrs" (keys.lpm .denyCidrs).length xdpDenyCidrsDefaultMaxEntries
    sizing.maxDenyCidrsEntries sizing.autoSizeMaps with
  | .error message => .error message
  | .ok denied =>
    match desiredXdpMapEntries "geo_cidrs" (keys.lpm .geoCidrs).length xdpGeoCidrsDefaultMaxEntries
      sizing.maxGeoCidrsEntries sizing.autoSizeMaps with
    | .error message => .error message
    | .ok located => .ok ⟨denied,located⟩

end Capacities

section Attaching

structure XdpIpKey where
  family : BitVec 8
  l4Proto : BitVec 8
  dport : BitVec 16
  src : BitVec 128
  deriving DecidableEq

-- A map on bpffs outlives the process that pinned it, with its size and content.
structure Pinned (Content : Type) where
  maxEntries : Nat
  content : Content

structure Pins where
  blockedIps : Option (Pinned (Table XdpIpKey (BitVec 64)))
  listenerPolicies : Option (Pinned (Table XdpListenerKey XdpListenerPolicy))
  lpm : (map : LpmMap) → Option (Pinned (LpmTrie map.Value))

def Pins.none : Pins := ⟨.none,.none,fun _ => .none⟩

-- Whether the machine goes along with each of the steps that concern it.
structure Host where
  ensuresBpffsDirs : Bool
  hasObject : Bool
  inspectsPins : Bool
  removesPins : Bool
  loadsObject : Bool
  clearsBlocklist : Bool
  lasts : Option Nat
  attachesInterfaces : Bool

def ensure (holds : Bool) (message : String) : Except String Unit := if holds then .ok () else .error message

-- A pinned map that is too small goes, and the loader makes a new one.
def preparePinnedMapCapacity (host : Host) (pin : Option (Pinned Content)) (required : Nat) :
    Except String (Option (Pinned Content)) :=
  match pin with
  | .none => .ok .none
  | some pinned =>
    if ¬ host.inspectsPins then .error "failed to inspect pinned XDP map"
    else if required ≤ pinned.maxEntries then .ok (some pinned)
    else if host.removesPins then .ok .none
    else .error "failed to remove undersized pinned XDP map before recreating it"

def reopen [EmptyCollection Content] (maxEntries : Nat) (pin : Option (Pinned Content)) : Pinned Content :=
  pin.getD ⟨maxEntries,∅⟩

-- Every key that the pinned blocklist lists is removed from it.
def clearDynamicBlocklist (blockedIps : Table XdpIpKey (BitVec 64)) : Table XdpIpKey (BitVec 64) :=
  blockedIps.replay (blockedIps.keys.map .drop)

-- What stands on bpffs while the process runs and after it.
structure Attached where
  backend : AyaXdpBackend
  blockedIps : Table XdpIpKey (BitVec 64)
  maxEntries : LpmMap → Nat

def Attached.pins (attached : Attached) : Pins where
  blockedIps := some ⟨65536,attached.blockedIps⟩
  listenerPolicies := some ⟨256,attached.backend.maps.listenerPolicies⟩
  lpm map := some ⟨attached.maxEntries map,attached.backend.maps.lpm map⟩

-- The loader opens a pinned map where there is one and creates the others, with
-- the computed capacities for the two maps that grow.
def Pins.opened (pins : Pins) (capacities : XdpMapCapacities) : (map : LpmMap) → Pinned (LpmTrie map.Value)
  | .allowCidrs => reopen 65536 (pins.lpm .allowCidrs)
  | .denyCidrs => reopen capacities.denyCidrs (pins.lpm .denyCidrs)
  | .trustedCidrs => reopen 65536 (pins.lpm .trustedCidrs)
  | .geoCidrs => reopen capacities.geoCidrs (pins.lpm .geoCidrs)

def Pins.reopened (pins : Pins) (capacities : XdpMapCapacities) (listeners : List XdpListenerSpec) : AyaXdpBackend where
  listeners := listeners
  maps :=
    {listenerPolicies:=(reopen 256 pins.listenerPolicies).content,lpm:=fun map => (pins.opened capacities map).content}
  keys := .default
  fingerprint := .none

def Pins.prepared (pins : Pins) (denied : Option (Pinned (LpmTrie (BitVec 8)))) (located : Option (Pinned (LpmTrie (BitVec 16)))) :
    Pins :=
  {pins with lpm:=Function.update (Function.update pins.lpm .denyCidrs denied) .geoCidrs located}

def AyaXdpBackend.attach (hasher : List Hashed → BitVec 64) (host : Host) (pins : Pins) (listeners : List XdpListenerSpec)
    (geo : List GeoIpPrefix) (threat : List ThreatIpPrefix) (sizing : XdpMapSizing) : Except String Attached := do
  ensure host.ensuresBpffsDirs "failed to create XDP bpffs pin dir"
  ensure host.hasObject "XDP object /usr/local/share/sigproxy/sigproxy_xdp.o is missing"
  let capacities ← computeXdpMapCapacities listeners geo threat sizing
  let denied ← preparePinnedMapCapacity host (pins.lpm .denyCidrs) capacities.denyCidrs
  let located ← preparePinnedMapCapacity host (pins.lpm .geoCidrs) capacities.geoCidrs
  let prepared := pins.prepared denied located
  ensure host.loadsObject "failed to load XDP object with aya"
  let backend := prepared.reopened capacities listeners
  ensure host.clearsBlocklist "failed to clear pinned XDP blocked IP entry"
  let synced := backend.syncStaticPolicyPrefixes hasher ⟨geo,threat,host.lasts⟩
  ensure synced.ok "failed to sync XDP static policy maps"
  ensure host.attachesInterfaces "failed to attach XDP program"
  return ⟨synced.backend,clearDynamicBlocklist (reopen 65536 pins.blockedIps).content,fun map => (prepared.opened capacities map).maxEntries⟩

end Attaching

-- The blocklist is the one map that a restart empties whatever it held.
theorem clearDynamicBlocklist_empty (blockedIps : Table XdpIpKey (BitVec 64)) (key : XdpIpKey) :
    (clearDynamicBlocklist blockedIps).lookup key = none := by
  rw [← Option.not_isSome_iff_eq_none,clearDynamicBlocklist,Table.replay_drops_isSome (by simp [Table.Write.outcome])]
  intro both
  rcases both with ⟨present,others⟩
  have listed : key ∈ blockedIps.keys := AList.lookup_isSome.mp present
  exact others (.drop key) (List.mem_map_of_mem listed) rfl

section Leftovers
variable {listeners : List XdpListenerSpec} {geo : List GeoIpPrefix} {threat : List ThreatIpPrefix}

theorem ensure_ok : ensure holds message = .ok unit ↔ holds = true := by
  cases holds <;> simp [ensure]

structure HoldsPlan (maps : XdpMaps) (keys : XdpStaticKeys) : Prop where
  policies : ∀ key, (maps.listenerPolicies.lookup key).isSome = true ↔ key ∈ keys.listenerPolicies
  lpm : ∀ map node, ((maps.lpm map).lookup node).isSome = true ↔ node ∈ nodes (keys.lpm map)

-- The room that a pinned map must have to be opened again; only two maps are asked.
def XdpMapCapacities.required (capacities : XdpMapCapacities) : LpmMap → Nat
  | .denyCidrs => capacities.denyCidrs
  | .geoCidrs => capacities.geoCidrs
  | _ => 0

-- No pinned map that is opened again holds a key outside the plan.
structure OnlyPlanned (pins : Pins) (capacities : XdpMapCapacities) (keys : XdpStaticKeys) : Prop where
  policies : ∀ pinned ∈ pins.listenerPolicies, ∀ key, (pinned.content.lookup key).isSome = true → key ∈ keys.listenerPolicies
  lpm : ∀ map, ∀ pinned ∈ pins.lpm map, capacities.required map ≤ pinned.maxEntries →
    ∀ node, (pinned.content.lookup node).isSome = true → node ∈ nodes (keys.lpm map)

theorem attach_ok (attached : AyaXdpBackend.attach hasher host pins listeners geo threat sizing = .ok result)
    (sized : computeXdpMapCapacities listeners geo threat sizing = .ok capacities) :
    ∃ denied located, preparePinnedMapCapacity host (pins.lpm .denyCidrs) capacities.denyCidrs = .ok denied ∧
      preparePinnedMapCapacity host (pins.lpm .geoCidrs) capacities.geoCidrs = .ok located ∧
      Machine.run XdpMaps.perform ((pins.prepared denied located).reopened capacities listeners).maps
        (((pins.prepared denied located).reopened capacities listeners).syncOps geo threat) = some result.backend.maps := by
  unfold AyaXdpBackend.attach at attached
  obtain ⟨_,_,attached⟩ := bind_ok.mp attached
  obtain ⟨_,_,attached⟩ := bind_ok.mp attached
  obtain ⟨found,computed,attached⟩ := bind_ok.mp attached
  cases sized.symm.trans computed
  obtain ⟨denied,deniedReady,attached⟩ := bind_ok.mp attached
  obtain ⟨located,locatedReady,attached⟩ := bind_ok.mp attached
  obtain ⟨_,_,attached⟩ := bind_ok.mp attached
  obtain ⟨_,_,attached⟩ := bind_ok.mp attached
  obtain ⟨_,synced,attached⟩ := bind_ok.mp attached
  obtain ⟨_,_,attached⟩ := bind_ok.mp attached
  cases attached
  refine ⟨denied,located,deniedReady,locatedReady,?_⟩
  have succeeded := ensure_ok.mp synced
  have outcome := sync_result hasher ((pins.prepared denied located).reopened capacities listeners) ⟨geo,threat,host.lasts⟩
  generalize ((pins.prepared denied located).reopened capacities listeners).syncStaticPolicyPrefixes hasher
    ⟨geo,threat,host.lasts⟩ = result at succeeded outcome ⊢
  cases outcome with
  | skipped same => cases same
  | done changed ran => exact ran
  | broken ran => cases succeeded

theorem prepared_ok {pin : Option (Pinned Content)} (prepared : preparePinnedMapCapacity host pin required = .ok kept) :
    kept = pin.filter fun pinned => decide (required ≤ pinned.maxEntries) := by
  cases pin with
  | none => cases prepared; rfl
  | some pinned =>
      rw [Option.filter_some]
      unfold preparePinnedMapCapacity at prepared
      by_cases room : required ≤ pinned.maxEntries
      · cases inspects : host.inspectsPins <;> simp [inspects,room] at prepared ⊢
        exact prepared.symm
      · cases inspects : host.inspectsPins <;> cases removes : host.removesPins <;> simp [inspects,removes,room] at prepared ⊢
        exact prepared.symm

theorem reopen_present [DecidableEq Key] {pin : Option (Pinned (Table Key Value))} (maxEntries : Nat) (key : Key) :
    ((reopen maxEntries pin).content.lookup key).isSome = true ↔ ∃ pinned ∈ pin, (pinned.content.lookup key).isSome = true := by
  cases pin with
  | none => simp [reopen]
  | some pinned => simp [reopen]

theorem opened_present {pins : Pins}
    (deniedReady : preparePinnedMapCapacity host (pins.lpm .denyCidrs) capacities.denyCidrs = .ok denied)
    (locatedReady : preparePinnedMapCapacity host (pins.lpm .geoCidrs) capacities.geoCidrs = .ok located) (map : LpmMap)
    (node : Nat × Nat) : (((pins.prepared denied located).opened capacities map).content.lookup node).isSome = true ↔
      ∃ pinned ∈ pins.lpm map, capacities.required map ≤ pinned.maxEntries ∧ (pinned.content.lookup node).isSome = true := by
  cases map with
  | allowCidrs => simp [Pins.opened,reopen_present,Pins.prepared,XdpMapCapacities.required]
  | trustedCidrs => simp [Pins.opened,reopen_present,Pins.prepared,XdpMapCapacities.required]
  | denyCidrs =>
      obtain rfl := prepared_ok deniedReady
      simp [Pins.opened,reopen_present,Pins.prepared,XdpMapCapacities.required,Option.filter_eq_some_iff,and_assoc]
  | geoCidrs =>
      obtain rfl := prepared_ok locatedReady
      simp [Pins.opened,reopen_present,Pins.prepared,XdpMapCapacities.required,Option.filter_eq_some_iff,and_assoc]

-- Nothing is stale for a process that has just started, so all that it opened stays.
theorem attach_lpm (attached : AyaXdpBackend.attach hasher host pins listeners geo threat sizing = .ok result)
    (sized : computeXdpMapCapacities listeners geo threat sizing = .ok capacities) (map : LpmMap) (node : Nat × Nat) :
    ((result.backend.maps.lpm map).lookup node).isSome = true ↔
      (∃ pinned ∈ pins.lpm map, capacities.required map ≤ pinned.maxEntries ∧ (pinned.content.lookup node).isSome = true) ∨
      node ∈ nodes ((buildXdpStaticKeys listeners geo threat).lpm map) := by
  obtain ⟨denied,located,deniedReady,locatedReady,ran⟩ := attach_ok attached sized
  have unstale : ∀ raw ∈ difference (XdpStaticKeys.default.lpm map) ((buildXdpStaticKeys listeners geo threat).lpm map),
      (decodeLpmKeyBytes raw).node ≠ node := by
    intro raw listed
    cases List.mem_of_mem_filter listed
  rw [syncOps_present ran,mem_nodes_planned,← opened_present deniedReady locatedReady]
  exact and_iff_left unstale

theorem attach_policies (attached : AyaXdpBackend.attach hasher host pins listeners geo threat sizing = .ok result)
    (sized : computeXdpMapCapacities listeners geo threat sizing = .ok capacities) (key : XdpListenerKey) :
    (result.backend.maps.listenerPolicies.lookup key).isSome = true ↔
      (∃ pinned ∈ pins.listenerPolicies, (pinned.content.lookup key).isSome = true) ∨
      key ∈ (buildXdpStaticKeys listeners geo threat).listenerPolicies := by
  obtain ⟨denied,located,_,_,ran⟩ := attach_ok attached sized
  have unstale : difference XdpStaticKeys.default.listenerPolicies (buildXdpStaticKeys listeners geo threat).listenerPolicies = [] :=
    rfl
  rw [run_policies ran,AyaXdpBackend.syncOps,List.filterMap_append,staticInserts_policies,deleteStale_policies]
  rw [Pins.reopened,unstale,List.map_nil,List.append_nil,Table.replay_puts_isSome (by simp [Table.Write.outcome]),
    reopen_present]
  simp [buildXdpStaticKeys,Table.Write.key,Pins.prepared]

-- After an attach the maps hold the plan exactly when no map that it opened again
-- held anything else.
theorem attached_maps_hold_plan_iff
    (attached : AyaXdpBackend.attach hasher host pins listeners geo threat sizing = .ok result)
    (sized : computeXdpMapCapacities listeners geo threat sizing = .ok capacities) :
    HoldsPlan result.backend.maps (buildXdpStaticKeys listeners geo threat) ↔
      OnlyPlanned pins capacities (buildXdpStaticKeys listeners geo threat) := by
  have policies := attach_policies attached sized
  have lpm := attach_lpm attached sized
  constructor
  · intro holds
    refine ⟨fun pinned opened key present => ?_,fun map pinned opened room node present => ?_⟩
    · exact (holds.policies key).mp ((policies key).mpr (.inl ⟨pinned,opened,present⟩))
    · exact (holds.lpm map node).mp ((lpm map node).mpr (.inl ⟨pinned,opened,room,present⟩))
  · intro only
    refine ⟨fun key => (policies key).trans (or_iff_right_of_imp ?_),fun map node => (lpm map node).trans (or_iff_right_of_imp ?_)⟩
    · intro given
      rcases given with ⟨pinned,opened,present⟩
      exact only.policies pinned opened key present
    · intro given
      rcases given with ⟨pinned,opened,room,present⟩
      exact only.lpm map pinned opened room node present

section Fixed

def calmHost : Host := ⟨true,true,true,true,true,true,none,true⟩
def defaultSizing : XdpMapSizing := ⟨true,262144,1048576⟩

def trustingListener (trusted : List Cidr) : XdpListenerSpec :=
  {deniedListener docNet with policy:={(deniedListener docNet).policy with trustedCidrs:=trusted}}

def attachTrusting (pins : Pins) (trusted : List Cidr) : Except String Attached :=
  AyaXdpBackend.attach tally calmHost pins [trustingListener trusted] [] [] defaultSizing

theorem attachTrusting_ok {holds : Attached → Bool} (happens : (attachTrusting pins trusted).toOption.any holds = true) :
    ∃ result, attachTrusting pins trusted = .ok result ∧ holds result = true := by
  cases attached : attachTrusting pins trusted with
  | error message => rw [attached] at happens; cases happens
  | ok result => exact ⟨result,rfl,by simpa [attached,Except.toOption] using happens⟩

-- A restart with the same configuration finds its own keys and nothing else.
theorem same_configuration_holds_plan : ∃ first second, attachTrusting .none [tenNet] = .ok first ∧
    attachTrusting first.pins [tenNet] = .ok second ∧
    HoldsPlan second.backend.maps (buildXdpStaticKeys [trustingListener [tenNet]] [] []) := by
  have reached : ((attachTrusting .none [tenNet]).toOption.any fun first =>
      (attachTrusting first.pins [tenNet]).toOption.any fun _ => true) = true := by
    decide +kernel
  obtain ⟨first,attached,later⟩ := attachTrusting_ok reached
  obtain ⟨second,reattached,_⟩ := attachTrusting_ok later
  have sized : computeXdpMapCapacities [trustingListener [tenNet]] [] [] defaultSizing = .ok ⟨65536,262144⟩ := by decide +kernel
  have holds := (attached_maps_hold_plan_iff attached sized).mpr ⟨nofun,nofun⟩
  refine ⟨first,second,attached,reattached,(attached_maps_hold_plan_iff reattached sized).mpr ⟨?_,?_⟩⟩
  · intro pinned opened key present
    cases opened
    exact (holds.policies key).mp present
  · intro map pinned opened _ node present
    cases opened
    exact (holds.lpm map node).mp present

-- The trusted network of the earlier configuration is still trusted.
theorem trusted_network_survives_restart : ∃ first second, attachTrusting .none [tenNet] = .ok first ∧
    attachTrusting first.pins [] = .ok second ∧
    second.backend.maps.matched .trustedCidrs (trustingListener []) (.v4 0x0A090909) = true ∧
    ¬ HoldsPlan second.backend.maps (buildXdpStaticKeys [trustingListener []] [] []) := by
  have reached : ((attachTrusting .none [tenNet]).toOption.any fun first =>
      (attachTrusting first.pins []).toOption.any fun second =>
        second.backend.maps.matched .trustedCidrs (trustingListener []) (.v4 0x0A090909) &&
        ((second.backend.maps.lpm .trustedCidrs).lookup ((trustingListener []).lpmKey tenNet).node).isSome) = true := by
    decide +kernel
  obtain ⟨first,attached,later⟩ := attachTrusting_ok reached
  obtain ⟨second,reattached,seen⟩ := attachTrusting_ok later
  obtain ⟨matched,present⟩ := Bool.and_eq_true_iff.mp seen
  refine ⟨first,second,attached,reattached,matched,fun holds => ?_⟩
  have planned := (holds.lpm .trustedCidrs _).mp present
  cases planned

end Fixed

end Leftovers

end Sigproxy.Xdp
