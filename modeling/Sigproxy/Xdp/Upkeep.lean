import Sigproxy.Xdp.Sync

namespace Sigproxy.Xdp
open Library Net Security

variable {listeners : List XdpListenerSpec} {geo : List GeoIpPrefix} {threat : List ThreatIpPrefix}

section Matching

-- The key that the XDP program looks up for a packet to the listener.
def XdpListenerSpec.packetKey (spec : XdpListenerSpec) (ip : IpAddr) : LpmMap → LpmKey 160
  | .geoCidrs => makeGeoLpmKey ip ip.width
  | _ => makeLpmKey spec.l4Proto spec.port ip ip.width

def XdpMaps.matched (maps : XdpMaps) (map : LpmMap) (spec : XdpListenerSpec) (ip : IpAddr) : Bool :=
  ((maps.lpm map).match? (spec.packetKey ip map)).isSome

-- The addresses that a map is there for: the networks configured for the
-- listeners on the protocol and port, with the feeds where they are enabled.
def Meant (listeners : List XdpListenerSpec) (geo : List GeoIpPrefix) (threat : List ThreatIpPrefix) (spec : XdpListenerSpec)
    (ip : IpAddr) : LpmMap → Prop
  | .allowCidrs => ∃ other ∈ listeners, other.key = spec.key ∧ ∃ cidr ∈ other.policy.allowCidrs, cidr.contains ip = true
  | .denyCidrs => ∃ other ∈ listeners, other.key = spec.key ∧ ((∃ cidr ∈ other.policy.denyCidrs, cidr.contains ip = true) ∨
    other.policy.threatIntel = true ∧ ∃ cidr ∈ threat, cidr.contains ip = true)
  | .trustedCidrs => ∃ other ∈ listeners, other.key = spec.key ∧ ∃ cidr ∈ other.policy.trustedCidrs, cidr.contains ip = true
  | .geoCidrs => xdpGeoEnabled listeners = true ∧ ∃ located ∈ geo, located.contains ip = true

theorem cidrKeys_cover (spec : XdpListenerSpec) (ip : IpAddr) (cidrs : XdpListenerSpec → List Cidr) :
    (∃ key ∈ listeners.flatMap fun other => (cidrs other).map other.lpmKey,
      key.Covers (makeLpmKey spec.l4Proto spec.port ip ip.width)) ↔
    ∃ other ∈ listeners, other.key = spec.key ∧ ∃ cidr ∈ cidrs other, cidr.contains ip = true := by
  constructor
  · intro given
    rcases given with ⟨key,member,covers⟩
    obtain ⟨other,listed,mapped⟩ := List.mem_flatMap.mp member
    obtain ⟨cidr,configured,rfl⟩ := List.mem_map.mp mapped
    obtain ⟨keys,inside⟩ := (lpmKey_covers_packet other spec cidr ip).mp covers
    exact ⟨other,listed,keys,cidr,configured,inside⟩
  · intro given
    rcases given with ⟨other,listed,keys,cidr,configured,inside⟩
    refine ⟨other.lpmKey cidr,List.mem_flatMap.mpr ⟨other,listed,List.mem_map_of_mem configured⟩,?_⟩
    exact (lpmKey_covers_packet other spec cidr ip).mpr ⟨keys,inside⟩

theorem lpmKeys_cover (spec : XdpListenerSpec) (ip : IpAddr) (map : LpmMap) :
    (∃ key ∈ lpmKeys listeners geo threat map, key.Covers (spec.packetKey ip map)) ↔ Meant listeners geo threat spec ip map := by
  cases map with
  | allowCidrs => exact cidrKeys_cover spec ip fun other => other.policy.allowCidrs
  | trustedCidrs => exact cidrKeys_cover spec ip fun other => other.policy.trustedCidrs
  | denyCidrs =>
      apply (cidrKeys_cover spec ip fun other => other.policy.cidrs threat .denyCidrs).trans
      simp only [Meant,XdpListenerPolicySpec.cidrs,List.mem_append,List.mem_ite_nil_right,or_and_right,exists_or,and_assoc,
        exists_and_left]
  | geoCidrs =>
      simp only [lpmKeys,XdpListenerSpec.packetKey,Meant,List.mem_ite_nil_right,List.mem_map]
      constructor
      · intro given
        rcases given with ⟨key,⟨enabled,located,listed,rfl⟩,covers⟩
        exact ⟨enabled,located,listed,(geoKey_covers_packet located ip).mp covers⟩
      · intro given
        rcases given with ⟨enabled,located,listed,inside⟩
        exact ⟨_,⟨enabled,located,listed,rfl⟩,(geoKey_covers_packet located ip).mpr inside⟩

end Matching

section Runs

-- A process and its calls, with what the failed ones have done since the last
-- successful one and what that one was fed with.
structure Progress where
  backend : AyaXdpBackend
  unsettled : List MapOp
  settled : Option (List Hashed)

def Progress.fresh (listeners : List XdpListenerSpec) : Progress := ⟨⟨listeners,.empty,.default,none⟩,[],none⟩

def Progress.feed (s : Progress) (call : SyncCall) : List Hashed := planFeed s.backend.listeners call.geo call.threat

def Progress.next (s : Progress) (call : SyncCall) : XdpStaticKeys :=
  buildXdpStaticKeys s.backend.listeners call.geo call.threat

def Progress.sync (hasher : List Hashed → BitVec 64) (s : Progress) (call : SyncCall) : Synced :=
  s.backend.syncStaticPolicyPrefixes hasher call

def Progress.advance (hasher : List Hashed → BitVec 64) (s : Progress) (call : SyncCall) : Option Progress :=
  let synced := s.sync hasher call
  some (if synced.ok then ⟨synced.backend,[],some (s.feed call)⟩
    else ⟨synced.backend,s.unsettled ++ synced.taken,s.settled⟩)

-- What the trie makes of raw keys.
def nodes (keys : List (BitVec 192)) : List (Nat × Nat) := keys.map fun raw => (decodeLpmKeyBytes raw).node

-- A call that finds its fingerprint unchanged writes nothing: the fingerprint
-- must not be that of another feed, and no failed call may have left its marks.
def Unspoiled (s : Progress) (call : SyncCall) : Prop :=
  s.settled = some (s.feed call) ∧ (∀ op ∈ s.unsettled, op.isRemoval = false) ∧
    ∀ map, ∀ key ∈ s.unsettled.filterMap (MapOp.inserted map), key.node ∈ nodes (s.backend.keys.lpm map)

-- Any other call must find in its plan, or among the keys it knows, whatever the
-- failed calls inserted, and no stale key may be one with a planned key for the trie.
def Separable (s : Progress) (call : SyncCall) : Prop :=
  (∀ map, ∀ key ∈ s.unsettled.filterMap (MapOp.inserted map),
    key.node ∈ nodes (s.backend.keys.lpm map) ∨ key.node ∈ nodes ((s.next call).lpm map)) ∧
    ∀ map, ∀ node ∈ nodes (difference (s.backend.keys.lpm map) ((s.next call).lpm map)), node ∉ nodes ((s.next call).lpm map)

def Orderly (hasher : List Hashed → BitVec 64) (s : Progress) (call : SyncCall) : Prop :=
  (s.sync hasher call).ok = true →
    (s.backend.fingerprint = some (hasher (s.feed call)) → Unspoiled s call) ∧
    (s.backend.fingerprint ≠ some (hasher (s.feed call)) → Separable s call)

instance (s : Progress) (call : SyncCall) : Decidable (Unspoiled s call) :=
  inferInstanceAs (Decidable (s.settled = some (s.feed call) ∧ (∀ op ∈ s.unsettled, op.isRemoval = false) ∧
    ∀ map, ∀ key ∈ s.unsettled.filterMap (MapOp.inserted map), key.node ∈ nodes (s.backend.keys.lpm map)))

instance (s : Progress) (call : SyncCall) : Decidable (Separable s call) :=
  inferInstanceAs (Decidable ((∀ map, ∀ key ∈ s.unsettled.filterMap (MapOp.inserted map),
    key.node ∈ nodes (s.backend.keys.lpm map) ∨ key.node ∈ nodes ((s.next call).lpm map)) ∧
    ∀ map, ∀ node ∈ nodes (difference (s.backend.keys.lpm map) ((s.next call).lpm map)), node ∉ nodes ((s.next call).lpm map)))

instance (hasher : List Hashed → BitVec 64) (s : Progress) (call : SyncCall) : Decidable (Orderly hasher s call) :=
  inferInstanceAs (Decidable ((s.sync hasher call).ok = true →
    (s.backend.fingerprint = some (hasher (s.feed call)) → Unspoiled s call) ∧
    (s.backend.fingerprint ≠ some (hasher (s.feed call)) → Separable s call)))

-- The maps hold nothing but what the process knows of or what failed calls left;
-- they hold all it knows of unless a failed call removed something.
structure Tracked (hasher : List Hashed → BitVec 64) (listeners : List XdpListenerSpec) (s : Progress) : Prop where
  same : s.backend.listeners = listeners
  known : ∀ map node, ((s.backend.maps.lpm map).lookup node).isSome = true →
    node ∈ nodes (s.backend.keys.lpm map) ∨ ∃ key ∈ s.unsettled.filterMap (MapOp.inserted map), key.node = node
  whole : (∀ op ∈ s.unsettled, op.isRemoval = false) → ∀ map node, node ∈ nodes (s.backend.keys.lpm map) →
    ((s.backend.maps.lpm map).lookup node).isSome = true
  fed : ∀ feed, s.settled = some feed → ∃ geo threat, feed = planFeed listeners geo threat ∧
    s.backend.keys = buildXdpStaticKeys listeners geo threat

-- The nodes in the maps are those of the plan.
def Faithful (backend : AyaXdpBackend) (call : SyncCall) : Prop :=
  ∀ map node, ((backend.maps.lpm map).lookup node).isSome = true ↔
    ∃ key ∈ lpmKeys backend.listeners call.geo call.threat map, key.node = node

theorem mem_nodes_planned (node : Nat × Nat) (map : LpmMap) : node ∈ nodes ((buildXdpStaticKeys listeners geo threat).lpm map) ↔
    ∃ key ∈ lpmKeys listeners geo threat map, key.node = node := by
  simp [nodes,buildXdpStaticKeys]

theorem fresh_tracked (hasher : List Hashed → BitVec 64) (listeners : List XdpListenerSpec) :
    Tracked hasher listeners (.fresh listeners) where
  same := rfl
  known map node present := by cases present
  whole _ map node tracked := by cases tracked
  fed feed settled := by cases settled

theorem skipped_keys (tracked : Tracked hasher listeners s) (settled : s.settled = some (s.feed call)) (map : LpmMap) :
    s.backend.keys.lpm map = (buildXdpStaticKeys s.backend.listeners call.geo call.threat).lpm map := by
  obtain ⟨geo,threat,feed,keys⟩ := tracked.fed _ settled
  rw [keys]
  exact planFeed_keys feed.symm map

theorem skipped_faithful (tracked : Tracked hasher listeners s) (unspoiled : Unspoiled s call) : Faithful s.backend call := by
  obtain ⟨settled,kept,inserted⟩ := unspoiled
  intro map node
  rw [← mem_nodes_planned,← skipped_keys tracked settled]
  constructor
  · intro present
    rcases tracked.known map node present with known | ⟨key,listed,rfl⟩
    · exact known
    · exact inserted map key listed
  · exact tracked.whole kept map node

theorem done_faithful (tracked : Tracked hasher listeners s) (separable : Separable s call)
    (ran : Machine.run XdpMaps.perform s.backend.maps (s.backend.syncOps call.geo call.threat) = some maps)
    (map : LpmMap) (node : Nat × Nat) : ((maps.lpm map).lookup node).isSome = true ↔
      ∃ key ∈ lpmKeys s.backend.listeners call.geo call.threat map, key.node = node := by
  obtain ⟨inserted,apart⟩ := separable
  rw [syncOps_present ran,← mem_nodes_planned]
  constructor
  · intro both
    rcases both with ⟨present | planned,fresh⟩
    · have known : node ∈ nodes (s.backend.keys.lpm map) ∨
          node ∈ nodes ((buildXdpStaticKeys s.backend.listeners call.geo call.threat).lpm map) := by
        rcases tracked.known map node present with known | ⟨key,listed,rfl⟩
        · exact .inl known
        · exact inserted map key listed
      rcases known with known | planned
      · obtain ⟨raw,listed,rfl⟩ := List.mem_map.mp known
        by_cases stays : raw ∈ (buildXdpStaticKeys s.backend.listeners call.geo call.threat).lpm map
        · exact List.mem_map_of_mem stays
        · exact absurd rfl (fresh raw (List.mem_filter.mpr ⟨listed,decide_eq_true stays⟩))
      · exact planned
    · exact planned
  · intro planned
    exact ⟨.inr planned,fun raw stale same => apart map node (List.mem_map.mpr ⟨raw,stale,same⟩) planned⟩

theorem sync_faithful (tracked : Tracked hasher listeners s) (orderly : Orderly hasher s call)
    (succeeded : (s.sync hasher call).ok = true) : Faithful (s.sync hasher call).backend call := by
  obtain ⟨unchanged,changed⟩ := orderly succeeded
  have result := sync_result hasher s.backend call
  unfold Progress.sync at succeeded ⊢
  generalize s.backend.syncStaticPolicyPrefixes hasher call = synced at succeeded result ⊢
  cases result with
  | skipped same => exact skipped_faithful tracked (unchanged same)
  | done other ran => exact done_faithful tracked (changed other) ran
  | broken ran => cases succeeded

theorem sync_listeners (hasher : List Hashed → BitVec 64) (backend : AyaXdpBackend) (call : SyncCall) :
    (backend.syncStaticPolicyPrefixes hasher call).backend.listeners = backend.listeners := by
  have result := sync_result hasher backend call
  generalize backend.syncStaticPolicyPrefixes hasher call = synced at result ⊢
  cases result <;> rfl

theorem faithful_tracked {backend : AyaXdpBackend} (faithful : Faithful backend call) (same : backend.listeners = listeners)
    (keys : ∀ map, backend.keys.lpm map = (buildXdpStaticKeys backend.listeners call.geo call.threat).lpm map)
    (fed : ∃ geo threat, planFeed backend.listeners call.geo call.threat = planFeed listeners geo threat ∧
      backend.keys = buildXdpStaticKeys listeners geo threat) :
    Tracked hasher listeners ⟨backend,[],some (planFeed backend.listeners call.geo call.threat)⟩ where
  same := same
  known map node present := by
    rw [keys map,mem_nodes_planned]
    exact .inl ((faithful map node).mp present)
  whole _ map node tracked := by
    rw [keys map,mem_nodes_planned] at tracked
    exact (faithful map node).mpr tracked
  fed feed settled := by cases settled; exact fed

theorem broken_tracked (tracked : Tracked hasher listeners s) (ran : Machine.run XdpMaps.perform s.backend.maps taken = some maps) :
    Tracked hasher listeners ⟨{s.backend with maps:=maps},s.unsettled ++ taken,s.settled⟩ where
  same := tracked.same
  known map node present := by
    rw [List.filterMap_append]
    rcases run_adds ran present with before | ⟨op,listed,key,inserted,rfl⟩
    · apply (tracked.known map node before).imp_right
      intro given
      rcases given with ⟨key,listed,rfl⟩
      exact ⟨key,List.mem_append_left _ listed,rfl⟩
    · exact .inr ⟨key,List.mem_append_right _ (List.mem_filterMap.mpr ⟨op,listed,inserted⟩),rfl⟩
  whole kept map node known := by
    have kept := List.forall_mem_append.mp kept
    exact (run_inserts kept.2 ran).mpr (.inl (tracked.whole kept.1 map node known))
  fed := tracked.fed

theorem advance_tracked (orderly : Orderly hasher s call) (tracked : Tracked hasher listeners s)
    (stepped : s.advance hasher call = some next) : Tracked hasher listeners next := by
  have faithful := sync_faithful tracked orderly
  have result := sync_result hasher s.backend call
  unfold Progress.advance Progress.sync Progress.feed at stepped
  unfold Orderly at orderly
  unfold Progress.sync at faithful orderly
  generalize s.backend.syncStaticPolicyPrefixes hasher call = synced at stepped result faithful orderly
  cases result with
  | skipped same =>
      cases stepped
      obtain ⟨settled,_⟩ := (orderly rfl).1 same
      exact faithful_tracked (faithful rfl) tracked.same (skipped_keys tracked settled) (tracked.fed _ settled)
  | done changed ran =>
      cases stepped
      refine faithful_tracked (faithful rfl) tracked.same (fun _ => rfl) ⟨call.geo,call.threat,?_,?_⟩
      · rw [tracked.same]
      · rw [tracked.same]
  | broken ran =>
      cases stepped
      exact broken_tracked tracked ran

theorem faithful_matched {backend : AyaXdpBackend} (faithful : Faithful backend call) (map : LpmMap) (spec : XdpListenerSpec)
    (ip : IpAddr) : backend.maps.matched map spec ip = true ↔ Meant backend.listeners call.geo call.threat spec ip map :=
  (LpmTrie.match?_isSome (faithful map) _).trans (lpmKeys_cover spec ip map)

section Fixed

def noLimit : RateLimit := ⟨0,0⟩

def deniedListener (denied : Cidr) : XdpListenerSpec where
  listenerKey := "udp/0.0.0.0:5060"
  l4Proto := xdpProtoUdp
  port := 5060
  policy :=
    {flags:=0,ipRate:=noLimit,udpFlood:=noLimit,tcpFlood:=noLimit,tcpSynFlood:=noLimit,tcpAckFlood:=noLimit,icmpFlood:=noLimit,
     geoAllow:=Vector.replicate 11 0,geoDeny:=Vector.replicate 11 0,trustedCidrs:=[],allowCidrs:=[],denyCidrs:=[denied],
     threatIntel:=true}

def tenNet : Cidr := ⟨.v4 0x0A000000,8,by decide⟩
def tenNetOfHost : Cidr := ⟨.v4 0x0A010203,8,by decide⟩
theorem docNet_bounded : 24 ≤ 32 := by decide
def docNet : Cidr := ⟨.v4 0xC0000200,24,docNet_bounded⟩

def tally (feed : List Hashed) : BitVec 64 := BitVec.ofNat 64 feed.length

end Fixed

end Runs

end Sigproxy.Xdp
