import Sigproxy.Xdp.StaticFilter

namespace Sigproxy.Xdp
open Library Net Security Proxy

section Agreement
variable {parseIp : String → Except String IpAddr} {parseSocketAddr : String → Option SocketAddr}

-- A configuration that has been accepted, with what the two filters are made of.
structure Deployment (parseIp : String → Except String IpAddr) (parseSocketAddr : String → Option SocketAddr) where
  configured : List ConcreteListener
  distinct : (configured.map fun entry => Security.listenerKey entry.listener).Nodup
  geo : GeoSnapshot
  produced : Produced parseIp geo
  threat : ThreatSnapshot
  built : ∃ now prefixes, threat = buildSnapshot now prefixes
  runtime : SecurityRuntime
  secured : securityListeners parseIp configured = .ok runtime.listeners
  geoLoaded : runtime.geo = geoRuntime configured geo
  threatLoaded : runtime.threat = threatRuntime configured threat
  listeners : List XdpListenerSpec
  specified : xdpListeners parseIp parseSocketAddr configured = .ok listeners
  prefixes : List GeoIpPrefix
  located : geoPrefixes runtime.geo = some prefixes
  maps : XdpMaps
  attached : ∃ hasher host sizing result, AyaXdpBackend.attach hasher host .none listeners prefixes (threatPrefixes runtime.threat) sizing =
    .ok result ∧ result.backend.maps = maps

-- One of its listeners that leaves the whole static policy to the program too.
structure Offloaded (d : Deployment parseIp parseSocketAddr) where
  entry : ConcreteListener
  member : entry ∈ d.configured
  enabled : entry.security.xdp.enabled = true
  cidrFilter : entry.security.xdp.cidrFilter = true
  geoFilter : entry.security.xdp.geoFilter = true
  threatIntel : entry.security.xdp.threatIntel = true
  security : ListenerSecurityRuntime
  parsed : ListenerSecurityRuntime.new parseIp entry.security = .ok security

-- The listeners that share the program's keys with a listener turn a source away
-- together: any of them denies, the last one says whether there is an allow list
-- and which countries count, and any of them may allow or trust.
inductive Barred (runtime : SecurityRuntime) (peers : List ListenerSecurityRuntime) (ip : IpAddr) : Prop
  | denied (peer : ListenerSecurityRuntime) (member : peer ∈ peers) (filters : peer.config.xdp.cidrFilter = true)
    (listed : peer.isDenied ip = true)
  | threatening (peer : ListenerSecurityRuntime) (member : peer ∈ peers) (filters : peer.config.xdp.threatIntel = true)
    (listed : ∃ reason, evaluateThreatPolicy peer.threatPolicy runtime.threat ip = .drop reason)
  | outside (peer : ListenerSecurityRuntime) (last : peers.getLast? = some peer) (filters : peer.config.xdp.cidrFilter = true)
    (limited : peer.allowCidrs ≠ [])
    (missing : ∀ other ∈ peers, other.config.xdp.cidrFilter = true → other.allowCidrs.any (·.contains ip) = false)
  | abroad (peer : ListenerSecurityRuntime) (last : peers.getLast? = some peer) (filters : peer.config.xdp.geoFilter = true)
    (untrusted : ∀ other ∈ peers, other.config.xdp.cidrFilter = true → other.isTrusted ip = false)
    (refused : ∃ reason, evaluateGeoPolicy peer.geoPolicy runtime.geo ip = .drop reason)

theorem new_ok (parsed : ListenerSecurityRuntime.new parseIp config = .ok security) :
    security.config = config ∧ security.geoPolicy = .fromConfig config.geo ∧ security.threatPolicy = .fromConfig config.threatIntel := by
  obtain ⟨_,_,parsed⟩ := bind_ok.mp parsed
  obtain ⟨_,_,parsed⟩ := bind_ok.mp parsed
  obtain ⟨_,_,parsed⟩ := bind_ok.mp parsed
  cases parsed
  exact ⟨rfl,rfl,rfl⟩

theorem mem_peersOf : peer ∈ peersOf parseIp parseSocketAddr configured listener ↔ ∃ entry ∈ configured,
    shares parseSocketAddr entry.listener listener = true ∧ entry.security.xdp.enabled = true ∧
    ListenerSecurityRuntime.new parseIp entry.security = .ok peer := by
  simp [peersOf,toOption_ok,and_assoc]

theorem secured_keeps {configured : List ConcreteListener} (secured : configured.foldlM (secureListener parseIp) table = .ok listeners)
    (fresh : key ∉ configured.map fun entry => Security.listenerKey entry.listener) : listeners.lookup key = table.lookup key := by
  induction configured generalizing table with
  | nil => cases secured; rfl
  | cons entry rest ih =>
      obtain ⟨next,first,later⟩ := bind_ok.mp secured
      obtain ⟨security,_,inserted⟩ := bind_ok.mp first
      cases inserted
      obtain ⟨other,absent⟩ := not_or.mp (mt List.mem_cons.mpr fresh)
      rw [ih later absent,Table.lookup_insert_eq,if_neg other]

theorem secured_finds {configured : List ConcreteListener} (secured : configured.foldlM (secureListener parseIp) table = .ok listeners)
    (distinct : (configured.map fun entry => Security.listenerKey entry.listener).Nodup) (member : entry ∈ configured) :
    ∃ security, ListenerSecurityRuntime.new parseIp entry.security = .ok security ∧
      listeners.lookup (Security.listenerKey entry.listener) = some security := by
  induction configured generalizing table with
  | nil => cases member
  | cons first rest ih =>
      obtain ⟨next,added,later⟩ := bind_ok.mp secured
      obtain ⟨fresh,distinct⟩ := List.nodup_cons.mp distinct
      rcases List.mem_cons.mp member with rfl | member
      · obtain ⟨security,parsed,inserted⟩ := bind_ok.mp added
        cases inserted
        exact ⟨security,parsed,by rw [secured_keeps later fresh,Table.lookup_insert_eq,if_pos rfl]⟩
      · exact ih later distinct member

section Deployed
variable (d : Deployment parseIp parseSocketAddr)

theorem Deployment.found (member : entry ∈ d.configured) (parsed : ListenerSecurityRuntime.new parseIp entry.security = .ok security) :
    d.runtime.listenerByKey (Security.listenerKey entry.listener) = some security := by
  obtain ⟨other,read,found⟩ := secured_finds d.secured d.distinct member
  cases parsed.symm.trans read
  exact found

theorem Deployment.parses (member : entry ∈ d.configured) : ∃ security, ListenerSecurityRuntime.new parseIp entry.security = .ok security := by
  obtain ⟨security,read,_⟩ := secured_finds d.secured d.distinct member
  exact ⟨security,read⟩

theorem Deployment.written : Machine.run XdpMaps.perform .empty (staticInserts d.listeners d.prefixes (threatPrefixes d.runtime.threat)) =
    some d.maps := by
  obtain ⟨hasher,host,sizing,result,attached,same⟩ := d.attached
  exact same ▸ attach_fresh attached

theorem Deployment.geo_some (member : entry ∈ d.configured) (enabled : entry.security.geo.enabled = true) : d.runtime.geo = some d.geo := by
  rw [d.geoLoaded,geoRuntime,if_pos (List.any_eq_true.mpr ⟨entry,member,enabled⟩)]

theorem Deployment.threat_some (member : entry ∈ d.configured) (enabled : entry.security.threatIntel.enabled = true) :
    d.runtime.threat = some d.threat := by
  rw [d.threatLoaded,threatRuntime,if_pos (List.any_eq_true.mpr ⟨entry,member,enabled⟩)]

theorem Deployment.threat_contains (ip : IpAddr) :
    d.threat.contains ip = true ↔ ∃ cidr ∈ d.threat.xdpPrefixes, cidr.contains ip = true := by
  obtain ⟨now,prefixes,built⟩ := d.built
  rw [built,snapshot_contains,ThreatSnapshot.xdpPrefixes,prefixes_contain]

-- The threat prefixes that are written for a listener hold what its policy looks up.
theorem Deployment.threat_drops (member : entry ∈ d.configured) (parsed : ListenerSecurityRuntime.new parseIp entry.security = .ok security)
    (ip : IpAddr) : (∃ reason, evaluateThreatPolicy security.threatPolicy d.runtime.threat ip = .drop reason) ↔
      security.config.threatIntel.enabled = true ∧ ∃ cidr ∈ threatPrefixes d.runtime.threat, cidr.contains ip = true := by
  obtain ⟨config,_,policy⟩ := new_ok parsed
  rw [policy,config]
  unfold evaluateThreatPolicy ThreatPolicy.fromConfig
  cases enabled : entry.security.threatIntel.enabled with
  | false => simp
  | true =>
      rw [d.threat_some member enabled,threatPrefixes,← d.threat_contains]
      cases listed : d.threat.contains ip <;> simp [listed]

end Deployed

section Deployed
variable (d : Deployment parseIp parseSocketAddr)

theorem Offloaded.specified (own : Offloaded d) : ∃ spec ∈ d.listeners,
    Specified parseIp parseSocketAddr own.entry.listener own.entry.security spec := by
  obtain ⟨specs,mapped,made⟩ := bind_ok.mp d.specified
  have offloaded : own.entry ∈ d.configured.filter fun entry => entry.security.xdp.enabled := List.mem_filter.mpr ⟨own.member,own.enabled⟩
  obtain ⟨spec,listed,specified⟩ := forall₂_mem (mapM_ok.mp mapped) offloaded
  refine ⟨spec,?_,fromListener_specified specified⟩
  rw [← Except.ok.inj made]
  exact List.mem_append_left _ listed

-- A packet for the listener, as the program sees it.
structure Headed (parseSocketAddr : String → Option SocketAddr) (listener : ProxyListenerConfig) (packet : XdpPacket) : Prop where
  proto : l4ProtoOf listener.transport = .ok packet.l4Proto
  port : (parseSocketAddr listener.bind).map (·.port) = some packet.dport

section Peers
variable {d} {own : Offloaded d} {spec : XdpListenerSpec}
  (read : List.Forall₂ (fun spec runtime => Reads spec.policy runtime) (d.listeners.filter fun other => decide (other.key = spec.key)) peers)
include read

theorem sharing_iff {holds : XdpListenerSpec → Prop} {holds' : ListenerSecurityRuntime → Prop}
    (same : ∀ spec peer, Reads spec.policy peer → (holds spec ↔ holds' peer)) :
    (∃ other ∈ d.listeners, other.key = spec.key ∧ holds other) ↔ ∃ peer ∈ peers, holds' peer := by
  rw [← forall₂_exists read same]
  simp [and_assoc]

theorem trusted_matched (ip : IpAddr) : d.maps.matched .trustedCidrs spec ip = true ↔
    ∃ peer ∈ peers, peer.config.xdp.cidrFilter = true ∧ peer.isTrusted ip = true := by
  refine (written_matched d.written _ spec ip).trans (sharing_iff read fun spec peer reads => ?_)
  rw [reads.trusted]
  cases peer.config.xdp.cidrFilter <;> simp [ListenerSecurityRuntime.isTrusted]

theorem allow_matched (ip : IpAddr) : d.maps.matched .allowCidrs spec ip = true ↔
    ∃ peer ∈ peers, peer.config.xdp.cidrFilter = true ∧ peer.allowCidrs.any (·.contains ip) = true := by
  refine (written_matched d.written _ spec ip).trans (sharing_iff read fun spec peer reads => ?_)
  rw [reads.allow]
  cases peer.config.xdp.cidrFilter <;> simp

theorem deny_matched (ip : IpAddr) : d.maps.matched .denyCidrs spec ip = true ↔
    ∃ peer ∈ peers, peer.config.xdp.cidrFilter = true ∧ peer.isDenied ip = true ∨ (peer.config.xdp.threatIntel = true ∧
      peer.config.threatIntel.enabled = true ∧ ∃ cidr ∈ threatPrefixes d.runtime.threat, cidr.contains ip = true) := by
  refine (written_matched d.written _ spec ip).trans (sharing_iff read fun spec peer reads => ?_)
  rw [reads.deny,reads.threat]
  cases peer.config.xdp.cidrFilter <;> simp [ListenerSecurityRuntime.isDenied,and_assoc]

end Peers

theorem Deployment.geo_match (member : entry ∈ d.configured) (enabled : entry.security.geo.enabled = true)
    (wanted : xdpGeoEnabled d.listeners = true) (ip : IpAddr) :
    (d.maps.lpm .geoCidrs).match? (makeGeoLpmKey ip ip.width) = d.geo.lookupCountry ip := by
  have valid := d.produced.valid
  obtain ⟨prefixes,split,tiled⟩ := valid.tiled
  have located := d.located
  rw [d.geo_some member enabled,geoPrefixes,split] at located
  rw [written_geo d.written wanted,← Option.some.inj located]
  exact tiled.trie_match valid ip

theorem Deployment.abroad_iff {kernel : XdpKernel} (loaded : kernel.maps = d.maps) (listed : spec ∈ d.listeners) (reads : Reads spec.policy peer)
    (member : entry ∈ d.configured) (parsed : ListenerSecurityRuntime.new parseIp entry.security = .ok peer) (ip : IpAddr) :
    kernel.Abroad (encodeListenerPolicy spec.policy) ip ↔ peer.config.xdp.geoFilter = true ∧
      ∃ reason, evaluateGeoPolicy peer.geoPolicy d.runtime.geo ip = .drop reason := by
  obtain ⟨config,policy,_⟩ := new_ok parsed
  have wanted (flagged : spec.policy.flags &&& xdpPolicyGeoEnabled ≠ 0) : kernel.Abroad (encodeListenerPolicy spec.policy) ip ↔
      ∃ reason, evaluateGeoPolicy peer.geoPolicy d.runtime.geo ip = .drop reason := by
    have enabled := (reads.located.mp flagged).2
    rw [config] at enabled
    have matched := d.geo_match member enabled (List.any_eq_true.mpr ⟨spec,listed,by simpa using flagged⟩) ip
    rw [d.geo_some member enabled,← reads.bars flagged,← matched,XdpKernel.Abroad,loaded]
    exact and_iff_right flagged
  constructor
  · intro abroad
    exact ⟨(reads.located.mp abroad.1).1,(wanted abroad.1).mp abroad⟩
  · intro both
    rcases both with ⟨filters,refused⟩
    have enabled : peer.config.geo.enabled = true := by
      by_contra off
      obtain ⟨reason,refused⟩ := refused
      rw [config] at off
      simp [policy,evaluateGeoPolicy,GeoPolicy.fromConfig,off] at refused
    exact (wanted (reads.located.mpr ⟨filters,enabled⟩)).mpr refused

variable {d} {kernel : XdpKernel} {packet : XdpPacket}

def Offloaded.peers (own : Offloaded d) : List ListenerSecurityRuntime := peersOf parseIp parseSocketAddr d.configured own.entry.listener

-- The keys of the packet are those of the listeners that share them, and the
-- policy is the one that was written last.
theorem Offloaded.static_iff (own : Offloaded d) (loaded : kernel.maps = d.maps) (headed : Headed parseSocketAddr own.entry.listener packet) :
    ∃ last, own.peers.getLast? = some last ∧ (StaticDrop kernel packet ↔
      (∃ peer ∈ own.peers, peer.config.xdp.cidrFilter = true ∧ peer.isDenied packet.src = true ∨ (peer.config.xdp.threatIntel = true ∧
        peer.config.threatIntel.enabled = true ∧ ∃ cidr ∈ threatPrefixes d.runtime.threat, cidr.contains packet.src = true)) ∨
      ((last.config.xdp.cidrFilter = true ∧ last.allowCidrs ≠ []) ∧
        ¬ ∃ peer ∈ own.peers, peer.config.xdp.cidrFilter = true ∧ peer.allowCidrs.any (·.contains packet.src) = true) ∨
      (¬ ∃ peer ∈ own.peers, peer.config.xdp.cidrFilter = true ∧ peer.isTrusted packet.src = true) ∧
        kernel.blockedIps.lookup packet.ipKey = none ∧ last.config.xdp.geoFilter = true ∧
          ∃ reason, evaluateGeoPolicy last.geoPolicy d.runtime.geo packet.src = .drop reason) := by
  obtain ⟨spec,listed,specified⟩ := own.specified
  have read := xdpListeners_read specified d.specified fun entry member => d.parses member
  obtain ⟨final,finals⟩ : ∃ final, (d.listeners.filter fun other => decide (other.key = spec.key)).getLast? = some final := by
    exact ⟨_,List.getLast?_eq_some_getLast (List.ne_nil_of_mem (List.mem_filter.mpr ⟨listed,decide_eq_true rfl⟩))⟩
  obtain ⟨last,lasts,reads⟩ := forall₂_getLast read finals
  refine ⟨last,lasts,?_⟩
  obtain ⟨entry,member,_,_,parsed⟩ := mem_peersOf.mp (List.mem_of_getLast? lasts)
  have written : final ∈ d.listeners := List.mem_of_mem_filter (List.mem_of_getLast? finals)
  have proto : spec.l4Proto = packet.l4Proto := Except.ok.inj (specified.proto.symm.trans headed.proto)
  have port : spec.port = packet.dport := Option.some.inj (specified.bound.symm.trans headed.port)
  have found : kernel.maps.listenerPolicies.lookup (makeListenerKey packet.l4Proto packet.dport) = some (encodeListenerPolicy final.policy) := by
    rw [loaded,← proto,← port]
    exact (written_policy d.written spec.key).trans (by rw [finals]; rfl)
  rw [evaluatePacket_static found,d.abroad_iff loaded written reads member parsed,loaded,← proto,← port]
  have guarded : (encodeListenerPolicy final.policy).flags &&& xdpPolicyCidrAllowEnabled ≠ 0 ↔
      last.config.xdp.cidrFilter = true ∧ last.allowCidrs ≠ [] := by
    apply reads.guarded.trans
    rw [reads.allow]
    cases last.config.xdp.cidrFilter <;> simp
  have denies := deny_matched read packet.src
  have allows := allow_matched read packet.src
  have trusts := trusted_matched read packet.src
  rw [← Bool.not_eq_true,← Bool.not_eq_true]
  exact or_congr denies (or_congr (and_congr guarded (not_congr allows)) (and_congr_left' (not_congr trusts)))

theorem Offloaded.static_barred (own : Offloaded d) (loaded : kernel.maps = d.maps)
    (headed : Headed parseSocketAddr own.entry.listener packet) (dropped : StaticDrop kernel packet) :
    Barred d.runtime own.peers packet.src := by
  obtain ⟨last,lasts,static⟩ := own.static_iff loaded headed
  rcases static.mp dropped with ⟨peer,member,⟨filters,listed⟩ | ⟨filters,threat⟩⟩ | ⟨⟨filters,limited⟩,missing⟩ | ⟨untrusted,_,filters,refused⟩
  · exact .denied peer member filters listed
  · obtain ⟨entry,configured,_,_,parsed⟩ := mem_peersOf.mp member
    exact .threatening peer member filters ((d.threat_drops configured parsed packet.src).mpr threat)
  · refine .outside last lasts filters limited fun other member filters => ?_
    by_contra listed
    exact missing ⟨other,member,filters,by simpa using listed⟩
  · refine .abroad last lasts filters (fun other member filters => ?_) refused
    by_contra listed
    exact untrusted ⟨other,member,filters,by simpa using listed⟩

theorem Offloaded.barred_static (own : Offloaded d) (loaded : kernel.maps = d.maps)
    (headed : Headed parseSocketAddr own.entry.listener packet) (unblocked : kernel.blockedIps.lookup packet.ipKey = none)
    (barred : Barred d.runtime own.peers packet.src) : StaticDrop kernel packet := by
  obtain ⟨last,lasts,static⟩ := own.static_iff loaded headed
  apply static.mpr
  cases barred with
  | denied peer member filters listed => exact .inl ⟨peer,member,.inl ⟨filters,listed⟩⟩
  | threatening peer member filters listed =>
      obtain ⟨entry,configured,_,_,parsed⟩ := mem_peersOf.mp member
      exact .inl ⟨peer,member,.inr ⟨filters,(d.threat_drops configured parsed packet.src).mp listed⟩⟩
  | outside peer final filters limited missing =>
      cases lasts.symm.trans final
      refine .inr (.inl ⟨⟨filters,limited⟩,fun ⟨other,member,filters,listed⟩ => ?_⟩)
      rw [missing other member filters] at listed
      cases listed
  | abroad peer final filters untrusted refused =>
      cases lasts.symm.trans final
      refine .inr (.inr ⟨fun ⟨other,member,filters,listed⟩ => ?_,unblocked,filters,refused⟩)
      rw [untrusted other member filters] at listed
      cases listed

-- The program turns away a source that the listener itself would let in.
def Offloaded.Stricter (own : Offloaded d) (ip : IpAddr) : Prop := Admitted d.runtime own.security ip ∧ Barred d.runtime own.peers ip

-- No other listener with the program's keys.
def Offloaded.Alone (own : Offloaded d) : Prop := own.peers = [own.security]

theorem decision_allow {decision : SecurityDecision} : decision = .allow ↔ ¬ ∃ reason, decision = .drop reason := by
  cases decision <;> simp

theorem Offloaded.barred_alone (own : Offloaded d) (alone : own.Alone) (ip : IpAddr) : Barred d.runtime own.peers ip ↔
    own.security.isDenied ip = true ∨ (∃ reason, evaluateThreatPolicy own.security.threatPolicy d.runtime.threat ip = .drop reason) ∨
    own.security.isAllowed ip = false ∨
      own.security.isTrusted ip = false ∧ ∃ reason, evaluateGeoPolicy own.security.geoPolicy d.runtime.geo ip = .drop reason := by
  obtain ⟨config,_,_⟩ := new_ok own.parsed
  have cidrFilter : own.security.config.xdp.cidrFilter = true := config ▸ own.cidrFilter
  have geoFilter : own.security.config.xdp.geoFilter = true := config ▸ own.geoFilter
  have threatIntel : own.security.config.xdp.threatIntel = true := config ▸ own.threatIntel
  have excluded : own.security.isAllowed ip = false ↔
      own.security.allowCidrs ≠ [] ∧ own.security.allowCidrs.any (·.contains ip) = false := by
    rw [ListenerSecurityRuntime.isAllowed,Bool.or_eq_false_iff]
    simp
  rw [alone,excluded]
  constructor
  · intro barred
    cases barred with
    | denied peer member filters listed => cases List.mem_singleton.mp member; exact .inl listed
    | threatening peer member filters listed => cases List.mem_singleton.mp member; exact .inr (.inl listed)
    | outside peer last filters limited missing =>
        cases last
        exact .inr (.inr (.inl ⟨limited,missing _ (List.mem_singleton_self _) cidrFilter⟩))
    | abroad peer last filters untrusted refused =>
        cases last
        exact .inr (.inr (.inr ⟨untrusted _ (List.mem_singleton_self _) cidrFilter,refused⟩))
  · intro either
    rcases either with listed | listed | ⟨limited,missing⟩ | ⟨untrusted,refused⟩
    · exact .denied _ (List.mem_singleton_self _) cidrFilter listed
    · exact .threatening _ (List.mem_singleton_self _) threatIntel listed
    · exact .outside _ rfl cidrFilter limited fun other member _ => List.mem_singleton.mp member ▸ missing
    · exact .abroad _ rfl geoFilter (fun other member _ => List.mem_singleton.mp member ▸ untrusted) refused

-- On its own a listener is stricter in the program in two ways: its networks
-- count there even when none of its protections is on, and the threat feed
-- comes before the trusted networks.
theorem Offloaded.alone_stricter (own : Offloaded d) (alone : own.Alone) (ip : IpAddr) : own.Stricter ip ↔
    own.security.config.enabled = false ∧ (own.security.isDenied ip = true ∨ own.security.isAllowed ip = false) ∨
    own.security.config.enabled = true ∧ own.security.isDenied ip = false ∧ own.security.isAllowed ip = true ∧
      own.security.isTrusted ip = true ∧ own.security.config.threatIntel.enabled = true ∧ d.threat.contains ip = true := by
  obtain ⟨config,geoPolicy,threatPolicy⟩ := new_ok own.parsed
  have threat : (∃ reason, evaluateThreatPolicy own.security.threatPolicy d.runtime.threat ip = .drop reason) ↔
      own.security.config.threatIntel.enabled = true ∧ d.threat.contains ip = true := by
    rw [d.threat_drops own.member own.parsed,d.threat_contains]
    apply and_congr_right
    intro enabled
    rw [config] at enabled
    rw [d.threat_some own.member enabled]
    rfl
  have idle (off : own.security.config.enabled = false) : own.security.config.threatIntel.enabled = false ∧
      ¬ ∃ reason, evaluateGeoPolicy own.security.geoPolicy d.runtime.geo ip = .drop reason := by
    have parts := off
    simp only [EffectiveProxySecurityConfig.enabled,Bool.or_eq_false_iff] at parts
    obtain ⟨⟨⟨⟨⟨⟨⟨_,located⟩,listed⟩,_⟩,_⟩,_⟩,_⟩,_⟩ := parts
    refine ⟨listed,?_⟩
    simp [geoPolicy,evaluateGeoPolicy,GeoPolicy.fromConfig,← config,located]
  unfold Offloaded.Stricter Admitted
  rw [own.barred_alone alone,decision_allow,decision_allow,threat]
  generalize (∃ reason, evaluateGeoPolicy own.security.geoPolicy d.runtime.geo ip = .drop reason) = abroad at idle ⊢
  generalize d.threat.contains ip = listed
  generalize own.security.isDenied ip = denied
  generalize own.security.isAllowed ip = allowed
  generalize own.security.isTrusted ip = trusted
  cases enabled : own.security.config.enabled with
  | false =>
      obtain ⟨off,home⟩ := idle enabled
      simp [off,home]
  | true => cases denied <;> cases allowed <;> cases trusted <;> (simp; try tauto)

theorem static_filter_refines_checkPacket (own : Offloaded d) (loaded : kernel.maps = d.maps)
    (headed : Headed parseSocketAddr own.entry.listener packet) {Packet Bucket : Type} (view : SecurityCodec Packet Bucket) (now : Nat)
    (peer : SocketAddr) (same : peer.ip = packet.src) (payload : Packet) (state : SecurityState Bucket) :
    (¬ own.Stricter packet.src → StaticDrop kernel packet →
      ∃ reason, (d.runtime.checkPacket view now own.entry.listener peer payload state).1 = .drop reason) ∧
    (kernel.blockedIps.lookup packet.ipKey = none →
      (∀ reason ∈ momentaryReasons, (d.runtime.checkPacket view now own.entry.listener peer payload state).1 ≠ .drop reason) →
      ((StaticDrop kernel packet → ∃ reason, (d.runtime.checkPacket view now own.entry.listener peer payload state).1 = .drop reason) ↔
        ¬ own.Stricter packet.src)) ∧
    (own.Alone → (own.Stricter packet.src ↔
      own.security.config.enabled = false ∧ (own.security.isDenied packet.src = true ∨ own.security.isAllowed packet.src = false) ∨
      own.security.config.enabled = true ∧ own.security.isDenied packet.src = false ∧ own.security.isAllowed packet.src = true ∧
        own.security.isTrusted packet.src = true ∧ own.security.config.threatIntel.enabled = true ∧
        d.threat.contains packet.src = true)) := by
  have found := d.found own.member own.parsed
  have refined (lenient : ¬ own.Stricter packet.src) (dropped : StaticDrop kernel packet) :
      ∃ reason, (d.runtime.checkPacket view now own.entry.listener peer payload state).1 = .drop reason := by
    refine checkPacket_refused found (fun admitted => lenient ?_) now payload state
    rw [same] at admitted
    exact ⟨admitted,own.static_barred loaded headed dropped⟩
  refine ⟨refined,fun unblocked unhindered => ⟨fun refines stricter => ?_,refined⟩,fun alone => own.alone_stricter alone packet.src⟩
  obtain ⟨reason,dropped⟩ := refines (own.barred_static loaded headed unblocked stricter.2)
  have admitted := stricter.1
  rw [← same] at admitted
  obtain allowed | ⟨momentary,listed,hindered⟩ := checkPacket_let_in found admitted now payload state
  · rw [allowed] at dropped
    cases dropped
  · exact unhindered momentary listed hindered

end Deployed

end Agreement

section Fixed

def bindAddr (text : String) : Option SocketAddr := if text = "0.0.0.0:5060" then some ⟨.v4 0,5060⟩ else none

-- Peers in 192.168.0.0/16 are trusted, other addresses of one country are not let in.
def partnerSecurity : EffectiveProxySecurityConfig :=
  {EffectiveProxySecurityConfig.defaultSecurity with
    trustedCidrs:=["192.168.0.0/16"],geo:=⟨true,true,.allow,[],["de"]⟩,threatIntel:=⟨true,true⟩,xdp:=⟨true,true,true,true,true⟩}

def partnerListener : ConcreteListener := ⟨⟨"0.0.0.0:5060",.udp,"default"⟩,partnerSecurity⟩

def partnerRuntime : ListenerSecurityRuntime where
  config := partnerSecurity
  geoPolicy := .fromConfig partnerSecurity.geo
  threatPolicy := .fromConfig partnerSecurity.threatIntel
  trustedCidrs := [⟨.v4 0xc0a80000,16,by decide⟩]
  allowCidrs := []
  denyCidrs := []

def partnerSpec : XdpListenerSpec where
  listenerKey := "udp/0.0.0.0:5060"
  l4Proto := xdpProtoUdp
  port := 5060
  policy := {
    flags:=xdpPolicyGeoEnabled ||| xdpPolicyGeoUnknownAllow
    ipRate:=noLimit,udpFlood:=noLimit,tcpFlood:=noLimit,tcpSynFlood:=noLimit,tcpAckFlood:=noLimit,icmpFlood:=noLimit
    geoAllow:=noCountries
    geoDeny:=noCountries.set 1 (1#64 <<< 18)
    trustedCidrs:=[⟨.v4 0xc0a80000,16,by decide⟩]
    allowCidrs:=[]
    denyCidrs:=[]
    threatIntel:=true}

def partnerGeo : GeoSnapshot := ⟨0,[⟨0xc0000000,0xc0ffffff,0x4445⟩,⟨0xc1000000,0xc1ffffff,0x4652⟩],[]⟩

-- The feed lists one of the trusted networks.
def partnerThreat : ThreatSnapshot := buildSnapshot 0 [⟨.v4 0xc0a80100,24,by decide⟩]

def partnerPrefixes : List GeoIpPrefix := [⟨⟨.v4 0xc0000000,8,by decide⟩,0x4445⟩,⟨⟨.v4 0xc1000000,8,by decide⟩,0x4652⟩]

theorem partner_fetched : fetchGeoSnapshot readAddr false 0 (joined neighbours) = .ok partnerGeo := by decide +kernel
theorem partner_parsed : ListenerSecurityRuntime.new readAddr partnerSecurity = .ok partnerRuntime := by decide +kernel
theorem partner_specified : xdpListeners readAddr bindAddr [partnerListener] = .ok [partnerSpec] := by decide +kernel
theorem partner_prefixes : partnerGeo.xdpPrefixes = some partnerPrefixes := by decide +kernel

def partnerAttach : Except String Attached :=
  AyaXdpBackend.attach tally calmHost .none [partnerSpec] partnerPrefixes partnerThreat.xdpPrefixes defaultSizing

theorem partner_attached : ∃ result, partnerAttach = .ok result := by
  have succeeded : partnerAttach.isOk = true := by decide +kernel
  cases attached : partnerAttach with
  | error message => rw [attached] at succeeded; cases succeeded
  | ok result => exact ⟨result,rfl⟩

def partnerMaps : XdpMaps := (partnerAttach.toOption.map fun result => result.backend.maps).getD .empty

def partnerDeployment : Deployment readAddr bindAddr where
  configured := [partnerListener]
  distinct := List.nodup_singleton _
  geo := partnerGeo
  produced := .fetched partner_fetched
  threat := partnerThreat
  built := ⟨_,_,rfl⟩
  runtime := ⟨(∅ : Table String ListenerSecurityRuntime).insert "udp/0.0.0.0:5060" partnerRuntime,some partnerGeo,some partnerThreat⟩
  secured := by
    change (secureListener readAddr ∅ partnerListener >>= pure) = _
    rw [bind_pure,secureListener,show ListenerSecurityRuntime.new readAddr partnerListener.security = _ from partner_parsed]
    rfl
  geoLoaded := rfl
  threatLoaded := rfl
  listeners := [partnerSpec]
  specified := partner_specified
  prefixes := partnerPrefixes
  located := partner_prefixes
  maps := partnerMaps
  attached := by
    obtain ⟨result,attached⟩ := partner_attached
    refine ⟨tally,calmHost,defaultSizing,result,attached,?_⟩
    rw [partnerMaps,attached]
    rfl

def partnerOffloaded : Offloaded partnerDeployment where
  entry := partnerListener
  member := List.mem_singleton_self _
  enabled := rfl
  cidrFilter := rfl
  geoFilter := rfl
  threatIntel := rfl
  security := partnerRuntime
  parsed := partner_parsed

def partnerKernel : XdpKernel := ⟨partnerMaps,∅,∅,0⟩

def partnerPacket (src : IpAddr) : XdpPacket := ⟨xdpProtoUdp,5060,src,.udpFlood⟩

theorem partner_headed (src : IpAddr) : Headed bindAddr partnerListener.listener (partnerPacket src) := ⟨rfl,rfl⟩

theorem partner_alone : partnerOffloaded.Alone := by
  change peersOf readAddr bindAddr [partnerListener] partnerListener.listener = _
  decide +kernel

-- A source that is not trusted is stopped by its country on both sides.
theorem foreign_source_dropped_by_both : StaticDrop partnerKernel (partnerPacket (.v4 0xc0010203)) ∧
    ∀ {Packet Bucket : Type} (view : SecurityCodec Packet Bucket) (now : Nat) (payload : Packet) (state : SecurityState Bucket),
      ∃ reason, (partnerDeployment.runtime.checkPacket view now partnerListener.listener ⟨.v4 0xc0010203,5060⟩ payload state).1 =
        .drop reason := by
  have dropped : StaticDrop partnerKernel (partnerPacket (.v4 0xc0010203)) := ⟨.geoDenyDrop,by decide +kernel,rfl⟩
  refine ⟨dropped,fun view now payload state => ?_⟩
  have loaded : partnerKernel.maps = partnerDeployment.maps := rfl
  obtain ⟨refined,_,alone⟩ := static_filter_refines_checkPacket partnerOffloaded loaded (partner_headed (.v4 0xc0010203)) view now
    ⟨.v4 0xc0010203,5060⟩ rfl payload state
  refine refined (fun stricter => ?_) dropped
  have kinds := (alone partner_alone).mp stricter
  revert kinds
  decide +kernel

-- The trusted source is on the threat feed: the program drops it, user space lets it in.
theorem trusted_source_dropped_by_kernel : partnerRuntime.isTrusted (.v4 0xc0a80101) = true ∧ partnerRuntime.isDenied (.v4 0xc0a80101) = false ∧
    partnerRuntime.isAllowed (.v4 0xc0a80101) = true ∧ StaticDrop partnerKernel (partnerPacket (.v4 0xc0a80101)) ∧
    ∀ {Packet Bucket : Type} (view : SecurityCodec Packet Bucket) (now : Nat) (payload : Packet) (buckets : Table String Bucket),
      (partnerDeployment.runtime.checkPacket view now partnerListener.listener ⟨.v4 0xc0a80101,5060⟩ payload ⟨buckets,∅⟩).1 = .allow := by
  refine ⟨by decide,by decide,by decide,⟨.denyCidrDrop,by decide +kernel,rfl⟩,fun view now payload buckets => ?_⟩
  have found : partnerDeployment.runtime.listenerByKey (Security.listenerKey partnerListener.listener) = some partnerRuntime := by
    decide +kernel
  simp only [SecurityRuntime.checkPacket,found]
  rfl

end Fixed

end Sigproxy.Xdp
