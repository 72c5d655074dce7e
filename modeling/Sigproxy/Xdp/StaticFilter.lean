import Sigproxy.Xdp.Policy

namespace Sigproxy.Xdp
open Library Net Security Proxy

section Sharing
variable (parseIp : String → Except String IpAddr) (parseSocketAddr : String → Option SocketAddr)

-- The program tells listeners apart by transport and port alone.
def shares (listener other : ProxyListenerConfig) : Bool :=
  decide (listener.transport = other.transport ∧ (parseSocketAddr listener.bind).map (·.port) = (parseSocketAddr other.bind).map (·.port))

def peersOf (configured : List ConcreteListener) (listener : ProxyListenerConfig) : List ListenerSecurityRuntime :=
  (configured.filter fun entry => shares parseSocketAddr entry.listener listener && entry.security.xdp.enabled).filterMap
    fun entry => (ListenerSecurityRuntime.new parseIp entry.security).toOption

structure Specified (listener : ProxyListenerConfig) (security : EffectiveProxySecurityConfig) (spec : XdpListenerSpec) : Prop where
  bound : (parseSocketAddr listener.bind).map (·.port) = some spec.port
  proto : l4ProtoOf listener.transport = .ok spec.l4Proto
  policy : XdpListenerPolicySpec.fromSecurity parseIp security = .ok spec.policy

variable {parseIp parseSocketAddr}

theorem fromListener_specified (made : XdpListenerSpec.fromListener parseIp parseSocketAddr listener security = .ok spec) :
    Specified parseIp parseSocketAddr listener security spec := by
  unfold XdpListenerSpec.fromListener at made
  cases bound : parseSocketAddr listener.bind with
  | none => rw [bound] at made; cases made
  | some bind =>
      rw [bound] at made
      obtain ⟨proto,known,made⟩ := bind_ok.mp made
      obtain ⟨policy,stated,made⟩ := bind_ok.mp made
      cases made
      exact ⟨by rw [bound]; rfl,known,stated⟩

theorem l4ProtoOf_inj (first : l4ProtoOf transport = .ok proto) (second : l4ProtoOf transport' = .ok proto') :
    proto = proto' ↔ transport = transport' := by
  cases transport <;> cases transport' <;> cases first <;> cases second <;> decide

theorem l4ProtoOf_icmp (known : l4ProtoOf transport = .ok proto) : proto ≠ xdpProtoIcmp := by
  cases transport <;> cases known <;> decide

theorem specified_key (first : Specified parseIp parseSocketAddr listener security spec)
    (second : Specified parseIp parseSocketAddr listener' security' spec') :
    spec.key = spec'.key ↔ shares parseSocketAddr listener listener' = true := by
  rw [shares,decide_eq_true_eq,first.bound,second.bound,Option.some.injEq,← l4ProtoOf_inj first.proto second.proto,
    XdpListenerSpec.key,XdpListenerSpec.key,makeListenerKey,makeListenerKey,XdpListenerKey.mk.injEq]

theorem specs_read {entries : List ConcreteListener} {specs : List XdpListenerSpec}
    (own : Specified parseIp parseSocketAddr listener security spec)
    (made : List.Forall₂ (fun entry spec => XdpListenerSpec.fromListener parseIp parseSocketAddr entry.listener entry.security = .ok spec)
      entries specs)
    (parsed : ∀ entry ∈ entries, ∃ runtime, ListenerSecurityRuntime.new parseIp entry.security = .ok runtime) :
    List.Forall₂ (fun spec runtime => Reads spec.policy runtime) (specs.filter fun other => decide (other.key = spec.key))
      ((entries.filter fun entry => shares parseSocketAddr entry.listener listener).filterMap
        fun entry => (ListenerSecurityRuntime.new parseIp entry.security).toOption) := by
  induction made with
  | nil => exact .nil
  | @cons entry other _ _ here later ih =>
      obtain ⟨⟨runtime,read⟩,parsed⟩ := List.forall_mem_cons.mp parsed
      have specified := fromListener_specified here
      have same := specified_key specified own
      rw [List.filter_cons,List.filter_cons]
      by_cases shared : shares parseSocketAddr entry.listener listener = true
      · rw [if_pos (decide_eq_true (same.mpr shared)),if_pos shared,List.filterMap_cons,toOption_ok.mpr read]
        exact .cons (fromSecurity_reads specified.policy read) (ih parsed)
      · rw [if_neg (by simpa using mt same.mp shared),if_neg shared]
        exact ih parsed

theorem xdpListeners_read {configured : List ConcreteListener} {listeners : List XdpListenerSpec}
    (own : Specified parseIp parseSocketAddr listener security spec)
    (made : xdpListeners parseIp parseSocketAddr configured = .ok listeners)
    (parsed : ∀ entry ∈ configured, ∃ runtime, ListenerSecurityRuntime.new parseIp entry.security = .ok runtime) :
    List.Forall₂ (fun spec runtime => Reads spec.policy runtime) (listeners.filter fun other => decide (other.key = spec.key))
      (peersOf parseIp parseSocketAddr configured listener) := by
  obtain ⟨specs,mapped,made⟩ := bind_ok.mp made
  obtain rfl := Except.ok.inj made
  have read := specs_read own (mapM_ok.mp mapped) fun entry listed => parsed entry (List.mem_of_mem_filter listed)
  rw [List.filter_filter] at read
  have icmp : (((configured.filter fun entry => entry.security.xdp.enabled).foldl mergeIcmp none).map fun policy =>
      XdpListenerSpec.mk "icmp/*:0" xdpProtoIcmp 0 policy).toList.filter (fun other => decide (other.key = spec.key)) = [] := by
    apply List.filter_eq_nil_iff.mpr
    intro other listed same
    obtain ⟨policy,_,rfl⟩ := Option.map_eq_some_iff.mp (Option.mem_toList.mp listed)
    have protos := congrArg XdpListenerKey.l4Proto (of_decide_eq_true same)
    exact l4ProtoOf_icmp own.proto protos.symm
  rw [List.filter_append,icmp,List.append_nil]
  exact read
end Sharing

section Maps

-- A process that finds no pinned maps writes the whole plan to empty ones.
theorem attach_fresh {host : Host} (attached : AyaXdpBackend.attach hasher host .none listeners geo threat sizing = .ok result) :
    Machine.run XdpMaps.perform .empty (staticInserts listeners geo threat) = some result.backend.maps := by
  obtain ⟨capacities,sized⟩ : ∃ capacities, computeXdpMapCapacities listeners geo threat sizing = .ok capacities := by
    obtain ⟨_,_,rest⟩ := bind_ok.mp attached
    obtain ⟨_,_,rest⟩ := bind_ok.mp rest
    obtain ⟨capacities,sized,_⟩ := bind_ok.mp rest
    exact ⟨capacities,sized⟩
  obtain ⟨denied,located,deniedReady,locatedReady,ran⟩ := attach_ok attached sized
  have noDenied : denied = none := (Except.ok.inj deniedReady).symm
  have noLocated : located = none := (Except.ok.inj locatedReady).symm
  have fresh : ((Pins.none.prepared denied located).reopened capacities listeners).maps = .empty := by
    have opened (map : LpmMap) : ((Pins.none.prepared denied located).opened capacities map).content = ∅ := by
      rw [noDenied,noLocated]
      cases map <;> rfl
    exact congrArg (XdpMaps.mk ∅) (funext opened)
  have unstale : ((Pins.none.prepared denied located).reopened capacities listeners).syncOps geo threat =
      staticInserts listeners geo threat := List.append_nil _
  rwa [fresh,unstale] at ran

variable {listeners : List XdpListenerSpec} {geo : List GeoIpPrefix} {threat : List ThreatIpPrefix}

theorem written_policy (ran : Machine.run XdpMaps.perform .empty (staticInserts listeners geo threat) = some maps) (key : XdpListenerKey) :
    maps.listenerPolicies.lookup key =
      (listeners.filter fun spec => decide (spec.key = key)).getLast?.map fun spec => encodeListenerPolicy spec.policy := by
  rw [run_policies ran,staticInserts_policies,Table.lookup_replay]
  clear ran
  induction listeners using List.reverseRecOn with
  | nil => rfl
  | append_singleton rest last ih =>
      rw [List.map_append,List.map_singleton,Table.lastWrite_snoc,List.filter_append,List.filter_singleton]
      by_cases same : last.key = key
      · simp [same,Table.Write.key,Table.Write.outcome]
      · simpa [same,Table.Write.key] using ih

theorem written_matched (ran : Machine.run XdpMaps.perform .empty (staticInserts listeners geo threat) = some maps) (map : LpmMap)
    (spec : XdpListenerSpec) (ip : IpAddr) : maps.matched map spec ip = true ↔ Meant listeners geo threat spec ip map := by
  have held (node : Nat × Nat) : ((maps.lpm map).lookup node).isSome = true ↔ ∃ key ∈ lpmKeys listeners geo threat map, key.node = node := by
    rw [run_inserts staticInserts_inserts ran,← staticInserts_keys,puts_iff]
    exact or_iff_right (by simp [XdpMaps.empty])
  exact (LpmTrie.match?_isSome held _).trans (lpmKeys_cover spec ip map)

theorem written_geo (ran : Machine.run XdpMaps.perform .empty (staticInserts listeners geo threat) = some maps)
    (enabled : xdpGeoEnabled listeners = true) : maps.lpm .geoCidrs = geoTrie geo := by
  have own (spec : XdpListenerSpec) : (spec.inserts threat).filterMap (MapOp.write .geoCidrs) = [] := by
    apply List.filterMap_eq_nil_iff.mpr
    intro op member
    simp only [XdpListenerSpec.inserts,List.mem_append,List.mem_cons,List.mem_map,List.mem_ite_nil_right] at member
    rcases member with (((rfl | ⟨_,_,rfl⟩) | ⟨_,_,rfl⟩) | ⟨_,_,rfl⟩) | ⟨_,_,_,rfl⟩ <;> rfl
  have written : (staticInserts listeners geo threat).filterMap (MapOp.write .geoCidrs) =
      geo.map fun located => .put located.lpmKey.node located.country := by
    unfold staticInserts
    rw [if_pos enabled,List.filterMap_append,List.filterMap_flatMap]
    simp [own,MapOp.write,List.filterMap_map,Function.comp_def]
  rw [run_lpm ran,written,geoTrie,LpmTrie.filled,Table.replay,List.foldl_map,List.foldl_map]
  rfl

end Maps

section Kernel

def StaticDrop (kernel : XdpKernel) (packet : XdpPacket) : Prop :=
  ∃ reason, (kernel.evaluatePacket packet).1 = .drop reason ∧ reason.isStatic = true

theorem checkBucketRateLimit_outcome (kernel : XdpKernel) (key : XdpIpKey) (limit : RateLimit) (stat : XdpStat) :
    (kernel.checkBucketRateLimit key limit stat).1 = .pass ∨ (kernel.checkBucketRateLimit key limit stat).1 = .drop stat := by
  unfold XdpKernel.checkBucketRateLimit
  split
  · exact .inl rfl
  · cases kernel.rateBuckets.lookup key with
    | none => exact .inl rfl
    | some bucket =>
        dsimp only
        split
        · exact .inr rfl
        · exact .inl rfl

-- The limits are not part of the static policy.
theorem limits_dynamic {verdict : XdpVerdict} (limited : verdict = .pass ∨ verdict = .drop stat) (momentary : stat.isStatic = false) :
    ¬ ∃ reason, verdict = .drop reason ∧ reason.isStatic = true := by
  intro given
  rcases given with ⟨reason,dropped,lasting⟩
  rcases limited with passed | limited
  · rw [passed] at dropped
    cases dropped
  · rw [limited] at dropped
    cases dropped
    rw [momentary] at lasting
    cases lasting

theorem checkRateLimit_outcome (kernel : XdpKernel) (policy : XdpListenerPolicy) (key : XdpIpKey) :
    (kernel.checkRateLimit policy key).1 = .pass ∨ (kernel.checkRateLimit policy key).1 = .drop .rateLimitDrop := by
  unfold XdpKernel.checkRateLimit
  split
  · exact .inl rfl
  · exact checkBucketRateLimit_outcome ..

theorem checkFloodLimit_outcome (kernel : XdpKernel) (policy : XdpListenerPolicy) (key : XdpIpKey) (packetClass : PacketClass) :
    (kernel.checkFloodLimit policy key packetClass).1 = .pass ∨
      (kernel.checkFloodLimit policy key packetClass).1 = .drop (.floodDrop packetClass) := by
  unfold XdpKernel.checkFloodLimit
  split
  · exact .inl rfl
  · exact checkBucketRateLimit_outcome ..

-- The country rules of the policy, read off the trie.
def XdpKernel.Abroad (kernel : XdpKernel) (policy : XdpListenerPolicy) (src : IpAddr) : Prop :=
  policy.flags &&& xdpPolicyGeoEnabled ≠ 0 ∧ policy.bars ((kernel.maps.lpm .geoCidrs).match? (makeGeoLpmKey src src.width)) = true

theorem checkGeo_outcome (kernel : XdpKernel) (policy : XdpListenerPolicy) (src : IpAddr) :
    kernel.checkGeo policy src = .pass ∧ ¬ kernel.Abroad policy src ∨
      ∃ reason, kernel.checkGeo policy src = .drop reason ∧ reason.isStatic = true ∧ kernel.Abroad policy src := by
  unfold XdpKernel.checkGeo XdpKernel.Abroad
  by_cases located : policy.flags &&& xdpPolicyGeoEnabled = 0
  · rw [if_pos located]
    exact .inl ⟨rfl,fun both => both.1 located⟩
  · rw [if_neg located,and_iff_right located]
    generalize (kernel.maps.lpm .geoCidrs).match? (makeGeoLpmKey src src.width) = found
    cases found with
    | none =>
        by_cases unknown : policy.flags &&& xdpPolicyGeoUnknownAllow = 0
        · exact .inr ⟨.geoUnknownDrop,if_pos unknown,rfl,decide_eq_true unknown⟩
        · exact .inl ⟨if_neg unknown,fun barred => unknown (of_decide_eq_true barred)⟩
    | some country =>
        have barred := @XdpListenerPolicy.bars_some country policy
        dsimp only
        by_cases denied : countryBitIsSet policy.geoDeny country = true
        · exact .inr ⟨.geoDenyDrop,if_pos denied,rfl,barred.mpr (.inl denied)⟩
        · rw [if_neg denied]
          by_cases outside : policy.flags &&& xdpPolicyGeoAllowHasEntries ≠ 0 ∧ (!countryBitIsSet policy.geoAllow country) = true
          · exact .inr ⟨.geoNotAllowedDrop,if_pos outside,rfl,barred.mpr (.inr ⟨outside.1,by simpa using outside.2⟩)⟩
          · refine .inl ⟨if_neg outside,fun bars => ?_⟩
            rcases barred.mp bars with hit | ⟨entries,missing⟩
            · exact denied hit
            · exact outside ⟨entries,by simpa using missing⟩

theorem evaluatePacket_static {packet : XdpPacket}
    (found : kernel.maps.listenerPolicies.lookup (makeListenerKey packet.l4Proto packet.dport) = some policy) :
    StaticDrop kernel packet ↔
      ((kernel.maps.lpm .denyCidrs).match? (makeLpmKey packet.l4Proto packet.dport packet.src packet.src.width)).isSome = true ∨
      (policy.flags &&& xdpPolicyCidrAllowEnabled ≠ 0 ∧
        ((kernel.maps.lpm .allowCidrs).match? (makeLpmKey packet.l4Proto packet.dport packet.src packet.src.width)).isSome = false) ∨
      ((kernel.maps.lpm .trustedCidrs).match? (makeLpmKey packet.l4Proto packet.dport packet.src packet.src.width)).isSome = false ∧
        kernel.blockedIps.lookup packet.ipKey = none ∧ kernel.Abroad policy packet.src := by
  unfold StaticDrop XdpKernel.evaluatePacket
  simp only [found]
  by_cases denied : ((kernel.maps.lpm .denyCidrs).match? (makeLpmKey packet.l4Proto packet.dport packet.src packet.src.width)).isSome = true
  · rw [if_pos denied]
    exact ⟨fun _ => .inl denied,fun _ => ⟨.denyCidrDrop,rfl,rfl⟩⟩
  · rw [if_neg denied,or_iff_right denied]
    by_cases outside : policy.flags &&& xdpPolicyCidrAllowEnabled ≠ 0 ∧
        ((kernel.maps.lpm .allowCidrs).match? (makeLpmKey packet.l4Proto packet.dport packet.src packet.src.width)).isNone = true
    · rw [if_pos outside]
      exact ⟨fun _ => .inl ⟨outside.1,by simpa using outside.2⟩,fun _ => ⟨.notAllowedCidrDrop,rfl,rfl⟩⟩
    · rw [if_neg outside,or_iff_right (by simpa using outside)]
      by_cases trusted : ((kernel.maps.lpm .trustedCidrs).match? (makeLpmKey packet.l4Proto packet.dport packet.src packet.src.width)).isSome = true
      · rw [if_pos trusted]
        exact ⟨nofun,fun both => by simp [trusted] at both⟩
      · rw [if_neg trusted,and_iff_right (by simpa using trusted)]
        by_cases blocked : (kernel.blockedIps.lookup packet.ipKey).isSome = true
        · rw [if_pos blocked]
          exact ⟨nofun,fun both => by simp [both.1] at blocked⟩
        · rw [if_neg blocked,and_iff_right (by simpa using blocked)]
          rcases checkGeo_outcome kernel policy packet.src with ⟨passed,home⟩ | ⟨reason,dropped,lasting,abroad⟩
          · rw [passed]
            refine ⟨fun static => absurd static ?_,fun abroad => absurd abroad home⟩
            dsimp only
            have rate := checkRateLimit_outcome kernel policy packet.ipKey
            generalize kernel.checkRateLimit policy packet.ipKey = outcome at rate ⊢
            obtain ⟨verdict,next⟩ := outcome
            cases verdict with
            | drop reason => exact limits_dynamic rate rfl
            | pass => exact limits_dynamic (checkFloodLimit_outcome next policy packet.ipKey packet.packetClass) rfl
          · rw [dropped]
            exact ⟨fun _ => abroad,fun _ => ⟨reason,rfl,lasting⟩⟩

end Kernel

section UserSpace
variable {Packet Bucket : Type} {view : SecurityCodec Packet Bucket} {runtime : SecurityRuntime} {security : ListenerSecurityRuntime}

-- What the lists and feeds of a listener say of a source, whatever it has done.
def Admitted (runtime : SecurityRuntime) (security : ListenerSecurityRuntime) (ip : IpAddr) : Prop :=
  security.config.enabled = false ∨ security.isDenied ip = false ∧ security.isAllowed ip = true ∧ (security.isTrusted ip = true ∨
    evaluateGeoPolicy security.geoPolicy runtime.geo ip = .allow ∧ evaluateThreatPolicy security.threatPolicy runtime.threat ip = .allow)

-- The other reasons: a ban, a rate limit, the text of the packet.
def momentaryReasons : List String :=
  ["ip-blocked","udp-flood-rate-limit","tcp-flood-rate-limit","tcp-udp-flood-rate-limit","ip-rate-limit","invalid-start-line"]

def Momentary (decision : SecurityDecision) : Prop := decision = .allow ∨ ∃ reason ∈ momentaryReasons, decision = .drop reason

theorem checkPacket_refused (found : runtime.listenerByKey (Security.listenerKey listener) = some security)
    (refused : ¬ Admitted runtime security peer.ip) (now : Nat) (packet : Packet) (state : SecurityState Bucket) :
    ∃ reason, (runtime.checkPacket view now listener peer packet state).1 = .drop reason := by
  unfold SecurityRuntime.checkPacket
  unfold Admitted at refused
  simp only [not_or,not_and_or,Bool.not_eq_false] at refused
  obtain ⟨enabled,refused⟩ := refused
  simp only [found,enabled,Bool.not_true,Bool.false_eq_true,if_false]
  cases denied : security.isDenied peer.ip with
  | true => exact ⟨_,rfl⟩
  | false =>
      cases allowed : security.isAllowed peer.ip with
      | false => exact ⟨_,rfl⟩
      | true =>
          simp only [denied,allowed,Bool.not_true,Bool.false_eq_true,if_false,not_true,false_or,Bool.not_eq_true] at refused ⊢
          split
          · exact ⟨_,rfl⟩
          · rw [refused.1]
            simp only [Bool.false_eq_true,if_false]
            cases located : evaluateGeoPolicy security.geoPolicy runtime.geo peer.ip with
            | drop reason => exact ⟨_,rfl⟩
            | allow =>
                cases listed : evaluateThreatPolicy security.threatPolicy runtime.threat peer.ip with
                | drop reason => exact ⟨_,rfl⟩
                | allow => simp [located,listed] at refused

theorem floodLimit_reason (flood : EffectiveProxyFloodSecurityConfig) (transport : SipTransport) :
    (floodLimit flood transport).2.2 ∈ momentaryReasons := by
  cases transport <;> simp [floodLimit,momentaryReasons]

theorem checkPacket_let_in (found : runtime.listenerByKey (Security.listenerKey listener) = some security)
    (admitted : Admitted runtime security peer.ip) (now : Nat) (packet : Packet) (state : SecurityState Bucket) :
    Momentary (runtime.checkPacket view now listener peer packet state).1 := by
  unfold SecurityRuntime.checkPacket
  simp only [found]
  cases enabled : security.config.enabled with
  | false => exact .inl rfl
  | true =>
      obtain idle | ⟨denied,allowed,rest⟩ := admitted
      · rw [enabled] at idle
        cases idle
      simp only [denied,allowed,Bool.not_true,Bool.false_eq_true,if_false]
      split
      · exact .inr ⟨"ip-blocked",by decide,rfl⟩
      · split
        · exact .inl rfl
        · rename_i untrusted
          obtain trusted | ⟨located,listed⟩ := rest
          · exact absurd trusted untrusted
          · rw [located,listed]
            have flooding := floodLimit_reason security.config.flood listener.transport
            generalize floodLimit security.config.flood listener.transport = limit at flooding ⊢
            obtain ⟨rate,burst,reason⟩ := limit
            dsimp only at flooding ⊢
            generalize (if security.config.flood.enabled = true ∧ 0 < rate ∧ 0 < burst then _ else _ : Bool × SecurityState Bucket) = charged
            split
            · exact .inr ⟨reason,flooding,rfl⟩
            · generalize (if security.config.ipRateLimit.enabled = true ∧ 0 < security.config.ipRateLimit.packetsPerSecond ∧
                  0 < security.config.ipRateLimit.burst then _ else _ : Bool × SecurityState Bucket) = charged
              split
              · exact .inr ⟨"ip-rate-limit",by decide,rfl⟩
              · split
                · exact .inr ⟨"invalid-start-line",by decide,rfl⟩
                · exact .inl rfl

end UserSpace

end Sigproxy.Xdp
