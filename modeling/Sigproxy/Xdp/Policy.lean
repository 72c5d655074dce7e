import Sigproxy.Security.Runtime
import Sigproxy.Xdp.GeoPrefixes
import Sigproxy.Xdp.Restart

namespace Sigproxy.Xdp
open Library Net Security Proxy

section Configuration
variable (parseIp : String → Except String IpAddr) (parseSocketAddr : String → Option SocketAddr)

def parseXdpCidr (value : String) : Except String XdpCidrPrefix := parseNetwork parseIp "XDP CIDR" value

def parseXdpCidrs (values : List String) : Except String (List XdpCidrPrefix) := values.mapM (parseXdpCidr parseIp)

def filterCidrs (wanted : Bool) (values : List String) : Except String (List XdpCidrPrefix) :=
  if wanted then parseXdpCidrs parseIp values else .ok []

abbrev xdpCountryWords : Nat := 11

def noCountries : CountryBits := Vector.replicate 11 0

def setCountryBit (bits : CountryBits) (country : String) : Except String CountryBits :=
  match (trim country).toList with
  | [first,second] =>
    if first.isAlpha && second.isAlpha then
      let bit := (first.toUpper.toNat - 65) * 26 + (second.toUpper.toNat - 65)
      let word := bit / 64
      let shift := bit % 64
      if inside : word < xdpCountryWords then .ok (bits.set word (bits[word] ||| 1#64 <<< shift))
      else .error "invalid XDP geo country bit index"
    else .error "invalid XDP geo country code"
  | _ => .error "invalid XDP geo country code"

def setCountryBits (wanted : Bool) (countries : List String) : Except String CountryBits :=
  if wanted then countries.foldlM setCountryBit noCountries else .ok noCountries

def limitU32 (value : Nat) : BitVec 32 := BitVec.ofNat 32 (min value (2 ^ 32 - 1))

structure FloodFields where
  udp : RateLimit
  tcp : RateLimit
  tcpSyn : RateLimit
  tcpAck : RateLimit
  icmp : RateLimit

def floodFields (security : EffectiveProxySecurityConfig) : FloodFields :=
  let flood := security.flood
  if !flood.enabled then ⟨⟨0,0⟩,⟨0,0⟩,⟨0,0⟩,⟨0,0⟩,⟨0,0⟩⟩
  else
    ⟨⟨limitU32 flood.udpPacketsPerSecond,limitU32 flood.udpBurst⟩,⟨limitU32 flood.tcpPacketsPerSecond,limitU32 flood.tcpBurst⟩,
      ⟨limitU32 flood.tcpSynPacketsPerSecond,limitU32 flood.tcpSynBurst⟩,
      ⟨limitU32 flood.tcpAckPacketsPerSecond,limitU32 flood.tcpAckBurst⟩,⟨limitU32 flood.icmpPacketsPerSecond,limitU32 flood.icmpBurst⟩⟩

def larger (first second : BitVec 32) : BitVec 32 := if first < second then second else first

def FloodFields.limits (fields : FloodFields) : Bool :=
  decide (0 < fields.udp.packetsPerSecond ∨ 0 < fields.tcp.packetsPerSecond ∨ 0 < fields.tcpSyn.packetsPerSecond ∨
    0 < fields.tcpAck.packetsPerSecond ∨ 0 < fields.icmp.packetsPerSecond)

def flagIf (condition : Bool) (flag : BitVec 64) : BitVec 64 := if condition then flag else 0

namespace XdpListenerPolicySpec

def fromSecurity (security : EffectiveProxySecurityConfig) : Except String XdpListenerPolicySpec := do
  let trustedCidrs ← filterCidrs parseIp security.xdp.cidrFilter security.trustedCidrs
  let allowCidrs ← filterCidrs parseIp security.xdp.cidrFilter security.allowCidrs
  let denyCidrs ← filterCidrs parseIp security.xdp.cidrFilter security.denyCidrs
  let located := security.xdp.geoFilter && security.geo.enabled
  let geoAllow ← setCountryBits located security.geo.allowCountries
  let geoDeny ← setCountryBits located security.geo.denyCountries
  let rate := security.ipRateLimit
  let limited := security.xdp.ipRateLimit && rate.enabled && decide (0 < rate.packetsPerSecond ∧ 0 < rate.burst)
  let flood := floodFields security
  return {
    flags:=flagIf (!allowCidrs.isEmpty) xdpPolicyCidrAllowEnabled ||| flagIf located xdpPolicyGeoEnabled |||
      flagIf (located && decide (security.geo.unknownCountry = .allow)) xdpPolicyGeoUnknownAllow |||
      flagIf (located && !security.geo.allowCountries.isEmpty) xdpPolicyGeoAllowHasEntries |||
      flagIf limited xdpPolicyIpRateLimitEnabled ||| flagIf flood.limits xdpPolicyFloodEnabled
    ipRate:=if limited then ⟨limitU32 rate.packetsPerSecond,limitU32 rate.burst⟩ else ⟨0,0⟩
    udpFlood:=flood.udp
    tcpFlood:=flood.tcp
    tcpSynFlood:=flood.tcpSyn
    tcpAckFlood:=flood.tcpAck
    icmpFlood:=flood.icmp
    geoAllow:=geoAllow
    geoDeny:=geoDeny
    trustedCidrs:=trustedCidrs
    allowCidrs:=allowCidrs
    denyCidrs:=denyCidrs
    threatIntel:=security.xdp.threatIntel && security.threatIntel.enabled}

def icmpFloodFromSecurity (security : EffectiveProxySecurityConfig) : Option XdpListenerPolicySpec :=
  let icmp := (floodFields security).icmp
  if icmp.packetsPerSecond = 0 ∨ icmp.burst = 0 then none
  else some {
    flags:=xdpPolicyFloodEnabled
    ipRate:=⟨0,0⟩
    udpFlood:=⟨0,0⟩
    tcpFlood:=⟨0,0⟩
    tcpSynFlood:=⟨0,0⟩
    tcpAckFlood:=⟨0,0⟩
    icmpFlood:=icmp
    geoAllow:=noCountries
    geoDeny:=noCountries
    trustedCidrs:=[]
    allowCidrs:=[]
    denyCidrs:=[]
    threatIntel:=false}

def mergeIcmpFlood (policy other : XdpListenerPolicySpec) : XdpListenerPolicySpec :=
  {policy with icmpFlood:=⟨larger policy.icmpFlood.packetsPerSecond other.icmpFlood.packetsPerSecond,
    larger policy.icmpFlood.burst other.icmpFlood.burst⟩}

end XdpListenerPolicySpec

def l4ProtoOf : SipTransport → Except String (BitVec 8)
  | .udp => .ok xdpProtoUdp
  | .tcp => .ok xdpProtoTcp
  | .tcpUdp => .error "XDP listener transport must be expanded before attach"

def XdpListenerSpec.fromListener (listener : ProxyListenerConfig) (security : EffectiveProxySecurityConfig) :
    Except String XdpListenerSpec := do
  let some bind := parseSocketAddr listener.bind | .error ("invalid XDP listener bind '" ++ listener.bind ++ "'")
  let l4Proto ← l4ProtoOf listener.transport
  let policy ← XdpListenerPolicySpec.fromSecurity parseIp security
  return ⟨Security.listenerKey listener,l4Proto,bind.port,policy⟩

-- A listener of the configuration, expanded to one transport, with what its
-- security section comes to.
structure ConcreteListener where
  listener : ProxyListenerConfig
  security : EffectiveProxySecurityConfig

def mergeIcmp (merged : Option XdpListenerPolicySpec) (configured : ConcreteListener) : Option XdpListenerPolicySpec :=
  match XdpListenerPolicySpec.icmpFloodFromSecurity configured.security,merged with
  | some policy,some existing => some (existing.mergeIcmpFlood policy)
  | some policy,none => some policy
  | none,merged => merged

-- The listener loops of XdpRuntime::new and SecurityRuntime::new.
def xdpListeners (configured : List ConcreteListener) : Except String (List XdpListenerSpec) := do
  let offloaded := configured.filter fun entry => entry.security.xdp.enabled
  let listeners ← offloaded.mapM fun entry => XdpListenerSpec.fromListener parseIp parseSocketAddr entry.listener entry.security
  let icmp := (offloaded.foldl mergeIcmp none).map fun policy => XdpListenerSpec.mk "icmp/*:0" xdpProtoIcmp 0 policy
  return listeners ++ icmp.toList

def secureListener (listeners : Table String ListenerSecurityRuntime) (entry : ConcreteListener) :
    Except String (Table String ListenerSecurityRuntime) := do
  let security ← ListenerSecurityRuntime.new parseIp entry.security
  return listeners.insert (Security.listenerKey entry.listener) security

def securityListeners (configured : List ConcreteListener) : Except String (Table String ListenerSecurityRuntime) :=
  configured.foldlM (secureListener parseIp) ∅

-- The snapshots are loaded where some listener asks for them; the maps are
-- filled with what these hold, or with nothing.
def geoRuntime (configured : List ConcreteListener) (loaded : GeoSnapshot) : Option GeoSnapshot :=
  if configured.any fun entry => entry.security.geo.enabled then some loaded else none

def threatRuntime (configured : List ConcreteListener) (loaded : ThreatSnapshot) : Option ThreatSnapshot :=
  if configured.any fun entry => entry.security.threatIntel.enabled then some loaded else none

def geoPrefixes : Option GeoSnapshot → Option (List GeoIpPrefix)
  | none => some []
  | some snapshot => snapshot.xdpPrefixes

def threatPrefixes : Option ThreatSnapshot → List ThreatIpPrefix
  | none => []
  | some snapshot => snapshot.xdpPrefixes

end Configuration

section Program

def countryBitIsSet (bits : CountryBits) (country : BitVec 16) : Bool :=
  let first := (country.extractLsb' 8 8).toNat
  let second := (country.extractLsb' 0 8).toNat
  if first < 65 ∨ 90 < first ∨ second < 65 ∨ 90 < second then false
  else
    let bit := (first - 65) * 26 + (second - 65)
    let word := bit / 64
    let shift := bit % 64
    if inside : word < xdpCountryWords then bits[word] &&& 1#64 <<< shift != 0 else false

inductive PacketClass where
  | udpFlood
  | tcpFlood
  | tcpSynFlood
  | tcpAckFlood
  | icmpFlood
  deriving DecidableEq, Repr

def PacketClass.rateProto : PacketClass → BitVec 8
  | .udpFlood => 240
  | .tcpFlood => 241
  | .tcpSynFlood => 242
  | .tcpAckFlood => 243
  | .icmpFlood => 244

inductive XdpStat where
  | blocklistDrop
  | denyCidrDrop
  | notAllowedCidrDrop
  | geoUnknownDrop
  | geoDenyDrop
  | geoNotAllowedDrop
  | rateLimitDrop
  | floodDrop (packetClass : PacketClass)
  deriving DecidableEq, Repr

-- What the static policy alone decides.
def XdpStat.isStatic : XdpStat → Bool
  | .denyCidrDrop | .notAllowedCidrDrop | .geoUnknownDrop | .geoDenyDrop | .geoNotAllowedDrop => true
  | _ => false

inductive XdpVerdict where
  | pass
  | drop (reason : XdpStat)
  deriving DecidableEq, Repr

structure RateBucket where
  tokens : BitVec 64
  updatedNs : BitVec 64
  deriving DecidableEq, Repr

def RateBucket.refilled (bucket : RateBucket) (limit : RateLimit) (nowNs : BitVec 64) : RateBucket :=
  let refill := (nowNs - bucket.updatedNs) * limit.packetsPerSecond.setWidth 64 / 1000000000
  let burst := limit.burst.setWidth 64
  if 0 < refill then ⟨if burst < bucket.tokens + refill then burst else bucket.tokens + refill,nowNs⟩ else bucket

-- What the program reads: the maps of the control plane, and those it keeps itself.
structure XdpKernel where
  maps : XdpMaps
  blockedIps : Table XdpIpKey (BitVec 64)
  rateBuckets : Table XdpIpKey RateBucket
  nowNs : BitVec 64

structure XdpPacket where
  l4Proto : BitVec 8
  dport : BitVec 16
  src : IpAddr
  packetClass : PacketClass

def XdpPacket.ipKey (packet : XdpPacket) : XdpIpKey := ⟨family packet.src,packet.l4Proto,packet.dport,addrBytes packet.src⟩

def XdpListenerPolicy.floodLimit (policy : XdpListenerPolicy) : PacketClass → RateLimit
  | .udpFlood => policy.udpFlood
  | .tcpFlood => policy.tcpFlood
  | .tcpSynFlood => policy.tcpSynFlood
  | .tcpAckFlood => policy.tcpAckFlood
  | .icmpFlood => policy.icmpFlood

namespace XdpKernel

def checkBucketRateLimit (kernel : XdpKernel) (key : XdpIpKey) (limit : RateLimit) (stat : XdpStat) : XdpVerdict × XdpKernel :=
  if limit.packetsPerSecond = 0 ∨ limit.burst = 0 then (.pass,kernel)
  else
    let keep (bucket : RateBucket) := {kernel with rateBuckets:=kernel.rateBuckets.insert key bucket}
    match kernel.rateBuckets.lookup key with
    | none => (.pass,keep ⟨(limit.burst - 1).setWidth 64,kernel.nowNs⟩)
    | some bucket =>
      -- An empty bucket keeps its count: only the time of the refill is written back.
      let filled := bucket.refilled limit kernel.nowNs
      if filled.tokens = 0 then (.drop stat,keep ⟨bucket.tokens,filled.updatedNs⟩)
      else (.pass,keep ⟨filled.tokens - 1,filled.updatedNs⟩)

def checkRateLimit (kernel : XdpKernel) (policy : XdpListenerPolicy) (key : XdpIpKey) : XdpVerdict × XdpKernel :=
  if policy.flags &&& xdpPolicyIpRateLimitEnabled = 0 then (.pass,kernel)
  else kernel.checkBucketRateLimit key policy.ipRate .rateLimitDrop

def checkFloodLimit (kernel : XdpKernel) (policy : XdpListenerPolicy) (key : XdpIpKey) (packetClass : PacketClass) :
    XdpVerdict × XdpKernel :=
  if policy.flags &&& xdpPolicyFloodEnabled = 0 then (.pass,kernel)
  else kernel.checkBucketRateLimit {key with l4Proto:=packetClass.rateProto} (policy.floodLimit packetClass) (.floodDrop packetClass)

def checkGeo (kernel : XdpKernel) (policy : XdpListenerPolicy) (src : IpAddr) : XdpVerdict :=
  if policy.flags &&& xdpPolicyGeoEnabled = 0 then .pass
  else
    match (kernel.maps.lpm .geoCidrs).match? (makeGeoLpmKey src src.width) with
    | none => if policy.flags &&& xdpPolicyGeoUnknownAllow = 0 then .drop .geoUnknownDrop else .pass
    | some country =>
      if countryBitIsSet policy.geoDeny country then .drop .geoDenyDrop
      else if policy.flags &&& xdpPolicyGeoAllowHasEntries ≠ 0 ∧ !countryBitIsSet policy.geoAllow country then .drop .geoNotAllowedDrop
      else .pass

def evaluatePacket (kernel : XdpKernel) (packet : XdpPacket) : XdpVerdict × XdpKernel :=
  let lpmKey := makeLpmKey packet.l4Proto packet.dport packet.src packet.src.width
  match kernel.maps.listenerPolicies.lookup (makeListenerKey packet.l4Proto packet.dport) with
  | none => (.pass,kernel)
  | some policy =>
    if ((kernel.maps.lpm .denyCidrs).match? lpmKey).isSome then (.drop .denyCidrDrop,kernel)
    else if policy.flags &&& xdpPolicyCidrAllowEnabled ≠ 0 ∧ ((kernel.maps.lpm .allowCidrs).match? lpmKey).isNone then
      (.drop .notAllowedCidrDrop,kernel)
    else if ((kernel.maps.lpm .trustedCidrs).match? lpmKey).isSome then (.pass,kernel)
    else if (kernel.blockedIps.lookup packet.ipKey).isSome then (.drop .blocklistDrop,kernel)
    else
      match kernel.checkGeo policy packet.src with
      | .drop reason => (.drop reason,kernel)
      | .pass =>
        match kernel.checkRateLimit policy packet.ipKey with
        | (.drop reason,kernel) => (.drop reason,kernel)
        | (.pass,kernel) => kernel.checkFloodLimit policy packet.ipKey packet.packetClass

end XdpKernel

end Program

section Countries

theorem and_one_shiftLeft (word : BitVec 64) (inside : shift < 64) : (word &&& 1#64 <<< shift != 0) = word.getLsbD shift := by
  rw [← BitVec.twoPow_eq,BitVec.and_twoPow]
  cases word.getLsbD shift with
  | false => simp
  | true =>
      have set : BitVec.twoPow 64 shift ≠ 0 := by
        intro zero
        have bit := congrArg (fun word => word.getLsbD shift) zero
        simp [inside] at bit
      simpa using set

theorem alpha_upper {char : Char} (alpha : char.isAlpha = true) : 65 ≤ char.toUpper.toNat ∧ char.toUpper.toNat ≤ 90 := by
  have cased : (decide ('A'.val ≤ char.val ∧ char.val ≤ 'Z'.val) || decide ('a'.val ≤ char.val) && decide (char.val ≤ 'z'.val)) = true := alpha
  simp [UInt32.le_iff_toNat_le] at cased
  unfold Char.toUpper
  split
  · rename_i lower
    have small : 'a'.val ≤ char.val ∧ char.val ≤ 'z'.val := lower
    simp only [UInt32.le_iff_toNat_le] at small
    change 65 ≤ (char.val + ('A'.val - 'a'.val)).toNat ∧ (char.val + ('A'.val - 'a'.val)).toNat ≤ 90
    rw [UInt32.toNat_add]
    change 97 ≤ char.val.toNat ∧ char.val.toNat ≤ 122 at small
    change 65 ≤ (char.val.toNat + 4294967264) % 4294967296 ∧ (char.val.toNat + 4294967264) % 4294967296 ≤ 90
    omega
  · rename_i other
    simp [UInt32.le_iff_toNat_le] at other
    omega

-- Bit `index` of the words.
def countryBit (bits : CountryBits) (index : Nat) : Bool :=
  if inside : index / 64 < xdpCountryWords then bits[index / 64].getLsbD (index % 64) else false

theorem countryBit_set (bits : CountryBits) (inside : index / 64 < xdpCountryWords) (other : Nat) :
    countryBit (bits.set (index / 64) (bits[index / 64] ||| 1#64 <<< (index % 64))) other =
      (countryBit bits other || decide (other = index)) := by
  unfold countryBit
  split
  · rename_i within
    by_cases same : index / 64 = other / 64
    · have shifts : decide (other % 64 = index % 64) = decide (other = index) := decide_eq_decide.mpr (by omega)
      have bounded : other % 64 < 64 := Nat.mod_lt _ (by decide)
      simp [← BitVec.twoPow_eq,same,shifts,bounded]
    · have apart : other ≠ index := fun equal => same (equal ▸ rfl)
      rw [Vector.getElem_set_ne _ _ same]
      simp [apart]
  · rename_i beyond
    have apart : other ≠ index := fun equal => beyond (equal ▸ inside)
    simp [apart]

theorem countryBitIsSet_append (bits : CountryBits) (first second : BitVec 8) :
    countryBitIsSet bits (first ++ second) = true ↔ (65 ≤ first.toNat ∧ first.toNat ≤ 90 ∧ 65 ≤ second.toNat ∧ second.toNat ≤ 90) ∧
      countryBit bits ((first.toNat - 65) * 26 + (second.toNat - 65)) = true := by
  unfold countryBitIsSet countryBit
  rw [BitVec.extractLsb'_append_eq_left,BitVec.extractLsb'_append_eq_right]
  dsimp only
  split
  · rename_i outside
    exact ⟨nofun,fun both => by omega⟩
  · rename_i within
    rw [and_iff_right (by omega)]
    split
    · rw [and_one_shiftLeft _ (Nat.mod_lt _ (by decide))]
    · rfl

theorem pair_eq (country : BitVec 16) : ∃ first second : BitVec 8, country = first ++ second := by
  refine ⟨country.extractLsb' 8 8,country.extractLsb' 0 8,?_⟩
  rw [BitVec.extractLsb'_append_extractLsb'_eq_extractLsb' (by decide),BitVec.extractLsb'_eq_self]

theorem setCountryBit_ok (set : setCountryBit bits code = .ok bits') : ∃ named, encodeCountry code = .ok named ∧
    ∀ country, countryBitIsSet bits' country = true ↔ countryBitIsSet bits country = true ∨ country = named := by
  unfold setCountryBit at set
  split at set
  · rename_i first second letters
    unfold encodeCountry
    rw [letters]
    dsimp only at set ⊢
    split at set
    · rename_i alpha
      rw [if_pos alpha]
      rw [Bool.and_eq_true] at alpha
      have upper := alpha_upper alpha.1
      have upper' := alpha_upper alpha.2
      split at set
      · rename_i inside
        cases set
        refine ⟨_,rfl,fun country => ?_⟩
        obtain ⟨high,low,rfl⟩ := pair_eq country
        have same : high ++ low = BitVec.ofNat 8 first.toUpper.toNat ++ BitVec.ofNat 8 second.toUpper.toNat ↔
            high.toNat = first.toUpper.toNat ∧ low.toNat = second.toUpper.toNat := by
          rw [append_inj,← BitVec.toNat_inj,← BitVec.toNat_inj,BitVec.toNat_ofNat,BitVec.toNat_ofNat,Nat.mod_eq_of_lt (by omega),
            Nat.mod_eq_of_lt (by omega)]
        rw [countryBitIsSet_append,countryBitIsSet_append,same,countryBit_set bits inside,Bool.or_eq_true,decide_eq_true_eq]
        constructor
        · intro both
          rcases both with ⟨range,held | index⟩
          · exact .inl ⟨range,held⟩
          · exact .inr (by omega)
        · intro either
          rcases either with ⟨range,held⟩ | ⟨highs,lows⟩
          · exact ⟨range,.inl held⟩
          · exact ⟨by omega,.inr (by omega)⟩
      · cases set
    · cases set
  · cases set

-- What the user-space policy keeps of a list of countries.
theorem setCountryBits_ok {codes : List String} (set : codes.foldlM setCountryBit bits = .ok bits') (country : BitVec 16) :
    countryBitIsSet bits' country = true ↔
      countryBitIsSet bits country = true ∨ country ∈ codes.filterMap fun code => (encodeCountry code).toOption := by
  induction codes generalizing bits with
  | nil => cases set; simp
  | cons code rest ih =>
      obtain ⟨next,first,later⟩ := bind_ok.mp set
      obtain ⟨named,encoded,held⟩ := setCountryBit_ok first
      rw [ih later,held,List.filterMap_cons_some (by rw [encoded]; rfl),List.mem_cons,or_assoc]

theorem setCountryBits_all {codes : List String} (set : codes.foldlM setCountryBit bits = .ok bits') :
    (codes.filterMap fun code => (encodeCountry code).toOption) = [] ↔ codes = [] := by
  cases codes with
  | nil => simp
  | cons code rest =>
      obtain ⟨next,first,later⟩ := bind_ok.mp set
      obtain ⟨named,encoded,held⟩ := setCountryBit_ok first
      rw [List.filterMap_cons_some (by rw [encoded]; rfl)]
      simp

theorem noCountries_bit (country : BitVec 16) : countryBitIsSet noCountries country = false := by
  simp [countryBitIsSet,noCountries]

end Countries

section Reading
variable {parseIp : String → Except String IpAddr} {parseSocketAddr : String → Option SocketAddr}

-- The word for the errors apart, both parsers of networks do the same.
theorem parseNetwork_kind (kind kind' value : String) :
    (parseNetwork parseIp kind value).toOption = (parseNetwork parseIp kind' value).toOption := by
  have bounds (text text' : String) (addr : IpAddr) (length : Nat) :
      (if bounded : length ≤ addr.width then pure ⟨addr,length,bounded⟩ else .error text : Except String Cidr).toOption =
        (if bounded : length ≤ addr.width then pure ⟨addr,length,bounded⟩ else .error text' : Except String Cidr).toOption := by
    split <;> rfl
  unfold parseNetwork
  generalize trim value = text
  dsimp only
  generalize splitOnce '/' text = parts
  cases parts with
  | none =>
      dsimp only
      rw [toOption_bind,toOption_bind,toOption_mapError,toOption_mapError]
      refine congrArg _ (funext fun addr => ?_)
      exact bounds ..
  | some parts =>
      obtain ⟨addr,length⟩ := parts
      dsimp only
      rw [toOption_bind,toOption_bind,toOption_mapError,toOption_mapError]
      refine congrArg _ (funext fun addr => ?_)
      rw [toOption_bind,toOption_bind,toOption_mapError,toOption_mapError]
      refine congrArg _ (funext fun length => ?_)
      exact bounds ..

theorem filterCidrs_eq (filtered : filterCidrs parseIp wanted values = .ok networks) (parsed : parseCidrs parseIp values = .ok cidrs) :
    networks = if wanted then cidrs else [] := by
  cases wanted with
  | false => cases filtered; rfl
  | true =>
      have first := mapM_ok.mp filtered
      have second := mapM_ok.mp parsed
      clear filtered parsed
      change networks = cidrs
      induction first generalizing cidrs with
      | nil => cases second; rfl
      | cons here later ih =>
          obtain _ | ⟨there,rest⟩ := second
          have same := (toOption_ok.mpr here).symm.trans ((parseNetwork_kind _ _ _).trans (toOption_ok.mpr there))
          cases same
          rw [ih rest]

-- Whether the country rules of a policy turn an address away.
def XdpListenerPolicy.bars (policy : XdpListenerPolicy) : Option (BitVec 16) → Bool
  | none => decide (policy.flags &&& xdpPolicyGeoUnknownAllow = 0)
  | some country => countryBitIsSet policy.geoDeny country ||
    (decide (policy.flags &&& xdpPolicyGeoAllowHasEntries ≠ 0) && !countryBitIsSet policy.geoAllow country)

theorem XdpListenerPolicy.bars_some {policy : XdpListenerPolicy} : policy.bars (some country) = true ↔
    countryBitIsSet policy.geoDeny country = true ∨
      policy.flags &&& xdpPolicyGeoAllowHasEntries ≠ 0 ∧ ¬ countryBitIsSet policy.geoAllow country = true := by
  simp [bars]

-- What the program is told of a listener, in the terms of its user-space runtime.
structure Reads (policy : XdpListenerPolicySpec) (security : ListenerSecurityRuntime) : Prop where
  trusted : policy.trustedCidrs = if security.config.xdp.cidrFilter then security.trustedCidrs else []
  allow : policy.allowCidrs = if security.config.xdp.cidrFilter then security.allowCidrs else []
  deny : policy.denyCidrs = if security.config.xdp.cidrFilter then security.denyCidrs else []
  threat : policy.threatIntel = (security.config.xdp.threatIntel && security.config.threatIntel.enabled)
  guarded : policy.flags &&& xdpPolicyCidrAllowEnabled ≠ 0 ↔ policy.allowCidrs ≠ []
  located : policy.flags &&& xdpPolicyGeoEnabled ≠ 0 ↔ security.config.xdp.geoFilter = true ∧ security.config.geo.enabled = true
  bars : policy.flags &&& xdpPolicyGeoEnabled ≠ 0 → ∀ (snapshot : GeoSnapshot) ip,
    policy.bars (snapshot.lookupCountry ip) = true ↔ ∃ reason, evaluateGeoPolicy security.geoPolicy (some snapshot) ip = .drop reason

section Flags
variable (guarded located unknown entries limited flooded : Bool)

def flagsOf : BitVec 64 :=
  flagIf guarded xdpPolicyCidrAllowEnabled ||| flagIf located xdpPolicyGeoEnabled ||| flagIf unknown xdpPolicyGeoUnknownAllow |||
    flagIf entries xdpPolicyGeoAllowHasEntries ||| flagIf limited xdpPolicyIpRateLimitEnabled ||| flagIf flooded xdpPolicyFloodEnabled

theorem flagsOf_bits : (flagsOf guarded located unknown entries limited flooded &&& xdpPolicyCidrAllowEnabled = 0 ↔ guarded = false) ∧
    (flagsOf guarded located unknown entries limited flooded &&& xdpPolicyGeoEnabled = 0 ↔ located = false) ∧
    (flagsOf guarded located unknown entries limited flooded &&& xdpPolicyGeoUnknownAllow = 0 ↔ unknown = false) ∧
    (flagsOf guarded located unknown entries limited flooded &&& xdpPolicyGeoAllowHasEntries = 0 ↔ entries = false) := by
  revert guarded located unknown entries limited flooded
  decide

end Flags

-- Whether the country of an address is refused by the user-space policy.
def GeoRefuses (policy : GeoPolicy) : Option (BitVec 16) → Prop
  | none => policy.unknownCountryAllows = false
  | some country => country ∈ policy.denyCountries ∨ policy.allowCountries ≠ [] ∧ country ∉ policy.allowCountries

theorem evaluateGeoPolicy_drops (enabled : policy.enabled = true) (snapshot : GeoSnapshot) (ip : IpAddr) :
    (∃ reason, evaluateGeoPolicy policy (some snapshot) ip = .drop reason) ↔ GeoRefuses policy (snapshot.lookupCountry ip) := by
  unfold evaluateGeoPolicy
  simp only [enabled,Bool.not_true,Bool.false_eq_true,if_false]
  cases snapshot.lookupCountry ip with
  | none => cases allows : policy.unknownCountryAllows <;> simp [GeoRefuses,allows]
  | some country =>
      dsimp only [GeoRefuses]
      by_cases denied : country ∈ policy.denyCountries
      · simp [denied]
      · rw [if_neg denied,or_iff_right denied]
        by_cases outside : policy.allowCountries ≠ [] ∧ country ∉ policy.allowCountries
        · rw [if_pos outside]
          exact ⟨fun _ => outside,fun _ => ⟨_,rfl⟩⟩
        · rw [if_neg outside]
          constructor
          · intro dropped
            cases dropped.choose_spec
          · intro inside
            exact absurd inside outside

theorem fromSecurity_reads (specified : XdpListenerPolicySpec.fromSecurity parseIp security = .ok policy)
    (parsed : ListenerSecurityRuntime.new parseIp security = .ok runtime) : Reads policy runtime := by
  obtain ⟨trusted,trustedRead,specified⟩ := bind_ok.mp specified
  obtain ⟨allow,allowRead,specified⟩ := bind_ok.mp specified
  obtain ⟨deny,denyRead,specified⟩ := bind_ok.mp specified
  obtain ⟨geoAllow,allowSet,specified⟩ := bind_ok.mp specified
  obtain ⟨geoDeny,denySet,specified⟩ := bind_ok.mp specified
  obtain ⟨_,trustedParsed,parsed⟩ := bind_ok.mp parsed
  obtain ⟨_,allowParsed,parsed⟩ := bind_ok.mp parsed
  obtain ⟨_,denyParsed,parsed⟩ := bind_ok.mp parsed
  obtain rfl := Except.ok.inj parsed
  obtain rfl := Except.ok.inj specified
  obtain ⟨guarded,located,unknown,entries⟩ := flagsOf_bits (!allow.isEmpty) (security.xdp.geoFilter && security.geo.enabled)
    (security.xdp.geoFilter && security.geo.enabled && decide (security.geo.unknownCountry = .allow))
    (security.xdp.geoFilter && security.geo.enabled && !security.geo.allowCountries.isEmpty)
    (security.xdp.ipRateLimit && security.ipRateLimit.enabled &&
      decide (0 < security.ipRateLimit.packetsPerSecond ∧ 0 < security.ipRateLimit.burst)) (floodFields security).limits
  refine ⟨filterCidrs_eq trustedRead trustedParsed,filterCidrs_eq allowRead allowParsed,filterCidrs_eq denyRead denyParsed,rfl,?_,?_,?_⟩
  · exact (not_congr guarded).trans (by simp)
  · exact (not_congr located).trans (by simp)
  · intro flagged snapshot ip
    have wanted : (security.xdp.geoFilter && security.geo.enabled) = true := by simpa using (not_congr located).mp flagged
    rw [wanted] at allowSet denySet
    have enabled : security.geo.enabled = true := (Bool.and_eq_true_iff.mp wanted).2
    rw [evaluateGeoPolicy_drops enabled]
    cases snapshot.lookupCountry ip with
    | none =>
        rw [XdpListenerPolicy.bars,decide_eq_true_eq]
        apply unknown.trans
        simp [wanted,GeoRefuses,GeoPolicy.fromConfig]
    | some country =>
        have denied := setCountryBits_ok denySet country
        have allowed := setCountryBits_ok allowSet country
        have nonempty := setCountryBits_all allowSet
        simp only [noCountries_bit,Bool.false_eq_true,false_or] at denied allowed
        refine XdpListenerPolicy.bars_some.trans (or_congr denied (and_congr ?_ (not_congr allowed)))
        apply (not_congr entries).trans
        simpa [wanted,GeoPolicy.fromConfig] using not_congr nonempty.symm

end Reading

end Sigproxy.Xdp
