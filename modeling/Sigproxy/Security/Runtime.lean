import Sigproxy.Proxy.Server
import Sigproxy.Security.Geo
import Sigproxy.Xdp.ThreatPrefixes

namespace Sigproxy.Security
open Library Net Proxy
open Xdp (ThreatSnapshot)

section Config

-- How often invalid packets are logged is left out.
structure EffectiveProxySecurityPrefilterConfig where
  enabled : Bool
  dropInvalidStartLine : Bool
  dropNonSipMethods : Bool
  deriving DecidableEq, Repr

inductive ProxyGeoUnknownCountryPolicy where
  | allow
  | deny
  deriving DecidableEq, Repr

structure EffectiveProxyGeoSecurityConfig where
  enabled : Bool
  failOpen : Bool
  unknownCountry : ProxyGeoUnknownCountryPolicy
  allowCountries : List String
  denyCountries : List String
  deriving DecidableEq, Repr

structure EffectiveProxyThreatIntelSecurityConfig where
  enabled : Bool
  failOpen : Bool
  deriving DecidableEq, Repr

structure EffectiveProxyDynamicBanConfig where
  enabled : Bool
  banSeconds : Nat
  invalidPacketsPerMinute : Nat
  parseErrorsPerMinute : Nat
  sipRateViolationsPerMinute : Nat
  deriving DecidableEq, Repr

structure EffectiveProxyFloodSecurityConfig where
  enabled : Bool
  udpPacketsPerSecond : Nat
  udpBurst : Nat
  tcpPacketsPerSecond : Nat
  tcpBurst : Nat
  tcpSynPacketsPerSecond : Nat
  tcpSynBurst : Nat
  tcpAckPacketsPerSecond : Nat
  tcpAckBurst : Nat
  icmpPacketsPerSecond : Nat
  icmpBurst : Nat
  blockSeconds : Nat
  deriving DecidableEq, Repr

structure EffectiveProxyIpRateLimitConfig where
  enabled : Bool
  packetsPerSecond : Nat
  burst : Nat
  parseErrorsPerMinute : Nat
  blockSeconds : Nat
  deriving DecidableEq, Repr

structure EffectiveProxySipRateLimitConfig where
  enabled : Bool
  registerPerMinutePerAor : Nat
  invitePerMinutePerAor : Nat
  blockSeconds : Nat
  deriving DecidableEq, Repr

structure EffectiveProxyXdpSecurityConfig where
  enabled : Bool
  cidrFilter : Bool
  geoFilter : Bool
  threatIntel : Bool
  ipRateLimit : Bool
  deriving DecidableEq, Repr

structure EffectiveProxySecurityConfig where
  trustedCidrs : List String
  allowCidrs : List String
  denyCidrs : List String
  prefilter : EffectiveProxySecurityPrefilterConfig
  geo : EffectiveProxyGeoSecurityConfig
  threatIntel : EffectiveProxyThreatIntelSecurityConfig
  dynamicBan : EffectiveProxyDynamicBanConfig
  flood : EffectiveProxyFloodSecurityConfig
  ipRateLimit : EffectiveProxyIpRateLimitConfig
  sipRateLimit : EffectiveProxySipRateLimitConfig
  sipPolicy : EffectiveProxySipPolicyConfig
  xdp : EffectiveProxyXdpSecurityConfig
  deriving DecidableEq, Repr

-- The networks do not count: a listener with nothing but them is off as a whole.
def EffectiveProxySecurityConfig.enabled (config : EffectiveProxySecurityConfig) : Bool :=
  config.prefilter.enabled || config.geo.enabled || config.threatIntel.enabled || config.dynamicBan.enabled ||
    config.flood.enabled || config.ipRateLimit.enabled || config.sipRateLimit.enabled ||
    config.sipPolicy.requireRegisteredInviteSource

-- The preset `off`, and what applies where no preset is named.
def EffectiveProxySecurityConfig.off : EffectiveProxySecurityConfig where
  trustedCidrs := []
  allowCidrs := []
  denyCidrs := []
  prefilter := ⟨false,false,false⟩
  geo := ⟨false,true,.allow,[],[]⟩
  threatIntel := ⟨false,true⟩
  dynamicBan := ⟨false,0,0,0,0⟩
  flood := ⟨false,0,0,0,0,0,0,0,0,0,0,0⟩
  ipRateLimit := ⟨false,0,0,0,0⟩
  sipRateLimit := ⟨false,0,0,0⟩
  sipPolicy := ⟨false,.ip⟩
  xdp := ⟨false,true,true,true,true⟩

def EffectiveProxySecurityConfig.defaultSecurity : EffectiveProxySecurityConfig := {off with dynamicBan:=⟨true,3600,30,20,10⟩}

end Config

section Policies

structure GeoPolicy where
  enabled : Bool
  failOpen : Bool
  unknownCountryAllows : Bool
  allowCountries : List (BitVec 16)
  denyCountries : List (BitVec 16)
  deriving DecidableEq, Repr

def GeoPolicy.fromConfig (config : EffectiveProxyGeoSecurityConfig) : GeoPolicy where
  enabled := config.enabled
  failOpen := config.failOpen
  unknownCountryAllows := decide (config.unknownCountry = .allow)
  allowCountries := config.allowCountries.filterMap fun country => (encodeCountry country).toOption
  denyCountries := config.denyCountries.filterMap fun country => (encodeCountry country).toOption

abbrev GeoDecision := SecurityDecision
abbrev ThreatDecision := SecurityDecision

def evaluateGeoPolicy (policy : GeoPolicy) (runtime : Option GeoSnapshot) (ip : IpAddr) : GeoDecision :=
  if !policy.enabled then .allow
  else
    match runtime with
    | none => if policy.failOpen then .allow else .drop "geo-unavailable"
    | some snapshot =>
      match snapshot.lookupCountry ip with
      | none => if policy.unknownCountryAllows then .allow else .drop "geo-unknown-country"
      | some country =>
        if country ∈ policy.denyCountries then .drop "geo-deny-country"
        else if policy.allowCountries ≠ [] ∧ country ∉ policy.allowCountries then .drop "geo-not-allowed-country"
        else .allow

structure ThreatPolicy where
  enabled : Bool
  failOpen : Bool
  deriving DecidableEq, Repr

def ThreatPolicy.fromConfig (config : EffectiveProxyThreatIntelSecurityConfig) : ThreatPolicy := ⟨config.enabled,config.failOpen⟩

def evaluateThreatPolicy (policy : ThreatPolicy) (runtime : Option ThreatSnapshot) (ip : IpAddr) : ThreatDecision :=
  if !policy.enabled then .allow
  else
    match runtime with
    | none => if policy.failOpen then .allow else .drop "threat-intel-unavailable"
    | some snapshot => if snapshot.contains ip then .drop "threat-intel" else .allow

end Policies

section Listener
variable (parseIp : String → Except String IpAddr)

-- `Cidr::parse` and `parse_xdp_cidr` differ in a word of their errors.
def parseNetwork (kind value : String) : Except String Cidr := do
  let value := trim value
  let parseAddress (text : String) := (parseIp text).mapError fun _ => "invalid " ++ kind ++ " address '" ++ value ++ "'"
  let (addr,length) ← match splitOnce '/' value with
    | some (addr,length) => do
      let addr ← parseAddress addr
      let length ← (parseU8 length).mapError fun _ => "invalid " ++ kind ++ " prefix '" ++ value ++ "'"
      pure (addr,some length)
    | none => do
      let addr ← parseAddress value
      pure (addr,none)
  let length := length.getD addr.width
  if bounded : length ≤ addr.width then return ⟨addr,length,bounded⟩
  else .error (kind ++ " prefix in '" ++ value ++ "' must be at most " ++ Nat.repr addr.width)

def Cidr.parse (value : String) : Except String Cidr := parseNetwork parseIp "CIDR" value

def parseCidrs (values : List String) : Except String (List Cidr) := values.mapM (Cidr.parse parseIp)

structure ListenerSecurityRuntime where
  config : EffectiveProxySecurityConfig
  geoPolicy : GeoPolicy
  threatPolicy : ThreatPolicy
  trustedCidrs : List Cidr
  allowCidrs : List Cidr
  denyCidrs : List Cidr
  deriving DecidableEq

namespace ListenerSecurityRuntime

def new (config : EffectiveProxySecurityConfig) : Except String ListenerSecurityRuntime := do
  let trustedCidrs ← parseCidrs parseIp config.trustedCidrs
  let allowCidrs ← parseCidrs parseIp config.allowCidrs
  let denyCidrs ← parseCidrs parseIp config.denyCidrs
  return ⟨config,.fromConfig config.geo,.fromConfig config.threatIntel,trustedCidrs,allowCidrs,denyCidrs⟩

def isTrusted (runtime : ListenerSecurityRuntime) (ip : IpAddr) : Bool := runtime.trustedCidrs.any (·.contains ip)

def isAllowed (runtime : ListenerSecurityRuntime) (ip : IpAddr) : Bool :=
  runtime.allowCidrs.isEmpty || runtime.allowCidrs.any (·.contains ip)

def isDenied (runtime : ListenerSecurityRuntime) (ip : IpAddr) : Bool := runtime.denyCidrs.any (·.contains ip)

end ListenerSecurityRuntime

end Listener

section State

-- Tokens for so many seconds; one bucket counts them in floating point.
structure Rate where
  tokens : Nat
  seconds : Nat
  deriving DecidableEq, Repr

def perSecond (tokens : Nat) : Rate := ⟨tokens,1⟩
def perMinute (tokens : Nat) : Rate := ⟨tokens,60⟩

structure SecurityCodec (Packet Bucket : Type) where
  showIp : IpAddr → String
  isProbableSipStartLine : Packet → Bool → Bool
  newBucket : Rate → Nat → Nat → Bucket
  allow : Bucket → Nat → Rate → Nat → Bool × Bucket

structure SecurityState (Bucket : Type) where
  buckets : Table String Bucket
  blocks : Table String Nat

variable {Packet Bucket : Type} (view : SecurityCodec Packet Bucket)

namespace SecurityState

def allowBucket (state : SecurityState Bucket) (now : Nat) (key : String) (rate : Rate) (burst : Nat) : Bool × SecurityState Bucket :=
  if rate.tokens = 0 ∨ burst = 0 then (true,state)
  else
    let bucket := (state.buckets.lookup key).getD (view.newBucket rate burst now)
    let (allowed,bucket) := view.allow bucket now rate burst
    (allowed,{state with buckets:=state.buckets.insert key bucket})

def isBlocked (state : SecurityState Bucket) (now : Nat) (key : String) : Bool × SecurityState Bucket :=
  match state.blocks.lookup key with
  | some until' => if now < until' then (true,state) else (false,{state with blocks:=state.blocks.erase key})
  | none => (false,state)

-- An instant is a signed 64-bit number of seconds; here it is milliseconds.
def blockFor (state : SecurityState Bucket) (now : Nat) (key : String) (seconds : Nat) : SecurityState Bucket :=
  let until' := now + seconds * 1000
  if seconds = 0 ∨ 2 ^ 63 * 1000 ≤ until' then state
  else
    match state.blocks.lookup key with
    | some existing => if now < existing ∧ until' ≤ existing then state else {state with blocks:=state.blocks.insert key until'}
    | none => {state with blocks:=state.blocks.insert key until'}

end SecurityState

def ipSecurityKey (kind listenerKey : String) (ip : IpAddr) : String := kind ++ "|" ++ listenerKey ++ "|" ++ view.showIp ip

end State

section Runtime
variable {Packet Bucket : Type} (view : SecurityCodec Packet Bucket)

def listenerKey (listener : ProxyListenerConfig) : String := listener.transport.asStr ++ "/" ++ listener.bind

structure SecurityRuntime where
  listeners : Table String ListenerSecurityRuntime
  geo : Option GeoSnapshot
  threat : Option ThreatSnapshot

inductive DynamicOffense where
  | invalidPacket
  | parseError
  | sipRateViolation
  deriving DecidableEq, Repr

def dynamicOffenseForReason (reason : String) : Option DynamicOffense :=
  if reason = "invalid-start-line" then some .invalidPacket
  else if reason ∈ ["parse-error","parse-error-rate-limit"] then some .parseError
  else if reason ∈ ["sip-register-rate-limit","sip-invite-rate-limit","sip-blocked","sip-invalid-from","sip-unregistered-invite",
      "sip-unregistered-invite-source"] then some .sipRateViolation
  else none

def dynamicOffenseKey : DynamicOffense → String
  | .invalidPacket => "invalid-packet"
  | .parseError => "parse-error"
  | .sipRateViolation => "sip-rate-violation"

def floodLimit (flood : EffectiveProxyFloodSecurityConfig) : SipTransport → Nat × Nat × String
  | .udp => (flood.udpPacketsPerSecond,flood.udpBurst,"udp-flood-rate-limit")
  | .tcp => (flood.tcpPacketsPerSecond,flood.tcpBurst,"tcp-flood-rate-limit")
  | .tcpUdp =>
    (max flood.udpPacketsPerSecond flood.tcpPacketsPerSecond,max flood.udpBurst flood.tcpBurst,"tcp-udp-flood-rate-limit")

namespace SecurityRuntime

def listenerByKey (runtime : SecurityRuntime) (key : String) : Option ListenerSecurityRuntime := runtime.listeners.lookup key

def enabled (runtime : SecurityRuntime) (listener : ProxyListenerConfig) : Bool :=
  (runtime.listenerByKey (listenerKey listener)).any fun security => security.config.enabled

-- The bucket of the address, and the ban of its owner when it is empty.
def chargeIp (now : Nat) (kind key blockKey : String) (ip : IpAddr) (rate burst blockSeconds : Nat) (state : SecurityState Bucket) :
    Bool × SecurityState Bucket :=
  let (allowed,state) := state.allowBucket view now (ipSecurityKey view kind key ip) (perSecond rate) burst
  if allowed then (true,state) else (false,state.blockFor now blockKey blockSeconds)

def checkPacket (runtime : SecurityRuntime) (now : Nat) (listener : ProxyListenerConfig) (peer : SocketAddr) (packet : Packet)
    (state : SecurityState Bucket) : SecurityDecision × SecurityState Bucket :=
  let key := listenerKey listener
  match runtime.listenerByKey key with
  | none => (.allow,state)
  | some security =>
    if !security.config.enabled then (.allow,state)
    else if security.isDenied peer.ip then (.drop "denied-cidr",state)
    else if !security.isAllowed peer.ip then (.drop "not-allowed-cidr",state)
    else
      let blockKey := ipSecurityKey view "block" key peer.ip
      let (blocked,state) := state.isBlocked now blockKey
      if blocked then (.drop "ip-blocked",state)
      else if security.isTrusted peer.ip then (.allow,state)
      else
        match evaluateGeoPolicy security.geoPolicy runtime.geo peer.ip with
        | .drop reason => (.drop reason,state)
        | .allow =>
          match evaluateThreatPolicy security.threatPolicy runtime.threat peer.ip with
          | .drop reason => (.drop reason,state)
          | .allow =>
            let flood := security.config.flood
            let (rate,burst,reason) := floodLimit flood listener.transport
            let (unflooded,state) :=
              if flood.enabled ∧ 0 < rate ∧ 0 < burst then
                chargeIp view now "flood-packets" key blockKey peer.ip rate burst flood.blockSeconds state
              else (true,state)
            if !unflooded then (.drop reason,state)
            else
              let ipRate := security.config.ipRateLimit
              let (unlimited,state) :=
                if ipRate.enabled ∧ 0 < ipRate.packetsPerSecond ∧ 0 < ipRate.burst then
                  chargeIp view now "packets" key blockKey peer.ip ipRate.packetsPerSecond ipRate.burst ipRate.blockSeconds state
                else (true,state)
              if !unlimited then (.drop "ip-rate-limit",state)
              else
                let prefilter := security.config.prefilter
                if prefilter.enabled && prefilter.dropInvalidStartLine &&
                    !view.isProbableSipStartLine packet prefilter.dropNonSipMethods then (.drop "invalid-start-line",state)
                else (.allow,state)

-- The bucket counts for a minute, and an empty one bans the address.
def recordDynamicOffense (runtime : SecurityRuntime) (now : Nat) (listener : ProxyListenerConfig) (peer : SocketAddr)
    (offense : Option DynamicOffense) (state : SecurityState Bucket) : SecurityState Bucket :=
  let key := listenerKey listener
  match offense,runtime.listenerByKey key with
  | some offense,some security =>
    let ban := security.config.dynamicBan
    let limit := match offense with
      | .invalidPacket => ban.invalidPacketsPerMinute
      | .parseError => ban.parseErrorsPerMinute
      | .sipRateViolation => ban.sipRateViolationsPerMinute
    if !ban.enabled || (security.isTrusted peer.ip && decide (offense ≠ .sipRateViolation)) || decide (limit = 0) then state
    else
      let bucketKey := "dynamic-ban|" ++ dynamicOffenseKey offense ++ "|" ++ key ++ "|" ++ view.showIp peer.ip
      let (allowed,state) := state.allowBucket view now bucketKey (perMinute limit) limit
      if allowed then state else state.blockFor now (ipSecurityKey view "block" key peer.ip) ban.banSeconds
  | _,_ => state

def handleSecurityDrop (runtime : SecurityRuntime) (now : Nat) (listener : ProxyListenerConfig) (peer : SocketAddr) (reason : String)
    (state : SecurityState Bucket) : SecurityState Bucket :=
  runtime.recordDynamicOffense view now listener peer (dynamicOffenseForReason reason) state

def recordParseError (runtime : SecurityRuntime) (now : Nat) (listener : ProxyListenerConfig) (peer : SocketAddr)
    (state : SecurityState Bucket) : SecurityState Bucket :=
  let key := listenerKey listener
  match runtime.listenerByKey key with
  | none => state
  | some security =>
    let ipRate := security.config.ipRateLimit
    if !security.config.enabled || !ipRate.enabled || decide (ipRate.parseErrorsPerMinute = 0) then state
    else
      let (allowed,state) := state.allowBucket view now (ipSecurityKey view "parse-errors" key peer.ip)
        (perMinute ipRate.parseErrorsPerMinute) ipRate.parseErrorsPerMinute
      if allowed then state else state.blockFor now (ipSecurityKey view "block" key peer.ip) ipRate.blockSeconds

def handleParseError (runtime : SecurityRuntime) (now : Nat) (listener : ProxyListenerConfig) (peer : SocketAddr)
    (state : SecurityState Bucket) : SecurityState Bucket :=
  runtime.recordDynamicOffense view now listener peer (some .parseError) (runtime.recordParseError view now listener peer state)

def sipRateLimit (limit : EffectiveProxySipRateLimitConfig) : Method → Option (Nat × String)
  | .register => if 0 < limit.registerPerMinutePerAor then some (limit.registerPerMinutePerAor,"sip-register-rate-limit") else none
  | .invite => if 0 < limit.invitePerMinutePerAor then some (limit.invitePerMinutePerAor,"sip-invite-rate-limit") else none
  | _ => none

-- `identity` is the AoR of a REGISTER or the From header, and the address where
-- neither can be read.
def checkSipRequest (runtime : SecurityRuntime) (now : Nat) (listener : ProxyListenerConfig) (identity : String) (method : Method)
    (state : SecurityState Bucket) : Option String × SecurityState Bucket :=
  let key := listenerKey listener
  match runtime.listenerByKey key with
  | none => (none,state)
  | some security =>
    let limits := security.config.sipRateLimit
    if !security.config.enabled || !limits.enabled then (none,state)
    else
      match sipRateLimit limits method with
      | none => (none,state)
      | some (limit,reason) =>
        let subject := "|" ++ key ++ "|" ++ method.asStr ++ "|" ++ identity
        let (blocked,state) := state.isBlocked now ("sip-block" ++ subject)
        if blocked then (some "sip-blocked",state)
        else
          let (allowed,state) := state.allowBucket view now ("sip-rate" ++ subject) (perMinute limit) limit
          if allowed then (none,state) else (some reason,state.blockFor now ("sip-block" ++ subject) limits.blockSeconds)

end SecurityRuntime

end Runtime

end Sigproxy.Security
