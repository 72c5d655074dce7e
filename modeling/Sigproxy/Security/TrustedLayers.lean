import Mathlib.Data.List.Dedup
import Mathlib.Data.List.Sort
import Sigproxy.Security.Runtime

namespace Sigproxy.Security
open Net Proxy

section Sections

-- A section of the configuration overrides what it names and inherits the rest.
structure ProxySecurityPrefilterConfig where
  enabled : Option Bool
  dropInvalidStartLine : Option Bool
  dropNonSipMethods : Option Bool

structure ProxyGeoSecurityConfig where
  enabled : Option Bool
  failOpen : Option Bool
  unknownCountry : Option ProxyGeoUnknownCountryPolicy
  allow : Option (List String)
  deny : Option (List String)

structure ProxyThreatIntelSecurityConfig where
  enabled : Option Bool
  failOpen : Option Bool

structure ProxyDynamicBanConfig where
  enabled : Option Bool
  banSeconds : Option Nat
  invalidPacketsPerMinute : Option Nat
  parseErrorsPerMinute : Option Nat
  sipRateViolationsPerMinute : Option Nat

structure ProxyFloodSecurityConfig where
  enabled : Option Bool
  udpPacketsPerSecond : Option Nat
  udpBurst : Option Nat
  tcpPacketsPerSecond : Option Nat
  tcpBurst : Option Nat
  tcpSynPacketsPerSecond : Option Nat
  tcpSynBurst : Option Nat
  tcpAckPacketsPerSecond : Option Nat
  tcpAckBurst : Option Nat
  icmpPacketsPerSecond : Option Nat
  icmpBurst : Option Nat
  blockSeconds : Option Nat

structure ProxyIpRateLimitConfig where
  enabled : Option Bool
  packetsPerSecond : Option Nat
  burst : Option Nat
  parseErrorsPerMinute : Option Nat
  blockSeconds : Option Nat

structure ProxySipRateLimitConfig where
  enabled : Option Bool
  registerPerMinutePerAor : Option Nat
  invitePerMinutePerAor : Option Nat
  blockSeconds : Option Nat

structure ProxySipPolicyConfig where
  requireRegisteredInviteSource : Option Bool
  registeredInviteSourceMatch : Option ProxyRegisteredInviteSourceMatch

structure ProxyXdpSecurityConfig where
  enabled : Option Bool
  cidrFilter : Option Bool
  geoFilter : Option Bool
  threatIntel : Option Bool
  ipRateLimit : Option Bool

inductive ProxySecurityPreset where
  | off
  | trusted
  | «public»
  | strict
  deriving DecidableEq, Repr

structure ProxySecurityConfig where
  preset : Option ProxySecurityPreset
  trustedCidrs : Option (List String)
  allowCidrs : Option (List String)
  denyCidrs : Option (List String)
  prefilter : ProxySecurityPrefilterConfig
  geo : ProxyGeoSecurityConfig
  threatIntel : ProxyThreatIntelSecurityConfig
  dynamicBan : ProxyDynamicBanConfig
  flood : ProxyFloodSecurityConfig
  ipRateLimit : ProxyIpRateLimitConfig
  sipRateLimit : ProxySipRateLimitConfig
  sipPolicy : ProxySipPolicyConfig
  xdp : ProxyXdpSecurityConfig

-- Of the configuration, what the trusted networks depend on.
structure ConfiguredListener extends ProxyListenerConfig where
  security : Option ProxySecurityConfig

structure ProxyConfig where
  security : ProxySecurityConfig
  upstreamSourceCidrs : List String
  listeners : List ConfiguredListener

end Sections

section Layers

def ProxySecurityPrefilterConfig.applyToEffective (config : ProxySecurityPrefilterConfig)
    (effective : EffectiveProxySecurityPrefilterConfig) : EffectiveProxySecurityPrefilterConfig where
  enabled := config.enabled.getD effective.enabled
  dropInvalidStartLine := config.dropInvalidStartLine.getD effective.dropInvalidStartLine
  dropNonSipMethods := config.dropNonSipMethods.getD effective.dropNonSipMethods

def normalizeCountryCodes (values : List String) : List String := values.map fun value => (trim value).toUpper

def ProxyGeoSecurityConfig.applyToEffective (config : ProxyGeoSecurityConfig) (effective : EffectiveProxyGeoSecurityConfig) :
    EffectiveProxyGeoSecurityConfig where
  enabled := config.enabled.getD effective.enabled
  failOpen := config.failOpen.getD effective.failOpen
  unknownCountry := config.unknownCountry.getD effective.unknownCountry
  allowCountries := (config.allow.map normalizeCountryCodes).getD effective.allowCountries
  denyCountries := (config.deny.map normalizeCountryCodes).getD effective.denyCountries

def ProxyThreatIntelSecurityConfig.applyToEffective (config : ProxyThreatIntelSecurityConfig)
    (effective : EffectiveProxyThreatIntelSecurityConfig) : EffectiveProxyThreatIntelSecurityConfig where
  enabled := config.enabled.getD effective.enabled
  failOpen := config.failOpen.getD effective.failOpen

def ProxyDynamicBanConfig.applyToEffective (config : ProxyDynamicBanConfig) (effective : EffectiveProxyDynamicBanConfig) :
    EffectiveProxyDynamicBanConfig where
  enabled := config.enabled.getD effective.enabled
  banSeconds := config.banSeconds.getD effective.banSeconds
  invalidPacketsPerMinute := config.invalidPacketsPerMinute.getD effective.invalidPacketsPerMinute
  parseErrorsPerMinute := config.parseErrorsPerMinute.getD effective.parseErrorsPerMinute
  sipRateViolationsPerMinute := config.sipRateViolationsPerMinute.getD effective.sipRateViolationsPerMinute

def ProxyFloodSecurityConfig.applyToEffective (config : ProxyFloodSecurityConfig) (effective : EffectiveProxyFloodSecurityConfig) :
    EffectiveProxyFloodSecurityConfig where
  enabled := config.enabled.getD effective.enabled
  udpPacketsPerSecond := config.udpPacketsPerSecond.getD effective.udpPacketsPerSecond
  udpBurst := config.udpBurst.getD effective.udpBurst
  tcpPacketsPerSecond := config.tcpPacketsPerSecond.getD effective.tcpPacketsPerSecond
  tcpBurst := config.tcpBurst.getD effective.tcpBurst
  tcpSynPacketsPerSecond := config.tcpSynPacketsPerSecond.getD effective.tcpSynPacketsPerSecond
  tcpSynBurst := config.tcpSynBurst.getD effective.tcpSynBurst
  tcpAckPacketsPerSecond := config.tcpAckPacketsPerSecond.getD effective.tcpAckPacketsPerSecond
  tcpAckBurst := config.tcpAckBurst.getD effective.tcpAckBurst
  icmpPacketsPerSecond := config.icmpPacketsPerSecond.getD effective.icmpPacketsPerSecond
  icmpBurst := config.icmpBurst.getD effective.icmpBurst
  blockSeconds := config.blockSeconds.getD effective.blockSeconds

def ProxyIpRateLimitConfig.applyToEffective (config : ProxyIpRateLimitConfig) (effective : EffectiveProxyIpRateLimitConfig) :
    EffectiveProxyIpRateLimitConfig where
  enabled := config.enabled.getD effective.enabled
  packetsPerSecond := config.packetsPerSecond.getD effective.packetsPerSecond
  burst := config.burst.getD effective.burst
  parseErrorsPerMinute := config.parseErrorsPerMinute.getD effective.parseErrorsPerMinute
  blockSeconds := config.blockSeconds.getD effective.blockSeconds

def ProxySipRateLimitConfig.applyToEffective (config : ProxySipRateLimitConfig) (effective : EffectiveProxySipRateLimitConfig) :
    EffectiveProxySipRateLimitConfig where
  enabled := config.enabled.getD effective.enabled
  registerPerMinutePerAor := config.registerPerMinutePerAor.getD effective.registerPerMinutePerAor
  invitePerMinutePerAor := config.invitePerMinutePerAor.getD effective.invitePerMinutePerAor
  blockSeconds := config.blockSeconds.getD effective.blockSeconds

def ProxySipPolicyConfig.applyToEffective (config : ProxySipPolicyConfig) (effective : EffectiveProxySipPolicyConfig) :
    EffectiveProxySipPolicyConfig where
  requireRegisteredInviteSource := config.requireRegisteredInviteSource.getD effective.requireRegisteredInviteSource
  registeredInviteSourceMatch := config.registeredInviteSourceMatch.getD effective.registeredInviteSourceMatch

def ProxyXdpSecurityConfig.applyToEffective (config : ProxyXdpSecurityConfig) (effective : EffectiveProxyXdpSecurityConfig) :
    EffectiveProxyXdpSecurityConfig where
  enabled := config.enabled.getD effective.enabled
  cidrFilter := config.cidrFilter.getD effective.cidrFilter
  geoFilter := config.geoFilter.getD effective.geoFilter
  threatIntel := config.threatIntel.getD effective.threatIntel
  ipRateLimit := config.ipRateLimit.getD effective.ipRateLimit

def EffectiveProxySecurityConfig.forPreset : ProxySecurityPreset → EffectiveProxySecurityConfig
  | .off => .off
  | .trusted => {EffectiveProxySecurityConfig.off with
      prefilter:=⟨true,true,true⟩,dynamicBan:=⟨true,60,60,60,30⟩,ipRateLimit:=⟨true,200,400,60,60⟩,sipRateLimit:=⟨true,60,120,60⟩}
  | .«public» => {EffectiveProxySecurityConfig.off with
      prefilter:=⟨true,true,true⟩,dynamicBan:=⟨true,300,30,20,10⟩,ipRateLimit:=⟨true,50,100,20,300⟩,sipRateLimit:=⟨true,20,60,300⟩}
  | .strict => {EffectiveProxySecurityConfig.off with
      prefilter:=⟨true,true,true⟩,dynamicBan:=⟨true,900,10,5,5⟩,ipRateLimit:=⟨true,15,30,5,900⟩,sipRateLimit:=⟨true,10,30,900⟩}

-- A preset starts over: nothing of the layers below it is left.
def ProxySecurityConfig.applyToEffective (config : ProxySecurityConfig) (effective : EffectiveProxySecurityConfig) :
    EffectiveProxySecurityConfig :=
  let effective := (config.preset.map EffectiveProxySecurityConfig.forPreset).getD effective
  {
    trustedCidrs:=config.trustedCidrs.getD effective.trustedCidrs
    allowCidrs:=config.allowCidrs.getD effective.allowCidrs
    denyCidrs:=config.denyCidrs.getD effective.denyCidrs
    prefilter:=config.prefilter.applyToEffective effective.prefilter
    geo:=config.geo.applyToEffective effective.geo
    threatIntel:=config.threatIntel.applyToEffective effective.threatIntel
    dynamicBan:=config.dynamicBan.applyToEffective effective.dynamicBan
    flood:=config.flood.applyToEffective effective.flood
    ipRateLimit:=config.ipRateLimit.applyToEffective effective.ipRateLimit
    sipRateLimit:=config.sipRateLimit.applyToEffective effective.sipRateLimit
    sipPolicy:=config.sipPolicy.applyToEffective effective.sipPolicy
    xdp:=config.xdp.applyToEffective effective.xdp}

def ProxyConfig.effectiveSecurityForListener (config : ProxyConfig) (listener : ConfiguredListener) : EffectiveProxySecurityConfig :=
  let effective := config.security.applyToEffective .defaultSecurity
  match listener.security with
  | some security => security.applyToEffective effective
  | none => effective

end Layers

section Automatic
variable (showIp : IpAddr → String)

-- The servers of every group; an address stands once, in the order of a BTreeSet.
structure UpstreamGroups where
  servers : List SocketAddr

def IpAddr.before : IpAddr → IpAddr → Bool
  | .v4 first,.v4 second => decide (first ≤ second)
  | .v4 _,.v6 _ => true
  | .v6 _,.v4 _ => false
  | .v6 first,.v6 second => decide (first ≤ second)

def exactIpCidr (ip : IpAddr) : String := showIp ip ++ "/" ++ Nat.repr ip.width

def UpstreamGroups.automaticTrustedCidrs (upstreams : UpstreamGroups) : List String :=
  ((upstreams.servers.map SocketAddr.ip).dedup.insertionSort fun first second => IpAddr.before first second).map (exactIpCidr showIp)

def pushMissing (cidrs : List String) (cidr : String) : List String := if cidr ∈ cidrs then cidrs else cidrs ++ [cidr]

def mergeTrustedCidrs (configured : Option (List String)) (automatic : List String) : List String :=
  automatic.foldl pushMissing (configured.getD [])

def ProxySecurityConfig.mergeTrusted (automatic : List String) (security : ProxySecurityConfig) : ProxySecurityConfig :=
  {security with trustedCidrs:=some (mergeTrustedCidrs security.trustedCidrs automatic)}

def ConfiguredListener.mergeTrusted (automatic : List String) (listener : ConfiguredListener) : ConfiguredListener :=
  {listener with security:=listener.security.map (·.mergeTrusted automatic)}

def automaticCidrs (config : ProxyConfig) (upstreams : UpstreamGroups) : List String :=
  config.upstreamSourceCidrs.foldl pushMissing (upstreams.automaticTrustedCidrs showIp)

def proxyConfigWithAutomaticUpstreamTrustedCidrs (config : ProxyConfig) (upstreams : UpstreamGroups) : ProxyConfig :=
  let automatic := automaticCidrs showIp config upstreams
  if automatic.isEmpty then config
  else {config with
    security:=config.security.mergeTrusted automatic,
    listeners:=config.listeners.map (·.mergeTrusted automatic)}

end Automatic

section Enlarged
variable {showIp : IpAddr → String} {config : ProxyConfig} {upstreams : UpstreamGroups}

theorem mem_merged {cidrs automatic : List String} : cidr ∈ automatic.foldl pushMissing cidrs ↔ cidr ∈ cidrs ∨ cidr ∈ automatic := by
  induction automatic generalizing cidrs with
  | nil => simp
  | cons head rest ih =>
      have pushed : cidr ∈ pushMissing cidrs head ↔ cidr ∈ cidrs ∨ cidr = head := by
        unfold pushMissing
        split
        · rename_i present
          exact ⟨.inl,fun either => either.elim id fun same => same ▸ present⟩
        · simp
      rw [List.foldl_cons,ih,pushed,List.mem_cons,or_assoc]

theorem mem_automatic : cidr ∈ automaticCidrs showIp config upstreams ↔
    cidr ∈ upstreams.automaticTrustedCidrs showIp ∨ cidr ∈ config.upstreamSourceCidrs := mem_merged

theorem automatic_nil : automaticCidrs showIp config upstreams = [] ↔ upstreams.servers = [] ∧ config.upstreamSourceCidrs = [] := by
  have servers : upstreams.automaticTrustedCidrs showIp = [] ↔ upstreams.servers = [] := by
    unfold UpstreamGroups.automaticTrustedCidrs
    rw [List.map_eq_nil_iff,← List.length_eq_zero_iff,List.length_insertionSort,List.length_eq_zero_iff,List.dedup_eq_nil,List.map_eq_nil_iff]
  rw [← servers]
  simp only [List.eq_nil_iff_forall_not_mem,mem_automatic,not_or,forall_and]

theorem forPreset_trusted (preset : ProxySecurityPreset) : (EffectiveProxySecurityConfig.forPreset preset).trustedCidrs = [] := by
  cases preset <;> rfl

theorem apply_trusted (config : ProxySecurityConfig) (effective : EffectiveProxySecurityConfig) :
    (config.applyToEffective effective).trustedCidrs =
      config.trustedCidrs.getD (if config.preset.isSome then [] else effective.trustedCidrs) := by
  unfold ProxySecurityConfig.applyToEffective
  cases config.preset with
  | none => rfl
  | some preset => simp [forPreset_trusted]

-- No preset trusts anyone, so only the networks named count.
theorem global_trusted (config : ProxySecurityConfig) :
    (config.applyToEffective .defaultSecurity).trustedCidrs = config.trustedCidrs.getD [] := by
  rw [apply_trusted]
  cases config.preset <;> rfl

theorem section_enlarged_iff {automatic : List String} (security : ProxySecurityConfig) (inherited enlarged : EffectiveProxySecurityConfig) :
    (∀ cidr, cidr ∈ ((security.mergeTrusted automatic).applyToEffective enlarged).trustedCidrs ↔
        cidr ∈ (security.applyToEffective inherited).trustedCidrs ∨ cidr ∈ automatic) ↔
      security.trustedCidrs.isSome ∨ security.preset.isSome ∨ ∀ cidr ∈ inherited.trustedCidrs, cidr ∈ automatic := by
  rw [apply_trusted,apply_trusted]
  cases own : security.trustedCidrs with
  | some cidrs => simp [ProxySecurityConfig.mergeTrusted,mergeTrustedCidrs,mem_merged,own]
  | none =>
      cases reset : security.preset with
      | some preset => simp [ProxySecurityConfig.mergeTrusted,mergeTrustedCidrs,mem_merged,own]
      -- The section inherits, until the merge gives it a list of its own.
      | none => simp [ProxySecurityConfig.mergeTrusted,mergeTrustedCidrs,mem_merged,own]

theorem trusted_enlarged_iff {index : Nat} {listener other : ConfiguredListener} (listed : config.listeners[index]? = some listener)
    (merged : (proxyConfigWithAutomaticUpstreamTrustedCidrs showIp config upstreams).listeners[index]? = some other) :
    let automatic (cidr : String) := cidr ∈ upstreams.automaticTrustedCidrs showIp ∨ cidr ∈ config.upstreamSourceCidrs
    (∀ cidr, cidr ∈ ((proxyConfigWithAutomaticUpstreamTrustedCidrs showIp config upstreams).effectiveSecurityForListener other).trustedCidrs ↔
        cidr ∈ (config.effectiveSecurityForListener listener).trustedCidrs ∨ automatic cidr) ↔
      upstreams.servers = [] ∧ config.upstreamSourceCidrs = [] ∨
        ∀ security ∈ listener.security, security.trustedCidrs.isSome ∨ security.preset.isSome ∨
          ∀ cidr ∈ config.security.trustedCidrs.getD [], automatic cidr := by
  dsimp only
  simp only [← mem_automatic]
  rw [← (automatic_nil : automaticCidrs showIp config upstreams = [] ↔ _)]
  unfold proxyConfigWithAutomaticUpstreamTrustedCidrs at merged ⊢
  dsimp only at merged ⊢
  by_cases none : automaticCidrs showIp config upstreams = []
  · rw [none,List.isEmpty_nil,if_pos rfl] at merged ⊢
    cases listed.symm.trans merged
    simp
  · rw [or_iff_right none]
    rw [if_neg (by simpa using none)] at merged ⊢
    simp only [List.getElem?_map,listed,Option.map_some,Option.some.injEq] at merged
    subst merged
    obtain ⟨base,security⟩ := listener
    cases security with
    | none =>
        simp only [ProxyConfig.effectiveSecurityForListener,ConfiguredListener.mergeTrusted,Option.map_none,global_trusted]
        simp [ProxySecurityConfig.mergeTrusted,mergeTrustedCidrs,mem_merged]
    | some security =>
        apply (section_enlarged_iff security _ _).trans
        simp [global_trusted]

end Enlarged

section Runs

def noSection : ProxySecurityConfig :=
  ⟨none,none,none,none,⟨none,none,none⟩,⟨none,none,none,none,none⟩,⟨none,none⟩,⟨none,none,none,none,none⟩,
    ⟨none,none,none,none,none,none,none,none,none,none,none,none⟩,⟨none,none,none,none,none⟩,⟨none,none,none,none⟩,⟨none,none⟩,
    ⟨none,none,none,none,none⟩⟩

def officeListener : ConfiguredListener := ⟨⟨"0.0.0.0:5060",.udp,"default"⟩,none⟩

-- The second listener only sets a rate of its own, under a proxy that trusts a network.
def officeConfig : ProxyConfig where
  security := {noSection with trustedCidrs:=some ["10.0.0.0/8"]}
  upstreamSourceCidrs := ["198.51.100.0/24"]
  listeners := [officeListener,⟨⟨"0.0.0.0:5061",.udp,"default"⟩,some {noSection with sipRateLimit:=⟨none,none,some 12,none⟩}⟩]

def officeUpstreams : UpstreamGroups := ⟨[⟨.v4 0xC0000201,5080⟩]⟩

def officeShow : IpAddr → String := fun _ => "192.0.2.1"

def officeMerged : ProxyConfig := proxyConfigWithAutomaticUpstreamTrustedCidrs officeShow officeConfig officeUpstreams

def ProxyConfig.trustedBy (config : ProxyConfig) (index : Nat) : Option (List String) :=
  config.listeners[index]?.map fun listener => (config.effectiveSecurityForListener listener).trustedCidrs

theorem section_forgets_global : officeConfig.trustedBy 1 = some ["10.0.0.0/8"] ∧
    officeUpstreams.automaticTrustedCidrs officeShow = ["192.0.2.1/32"] ∧ officeConfig.upstreamSourceCidrs = ["198.51.100.0/24"] ∧
    officeMerged.trustedBy 1 = some ["192.0.2.1/32","198.51.100.0/24"] := by
  decide +kernel

theorem plain_listener_enlarged : ∃ listener other, officeConfig.listeners[0]? = some listener ∧ officeMerged.listeners[0]? = some other ∧
    ∀ cidr, cidr ∈ (officeMerged.effectiveSecurityForListener other).trustedCidrs ↔
      cidr ∈ (officeConfig.effectiveSecurityForListener listener).trustedCidrs ∨
        cidr ∈ officeUpstreams.automaticTrustedCidrs officeShow ∨ cidr ∈ officeConfig.upstreamSourceCidrs := by
  have listed : officeConfig.listeners[0]? = some officeListener := rfl
  have merged : (proxyConfigWithAutomaticUpstreamTrustedCidrs officeShow officeConfig officeUpstreams).listeners[0]? = some officeListener := rfl
  refine ⟨_,_,listed,merged,(trusted_enlarged_iff listed merged).mpr (.inr fun security member => ?_)⟩
  exact absurd member (by simp [officeListener])

end Runs

end Sigproxy.Security
