import Sigproxy.Security.TrustedLayers

namespace Sigproxy.Security
open Library Net Proxy

section Sections

-- What is validated of the sections and decides nothing in the modelled checks.
structure ProxyGeoFetchConfig where
  providerBaseUrl : Option String
  cacheDir : Option String
  refreshIntervalSeconds : Option Nat
  requestTimeoutSeconds : Option Nat
  requestRetries : Option Nat

structure ProxyThreatIntelSourceConfig where
  name : String
  url : String
  minScore : Option Nat

structure ProxyThreatIntelFetchConfig where
  cacheDir : Option String
  refreshIntervalSeconds : Option Nat
  requestTimeoutSeconds : Option Nat
  requestRetries : Option Nat
  sources : Option (List ProxyThreatIntelSourceConfig)

structure ProxyXdpMapsConfig where
  interfaces : Option (List String)
  maxDenyCidrsEntries : Option Nat
  maxGeoCidrsEntries : Option Nat

structure ConfiguredSecurity extends ProxySecurityConfig where
  invalidLogSamplePerMinute : Option Nat
  geoFetch : ProxyGeoFetchConfig
  threatFetch : ProxyThreatIntelFetchConfig
  xdpMaps : ProxyXdpMapsConfig

end Sections

section Validate
variable (parseIp : String → Except String IpAddr)

-- An error stands with its causes behind it.
def withContext (context : String) (checked : Except String Result) : Except String Result :=
  checked.mapError fun cause => context ++ ": " ++ cause

def requirePositive (path field : String) (value : Option Nat) : Except String Unit :=
  if value = some 0 then .error (path ++ "." ++ field ++ " must be greater than 0 when set") else .ok ()

def requireNonempty (path field : String) (value : Option String) : Except String Unit :=
  if value.any fun value => trim value = "" then .error (path ++ "." ++ field ++ " must not be empty when set") else .ok ()

def validateCidr (value : String) : Except String Unit := do
  let value := trim value
  if value = "" then .error "CIDR must not be empty"
  else
    match splitOnce '/' value with
    | none => do
      let _ ← withContext "invalid IP address" (parseIp value)
      return ()
    | some (addr,length) => do
      let addr ← withContext "invalid IP address" (parseIp addr)
      let length ← withContext "invalid CIDR prefix" (parseU8 length)
      if addr.width < length then .error ("CIDR prefix must be at most " ++ Nat.repr addr.width) else .ok ()

def validateCountryCode (value : String) : Except String Unit :=
  let value := trim value
  if value.utf8ByteSize ≠ 2 ∨ !value.toList.all Char.isAlpha then .error "country code must contain two ASCII letters" else .ok ()

-- Every entry of a list that is set; the error names the list and the entry.
def validateEntries (validate : String → Except String Unit) (path name : String) (entries : Option (List String)) : Except String Unit :=
  (entries.getD []).forM fun entry => withContext (path ++ "." ++ name ++ " contains '" ++ entry ++ "'") (validate entry)

def validateXdpSecurityConfig (config : ProxyXdpMapsConfig) (path : String) : Except String Unit := do
  (config.interfaces.getD []).forM fun interface =>
    if trim interface = "" then .error (path ++ ".interfaces must not contain empty interface names") else .ok ()
  requirePositive path "max_deny_cidrs_entries" config.maxDenyCidrsEntries
  requirePositive path "max_geo_cidrs_entries" config.maxGeoCidrsEntries

def validateGeoSecurityConfig (config : ProxyGeoSecurityConfig) (fetch : ProxyGeoFetchConfig) (path : String) : Except String Unit := do
  requireNonempty path "provider_base_url" fetch.providerBaseUrl
  requireNonempty path "cache_dir" fetch.cacheDir
  requirePositive path "refresh_interval_seconds" fetch.refreshIntervalSeconds
  requirePositive path "request_timeout_seconds" fetch.requestTimeoutSeconds
  requirePositive path "request_retries" fetch.requestRetries
  validateEntries validateCountryCode path "allow.countries" config.allow
  validateEntries validateCountryCode path "deny.countries" config.deny

def validateThreatIntelSource (path : String) (source : ProxyThreatIntelSourceConfig) (index : Nat) : Except String Unit :=
  let sourcePath := path ++ ".sources[" ++ Nat.repr index ++ "]"
  if trim source.name = "" then .error (sourcePath ++ ".name must not be empty")
  else if trim source.url = "" then .error (sourcePath ++ ".url must not be empty")
  else requirePositive sourcePath "min_score" source.minScore

def validateThreatIntelSecurityConfig (fetch : ProxyThreatIntelFetchConfig) (path : String) : Except String Unit := do
  requireNonempty path "cache_dir" fetch.cacheDir
  requirePositive path "refresh_interval_seconds" fetch.refreshIntervalSeconds
  requirePositive path "request_timeout_seconds" fetch.requestTimeoutSeconds
  requirePositive path "request_retries" fetch.requestRetries
  (fetch.sources.getD []).zipIdx.forM fun source => validateThreatIntelSource path source.1 source.2

def validateLimits (path : String) (limits : List (String × Option Nat)) : Except String Unit :=
  limits.forM fun limit => requirePositive path limit.1 limit.2

def ProxyDynamicBanConfig.limits (config : ProxyDynamicBanConfig) : List (String × Option Nat) :=
  [("ban_seconds",config.banSeconds),("invalid_packets_per_minute",config.invalidPacketsPerMinute),
    ("parse_errors_per_minute",config.parseErrorsPerMinute),("sip_rate_violations_per_minute",config.sipRateViolationsPerMinute)]

def ProxyFloodSecurityConfig.limits (config : ProxyFloodSecurityConfig) : List (String × Option Nat) :=
  [("udp_packets_per_second",config.udpPacketsPerSecond),("udp_burst",config.udpBurst),
    ("tcp_packets_per_second",config.tcpPacketsPerSecond),("tcp_burst",config.tcpBurst),
    ("tcp_syn_packets_per_second",config.tcpSynPacketsPerSecond),("tcp_syn_burst",config.tcpSynBurst),
    ("tcp_ack_packets_per_second",config.tcpAckPacketsPerSecond),("tcp_ack_burst",config.tcpAckBurst),
    ("icmp_packets_per_second",config.icmpPacketsPerSecond),("icmp_burst",config.icmpBurst),("block_seconds",config.blockSeconds)]

-- The block times of these two go unchecked.
def ProxyIpRateLimitConfig.limits (config : ProxyIpRateLimitConfig) : List (String × Option Nat) :=
  [("packets_per_second",config.packetsPerSecond),("burst",config.burst),("parse_errors_per_minute",config.parseErrorsPerMinute)]

def ProxySipRateLimitConfig.limits (config : ProxySipRateLimitConfig) : List (String × Option Nat) :=
  [("register_per_minute_per_aor",config.registerPerMinutePerAor),("invite_per_minute_per_aor",config.invitePerMinutePerAor)]

def validateDynamicBanConfig (config : ProxyDynamicBanConfig) (path : String) := validateLimits path config.limits
def validateFloodSecurityConfig (config : ProxyFloodSecurityConfig) (path : String) := validateLimits path config.limits

def validateSecurityConfig (config : ConfiguredSecurity) (path : String) : Except String Unit := do
  validateEntries (validateCidr parseIp) path "trusted_cidrs" config.trustedCidrs
  validateEntries (validateCidr parseIp) path "allow_cidrs" config.allowCidrs
  validateEntries (validateCidr parseIp) path "deny_cidrs" config.denyCidrs
  requirePositive (path ++ ".prefilter") "invalid_log_sample_per_minute" config.invalidLogSamplePerMinute
  validateGeoSecurityConfig config.geo config.geoFetch (path ++ ".geo")
  validateThreatIntelSecurityConfig config.threatFetch (path ++ ".threat_intel")
  validateDynamicBanConfig config.dynamicBan (path ++ ".dynamic_ban")
  validateFloodSecurityConfig config.flood (path ++ ".flood")
  validateXdpSecurityConfig config.xdpMaps (path ++ ".xdp")
  validateLimits (path ++ ".ip_rate_limit") config.ipRateLimit.limits
  validateLimits (path ++ ".sip_rate_limit") config.sipRateLimit.limits

end Validate

section Accepted
variable {parseIp : String → Except String IpAddr} {config : ConfiguredSecurity}

theorem requirePositive_ok : requirePositive path field value = .ok () ↔ value ≠ some 0 := by
  unfold requirePositive
  split
  · rename_i zero
    exact ⟨nofun,fun some => absurd zero some⟩
  · rename_i some
    exact ⟨fun _ => some,fun _ => rfl⟩

theorem validateLimits_ok : validateLimits path limits = .ok () ↔ ∀ limit ∈ limits, limit.2 ≠ some 0 := by
  unfold validateLimits
  rw [forM_ok]
  exact forall₂_congr fun _ _ => requirePositive_ok

def ProxySecurityConfig.limits (config : ProxySecurityConfig) : List (String × Option Nat) :=
  config.dynamicBan.limits ++ config.flood.limits ++ config.ipRateLimit.limits ++ config.sipRateLimit.limits

theorem accepted_limits (accepted : validateSecurityConfig parseIp config path = .ok ()) : ∀ limit ∈ config.limits, limit.2 ≠ some 0 := by
  obtain ⟨_,_,trusted⟩ := bind_ok.mp accepted
  obtain ⟨_,_,allowed⟩ := bind_ok.mp trusted
  obtain ⟨_,_,denied⟩ := bind_ok.mp allowed
  obtain ⟨_,_,sampled⟩ := bind_ok.mp denied
  obtain ⟨_,_,placed⟩ := bind_ok.mp sampled
  obtain ⟨_,_,listed⟩ := bind_ok.mp placed
  obtain ⟨_,bans,banned⟩ := bind_ok.mp listed
  obtain ⟨_,floods,flooded⟩ := bind_ok.mp banned
  obtain ⟨_,_,mapped⟩ := bind_ok.mp flooded
  obtain ⟨_,packets,requests⟩ := bind_ok.mp mapped
  intro limit member
  unfold ProxySecurityConfig.limits at member
  rcases List.mem_append.mp member with member | sip
  · rcases List.mem_append.mp member with member | ip
    · rcases List.mem_append.mp member with ban | flood
      · exact validateLimits_ok.mp bans limit ban
      · exact validateLimits_ok.mp floods limit flood
    · exact validateLimits_ok.mp packets limit ip
  · exact validateLimits_ok.mp requests limit sip

-- A configuration that names nothing.
def ConfiguredSecurity.unset : ConfiguredSecurity where
  preset := none
  trustedCidrs := none
  allowCidrs := none
  denyCidrs := none
  prefilter := ⟨none,none,none⟩
  geo := ⟨none,none,none,none,none⟩
  threatIntel := ⟨none,none⟩
  dynamicBan := ⟨none,none,none,none,none⟩
  flood := ⟨none,none,none,none,none,none,none,none,none,none,none,none⟩
  ipRateLimit := ⟨none,none,none,none,none⟩
  sipRateLimit := ⟨none,none,none,none⟩
  sipPolicy := ⟨none,none⟩
  xdp := ⟨none,none,none,none,none⟩
  invalidLogSamplePerMinute := none
  geoFetch := ⟨none,none,none,none,none⟩
  threatFetch := ⟨none,none,none,none,none⟩
  xdpMaps := ⟨none,none,none⟩

-- Nothing relates the burst of the packet buckets to their rate.
theorem any_packet_limit_accepted (parseIp : String → Except String IpAddr) (path : String) (rate burst : Nat) :
    validateSecurityConfig parseIp {ConfiguredSecurity.unset with ipRateLimit:=⟨some true,some (rate + 1),some (burst + 1),none,none⟩} path =
      .ok () := rfl

end Accepted

end Sigproxy.Security
