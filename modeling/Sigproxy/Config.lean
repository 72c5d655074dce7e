import Sigproxy.Library.Fallible
import Sigproxy.Security.Validation
import Sigproxy.Upstream

namespace Sigproxy
open Library Net Upstream
open Affinity (ProxyAffinityConfig)
open Proxy (ProxyListenerConfig RegisterRoutingMode trim)
open Security (ConfiguredSecurity validateSecurityConfig validateCidr withContext listenerKey)

namespace Config

section Sections

structure NodeConfig where
  id : Nat

structure SipConfig where
  externalAddr : Option String
  publicAddr : Option String
  internalAddr : Option String
  publicStunServer : Option String
  internalProbeAddr : String
  maxMessageBytes : Nat

structure ProxySocketConfig where
  reusePort : Bool
  workersPerListener : Nat
  udpHandlerQueueSize : Nat
  recvBufferBytes : Option Nat
  sendBufferBytes : Option Nat

structure ProxyMetricsConfig where
  enabled : Bool
  bindAddr : String

structure ProxyListener extends ProxyListenerConfig where
  security : Option ConfiguredSecurity

structure RouteConfig where
  name : String
  listener : Option String
  domain : Option String
  uriPrefix : Option String
  upstreamGroup : String
  deriving DecidableEq, Repr

structure ProxyConfig where
  registerRouting : Option RegisterRoutingMode
  rewriteRegisterContact : Bool
  udpClientTransactionCacheEntries : Nat
  socket : ProxySocketConfig
  metrics : ProxyMetricsConfig
  affinity : ProxyAffinityConfig
  security : ConfiguredSecurity
  listeners : List ProxyListener
  upstreamSourceCidrs : List String
  upstreamGroups : List UpstreamGroupConfig
  routes : List RouteConfig

structure PersistenceConfig where
  enabled : Bool
  path : String
  eventRetentionSeconds : Nat
  cleanupIntervalMs : Nat

structure HaConfig where
  enabled : Bool
  leaderCheckIntervalMs : Nat
  heartbeatBind : String
  peerHeartbeatAddr : Option String
  heartbeatIntervalMs : Nat
  failoverTimeoutMs : Nat
  replicationBindAddr : String
  peerReplicationAddr : Option String
  replicationPullIntervalMs : Nat
  replicationRequestTimeoutMs : Nat

end Sections
end Config

-- The fields that no check reads are left out.
structure Config where
  node : Config.NodeConfig
  sip : Config.SipConfig
  proxy : Config.ProxyConfig
  persistence : Config.PersistenceConfig
  ha : Config.HaConfig

namespace Config

section Parsing

inductive Scheme where
  | sip
  | sips
  | other
  deriving DecidableEq, Repr

structure Uri where
  scheme : Option Scheme
  host : String
  deriving DecidableEq, Repr

-- The parsers of the standard library and of the SIP stack.
structure Parsers where
  socketAddr : String → Except String SocketAddr
  ip : String → Except String IpAddr
  u16 : String → Except String (BitVec 16)
  uri : String → Except String Uri

def rsplitOnce (separator : Char) (text : String) : Option (String × String) :=
  match text.toList.reverse.span (· != separator) with
  | (after,_ :: before) => some (.ofList before.reverse,.ofList after.reverse)
  | (_,[]) => none

def splitHostPort (value : String) : Option (String × String) :=
  match value.toList with
  | '[' :: rest =>
    match rest.span (· != ']') with
    | (inside,_ :: ':' :: port) => some (.ofList ('[' :: inside ++ [']']),.ofList port)
    | _ => none
  | chars => if chars.count ':' = 1 then rsplitOnce ':' value else none

def isBracket (char : Char) : Bool := char == '[' || char == ']'

def trimBrackets (text : String) : String := .ofList ((text.toList.dropWhile isBracket).reverse.dropWhile isBracket).reverse

variable (parsers : Parsers)

def bailIf (wrong : Prop) [Decidable wrong] (text : String) : Except String Unit := if wrong then .error text else .ok ()

def discard (parsed : Except String Value) : Except String Unit := parsed.map fun _ => ()

def validateHostPort (value : String) : Except String Unit :=
  match parsers.socketAddr value with
  | .ok _ => .ok ()
  | .error _ =>
    match rsplitOnce ':' value with
    | none => .error "missing port"
    | some (host,port) => do
      bailIf (trim host = "") "missing host"
      discard (withContext "invalid port" (parsers.u16 port))

def validateAdvertisedAddr (value : String) : Except String Unit := do
  bailIf (trim value = "") "missing host"
  match parsers.socketAddr value with
  | .ok _ => return ()
  | .error _ =>
    match splitHostPort value with
    | none => return ()
    | some (host,port) => do
      bailIf (trim host = "") "missing host"
      discard (withContext "invalid port" (parsers.u16 port))

def parseIpSocketAddr (value : String) (defaultPort : BitVec 16) : Option SocketAddr :=
  let value := trim value
  if value = "" then none
  else
    match parsers.socketAddr value with
    | .ok addr => some addr
    | .error _ =>
      match splitHostPort value with
      | some (host,port) => do return ⟨← (parsers.ip (trimBrackets host)).toOption,← (parsers.u16 port).toOption⟩
      | none => do return ⟨← (parsers.ip (trimBrackets value)).toOption,defaultPort⟩

end Parsing

section Listeners

def concreteTransports : SipTransport → List SipTransport
  | .udp => [.udp]
  | .tcp => [.tcp]
  | .tcpUdp => [.udp,.tcp]

namespace ProxyListener

def key (listener : ProxyListener) : String := listenerKey listener.toProxyListenerConfig

def withTransport (listener : ProxyListener) (transport : SipTransport) : ProxyListener := {listener with transport:=transport}

def concreteListeners (listener : ProxyListener) : List ProxyListener :=
  (concreteTransports listener.transport).map listener.withTransport

end ProxyListener
end Listeners

section Loops
variable (parsers : Parsers)

-- A set there: which of the groups is checked first is left open.
def upstreamGroupsUsedByListener (proxy : ProxyConfig) (configured listener : ProxyListener) : List String :=
  let applies (route : RouteConfig) := route.listener.all fun key => key == listener.key || key == configured.key
  listener.upstreamGroup :: (proxy.routes.filter applies).map RouteConfig.upstreamGroup

def listenerPort (listener : ProxyListener) : BitVec 16 :=
  match parsers.socketAddr listener.bind with
  | .ok addr => addr.port
  | .error _ => 5060

def isUnspecified : IpAddr → Bool
  | .v4 bits => bits = 0
  | .v6 bits => bits = 0

def advertised (sip : SipConfig) : List (String × Option String) :=
  [("sip.external_addr",sip.externalAddr),("sip.public_addr",sip.publicAddr),("sip.internal_addr",sip.internalAddr)]

def proxySelfAddrsForListener (sip : SipConfig) (listener : ProxyListener) : List (String × SocketAddr) :=
  let named := (advertised sip).filterMap fun entry => do
    return (entry.1,← parseIpSocketAddr parsers (← entry.2) (listenerPort parsers listener))
  match parsers.socketAddr listener.bind with
  | .ok bind => if isUnspecified bind.ip then named else named ++ [("listener.bind",bind)]
  | .error _ => named

def validateServerLeadsAway (group server : String) (listener : ProxyListener) (selfAddrs : List (String × SocketAddr)) : Except String Unit :=
  match parsers.socketAddr server with
  | .error _ => .ok ()
  | .ok addr =>
    match selfAddrs.find? fun entry => entry.2 == addr with
    | none => .ok ()
    | some (source,_) => .error ("proxy upstream group '" ++ group ++ "' server '" ++ server ++ "' points back to this proxy listener '" ++
        listener.key ++ "' via " ++ source ++ "; use a real backend address to avoid SIP forwarding loops")

def validateUpstreamTargetsDoNotLoopToProxy (config : Config) : Except String Unit :=
  config.proxy.listeners.forM fun configured => configured.concreteListeners.forM fun listener =>
    let selfAddrs := proxySelfAddrsForListener parsers config.sip listener
    (upstreamGroupsUsedByListener config.proxy configured listener).forM fun name =>
      match config.proxy.upstreamGroups.find? fun group => group.name == name with
      | none => .ok ()
      | some group => group.servers.forM fun server => validateServerLeadsAway parsers group.name server listener selfAddrs

end Loops

section Validate
variable (parsers : Parsers)

def validateSip (sip : SipConfig) : Except String Unit := do
  bailIf (sip.maxMessageBytes = 0) "sip.max_message_bytes must be greater than 0"
  (advertised sip).forM fun entry =>
    match entry.2 with
    | none => .ok ()
    | some value =>
      if trim value = "" then .ok ()
      else withContext (entry.1 ++ " must be host or host:port") (validateAdvertisedAddr parsers value)
  match sip.publicStunServer with
  | none => pure ()
  | some server =>
    if trim server = "" then pure () else withContext "sip.public_stun_server must be host:port" (validateHostPort parsers server)
  if trim sip.internalProbeAddr = "" then return ()
  else withContext "sip.internal_probe_addr must be host:port" (validateHostPort parsers sip.internalProbeAddr)

def validateSocket (socket : ProxySocketConfig) : Except String Unit := do
  bailIf (socket.workersPerListener = 0 ∧ socket.reusePort = false)
    "proxy.socket.reuse_port must be true when workers_per_listener is 0 (auto)"
  bailIf (1 < socket.workersPerListener ∧ socket.reusePort = false)
    "proxy.socket.reuse_port must be true when workers_per_listener is greater than 1"
  bailIf (socket.recvBufferBytes = some 0) "proxy.socket.recv_buffer_bytes must be greater than 0 when set"
  bailIf (socket.sendBufferBytes = some 0) "proxy.socket.send_buffer_bytes must be greater than 0 when set"
  bailIf (socket.udpHandlerQueueSize = 0) "proxy.socket.udp_handler_queue_size must be greater than 0"

def validateProxy (proxy : ProxyConfig) : Except String Unit := do
  bailIf (proxy.listeners = []) "proxy.listeners must contain at least one SIP listener"
  bailIf (proxy.upstreamGroups = []) "proxy.upstream_groups must contain at least one backend group"
  bailIf (proxy.udpClientTransactionCacheEntries = 0) "proxy.udp_client_transaction_cache_entries must be greater than 0"
  validateSocket proxy.socket
  if proxy.metrics.enabled then
    discard (withContext "proxy.metrics.bind_addr must be a SocketAddr when metrics is enabled" (parsers.socketAddr proxy.metrics.bindAddr))
  bailIf (proxy.affinity.enabled = true ∧ proxy.affinity.ttlSeconds = 0)
    "proxy.affinity.ttl_seconds must be greater than 0 when affinity is enabled"
  proxy.upstreamSourceCidrs.forM fun cidr =>
    withContext ("proxy.upstream_source_cidrs contains '" ++ cidr ++ "'") (validateCidr parsers.ip cidr)
  validateSecurityConfig parsers.ip proxy.security "proxy.security"
  bailIf (proxy.registerRouting = some .path ∧ proxy.rewriteRegisterContact = true)
    "proxy.register_routing = \"path\" conflicts with legacy proxy.rewrite_register_contact = true"

def validateProbe (group : String) : UpstreamHealthProbeConfig → Except String Unit
  | .tcpConnect => .ok ()
  | .options transport uri successCodes => do
    bailIf (transport = .tcpUdp) ("proxy upstream group '" ++ group ++ "' health_check.probe.transport must be udp or tcp")
    let parsed ← withContext ("proxy upstream group '" ++ group ++ "' health_check.probe.uri must be a SIP URI") (parsers.uri uri)
    bailIf (parsed.scheme ≠ some .sip ∧ parsed.scheme ≠ some .sips)
      ("proxy upstream group '" ++ group ++ "' health_check.probe.uri must use sip or sips scheme")
    successCodes.forM fun code => bailIf (code < 100 ∨ 699 < code)
      ("proxy upstream group '" ++ group ++ "' health_check.probe.success_codes must contain valid SIP status codes")

def validateHealthCheck (group : String) (check : UpstreamHealthCheckConfig) : Except String Unit := do
  let positive (field : String) (isZero : Bool) := bailIf (isZero = true)
    ("proxy upstream group '" ++ group ++ "' health_check." ++ field ++ " must be greater than 0")
  positive "interval_ms" (check.intervalMs = 0)
  positive "timeout_ms" (check.timeoutMs = 0)
  positive "success_threshold" (check.successThreshold = 0)
  positive "failure_threshold" (check.failureThreshold = 0)
  validateProbe parsers group check.probe

def validateUpstreamGroup (group : UpstreamGroupConfig) : Except String Unit := do
  bailIf (group.servers = []) ("proxy upstream group '" ++ group.name ++ "' must contain at least one server")
  if group.healthCheck.enabled then validateHealthCheck parsers group.name group.healthCheck
  group.servers.forM fun server =>
    withContext ("proxy upstream group '" ++ group.name ++ "' server must be host:port") (validateHostPort parsers server)

-- The names of the groups, the last one first.
def validateUpstreamGroups : List String → List UpstreamGroupConfig → Except String (List String)
  | groupNames,[] => .ok groupNames
  | groupNames,group :: rest => do
    bailIf (group.name ∈ groupNames) ("duplicate proxy upstream group '" ++ group.name ++ "'")
    validateUpstreamGroup parsers group
    validateUpstreamGroups (group.name :: groupNames) rest

-- The keys of the concrete listeners, and those that a route may name.
structure ListenerKeys where
  listenerKeys : List String
  routeListenerKeys : List String

def claimKeys : ListenerKeys → List ProxyListener → Except String ListenerKeys
  | keys,[] => .ok keys
  | keys,listener :: rest => do
    bailIf (listener.key ∈ keys.listenerKeys) ("duplicate proxy listener '" ++ listener.key ++ "'")
    claimKeys ⟨listener.key :: keys.listenerKeys,listener.key :: keys.routeListenerKeys⟩ rest

def validateListener (groupNames : List String) (listener : ProxyListener) : Except String Unit := do
  let subject := "proxy listener '" ++ listener.transport.asStr ++ " " ++ listener.bind ++ "'"
  discard (withContext (subject ++ " bind must be host:port SocketAddr") (parsers.socketAddr listener.bind))
  bailIf (listener.upstreamGroup ∉ groupNames) (subject ++ " references unknown upstream_group '" ++ listener.upstreamGroup ++ "'")
  match listener.security with
  | none => return ()
  | some security => validateSecurityConfig parsers.ip security (subject ++ " security")

def validateListeners (groupNames : List String) : ListenerKeys → List ProxyListener → Except String ListenerKeys
  | keys,[] => .ok keys
  | keys,listener :: rest => do
    validateListener parsers groupNames listener
    let keys ← claimKeys {keys with routeListenerKeys:=listener.key :: keys.routeListenerKeys} listener.concreteListeners
    validateListeners groupNames keys rest

def validateRoute (groupNames : List String) (keys : ListenerKeys) (route : RouteConfig) : Except String Unit := do
  bailIf (route.upstreamGroup ∉ groupNames)
    ("proxy route '" ++ route.name ++ "' references unknown upstream_group '" ++ route.upstreamGroup ++ "'")
  match route.listener with
  | none => return ()
  | some listener =>
    bailIf (listener ∉ keys.routeListenerKeys)
      ("proxy route '" ++ route.name ++ "' references unknown listener '" ++ listener ++ "'")

def validatePersistence (persistence : PersistenceConfig) : Except String Unit :=
  if persistence.enabled then do
    bailIf (trim persistence.path = "") "persistence.path must not be empty when persistence is enabled"
    bailIf (persistence.cleanupIntervalMs = 0) "persistence.cleanup_interval_ms must be greater than 0 when persistence is enabled"
    bailIf (persistence.eventRetentionSeconds = 0) "persistence.event_retention_seconds must be greater than 0 when persistence is enabled"
  else .ok ()

def validatePeer (field : String) (addr : Option String) : Except String Unit :=
  match addr with
  | none => .error (field ++ " must be set when HA is enabled")
  | some addr => discard (withContext (field ++ " must be a SocketAddr when HA is enabled") (parsers.socketAddr addr))

-- The pair and its replication are enabled together.
def validateHa (ha : HaConfig) : Except String Unit :=
  if ha.enabled then do
    discard (withContext "ha.heartbeat_bind must be a SocketAddr when HA is enabled" (parsers.socketAddr ha.heartbeatBind))
    validatePeer parsers "ha.peer_heartbeat_addr" ha.peerHeartbeatAddr
    bailIf (ha.heartbeatIntervalMs = 0) "ha.heartbeat_interval_ms must be greater than 0"
    bailIf (ha.failoverTimeoutMs ≤ ha.heartbeatIntervalMs) "ha.failover_timeout_ms must be greater than heartbeat_interval_ms"
    discard (withContext "ha.replication_bind_addr must be a SocketAddr when HA is enabled" (parsers.socketAddr ha.replicationBindAddr))
    validatePeer parsers "ha.peer_replication_addr" ha.peerReplicationAddr
    bailIf (ha.replicationPullIntervalMs = 0) "ha.replication_pull_interval_ms must be greater than 0"
    bailIf (ha.replicationRequestTimeoutMs = 0) "ha.replication_request_timeout_ms must be greater than 0"
  else .ok ()

def validate (config : Config) : Except String Unit := do
  bailIf (config.node.id = 0) "node.id must be greater than 0"
  validateSip parsers config.sip
  validateProxy parsers config.proxy
  let groupNames ← validateUpstreamGroups parsers [] config.proxy.upstreamGroups
  let keys ← validateListeners parsers groupNames ⟨[],[]⟩ config.proxy.listeners
  config.proxy.routes.forM (validateRoute groupNames keys)
  validateUpstreamTargetsDoNotLoopToProxy parsers config
  bailIf (config.ha.leaderCheckIntervalMs = 0) "ha.leader_check_interval_ms must be greater than 0"
  validatePersistence config.persistence
  validateHa parsers config.ha

end Validate

section Accepted
variable {parsers : Parsers}

theorem bailIf_ok {wrong : Prop} [Decidable wrong] : bailIf wrong text = .ok () ↔ ¬wrong := by
  unfold bailIf
  split
  · rename_i holds
    exact ⟨nofun,fun refuted => (refuted holds).elim⟩
  · rename_i refuted
    exact ⟨fun _ => refuted,fun _ => rfl⟩

theorem validateUpstreamGroups_ok (accepted : validateUpstreamGroups parsers groupNames groups = .ok names) :
    names = (groups.map UpstreamGroupConfig.name).reverse ++ groupNames ∧ (groupNames.Nodup → names.Nodup) ∧
    ∀ group ∈ groups, group.servers ≠ [] := by
  induction groups generalizing groupNames with
  | nil =>
      cases accepted
      exact ⟨rfl,id,fun _ none => (nomatch none)⟩
  | cons group rest ih =>
      obtain ⟨_,fresh,more⟩ := bind_ok.mp accepted
      obtain ⟨_,valid,later⟩ := bind_ok.mp more
      obtain ⟨_,served,-⟩ := bind_ok.mp valid
      obtain ⟨same,distinct,others⟩ := ih later
      refine ⟨by simp [same],fun nodup => distinct (List.nodup_cons.mpr ⟨bailIf_ok.mp fresh,nodup⟩),fun other member => ?_⟩
      obtain rfl | member := List.mem_cons.mp member
      · exact bailIf_ok.mp served
      · exact others other member

theorem claimKeys_ok (accepted : claimKeys keys listeners = .ok claimed) :
    claimed.listenerKeys = (listeners.map ProxyListener.key).reverse ++ keys.listenerKeys ∧
    (keys.listenerKeys.Nodup → claimed.listenerKeys.Nodup) := by
  induction listeners generalizing keys with
  | nil =>
      cases accepted
      exact ⟨rfl,id⟩
  | cons listener rest ih =>
      obtain ⟨_,fresh,later⟩ := bind_ok.mp accepted
      obtain ⟨same,distinct⟩ := ih later
      exact ⟨by simp [same],fun nodup => distinct (List.nodup_cons.mpr ⟨bailIf_ok.mp fresh,nodup⟩)⟩

theorem validateListeners_ok (accepted : validateListeners parsers groupNames keys listeners = .ok claimed) :
    claimed.listenerKeys = ((listeners.flatMap ProxyListener.concreteListeners).map ProxyListener.key).reverse ++ keys.listenerKeys ∧
    (keys.listenerKeys.Nodup → claimed.listenerKeys.Nodup) ∧ ∀ listener ∈ listeners, listener.upstreamGroup ∈ groupNames := by
  induction listeners generalizing keys with
  | nil =>
      cases accepted
      exact ⟨rfl,id,fun _ none => (nomatch none)⟩
  | cons listener rest ih =>
      obtain ⟨_,valid,more⟩ := bind_ok.mp accepted
      obtain ⟨_,_,checked⟩ := bind_ok.mp valid
      obtain ⟨_,known,-⟩ := bind_ok.mp checked
      obtain ⟨concrete,claimedHere,later⟩ := bind_ok.mp more
      obtain ⟨here,distinctHere⟩ := claimKeys_ok claimedHere
      obtain ⟨same,distinct,others⟩ := ih later
      refine ⟨by simp [same,here],fun nodup => distinct (distinctHere nodup),fun other member => ?_⟩
      obtain rfl | member := List.mem_cons.mp member
      · exact Decidable.not_not.mp (bailIf_ok.mp known)
      · exact others other member

-- What the names and keys of a validated configuration are good for.
structure Accepted (config : Config) : Prop where
  named : (config.proxy.upstreamGroups.map UpstreamGroupConfig.name).Nodup
  served : ∀ group ∈ config.proxy.upstreamGroups, group.servers ≠ []
  listens : ∀ listener ∈ config.proxy.listeners, ∃ group ∈ config.proxy.upstreamGroups, group.name = listener.upstreamGroup
  distinct : ((config.proxy.listeners.flatMap ProxyListener.concreteListeners).map ProxyListener.key).Nodup
  routed : ∀ route ∈ config.proxy.routes, ∃ group ∈ config.proxy.upstreamGroups, group.name = route.upstreamGroup

theorem validate_accepted {config : Config} (valid : config.validate parsers = .ok ()) : Accepted config := by
  obtain ⟨_,_,valid⟩ := bind_ok.mp valid
  obtain ⟨_,_,valid⟩ := bind_ok.mp valid
  obtain ⟨_,_,valid⟩ := bind_ok.mp valid
  obtain ⟨names,groups,valid⟩ := bind_ok.mp valid
  obtain ⟨keys,listeners,valid⟩ := bind_ok.mp valid
  obtain ⟨_,routes,-⟩ := bind_ok.mp valid
  obtain ⟨sameNames,namesApart,served⟩ := validateUpstreamGroups_ok groups
  obtain ⟨sameKeys,keysApart,listens⟩ := validateListeners_ok listeners
  have nodup := namesApart List.nodup_nil
  have apart := keysApart List.nodup_nil
  rw [List.append_nil] at sameNames sameKeys
  subst sameNames
  rw [sameKeys] at apart
  have known {name : String} (member : name ∈ (config.proxy.upstreamGroups.map UpstreamGroupConfig.name).reverse) :
      ∃ group ∈ config.proxy.upstreamGroups, group.name = name := List.mem_map.mp (List.mem_reverse.mp member)
  refine ⟨List.nodup_reverse.mp nodup,served,fun listener member => known (listens listener member),List.nodup_reverse.mp apart,
    fun route member => ?_⟩
  obtain ⟨_,found,-⟩ := bind_ok.mp (forM_ok.mp routes route member)
  exact known (Decidable.not_not.mp (bailIf_ok.mp found))

end Accepted
end Config
end Sigproxy
