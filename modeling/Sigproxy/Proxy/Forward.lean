import Sigproxy.Proxy.Server

namespace Sigproxy.Proxy
open Library Net Cluster Affinity
open Program (lift attempt)

variable {Packet Message : Type} (codec : Codec Packet Message) (settings : Settings)

section Lookups

-- SharedState::lookup: the clock is read between the two locked sections.
def lookupContact (aor : String) : Task Packet (Option ContactBinding) := do
  match ← ask (.peekContact aor) with
  | none => return none
  | some binding =>
    let now ← ask .readClock
    if binding.isExpired now then
      ask (.evictContact aor)
      return none
    else return some binding

def lookupFirstContact : List String → Task Packet (Option ContactBinding)
  | [] => return none
  | key :: rest => do
    match ← lookupContact key with
    | some binding => return some binding
    | none => lookupFirstContact rest

def lookupRegistrationBinding (requestUri : String) : Task Packet (Option ContactBinding) :=
  lookupFirstContact (registrationRouteKeys codec requestUri)

def lookupDeliveryRegistrationBinding (message : Message) (requestUri : String) (allowToAorFallback : Bool) :
    Task Packet (Option ContactBinding) := do
  match ← lookupRegistrationBinding codec requestUri with
  | some binding => return some binding
  | none =>
    if !allowToAorFallback then return none
    else
      match codec.extractToAor message with
      | .error _ => return none
      | .ok toAor => lookupRegistrationBinding codec toAor

def lookupInviteTransaction : Option String → Task Packet (Option InviteTransactionRoute)
  | none => return none
  | some key => ask (.lookupInviteTransaction key)

def rememberInviteTransaction (target : UpstreamTarget) (branch : String) : Option String → Task Packet Unit
  | none => return ()
  | some key => ask (.rememberInviteTransaction key ⟨target,branch⟩)

def rememberPendingRegister (branch : String) : Option PendingRegister → Task Packet Unit
  | none => return ()
  | some pending => ask (.rememberPendingRegister branch pending)

def rememberLocalInviteRejectionIfNeeded (message : Message) (method : Method) : Task Packet Unit :=
  if method = .invite then
    match inviteTransactionKey codec message with
    | .ok (some key) => ask (.rememberLocalInviteRejection key)
    | _ => return ()
  else return ()

def consumeLocalInviteAck (message : Message) : Task Packet Bool :=
  match inviteTransactionKey codec message with
  | .ok (some key) => ask (.consumeLocalInviteRejection key)
  | _ => return false

end Lookups

section Targets

def selectUpstream (uri : String) (listener : ProxyListenerConfig) : Task Packet UpstreamTarget := do
  let addr ← ask (.selectUpstream uri listener)
  return ⟨addr,listener.transport⟩

def isHealthyUpstreamTarget (target : UpstreamTarget) : Task Packet Bool :=
  if settings.upstreamsContain target.addr then ask (.isHealthy target.addr) else return false

def lookupRegisteredUpstreamKey : List String → Task Packet (Option UpstreamTarget)
  | [] => return none
  | route :: rest => do
    match ← ask (.lookupAffinityKey (registrationUpstreamAffinityKey route)) with
    | none => lookupRegisteredUpstreamKey rest
    | some target =>
      let target : UpstreamTarget := ⟨target.addr,target.transport⟩
      let healthy ← isHealthyUpstreamTarget settings target
      return if healthy then some target else none

def lookupRegisteredUpstreamTarget (message : Message) (requestUri : String) : Task Packet (Option UpstreamTarget) :=
  if codec.method message = some "INVITE" && codec.isInitialInviteRequest message then
    lookupRegisteredUpstreamKey settings (registeredUpstreamLookupKeys codec message requestUri)
  else return none

def lookupFirstAffinity : List AffinityKey → Task Packet (Option AffinityTarget)
  | [] => return none
  | key :: rest => do
    match ← ask (.lookupAffinityKey key) with
    | some target => return some target
    | none => lookupFirstAffinity rest

def affinityLookup (message : Message) : Task Packet (Option AffinityTarget) :=
  if settings.affinity.enabled then do
    let keys ← lift (affinityKeys codec settings.affinityKey message)
    lookupFirstAffinity keys
  else return none

-- The last two arms of either chain of choices in prepare_forward.
def affinityOrSelectedTarget (message : Message) (requestUri : String) (listener : ProxyListenerConfig) :
    Task Packet UpstreamTarget := do
  match ← affinityLookup codec settings message with
  | some target =>
    let target : UpstreamTarget := ⟨target.addr,target.transport⟩
    if ← isHealthyUpstreamTarget settings target then return target else selectUpstream requestUri listener
  | none => selectUpstream requestUri listener

def targetForRegistrationBinding (binding : ContactBinding) (defaultTransport : SipTransport) : Option UpstreamTarget :=
  let contactTarget := codec.parseContactTarget binding.contact defaultTransport
  let contactTransport := (contactTarget.map UpstreamTarget.transport).getD defaultTransport
  match codec.parseSocketAddr binding.source with
  | some addr => if contactTransport = .udp then some ⟨addr,.udp⟩ else contactTarget
  | none => contactTarget

def resolvedAdvertisedAddrMatches (side : AdvertiseSide) (listener : ProxyListenerConfig) (target routeTarget : SocketAddr) :
    Task Packet Bool := do
  let addr ← ask (.advertisedSipAddr side listener target)
  return codec.parseSocketAddr addr == some routeTarget

def routeTargetsThisProxy (route : String) (listener : ProxyListenerConfig) (target : SocketAddr) : Task Packet Bool :=
  match codec.parseRouteTarget route listener.transport with
  | none => return false
  | some routeTarget =>
    if settings.isAdvertisedOrListenerAddr routeTarget.addr listener then return true
    else do
      if ← resolvedAdvertisedAddrMatches codec .isPublic listener target routeTarget.addr then return true
      else resolvedAdvertisedAddrMatches codec .internal listener target routeTarget.addr

def topRouteTargetsThisProxy (message : Message) (listener : ProxyListenerConfig) (peer : SocketAddr) : Task Packet Bool := do
  match ← lift (codec.topHeaderValue "Route" message) with
  | none => return false
  | some route => routeTargetsThisProxy codec settings route listener peer

def popOwnRouteHeaders (listener : ProxyListenerConfig) (target : SocketAddr) : Nat → Message → Task Packet Message
  | 0,message => return message
  | fuel + 1,message => do
    match ← lift (codec.topHeaderValue "Route" message) with
    | none => return message
    | some route =>
      if ← routeTargetsThisProxy codec settings route listener target then
        let (_,popped) ← lift (codec.popTopHeaderValue "Route" message)
        popOwnRouteHeaders listener target fuel popped
      else return message

-- Every pass takes one value, and a line of n characters holds at most n + 1.
def routeValueBound (message : Message) : Nat := ((codec.headers "Route" message).map fun line => line.length + 1).sum

def recordRouteAddrs (peer target : SocketAddr) (listener : ProxyListenerConfig) : Task Packet (List String) := do
  let toUpstream := settings.upstreamsContain target
  if settings.isUpstreamSource peer = toUpstream then
    let addr ← ask (.advertisedSipAddr (if toUpstream then .internal else .isPublic) listener target)
    return [addr]
  else
    let publicAddr ← ask (.advertisedSipAddr .isPublic listener target)
    let internalAddr ← ask (.advertisedSipAddr .internal listener target)
    return if toUpstream then [internalAddr,publicAddr] else [publicAddr,internalAddr]

-- The chain of choices for the forward target, in the order of the source.
def forwardTarget (message : Message) (requestUri : String) (listener : ProxyListenerConfig) (method : Method)
    (fromUpstream routeSetTargetsThisProxy : Bool) (directRequestUriTarget : Option UpstreamTarget)
    (transactionRoute : Option InviteTransactionRoute) : Task Packet UpstreamTarget :=
  match (if method = .ack then directRequestUriTarget else none),transactionRoute with
  | some target,_ => return target
  | none,some route => return route.target
  | none,none =>
    if fromUpstream || routeSetTargetsThisProxy then do
      match ← lookupDeliveryRegistrationBinding codec message requestUri (fromUpstream || routeSetTargetsThisProxy) with
      | some binding =>
        match targetForRegistrationBinding codec binding listener.transport with
        | some target => return target
        | none => selectUpstream requestUri listener
      | none =>
        match directRequestUriTarget with
        | some target => return target
        | none => affinityOrSelectedTarget codec settings message requestUri listener
    else
      match directRequestUriTarget with
      | some target => return target
      | none => do
        match ← lookupRegisteredUpstreamTarget codec settings message requestUri with
        | some target => return target
        | none => affinityOrSelectedTarget codec settings message requestUri listener

end Targets

section Prepare

structure Prepared (Message : Type) where
  message : Message
  target : UpstreamTarget
  branch : String
  inviteTransactionKey : Option String
  recordRouteAddrs : List String

def branchFor : Option InviteTransactionRoute → Task Packet String
  | some route => return route.branch
  | none => do
    let id ← ask .uniqueId
    return proxyBranch id

def recordRoutes (message : Message) (peer target : SocketAddr) (listener : ProxyListenerConfig) (method : Method) :
    Task Packet (Message × List String) := do
  if settings.recordRoute && shouldRecordRoute method then
    let addrs ← recordRouteAddrs settings peer target listener
    let message ← lift (addrs.reverse.foldlM (fun message addr => codec.prependRecordRoute addr message) message)
    return (message,addrs)
  else return (message,[])

def trackRegister (message : Message) (viaHost : String) (peer : SocketAddr) (target : UpstreamTarget) (branch : String)
    (method : Method) : Task Packet Message := do
  if method = .register then
    match settings.registerRouting with
    | .contactRewrite =>
      let (pending,message) ← lift (rewriteRegisterContactAndPending codec message viaHost peer target)
      rememberPendingRegister branch pending
      return message
    | .path =>
      let pending ← lift (registerContactRoutesPending codec message viaHost peer target)
      let message ← lift (codec.prependPath viaHost message)
      rememberPendingRegister branch pending
      return message
  else return message

def directTarget (requestUri : String) (listener : ProxyListenerConfig) (fromUpstream : Bool) : Option UpstreamTarget :=
  if fromUpstream then
    (codec.parseContactTarget requestUri listener.transport).filter fun target =>
      !settings.upstreamsContain target.addr && !settings.isAdvertisedOrListenerAddr target.addr listener
  else none

def prepareForward (message : Message) (peer : SocketAddr) (listener : ProxyListenerConfig) (method : Method) :
    Task Packet (Prepared Message) := do
  match codec.requestUri message with
  | none => .fail "request forwarding requires a request URI"
  | some requestUri =>
    let fromUpstream := settings.isUpstreamSource peer
    let routeSetTargetsThisProxy ←
      (if fromUpstream then topRouteTargetsThisProxy codec settings message listener peer else pure false)
    let direct := directTarget codec settings requestUri listener fromUpstream
    let key ← lift (if method = .invite ∨ method = .cancel ∨ method = .ack then inviteTransactionKey codec message else .ok none)
    let transactionRoute ←
      (if method = .cancel ∨ (method = .ack ∧ direct.isNone) then lookupInviteTransaction key else pure none)
    let chosen ← forwardTarget codec settings message requestUri listener method fromUpstream routeSetTargetsThisProxy
      direct transactionRoute
    let isSelf := !settings.upstreamsContain chosen.addr && settings.isAdvertisedOrListenerAddr chosen.addr listener
    let target ← (if isSelf then selectUpstream requestUri listener else pure chosen)
    let message ← popOwnRouteHeaders codec settings listener target.addr (routeValueBound codec message) message
    let branch ← branchFor transactionRoute
    let side := if settings.upstreamsContain target.addr then AdvertiseSide.internal else .isPublic
    let viaHost ← ask (.advertisedSipAddr side listener target.addr)
    let message ← lift (codec.prependVia target.transport viaHost branch message)
    let (message,addrs) ← recordRoutes codec settings message peer target.addr listener method
    let message ← trackRegister codec settings message viaHost peer target branch method
    return ⟨message,target,branch,key,addrs⟩

end Prepare
end Sigproxy.Proxy
