import Sigproxy.Proxy.Forward

namespace Sigproxy.Proxy
open Library Net Cluster Affinity
open Program (lift attempt)

variable {Packet Message : Type} (codec : Codec Packet Message) (settings : Settings)

section Sending

def sendToClient (packet : Packet) (peer : SocketAddr) (error : String) : Task Packet Unit := do
  let sent ← ask (.sendToClient packet peer)
  if sent then return () else .fail error

def writeToStream (packet : Packet) : Task Packet Unit := do
  let written ← ask (.writeToStream packet)
  if written then return () else .fail "failed to write to the client stream"

def sendUdpInviteTrying (request : Message) (peer : SocketAddr) : Task Packet Unit := do
  let response ← lift (codec.applyTopViaReceivedRport peer (codec.responseLike request 100 "Trying"))
  sendToClient (codec.toBytes response) peer "failed to send local SIP 100 Trying to UDP client"

-- The locally generated answers differ in code and reason only.
def rejectUdp (message : Message) (peer : SocketAddr) (method : Method) (code : Nat) (reason : String) : Task Packet Unit := do
  let response ← lift (codec.applyTopViaReceivedRport peer (codec.responseLike message code reason))
  rememberLocalInviteRejectionIfNeeded codec message method
  sendToClient (codec.toBytes response) peer "failed to send a local SIP response"

def rejectTcp (message : Message) (method : Method) (code : Nat) (reason : String) : Task Packet Unit := do
  rememberLocalInviteRejectionIfNeeded codec message method
  writeToStream (codec.toBytes (codec.responseLike message code reason))

end Sending

section Register

def applyRegisterBinding (target : UpstreamTarget) (expires : Nat) (binding : PendingRegisterBinding) : Task Packet Unit := do
  if expires = 0 then ask (.submit (.unregisterContact binding.aor))
  else
    ask (.rememberAffinityKey (registrationUpstreamAffinityKey binding.aor) target.affinity expires)
    let now ← ask .readClock
    ask (.submit (.registerContact ⟨binding.aor,binding.contact,binding.source,now + expires⟩))

def applyRegisterBindings (target : UpstreamTarget) (expires : Nat) : List PendingRegisterBinding → Task Packet Unit
  | [] => return ()
  | binding :: rest => do
    applyRegisterBinding target expires binding
    applyRegisterBindings target expires rest

def applyRegisterResponse (branch : String) (response : Message) (code : Nat) : Task Packet Unit := do
  if code < 200 then return ()
  else
    match ← ask (.takePendingRegister branch) with
    | none => return ()
    | some pending =>
      if code < 300 then
        let expires := (codec.extractResponseContactExpires response).getD pending.requestExpires
        applyRegisterBindings pending.target expires pending.bindings
      else return ()

-- `if let SipStartLine::Response { code, .. }` around the call.
def applyRegisterStartLine (branch : String) (response : Message) : Task Packet Unit :=
  match (codec.startLine response).code with
  | some code => applyRegisterResponse codec branch response code
  | none => return ()

def isFinal (message : Message) : Bool := (codec.startLine message).code.any fun code => decide (200 ≤ code)

end Register

section Response

def relayedResponse (route : UdpBranchRoute) (message : Message) : Except String Packet := do
  let message ← ensureDialogRecordRoutes codec route.method route.recordRouteAddrs message
  match ← codec.popTopVia message with
  | (none,_) => .error "upstream response is missing Via"
  | (some _,message) =>
    let message ← codec.applyTopViaReceivedRport route.clientPeer message
    return codec.toBytes message

def rememberFinal (isFinal : Bool) (key : Option String) (response : Packet) : Task Packet Unit :=
  match key with
  | some key => if isFinal then ask (.rememberUdpClientTransactionFinalResponse key response) else return ()
  | none => return ()

-- The send error is reported after the route has been taken away.
def relay (branch : String) (route : UdpBranchRoute) (isFinal : Bool) (response : Packet) : Task Packet Unit := do
  rememberFinal isFinal route.clientTransactionKey response
  let sent ← ask (.sendToClient response route.clientPeer)
  if isFinal && route.removeOnFinal then
    ask (.removeUdpBranch branch)
    if sent then return () else .fail "failed to send to the UDP client"
  else if sent then return () else .fail "failed to send to the UDP client"

-- The peer a response comes from is logged where it is not the expected upstream.
def handleUdpResponse (message : Message) (_upstreamPeer : SocketAddr) : Task Packet Unit := do
  match ← lift (codec.topViaBranch message) with
  | none => .fail "upstream response is missing top Via branch"
  | some branch =>
    if startsWith branch proxyBranchPrefix then
      match ← ask (.lookupUdpBranch branch) with
      | none => return ()
      | some route =>
        applyRegisterStartLine codec branch message
        let response ← lift (relayedResponse codec route message)
        relay branch route (isFinal codec message) response
    else return ()

end Response

section Requests

def registeredInviteSourceMatches (registeredSource : String) (peer : SocketAddr)
    (mode : ProxyRegisteredInviteSourceMatch) : Bool :=
  match codec.parseSocketAddr registeredSource with
  | none => false
  | some registered =>
    match mode with
    | .ip => registered.ip == peer.ip
    | .ipPort => registered == peer

def checkSipPolicy (listener : ProxyListenerConfig) (peer : SocketAddr) (message : Message) (method : Method) :
    Task Packet (Option String) := do
  let policy := settings.sipPolicy listener
  if method ≠ .invite ∨ settings.isUpstreamSource peer ∨ !policy.requireRegisteredInviteSource then return none
  else
    match codec.extractFromAor message with
    | .error _ => return some "sip-invalid-from"
    | .ok fromAor =>
      match ← lookupRegistrationBinding codec fromAor with
      | none => return some "sip-unregistered-invite"
      | some binding =>
        if registeredInviteSourceMatches codec binding.source peer policy.registeredInviteSourceMatch then return none
        else return some "sip-unregistered-invite-source"

def checkPacket (listener : ProxyListenerConfig) (peer : SocketAddr) (packet : Packet) : Task Packet SecurityDecision :=
  if settings.userSpaceSecurityEnabled && !settings.isUpstreamSource peer then ask (.checkPacket listener peer packet)
  else return .allow

-- The two request checks, with the answer that a refused request gets.
def refusal (listener : ProxyListenerConfig) (peer : SocketAddr) (message : Message) (method : Method) :
    Task Packet (Option (Nat × String)) := do
  if settings.userSpaceSecurityEnabled && !settings.isUpstreamSource peer then
    match ← ask (.checkSipRequest listener peer method) with
    | some _ => return some (503,"Service Unavailable")
    | none =>
      match ← checkSipPolicy codec settings listener peer message method with
      | some _ => return some (403,"Forbidden")
      | none => return none
  else return none

def rememberSuccessfulForward (message : Message) (target : UpstreamTarget) (branch : String)
    (inviteTransactionKey : Option String) (method : Method) : Task Packet Unit := do
  recordAffinity
  if method = .invite then rememberInviteTransaction target branch inviteTransactionKey else return ()
where
  recordAffinity : Task Packet Unit :=
    if shouldRecordForwardAffinity method then
      match affinityKeys codec settings.affinityKey message with
      | .ok keys => ask (.rememberAffinityKeys keys target.affinity)
      | .error _ => return ()
    else return ()

def rememberUdpClientTransaction (target : UpstreamTarget) : Option String → Task Packet Unit
  | some key => ask (.rememberUdpClientTransaction key target)
  | none => return ()

def removeUdpClientTransaction : Option String → Task Packet Unit
  | some key => ask (.removeUdpClientTransaction key)
  | none => return ()

-- A receiver is the list of the responses it yields before it closes or the
-- wait for the next one times out.
def sendUdpToTcpResponses (clientPeer : SocketAddr) (branch : String) (key : Option String)
    (recordRouteAddrs : List String) (method : Method) : List Packet → Task Packet Unit
  | [] => .fail "upstream SIP TCP response channel closed or timed out"
  | packet :: rest => do
    let message ← lift (codec.parse packet)
    applyRegisterStartLine codec branch message
    let repaired ← lift (ensureDialogRecordRoutes codec method recordRouteAddrs message)
    let addressed ← lift (codec.applyTopViaReceivedRport clientPeer repaired)
    let response := codec.toBytes addressed
    rememberFinal (isFinal codec message) key response
    sendToClient response clientPeer "failed to send to the UDP client"
    if isFinal codec message then return () else sendUdpToTcpResponses clientPeer branch key recordRouteAddrs method rest

def forwardUdpToTcpUpstream (prepared : Prepared Message) (clientPeer : SocketAddr) (clientTransactionKey : Option String)
    (method : Method) : Task Packet Unit := do
  match ← ask (.sendRequest prepared.target.addr prepared.branch (codec.toBytes prepared.message) method) with
  | .error error =>
    removeUdpClientTransaction clientTransactionKey
    .fail error
  | .ok responses =>
    let target : UpstreamTarget := ⟨prepared.target.addr,.tcp⟩
    rememberUdpClientTransaction target clientTransactionKey
    rememberSuccessfulForward codec settings prepared.message target prepared.branch prepared.inviteTransactionKey method
    sendUdpToTcpResponses codec clientPeer prepared.branch clientTransactionKey prepared.recordRouteAddrs method responses

def udpBranchRoute (prepared : Prepared Message) (peer : SocketAddr) (clientTransactionKey : Option String) (method : Method) :
    UdpBranchRoute where
  clientPeer := peer
  upstream := prepared.target.addr
  method := method
  removeOnFinal := decide (method ≠ .invite)
  clientTransactionKey := clientTransactionKey
  recordRouteAddrs := prepared.recordRouteAddrs

def forwardUdpToUdpUpstream (prepared : Prepared Message) (peer : SocketAddr) (clientTransactionKey : Option String)
    (method : Method) : Task Packet Unit := do
  ask (.insertUdpBranch prepared.branch (udpBranchRoute prepared peer clientTransactionKey method))
  rememberUdpClientTransaction prepared.target clientTransactionKey
  let sent ← ask (.sendToUpstream (codec.toBytes prepared.message) prepared.target.addr)
  if sent then
    rememberSuccessfulForward codec settings prepared.message prepared.target prepared.branch prepared.inviteTransactionKey method
  else
    ask (.removeUdpBranch prepared.branch)
    removeUdpClientTransaction clientTransactionKey
    .fail "failed to send SIP request to upstream UDP socket"

def lookupUdpClientTransaction : Option String → Task Packet (Option (UdpClientTransactionRoute Packet))
  | some key => ask (.lookupUdpClientTransaction key)
  | none => return none

def trying (message : Message) (peer : SocketAddr) (method : Method) : Task Packet Unit :=
  if method = .invite && !settings.isUpstreamSource peer then sendUdpInviteTrying codec message peer else return ()

def forwardUdp (message : Message) (peer : SocketAddr) (listener : ProxyListenerConfig) (method : Method) :
    Task Packet Unit := do
  let clientTransactionKey ← lift (udpClientTransactionKey codec message peer method)
  match ← lookupUdpClientTransaction clientTransactionKey with
  | some route =>
    match route.finalResponse with
    | some response => sendToClient response peer "failed to retransmit cached SIP response to UDP client"
    | none => trying codec settings message peer method
  | none =>
    let prepared ← prepareForward codec settings message peer listener method
    trying codec settings message peer method
    match prepared.target.transport with
    | .udp => forwardUdpToUdpUpstream codec settings prepared peer clientTransactionKey method
    | .tcp => forwardUdpToTcpUpstream codec settings prepared peer clientTransactionKey method
    | .tcpUdp => .fail "tcp_udp upstream target must be expanded before forwarding"

-- The two transports share the checks; they forward and answer in their own way.
def handleRequest (packet : Packet) (message : Message) (peer : SocketAddr) (listener : ProxyListenerConfig)
    (method : Method) (forward : Message → Task Packet Unit) (reject : Message → Nat → String → Task Packet Unit) :
    Task Packet Unit := do
  let absorbed ← (if method = .ack then consumeLocalInviteAck codec message else pure false)
  if absorbed then return ()
  else
    match ← refusal codec settings listener peer message method with
    | some (code,reason) => reject message code reason
    | none =>
      match decrementMaxForwards codec message with
      | .error _ => reject message 400 "Bad Request"
      | .ok (false,message) => reject message 483 "Too Many Hops"
      | .ok (true,message) =>
        match ← attempt (forward message) with
        | .ok _ => return ()
        | .error _ =>
          let request ← lift (codec.parse packet)
          reject request 503 "Service Unavailable"

def handleUdpRequest (packet : Packet) (message : Message) (peer : SocketAddr) (listener : ProxyListenerConfig)
    (method : Method) : Task Packet Unit :=
  handleRequest codec settings packet message peer listener method
    (fun message => forwardUdp codec settings message peer listener method)
    (fun message code reason => rejectUdp codec message peer method code reason)

def handleSipPacket (packet : Packet) (peer : SocketAddr) (listener : ProxyListenerConfig)
    (onResponse : Message → Task Packet Unit) (onRequest : Message → Method → Task Packet Unit) : Task Packet Unit := do
  match ← checkPacket settings listener peer packet with
  | .drop _ => return ()
  | .allow =>
    match codec.parse packet with
    | .error error => if settings.userSpaceSecurityEnabled && settings.securityEnabled listener then return () else .fail error
    | .ok message =>
      if codec.isResponse message then onResponse message
      else
        match (codec.method message).bind canonicalSipMethod with
        | none => return ()
        | some method => onRequest message method

def handleUdpPacket (packet : Packet) (peer : SocketAddr) (listener : ProxyListenerConfig) : Task Packet Unit :=
  if codec.isCrlfKeepalive packet then return ()
  else
    match codec.stunBindingSuccessResponse packet peer with
    | some response => sendToClient response peer "failed to answer a STUN binding request"
    | none =>
      if codec.isStunPacket packet then return ()
      else
        handleSipPacket codec settings packet peer listener (fun message => handleUdpResponse codec message peer)
          (fun message method => handleUdpRequest codec settings packet message peer listener method)

end Requests

section Tcp

def relayTcpResponses (branch : String) : List Packet → Task Packet Unit
  | [] => .fail "upstream SIP TCP response channel closed or timed out"
  | packet :: rest => do
    let message ← lift (codec.parse packet)
    applyRegisterStartLine codec branch message
    writeToStream packet
    if isFinal codec message then return () else relayTcpResponses branch rest

def forwardTcpStream (message : Message) (peer : SocketAddr) (listener : ProxyListenerConfig) (method : Method) :
    Task Packet Unit := do
  let prepared ← prepareForward codec settings message peer listener method
  match ← ask (.sendRequest prepared.target.addr prepared.branch (codec.toBytes prepared.message) method) with
  | .error error => .fail error
  | .ok responses =>
    rememberSuccessfulForward codec settings prepared.message prepared.target prepared.branch prepared.inviteTransactionKey method
    relayTcpResponses codec prepared.branch responses

def handleTcpRequest (packet : Packet) (message : Message) (peer : SocketAddr) (listener : ProxyListenerConfig)
    (method : Method) : Task Packet Unit :=
  handleRequest codec settings packet message peer listener method
    (fun message => forwardTcpStream codec settings message peer listener method)
    (fun message code reason => rejectTcp codec message method code reason)

def handleTcpPacket (packet : Packet) (peer : SocketAddr) (listener : ProxyListenerConfig) : Task Packet Unit :=
  handleSipPacket codec settings packet peer listener (fun _ => return ())
    (fun message method => handleTcpRequest codec settings packet message peer listener method)

end Tcp

-- A datagram taken from a listener's queue, or a message read from a client stream.
inductive Input (Packet : Type) where
  | udp (packet : Packet) (peer : SocketAddr) (listener : ProxyListenerConfig)
  | tcp (packet : Packet) (peer : SocketAddr) (listener : ProxyListenerConfig)

namespace Input

def packet : Input Packet → Packet
  | .udp packet _ _ => packet
  | .tcp packet _ _ => packet

def peer : Input Packet → SocketAddr
  | .udp _ peer _ => peer
  | .tcp _ peer _ => peer

def listener : Input Packet → ProxyListenerConfig
  | .udp _ _ listener => listener
  | .tcp _ _ listener => listener

end Input

def handler : Input Packet → Task Packet Unit
  | .udp packet peer listener => handleUdpPacket codec settings packet peer listener
  | .tcp packet peer listener => handleTcpPacket codec settings packet peer listener

def server : System (@Op.Reply Packet) (Input Packet) (World Packet) (Choice Packet) Change Unit where
  handler := handler codec settings
  perform := perform settings
  clock := World.now
  change := World.change

end Sigproxy.Proxy
