import Sigproxy.Affinity
import Sigproxy.Cluster

namespace Sigproxy.Proxy
open Library Net Cluster Affinity

inductive Method where
  | invite
  | ack
  | bye
  | cancel
  | register
  | options
  | subscribe
  | notify
  | refer
  | message
  | update
  | info
  | prack
  | publish
  deriving DecidableEq, Repr

def Method.asStr : Method → String
  | .invite => "INVITE"
  | .ack => "ACK"
  | .bye => "BYE"
  | .cancel => "CANCEL"
  | .register => "REGISTER"
  | .options => "OPTIONS"
  | .subscribe => "SUBSCRIBE"
  | .notify => "NOTIFY"
  | .refer => "REFER"
  | .message => "MESSAGE"
  | .update => "UPDATE"
  | .info => "INFO"
  | .prack => "PRACK"
  | .publish => "PUBLISH"

def canonicalSipMethod (method : String) : Option Method :=
  [Method.invite,.ack,.bye,.cancel,.register,.options,.subscribe,.notify,.refer,.message,.update,.info,.prack,.publish].find?
    fun known => known.asStr == method

inductive SipStartLine where
  | request (method uri version : String)
  | response (version : String) (code : Nat) (reason : String)
  deriving DecidableEq, Repr

def SipStartLine.code : SipStartLine → Option Nat
  | .request .. => none
  | .response _ code _ => some code

structure UpstreamTarget where
  addr : SocketAddr
  transport : SipTransport
  deriving DecidableEq, Repr

def UpstreamTarget.affinity (target : UpstreamTarget) : AffinityTarget := ⟨target.addr,target.transport⟩

-- What the server reads from packets and messages and writes into them: the
-- message wrapper and the field extraction over the SIP stack, and the STUN codec.
-- Durations are milliseconds.
structure Codec (Packet Message : Type) where
  isCrlfKeepalive : Packet → Bool
  stunBindingSuccessResponse : Packet → SocketAddr → Option Packet
  isStunPacket : Packet → Bool
  parse : Packet → Except String Message
  toBytes : Message → Packet
  startLine : Message → SipStartLine
  isResponse : Message → Bool
  method : Message → Option String
  requestUri : Message → Option String
  callIdHeader : Message → Except String String
  cseqNumber : Message → Except String Nat
  fromTag : Message → Option String
  toTag : Message → Option String
  isInitialInviteRequest : Message → Bool
  topViaBranch : Message → Except String (Option String)
  headers : String → Message → List String
  topHeaderValue : String → Message → Except String (Option String)
  popTopHeaderValue : String → Message → Except String (Option String × Message)
  popTopVia : Message → Except String (Option String × Message)
  prependVia : SipTransport → String → String → Message → Except String Message
  prependRecordRoute : String → Message → Except String Message
  prependPath : String → Message → Except String Message
  applyTopViaReceivedRport : SocketAddr → Message → Except String Message
  rewriteContactHostWithUser : String → (String → String → String) → Message → Except String (List (String × String) × Message)
  maxForwards : Message → Except String (Option Nat)
  setMaxForwards : Nat → Message → Message
  responseLike : Message → Nat → String → Message
  extractAor : Message → Except String String
  extractContact : Message → Except String (Option String)
  extractFromAor : Message → Except String String
  extractToAor : Message → Except String String
  extractExpires : Message → Nat
  extractResponseContactExpires : Message → Option Nat
  parseContactTarget : String → SipTransport → Option UpstreamTarget
  parseRouteTarget : String → SipTransport → Option UpstreamTarget
  parseSocketAddr : String → Option SocketAddr
  showSocketAddr : SocketAddr → String
  normalizedSipUriWithoutParams : String → Option String
  uuidLikeId : String → String

-- Unicode White_Space, the set that `str::trim` strips.
def isWhiteSpace (char : Char) : Bool :=
  let code := char.toNat
  decide (9 ≤ code ∧ code ≤ 13) || decide (8192 ≤ code ∧ code ≤ 8202) ||
    [32,133,160,5760,8232,8233,8239,8287,12288].contains code

def trim (text : String) : String :=
  .ofList (((text.toList.dropWhile isWhiteSpace).reverse.dropWhile isWhiteSpace).reverse)

def startsWith (text start : String) : Bool := start.toList.isPrefixOf text.toList

def proxyBranchPrefix : String := "z9hG4bK-sigproxy-"

def proxyBranch (id : Nat) : String := proxyBranchPrefix ++ Nat.repr id

theorem proxyBranch_injective (same : proxyBranch first = proxyBranch second) : first = second := by
  have digits : Nat.toDigits 10 first = Nat.toDigits 10 second := by
    simpa [proxyBranch] using congrArg String.toList same
  have values := congrArg (Nat.ofDigitChars 10 · 0) digits
  simpa using values

theorem proxyBranch_ours (id : Nat) : startsWith (proxyBranch id) proxyBranchPrefix = true := by
  simp [startsWith,proxyBranch]

def shouldRecordRoute : Method → Bool
  | .invite | .subscribe | .refer => true
  | _ => false

def shouldRecordForwardAffinity : Method → Bool
  | .options => false
  | _ => true

section Keys
variable {Packet Message : Type} (codec : Codec Packet Message)

def inviteTransactionKey (message : Message) : Except String (Option String) := do
  let some branch ← codec.topViaBranch message | return none
  if codec.isResponse message then return none
  let callId ← codec.callIdHeader message
  let cseqNumber ← codec.cseqNumber message
  return some (trim branch ++ ":" ++ trim callId ++ ":" ++ Nat.repr cseqNumber)

def udpClientTransactionKey (message : Message) (peer : SocketAddr) (method : Method) : Except String (Option String) := do
  let some branch ← codec.topViaBranch message | return none
  if codec.isResponse message then return none
  let callId ← codec.callIdHeader message
  let cseqNumber ← codec.cseqNumber message
  return some (codec.showSocketAddr peer ++ ":" ++ trim branch ++ ":" ++ trim callId ++ ":" ++
    Nat.repr cseqNumber ++ ":" ++ method.asStr)

inductive ProxyAffinityKey where
  | dialogId
  | callId
  | requestUri
  deriving DecidableEq, Repr

def callIdKey (message : Message) : Except String AffinityKey := do
  let callId ← codec.callIdHeader message
  return ⟨"call-id:" ++ trim callId⟩

def dialogKey (message : Message) : Except String (Option AffinityKey) := do
  let callId ← codec.callIdHeader message
  let some fromTag := codec.fromTag message | return none
  let some toTag := codec.toTag message | return none
  let (low,high) := if toTag < fromTag then (toTag,fromTag) else (fromTag,toTag)
  return some ⟨"dialog-id:" ++ trim callId ++ ":" ++ low ++ ":" ++ high⟩

def affinityKeys (strategy : ProxyAffinityKey) (message : Message) : Except String (List AffinityKey) := do
  if codec.isResponse message then return []
  match strategy with
  | .dialogId => return (← dialogKey codec message).toList ++ [← callIdKey codec message]
  | .callId => return [← callIdKey codec message]
  | .requestUri => return [⟨"request-uri:" ++ (codec.requestUri message).getD ""⟩]

def registrationUpstreamAffinityKey (route : String) : AffinityKey := ⟨"registration-upstream:" ++ route⟩

def pushUniqueKey (keys : List String) (key : String) : List String :=
  if !key.isEmpty && !keys.contains key then keys ++ [key] else keys

def registrationRouteKeys (route : String) : List String :=
  let keys := pushUniqueKey [] (trim route)
  match codec.normalizedSipUriWithoutParams route with
  | some normalized => pushUniqueKey keys normalized
  | none => keys

def registeredUpstreamLookupKeys (message : Message) (requestUri : String) : List String :=
  let toKeys := match codec.extractToAor message with
    | .ok toAor => registrationRouteKeys codec toAor
    | .error _ => []
  (toKeys ++ registrationRouteKeys codec requestUri).foldl pushUniqueKey []

end Keys

section Rewriting
variable {Packet Message : Type} (codec : Codec Packet Message)

def decrementMaxForwards (message : Message) : Except String (Bool × Message) := do
  match ← codec.maxForwards message with
  | none => return (true,codec.setMaxForwards 70 message)
  | some 0 => return (false,message)
  | some (hops + 1) => return (true,codec.setMaxForwards hops message)

def occursIn (needle text : List Char) : Bool := text.tails.any needle.isPrefixOf

def ensureDialogRecordRoutes (method : Method) (recordRouteAddrs : List String) (message : Message) :
    Except String Message :=
  let isSuccess := (codec.startLine message).code.any fun code => decide (200 ≤ code ∧ code < 300)
  if shouldRecordRoute method && !recordRouteAddrs.isEmpty && isSuccess then
    let existing := ",".intercalate (codec.headers "Record-Route" message)
    let repair (message : Message) (addr : String) :=
      if occursIn ("sip:" ++ addr ++ ";lr").toList existing.toList then .ok message
      else codec.prependRecordRoute addr message
    recordRouteAddrs.reverse.foldlM repair message
  else .ok message

def compactUuidToken (value : String) (length : Nat) : String :=
  let isAsciiHexDigit (char : Char) := char.isDigit || "abcdefABCDEF".toList.contains char
  .ofList ((value.toList.filter isAsciiHexDigit).take length)

def rewrittenRegisterContactUser (aor : Option String) (originalContact originalUser : String) : String :=
  let token := compactUuidToken (codec.uuidLikeId ("register-contact|" ++ aor.getD "" ++ "|" ++ originalContact)) 32
  let user := if originalUser.isEmpty then "contact" else originalUser
  user ++ "~" ++ token

end Rewriting

structure PendingRegisterBinding where
  aor : String
  contact : String
  source : String
  deriving DecidableEq, Repr

structure PendingRegister where
  bindings : List PendingRegisterBinding
  requestExpires : Nat
  target : UpstreamTarget
  deriving DecidableEq, Repr

def pushPendingRegisterBinding (bindings : List PendingRegisterBinding) (binding : PendingRegisterBinding) :
    List PendingRegisterBinding :=
  if bindings.any fun existing => existing.aor == binding.aor then bindings else bindings ++ [binding]

def pendingRegister (bindings : List PendingRegisterBinding) (requestExpires : Nat) (target : UpstreamTarget) :
    Option PendingRegister :=
  if bindings.isEmpty then none else some ⟨bindings,requestExpires,target⟩

section Register
variable {Packet Message : Type} (codec : Codec Packet Message)

def collectContactRouteBindings (bindings : List PendingRegisterBinding) (route contact : String) (peer : SocketAddr) :
    List PendingRegisterBinding :=
  (registrationRouteKeys codec route).foldl
    (fun bindings aor => pushPendingRegisterBinding bindings ⟨aor,contact,codec.showSocketAddr peer⟩) bindings

def rewriteRegisterContactAndPending (message : Message) (viaHost : String) (peer : SocketAddr) (target : UpstreamTarget) :
    Except String (Option PendingRegister × Message) := do
  let aor := (codec.extractAor message).toOption
  let originalContact := (codec.extractContact message).toOption.join
  let expires := codec.extractExpires message
  let (rewrittenContacts,message) ←
    codec.rewriteContactHostWithUser viaHost (rewrittenRegisterContactUser codec aor) message
  let collected := rewrittenContacts.foldl
    (fun bindings pair => collectContactRouteBindings codec bindings pair.2 pair.1 peer) []
  let bindings := match aor,originalContact with
    | some aor,some contact => pushPendingRegisterBinding collected ⟨aor,contact,codec.showSocketAddr peer⟩
    | _,_ => collected
  return (pendingRegister bindings expires target,message)

def registerContactRoutesPending (message : Message) (viaHost : String) (peer : SocketAddr) (target : UpstreamTarget) :
    Except String (Option PendingRegister) := do
  let (routes,_) ← codec.rewriteContactHostWithUser viaHost (fun _ user => user) message
  let firstContact := routes.head?.map Prod.fst
  let collected := routes.foldl
    (fun bindings pair => collectContactRouteBindings codec bindings pair.2 pair.1 peer) []
  let bindings := match codec.extractAor message,firstContact with
    | .ok aor,some contact => pushPendingRegisterBinding collected ⟨aor,contact,codec.showSocketAddr peer⟩
    | _,_ => collected
  return pendingRegister bindings (codec.extractExpires message) target

end Register
end Sigproxy.Proxy
