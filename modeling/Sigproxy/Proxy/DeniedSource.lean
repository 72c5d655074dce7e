import Sigproxy.Library.Absence
import Sigproxy.Proxy.ResponseRouting
import Sigproxy.Proxy.Stun
import Sigproxy.Security.Runtime

namespace Sigproxy.Proxy
open Library Net Security
open Xdp (ThreatSnapshot)

variable {Packet Message Bucket : Type} (codec : Codec Packet Message) (view : SecurityCodec Packet Bucket)
  (listeners : Table String ListenerSecurityRuntime) (settings : Settings)

section Secured

-- The server together with what its firewall keeps.
structure Secured (Packet Bucket : Type) where
  proxy : World Packet
  bans : SecurityState Bucket
  geo : Option GeoSnapshot
  threat : Option ThreatSnapshot

def Secured.runtime (w : Secured Packet Bucket) : SecurityRuntime := ⟨listeners,w.geo,w.threat⟩

-- The identity a request is counted under is read from its headers.
structure SecuredChoice (Packet : Type) where
  answer : Choice Packet
  identity : String

-- Besides time and replication: a refreshed list, and the bookkeeping that no
-- call of the handlers carries, such as the pruning of old buckets.
inductive SecuredChange (Bucket : Type) where
  | proxy (change : Change)
  | refresh (geo : Option GeoSnapshot) (threat : Option ThreatSnapshot)
  | bookkeep (bans : SecurityState Bucket)

def Secured.change : SecuredChange Bucket → Secured Packet Bucket → Secured Packet Bucket
  | .proxy change,w => {w with proxy:=w.proxy.change change}
  | .refresh geo threat,w => {w with geo:=geo,threat:=threat}
  | .bookkeep bans,w => {w with bans:=bans}

-- A dropped packet is an offence for some reasons, and one that is let through
-- and cannot be parsed always is.
def settlePacket (runtime : SecurityRuntime) (now : Nat) (listener : ProxyListenerConfig) (peer : SocketAddr) (packet : Packet)
    (bans : SecurityState Bucket) : SecurityDecision → SecurityState Bucket
  | .drop reason => runtime.handleSecurityDrop view now listener peer reason bans
  | .allow =>
    match codec.parse packet with
    | .ok _ => bans
    | .error _ => if runtime.enabled listener then runtime.handleParseError view now listener peer bans else bans

def settleRequest (runtime : SecurityRuntime) (now : Nat) (listener : ProxyListenerConfig) (peer : SocketAddr)
    (bans : SecurityState Bucket) : Option String → SecurityState Bucket
  | some _ => runtime.recordDynamicOffense view now listener peer (some .sipRateViolation) bans
  | none => bans

def performSecured : (op : Op Packet) → SecuredChoice Packet → Secured Packet Bucket → op.Reply × Secured Packet Bucket
  | .checkPacket listener peer packet,_,w =>
    let runtime := w.runtime listeners
    let (decision,bans) := runtime.checkPacket view w.proxy.now listener peer packet w.bans
    (decision,{w with bans:=settlePacket codec view runtime w.proxy.now listener peer packet bans decision})
  | .checkSipRequest listener peer method,choice,w =>
    let runtime := w.runtime listeners
    let (rejection,bans) := runtime.checkSipRequest view w.proxy.now listener choice.identity method w.bans
    (rejection,{w with bans:=settleRequest view runtime w.proxy.now listener peer bans rejection})
  | op,choice,w =>
    let (reply,proxy) := perform settings op choice.answer w.proxy
    (reply,{w with proxy:=proxy})

-- What the server reads of its own security configuration.
def securedSettings : Settings :=
  {settings with
    userSpaceSecurityEnabled:=listeners.entries.any fun entry => entry.2.config.enabled,
    securityEnabled:=fun listener => (listeners.lookup (listenerKey listener)).any fun security => security.config.enabled,
    sipPolicy:=fun listener => ((listeners.lookup (listenerKey listener)).map fun security => security.config.sipPolicy).getD
      (settings.sipPolicy listener)}

def secured : System (@Op.Reply Packet) (Input Packet) (Secured Packet Bucket) (SecuredChoice Packet) (SecuredChange Bucket) Unit where
  handler := handler codec (securedSettings listeners settings)
  perform := performSecured codec view listeners (securedSettings listeners settings)
  clock := fun w => w.proxy.now
  change := Secured.change

end Secured

section Denied

structure Denied (input : Input Packet) : Prop where
  outside : settings.isUpstreamSource input.peer = false
  named : ∃ security, listeners.lookup (listenerKey input.listener) = some security ∧
    (security.isDenied input.peer.ip = true ∨ security.isAllowed input.peer.ip = false)

-- The networks of a listener count where some protection of it is switched on.
def Guarded (input : Input Packet) : Prop :=
  ∃ security, listeners.lookup (listenerKey input.listener) = some security ∧ security.config.enabled = true

def Op.sends : Op Packet → Bool
  | .sendToClient .. => true
  | .sendToUpstream .. => true
  | .writeToStream .. => true
  | .sendRequest .. => true
  | _ => false

-- The answer to a STUN binding request, which is given before the checks.
def StunAnswer (input : Input Packet) (op : Op Packet) : Prop :=
  ∃ packet peer listener response, input = .udp packet peer listener ∧
    codec.stunBindingSuccessResponse packet peer = some response ∧ op = .sendToClient response peer

def Quiet (input : Input Packet) (op : Op Packet) : Prop := StunAnswer codec input op ∨ op.sends = false

variable {codec view listeners settings} {input : Input Packet}

theorem Guarded.enabled (guarded : Guarded listeners input) (named : listeners.lookup (listenerKey input.listener) = some security) :
    security.config.enabled = true := by
  obtain ⟨other,found,enabled⟩ := guarded
  cases named.symm.trans found
  exact enabled

theorem denied_drops (view : SecurityCodec Packet Bucket) (denied : Denied listeners settings input) (guarded : Guarded listeners input)
    (w : Secured Packet Bucket) (now : Nat) (packet : Packet) : ∃ reason, dynamicOffenseForReason reason = none ∧
      (w.runtime listeners).checkPacket view now input.listener input.peer packet w.bans = (.drop reason,w.bans) := by
  obtain ⟨security,named,denies⟩ := denied.named
  have enabled : security.config.enabled = true := guarded.enabled named
  unfold SecurityRuntime.checkPacket SecurityRuntime.listenerByKey Secured.runtime
  cases inside : security.isDenied input.peer.ip with
  | true => exact ⟨"denied-cidr",by decide,by simp [named,enabled,inside]⟩
  | false =>
      have excluded : security.isAllowed input.peer.ip = false := by simpa [inside] using denies
      exact ⟨"not-allowed-cidr",by decide,by simp [named,enabled,inside,excluded]⟩

theorem denied_checked (denied : Denied listeners settings input) (guarded : Guarded listeners input) (choice : SecuredChoice Packet)
    (w : Secured Packet Bucket) (packet : Packet) : ∃ reason,
      performSecured codec view listeners (securedSettings listeners settings) (.checkPacket input.listener input.peer packet) choice w =
        (.drop reason,w) := by
  obtain ⟨reason,harmless,dropped⟩ := denied_drops view denied guarded w w.proxy.now packet
  refine ⟨reason,?_⟩
  simp [performSecured,dropped,settlePacket,SecurityRuntime.handleSecurityDrop,harmless,SecurityRuntime.recordDynamicOffense]

-- One listener that is on turns the checks of all of them on.
theorem denied_asked (denied : Denied listeners settings input) (guarded : Guarded listeners input) (packet : Packet) :
    checkPacket (securedSettings listeners settings) input.listener input.peer packet =
      ask (.checkPacket input.listener input.peer packet) := by
  obtain ⟨security,named,enabled⟩ := guarded
  have checking : (securedSettings listeners settings).userSpaceSecurityEnabled = true :=
    List.any_eq_true.mpr ⟨_,Table.lookup_iff_mem.mp named,enabled⟩
  have outside : (securedSettings listeners settings).isUpstreamSource input.peer = false := denied.outside
  simp [checkPacket,checking,outside]

theorem denied_sip_inert (denied : Denied listeners settings input) (guarded : Guarded listeners input) (packet : Packet)
    (onResponse : Message → Task Packet Unit) (onRequest : Message → Method → Task Packet Unit) :
    System.Inert (secured codec view listeners settings) (Quiet codec input)
      (handleSipPacket codec (securedSettings listeners settings) packet input.peer input.listener onResponse onRequest) := by
  unfold handleSipPacket
  rw [denied_asked denied guarded]
  refine ⟨.inr rfl,fun choice w => ?_⟩
  obtain ⟨reason,dropped⟩ := denied_checked denied guarded choice w packet
  have performed : (secured codec view listeners settings).perform (.checkPacket input.listener input.peer packet) choice w =
      (.drop reason,w) := dropped
  rw [performed]
  exact ⟨rfl,trivial⟩

theorem denied_inert (denied : Denied listeners settings input) (guarded : Guarded listeners input) :
    System.Inert (secured codec view listeners settings) (Quiet codec input)
      ((secured codec view listeners settings).handler input) := by
  cases input with
  | tcp packet peer listener => exact denied_sip_inert denied guarded packet _ _
  | udp packet peer listener =>
      change System.Inert _ _ (handleUdpPacket codec (securedSettings listeners settings) packet peer listener)
      unfold handleUdpPacket
      split
      · trivial
      · split
        · rename_i response answered
          refine ⟨.inl ⟨packet,peer,listener,response,rfl,answered,rfl⟩,fun choice w => ⟨rfl,?_⟩⟩
          simp only [secured,performSecured,perform]
          cases choice.answer.flag <;> trivial
        · split
          · trivial
          · exact denied_sip_inert denied guarded packet _ _

-- Two runs: the second is the first without any of the denied inputs, with the
-- same answers of the surroundings to everyone else.
theorem denied_source_inert {world : Secured Packet Bucket} {pool : Pool (@Op.Reply Packet) (Input Packet) (Secured Packet Bucket) Unit}
    {actions : List (System.Action (Input Packet) (SecuredChoice Packet) (SecuredChange Bucket))} {gone : Input Packet → Bool}
    (denied : ∀ input, gone input = true → Denied listeners settings input ∧ Guarded listeners input)
    (ran : Machine.run (secured codec view listeners settings).advance (System.start world) actions = some pool) :
    ∃ other, Machine.run (secured codec view listeners settings).advance (System.start world) (System.deleted gone [] actions) =
        some other ∧ other.world = pool.world ∧
      System.emitted Op.sends other = (System.emitted Op.sends pool).filter (fun sent => !gone sent.1) ∧
      ∀ sent ∈ System.emitted Op.sends pool, gone sent.1 = true → StunAnswer codec sent.1 sent.2.2.op := by
  have inert : ∀ input, .spawn input ∈ actions → gone input = true → System.Inert (secured codec view listeners settings)
      (Quiet codec input) ((secured codec view listeners settings).handler input) :=
    fun input _ leaves => denied_inert (denied input leaves).1 (denied input leaves).2
  obtain ⟨idle,reached⟩ := System.run_without (System.start_idle world) inert ran
  refine ⟨_,reached,rfl,System.emitted_without idle _,fun sent member leaves => ?_⟩
  obtain ⟨entry,recorded,held⟩ := List.mem_filterMap.mp member
  split at held
  · rename_i sends
    obtain ⟨input,hasInput,rfl⟩ := Option.map_eq_some_iff.mp held
    rcases idle.quiet entry recorded input hasInput leaves with answer | silent
    · exact answer
    · cases silent.symm.trans sends
  · cases held

end Denied

section Runs

def byteCodec : Codec (List (BitVec 8)) Envelope :=
  {envelopeCodec with
    isCrlfKeepalive:=isCrlfKeepalive,
    stunBindingSuccessResponse:=stunBindingSuccessResponse,
    isStunPacket:=isStunPacket,
    parse:=fun _ => .error "not a SIP message",
    toBytes:=fun _ => []}

def plainView (Packet : Type) : SecurityCodec Packet Unit where
  showIp _ := "10.0.0.1"
  isProbableSipStartLine _ _ := false
  newBucket _ _ _ := ()
  allow _ _ _ _ := (true,())

-- One denied network, beside the given protection.
def denying (config : EffectiveProxySecurityConfig) : Table String ListenerSecurityRuntime :=
  let security : ListenerSecurityRuntime :=
    ⟨{config with denyCidrs:=["10.0.0.1/32"]},.fromConfig config.geo,.fromConfig config.threatIntel,[],[],
      [⟨clientAddr.ip,32,by decide⟩]⟩
  (∅ : Table String ListenerSecurityRuntime).insert (listenerKey udpListener) security

def fromClient (input : Input Packet) : Bool := input.peer == clientAddr && input.listener == udpListener

def bindingRequest : List (BitVec 8) := [0,1,0,0,0x21,0x12,0xA4,0x42] ++ List.replicate 12 0

def untouched (Packet : Type) : Secured Packet Unit := ⟨World.new _ plainSettings.affinity,⟨∅,∅⟩,none,none⟩

abbrev SecuredSchedule (Packet : Type) := List (System.Action (Input Packet) (SecuredChoice Packet) (SecuredChange Unit))
abbrev SecuredPool (Packet : Type) := Pool (@Op.Reply Packet) (Input Packet) (Secured Packet Unit) Unit

def runSecured (codec : Codec Packet Message) (config : EffectiveProxySecurityConfig) (actions : SecuredSchedule Packet) :
    Option (SecuredPool Packet) :=
  Machine.run (secured codec (plainView Packet) (denying config) plainSettings).advance (System.start (untouched Packet)) actions

def securedSteps (Packet : Type) (task count : Nat) : SecuredSchedule Packet :=
  List.replicate count (.step task ⟨⟨.allow,none,upstreamAddr,true,"10.0.0.9:5060",.ok []⟩,""⟩)

-- The denied client asks for its address and then sends something else; another
-- client asks for its own address.
def scanned : SecuredSchedule (List (BitVec 8)) :=
  [.spawn (.udp bindingRequest clientAddr udpListener),.spawn (.udp [0x49] clientAddr udpListener),
    .spawn (.udp bindingRequest (host 3) udpListener)] ++ securedSteps _ 0 1 ++ securedSteps _ 1 1 ++ securedSteps _ 2 1

def askedOptions : SecuredSchedule Envelope := .spawn (.udp (request .options) clientAddr udpListener) :: securedSteps _ 0 8

theorem fromClient_denied (config : EffectiveProxySecurityConfig) (input : Input Packet) (leaves : fromClient input = true) :
    Denied (denying config) plainSettings input := by
  obtain ⟨samePeer,sameListener⟩ : input.peer = clientAddr ∧ input.listener = udpListener := by simpa [fromClient] using leaves
  refine ⟨by rw [samePeer]; decide,_,by rw [sameListener]; exact AList.lookup_insert _,.inl ?_⟩
  rw [samePeer]
  rfl

theorem fromClient_guarded (input : Input Packet) (leaves : fromClient input = true) :
    Guarded (denying .defaultSecurity) input := by
  obtain ⟨_,sameListener⟩ : input.peer = clientAddr ∧ input.listener = udpListener := by simpa [fromClient] using leaves
  exact ⟨_,by rw [sameListener]; exact AList.lookup_insert _,rfl⟩

theorem denied_client_scan_inert : ∃ pool other, runSecured byteCodec .defaultSecurity scanned = some pool ∧
    runSecured byteCodec .defaultSecurity (System.deleted fromClient [] scanned) = some other ∧ other.world = pool.world := by
  obtain ⟨pool,ran⟩ : ∃ pool, runSecured byteCodec .defaultSecurity scanned = some pool := ⟨_,rfl⟩
  obtain ⟨other,reached,same,_⟩ := denied_source_inert
    (fun input leaves => ⟨fromClient_denied .defaultSecurity input leaves,fromClient_guarded input leaves⟩) ran
  exact ⟨pool,other,ran,reached,same⟩

def Differs (codec : Codec Packet Message) (config : EffectiveProxySecurityConfig) (actions : SecuredSchedule Packet) : Prop :=
  ∃ pool other, runSecured codec config actions = some pool ∧
    runSecured codec config (System.deleted fromClient [] actions) = some other ∧
    (∀ input : Input Packet, fromClient input = true → Denied (denying config) plainSettings input) ∧
    (System.emitted Op.sends other).length < (System.emitted Op.sends pool).length

-- The denied client gets a STUN answer, and with the preset `off` its request is
-- forwarded.
theorem denied_source_answered : Differs byteCodec .defaultSecurity scanned ∧ Differs envelopeCodec .off askedOptions := by
  refine ⟨?_,?_⟩
  · exact ⟨_,_,rfl,rfl,fromClient_denied _,by decide +kernel⟩
  · exact ⟨_,_,rfl,rfl,fromClient_denied _,by decide +kernel⟩

end Runs

end Sigproxy.Proxy
