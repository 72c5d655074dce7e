import Sigproxy.Proxy.ResponseRouting
import Sigproxy.Proxy.Courses

namespace Sigproxy.Proxy
open Library Net Cluster Affinity

variable {Packet Message : Type} {codec : Codec Packet Message} {settings : Settings} {pool : ServerPool Packet}

section Agreement

-- The Via that the proxy puts on top is the one a packet shows: what is edited
-- after it are other headers.
def Legible (codec : Codec Packet Message) (readVia : Packet → Option (SipTransport × String)) : Prop :=
  ∀ transport host branch message signed edited, codec.prependVia transport host branch message = .ok signed →
    Edited codec signed edited → readVia (codec.toBytes edited) = some (transport,branch)

def Op.carrier : Op Packet → Option SipTransport
  | .sendToUpstream .. => some .udp
  | .sendRequest .. => some .tcp
  | _ => none

def CarriedBy (history : List (Record Packet)) (task : Nat) (transport : SipTransport) : Prop :=
  ∃ sent ∈ history, sent.task = task ∧ sent.event.op.carrier = some transport

-- The Via of a packet names the transport that carries it and a branch that the
-- map of that transport holds, and what is remembered names the same transport.
def Agrees (readVia : Packet → Option (SipTransport × String)) (history : List (Record Packet)) (record : Record Packet) : Prop :=
  match record.event.op with
  | .sendToUpstream packet _ => ∃ branch, readVia packet = some (.udp,branch) ∧
    ∃ routed ∈ history, routed.task = record.task ∧ ∃ route, routed.event.op = .insertUdpBranch branch route
  | .sendRequest _ branch packet _ => readVia packet = some (.tcp,branch)
  | .rememberAffinityKeys _ target => CarriedBy history record.task target.transport
  | .rememberInviteTransaction _ route => CarriedBy history record.task route.target.transport
  | _ => True

-- What a lookup hands to a request for its target names TCP.
def handsTcp (codec : Codec Packet Message) (settings : Settings) (request : Request Message) (act : Act Packet) : Bool :=
  match act with
  | ⟨.lookupInviteTransaction _,some route⟩ => route.target.transport == .tcp
  | ⟨.lookupAffinityKey _,some target⟩ => !settings.upstreamsContain target.addr || target.transport == .tcp
  | ⟨.peekContact _,some binding⟩ => !settings.isUpstreamSource request.peer ||
    (targetForRegistrationBinding codec binding request.listener.transport).all fun target => target.transport == .tcp
  | _ => true

structure HandedTcp (codec : Codec Packet Message) (settings : Settings) (request : Request Message) (past : List (Act Packet)) :
    Prop where
  found : ∀ act ∈ past, handsTcp codec settings request act = true
  direct : ∀ uri target, codec.requestUri request.message = some uri →
    directTarget codec settings uri request.listener (settings.isUpstreamSource request.peer) = some target → target.transport = .tcp

variable {past : List (Act Packet)} {request : Request Message}

theorem sought_mem (sought : Sought past keys (some target)) : ∃ key, ⟨.lookupAffinityKey key,some target⟩ ∈ past := by
  generalize same : some target = found at sought
  induction sought with
  | nil => cases same
  | miss _ _ ih => exact ih same
  | hit found => cases same; exact ⟨_,found⟩

theorem aimed_tcp (handed : HandedTcp codec settings request past) (onTcp : request.listener.transport = .tcp)
    (asked : Asked codec request past found) (aimed : Aimed codec settings request found past target) : target.transport = .tcp := by
  have affine {key : AffinityKey} {target : AffinityTarget} (looked : ⟨.lookupAffinityKey key,some target⟩ ∈ past)
      (upstream : settings.upstreamsContain target.addr = true) : target.transport = .tcp := by
    simpa [handsTcp,upstream] using handed.found _ looked
  have chosen {uri : String} {target : UpstreamTarget} (named : codec.requestUri request.message = some uri)
      (chosen : Chosen codec settings request uri past target) : target.transport = .tcp := by
    cases chosen with
    | direct direct => exact handed.direct uri target named direct
    | located fromUpstream peeked placed =>
        have hands := handed.found _ peeked
        simpa [handsTcp,fromUpstream,placed] using hands
    | registered _ _ looked upstream => exact affine looked upstream
    | affine _ sought upstream =>
        obtain ⟨key,looked⟩ := sought_mem sought
        exact affine looked upstream
    | selected _ _ => exact onTcp
  cases aimed with
  | itself _ _ _ _ => exact onTcp
  | chosen named picked _ =>
      cases found with
      | none => exact chosen named picked
      | some route =>
          rw [show target = route.target from picked]
          obtain ⟨_,key,_,looked⟩ := asked.hit route rfl
          simpa [handsTcp] using handed.found _ looked

-- The listeners of tcp_udp are expanded, so that a message comes by a listener of
-- its own transport.
def Input.listened : Input Packet → Bool
  | .udp _ _ listener => listener.transport == .udp
  | .tcp _ _ listener => listener.transport == .tcp

theorem sipRequest_listener (requested : sipRequest codec packet peer listener = some request) : request.listener = listener := by
  obtain ⟨_,_,_,_,same⟩ := sipRequest_received requested
  exact same

-- What the request of a TCP connection was handed for its target names TCP.
def TcpThroughout (codec : Codec Packet Message) (settings : Settings) (pool : ServerPool Packet) (task : Nat) : Prop :=
  ∀ input request, pool.inputs[task]? = some input → input.isDatagram = false → input.request codec = some request →
    HandedTcp codec settings request (System.own task pool.history)

theorem HandedTcp.earlier (handed : HandedTcp codec settings request after) (part : ∀ act ∈ past, act ∈ after) :
    HandedTcp codec settings request past := ⟨fun act member => handed.found act (part act member),handed.direct⟩

theorem own_part (split : pool.history = before ++ record :: after) (task : Nat) :
    ∀ act ∈ System.own task before, act ∈ System.own task pool.history := by
  intro act member
  obtain ⟨record,inBefore,ofTask,event⟩ := System.mem_own.mp member
  exact System.mem_own.mpr ⟨record,by simp [split,inBefore],ofTask,event⟩

variable {readVia : Packet → Option (SipTransport × String)} {record : Record Packet}

theorem signs_read {prepared : Prepared Message} (legible : Legible codec readVia) (signed : signs codec request.message prepared) :
    readVia (codec.toBytes prepared.message) = some (prepared.target.transport,prepared.branch) := by
  obtain ⟨stripped,viaHost,signed,_,prepended,edited⟩ := signed
  exact legible _ _ _ _ _ _ prepended edited

theorem send_agrees (legible : Legible codec readVia) (coursed : Coursed codec settings pool)
    (listened : ∀ input ∈ pool.inputs, input.listened = true) (member : record ∈ pool.history)
    (handed : TcpThroughout codec settings pool record.task) (forwards : record.event.op.forwards = true) :
    Agrees readVia pool.history record := by
  obtain ⟨before,after,split⟩ := List.append_of_mem member
  obtain ⟨input,hasInput,course⟩ := coursed.admitted before record after split
  obtain ⟨request,requested,follows⟩ := course_request course (forwards_busy forwards)
  have part := own_part split record.task
  obtain ⟨task,time,⟨op,reply⟩⟩ := record
  cases op with
  | sendToUpstream packet upstream =>
      obtain ⟨_,prepared,_,⟨_,found,directed⟩,_,onUdp,rfl,rfl,routed,_⟩ := follows
      obtain ⟨routing,inBefore,ofTask,event⟩ := System.mem_own.mp routed
      refine ⟨prepared.branch,?_,routing,by simp [split,inBefore],ofTask,_,congrArg Event.op event⟩
      rw [signs_read legible directed.signed,onUdp]
  | sendRequest upstream branch packet method =>
      obtain ⟨prepared,⟨_,found,directed⟩,onTcp,rfl,rfl,rfl,rfl⟩ := follows
      have carried : prepared.target.transport = .tcp := by
        cases datagram : input.isDatagram with
        | true => exact onTcp datagram
        | false =>
            refine aimed_tcp ((handed input request hasInput datagram requested).earlier part) ?_ directed.asked directed.aimed
            have listening := listened input (List.mem_of_getElem? hasInput)
            cases input with
            | udp packet peer listener => cases datagram
            | tcp packet peer listener =>
                rw [sipRequest_listener requested]
                exact eq_of_beq listening
      show readVia _ = _
      rw [signs_read legible directed.signed,carried]
  | _ => cases forwards

theorem dispatched_carried {prepared : Prepared Message} (legible : Legible codec readVia) (coursed : Coursed codec settings pool)
    (listened : ∀ input ∈ pool.inputs, input.listened = true) (handed : TcpThroughout codec settings pool task)
    (part : ∀ record ∈ before, record ∈ pool.history)
    (dispatched : Dispatched codec settings request (System.own task before) prepared) :
    CarriedBy pool.history task prepared.target.transport := by
  obtain ⟨⟨found,directed⟩,sent⟩ := dispatched
  cases sent with
  | udp onUdp _ gone =>
      obtain ⟨record,inBefore,ofTask,event⟩ := System.mem_own.mp gone
      exact ⟨record,part record inBefore,ofTask,by rw [event,onUdp]; rfl⟩
  | tcp gone =>
      obtain ⟨record,inBefore,ofTask,event⟩ := System.mem_own.mp gone
      have agrees := send_agrees legible coursed listened (part record inBefore) (ofTask ▸ handed) (by rw [event]; rfl)
      have read := signs_read legible directed.signed
      simp only [Agrees,event] at agrees
      rw [agrees] at read
      have carried : .tcp = prepared.target.transport := congrArg Prod.fst (Option.some.inj read)
      exact ⟨record,part record inBefore,ofTask,by rw [event,← carried]; rfl⟩

theorem transports_agree (legible : Legible codec readVia) (ran : runServer codec settings actions = some pool)
    (listened : ∀ input ∈ pool.inputs, input.listened = true) (member : record ∈ pool.history)
    (handed : TcpThroughout codec settings pool record.task) : Agrees readVia pool.history record := by
  have coursed := run_coursed ran
  by_cases forwards : record.event.op.forwards = true
  · exact send_agrees legible coursed listened member handed forwards
  obtain ⟨before,after,split⟩ := List.append_of_mem member
  obtain ⟨input,_,course⟩ := coursed.admitted before record after split
  have part : ∀ record ∈ before, record ∈ pool.history := fun record inBefore => by simp [split,inBefore]
  obtain ⟨task,time,⟨op,reply⟩⟩ := record
  cases op with
  | sendToUpstream packet upstream => exact (forwards rfl).elim
  | sendRequest upstream branch packet method => exact (forwards rfl).elim
  | rememberAffinityKeys keys target =>
      obtain ⟨request,_,_,prepared,dispatched,_,rfl⟩ := course_request course fun idle => idle
      exact dispatched_carried legible coursed listened handed part dispatched
  | rememberInviteTransaction key route =>
      obtain ⟨request,_,_,_,prepared,dispatched,rfl⟩ := course_request course fun idle => idle
      exact dispatched_carried legible coursed listened handed part dispatched
  | _ => trivial

end Agreement

section Runs

-- A message with the transports that its Vias name.
structure Wire where
  envelope : Envelope
  sentOver : List SipTransport
  deriving DecidableEq, Repr

def Wire.edit (wire : Wire) (edited : Except String Envelope) : Except String Wire :=
  edited.map fun envelope => {wire with envelope:=envelope}

def wireCodec : Codec Wire Wire where
  isCrlfKeepalive _ := false
  stunBindingSuccessResponse _ _ := none
  isStunPacket _ := false
  parse := .ok
  toBytes wire := wire
  startLine wire := envelopeCodec.startLine wire.envelope
  isResponse wire := envelopeCodec.isResponse wire.envelope
  method wire := envelopeCodec.method wire.envelope
  requestUri wire := envelopeCodec.requestUri wire.envelope
  callIdHeader wire := envelopeCodec.callIdHeader wire.envelope
  cseqNumber wire := envelopeCodec.cseqNumber wire.envelope
  fromTag _ := none
  toTag _ := none
  isInitialInviteRequest _ := true
  topViaBranch wire := envelopeCodec.topViaBranch wire.envelope
  headers _ _ := []
  topHeaderValue _ _ := .ok none
  popTopHeaderValue _ wire := .ok (none,wire)
  popTopVia wire :=
    .ok (wire.envelope.vias.head?.map Via.branch,⟨{wire.envelope with vias:=wire.envelope.vias.tail},wire.sentOver.tail⟩)
  prependVia transport _ branch wire :=
    .ok ⟨{wire.envelope with vias:=⟨branch,none⟩ :: wire.envelope.vias},transport :: wire.sentOver⟩
  prependRecordRoute _ wire := .ok wire
  prependPath _ wire := .ok wire
  applyTopViaReceivedRport peer wire := wire.edit (envelopeCodec.applyTopViaReceivedRport peer wire.envelope)
  rewriteContactHostWithUser _ _ wire := .ok ([],wire)
  maxForwards _ := .ok none
  setMaxForwards _ wire := wire
  responseLike wire code reason := {wire with envelope:=envelopeCodec.responseLike wire.envelope code reason}
  extractAor wire := envelopeCodec.extractAor wire.envelope
  extractContact wire := envelopeCodec.extractContact wire.envelope
  extractFromAor wire := envelopeCodec.extractFromAor wire.envelope
  extractToAor wire := envelopeCodec.extractToAor wire.envelope
  extractExpires _ := 3600000
  extractResponseContactExpires _ := none
  parseContactTarget _ _ := none
  parseRouteTarget _ _ := none
  parseSocketAddr _ := none
  showSocketAddr := envelopeCodec.showSocketAddr
  normalizedSipUriWithoutParams := some
  uuidLikeId key := key

def Wire.topVia (wire : Wire) : Option (SipTransport × String) := do
  let via ← wire.envelope.vias.head?
  let transport ← wire.sentOver.head?
  return (transport,via.branch)

theorem wire_legible : Legible wireCodec Wire.topVia := by
  intro transport host branch message signed edited prepended edits
  have kept : edited = signed := by
    induction edits with
    | refl message => rfl
    | popRoute popped _ ih | recordRoute popped _ ih | path popped _ ih | contact popped _ ih => cases popped; exact ih prepended
  cases prepended
  rw [kept]
  rfl

def tcpListener : ProxyListenerConfig := ⟨"0.0.0.0:5060",.tcp,"default"⟩

def wired (method : Method) : Wire := ⟨request method,[.udp]⟩

def wireSteps (task count : Nat) : List (System.Action (Input Wire) (Choice Wire) Change) :=
  List.replicate count (.step task ⟨.allow,none,upstreamAddr,true,"10.0.0.9:5060",.ok []⟩)

-- A dialog that was set up over UDP goes on over TCP.
def changedOver : List (System.Action (Input Wire) (Choice Wire) Change) :=
  .spawn (.udp (wired .invite) clientAddr udpListener) :: wireSteps 0 12 ++
    .spawn (.tcp (wired .bye) clientAddr tcpListener) :: wireSteps 1 5

def overTcp : List (System.Action (Input Wire) (Choice Wire) Change) :=
  .spawn (.tcp (wired .invite) clientAddr tcpListener) :: wireSteps 0 8

theorem tcp_request_signed_udp : ∃ pool sent upstream branch packet, runServer wireCodec plainSettings changedOver = some pool ∧
    (∀ input ∈ pool.inputs, input.listened = true) ∧ sent ∈ pool.history ∧
    pool.inputs[sent.task]? = some (.tcp (wired .bye) clientAddr tcpListener) ∧
    sent.event.op = .sendRequest upstream branch packet .bye ∧ packet.topVia = some (.udp,branch) ∧
    ¬Agrees Wire.topVia pool.history sent := by
  have reached : ∃ pool sent upstream branch packet, runServer wireCodec plainSettings changedOver = some pool ∧
      (∀ input ∈ pool.inputs, input.listened = true) ∧ pool.history[16]? = some sent ∧
      pool.inputs[sent.task]? = some (.tcp (wired .bye) clientAddr tcpListener) ∧
      sent.event.op = .sendRequest upstream branch packet .bye ∧ packet.topVia = some (.udp,branch) :=
    ⟨_,_,_,_,_,rfl,by decide +kernel,rfl,rfl,rfl,rfl⟩
  obtain ⟨pool,sent,upstream,branch,packet,ran,listened,member,hasInput,op,read⟩ := reached
  refine ⟨pool,sent,upstream,branch,packet,ran,listened,List.mem_of_getElem? member,hasInput,op,read,fun agrees => ?_⟩
  simp only [Agrees,op,read] at agrees
  cases agrees

theorem tcp_request_signed_tcp : ∃ pool sent upstream branch packet, runServer wireCodec plainSettings overTcp = some pool ∧
    sent ∈ pool.history ∧ sent.event.op = .sendRequest upstream branch packet .invite ∧ Wire.topVia packet = some (.tcp,branch) := by
  have reached : ∃ pool sent upstream branch packet, runServer wireCodec plainSettings overTcp = some pool ∧
      (∀ input ∈ pool.inputs, input.listened = true) ∧ pool.history[5]? = some sent ∧
      sent.event.op = .sendRequest upstream branch packet .invite ∧ sent.task = 0 ∧
      pool.inputs[0]? = some (.tcp (wired .invite) clientAddr tcpListener) ∧
      (∀ act ∈ System.own 0 pool.history, handsTcp wireCodec plainSettings ⟨wired .invite,clientAddr,tcpListener,.invite⟩ act = true) :=
    ⟨_,_,_,_,_,rfl,by decide +kernel,rfl,rfl,rfl,rfl,by decide +kernel⟩
  obtain ⟨pool,sent,upstream,branch,packet,ran,listened,member,op,ofTask,hasInput,handed⟩ := reached
  have agrees := transports_agree wire_legible ran listened (List.mem_of_getElem? member) fun input request sameInput _ requested => by
    rw [ofTask] at sameInput ⊢
    cases hasInput.symm.trans sameInput
    cases requested
    exact ⟨handed,fun uri target _ direct => nomatch direct⟩
  simp only [Agrees,op] at agrees
  exact ⟨pool,sent,upstream,branch,packet,ran,List.mem_of_getElem? member,op,agrees⟩

end Runs
end Sigproxy.Proxy
