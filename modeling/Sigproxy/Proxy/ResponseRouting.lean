import Sigproxy.Proxy.Ledger

namespace Sigproxy.Proxy
open Library Net Cluster Affinity

variable {Packet Message : Type} {codec : Codec Packet Message} {settings : Settings} {pool : ServerPool Packet}

-- No CANCEL and no ACK has gone out under the branch.
def Undisturbed (branch : String) (before : List (Record Packet)) : Prop :=
  ∀ record ∈ before, ∀ route, record.event.op = .insertUdpBranch branch route → route.method ≠ .cancel ∧ route.method ≠ .ack

def disturbs (branch : String) (record : Record Packet) : Bool :=
  match record.event.op with
  | .insertUdpBranch routed route => routed == branch && (route.method == .cancel || route.method == .ack)
  | _ => false

theorem undisturbed_exact (branch : String) (before : List (Record Packet)) :
    Undisturbed branch before ↔ ∀ record ∈ before, disturbs branch record = false := by
  apply forall₂_congr
  intro record _
  obtain ⟨task,time,⟨op,reply⟩⟩ := record
  cases op with
  | insertUdpBranch routed route =>
      simp only [disturbs,Op.insertUdpBranch.injEq,and_imp]
      constructor
      · intro independent
        by_cases same : routed = branch
        · simp [independent route same rfl]
        · simp [same]
      · intro undisturbed other same equal
        rcases same with rfl
        rcases equal with rfl
        simpa using undisturbed
  | _ => simp [disturbs]

instance (branch : String) (before : List (Record Packet)) : Decidable (Undisturbed branch before) :=
  decidable_of_iff _ (undisturbed_exact branch before).symm

section Branches

theorem minter (minted : Minted (System.own task before) branch) :
    ∃ record ∈ before, ∃ id : Nat, record.task = task ∧ record.event = (⟨.uniqueId,id⟩ : Act Packet) ∧ branch = proxyBranch id := by
  obtain ⟨id,member,named⟩ := minted
  obtain ⟨record,inHistory,ofTask,event⟩ := System.mem_own.mp member
  exact ⟨record,inHistory,id,ofTask,event,named⟩

theorem inserted_minted (sound : Sound codec settings pool) {record : Record Packet} (member : record ∈ pool.history)
    (op : record.event.op = .insertUdpBranch branch route) (independent : route.method ≠ .cancel ∧ route.method ≠ .ack) :
    (∃ minting ∈ pool.history, ∃ id : Nat, minting.task = record.task ∧ minting.event = ⟨.uniqueId,id⟩ ∧ branch = proxyBranch id) ∧
      route.removeOnFinal = decide (route.method ≠ .invite) := by
  obtain ⟨before,after,split⟩ := List.append_of_mem member
  obtain ⟨input,_,admitted⟩ := sound.tracked.admitted before record after split
  obtain ⟨_,owned,removing⟩ := admits_insert admitted op
  refine ⟨?_,removing⟩
  rcases owned with minted | ⟨dependent,_⟩
  · obtain ⟨minting,earlier,rest⟩ := minter minted
    exact ⟨minting,by simp [split,earlier],rest⟩
  · exact (dependent.elim independent.1 independent.2).elim

-- Only CANCELs and ACKs share a branch with another request.
theorem branch_sole (sound : Sound codec settings pool) {one two : Record Packet} (first : one ∈ pool.history)
    (second : two ∈ pool.history) (firstOp : one.event.op = .insertUdpBranch branch route)
    (secondOp : two.event.op = .insertUdpBranch branch other) (independent : route.method ≠ .cancel ∧ route.method ≠ .ack)
    (otherIndependent : other.method ≠ .cancel ∧ other.method ≠ .ack) : one = two := by
  obtain ⟨⟨minting,minted,id,ofFirst,event,named⟩,_⟩ := inserted_minted sound first firstOp independent
  obtain ⟨⟨minting',minted',id',ofSecond,event',named'⟩,_⟩ := inserted_minted sound second secondOp otherIndependent
  cases proxyBranch_injective (named.symm.trans named')
  cases mint_once sound minted minted' event event'
  exact routing_once sound first second (ofFirst.symm.trans ofSecond) (by rw [firstOp]; rfl) (by rw [secondOp]; rfl)

-- A route that a response was given had been put under the branch.
theorem lookup_inserted (sound : Sound codec settings pool) {asked : Record Packet}
    (split : pool.history = before ++ asked :: after) (event : asked.event = ⟨.lookupUdpBranch branch,some route⟩) :
    ∃ routed ∈ before, routed.event.op = .insertUdpBranch branch route ∧ asked.time - routed.time ≤ udpBranchTtl := by
  have held := sound.ledger.faithful before asked after split
  unfold Faithful at held
  rw [event] at held
  obtain ⟨stamped,found,content⟩ := Option.map_eq_some_iff.mp held.symm
  obtain ⟨stored,fresh⟩ := Option.filter_eq_some_iff.mp found
  obtain ⟨routed,member,op,time⟩ := lookup_routes stored
  rw [content] at op
  refine ⟨routed,member,op,?_⟩
  rw [time]
  simpa [Stamped.fresh] using fresh

end Branches

section Undisturbed
variable {routed forwarded : Record Packet} {before after : List (Record Packet)}

-- An INVITE whose datagram went out, with the route it was sent under.
structure Invited (before : List (Record Packet)) (branch : String) (route : UdpBranchRoute) (routed : Record Packet) : Prop where
  member : routed ∈ before
  op : routed.event.op = .insertUdpBranch branch route
  invite : route.method = .invite
  sent : ∃ forwarded ∈ before, forwarded.task = routed.task ∧ ∃ packet, forwarded.event = ⟨.sendToUpstream packet route.upstream,true⟩

theorem Invited.independent (invited : Invited before branch route routed) : route.method ≠ .cancel ∧ route.method ≠ .ack := by
  rw [invited.invite]
  exact ⟨Method.noConfusion,Method.noConfusion⟩

theorem undisturbed_sole (sound : Sound codec settings pool) (split : pool.history = before ++ after)
    (invited : Invited before branch route routed) (undisturbed : Undisturbed branch before) {record : Record Packet}
    (member : record ∈ before) (op : record.event.op = .insertUdpBranch branch other) : record = routed :=
  branch_sole sound (split ▸ List.mem_append_left after member) (split ▸ List.mem_append_left after invited.member) op invited.op
    (undisturbed record member other op) invited.independent

-- Nobody takes the route away: its own send went out, and it does not end with
-- a final response.
theorem undisturbed_kept (sound : Sound codec settings pool) (split : pool.history = before ++ after)
    (invited : Invited before branch route routed) (undisturbed : Undisturbed branch before) {record : Record Packet}
    (member : record ∈ before) : record.event.op ≠ .removeUdpBranch branch := by
  intro op
  have inHistory {record : Record Packet} (member : record ∈ before) : record ∈ pool.history :=
    split ▸ List.mem_append_left after member
  obtain ⟨earlier,later,rfl⟩ := List.append_of_mem member
  obtain ⟨input,_,admitted⟩ := sound.tracked.admitted earlier record (later ++ after) (by simp [split])
  rcases admits_remove admitted op with ⟨⟨other,inserted⟩,packet,upstream,failed⟩ | ⟨other,found,removable⟩
  · obtain ⟨insertion,inEarlier,ofTask,event⟩ := System.mem_own.mp inserted
    obtain ⟨failure,failureEarlier,failureTask,failureEvent⟩ := System.mem_own.mp failed
    obtain ⟨forwarded,inBefore,ofRouted,sentPacket,sentEvent⟩ := invited.sent
    have same := undisturbed_sole sound split invited undisturbed (List.mem_append_left _ inEarlier) (congrArg Event.op event)
    have sameTask : failure.task = forwarded.task := by rw [failureTask,ofRouted,← same,ofTask]
    have sameSend := send_once sound (inHistory (List.mem_append_left _ failureEarlier)) (inHistory inBefore) sameTask
      (by rw [failureEvent]; rfl) (by rw [sentEvent]; rfl)
    rw [sameSend,sentEvent] at failureEvent
    cases failureEvent
  · obtain ⟨asked,inEarlier,_,event⟩ := System.mem_own.mp ((found branch (some other)).mpr ⟨rfl,rfl⟩)
    obtain ⟨first,rest,rfl⟩ := List.append_of_mem inEarlier
    have splitAsked : pool.history = first ++ asked :: (rest ++ record :: (later ++ after)) := by simp [split]
    obtain ⟨insertion,inFirst,insertOp,_⟩ := lookup_inserted sound splitAsked event
    have same := undisturbed_sole sound split invited undisturbed (by simp [inFirst]) insertOp
    rw [same,invited.op] at insertOp
    cases insertOp
    have removing := (inserted_minted sound (inHistory invited.member) invited.op invited.independent).2
    rw [removable,invited.invite] at removing
    cases removing

theorem undisturbed_standing (sound : Sound codec settings pool) (split : pool.history = before ++ after)
    (invited : Invited before branch route routed) (undisturbed : Undisturbed branch before) :
    (routes before).lookup branch = some ⟨route,routed.time⟩ := by
  unfold routes
  rw [Table.lookup_replay]
  cases last : Table.lastWrite branch (before.filterMap routeWrite) with
  | none =>
      have written : routeWrite routed = some (.put branch ⟨route,routed.time⟩) := by simp [routeWrite,invited.op]
      have absent := List.find?_eq_none.mp last _ (List.mem_reverse.mpr (List.mem_filterMap.mpr ⟨routed,invited.member,written⟩))
      exact (absent (decide_eq_true rfl)).elim
  | some change =>
      obtain ⟨named,member⟩ := lastFor_some last
      obtain ⟨record,inBefore,written⟩ := List.mem_filterMap.mp member
      unfold routeWrite at written
      split at written
      · rename_i asked other op
        cases written
        cases of_decide_eq_true named
        cases undisturbed_sole sound split invited undisturbed inBefore op
        cases op.symm.trans invited.op
        rfl
      · rename_i asked op
        cases written
        cases of_decide_eq_true named
        exact (undisturbed_kept sound split invited undisturbed inBefore op).elim
      · cases written

end Undisturbed

section Answers

def Finished (pool : ServerPool Packet) (task : Nat) : Prop :=
  ∃ program outcome, pool.tasks[task]? = some program ∧ program.outcome = some outcome

-- A datagram of an upstream that a task is handling: a response whose top Via
-- has the given branch.
structure UpstreamResponse (codec : Codec Packet Message) (settings : Settings) (pool : ServerPool Packet) (branch : String)
    (task : Nat) (message : Message) : Prop where
  received : ∃ input peer, pool.inputs[task]? = some input ∧ kind codec input = .response message peer ∧
    settings.isUpstreamSource peer = true
  named : codec.topViaBranch message = .ok (some branch)

-- What the client of a request is owed of a response: it goes to that client and
-- to nobody else, and if final is kept under that client's transaction and no other.
structure Answered (codec : Codec Packet Message) (message : Message) (route : UdpBranchRoute) (task : Nat)
    (pool : ServerPool Packet) : Prop where
  clientOnly : ∀ packet peer, ∀ sent : Bool, ⟨.sendToClient packet peer,sent⟩ ∈ System.own task pool.history →
    peer = route.clientPeer
  keyOnly : ∀ key response, ⟨.rememberUdpClientTransactionFinalResponse key response,()⟩ ∈ System.own task pool.history →
    route.clientTransactionKey = some key
  relayed : Finished pool task → ∀ response, relayedResponse codec route message = .ok response →
    (∃ sent : Bool, ⟨.sendToClient response route.clientPeer,sent⟩ ∈ System.own task pool.history) ∧
    (isFinal codec message = true → ∀ key, route.clientTransactionKey = some key →
      ⟨.rememberUdpClientTransactionFinalResponse key response,()⟩ ∈ System.own task pool.history)

theorem found_own (sound : Sound codec settings pool) {asked : Record Packet} (member : asked ∈ pool.history)
    (event : asked.event = ⟨.lookupUdpBranch branch,some route⟩) :
    Found (System.own asked.task pool.history) branch route := by
  intro other found
  constructor
  · intro inOwn
    obtain ⟨record,inHistory,ofTask,same⟩ := System.mem_own.mp inOwn
    cases lookup_once sound inHistory member ofTask (by rw [same]; rfl) (by rw [event]; rfl)
    cases same.symm.trans event
    exact ⟨rfl,rfl⟩
  · intro both
    rcases both with ⟨rfl,rfl⟩
    exact System.mem_own.mpr ⟨asked,member,rfl,event⟩

theorem found_past {past : List (Act Packet)} (found : Found (past ++ later) branch route) (held : Found past otherBranch other) :
    other = route := by
  have member := List.mem_append_left later ((held otherBranch (some other)).mpr ⟨rfl,rfl⟩)
  exact Option.some.inj ((found otherBranch (some other)).mp member).2

-- A response that was given a route which serves the same client in the same way.
theorem answered_by (sound : Sound codec settings pool) {asked : Record Packet} (member : asked ∈ pool.history)
    (event : asked.event = ⟨.lookupUdpBranch branch,some given⟩) (hasInput : pool.inputs[asked.task]? = some input)
    (kinded : kind codec input = .response message peer) (samePeer : given.clientPeer = route.clientPeer)
    (sameKey : isFinal codec message = true → given.clientTransactionKey = route.clientTransactionKey)
    (sameBytes : relayedResponse codec given message = relayedResponse codec route message) :
    Answered codec message route asked.task pool := by
  have found := found_own sound member event
  have past := sound.tracked.past asked.task input hasInput
  rw [kinded] at past
  refine ⟨?_,?_,?_⟩
  · intro packet client sent inOwn
    obtain ⟨before,after,split⟩ := List.append_of_mem inOwn
    obtain ⟨otherBranch,other,held,toClient,_⟩ := past before _ after split
    rw [split] at found
    rw [toClient,found_past found held,samePeer]
  · intro key response inOwn
    obtain ⟨before,after,split⟩ := List.append_of_mem inOwn
    obtain ⟨otherBranch,other,held,keyed,final,_⟩ := past before _ after split
    rw [split] at found
    rw [← sameKey final,← found_past found held,keyed]
  · intro all response relayed
    rcases all with ⟨program,outcome,stands,finished⟩
    have ended := Program.along_outcome (sound.tracked.path asked.task input program hasInput stands) finished
    rw [kinded] at ended
    have given := ended.relayed branch _ response found (sameBytes.trans relayed)
    rw [samePeer] at given
    exact ⟨given.1,fun final key named => given.2 final key ((sameKey final).trans named)⟩

end Answers

section Invite

-- The route the response finds is still the INVITE's; or the response is
-- provisional, and a route for the INVITE's client stands under the branch.
def Spared (codec : Codec Packet Message) (message : Message) (branch : String) (route : UdpBranchRoute) (time : Nat)
    (before : List (Record Packet)) : Prop :=
  Undisturbed branch before ∨ (isFinal codec message = false ∧ ∃ stamped, (routes before).lookup branch = some stamped ∧
    stamped.fresh udpBranchTtl time = true ∧ stamped.content.clientPeer = route.clientPeer)

theorem provisional_relayed (provisional : isFinal codec message = false) (samePeer : given.clientPeer = route.clientPeer) :
    relayedResponse codec given message = relayedResponse codec route message := by
  have unrepaired (method : Method) (addrs : List String) : ensureDialogRecordRoutes codec method addrs message = .ok message := by
    unfold ensureDialogRecordRoutes
    dsimp only
    rw [if_neg]
    intro repairing
    obtain ⟨_,success⟩ := Bool.and_eq_true_iff.mp repairing
    cases isCode : (codec.startLine message).code with
    | none => rw [isCode] at success; cases success
    | some code =>
        simp only [isCode,Option.any_some,decide_eq_true_eq] at success
        have final : isFinal codec message = true := by simp [isFinal,isCode,success.1]
        cases provisional.symm.trans final
  simp only [relayedResponse,unrepaired,samePeer]

theorem lookup_reply (sound : Sound codec settings pool) {asked : Record Packet}
    (split : pool.history = before ++ asked :: after) (op : asked.event.op = .lookupUdpBranch branch)
    (stands : (routes before).lookup branch = some stamped) (fresh : stamped.fresh udpBranchTtl asked.time = true) :
    asked.event = ⟨.lookupUdpBranch branch,some stamped.content⟩ := by
  have held := sound.ledger.faithful before asked after split
  obtain ⟨task,time,⟨asking,reply⟩⟩ := asked
  cases op
  simp only [Faithful,stands,Option.filter_some,fresh,if_true,Option.map_some] at held
  rw [held]

theorem invite_response_answered {task : Nat} {message : Message} {routed : Record Packet}
    (ran : runServer codec settings actions = some pool) (invited : Invited pool.history branch route routed)
    (response : UpstreamResponse codec settings pool branch task message) :
    (Finished pool task → ∃ asked ∈ pool.history, asked.task = task ∧ asked.event.op = .lookupUdpBranch branch) ∧
    ∀ before asked after, pool.history = before ++ asked :: after → asked.task = task →
      asked.event.op = .lookupUdpBranch branch → Invited before branch route routed →
      asked.time - routed.time ≤ udpBranchTtl → Spared codec message branch route asked.time before →
      Answered codec message route task pool := by
  have sound := run_sound ran
  obtain ⟨input,peer,hasInput,kinded,fromUpstream⟩ := response.received
  constructor
  · intro given
    rcases given with ⟨program,outcome,stands,finished⟩
    have ended := Program.along_outcome (sound.tracked.path task input program hasInput stands) finished
    rw [kinded] at ended
    obtain ⟨⟨_,_,id,_,_,minted⟩,_⟩ := inserted_minted sound invited.member invited.op invited.independent
    obtain ⟨found,inOwn⟩ := ended.asked branch response.named (minted ▸ proxyBranch_ours id) fromUpstream
    obtain ⟨asked,member,ofTask,event⟩ := System.mem_own.mp inOwn
    exact ⟨asked,member,ofTask,by rw [event]⟩
  · intro before asked after split same op invited inTime spared
    rcases same with rfl
    have member : asked ∈ pool.history := by simp [split]
    rcases spared with undisturbed | ⟨provisional,stamped,stands,fresh,samePeer⟩
    · have stands := undisturbed_standing sound split invited undisturbed
      have event := lookup_reply sound split op stands (decide_eq_true inTime)
      exact answered_by sound member event hasInput kinded rfl (fun _ => rfl) rfl
    · have event := lookup_reply sound split op stands fresh
      exact answered_by sound member event hasInput kinded samePeer (fun final => nomatch provisional.symm.trans final)
        (provisional_relayed provisional samePeer)

end Invite

section Runs

-- Messages as their fields, for runs on fixed inputs: a packet is its message.
structure Via where
  branch : String
  received : Option SocketAddr
  deriving DecidableEq, Repr

structure ContactUri where
  user : String
  host : String
  deriving DecidableEq, Repr

def ContactUri.render (uri : ContactUri) : String := "sip:" ++ uri.user ++ "@" ++ uri.host

structure Envelope where
  startLine : SipStartLine
  vias : List Via
  callId : String
  cseq : Nat × Method
  toUri : String
  contacts : List ContactUri
  deriving DecidableEq, Repr

def envelopeCodec : Codec Envelope Envelope where
  isCrlfKeepalive _ := false
  stunBindingSuccessResponse _ _ := none
  isStunPacket _ := false
  parse := .ok
  toBytes message := message
  startLine := Envelope.startLine
  isResponse message := message.startLine.code.isSome
  method message := if message.startLine.code.isSome then none else some message.cseq.2.asStr
  requestUri message := if message.startLine.code.isSome then none else some message.toUri
  callIdHeader message := .ok message.callId
  cseqNumber message := .ok message.cseq.1
  fromTag _ := none
  toTag _ := none
  isInitialInviteRequest _ := true
  topViaBranch message := .ok (message.vias.head?.map Via.branch)
  headers _ _ := []
  topHeaderValue _ _ := .ok none
  popTopHeaderValue _ message := .ok (none,message)
  popTopVia message := .ok (message.vias.head?.map Via.branch,{message with vias:=message.vias.tail})
  prependVia _ _ branch message := .ok {message with vias:=⟨branch,none⟩ :: message.vias}
  prependRecordRoute _ message := .ok message
  prependPath _ message := .ok message
  applyTopViaReceivedRport peer message :=
    .ok {message with vias:=message.vias.modifyHead fun via => {via with received:=some peer}}
  rewriteContactHostWithUser host rewrite message :=
    let rewritten := message.contacts.map fun contact => (contact,ContactUri.mk (rewrite contact.render contact.user) host)
    .ok (rewritten.map fun pair => (pair.1.render,pair.2.render),{message with contacts:=rewritten.map Prod.snd})
  maxForwards _ := .ok none
  setMaxForwards _ message := message
  responseLike message code reason := {message with startLine:=.response "SIP/2.0" code reason}
  extractAor message := .ok message.toUri
  extractContact message := .ok (message.contacts.head?.map ContactUri.render)
  extractFromAor message := .ok message.toUri
  extractToAor message := .ok message.toUri
  extractExpires _ := 3600000
  extractResponseContactExpires _ := none
  parseContactTarget _ _ := none
  parseRouteTarget _ _ := none
  parseSocketAddr _ := none
  showSocketAddr addr :=
    match addr.ip with
    | .v4 bits => Nat.repr bits.toNat ++ ":" ++ Nat.repr addr.port.toNat
    | .v6 bits => Nat.repr bits.toNat ++ ":" ++ Nat.repr addr.port.toNat
  normalizedSipUriWithoutParams uri := some uri
  uuidLikeId key := key

def host (last : BitVec 32) : SocketAddr := ⟨.v4 (0x0A000000#32 + last),5060#16⟩

def clientAddr : SocketAddr := host 1
def upstreamAddr : SocketAddr := host 2

def plainSettings : Settings where
  userSpaceSecurityEnabled := false
  securityEnabled _ := false
  sipPolicy _ := ⟨false,.ip⟩
  upstreamsContain addr := addr == upstreamAddr
  upstreamSourcesContain _ := false
  isAdvertisedOrListenerAddr _ _ := false
  recordRoute := false
  registerRouting := .path
  affinity := ⟨true,3600⟩
  affinityKey := .callId
  udpClientTransactionCacheEntries := 4096
  shardIndex _ := 0

def udpListener : ProxyListenerConfig := ⟨"0.0.0.0:5060",.udp,"default"⟩

abbrev Schedule := List (System.Action (Input Envelope) (Choice Envelope) Change)

def datagram (message : Envelope) (peer : SocketAddr) : System.Action (Input Envelope) (Choice Envelope) Change :=
  .spawn (.udp message peer udpListener)

-- Every send goes out, every upstream is healthy and nothing is refused.
def steps (task count : Nat) : Schedule :=
  List.replicate count (.step task ⟨.allow,none,upstreamAddr,true,"10.0.0.9:5060",.ok []⟩)

def request (method : Method) : Envelope where
  startLine := .request method.asStr "sip:200@example.com" "SIP/2.0"
  vias := [⟨"z9hG4bK-client",none⟩]
  callId := "call"
  cseq := (1,method)
  toUri := "sip:200@example.com"
  contacts := []

def answer (method : Method) (code : Nat) (reason : String) : Envelope :=
  {request method with startLine:=.response "SIP/2.0" code reason,vias:=⟨proxyBranch 1,none⟩ :: (request method).vias}

def inviteRoute : UdpBranchRoute where
  clientPeer := clientAddr
  upstream := upstreamAddr
  method := .invite
  removeOnFinal := false
  clientTransactionKey := some "167772161:5060:z9hG4bK-client:call:1:INVITE"
  recordRouteAddrs := []

def routedInvite : Record Envelope := ⟨0,0,⟨.insertUdpBranch (proxyBranch 1) inviteRoute,()⟩⟩
def sentInvite : Record Envelope :=
  ⟨0,0,⟨.sendToUpstream {request .invite with vias:=⟨proxyBranch 1,none⟩ :: (request .invite).vias} upstreamAddr,true⟩⟩

def answered : Schedule :=
  datagram (request .invite) clientAddr :: steps 0 12 ++ datagram (answer .invite 200 "OK") upstreamAddr :: steps 1 4

-- The 200 to the CANCEL takes the route away before the 487 to the INVITE comes.
def cancelled : Schedule :=
  datagram (request .invite) clientAddr :: steps 0 12 ++ datagram (request .cancel) clientAddr :: steps 1 7 ++
    datagram (answer .cancel 200 "OK") upstreamAddr :: steps 2 5 ++
    datagram (answer .invite 487 "Request Terminated") upstreamAddr :: steps 3 1

theorem invited_at {history : List (Record Envelope)} (routed : history[7]? = some routedInvite)
    (sent : history[9]? = some sentInvite) : Invited history (proxyBranch 1) inviteRoute routedInvite where
  member := List.mem_of_getElem? routed
  op := rfl
  invite := rfl
  sent := ⟨sentInvite,List.mem_of_getElem? sent,rfl,_,rfl⟩

theorem invite_answered_without_cancel : ∃ pool, runServer envelopeCodec plainSettings answered = some pool ∧
    Finished pool 1 ∧ Answered envelopeCodec (answer .invite 200 "OK") inviteRoute 1 pool := by
  let asked : Record Envelope := ⟨1,0,⟨.lookupUdpBranch (proxyBranch 1),some inviteRoute⟩⟩
  have reached : ∃ pool, runServer envelopeCodec plainSettings answered = some pool ∧
      pool.history = pool.history.take 12 ++ asked :: pool.history.drop 13 ∧
      (pool.history[7]? = some routedInvite ∧ pool.history[9]? = some sentInvite) ∧
      Undisturbed (proxyBranch 1) (pool.history.take 12) ∧ pool.tasks[1]? = some (.done ()) ∧
      pool.inputs[1]? = some (.udp (answer .invite 200 "OK") upstreamAddr udpListener) :=
    ⟨_,rfl,rfl,⟨rfl,rfl⟩,by decide +kernel,rfl,rfl⟩
  obtain ⟨pool,ran,split,⟨routed,sent⟩,undisturbed,done,hasInput⟩ := reached
  have response : UpstreamResponse envelopeCodec plainSettings pool (proxyBranch 1) 1 (answer .invite 200 "OK") :=
    ⟨⟨_,upstreamAddr,hasInput,rfl,by decide⟩,rfl⟩
  have invited : Invited (pool.history.take 12) (proxyBranch 1) inviteRoute routedInvite :=
    invited_at ((List.getElem?_take_of_lt (by decide)).trans routed) ((List.getElem?_take_of_lt (by decide)).trans sent)
  have answered := (invite_response_answered ran (invited_at routed sent) response).2 _ asked _ split rfl rfl invited
    (by decide) (.inl undisturbed)
  exact ⟨pool,ran,⟨_,_,done,rfl⟩,answered⟩

theorem cancelled_invite_response_lost : ∃ pool before asked after, runServer envelopeCodec plainSettings cancelled = some pool ∧
    pool.history = before ++ asked :: after ∧ asked.task = 3 ∧ asked.event.op = .lookupUdpBranch (proxyBranch 1) ∧
    Invited before (proxyBranch 1) inviteRoute routedInvite ∧ asked.time - routedInvite.time ≤ udpBranchTtl ∧
    UpstreamResponse envelopeCodec plainSettings pool (proxyBranch 1) 3 (answer .invite 487 "Request Terminated") ∧
    Finished pool 3 ∧ ¬Answered envelopeCodec (answer .invite 487 "Request Terminated") inviteRoute 3 pool := by
  let asked : Record Envelope := ⟨3,0,⟨.lookupUdpBranch (proxyBranch 1),none⟩⟩
  have reached : ∃ pool, runServer envelopeCodec plainSettings cancelled = some pool ∧
      pool.history = pool.history.take 24 ++ asked :: [] ∧
      (pool.history[7]? = some routedInvite ∧ pool.history[9]? = some sentInvite) ∧
      System.own 3 pool.history = [asked.event] ∧ pool.tasks[3]? = some (.done ()) ∧
      pool.inputs[3]? = some (.udp (answer .invite 487 "Request Terminated") upstreamAddr udpListener) :=
    ⟨_,rfl,rfl,⟨rfl,rfl⟩,rfl,rfl,rfl⟩
  obtain ⟨pool,ran,split,⟨routed,sent⟩,own,done,hasInput⟩ := reached
  have finished : Finished pool 3 := ⟨_,_,done,rfl⟩
  have invited : Invited (pool.history.take 24) (proxyBranch 1) inviteRoute routedInvite :=
    invited_at ((List.getElem?_take_of_lt (by decide)).trans routed) ((List.getElem?_take_of_lt (by decide)).trans sent)
  refine ⟨pool,_,asked,_,ran,split,rfl,rfl,invited,by decide,⟨⟨_,upstreamAddr,hasInput,rfl,by decide⟩,rfl⟩,finished,?_⟩
  intro answered
  obtain ⟨⟨sent,member⟩,_⟩ := answered.relayed finished _ rfl
  rw [own] at member
  cases List.mem_singleton.mp member

end Runs
end Sigproxy.Proxy
