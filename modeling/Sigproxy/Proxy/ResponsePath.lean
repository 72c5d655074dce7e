import Sigproxy.Proxy.Paths

namespace Sigproxy.Proxy
open Library Net Cluster Affinity
open Program

variable {Packet Message : Type} {codec : Codec Packet Message} {settings : Settings}

def Op.isBranchLookup : Op Packet → Bool
  | .lookupUdpBranch _ => true
  | _ => false

def Unanswered (past : List (Act Packet)) : Prop := ∀ act ∈ past, act.op.isBranchLookup = false

-- The one route this task has read, under the one branch it asked for.
def Found (past : List (Act Packet)) (branch : String) (route : UdpBranchRoute) : Prop :=
  ∀ other, ∀ found : Option UdpBranchRoute, ⟨.lookupUdpBranch other,found⟩ ∈ past ↔ other = branch ∧ found = some route

-- The binding of an address of record is in the gift of a success response to
-- the pending REGISTER that this task has taken.
def Granted (codec : Codec Packet Message) (message : Message) (past : List (Act Packet)) (aor : String)
    (target : AffinityTarget) : Prop :=
  ∃ branch, ∃ pending : PendingRegister, ⟨.takePendingRegister branch,some pending⟩ ∈ past ∧
    (∃ code, (codec.startLine message).code = some code ∧ 200 ≤ code ∧ code < 300) ∧
    aor ∈ pending.bindings.map PendingRegisterBinding.aor ∧ target = pending.target.affinity

def ResponseAdmits (codec : Codec Packet Message) (message : Message) (past : List (Act Packet)) : Act Packet → Prop
  | ⟨.checkPacket ..,_⟩ => True
  | ⟨.readClock,_⟩ => True
  | ⟨.lookupUdpBranch branch,_⟩ =>
    Unanswered past ∧ codec.topViaBranch message = .ok (some branch) ∧ startsWith branch proxyBranchPrefix = true
  | ⟨.takePendingRegister branch,_⟩ =>
    (∃ route, Found past branch route) ∧ ∃ code, (codec.startLine message).code = some code ∧ 200 ≤ code
  | ⟨.rememberAffinityKey key target _,_⟩ =>
    ∃ aor, key = registrationUpstreamAffinityKey aor ∧ Granted codec message past aor target
  | ⟨.submit command,_⟩ => ∃ target, Granted codec message past command.aor target
  | ⟨.rememberUdpClientTransactionFinalResponse key response,_⟩ =>
    ∃ branch route, Found past branch route ∧ route.clientTransactionKey = some key ∧ isFinal codec message = true ∧
      relayedResponse codec route message = .ok response
  | ⟨.sendToClient response peer,_⟩ =>
    ∃ branch route, Found past branch route ∧ peer = route.clientPeer ∧ relayedResponse codec route message = .ok response
  | ⟨.removeUdpBranch branch,_⟩ => ∃ route, Found past branch route ∧ route.removeOnFinal = true
  | _ => False

-- A response with one of our branches that was not turned away has asked for its
-- route. Where there was one, the response has gone to that route's client unless
-- it could not be rewritten, and a final one has been kept for retransmissions.
structure ResponseEnds (codec : Codec Packet Message) (settings : Settings) (message : Message) (peer : SocketAddr)
    (past : List (Act Packet)) : Prop where
  asked : ∀ branch, codec.topViaBranch message = .ok (some branch) → startsWith branch proxyBranchPrefix = true →
    settings.isUpstreamSource peer = true → ∃ found : Option UdpBranchRoute, ⟨.lookupUdpBranch branch,found⟩ ∈ past
  relayed : ∀ branch route response, Found past branch route → relayedResponse codec route message = .ok response →
    (∃ sent : Bool, ⟨.sendToClient response route.clientPeer,sent⟩ ∈ past) ∧
    (isFinal codec message = true → ∀ key, route.clientTransactionKey = some key →
      ⟨.rememberUdpClientTransactionFinalResponse key response,()⟩ ∈ past)

theorem found_snoc {act : Act Packet} (found : Found past branch route) (other : act.op.isBranchLookup = false) :
    Found (past ++ [act]) branch route := by
  intro asked reply
  rw [List.mem_append,List.mem_singleton,or_iff_left]
  · exact found asked reply
  · intro same
    rcases same with rfl
    cases other

theorem found_unique (first : Found past branch route) (second : Found past otherBranch otherRoute) :
    otherBranch = branch ∧ otherRoute = route := by
  obtain ⟨sameBranch,sameRoute⟩ := (first otherBranch (some otherRoute)).mp ((second _ _).mpr ⟨rfl,rfl⟩)
  exact ⟨sameBranch,Option.some.inj sameRoute⟩

theorem unanswered_found (unanswered : Unanswered past) (found : Found past branch route) : False := by
  have asked := unanswered _ ((found branch (some route)).mpr ⟨rfl,rfl⟩)
  cases asked

theorem unanswered_ends (unanswered : Unanswered past) (message : Message) (peer : SocketAddr)
    (turnedAway : ∀ branch, codec.topViaBranch message = .ok (some branch) → startsWith branch proxyBranchPrefix = true →
      settings.isUpstreamSource peer = false) : ResponseEnds codec settings message peer past where
  asked branch named ours fromUpstream := nomatch (turnedAway branch named ours).symm.trans fromUpstream
  relayed _ _ _ found := (unanswered_found unanswered found).elim

theorem lookup_found (unanswered : Unanswered past) (branch : String) (route : UdpBranchRoute) :
    Found (past ++ [⟨.lookupUdpBranch branch,some route⟩]) branch route := by
  intro other found
  rw [List.mem_append,List.mem_singleton,or_iff_right]
  · constructor
    · intro same; cases same; exact ⟨rfl,rfl⟩
    · rintro ⟨rfl,rfl⟩; rfl
  · intro earlier
    cases unanswered _ earlier

theorem lookup_missed (unanswered : Unanswered past) (message : Message) (peer : SocketAddr)
    (named : codec.topViaBranch message = .ok (some branch)) :
    ResponseEnds codec settings message peer (past ++ [⟨.lookupUdpBranch branch,none⟩]) where
  asked other same _ _ := by
    cases named.symm.trans same
    exact ⟨none,List.mem_append_right _ (List.mem_singleton_self _)⟩
  relayed other route response found := by
    have member := (found other (some route)).mpr ⟨rfl,rfl⟩
    rcases List.mem_append.mp member with earlier | last
    · cases unanswered _ earlier
    · cases List.mem_singleton.mp last

section Register
variable {message : Message}

theorem granted_snoc (granted : Granted codec message past aor target) (act : Act Packet) :
    Granted codec message (past ++ [act]) aor target := by
  obtain ⟨branch,pending,member,rest⟩ := granted
  exact ⟨branch,pending,List.mem_append_left _ member,rest⟩

theorem applyRegisterBinding_along {binding : PendingRegisterBinding} {pending : UpstreamTarget}
    (found : Found past branch route) (granted : Granted codec message past binding.aor pending.affinity) (expires : Nat) :
    (applyRegisterBinding pending expires binding).Along (ResponseAdmits codec message)
      (fun after outcome => outcome = .ok () ∧ Found after branch route ∧ ∀ act ∈ past, act ∈ after) past := by
  unfold applyRegisterBinding
  split
  · exact fun _ => ⟨⟨_,granted⟩,rfl,found_snoc found rfl,fun act => List.mem_append_left _⟩
  · refine along_call fun remembered => ⟨⟨binding.aor,rfl,granted⟩,?_⟩
    refine along_call fun now => ⟨trivial,?_⟩
    have later := granted_snoc (granted_snoc granted ⟨.rememberAffinityKey _ _ expires,remembered⟩) ⟨.readClock,now⟩
    refine fun submitted => ⟨⟨_,later⟩,rfl,?_,?_⟩
    · exact found_snoc (found_snoc (found_snoc found rfl) rfl) rfl
    · intro act member
      exact List.mem_append_left _ (List.mem_append_left _ (List.mem_append_left _ member))

theorem applyRegisterBindings_along {pending : PendingRegister} {code : Nat} (taken : String) (expires : Nat)
    (bindings : List PendingRegisterBinding) (known : ∀ binding ∈ bindings, binding ∈ pending.bindings)
    (success : (codec.startLine message).code = some code ∧ 200 ≤ code ∧ code < 300)
    (found : Found past branch route) (member : ⟨.takePendingRegister taken,some pending⟩ ∈ past) :
    (applyRegisterBindings pending.target expires bindings).Along (ResponseAdmits codec message)
      (fun after outcome => outcome = .ok () ∧ Found after branch route) past := by
  induction bindings generalizing past with
  | nil => exact ⟨rfl,found⟩
  | cons binding rest ih =>
      have listed : binding.aor ∈ pending.bindings.map PendingRegisterBinding.aor :=
        List.mem_map_of_mem (known binding (by simp))
      have granted : Granted codec message past binding.aor pending.target.affinity :=
        ⟨taken,pending,member,⟨code,success⟩,listed,rfl⟩
      refine along_bind _ (applyRegisterBinding_along found granted expires) (fun after _ kept => ?_)
        (fun _ _ kept => nomatch kept.1)
      exact ih (fun other inRest => known other (List.mem_cons_of_mem _ inRest)) kept.2.1 (kept.2.2 _ member)

theorem applyRegisterStartLine_along (found : Found past branch route) :
    (applyRegisterStartLine codec branch message).Along (ResponseAdmits codec message)
      (fun after outcome => outcome = .ok () ∧ Found after branch route) past := by
  unfold applyRegisterStartLine
  split
  · rename_i code isCode
    unfold applyRegisterResponse
    split
    · exact ⟨rfl,found⟩
    · rename_i final
      refine along_call fun taken => ⟨⟨⟨route,found⟩,code,isCode,by omega⟩,?_⟩
      cases taken with
      | none => exact ⟨rfl,found_snoc found rfl⟩
      | some pending =>
          dsimp only
          split
          · rename_i success
            exact applyRegisterBindings_along branch _ _ (fun _ member => member) ⟨isCode,by omega,success⟩
              (found_snoc found rfl) (List.mem_append_right _ (List.mem_singleton_self _))
          · exact ⟨rfl,found_snoc found rfl⟩
  · exact ⟨rfl,found⟩

end Register

section Relay
variable {message : Message}

theorem rememberFinal_along {response : Packet} (found : Found past branch route)
    (relayed : relayedResponse codec route message = .ok response) :
    (rememberFinal (isFinal codec message) route.clientTransactionKey response).Along (ResponseAdmits codec message)
      (fun after outcome => outcome = .ok () ∧ Found after branch route ∧ (isFinal codec message = true → ∀ key,
        route.clientTransactionKey = some key → ⟨.rememberUdpClientTransactionFinalResponse key response,()⟩ ∈ after)) past := by
  unfold rememberFinal
  split
  · rename_i key named
    split
    · rename_i final
      refine fun _ => ⟨⟨branch,route,found,named,final,relayed⟩,rfl,found_snoc found rfl,?_⟩
      intro _ other same
      cases named.symm.trans same
      exact List.mem_append_right _ (List.mem_singleton_self _)
    · rename_i provisional
      exact ⟨rfl,found,fun final => (provisional final).elim⟩
  · rename_i unnamed
    exact ⟨rfl,found,fun _ key named => nomatch unnamed.symm.trans named⟩

theorem found_ends {response : Packet} {sent : Bool} (found : Found past branch route) (peer : SocketAddr)
    (named : codec.topViaBranch message = .ok (some branch)) (relayed : relayedResponse codec route message = .ok response)
    (gone : ⟨.sendToClient response route.clientPeer,sent⟩ ∈ past)
    (cached : isFinal codec message = true → ∀ key, route.clientTransactionKey = some key →
      ⟨.rememberUdpClientTransactionFinalResponse key response,()⟩ ∈ past) :
    ResponseEnds codec settings message peer past where
  asked other same _ _ := by
    cases named.symm.trans same
    exact ⟨some route,(found branch (some route)).mpr ⟨rfl,rfl⟩⟩
  relayed other held bytes holds rewritten := by
    obtain ⟨rfl,rfl⟩ := found_unique found holds
    cases relayed.symm.trans rewritten
    exact ⟨⟨sent,gone⟩,cached⟩

theorem relay_along {response : Packet} (found : Found past branch route) (peer : SocketAddr)
    (named : codec.topViaBranch message = .ok (some branch)) (relayed : relayedResponse codec route message = .ok response) :
    (relay branch route (isFinal codec message) response).Along (ResponseAdmits codec message)
      (fun past _ => ResponseEnds codec settings message peer past) past := by
  refine along_bind _ (rememberFinal_along found relayed) (fun past _ kept => ?_) (fun past error kept => nomatch kept.1)
  obtain ⟨_,found,cached⟩ := kept
  refine along_call fun sent => ⟨⟨branch,route,found,rfl,relayed⟩,?_⟩
  have gone : ⟨.sendToClient response route.clientPeer,sent⟩ ∈ past ++ [⟨.sendToClient response route.clientPeer,sent⟩] :=
    List.mem_append_right _ (List.mem_singleton_self _)
  have foundStill := @found_snoc Packet _ branch route ⟨.sendToClient response route.clientPeer,sent⟩ found rfl
  have cachedStill := fun final key named =>
    List.mem_append_left [⟨.sendToClient response route.clientPeer,sent⟩] (cached final key named)
  split
  · rename_i removing
    have removable : route.removeOnFinal = true := (Bool.and_eq_true_iff.mp removing).2
    refine along_call fun removed => ⟨⟨route,foundStill,removable⟩,?_⟩
    have foundLast := @found_snoc Packet _ branch route ⟨.removeUdpBranch branch,removed⟩ foundStill rfl
    have cachedLast := fun final key named =>
      List.mem_append_left [⟨.removeUdpBranch branch,removed⟩] (cachedStill final key named)
    split <;> exact found_ends foundLast peer named relayed (List.mem_append_left _ gone) cachedLast
  · split <;> exact found_ends foundStill peer named relayed gone cachedStill

theorem handleUdpResponse_along (unanswered : Unanswered past) (message : Message) (peer : SocketAddr) :
    (handleUdpResponse codec message peer).Along (ResponseAdmits codec message)
      (fun past _ => ResponseEnds codec settings message peer past) past := by
  refine along_lift ?_ ?_
  · intro top parsed
    cases top with
    | none => exact unanswered_ends unanswered message peer fun branch named => nomatch parsed.symm.trans named
    | some branch =>
        dsimp only
        split
        · rename_i ours
          refine along_call fun reply => ⟨⟨unanswered,parsed,ours⟩,?_⟩
          cases reply with
          | none => exact lookup_missed unanswered message peer parsed
          | some route =>
              refine along_bind _ (applyRegisterStartLine_along (lookup_found unanswered branch route))
                (fun past _ kept => ?_) (fun _ _ kept => nomatch kept.1)
              refine along_lift ?_ ?_
              · exact fun response relayed => relay_along kept.2 peer parsed relayed
              · intro error failed
                refine ⟨fun other same _ _ => ?_,fun other held bytes holds rewritten => ?_⟩
                · cases parsed.symm.trans same
                  exact ⟨some route,(kept.2 branch (some route)).mpr ⟨rfl,rfl⟩⟩
                · obtain ⟨rfl,rfl⟩ := found_unique kept.2 holds
                  cases failed.symm.trans rewritten
        · rename_i notOurs
          apply unanswered_ends unanswered message peer
          intro other named ours
          cases parsed.symm.trans named
          exact (notOurs ours).elim
  · intro error failed
    exact unanswered_ends unanswered message peer fun branch named => nomatch failed.symm.trans named

end Relay

section Handlers

-- What becomes of an input, as far as the packet alone decides it.
inductive Kind (Message : Type) where
  | other
  | response (message : Message) (peer : SocketAddr)
  | request (method : Method)

def sipKind (codec : Codec Packet Message) (packet : Packet) (peer : SocketAddr) : Kind Message :=
  match codec.parse packet with
  | .error _ => .other
  | .ok message =>
    if codec.isResponse message then .response message peer
    else ((codec.method message).bind canonicalSipMethod).elim .other .request

def kind (codec : Codec Packet Message) : Input Packet → Kind Message
  | .udp packet peer _ =>
    if codec.isCrlfKeepalive packet || (codec.stunBindingSuccessResponse packet peer).isSome || codec.isStunPacket packet then .other
    else sipKind codec packet peer
  | .tcp packet peer _ =>
    match sipKind codec packet peer with
    | .response .. => .other
    | kind => kind

namespace Kind

def Admits (codec : Codec Packet Message) : Kind Message → List (Act Packet) → Act Packet → Prop
  | .other,_,act => Plain act.op
  | .response message _,past,act => ResponseAdmits codec message past act
  | .request method,past,act => RequestAdmits method past act

def Ends (codec : Codec Packet Message) (settings : Settings) : Kind Message → List (Act Packet) → Except String Unit → Prop
  | .response message peer,past,_ => ResponseEnds codec settings message peer past
  | _,_,_ => True

end Kind

def Checked (past : List (Act Packet)) : Prop := ∀ act ∈ past, ∃ listener peer packet, act.op = .checkPacket listener peer packet

theorem Checked.unrouted (checked : Checked past) : @Unrouted Packet past := by
  refine ⟨fun act member => ?_,fun act member => ?_⟩ <;>
  · obtain ⟨listener,peer,packet,same⟩ := checked act member
    rw [same]
    rfl

theorem Checked.unanswered (checked : Checked past) : @Unanswered Packet past := by
  intro act member
  obtain ⟨listener,peer,packet,same⟩ := checked act member
  rw [same]
  rfl

theorem checkPacket_along {admits : List (Act Packet) → Act Packet → Prop}
    (admitted : ∀ decision : SecurityDecision, admits [] ⟨.checkPacket listener peer packet,decision⟩) :
    (checkPacket settings listener peer packet).Along admits
      (fun past outcome => Checked past ∧ (outcome = .ok .allow ∨ settings.isUpstreamSource peer = false)) [] := by
  unfold checkPacket
  split
  · rename_i checking
    refine fun decision => ⟨admitted decision,?_,.inr (by simpa using (Bool.and_eq_true_iff.mp checking).2)⟩
    intro act member
    cases List.mem_singleton.mp member
    exact ⟨listener,peer,packet,rfl⟩
  · exact ⟨fun act member => (nomatch member),.inl rfl⟩

structure IsRequest (codec : Codec Packet Message) (packet : Packet) (message : Message) (method : Method) : Prop where
  parsed : codec.parse packet = .ok message
  isRequest : codec.isResponse message = false
  named : (codec.method message).bind canonicalSipMethod = some method

theorem handleSipPacket_along {admits : List (Act Packet) → Act Packet → Prop}
    {ends : List (Act Packet) → Except String Unit → Prop} {onResponse : Message → Task Packet Unit}
    {onRequest : Message → Method → Task Packet Unit}
    (admitted : ∀ decision : SecurityDecision, admits [] ⟨.checkPacket listener peer packet,decision⟩)
    (dropped : ∀ past outcome, Checked past → settings.isUpstreamSource peer = false → ends past outcome)
    (ignored : ∀ past outcome, sipKind codec packet peer = .other → ends past outcome)
    (answered : ∀ past message, Checked past → sipKind codec packet peer = .response message peer →
      (onResponse message).Along admits ends past)
    (requested : ∀ past message method, Checked past → sipKind codec packet peer = .request method →
      IsRequest codec packet message method → (onRequest message method).Along admits ends past) :
    (handleSipPacket codec settings packet peer listener onResponse onRequest).Along admits ends [] := by
  refine along_bind _ (checkPacket_along admitted) (fun past decision kept => ?_) (fun past error kept => ?_)
  · obtain ⟨checked,passed⟩ := kept
    cases decision with
    | drop reason => exact dropped past _ checked (passed.resolve_left fun same => nomatch same)
    | allow =>
        cases parsed : codec.parse packet with
        | error error =>
            dsimp only
            split <;> exact ignored past _ (by simp [sipKind,parsed])
        | ok message =>
            dsimp only
            split
            · rename_i isResponse
              exact answered past message checked (by simp [sipKind,parsed,isResponse])
            · rename_i isRequest
              split
              · rename_i unnamed
                exact ignored past _ (by simp [sipKind,parsed,isRequest,unnamed])
              · rename_i method named
                exact requested past message method checked (by simp [sipKind,parsed,isRequest,named])
                  ⟨parsed,Bool.eq_false_iff.mpr isRequest,named⟩
  · exact dropped past _ kept.1 (kept.2.resolve_left fun same => nomatch same)

theorem dropped_ends (codec : Codec Packet Message) (known : Kind Message) (checked : Checked past)
    (outcome : Except String Unit)
    (outside : ∀ message peer, known = .response message peer → settings.isUpstreamSource peer = false) :
    known.Ends codec settings past outcome := by
  cases known with
  | other => trivial
  | request method => trivial
  | response message peer =>
      exact unanswered_ends checked.unanswered message peer fun _ _ _ => outside message peer rfl

theorem checkPacket_admitted (known : Kind Message) (listener : ProxyListenerConfig) (peer : SocketAddr) (packet : Packet)
    (decision : SecurityDecision) : known.Admits codec [] ⟨.checkPacket listener peer packet,decision⟩ := by
  cases known <;> trivial

theorem sipKind_peer (same : sipKind codec packet peer = .response message other) : other = peer := by
  unfold sipKind at same
  split at same
  · cases same
  · rename_i parsed _
    split at same
    · cases same; rfl
    · cases named : (codec.method parsed).bind canonicalSipMethod with
      | none => rw [named] at same; cases same
      | some method => rw [named] at same; cases same

theorem handleUdpPacket_along (packet : Packet) (peer : SocketAddr) (listener : ProxyListenerConfig) :
    (handleUdpPacket codec settings packet peer listener).Along ((kind codec (.udp packet peer listener)).Admits codec)
      ((kind codec (.udp packet peer listener)).Ends codec settings) [] := by
  unfold handleUdpPacket
  split
  · rename_i keepalive
    rw [show kind codec (.udp packet peer listener) = .other by simp [kind,keepalive]]
    trivial
  rename_i keepalive
  split
  · rename_i response stun
    rw [show kind codec (.udp packet peer listener) = .other by simp [kind,stun]]
    show (sendToClient response peer _).Along (fun _ act => Plain act.op) (fun _ _ => True) []
    exact along_uses (silent_plain (still_silent (sendToClient_still _ _ _))) (fun _ _ _ plain => plain) (fun _ _ _ _ => trivial) trivial
  rename_i stun
  split
  · rename_i isStun
    rw [show kind codec (.udp packet peer listener) = .other by simp [kind,isStun]]
    trivial
  rename_i isStun
  have sip : kind codec (.udp packet peer listener) = sipKind codec packet peer := by simp [kind,keepalive,stun,isStun]
  rw [sip]
  refine handleSipPacket_along (checkPacket_admitted _ listener peer packet) (fun past outcome checked outside => ?_)
    (fun past outcome kinded => ?_) (fun past message checked kinded => ?_) (fun past message method checked kinded _ => ?_)
  · exact dropped_ends codec _ checked outcome fun message other same => sipKind_peer same ▸ outside
  · rw [kinded]
    trivial
  · rw [kinded]
    exact handleUdpResponse_along checked.unanswered message peer
  · rw [kinded]
    exact handleRequest_along (fun past message unrouted => forwardUdp_along unrouted message peer listener method)
      (fun _ _ _ => silent_plain (still_silent (rejectUdp_still ..))) checked.unrouted packet message peer listener

theorem tcp_kind (packet : Packet) (peer : SocketAddr) (listener : ProxyListenerConfig) :
    kind codec (.tcp packet peer listener) ≠ .response message other := by
  intro same
  simp only [kind] at same
  split at same
  · cases same
  · rename_i notResponse
    exact notResponse _ _ same

theorem handleTcpPacket_along (packet : Packet) (peer : SocketAddr) (listener : ProxyListenerConfig) :
    (handleTcpPacket codec settings packet peer listener).Along ((kind codec (.tcp packet peer listener)).Admits codec)
      ((kind codec (.tcp packet peer listener)).Ends codec settings) [] := by
  refine handleSipPacket_along (checkPacket_admitted _ listener peer packet) (fun past outcome checked _ => ?_)
    (fun past outcome kinded => ?_) (fun past message checked kinded => ?_) (fun past message method checked kinded _ => ?_)
  · exact dropped_ends codec _ checked outcome fun message other same => (tcp_kind packet peer listener same).elim
  · rw [show kind codec (.tcp packet peer listener) = .other by simp [kind,kinded]]
    trivial
  · rw [show kind codec (.tcp packet peer listener) = .other by simp [kind,kinded]]
    trivial
  · rw [show kind codec (.tcp packet peer listener) = .request method by simp [kind,kinded]]
    exact handleRequest_along (fun past message unrouted => forwardTcpStream_along unrouted message peer listener method)
      (fun _ _ _ => silent_plain (still_silent (rejectTcp_still ..))) checked.unrouted packet message peer listener

theorem handler_along (input : Input Packet) :
    (handler codec settings input).Along ((kind codec input).Admits codec) ((kind codec input).Ends codec settings) [] := by
  cases input with
  | udp packet peer listener => exact handleUdpPacket_along packet peer listener
  | tcp packet peer listener => exact handleTcpPacket_along packet peer listener

end Handlers
end Sigproxy.Proxy
