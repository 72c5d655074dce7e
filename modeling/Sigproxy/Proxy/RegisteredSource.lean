import Sigproxy.Proxy.Courses
import Sigproxy.Proxy.DeniedSource
import Sigproxy.Proxy.DeviceDelivery

namespace Sigproxy.Proxy
open Library Net Cluster Security
open Program

variable {Packet Message : Type} {codec : Codec Packet Message} {settings : Settings} {past after : List (Act Packet)}
  {input : Input Packet} {message : Message}

section Gate

-- An INVITE that comes from outside to a listener whose policy asks for its registration.
structure Guest (codec : Codec Packet Message) (settings : Settings) (input : Input Packet) (message : Message) : Prop where
  invites : IsRequest codec input.packet message .invite
  outside : settings.isUpstreamSource input.peer = false
  required : (settings.sipPolicy input.listener).requireRegisteredInviteSource = true

-- The table held the binding under the key, and the clock read next was before its end.
def Alive (past : List (Act Packet)) (key : String) (binding : ContactBinding) : Prop :=
  ∃ earlier now later, past = earlier ++ ⟨.peekContact key,some binding⟩ :: ⟨.readClock,now⟩ :: later ∧ binding.isExpired now = false

-- What lets such an INVITE pass.
structure Cleared (codec : Codec Packet Message) (settings : Settings) (input : Input Packet) (message : Message)
    (past : List (Act Packet)) (fromAor key : String) (binding : ContactBinding) : Prop where
  caller : codec.extractFromAor message = .ok fromAor
  keyed : key ∈ registrationRouteKeys codec fromAor
  alive : Alive past key binding
  matched : registeredInviteSourceMatches codec binding.source input.peer
    (settings.sipPolicy input.listener).registeredInviteSourceMatch = true

def Passed (codec : Codec Packet Message) (settings : Settings) (input : Input Packet) (past : List (Act Packet)) : Prop :=
  ∀ message, Guest codec settings input message → ∃ fromAor key binding, Cleared codec settings input message past fromAor key binding

theorem Alive.snoc (alive : Alive past key binding) (act : Act Packet) : Alive (past ++ [act]) key binding := by
  obtain ⟨earlier,now,later,rfl,lasting⟩ := alive
  exact ⟨earlier,now,later ++ [act],by simp,lasting⟩

theorem Passed.snoc (passed : Passed codec settings input past) (act : Act Packet) : Passed codec settings input (past ++ [act]) := by
  intro message guest
  obtain ⟨fromAor,key,binding,cleared⟩ := passed message guest
  exact ⟨fromAor,key,binding,{cleared with alive:=cleared.alive.snoc act}⟩

theorem lookupContact_alive (key : String) (past : List (Act Packet)) :
    Yields (lookupContact key) past fun after found => ∀ binding, found = some binding → Alive after key binding := by
  apply yields_call
  intro found
  cases found with
  | none => exact yields_pure fun _ same => nomatch same
  | some binding =>
      apply yields_call
      intro now
      split
      · exact yields_call fun _ => yields_pure fun _ same => nomatch same
      · rename_i lasting
        apply yields_pure
        intro other same
        cases same
        exact ⟨past,now,[],by simp,Bool.eq_false_iff.mpr lasting⟩

theorem lookupFirstContact_alive (keys : List String) (past : List (Act Packet)) :
    Yields (lookupFirstContact keys) past fun after found => ∀ binding, found = some binding → ∃ key ∈ keys, Alive after key binding := by
  induction keys generalizing past with
  | nil => exact yields_pure fun _ same => nomatch same
  | cons key rest ih =>
      apply yields_bind _ (lookupContact_alive key past)
      intro between found _ held
      cases found with
      | none =>
          refine along_mono (ih between) (fun _ _ held => held) fun after outcome ended => ⟨ended.1,fun found same binding isSome => ?_⟩
          obtain ⟨other,member,alive⟩ := ended.2 found same binding isSome
          exact ⟨other,List.mem_cons_of_mem _ member,alive⟩
      | some binding => exact yields_pure fun other same => ⟨key,List.mem_cons_self,held other same⟩

theorem checkSipPolicy_cleared (guest : Guest codec settings input message) (past : List (Act Packet)) :
    Yields (checkSipPolicy codec settings input.listener input.peer message .invite) past fun after refused =>
      refused = none → ∃ fromAor key binding, Cleared codec settings input message after fromAor key binding := by
  unfold checkSipPolicy
  dsimp only
  rw [if_neg (by simp [guest.outside,guest.required])]
  cases caller : codec.extractFromAor message with
  | error error => exact yields_pure fun same => nomatch same
  | ok fromAor =>
      apply yields_bind _ (lookupFirstContact_alive _ past)
      intro between found _ held
      cases found with
      | none => exact yields_pure fun same => nomatch same
      | some binding =>
          dsimp only
          split
          · rename_i matched
            apply yields_pure
            intro _
            obtain ⟨key,keyed,alive⟩ := held binding rfl
            exact ⟨fromAor,key,binding,caller,keyed,alive,matched⟩
          · exact yields_pure fun same => nomatch same

theorem refusal_passed (enforced : settings.userSpaceSecurityEnabled = true) (parsed : IsRequest codec input.packet message method)
    (past : List (Act Packet)) :
    Yields (refusal codec settings input.listener input.peer message method) past fun after refused =>
      refused = none → Passed codec settings input after := by
  by_cases invites : ∃ message, Guest codec settings input message
  · obtain ⟨given,guest⟩ := invites
    cases parsed.parsed.symm.trans guest.invites.parsed
    cases parsed.named.symm.trans guest.invites.named
    unfold refusal
    rw [if_pos (by simp [enforced,guest.outside])]
    apply yields_call
    intro rejected
    cases rejected with
    | some reason => exact yields_pure fun same => nomatch same
    | none =>
        apply yields_bind _ (checkSipPolicy_cleared guest _)
        intro between refused _ held
        cases refused with
        | some reason => exact yields_pure fun same => nomatch same
        | none =>
            apply yields_pure
            intro _ other again
            cases guest.invites.parsed.symm.trans again.invites.parsed
            exact held rfl
  · refine along_mono (yields_any _ past) (fun _ _ held => held) fun after outcome ended => ⟨ended.1,fun _ _ _ message guest => ?_⟩
    exact (invites ⟨message,guest⟩).elim

-- Nothing goes out to an upstream before the check has let it.
def Gated (codec : Codec Packet Message) (settings : Settings) (input : Input Packet) (past : List (Act Packet)) (act : Act Packet) : Prop :=
  act.op.forwards = true → Passed codec settings input past

theorem silent_gated {Result : Type} {task : Task Packet Result} (silent : task.Uses Silent) (past : List (Act Packet)) :
    task.Along (Gated codec settings input) (fun _ _ => True) past := by
  refine along_uses silent (fun _ act _ allowed forwards => ?_) (fun _ _ _ _ => trivial) trivial
  cases (aside_silent (silent_aside _ allowed)).1.symm.trans forwards

theorem passed_gated {Result : Type} (task : Task Packet Result) (passed : Passed codec settings input past) :
    task.Along (Gated codec settings input) (fun after _ => Passed codec settings input after) past := by
  induction task generalizing past with
  | done result => exact passed
  | fail error => exact passed
  | call op following ih => exact fun reply => ⟨fun _ => passed,ih reply (passed.snoc _)⟩

theorem handleRequest_gated {forward : Message → Task Packet Unit} {reject : Message → Nat → String → Task Packet Unit}
    (enforced : settings.userSpaceSecurityEnabled = true) (parsed : IsRequest codec input.packet message method)
    (rejected : ∀ message code reason, (reject message code reason).Uses Silent) (packet : Packet) (past : List (Act Packet)) :
    (handleRequest codec settings packet message input.peer input.listener method forward reject).Along
      (Gated codec settings input) (fun _ _ => True) past := by
  refine along_bind _ (silent_gated (still_silent (absorbed_still message method)) past) (fun past absorbed _ => ?_) (fun _ _ _ => trivial)
  split
  · trivial
  refine along_bind _ (along_mono (along_both (silent_gated (refusal_silent ..) past) (refusal_passed enforced parsed past))
    (fun _ _ both => both.1) fun _ _ both => both.2.2) (fun past refused held => ?_) (fun _ _ _ => trivial)
  cases refused with
  | some refused => exact silent_gated (rejected _ _ _) past
  | none => exact along_mono (passed_gated _ (held none rfl rfl)) (fun _ _ held => held) fun _ _ _ => trivial

theorem idle_gated {task : Task Packet Unit} (idle : task.Uses Idle) (past : List (Act Packet)) :
    task.Along (Gated codec settings input) (fun _ _ => True) past := by
  refine along_uses idle (fun _ act _ allowed forwards => ?_) (fun _ _ _ _ => trivial) trivial
  exact (forwards_busy forwards allowed).elim

theorem handler_gated (enforced : settings.userSpaceSecurityEnabled = true) (input : Input Packet) :
    (handler codec settings input).Along (Gated codec settings input) (fun _ _ => True) [] := by
  cases input with
  | udp packet peer listener =>
      simp only [handler]
      unfold handleUdpPacket
      split
      · trivial
      split
      · exact silent_gated (still_silent (sendToClient_still ..)) []
      split
      · trivial
      exact handleSipPacket_along (fun _ forwards => by cases forwards) (fun _ _ _ _ => trivial) (fun _ _ _ => trivial)
        (fun past message _ _ => idle_gated (handleUdpResponse_idle message peer) past)
        (fun past message method _ _ parsed => @handleRequest_gated _ _ codec settings (.udp packet peer listener) message method _ _
          enforced parsed (fun _ _ _ => still_silent (rejectUdp_still ..)) packet past)
  | tcp packet peer listener =>
      exact handleSipPacket_along (fun _ forwards => by cases forwards) (fun _ _ _ _ => trivial) (fun _ _ _ => trivial)
        (fun _ _ _ _ => trivial)
        (fun past message method _ _ parsed => @handleRequest_gated _ _ codec settings (.tcp packet peer listener) message method _ _
          enforced parsed (fun _ _ _ => still_silent (rejectTcp_still ..)) packet past)

end Gate

section Grants

-- A response to the request that went out under the branch: the one being handled,
-- or one that the connection it went out on has brought.
inductive Heard (codec : Codec Packet Message) (input : Input Packet) (past : List (Act Packet)) (branch : String) (response : Message) : Prop where
  | datagram : kind codec input = .response response input.peer → codec.topViaBranch response = .ok (some branch) →
      Heard codec input past branch response
  | stream : ⟨.sendRequest upstream branch packet method,.ok responses⟩ ∈ past → received ∈ responses →
      codec.parse received = .ok response → Heard codec input past branch response

-- A binding is written for a pending REGISTER that has been answered with success.
structure Backed (codec : Codec Packet Message) (input : Input Packet) (past : List (Act Packet)) (binding : ContactBinding)
    (branch : String) (pending : PendingRegister) : Prop where
  taken : ⟨.takePendingRegister branch,some pending⟩ ∈ past
  answered : ∃ response code, Heard codec input past branch response ∧ (codec.startLine response).code = some code ∧ 200 ≤ code ∧ code < 300
  listed : ⟨binding.aor,binding.contact,binding.source⟩ ∈ pending.bindings

def Grants (codec : Codec Packet Message) (input : Input Packet) (past : List (Act Packet)) : Act Packet → Prop
  | ⟨.submit (.registerContact binding),_⟩ => ∃ branch pending, Backed codec input past binding branch pending
  | ⟨.rememberPendingRegister _ pending,_⟩ => From codec input.peer pending
  | _ => True

-- The calls that write no binding.
def Conveys (codec : Codec Packet Message) (peer : SocketAddr) : Op Packet → Prop
  | .submit _ => False
  | .rememberPendingRegister _ pending => From codec peer pending
  | _ => True

theorem Heard.later (heard : Heard codec input past branch message) (grown : ∀ act ∈ past, act ∈ after) :
    Heard codec input after branch message := by
  cases heard with
  | datagram kinded named => exact .datagram kinded named
  | stream sent received parsed => exact .stream (grown _ sent) received parsed

theorem silent_conveys {Result : Type} {task : Task Packet Result} (silent : task.Uses Silent) (peer : SocketAddr) :
    task.Uses (Conveys codec peer) :=
  silent.mono fun op allowed => by cases op <;> first | exact allowed.elim | trivial

theorem remembers_conveys {Result : Type} {task : Task Packet Result} (remembers : task.Uses Remembers) (peer : SocketAddr) :
    task.Uses (Conveys codec peer) :=
  remembers.mono fun op allowed => by cases op <;> first | exact allowed.elim | trivial

theorem conveys_granted {act : Act Packet} (conveys : Conveys codec input.peer act.op) (past : List (Act Packet)) :
    Grants codec input past act := by
  obtain ⟨op,reply⟩ := act
  cases op <;> first | exact conveys | exact conveys.elim

theorem conveys_along {Result : Type} {task : Task Packet Result} (conveys : task.Uses (Conveys codec input.peer)) (past : List (Act Packet)) :
    task.Along (Grants codec input) (fun after _ => ∀ act ∈ past, act ∈ after) past :=
  along_uses conveys (fun past _ _ allowed => conveys_granted allowed past)
    (fun _ _ grown _ act member => List.mem_append_left _ (grown act member)) fun _ member => member

theorem conveys_then {First Second : Type} {task : Task Packet First} {next : First → Task Packet Second}
    (conveys : task.Uses (Conveys codec input.peer))
    (rest : ∀ between result, (∀ act ∈ past, act ∈ between) → (next result).Along (Grants codec input) (fun _ _ => True) between) :
    (task >>= next).Along (Grants codec input) (fun _ _ => True) past :=
  along_bind _ (conveys_along conveys past) rest fun _ _ _ => trivial

theorem applyRegisterBindings_granted {pending : PendingRegister} (target : UpstreamTarget) (expires : Nat)
    (bindings : List PendingRegisterBinding) (known : ∀ binding ∈ bindings, binding ∈ pending.bindings)
    (taken : ⟨.takePendingRegister branch,some pending⟩ ∈ past) (heard : Heard codec input past branch message)
    (success : (codec.startLine message).code = some code ∧ 200 ≤ code ∧ code < 300) :
    (applyRegisterBindings target expires bindings).Along (Grants codec input) (fun after _ => ∀ act ∈ past, act ∈ after) past := by
  induction bindings generalizing past with
  | nil => exact fun _ member => member
  | cons binding rest ih =>
      have tail {between : List (Act Packet)} (grown : ∀ act ∈ past, act ∈ between) :
          (applyRegisterBindings target expires rest).Along (Grants codec input) (fun after _ => ∀ act ∈ past, act ∈ after) between :=
        along_mono (ih (fun other inRest => known other (List.mem_cons_of_mem _ inRest)) (grown _ taken) (heard.later grown))
          (fun _ _ held => held) fun _ _ more act member => more act (grown act member)
      refine along_bind (fun after _ => ∀ act ∈ past, act ∈ after) ?_ (fun _ _ grown => tail grown) (fun _ _ grown => grown)
      unfold applyRegisterBinding
      split
      · exact fun _ => ⟨trivial,fun act member => List.mem_append_left _ member⟩
      · refine along_call fun _ => ⟨trivial,along_call fun now => ⟨trivial,fun _ => ⟨?_,fun act member => by simp [member]⟩⟩⟩
        refine ⟨branch,pending,by simp [taken],⟨message,code,heard.later fun act member => by simp [member],success⟩,?_⟩
        exact known binding List.mem_cons_self

theorem applyRegisterStartLine_granted (heard : Heard codec input past branch message) :
    (applyRegisterStartLine codec branch message).Along (Grants codec input) (fun after _ => ∀ act ∈ past, act ∈ after) past := by
  unfold applyRegisterStartLine
  split
  · rename_i code isCode
    unfold applyRegisterResponse
    split
    · exact fun _ member => member
    · rename_i final
      refine along_call fun taken => ⟨trivial,?_⟩
      have grown : ∀ act ∈ past, act ∈ past ++ [⟨.takePendingRegister branch,taken⟩] := fun _ member => List.mem_append_left _ member
      cases taken with
      | none => exact grown
      | some pending =>
          dsimp only
          split
          · rename_i success
            refine along_mono (applyRegisterBindings_granted _ _ _ (fun _ member => member) (last_mem past _) (heard.later grown)
              ⟨isCode,by omega,success⟩) (fun _ _ held => held) fun _ _ more act member => more act (grown act member)
          · exact grown
  · exact fun _ member => member

theorem applyRegisterStartLine_then {next : Task Packet Unit} (heard : Heard codec input past branch message)
    (rest : ∀ between, (∀ act ∈ past, act ∈ between) → next.Along (Grants codec input) (fun _ _ => True) between) :
    (applyRegisterStartLine codec branch message >>= fun _ => next).Along (Grants codec input) (fun _ _ => True) past :=
  along_bind _ (applyRegisterStartLine_granted heard) (fun between _ => rest between) fun _ _ _ => trivial

theorem lift_then {First Second : Type} {value : Except String First} {next : First → Task Packet Second}
    (rest : ∀ result, value = .ok result → (next result).Along (Grants codec input) (fun _ _ => True) past) :
    (lift value >>= next).Along (Grants codec input) (fun _ _ => True) past :=
  along_lift rest fun _ _ => trivial

theorem still_then {First Second : Type} {task : Task Packet First} {next : First → Task Packet Second} (still : task.Uses Still)
    (rest : ∀ between result, (∀ act ∈ past, act ∈ between) → (next result).Along (Grants codec input) (fun _ _ => True) between) :
    (task >>= next).Along (Grants codec input) (fun _ _ => True) past :=
  conveys_then (silent_conveys (still_silent still) input.peer) rest

theorem conveys_last {task : Task Packet Unit} (conveys : task.Uses (Conveys codec input.peer)) (past : List (Act Packet)) :
    task.Along (Grants codec input) (fun _ _ => True) past :=
  along_mono (conveys_along conveys past) (fun _ _ held => held) fun _ _ _ => trivial

-- A response that the upstream has sent over the stream is heard before it is passed on.
theorem streamed_then {next : Message → Task Packet Unit} (sent : ⟨.sendRequest upstream branch packet asked,.ok all⟩ ∈ past)
    (among : received ∈ all)
    (rest : ∀ between message, (∀ act ∈ past, act ∈ between) → (next message).Along (Grants codec input) (fun _ _ => True) between) :
    (lift (codec.parse received) >>= fun message => applyRegisterStartLine codec branch message >>= fun _ => next message).Along
      (Grants codec input) (fun _ _ => True) past := by
  apply lift_then
  intro message parsed
  apply applyRegisterStartLine_then (.stream sent among parsed)
  intro past grown
  exact rest past message grown

theorem sendUdpToTcpResponses_granted (clientPeer : SocketAddr) (key : Option String) (addrs : List String) (method : Method)
    (sent : ⟨.sendRequest upstream branch packet asked,.ok all⟩ ∈ past) (responses : List Packet) (among : ∀ received ∈ responses, received ∈ all) :
    (sendUdpToTcpResponses codec clientPeer branch key addrs method responses).Along (Grants codec input) (fun _ _ => True) past := by
  induction responses generalizing past with
  | nil => trivial
  | cons received rest ih =>
      apply streamed_then sent (among received List.mem_cons_self)
      intro past message grown
      replace sent := grown _ sent
      refine lift_then fun repaired _ => lift_then fun addressed _ => ?_
      apply still_then (rememberFinal_still _ _ _)
      intro past _ grown
      replace sent := grown _ sent
      apply still_then (sendToClient_still _ _ _)
      intro past _ grown
      split
      · trivial
      · exact ih (grown _ sent) fun other inRest => among other (List.mem_cons_of_mem _ inRest)

theorem relayTcpResponses_granted (sent : ⟨.sendRequest upstream branch packet asked,.ok all⟩ ∈ past) (responses : List Packet)
    (among : ∀ received ∈ responses, received ∈ all) :
    (relayTcpResponses codec branch responses).Along (Grants codec input) (fun _ _ => True) past := by
  induction responses generalizing past with
  | nil => trivial
  | cons received rest ih =>
      apply streamed_then sent (among received List.mem_cons_self)
      intro past message grown
      replace sent := grown _ sent
      apply still_then (writeToStream_still _)
      intro past _ grown
      split
      · trivial
      · exact ih (grown _ sent) fun other inRest => among other (List.mem_cons_of_mem _ inRest)

theorem prepareForward_conveys (message : Message) (peer : SocketAddr) (listener : ProxyListenerConfig) (method : Method) :
    (prepareForward codec settings message peer listener method).Uses (Conveys codec peer) :=
  prepareForward_uses (fun op allowed => by cases op <;> first | exact allowed.elim | trivial) trivial (fun _ => trivial)
    (fun _ _ sourced => sourced) message listener method

theorem forwardUdpToUdpUpstream_granted (prepared : Prepared Message) (key : Option String) (method : Method) (past : List (Act Packet)) :
    (forwardUdpToUdpUpstream codec settings prepared input.peer key method).Along (Grants codec input) (fun _ _ => True) past := by
  refine conveys_last ?_ past
  refine uses_call trivial fun _ => uses_bind (remembers_conveys (rememberUdpClientTransaction_remembers _ _) _) fun _ => ?_
  apply uses_call trivial
  intro sent
  split
  · exact remembers_conveys (rememberSuccessfulForward_remembers ..) _
  · exact uses_call trivial fun _ => uses_bind (remembers_conveys (removeUdpClientTransaction_remembers key) _) fun _ => uses_fail _

theorem forwardUdpToTcpUpstream_granted (prepared : Prepared Message) (key : Option String) (method : Method) (past : List (Act Packet)) :
    (forwardUdpToTcpUpstream codec settings prepared input.peer key method).Along (Grants codec input) (fun _ _ => True) past := by
  refine along_call fun reply => ⟨trivial,?_⟩
  cases reply with
  | error error => exact conveys_last (uses_bind (remembers_conveys (removeUdpClientTransaction_remembers key) _) fun _ => uses_fail _) _
  | ok responses =>
      have sent := last_mem past ⟨.sendRequest prepared.target.addr prepared.branch (codec.toBytes prepared.message) method,.ok responses⟩
      apply conveys_then (remembers_conveys (rememberUdpClientTransaction_remembers _ key) _)
      intro past _ grown
      replace sent := grown _ sent
      apply conveys_then (remembers_conveys (rememberSuccessfulForward_remembers ..) _)
      intro past _ grown
      exact sendUdpToTcpResponses_granted _ _ _ _ (grown _ sent) responses fun _ member => member

theorem forwardUdp_granted (message : Message) (listener : ProxyListenerConfig) (method : Method) (past : List (Act Packet)) :
    (forwardUdp codec settings message input.peer listener method).Along (Grants codec input) (fun _ _ => True) past := by
  refine lift_then fun key _ => conveys_then ?_ fun past known _ => ?_
  · cases key with
    | none => trivial
    | some key => exact uses_perform trivial
  cases known with
  | some route =>
      refine conveys_last (silent_conveys (still_silent ?_) _) past
      dsimp only
      split
      · exact sendToClient_still _ _ _
      · exact trying_still message input.peer method
  | none =>
      refine conveys_then (prepareForward_conveys ..) fun past prepared _ => still_then (trying_still message input.peer method) fun past _ _ => ?_
      split
      · exact forwardUdpToUdpUpstream_granted prepared key method past
      · exact forwardUdpToTcpUpstream_granted prepared key method past
      · trivial

theorem forwardTcpStream_granted (message : Message) (listener : ProxyListenerConfig) (method : Method) (past : List (Act Packet)) :
    (forwardTcpStream codec settings message input.peer listener method).Along (Grants codec input) (fun _ _ => True) past := by
  refine conveys_then (prepareForward_conveys ..) fun past prepared _ => along_call fun reply => ⟨trivial,?_⟩
  cases reply with
  | error error => trivial
  | ok responses =>
      have sent := last_mem past ⟨.sendRequest prepared.target.addr prepared.branch (codec.toBytes prepared.message) method,.ok responses⟩
      apply conveys_then (remembers_conveys (rememberSuccessfulForward_remembers ..) _)
      intro past _ grown
      exact relayTcpResponses_granted (grown _ sent) responses fun _ member => member

theorem handleRequest_granted {forward : Message → Task Packet Unit} {reject : Message → Nat → String → Task Packet Unit}
    (forwarded : ∀ message past, (forward message).Along (Grants codec input) (fun _ _ => True) past)
    (rejected : ∀ message code reason, (reject message code reason).Uses Still) (packet : Packet) (message : Message)
    (method : Method) (past : List (Act Packet)) :
    (handleRequest codec settings packet message input.peer input.listener method forward reject).Along (Grants codec input)
      (fun _ _ => True) past := by
  have turnedAway (message : Message) (code : Nat) (reason : String) (past : List (Act Packet)) :
      (reject message code reason).Along (Grants codec input) (fun _ _ => True) past :=
    conveys_last (silent_conveys (still_silent (rejected message code reason)) _) past
  apply still_then (absorbed_still message method)
  intro past absorbed _
  split
  · trivial
  apply conveys_then (silent_conveys (refusal_silent ..) _)
  intro past refused _
  split
  · exact turnedAway _ _ _ past
  split
  · exact turnedAway _ _ _ past
  · exact turnedAway _ _ _ past
  refine along_bind (fun _ _ => True) (along_attempt (forwarded _ past)) (fun past outcome _ => ?_) (fun _ _ _ => trivial)
  cases outcome with
  | ok _ => trivial
  | error error => exact lift_then fun request _ => turnedAway _ _ _ past

theorem handleUdpResponse_granted (kinded : kind codec input = .response message input.peer) (past : List (Act Packet)) :
    (handleUdpResponse codec message input.peer).Along (Grants codec input) (fun _ _ => True) past := by
  apply lift_then
  intro top named
  cases top with
  | none => trivial
  | some branch =>
      dsimp only
      split
      · refine along_call fun found => ⟨trivial,?_⟩
        cases found with
        | none => trivial
        | some route =>
            refine applyRegisterStartLine_then (.datagram kinded named) fun past _ => lift_then fun response _ => ?_
            apply still_then (rememberFinal_still _ _ _)
            intro past _ _
            refine conveys_last ?_ past
            apply uses_call trivial
            intro sent
            split
            · exact uses_call trivial fun _ => by split <;> trivial
            · split <;> trivial
      · trivial

theorem handler_granted (input : Input Packet) : (handler codec settings input).Along (Grants codec input) (fun _ _ => True) [] := by
  cases input with
  | udp packet peer listener =>
      simp only [handler]
      unfold handleUdpPacket
      split
      · trivial
      rename_i keepalive
      split
      · exact conveys_last (silent_conveys (still_silent (sendToClient_still ..)) _) []
      rename_i stun
      split
      · trivial
      rename_i isStun
      refine handleSipPacket_along (fun _ => trivial) (fun _ _ _ _ => trivial) (fun _ _ _ => trivial) (fun past message _ kinded => ?_)
        (fun past message method _ _ _ => ?_)
      · exact handleUdpResponse_granted (by simp [kind,keepalive,stun,isStun,kinded,Input.peer]) past
      · exact @handleRequest_granted _ _ codec settings (.udp packet peer listener) _ _
          (fun message past => forwardUdp_granted message listener method past) (fun _ _ _ => rejectUdp_still ..) packet message method past
  | tcp packet peer listener =>
      refine handleSipPacket_along (fun _ => trivial) (fun _ _ _ _ => trivial) (fun _ _ _ => trivial) (fun _ _ _ _ => trivial)
        (fun past message method _ _ _ => ?_)
      exact @handleRequest_granted _ _ codec settings (.tcp packet peer listener) _ _
        (fun message past => forwardTcpStream_granted message listener method past) (fun _ _ _ => rejectTcp_still ..) packet message method past

end Grants

section Registrations
variable {pool next : ServerPool Packet}

-- The server is left to its own messages: nothing comes in by replication.
def Unreplicated : ServerAction Packet → Prop
  | .change (.replicate ..) => False
  | _ => True

instance (action : ServerAction Packet) : Decidable (Unreplicated action) :=
  match action with
  | .change (.replicate ..) => inferInstanceAs (Decidable False)
  | .change (.elapse _) => inferInstanceAs (Decidable True)
  | .spawn _ => inferInstanceAs (Decidable True)
  | .step .. => inferInstanceAs (Decidable True)

theorem submit_binds {state : SharedState} {command : ClusterCommand} (fresh : state.peek key ≠ some binding)
    (stands : (state.apply command).peek key = some binding) : command = .registerContact binding ∧ binding.aor = key := by
  cases command with
  | registerContact written =>
      simp only [SharedState.peek,SharedState.apply,Table.lookup_insert_eq] at stands
      split at stands
      · rename_i same
        cases stands
        exact ⟨rfl,same.symm⟩
      · exact (fresh stands).elim
  | unregisterContact aor =>
      simp only [SharedState.peek,SharedState.apply,Table.lookup_erase_eq] at stands
      split at stands
      · cases stands
      · exact (fresh stands).elim

-- A binding comes to stand under a key by one step only, the one that submits it.
theorem step_binds {action : ServerAction Packet} (stepped : (server codec settings).advance pool action = some next)
    (unreplicated : Unreplicated action) (fresh : pool.world.state.peek key ≠ some binding) (stands : next.world.state.peek key = some binding) :
    ∃ task choice, action = .step task choice ∧ System.nextOp pool task = some (.submit (.registerContact binding)) ∧ binding.aor = key := by
  cases action with
  | spawn input =>
      cases stepped
      exact (fresh stands).elim
  | change change =>
      cases stepped
      cases change with
      | elapse duration => exact (fresh stands).elim
      | replicate state affinity => exact unreplicated.elim
  | step task choice =>
      obtain ⟨op,rest,found,rfl⟩ := System.advance_step stepped
      refine ⟨task,choice,rfl,?_⟩
      simp only [System.nextOp,found]
      simp only [server] at stands
      cases op with
      | submit command =>
          simp only [perform] at stands
          split at stands
          · obtain ⟨rfl,keyed⟩ := submit_binds fresh stands
            exact ⟨rfl,keyed⟩
          · exact (fresh stands).elim
      | evictContact aor =>
          simp only [perform,SharedState.peek,SharedState.evict,Table.lookup_erase_eq] at stands
          split at stands
          · cases stands
          · exact (fresh stands).elim
      | rememberUdpClientTransactionFinalResponse key response =>
          simp only [perform] at stands
          split at stands <;> exact (fresh stands).elim
      | _ => exact (fresh stands).elim

theorem kind_request (kinded : kind codec input = .request method) : ∃ message, IsRequest codec input.packet message method := by
  have sip {packet : Packet} {peer : SocketAddr} (kinded : sipKind codec packet peer = .request method) :
      ∃ message, IsRequest codec packet message method := by
    unfold sipKind at kinded
    split at kinded
    · cases kinded
    · rename_i message parsed
      split at kinded
      · cases kinded
      · rename_i isRequest
        cases named : (codec.method message).bind canonicalSipMethod with
        | none => rw [named] at kinded; cases kinded
        | some other =>
            rw [named] at kinded
            cases kinded
            exact ⟨message,parsed,Bool.eq_false_iff.mpr isRequest,named⟩
  cases input with
  | udp packet peer listener =>
      simp only [kind] at kinded
      split at kinded
      · cases kinded
      · exact sip kinded
  | tcp packet peer listener =>
      simp only [kind] at kinded
      split at kinded
      · cases kinded
      · exact sip kinded

-- A REGISTER that has left the binding pending, and the success response that the
-- task about to write the binding has taken it on.
structure Registers (codec : Codec Packet Message) (pool : ServerPool Packet) (grantor : Nat) (binding : ContactBinding)
    (register : Input Packet) (message : Message) : Prop where
  requested : IsRequest codec register.packet message .register
  source : binding.source = codec.showSocketAddr register.peer
  answered : ∃ branch pending, (∃ remembered ∈ pool.history, pool.inputs[remembered.task]? = some register ∧
      remembered.event.op = .rememberPendingRegister branch pending) ∧
    ⟨binding.aor,binding.contact,binding.source⟩ ∈ pending.bindings ∧
    ∃ input response code, pool.inputs[grantor]? = some input ∧ Heard codec input (System.own grantor pool.history) branch response ∧
      (codec.startLine response).code = some code ∧ 200 ≤ code ∧ code < 300

theorem granted_registers (ran : runServer codec settings actions = some pool)
    (submits : System.nextOp pool grantor = some (.submit (.registerContact binding))) :
    ∃ register message, Registers codec pool grantor binding register message := by
  have sound := run_sound ran
  have granted : System.Tracked (Grants codec) (fun _ _ _ => True) pool := System.run_tracked handler_granted ran
  cases stands : pool.tasks[grantor]? with
  | none => simp [System.nextOp,stands] at submits
  | some program =>
      cases program with
      | done result => simp [System.nextOp,stands] at submits
      | fail error => simp [System.nextOp,stands] at submits
      | call op rest =>
          simp only [System.nextOp,stands,Option.some.injEq] at submits
          subst submits
          have inside : grantor < pool.inputs.length := by
            rw [← granted.sized]
            exact (List.getElem?_eq_some_iff.mp stands).1
          have hasInput := List.getElem?_eq_getElem inside
          obtain ⟨branch,pending,backed⟩ := (granted.path grantor _ _ hasInput stands ()).1
          obtain ⟨before,taken,after,split,_,_,remembered,earlier,op,_,_,register,hasRegister,kinded⟩ := taken_pended sound backed.taken
          obtain ⟨message,requested⟩ := kind_request kinded
          obtain ⟨first,middle,rfl⟩ := List.append_of_mem earlier
          obtain ⟨given,hasGiven,pended⟩ := granted.admitted first remembered (middle ++ taken :: after) (by simp [split])
          cases hasRegister.symm.trans hasGiven
          obtain ⟨ofTask,time,⟨_,reply⟩⟩ := remembered
          cases op
          obtain ⟨response,code,heard,success⟩ := backed.answered
          have member : ⟨ofTask,time,⟨.rememberPendingRegister branch pending,reply⟩⟩ ∈ pool.history := by simp [split]
          exact ⟨register,message,requested,pended _ backed.listed,branch,pending,⟨_,member,hasRegister,rfl⟩,backed.listed,_,response,code,
            hasInput,heard,success⟩

end Registrations

section Policy
variable {pool : ServerPool Packet}

def SourceMatches (mode : ProxyRegisteredInviteSourceMatch) (registrant peer : SocketAddr) : Prop :=
  match mode with
  | .ip => registrant.ip = peer.ip
  | .ipPort => registrant = peer

theorem matched_source (readable : ∀ addr, codec.parseSocketAddr (codec.showSocketAddr addr) = some addr)
    (matched : registeredInviteSourceMatches codec (codec.showSocketAddr registrant) peer mode = true) : SourceMatches mode registrant peer := by
  simp only [registeredInviteSourceMatches,readable] at matched
  cases mode <;> simpa [SourceMatches] using matched

-- What entitles the caller whose INVITE is checked, at the step where the table is
-- asked: a REGISTER for the key, from a matching source, has been answered with
-- success, and the binding written for it has stood from then on and not run out.
structure Entitled (codec : Codec Packet Message) (settings : Settings) (mode : ProxyRegisteredInviteSourceMatch) (peer : SocketAddr)
    (checks : List (ServerAction Packet)) (checked : ServerPool Packet) (key : String) (binding : ContactBinding) : Prop where
  registered : ∃ earlier grantor choice since before register message,
    checks = earlier ++ .step grantor choice :: since ∧ runServer codec settings earlier = some before ∧
    System.nextOp before grantor = some (.submit (.registerContact binding)) ∧
    Registers codec before grantor binding register message ∧ codec.extractToAor message = .ok key ∧
    SourceMatches mode register.peer peer ∧
    ∀ part rest, since = part ++ rest → ∀ later, runServer codec settings (earlier ++ .step grantor choice :: part) = some later →
      later.world.state.peek key = some binding
  lasting : binding.isExpired checked.world.now = false

-- The binding found for a caller has not been left pending by a REGISTER of another
-- address-of-record, one whose contact is routed under the same key.
def Distinct (codec : Codec Packet Message) (settings : Settings) (pool : ServerPool Packet) : ServerAction Packet → Prop
  | .step task _ => ∀ input invite key binding, pool.inputs[task]? = some input → Guest codec settings input invite →
      System.nextOp pool task = some (.peekContact key) → pool.world.state.peek key = some binding →
      ∀ remembered ∈ pool.history, ∀ branch pending register message, pool.inputs[remembered.task]? = some register →
        remembered.event.op = .rememberPendingRegister branch pending → ⟨key,binding.contact,binding.source⟩ ∈ pending.bindings →
        IsRequest codec register.packet message .register → codec.extractToAor message = .ok key
  | _ => True

theorem getElem?_initial {Item : Type} {first second : List Item} {index : Nat} {item : Item} (grown : first <+: second)
    (found : first[index]? = some item) : second[index]? = some item := by
  obtain ⟨rest,rfl⟩ := grown
  rw [List.getElem?_append_left (List.getElem?_eq_some_iff.mp found).1]
  exact found

-- The step at which a task that has found a live binding asked the table for it.
theorem alive_checked {before later : List (Record Packet)} {sent : Record Packet} (ran : runServer codec settings actions = some pool)
    (split : pool.history = before ++ sent :: later) (alive : Alive (System.own sent.task before) key binding) :
    ∃ checks choice others checked, actions = checks ++ .step sent.task choice :: others ∧
      runServer codec settings checks = some checked ∧ checked.history <+: before ∧
      System.nextOp checked sent.task = some (.peekContact key) ∧ checked.world.state.peek key = some binding ∧
      binding.isExpired checked.world.now = false := by
  obtain ⟨earlier,now,tail,path,lasting⟩ := alive
  obtain ⟨first,⟨task,askedAt,asked⟩,rest,rfl,same,isAsked,_,onwards⟩ := System.own_split path
  obtain ⟨between,⟨reader,readAt,read⟩,tail,rfl,_,isRead,_,_⟩ := System.own_split (show System.own sent.task rest = [] ++ _ from onwards)
  dsimp only at same isAsked isRead
  subst same isAsked isRead
  have splitAsked : pool.history = first ++ ⟨sent.task,askedAt,⟨.peekContact key,some binding⟩⟩ ::
      (between ++ ⟨reader,readAt,⟨.readClock,now⟩⟩ :: (tail ++ sent :: later)) := by simp [split]
  have splitRead : pool.history = (first ++ ⟨sent.task,askedAt,⟨.peekContact key,some binding⟩⟩ :: between) ++
      ⟨reader,readAt,⟨.readClock,now⟩⟩ :: (tail ++ sent :: later) := by simp [split]
  obtain ⟨checks,choice,others,checked,rfl,reached,rfl,asks,askedNow,replied⟩ := System.run_recorded ran splitAsked
  obtain ⟨_,_,_,reading,_,_,_,_,readNow,answered⟩ := System.run_recorded ran splitRead
  have ordered : askedAt ≤ readAt := run_ordered ran _ _ _ splitRead ⟨sent.task,askedAt,⟨.peekContact key,some binding⟩⟩ (by simp)
  refine ⟨checks,choice,others,checked,rfl,reached,by simp,asks,replied.symm,?_⟩
  cases expired : binding.isExpired checked.world.now with
  | false => rfl
  | true =>
      have clock : checked.world.now ≤ now := by
        calc checked.world.now = askedAt := askedNow.symm
          _ ≤ readAt := ordered
          _ = reading.world.now := readNow
          _ = now := answered.symm
      cases lasting.symm.trans (SharedState.isExpired_mono expired clock)

-- With no replication, the caller of an INVITE that is let through is entitled to
-- the key it was found under.
theorem checked_entitled {checks : List (ServerAction Packet)} {checked : ServerPool Packet}
    (readable : ∀ addr, codec.parseSocketAddr (codec.showSocketAddr addr) = some addr)
    (reached : runServer codec settings checks = some checked) (unreplicated : ∀ action ∈ checks, Unreplicated action)
    (distinct : Distinct codec settings checked (.step task choice)) (hasInput : checked.inputs[task]? = some input)
    (guest : Guest codec settings input message) (asks : System.nextOp checked task = some (.peekContact key))
    (stands : checked.world.state.peek key = some binding) (lasting : binding.isExpired checked.world.now = false)
    (matched : registeredInviteSourceMatches codec binding.source input.peer mode = true) :
    Entitled codec settings mode input.peer checks checked key binding where
  registered := by
    obtain ⟨earlier,action,since,before,turned,rfl,began,stepped,fresh,stays⟩ := Machine.run_since
      (fun pool : ServerPool Packet => pool.world.state.peek key) reached stands (by simp [System.start,World.new,SharedState.empty,SharedState.peek])
    obtain ⟨grantor,choice,rfl,submits,rfl⟩ := step_binds stepped (unreplicated action (by simp)) fresh (stays [] since rfl turned rfl)
    obtain ⟨register,registration,registers⟩ := granted_registers began submits
    obtain ⟨branch,pending,⟨remembered,member,hasRegister,op⟩,listed,answered⟩ := registers.answered
    have grown : before.inputs <+: checked.inputs ∧ before.history <+: checked.history := by
      obtain ⟨_,same,onwards⟩ := Machine.run_append.mp reached
      cases began.symm.trans same
      exact System.run_grows onwards
    refine ⟨earlier,grantor,choice,since,before,register,registration,rfl,began,submits,registers,?_,?_,?_⟩
    · exact distinct input message _ binding hasInput guest asks stands remembered (grown.2.subset member) branch pending register registration
        (getElem?_initial grown.1 hasRegister) op listed registers.requested
    · rw [registers.source] at matched
      exact matched_source readable matched
    · intro part rest split later ran
      obtain ⟨_,same,onwards⟩ := Machine.run_append.mp ran
      cases began.symm.trans same
      obtain ⟨_,taken,finished⟩ := Machine.run_cons.mp onwards
      cases stepped.symm.trans taken
      exact stays part rest split later finished
  lasting := lasting

theorem nextOp_input {admits : Input Packet → List (Act Packet) → Act Packet → Prop}
    {ends : Input Packet → List (Act Packet) → Except String Unit → Prop} (tracked : System.Tracked admits ends pool)
    (stands : System.nextOp pool task = some op) : ∃ input, pool.inputs[task]? = some input := by
  refine ⟨_,List.getElem?_eq_getElem (?_ : task < pool.inputs.length)⟩
  rw [← tracked.sized]
  apply Nat.lt_of_not_le
  intro beyond
  simp [System.nextOp,List.getElem?_eq_none beyond] at stands

theorem secured_guest {listeners : Table String ListenerSecurityRuntime} (invites : IsRequest codec input.packet message .invite)
    (outside : settings.isUpstreamSource input.peer = false) (configured : listeners.lookup (listenerKey input.listener) = some security)
    (required : security.config.sipPolicy.requireRegisteredInviteSource = true) :
    Guest codec (securedSettings listeners settings) input message where
  invites := invites
  outside := outside
  required := by simp [securedSettings,configured,required]

theorem required_enforced {listeners : Table String ListenerSecurityRuntime}
    (configured : listeners.lookup (listenerKey input.listener) = some security)
    (required : security.config.sipPolicy.requireRegisteredInviteSource = true) :
    (securedSettings listeners settings).userSpaceSecurityEnabled = true := by
  have listed := AList.mem_lookup_iff.mp configured
  exact List.any_eq_true.mpr ⟨_,listed,by simp [EffectiveProxySecurityConfig.enabled,required]⟩

end Policy

section Runs

def policed : Table String ListenerSecurityRuntime :=
  let config : EffectiveProxySecurityConfig := {EffectiveProxySecurityConfig.off with sipPolicy:=⟨true,.ip⟩}
  (∅ : Table String ListenerSecurityRuntime).insert (listenerKey udpListener) ⟨config,.fromConfig config.geo,.fromConfig config.threatIntel,[],[],[]⟩

-- The client registers an address-of-record under a contact user of its choice, is
-- answered 200 and places a call.
def register (aor user : String) : Envelope := {request .register with toUri:=aor,contacts:=[⟨user,"10.0.0.1:5060"⟩]}

def callFrom (caller : String) : Envelope := {request .invite with toUri:=caller}

def registersAndCalls (aor user caller : String) : Schedule :=
  datagram (register aor user) clientAddr :: steps 0 12 ++ datagram (answer .register 200 "OK") upstreamAddr :: steps 1 11 ++
    datagram (callFrom caller) clientAddr :: steps 2 13

abbrev runPoliced (actions : Schedule) : Option (ServerPool Envelope) := runServer deviceCodec (securedSettings policed plainSettings) actions

-- Every REGISTER so far is one of the given address-of-record.
def onlyFor (key : String) (pool : ServerPool Envelope) : Bool :=
  pool.history.all fun remembered => match remembered.event.op with
    | .rememberPendingRegister _ _ => (pool.inputs[remembered.task]?).all fun register => register.packet.toUri == key
    | _ => true

def accounted (pool : ServerPool Envelope) : ServerAction Envelope → Bool
  | .step task _ => match System.nextOp pool task with
    | some (.peekContact key) => onlyFor key pool
    | _ => true
  | _ => true

theorem accounted_distinct (pool : ServerPool Envelope) (action : ServerAction Envelope) (holds : accounted pool action = true) :
    Distinct deviceCodec (securedSettings policed plainSettings) pool action := by
  cases action with
  | spawn input => trivial
  | change change => trivial
  | step task choice =>
      intro input invite key binding _ _ asks _ remembered member branch pending register message hasRegister op _ requested
      simp only [accounted,asks] at holds
      have named := List.all_eq_true.mp holds remembered member
      simp only [op,hasRegister,Option.all_some,beq_iff_eq] at named
      cases requested.parsed
      rw [← named]
      rfl

end Runs

end Sigproxy.Proxy
