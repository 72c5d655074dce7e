import Sigproxy.Proxy.DeniedSource
import Sigproxy.Proxy.PendingBindings
import Sigproxy.Proxy.RequestPath

namespace Sigproxy.Proxy
open Library Net Security
open Program

variable {Packet Message : Type}

section Answers
variable (codec : Codec Packet Message)

def Op.answers : Op Packet → Bool
  | .sendToClient .. => true
  | .writeToStream _ => true
  | _ => false

-- A local answer as it is sent, over UDP to where the request came from.
def addressed (datagram : Bool) (peer : SocketAddr) (message : Message) (code : Nat) (reason : String) : Except String Packet :=
  let response := codec.responseLike message code reason
  if datagram then (codec.applyTopViaReceivedRport peer response).map codec.toBytes else .ok (codec.toBytes response)

-- What a request is told that cannot be forwarded.
def localAnswer (datagram : Bool) (peer : SocketAddr) (message : Message) : Except String Packet :=
  match decrementMaxForwards codec message with
  | .error _ => addressed codec datagram peer message 400 "Bad Request"
  | .ok (false,counted) => addressed codec datagram peer counted 483 "Too Many Hops"
  | .ok (true,_) => addressed codec datagram peer message 503 "Service Unavailable"

-- What ends the handling of an ACK without an answer.
inductive Finishes : Act Packet → Prop where
  | dropped : Finishes ⟨.checkPacket listener peer packet,.drop reason⟩
  | absorbed : Finishes ⟨.consumeLocalInviteRejection key,true⟩
  | pending : Finishes ⟨.lookupUdpClientTransaction key,some ⟨target,none⟩⟩
  | handed : Finishes ⟨.sendToUpstream packet upstream,true⟩

def Relayable (datagram : Bool) (peer : SocketAddr) (packet : Packet) : Prop :=
  ∃ message, codec.parse packet = .ok message ∧ (datagram = true → ∃ routed, codec.applyTopViaReceivedRport peer message = .ok routed)

-- An answer to the ACK that the proxy has from elsewhere.
inductive Echo (datagram : Bool) (peer : SocketAddr) : Act Packet → Prop where
  | cached : Echo datagram peer ⟨.lookupUdpClientTransaction key,some ⟨target,some response⟩⟩
  | relayed : Relayable codec datagram peer packet → Echo datagram peer ⟨.sendRequest upstream branch forwarded method,.ok (packet :: rest)⟩

def Silenced (datagram : Bool) (peer : SocketAddr) (message : Message) (past : List (Act Packet)) : Prop :=
  (∃ act ∈ past, Finishes act) ∨
    (∀ answer, localAnswer codec datagram peer message ≠ .ok answer) ∧ ∀ act ∈ past, ¬ Echo codec datagram peer act

-- The identity limits pass an ACK by.
def Lawful (past : List (Act Packet)) : Prop :=
  ∀ listener peer (reply : Option String), (⟨.checkSipRequest listener peer .ack,reply⟩ : Act Packet) ∈ past → reply = none

end Answers

section Standing
variable {codec : Codec Packet Message} {settings : Settings} {datagram : Bool} {peer : SocketAddr} {message : Message}
  {past : List (Act Packet)}

def Neutral : Op Packet → Prop
  | .sendToClient .. | .writeToStream _ | .checkPacket .. | .consumeLocalInviteRejection _ | .lookupUdpClientTransaction _ => False
  | .sendToUpstream .. | .sendRequest .. | .checkSipRequest .. => False
  | _ => True

-- Nothing has been answered, and nothing decides whether there will be an answer.
def Open (codec : Codec Packet Message) (datagram : Bool) (peer : SocketAddr) (past : List (Act Packet)) : Prop :=
  ∀ act ∈ past, act.op.answers = false ∧ ¬ Finishes act ∧ ¬ Echo codec datagram peer act

def Hushed (past : List (Act Packet)) : Prop := (∀ act ∈ past, act.op.answers = false) ∧ ∃ act ∈ past, Finishes act

def Told (past : List (Act Packet)) : Prop := (∃ act ∈ past, act.op.answers = true) ∧ ∀ act ∈ past, ¬ Finishes act

def Echoed (codec : Codec Packet Message) (datagram : Bool) (peer : SocketAddr) (past : List (Act Packet)) : Prop :=
  (∃ act ∈ past, Echo codec datagram peer act) ∧ ∀ act ∈ past, ¬ Finishes act

theorem snoc_all {holds : Act Packet → Prop} (before : ∀ act ∈ past, holds act) (last : holds act) : ∀ other ∈ past ++ [act], holds other := by
  intro other member
  rcases List.mem_append.mp member with earlier | here
  · exact before other earlier
  · rw [List.mem_singleton.mp here]
    exact last

theorem snoc_some {holds : Act Packet → Prop} (before : ∃ act ∈ past, holds act) (act : Act Packet) : ∃ other ∈ past ++ [act], holds other := by
  obtain ⟨other,member,held⟩ := before
  exact ⟨other,List.mem_append_left _ member,held⟩

theorem neutral_open {act : Act Packet} (neutral : Neutral act.op) : act.op.answers = false ∧ ¬ Finishes act ∧ ¬ Echo codec datagram peer act := by
  obtain ⟨op,reply⟩ := act
  cases op <;> first | exact neutral.elim | exact ⟨rfl,fun finishes => (nomatch finishes),fun echo => nomatch echo⟩

theorem Open.neutral {act : Act Packet} (opened : Open codec datagram peer past) (neutral : Neutral act.op) :
    Open codec datagram peer (past ++ [act]) := snoc_all opened (neutral_open neutral)

theorem Hushed.neutral {act : Act Packet} (hushed : Hushed past) (neutral : Neutral act.op) : Hushed (past ++ [act]) := by
  obtain ⟨op,reply⟩ := act
  refine ⟨snoc_all hushed.1 ?_,snoc_some hushed.2 _⟩
  cases op <;> first | exact neutral.elim | rfl

-- An answer is no reason to fall silent.
def Talks (op : Op Packet) : Prop := Neutral op ∨ op.answers = true

theorem talks_unfinished {act : Act Packet} (talks : Talks act.op) : ¬ Finishes act := by
  intro finishes
  cases finishes <;> exact talks.elim id (by intro answers; cases answers)

theorem Told.talks {act : Act Packet} (told : Told past) (talks : Talks act.op) : Told (past ++ [act]) :=
  ⟨snoc_some told.1 act,snoc_all told.2 (talks_unfinished talks)⟩

theorem Echoed.talks {act : Act Packet} (echoed : Echoed codec datagram peer past) (talks : Talks act.op) :
    Echoed codec datagram peer (past ++ [act]) := ⟨snoc_some echoed.1 act,snoc_all echoed.2 (talks_unfinished talks)⟩

theorem Open.told {act : Act Packet} (opened : Open codec datagram peer past) (answers : act.op.answers = true) : Told (past ++ [act]) :=
  ⟨⟨act,last_mem past act,answers⟩,snoc_all (fun other member => (opened other member).2.1) (talks_unfinished (.inr answers))⟩

theorem Echoed.told {act : Act Packet} (echoed : Echoed codec datagram peer past) (answers : act.op.answers = true) : Told (past ++ [act]) :=
  ⟨⟨act,last_mem past act,answers⟩,snoc_all echoed.2 (talks_unfinished (.inr answers))⟩

theorem prepareForward_neutral (message : Message) (peer : SocketAddr) (listener : ProxyListenerConfig) (method : Method) :
    (prepareForward codec settings message peer listener method).Uses Neutral :=
  prepareForward_uses (fun op looks => by cases op <;> first | exact looks.elim | trivial) trivial (fun _ => trivial)
    (fun _ _ _ => trivial) message listener method

theorem applyRegisterBindings_neutral (target : UpstreamTarget) (expires : Nat) (bindings : List PendingRegisterBinding) :
    (applyRegisterBindings target expires bindings : Task Packet Unit).Sure Neutral := by
  induction bindings with
  | nil => trivial
  | cons binding rest ih =>
      refine sure_bind ?_ fun _ => ih
      unfold applyRegisterBinding
      split
      · exact sure_perform trivial
      · exact sure_bind (sure_perform trivial) fun _ => sure_bind (sure_perform trivial) fun _ => sure_perform trivial

theorem applyRegisterStartLine_neutral (branch : String) (response : Message) :
    (applyRegisterStartLine codec branch response : Task Packet Unit).Sure Neutral := by
  unfold applyRegisterStartLine
  split
  · unfold applyRegisterResponse
    split
    · trivial
    · apply sure_bind (sure_perform trivial)
      intro found
      cases found with
      | none => trivial
      | some pending =>
          dsimp only
          split
          · exact applyRegisterBindings_neutral ..
          · trivial
  · trivial

theorem rememberFinal_neutral (final : Bool) (key : Option String) (response : Packet) :
    (rememberFinal final key response : Task Packet Unit).Sure Neutral := by
  unfold rememberFinal
  split
  · split
    · exact sure_perform trivial
    · trivial
  · trivial

theorem rememberSuccessfulForward_neutral (message : Message) (target : UpstreamTarget) (branch : String) (key : Option String)
    (method : Method) : (rememberSuccessfulForward codec settings message target branch key method).Sure Neutral := by
  unfold rememberSuccessfulForward
  refine sure_bind ?_ fun _ => ?_
  · unfold rememberSuccessfulForward.recordAffinity
    split
    · split
      · exact sure_perform trivial
      · trivial
    · trivial
  · split
    · cases key with
      | none => trivial
      | some key => exact sure_perform trivial
    · trivial

theorem rememberUdpClientTransaction_neutral (target : UpstreamTarget) (key : Option String) :
    (rememberUdpClientTransaction target key : Task Packet Unit).Sure Neutral := by
  cases key with
  | none => trivial
  | some key => exact sure_perform trivial

theorem removeUdpClientTransaction_neutral (key : Option String) : (removeUdpClientTransaction key : Task Packet Unit).Sure Neutral := by
  cases key with
  | none => trivial
  | some key => exact sure_perform trivial

theorem neutral_then {First Second : Type} {task : Task Packet First} {next : First → Task Packet Second}
    {ends : List (Act Packet) → Except String Second → Prop} (kept : List (Act Packet) → Prop) (uses : task.Uses Neutral)
    (keeps : ∀ past act, kept past → Neutral act.op → kept (past ++ [act])) (start : kept past)
    (rest : ∀ between result, kept between → (next result).Along (fun _ _ => True) ends between)
    (failed : ∀ between error, kept between → ends between (.error error)) :
    (task >>= next).Along (fun _ _ => True) ends past :=
  along_bind _ (along_uses uses (fun _ _ _ _ => trivial) keeps start) rest failed

-- What a neutral part leaves standing is there after it.
theorem surely_then {First Second : Type} {task : Task Packet First} {next : First → Task Packet Second}
    {ends : List (Act Packet) → Except String Second → Prop} {kept : List (Act Packet) → Prop} (sure : task.Sure Neutral)
    (keeps : ∀ past act, kept past → Neutral act.op → kept (past ++ [act])) (start : kept past)
    (rest : ∀ between result, kept between → (next result).Along (fun _ _ => True) ends between) :
    (task >>= next).Along (fun _ _ => True) ends past :=
  along_sure sure (fun _ _ _ _ => trivial) keeps start rest

end Standing

section Forwards
variable {codec : Codec Packet Message} {settings : Settings} {datagram : Bool} {peer : SocketAddr} {past : List (Act Packet)}

def Repeated (codec : Codec Packet Message) (datagram : Bool) (peer : SocketAddr) (past : List (Act Packet)) : Prop :=
  Echoed codec datagram peer past ∧ Told past

-- How a forwarder leaves an ACK: it has gone out or is known, or the peer has got
-- an answer, or nothing is decided and the handler has an error to report.
def Handled (codec : Codec Packet Message) (datagram : Bool) (peer : SocketAddr) (past : List (Act Packet)) : Except String Unit → Prop
  | .ok _ => Hushed past ∨ Repeated codec datagram peer past
  | .error _ => Open codec datagram peer past ∨ Repeated codec datagram peer past

theorem Repeated.handled (repeated : Repeated codec datagram peer past) (outcome : Except String Unit) :
    Handled codec datagram peer past outcome := by
  cases outcome with
  | ok _ => exact .inr repeated
  | error _ => exact .inr repeated

theorem Repeated.along {task : Task Packet Unit} (talks : task.Uses Talks) (repeated : Repeated codec datagram peer past) :
    task.Along (fun _ _ => True) (Handled codec datagram peer) past := by
  refine along_mono (along_uses talks (fun _ _ _ _ => trivial) (fun past act held allowed => ?_) repeated) (fun _ _ held => held)
    fun after outcome held => Repeated.handled held outcome
  exact ⟨held.1.talks allowed,held.2.talks allowed⟩

theorem Repeated.along_answer {ends : List (Act Packet) → Except String Unit → Prop} {op : Op Packet} {next : op.Reply → Task Packet Unit}
    (echoed : Echoed codec datagram peer past) (answers : op.answers = true)
    (rest : ∀ reply, Repeated codec datagram peer (past ++ [⟨op,reply⟩]) → (next reply).Along (fun _ _ => True) ends (past ++ [⟨op,reply⟩])) :
    (ask op >>= next).Along (fun _ _ => True) ends past :=
  along_call fun reply => ⟨trivial,rest reply ⟨echoed.talks (.inr answers),echoed.told answers⟩⟩

theorem neutral_talks {Result : Type} {task : Task Packet Result} (neutral : task.Uses Neutral) : task.Uses Talks :=
  neutral.mono fun _ allowed => .inl allowed

theorem sendToClient_talks (packet : Packet) (client : SocketAddr) (error : String) : (sendToClient packet client error).Uses Talks := by
  apply uses_call (.inr rfl)
  intro sent
  split <;> trivial

theorem writeToStream_talks (packet : Packet) : (writeToStream packet).Uses Talks := by
  apply uses_call (.inr rfl)
  intro written
  split <;> trivial

theorem sendUdpToTcpResponses_talks (client : SocketAddr) (branch : String) (key : Option String) (addrs : List String) (method : Method)
    (responses : List Packet) : (sendUdpToTcpResponses codec client branch key addrs method responses).Uses Talks := by
  induction responses with
  | nil => trivial
  | cons packet rest ih =>
      refine uses_bind (uses_lift _) fun message => uses_bind (neutral_talks (applyRegisterStartLine_neutral _ _).uses) fun _ => ?_
      refine uses_bind (uses_lift _) fun _ => uses_bind (uses_lift _) fun _ => uses_bind (neutral_talks (rememberFinal_neutral _ _ _).uses) fun _ => ?_
      apply uses_bind (sendToClient_talks _ _ _)
      intro _
      split
      · trivial
      · exact ih

theorem relayTcpResponses_talks (branch : String) (responses : List Packet) : (relayTcpResponses codec branch responses).Uses Talks := by
  induction responses with
  | nil => trivial
  | cons packet rest ih =>
      refine uses_bind (uses_lift _) fun message => uses_bind (neutral_talks (applyRegisterStartLine_neutral _ _).uses) fun _ => ?_
      apply uses_bind (writeToStream_talks _)
      intro _
      split
      · trivial
      · exact ih

theorem echoed_keeps (past : List (Act Packet)) (act : Act Packet) (echoed : Echoed codec datagram peer past) (neutral : Neutral act.op) :
    Echoed codec datagram peer (past ++ [act]) := echoed.talks (.inl neutral)

theorem open_keeps (past : List (Act Packet)) (act : Act Packet) (opened : Open codec datagram peer past) (neutral : Neutral act.op) :
    Open codec datagram peer (past ++ [act]) := opened.neutral neutral

theorem hushed_keeps (past : List (Act Packet)) (act : Act Packet) (hushed : Hushed past) (neutral : Neutral act.op) :
    Hushed (past ++ [act]) := hushed.neutral neutral

-- The receiver of an ACK over a TCP upstream: the first response that can be
-- relayed is an answer, and none at all is an error.
theorem sendUdpToTcpResponses_echoed (client : SocketAddr) (branch : String) (key : Option String) (addrs : List String)
    (relayable : Relayable codec true client packet) (echoed : Echoed codec true client past) :
    (sendUdpToTcpResponses codec client branch key addrs .ack (packet :: rest)).Along (fun _ _ => True) (Handled codec true client) past := by
  obtain ⟨message,parsed,routable⟩ := relayable
  obtain ⟨routed,addressed⟩ := routable rfl
  refine along_lift (fun found same => ?_) fun error failed => nomatch parsed.symm.trans failed
  cases parsed.symm.trans same
  apply surely_then (applyRegisterStartLine_neutral branch message) echoed_keeps echoed
  intro past _ echoed
  refine along_lift (fun found same => ?_) fun error failed => nomatch failed
  cases same
  refine along_lift (fun found same => ?_) fun error failed => nomatch addressed.symm.trans failed
  apply surely_then (rememberFinal_neutral _ _ _) echoed_keeps echoed
  intro past _ echoed
  apply Repeated.along_answer echoed rfl
  intro sent repeated
  cases sent with
  | false => exact .inr repeated
  | true =>
      change (if isFinal codec message then (pure () : Task Packet Unit) else _).Along _ _ _
      split
      · exact .inr repeated
      · exact repeated.along (sendUdpToTcpResponses_talks ..)

theorem sendUdpToTcpResponses_mute (client : SocketAddr) (branch : String) (key : Option String) (addrs : List String)
    (mute : ∀ packet rest, responses = packet :: rest → ¬ Relayable codec true client packet) (opened : Open codec true client past) :
    (sendUdpToTcpResponses codec client branch key addrs .ack responses).Along (fun _ _ => True) (Handled codec true client) past := by
  cases responses with
  | nil => exact .inl opened
  | cons packet rest =>
      refine along_lift (fun message parsed => ?_) fun error _ => .inl opened
      apply surely_then (applyRegisterStartLine_neutral branch message) open_keeps opened
      intro past _ opened
      refine along_lift (fun found same => ?_) fun error failed => nomatch failed
      cases same
      refine along_lift (fun found addressed => ?_) fun error _ => .inl opened
      exact (mute packet rest rfl ⟨message,parsed,fun _ => ⟨found,addressed⟩⟩).elim

theorem Open.snoc {act : Act Packet} (opened : Open codec datagram peer past) (answers : act.op.answers = false)
    (unfinished : ¬ Finishes act) (unheard : ¬ Echo codec datagram peer act) : Open codec datagram peer (past ++ [act]) :=
  snoc_all opened ⟨answers,unfinished,unheard⟩

theorem Open.hushed {act : Act Packet} (opened : Open codec datagram peer past) (answers : act.op.answers = false)
    (finishes : Finishes act) : Hushed (past ++ [act]) :=
  ⟨snoc_all (fun other member => (opened other member).1) answers,⟨act,last_mem past act,finishes⟩⟩

theorem Open.echoed {act : Act Packet} (opened : Open codec datagram peer past) (unfinished : ¬ Finishes act)
    (echo : Echo codec datagram peer act) : Echoed codec datagram peer (past ++ [act]) :=
  ⟨⟨act,last_mem past act,echo⟩,snoc_all (fun other member => (opened other member).2.1) unfinished⟩

theorem hushed_remembers (hushed : Hushed past) (message : Message) (target : UpstreamTarget) (branch : String) (key : Option String)
    (method : Method) : (rememberSuccessfulForward codec settings message target branch key method).Along (fun _ _ => True)
      (Handled codec datagram peer) past := by
  rw [← bind_pure (rememberSuccessfulForward codec settings message target branch key method)]
  exact surely_then (rememberSuccessfulForward_neutral ..) hushed_keeps hushed fun past _ hushed => .inl hushed

theorem forwardUdpToUdpUpstream_handled (prepared : Prepared Message) (client : SocketAddr) (key : Option String)
    (opened : Open codec true client past) :
    (forwardUdpToUdpUpstream codec settings prepared client key .ack).Along (fun _ _ => True) (Handled codec true client) past := by
  refine along_call fun _ => ⟨trivial,?_⟩
  refine surely_then (rememberUdpClientTransaction_neutral _ key) open_keeps (opened.neutral trivial) fun past _ opened => ?_
  refine along_call fun sent => ⟨trivial,?_⟩
  cases sent with
  | true => exact hushed_remembers (opened.hushed rfl .handed) ..
  | false =>
      have unsent : Open codec true client (past ++ [⟨.sendToUpstream (codec.toBytes prepared.message) prepared.target.addr,false⟩]) :=
        opened.snoc rfl (fun finishes => nomatch finishes) fun echo => nomatch echo
      refine along_call fun _ => ⟨trivial,?_⟩
      exact surely_then (removeUdpClientTransaction_neutral key) open_keeps (unsent.neutral trivial) fun past _ opened => .inl opened

theorem forwardUdpToTcpUpstream_handled (prepared : Prepared Message) (client : SocketAddr) (key : Option String)
    (opened : Open codec true client past) :
    (forwardUdpToTcpUpstream codec settings prepared client key .ack).Along (fun _ _ => True) (Handled codec true client) past := by
  refine along_call fun reply => ⟨trivial,?_⟩
  have unfinished : ¬ Finishes (⟨.sendRequest prepared.target.addr prepared.branch (codec.toBytes prepared.message) .ack,reply⟩ : Act Packet) :=
    fun finishes => nomatch finishes
  cases reply with
  | error error =>
      have unsent := opened.snoc rfl unfinished fun echo => nomatch echo
      exact surely_then (removeUdpClientTransaction_neutral key) open_keeps unsent fun past _ opened => .inl opened
  | ok responses =>
      have remembered {kept : List (Act Packet) → Prop} (keeps : ∀ past act, kept past → Neutral act.op → kept (past ++ [act]))
          {after : List (Act Packet)} (start : kept after)
          (rest : ∀ past, kept past → (sendUdpToTcpResponses codec client prepared.branch key prepared.recordRouteAddrs .ack responses).Along
            (fun _ _ => True) (Handled codec true client) past) :
          (do
            rememberUdpClientTransaction ⟨prepared.target.addr,.tcp⟩ key
            rememberSuccessfulForward codec settings prepared.message ⟨prepared.target.addr,.tcp⟩ prepared.branch
              prepared.inviteTransactionKey .ack
            sendUdpToTcpResponses codec client prepared.branch key prepared.recordRouteAddrs .ack responses).Along (fun _ _ => True)
              (Handled codec true client) after :=
        surely_then (rememberUdpClientTransaction_neutral _ key) keeps start fun _ _ kept =>
          surely_then (rememberSuccessfulForward_neutral ..) keeps kept fun past _ kept => rest past kept
      by_cases relays : ∃ packet rest, responses = packet :: rest ∧ Relayable codec true client packet
      · obtain ⟨packet,rest,rfl,relayable⟩ := relays
        exact remembered echoed_keeps (opened.echoed unfinished (.relayed relayable)) fun past echoed =>
          sendUdpToTcpResponses_echoed client _ key _ relayable echoed
      · have unheard : ∀ packet rest, responses = packet :: rest → ¬ Relayable codec true client packet :=
          fun packet rest same relayable => relays ⟨packet,rest,same,relayable⟩
        refine remembered open_keeps (opened.snoc rfl unfinished fun echo => ?_) fun past opened =>
          sendUdpToTcpResponses_mute client _ key _ unheard opened
        cases echo with
        | relayed relayable => exact unheard _ _ rfl relayable

theorem forwardUdp_handled (message : Message) (client : SocketAddr) (listener : ProxyListenerConfig)
    (opened : Open codec true client past) :
    (forwardUdp codec settings message client listener .ack).Along (fun _ _ => True) (Handled codec true client) past := by
  refine along_lift (fun key _ => ?_) fun error _ => .inl opened
  have missed (past : List (Act Packet)) (opened : Open codec true client past) :
      (forwardUnknown codec settings message client listener .ack key).Along (fun _ _ => True) (Handled codec true client) past := by
    refine neutral_then _ (prepareForward_neutral message client listener .ack) open_keeps opened (fun past prepared opened => ?_)
      fun past error opened => .inl opened
    change (forwardPrepared codec settings prepared client key .ack).Along _ _ _
    rw [forwardPrepared]
    split
    · exact forwardUdpToUdpUpstream_handled prepared client key opened
    · exact forwardUdpToTcpUpstream_handled prepared client key opened
    · exact .inl opened
  cases key with
  | none => exact missed past opened
  | some key =>
      refine along_call fun found => ⟨trivial,?_⟩
      cases found with
      | none => exact missed _ (opened.snoc rfl (fun finishes => nomatch finishes) fun echo => nomatch echo)
      | some route =>
          obtain ⟨target,answer⟩ := route
          cases answer with
          | none => exact .inl (opened.hushed rfl .pending)
          | some response =>
              have echoed : Echoed codec true client (past ++ [⟨.lookupUdpClientTransaction key,some ⟨target,some response⟩⟩]) :=
                opened.echoed (fun finishes => (nomatch finishes)) .cached
              apply Repeated.along_answer echoed rfl
              intro sent repeated
              cases sent <;> exact .inr repeated

theorem forwardTcpStream_handled (message : Message) (listener : ProxyListenerConfig) (opened : Open codec false peer past) :
    (forwardTcpStream codec settings message peer listener .ack).Along (fun _ _ => True) (Handled codec false peer) past := by
  refine neutral_then _ (prepareForward_neutral message peer listener .ack) open_keeps opened (fun past prepared opened => ?_)
    fun past error opened => .inl opened
  refine along_call fun reply => ⟨trivial,?_⟩
  have unfinished : ¬ Finishes (⟨.sendRequest prepared.target.addr prepared.branch (codec.toBytes prepared.message) .ack,reply⟩ : Act Packet) :=
    fun finishes => nomatch finishes
  cases reply with
  | error error => exact .inl (opened.snoc rfl unfinished fun echo => nomatch echo)
  | ok responses =>
      cases responses with
      | nil =>
          exact surely_then (rememberSuccessfulForward_neutral ..) open_keeps
            (opened.snoc rfl unfinished fun echo => nomatch echo) fun past _ opened => .inl opened
      | cons packet rest =>
          cases parsed : codec.parse packet with
          | error error =>
              have unheard := opened.snoc rfl unfinished fun echo => by
                cases echo with
                | relayed relayable =>
                    obtain ⟨message,same,_⟩ := relayable
                    cases parsed.symm.trans same
              apply surely_then (rememberSuccessfulForward_neutral ..) open_keeps unheard
              intro past _ opened
              refine along_lift (fun message same => nomatch parsed.symm.trans same) fun error _ => .inl opened
          | ok message =>
              have echoed := opened.echoed unfinished (.relayed ⟨message,parsed,fun datagram => nomatch datagram⟩)
              apply surely_then (rememberSuccessfulForward_neutral ..) echoed_keeps echoed
              intro past _ echoed
              refine along_lift (fun found _ => ?_) fun error failed => nomatch parsed.symm.trans failed
              apply surely_then (applyRegisterStartLine_neutral ..) echoed_keeps echoed
              intro past _ echoed
              apply Repeated.along_answer echoed rfl
              intro written repeated
              cases written with
              | false => exact .inr repeated
              | true =>
                  change (if isFinal codec found then (pure () : Task Packet Unit) else _).Along _ _ _
                  split
                  · exact .inr repeated
                  · exact repeated.along (relayTcpResponses_talks ..)

end Forwards

section Verdicts
variable {codec : Codec Packet Message} {settings : Settings} {datagram : Bool} {peer : SocketAddr} {message : Message}
  {past : List (Act Packet)}

def Verdict (codec : Codec Packet Message) (datagram : Bool) (peer : SocketAddr) (message : Message) (past : List (Act Packet)) : Prop :=
  Lawful past → ((∀ act ∈ past, act.op.answers = false) ↔ Silenced codec datagram peer message past)

theorem Hushed.verdict (hushed : Hushed past) : Verdict codec datagram peer message past :=
  fun _ => ⟨fun _ => .inl hushed.2,fun _ => hushed.1⟩

theorem Told.verdict (told : Told past) (heard : (∀ answer, localAnswer codec datagram peer message ≠ .ok answer) →
    ∃ act ∈ past, Echo codec datagram peer act) : Verdict codec datagram peer message past := by
  obtain ⟨⟨act,member,answers⟩,unfinished⟩ := told
  refine fun _ => ⟨fun silent => (nomatch (silent act member).symm.trans answers),fun silenced => ?_⟩
  rcases silenced with ⟨other,found,finishes⟩ | ⟨unanswerable,unheard⟩
  · exact (unfinished other found finishes).elim
  · obtain ⟨other,found,echo⟩ := heard unanswerable
    exact (unheard other found echo).elim

theorem Repeated.verdict (repeated : Repeated codec datagram peer past) : Verdict codec datagram peer message past :=
  repeated.2.verdict fun _ => repeated.1.1

theorem Open.verdict (opened : Open codec datagram peer past) (unanswerable : ∀ answer, localAnswer codec datagram peer message ≠ .ok answer) :
    Verdict codec datagram peer message past := by
  refine fun _ => ⟨fun _ => .inr ⟨unanswerable,fun act member => (opened act member).2.2⟩,fun _ act member => ?_⟩
  exact (opened act member).1

theorem along_unlawful {ends : List (Act Packet) → Except String Unit → Prop} (task : Task Packet Unit) (unlawful : ¬ Lawful past)
    (ended : ∀ past outcome, ¬ Lawful past → ends past outcome) : task.Along (fun _ _ => True) ends past := by
  refine along_kept (fun after => ¬ Lawful after) task (fun past act unlawful lawful => unlawful ?_) unlawful ended
  exact fun listener peer reply member => lawful listener peer reply (List.mem_append_left _ member)

-- What a rejection leaves: the answer, or nothing at all.
structure Rejects (codec : Codec Packet Message) (datagram : Bool) (peer : SocketAddr)
    (reject : Message → Nat → String → Task Packet Unit) : Prop where
  opened : ∀ past request code reason, Open codec datagram peer past → (reject request code reason).Along (fun _ _ => True)
    (fun after _ => (∃ answer, addressed codec datagram peer request code reason = .ok answer) ∧ Told after ∨
      (∀ answer, addressed codec datagram peer request code reason ≠ .ok answer) ∧ Open codec datagram peer after) past
  talks : ∀ request code reason, (reject request code reason).Uses Talks

theorem rejectUdp_rejects (peer : SocketAddr) :
    Rejects codec true peer fun request code reason => rejectUdp codec request peer .ack code reason where
  opened past request code reason opened := by
    refine along_lift (fun response routed => ?_) fun error failed => ?_
    · refine along_call fun sent => ⟨trivial,?_⟩
      have answerable : ∃ answer, addressed codec true peer request code reason = .ok answer := ⟨codec.toBytes response,by simp [addressed,routed,Except.map]⟩
      cases sent <;> exact .inl ⟨answerable,opened.told rfl⟩
    · exact .inr ⟨by simp [addressed,failed,Except.map],opened⟩
  talks _ _ _ := uses_bind (uses_lift _) fun _ => sendToClient_talks _ _ _

theorem rejectTcp_rejects (peer : SocketAddr) :
    Rejects codec false peer fun request code reason => rejectTcp codec request .ack code reason where
  opened past request code reason opened := by
    refine along_call fun written => ⟨trivial,?_⟩
    cases written <;> exact .inl ⟨⟨_,rfl⟩,opened.told rfl⟩
  talks _ _ _ := writeToStream_talks _

theorem rejected_verdict {reject : Message → Nat → String → Task Packet Unit} (rejects : Rejects codec datagram peer reject)
    (opened : Open codec datagram peer past) (request : Message) (code : Nat) (reason : String)
    (told : localAnswer codec datagram peer message = addressed codec datagram peer request code reason) :
    (reject request code reason).Along (fun _ _ => True) (fun after _ => Verdict codec datagram peer message after) past := by
  apply along_mono (rejects.opened past request code reason opened) (fun _ _ held => held)
  intro after _ left
  rw [← told] at left
  rcases left with ⟨⟨answer,answers⟩,answered⟩ | ⟨unanswerable,opened⟩
  · exact answered.verdict fun unanswerable => (unanswerable answer answers).elim
  · exact opened.verdict unanswerable

theorem refusal_open (listener : ProxyListenerConfig) (message : Message) (opened : Open codec datagram peer past) :
    (refusal codec settings listener peer message .ack).Along (fun _ _ => True)
      (fun after outcome => ¬ Lawful after ∨ outcome = .ok none ∧ Open codec datagram peer after) past := by
  unfold refusal
  split
  · refine along_call fun reply => ⟨trivial,?_⟩
    cases reply with
    | some reason => exact .inl fun lawful => nomatch lawful listener peer (some reason) (last_mem past _)
    | none => exact .inr ⟨rfl,opened.snoc rfl (fun finishes => (nomatch finishes)) fun echo => nomatch echo⟩
  · exact .inr ⟨rfl,opened⟩

theorem consumeLocalInviteAck_open (message : Message) (opened : Open codec datagram peer past) :
    (consumeLocalInviteAck codec message).Along (fun _ _ => True)
      (fun after outcome => outcome = .ok true ∧ Hushed after ∨ outcome = .ok false ∧ Open codec datagram peer after) past := by
  unfold consumeLocalInviteAck
  split
  · intro absorbed
    refine ⟨trivial,?_⟩
    cases absorbed with
    | true => exact .inl ⟨rfl,opened.hushed rfl .absorbed⟩
    | false => exact .inr ⟨rfl,opened.snoc rfl (fun finishes => (nomatch finishes)) fun echo => nomatch echo⟩
  · exact .inr ⟨rfl,opened⟩

theorem handleRequest_verdict {forward : Message → Task Packet Unit} {reject : Message → Nat → String → Task Packet Unit}
    (forwards : ∀ past request, Open codec datagram peer past → (forward request).Along (fun _ _ => True) (Handled codec datagram peer) past)
    (rejects : Rejects codec datagram peer reject) (packet : Packet) (listener : ProxyListenerConfig)
    (parsed : codec.parse packet = .ok message) (opened : Open codec datagram peer past) :
    (handleRequest codec settings packet message peer listener .ack forward reject).Along (fun _ _ => True)
      (fun after _ => Verdict codec datagram peer message after) past := by
  refine along_bind _ (consumeLocalInviteAck_open message opened) (fun past absorbed left => ?_) fun _ _ left => by simp at left
  rcases left with ⟨same,hushed⟩ | ⟨same,opened⟩
  · cases same
    exact hushed.verdict
  cases same
  refine along_bind _ (refusal_open listener message opened) (fun past refused left => ?_) fun past error left => ?_
  · rcases left with unlawful | ⟨same,opened⟩
    · exact along_unlawful _ unlawful fun _ _ unlawful lawful => (unlawful lawful).elim
    cases same
    cases counted : decrementMaxForwards codec message with
    | error error => exact rejected_verdict rejects opened message 400 "Bad Request" (by simp [localAnswer,counted])
    | ok result =>
        obtain ⟨forwarding,request⟩ := result
        cases forwarding with
        | false => exact rejected_verdict rejects opened request 483 "Too Many Hops" (by simp [localAnswer,counted])
        | true =>
            have forwarded : (attempt (forward request)).Along (fun _ _ => True)
                (fun after outcome => ∃ result, outcome = .ok result ∧ Handled codec datagram peer after result) past :=
              along_attempt (along_mono (forwards past request opened) (fun _ _ held => held) fun _ result handled => ⟨result,rfl,handled⟩)
            refine along_bind _ forwarded (fun past result left => ?_) fun _ _ left => nomatch left.choose_spec.1
            obtain ⟨outcome,same,handled⟩ := left
            cases same
            cases result with
            | ok _ => exact handled.elim Hushed.verdict Repeated.verdict
            | error error =>
                refine along_lift (fun found same => ?_) fun _ failed => nomatch parsed.symm.trans failed
                cases parsed.symm.trans same
                rcases handled with opened | repeated
                · exact rejected_verdict rejects opened message 503 "Service Unavailable" (by simp [localAnswer,counted])
                · exact along_mono (along_uses (rejects.talks _ _ _) (fun _ _ _ _ => trivial)
                    (fun past act held allowed => ⟨held.1.talks allowed,held.2.talks allowed⟩) repeated) (fun _ _ held => held)
                    fun _ _ => Repeated.verdict
  · exact fun lawful => (left.elim (fun unlawful => unlawful lawful) fun found => nomatch found.1).elim

-- An ACK as a listener receives it.
def Acknowledges (codec : Codec Packet Message) (input : Input Packet) (message : Message) : Prop :=
  IsRequest codec input.packet message .ack ∧
    match input with
    | .udp packet peer _ => codec.isCrlfKeepalive packet = false ∧ codec.stunBindingSuccessResponse packet peer = none ∧ codec.isStunPacket packet = false
    | .tcp .. => True

theorem handleSipPacket_verdict {onResponse : Message → Task Packet Unit} {onRequest : Message → Method → Task Packet Unit}
    (received : IsRequest codec packet message .ack) (listener : ProxyListenerConfig)
    (requested : ∀ past, Open codec datagram peer past → (onRequest message .ack).Along (fun _ _ => True)
      (fun after _ => Verdict codec datagram peer message after) past) :
    (handleSipPacket codec settings packet peer listener onResponse onRequest).Along (fun _ _ => True)
      (fun after _ => Verdict codec datagram peer message after) [] := by
  have fresh : Open codec datagram peer [] := fun _ member => nomatch member
  have checked : (checkPacket settings listener peer packet).Along (fun _ _ => True)
      (fun after outcome => outcome = .ok .allow ∧ Open codec datagram peer after ∨
        (∃ reason, outcome = .ok (.drop reason)) ∧ Hushed after) [] := by
    unfold checkPacket
    split
    · intro decision
      refine ⟨trivial,?_⟩
      cases decision with
      | allow => exact .inl ⟨rfl,fresh.snoc rfl (fun finishes => (nomatch finishes)) fun echo => nomatch echo⟩
      | drop reason => exact .inr ⟨⟨reason,rfl⟩,fresh.hushed rfl .dropped⟩
    · exact .inl ⟨rfl,fresh⟩
  refine along_bind _ checked (fun past decision left => ?_) fun _ _ left => by simp at left
  rcases left with ⟨same,opened⟩ | ⟨⟨reason,same⟩,hushed⟩
  · cases same
    simp only [received.parsed,received.isRequest,received.named]
    exact requested past opened
  · cases same
    exact hushed.verdict

theorem handler_verdict {input : Input Packet} (acknowledges : Acknowledges codec input message) :
    (handler codec settings input).Along (fun _ _ => True)
      (fun after _ => Verdict codec input.isDatagram input.peer message after) [] := by
  obtain ⟨received,plain⟩ := acknowledges
  cases input with
  | tcp packet peer listener =>
      exact handleSipPacket_verdict received listener fun past opened => handleRequest_verdict
        (fun _ request => forwardTcpStream_handled request listener) (rejectTcp_rejects peer) packet listener received.parsed opened
  | udp packet peer listener =>
      change (handleUdpPacket codec settings packet peer listener).Along _ _ _
      unfold handleUdpPacket
      rw [plain.1,plain.2.1,plain.2.2]
      exact handleSipPacket_verdict received listener fun past opened => handleRequest_verdict
        (fun _ request => forwardUdp_handled request peer listener) (rejectUdp_rejects peer) packet listener received.parsed opened

end Verdicts

section Runs
variable {Bucket : Type} {codec : Codec Packet Message} {view : SecurityCodec Packet Bucket}
  {listeners : Table String ListenerSecurityRuntime} {settings : Settings}

theorem checkSipRequest_ack (runtime : SecurityRuntime) (now : Nat) (listener : ProxyListenerConfig) (identity : String)
    (state : SecurityState Bucket) : (runtime.checkSipRequest view now listener identity .ack state).1 = none := by
  unfold SecurityRuntime.checkSipRequest
  dsimp only
  split
  · rfl
  · split <;> rfl

theorem run_lawful {world : Secured Packet Bucket} {pool : Pool (@Op.Reply Packet) (Input Packet) (Secured Packet Bucket) Unit}
    {actions : List (System.Action (Input Packet) (SecuredChoice Packet) (SecuredChange Bucket))}
    (ran : Machine.run (secured codec view listeners settings).advance (System.start world) actions = some pool) (task : Nat) :
    Lawful (System.own task pool.history) := by
  intro listener peer reply member
  obtain ⟨entry,recorded,_,event⟩ := System.mem_own.mp member
  obtain ⟨before,after,split⟩ := List.append_of_mem recorded
  obtain ⟨_,choice,_,reached,_,_,_,_,_,replied⟩ := System.run_recorded ran split
  rw [event] at replied
  have silent : ((reached.world.runtime listeners).checkSipRequest view reached.world.proxy.now listener choice.identity .ack
      reached.world.bans).1 = none := checkSipRequest_ack ..
  exact replied.trans silent

-- An ACK is answered, unless it is dropped, absorbed, taken by an upstream socket
-- or cannot be answered.
theorem ack_silenced_iff {outcome : Except String Unit} {world : Secured Packet Bucket} {pool : Pool (@Op.Reply Packet) (Input Packet) (Secured Packet Bucket) Unit}
    {actions : List (System.Action (Input Packet) (SecuredChoice Packet) (SecuredChange Bucket))}
    (ran : Machine.run (secured codec view listeners settings).advance (System.start world) actions = some pool)
    (received : pool.inputs[task]? = some input) (acknowledges : Acknowledges codec input message)
    (stands : pool.tasks[task]? = some program) (finished : program.outcome = some outcome) :
    (∀ act ∈ System.own task pool.history, act.op.answers = false) ↔
      Silenced codec input.isDatagram input.peer message (System.own task pool.history) := by
  have tracked : System.Tracked (fun _ _ _ => True) (fun input after _ => ∀ message, Acknowledges codec input message →
      Verdict codec input.isDatagram input.peer message after) pool := System.run_tracked ?_ ran
  · exact along_outcome (tracked.path task input program received stands) finished message acknowledges (run_lawful ran task)
  · intro input
    by_cases acknowledged : ∃ message, Acknowledges codec input message
    · obtain ⟨message,acknowledges⟩ := acknowledged
      apply along_mono (handler_verdict acknowledges) (fun _ _ held => held)
      intro after _ verdict other same
      cases acknowledges.1.parsed.symm.trans same.1.parsed
      exact verdict
    · exact along_kept (fun _ => True) _ (fun _ _ held => held) trivial fun _ _ _ message same => (acknowledged ⟨message,same⟩).elim

def streamListener : ProxyListenerConfig := {udpListener with transport:=.tcp}

def datagramAck : Input Envelope := .udp (request .ack) clientAddr udpListener
def streamAck : Input Envelope := .tcp (request .ack) clientAddr streamListener

def refusing : SecuredSchedule Envelope := [.step 0 ⟨⟨.allow,none,upstreamAddr,false,"10.0.0.9:5060",.ok []⟩,""⟩]

-- The upstream socket refuses one ACK, and the upstream connection yields no
-- response to the other.
def refusedAcks : SecuredSchedule Envelope :=
  [.spawn datagramAck,.spawn streamAck] ++ securedSteps _ 0 9 ++ refusing ++ securedSteps _ 0 3 ++ securedSteps _ 1 9

theorem forwarded_ack_silent : ∃ pool, runSecured envelopeCodec .off (.spawn datagramAck :: securedSteps _ 0 11) = some pool ∧
    ((∀ act ∈ System.own 0 pool.history, act.op.answers = false) ↔
      Silenced envelopeCodec true clientAddr (request .ack) (System.own 0 pool.history)) := by
  obtain ⟨pool,ran,received,stands⟩ : ∃ pool, runSecured envelopeCodec .off (.spawn datagramAck :: securedSteps _ 0 11) = some pool ∧
      pool.inputs[0]? = some datagramAck ∧ pool.tasks[0]? = some (.done ()) := ⟨_,rfl,rfl,rfl⟩
  exact ⟨pool,ran,ack_silenced_iff ran received ⟨⟨rfl,rfl,rfl⟩,rfl,rfl,rfl⟩ stands rfl⟩

theorem refused_ack_answered : ∃ pool, runSecured envelopeCodec .off refusedAcks = some pool ∧
    pool.inputs = [datagramAck,streamAck] ∧ Acknowledges envelopeCodec datagramAck (request .ack) ∧
    Acknowledges envelopeCodec streamAck (request .ack) ∧
    (∃ response, ⟨.sendToClient response clientAddr,true⟩ ∈ System.own 0 pool.history) ∧
    ∃ response, ⟨.writeToStream response,true⟩ ∈ System.own 1 pool.history := by
  refine ⟨_,rfl,rfl,⟨⟨rfl,rfl,rfl⟩,rfl,rfl,rfl⟩,⟨⟨rfl,rfl,rfl⟩,trivial⟩,?_,?_⟩
  · exact ⟨_,List.mem_of_getElem? (show (System.own 0 _)[12]? = some _ from rfl)⟩
  · exact ⟨_,List.mem_of_getElem? (show (System.own 1 _)[8]? = some _ from rfl)⟩

end Runs

end Sigproxy.Proxy
