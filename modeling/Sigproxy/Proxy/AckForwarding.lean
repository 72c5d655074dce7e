import Sigproxy.Proxy.AckAnswers

namespace Sigproxy.Proxy
open Library Net Security
open Program

variable {Packet Message : Type}

section Settling
variable {codec : Codec Packet Message} {settings : Settings} {request : Request Message} {past : List (Act Packet)}

-- The client transaction was in the table.
def hits : Act Packet → Bool
  | ⟨.lookupUdpClientTransaction _,found⟩ => found.isSome
  | _ => false

-- The packet check drops the ACK, or it is that of a local rejection.
def excuses : Act Packet → Bool
  | ⟨.checkPacket ..,.drop _⟩ => true
  | ⟨.consumeLocalInviteRejection _,absorbed⟩ => absorbed
  | _ => false

def Recognized (past : List (Act Packet)) : Prop := ∃ act ∈ past, hits act = true

def Excused (past : List (Act Packet)) : Prop := ∃ act ∈ past, excuses act = true

def Onward (past : List (Act Packet)) : Prop := ∃ act ∈ past, act.op.forwards = true

-- prepare_forward fails, or finds a target of no concrete transport.
def Unprepared (codec : Codec Packet Message) (settings : Settings) (request : Request Message) (past : List (Act Packet)) : Prop :=
  ∃ before events after outcome, past = before ++ events ++ after ∧
    (prepareForward codec settings request.message request.peer request.listener request.method).Trace events outcome ∧
    ∀ prepared, outcome = .ok prepared → prepared.target.transport = .tcpUdp

def Fresh (past : List (Act Packet)) : Prop := ∀ act ∈ past, act.op.forwards = false ∧ hits act = false

inductive Decided (codec : Codec Packet Message) (settings : Settings) (request : Request Message) (past : List (Act Packet)) : Prop where
  | known : Recognized past → Unforwarded past → Decided codec settings request past
  | forwarded : (∀ act ∈ past, hits act = false) → Onward past → Decided codec settings request past
  | unprepared : (∀ act ∈ past, hits act = false) → Unprepared codec settings request past → Decided codec settings request past

theorem talks_fresh {act : Act Packet} (talks : Talks act.op) : act.op.forwards = false ∧ hits act = false := by
  obtain ⟨op,reply⟩ := act
  cases op <;> first | exact ⟨rfl,rfl⟩ | exact (talks.elim id fun answers => nomatch answers).elim

theorem Fresh.talks {act : Act Packet} (fresh : Fresh past) (talks : Talks act.op) : Fresh (past ++ [act]) :=
  snoc_all fresh (talks_fresh talks)

theorem fresh_keeps (past : List (Act Packet)) (act : Act Packet) (fresh : Fresh past) (neutral : Neutral act.op) :
    Fresh (past ++ [act]) := fresh.talks (.inl neutral)

theorem Unprepared.grown (unprepared : Unprepared codec settings request past) (more : List (Act Packet)) :
    Unprepared codec settings request (past ++ more) := by
  obtain ⟨before,events,after,outcome,split,traced,failed⟩ := unprepared
  exact ⟨before,events,after ++ more,outcome,by rw [split,List.append_assoc],traced,failed⟩

theorem Decided.talks {act : Act Packet} (decided : Decided codec settings request past) (talks : Talks act.op) :
    Decided codec settings request (past ++ [act]) := by
  cases decided with
  | known known unforwarded => exact .known (snoc_some known act) (snoc_all unforwarded (talks_fresh talks).1)
  | forwarded missed forwarded => exact .forwarded (snoc_all missed (talks_fresh talks).2) (snoc_some forwarded act)
  | unprepared missed unprepared => exact .unprepared (snoc_all missed (talks_fresh talks).2) (unprepared.grown _)

theorem Fresh.sent {act : Act Packet} (fresh : Fresh past) (forwards : act.op.forwards = true) : Decided codec settings request (past ++ [act]) := by
  obtain ⟨op,reply⟩ := act
  refine .forwarded (snoc_all (fun other member => (fresh other member).2) ?_) ⟨_,last_mem past _,forwards⟩
  cases op <;> first | rfl | cases forwards

theorem decided_along {task : Task Packet Unit} (talks : task.Uses Talks) (decided : Decided codec settings request past) :
    task.Along (fun _ _ => True) (fun after _ => Decided codec settings request after) past :=
  along_uses talks (fun _ _ _ _ => trivial) (fun _ _ decided allowed => decided.talks allowed) decided

theorem forwardUdpToUdpUpstream_decided (prepared : Prepared Message) (client : SocketAddr) (key : Option String) (method : Method)
    (fresh : Fresh past) : (forwardUdpToUdpUpstream codec settings prepared client key method).Along (fun _ _ => True)
      (fun after _ => Decided codec settings request after) past := by
  refine along_call fun _ => ⟨trivial,?_⟩
  refine surely_then (rememberUdpClientTransaction_neutral _ key) fresh_keeps (fresh.talks (.inl trivial)) fun past _ fresh => ?_
  refine along_call fun sent => ⟨trivial,decided_along ?_ (fresh.sent rfl)⟩
  cases sent with
  | true => exact neutral_talks (rememberSuccessfulForward_neutral ..).uses
  | false =>
      apply uses_call (.inl trivial)
      intro _
      exact uses_bind (neutral_talks (removeUdpClientTransaction_neutral key).uses) fun _ => trivial

theorem forwardUdpToTcpUpstream_decided (prepared : Prepared Message) (client : SocketAddr) (key : Option String) (method : Method)
    (fresh : Fresh past) : (forwardUdpToTcpUpstream codec settings prepared client key method).Along (fun _ _ => True)
      (fun after _ => Decided codec settings request after) past := by
  refine along_call fun reply => ⟨trivial,decided_along ?_ (fresh.sent rfl)⟩
  cases reply with
  | error error => exact uses_bind (neutral_talks (removeUdpClientTransaction_neutral key).uses) fun _ => trivial
  | ok responses =>
      apply uses_bind (neutral_talks (rememberUdpClientTransaction_neutral _ key).uses)
      intro _
      apply uses_bind (neutral_talks (rememberSuccessfulForward_neutral ..).uses)
      intro _
      exact sendUdpToTcpResponses_talks ..

theorem forwardUdp_decided {message : Message} {client : SocketAddr} {listener : ProxyListenerConfig}
    (keyed : udpClientTransactionKey codec message client .ack = .ok key) (fresh : Fresh past) :
    (forwardUdp codec settings message client listener .ack).Along (fun _ _ => True)
      (fun after _ => Decided codec settings ⟨message,client,listener,.ack⟩ after) past := by
  have missed (past : List (Act Packet)) (fresh : Fresh past) :
      (forwardUnknown codec settings message client listener .ack key).Along (fun _ _ => True)
        (fun after _ => Decided codec settings ⟨message,client,listener,.ack⟩ after) past := by
    have traced : (prepareForward codec settings message client listener .ack).Along (fun _ _ => True) (fun after outcome =>
        ∃ events, after = past ++ events ∧ (prepareForward codec settings message client listener .ack).Trace events outcome) past :=
      along_trace fun events outcome traced => ⟨events,rfl,traced⟩
    have kept := along_uses (prepareForward_neutral message client listener .ack : (prepareForward codec settings message client listener .ack).Uses Neutral)
      (fun _ _ _ _ => trivial) fresh_keeps fresh
    refine along_bind _ (along_mono (along_both traced kept) (fun _ _ _ => trivial) fun _ _ held => held) (fun after prepared held => ?_)
      fun after error held => ?_
    · obtain ⟨⟨events,same,traced⟩,fresh⟩ := held
      change (forwardPrepared codec settings prepared client key .ack).Along _ _ _
      rw [forwardPrepared]
      split
      · exact forwardUdpToUdpUpstream_decided prepared client key .ack fresh
      · exact forwardUdpToTcpUpstream_decided prepared client key .ack fresh
      · rename_i unexpanded
        refine .unprepared (fun act member => (fresh act member).2) ⟨past,events,[],.ok prepared,by simp [same],traced,fun other found => ?_⟩
        cases found
        exact unexpanded
    · obtain ⟨⟨events,same,traced⟩,fresh⟩ := held
      exact .unprepared (fun act member => (fresh act member).2) ⟨past,events,[],_,by simp [same],traced,fun _ found => by cases found⟩
  refine along_lift (fun found same => ?_) fun error failed => by cases keyed.symm.trans failed
  cases keyed.symm.trans same
  cases key with
  | none => exact missed past fresh
  | some key =>
      refine along_call fun found => ⟨trivial,?_⟩
      cases found with
      | none => exact missed _ (snoc_all fresh ⟨rfl,rfl⟩)
      | some route =>
          have known : Decided codec settings ⟨message,client,listener,.ack⟩ (past ++ [⟨.lookupUdpClientTransaction key,some route⟩]) :=
            .known ⟨_,last_mem past _,rfl⟩ (snoc_all (fun other member => (fresh other member).1) rfl)
          refine decided_along ?_ known
          obtain ⟨target,answer⟩ := route
          cases answer with
          | none => trivial
          | some response => exact sendToClient_talks _ _ _

end Settling

section Requests
variable {codec : Codec Packet Message} {settings : Settings} {request : Request Message} {past : List (Act Packet)}

-- How the handling of an ACK ends that still had a hop to go.
def Outcome (codec : Codec Packet Message) (settings : Settings) (request : Request Message) (past : List (Act Packet)) : Prop :=
  Lawful past → Excused past ∨ Decided codec settings request past

theorem Excused.outcome_along (task : Task Packet Unit) (excused : Excused past) :
    task.Along (fun _ _ => True) (fun after _ => Outcome codec settings request after) past :=
  along_kept Excused task (fun _ act excused => snoc_some excused act) excused fun _ _ excused _ => .inl excused

theorem handleUdpRequest_outcome {message counted : Message} (counts : decrementMaxForwards codec message = .ok (true,counted))
    (packet : Packet) (client : SocketAddr) (listener : ProxyListenerConfig) (keyed : udpClientTransactionKey codec counted client .ack = .ok key)
    (fresh : Fresh past) : (handleUdpRequest codec settings packet message client listener .ack).Along (fun _ _ => True)
      (fun after _ => Outcome codec settings ⟨counted,client,listener,.ack⟩ after) past := by
  have consumed : (consumeLocalInviteAck codec message).Along (fun _ _ => True)
      (fun after outcome => Excused after ∨ outcome = .ok false ∧ Fresh after) past := by
    unfold consumeLocalInviteAck
    split
    · intro absorbed
      refine ⟨trivial,?_⟩
      cases absorbed with
      | true => exact .inl ⟨_,last_mem past _,rfl⟩
      | false => exact .inr ⟨rfl,snoc_all fresh ⟨rfl,rfl⟩⟩
    · exact .inr ⟨rfl,fresh⟩
  have refused (past : List (Act Packet)) (fresh : Fresh past) : (refusal codec settings listener client message .ack).Along (fun _ _ => True)
      (fun after outcome => ¬ Lawful after ∨ outcome = .ok none ∧ Fresh after) past := by
    unfold refusal
    split
    · refine along_call fun reply => ⟨trivial,?_⟩
      cases reply with
      | some reason => exact .inl fun lawful => nomatch lawful listener client (some reason) (last_mem past _)
      | none => exact .inr ⟨rfl,snoc_all fresh ⟨rfl,rfl⟩⟩
    · exact .inr ⟨rfl,fresh⟩
  refine along_bind _ consumed (fun past absorbed left => ?_) fun past error left lawful => ?_
  · rcases left with excused | ⟨same,fresh⟩
    · exact excused.outcome_along _
    cases same
    refine along_bind _ (refused past fresh) (fun past answer left => ?_) fun past error left lawful => ?_
    · rcases left with unlawful | ⟨same,fresh⟩
      · exact along_unlawful _ unlawful fun _ _ unlawful lawful => (unlawful lawful).elim
      cases same
      simp only [counts]
      have forwarded : (attempt (forwardUdp codec settings counted client listener .ack)).Along (fun _ _ => True)
          (fun after _ => Decided codec settings ⟨counted,client,listener,.ack⟩ after) past := along_attempt (forwardUdp_decided keyed fresh)
      refine along_bind _ forwarded (fun past result decided => ?_) fun _ _ decided _ => .inr decided
      have answered {task : Task Packet Unit} (talks : task.Uses Talks) : task.Along (fun _ _ => True)
          (fun after _ => Outcome codec settings ⟨counted,client,listener,.ack⟩ after) past :=
        along_mono (decided_along talks decided) (fun _ _ held => held) fun _ _ decided _ => .inr decided
      cases result with
      | ok _ => exact fun _ => .inr decided
      | error error => exact answered (uses_bind (uses_lift _) fun request => (rejectUdp_rejects client).talks request _ _)
    · exact (left.elim (fun unlawful => unlawful lawful) fun found => nomatch found.1).elim
  · exact .inl (left.resolve_right fun found => nomatch found.1)

end Requests

section Runs
variable {Bucket : Type} {codec : Codec Packet Message} {view : SecurityCodec Packet Bucket}
  {listeners : Table String ListenerSecurityRuntime} {settings : Settings}

theorem handler_outcome {packet : Packet} {client : SocketAddr} {listener : ProxyListenerConfig}
    (acknowledges : Acknowledges codec (.udp packet client listener) message) (counts : decrementMaxForwards codec message = .ok (true,counted))
    (keyed : udpClientTransactionKey codec counted client .ack = .ok key) :
    (handler codec settings (.udp packet client listener)).Along (fun _ _ => True)
      (fun after _ => Outcome codec settings ⟨counted,client,listener,.ack⟩ after) [] := by
  obtain ⟨(received : IsRequest codec packet message .ack),plain⟩ := acknowledges
  change (handleUdpPacket codec settings packet client listener).Along _ _ _
  unfold handleUdpPacket
  rw [plain.1,plain.2.1,plain.2.2]
  have fresh : @Fresh Packet [] := fun _ member => nomatch member
  have checked : (checkPacket settings listener client packet).Along (fun _ _ => True)
      (fun after outcome => Excused after ∨ outcome = .ok .allow ∧ Fresh after) [] := by
    unfold checkPacket
    split
    · intro decision
      refine ⟨trivial,?_⟩
      cases decision with
      | allow => exact .inr ⟨rfl,snoc_all fresh ⟨rfl,rfl⟩⟩
      | drop reason => exact .inl ⟨_,last_mem [] _,rfl⟩
    · exact .inr ⟨rfl,fresh⟩
  refine along_bind _ checked (fun past decision left => ?_) fun past error left lawful => ?_
  · rcases left with excused | ⟨same,fresh⟩
    · exact excused.outcome_along _
    cases same
    simp only [received.parsed,received.isRequest,received.named]
    exact handleUdpRequest_outcome counts packet client listener keyed fresh
  · exact .inl (left.resolve_right fun found => nomatch found.1)

-- An ACK that the checks let through and that has a hop to go.
structure Forwardable (codec : Codec Packet Message) (message : Message) (request : Request Message) (own : List (Act Packet)) : Prop where
  counts : decrementMaxForwards codec message = .ok (true,request.message)
  keyed : ∃ key, udpClientTransactionKey codec request.message request.peer .ack = .ok key
  passed : ¬ Excused own

-- Such an ACK is swallowed exactly where its client transaction is known.
theorem ack_forwarded_unless_known {client : SocketAddr} {listener : ProxyListenerConfig} {outcome : Except String Unit}
    {world : Secured Packet Bucket} {pool : Pool (@Op.Reply Packet) (Input Packet) (Secured Packet Bucket) Unit}
    {actions : List (System.Action (Input Packet) (SecuredChoice Packet) (SecuredChange Bucket))}
    (ran : Machine.run (secured codec view listeners settings).advance (System.start world) actions = some pool)
    (received : pool.inputs[task]? = some (.udp packet client listener)) (acknowledges : Acknowledges codec (.udp packet client listener) message)
    (stands : pool.tasks[task]? = some program) (finished : program.outcome = some outcome)
    (forwardable : Forwardable codec message ⟨counted,client,listener,.ack⟩ (System.own task pool.history)) :
    (¬ Recognized (System.own task pool.history) → Onward (System.own task pool.history) ∨
      Unprepared codec (securedSettings listeners settings) ⟨counted,client,listener,.ack⟩ (System.own task pool.history)) ∧
    (Recognized (System.own task pool.history) → ¬ Onward (System.own task pool.history)) := by
  have tracked : System.Tracked (fun _ _ _ => True) (fun input after _ => input = .udp packet client listener →
      Outcome codec (securedSettings listeners settings) ⟨counted,client,listener,.ack⟩ after) pool := System.run_tracked ?_ ran
  · have left := along_outcome (tracked.path task _ program received stands) finished rfl (run_lawful ran task)
    cases left.resolve_left forwardable.passed with
    | known known unforwarded =>
        refine ⟨fun unknown => (unknown known).elim,fun _ onward => ?_⟩
        obtain ⟨act,member,forwards⟩ := onward
        cases (unforwarded act member).symm.trans forwards
    | forwarded missed onward => exact ⟨fun _ => .inl onward,fun ⟨act,member,hit⟩ => nomatch (missed act member).symm.trans hit⟩
    | unprepared missed unprepared => exact ⟨fun _ => .inr unprepared,fun ⟨act,member,hit⟩ => nomatch (missed act member).symm.trans hit⟩
  · intro input
    by_cases same : input = .udp packet client listener
    · obtain ⟨key,keyed⟩ := forwardable.keyed
      rw [same]
      exact along_mono (handler_outcome acknowledges forwardable.counts keyed) (fun _ _ held => held) fun _ _ left _ => left
    · exact along_kept (fun _ => True) _ (fun _ _ held => held) trivial fun _ _ _ other => (same other).elim

-- The 2xx comes once more, and with it the same ACK.
def repeatedAck : SecuredSchedule Envelope :=
  [.spawn datagramAck] ++ securedSteps _ 0 11 ++ [.spawn datagramAck] ++ securedSteps _ 1 2

theorem first_ack_forwarded : ∃ pool, runSecured envelopeCodec .off repeatedAck = some pool ∧
    (¬ Recognized (System.own 0 pool.history) → Onward (System.own 0 pool.history) ∨
      Unprepared envelopeCodec (securedSettings (denying .off) plainSettings) ⟨request .ack,clientAddr,udpListener,.ack⟩ (System.own 0 pool.history)) ∧
    (Recognized (System.own 0 pool.history) → ¬ Onward (System.own 0 pool.history)) := by
  obtain ⟨pool,ran,received,stands,unexcused⟩ : ∃ pool, runSecured envelopeCodec .off repeatedAck = some pool ∧
      pool.inputs[0]? = some datagramAck ∧ pool.tasks[0]? = some (.done ()) ∧ (System.own 0 pool.history).any excuses = false := ⟨_,rfl,rfl,rfl,rfl⟩
  have passed : ¬ Excused (System.own 0 pool.history) := fun ⟨act,member,excuses⟩ =>
    nomatch unexcused.symm.trans (List.any_eq_true.mpr ⟨act,member,excuses⟩)
  exact ⟨pool,ran,ack_forwarded_unless_known ran received ⟨⟨rfl,rfl,rfl⟩,rfl,rfl,rfl⟩ stands rfl ⟨rfl,⟨_,rfl⟩,passed⟩⟩

theorem repeated_ack_swallowed : ∃ pool, runSecured envelopeCodec .off repeatedAck = some pool ∧
    pool.inputs = [datagramAck,datagramAck] ∧ Acknowledges envelopeCodec datagramAck (request .ack) ∧
    pool.tasks.map Program.outcome = [some (.ok ()),some (.ok ())] ∧ (System.own 0 pool.history).any (fun act => act.op.forwards) = true ∧
    (System.own 1 pool.history).any excuses = false ∧ (System.own 1 pool.history).any (fun act => act.op.forwards) = false :=
  ⟨_,rfl,rfl,⟨⟨rfl,rfl,rfl⟩,rfl,rfl,rfl⟩,rfl,rfl,rfl,rfl⟩

end Runs

end Sigproxy.Proxy
