import Sigproxy.Proxy.ResponseRouting

namespace Sigproxy.Proxy
open Library Net
open Program (lift attempt)

variable {Packet Message : Type}

section Pieces
variable (codec : Codec Packet Message) (settings : Settings)

-- handle_tcp_packet up to forward_tcp_stream: the request to forward, unless it
-- was dropped, absorbed or answered on the spot.
def admitTcpPacket (packet : Packet) (peer : SocketAddr) (listener : ProxyListenerConfig) :
    Task Packet (Option (Message × Method)) := do
  match ← checkPacket settings listener peer packet with
  | .drop _ => return none
  | .allow =>
    match codec.parse packet with
    | .error error => if settings.userSpaceSecurityEnabled && settings.securityEnabled listener then return none else .fail error
    | .ok message =>
      if codec.isResponse message then return none
      else
        match (codec.method message).bind canonicalSipMethod with
        | none => return none
        | some method =>
          let absorbed ← (if method = .ack then consumeLocalInviteAck codec message else pure false)
          if absorbed then return none
          else
            match ← refusal codec settings listener peer message method with
            | some (code,reason) =>
              rejectTcp codec message method code reason
              return none
            | none =>
              match decrementMaxForwards codec message with
              | .error _ =>
                rejectTcp codec message method 400 "Bad Request"
                return none
              | .ok (false,message) =>
                rejectTcp codec message method 483 "Too Many Hops"
                return none
              | .ok (true,message) => return some (message,method)

-- One turn of the loop of forward_tcp_stream: whether the response was final.
def relayTcpResponse (branch : String) (packet : Packet) : Task Packet Bool := do
  let message ← lift (codec.parse packet)
  applyRegisterStartLine codec branch message
  writeToStream packet
  return isFinal codec message

def rejectForwardError (packet : Packet) (method : Method) : Task Packet Unit := do
  let request ← lift (codec.parse packet)
  rejectTcp codec request method 503 "Service Unavailable"

theorem relayTcpResponses_turn (branch : String) (packet : Packet) (rest : List Packet) :
    relayTcpResponses codec branch (packet :: rest) =
      relayTcpResponse codec branch packet >>= fun final => if final then return () else relayTcpResponses codec branch rest := by
  simp only [relayTcpResponses,relayTcpResponse,bind_assoc,pure_bind]

theorem handleTcpPacket_admitted (packet : Packet) (peer : SocketAddr) (listener : ProxyListenerConfig) :
    handleTcpPacket codec settings packet peer listener = (do
      match ← admitTcpPacket codec settings packet peer listener with
      | none => return ()
      | some (message,method) =>
        match ← attempt (forwardTcpStream codec settings message peer listener method) with
        | .ok _ => return ()
        | .error _ => rejectForwardError codec packet method) := by
  unfold handleTcpPacket handleSipPacket admitTcpPacket
  rw [bind_assoc]
  apply bind_congr
  intro decision
  cases decision with
  | drop reason => rfl
  | allow =>
      cases codec.parse packet with
      | error error =>
          dsimp only
          split <;> rfl
      | ok message =>
          dsimp only
          cases codec.isResponse message with
          | true => rfl
          | false =>
              cases (codec.method message).bind canonicalSipMethod with
              | none => rfl
              | some method =>
                  unfold handleTcpRequest handleRequest
                  simp only [Bool.false_eq_true,if_false,bind_assoc]
                  apply bind_congr
                  intro absorbed
                  cases absorbed with
                  | true => rfl
                  | false =>
                      simp only [Bool.false_eq_true,if_false,bind_assoc]
                      apply bind_congr
                      intro refused
                      cases refused with
                      | some pair => simp
                      | none =>
                          cases decrementMaxForwards codec message with
                          | error error => simp
                          | ok counted =>
                              obtain ⟨forwarding,counted⟩ := counted
                              cases forwarding with
                              | false => simp
                              | true => rfl

end Pieces

section Stream

-- Where the task of a connection stands: at read_message, inside the handling of
-- the message in hand, or at recv_upstream_response.
inductive Phase (Packet Message : Type) where
  | reading
  | admitting (packet : Packet) (task : Task Packet (Option (Message × Method)))
  | preparing (packet : Packet) (method : Method) (task : Task Packet (Prepared Message))
  | sending (packet : Packet) (method : Method) (prepared : Prepared Message)
  | recording (packet : Packet) (method : Method) (prepared : Prepared Message) (task : Task Packet Unit)
  | awaiting (packet : Packet) (method : Method) (prepared : Prepared Message)
  | relaying (packet : Packet) (method : Method) (prepared : Prepared Message) (task : Task Packet Bool)
  | rejecting (task : Task Packet Unit)
  | closed

-- `buffer` holds the complete messages of the client that have not been read, and
-- `responses` what the receiver of the request in hand holds. The last two are the
-- messages that were sent on and those that ended otherwise.
structure TcpStream (Packet Message : Type) where
  phase : Phase Packet Message
  buffer : List Packet
  responses : List Packet
  world : World Packet
  forwarded : List Packet
  dismissed : List Packet

namespace TcpStream

def accept (Packet Message : Type) (world : World Packet) : TcpStream Packet Message := ⟨.reading,[],[],world,[],[]⟩

inductive Action (Packet : Type) where
  | arrive (packet : Packet)
  | proceed (choice : Choice Packet)
  | respond (packet : Packet)
  | lapse
  | hangUp
  | interfere (world : World Packet)

-- The request in hand has been sent and its final response not yet relayed.
def pending (stream : TcpStream Packet Message) : Bool :=
  match stream.phase with
  | .recording .. | .awaiting .. | .relaying .. => true
  | _ => false

def perform (settings : Settings) (op : Op Packet) (choice : Choice Packet) (stream : TcpStream Packet Message)
    (phase : op.Reply → Phase Packet Message) : TcpStream Packet Message :=
  let result := Proxy.perform settings op choice stream.world
  {stream with phase:=phase result.1,world:=result.2}

variable (codec : Codec Packet Message) (settings : Settings) (peer : SocketAddr) (listener : ProxyListenerConfig)

def proceed (stream : TcpStream Packet Message) (choice : Choice Packet) : Option (TcpStream Packet Message) :=
  match stream.phase with
  | .reading =>
    match stream.buffer with
    | [] => none
    | packet :: rest => some {stream with phase:=.admitting packet (admitTcpPacket codec settings packet peer listener),buffer:=rest}
  | .admitting packet (.call op next) => some (stream.perform settings op choice fun reply => .admitting packet (next reply))
  | .admitting packet (.done none) => some {stream with phase:=.reading,dismissed:=stream.dismissed ++ [packet]}
  | .admitting packet (.done (some (message,method))) =>
    some {stream with phase:=.preparing packet method (prepareForward codec settings message peer listener method)}
  -- handle_tcp_client hands the error on, and the connection is dropped.
  | .admitting packet (.fail _) => some {stream with phase:=.closed,dismissed:=stream.dismissed ++ [packet]}
  | .preparing packet method (.call op next) =>
    some (stream.perform settings op choice fun reply => .preparing packet method (next reply))
  | .preparing packet method (.done prepared) => some {stream with phase:=.sending packet method prepared}
  | .preparing packet method (.fail _) =>
    some {stream with phase:=.rejecting (rejectForwardError codec packet method),dismissed:=stream.dismissed ++ [packet]}
  | .sending packet method prepared =>
    match choice.responses with
    | .ok _ =>
      let record := rememberSuccessfulForward codec settings prepared.message prepared.target prepared.branch
        prepared.inviteTransactionKey method
      some {stream with phase:=.recording packet method prepared record,responses:=[],forwarded:=stream.forwarded ++ [packet]}
    | .error _ =>
      some {stream with phase:=.rejecting (rejectForwardError codec packet method),dismissed:=stream.dismissed ++ [packet]}
  | .recording packet method prepared (.call op next) =>
    some (stream.perform settings op choice fun reply => .recording packet method prepared (next reply))
  | .recording packet method prepared (.done _) => some {stream with phase:=.awaiting packet method prepared}
  | .recording packet method _ (.fail _) => some {stream with phase:=.rejecting (rejectForwardError codec packet method)}
  | .awaiting packet method prepared =>
    match stream.responses with
    | [] => none
    | response :: rest =>
      some {stream with phase:=.relaying packet method prepared (relayTcpResponse codec prepared.branch response),responses:=rest}
  | .relaying packet method prepared (.call op next) =>
    some (stream.perform settings op choice fun reply => .relaying packet method prepared (next reply))
  | .relaying packet method prepared (.done final) =>
    some {stream with phase:=if final then .reading else .awaiting packet method prepared}
  | .relaying packet method _ (.fail _) => some {stream with phase:=.rejecting (rejectForwardError codec packet method)}
  | .rejecting (.call op next) => some (stream.perform settings op choice fun reply => .rejecting (next reply))
  | .rejecting (.done _) => some {stream with phase:=.reading}
  | .rejecting (.fail _) => some {stream with phase:=.closed}
  | .closed => none

def advance (stream : TcpStream Packet Message) : Action Packet → Option (TcpStream Packet Message)
  | .arrive packet => some {stream with buffer:=stream.buffer ++ [packet]}
  | .proceed choice => proceed codec settings peer listener stream choice
  | .respond packet => if stream.pending then some {stream with responses:=stream.responses ++ [packet]} else none
  -- The wait for a response runs out, or its channel is closed.
  | .lapse =>
    match stream.phase,stream.responses with
    | .awaiting packet method _,[] => some {stream with phase:=.rejecting (rejectForwardError codec packet method)}
    | _,_ => none
  | .hangUp =>
    match stream.phase,stream.buffer with
    | .reading,[] => some {stream with phase:=.closed}
    | _,_ => none
  | .interfere world => some {stream with world:=world}

-- The surroundings refuse nothing and no send fails.
def Smooth (choice : Choice Packet) : Prop :=
  choice.decision = .allow ∧ choice.rejection = none ∧ choice.flag = true ∧ choice.responses.isOk = true

-- Steps of the proxy alone take a buffered request to its send, or to the end of
-- a handling that does not send it.
def CanForward (stream : TcpStream Packet Message) (packet : Packet) : Prop :=
  ∃ (choices : List (Choice Packet)) (reached : TcpStream Packet Message), (∀ choice ∈ choices, Smooth choice) ∧
    Machine.run (advance codec settings peer listener) stream (choices.map .proceed) = some reached ∧
    (reached.forwarded = stream.forwarded ++ [packet] ∨ reached.dismissed = stream.dismissed ++ [packet])

-- The client sends a message only once the connection has finished with the last.
def InTurn (stream : TcpStream Packet Message) : Action Packet → Prop
  | .arrive _ => stream.phase = .reading ∧ stream.buffer = []
  | _ => True

instance : ∀ phase : Phase Packet Message, Decidable (phase = .reading)
  | .reading => isTrue rfl
  | .admitting .. | .preparing .. | .sending .. | .recording .. => isFalse nofun
  | .awaiting .. | .relaying .. | .rejecting .. | .closed => isFalse nofun

instance [DecidableEq Packet] (stream : TcpStream Packet Message) : ∀ action, Decidable (InTurn stream action)
  | .arrive _ => inferInstanceAs (Decidable (stream.phase = .reading ∧ stream.buffer = []))
  | .proceed _ | .respond _ | .lapse | .hangUp | .interfere _ => inferInstanceAs (Decidable True)

variable {codec settings peer listener} {stream next : TcpStream Packet Message} {packet : Packet}

def smooth : Choice Packet := ⟨.allow,none,⟨.v4 0,0⟩,true,"",.ok []⟩

theorem smooth_smooth : Smooth (smooth : Choice Packet) := ⟨rfl,rfl,rfl,rfl⟩

theorem canForward_now (stepped : proceed codec settings peer listener stream smooth = some next)
    (ended : next.forwarded = stream.forwarded ++ [packet] ∨ next.dismissed = stream.dismissed ++ [packet]) :
    CanForward codec settings peer listener stream packet := by
  refine ⟨[smooth],next,fun choice member => ?_,Machine.run_cons.mpr ⟨next,stepped,rfl⟩,ended⟩
  rw [List.mem_singleton.mp member]
  exact smooth_smooth

theorem canForward_later (stepped : proceed codec settings peer listener stream smooth = some next)
    (sameForwarded : next.forwarded = stream.forwarded) (sameDismissed : next.dismissed = stream.dismissed)
    (later : CanForward codec settings peer listener next packet) : CanForward codec settings peer listener stream packet := by
  obtain ⟨choices,reached,fair,ran,ended⟩ := later
  refine ⟨smooth :: choices,reached,fun choice member => ?_,Machine.run_cons.mpr ⟨next,stepped,ran⟩,?_⟩
  · rcases List.mem_cons.mp member with rfl | inRest
    · exact smooth_smooth
    · exact fair choice inRest
  · rw [← sameForwarded,← sameDismissed]
    exact ended

theorem preparing_forwards (task : Task Packet (Prepared Message)) (at_ : stream.phase = .preparing packet method task) :
    CanForward codec settings peer listener stream packet := by
  obtain ⟨phase,buffer,responses,world,forwarded,dismissed⟩ := stream
  cases at_
  induction task generalizing world with
  | done prepared => exact canForward_later rfl rfl rfl (canForward_now rfl (.inl rfl))
  | fail error => exact canForward_now rfl (.inr rfl)
  | call op rest ih => exact canForward_later rfl rfl rfl (ih _ _)

theorem admitting_forwards (task : Task Packet (Option (Message × Method))) (at_ : stream.phase = .admitting packet task) :
    CanForward codec settings peer listener stream packet := by
  obtain ⟨phase,buffer,responses,world,forwarded,dismissed⟩ := stream
  cases at_
  induction task generalizing world with
  | done admitted =>
      cases admitted with
      | none => exact canForward_now rfl (.inr rfl)
      | some pair => exact canForward_later rfl rfl rfl (preparing_forwards _ rfl)
  | fail error => exact canForward_now rfl (.inr rfl)
  | call op rest ih => exact canForward_later rfl rfl rfl (ih _ _)

-- A connection that is reading takes up the first message of its buffer.
theorem reading_forwards (reading : stream.phase = .reading) (first : stream.buffer = packet :: rest) :
    CanForward codec settings peer listener stream packet := by
  obtain ⟨phase,buffer,responses,world,forwarded,dismissed⟩ := stream
  cases reading
  cases first
  exact canForward_later rfl rfl rfl (admitting_forwards _ rfl)

-- Where it waits for a response that has not come, the proxy has no step.
theorem parked_unforwarded (parked : stream.phase = .awaiting held method prepared) (silent : stream.responses = []) (packet : Packet) :
    ¬CanForward codec settings peer listener stream packet := by
  intro given
  rcases given with ⟨choices,reached,_,ran,ended⟩
  cases choices with
  | nil =>
      cases ran
      rcases ended with more | more
      · simpa using congrArg List.length more
      · simpa using congrArg List.length more
  | cons choice rest =>
      obtain ⟨next,stepped,_⟩ := Machine.run_cons.mp ran
      simp only [advance,proceed,parked,silent] at stepped
      cases stepped

def Solo (stream : TcpStream Packet Message) : Prop :=
  stream.buffer = [] ∨ (stream.phase = .reading ∧ ∃ packet, stream.buffer = [packet])

theorem proceed_buffer (stepped : proceed codec settings peer listener stream choice = some next) :
    (∃ packet, stream.buffer = packet :: next.buffer) ∨ (stream.phase ≠ .reading ∧ next.buffer = stream.buffer) := by
  obtain ⟨phase,buffer,responses,world,forwarded,dismissed⟩ := stream
  cases phase with
  | reading =>
      cases buffer with
      | nil => cases stepped
      | cons packet rest => cases stepped; exact .inl ⟨packet,rfl⟩
  | admitting packet task =>
      rcases task with admitted | _ | _
      · cases admitted <;> cases stepped <;> exact .inr ⟨nofun,rfl⟩
      · cases stepped; exact .inr ⟨nofun,rfl⟩
      · cases stepped; exact .inr ⟨nofun,rfl⟩
  | preparing packet method task => cases task <;> cases stepped <;> exact .inr ⟨nofun,rfl⟩
  | sending packet method prepared =>
      simp only [proceed] at stepped
      split at stepped <;> cases stepped <;> exact .inr ⟨nofun,rfl⟩
  | recording packet method prepared task => cases task <;> cases stepped <;> exact .inr ⟨nofun,rfl⟩
  | awaiting packet method prepared =>
      cases responses with
      | nil => cases stepped
      | cons response rest => cases stepped; exact .inr ⟨nofun,rfl⟩
  | relaying packet method prepared task => cases task <;> cases stepped <;> exact .inr ⟨nofun,rfl⟩
  | rejecting task => cases task <;> cases stepped <;> exact .inr ⟨nofun,rfl⟩
  | closed => cases stepped

theorem step_solo {action : Action Packet} (solo : Solo stream) (inTurn : InTurn stream action)
    (stepped : advance codec settings peer listener stream action = some next) : Solo next := by
  cases action with
  | arrive packet =>
      cases stepped
      exact .inr ⟨inTurn.1,packet,by simp [inTurn.2]⟩
  | proceed choice =>
      rcases proceed_buffer stepped with ⟨packet,taken⟩ | ⟨busy,same⟩
      · rcases solo with empty | ⟨_,other,single⟩
        · cases empty.symm.trans taken
        · exact .inl (List.cons.inj (taken.symm.trans single)).2
      · rcases solo with empty | ⟨reading,_⟩
        · exact .inl (same.trans empty)
        · exact (busy reading).elim
  | respond packet =>
      simp only [advance] at stepped
      split at stepped
      · cases stepped; exact solo
      · cases stepped
  | lapse =>
      simp only [advance] at stepped
      split at stepped
      · rename_i waiting _
        cases stepped
        rcases solo with empty | ⟨reading,_⟩
        · exact .inl empty
        · cases waiting.symm.trans reading
      · cases stepped
  | hangUp =>
      simp only [advance] at stepped
      split at stepped
      · rename_i empty
        cases stepped
        exact .inl empty
      · cases stepped
  | interfere world => cases stepped; exact solo

def streamListener : ProxyListenerConfig := ⟨"0.0.0.0:5060",.tcp,"default"⟩

def advanceEnvelope : TcpStream Envelope Envelope → Action Envelope → Option (TcpStream Envelope Envelope) :=
  advance envelopeCodec plainSettings clientAddr streamListener

def proceeding (count : Nat) : List (Action Envelope) :=
  List.replicate count (.proceed ⟨.allow,none,upstreamAddr,true,"10.0.0.9:5060",.ok []⟩)

def fresh : TcpStream Envelope Envelope := accept Envelope Envelope (World.new Envelope plainSettings.affinity)

-- The CANCEL comes while the INVITE rings.
def cancelling : List (Action Envelope) := .arrive (request .invite) :: proceeding 12 ++ [.arrive (request .cancel)]

def hangingUp : List (Action Envelope) :=
  .arrive (request .invite) :: proceeding 12 ++ .respond (answer .invite 200 "OK") :: proceeding 4 ++ [.arrive (request .bye)]

end TcpStream
end Stream
end Sigproxy.Proxy
