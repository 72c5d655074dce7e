import Sigproxy.Library.Machine
import Sigproxy.Proxy.ResponseRouting

namespace Sigproxy.Proxy
open Library Net

variable {Packet Message : Type}

def tcpBranchTtl : Nat := 300000

-- The sender of a route is the number of its channel.
structure TcpBranchRoute where
  tx : Nat
  method : Method
  recordRouteAddrs : List String
  deriving DecidableEq, Repr

-- One connection to an upstream, with what has been sent on each channel that
-- send_request has made, and whether the reader is still at it.
structure TcpUpstreamConnection (Packet : Type) where
  now : Nat
  alive : Bool
  reading : Bool
  branches : Table String (Stamped TcpBranchRoute)
  channels : List (List Packet)

namespace TcpUpstreamConnection

def connect (Packet : Type) : TcpUpstreamConnection Packet := ⟨0,true,true,∅,[]⟩

-- send_request holds the lock twice: before it writes, and where the write fails.
inductive Action (Packet : Type) where
  | elapse (duration : Nat)
  | register (branch : String) (method : Method) (recordRouteAddrs : List String)
  | writeFails (branch : String)
  | dispatch (packet : Packet)
  | endOfStream

def pruneTcpBranches (now : Nat) : Table String (Stamped TcpBranchRoute) → Table String (Stamped TcpBranchRoute) :=
  Expiring.prune tcpBranchTtl now

def relayed (codec : Codec Packet Message) (method : Method) (recordRouteAddrs : List String) (message : Message) :
    Except String Packet := do
  let message ← ensureDialogRecordRoutes codec method recordRouteAddrs message
  match ← codec.popTopVia message with
  | (none,_) => .error "upstream TCP response is missing Via"
  | (some _,message) => return codec.toBytes message

-- The errors of dispatch_tcp_upstream_response are logged by the reader.
def dispatchTcpUpstreamResponse (codec : Codec Packet Message) (connection : TcpUpstreamConnection Packet) (packet : Packet) :
    TcpUpstreamConnection Packet :=
  match codec.parse packet with
  | .error _ => connection
  | .ok message =>
    match codec.topViaBranch message with
    | .error _ | .ok none => connection
    | .ok (some branch) =>
      if startsWith branch proxyBranchPrefix then
        let branches := pruneTcpBranches connection.now connection.branches
        match branches.lookup branch with
        | none => {connection with branches:=branches}
        | some route =>
          let left := if isFinal codec message then branches.erase branch else branches
          match relayed codec route.content.method route.content.recordRouteAddrs message with
          | .error _ => {connection with branches:=left}
          | .ok response =>
            {connection with branches:=left,channels:=connection.channels.modify route.content.tx (· ++ [response])}
      else connection

def advance (codec : Codec Packet Message) (connection : TcpUpstreamConnection Packet) :
    Action Packet → Option (TcpUpstreamConnection Packet)
  | .elapse duration => some {connection with now:=connection.now + duration}
  | .register branch method recordRouteAddrs =>
    if connection.alive then
      let route : Stamped TcpBranchRoute := ⟨⟨connection.channels.length,method,recordRouteAddrs⟩,connection.now⟩
      some {connection with
        branches:=(pruneTcpBranches connection.now connection.branches).insert branch route
        channels:=connection.channels ++ [[]]}
    else none
  | .writeFails branch => some {connection with branches:=connection.branches.erase branch,alive:=false}
  | .dispatch packet => if connection.reading then some (dispatchTcpUpstreamResponse codec connection packet) else none
  | .endOfStream => some {connection with branches:=∅,alive:=false,reading:=false}

variable {codec : Codec Packet Message} {connection next : TcpUpstreamConnection Packet}

-- The branch that a packet answers, as far as the reader goes by it.
def answers (codec : Codec Packet Message) (packet : Packet) : Option (Message × String) := do
  let message ← (codec.parse packet).toOption
  let branch ← (codec.topViaBranch message).toOption.join
  if startsWith branch proxyBranchPrefix then some (message,branch) else none

def afterRelay (codec : Codec Packet Message) (connection : TcpUpstreamConnection Packet) (branch : String) (route : TcpBranchRoute)
    (message : Message) : TcpUpstreamConnection Packet where
  now := connection.now
  alive := connection.alive
  reading := connection.reading
  branches :=
    let branches := pruneTcpBranches connection.now connection.branches
    if isFinal codec message then branches.erase branch else branches
  channels :=
    match relayed codec route.method route.recordRouteAddrs message with
    | .error _ => connection.channels
    | .ok response => connection.channels.modify route.tx (· ++ [response])

-- What a dispatched packet does, once the branch it answers is known.
inductive Dispatched (codec : Codec Packet Message) (connection : TcpUpstreamConnection Packet) (packet : Packet) :
    TcpUpstreamConnection Packet → Prop where
  | ignored : answers codec packet = none → Dispatched codec connection packet connection
  | unmatched : answers codec packet = some (message,branch) →
      (pruneTcpBranches connection.now connection.branches).lookup branch = none →
      Dispatched codec connection packet {connection with branches:=pruneTcpBranches connection.now connection.branches}
  | matched : answers codec packet = some (message,branch) →
      (pruneTcpBranches connection.now connection.branches).lookup branch = some route →
      Dispatched codec connection packet (afterRelay codec connection branch route.content message)

theorem dispatch_exact (codec : Codec Packet Message) (connection : TcpUpstreamConnection Packet) (packet : Packet) :
    Dispatched codec connection packet (dispatchTcpUpstreamResponse codec connection packet) := by
  unfold dispatchTcpUpstreamResponse
  cases parsed : codec.parse packet with
  | error error => exact .ignored (by simp [answers,parsed,Except.toOption])
  | ok message =>
      dsimp only
      cases named : codec.topViaBranch message with
      | error error => exact .ignored (by simp [answers,parsed,named,Except.toOption])
      | ok found =>
          cases found with
          | none => exact .ignored (by simp [answers,parsed,named,Except.toOption])
          | some branch =>
              dsimp only
              split
              · rename_i ours
                have answering : answers codec packet = some (message,branch) := by
                  simp [answers,parsed,named,ours,Except.toOption]
                split
                · rename_i missing
                  exact .unmatched answering missing
                · rename_i route held
                  have matched := Dispatched.matched answering held
                  unfold afterRelay at matched
                  split
                  · rename_i error failed
                    rw [failed] at matched
                    exact matched
                  · rename_i response made
                    rw [made] at matched
                    exact matched
              · rename_i foreign
                exact .ignored (by simp [answers,parsed,named,foreign,Except.toOption])

theorem dispatched_frame (dispatched : Dispatched codec connection packet next) :
    next.now = connection.now ∧ next.reading = connection.reading ∧ next.channels.length = connection.channels.length := by
  cases dispatched with
  | ignored _ => exact ⟨rfl,rfl,rfl⟩
  | unmatched _ _ => exact ⟨rfl,rfl,rfl⟩
  | matched _ _ =>
      refine ⟨rfl,rfl,?_⟩
      unfold afterRelay
      dsimp only
      split <;> simp

theorem advance_dispatch (stepped : advance codec connection (.dispatch packet) = some next) :
    connection.reading = true ∧ Dispatched codec connection packet next := by
  simp only [advance] at stepped
  split at stepped
  · rename_i reading
    cases stepped
    exact ⟨reading,dispatch_exact codec connection packet⟩
  · cases stepped

theorem advance_register (stepped : advance codec connection (.register branch method addrs) = some next) :
    next = {connection with
      branches:=(pruneTcpBranches connection.now connection.branches).insert branch
        ⟨⟨connection.channels.length,method,addrs⟩,connection.now⟩
      channels:=connection.channels ++ [[]]} := by
  simp only [advance] at stepped
  split at stepped
  · exact (Option.some.inj stepped).symm
  · cases stepped

-- Time goes on, channels are only added, and a reader that has ended stays so.
theorem step_onward {action : Action Packet} (stepped : advance codec connection action = some next) :
    connection.now ≤ next.now ∧ (next.reading = true → connection.reading = true) ∧
      connection.channels.length ≤ next.channels.length := by
  cases action with
  | elapse duration => cases stepped; exact ⟨Nat.le_add_right _ _,id,Nat.le_refl _⟩
  | register branch method addrs =>
      cases advance_register stepped
      exact ⟨Nat.le_refl _,id,by simp⟩
  | writeFails branch => cases stepped; exact ⟨Nat.le_refl _,id,Nat.le_refl _⟩
  | dispatch packet =>
      obtain ⟨sameNow,sameReading,sameLength⟩ := dispatched_frame (advance_dispatch stepped).2
      exact ⟨Nat.le_of_eq sameNow.symm,fun reading => sameReading ▸ reading,Nat.le_of_eq sameLength.symm⟩
  | endOfStream => cases stepped; exact ⟨Nat.le_refl _,fun reading => (nomatch reading),Nat.le_refl _⟩

theorem run_onward {actions : List (Action Packet)} (ran : Machine.run (advance codec) connection actions = some next) :
    connection.now ≤ next.now ∧ (next.reading = true → connection.reading = true) ∧
      connection.channels.length ≤ next.channels.length := by
  refine Machine.run_preserves (fun later => connection.now ≤ later.now ∧ (later.reading = true → connection.reading = true) ∧
    connection.channels.length ≤ later.channels.length) ?_ ⟨Nat.le_refl _,id,Nat.le_refl _⟩ ran
  intro middle action final held stepped
  obtain ⟨later,read,longer⟩ := step_onward stepped
  exact ⟨Nat.le_trans held.1 later,fun reading => held.2.1 (read reading),Nat.le_trans held.2.2 longer⟩

section Transactions
variable (codec) (cseqMethod : Message → Option Method)

-- The CSeq of a response, which the connection never reads, tells the transactions
-- of a branch apart.
def Finishes (branch : String) (method : Method) : Action Packet → Prop
  | .dispatch packet => ∃ message, answers codec packet = some (message,branch) ∧ isFinal codec message = true ∧
    cseqMethod message = some method
  | _ => False

-- Another request takes the branch over, or another request's final response
-- takes it away.
def Disturbs (branch : String) (method : Method) : Action Packet → Prop
  | .register other .. | .writeFails other => other = branch
  | .dispatch packet => ∃ message, answers codec packet = some (message,branch) ∧ isFinal codec message = true ∧
    cseqMethod message ≠ some method
  | _ => False

end Transactions

variable {cseqMethod : Message → Option Method} {branch : String} {method : Method} {route : Stamped TcpBranchRoute}

theorem pruned_lookup (held : connection.branches.lookup branch = some route) (fresh : route.fresh tcpBranchTtl connection.now = true) :
    (pruneTcpBranches connection.now connection.branches).lookup branch = some route := by
  rw [pruneTcpBranches,Expiring.prune,Table.lookup_retain,held,Option.filter_some,if_pos fresh]

theorem step_kept {action : Action Packet} (held : connection.branches.lookup branch = some route)
    (fresh : route.fresh tcpBranchTtl connection.now = true) (undisturbed : ¬Disturbs codec cseqMethod branch method action)
    (unfinished : ¬Finishes codec cseqMethod branch method action) (reading : next.reading = true)
    (stepped : advance codec connection action = some next) : next.branches.lookup branch = some route := by
  have pruned := pruned_lookup held fresh
  cases action with
  | elapse duration => cases stepped; exact held
  | register other method addrs =>
      cases advance_register stepped
      rw [Table.lookup_insert_eq,if_neg fun same => undisturbed same.symm]
      exact pruned
  | writeFails other =>
      cases stepped
      rw [Table.lookup_erase_eq,if_neg fun same => undisturbed same.symm]
      exact held
  | dispatch packet =>
      cases (advance_dispatch stepped).2 with
      | ignored _ => exact held
      | unmatched _ _ => exact pruned
      | matched answering found =>
          rename_i message other route
          simp only [afterRelay]
          split
          · rename_i final
            have elsewhere : branch ≠ other := by
              intro same
              rcases same with rfl
              by_cases mine : cseqMethod message = some method
              · exact unfinished ⟨message,answering,final,mine⟩
              · exact undisturbed ⟨message,answering,final,mine⟩
            rw [Table.lookup_erase_eq,if_neg elsewhere]
            exact pruned
          · exact pruned
  | endOfStream => cases stepped; cases reading

theorem run_kept {actions : List (Action Packet)} (held : connection.branches.lookup branch = some route)
    (ran : Machine.run (advance codec) connection actions = some next) (fresh : route.fresh tcpBranchTtl next.now = true)
    (reading : next.reading = true) (undisturbed : ∀ action ∈ actions, ¬Disturbs codec cseqMethod branch method action)
    (unfinished : ∀ action ∈ actions, ¬Finishes codec cseqMethod branch method action) :
    next.branches.lookup branch = some route := by
  induction actions generalizing connection with
  | nil => cases ran; exact held
  | cons action rest ih =>
      obtain ⟨middle,stepped,later⟩ := Machine.run_cons.mp ran
      obtain ⟨onward,read,_⟩ := run_onward later
      have kept := step_kept held (Stamped.fresh_earlier (Nat.le_trans (step_onward stepped).1 onward) fresh)
        (undisturbed action (by simp)) (unfinished action (by simp)) (read reading) stepped
      exact ih kept later (fun other member => undisturbed other (List.mem_cons_of_mem _ member))
        fun other member => unfinished other (List.mem_cons_of_mem _ member)

variable {channel : Nat}

-- No route but that of the branch sends on the channel.
structure Sole (channel : Nat) (branch : String) (connection : TcpUpstreamConnection Packet) : Prop where
  made : channel < connection.channels.length
  sole : ∀ other route, connection.branches.lookup other = some route → route.content.tx = channel → other = branch

structure Gone (channel : Nat) (connection : TcpUpstreamConnection Packet) : Prop where
  made : channel < connection.channels.length
  gone : ∀ other route, connection.branches.lookup other = some route → route.content.tx ≠ channel

-- A route that a step leaves was there before, or its channel is new.
theorem step_routes {action : Action Packet} (stepped : advance codec connection action = some next)
    (found : next.branches.lookup other = some route) :
    connection.branches.lookup other = some route ∨
      (route.content.tx = connection.channels.length ∧ connection.channels.length < next.channels.length) := by
  have pruned {found : Stamped TcpBranchRoute} (held : (pruneTcpBranches connection.now connection.branches).lookup other = some found) :
      connection.branches.lookup other = some found := by
    rw [pruneTcpBranches,Expiring.prune,Table.lookup_retain] at held
    exact (Option.filter_eq_some_iff.mp held).1
  have erased {table : Table String (Stamped TcpBranchRoute)} {gone : String} (held : (table.erase gone).lookup other = some route) :
      table.lookup other = some route := by
    rw [Table.lookup_erase_eq] at held
    split at held
    · cases held
    · exact held
  cases action with
  | elapse duration => cases stepped; exact .inl found
  | register branch method addrs =>
      cases advance_register stepped
      rw [Table.lookup_insert_eq] at found
      split at found
      · cases found; exact .inr ⟨rfl,by simp⟩
      · exact .inl (pruned found)
  | writeFails branch => cases stepped; exact .inl (erased found)
  | dispatch packet =>
      cases (advance_dispatch stepped).2 with
      | ignored _ => exact .inl found
      | unmatched _ _ => exact .inl (pruned found)
      | matched _ _ =>
          simp only [afterRelay] at found
          split at found
          · exact .inl (pruned (erased found))
          · exact .inl (pruned found)
  | endOfStream => cases stepped; cases found

theorem step_sole {action : Action Packet} (sole : Sole channel branch connection)
    (stepped : advance codec connection action = some next) : Sole channel branch next where
  made := Nat.lt_of_lt_of_le sole.made (step_onward stepped).2.2
  sole other route found same := by
    rcases step_routes stepped found with earlier | ⟨fresh,_⟩
    · exact sole.sole other route earlier same
    · exact absurd sole.made (by rw [← same,fresh]; exact Nat.lt_irrefl _)

theorem step_gone {action : Action Packet} (gone : Gone channel connection)
    (stepped : advance codec connection action = some next) : Gone channel next where
  made := Nat.lt_of_lt_of_le gone.made (step_onward stepped).2.2
  gone other route found same := by
    rcases step_routes stepped found with earlier | ⟨fresh,_⟩
    · exact gone.gone other route earlier same
    · exact absurd gone.made (by rw [← same,fresh]; exact Nat.lt_irrefl _)

-- Whoever disturbs the branch takes the channel's only sender.
theorem disturbed_gone {action : Action Packet} (sole : Sole channel branch connection)
    (disturbs : Disturbs codec cseqMethod branch method action) (stepped : advance codec connection action = some next) :
    Gone channel next := by
  have after := step_sole sole stepped
  refine ⟨after.made,fun other route found same => ?_⟩
  cases after.sole other route found same
  cases action with
  | elapse duration => exact disturbs
  | register taken method addrs =>
      cases (show taken = branch from disturbs)
      cases advance_register stepped
      rw [Table.lookup_insert_eq,if_pos rfl] at found
      cases found
      exact absurd sole.made (by rw [← same]; exact Nat.lt_irrefl _)
  | writeFails taken =>
      cases (show taken = branch from disturbs)
      cases stepped
      rw [Table.lookup_erase_eq,if_pos rfl] at found
      cases found
  | dispatch packet =>
      obtain ⟨message,answering,final,_⟩ := disturbs
      cases (advance_dispatch stepped).2 with
      | ignored unnamed => cases unnamed.symm.trans answering
      | unmatched named missing =>
          cases named.symm.trans answering
          cases missing.symm.trans found
      | matched named held =>
          cases named.symm.trans answering
          simp only [afterRelay,if_pos final] at found
          rw [Table.lookup_erase_eq,if_pos rfl] at found
          cases found
  | endOfStream => exact disturbs

theorem run_gone {actions : List (Action Packet)} (sole : Sole channel branch connection)
    (ran : Machine.run (advance codec) connection actions = some next)
    (disturbed : ∃ action ∈ actions, Disturbs codec cseqMethod branch method action) : Gone channel next := by
  induction actions generalizing connection with
  | nil => obtain ⟨_,member,_⟩ := disturbed; cases member
  | cons action rest ih =>
      obtain ⟨middle,stepped,later⟩ := Machine.run_cons.mp ran
      obtain ⟨other,member,disturbs⟩ := disturbed
      rcases List.mem_cons.mp member with rfl | inRest
      · exact Machine.run_preserves (Gone channel) (fun _ _ _ gone stepped => step_gone gone stepped)
          (disturbed_gone sole disturbs stepped) later
      · exact ih (step_sole sole stepped) later ⟨other,inRest,disturbs⟩

theorem gone_undelivered (gone : Gone channel connection) (dispatched : Dispatched codec connection packet next) :
    next.channels[channel]? = connection.channels[channel]? := by
  cases dispatched with
  | ignored _ => rfl
  | unmatched _ _ => rfl
  | matched answering found =>
      rename_i message other route
      have elsewhere : route.content.tx ≠ channel := by
        rw [pruneTcpBranches,Expiring.prune,Table.lookup_retain] at found
        exact gone.gone _ _ (Option.filter_eq_some_iff.mp found).1
      unfold afterRelay
      dsimp only
      split
      · rfl
      · exact List.getElem?_modify_ne _ _ elsewhere

theorem run_numbered (ran : Machine.run (advance codec) (connect Packet) actions = some connection) :
    ∀ other route, connection.branches.lookup other = some route → route.content.tx < connection.channels.length := by
  refine Machine.run_preserves (fun connection : TcpUpstreamConnection Packet => ∀ other route,
    connection.branches.lookup other = some route → route.content.tx < connection.channels.length) ?_ ?_ ran
  · intro connection action next numbered stepped other route found
    rcases step_routes stepped found with earlier | ⟨fresh,longer⟩
    · exact Nat.lt_of_lt_of_le (numbered other route earlier) (step_onward stepped).2.2
    · rw [fresh]; exact longer
  · intro other route found
    cases found

-- The receiver that send_request returned still has a sender.
def Connected (channel : Nat) (connection : TcpUpstreamConnection Packet) : Prop :=
  ∃ other route, connection.branches.lookup other = some route ∧ route.content.tx = channel

def Delivered (channel : Nat) (response : Packet) (before after : TcpUpstreamConnection Packet) : Prop :=
  after.channels[channel]? = before.channels[channel]?.map (· ++ [response])

theorem registered_sole (numbered : ∀ other route, connection.branches.lookup other = some route →
    route.content.tx < connection.channels.length) (registered : advance codec connection (.register branch method addrs) = some next) :
    Sole connection.channels.length branch next := by
  refine ⟨by cases advance_register registered; simp,fun other route found same => ?_⟩
  cases advance_register registered
  rw [Table.lookup_insert_eq] at found
  split at found
  · assumption
  · rw [pruneTcpBranches,Expiring.prune,Table.lookup_retain] at found
    have earlier := numbered other route (Option.filter_eq_some_iff.mp found).1
    rw [same] at earlier
    exact absurd earlier (Nat.lt_irrefl _)

theorem response_reaches_receiver {opened registered waiting answered : TcpUpstreamConnection Packet}
    (ran : Machine.run (advance codec) (connect Packet) before = some opened)
    (registering : advance codec opened (.register branch method addrs) = some registered)
    (waited : Machine.run (advance codec) registered between = some waiting)
    (unfinished : ∀ action ∈ between, ¬Finishes codec cseqMethod branch method action)
    (inTime : waiting.now - opened.now ≤ tcpBranchTtl) (named : answers codec packet = some (message,branch))
    (made : relayed codec method addrs message = .ok response)
    (dispatched : advance codec waiting (.dispatch packet) = some answered) :
    (Connected opened.channels.length waiting ↔ ∀ action ∈ between, ¬Disturbs codec cseqMethod branch method action) ∧
      (Delivered opened.channels.length response waiting answered ↔
        ∀ action ∈ between, ¬Disturbs codec cseqMethod branch method action) := by
  have sole := registered_sole (run_numbered ran) registering
  obtain ⟨reading,dispatching⟩ := advance_dispatch dispatched
  have kept (undisturbed : ∀ action ∈ between, ¬Disturbs codec cseqMethod branch method action) :
      waiting.branches.lookup branch = some ⟨⟨opened.channels.length,method,addrs⟩,opened.now⟩ := by
    refine run_kept ?_ waited (decide_eq_true inTime) reading undisturbed unfinished
    cases advance_register registering
    rw [Table.lookup_insert_eq,if_pos rfl]
  have gone (disturbed : ¬∀ action ∈ between, ¬Disturbs codec cseqMethod branch method action) :
      Gone opened.channels.length waiting := by
    simp only [not_forall,not_not] at disturbed
    obtain ⟨action,member,disturbs⟩ := disturbed
    exact run_gone sole waited ⟨action,member,disturbs⟩
  refine ⟨⟨fun connected => ?_,fun undisturbed => ⟨branch,_,kept undisturbed,rfl⟩⟩,fun delivered => ?_,fun undisturbed => ?_⟩
  · by_contra disturbed
    obtain ⟨other,route,found,same⟩ := connected
    exact (gone disturbed).gone other route found same
  · by_contra disturbed
    have unchanged := gone_undelivered (gone disturbed) dispatching
    have inside := (gone disturbed).made
    rw [Delivered,unchanged,List.getElem?_eq_getElem inside] at delivered
    have lengths := congrArg List.length (Option.some.inj delivered)
    simp at lengths
  · have held := kept undisturbed
    have pruned := pruned_lookup held (decide_eq_true inTime)
    cases dispatching with
    | ignored unnamed => cases unnamed.symm.trans named
    | unmatched otherwise missing =>
        cases otherwise.symm.trans named
        cases missing.symm.trans pruned
    | matched otherwise found =>
        cases otherwise.symm.trans named
        cases found.symm.trans pruned
        simp [Delivered,afterRelay,made]

def envelopeCseq (message : Envelope) : Option Method := some message.cseq.2

def terminated : Envelope := answer .invite 487 "Request Terminated"

theorem cancel_takes_receiver : ∃ registered waiting answered response,
    advance envelopeCodec (connect Envelope) (.register (proxyBranch 1) .invite []) = some registered ∧
    advance envelopeCodec registered (.register (proxyBranch 1) .cancel []) = some waiting ∧
    waiting.now - (connect Envelope).now ≤ tcpBranchTtl ∧
    answers envelopeCodec terminated = some (terminated,proxyBranch 1) ∧ envelopeCseq terminated = some .invite ∧
    relayed envelopeCodec .invite [] terminated = .ok response ∧
    advance envelopeCodec waiting (.dispatch terminated) = some answered ∧ ¬Connected 0 waiting ∧
    ¬Delivered 0 response waiting answered ∧ Delivered 1 response waiting answered := by
  have reached : ∃ registered waiting answered response,
      advance envelopeCodec (connect Envelope) (.register (proxyBranch 1) .invite []) = some registered ∧
      advance envelopeCodec registered (.register (proxyBranch 1) .cancel []) = some waiting ∧
      waiting.now - (connect Envelope).now ≤ tcpBranchTtl ∧ relayed envelopeCodec .invite [] terminated = .ok response ∧
      advance envelopeCodec waiting (.dispatch terminated) = some answered ∧
      waiting.channels = [[],[]] ∧ answered.channels = [[],[response]] :=
    ⟨_,_,_,_,rfl,rfl,by decide,rfl,rfl,rfl,rfl⟩
  obtain ⟨registered,waiting,answered,response,inviting,cancelling,inTime,made,dispatched,before,after⟩ := reached
  have sole : Sole 0 (proxyBranch 1) registered := registered_sole (fun _ _ found => by cases found) inviting
  have disturbs : Disturbs envelopeCodec envelopeCseq (proxyBranch 1) .invite (.register (proxyBranch 1) .cancel []) := rfl
  have gone := disturbed_gone sole disturbs cancelling
  refine ⟨registered,waiting,answered,response,inviting,cancelling,inTime,rfl,rfl,made,dispatched,?_,?_,?_⟩
  · intro given
    rcases given with ⟨other,route,found,same⟩
    exact gone.gone other route found same
  · intro delivered
    rw [Delivered,before,after] at delivered
    cases delivered
  · rw [Delivered,before,after]
    rfl

theorem sole_request_reaches_receiver : ∃ registered waiting answered response,
    advance envelopeCodec (connect Envelope) (.register (proxyBranch 1) .invite []) = some registered ∧
    Machine.run (advance envelopeCodec) registered [.dispatch (answer .invite 180 "Ringing"),.elapse 20000] = some waiting ∧
    advance envelopeCodec waiting (.dispatch terminated) = some answered ∧ Connected 0 waiting ∧
    Delivered 0 response waiting answered := by
  have reached : ∃ registered waiting answered response,
      advance envelopeCodec (connect Envelope) (.register (proxyBranch 1) .invite []) = some registered ∧
      Machine.run (advance envelopeCodec) registered [.dispatch (answer .invite 180 "Ringing"),.elapse 20000] = some waiting ∧
      waiting.now - (connect Envelope).now ≤ tcpBranchTtl ∧ relayed envelopeCodec .invite [] terminated = .ok response ∧
      advance envelopeCodec waiting (.dispatch terminated) = some answered :=
    ⟨_,_,_,_,rfl,rfl,by decide,rfl,rfl⟩
  obtain ⟨registered,waiting,answered,response,inviting,waited,inTime,made,dispatched⟩ := reached
  have provisional {message : Envelope} (named : answers envelopeCodec (answer .invite 180 "Ringing") = some (message,proxyBranch 1)) :
      isFinal envelopeCodec message = false := by
    cases named
    rfl
  have unfinal {action : Action Envelope} (member : action ∈ [.dispatch (answer .invite 180 "Ringing"),.elapse 20000]) :
      ¬Finishes envelopeCodec envelopeCseq (proxyBranch 1) .invite action ∧
        ¬Disturbs envelopeCodec envelopeCseq (proxyBranch 1) .invite action := by
    rcases List.mem_cons.mp member with rfl | later
    · constructor
      · intro given
        rcases given with ⟨_,named,final,_⟩
        cases (provisional named).symm.trans final
      · intro given
        rcases given with ⟨_,named,final,_⟩
        cases (provisional named).symm.trans final
    · cases List.mem_singleton.mp later
      exact ⟨id,id⟩
  have started : Machine.run (advance envelopeCodec) (connect Envelope) [] = some (connect Envelope) := rfl
  obtain ⟨connected,delivered⟩ := response_reaches_receiver started inviting waited (fun _ member => (unfinal member).1) inTime rfl
    made dispatched
  exact ⟨registered,waiting,answered,response,inviting,waited,dispatched,connected.mpr fun _ member => (unfinal member).2,
    delivered.mpr fun _ member => (unfinal member).2⟩

end TcpUpstreamConnection
end Sigproxy.Proxy
