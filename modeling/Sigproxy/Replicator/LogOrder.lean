import Sigproxy.Library.InOrder
import Sigproxy.Replicator.Provenance

namespace Sigproxy.Replicator
open Library Cluster Affinity Persistence Database

variable {s next : Leader} {db final : Database} {batch : List Message} {tickets : List Ticket}

-- Commands on their way to the contacts table, or already there, in that order.
def Leader.sent (s : Leader) : List Ticket :=
  s.origins.filterMap id ++ (s.batch ++ s.channel).flatMap Message.tickets

def outcomes (tickets : List Ticket) : Table String ContactBinding :=
  Table.replay ∅ (tickets.map fun ticket => ticket.command.write)

def eventCommand : HaEventPayload → Option ClusterCommand
  | .registerContact binding => some (.registerContact binding)
  | .unregisterContact aor => some (.unregisterContact aor)
  | _ => none

def replayLog (events : List HaEventRecord) : SharedState :=
  (events.filterMap fun event => eventCommand event.payload).foldl SharedState.apply .empty

def tableContact (db : Database) (aor : String) : Option ContactBinding :=
  (db.contacts.lookup aor).map fun row => ⟨aor,row.contact,row.source,row.expiresAtEpochMs⟩

-- Log, contacts table and memory tell the same.
structure Agrees (s : Leader) : Prop where
  log : ∀ aor, (replayLog s.db.haEvents).contacts.lookup aor = s.state.contacts.lookup aor
  table : ∀ aor, tableContact s.db aor = s.state.contacts.lookup aor

-- Every call has returned and the background writer has nothing left.
structure Quiescent (s : Leader) : Prop where
  calls : ∀ call ∈ s.calls, call.phase = .returned ∨ call.phase = .failed
  batch : s.batch = []
  channel : s.channel = []

-- No call on the same address of record that is ahead in `first` still has to
-- reach `second`.
def Leader.inTurn (s : Leader) (first second : List Ticket) (call : Nat) : Bool :=
  s.calls[call]?.all fun held =>
    (first.takeWhile fun ticket => decide (ticket ≠ ⟨call,held.command⟩)).all fun ticket =>
      !decide (ticket.command.aor = held.command.aor) || decide (ticket ∈ second)

-- Calls on one address of record take their second effect in the order of their
-- first; no batch is lost and no snapshot prunes memory.
def orderly (s : Leader) : Action → Bool
  | .enqueue call => s.inTurn s.applied s.sent call
  | .apply call => s.mode ≠ .required || s.inTurn s.sent s.applied call
  | .batchFails => false
  | .readContacts _ => false
  | _ => true

theorem replayLog_contacts (commands : List ClusterCommand) (state : SharedState) :
    (commands.foldl SharedState.apply state).contacts = state.contacts.replay (commands.map ClusterCommand.write) := by
  induction commands generalizing state with
  | nil => rfl
  | cons command rest ih => rw [List.foldl_cons,ih,SharedState.apply_contacts]; rfl

theorem eventCommand_payload (command : ClusterCommand) : eventCommand (commandPayload command) = some command := by
  cases command <;> rfl

theorem logged_commands (logged : Logged s) :
    (s.db.haEvents.filterMap fun event => eventCommand event.payload) =
      (s.origins.filterMap id).map Ticket.command := by
  have labels := logged.labels
  generalize s.db.haEvents = events at labels
  generalize s.origins = origins at labels
  induction labels with
  | nil => rfl
  | @cons event origin events origins label _ ih =>
      cases origin with
      | none =>
          obtain ⟨binding,payload⟩ := label
          rw [List.filterMap_cons_none (by rw [payload]; rfl),List.filterMap_cons_none rfl,ih]
      | some ticket =>
          have command : eventCommand event.payload = some ticket.command := by
            rw [show event.payload = commandPayload ticket.command from label,eventCommand_payload]
          simp only [List.filterMap_cons,command,id_eq,List.map_cons,ih]

theorem replayLog_lookup (logged : Logged s) (aor : String) :
    (replayLog s.db.haEvents).contacts.lookup aor = (outcomes (s.origins.filterMap id)).lookup aor := by
  unfold replayLog outcomes
  rw [replayLog_contacts,logged_commands logged,List.map_map]
  rfl

theorem writeCommand_contact (db : Database) (seq : Option Nat) (command : ClusterCommand) (aor : String) :
    tableContact (db.writeCommand seq command) aor =
      if command.write.key = aor then command.write.outcome else tableContact db aor := by
  cases command with
  | registerContact binding =>
      simp only [tableContact,writeCommand,upsertContact,Table.lookup_insert_eq,ClusterCommand.write,Table.Write.key,
        Table.Write.outcome]
      by_cases same : binding.aor = aor
      · subst same; simp
      · have other : ¬ aor = binding.aor := fun equal => same equal.symm
        simp [same,other]
  | unregisterContact removed =>
      simp only [tableContact,writeCommand,deleteContact,Table.lookup_erase_eq,ClusterCommand.write,Table.Write.key,
        Table.Write.outcome]
      by_cases same : removed = aor
      · subst same; simp
      · have other : ¬ aor = removed := fun equal => same equal.symm
        simp [same,other]

-- The contacts table after the commands of `tickets`.
def Holds (db : Database) (tickets : List Ticket) : Prop :=
  ∀ aor, tableContact db aor = (outcomes tickets).lookup aor

theorem command_holds (holds : Holds db tickets) (ticket : Ticket)
    (stored : db.applyClusterCommandInTx clock ticket.command = some (seq,final)) :
    Holds final (tickets ++ [ticket]) := by
  intro aor
  unfold applyClusterCommandInTx at stored
  obtain ⟨⟨inserted,middle⟩,appended,written⟩ := Option.bind_eq_some_iff.mp stored
  obtain ⟨-,-,contacts,-⟩ := appendEvent_appended appended
  cases written
  have same : tableContact middle aor = tableContact db aor := by unfold tableContact; rw [contacts]
  rw [writeCommand_contact,same,holds aor]
  unfold outcomes
  rw [List.map_append,List.map_singleton,Table.replay_snoc,Table.lookup_write]

theorem affinity_holds (holds : Holds db tickets) (stored : db.upsertAffinityBindings clock bindings = some final) :
    Holds final tickets := by
  intro aor
  rw [← holds aor]
  unfold tableContact
  rw [(upsertAffinityBindings_appended stored).2]

theorem batch_holds (holds : Holds db tickets)
    (stored : db.applyBackgroundWrites clock (batch.map Message.persistenceWrite) = some final) :
    Holds final (tickets ++ batch.flatMap Message.tickets) := by
  unfold applyBackgroundWrites at stored
  induction batch generalizing db tickets with
  | nil => cases stored; simpa using holds
  | cons message rest ih =>
      rw [List.map_cons,List.foldlM_cons] at stored
      obtain ⟨middle,first,later⟩ := Option.bind_eq_some_iff.mp stored
      rw [List.flatMap_cons,← List.append_assoc]
      refine ih ?_ later
      cases message with
      | command ticket =>
          obtain ⟨⟨seq,written⟩,applied,rfl⟩ := Option.map_eq_some_iff.mp first
          exact command_holds holds ticket applied
      | affinity bindings =>
          rw [Message.tickets,List.append_nil]
          exact affinity_holds holds first

theorem origins_tickets (message : Message) : message.origins.filterMap id = message.tickets := by
  cases message with
  | command ticket => rfl
  | affinity bindings => simp [Message.origins,Message.tickets]

theorem batch_tickets (batch : List Message) :
    (batch.flatMap Message.origins).filterMap id = batch.flatMap Message.tickets := by
  induction batch with
  | nil => rfl
  | cons message rest ih => rw [List.flatMap_cons,List.flatMap_cons,List.filterMap_append,origins_tickets,ih]

-- The channel serves the background mode only.
def Idle (s : Leader) : Prop := s.mode = .required → s.batch = [] ∧ s.channel = []

theorem sent_persist (idle : Idle s) (required : s.mode = .required) (origins : next.origins = s.origins ++ [some ticket])
    (batch : next.batch = s.batch) (channel : next.channel = s.channel) : next.sent = s.sent ++ [ticket] := by
  obtain ⟨noBatch,noChannel⟩ := idle required
  simp [Leader.sent,origins,batch,channel,noBatch,noChannel]

theorem sent_enqueue (s : Leader) (calls : List Call) (message : Message) :
    Leader.sent {s with calls,channel:=s.channel ++ [message]} = s.sent ++ message.tickets := by
  simp [Leader.sent]

-- Both lines of a call: whether its command has been sent and whether memory has it.
structure Paired (s : Leader) : Prop where
  distinctSent : s.sent.Nodup
  distinctApplied : s.applied.Nodup
  delivered : ∀ ticket ∈ s.sent, s.calls[ticket.call]? = some ⟨ticket.command,.returned⟩ ∨
    ∃ seq, s.calls[ticket.call]? = some ⟨ticket.command,.persisted seq⟩
  returned : ∀ call command, s.calls[call]? = some ⟨command,.returned⟩ →
    ⟨call,command⟩ ∈ s.applied ∧ (s.mode = .absent ∨ ⟨call,command⟩ ∈ s.sent)
  persisted : ∀ call command seq, s.calls[call]? = some ⟨command,.persisted seq⟩ →
    s.mode = .required ∧ ⟨call,command⟩ ∈ s.sent
  sending : ∀ (call : Nat) command, s.calls[call]? = some ⟨command,.applied⟩ → s.mode = .background

theorem unsent (paired : Paired s) (due : s.calls[call]? = some ⟨command,phase⟩)
    (early : phase = .entered ∨ phase = .applied) (ticket : Ticket) (member : ticket ∈ s.sent) : ticket.call ≠ call := by
  intro same
  rcases same with rfl
  rcases early with rfl | rfl <;>
    rcases paired.delivered ticket member with held | ⟨seq,held⟩ <;> rw [held] at due <;> cases due

variable {call : Nat} {command : ClusterCommand} {before after : Phase}

theorem start_paired (mode : PersistenceMode) : Paired (.start mode) := by
  refine ⟨?_,?_,?_,?_,?_,?_⟩ <;> simp [Leader.start,Leader.sent]

-- A change that touches neither line only has to leave the old calls where they were.
theorem paired_frame (paired : Paired s) (mode : next.mode = s.mode) (sent : next.sent = s.sent)
    (applied : next.applied = s.applied)
    (kept : ∀ (call : Nat) held, s.calls[call]? = some held → held.phase ≠ .entered → next.calls[call]? = some held)
    (new : ∀ (call : Nat) held, next.calls[call]? = some held → held.phase ≠ .entered → held.phase ≠ .failed →
      s.calls[call]? = some held) : Paired next := by
  refine ⟨sent ▸ paired.distinctSent,applied ▸ paired.distinctApplied,?_,?_,?_,?_⟩
  · intro ticket member
    rw [sent] at member
    rcases paired.delivered ticket member with held | ⟨seq,held⟩
    · exact .inl (kept _ _ held (by simp))
    · exact .inr ⟨seq,kept _ _ held (by simp)⟩
  · intro call command found
    rw [mode,sent,applied]
    exact paired.returned call command (new _ _ found (by simp) (by simp))
  · intro call command seq found
    rw [mode,sent]
    exact paired.persisted call command seq (new _ _ found (by simp) (by simp))
  · intro call command found
    rw [mode]
    exact paired.sending call command (new _ _ found (by simp) (by simp))

theorem distinct_snoc {tickets : List Ticket} {ticket : Ticket} (distinct : tickets.Nodup)
    (fresh : ∀ held ∈ tickets, held.call ≠ ticket.call) : (tickets ++ [ticket]).Nodup := by
  rw [List.nodup_append]
  refine ⟨distinct,by simp,?_⟩
  intro held member other own same
  rw [same,List.mem_singleton.mp own] at member
  exact fresh _ member rfl

-- One call moves on: what the lines say of the others stands, and the new phase
-- has to be accounted for.
theorem paired_move (paired : Paired s) (due : s.calls[call]? = some ⟨command,before⟩) (mode : next.mode = s.mode)
    (calls : next.calls = s.setPhase call command after) (distinctSent : next.sent.Nodup) (distinctApplied : next.applied.Nodup)
    (sentGrows : ∀ ticket ∈ s.sent, ticket ∈ next.sent) (appliedGrows : ∀ ticket ∈ s.applied, ticket ∈ next.applied)
    (delivered : ∀ ticket ∈ next.sent, ticket ∈ s.sent ∧ ticket.call ≠ call ∨
      ticket = ⟨call,command⟩ ∧ (after = .returned ∨ ∃ seq, after = .persisted seq))
    (returned : after = .returned → ⟨call,command⟩ ∈ next.applied ∧ (s.mode = .absent ∨ ⟨call,command⟩ ∈ next.sent))
    (persisted : ∀ seq, after = .persisted seq → s.mode = .required ∧ ⟨call,command⟩ ∈ next.sent)
    (sending : after = .applied → s.mode = .background) : Paired next := by
  refine ⟨distinctSent,distinctApplied,?_,?_,?_,?_⟩
  · intro ticket member
    rw [calls]
    rcases delivered ticket member with ⟨old,other⟩ | ⟨rfl,moved⟩
    · rw [setPhase_other other]
      exact paired.delivered ticket old
    · rw [setPhase_same due command after]
      rcases moved with rfl | ⟨seq,rfl⟩
      · exact .inl rfl
      · exact .inr ⟨seq,rfl⟩
  · intro other held found
    rw [calls] at found
    rw [mode]
    rcases setPhase_cases due found with ⟨rfl,moved⟩ | old
    · cases moved
      exact returned rfl
    · obtain ⟨landed,known⟩ := paired.returned other held old
      exact ⟨appliedGrows _ landed,known.imp id (sentGrows _)⟩
  · intro other held seq found
    rw [calls] at found
    rw [mode]
    rcases setPhase_cases due found with ⟨rfl,moved⟩ | old
    · cases moved
      exact persisted seq rfl
    · obtain ⟨required,stored⟩ := paired.persisted other held seq old
      exact ⟨required,sentGrows _ stored⟩
  · intro other held found
    rw [calls] at found
    rw [mode]
    rcases setPhase_cases due found with ⟨-,moved⟩ | old
    · cases moved
      exact sending rfl
    · exact paired.sending other held old

-- The send of a call that had not sent before.
theorem send_paired (paired : Paired s) (due : s.calls[call]? = some ⟨command,before⟩)
    (early : before = .entered ∨ before = .applied) (mode : next.mode = s.mode)
    (sent : next.sent = s.sent ++ [⟨call,command⟩]) (applied : next.applied = s.applied)
    (calls : next.calls = s.setPhase call command after) (moved : after = .returned ∨ ∃ seq, after = .persisted seq)
    (returned : after = .returned → ⟨call,command⟩ ∈ s.applied) (required : ∀ seq, after = .persisted seq → s.mode = .required) :
    Paired next := by
  have fresh := unsent paired due early
  have own : ⟨call,command⟩ ∈ next.sent := by simp [sent]
  refine paired_move paired due mode calls (sent ▸ distinct_snoc paired.distinctSent fresh) (applied ▸ paired.distinctApplied)
    ?_ (fun ticket member => applied ▸ member) ?_ ?_ (fun seq persisted => ⟨required seq persisted,own⟩) ?_
  · intro ticket member
    rw [sent]
    exact List.mem_append_left _ member
  · intro ticket member
    rw [sent] at member
    rcases List.mem_append.mp member with old | new
    · exact .inl ⟨old,fresh ticket old⟩
    · exact .inr ⟨List.mem_singleton.mp new,moved⟩
  · intro back
    rw [applied]
    exact ⟨returned back,.inr own⟩
  · intro same
    rcases same with rfl
    rcases moved with impossible | ⟨seq,impossible⟩ <;> cases impossible

theorem apply_paired (traced : Traced s) (paired : Paired s) (due : s.calls[call]? = some ⟨command,before⟩)
    (moves : Leader.afterApply s.mode before = some after) (mode : next.mode = s.mode) (sent : next.sent = s.sent)
    (applied : next.applied = s.applied ++ [⟨call,command⟩])
    (calls : next.calls = s.setPhase call command after) : Paired next := by
  have fresh : ∀ ticket ∈ s.applied, ticket.call ≠ call := fun ticket member => unapplied traced due moves member
  refine paired_move paired due mode calls (sent ▸ paired.distinctSent) (applied ▸ distinct_snoc paired.distinctApplied fresh)
    (fun ticket member => sent ▸ member) ?_ ?_ ?_ ?_ ?_
  · intro ticket member
    rw [applied]
    exact List.mem_append_left _ member
  · intro ticket member
    rw [sent] at member
    by_cases same : ticket.call = call
    · subst same
      -- Only a call of the required mode has sent before it applies.
      obtain ⟨rfl,rfl⟩ : ticket.command = command ∧ after = .returned := by
        rcases paired.delivered ticket member with held | ⟨seq,held⟩ <;> rw [held] at due <;> cases due
        · cases mode : s.mode <;> rw [mode] at moves <;> cases moves
        · cases mode : s.mode <;> rw [mode] at moves <;> cases moves
          exact ⟨rfl,rfl⟩
      exact .inr ⟨rfl,.inl rfl⟩
    · exact .inl ⟨member,same⟩
  · intro back
    rw [applied,sent]
    refine ⟨by simp,?_⟩
    obtain ⟨-,⟨seq,rfl⟩,-⟩ | ⟨-,-,rfl⟩ | ⟨absent,-,-⟩ := afterApply_cases moves
    · exact .inr (paired.persisted call command seq due).2
    · cases back
    · exact .inl absent
  · intro seq same
    rcases same with rfl
    obtain ⟨-,-,impossible⟩ | ⟨-,-,impossible⟩ | ⟨-,-,impossible⟩ := afterApply_cases moves <;> cases impossible
  · intro same
    rcases same with rfl
    obtain ⟨-,-,impossible⟩ | ⟨background,-,-⟩ | ⟨-,-,impossible⟩ := afterApply_cases moves
    · cases impossible
    · exact background
    · cases impossible

theorem step_idle (paired : Paired s) (idle : Idle s) (step : Step s action next) : Idle next := by
  intro required
  cases step with
  | enqueue due =>
      rw [paired.sending _ _ due] at required
      cases required
  | enqueueAffinity mode =>
      rw [mode] at required
      cases required
  | collect empty =>
      obtain ⟨-,channel⟩ := idle required
      simp [channel]
  | commitBatch stored => exact ⟨rfl,(idle required).2⟩
  | batchFails => exact ⟨rfl,(idle required).2⟩
  | _ => exact idle required

theorem sent_collect (empty : s.batch = []) (n : Nat) :
    Leader.sent {s with batch:=s.channel.take n,channel:=s.channel.drop n} = s.sent := by
  simp [Leader.sent,empty]

theorem sent_commit (s : Leader) (db : Database) :
    Leader.sent {s with db,batch:=[],origins:=s.origins ++ s.batch.flatMap Message.origins} = s.sent := by
  unfold Leader.sent
  rw [List.filterMap_append,batch_tickets,List.nil_append,List.flatMap_append,List.append_assoc]

theorem sent_affinity (s : Leader) (db : Database) (bindings : List AffinityBindingSnapshot) :
    Leader.sent {s with db,origins:=s.origins ++ (Message.affinity bindings).origins} = s.sent := by
  unfold Leader.sent
  rw [List.filterMap_append,origins_tickets,Message.tickets,List.append_nil]

theorem step_paired (traced : Traced s) (paired : Paired s) (idle : Idle s) (orderly : orderly s action = true)
    (step : Step s action next) : Paired next := by
  cases step with
  | submit =>
      refine paired_frame paired rfl rfl rfl ?_ ?_
      · exact fun call held found _ => getElem?_grow found _
      · exact fun call held found moved _ => getElem?_submit found moved
  | persist mode waiting stored =>
      exact send_paired paired waiting (.inl rfl) rfl (sent_persist idle mode rfl rfl rfl) rfl rfl (.inr ⟨_,rfl⟩)
        (fun impossible => nomatch impossible) (fun _ _ => mode)
  | persistFails mode waiting =>
      refine paired_frame paired rfl rfl rfl ?_ ?_
      · intro call held found moved
        exact setPhase_keeps waiting _ _ found fun same => moved (by rw [same])
      · exact fun call held found _ alive => setPhase_old waiting found alive
  | apply due moves => exact apply_paired traced paired due moves rfl rfl rfl rfl
  | enqueue due =>
      exact send_paired paired due (.inr rfl) rfl (sent_enqueue s _ _) rfl rfl (.inl rfl)
        (fun _ => traced.sending _ _ due) (fun _ impossible => nomatch impossible)
  | enqueueAffinity mode =>
      refine paired_frame paired rfl ?_ rfl (fun _ _ found _ => found) fun _ _ found _ _ => found
      rw [sent_enqueue]
      simp [Message.tickets]
  | persistAffinity mode stored =>
      exact paired_frame paired rfl (sent_affinity s _ _) rfl (fun _ _ found _ => found) fun _ _ found _ _ => found
  | collect empty =>
      exact paired_frame paired rfl (sent_collect empty _) rfl (fun _ _ found _ => found) fun _ _ found _ _ => found
  | commitBatch stored =>
      exact paired_frame paired rfl (sent_commit s _) rfl (fun _ _ found _ => found) fun _ _ found _ _ => found
  | batchFails => cases orderly
  | _ => exact paired_frame paired rfl rfl rfl (fun _ _ found _ => found) fun _ _ found _ _ => found

def onAor (aor : String) (ticket : Ticket) : Bool := decide (ticket.command.aor = aor)

-- Per address of record one line follows the other.
structure Ordered (s : Leader) : Prop where
  background : s.mode = .background → ∀ aor, s.sent.filter (onAor aor) <+: s.applied.filter (onAor aor)
  required : s.mode = .required → ∀ aor, s.applied.filter (onAor aor) <+: s.sent.filter (onAor aor)

theorem start_ordered (mode : PersistenceMode) : Ordered (.start mode) := by
  refine ⟨?_,?_⟩ <;> simp [Leader.start,Leader.sent]

theorem inTurn_exact (due : s.calls[call]? = some ⟨command,phase⟩) :
    s.inTurn first second call = true ↔
      ∀ ticket ∈ first.takeWhile fun ticket => decide (ticket ≠ ⟨call,command⟩),
        ticket.command.aor = command.aor → ticket ∈ second := by
  simp [Leader.inTurn,due,imp_iff_not_or]

-- The call that takes its second effect is the next of its address of record.
theorem served_next {first second : List Ticket} (distinct : first.Nodup) (due : s.calls[call]? = some ⟨command,phase⟩)
    (waiting : Ticket.mk call command ∈ first) (fresh : Ticket.mk call command ∉ second)
    (turn : s.inTurn first second call = true) (aor : String)
    (ordered : second.filter (onAor aor) <+: first.filter (onAor aor)) :
    (second ++ [Ticket.mk call command]).filter (onAor aor) <+: first.filter (onAor aor) := by
  by_cases own : command.aor = aor
  · apply inOrder_snoc distinct ordered waiting fresh
    intro other member kept
    apply (inTurn_exact due).mp turn other member
    rw [own]
    exact of_decide_eq_true kept
  · rw [List.filter_append]
    simpa [onAor,own] using ordered

theorem ordered_frame (inOrder : Ordered s) (mode : next.mode = s.mode) (sent : next.sent = s.sent)
    (applied : next.applied = s.applied) : Ordered next := by
  refine ⟨?_,?_⟩ <;> rw [mode,sent,applied]
  · exact inOrder.background
  · exact inOrder.required

theorem persist_ordered (inOrder : Ordered s) (required : s.mode = .required) (mode : next.mode = s.mode)
    (sent : next.sent = s.sent ++ [ticket]) (applied : next.applied = s.applied) : Ordered next := by
  refine ⟨?_,?_⟩ <;> rw [mode,sent,applied]
  · intro background
    rw [required] at background
    cases background
  · intro _ aor
    rw [List.filter_append]
    exact (inOrder.required required aor).trans (List.prefix_append _ _)

theorem apply_ordered (traced : Traced s) (paired : Paired s) (inOrder : Ordered s)
    (due : s.calls[call]? = some ⟨command,before⟩) (moves : Leader.afterApply s.mode before = some after)
    (turn : s.mode = .required → s.inTurn s.sent s.applied call = true) (mode : next.mode = s.mode)
    (sent : next.sent = s.sent) (applied : next.applied = s.applied ++ [⟨call,command⟩]) : Ordered next := by
  refine ⟨?_,?_⟩ <;> rw [mode,sent,applied]
  · intro background aor
    rw [List.filter_append]
    exact (inOrder.background background aor).trans (List.prefix_append _ _)
  · intro required aor
    have stored : Ticket.mk call command ∈ s.sent := by
      obtain ⟨-,⟨seq,rfl⟩,-⟩ | ⟨other,-⟩ | ⟨other,-⟩ := afterApply_cases moves
      · exact (paired.persisted call command seq due).2
      · rw [required] at other; cases other
      · rw [required] at other; cases other
    have fresh : Ticket.mk call command ∉ s.applied := fun member => unapplied traced due moves member rfl
    exact served_next paired.distinctSent due stored fresh (turn required) aor (inOrder.required required aor)

theorem enqueue_ordered (traced : Traced s) (paired : Paired s) (inOrder : Ordered s)
    (due : s.calls[call]? = some ⟨command,.applied⟩) (turn : s.inTurn s.applied s.sent call = true)
    (mode : next.mode = s.mode) (sent : next.sent = s.sent ++ [⟨call,command⟩]) (applied : next.applied = s.applied) :
    Ordered next := by
  have background := paired.sending call command due
  refine ⟨?_,?_⟩ <;> rw [mode,sent,applied]
  · intro _ aor
    have fresh : Ticket.mk call command ∉ s.sent := fun member => unsent paired due (.inr rfl) _ member rfl
    exact served_next paired.distinctApplied due (traced.sending call command due) fresh turn aor
      (inOrder.background background aor)
  · intro required
    rw [background] at required
    cases required

theorem step_ordered (traced : Traced s) (paired : Paired s) (idle : Idle s) (inOrder : Ordered s)
    (orderly : orderly s action = true) (step : Step s action next) : Ordered next := by
  cases step with
  | persist mode waiting stored =>
      exact persist_ordered inOrder mode rfl (sent_persist idle mode rfl rfl rfl) rfl
  | apply due moves =>
      refine apply_ordered traced paired inOrder due moves (fun required => ?_) rfl rfl rfl
      simpa [Replicator.orderly,required] using orderly
  | enqueue due => exact enqueue_ordered traced paired inOrder due orderly rfl (sent_enqueue s _ _) rfl
  | enqueueAffinity mode =>
      refine ordered_frame inOrder rfl ?_ rfl
      rw [sent_enqueue]
      simp [Message.tickets]
  | persistAffinity mode stored => exact ordered_frame inOrder rfl (sent_affinity s _ _) rfl
  | collect empty => exact ordered_frame inOrder rfl (sent_collect empty _) rfl
  | commitBatch stored => exact ordered_frame inOrder rfl (sent_commit s _) rfl
  | batchFails => cases orderly
  | _ => exact ⟨inOrder.background,inOrder.required⟩

-- Memory and the contacts table are what their own lines left.
structure Settled (s : Leader) : Prop where
  memory : s.state.contacts = outcomes s.applied
  table : Holds s.db (s.origins.filterMap id)

theorem start_settled (mode : PersistenceMode) : Settled (.start mode) := ⟨rfl,fun _ => rfl⟩

theorem step_settled (settled : Settled s) (orderly : orderly s action = true) (step : Step s action next) :
    Settled next := by
  cases step with
  | @persist call seq db _ clock command mode waiting stored =>
      refine ⟨settled.memory,?_⟩
      rw [List.filterMap_append]
      exact command_holds settled.table ⟨call,command⟩ stored
  | apply due moves =>
      refine ⟨?_,settled.table⟩
      rw [SharedState.apply_contacts,settled.memory]
      unfold outcomes
      rw [List.map_append,List.map_singleton,Table.replay_snoc]
  | persistAffinity mode stored =>
      refine ⟨settled.memory,?_⟩
      rw [List.filterMap_append,origins_tickets,Message.tickets,List.append_nil]
      exact affinity_holds settled.table stored
  | commitBatch stored =>
      refine ⟨settled.memory,?_⟩
      rw [List.filterMap_append,batch_tickets]
      exact batch_holds settled.table stored
  | readContacts due => cases orderly
  | _ => exact ⟨settled.memory,settled.table⟩

structure Orderly (s : Leader) : Prop where
  logged : Logged s
  traced : Traced s
  paired : Paired s
  idle : Idle s
  ordered : Ordered s
  settled : Settled s

theorem run_orderly (within : Machine.Within Leader.advance (fun s action => orderly s action = true) (.start mode) actions)
    (ran : (Leader.start mode).run actions = some s) : Orderly s := by
  refine Machine.run_preserves_within Orderly ?_ within
    ⟨start_logged mode,start_traced mode,start_paired mode,fun _ => ⟨rfl,rfl⟩,start_ordered mode,start_settled mode⟩ ran
  intro s action next admitted before advanced
  have step := advance_sound advanced
  exact ⟨step_logged before.logged step,step_traced before.logged before.traced step,
    step_paired before.traced before.paired before.idle admitted step,step_idle before.paired before.idle step,
    step_ordered before.traced before.paired before.idle before.ordered admitted step,
    step_settled before.settled admitted step⟩

theorem outcomes_aor (tickets : List Ticket) (aor : String) :
    (outcomes (tickets.filter (onAor aor))).lookup aor = (outcomes tickets).lookup aor := by
  unfold outcomes
  rw [← Table.lookup_replay_filter ∅ (tickets.map fun ticket => ticket.command.write),List.filter_map]
  congr 3
  apply List.filter_congr
  intro ticket _
  simp [onAor]

theorem lines_agree (state : Orderly s) (persistent : s.mode ≠ .absent) (quiet : Quiescent s) (aor : String) :
    s.sent.filter (onAor aor) = s.applied.filter (onAor aor) := by
  cases mode : s.mode with
  | absent => exact absurd mode persistent
  | background =>
      apply inOrder_done state.paired.distinctApplied (state.ordered.background mode aor)
      intro ticket member
      rcases state.traced.landed ticket member with held | held
      · rcases quiet.calls _ (List.mem_of_getElem? held) with stuck | stuck <;> cases stuck
      · exact (state.paired.returned ticket.call ticket.command held).2.resolve_left persistent
  | required =>
      refine (inOrder_done state.paired.distinctSent (state.ordered.required mode aor) fun ticket member => ?_).symm
      rcases state.paired.delivered ticket member with held | ⟨seq,held⟩
      · exact (state.paired.returned ticket.call ticket.command held).1
      · rcases quiet.calls _ (List.mem_of_getElem? held) with stuck | stuck <;> cases stuck

theorem step_mode (step : Step s action next) : next.mode = s.mode := by
  cases step <;> rfl

theorem run_mode (ran : s.run actions = some next) : next.mode = s.mode :=
  Machine.run_preserves (fun final => final.mode = s.mode)
    (fun _ _ _ same advanced => (step_mode (advance_sound advanced)).trans same) rfl ran

theorem log_agrees (persistent : mode ≠ .absent)
    (within : Machine.Within Leader.advance (fun s action => orderly s action = true) (.start mode) actions)
    (ran : (Leader.start mode).run actions = some s) (quiet : Quiescent s) : Agrees s := by
  have state := run_orderly within ran
  have drained : s.sent = s.origins.filterMap id := by simp [Leader.sent,quiet.batch,quiet.channel]
  have same : ∀ aor, (outcomes (s.origins.filterMap id)).lookup aor = s.state.contacts.lookup aor := by
    intro aor
    have lines := lines_agree state (run_mode ran ▸ persistent) quiet aor
    rw [state.settled.memory,← outcomes_aor,← drained,lines,outcomes_aor]
  refine ⟨fun aor => ?_,fun aor => ?_⟩
  · rw [replayLog_lookup state.logged,same]
  · rw [state.settled.table aor,same]

def contactOfBob (contact : String) : ClusterCommand :=
  .registerContact ⟨"sip:bob@example.com",contact,"10.0.0.1:5060",1000⟩

-- Two registrations of one user: memory takes A then B, the channel B then A.
def overtaken : List Action :=
  [.submit (contactOfBob "A"),.submit (contactOfBob "B"),.apply 0,.apply 1,.enqueue 1,.enqueue 0,.collect,
    .commitBatch id]

def queuedInTurn : List Action :=
  [.submit (contactOfBob "A"),.submit (contactOfBob "B"),.apply 0,.apply 1,.enqueue 0,.enqueue 1,.collect,
    .commitBatch id]

theorem log_agrees_in_turn :
    ∃ s, (Leader.start .background).run queuedInTurn = some s ∧ Quiescent s ∧ Agrees s := by
  have reached : ∃ s, (Leader.start .background).run queuedInTurn = some s ∧
      (∀ call ∈ s.calls, call.phase = .returned ∨ call.phase = .failed) ∧ s.batch = [] ∧ s.channel = [] :=
    ⟨_,rfl,by decide,rfl,rfl⟩
  obtain ⟨s,ran,calls,batch,channel⟩ := reached
  have quiet : Quiescent s := ⟨calls,batch,channel⟩
  exact ⟨s,ran,quiet,log_agrees (by decide) (by decide) ran quiet⟩

theorem overtaken_log_disagrees :
    ∃ s, (Leader.start .background).run overtaken = some s ∧ Quiescent s ∧
      (s.state.contacts.lookup "sip:bob@example.com").map ContactBinding.contact = some "B" ∧
      ((replayLog s.db.haEvents).contacts.lookup "sip:bob@example.com").map ContactBinding.contact = some "A" ∧
      (tableContact s.db "sip:bob@example.com").map ContactBinding.contact = some "A" ∧ ¬ Agrees s := by
  have reached : ∃ s, (Leader.start .background).run overtaken = some s ∧
      (∀ call ∈ s.calls, call.phase = .returned ∨ call.phase = .failed) ∧ s.batch = [] ∧ s.channel = [] ∧
      (s.state.contacts.lookup "sip:bob@example.com").map ContactBinding.contact = some "B" ∧
      ((replayLog s.db.haEvents).contacts.lookup "sip:bob@example.com").map ContactBinding.contact = some "A" ∧
      (tableContact s.db "sip:bob@example.com").map ContactBinding.contact = some "A" :=
    ⟨_,rfl,by decide,rfl,rfl,by decide,by decide,by decide⟩
  obtain ⟨s,ran,calls,batch,channel,memory,log,table⟩ := reached
  refine ⟨s,ran,⟨calls,batch,channel⟩,memory,log,table,fun agrees => ?_⟩
  rw [agrees.log,memory] at log
  revert log
  decide

end Sigproxy.Replicator
