import Sigproxy.Library.Machine
import Sigproxy.Persistence

namespace Sigproxy.Replicator
open Library Cluster Affinity Persistence Database

-- Whether the replicator has a persistence, and whether it is a required one.
inductive PersistenceMode where
  | absent
  | background
  | required
  deriving DecidableEq, Repr

-- Where a submit call stands. A required command is on disk before it is in
-- memory; otherwise memory comes first and the channel send second.
inductive Phase where
  | entered
  | persisted (seq : Nat)
  | applied
  | returned
  | failed
  deriving DecidableEq, Repr

structure Call where
  command : ClusterCommand
  phase : Phase
  deriving DecidableEq, Repr

-- A command with the number of the call that submitted it.
structure Ticket where
  call : Nat
  command : ClusterCommand
  deriving DecidableEq, Repr

-- A PersistenceWrite on the channel, labelled with its call.
inductive Message where
  | command (ticket : Ticket)
  | affinity (bindings : List AffinityBindingSnapshot)
  deriving DecidableEq, Repr

namespace Message

def persistenceWrite : Message → PersistenceWrite
  | .command ticket => .clusterCommand ticket.command
  | .affinity bindings => .affinityBindings bindings

def tickets : Message → List Ticket
  | .command ticket => [ticket]
  | .affinity _ => []

-- The call behind each event that the message appends to the log.
def origins : Message → List (Option Ticket)
  | .command ticket => [some ticket]
  | .affinity bindings => bindings.map fun _ => none

end Message

-- A snapshot_state call between its two reads, and the snapshot it returned.
inductive Snapshot where
  | sequenceRead (lastSeq : Nat)
  | taken (lastSeq readAt : Nat) (contacts : ContactStateSnapshot) (applied : List Ticket)

-- `origins` and `applied` are history: who stands behind each event of the log,
-- and the order in which commands reached memory.
structure Leader where
  mode : PersistenceMode
  now : Nat
  state : SharedState
  db : Database
  channel : List Message
  batch : List Message
  calls : List Call
  snapshots : List Snapshot
  origins : List (Option Ticket)
  applied : List Ticket

inductive Action where
  | tick (elapsed : Nat)
  | submit (command : ClusterCommand)
  | persist (call : Nat) (clock : Nat → Nat)
  | persistFails (call : Nat)
  | apply (call : Nat)
  | enqueue (call : Nat)
  | upsertAffinity (bindings : List AffinityBindingSnapshot) (clock : Nat → Nat)
  | collect
  | commitBatch (clock : Nat → Nat)
  | batchFails
  | readSequence (fails : Bool)
  | readContacts (snapshot : Nat)

namespace Leader

def start (mode : PersistenceMode) : Leader := ⟨mode,0,.empty,migrate,[],[],[],[],[],[]⟩

def setPhase (s : Leader) (call : Nat) (command : ClusterCommand) (phase : Phase) : List Call :=
  s.calls.set call ⟨command,phase⟩

-- What a call does after its memory effect; none where that effect is not due.
def afterApply : PersistenceMode → Phase → Option Phase
  | .required,.persisted _ => some .returned
  | .background,.entered => some .applied
  | .absent,.entered => some .returned
  | _,_ => none

-- The writer task takes what the channel holds, 1024 messages at most.
def batchLimit : Nat := 1024

def latestEventSeq (s : Leader) (fails : Bool) : Nat :=
  if s.mode = .absent ∨ fails then 0 else s.db.latestEventSeq

def advance (s : Leader) : Action → Option Leader
  | .tick elapsed => some {s with now:=s.now + elapsed}
  | .submit command => some {s with calls:=s.calls ++ [⟨command,.entered⟩]}
  | .persist call clock =>
    match s.mode,s.calls[call]? with
    | .required,some ⟨command,.entered⟩ =>
      (s.db.applyClusterCommandInTx clock command).map fun (seq,db) =>
        {s with db,calls:=s.setPhase call command (.persisted seq),origins:=s.origins ++ [some ⟨call,command⟩]}
    | _,_ => none
  | .persistFails call =>
    match s.mode,s.calls[call]? with
    | .required,some ⟨command,.entered⟩ => some {s with calls:=s.setPhase call command .failed}
    | _,_ => none
  | .apply call =>
    s.calls[call]?.bind fun ⟨command,phase⟩ =>
      (afterApply s.mode phase).map fun phase =>
        {s with
          state:=s.state.apply command
          calls:=s.setPhase call command phase
          applied:=s.applied ++ [⟨call,command⟩]}
  | .enqueue call =>
    match s.calls[call]? with
    | some ⟨command,.applied⟩ =>
      some {s with calls:=s.setPhase call command .returned,channel:=s.channel ++ [.command ⟨call,command⟩]}
    | _ => none
  | .upsertAffinity bindings clock =>
    match s.mode with
    | .absent => none
    | .background =>
      if bindings.isEmpty then some s else some {s with channel:=s.channel ++ [.affinity bindings]}
    | .required =>
      (s.db.upsertAffinityBindings clock bindings).map fun db =>
        {s with db,origins:=s.origins ++ (Message.affinity bindings).origins}
  | .collect =>
    if s.batch.isEmpty ∧ ¬ s.channel.isEmpty then
      some {s with batch:=s.channel.take batchLimit,channel:=s.channel.drop batchLimit}
    else none
  | .commitBatch clock =>
    if s.batch.isEmpty then none
    else (s.db.applyBackgroundWrites clock (s.batch.map Message.persistenceWrite)).map fun db =>
      {s with db,batch:=[],origins:=s.origins ++ s.batch.flatMap Message.origins}
  | .batchFails => if s.batch.isEmpty then none else some {s with batch:=[]}
  | .readSequence fails => some {s with snapshots:=s.snapshots ++ [.sequenceRead (s.latestEventSeq fails)]}
  | .readContacts snapshot =>
    match s.snapshots[snapshot]? with
    | some (.sequenceRead lastSeq) =>
      let (contacts,state) := s.state.snapshot s.now
      some {s with state,snapshots:=s.snapshots.set snapshot (.taken lastSeq s.now contacts s.applied)}
    | _ => none

def run (s : Leader) (actions : List Action) : Option Leader := Machine.run advance s actions

end Leader

inductive Step : Leader → Action → Leader → Prop where
  | tick : Step s (.tick elapsed) {s with now:=s.now + elapsed}
  | submit : Step s (.submit command) {s with calls:=s.calls ++ [⟨command,.entered⟩]}
  | persist (mode : s.mode = .required) (waiting : s.calls[call]? = some ⟨command,.entered⟩)
      (stored : s.db.applyClusterCommandInTx clock command = some (seq,db)) :
      Step s (.persist call clock)
        {s with db,calls:=s.setPhase call command (.persisted seq),origins:=s.origins ++ [some ⟨call,command⟩]}
  | persistFails (mode : s.mode = .required) (waiting : s.calls[call]? = some ⟨command,.entered⟩) :
      Step s (.persistFails call) {s with calls:=s.setPhase call command .failed}
  | apply (due : s.calls[call]? = some ⟨command,before⟩) (moves : Leader.afterApply s.mode before = some after) :
      Step s (.apply call)
        {s with
          state:=s.state.apply command
          calls:=s.setPhase call command after
          applied:=s.applied ++ [⟨call,command⟩]}
  | enqueue (due : s.calls[call]? = some ⟨command,.applied⟩) :
      Step s (.enqueue call)
        {s with calls:=s.setPhase call command .returned,channel:=s.channel ++ [.command ⟨call,command⟩]}
  | noAffinity (mode : s.mode = .background) : Step s (.upsertAffinity [] clock) s
  | enqueueAffinity (mode : s.mode = .background) :
      Step s (.upsertAffinity bindings clock) {s with channel:=s.channel ++ [.affinity bindings]}
  | persistAffinity (mode : s.mode = .required) (stored : s.db.upsertAffinityBindings clock bindings = some db) :
      Step s (.upsertAffinity bindings clock)
        {s with db,origins:=s.origins ++ (Message.affinity bindings).origins}
  | collect (idle : s.batch = []) :
      Step s .collect {s with batch:=s.channel.take Leader.batchLimit,channel:=s.channel.drop Leader.batchLimit}
  | commitBatch (stored : s.db.applyBackgroundWrites clock (s.batch.map Message.persistenceWrite) = some db) :
      Step s (.commitBatch clock) {s with db,batch:=[],origins:=s.origins ++ s.batch.flatMap Message.origins}
  | batchFails : Step s .batchFails {s with batch:=[]}
  | readSequence :
      Step s (.readSequence fails) {s with snapshots:=s.snapshots ++ [.sequenceRead (s.latestEventSeq fails)]}
  | readContacts (due : s.snapshots[snapshot]? = some (.sequenceRead lastSeq)) :
      Step s (.readContacts snapshot)
        {s with
          state:=(s.state.snapshot s.now).2
          snapshots:=s.snapshots.set snapshot (.taken lastSeq s.now (s.state.snapshot s.now).1 s.applied)}

theorem advance_sound (advanced : s.advance action = some next) : Step s action next := by
  cases action with
  | tick elapsed => cases advanced; exact .tick
  | submit command => cases advanced; exact .submit
  | persist call clock =>
      simp only [Leader.advance] at advanced
      split at advanced
      next command mode waiting =>
        obtain ⟨⟨seq,db⟩,stored,rfl⟩ := Option.map_eq_some_iff.mp advanced
        exact .persist mode waiting stored
      next => cases advanced
  | persistFails call =>
      simp only [Leader.advance] at advanced
      split at advanced
      next command mode waiting => cases advanced; exact .persistFails mode waiting
      next => cases advanced
  | apply call =>
      obtain ⟨⟨command,before⟩,due,moved⟩ := Option.bind_eq_some_iff.mp advanced
      obtain ⟨after,moves,rfl⟩ := Option.map_eq_some_iff.mp moved
      exact .apply due moves
  | enqueue call =>
      simp only [Leader.advance] at advanced
      split at advanced
      next command due => cases advanced; exact .enqueue due
      next => cases advanced
  | upsertAffinity bindings clock =>
      simp only [Leader.advance] at advanced
      split at advanced
      next => cases advanced
      next mode =>
        split at advanced
        next empty =>
          cases advanced
          rw [List.isEmpty_iff.mp empty]
          exact .noAffinity mode
        next => cases advanced; exact .enqueueAffinity mode
      next mode =>
        obtain ⟨db,stored,rfl⟩ := Option.map_eq_some_iff.mp advanced
        exact .persistAffinity mode stored
  | collect =>
      simp only [Leader.advance] at advanced
      split at advanced
      next ready => cases advanced; exact .collect (List.isEmpty_iff.mp ready.1)
      next => cases advanced
  | commitBatch clock =>
      simp only [Leader.advance] at advanced
      split at advanced
      next => cases advanced
      next =>
        obtain ⟨db,stored,rfl⟩ := Option.map_eq_some_iff.mp advanced
        exact .commitBatch stored
  | batchFails =>
      simp only [Leader.advance] at advanced
      split at advanced
      next => cases advanced
      next => cases advanced; exact .batchFails
  | readSequence fails => cases advanced; exact .readSequence
  | readContacts snapshot =>
      simp only [Leader.advance] at advanced
      split at advanced
      next lastSeq due => cases advanced; exact .readContacts due
      next => cases advanced

end Sigproxy.Replicator
