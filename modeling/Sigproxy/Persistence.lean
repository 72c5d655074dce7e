import Mathlib.Data.Char
import Mathlib.Data.List.Lex
import Sigproxy.Cluster
import Sigproxy.Affinity

namespace Sigproxy.Persistence
open Library Cluster Affinity Net

inductive HaEventPayload where
  | registerContact (binding : ContactBinding)
  | unregisterContact (aor : String)
  | upsertAffinity (binding : AffinityBindingSnapshot)
  | removeAffinity (key : AffinityKey)
  deriving DecidableEq, Repr

structure HaEventRecord where
  seq : Nat
  payload : HaEventPayload
  createdAtEpochMs : Nat
  deriving DecidableEq, Repr

structure HaEventsResponse where
  baseSeq : Nat
  latestSeq : Nat
  snapshotRequired : Bool
  events : List HaEventRecord
  deriving DecidableEq, Repr

structure ContactRow where
  contact : String
  source : String
  expiresAtEpochMs : Nat
  updatedSeq : Option Nat
  deriving DecidableEq, Repr

structure AffinityRow where
  target : AffinityTarget
  expiresAtEpochMs : Nat
  updatedSeq : Option Nat
  deriving DecidableEq, Repr

-- The node's SQLite file. `sequence` is the AUTOINCREMENT counter of ha_events,
-- which outlives the rows; the rows stand in the order of their primary key.
structure Database where
  contacts : Table String ContactRow
  affinity : Table AffinityKey AffinityRow
  haEvents : List HaEventRecord
  sequence : Nat
  lastAppliedSeq : Option Nat

namespace Database

def migrate : Database := ⟨∅,∅,[],0,none⟩

-- SQLite refuses an insert past the largest rowid.
def maxRowid : Nat := 2 ^ 63 - 1

-- `clock` gives what the insertion of each row reads from the wall clock.
def appendEvent (db : Database) (clock : Nat → Nat) (payload : HaEventPayload) : Option (Nat × Database) :=
  if db.sequence < maxRowid then
    let seq := db.sequence + 1
    some (seq,{db with haEvents:=db.haEvents ++ [⟨seq,payload,clock seq⟩],sequence:=seq})
  else none

def upsertContact (db : Database) (binding : ContactBinding) (updatedSeq : Option Nat) : Database :=
  let row := ⟨binding.contact,binding.source,binding.expiresAtEpochMs,updatedSeq⟩
  {db with contacts:=db.contacts.insert binding.aor row}

def deleteContact (db : Database) (aor : String) : Database := {db with contacts:=db.contacts.erase aor}

def upsertAffinityBinding (db : Database) (binding : AffinityBindingSnapshot) (updatedSeq : Option Nat) : Database :=
  {db with affinity:=db.affinity.insert binding.key ⟨binding.target,binding.expiresAtEpochMs,updatedSeq⟩}

def deleteAffinity (db : Database) (key : AffinityKey) : Database := {db with affinity:=db.affinity.erase key}

def commandPayload : ClusterCommand → HaEventPayload
  | .registerContact binding => .registerContact binding
  | .unregisterContact aor => .unregisterContact aor

def writeCommand (db : Database) (seq : Option Nat) : ClusterCommand → Database
  | .registerContact binding => db.upsertContact binding seq
  | .unregisterContact aor => db.deleteContact aor

-- Every caller passes `append = true`.
def applyClusterCommandInTx (db : Database) (clock : Nat → Nat) (command : ClusterCommand) :
    Option (Nat × Database) := do
  let (seq,db) ← db.appendEvent clock (commandPayload command)
  return (seq,db.writeCommand (some seq) command)

def appendAffinityBinding (clock : Nat → Nat) (db : Database) (binding : AffinityBindingSnapshot) :
    Option Database := do
  let (seq,db) ← db.appendEvent clock (.upsertAffinity binding)
  return db.upsertAffinityBinding binding (some seq)

def upsertAffinityBindings (db : Database) (clock : Nat → Nat) (bindings : List AffinityBindingSnapshot) :
    Option Database :=
  bindings.foldlM (appendAffinityBinding clock) db

inductive PersistenceWrite where
  | clusterCommand (command : ClusterCommand)
  | affinityBindings (bindings : List AffinityBindingSnapshot)
  deriving DecidableEq, Repr

def applyBackgroundWrite (clock : Nat → Nat) (db : Database) : PersistenceWrite → Option Database
  | .clusterCommand command => (db.applyClusterCommandInTx clock command).map Prod.snd
  | .affinityBindings bindings => db.upsertAffinityBindings clock bindings

-- One transaction for the whole batch: a failure leaves the file as it was. The
-- required mode commits the same way, one command or one list of bindings at a time.
def applyBackgroundWrites (db : Database) (clock : Nat → Nat) (writes : List PersistenceWrite) :
    Option Database :=
  writes.foldlM (applyBackgroundWrite clock) db

def applyEventWithoutAppend (db : Database) (now : Nat) (event : HaEventRecord) : Database :=
  let db := match event.payload with
    | .registerContact binding =>
      if binding.isExpired now then db else db.upsertContact binding (some event.seq)
    | .unregisterContact aor => db.deleteContact aor
    | .upsertAffinity binding =>
      if now < binding.expiresAtEpochMs then db.upsertAffinityBinding binding (some event.seq) else db
    | .removeAffinity key => db.deleteAffinity key
  {db with lastAppliedSeq:=some event.seq}

def installSnapshot (db : Database) (now lastSeq : Nat) (contacts : ContactStateSnapshot)
    (affinity : AffinityStateSnapshot) : Database :=
  let emptied := {db with contacts:=∅,affinity:=∅}
  let keptContacts := contacts.contacts.filter fun binding => !binding.isExpired now
  let keptAffinity := affinity.bindings.filter fun binding => decide (now < binding.expiresAtEpochMs)
  let withContacts := keptContacts.foldl (fun db binding => db.upsertContact binding none) emptied
  let withAffinity := keptAffinity.foldl (fun db binding => db.upsertAffinityBinding binding none) withContacts
  {withAffinity with lastAppliedSeq:=some lastSeq}

theorem installSnapshot_contacts (db : Database) (now lastSeq : Nat) (contacts : ContactStateSnapshot) (affinity : AffinityStateSnapshot) :
    (db.installSnapshot now lastSeq contacts affinity).contacts =
      Table.collect ((contacts.contacts.filter fun binding => !binding.isExpired now).map fun binding =>
        (binding.aor,⟨binding.contact,binding.source,binding.expiresAtEpochMs,none⟩)) := by
  have affinityKeeps (db : Database) (bindings : List AffinityBindingSnapshot) :
      (bindings.foldl (fun db binding => db.upsertAffinityBinding binding none) db).contacts = db.contacts := by
    induction bindings generalizing db with
    | nil => rfl
    | cons binding rest ih => exact ih (db.upsertAffinityBinding binding none)
  have contactsFill (db : Database) (bindings : List ContactBinding) :
      (bindings.foldl (fun db binding => db.upsertContact binding none) db).contacts =
        bindings.foldl (fun table binding =>
          table.insert binding.aor ⟨binding.contact,binding.source,binding.expiresAtEpochMs,none⟩) db.contacts := by
    induction bindings generalizing db with
    | nil => rfl
    | cons binding rest ih => exact ih (db.upsertContact binding none)
  simp only [installSnapshot,affinityKeeps,contactsFill,Table.collect,List.foldl_map]

theorem installSnapshot_affinity (db : Database) (now lastSeq : Nat) (contacts : ContactStateSnapshot) (affinity : AffinityStateSnapshot) :
    (db.installSnapshot now lastSeq contacts affinity).affinity =
      Table.collect ((affinity.bindings.filter fun binding => decide (now < binding.expiresAtEpochMs)).map fun binding =>
        (binding.key,⟨binding.target,binding.expiresAtEpochMs,none⟩)) := by
  have contactsKeep (db : Database) (bindings : List ContactBinding) :
      (bindings.foldl (fun db binding => db.upsertContact binding none) db).affinity = db.affinity := by
    induction bindings generalizing db with
    | nil => rfl
    | cons binding rest ih => exact ih (db.upsertContact binding none)
  have affinityFills (db : Database) (bindings : List AffinityBindingSnapshot) :
      (bindings.foldl (fun db binding => db.upsertAffinityBinding binding none) db).affinity =
        bindings.foldl (fun table binding => table.insert binding.key ⟨binding.target,binding.expiresAtEpochMs,none⟩) db.affinity := by
    induction bindings generalizing db with
    | nil => rfl
    | cons binding rest ih => exact ih (db.upsertAffinityBinding binding none)
  simp only [installSnapshot,affinityFills,contactsKeep,Table.collect,List.foldl_map]

def contactOf (aor : String) (row : ContactRow) : ContactBinding := ⟨aor,row.contact,row.source,row.expiresAtEpochMs⟩

def loadContacts (db : Database) (now : Nat) : ContactStateSnapshot :=
  ⟨(db.contacts.entries.map fun entry => contactOf entry.1 entry.2).filter fun binding => decide (now < binding.expiresAtEpochMs)⟩

-- The address and the expiry come back from their TEXT columns as they went in.
def loadAffinityRow (key : AffinityKey) (row : AffinityRow) : Except String AffinityBindingSnapshot :=
  match row.target.transport with
  | .tcpUdp => .error "invalid persisted affinity transport 'tcp_udp'"
  | _ => .ok ⟨key,row.target,row.expiresAtEpochMs⟩

def loadAffinity (db : Database) (now : Nat) : Except String AffinityStateSnapshot := do
  let rows := db.affinity.entries.filter fun entry => decide (now < entry.2.expiresAtEpochMs)
  return ⟨← rows.mapM fun entry => loadAffinityRow entry.1 entry.2⟩

-- The expiry and creation columns are TEXT, which SQLite compares bytewise.
def textLe (left right : Nat) : Bool := decide (Nat.toDigits 10 left ≤ Nat.toDigits 10 right)

-- The two clock reads of the cleanup stand apart.
def cleanupExpired (db : Database) (now retainNow eventRetentionSeconds : Nat) : Database :=
  let retainAfter := retainNow - eventRetentionSeconds * 1000
  {db with
    contacts:=db.contacts.retain fun _ row => !textLe row.expiresAtEpochMs now
    affinity:=db.affinity.retain fun _ row => !textLe row.expiresAtEpochMs now
    haEvents:=db.haEvents.filter fun row => !textLe row.createdAtEpochMs retainAfter}

def latestEventSeq (db : Database) : Nat := (db.haEvents.map HaEventRecord.seq).foldl max 0

def firstEventSeq (db : Database) : Option Nat := (db.haEvents.map HaEventRecord.seq).min?

inductive EventsError where
  | sequenceOutOfRange
  deriving DecidableEq, Repr

-- A u64 parameter above i64::MAX is refused before the query runs.
def eventsAfter (db : Database) (after limit : Nat) : Except EventsError HaEventsResponse :=
  let latestSeq := db.latestEventSeq
  let firstSeq := db.firstEventSeq
  let snapshotRequired := firstSeq.any fun first => decide ((after + 1) % 2 ^ 64 < first)
  if snapshotRequired then
    .ok ⟨firstSeq.getD (latestSeq + 1) - 1,latestSeq,true,[]⟩
  else if after < 2 ^ 63 then
    .ok ⟨after,latestSeq,false,(db.haEvents.filter fun row => decide (after < row.seq)).take (max 1 (min limit 10000))⟩
  else .error .sequenceOutOfRange

-- The rows that successive appends leave after a log whose counter stands at `seq`.
def eventRows (clock : Nat → Nat) : Nat → List HaEventPayload → List HaEventRecord
  | _,[] => []
  | seq,payload :: rest => ⟨seq + 1,payload,clock (seq + 1)⟩ :: eventRows clock (seq + 1) rest

def PersistenceWrite.payloads : PersistenceWrite → List HaEventPayload
  | .clusterCommand command => [commandPayload command]
  | .affinityBindings bindings => bindings.map .upsertAffinity

theorem eventRows_seqs (clock : Nat → Nat) (seq : Nat) (payloads : List HaEventPayload) :
    (eventRows clock seq payloads).map HaEventRecord.seq = List.range' (seq + 1) payloads.length := by
  induction payloads generalizing seq with
  | nil => rfl
  | cons payload rest ih => simp [eventRows,ih,List.range'_succ]

theorem eventRows_append (clock : Nat → Nat) (seq : Nat) (first second : List HaEventPayload) :
    eventRows clock seq (first ++ second) =
      eventRows clock seq first ++ eventRows clock (seq + first.length) second := by
  induction first generalizing seq with
  | nil => simp [eventRows]
  | cons payload rest ih => simp [eventRows,ih,Nat.add_comm,Nat.add_left_comm]

variable {db middle next : Database} {clock : Nat → Nat} {first second : List HaEventPayload}

-- What a committed transaction does to the log.
structure Appended (clock : Nat → Nat) (payloads : List HaEventPayload) (db next : Database) : Prop where
  rows : next.haEvents = db.haEvents ++ eventRows clock db.sequence payloads
  sequence : next.sequence = db.sequence + payloads.length
  bounded : db.sequence ≤ maxRowid → next.sequence ≤ maxRowid

theorem Appended.refl (clock : Nat → Nat) (db : Database) : Appended clock [] db db :=
  ⟨by simp [eventRows],rfl,id⟩

theorem Appended.trans (head : Appended clock first db middle) (tail : Appended clock second middle next) :
    Appended clock (first ++ second) db next := by
  refine ⟨?_,?_,fun small => tail.bounded (head.bounded small)⟩
  · rw [tail.rows,head.rows,head.sequence,eventRows_append,List.append_assoc]
  · rw [tail.sequence,head.sequence,List.length_append,Nat.add_assoc]

theorem appendEvent_appended (stored : db.appendEvent clock payload = some (seq,next)) :
    seq = db.sequence + 1 ∧ Appended clock [payload] db next ∧
      next.contacts = db.contacts ∧ next.affinity = db.affinity := by
  unfold appendEvent at stored
  split at stored
  · rename_i room
    cases stored
    exact ⟨rfl,⟨rfl,rfl,fun _ => room⟩,rfl,rfl⟩
  · cases stored

theorem applyClusterCommandInTx_appended (stored : db.applyClusterCommandInTx clock command = some (seq,next)) :
    seq = db.sequence + 1 ∧ Appended clock [commandPayload command] db next := by
  unfold applyClusterCommandInTx at stored
  obtain ⟨⟨inserted,middle⟩,appended,written⟩ := Option.bind_eq_some_iff.mp stored
  obtain ⟨first,grown,-⟩ := appendEvent_appended appended
  cases written
  cases command <;> exact ⟨first,grown.rows,grown.sequence,grown.bounded⟩

theorem appendAffinityBinding_appended (stored : appendAffinityBinding clock db binding = some next) :
    Appended clock [.upsertAffinity binding] db next ∧ next.contacts = db.contacts := by
  unfold appendAffinityBinding at stored
  obtain ⟨⟨seq,middle⟩,inserted,written⟩ := Option.bind_eq_some_iff.mp stored
  obtain ⟨-,grown,contacts,-⟩ := appendEvent_appended inserted
  cases written
  exact ⟨⟨grown.rows,grown.sequence,grown.bounded⟩,contacts⟩

theorem upsertAffinityBindings_appended (stored : db.upsertAffinityBindings clock bindings = some next) :
    Appended clock (bindings.map .upsertAffinity) db next ∧ next.contacts = db.contacts := by
  unfold upsertAffinityBindings at stored
  induction bindings generalizing db with
  | nil => cases stored; exact ⟨.refl clock _,rfl⟩
  | cons binding rest ih =>
      rw [List.foldlM_cons] at stored
      obtain ⟨middle,first,later⟩ := Option.bind_eq_some_iff.mp stored
      obtain ⟨head,contacts⟩ := appendAffinityBinding_appended first
      obtain ⟨tail,kept⟩ := ih later
      exact ⟨head.trans tail,kept.trans contacts⟩

theorem applyBackgroundWrites_appended (stored : db.applyBackgroundWrites clock writes = some next) :
    Appended clock (writes.flatMap PersistenceWrite.payloads) db next := by
  unfold applyBackgroundWrites at stored
  induction writes generalizing db with
  | nil => cases stored; exact .refl clock _
  | cons change rest ih =>
      rw [List.foldlM_cons] at stored
      obtain ⟨middle,first,later⟩ := Option.bind_eq_some_iff.mp stored
      have head : Appended clock change.payloads db middle := by
        cases change with
        | clusterCommand command =>
            obtain ⟨⟨seq,written⟩,applied,rfl⟩ := Option.map_eq_some_iff.mp first
            exact (applyClusterCommandInTx_appended applied).2
        | affinityBindings bindings => exact (upsertAffinityBindings_appended first).1
      exact head.trans (ih later)

end Database
end Sigproxy.Persistence
