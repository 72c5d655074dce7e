import Sigproxy.Library.Machine
import Sigproxy.Library.NumberedLog
import Sigproxy.Persistence

namespace Sigproxy.Ha.EventLog
open Library Cluster Persistence Database

-- The event log of the leader beside everything it has ever committed to it.
structure Log where
  db : Database
  committed : List HaEventRecord

inductive Action where
  | commit (writes : List PersistenceWrite) (clock : Nat → Nat)
  | cleanup (now retainNow eventRetentionSeconds : Nat)

namespace Log

def opened : Log := ⟨migrate,[]⟩

-- A transaction that SQLite refuses commits nothing.
def advance (s : Log) : Action → Option Log
  | .commit writes clock =>
    match s.db.applyBackgroundWrites clock writes with
    | some db => some ⟨db,s.committed ++ eventRows clock s.db.sequence (writes.flatMap PersistenceWrite.payloads)⟩
    | none => some s
  | .cleanup now retainNow eventRetentionSeconds =>
    some {s with db:=s.db.cleanupExpired now retainNow eventRetentionSeconds}

def run (s : Log) (actions : List Action) : Option Log := Machine.run advance s actions

end Log

inductive HaEventPullOutcome where
  | applied
  | idle
  | snapshotRequired
  deriving DecidableEq, Repr

-- What pull_ha_events reports when nothing fails on the way.
def pullOutcome (response : HaEventsResponse) : HaEventPullOutcome :=
  if response.snapshotRequired then .snapshotRequired
  else if response.events.isEmpty then .idle
  else .applied

-- `limit.clamp(1, 10_000)`
def clampLimit (limit : Nat) : Nat := max 1 (min limit 10000)

-- What a standby that asks for the events after `after` may rely on.
structure Faithful (committed : List HaEventRecord) (after limit : Nat) (response : HaEventsResponse) : Prop where
  events : response.snapshotRequired = false →
    response.events = window HaEventRecord.seq after (clampLimit limit) committed
  consecutive : response.snapshotRequired = false →
    response.events.map HaEventRecord.seq = List.range' (after + 1) response.events.length
  idle : pullOutcome response = .idle → ∀ event ∈ committed, event.seq ≤ after

variable {s next : Log} {db : Database} {response : HaEventsResponse} {after limit : Nat}

-- Sequence numbers are handed out once and in order, and only cleanup removes rows.
structure Recorded (s : Log) : Prop where
  numbered : Numbered HaEventRecord.seq s.committed
  sequence : s.db.sequence = s.committed.length
  kept : s.db.haEvents.Sublist s.committed
  bounded : s.db.sequence ≤ maxRowid

theorem opened_recorded : Recorded .opened := ⟨.nil,rfl,.slnil,Nat.zero_le _⟩

theorem step_recorded (recorded : Recorded s) (step : s.advance action = some next) : Recorded next := by
  cases action with
  | commit writes clock =>
      simp only [Log.advance] at step
      split at step
      next db stored =>
        cases step
        have grown := applyBackgroundWrites_appended stored
        have seqs := eventRows_seqs clock s.db.sequence (writes.flatMap PersistenceWrite.payloads)
        have count := congrArg List.length seqs
        rw [List.length_map,List.length_range'] at count
        refine ⟨recorded.numbered.append ?_,?_,?_,grown.bounded recorded.bounded⟩
        · rw [seqs,count,recorded.sequence]
        · rw [grown.sequence,List.length_append,count,recorded.sequence]
        · rw [grown.rows]
          exact recorded.kept.append (List.Sublist.refl _)
      next => cases step; exact recorded
  | cleanup now retainNow eventRetentionSeconds =>
      cases step
      exact ⟨recorded.numbered,recorded.sequence,List.filter_sublist.trans recorded.kept,recorded.bounded⟩

theorem run_recorded (ran : Log.opened.run actions = some s) : Recorded s :=
  Machine.run_preserves Recorded (fun _ _ _ => step_recorded) opened_recorded ran

theorem seq_bounded (recorded : Recorded s) (member : event ∈ s.committed) : event.seq < 2 ^ 63 := by
  obtain ⟨i,inside,rfl⟩ := List.mem_iff_getElem.mp member
  rw [recorded.numbered.at_index i inside]
  have small := recorded.bounded
  rw [recorded.sequence,maxRowid] at small
  omega

-- Every surviving row stands past `after + 1`, and there is one.
def Behind (db : Database) (after : Nat) : Prop :=
  db.haEvents ≠ [] ∧ ∀ row ∈ db.haEvents, after + 1 < row.seq

-- Every committed event of the window that was asked for survives.
def Retained (s : Log) (after limit : Nat) : Prop :=
  ∀ event ∈ s.committed, after < event.seq → event.seq ≤ after + clampLimit limit → event ∈ s.db.haEvents

theorem firstEventSeq_past (db : Database) (bound : Nat) :
    (db.firstEventSeq.any fun first => decide (bound < first)) = true ↔
      db.haEvents ≠ [] ∧ ∀ row ∈ db.haEvents, bound < row.seq := by
  unfold firstEventSeq
  cases least : (db.haEvents.map HaEventRecord.seq).min? with
  | none =>
      rw [List.min?_eq_none_iff,List.map_eq_nil_iff] at least
      simp [least]
  | some first =>
      obtain ⟨member,below⟩ := List.min?_eq_some_iff.mp least
      obtain ⟨oldest,stored,rfl⟩ := List.mem_map.mp member
      simp only [Option.any_some,decide_eq_true_eq]
      constructor
      · intro past
        refine ⟨List.ne_nil_of_mem stored,fun row member => ?_⟩
        exact Nat.lt_of_lt_of_le past (below _ (List.mem_map_of_mem member))
      · intro both
        rcases both with ⟨-,past⟩
        exact past oldest stored

-- The answers of the log: a snapshot is asked for, or a window of the rows is shown.
theorem eventsAfter_cases (answered : db.eventsAfter after limit = .ok response) :
    (response.snapshotRequired = true ∧ db.haEvents ≠ [] ∧ ∀ row ∈ db.haEvents, (after + 1) % 2 ^ 64 < row.seq) ∨
    (response.snapshotRequired = false ∧ response.events = window HaEventRecord.seq after (clampLimit limit) db.haEvents ∧
      after < 2 ^ 63 ∧ ¬ Behind db after) := by
  unfold eventsAfter at answered
  simp only at answered
  split at answered
  next required =>
    cases answered
    exact .inl ⟨rfl,(firstEventSeq_past db _).mp required⟩
  next unrequired =>
    split at answered
    next small =>
      cases answered
      refine .inr ⟨rfl,rfl,small,fun behind => unrequired ?_⟩
      rw [firstEventSeq_past,Nat.mod_eq_of_lt (by omega)]
      exact behind
    next => cases answered

theorem shown_when (small : after < 2 ^ 63) (ahead : ¬ Behind db after) (limit : Nat) :
    db.eventsAfter after limit =
      .ok ⟨after,db.latestEventSeq,false,window HaEventRecord.seq after (clampLimit limit) db.haEvents⟩ := by
  have unrequired : ¬ (db.firstEventSeq.any fun first => decide ((after + 1) % 2 ^ 64 < first)) = true := by
    rw [firstEventSeq_past,Nat.mod_eq_of_lt (by omega)]
    exact ahead
  unfold eventsAfter
  simp only
  rw [if_neg unrequired,if_pos small]
  rfl

theorem window_faithful (recorded : Recorded s) (retained : Retained s after limit)
    (shown : response.events = window HaEventRecord.seq after (clampLimit limit) s.db.haEvents) :
    Faithful s.committed after limit response := by
  rw [(window_exact recorded.kept recorded.numbered).mpr retained] at shown
  refine ⟨fun _ => shown,fun _ => ?_,fun idle event member => ?_⟩
  · rw [shown]
    exact recorded.numbered.window_seqs after (clampLimit limit)
  · have empty : response.events = [] := by
      unfold pullOutcome at idle
      split at idle
      · cases idle
      · split at idle
        · rename_i none; simpa using none
        · cases idle
    -- Of the missing events the first would stand in the window.
    by_contra missed
    have later : after < event.seq := by omega
    obtain ⟨i,inside,same⟩ := List.mem_iff_getElem.mp member
    have number := recorded.numbered.at_index i inside
    rw [same] at number
    have first := recorded.numbered.at_index after (by omega)
    have positive : 1 ≤ clampLimit limit := Nat.le_max_left 1 _
    have listed : s.committed[after] ∈ window HaEventRecord.seq after (clampLimit limit) s.committed :=
      recorded.numbered.mem_window.mpr ⟨List.getElem_mem _,by omega,by omega⟩
    rw [← shown,empty] at listed
    cases listed

theorem pull_faithful_exact (ran : Log.opened.run actions = some s) (after limit : Nat) :
    (∀ response, s.db.eventsAfter after limit = .ok response → Faithful s.committed after limit response) ↔
      Behind s.db after ∨ Retained s after limit := by
  have recorded := run_recorded ran
  constructor
  · intro faithful
    by_cases behind : Behind s.db after
    · exact .inl behind
    · refine .inr fun event member later near => ?_
      have small : after < 2 ^ 63 := Nat.lt_trans later (seq_bounded recorded member)
      have shown := (faithful _ (shown_when small behind limit)).events rfl
      exact (window_exact recorded.kept recorded.numbered).mp shown event member later near
  · intro condition response answered
    obtain ⟨required,-⟩ | ⟨unrequired,shown,-,ahead⟩ := eventsAfter_cases answered
    · refine ⟨?_,?_,?_⟩ <;> simp [required,pullOutcome]
    · exact window_faithful recorded (condition.resolve_left ahead) shown

-- One registration, then retention running out: the emptied log claims that
-- nothing has happened.
def registration : ContactBinding := ⟨"sip:100@example.com","sip:100@127.0.0.1:5062","127.0.0.1:50000",1700000060000⟩
def prunedLog : List Action :=
  [.commit [.clusterCommand (.registerContact registration)] fun _ => 1700000000000,
    .cleanup 1700003600000 1700003600000 3600]
def retainedLog : List Action :=
  [.commit [.clusterCommand (.registerContact registration)] fun _ => 1700000000000,
    .cleanup 1700003599999 1700003599999 3600]

theorem pull_faithful_while_retained :
    ∃ s response, Log.opened.run retainedLog = some s ∧ s.db.eventsAfter 0 1000 = .ok response ∧
      pullOutcome response = .applied ∧ Faithful s.committed 0 1000 response := by
  have reached : ∃ s, Log.opened.run retainedLog = some s ∧ s.db.haEvents = s.committed ∧
      ∃ response, s.db.eventsAfter 0 1000 = .ok response ∧ pullOutcome response = .applied := by
    exact ⟨_,rfl,by decide,_,rfl,by decide⟩
  obtain ⟨s,ran,kept,response,answered,applied⟩ := reached
  have retained : Retained s 0 1000 := fun event member _ _ => kept ▸ member
  exact ⟨s,response,ran,answered,applied,(pull_faithful_exact ran 0 1000).mpr (.inr retained) response answered⟩

theorem pruned_log_reports_idle :
    ∃ s response, Log.opened.run prunedLog = some s ∧ s.db.eventsAfter 0 1000 = .ok response ∧
      response.snapshotRequired = false ∧ pullOutcome response = .idle ∧
      ¬ Faithful s.committed 0 1000 response := by
  have reached : ∃ s, Log.opened.run prunedLog = some s ∧ s.committed.map HaEventRecord.seq = [1] ∧
      ∃ response, s.db.eventsAfter 0 1000 = .ok response ∧
        response.snapshotRequired = false ∧ pullOutcome response = .idle := by
    exact ⟨_,rfl,by decide,_,rfl,by decide,by decide⟩
  obtain ⟨s,ran,seqs,response,answered,unrequired,idle⟩ := reached
  refine ⟨s,response,ran,answered,unrequired,idle,fun faithful => ?_⟩
  obtain ⟨event,member,first⟩ := List.mem_map.mp (seqs ▸ List.mem_singleton_self 1)
  have early := faithful.idle idle event member
  omega

end Sigproxy.Ha.EventLog
