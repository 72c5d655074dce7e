import Sigproxy.Proxy.State
import Mathlib.Data.List.TakeWhile
import Mathlib.Logic.Function.Iterate

namespace Sigproxy.Ha.Checkpoint
open Library Cluster Affinity Persistence Proxy

section Batches

-- An event of a pulled batch, with the clock readings of its two halves and
-- whether SQLite refuses its transaction.
structure Attempt where
  event : HaEventRecord
  appliedAt : Nat
  persistedAt : Nat
  fails : Bool

inductive HaApplyError where
  | sequenceGap (expected got : Nat)
  | persistence
  deriving DecidableEq, Repr

-- Sequence numbers are u64; a release build wraps.
def nextSeq (seq : Nat) : Nat := (seq + 1) % 2 ^ 64

def Attempt.memory (server : ProxyState) (attempt : Attempt) : ProxyState :=
  server.applyHaEventToMemory attempt.appliedAt attempt.event

def Attempt.persist (server : ProxyState) (attempt : Attempt) : ProxyState :=
  server.persistHaEvent attempt.persistedAt attempt.event

def applyFrom (expected : Nat) (server : ProxyState) : List Attempt → ProxyState × Except HaApplyError Unit
  | [] => (server,.ok ())
  | attempt :: rest =>
    if attempt.event.seq ≠ expected then (server,.error (.sequenceGap expected attempt.event.seq))
    else if attempt.fails && server.persistence.isSome then (attempt.memory server,.error .persistence)
    else applyFrom (nextSeq expected) (attempt.persist (attempt.memory server)) rest

def applyHaEvents (server : ProxyState) (events : List Attempt) : ProxyState × Except HaApplyError Unit :=
  applyFrom (nextSeq server.lastAppliedHaEventSeq) server events

-- One call for each pulled batch; an error ends the call, not the standby.
def pullBatches (server : ProxyState) (batches : List (List Attempt)) : ProxyState :=
  batches.foldl (fun server batch => (applyHaEvents server batch).1) server

end Batches

section Calls

-- Numbered right after `seq`, one by one.
def Numbered (seq : Nat) (attempts : List Attempt) : Prop :=
  ∀ index attempt, attempts[index]? = some attempt → attempt.event.seq = nextSeq^[index + 1] seq

-- The longest prefix of the batch that is numbered right after `seq`.
structure LongestRun (seq : Nat) (batch run rest : List Attempt) : Prop where
  whole : batch = run ++ rest
  numbered : Numbered seq run
  longest : ∀ next, rest.head? = some next → next.event.seq ≠ nextSeq^[run.length + 1] seq

-- What one call makes of a batch.
structure Applied (server : ProxyState) (db : Database) (batch : List Attempt) (outcome : ProxyState × Except HaApplyError Unit)
    (run rest persisted failed : List Attempt) : Prop where
  longest : LongestRun server.lastAppliedHaEventSeq batch run rest
  split : persisted = run.takeWhile fun attempt => !attempt.fails
  stopped : failed = (run.drop persisted.length).take 1
  state : outcome.1.state = ((persisted ++ failed).foldl Attempt.memory server).state
  affinity : outcome.1.affinity = ((persisted ++ failed).foldl Attempt.memory server).affinity
  disk : outcome.1.persistence = some (persisted.foldl (fun db attempt => db.applyEventWithoutAppend attempt.persistedAt attempt.event) db)
  checkpoint : outcome.1.lastAppliedHaEventSeq = nextSeq^[persisted.length] server.lastAppliedHaEventSeq
  succeeds : outcome.2 = .ok () ↔ rest = [] ∧ failed = []

theorem numbered_cons : Numbered seq (attempt :: rest) ↔ attempt.event.seq = nextSeq seq ∧ Numbered (nextSeq seq) rest := by
  constructor
  · intro numbered
    exact ⟨numbered 0 attempt rfl,fun index other found => numbered (index + 1) other found⟩
  · intro both index other found
    rcases both with ⟨first,later⟩
    cases index with
    | zero => cases found; exact first
    | succ index => exact later index other found

@[simp] theorem memory_persistence (server : ProxyState) (attempt : Attempt) :
    (attempt.memory server).persistence = server.persistence := server.applyHaEventToMemory_persistence ..

theorem persisted_seq {server : ProxyState} (opened : server.persistence = some db) (attempt : Attempt) :
    (attempt.persist server).lastAppliedHaEventSeq = attempt.event.seq := by
  simp [Attempt.persist,ProxyState.persistHaEvent,ProxyState.lastAppliedHaEventSeq,opened,Database.applyEventWithoutAppend]

-- Memory does not read the file.
theorem memory_congr {server other : ProxyState} (state : server.state = other.state) (affinity : server.affinity = other.affinity)
    (attempts : List Attempt) : (attempts.foldl Attempt.memory server).state = (attempts.foldl Attempt.memory other).state ∧
      (attempts.foldl Attempt.memory server).affinity = (attempts.foldl Attempt.memory other).affinity := by
  induction attempts generalizing server other with
  | nil => exact ⟨state,affinity⟩
  | cons attempt rest ih =>
      have same : (attempt.memory server).state = (attempt.memory other).state ∧
          (attempt.memory server).affinity = (attempt.memory other).affinity := by
        unfold Attempt.memory ProxyState.applyHaEventToMemory
        cases attempt.event.payload with
        | registerContact binding => dsimp only; split <;> simp [state,affinity]
        | _ => simp [state,affinity]
      exact ih same.1 same.2

theorem LongestRun.stop (gap : attempt.event.seq ≠ nextSeq seq) : LongestRun seq (attempt :: rest) [] (attempt :: rest) where
  whole := rfl
  numbered index other found := by cases found
  longest next first := by cases first; exact gap

theorem LongestRun.extend (longest : LongestRun (nextSeq seq) batch run rest) (first : attempt.event.seq = nextSeq seq) :
    LongestRun seq (attempt :: batch) (attempt :: run) rest where
  whole := by rw [longest.whole]; rfl
  numbered := numbered_cons.mpr ⟨first,longest.numbered⟩
  longest := longest.longest

theorem exists_longestRun (seq : Nat) (batch : List Attempt) : ∃ run rest, LongestRun seq batch run rest := by
  induction batch generalizing seq with
  | nil => exact ⟨[],[],rfl,fun _ _ found => (nomatch found),fun _ first => (nomatch first)⟩
  | cons attempt batch ih =>
      by_cases first : attempt.event.seq = nextSeq seq
      · obtain ⟨run,rest,longest⟩ := ih (nextSeq seq)
        exact ⟨attempt :: run,rest,longest.extend first⟩
      · exact ⟨[],attempt :: batch,LongestRun.stop first⟩

-- The run of the batch is followed until SQLite refuses an event.
theorem applyFrom_applied {server : ProxyState} (opened : server.persistence = some db) (batch : List Attempt) :
    ∃ run rest persisted failed,
      Applied server db batch (applyFrom (nextSeq server.lastAppliedHaEventSeq) server batch) run rest persisted failed := by
  induction batch generalizing server db with
  | nil =>
      obtain ⟨run,rest,longest⟩ := exists_longestRun server.lastAppliedHaEventSeq []
      obtain ⟨rfl,rfl⟩ := List.append_eq_nil_iff.mp longest.whole.symm
      exact ⟨[],[],[],[],longest,rfl,rfl,rfl,rfl,opened,rfl,by simp [applyFrom]⟩
  | cons attempt batch ih =>
      rw [applyFrom]
      split
      · rename_i gap
        exact ⟨[],_,[],[],LongestRun.stop gap,rfl,rfl,rfl,rfl,opened,rfl,by simp⟩
      · rename_i first
        rw [not_not] at first
        cases refused : attempt.fails with
        | true =>
            obtain ⟨run,rest,longest⟩ := exists_longestRun (nextSeq server.lastAppliedHaEventSeq) batch
            refine ⟨attempt :: run,rest,[],[attempt],longest.extend first,by simp [refused],rfl,?_,?_,?_,?_,?_⟩
            all_goals simp [opened,ProxyState.lastAppliedHaEventSeq]
        | false =>
            have written : (attempt.persist (attempt.memory server)).persistence =
                some (db.applyEventWithoutAppend attempt.persistedAt attempt.event) := by
              simp [Attempt.persist,ProxyState.persistHaEvent,opened]
            have moved : (attempt.persist (attempt.memory server)).lastAppliedHaEventSeq = nextSeq server.lastAppliedHaEventSeq :=
              (persisted_seq (by rw [memory_persistence]; exact opened) attempt).trans first
            obtain ⟨run,rest,persisted,failed,applied⟩ := ih written
            rw [moved] at applied
            have kept := @memory_congr (attempt.persist (attempt.memory server)) (attempt.memory server) rfl rfl (persisted ++ failed)
            have longest := applied.longest
            rw [moved] at longest
            refine ⟨attempt :: run,rest,attempt :: persisted,failed,longest.extend first,?_,?_,?_,?_,?_,?_,?_⟩
            · rw [List.takeWhile_cons_of_pos (by simp [refused]),← applied.split]
            · exact applied.stopped
            · exact applied.state.trans kept.1
            · exact applied.affinity.trans kept.2
            · exact applied.disk
            · have counted := applied.checkpoint
              rw [moved] at counted
              exact counted
            · exact applied.succeeds

theorem Applied.persisted_run {server : ProxyState} (applied : Applied server db batch outcome run rest persisted failed) :
    ∀ attempt ∈ persisted, attempt.fails = false := by
  intro attempt member
  rw [applied.split] at member
  simpa using List.mem_takeWhile_imp member

theorem Applied.failed_next {server : ProxyState} (applied : Applied server db batch outcome run rest persisted failed) :
    ∀ attempt ∈ failed, attempt.fails = true ∧ attempt.event.seq = nextSeq outcome.1.lastAppliedHaEventSeq := by
  intro attempt member
  have head : (run.drop persisted.length).head? = some attempt := by
    rw [applied.stopped] at member
    cases after : run.drop persisted.length with
    | nil => rw [after] at member; cases member
    | cons first later =>
        rw [after,List.take_succ_cons,List.take_zero,List.mem_singleton] at member
        rw [member]
        rfl
  constructor
  · have cut : run.drop persisted.length = run.dropWhile fun attempt => !attempt.fails := by
      calc run.drop persisted.length
          = ((run.takeWhile fun attempt => !attempt.fails) ++ run.dropWhile fun attempt => !attempt.fails).drop
              (run.takeWhile fun attempt => !attempt.fails).length := by rw [List.takeWhile_append_dropWhile,applied.split]
        _ = _ := List.drop_left
    rw [cut] at head
    have refused := List.head?_dropWhile_not (fun attempt : Attempt => !attempt.fails) run
    rw [head] at refused
    simpa using refused
  · rw [List.head?_drop] at head
    rw [applied.longest.numbered _ _ head,applied.checkpoint,Function.iterate_succ_apply']

end Calls

section Runs

-- Every event that entered memory was numbered right after the checkpoint of its
-- moment, and moved the checkpoint to its own number if it was persisted.
def Chained (seq : Nat) : List Attempt → Prop
  | [] => True
  | attempt :: rest => attempt.event.seq = nextSeq seq ∧ Chained (if attempt.fails then seq else attempt.event.seq) rest

def persistedOf (ledger : List Attempt) : List Attempt := ledger.filter fun attempt => !attempt.fails

theorem persistedOf_append : persistedOf (early ++ late) = persistedOf early ++ persistedOf late := List.filter_append ..

theorem chained_append : Chained seq (early ++ late) ↔ Chained seq early ∧ Chained (nextSeq^[(persistedOf early).length] seq) late := by
  induction early generalizing seq with
  | nil => simp [Chained,persistedOf]
  | cons attempt early ih =>
      rw [List.cons_append,Chained,Chained,ih,and_assoc]
      refine and_congr_right fun first => and_congr_right fun _ => ?_
      cases refused : attempt.fails with
      | true => simp [persistedOf,refused]
      | false => simp [persistedOf,refused,first]

theorem chained_numbered (numbered : Numbered seq attempts) (passed : ∀ attempt ∈ attempts, attempt.fails = false) : Chained seq attempts := by
  induction attempts generalizing seq with
  | nil => trivial
  | cons attempt rest ih =>
      obtain ⟨first,later⟩ := numbered_cons.mp numbered
      obtain ⟨here,after⟩ := List.forall_mem_cons.mp passed
      refine ⟨first,?_⟩
      rw [here,first]
      exact ih later after

-- What a run of calls has put into memory and on disk, read from one ledger.
structure Ledger (server : ProxyState) (db : Database) (ledger : List Attempt) (final : ProxyState) : Prop where
  chained : Chained server.lastAppliedHaEventSeq ledger
  state : final.state = (ledger.foldl Attempt.memory server).state
  affinity : final.affinity = (ledger.foldl Attempt.memory server).affinity
  disk : final.persistence =
    some ((persistedOf ledger).foldl (fun db attempt => db.applyEventWithoutAppend attempt.persistedAt attempt.event) db)
  checkpoint : final.lastAppliedHaEventSeq = nextSeq^[(persistedOf ledger).length] server.lastAppliedHaEventSeq

section Call
variable {server : ProxyState} {db : Database} {batch run rest persisted failed : List Attempt} {outcome : ProxyState × Except HaApplyError Unit}
  (applied : Applied server db batch outcome run rest persisted failed)
include applied

theorem Applied.persistedOf_persisted : persistedOf persisted = persisted :=
  List.filter_eq_self.mpr fun attempt member => by rw [applied.persisted_run attempt member]; rfl

theorem Applied.persistedOf_eq : persistedOf (persisted ++ failed) = persisted := by
  have refused : failed.filter (fun attempt => !attempt.fails) = [] :=
    List.filter_eq_nil_iff.mpr fun attempt member => by simp [(applied.failed_next attempt member).1]
  rw [persistedOf_append,persistedOf,persistedOf,refused,List.append_nil]
  exact applied.persistedOf_persisted

theorem Applied.failed_short : failed.length ≤ 1 := by
  rw [applied.stopped,List.length_take]
  exact Nat.min_le_left _ _

theorem Applied.numbered : Numbered server.lastAppliedHaEventSeq persisted := by
  obtain ⟨later,whole⟩ : persisted <+: run := by
    rw [applied.split]
    exact List.takeWhile_prefix _
  intro index attempt found
  apply applied.longest.numbered index attempt
  rw [← whole,List.getElem?_append_left (List.getElem?_eq_some_iff.mp found).1,found]

theorem Applied.ledger : Ledger server db (persisted ++ failed) outcome.1 := by
  have kept := applied.persistedOf_eq
  refine ⟨?_,applied.state,applied.affinity,by rw [kept]; exact applied.disk,by rw [kept]; exact applied.checkpoint⟩
  refine chained_append.mpr ⟨chained_numbered applied.numbered applied.persisted_run,?_⟩
  rw [applied.persistedOf_persisted,← applied.checkpoint]
  have next := applied.failed_next
  have short := applied.failed_short
  match failed with
  | [] => trivial
  | [attempt] => exact ⟨(next attempt (by simp)).2,trivial⟩
  | _ :: _ :: _ => simp at short

end Call

theorem Ledger.trans {server : ProxyState} (early : Ledger server db first middle) (opened : middle.persistence = some db') (late : Ledger middle db' second final) :
    Ledger server db (first ++ second) final := by
  have kept := memory_congr early.state early.affinity second
  have disks := early.disk
  rw [opened] at disks
  cases disks
  refine ⟨chained_append.mpr ⟨early.chained,?_⟩,?_,?_,?_,?_⟩
  · rw [← early.checkpoint]
    exact late.chained
  · rw [late.state,kept.1,List.foldl_append]
  · rw [late.affinity,kept.2,List.foldl_append]
  · rw [late.disk,persistedOf_append,List.foldl_append]
  · rw [late.checkpoint,early.checkpoint,← Function.iterate_add_apply,persistedOf_append,List.length_append,Nat.add_comm]

theorem pullBatches_ledger {server : ProxyState} (opened : server.persistence = some db) (batches : List (List Attempt)) :
    ∃ ledger, Ledger server db ledger (pullBatches server batches) := by
  induction batches using List.reverseRecOn with
  | nil => exact ⟨[],trivial,rfl,rfl,opened,rfl⟩
  | append_singleton batches batch ih =>
      obtain ⟨ledger,before⟩ := ih
      obtain ⟨run,rest,persisted,failed,applied⟩ := applyFrom_applied before.disk batch
      refine ⟨ledger ++ (persisted ++ failed),?_⟩
      rw [pullBatches,List.foldl_append]
      exact before.trans before.disk applied.ledger

theorem checkpoint_sound (server : ProxyState) (db : Database) (opened : server.persistence = some db) (batches : List (List Attempt)) :
    (∃ ledger, Ledger server db ledger (pullBatches server batches)) ∧
    ∀ before batch after, batches = before ++ batch :: after →
      ∃ db run rest persisted failed, (pullBatches server before).persistence = some db ∧
        Applied (pullBatches server before) db batch (applyHaEvents (pullBatches server before) batch) run rest persisted failed ∧
        failed.length ≤ 1 ∧ ∀ attempt ∈ failed, attempt.fails = true ∧
          attempt.event.seq = nextSeq (applyHaEvents (pullBatches server before) batch).1.lastAppliedHaEventSeq := by
  refine ⟨pullBatches_ledger opened batches,fun before batch after whole => ?_⟩
  obtain ⟨ledger,sofar⟩ := pullBatches_ledger opened before
  obtain ⟨run,rest,persisted,failed,applied⟩ := applyFrom_applied sofar.disk batch
  exact ⟨_,run,rest,persisted,failed,sofar.disk,applied,applied.failed_short,applied.failed_next⟩

def registered (seq : Nat) (aor : String) : HaEventRecord := ⟨seq,.registerContact ⟨aor,"sip:a@10.0.0.1","10.0.0.1:5060",1000⟩,0⟩
def standbyServer : ProxyState := .new ⟨true,60⟩ (some .migrate)

-- Numbers 1 and 2 follow the checkpoint, yet the second event reaches neither copy
-- once SQLite has refused the first.
def refusedBatch : List Attempt := [⟨registered 1 "sip:a@example.com",10,10,true⟩,⟨registered 2 "sip:b@example.com",10,10,false⟩]

theorem refused_event_ends_batch : LongestRun standbyServer.lastAppliedHaEventSeq refusedBatch refusedBatch [] ∧
    (applyHaEvents standbyServer refusedBatch).1.state.live 20 "sip:b@example.com" = none := by
  refine ⟨⟨rfl,?_,fun _ first => (nomatch first)⟩,by decide +kernel⟩
  refine numbered_cons.mpr ⟨rfl,numbered_cons.mpr ⟨rfl,fun _ _ found => (nomatch found)⟩⟩

theorem refused_batch_sound : ∃ ledger, Ledger standbyServer .migrate ledger (pullBatches standbyServer [refusedBatch]) :=
  (checkpoint_sound standbyServer .migrate rfl [refusedBatch]).1

end Runs

end Sigproxy.Ha.Checkpoint
