import Sigproxy.Replicator

namespace Sigproxy.Replicator
open Library Cluster Affinity Persistence Database

variable {s next : Leader} {db : Database} {command : ClusterCommand} {call other : Nat} {ticket : Ticket}

theorem setPhase_same (due : s.calls[call]? = some before) (command : ClusterCommand) (phase : Phase) :
    (s.setPhase call command phase)[call]? = some ⟨command,phase⟩ := by
  obtain ⟨inside,-⟩ := List.getElem?_eq_some_iff.mp due
  simp [Leader.setPhase,inside]

theorem setPhase_other (different : other ≠ call) (command : ClusterCommand) (phase : Phase) :
    (s.setPhase call command phase)[other]? = s.calls[other]? := by
  simp [Leader.setPhase,different.symm]

-- A call that was somewhere else than `before` is not the one that moved.
theorem setPhase_keeps (due : s.calls[call]? = some before) (command : ClusterCommand) (phase : Phase)
    (found : s.calls[other]? = some held) (apart : held ≠ before) :
    (s.setPhase call command phase)[other]? = some held := by
  rw [setPhase_other ?_ command phase,found]
  intro same
  rcases same with rfl
  exact apart (Option.some.inj (found.symm.trans due))

theorem setPhase_cases (due : s.calls[call]? = some before)
    (found : (s.setPhase call command phase)[other]? = some held) :
    (other = call ∧ held = ⟨command,phase⟩) ∨ s.calls[other]? = some held := by
  by_cases same : other = call
  · subst same
    rw [setPhase_same due] at found
    exact .inl ⟨rfl,(Option.some.inj found).symm⟩
  · rw [setPhase_other same] at found
    exact .inr found

theorem setPhase_old (due : s.calls[call]? = some before) (found : (s.setPhase call command after)[other]? = some held)
    (apart : held.phase ≠ after) : s.calls[other]? = some held := by
  rcases setPhase_cases due found with ⟨-,moved⟩ | old
  · exact absurd (congrArg Call.phase moved) apart
  · exact old

-- A call that has moved was there before the newest one.
theorem getElem?_submit {calls : List Call} (found : (calls ++ [⟨command,.entered⟩])[call]? = some held)
    (moved : held.phase ≠ .entered) : calls[call]? = some held := by
  rcases Nat.lt_or_ge call calls.length with inside | outside
  · rwa [List.getElem?_append_left inside] at found
  · rw [List.getElem?_append_right outside,List.getElem?_singleton] at found
    split at found <;> cases found
    exact absurd rfl moved

theorem getElem?_grow {Value : Type} {value : Value} {list : List Value} {i : Nat} (found : list[i]? = some value)
    (more : List Value) :
    (list ++ more)[i]? = some value := by
  obtain ⟨inside,-⟩ := List.getElem?_eq_some_iff.mp found
  rw [List.getElem?_append_left inside,found]

-- An event and the call behind it.
def Labels (event : HaEventRecord) : Option Ticket → Prop
  | some ticket => event.payload = commandPayload ticket.command
  | none => ∃ binding, event.payload = .upsertAffinity binding

-- The log numbers its events from 1 and `origins` labels each of them.
structure Logged (s : Leader) : Prop where
  seqs : s.db.haEvents.map HaEventRecord.seq = List.range' 1 s.db.sequence
  labels : List.Forall₂ Labels s.db.haEvents s.origins

theorem Logged.count (logged : Logged s) : s.origins.length = s.db.sequence := by
  have rows := congrArg List.length logged.seqs
  rw [List.length_map,List.length_range'] at rows
  rw [← logged.labels.length_eq,rows]

theorem foldl_max_range' (n : Nat) : (List.range' 1 n).foldl max 0 = n := by
  induction n with
  | zero => rfl
  | succ n ih =>
      rw [List.range'_concat,List.foldl_append,ih]
      simp; omega

theorem Logged.latest (logged : Logged s) : s.db.latestEventSeq = s.db.sequence := by
  unfold latestEventSeq
  rw [logged.seqs,foldl_max_range']

theorem Logged.append (logged : Logged s) (grown : Appended clock payloads s.db db) (stored : next.db = db)
    (fresh : next.origins = s.origins ++ origins)
    (labels : List.Forall₂ Labels (eventRows clock s.db.sequence payloads) origins) : Logged next := by
  refine ⟨?_,?_⟩
  · rw [stored,grown.rows,grown.sequence,List.map_append,logged.seqs,eventRows_seqs,Nat.add_comm s.db.sequence 1,
      List.range'_append_1]
  · rw [stored,grown.rows,fresh]
    exact List.rel_append logged.labels labels

theorem affinity_labels (clock : Nat → Nat) (seq : Nat) (bindings : List AffinityBindingSnapshot) :
    List.Forall₂ Labels (eventRows clock seq (bindings.map .upsertAffinity)) (Message.affinity bindings).origins := by
  induction bindings generalizing seq with
  | nil => exact .nil
  | cons binding rest ih => exact .cons ⟨binding,rfl⟩ (ih (seq + 1))

theorem message_labels (clock : Nat → Nat) (seq : Nat) (message : Message) :
    List.Forall₂ Labels (eventRows clock seq message.persistenceWrite.payloads) message.origins := by
  cases message with
  | command ticket => exact .cons rfl .nil
  | affinity bindings => exact affinity_labels clock seq bindings

theorem batch_labels (clock : Nat → Nat) (seq : Nat) (batch : List Message) :
    List.Forall₂ Labels
      (eventRows clock seq ((batch.map Message.persistenceWrite).flatMap PersistenceWrite.payloads))
      (batch.flatMap Message.origins) := by
  induction batch generalizing seq with
  | nil => exact .nil
  | cons message rest ih =>
      rw [List.map_cons,List.flatMap_cons,List.flatMap_cons,eventRows_append]
      exact List.rel_append (message_labels clock seq message) (ih _)

theorem start_logged (mode : PersistenceMode) : Logged (.start mode) := ⟨rfl,.nil⟩

theorem step_logged (logged : Logged s) (step : Step s action next) : Logged next := by
  cases step with
  | persist mode waiting stored =>
      exact logged.append (applyClusterCommandInTx_appended stored).2 rfl rfl (.cons rfl .nil)
  | persistAffinity mode stored =>
      exact logged.append (upsertAffinityBindings_appended stored).1 rfl rfl (affinity_labels _ _ _)
  | commitBatch stored =>
      exact logged.append (applyBackgroundWrites_appended stored) rfl rfl (batch_labels _ _ s.batch)
  | _ => exact ⟨logged.seqs,logged.labels⟩

theorem afterApply_cases (moves : Leader.afterApply mode before = some after) :
    (mode = .required ∧ (∃ seq, before = .persisted seq) ∧ after = .returned) ∨
    (mode = .background ∧ before = .entered ∧ after = .applied) ∨
    (mode = .absent ∧ before = .entered ∧ after = .returned) := by
  cases mode <;> cases before <;> cases moves <;> simp

-- Where a call stands tells which of its two effects have happened.
structure Traced (s : Leader) : Prop where
  origin : ∀ k ticket, s.origins[k]? = some (some ticket) →
    ticket ∈ s.applied ∨ s.calls[ticket.call]? = some ⟨ticket.command,.persisted (k + 1)⟩
  queued : ∀ message ∈ s.batch ++ s.channel, ∀ ticket ∈ message.tickets, ticket ∈ s.applied
  sending : ∀ call command, s.calls[call]? = some ⟨command,.applied⟩ → ⟨call,command⟩ ∈ s.applied
  landed : ∀ ticket ∈ s.applied, s.calls[ticket.call]? = some ⟨ticket.command,.applied⟩ ∨
    s.calls[ticket.call]? = some ⟨ticket.command,.returned⟩
  stored : ∀ call command seq, s.calls[call]? = some ⟨command,.persisted seq⟩ →
    ∃ k, seq = k + 1 ∧ s.origins[k]? = some (some ⟨call,command⟩)

theorem start_traced (mode : PersistenceMode) : Traced (.start mode) := by
  refine ⟨?_,?_,?_,?_,?_⟩ <;> simp [Leader.start]

theorem unlabelled_affinity (bindings : List AffinityBindingSnapshot) (ticket : Ticket) :
    some ticket ∉ (Message.affinity bindings).origins := by
  simp [Message.origins]

theorem mem_origins {batch : List Message} (member : some ticket ∈ batch.flatMap Message.origins) :
    ∃ message ∈ batch, ticket ∈ message.tickets := by
  obtain ⟨message,listed,origin⟩ := List.mem_flatMap.mp member
  refine ⟨message,listed,?_⟩
  cases message with
  | command sent => simpa [Message.origins,Message.tickets] using origin
  | affinity bindings => exact absurd origin (unlabelled_affinity bindings ticket)

theorem origin_append {fresh : List (Option Ticket)} (traced : Traced s)
    (held : ∀ ticket, some ticket ∈ fresh → ticket ∈ s.applied) (k : Nat) (ticket : Ticket)
    (found : (s.origins ++ fresh)[k]? = some (some ticket)) :
    ticket ∈ s.applied ∨ s.calls[ticket.call]? = some ⟨ticket.command,.persisted (k + 1)⟩ := by
  rcases Nat.lt_or_ge k s.origins.length with inside | outside
  · rw [List.getElem?_append_left inside] at found
    exact traced.origin k ticket found
  · rw [List.getElem?_append_right outside] at found
    exact .inl (held ticket (List.mem_of_getElem? found))

theorem stored_grow (traced : Traced s) (fresh : List (Option Ticket)) (call : Nat) (command : ClusterCommand)
    (seq : Nat) (found : s.calls[call]? = some ⟨command,.persisted seq⟩) :
    ∃ k, seq = k + 1 ∧ (s.origins ++ fresh)[k]? = some (some ⟨call,command⟩) := by
  obtain ⟨k,number,origin⟩ := traced.stored call command seq found
  exact ⟨k,number,getElem?_grow origin fresh⟩

theorem submit_traced (traced : Traced s) (command : ClusterCommand) :
    Traced {s with calls:=s.calls ++ [⟨command,.entered⟩]} := by
  refine ⟨?_,traced.queued,?_,?_,?_⟩
  · intro k ticket found
    exact (traced.origin k ticket found).imp id fun held => getElem?_grow held _
  · intro call held found
    exact traced.sending call held (getElem?_submit found (by simp))
  · intro ticket applied
    exact (traced.landed ticket applied).imp (fun held => getElem?_grow held _) fun held => getElem?_grow held _
  · intro call held seq found
    exact traced.stored call held seq (getElem?_submit found (by simp))

theorem persist_traced (logged : Logged s) (traced : Traced s)
    (waiting : s.calls[call]? = some ⟨command,.entered⟩)
    (stored : s.db.applyClusterCommandInTx clock command = some (seq,db)) :
    Traced {s with db,calls:=s.setPhase call command (.persisted seq),origins:=s.origins ++ [some ⟨call,command⟩]} := by
  obtain ⟨first,-⟩ := applyClusterCommandInTx_appended stored
  have last : (s.origins ++ [some (Ticket.mk call command)])[s.origins.length]? = some (some ⟨call,command⟩) := by simp
  have number : seq = s.origins.length + 1 := by rw [first,logged.count]
  refine ⟨?_,traced.queued,?_,?_,?_⟩
  · intro k ticket found
    rcases Nat.lt_or_ge k s.origins.length with inside | outside
    · rw [List.getElem?_append_left inside] at found
      exact (traced.origin k ticket found).imp id fun held => setPhase_keeps waiting _ _ held (by simp)
    · -- The event that this call has just appended.
      rw [List.getElem?_append_right outside,List.getElem?_singleton] at found
      split at found
      · cases found
        have same : seq = k + 1 := by omega
        exact .inr (same ▸ setPhase_same waiting command (.persisted seq))
      · cases found
  · intro other held found
    exact traced.sending other held (setPhase_old waiting found (by simp))
  · intro ticket applied
    refine (traced.landed ticket applied).imp ?_ ?_ <;>
      exact fun held => setPhase_keeps waiting _ _ held (by simp)
  · intro other held number' found
    rcases setPhase_cases waiting found with ⟨rfl,moved⟩ | old
    · cases moved
      exact ⟨s.origins.length,number,last⟩
    · exact stored_grow traced _ other held number' old

theorem persistFails_traced (traced : Traced s) (waiting : s.calls[call]? = some ⟨command,.entered⟩) :
    Traced {s with calls:=s.setPhase call command .failed} := by
  refine ⟨?_,traced.queued,?_,?_,?_⟩
  · intro k ticket found
    exact (traced.origin k ticket found).imp id fun held => setPhase_keeps waiting _ _ held (by simp)
  · intro other held found
    exact traced.sending other held (setPhase_old waiting found (by simp))
  · intro ticket applied
    refine (traced.landed ticket applied).imp ?_ ?_ <;>
      exact fun held => setPhase_keeps waiting _ _ held (by simp)
  · intro other held seq found
    exact traced.stored other held seq (setPhase_old waiting found (by simp))

-- A call that is about to reach memory has not reached it before.
theorem unapplied (traced : Traced s) (due : s.calls[call]? = some ⟨command,before⟩)
    (moves : Leader.afterApply mode before = some after) (applied : ticket ∈ s.applied) : ticket.call ≠ call := by
  intro same
  rcases same with rfl
  obtain ⟨-,⟨seq,rfl⟩,-⟩ | ⟨-,rfl,-⟩ | ⟨-,rfl,-⟩ := afterApply_cases moves <;>
    rcases traced.landed ticket applied with held | held <;> rw [held] at due <;> cases due

theorem apply_traced (traced : Traced s) (due : s.calls[call]? = some ⟨command,before⟩)
    (moves : Leader.afterApply s.mode before = some after) :
    Traced {s with
      state:=s.state.apply command
      calls:=s.setPhase call command after
      applied:=s.applied ++ [⟨call,command⟩]} := by
  refine ⟨?_,?_,?_,?_,?_⟩
  · intro k ticket found
    rcases traced.origin k ticket found with applied | held
    · exact .inl (List.mem_append_left _ applied)
    · by_cases same : ticket.call = call
      · subst same
        have own : ticket.command = command := by rw [due] at held; cases held; rfl
        exact .inl (by simp [← own])
      · exact .inr ((setPhase_other same command after).trans held)
  · intro message listed ticket member
    exact List.mem_append_left _ (traced.queued message listed ticket member)
  · intro other held found
    rcases setPhase_cases due found with ⟨rfl,moved⟩ | old
    · cases moved; simp
    · exact List.mem_append_left _ (traced.sending other held old)
  · intro ticket member
    rcases List.mem_append.mp member with applied | new
    · rw [setPhase_other (unapplied traced due moves applied)]
      exact traced.landed ticket applied
    · rw [List.mem_singleton.mp new,setPhase_same due]
      obtain ⟨-,-,rfl⟩ | ⟨-,-,rfl⟩ | ⟨-,-,rfl⟩ := afterApply_cases moves <;> simp
  · intro other held seq found
    rcases setPhase_cases due found with ⟨rfl,moved⟩ | old
    · cases moved
      obtain ⟨-,-,impossible⟩ | ⟨-,-,impossible⟩ | ⟨-,-,impossible⟩ := afterApply_cases moves <;> cases impossible
    · exact traced.stored other held seq old

theorem enqueue_traced (traced : Traced s) (due : s.calls[call]? = some ⟨command,.applied⟩) :
    Traced {s with calls:=s.setPhase call command .returned,channel:=s.channel ++ [.command ⟨call,command⟩]} := by
  refine ⟨?_,?_,?_,?_,?_⟩
  · intro k ticket found
    exact (traced.origin k ticket found).imp id fun held => setPhase_keeps due _ _ held (by simp)
  · intro message listed ticket member
    rw [← List.append_assoc] at listed
    rcases List.mem_append.mp listed with old | new
    · exact traced.queued message old ticket member
    · rw [List.mem_singleton] at new
      subst new
      rw [List.mem_singleton.mp member]
      exact traced.sending call command due
  · intro other held found
    exact traced.sending other held (setPhase_old due found (by simp))
  · intro ticket applied
    by_cases same : ticket.call = call
    · subst same
      have own : ticket.command = command := by
        rcases traced.landed ticket applied with held | held <;> rw [held] at due <;> cases due
        rfl
      exact .inr (own ▸ setPhase_same due ticket.command .returned)
    · rw [setPhase_other same]
      exact traced.landed ticket applied
  · intro other held seq found
    exact traced.stored other held seq (setPhase_old due found (by simp))

theorem step_traced (logged : Logged s) (traced : Traced s) (step : Step s action next) : Traced next := by
  cases step with
  | submit => exact submit_traced traced _
  | persist mode waiting stored => exact persist_traced logged traced waiting stored
  | persistFails mode waiting => exact persistFails_traced traced waiting
  | apply due moves => exact apply_traced traced due moves
  | enqueue due => exact enqueue_traced traced due
  | enqueueAffinity mode =>
      refine ⟨traced.origin,?_,traced.sending,traced.landed,traced.stored⟩
      intro message listed ticket member
      rw [← List.append_assoc] at listed
      rcases List.mem_append.mp listed with old | new
      · exact traced.queued message old ticket member
      · rw [List.mem_singleton] at new
        subst new
        cases member
  | @persistAffinity db _ bindings clock mode stored =>
      have grown := origin_append traced fun ticket member => absurd member (unlabelled_affinity bindings ticket)
      exact ⟨grown,traced.queued,traced.sending,traced.landed,stored_grow traced _⟩
  | collect idle =>
      refine ⟨traced.origin,?_,traced.sending,traced.landed,traced.stored⟩
      intro message listed
      rw [List.take_append_drop] at listed
      exact traced.queued message (List.mem_append_right _ listed)
  | commitBatch stored =>
      have applied : ∀ ticket, some ticket ∈ s.batch.flatMap Message.origins → ticket ∈ s.applied := by
        intro ticket member
        obtain ⟨message,listed,own⟩ := mem_origins member
        exact traced.queued message (List.mem_append_left _ listed) ticket own
      exact ⟨origin_append traced applied,fun message listed =>
        traced.queued message (List.mem_append_right _ listed),traced.sending,traced.landed,stored_grow traced _⟩
  | batchFails =>
      exact ⟨traced.origin,fun message listed => traced.queued message (List.mem_append_right _ listed),
        traced.sending,traced.landed,traced.stored⟩
  | _ => exact ⟨traced.origin,traced.queued,traced.sending,traced.landed,traced.stored⟩

end Sigproxy.Replicator
