import Sigproxy.Replicator.Provenance

namespace Sigproxy.Replicator
open Library Cluster Affinity Persistence Database

variable {s next : Leader}

-- Memory is what the commands left in the order in which they reached it, but
-- for bindings that a snapshot has found expired.
structure Reflected (s : Leader) : Prop where
  keyed : s.state.Keyed
  live : ∀ time, s.now ≤ time → ∀ aor, s.state.live time aor =
    ((Table.replay ∅ (s.applied.map fun ticket => ticket.command.write)).lookup aor).filter
      fun binding => !binding.isExpired time

theorem start_reflected (mode : PersistenceMode) : Reflected (.start mode) := by
  refine ⟨?_,?_⟩
  · intro aor binding found
    cases found
  · intro time _ aor
    rfl

theorem step_reflected (reflected : Reflected s) (step : Step s action next) : Reflected next := by
  cases step with
  | tick =>
      refine ⟨reflected.keyed,fun time later => reflected.live time ?_⟩
      exact Nat.le_trans (Nat.le_add_right _ _) later
  | @apply call before after _ command due moves =>
      refine ⟨SharedState.apply_keyed reflected.keyed command,fun time later aor => ?_⟩
      have live := reflected.live time later aor
      rw [SharedState.live_eq] at live ⊢
      rw [List.map_append,List.map_singleton,Table.replay_snoc,SharedState.apply_contacts,
        Table.lookup_write,Table.lookup_write]
      split
      · rfl
      · exact live
  | readContacts due =>
      refine ⟨SharedState.snapshot_keyed reflected.keyed s.now,fun time later aor => ?_⟩
      exact (SharedState.snapshot_live s.state later aor).trans (reflected.live time later aor)
  | _ => exact ⟨reflected.keyed,reflected.live⟩

def Snapshot.lastSeq : Snapshot → Nat
  | .sequenceRead lastSeq => lastSeq
  | .taken lastSeq _ _ _ => lastSeq

structure Sound (s : Leader) : Prop where
  logged : Logged s
  traced : Traced s
  reflected : Reflected s
  -- No snapshot has read a sequence number that the log had not reached.
  bounded : ∀ snapshot ∈ s.snapshots, snapshot.lastSeq ≤ s.db.sequence

theorem latestEventSeq_le (logged : Logged s) (fails : Bool) : s.latestEventSeq fails ≤ s.db.sequence := by
  unfold Leader.latestEventSeq
  split
  · exact Nat.zero_le _
  · exact Nat.le_of_eq logged.latest

theorem step_sequence (step : Step s action next) : s.db.sequence ≤ next.db.sequence := by
  cases step with
  | persist mode waiting stored =>
      rw [(applyClusterCommandInTx_appended stored).2.sequence]
      exact Nat.le_add_right _ _
  | persistAffinity mode stored =>
      rw [(upsertAffinityBindings_appended stored).1.sequence]
      exact Nat.le_add_right _ _
  | commitBatch stored =>
      rw [(applyBackgroundWrites_appended stored).sequence]
      exact Nat.le_add_right _ _
  | _ => exact Nat.le_refl _

theorem start_sound (mode : PersistenceMode) : Sound (.start mode) :=
  ⟨start_logged mode,start_traced mode,start_reflected mode,by simp [Leader.start]⟩

theorem step_sound (sound : Sound s) (step : Step s action next) : Sound next := by
  refine ⟨step_logged sound.logged step,step_traced sound.logged sound.traced step,
    step_reflected sound.reflected step,?_⟩
  intro snapshot member
  have grows := step_sequence step
  cases step with
  | readSequence =>
      rcases List.mem_append.mp member with old | new
      · exact sound.bounded snapshot old
      · rw [List.mem_singleton.mp new]
        exact latestEventSeq_le sound.logged _
  | readContacts due =>
      rcases List.mem_or_eq_of_mem_set member with old | rfl
      · exact sound.bounded snapshot old
      · have reading := sound.bounded _ (List.mem_of_getElem? due)
        exact reading
  | _ => exact Nat.le_trans (sound.bounded snapshot member) grows

-- Every contact event up to the sequence number of the snapshot had reached the
-- memory that the snapshot shows, and a standby that installs it holds that memory.
def Consistent (s : Leader) : Snapshot → Prop
  | .sequenceRead _ => True
  | .taken lastSeq readAt contacts applied =>
    (∀ event ∈ s.db.haEvents, event.seq ≤ lastSeq → ∀ command, event.payload = commandPayload command →
      ∃ ticket ∈ applied, s.origins[event.seq - 1]? = some (some ticket) ∧ ticket.command = command) ∧
    ∀ time, readAt ≤ time → ∀ aor, (SharedState.installSnapshot time contacts).live time aor =
      ((Table.replay ∅ (applied.map fun ticket => ticket.command.write)).lookup aor).filter
        fun binding => !binding.isExpired time

def ConsistentCuts (s : Leader) : Prop := ∀ snapshot ∈ s.snapshots, Consistent s snapshot

def Call.unapplied (call : Call) (lastSeq : Nat) : Bool :=
  match call.phase with
  | .persisted seq => decide (seq ≤ lastSeq)
  | _ => false

-- A snapshot reads memory while a call still has to bring there what the snapshot
-- counts as included.
def settled (s : Leader) : Action → Bool
  | .readContacts snapshot =>
    match s.snapshots[snapshot]? with
    | some (.sequenceRead lastSeq) => s.calls.all fun call => !call.unapplied lastSeq
    | _ => true
  | _ => true

theorem commandPayload_injective (same : commandPayload left = commandPayload right) : left = right := by
  cases left <;> cases right <;> cases same <;> rfl

theorem event_at (logged : Logged s) (found : s.db.haEvents[k]? = some event) : event.seq = k + 1 := by
  have number : (s.db.haEvents.map HaEventRecord.seq)[k]? = some event.seq := by simp [found]
  rw [logged.seqs] at number
  obtain ⟨inside,same⟩ := List.getElem?_eq_some_iff.mp number
  rw [← same,List.getElem_range']
  omega

theorem event_origin (logged : Logged s) (member : event ∈ s.db.haEvents) (payload : event.payload = commandPayload command) :
    ∃ k ticket, event.seq = k + 1 ∧ s.origins[k]? = some (some ticket) ∧ ticket.command = command := by
  obtain ⟨k,inside,rfl⟩ := List.mem_iff_getElem.mp member
  have number : k < s.origins.length := logged.labels.length_eq ▸ inside
  have label : Labels s.db.haEvents[k] s.origins[k] := (List.forall₂_iff_get.mp logged.labels).2 k inside number
  have seq := event_at logged (List.getElem?_eq_getElem inside)
  cases origin : s.origins[k] with
  | none =>
      rw [origin] at label
      obtain ⟨binding,other⟩ := label
      rw [payload] at other
      cases command <;> cases other
  | some ticket =>
      rw [origin] at label
      refine ⟨k,ticket,seq,?_,commandPayload_injective (label.symm.trans payload)⟩
      rw [List.getElem?_eq_getElem number,origin]

theorem origin_event (logged : Logged s) (found : s.origins[k]? = some (some ticket)) :
    ∃ event ∈ s.db.haEvents, event.seq = k + 1 ∧ event.payload = commandPayload ticket.command := by
  obtain ⟨number,same⟩ := List.getElem?_eq_some_iff.mp found
  have inside : k < s.db.haEvents.length := logged.labels.length_eq ▸ number
  have label : Labels s.db.haEvents[k] s.origins[k] := (List.forall₂_iff_get.mp logged.labels).2 k inside number
  rw [same] at label
  exact ⟨s.db.haEvents[k],List.getElem_mem inside,event_at logged (List.getElem?_eq_getElem inside),label⟩

theorem cut_consistent (sound : Sound s) (clear : ∀ call ∈ s.calls, call.unapplied lastSeq = false) :
    ∀ event ∈ s.db.haEvents, event.seq ≤ lastSeq → ∀ command, event.payload = commandPayload command →
      ∃ ticket ∈ s.applied, s.origins[event.seq - 1]? = some (some ticket) ∧ ticket.command = command := by
  intro event member early command payload
  obtain ⟨k,ticket,number,origin,own⟩ := event_origin sound.logged member payload
  refine ⟨ticket,?_,by rw [number]; exact origin,own⟩
  rcases sound.traced.origin k ticket origin with applied | waiting
  · exact applied
  · have held := clear _ (List.mem_of_getElem? waiting)
    simp only [Call.unapplied,decide_eq_false_iff_not] at held
    omega

theorem consistent_cut (sound : Sound s)
    (included : ∀ event ∈ s.db.haEvents, event.seq ≤ lastSeq → ∀ command, event.payload = commandPayload command →
      ∃ ticket ∈ s.applied, s.origins[event.seq - 1]? = some (some ticket) ∧ ticket.command = command) :
    ∀ call ∈ s.calls, call.unapplied lastSeq = false := by
  intro call member
  obtain ⟨command,phase⟩ := call
  cases phase with
  | persisted seq =>
      simp only [Call.unapplied,decide_eq_false_iff_not]
      intro early
      obtain ⟨i,found⟩ := List.mem_iff_getElem?.mp member
      obtain ⟨k,rfl,origin⟩ := sound.traced.stored i command seq found
      obtain ⟨event,listed,number,payload⟩ := origin_event sound.logged origin
      obtain ⟨ticket,applied,same,-⟩ := included event listed (number ▸ early) command payload
      -- The ticket of the event is the waiting call's own, which memory does not hold.
      rw [number,Nat.add_sub_cancel,origin] at same
      cases same
      rcases sound.traced.landed _ applied with held | held <;> rw [found] at held <;> cases held
  | _ => rfl

theorem eventRows_later (member : event ∈ eventRows clock seq payloads) : seq < event.seq := by
  have number : event.seq ∈ (eventRows clock seq payloads).map HaEventRecord.seq := List.mem_map_of_mem member
  rw [eventRows_seqs,List.mem_range'_1] at number
  omega

-- A step only adds to the log, and past the sequence numbers already given.
theorem step_log (step : Step s action next) :
    (∃ fresh, next.db.haEvents = s.db.haEvents ++ fresh ∧ ∀ event ∈ fresh, s.db.sequence < event.seq) ∧
      ∃ more, next.origins = s.origins ++ more := by
  cases step with
  | persist mode waiting stored =>
      exact ⟨⟨_,(applyClusterCommandInTx_appended stored).2.rows,fun _ => eventRows_later⟩,_,rfl⟩
  | persistAffinity mode stored =>
      exact ⟨⟨_,(upsertAffinityBindings_appended stored).1.rows,fun _ => eventRows_later⟩,_,rfl⟩
  | commitBatch stored =>
      exact ⟨⟨_,(applyBackgroundWrites_appended stored).rows,fun _ => eventRows_later⟩,_,rfl⟩
  | _ => exact ⟨⟨[],by simp,by simp⟩,[],by simp⟩

theorem consistent_frame (sound : Sound s) (step : Step s action next) (member : snapshot ∈ s.snapshots) :
    Consistent next snapshot ↔ Consistent s snapshot := by
  cases snapshot with
  | sequenceRead lastSeq => exact Iff.rfl
  | taken lastSeq readAt contacts applied =>
      obtain ⟨⟨fresh,rows,later⟩,more,labels⟩ := step_log step
      have bounded : lastSeq ≤ s.db.sequence := sound.bounded _ member
      refine and_congr ?_ Iff.rfl
      rw [rows,labels]
      constructor
      · intro included event listed early command payload
        obtain ⟨ticket,held,origin,own⟩ := included event (List.mem_append_left _ listed) early command payload
        refine ⟨ticket,held,?_,own⟩
        obtain ⟨k,_,number,found,-⟩ := event_origin sound.logged listed payload
        rw [number,Nat.add_sub_cancel] at origin ⊢
        rwa [List.getElem?_append_left (List.getElem?_eq_some_iff.mp found).1] at origin
      · intro included event listed early command payload
        rcases List.mem_append.mp listed with old | new
        · obtain ⟨ticket,held,origin,own⟩ := included event old early command payload
          exact ⟨ticket,held,getElem?_grow origin more,own⟩
        · have past := later event new
          omega

theorem settled_read (due : s.snapshots[snapshot]? = some (.sequenceRead lastSeq)) :
    settled s (.readContacts snapshot) = true ↔ ∀ call ∈ s.calls, call.unapplied lastSeq = false := by
  simp [settled,due]

theorem read_cuts (sound : Sound s) (due : s.snapshots[i]? = some (.sequenceRead lastSeq))
    (kept : ∀ snapshot ∈ s.snapshots, (Consistent next snapshot ↔ Consistent s snapshot))
    (rows : next.db = s.db) (labels : next.origins = s.origins)
    (read : next.snapshots = s.snapshots.set i (.taken lastSeq s.now (s.state.snapshot s.now).1 s.applied)) :
    ConsistentCuts next ↔ ConsistentCuts s ∧ settled s (.readContacts i) = true := by
  rw [settled_read due]
  constructor
  · intro cuts
    refine ⟨?_,?_⟩
    · intro snapshot member
      obtain ⟨j,found⟩ := List.mem_iff_getElem?.mp member
      by_cases same : j = i
      · subst same
        rw [found] at due
        cases due
        trivial
      · refine (kept snapshot member).mp (cuts snapshot ?_)
        rw [read]
        exact List.mem_of_getElem? ((List.getElem?_set_ne (Ne.symm same)).trans found)
    · have own := cuts (.taken lastSeq s.now (s.state.snapshot s.now).1 s.applied)
        (read ▸ List.mem_set (List.getElem?_eq_some_iff.mp due).1 _)
      simp only [Consistent,rows,labels] at own
      exact consistent_cut sound own.1
  · intro both snapshot member
    rcases both with ⟨cuts,clear⟩
    rw [read] at member
    rcases List.mem_or_eq_of_mem_set member with old | rfl
    · exact (kept snapshot old).mpr (cuts snapshot old)
    · simp only [Consistent,rows,labels]
      refine ⟨cut_consistent sound clear,fun time later aor => ?_⟩
      rw [SharedState.install_snapshot_live sound.reflected.keyed later aor]
      exact sound.reflected.live time later aor

theorem step_cuts (sound : Sound s) (step : Step s action next) :
    ConsistentCuts next ↔ ConsistentCuts s ∧ settled s action = true := by
  have kept : ∀ snapshot ∈ s.snapshots, (Consistent next snapshot ↔ Consistent s snapshot) :=
    fun snapshot member => consistent_frame sound step member
  cases step with
  | readSequence =>
      refine ⟨fun cuts => ⟨?_,rfl⟩,?_⟩
      · intro snapshot member
        exact (kept snapshot member).mp (cuts snapshot (List.mem_append_left _ member))
      · intro both snapshot member
        rcases both with ⟨cuts,-⟩
        rcases List.mem_append.mp member with old | new
        · exact (kept snapshot old).mpr (cuts snapshot old)
        · rw [List.mem_singleton.mp new]
          trivial
  | readContacts due => exact read_cuts sound due kept rfl rfl rfl
  | _ =>
      refine ⟨fun cuts => ⟨?_,rfl⟩,?_⟩
      · exact fun snapshot member => (kept snapshot member).mp (cuts snapshot member)
      · intro both snapshot member
        rcases both with ⟨cuts,-⟩
        exact (kept snapshot member).mpr (cuts snapshot member)

theorem run_cuts (sound : Sound s) (ran : s.run actions = some final) :
    ConsistentCuts final ↔ ConsistentCuts s ∧
      Machine.Within Leader.advance (fun s action => settled s action = true) s actions := by
  induction actions generalizing s with
  | nil => cases ran; simp [Machine.Within]
  | cons action rest ih =>
      obtain ⟨next,stepped,later⟩ := Machine.run_cons.mp ran
      have step := advance_sound stepped
      rw [ih (step_sound sound step) later,step_cuts sound step]
      simp only [Machine.Within,Option.mem_def,stepped,Option.some.injEq,forall_eq',and_assoc]

theorem cuts_exact (ran : (Leader.start mode).run actions = some s) :
    ConsistentCuts s ↔
      Machine.Within Leader.advance (fun s action => settled s action = true) (.start mode) actions := by
  rw [run_cuts (start_sound mode) ran]
  simp [ConsistentCuts,Leader.start]

theorem step_unpersisted (optional : s.mode ≠ .required)
    (clear : ∀ call ∈ s.calls, ∀ lastSeq, call.unapplied lastSeq = false) (step : Step s action next) :
    next.mode = s.mode ∧ ∀ call ∈ next.calls, ∀ lastSeq, call.unapplied lastSeq = false := by
  cases step with
  | submit =>
      refine ⟨rfl,fun call member => ?_⟩
      rcases List.mem_append.mp member with old | new
      · exact clear call old
      · rw [List.mem_singleton.mp new]
        exact fun _ => rfl
  | persist mode waiting stored => exact absurd mode optional
  | persistFails mode waiting => exact absurd mode optional
  | apply due moves =>
      refine ⟨rfl,fun call member => ?_⟩
      rcases List.mem_or_eq_of_mem_set member with old | rfl
      · exact clear call old
      · obtain ⟨-,-,rfl⟩ | ⟨-,-,rfl⟩ | ⟨-,-,rfl⟩ := afterApply_cases moves <;> exact fun _ => rfl
  | enqueue due =>
      refine ⟨rfl,fun call member => ?_⟩
      rcases List.mem_or_eq_of_mem_set member with old | rfl
      · exact clear call old
      · exact fun _ => rfl
  | _ => exact ⟨rfl,clear⟩

-- Where memory comes before the log, no read can be early.
theorem cuts_consistent (optional : mode ≠ .required) (ran : (Leader.start mode).run actions = some s) :
    ConsistentCuts s := by
  have held := Machine.run_preserves
    (fun s => Sound s ∧ s.mode ≠ .required ∧ (∀ call ∈ s.calls, ∀ lastSeq, call.unapplied lastSeq = false) ∧
      ConsistentCuts s) ?_ ⟨start_sound mode,optional,by simp [Leader.start],by simp [ConsistentCuts,Leader.start]⟩ ran
  · exact held.2.2.2
  · intro s action next before advanced
    obtain ⟨sound,optional,clear,cuts⟩ := before
    have step := advance_sound advanced
    obtain ⟨same,clearNext⟩ := step_unpersisted optional clear step
    refine ⟨step_sound sound step,same ▸ optional,clearNext,(step_cuts sound step).mpr ⟨cuts,?_⟩⟩
    cases action with
    | readContacts i =>
        simp only [settled]
        split
        · simpa using fun call member => clear call member _
        · rfl
    | _ => rfl

def alice (contact : String) : ClusterCommand :=
  .registerContact ⟨"sip:alice@example.com",contact,"10.0.0.1:5060",1000⟩

def cutAfterApply : List Action :=
  [.submit (alice "sip:alice@10.0.0.1"),.persist 0 id,.apply 0,.readSequence false,.readContacts 0]

def cutBeforeApply : List Action :=
  [.submit (alice "sip:alice@10.0.0.1"),.persist 0 id,.readSequence false,.readContacts 0,.apply 0]

theorem cut_after_apply_consistent :
    ∃ s, (Leader.start .required).run cutAfterApply = some s ∧ ConsistentCuts s := by
  have reached : ∃ s, (Leader.start .required).run cutAfterApply = some s := ⟨_,rfl⟩
  obtain ⟨s,ran⟩ := reached
  exact ⟨s,ran,(cuts_exact ran).mpr (by decide)⟩

-- The snapshot claims event 1 and does not hold its contact.
theorem cut_before_apply_loses_event :
    ∃ s contacts, (Leader.start .required).run cutBeforeApply = some s ∧
      s.snapshots[0]? = some (.taken 1 0 contacts []) ∧ contacts.contacts = [] ∧
      s.db.haEvents.map HaEventRecord.payload = [commandPayload (alice "sip:alice@10.0.0.1")] ∧ ¬ ConsistentCuts s := by
  have reached : ∃ s contacts, (Leader.start .required).run cutBeforeApply = some s ∧
      s.snapshots = [.taken 1 0 contacts []] ∧ contacts.contacts = [] ∧
      s.db.haEvents = [⟨1,commandPayload (alice "sip:alice@10.0.0.1"),1⟩] := ⟨_,_,rfl,rfl,rfl,rfl⟩
  obtain ⟨s,contacts,ran,snapshots,empty,events⟩ := reached
  refine ⟨s,contacts,ran,by rw [snapshots]; rfl,empty,by rw [events]; rfl,fun cuts => ?_⟩
  have own := cuts (.taken 1 0 contacts []) (by simp [snapshots])
  obtain ⟨ticket,member,-⟩ := own.1 _ (by rw [events]; exact List.mem_singleton_self _) (Nat.le_refl 1)
    (alice "sip:alice@10.0.0.1") rfl
  cases member

end Sigproxy.Replicator
