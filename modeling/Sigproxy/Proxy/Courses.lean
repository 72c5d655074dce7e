import Sigproxy.Proxy.Ledger
import Sigproxy.Proxy.RequestPath

namespace Sigproxy.Proxy
open Library Net Cluster Affinity

variable {Packet Message : Type} {codec : Codec Packet Message} {settings : Settings} {pool : ServerPool Packet}

abbrev Coursed (codec : Codec Packet Message) (settings : Settings) (pool : ServerPool Packet) : Prop :=
  System.Tracked (Course codec settings) (Conclusion codec) pool

theorem run_coursed (ran : runServer codec settings actions = some pool) : Coursed codec settings pool :=
  System.run_tracked handler_course ran

section Courses
variable {input : Input Packet} {past : List (Act Packet)} {act : Act Packet}

theorem course_follows {request : Request Message} (course : Course codec settings input past act) (requested : input.request codec = some request) :
    Follows codec settings input.isDatagram request past act := by
  unfold Course at course
  rw [requested] at course
  exact course

-- Only a request that comes to be forwarded makes such a call.
theorem course_request (course : Course codec settings input past act) (busy : ¬Idle act.op) :
    ∃ request, input.request codec = some request ∧ Follows codec settings input.isDatagram request past act := by
  unfold Course at course
  split at course
  · rename_i request requested
    exact ⟨request,requested,course⟩
  · exact (busy course).elim

theorem forwards_busy {op : Op Packet} (forwards : op.forwards = true) : ¬Idle op := by
  cases op with
  | sendToUpstream packet upstream => exact fun idle => idle
  | sendRequest upstream branch packet method => exact fun idle => idle
  | _ => cases forwards

theorem follows_sending {request : Request Message} {datagram : Bool} (follows : Follows codec settings datagram request past act)
    (forwards : act.op.forwards = true) : ∃ prepared, Sending codec settings datagram request past prepared := by
  obtain ⟨op,reply⟩ := act
  cases op with
  | sendToUpstream packet upstream =>
      obtain ⟨_,prepared,_,sending,_⟩ := follows
      exact ⟨prepared,sending⟩
  | sendRequest upstream branch packet method =>
      obtain ⟨prepared,sending,_⟩ := follows
      exact ⟨prepared,sending⟩
  | _ => cases forwards

end Courses

section Once
variable {one two : Record Packet}

theorem forward_once (coursed : Coursed codec settings pool) (first : one ∈ pool.history) (second : two ∈ pool.history)
    (same : one.task = two.task) (firstForwards : one.event.op.forwards = true) (secondForwards : two.event.op.forwards = true) :
    one = two := by
  refine coursed.once (fun input past act course forwards => ?_) first second same firstForwards secondForwards
  obtain ⟨request,_,follows⟩ := course_request course (forwards_busy forwards)
  obtain ⟨prepared,sending⟩ := follows_sending follows forwards
  exact sending.1.unforwarded

theorem ask_once (coursed : Coursed codec settings pool) (first : one ∈ pool.history) (second : two ∈ pool.history)
    (same : one.task = two.task) (firstAsks : one.event.op.asksInvite = true) (secondAsks : two.event.op.asksInvite = true) :
    one = two := by
  refine coursed.once (fun input past act course asks => ?_) first second same firstAsks secondAsks
  obtain ⟨op,reply⟩ := act
  cases op with
  | lookupInviteTransaction key =>
      obtain ⟨request,_,follows⟩ := course_request course fun idle => idle
      exact follows.1
  | _ => cases asks

end Once

section Runs

theorem perform_now (op : Op Packet) (choice : Choice Packet) (w : World Packet) :
    (perform settings op choice w).2.now = w.now := by
  cases op with
  | rememberUdpClientTransactionFinalResponse key response => simp only [perform]; split <;> rfl
  | submit command => simp only [perform]; split <;> rfl
  | _ => rfl

theorem run_ordered (ran : runServer codec settings actions = some pool) :
    Throughout (fun before record => ∀ earlier ∈ before, earlier.time ≤ record.time) pool.history := by
  refine System.run_times (fun op choice w => Nat.le_of_eq (perform_now op choice w).symm) (fun change w => ?_) ran
  cases change with
  | elapse duration => exact Nat.le_add_right _ _
  | replicate state affinity => exact Nat.le_refl _

end Runs
end Sigproxy.Proxy
