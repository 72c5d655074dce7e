import Sigproxy.Proxy.Courses
import Sigproxy.Proxy.ResponseRouting

namespace Sigproxy.Proxy
open Library Net Cluster Affinity

variable {Packet Message : Type} {codec : Codec Packet Message} {settings : Settings} {pool next : ServerPool Packet}

section Copies

-- The key under which a datagram is a copy of a client's request.
def copyKey (codec : Codec Packet Message) (input : Input Packet) : Option String :=
  if input.isDatagram then
    (input.request codec).bind fun request =>
      (udpClientTransactionKey codec request.message request.peer request.method).toOption.join
  else none

def keyOf (codec : Codec Packet Message) (pool : ServerPool Packet) (task : Nat) : Option String :=
  pool.inputs[task]?.bind (copyKey codec)

def Op.asksTransaction (key : String) : Op Packet → Bool
  | .lookupUdpClientTransaction asked => asked == key
  | _ => false

def misses (key : String) (record : Record Packet) : Bool :=
  match record.event with
  | ⟨.lookupUdpClientTransaction asked,none⟩ => asked == key
  | _ => false

def keeps (key : String) (record : Record Packet) : Bool :=
  match record.event.op with
  | .rememberUdpClientTransaction kept _ => kept == key
  | _ => false

def failsToSend (record : Record Packet) : Bool :=
  match record.event with
  | ⟨.sendToUpstream ..,sent⟩ => !sent
  | ⟨.sendRequest ..,reply⟩ => !reply.isOk
  | _ => false

theorem copyKey_exact {input : Input Packet} : copyKey codec input = some key ↔ ∃ request, input.isDatagram = true ∧
    input.request codec = some request ∧ udpClientTransactionKey codec request.message request.peer request.method = .ok (some key) := by
  unfold copyKey
  constructor
  · intro keyed
    split at keyed
    · rename_i isDatagram
      obtain ⟨request,requested,keyed⟩ := Option.bind_eq_some_iff.mp keyed
      refine ⟨request,isDatagram,requested,?_⟩
      cases named : udpClientTransactionKey codec request.message request.peer request.method with
      | error error => simp [named,Except.toOption] at keyed
      | ok found =>
          simp only [named,Except.toOption,Option.join_some] at keyed
          rw [keyed]
    · cases keyed
  · intro given
    rcases given with ⟨request,isDatagram,requested,named⟩
    simp [isDatagram,requested,named,Except.toOption]

theorem keyOf_exact {task : Nat} : keyOf codec pool task = some key ↔ ∃ input request, pool.inputs[task]? = some input ∧
    input.isDatagram = true ∧ input.request codec = some request ∧
    udpClientTransactionKey codec request.message request.peer request.method = .ok (some key) := by
  unfold keyOf
  simp only [Option.bind_eq_some_iff,copyKey_exact,exists_and_left]

theorem keeps_exact (key : String) (record : Record Packet) :
    keeps key record = true ↔ ∃ target, record.event = ⟨.rememberUdpClientTransaction key target,()⟩ := by
  obtain ⟨task,time,⟨op,reply⟩⟩ := record
  cases op with
  | rememberUdpClientTransaction kept target => simp [keeps]
  | _ => simp [keeps]

theorem failed_exact {history : List (Record Packet)} :
    Failed (System.own task history) ↔ ∃ record ∈ history, record.task = task ∧ failsToSend record = true := by
  constructor
  · rintro (⟨packet,upstream,member⟩ | ⟨upstream,branch,packet,method,error,member⟩) <;>
    · obtain ⟨record,inHistory,ofTask,event⟩ := System.mem_own.mp member
      exact ⟨record,inHistory,ofTask,by rw [failsToSend,event]; rfl⟩
  · intro given
    rcases given with ⟨⟨_,time,⟨op,reply⟩⟩,inHistory,rfl,fails⟩
    have member := System.mem_own.mpr ⟨_,inHistory,rfl,rfl⟩
    cases op with
    | sendToUpstream packet upstream =>
        cases reply with
        | true => cases fails
        | false => exact .inl ⟨packet,upstream,member⟩
    | sendRequest upstream branch packet method =>
        cases reply with
        | ok responses => cases fails
        | error error => exact .inr ⟨upstream,branch,packet,method,error,member⟩
    | _ => cases fails

theorem misses_exact (key : String) (record : Record Packet) :
    misses key record = true ↔ record.event = ⟨.lookupUdpClientTransaction key,none⟩ := by
  obtain ⟨task,time,⟨op,reply⟩⟩ := record
  cases op with
  | lookupUdpClientTransaction asked =>
      cases reply with
      | none => simp [misses]
      | some route => simp [misses]
  | _ => simp [misses]

end Copies

section Conditions

def remembered (w : World Packet) (key : String) (target : UpstreamTarget) :
    Table String (Stamped (UdpClientTransactionRoute Packet)) :=
  (pruneUdpClientTransactions w.now w.udpClientTransactions).insert key ⟨⟨target,none⟩,w.now⟩

def shardLoad (settings : Settings) (key : String) (transactions : Table String (Stamped (UdpClientTransactionRoute Packet))) : Nat :=
  (transactions.entries.filter fun entry => settings.shardIndex entry.1 == settings.shardIndex key).length

def LosslessCall (codec : Codec Packet Message) (settings : Settings) (key : String) (pool : ServerPool Packet) (task : Nat)
    (choice : Choice Packet) : Op Packet → Prop
  | .sendToUpstream .. => keyOf codec pool task = some key → choice.flag = true
  | .sendRequest .. => keyOf codec pool task = some key → choice.responses.isOk = true
  | .rememberUdpClientTransaction kept target =>
    shardLoad settings kept (remembered pool.world kept target) ≤ settings.udpClientTransactionShardLimit
  | .lookupUdpClientTransaction asked =>
    asked = key → ∀ record ∈ pool.history, keeps key record = true → pool.world.now - record.time ≤ udpBranchTtl
  | _ => True

-- No send of a copy fails, no cache entry is evicted, and a copy comes within the
-- lifetime of the registrations before it.
def Lossless (codec : Codec Packet Message) (settings : Settings) (key : String) (pool : ServerPool Packet) :
    ServerAction Packet → Prop
  | .step task choice => ∀ op ∈ System.nextOp pool task, LosslessCall codec settings key pool task choice op
  | _ => True

-- A copy that looked its transaction up in vain and has still to register it.
def Underway (key : String) (pool : ServerPool Packet) (task : Nat) : Prop :=
  (∃ record ∈ pool.history, record.task = task ∧ misses key record = true) ∧
    (∀ record ∈ pool.history, record.task = task → keeps key record = false) ∧ (System.nextOp pool task).isSome = true

def InTurn (key : String) (pool : ServerPool Packet) : ServerAction Packet → Prop
  | .step task _ => (System.nextOp pool task).any (Op.asksTransaction key) = true →
    ∀ other < pool.tasks.length, other ≠ task → ¬Underway key pool other
  | _ => True

instance (key : String) (pool : ServerPool Packet) (task : Nat) : Decidable (Underway key pool task) :=
  inferInstanceAs (Decidable (_ ∧ _ ∧ _))

instance (key : String) (pool : ServerPool Packet) : ∀ action, Decidable (InTurn key pool action)
  | .spawn _ => inferInstanceAs (Decidable True)
  | .change _ => inferInstanceAs (Decidable True)
  | .step _ _ => inferInstanceAs (Decidable (_ → _))

instance (codec : Codec Packet Message) (settings : Settings) (key : String) (pool : ServerPool Packet) (task : Nat)
    (choice : Choice Packet) (op : Op Packet) : Decidable (LosslessCall codec settings key pool task choice op) := by
  casesm Op _ <;> dsimp only [LosslessCall] <;> infer_instance

instance (codec : Codec Packet Message) (settings : Settings) (key : String) (pool : ServerPool Packet) :
    ∀ action, Decidable (Lossless codec settings key pool action)
  | .spawn _ => inferInstanceAs (Decidable True)
  | .change _ => inferInstanceAs (Decidable True)
  | .step _ _ => inferInstanceAs (Decidable (∀ op ∈ _, _))

end Conditions

section Cache

-- Every registration of the key that has not expired still stands in the cache.
structure Cached (key : String) (w : World Packet) (history : List (Record Packet)) : Prop where
  past : ∀ record ∈ history, record.time ≤ w.now
  stands : ∀ record ∈ history, keeps key record = true → w.now - record.time ≤ udpBranchTtl →
    ∃ entry, w.udpClientTransactions.lookup key = some entry ∧ record.time ≤ entry.createdAt

theorem cached_pruned {record : Record Packet} {w : World Packet} (cached : Cached key w history) (member : record ∈ history)
    (kept : keeps key record = true) (inTime : w.now - record.time ≤ udpBranchTtl) :
    ∃ entry, (pruneUdpClientTransactions w.now w.udpClientTransactions).lookup key = some entry ∧ record.time ≤ entry.createdAt := by
  obtain ⟨entry,found,later⟩ := cached.stands record member kept inTime
  refine ⟨entry,?_,later⟩
  have fresh : entry.fresh udpBranchTtl w.now = true := by
    simp only [Stamped.fresh,decide_eq_true_eq]
    omega
  rw [pruneUdpClientTransactions,Expiring.prune,Table.lookup_retain,found,Option.filter_some,if_pos fresh]

theorem enforce_roomy (fuel : Nat) {transactions : Table String (Stamped (UdpClientTransactionRoute Packet))}
    (roomy : shardLoad settings key transactions ≤ settings.udpClientTransactionShardLimit) :
    enforceUdpClientTransactionShardLimit settings (settings.shardIndex key) fuel transactions = transactions := by
  cases fuel with
  | zero => rfl
  | succ fuel => exact if_pos roomy

theorem perform_remembered {choice : Choice Packet} {w : World Packet}
    (roomy : shardLoad settings key (remembered w key target) ≤ settings.udpClientTransactionShardLimit) :
    (perform settings (.rememberUdpClientTransaction key target) choice w).2.udpClientTransactions = remembered w key target :=
  enforce_roomy _ roomy

def Op.touchesTransactions : Op Packet → Bool
  | .lookupUdpClientTransaction _ | .rememberUdpClientTransaction .. => true
  | .rememberUdpClientTransactionFinalResponse .. | .removeUdpClientTransaction _ => true
  | _ => false

theorem perform_transactions {op : Op Packet} (untouched : op.touchesTransactions = false) (choice : Choice Packet)
    (w : World Packet) : (perform settings op choice w).2.udpClientTransactions = w.udpClientTransactions := by
  cases op with
  | lookupUdpClientTransaction key => cases untouched
  | rememberUdpClientTransaction key target => cases untouched
  | rememberUdpClientTransactionFinalResponse key response => cases untouched
  | removeUdpClientTransaction key => cases untouched
  | submit command => simp only [perform]; split <;> rfl
  | _ => rfl

theorem cached_snoc {record : Record Packet} {w after : World Packet} (cached : Cached key w history) (sameNow : after.now = w.now)
    (made : record.time = w.now) (stays : ∀ earlier ∈ history, keeps key earlier = true → w.now - earlier.time ≤ udpBranchTtl →
      ∃ entry, after.udpClientTransactions.lookup key = some entry ∧ earlier.time ≤ entry.createdAt)
    (registered : keeps key record = true → ∃ entry, after.udpClientTransactions.lookup key = some entry ∧ w.now ≤ entry.createdAt) :
    Cached key after (history ++ [record]) where
  past other member := by
    rw [sameNow]
    rcases List.mem_append.mp member with earlier | last
    · exact cached.past other earlier
    · rw [List.mem_singleton.mp last]; exact Nat.le_of_eq made
  stands other member kept inTime := by
    rw [sameNow] at inTime
    rcases List.mem_append.mp member with earlier | last
    · exact stays other earlier kept inTime
    · rw [List.mem_singleton.mp last] at kept ⊢
      rw [made]
      exact registered kept

theorem perform_cached {op : Op Packet} {w : World Packet} {choice : Choice Packet} (cached : Cached key w history) (task : Nat)
    (kept : op ≠ .removeUdpClientTransaction key)
    (roomy : ∀ other target, op = .rememberUdpClientTransaction other target →
      shardLoad settings other (remembered w other target) ≤ settings.udpClientTransactionShardLimit) :
    Cached key (perform settings op choice w).2 (history ++ [⟨task,w.now,⟨op,(perform settings op choice w).1⟩⟩]) := by
  refine cached_snoc cached (perform_now op choice w) rfl ?_ ?_
  · intro earlier member registers inTime
    have pruned := cached_pruned cached member registers inTime
    cases op with
    | lookupUdpClientTransaction asked => exact pruned
    | rememberUdpClientTransaction other target =>
        rw [perform_remembered (roomy other target rfl),remembered,Table.lookup_insert_eq]
        split
        · exact ⟨_,rfl,cached.past earlier member⟩
        · exact pruned
    | rememberUdpClientTransactionFinalResponse other response =>
        simp only [perform]
        split
        · rw [Table.lookup_insert_eq]
          split
          · exact ⟨_,rfl,cached.past earlier member⟩
          · exact pruned
        · exact pruned
    | removeUdpClientTransaction other =>
        simp only [perform]
        rw [Table.lookup_erase_eq,if_neg fun same => kept (by rw [same])]
        exact cached.stands earlier member registers inTime
    | _ =>
        rw [perform_transactions rfl]
        exact cached.stands earlier member registers inTime
  · intro registers
    obtain ⟨target,event⟩ := (keeps_exact key _).mp registers
    cases op with
    | rememberUdpClientTransaction other target =>
        cases event
        rw [perform_remembered (roomy _ _ rfl),remembered,Table.lookup_insert_eq,if_pos rfl]
        exact ⟨_,rfl,Nat.le_refl _⟩
    | _ => cases event

theorem lookup_cached {record : Record Packet} {w : World Packet} {choice : Choice Packet} (cached : Cached key w history)
    (member : record ∈ history) (kept : keeps key record = true) (inTime : w.now - record.time ≤ udpBranchTtl) :
    (perform settings (.lookupUdpClientTransaction key) choice w).1 ≠ none := by
  obtain ⟨entry,found,_⟩ := cached_pruned cached member kept inTime
  simp [perform,found]

end Cache

section Solitary

-- A copy that has ended without forwarding anything.
def Spent (pool : ServerPool Packet) (task : Nat) : Prop :=
  System.nextOp pool task = none ∧ ∀ record ∈ pool.history, record.task = task → record.event.op.forwards = false

structure Solitary (codec : Codec Packet Message) (settings : Settings) (key : String) (pool : ServerPool Packet) : Prop where
  coursed : Coursed codec settings pool
  cached : Cached key pool.world pool.history
  unfailed : ∀ record ∈ pool.history, keyOf codec pool record.task = some key → failsToSend record = false
  alone : ∀ one ∈ pool.history, ∀ two ∈ pool.history, misses key one = true → misses key two = true → one.task ≠ two.task →
    Spent pool one.task ∨ Spent pool two.task

theorem start_solitary (codec : Codec Packet Message) (settings : Settings) (key : String) :
    Solitary codec settings key (System.start (World.new Packet settings.affinity)) where
  coursed := System.start_tracked _
  cached := ⟨by simp [System.start],by simp [System.start]⟩
  unfailed := by simp [System.start]
  alone := by simp [System.start]

-- Whoever has finished with a miss behind it has forwarded nothing or is registered.
theorem solitary_ended {codec : Codec Packet Message} (solitary : Solitary codec settings key pool) {missed : Record Packet}
    (member : missed ∈ pool.history) (misses : misses key missed = true) (ended : System.nextOp pool missed.task = none) :
    Spent pool missed.task ∨ ∃ record ∈ pool.history, keeps key record = true := by
  have inside := solitary.coursed.started missed member
  have hasInput := List.getElem?_eq_getElem inside
  have hasTask := List.getElem?_eq_getElem (solitary.coursed.sized ▸ inside)
  obtain ⟨before,after,split⟩ := List.append_of_mem member
  obtain ⟨input,sameInput,course⟩ := solitary.coursed.admitted before missed after split
  have event := (misses_exact key missed).mp misses
  rw [event] at course
  obtain ⟨request,requested,isDatagram,_,keyed⟩ := course_request course fun idle => idle
  obtain ⟨outcome,finished⟩ := System.nextOp_outcome hasTask ended
  have concluded := Program.along_outcome (solitary.coursed.path missed.task input _ sameInput hasTask) finished request requested
  have copied : keyOf codec pool missed.task = some key := keyOf_exact.mpr ⟨input,request,sameInput,isDatagram,requested,keyed⟩
  rcases concluded.settled isDatagram with unforwarded | failed | registered
  · exact .inl ⟨ended,fun record inHistory ofTask => unforwarded _ (System.mem_own.mpr ⟨record,inHistory,ofTask,rfl⟩)⟩
  · obtain ⟨record,inHistory,ofTask,fails⟩ := failed_exact.mp failed
    cases (solitary.unfailed record inHistory (ofTask ▸ copied)).symm.trans fails
  · obtain ⟨target,kept⟩ := registered key keyed
    obtain ⟨record,inHistory,_,event⟩ := System.mem_own.mp kept
    exact .inr ⟨record,inHistory,(keeps_exact key record).mpr ⟨target,event⟩⟩

section Step
variable {task : Nat} {op : Op Packet} {rest : op.Reply → Task Packet Unit} {choice : Choice Packet}

theorem lossless_send (standing : System.nextOp pool task = some op) (lossless : Lossless codec settings key pool (.step task choice))
    (copied : keyOf codec pool task = some key) (time : Nat) :
    failsToSend ⟨task,time,⟨op,(perform settings op choice pool.world).1⟩⟩ = false := by
  have call := lossless op standing
  cases op with
  | sendToUpstream packet upstream => simp [failsToSend,perform,call copied]
  | sendRequest upstream branch packet method => simp [failsToSend,perform,call copied]
  | _ => rfl

theorem lossless_roomy (standing : System.nextOp pool task = some (.rememberUdpClientTransaction kept target))
    (lossless : Lossless codec settings key pool (.step task choice)) :
    shardLoad settings kept (remembered pool.world kept target) ≤ settings.udpClientTransactionShardLimit :=
  lossless _ standing

theorem lossless_timely (standing : System.nextOp pool task = some (.lookupUdpClientTransaction key))
    (lossless : Lossless codec settings key pool (.step task choice)) :
    ∀ record ∈ pool.history, keeps key record = true → pool.world.now - record.time ≤ udpBranchTtl :=
  lossless _ standing rfl

-- Nobody takes a registration of the key away where no copy fails to send.
theorem solitary_keeps (solitary : Solitary codec settings key pool) (found : pool.tasks[task]? = some (.call op rest)) :
    op ≠ .removeUdpClientTransaction key := by
  intro same
  rcases same with rfl
  have inside : task < pool.inputs.length := solitary.coursed.sized ▸ (List.getElem?_eq_some_iff.mp found).1
  have hasInput := List.getElem?_eq_getElem inside
  have course := (solitary.coursed.path task _ _ hasInput found ()).1
  obtain ⟨request,requested,isDatagram,failed,keyed⟩ := course_request course fun idle => idle
  obtain ⟨record,inHistory,ofTask,fails⟩ := failed_exact.mp failed
  have copied : keyOf codec pool task = some key := keyOf_exact.mpr ⟨_,request,hasInput,isDatagram,requested,keyed⟩
  cases (solitary.unfailed record inHistory (ofTask ▸ copied)).symm.trans fails

-- A copy that misses does so where every other copy is spent.
theorem miss_alone (solitary : Solitary codec settings key pool) (lossless : Lossless codec settings key pool (.step task choice))
    (inTurn : InTurn key pool (.step task choice)) (standing : System.nextOp pool task = some op)
    (missing : misses key ⟨task,pool.world.now,⟨op,(perform settings op choice pool.world).1⟩⟩ = true)
    {other : Record Packet} (member : other ∈ pool.history) (missed : misses key other = true) (different : other.task ≠ task) :
    Spent pool other.task := by
  have event := (misses_exact key _).mp missing
  have isLookup : op = .lookupUdpClientTransaction key := congrArg Event.op event
  subst isLookup
  have missesNow : (perform settings (.lookupUdpClientTransaction key) choice pool.world).1 = none := eq_of_heq (Event.mk.inj event).2
  have unregistered : ∀ record ∈ pool.history, keeps key record = false := by
    intro record inHistory
    cases kept : keeps key record with
    | false => rfl
    | true => exact (lookup_cached solitary.cached inHistory kept (lossless_timely standing lossless record inHistory kept) missesNow).elim
  have inside : other.task < pool.tasks.length := solitary.coursed.sized ▸ solitary.coursed.started other member
  have idle := inTurn (by rw [standing]; simp [Op.asksTransaction]) other.task inside different
  have ended : System.nextOp pool other.task = none := by
    cases stands : System.nextOp pool other.task with
    | none => rfl
    | some following =>
        exact (idle ⟨⟨other,member,rfl,missed⟩,fun record inHistory _ => unregistered record inHistory,by rw [stands]; rfl⟩).elim
  rcases solitary_ended solitary member missed ended with spent | ⟨record,inHistory,kept⟩
  · exact spent
  · cases (unregistered record inHistory).symm.trans kept

end Step

theorem spent_stays {task other : Nat} {entry : Record Packet} {program : Task Packet Unit} {w : World Packet}
    (standing : System.nextOp pool task = some op) (made : entry.task = task) (spent : Spent pool other) :
    Spent {pool with tasks:=pool.tasks.set task program,world:=w,history:=pool.history ++ [entry]} other := by
  have different : task ≠ other := by
    intro same
    rcases same with rfl
    cases standing.symm.trans spent.1
  refine ⟨?_,fun record member ofTask => ?_⟩
  · unfold System.nextOp
    rw [List.getElem?_set_ne different]
    exact spent.1
  · rcases List.mem_append.mp member with earlier | last
    · exact spent.2 record earlier ofTask
    · rw [List.mem_singleton.mp last,made] at ofTask
      exact (different ofTask).elim

theorem step_solitary {task : Nat} {choice : Choice Packet} (solitary : Solitary codec settings key pool)
    (lossless : Lossless codec settings key pool (.step task choice)) (inTurn : InTurn key pool (.step task choice))
    (stepped : (server codec settings).advance pool (.step task choice) = some next) : Solitary codec settings key next := by
  have coursed := System.step_tracked solitary.coursed stepped
  obtain ⟨op,rest,found,rfl⟩ := System.advance_step stepped
  have standing : System.nextOp pool task = some op := by simp [System.nextOp,found]
  refine ⟨coursed,?_,?_,?_⟩
  · apply perform_cached solitary.cached task (solitary_keeps solitary found)
    intro other target same
    subst same
    exact lossless_roomy standing lossless
  · intro record member copied
    rcases List.mem_append.mp member with earlier | last
    · exact solitary.unfailed record earlier copied
    · cases List.mem_singleton.mp last
      exact lossless_send standing lossless copied _
  · intro one first two second missesFirst missesSecond different
    rcases List.mem_append.mp first with earlier | last
    · rcases List.mem_append.mp second with earlier' | last'
      · exact (solitary.alone one earlier two earlier' missesFirst missesSecond different).imp (spent_stays standing rfl) (spent_stays standing rfl)
      · cases List.mem_singleton.mp last'
        exact .inl (spent_stays standing rfl (miss_alone solitary lossless inTurn standing missesSecond earlier missesFirst different))
    · cases List.mem_singleton.mp last
      rcases List.mem_append.mp second with earlier' | last'
      · exact .inr (spent_stays standing rfl (miss_alone solitary lossless inTurn standing missesFirst earlier' missesSecond different.symm))
      · cases List.mem_singleton.mp last'
        exact (different rfl).elim

theorem spawn_solitary {input : Input Packet} (solitary : Solitary codec settings key pool)
    (stepped : (server codec settings).advance pool (.spawn input) = some next) : Solitary codec settings key next := by
  have coursed := System.spawn_tracked solitary.coursed (handler_course input) stepped
  cases stepped
  have sameKey {record : Record Packet} (member : record ∈ pool.history) :
      keyOf codec {pool with inputs:=pool.inputs ++ [input],tasks:=pool.tasks ++ [handler codec settings input]} record.task =
        keyOf codec pool record.task := by
    unfold keyOf
    rw [List.getElem?_append_left (solitary.coursed.started record member)]
  have sameOp {record : Record Packet} (member : record ∈ pool.history) :
      System.nextOp {pool with inputs:=pool.inputs ++ [input],tasks:=pool.tasks ++ [handler codec settings input]} record.task =
        System.nextOp pool record.task := by
    unfold System.nextOp
    rw [List.getElem?_append_left (solitary.coursed.sized ▸ solitary.coursed.started record member)]
  refine ⟨coursed,solitary.cached,fun record member copied => ?_,fun one first two second missesFirst missesSecond different => ?_⟩
  · exact solitary.unfailed record member ((sameKey member).symm.trans copied)
  · refine (solitary.alone one first two second missesFirst missesSecond different).imp (fun spent => ?_) (fun spent => ?_)
    · exact ⟨(sameOp first).trans spent.1,spent.2⟩
    · exact ⟨(sameOp second).trans spent.1,spent.2⟩

theorem change_solitary {change : Change} (solitary : Solitary codec settings key pool)
    (stepped : (server codec settings).advance pool (.change change) = some next) : Solitary codec settings key next := by
  cases stepped
  have coursed : Coursed codec settings {pool with world:=World.change change pool.world} :=
    ⟨solitary.coursed.sized,solitary.coursed.started,solitary.coursed.path,solitary.coursed.past⟩
  refine ⟨coursed,?_,solitary.unfailed,solitary.alone⟩
  cases change with
  | replicate state affinity => exact ⟨solitary.cached.past,solitary.cached.stands⟩
  | elapse duration =>
      refine ⟨fun record member => Nat.le_trans (solitary.cached.past record member) (Nat.le_add_right _ _),?_⟩
      intro record member kept inTime
      refine solitary.cached.stands record member kept (Nat.le_trans ?_ inTime)
      exact Nat.sub_le_sub_right (Nat.le_add_right _ _) _

theorem run_solitary {actions : List (ServerAction Packet)}
    (lossless : Machine.Within (server codec settings).advance (Lossless codec settings key)
      (System.start (World.new Packet settings.affinity)) actions)
    (inTurn : Machine.Within (server codec settings).advance (InTurn key) (System.start (World.new Packet settings.affinity)) actions)
    (ran : runServer codec settings actions = some pool) : Solitary codec settings key pool := by
  refine Machine.run_preserves_within (Solitary codec settings key) ?_ (lossless.and inTurn) (start_solitary codec settings key) ran
  intro pool action next guarded solitary stepped
  cases action with
  | spawn input => exact spawn_solitary solitary stepped
  | step task choice => exact step_solitary solitary guarded.1 guarded.2 stepped
  | change change => exact change_solitary solitary stepped

end Solitary

section Once
variable {one two : Record Packet}

theorem forwarded_missed (coursed : Coursed codec settings pool) {record : Record Packet} (split : pool.history = before ++ record :: after)
    (forwards : record.event.op.forwards = true) (copied : keyOf codec pool record.task = some key) :
    ∃ missed ∈ before, missed.task = record.task ∧ misses key missed = true := by
  obtain ⟨input,hasInput,course⟩ := coursed.admitted before record after split
  obtain ⟨input',request,sameInput,isDatagram,requested,keyed⟩ := keyOf_exact.mp copied
  cases hasInput.symm.trans sameInput
  obtain ⟨prepared,sending⟩ := follows_sending (course_follows course requested) forwards
  obtain ⟨missed,inBefore,ofTask,event⟩ := System.mem_own.mp (sending.1.fresh isDatagram key keyed)
  exact ⟨missed,inBefore,ofTask,(misses_exact key missed).mpr event⟩

theorem retransmission_forwarded_once {actions : List (ServerAction Packet)}
    (lossless : Machine.Within (server codec settings).advance (Lossless codec settings key)
      (System.start (World.new Packet settings.affinity)) actions)
    (inTurn : Machine.Within (server codec settings).advance (InTurn key) (System.start (World.new Packet settings.affinity)) actions)
    (ran : runServer codec settings actions = some pool) (first : one ∈ pool.history) (second : two ∈ pool.history)
    (firstForwards : one.event.op.forwards = true) (secondForwards : two.event.op.forwards = true)
    (firstCopy : keyOf codec pool one.task = some key) (secondCopy : keyOf codec pool two.task = some key) : one = two := by
  have solitary := run_solitary lossless inTurn ran
  by_cases same : one.task = two.task
  · exact forward_once solitary.coursed first second same firstForwards secondForwards
  · obtain ⟨beforeFirst,_,splitFirst⟩ := List.append_of_mem first
    obtain ⟨beforeSecond,_,splitSecond⟩ := List.append_of_mem second
    obtain ⟨missedFirst,inFirst,ofFirst,missesFirst⟩ := forwarded_missed solitary.coursed splitFirst firstForwards firstCopy
    obtain ⟨missedSecond,inSecond,ofSecond,missesSecond⟩ := forwarded_missed solitary.coursed splitSecond secondForwards secondCopy
    replace inFirst : missedFirst ∈ pool.history := by rw [splitFirst]; exact List.mem_append_left _ inFirst
    replace inSecond : missedSecond ∈ pool.history := by rw [splitSecond]; exact List.mem_append_left _ inSecond
    have different : missedFirst.task ≠ missedSecond.task := by rw [ofFirst,ofSecond]; exact same
    rcases solitary.alone missedFirst inFirst missedSecond inSecond missesFirst missesSecond different with spent | spent
    · cases (spent.2 one first ofFirst.symm).symm.trans firstForwards
    · cases (spent.2 two second ofSecond.symm).symm.trans secondForwards

def copyName : String := "167772161:5060:z9hG4bK-client:call:1:INVITE"

def twoCopies : Schedule := [datagram (request .invite) clientAddr,datagram (request .invite) clientAddr]

-- The second copy is looked up while the first stands before its target selection.
def overlapping : Schedule := twoCopies ++ steps 0 1 ++ steps 1 1 ++ steps 0 11 ++ steps 1 11
def oneByOne : Schedule := twoCopies ++ steps 0 12 ++ steps 1 2

theorem overlapping_copies_forwarded_twice : ∃ pool one two, runServer envelopeCodec plainSettings overlapping = some pool ∧
    Machine.Within (server envelopeCodec plainSettings).advance (Lossless envelopeCodec plainSettings copyName)
      (System.start (World.new Envelope plainSettings.affinity)) overlapping ∧
    one ∈ pool.history ∧ two ∈ pool.history ∧ one.event.op.forwards = true ∧ two.event.op.forwards = true ∧
    keyOf envelopeCodec pool one.task = some copyName ∧ keyOf envelopeCodec pool two.task = some copyName ∧ one ≠ two := by
  have reached : ∃ pool one two, runServer envelopeCodec plainSettings overlapping = some pool ∧
      pool.history[10]? = some one ∧ pool.history[21]? = some two ∧ one.event.op.forwards = true ∧ two.event.op.forwards = true ∧
      one.task = 0 ∧ two.task = 1 ∧ keyOf envelopeCodec pool 0 = some copyName ∧ keyOf envelopeCodec pool 1 = some copyName :=
    ⟨_,_,_,rfl,rfl,rfl,rfl,rfl,rfl,rfl,rfl,rfl⟩
  obtain ⟨pool,one,two,ran,first,second,firstForwards,secondForwards,ofFirst,ofSecond,firstCopy,secondCopy⟩ := reached
  refine ⟨pool,one,two,ran,by decide +kernel,List.mem_of_getElem? first,List.mem_of_getElem? second,firstForwards,secondForwards,
    ofFirst ▸ firstCopy,ofSecond ▸ secondCopy,?_⟩
  intro same
  rcases same with rfl
  cases ofFirst.symm.trans ofSecond

theorem copy_in_turn_absorbed : ∃ pool sent, runServer envelopeCodec plainSettings oneByOne = some pool ∧ sent ∈ pool.history ∧
    sent.event.op.forwards = true ∧ keyOf envelopeCodec pool 1 = some copyName ∧
    ∀ other ∈ pool.history, other.event.op.forwards = true → keyOf envelopeCodec pool other.task = some copyName → other = sent := by
  have reached : ∃ pool sent, runServer envelopeCodec plainSettings oneByOne = some pool ∧ pool.history[9]? = some sent ∧
      sent.event.op.forwards = true ∧ sent.task = 0 ∧ keyOf envelopeCodec pool 0 = some copyName ∧
      keyOf envelopeCodec pool 1 = some copyName := ⟨_,_,rfl,rfl,rfl,rfl,rfl,rfl⟩
  obtain ⟨pool,sent,ran,first,forwards,ofTask,copied,again⟩ := reached
  refine ⟨pool,sent,ran,List.mem_of_getElem? first,forwards,again,fun other member otherForwards otherCopy => ?_⟩
  exact retransmission_forwarded_once (by decide +kernel) (by decide +kernel) ran member (List.mem_of_getElem? first)
    otherForwards forwards otherCopy (ofTask ▸ copied)

end Once
end Sigproxy.Proxy
