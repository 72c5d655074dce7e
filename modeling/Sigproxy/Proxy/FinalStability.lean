import Sigproxy.Proxy.AckAnswers
import Sigproxy.Proxy.Retransmission

namespace Sigproxy.Proxy.FinalStability
open Library Net Cluster Affinity
open Program

variable {Packet Message : Type} {codec : Codec Packet Message} {settings : Settings}

section Finals
variable (codec)

-- What an upstream connection has yielded and the task has still to relay.
def unrelayed (past : List (Act Packet)) : List Packet := past.foldl (fun rest act =>
  match act with
  | ⟨.sendRequest ..,.ok responses⟩ => responses
  | ⟨.sendToClient ..,_⟩ => rest.tail
  | _ => rest) []

-- The next datagram to the client is what becomes of a final response.
def Streaming (past : List (Act Packet)) : Prop :=
  ∃ packet message, (unrelayed past).head? = some packet ∧ codec.parse packet = .ok message ∧ isFinal codec message = true

-- The transaction was found answered.
def Hit (past : List (Act Packet)) (response : Packet) : Prop :=
  ∃ key target, ⟨.lookupUdpClientTransaction key,some ⟨target,some response⟩⟩ ∈ past

def Caches (key : String) (response : Packet) : Op Packet → Prop
  | .rememberUdpClientTransactionFinalResponse answered kept => answered = key ∧ kept = response
  | _ => False

def cachesFor (key : String) : Op Packet → Bool
  | .rememberUdpClientTransactionFinalResponse answered _ => answered == key
  | _ => false

-- The 503 that a datagram gets when it cannot be forwarded.
def unavailable (input : Input Packet) : Option Packet :=
  (codec.parse input.packet).toOption.bind fun message =>
    (addressed codec input.isDatagram input.peer message 503 "Service Unavailable").toOption

-- A copy that has come to its transaction is told of a forwarding error.
def Reported (input : Input Packet) (key : String) (past : List (Act Packet)) (packet : Packet) : Prop :=
  (∃ act ∈ past, act.op.asksTransaction key = true) ∧ ¬Hit past packet ∧ (∀ act ∈ past, ¬Caches key packet act.op) ∧
    unavailable codec input = some packet

-- A final response on its way to the client of a transaction: relayed from a UDP
-- upstream or from a connection, or the proxy's own.
inductive Finale (pool : ServerPool Packet) (key : String) (before : List (Record Packet)) (sent : Record Packet) (packet : Packet) : Prop where
  | relayed : pool.inputs[sent.task]? = some input → kind codec input = .response message upstream → isFinal codec message = true →
      ⟨.lookupUdpBranch branch,some route⟩ ∈ System.own sent.task before → route.clientTransactionKey = some key →
      Finale pool key before sent packet
  | streamed : keyOf codec pool sent.task = some key → Streaming codec (System.own sent.task before) → Finale pool key before sent packet
  | reported : pool.inputs[sent.task]? = some input → copyKey codec input = some key →
      Reported codec input key (System.own sent.task before) packet → Finale pool key before sent packet

-- A copy is answered with the response and with nothing else, and is not forwarded.
structure Repeats (pool : ServerPool Packet) (key : String) (asked : Record Packet) (response : Packet) : Prop where
  found : ∃ target, asked.event = ⟨.lookupUdpClientTransaction key,some ⟨target,some response⟩⟩
  unforwarded : ∀ record ∈ pool.history, record.task = asked.task → record.event.op.forwards = false
  nothing : ∀ record ∈ pool.history, record.task = asked.task → ∀ packet client, record.event.op = .sendToClient packet client → packet = response
  answered : ∀ input program outcome, pool.inputs[asked.task]? = some input → pool.tasks[asked.task]? = some program →
    program.outcome = some outcome → ∃ record ∈ pool.history, record.task = asked.task ∧
      record.event = ⟨.sendToClient response input.peer,true⟩

-- Once a final response has been sent, later copies within the lifetime get it again.
def Stable (pool : ServerPool Packet) (key : String) : Prop := ∀ before sent between asked after packet client,
  pool.history = before ++ sent :: between ++ asked :: after → sent.event = ⟨.sendToClient packet client,true⟩ →
  Finale codec pool key before sent packet → asked.event.op = .lookupUdpClientTransaction key →
  asked.time - sent.time ≤ udpBranchTtl → Repeats pool key asked packet

end Finals

section Conditions

-- The final response that the cache has for a transaction.
def finalOf (w : World Packet) (key : String) : Option Packet :=
  ((pruneUdpClientTransactions w.now w.udpClientTransactions).lookup key).bind fun entry => entry.content.finalResponse

def SteadyCall (codec : Codec Packet Message) (settings : Settings) (key : String) (pool : ServerPool Packet) (task : Nat)
    (choice : Choice Packet) : Op Packet → Prop
  | .rememberUdpClientTransaction kept target =>
    shardLoad settings kept (remembered pool.world kept target) ≤ settings.udpClientTransactionShardLimit ∧
      (kept = key → finalOf pool.world key = none)
  | .removeUdpClientTransaction removed => removed = key → finalOf pool.world key = none
  | .rememberUdpClientTransactionFinalResponse answered response => answered = key →
    ((pruneUdpClientTransactions pool.world.now pool.world.udpClientTransactions).lookup key).isSome = true ∧
      ∀ earlier ∈ finalOf pool.world key, earlier = response
  | .lookupUdpClientTransaction asked => asked = key → ∀ cached ∈ pool.history, ∀ sent ∈ pool.history, sent.task = cached.task →
    cachesFor key cached.event.op = true → sent.event.op.answersClient = true →
    pool.world.now - sent.time ≤ udpBranchTtl → pool.world.now - cached.time ≤ udpBranchTtl
  | .sendToClient packet _ => ∀ input ∈ pool.inputs[task]?, copyKey codec input = some key →
    choice.flag = true ∧ ¬Reported codec input key (System.own task pool.history) packet
  | _ => True

-- Nothing is evicted, no live final response is overwritten by another or taken
-- away, each finds the entry of its transaction, and no copy is told of an error.
def Steady (codec : Codec Packet Message) (settings : Settings) (key : String) (pool : ServerPool Packet) : ServerAction Packet → Prop
  | .step task choice => ∀ op ∈ System.nextOp pool task, SteadyCall codec settings key pool task choice op
  | _ => True

def Finds (response : Packet) : Act Packet → Prop
  | ⟨.lookupUdpClientTransaction _,some route⟩ => route.finalResponse = some response
  | _ => False

theorem hit_exact {past : List (Act Packet)} {response : Packet} : (∃ act ∈ past, Finds response act) ↔ Hit past response := by
  constructor
  · intro given
    rcases given with ⟨⟨op,reply⟩,member,finds⟩
    cases op with
    | lookupUdpClientTransaction key =>
        cases reply with
        | none => exact finds.elim
        | some route =>
            obtain ⟨target,answer⟩ := route
            cases finds
            exact ⟨key,target,member⟩
    | _ => exact finds.elim
  · intro given
    rcases given with ⟨key,target,member⟩
    exact ⟨_,member,rfl⟩

section Decisions
variable [DecidableEq Packet]

instance (response : Packet) (act : Act Packet) : Decidable (Finds response act) := by
  unfold Finds
  split <;> infer_instance

instance (past : List (Act Packet)) (response : Packet) : Decidable (Hit past response) := decidable_of_iff _ hit_exact

instance (key : String) (response : Packet) (op : Op Packet) : Decidable (Caches key response op) := by
  casesm Op _ <;> dsimp only [Caches] <;> infer_instance

instance (codec : Codec Packet Message) (input : Input Packet) (key : String) (past : List (Act Packet)) (packet : Packet) :
    Decidable (Reported codec input key past packet) := inferInstanceAs (Decidable (_ ∧ _ ∧ _ ∧ _))

instance (codec : Codec Packet Message) (settings : Settings) (key : String) (pool : ServerPool Packet) (task : Nat)
    (choice : Choice Packet) (op : Op Packet) : Decidable (SteadyCall codec settings key pool task choice op) := by
  casesm Op _ <;> dsimp only [SteadyCall] <;> infer_instance

instance (codec : Codec Packet Message) (settings : Settings) (key : String) (pool : ServerPool Packet) :
    ∀ action, Decidable (Steady codec settings key pool action)
  | .spawn _ => inferInstanceAs (Decidable True)
  | .change _ => inferInstanceAs (Decidable True)
  | .step _ _ => inferInstanceAs (Decidable (∀ op ∈ _, _))

end Decisions
end Conditions

section Cache
variable {w : World Packet} {history : List (Record Packet)} {key : String}

-- Every final response that was cached and has not expired still stands.
structure Kept (key : String) (w : World Packet) (history : List (Record Packet)) : Prop where
  past : ∀ record ∈ history, record.time ≤ w.now
  stands : ∀ record ∈ history, ∀ response, Caches key response record.event.op → w.now - record.time ≤ udpBranchTtl →
    ∃ entry, (pruneUdpClientTransactions w.now w.udpClientTransactions).lookup key = some entry ∧
      entry.content.finalResponse = some response ∧ record.time ≤ entry.createdAt

theorem Kept.final {record : Record Packet} (kept : Kept key w history) (member : record ∈ history) (caches : Caches key response record.event.op)
    (inTime : w.now - record.time ≤ udpBranchTtl) : finalOf w key = some response := by
  obtain ⟨entry,found,final,_⟩ := kept.stands record member response caches inTime
  unfold finalOf
  rw [found]
  exact final

theorem prune_live {table : Table String (Stamped (UdpClientTransactionRoute Packet))} {entry : Stamped (UdpClientTransactionRoute Packet)}
    (found : table.lookup key = some entry) (onward : time ≤ entry.createdAt) (inTime : now - time ≤ udpBranchTtl) :
    (pruneUdpClientTransactions now table).lookup key = some entry := by
  have fresh : entry.fresh udpBranchTtl now = true := by
    simp only [Stamped.fresh,decide_eq_true_eq]
    omega
  rw [pruneUdpClientTransactions,Expiring.prune,Table.lookup_retain,found,Option.filter_some,if_pos fresh]

theorem perform_kept {op : Op Packet} {choice : Choice Packet} {pool : ServerPool Packet} {task : Nat} (kept : Kept key pool.world pool.history)
    (steady : SteadyCall codec settings key pool task choice op) :
    Kept key (perform settings op choice pool.world).2
      (pool.history ++ [⟨task,pool.world.now,⟨op,(perform settings op choice pool.world).1⟩⟩]) := by
  have sameNow := @perform_now Packet settings op choice pool.world
  refine ⟨fun record member => ?_,fun record member response caches inTime => ?_⟩
  · rw [sameNow]
    rcases List.mem_append.mp member with earlier | last
    · exact kept.past record earlier
    · rw [List.mem_singleton.mp last]
  rw [sameNow] at inTime ⊢
  rcases List.mem_append.mp member with earlier | last
  · have final := kept.final earlier caches inTime
    obtain ⟨entry,found,answer,onward⟩ := kept.stands record earlier response caches inTime
    have again := prune_live found onward inTime
    cases op with
    | lookupUdpClientTransaction asked => exact ⟨entry,again,answer,onward⟩
    | rememberUdpClientTransaction other target =>
        have another : key ≠ other := by
          intro same
          rcases same with rfl
          cases (steady.2 rfl).symm.trans final
        refine ⟨entry,prune_live ?_ onward inTime,answer,onward⟩
        rw [perform_remembered steady.1,remembered,Table.lookup_insert_eq,if_neg another]
        exact found
    | rememberUdpClientTransactionFinalResponse other later =>
        simp only [perform]
        split
        · rename_i held _
          by_cases same : key = other
          · subst same
            cases (steady rfl).2 response final
            refine ⟨_,prune_live (by rw [Table.lookup_insert_eq,if_pos rfl]) (Nat.le_refl _) ?_,rfl,kept.past record earlier⟩
            exact Nat.le_trans (Nat.le_of_eq (Nat.sub_self _)) (Nat.zero_le _)
          · exact ⟨entry,prune_live (by rw [Table.lookup_insert_eq,if_neg same]; exact found) onward inTime,answer,onward⟩
        · exact ⟨entry,again,answer,onward⟩
    | removeUdpClientTransaction other =>
        have another : key ≠ other := by
          intro same
          rcases same with rfl
          cases (steady rfl).symm.trans final
        refine ⟨entry,?_,answer,onward⟩
        rw [pruneUdpClientTransactions,Expiring.prune,Table.lookup_retain] at found ⊢
        simp only [perform]
        rw [Table.lookup_erase_eq,if_neg another]
        exact found
    | _ =>
        rw [perform_transactions rfl]
        exact ⟨entry,found,answer,onward⟩
  · cases List.mem_singleton.mp last
    cases op with
    | rememberUdpClientTransactionFinalResponse other later =>
        obtain ⟨rfl,rfl⟩ := caches
        obtain ⟨entry,found⟩ := Option.isSome_iff_exists.mp (steady rfl).1
        simp only [perform,found]
        exact ⟨_,prune_live (by rw [Table.lookup_insert_eq,if_pos rfl]) (Nat.le_refl _) inTime,rfl,Nat.le_refl _⟩
    | _ => exact caches.elim

theorem change_kept (kept : Kept key w history) (change : Change) : Kept key (World.change change w) history := by
  cases change with
  | replicate state affinity => exact ⟨kept.past,kept.stands⟩
  | elapse duration =>
      refine ⟨fun record member => Nat.le_trans (kept.past record member) (Nat.le_add_right _ _),fun record member response caches inTime => ?_⟩
      have sooner : w.now - record.time ≤ udpBranchTtl := Nat.le_trans (Nat.sub_le_sub_right (Nat.le_add_right _ _) _) inTime
      obtain ⟨entry,found,answer,onward⟩ := kept.stands record member response caches sooner
      rw [pruneUdpClientTransactions,Expiring.prune,Table.lookup_retain] at found
      exact ⟨entry,prune_live (Option.filter_eq_some_iff.mp found).1 onward inTime,answer,onward⟩

theorem run_kept {actions : List (ServerAction Packet)} {pool : ServerPool Packet}
    (steady : Machine.Within (server codec settings).advance (Steady codec settings key) (System.start (World.new Packet settings.affinity)) actions)
    (ran : runServer codec settings actions = some pool) : Kept key pool.world pool.history := by
  refine Machine.run_preserves_within (fun pool => Kept key pool.world pool.history) ?_ steady ⟨by simp [System.start],by simp [System.start]⟩ ran
  intro pool action next guarded kept stepped
  cases action with
  | spawn input => cases stepped; exact kept
  | change change => cases stepped; exact change_kept kept change
  | step task choice =>
      obtain ⟨op,rest,found,rfl⟩ := System.advance_step stepped
      exact perform_kept kept (guarded op (by simp [System.nextOp,found]))

end Cache
section Copies
variable {past : List (Act Packet)} {act : Act Packet} {input : Input Packet} {key : String}

-- What each call of a copy stands on.
structure CopyCares (codec : Codec Packet Message) (input : Input Packet) (key : String) (past : List (Act Packet)) (act : Act Packet) : Prop where
  looked : ∀ asked, act.op = .lookupUdpClientTransaction asked → ∀ other ∈ past, other.op.answersClient = false
  repeated : ∀ response, Hit past response → act.op = .sendToClient response input.peer ∨ ⟨.sendToClient response input.peer,false⟩ ∈ past
  streamed : ∀ packet client, act.op = .sendToClient packet client → Streaming codec past → (∀ response, ¬Hit past response) ∧
    ((∃ act ∈ past, Caches key packet act.op) ∨ unavailable codec input = some packet)

def Unhit (past : List (Act Packet)) : Prop := ∀ response, ¬Hit past response

-- The calls beside the transaction, the upstream connection and the client.
def Mute : Op Packet → Prop
  | .sendToClient .. | .lookupUdpClientTransaction _ | .sendRequest .. => False
  | _ => True

def Mild : Op Packet → Prop
  | .lookupUdpClientTransaction _ | .sendRequest .. => False
  | _ => True

-- Nothing has been found and nothing has been yielded.
structure Plainly (past : List (Act Packet)) : Prop where
  unhit : Unhit past
  drained : unrelayed past = []

theorem unrelayed_snoc (past : List (Act Packet)) (act : Act Packet) : unrelayed (past ++ [act]) =
    match act with
    | ⟨.sendRequest ..,.ok responses⟩ => responses
    | ⟨.sendToClient ..,_⟩ => (unrelayed past).tail
    | _ => unrelayed past := by
  unfold unrelayed
  rw [List.foldl_append]
  rfl

theorem hit_snoc (hit : Hit (past ++ [act]) response) (other : ∀ key, act.op ≠ .lookupUdpClientTransaction key) : Hit past response := by
  obtain ⟨key,target,member⟩ := hit
  rcases List.mem_append.mp member with earlier | last
  · exact ⟨key,target,earlier⟩
  · rw [← List.mem_singleton.mp last] at other
    exact (other key rfl).elim

theorem mute_mild {op : Op Packet} (mute : Mute op) : Mild op := by
  cases op <;> first | exact mute.elim | trivial

theorem mild_unasked {op : Op Packet} (mild : Mild op) (key : String) : op ≠ .lookupUdpClientTransaction key := by
  intro same
  rcases same with rfl
  exact mild

theorem neutral_mute {Result : Type} {task : Task Packet Result} (neutral : task.Uses Neutral) : task.Uses Mute :=
  neutral.mono fun op allowed => by cases op <;> first | exact allowed.elim | trivial

theorem neutral_mild {Result : Type} {task : Task Packet Result} (neutral : task.Uses Neutral) : task.Uses Mild :=
  (neutral_mute neutral).mono fun _ => mute_mild

theorem unhit_snoc (unhit : Unhit past) (mild : Mild act.op) : Unhit (past ++ [act]) :=
  fun response hit => unhit response (hit_snoc hit (mild_unasked mild))

theorem unrelayed_mute (mute : Mute act.op) : unrelayed (past ++ [act]) = unrelayed past := by
  rw [unrelayed_snoc]
  obtain ⟨op,reply⟩ := act
  cases op <;> first | exact mute.elim | rfl

theorem Plainly.mild (plainly : Plainly past) (mild : Mild act.op) : Plainly (past ++ [act]) where
  unhit := unhit_snoc plainly.unhit mild
  drained := by
    rw [unrelayed_snoc]
    obtain ⟨op,reply⟩ := act
    cases op with
    | lookupUdpClientTransaction key => exact mild.elim
    | sendRequest upstream branch packet method => exact mild.elim
    | sendToClient packet client =>
        dsimp only
        rw [plainly.drained]
        rfl
    | _ => exact plainly.drained

theorem drained_unstreaming (drained : unrelayed past = []) : ¬Streaming codec past := by
  intro given
  rcases given with ⟨packet,message,next,_⟩
  rw [drained] at next
  cases next

theorem mute_cares (codec : Codec Packet Message) (input : Input Packet) (key : String) (unhit : Unhit past) (mute : Mute act.op) :
    CopyCares codec input key past act where
  looked asked same := by rw [same] at mute; exact mute.elim
  repeated response hit := (unhit response hit).elim
  streamed packet client same := by rw [same] at mute; exact mute.elim

theorem mild_cares (codec : Codec Packet Message) (input : Input Packet) (key : String) (plainly : Plainly past) (mild : Mild act.op) :
    CopyCares codec input key past act where
  looked asked same := by rw [same] at mild; exact mild.elim
  repeated response hit := (plainly.unhit response hit).elim
  streamed packet client same streaming := (drained_unstreaming plainly.drained streaming).elim

theorem plainly_along {Result : Type} {task : Task Packet Result} (mild : task.Uses Mild) (plainly : Plainly past) :
    task.Along (CopyCares codec input key) (fun after _ => Plainly after) past :=
  along_uses mild (fun _ _ plainly allowed => mild_cares codec input key plainly allowed) (fun _ _ plainly allowed => plainly.mild allowed) plainly

theorem plainly_then {First Second : Type} {task : Task Packet First} {next : First → Task Packet Second}
    {ends : List (Act Packet) → Except String Second → Prop} (mild : task.Uses Mild) (plainly : Plainly past)
    (rest : ∀ after result, Plainly after → (next result).Along (CopyCares codec input key) ends after)
    (failed : ∀ after error, Plainly after → ends after (.error error)) :
    (task >>= next).Along (CopyCares codec input key) ends past :=
  along_bind _ (plainly_along mild plainly) rest failed

-- What is still to be relayed stays so, whatever else the task does.
def Yielding (responses : List Packet) (past : List (Act Packet)) : Prop := Unhit past ∧ unrelayed past = responses

theorem Yielding.mute {responses : List Packet} (yielding : Yielding responses past) (mute : Mute act.op) : Yielding responses (past ++ [act]) :=
  ⟨unhit_snoc yielding.1 (mute_mild mute),(unrelayed_mute mute).trans yielding.2⟩

theorem yielding_then {First Second : Type} {task : Task Packet First} {next : First → Task Packet Second}
    {ends : List (Act Packet) → Except String Second → Prop} {responses : List Packet} (mute : task.Uses Mute) (yielding : Yielding responses past)
    (rest : ∀ after result, Yielding responses after → (next result).Along (CopyCares codec input key) ends after)
    (failed : ∀ after error, Yielding responses after → ends after (.error error)) :
    (task >>= next).Along (CopyCares codec input key) ends past :=
  along_bind _ (along_uses mute (fun _ _ yielding allowed => mute_cares codec input key yielding.1 allowed)
    (fun _ _ yielding allowed => yielding.mute allowed) yielding) rest failed

theorem sendUdpToTcpResponses_cares (client : SocketAddr) (branch : String) (addrs : List String) (method : Method) (responses : List Packet)
    (yielding : Yielding responses past) : (sendUdpToTcpResponses codec client branch (some key) addrs method responses).Along
      (CopyCares codec input key) (fun after _ => Unhit after) past := by
  induction responses generalizing past with
  | nil => exact yielding.1
  | cons packet rest ih =>
      refine along_lift (fun message parsed => ?_) fun _ _ => yielding.1
      refine yielding_then (neutral_mute (applyRegisterStartLine_neutral branch message).uses) yielding (fun past _ yielding => ?_) fun _ _ held => held.1
      refine along_lift (fun repaired _ => along_lift (fun addressed _ => ?_) fun _ _ => yielding.1) fun _ _ => yielding.1
      dsimp only
      refine along_bind (fun after _ => Yielding (packet :: rest) after ∧ (isFinal codec message = true →
        ∃ act ∈ after, Caches key (codec.toBytes addressed) act.op)) ?_ (fun past _ remembered => ?_) fun _ _ held => held.1.1
      · dsimp only [rememberFinal]
        split
        · rename_i final
          exact fun reply => ⟨mute_cares codec input key yielding.1 trivial,yielding.mute trivial,fun _ => ⟨_,last_mem past _,rfl,rfl⟩⟩
        · rename_i provisional
          exact ⟨yielding,fun final => (provisional final).elim⟩
      obtain ⟨yielding,cached⟩ := remembered
      have cares (sent : Bool) : CopyCares codec input key past ⟨.sendToClient (codec.toBytes addressed) client,sent⟩ := by
        refine ⟨fun _ same => (nomatch same),fun response hit => (yielding.1 response hit).elim,?_⟩
        intro _ _ same given
        rcases given with ⟨next,found,first,parsed',final⟩
        cases same
        rw [yielding.2] at first
        cases first
        cases parsed.symm.trans parsed'
        exact ⟨yielding.1,.inl (cached final)⟩
      refine along_call fun sent => ⟨cares sent,?_⟩
      have further : Yielding rest (past ++ [⟨.sendToClient (codec.toBytes addressed) client,sent⟩]) := by
        refine ⟨unhit_snoc yielding.1 trivial,?_⟩
        rw [unrelayed_snoc]
        exact congrArg List.tail yielding.2
      cases sent with
      | false => exact further.1
      | true =>
          show (if isFinal codec message = true then pure () else
            sendUdpToTcpResponses codec client branch (some key) addrs method rest).Along _ _ _
          split
          · exact further.1
          · exact ih further

theorem forwardUdpToUdpUpstream_mild (prepared : Prepared Message) (peer : SocketAddr) (key : Option String) (method : Method) :
    (forwardUdpToUdpUpstream codec settings prepared peer key method).Uses Mild := by
  refine uses_call trivial fun _ => uses_bind (neutral_mild (rememberUdpClientTransaction_neutral _ key).uses) fun _ => uses_call trivial fun sent => ?_
  split
  · exact neutral_mild (rememberSuccessfulForward_neutral ..).uses
  · exact uses_call trivial fun _ => uses_bind (neutral_mild (removeUdpClientTransaction_neutral key).uses) fun _ => trivial

theorem sendToClient_mild (packet : Packet) (peer : SocketAddr) (error : String) : (sendToClient packet peer error).Uses Mild := by
  apply uses_call trivial
  intro sent
  split <;> trivial

theorem trying_mild (message : Message) (peer : SocketAddr) (method : Method) : (trying codec settings message peer method).Uses Mild := by
  unfold trying
  split
  · exact uses_bind (uses_lift _) fun _ => sendToClient_mild _ _ _
  · trivial

theorem rememberLocalInviteRejectionIfNeeded_mute (message : Message) (method : Method) :
    (rememberLocalInviteRejectionIfNeeded codec message method).Uses Mute := by
  unfold rememberLocalInviteRejectionIfNeeded
  split
  · split
    · exact uses_perform trivial
    · trivial
  · trivial

theorem rejectUdp_mild (message : Message) (peer : SocketAddr) (method : Method) (code : Nat) (reason : String) :
    (rejectUdp codec message peer method code reason).Uses Mild :=
  uses_bind (uses_lift _) fun _ => uses_bind ((rememberLocalInviteRejectionIfNeeded_mute message method).mono fun _ => mute_mild) fun _ =>
    sendToClient_mild _ _ _

theorem refusal_mute (listener : ProxyListenerConfig) (peer : SocketAddr) (message : Message) (method : Method) :
    (refusal codec settings listener peer message method).Uses Mute :=
  refusal_uses (fun op allowed => by cases op <;> first | exact allowed.elim | trivial) listener peer message method trivial

theorem absorbed_mute (message : Message) (method : Method) :
    (if method = .ack then consumeLocalInviteAck codec message else pure false).Uses Mute := by
  unfold consumeLocalInviteAck
  split
  · split
    · exact uses_perform trivial
    · trivial
  · trivial

theorem forwardUdpToTcpUpstream_cares (plainly : Plainly past) (prepared : Prepared Message) (client : SocketAddr) (method : Method) :
    (forwardUdpToTcpUpstream codec settings prepared client (some key) method).Along (CopyCares codec input key) (fun after _ => Unhit after) past := by
  refine along_call fun reply => ⟨⟨fun _ same => (nomatch same),fun response hit => (plainly.unhit response hit).elim,fun _ _ same => nomatch same⟩,?_⟩
  have unhit : Unhit (past ++ [⟨.sendRequest prepared.target.addr prepared.branch (codec.toBytes prepared.message) method,reply⟩]) :=
    fun response hit => plainly.unhit response (hit_snoc hit fun _ same => nomatch same)
  cases reply with
  | error error => exact fun _ => ⟨mute_cares codec input key unhit trivial,unhit_snoc unhit trivial⟩
  | ok responses =>
      have yielding : Yielding responses (past ++ [⟨.sendRequest prepared.target.addr prepared.branch (codec.toBytes prepared.message) method,
          .ok responses⟩]) := ⟨unhit,unrelayed_snoc ..⟩
      dsimp only
      refine yielding_then (neutral_mute (rememberUdpClientTransaction_neutral _ (some key)).uses) yielding (fun past _ yielding => ?_) fun _ _ held => held.1
      refine yielding_then (neutral_mute (rememberSuccessfulForward_neutral ..).uses) yielding (fun past _ yielding => ?_) fun _ _ held => held.1
      exact sendUdpToTcpResponses_cares client prepared.branch prepared.recordRouteAddrs method responses yielding

-- How a copy leaves its forwarder: nothing was found, or the client has been sent
-- what was found.
def Returned (peer : SocketAddr) (past : List (Act Packet)) (outcome : Except String Unit) : Prop :=
  Unhit past ∨ unrelayed past = [] ∧ ∀ response, Hit past response → ∃ sent : Bool,
    ⟨.sendToClient response peer,sent⟩ ∈ past ∧ (sent = true → outcome = .ok ())

theorem Plainly.hits {reply : Option (UdpClientTransactionRoute Packet)} (plainly : Plainly past)
    (hit : Hit (past ++ [⟨.lookupUdpClientTransaction key,reply⟩]) response) : ∃ target, reply = some ⟨target,some response⟩ := by
  obtain ⟨asked,target,member⟩ := hit
  rcases List.mem_append.mp member with earlier | last
  · exact (plainly.unhit response ⟨asked,target,earlier⟩).elim
  · cases List.mem_singleton.mp last
    exact ⟨target,rfl⟩

theorem forwardUdp_cares {message : Message} {method : Method} (plainly : Plainly past)
    (silent : ∀ act ∈ past, act.op.answersClient = false) (keyed : udpClientTransactionKey codec message input.peer method = .ok (some key))
    (listener : ProxyListenerConfig) : (forwardUdp codec settings message input.peer listener method).Along (CopyCares codec input key)
      (Returned input.peer) past := by
  have returned {after : List (Act Packet)} {outcome : Except String Unit} (unhit : Unhit after) : Returned input.peer after outcome := .inl unhit
  refine along_lift (fun found same => ?_) fun error failed => nomatch keyed.symm.trans failed
  cases keyed.symm.trans same
  refine along_call fun found => ⟨⟨fun _ _ => silent,fun response hit => (plainly.unhit response hit).elim,fun _ _ same => nomatch same⟩,?_⟩
  have drained : unrelayed (past ++ [⟨.lookupUdpClientTransaction key,found⟩]) = [] := (unrelayed_snoc ..).trans plainly.drained
  have missed (unanswered : ∀ target response, found ≠ some ⟨target,some response⟩) :
      Plainly (past ++ [⟨.lookupUdpClientTransaction key,found⟩]) := by
    refine ⟨fun response hit => ?_,drained⟩
    obtain ⟨target,same⟩ := plainly.hits hit
    exact unanswered target response same
  cases found with
  | some route =>
      obtain ⟨target,answer⟩ := route
      cases answer with
      | some response =>
          have only : ∀ other, Hit (past ++ [⟨.lookupUdpClientTransaction key,some ⟨target,some response⟩⟩]) other → other = response := by
            intro other hit
            obtain ⟨_,same⟩ := plainly.hits hit
            cases same
            rfl
          refine along_call fun sent => ⟨⟨fun _ same => (nomatch same),fun other hit => .inl (by rw [only other hit]),?_⟩,?_⟩
          · exact fun _ _ _ streaming => (drained_unstreaming drained streaming).elim
          · have after : unrelayed (past ++ [⟨.lookupUdpClientTransaction key,some ⟨target,some response⟩⟩] ++
                [⟨.sendToClient response input.peer,sent⟩]) = [] := (unrelayed_snoc ..).trans (congrArg List.tail drained)
            cases sent <;>
            · refine .inr ⟨after,fun other hit => ?_⟩
              rw [only other (hit_snoc hit fun _ same => nomatch same)]
              exact ⟨_,last_mem _ _,by simp⟩
      | none =>
          refine along_mono (plainly_along (trying_mild message input.peer method) (missed fun _ _ same => nomatch same)) (fun _ _ held => held)
            fun after outcome plainly => returned plainly.unhit
  | none =>
      refine plainly_then (neutral_mild (prepareForward_neutral message input.peer listener method)) (missed fun _ _ same => nomatch same)
        (fun past prepared plainly => ?_) fun _ _ plainly => returned plainly.unhit
      refine plainly_then (trying_mild message input.peer method) plainly (fun past _ plainly => ?_) fun _ _ plainly => returned plainly.unhit
      split
      · exact along_mono (plainly_along (forwardUdpToUdpUpstream_mild ..) plainly) (fun _ _ held => held) fun _ _ plainly => returned plainly.unhit
      · exact along_mono (forwardUdpToTcpUpstream_cares plainly prepared input.peer method) (fun _ _ held => held) fun _ _ unhit => returned unhit
      · exact returned plainly.unhit

-- Whatever a finished copy has found, its client has been sent.
def Settled (peer : SocketAddr) (past : List (Act Packet)) : Prop :=
  ∀ response, Hit past response → ∃ sent : Bool, ⟨.sendToClient response peer,sent⟩ ∈ past

theorem unhit_settled (unhit : Unhit past) (peer : SocketAddr) : Settled peer past := fun response hit => (unhit response hit).elim

theorem Returned.settled {outcome : Except String Unit} (returned : Returned peer past outcome) : Settled peer past := by
  rcases returned with unhit | ⟨_,sent⟩
  · exact unhit_settled unhit peer
  · exact fun response hit => (sent response hit).imp fun _ => And.left

-- The state in which a copy is told of an error.
def Excused (peer : SocketAddr) (past : List (Act Packet)) : Prop :=
  Unhit past ∨ unrelayed past = [] ∧ ∀ response, Hit past response → ⟨.sendToClient response peer,false⟩ ∈ past

theorem Returned.excused (returned : Returned peer past (.error error)) : Excused peer past := by
  refine returned.imp_right fun ⟨drained,sent⟩ => ⟨drained,fun response hit => ?_⟩
  obtain ⟨gone,member,succeeds⟩ := sent response hit
  cases gone with
  | true => cases succeeds rfl
  | false => exact member

theorem Excused.settled (excused : Excused peer past) : Settled peer past := by
  rcases excused with unhit | ⟨_,unsent⟩
  · exact unhit_settled unhit peer
  · exact fun response hit => ⟨false,unsent response hit⟩

theorem Excused.mute (excused : Excused peer past) (mute : Mute act.op) : Excused peer (past ++ [act]) := by
  refine excused.imp (fun unhit => unhit_snoc unhit (mute_mild mute)) fun ⟨drained,unsent⟩ => ⟨(unrelayed_mute mute).trans drained,?_⟩
  exact fun response hit => List.mem_append_left _ (unsent response (hit_snoc hit (mild_unasked (mute_mild mute))))

theorem Excused.cares (excused : Excused input.peer past) (codec : Codec Packet Message) (key : String) (mute : Mute act.op) :
    CopyCares codec input key past act := by
  rcases excused with unhit | ⟨_,unsent⟩
  · exact mute_cares codec input key unhit mute
  · refine ⟨fun asked same => ?_,fun response hit => .inr (unsent response hit),fun packet client same => ?_⟩
    · rw [same] at mute; exact mute.elim
    · rw [same] at mute; exact mute.elim

theorem rejectUdp_cares {request : Message} (received : input.isDatagram = true) (parsed : codec.parse input.packet = .ok request)
    (excused : Excused input.peer past) (method : Method) : (rejectUdp codec request input.peer method 503 "Service Unavailable").Along
      (CopyCares codec input key) (fun after _ => Settled input.peer after) past := by
  refine along_lift (fun response routed => ?_) fun _ _ => excused.settled
  have told : unavailable codec input = some (codec.toBytes response) := by
    simp [unavailable,parsed,received,addressed,routed,Except.map,Except.toOption]
  refine along_bind _ (along_uses (rememberLocalInviteRejectionIfNeeded_mute request method) (fun _ _ excused allowed => Excused.cares excused codec key allowed)
    (fun _ _ excused allowed => Excused.mute excused allowed) excused) (fun past _ excused => ?_) fun _ _ excused => Excused.settled excused
  refine along_call fun sent => ⟨?_,?_⟩
  · refine ⟨fun _ same => (by cases same),fun cached hit => ?_,fun _ _ same streaming => ?_⟩
    · rcases excused with unhit | ⟨_,unsent⟩
      · exact (unhit cached hit).elim
      · exact .inr (unsent cached hit)
    · cases same
      rcases excused with unhit | ⟨drained,_⟩
      · exact ⟨unhit,.inr told⟩
      · exact (drained_unstreaming drained streaming).elim
  · have settled : Settled input.peer (past ++ [⟨.sendToClient (codec.toBytes response) input.peer,sent⟩]) := by
      intro cached hit
      obtain ⟨gone,member⟩ := excused.settled cached (hit_snoc hit fun _ same => by cases same)
      exact ⟨gone,List.mem_append_left _ member⟩
    cases sent <;> exact settled

-- Before a copy comes to its forwarder it sends nothing.
structure Unheard (past : List (Act Packet)) : Prop extends Plainly past where
  silent : ∀ act ∈ past, act.op.answersClient = false

theorem Unheard.mute (unheard : Unheard past) (mute : Mute act.op) : Unheard (past ++ [act]) where
  toPlainly := unheard.toPlainly.mild (mute_mild mute)
  silent := snoc_all unheard.silent (by
    obtain ⟨op,reply⟩ := act
    cases op <;> first | exact mute.elim | rfl)

theorem mute_unheard (mute : ∀ act ∈ past, Mute act.op) : Unheard past := by
  induction past using List.reverseRecOn with
  | nil => exact ⟨⟨fun _ hit => (nomatch hit.choose_spec.choose_spec),rfl⟩,fun _ member => nomatch member⟩
  | append_singleton rest last ih =>
      exact (ih fun act member => mute act (List.mem_append_left _ member)).mute (mute last (last_mem rest last))

theorem unheard_then {First Second : Type} {task : Task Packet First} {next : First → Task Packet Second}
    {ends : List (Act Packet) → Except String Second → Prop} (mute : task.Uses Mute) (unheard : Unheard past)
    (rest : ∀ after result, Unheard after → (next result).Along (CopyCares codec input key) ends after)
    (failed : ∀ after error, Unheard after → ends after (.error error)) :
    (task >>= next).Along (CopyCares codec input key) ends past :=
  along_bind _ (along_uses mute (fun _ _ unheard allowed => mute_cares codec input key unheard.unhit allowed)
    (fun _ _ unheard allowed => unheard.mute allowed) unheard) rest failed

theorem handleRequest_cares {packet : Packet} {peer : SocketAddr} {listener : ProxyListenerConfig} {message counted : Message} {method : Method}
    (decremented : decrementMaxForwards codec message = .ok (true,counted))
    (keyed : udpClientTransactionKey codec counted peer method = .ok (some key)) (unheard : Unheard past) :
    (handleUdpRequest codec settings packet message peer listener method).Along (CopyCares codec (.udp packet peer listener) key)
      (fun after _ => Settled peer after) past := by
  refine unheard_then (absorbed_mute message method) unheard (fun past absorbed unheard => ?_) fun _ _ unheard => unhit_settled unheard.unhit peer
  split
  · exact unhit_settled unheard.unhit peer
  refine unheard_then (refusal_mute listener peer message method) unheard (fun past refused unheard => ?_) fun _ _ unheard => unhit_settled unheard.unhit peer
  split
  · exact along_mono (plainly_along (rejectUdp_mild ..) unheard.toPlainly) (fun _ _ held => held) fun _ _ plainly => unhit_settled plainly.unhit peer
  rw [decremented]
  have forwarded : (attempt (forwardUdp codec settings counted peer listener method)).Along (CopyCares codec (.udp packet peer listener) key)
      (fun after outcome => ∃ result, outcome = .ok result ∧ Returned peer after result) past :=
    along_attempt (along_mono (@forwardUdp_cares _ _ codec settings past (.udp packet peer listener) key counted method unheard.toPlainly
      unheard.silent keyed listener) (fun _ _ held => held) fun _ result returned => ⟨result,rfl,returned⟩)
  refine along_bind _ forwarded (fun past result returned => ?_) fun _ _ returned => nomatch returned.choose_spec.1
  obtain ⟨_,same,returned⟩ := returned
  cases same
  cases result with
  | ok _ => exact returned.settled
  | error error =>
      refine along_lift (fun request parsed => ?_) fun _ _ => returned.settled
      exact @rejectUdp_cares _ _ codec past (.udp packet peer listener) key request rfl parsed returned.excused method

theorem handler_cares (copied : copyKey codec input = some key) : (handler codec settings input).Along (CopyCares codec input key)
    (fun after _ => Settled input.peer after) [] := by
  obtain ⟨request,isDatagram,requested,keyed⟩ := copyKey_exact.mp copied
  cases input with
  | tcp packet peer listener => cases isDatagram
  | udp packet peer listener =>
      simp only [Input.request,Option.ite_none_left_eq_some,Bool.or_eq_true,not_or,Bool.not_eq_true,Option.isSome_eq_false_iff,
        Option.isNone_iff_eq_none] at requested
      obtain ⟨plain,requested⟩ := requested
      have kinded := sipRequest_kind requested
      obtain ⟨message,received,counted,rfl,rfl⟩ := sipRequest_received requested
      change (handleUdpPacket codec settings packet request.peer request.listener).Along _ _ _
      unfold handleUdpPacket
      rw [plain.1.1,plain.1.2,plain.2]
      have unheard {past : List (Act Packet)} (checked : Checked past) : Unheard past := by
        apply mute_unheard
        intro act member
        obtain ⟨_,_,_,same⟩ := checked act member
        rw [same]
        trivial
      refine handleSipPacket_along (fun decision => ?_) (fun past _ checked _ => unhit_settled (unheard checked).unhit _) (fun past _ other => ?_)
        (fun past _ _ response => ?_) fun past other method checked sameKind again => ?_
      · exact mute_cares codec _ key (fun _ hit => by cases hit.choose_spec.choose_spec) trivial
      · cases kinded.symm.trans other
      · cases kinded.symm.trans response
      · cases received.parsed.symm.trans again.parsed
        cases received.named.symm.trans again.named
        exact handleRequest_cares counted keyed (unheard checked)

end Copies

section Relays
variable {past : List (Act Packet)} {act : Act Packet} {message : Message}

-- A final response is cached before it is relayed.
def RelayCares (codec : Codec Packet Message) (message : Message) (past : List (Act Packet)) (act : Act Packet) : Prop :=
  ∀ packet client, act.op = .sendToClient packet client → isFinal codec message = true →
    ∀ branch route key, ⟨.lookupUdpBranch branch,some route⟩ ∈ past → route.clientTransactionKey = some key →
      ∃ act ∈ past, Caches key packet act.op

theorem relay_mute (codec : Codec Packet Message) (message : Message) (past : List (Act Packet)) (mute : Mute act.op) : RelayCares codec message past act := by
  intro packet client same
  rw [same] at mute
  exact mute.elim

theorem mute_along {Result : Type} {task : Task Packet Result} {ends : List (Act Packet) → Except String Result → Prop} (mute : task.Uses Mute)
    (along : task.Along (ResponseAdmits codec message) ends past) : task.Along (RelayCares codec message) ends past := by
  have cares : task.Along (RelayCares codec message) (fun _ _ => True) past :=
    along_uses mute (fun past _ _ allowed => relay_mute codec message past allowed) (fun _ _ _ _ => trivial) trivial
  exact along_mono (along_both cares along) (fun _ _ both => both.1) fun _ _ both => both.2

theorem relay_cares {response : Packet} (found : Found past branch route) (relayed : relayedResponse codec route message = .ok response) :
    (relay branch route (isFinal codec message) response).Along (RelayCares codec message) (fun _ _ => True) past := by
  refine along_bind _ (mute_along (neutral_mute (rememberFinal_neutral ..).uses) (rememberFinal_along found relayed)) (fun past _ kept => ?_)
    fun _ _ _ => trivial
  obtain ⟨_,found,cached⟩ := kept
  refine along_call fun sent => ⟨?_,?_⟩
  · intro packet client same final other read key member named
    cases same
    cases ((found other (some read)).mp member).2
    exact ⟨_,cached final key named,rfl,rfl⟩
  · split
    · refine along_call fun removed => ⟨relay_mute codec message _ trivial,?_⟩
      split <;> trivial
    · split <;> trivial

theorem handleUdpResponse_cares (unanswered : Unanswered past) (message : Message) (upstream : SocketAddr) :
    (handleUdpResponse codec message upstream).Along (RelayCares codec message) (fun _ _ => True) past := by
  refine along_lift (fun top _ => ?_) fun _ _ => trivial
  cases top with
  | none => trivial
  | some branch =>
      dsimp only
      split
      · refine along_call fun reply => ⟨relay_mute codec message past trivial,?_⟩
        cases reply with
        | none => trivial
        | some route =>
            refine along_bind _ (mute_along (neutral_mute (applyRegisterStartLine_neutral branch message).uses)
              (applyRegisterStartLine_along (lookup_found unanswered branch route))) (fun past _ kept => ?_) fun _ _ _ => trivial
            exact along_lift (fun response relayed => relay_cares kept.2 relayed) fun _ _ => trivial
      · trivial

theorem handler_relays {input : Input Packet} (kinded : kind codec input = .response message upstream) :
    (handler codec settings input).Along (RelayCares codec message) (fun _ _ => True) [] := by
  cases input with
  | tcp packet peer listener => exact (tcp_kind packet peer listener kinded).elim
  | udp packet peer listener =>
      simp only [kind] at kinded
      split at kinded
      · cases kinded
      rename_i plain
      simp only [Bool.or_eq_true,not_or,Bool.not_eq_true,Option.isSome_eq_false_iff,Option.isNone_iff_eq_none] at plain
      change (handleUdpPacket codec settings packet peer listener).Along _ _ _
      unfold handleUdpPacket
      rw [plain.1.1,plain.1.2,plain.2]
      refine handleSipPacket_along (fun decision => relay_mute codec message [] trivial) (fun _ _ _ _ => trivial) (fun _ _ _ => trivial)
        (fun past other checked same => ?_) fun past other method checked sameKind _ => ?_
      · cases kinded.symm.trans same
        exact handleUdpResponse_cares checked.unanswered message _
      · cases kinded.symm.trans sameKind

end Relays
section Runs
variable {pool : ServerPool Packet} {actions : List (ServerAction Packet)} {key : String} {record asked : Record Packet}

def Cares (codec : Codec Packet Message) (input : Input Packet) (past : List (Act Packet)) (act : Act Packet) : Prop :=
  (∀ key, copyKey codec input = some key → CopyCares codec input key past act) ∧
    ∀ message upstream, kind codec input = .response message upstream → RelayCares codec message past act

def Concludes (codec : Codec Packet Message) (input : Input Packet) (past : List (Act Packet)) (_ : Except String Unit) : Prop :=
  ∀ key, copyKey codec input = some key → Settled input.peer past

theorem handler_carefully (input : Input Packet) : (handler codec settings input).Along (Cares codec input) (Concludes codec input) [] := by
  have idle : (handler codec settings input).Along (fun _ _ => True) (fun _ _ => True) [] :=
    along_kept (fun _ => True) _ (fun _ _ held => held) trivial fun _ _ held => held
  have copies : (handler codec settings input).Along (fun past act => ∀ key, copyKey codec input = some key → CopyCares codec input key past act)
      (Concludes codec input) [] := by
    cases copied : copyKey codec input with
    | none =>
        apply along_mono idle (fun _ _ _ _ same => nomatch same)
        intro _ _ _ _ same
        cases copied.symm.trans same
    | some key =>
        refine along_mono (handler_cares copied) (fun _ _ cares _ same => ?_) fun _ _ settled _ _ => settled
        cases same
        exact cares
  have relays : (handler codec settings input).Along (fun past act => ∀ message upstream, kind codec input = .response message upstream →
      RelayCares codec message past act) (fun _ _ => True) [] := by
    cases kinded : kind codec input with
    | other => exact along_mono idle (fun _ _ _ _ _ same => nomatch same) fun _ _ held => held
    | request method => exact along_mono idle (fun _ _ _ _ _ same => nomatch same) fun _ _ held => held
    | response message upstream =>
        refine along_mono (handler_relays kinded) (fun _ _ cares _ _ same => ?_) fun _ _ held => held
        cases same
        exact cares
  exact along_mono (along_both copies relays) (fun _ _ both => both) fun _ _ both => both.1

-- A call of a steady run, with the world it was made in.
theorem steady_at (steady : Machine.Within (server codec settings).advance (Steady codec settings key)
      (System.start (World.new Packet settings.affinity)) actions)
    (ran : runServer codec settings actions = some pool) (split : pool.history = before ++ record :: after) :
    ∃ (reached : ServerPool Packet) (choice : Choice Packet), reached.history = before ∧ Kept key reached.world before ∧
      SteadyCall codec settings key reached record.task choice record.event.op ∧ record.time = reached.world.now ∧
      record.event.reply = (perform settings record.event.op choice reached.world).1 ∧
      ∀ input, pool.inputs[record.task]? = some input → reached.inputs[record.task]? = some input := by
  obtain ⟨earlier,choice,later,reached,rfl,begun,rfl,stands,time,reply⟩ := System.run_recorded ran split
  obtain ⟨steadyBefore,steadyAfter⟩ := steady.split begun
  refine ⟨reached,choice,rfl,run_kept steadyBefore begun,steadyAfter.1 _ stands,time,reply,fun input hasInput => ?_⟩
  obtain ⟨middle,same,rest⟩ := Machine.run_append.mp ran
  cases begun.symm.trans same
  obtain ⟨more,grown⟩ := (System.run_grows rest).1
  have inside : record.task < reached.inputs.length := by
    rw [← (run_coursed begun).sized]
    unfold System.nextOp at stands
    exact (List.getElem?_eq_some_iff.mp (Option.ne_none_iff_exists'.mp fun absent => by rw [absent] at stands; cases stands).choose_spec).1
  rw [← grown,List.getElem?_append_left inside] at hasInput
  exact hasInput

theorem keyOf_input {task : Nat} : keyOf codec pool task = some key ↔ ∃ input, pool.inputs[task]? = some input ∧ copyKey codec input = some key :=
  Option.bind_eq_some_iff

theorem told_truly (steady : Machine.Within (server codec settings).advance (Steady codec settings key)
      (System.start (World.new Packet settings.affinity)) actions)
    (ran : runServer codec settings actions = some pool) (split : pool.history = before ++ record :: after)
    (copied : keyOf codec pool record.task = some key) (op : record.event.op = .sendToClient packet client) :
    record.event = ⟨.sendToClient packet client,true⟩ ∧ ∀ input, pool.inputs[record.task]? = some input →
      ¬Reported codec input key (System.own record.task before) packet := by
  obtain ⟨input,hasInput,keyed⟩ := keyOf_input.mp copied
  obtain ⟨reached,choice,rfl,_,call,_,reply,before⟩ := steady_at steady ran split
  obtain ⟨task,time,⟨_,gone⟩⟩ := record
  cases op
  obtain ⟨succeeds,unreported⟩ := call input (before input hasInput) keyed
  refine ⟨?_,fun other same => ?_⟩
  · have sent : gone = true := reply.trans succeeds
    rw [sent]
  · cases hasInput.symm.trans same
    exact unreported

theorem unforwarded_drained {past : List (Act Packet)} (unforwarded : Unforwarded past) : unrelayed past = [] := by
  induction past using List.reverseRecOn with
  | nil => rfl
  | append_singleton rest last ih =>
      have drained := ih fun act member => unforwarded act (List.mem_append_left _ member)
      have silent := unforwarded last (last_mem rest last)
      rw [unrelayed_snoc]
      obtain ⟨op,reply⟩ := last
      cases op with
      | sendRequest upstream branch packet method => cases silent
      | sendToClient packet client => exact congrArg List.tail drained
      | _ => exact drained

-- What streams to the client of a copy comes after the copy's lookup.
theorem streaming_asked (ran : runServer codec settings actions = some pool) (split : pool.history = before ++ record :: after)
    (copied : keyOf codec pool record.task = some key) (streaming : Streaming codec (System.own record.task before)) :
    ∃ act ∈ System.own record.task before, act.op.asksTransaction key = true := by
  have forwarded : ∃ act ∈ System.own record.task before, act.op.forwards = true := by
    by_contra none
    refine drained_unstreaming (unforwarded_drained fun act member => ?_) streaming
    exact Bool.eq_false_iff.mpr fun forwards => none ⟨act,member,forwards⟩
  obtain ⟨act,member,forwards⟩ := forwarded
  obtain ⟨sending,inBefore,ofTask,rfl⟩ := System.mem_own.mp member
  obtain ⟨first,rest,rfl⟩ := List.append_of_mem inBefore
  obtain ⟨missed,inFirst,sameTask,misses⟩ := forwarded_missed (run_coursed ran) (by rw [split,List.append_assoc]; rfl) forwards (ofTask ▸ copied)
  refine ⟨missed.event,System.mem_own.mpr ⟨missed,List.mem_append_left _ inFirst,sameTask.trans ofTask,rfl⟩,?_⟩
  rw [(misses_exact key missed).mp misses]
  exact beq_self_eq_true key

-- Every final response that the proxy relays has been cached by then.
theorem finale_cached (steady : Machine.Within (server codec settings).advance (Steady codec settings key)
      (System.start (World.new Packet settings.affinity)) actions)
    (ran : runServer codec settings actions = some pool) (split : pool.history = before ++ record :: after)
    (op : record.event.op = .sendToClient packet client) (finale : Finale codec pool key before record packet) :
    ∃ cached ∈ before, cached.task = record.task ∧ Caches key packet cached.event.op := by
  have tracked : System.Tracked (Cares codec) (Concludes codec) pool := System.run_tracked handler_carefully ran
  obtain ⟨input,hasInput,copies,relays⟩ := tracked.admitted before record after split
  have given {act : Act Packet} (member : act ∈ System.own record.task before) (caches : Caches key packet act.op) :
      ∃ cached ∈ before, cached.task = record.task ∧ Caches key packet cached.event.op := by
    obtain ⟨cached,inBefore,ofTask,rfl⟩ := System.mem_own.mp member
    exact ⟨cached,inBefore,ofTask,caches⟩
  cases finale with
  | relayed sameInput kinded final member named =>
      cases hasInput.symm.trans sameInput
      obtain ⟨act,member,caches⟩ := relays _ _ kinded packet client op final _ _ key member named
      exact given member caches
  | streamed copied streaming =>
      obtain ⟨input',sameInput,keyed⟩ := keyOf_input.mp copied
      cases hasInput.symm.trans sameInput
      obtain ⟨unhit,⟨act,member,caches⟩ | told⟩ := (copies key keyed).streamed packet client op streaming
      · exact given member caches
      · by_contra uncached
        refine (told_truly steady ran split copied op).2 input hasInput ⟨streaming_asked ran split copied streaming,unhit packet,?_,told⟩
        exact fun act member caches => uncached (given member caches)
  | reported sameInput keyed reported =>
      exact ((told_truly steady ran split (keyOf_input.mpr ⟨_,sameInput,keyed⟩) op).2 _ sameInput reported).elim

theorem hit_later (steady : Machine.Within (server codec settings).advance (Steady codec settings key)
      (System.start (World.new Packet settings.affinity)) actions)
    (ran : runServer codec settings actions = some pool) (split : pool.history = before ++ record :: after) (earlier : asked ∈ before)
    (event : asked.event = ⟨.lookupUdpClientTransaction key,some ⟨target,some response⟩⟩) (ofTask : record.task = asked.task)
    (sameKey : keyOf codec pool asked.task = some key) :
    record.event.op.forwards = false ∧ ∀ packet client, record.event.op = .sendToClient packet client → packet = response := by
  have tracked : System.Tracked (Cares codec) (Concludes codec) pool := System.run_tracked handler_carefully ran
  obtain ⟨input,hasInput,copied⟩ := keyOf_input.mp sameKey
  obtain ⟨_,sameInput,cares,_⟩ := tracked.admitted before record after split
  rw [ofTask] at sameInput cares
  cases hasInput.symm.trans sameInput
  have hit : Hit (System.own asked.task before) response := ⟨key,target,System.mem_own.mpr ⟨asked,earlier,rfl,event⟩⟩
  rcases (cares key copied).repeated response hit with same | unsent
  · rw [same]
    refine ⟨rfl,fun packet client sends => ?_⟩
    cases sends
    rfl
  · obtain ⟨failed,inBefore,ofFailed,fails⟩ := System.mem_own.mp unsent
    obtain ⟨first,last,splitFailed⟩ := List.append_of_mem inBefore
    have truly := (told_truly steady ran (by rw [split,splitFailed,List.append_assoc]; rfl : pool.history = first ++ failed :: (last ++ record :: after))
      (ofFailed ▸ sameKey) (congrArg Event.op fails)).1
    cases fails.symm.trans truly

-- A copy that finds the response sends it and nothing else.
theorem hit_repeats (steady : Machine.Within (server codec settings).advance (Steady codec settings key)
      (System.start (World.new Packet settings.affinity)) actions)
    (ran : runServer codec settings actions = some pool) (split : pool.history = before ++ asked :: after)
    (event : asked.event = ⟨.lookupUdpClientTransaction key,some ⟨target,some response⟩⟩) : Repeats pool key asked response := by
  have tracked : System.Tracked (Cares codec) (Concludes codec) pool := System.run_tracked handler_carefully ran
  have coursed := run_coursed ran
  obtain ⟨input,hasInput,course⟩ := coursed.admitted before asked after split
  rw [event] at course
  obtain ⟨request,requested,isDatagram,unforwarded,keyed⟩ := course_request course fun idle => idle
  have copied : copyKey codec input = some key := copyKey_exact.mpr ⟨request,isDatagram,requested,keyed⟩
  have sameKey : keyOf codec pool asked.task = some key := keyOf_input.mpr ⟨input,hasInput,copied⟩
  obtain ⟨_,sameInput,cares,_⟩ := tracked.admitted before asked after split
  cases hasInput.symm.trans sameInput
  have silent := (cares key copied).looked key (by rw [event])
  have each : ∀ record ∈ pool.history, record.task = asked.task →
      record.event.op.forwards = false ∧ ∀ packet client, record.event.op = .sendToClient packet client → packet = response := by
    intro record member ofTask
    rw [split] at member
    rcases List.mem_append.mp member with earlier | later
    · have own : record.event ∈ System.own asked.task before := System.mem_own.mpr ⟨record,earlier,ofTask,rfl⟩
      refine ⟨unforwarded _ own,fun packet client same => ?_⟩
      have quiet := silent _ own
      rw [same] at quiet
      cases quiet
    rcases List.mem_cons.mp later with rfl | later
    · rw [event]
      exact ⟨rfl,fun _ _ same => nomatch same⟩
    obtain ⟨between,rest,rfl⟩ := List.append_of_mem later
    have splitHere : pool.history = (before ++ asked :: between) ++ record :: rest := by rw [split,List.append_assoc]; rfl
    exact hit_later steady ran splitHere (List.mem_append_right _ List.mem_cons_self) event ofTask sameKey
  refine ⟨⟨target,event⟩,fun record member ofTask => (each record member ofTask).1,fun record member ofTask => (each record member ofTask).2,?_⟩
  intro other program outcome given stands finished
  cases hasInput.symm.trans given
  have settled := along_outcome (tracked.path asked.task input program hasInput stands) finished key copied
  have inHistory : asked ∈ pool.history := by simp [split]
  obtain ⟨sent,member⟩ := settled response ⟨key,target,System.mem_own.mpr ⟨asked,inHistory,rfl,event⟩⟩
  obtain ⟨record,inHistory,ofTask,sends⟩ := System.mem_own.mp member
  obtain ⟨first,last,splitHere⟩ := List.append_of_mem inHistory
  have truly := (told_truly steady ran splitHere (ofTask ▸ sameKey) (congrArg Event.op sends)).1
  exact ⟨record,inHistory,ofTask,truly⟩

theorem final_stands (steady : Machine.Within (server codec settings).advance (Steady codec settings key)
      (System.start (World.new Packet settings.affinity)) actions)
    (ran : runServer codec settings actions = some pool) : Stable codec pool key := by
  intro before sent between asked after packet client split event finale op inTime
  have splitSent : pool.history = before ++ sent :: (between ++ asked :: after) := by rw [split,List.append_assoc]; rfl
  have isSend : sent.event.op = .sendToClient packet client := congrArg Event.op event
  obtain ⟨cached,member,sameTask,caches⟩ := finale_cached steady ran splitSent isSend finale
  obtain ⟨reached,choice,history,kept,call,time,reply,_⟩ := steady_at steady ran split
  obtain ⟨task,stamp,⟨_,found⟩⟩ := asked
  cases op
  have inside : cached ∈ before ++ sent :: between := List.mem_append_left _ member
  have named : cachesFor key cached.event.op = true := by
    obtain ⟨_,_,⟨other,_⟩⟩ := cached
    cases other with
    | rememberUdpClientTransactionFinalResponse answered response => exact beq_iff_eq.mpr caches.1
    | _ => exact caches.elim
  cases time
  have timely := call rfl cached (history ▸ inside) sent (history ▸ List.mem_append_right _ List.mem_cons_self) sameTask.symm named
    (by rw [isSend]; rfl) inTime
  have final := kept.final inside caches timely
  obtain ⟨entry,shown,answer⟩ := Option.bind_eq_some_iff.mp final
  have event : found = some ⟨entry.content.target,some packet⟩ := by
    apply reply.trans
    simp only [perform,shown,Option.map_some,← answer]
  subst event
  exact hit_repeats steady ran split rfl

def refused (task : Nat) : Schedule := [.step task ⟨.allow,none,upstreamAddr,false,"10.0.0.9:5060",.ok []⟩]

-- The upstream socket refuses the first copy.
def failedThenRepeated : Schedule :=
  datagram (request .invite) clientAddr :: steps 0 9 ++ refused 0 ++ steps 0 4 ++ datagram (request .invite) clientAddr :: steps 1 12

def answeredThenRepeated : Schedule :=
  datagram (request .invite) clientAddr :: steps 0 12 ++ datagram (answer .invite 200 "OK") upstreamAddr :: steps 1 4 ++
    datagram (request .invite) clientAddr :: steps 2 2

def laterInvite : Envelope := {request .invite with cseq:=(2,.invite)}

-- The call goes to a TCP upstream, and its connection yields nothing in time.
def timedOutThenRepeated : Schedule :=
  .spawn (.tcp (request .invite) clientAddr streamListener) :: steps 0 9 ++ datagram laterInvite clientAddr :: steps 1 13 ++
    datagram laterInvite clientAddr :: steps 2 2

def laterName : String := "167772161:5060:z9hG4bK-client:call:2:INVITE"

theorem unstable {pool : ServerPool Envelope} {before after : List (Record Envelope)} {sent asked : Record Envelope} {packet : Envelope}
    {found : Option (UdpClientTransactionRoute Envelope)} (split : pool.history = before ++ sent :: [] ++ asked :: after)
    (event : sent.event = ⟨.sendToClient packet client,true⟩) (finale : Finale envelopeCodec pool key before sent packet)
    (looked : asked.event = ⟨.lookupUdpClientTransaction key,found⟩) (inTime : asked.time - sent.time ≤ udpBranchTtl)
    (unanswered : ∀ target, found ≠ some ⟨target,some packet⟩) : ¬Stable envelopeCodec pool key := by
  intro stable
  obtain ⟨target,same⟩ := (stable before sent [] asked after packet client split event finale (congrArg Event.op looked) inTime).found
  exact unanswered target (eq_of_heq (Event.mk.inj (looked.symm.trans same)).2)

def localAnswerTo (message : Envelope) (code : Nat) (reason : String) : Envelope :=
  {message with startLine:=.response "SIP/2.0" code reason,vias:=[⟨"z9hG4bK-client",some clientAddr⟩]}

def toldUnavailable (message : Envelope) : Act Envelope :=
  ⟨.sendToClient (localAnswerTo message 503 "Service Unavailable") clientAddr,true⟩

theorem unavailable_then_repeated :
    (∃ pool, runServer envelopeCodec plainSettings failedThenRepeated = some pool ∧
      keyOf envelopeCodec pool 0 = some copyName ∧ keyOf envelopeCodec pool 1 = some copyName ∧
      toldUnavailable (request .invite) ∈ System.own 0 pool.history ∧ (∃ act ∈ System.own 1 pool.history, act.op.forwards = true) ∧
      ¬Stable envelopeCodec pool copyName) ∧
    ∃ pool, runServer envelopeCodec plainSettings timedOutThenRepeated = some pool ∧
      keyOf envelopeCodec pool 1 = some laterName ∧ keyOf envelopeCodec pool 2 = some laterName ∧
      toldUnavailable laterInvite ∈ System.own 1 pool.history ∧
      System.own 2 pool.history = [⟨.lookupUdpClientTransaction laterName,some ⟨⟨upstreamAddr,.tcp⟩,none⟩⟩,
        ⟨.sendToClient (localAnswerTo laterInvite 100 "Trying") clientAddr,true⟩] ∧ ¬Stable envelopeCodec pool laterName := by
  let told (task : Nat) (message : Envelope) : Record Envelope := ⟨task,0,toldUnavailable message⟩
  let asked (task : Nat) (key : String) (found : Option (UdpClientTransactionRoute Envelope)) : Record Envelope :=
    ⟨task,0,⟨.lookupUdpClientTransaction key,found⟩⟩
  constructor
  · have reached : ∃ pool, runServer envelopeCodec plainSettings failedThenRepeated = some pool ∧
        pool.history = pool.history.take 13 ++ told 0 (request .invite) :: [] ++ asked 1 copyName none :: pool.history.drop 15 ∧
        pool.inputs = [.udp (request .invite) clientAddr udpListener,.udp (request .invite) clientAddr udpListener] ∧
        Reported envelopeCodec (.udp (request .invite) clientAddr udpListener) copyName (System.own 0 (pool.history.take 13))
          (localAnswerTo (request .invite) 503 "Service Unavailable") ∧ (∃ act ∈ System.own 1 pool.history, act.op.forwards = true) :=
      ⟨_,rfl,rfl,rfl,by decide +kernel,by decide +kernel⟩
    obtain ⟨pool,ran,split,inputs,reported,forwarded⟩ := reached
    refine ⟨pool,ran,keyOf_input.mpr ⟨_,by rw [inputs]; rfl,rfl⟩,keyOf_input.mpr ⟨_,by rw [inputs]; rfl,rfl⟩,
      System.mem_own.mpr ⟨told 0 (request .invite),by rw [split]; simp,rfl,rfl⟩,forwarded,?_⟩
    exact unstable split rfl (.reported (by rw [inputs]; rfl) rfl reported) rfl (by decide) fun _ same => nomatch same
  · have reached : ∃ pool, runServer envelopeCodec plainSettings timedOutThenRepeated = some pool ∧
        pool.history = pool.history.take 21 ++ told 1 laterInvite :: [] ++
          asked 2 laterName (some ⟨⟨upstreamAddr,.tcp⟩,none⟩) :: pool.history.drop 23 ∧
        pool.inputs = [.tcp (request .invite) clientAddr streamListener,.udp laterInvite clientAddr udpListener,.udp laterInvite clientAddr udpListener] ∧
        Reported envelopeCodec (.udp laterInvite clientAddr udpListener) laterName (System.own 1 (pool.history.take 21))
          (localAnswerTo laterInvite 503 "Service Unavailable") ∧
        System.own 2 pool.history = [⟨.lookupUdpClientTransaction laterName,some ⟨⟨upstreamAddr,.tcp⟩,none⟩⟩,
          ⟨.sendToClient (localAnswerTo laterInvite 100 "Trying") clientAddr,true⟩] :=
      ⟨_,rfl,rfl,rfl,by decide +kernel,rfl⟩
    obtain ⟨pool,ran,split,inputs,reported,own⟩ := reached
    refine ⟨pool,ran,keyOf_input.mpr ⟨_,by rw [inputs]; rfl,rfl⟩,keyOf_input.mpr ⟨_,by rw [inputs]; rfl,rfl⟩,
      System.mem_own.mpr ⟨told 1 laterInvite,by rw [split]; simp,rfl,rfl⟩,own,?_⟩
    exact unstable split rfl (.reported (by rw [inputs]; rfl) rfl reported) rfl (by decide) fun _ same => nomatch same

theorem answered_copy_answered_again : ∃ pool asked, runServer envelopeCodec plainSettings answeredThenRepeated = some pool ∧
    pool.history[16]? = some asked ∧ asked.task = 2 ∧ pool.tasks[2]? = some (.done ()) ∧
    Repeats pool copyName asked (localAnswerTo (request .invite) 200 "OK") := by
  let sent : Record Envelope := ⟨1,0,⟨.sendToClient (localAnswerTo (request .invite) 200 "OK") clientAddr,true⟩⟩
  let asked : Record Envelope := ⟨2,0,⟨.lookupUdpClientTransaction copyName,some ⟨⟨upstreamAddr,.udp⟩,some (localAnswerTo (request .invite) 200 "OK")⟩⟩⟩
  have reached : ∃ pool, runServer envelopeCodec plainSettings answeredThenRepeated = some pool ∧
      pool.history = pool.history.take 15 ++ sent :: [] ++ asked :: pool.history.drop 17 ∧
      (pool.history.take 15)[12]? = some ⟨1,0,⟨.lookupUdpBranch (proxyBranch 1),some inviteRoute⟩⟩ ∧
      pool.inputs[1]? = some (.udp (answer .invite 200 "OK") upstreamAddr udpListener) ∧ pool.history[16]? = some asked ∧
      pool.tasks[2]? = some (.done ()) := ⟨_,rfl,rfl,rfl,rfl,rfl,rfl⟩
  obtain ⟨pool,ran,split,routed,hasInput,at16,done⟩ := reached
  have relayed : Finale envelopeCodec pool copyName (pool.history.take 15) sent (localAnswerTo (request .invite) 200 "OK") :=
    .relayed hasInput rfl rfl (System.mem_own.mpr ⟨_,List.mem_of_getElem? routed,rfl,rfl⟩) rfl
  exact ⟨pool,asked,ran,at16,rfl,done,final_stands (by decide +kernel) ran _ sent [] asked _ _ clientAddr split rfl relayed rfl (by decide)⟩

end Runs
end Sigproxy.Proxy.FinalStability
