import Sigproxy.Proxy.Courses
import Sigproxy.Proxy.ResponseRouting

namespace Sigproxy.Proxy
open Library Net Cluster Affinity

variable {Packet Message : Type} {codec : Codec Packet Message} {settings : Settings} {pool : ServerPool Packet}

section Transactions

def recordsInvite (key : String) (record : Record Packet) : Bool :=
  match record.event.op with
  | .rememberInviteTransaction kept _ => kept == key
  | _ => false

def inviteRecord (record : Record Packet) : Option (Stamped InviteTransactionRoute) :=
  match record.event.op with
  | .rememberInviteTransaction _ route => some ⟨route,record.time⟩
  | _ => none

def recordInvite (transactions : Table String (Stamped InviteTransactionRoute)) (record : Record Packet) :
    Table String (Stamped InviteTransactionRoute) :=
  match record.event.op with
  | .rememberInviteTransaction key route => transactions.insert key ⟨route,record.time⟩
  | _ => transactions

-- The INVITE transactions that a history leaves, were they never pruned.
def invites (history : List (Record Packet)) : Table String (Stamped InviteTransactionRoute) := history.foldl recordInvite ∅

theorem lookup_invites (history : List (Record Packet)) (key : String) :
    (invites history).lookup key = (lastFor (recordsInvite key) history).bind inviteRecord := by
  have decides : ∀ (table : Table String (Stamped InviteTransactionRoute)) (record : Record Packet),
      (recordInvite table record).lookup key = if recordsInvite key record then inviteRecord record else table.lookup key := by
    intro table given
    rcases given with ⟨task,time,⟨op,reply⟩⟩
    cases op with
    | rememberInviteTransaction kept route =>
        simp only [recordInvite,recordsInvite,inviteRecord,Table.lookup_insert_eq]
        exact if_congr (by rw [beq_iff_eq,eq_comm]) rfl rfl
    | _ => rfl
  unfold invites
  rw [view_foldl (fun table : Table String (Stamped InviteTransactionRoute) => table.lookup key) decides history ∅]
  cases lastFor (recordsInvite key) history <;> rfl

def InviteFaithful (before : List (Record Packet)) (record : Record Packet) : Prop :=
  match record.event with
  | ⟨.lookupInviteTransaction key,found⟩ =>
    found = (((invites before).lookup key).filter (Stamped.fresh inviteTransactionTtl record.time)).map Stamped.content
  | _ => True

structure InviteLedger (w : World Packet) (history : List (Record Packet)) : Prop where
  agrees : Expiring.Agrees inviteTransactionTtl w.now w.inviteTransactions (invites history)
  faithful : Throughout InviteFaithful history

theorem perform_invites (w : World Packet) (history : List (Record Packet)) (task : Nat) (op : Op Packet) (choice : Choice Packet)
    (ledger : InviteLedger w history) :
    let result := perform settings op choice w
    InviteLedger result.2 (history ++ [⟨task,w.now,⟨op,result.1⟩⟩]) := by
  have sameNow := @perform_now Packet settings op choice w
  have grown : invites (history ++ [⟨task,w.now,⟨op,(perform settings op choice w).1⟩⟩]) =
      recordInvite (invites history) ⟨task,w.now,⟨op,(perform settings op choice w).1⟩⟩ := by
    simp [invites]
  refine ⟨?_,throughout_snoc.mpr ⟨ledger.faithful,?_⟩⟩
  · rw [sameNow,grown]
    cases op with
    | lookupInviteTransaction key => exact Expiring.agrees_prune ledger.agrees
    | rememberInviteTransaction key route =>
        exact Expiring.agrees_write (Expiring.agrees_prune ledger.agrees) (.put key ⟨route,w.now⟩)
    | rememberUdpClientTransactionFinalResponse key response => simp only [perform]; split <;> exact ledger.agrees
    | submit command => simp only [perform]; split <;> exact ledger.agrees
    | _ => exact ledger.agrees
  · cases op with
    | lookupInviteTransaction key => exact congrArg (Option.map Stamped.content) (Expiring.lookup_prune ledger.agrees key)
    | _ => trivial

theorem change_invites (w : World Packet) (history : List (Record Packet)) (change : Change) (ledger : InviteLedger w history) :
    InviteLedger (World.change change w) history := by
  cases change with
  | elapse duration => exact ⟨Expiring.agrees_later ledger.agrees (Nat.le_add_right _ _),ledger.faithful⟩
  | replicate state affinity => exact ⟨ledger.agrees,ledger.faithful⟩

theorem run_invites (ran : runServer codec settings actions = some pool) : InviteLedger pool.world pool.history :=
  System.run_world InviteLedger perform_invites change_invites ⟨Expiring.agrees_refl _ _ _,throughout_nil _⟩ ran

end Transactions

section Routing

-- A request on its way to a UDP upstream, under the branch of its route.
structure GoesTo (history : List (Record Packet)) (record : Record Packet) (upstream : SocketAddr) (branch : String) : Prop where
  sent : ∃ packet, record.event.op = .sendToUpstream packet upstream
  routed : ∃ routed ∈ history, routed.task = record.task ∧ ∃ route, routed.event.op = .insertUdpBranch branch route

theorem GoesTo.unique (sound : Sound codec settings pool) {record : Record Packet} (first : GoesTo pool.history record upstream branch)
    (second : GoesTo pool.history record other otherBranch) : other = upstream ∧ otherBranch = branch := by
  obtain ⟨packet,op⟩ := first.sent
  obtain ⟨packet',op'⟩ := second.sent
  obtain ⟨routed,member,ofTask,route,routes⟩ := first.routed
  obtain ⟨routed',member',ofTask',route',routes'⟩ := second.routed
  rw [op] at op'
  cases op'
  have same := routing_once sound member member' (ofTask.trans ofTask'.symm) (by rw [routes]; rfl) (by rw [routes']; rfl)
  rw [same,routes'] at routes
  cases routes
  exact ⟨rfl,rfl⟩

-- The route that the proxy last recorded for the transaction is this task's.
def Recorded (key : String) (task : Nat) (before : List (Record Packet)) : Prop :=
  ∃ kept, lastFor (recordsInvite key) before = some kept ∧ kept.task = task

def Forwards (codec : Codec Packet Message) (pool : ServerPool Packet) (task : Nat) (method : Method) (key : String) : Prop :=
  ∃ input request, pool.inputs[task]? = some input ∧ input.isDatagram = true ∧ input.request codec = some request ∧
    request.method = method ∧ inviteTransactionKey codec request.message = .ok (some key)

variable {record : Record Packet}

theorem follows_at {request : Request Message} (coursed : Coursed codec settings pool) (split : pool.history = before ++ record :: after)
    (hasInput : pool.inputs[record.task]? = some input) (requested : input.request codec = some request) :
    Follows codec settings input.isDatagram request (System.own record.task before) record.event := by
  obtain ⟨_,sameInput,course⟩ := coursed.admitted before record after split
  cases hasInput.symm.trans sameInput
  exact course_follows course requested

theorem dispatched_goes (coursed : Coursed codec settings pool) {request : Request Message} {prepared : Prepared Message}
    (dispatched : Dispatched codec settings request (System.own task before) prepared) (part : ∀ record ∈ before, record ∈ pool.history)
    {sent : Record Packet} (member : sent ∈ pool.history) (ofTask : sent.task = task)
    (op : sent.event.op = .sendToUpstream packet upstream) :
    GoesTo pool.history sent prepared.target.addr prepared.branch ∧ sent ∈ before ∧ prepared.target.transport = .udp := by
  cases dispatched.2 with
  | udp onUdp routed gone =>
      obtain ⟨routing,inBefore,ofRouting,event⟩ := System.mem_own.mp routed
      obtain ⟨going,goingBefore,ofGoing,goingEvent⟩ := System.mem_own.mp gone
      have same := forward_once coursed member (part going goingBefore) (ofTask.trans ofGoing.symm) (by rw [op]; rfl)
        (by rw [goingEvent]; rfl)
      subst same
      refine ⟨⟨⟨_,congrArg Event.op goingEvent⟩,routing,part routing inBefore,ofRouting.trans ofTask.symm,_,congrArg Event.op event⟩,
        goingBefore,onUdp⟩
  | tcp gone =>
      obtain ⟨going,goingBefore,ofGoing,goingEvent⟩ := System.mem_own.mp gone
      have same := forward_once coursed member (part going goingBefore) (ofTask.trans ofGoing.symm) (by rw [op]; rfl)
        (by rw [goingEvent]; rfl)
      rw [same,goingEvent] at op
      cases op

-- What a recorded transaction route says of the request that recorded it.
theorem record_dispatched (coursed : Coursed codec settings pool) (split : pool.history = before ++ record :: after)
    (records : recordsInvite key record = true) : ∃ request prepared, request.method = .invite ∧
      Dispatched codec settings request (System.own record.task before) prepared ∧
      inviteRecord record = some ⟨⟨prepared.target,prepared.branch⟩,record.time⟩ := by
  obtain ⟨input,_,course⟩ := coursed.admitted before record after split
  obtain ⟨task,time,⟨op,reply⟩⟩ := record
  cases op with
  | rememberInviteTransaction kept route =>
      obtain ⟨request,_,isInvite,_,prepared,dispatched,rfl⟩ := course_request course fun idle => idle
      exact ⟨request,prepared,isInvite,dispatched,rfl⟩
  | _ => cases records

theorem asked_reply (ledger : InviteLedger pool.world pool.history) {asked : Record Packet}
    (split : pool.history = before ++ asked :: after) (op : asked.event.op = .lookupInviteTransaction key) :
    asked.event = ⟨.lookupInviteTransaction key,(((lastFor (recordsInvite key) before).bind inviteRecord).filter
      (Stamped.fresh inviteTransactionTtl asked.time)).map Stamped.content⟩ := by
  have held := ledger.faithful before asked after split
  obtain ⟨task,time,⟨asking,reply⟩⟩ := asked
  cases op
  unfold InviteFaithful at held
  simp only [lookup_invites] at held
  rw [held]

-- A request other than a CANCEL or an ACK goes out under a branch that it minted.
theorem goes_minted (coursed : Coursed codec settings pool) (sound : Sound codec settings pool) {request : Request Message}
    {sent : Record Packet} (member : sent ∈ pool.history) (hasInput : pool.inputs[sent.task]? = some input)
    (requested : input.request codec = some request) (independent : request.method ≠ .cancel ∧ request.method ≠ .ack)
    (goes : GoesTo pool.history sent upstream branch) :
    ∃ minting ∈ pool.history, ∃ id : Nat, minting.task = sent.task ∧ minting.event = ⟨.uniqueId,id⟩ ∧ branch = proxyBranch id := by
  obtain ⟨before,after,split⟩ := List.append_of_mem member
  have part : ∀ record ∈ before, record ∈ pool.history := fun record inBefore => by simp [split,inBefore]
  have follows := follows_at coursed split hasInput requested
  obtain ⟨packet,op⟩ := goes.sent
  obtain ⟨task,time,⟨sending,reply⟩⟩ := sent
  cases op
  obtain ⟨_,prepared,key,⟨_,found,directed⟩,_,_,_,same,routed,_⟩ := follows
  obtain ⟨minting,earlier,id,ofTask,event,named⟩ := minter (directed.minted (directed.asked.independent independent))
  obtain ⟨routing,inBefore,ofRouting,routes⟩ := System.mem_own.mp routed
  have own : GoesTo pool.history ⟨task,time,⟨.sendToUpstream packet upstream,reply⟩⟩ upstream prepared.branch :=
    ⟨⟨packet,rfl⟩,routing,part routing inBefore,ofRouting,_,congrArg Event.op routes⟩
  exact ⟨minting,part minting earlier,id,ofTask,event,(own.unique sound goes).2.trans named⟩

theorem recorded_reply (ran : runServer codec settings actions = some pool) {sent asked : Record Packet}
    (split : pool.history = before ++ asked :: after) (op : asked.event.op = .lookupInviteTransaction key)
    (member : sent ∈ pool.history) (goes : GoesTo pool.history sent upstream branch)
    (inTime : asked.time - sent.time ≤ inviteTransactionTtl) (recorded : Recorded key sent.task before) :
    asked.event = ⟨.lookupInviteTransaction key,some ⟨⟨upstream,.udp⟩,branch⟩⟩ := by
  have coursed := run_coursed ran
  obtain ⟨kept,last,ofTask⟩ := recorded
  obtain ⟨records,inBefore⟩ := lastFor_some last
  obtain ⟨first,rest,rfl⟩ := List.append_of_mem inBefore
  have splitKept : pool.history = first ++ kept :: (rest ++ asked :: after) := by simp [split]
  obtain ⟨request,prepared,_,dispatched,stored⟩ := record_dispatched coursed splitKept records
  obtain ⟨packet,sends⟩ := goes.sent
  obtain ⟨goesThere,sentFirst,onUdp⟩ := dispatched_goes coursed dispatched (fun record inFirst => by simp [splitKept,inFirst])
    member ofTask.symm sends
  obtain ⟨sameUpstream,sameBranch⟩ := goesThere.unique (run_sound ran) goes
  have ordered := run_ordered ran first kept _ splitKept sent sentFirst
  have fresh : Stamped.fresh inviteTransactionTtl asked.time
      (⟨⟨prepared.target,prepared.branch⟩,kept.time⟩ : Stamped InviteTransactionRoute) = true := by
    simp only [Stamped.fresh,decide_eq_true_eq]
    omega
  have sameTarget : prepared.target = ⟨upstream,.udp⟩ := by rw [sameUpstream,← onUdp]
  rw [asked_reply (run_invites ran) split op,last,Option.bind_some,stored,Option.filter_some,if_pos fresh,Option.map_some,
    sameTarget,sameBranch]

theorem replied_recorded (ran : runServer codec settings actions = some pool) {asked minting : Record Packet} {id : Nat}
    (split : pool.history = before ++ asked :: after)
    (reply : asked.event = ⟨.lookupInviteTransaction key,some route⟩) (named : route.branch = proxyBranch id)
    (member : minting ∈ pool.history) (minted : minting.event = ⟨.uniqueId,id⟩) : Recorded key minting.task before := by
  have coursed := run_coursed ran
  have answered := (asked_reply (run_invites ran) split (congrArg Event.op reply)).symm.trans reply
  have found := (Option.map_eq_some_iff.mp (eq_of_heq (Event.mk.inj answered).2))
  obtain ⟨stamped,kept,rfl⟩ := found
  obtain ⟨records,last,stored⟩ := Option.bind_eq_some_iff.mp (Option.filter_eq_some_iff.mp kept).1
  refine ⟨records,last,?_⟩
  obtain ⟨isRecord,inBefore⟩ := lastFor_some last
  obtain ⟨first,rest,rfl⟩ := List.append_of_mem inBefore
  have splitKept : pool.history = first ++ records :: (rest ++ asked :: after) := by simp [split]
  obtain ⟨request,prepared,isInvite,⟨⟨found,directed⟩,_⟩,recorded⟩ := record_dispatched coursed splitKept isRecord
  have independent : request.method ≠ .cancel ∧ request.method ≠ .ack := by rw [isInvite]; exact ⟨Method.noConfusion,Method.noConfusion⟩
  obtain ⟨minting',earlier,id',ofTask,event,named'⟩ := minter (directed.minted (directed.asked.independent independent))
  cases stored.symm.trans recorded
  cases proxyBranch_injective (named.symm.trans named')
  rw [← ofTask,mint_once (run_sound ran) (by simp [splitKept,earlier]) member event minted]

variable {invite cancel : Nat} {sent asked : Record Packet}

theorem Aimed.route {request : Request Message} {route : InviteTransactionRoute} {past : List (Act Packet)} {target : UpstreamTarget}
    (aimed : Aimed codec settings request (some route) past target) (upstream : settings.upstreamsContain route.target.addr = true) :
    target = route.target := by
  cases aimed with
  | chosen _ picked _ => exact picked
  | itself _ picked here _ =>
      cases (show _ = route.target from picked)
      rw [pointsHere,upstream] at here
      cases here

-- A CANCEL that was handed a route takes its target and its branch.
theorem handed_directed (coursed : Coursed codec settings pool) {request : Request Message} {route : InviteTransactionRoute}
    {prepared : Prepared Message} (member : asked ∈ pool.history) (reply : asked.event = ⟨.lookupInviteTransaction key,some route⟩)
    (isCancel : request.method = .cancel) (keyed : inviteTransactionKey codec request.message = .ok (some key))
    (upstream : settings.upstreamsContain route.target.addr = true) (part : ∀ record ∈ before, record ∈ pool.history)
    (directed : Directed codec settings request (System.own asked.task before) prepared found) :
    prepared.target = route.target ∧ prepared.branch = route.branch := by
  have sole {other : Option InviteTransactionRoute} {key' : String}
      (looked : ⟨.lookupInviteTransaction key',other⟩ ∈ System.own asked.task before) : other = some route := by
    obtain ⟨asking,inBefore,ofTask,event⟩ := System.mem_own.mp looked
    have same := ask_once coursed (part asking inBefore) member ofTask (by rw [event]; rfl) (by rw [reply]; rfl)
    rw [same,reply] at event
    cases event
    rfl
  have hit : found = some route := by
    cases found with
    | none => cases sole (directed.asked.missed rfl isCancel key keyed)
    | some other =>
        obtain ⟨_,key',_,looked⟩ := directed.asked.hit other rfl
        exact sole looked
  subst hit
  exact ⟨directed.aimed.route upstream,directed.borrowed route rfl⟩

theorem handed_goes (coursed : Coursed codec settings pool) {request : Request Message} {route : InviteTransactionRoute}
    (member : asked ∈ pool.history) (reply : asked.event = ⟨.lookupInviteTransaction key,some route⟩)
    (onUdp : route.target.transport = .udp) (upstream : settings.upstreamsContain route.target.addr = true)
    (hasInput : pool.inputs[asked.task]? = some input) (isDatagram : input.isDatagram = true)
    (requested : input.request codec = some request) (isCancel : request.method = .cancel)
    (keyed : inviteTransactionKey codec request.message = .ok (some key)) {forwarded : Record Packet}
    (inHistory : forwarded ∈ pool.history) (ofTask : forwarded.task = asked.task) (forwards : forwarded.event.op.forwards = true) :
    GoesTo pool.history forwarded route.target.addr route.branch := by
  obtain ⟨before,after,split⟩ := List.append_of_mem inHistory
  have part : ∀ record ∈ before, record ∈ pool.history := fun record inBefore => by simp [split,inBefore]
  have follows := follows_at coursed split (ofTask ▸ hasInput) requested
  have handed {prepared : Prepared Message} {found : Option InviteTransactionRoute}
      (directed : Directed codec settings request (System.own forwarded.task before) prepared found) :=
    handed_directed coursed member reply isCancel keyed upstream part (ofTask ▸ directed)
  obtain ⟨task,time,⟨op,sent⟩⟩ := forwarded
  cases op with
  | sendToUpstream packet upstream =>
      obtain ⟨_,prepared,_,⟨_,found,directed⟩,_,_,_,same,routed,_⟩ := follows
      obtain ⟨sameTarget,sameBranch⟩ := handed directed
      obtain ⟨routing,inBefore,ofRouting,routes⟩ := System.mem_own.mp routed
      have inserts := congrArg Event.op routes
      rw [sameBranch] at inserts
      exact ⟨⟨packet,by rw [same,sameTarget]⟩,routing,part routing inBefore,ofRouting,_,inserts⟩
  | sendRequest upstream branch packet method =>
      obtain ⟨prepared,⟨_,found,directed⟩,onTcp,_⟩ := follows
      have transport := onTcp isDatagram
      rw [(handed directed).1,onUdp] at transport
      cases transport
  | _ => cases forwards

-- Whatever the CANCEL goes out under, it is the INVITE's branch only where it was
-- handed the INVITE's route.
theorem goes_recorded (ran : runServer codec settings actions = some pool) {request other : Request Message}
    (split : pool.history = before ++ asked :: after) (op : asked.event.op = .lookupInviteTransaction key)
    (hasInput : pool.inputs[asked.task]? = some input) (requested : input.request codec = some request)
    (isCancel : request.method = .cancel) (keyed : inviteTransactionKey codec request.message = .ok (some key))
    (member : sent ∈ pool.history) (hasInvite : pool.inputs[sent.task]? = some inviting)
    (invited : inviting.request codec = some other) (isInvite : other.method = .invite)
    (goes : GoesTo pool.history sent upstream branch) {forwarded : Record Packet} (inHistory : forwarded ∈ pool.history)
    (ofTask : forwarded.task = asked.task) (follows : GoesTo pool.history forwarded upstream branch) :
    Recorded key sent.task before := by
  have coursed := run_coursed ran
  have sound := run_sound ran
  have askedIn : asked ∈ pool.history := by simp [split]
  have independent : other.method ≠ .cancel ∧ other.method ≠ .ack := by
    rw [isInvite]
    exact ⟨Method.noConfusion,Method.noConfusion⟩
  obtain ⟨minting,minted,id,ofSent,event,named⟩ := goes_minted coursed sound member hasInvite invited independent goes
  obtain ⟨first,rest,splitForwarded⟩ := List.append_of_mem inHistory
  have part : ∀ record ∈ first, record ∈ pool.history := fun record inFirst => by simp [splitForwarded,inFirst]
  obtain ⟨packet,sends⟩ := follows.sent
  have path := follows_at coursed splitForwarded (ofTask ▸ hasInput) requested
  obtain ⟨task,time,⟨sending,reply⟩⟩ := forwarded
  cases sends
  obtain ⟨_,prepared,_,⟨_,found,directed⟩,_,_,_,_,routed,_⟩ := path
  obtain ⟨routing,inFirst,ofRouting,routes⟩ := System.mem_own.mp routed
  have own : GoesTo pool.history ⟨task,time,⟨.sendToUpstream packet upstream,reply⟩⟩ upstream prepared.branch :=
    ⟨⟨packet,rfl⟩,routing,part routing inFirst,ofRouting,_,congrArg Event.op routes⟩
  have sameBranch : prepared.branch = proxyBranch id := (follows.unique sound own).2.trans named
  cases found with
  | none =>
      obtain ⟨minting',earlier,id',ofForwarded,event',named'⟩ := minter (directed.minted rfl)
      cases proxyBranch_injective (sameBranch.symm.trans named')
      have same := mint_once sound minted (part minting' earlier) event event'
      have sameTask : sent.task = asked.task := by rw [← ofSent,same,ofForwarded]; exact ofTask
      rw [sameTask] at hasInvite
      cases hasInput.symm.trans hasInvite
      cases requested.symm.trans invited
      cases isCancel.symm.trans isInvite
  | some route =>
      obtain ⟨_,key',keyed',looked⟩ := directed.asked.hit route rfl
      obtain ⟨asking,askingFirst,ofAsking,answer⟩ := System.mem_own.mp looked
      have same := ask_once coursed (part asking askingFirst) askedIn (ofAsking.trans ofTask) (by rw [answer]; rfl) (by rw [op]; rfl)
      rw [same] at answer
      cases keyed.symm.trans keyed'
      rw [← ofSent]
      exact replied_recorded ran split answer ((directed.borrowed route rfl).symm.trans sameBranch) minted event

theorem cancel_follows_invite (ran : runServer codec settings actions = some pool)
    (invited : Forwards codec pool invite .invite key) (cancelled : Forwards codec pool cancel .cancel key)
    (split : pool.history = before ++ asked :: after) (ofCancel : asked.task = cancel)
    (op : asked.event.op = .lookupInviteTransaction key) (sentBefore : sent ∈ before) (ofInvite : sent.task = invite)
    (goes : GoesTo pool.history sent upstream branch) (isUpstream : settings.upstreamsContain upstream = true)
    (inTime : asked.time - sent.time ≤ inviteTransactionTtl) :
    (∀ forwarded ∈ pool.history, forwarded.task = cancel → forwarded.event.op.forwards = true →
      (GoesTo pool.history forwarded upstream branch ↔ Recorded key invite before)) ∧
    (pool.tasks[cancel]? = some (.done ()) → ¬ClientAnswered (System.own cancel pool.history) →
      ∃ forwarded ∈ pool.history, forwarded.task = cancel ∧ forwarded.event.op.forwards = true) := by
  subst ofCancel ofInvite
  have coursed := run_coursed ran
  have askedIn : asked ∈ pool.history := by simp [split]
  have sentIn : sent ∈ pool.history := by simp [split,sentBefore]
  obtain ⟨inviting,other,hasInvite,_,otherRequested,isInvite,_⟩ := invited
  obtain ⟨input,request,hasInput,isDatagram,requested,isCancel,keyed⟩ := cancelled
  refine ⟨fun forwarded member ofTask forwards => ⟨fun follows => ?_,fun recorded => ?_⟩,fun finished unanswered => ?_⟩
  · exact goes_recorded ran split op hasInput requested isCancel keyed sentIn hasInvite otherRequested isInvite goes member ofTask follows
  · have reply := recorded_reply ran split op sentIn goes inTime recorded
    exact handed_goes coursed askedIn reply rfl isUpstream hasInput isDatagram requested isCancel keyed member ofTask forwards
  · have concluded := coursed.path asked.task input (.done ()) hasInput finished request requested
    rcases concluded.delivered rfl with unasked | ⟨prepared,gone⟩ | answered
    · have quiet := unasked asked.event (System.mem_own.mpr ⟨asked,askedIn,rfl,rfl⟩)
      rw [op] at quiet
      cases quiet
    · cases gone with
      | udp _ _ gone =>
          obtain ⟨forwarded,member,ofTask,event⟩ := System.mem_own.mp gone
          exact ⟨forwarded,member,ofTask,by rw [event]; rfl⟩
      | tcp gone =>
          obtain ⟨forwarded,member,ofTask,event⟩ := System.mem_own.mp gone
          exact ⟨forwarded,member,ofTask,by rw [event]; rfl⟩
    · exact (unanswered (answered isDatagram)).elim

def callKey : String := "z9hG4bK-client:call:1"

-- The CANCEL is looked up right after the INVITE's datagram has gone out.
def cancelledEarly : Schedule :=
  datagram (request .invite) clientAddr :: steps 0 10 ++ datagram (request .cancel) clientAddr :: steps 1 10

def cancelledLate : Schedule :=
  datagram (request .invite) clientAddr :: steps 0 12 ++ datagram (request .cancel) clientAddr :: steps 1 7

theorem early_cancel_leaves_invite : ∃ pool before sent asked after forwarded,
    runServer envelopeCodec plainSettings cancelledEarly = some pool ∧
    Forwards envelopeCodec pool 0 .invite callKey ∧ Forwards envelopeCodec pool 1 .cancel callKey ∧
    pool.history = before ++ asked :: after ∧ asked.task = 1 ∧ asked.event.op = .lookupInviteTransaction callKey ∧
    sent ∈ before ∧ sent.task = 0 ∧ GoesTo pool.history sent upstreamAddr (proxyBranch 1) ∧
    plainSettings.upstreamsContain upstreamAddr = true ∧ asked.time - sent.time ≤ inviteTransactionTtl ∧
    pool.tasks[1]? = some (.done ()) ∧ ¬ClientAnswered (System.own 1 pool.history) ∧
    forwarded ∈ pool.history ∧ forwarded.task = 1 ∧ forwarded.event.op.forwards = true ∧
    ¬GoesTo pool.history forwarded upstreamAddr (proxyBranch 1) := by
  let asked : Record Envelope := ⟨1,0,⟨.lookupInviteTransaction callKey,none⟩⟩
  have reached : ∃ pool rerouted forwarded route packet, runServer envelopeCodec plainSettings cancelledEarly = some pool ∧
      pool.history = pool.history.take 11 ++ asked :: pool.history.drop 12 ∧
      (pool.history[7]? = some routedInvite ∧ pool.history[9]? = some sentInvite) ∧
      (pool.history[16]? = some rerouted ∧ rerouted.task = 1 ∧ rerouted.event.op = .insertUdpBranch (proxyBranch 2) route) ∧
      (pool.history[18]? = some forwarded ∧ forwarded.task = 1 ∧ forwarded.event.op = .sendToUpstream packet upstreamAddr) ∧
      pool.tasks[1]? = some (.done ()) ∧ (∀ act ∈ System.own 1 pool.history, act.op.answersClient = false) ∧
      pool.inputs = [.udp (request .invite) clientAddr udpListener,.udp (request .cancel) clientAddr udpListener] :=
    ⟨_,_,_,_,_,rfl,rfl,⟨rfl,rfl⟩,⟨rfl,rfl,rfl⟩,⟨rfl,rfl,rfl⟩,rfl,by decide +kernel,rfl⟩
  obtain ⟨pool,rerouted,forwarded,route,packet,ran,split,⟨routed,sent⟩,⟨rerouting,ofRerouted,reroutes⟩,
    ⟨forwarding,ofForwarded,sends⟩,done,silent,inputs⟩ := reached
  have sentBefore : sentInvite ∈ pool.history.take 11 :=
    List.mem_of_getElem? ((List.getElem?_take_of_lt (by decide)).trans sent)
  have goes : GoesTo pool.history sentInvite upstreamAddr (proxyBranch 1) :=
    ⟨⟨_,rfl⟩,routedInvite,List.mem_of_getElem? routed,rfl,_,rfl⟩
  have elsewhere : GoesTo pool.history forwarded upstreamAddr (proxyBranch 2) :=
    ⟨⟨packet,sends⟩,rerouted,List.mem_of_getElem? rerouting,ofRerouted.trans ofForwarded.symm,route,reroutes⟩
  refine ⟨pool,_,sentInvite,asked,_,forwarded,ran,⟨_,_,by rw [inputs]; rfl,rfl,rfl,rfl,rfl⟩,⟨_,_,by rw [inputs]; rfl,rfl,rfl,rfl,rfl⟩,
    split,rfl,rfl,sentBefore,rfl,goes,by decide,by decide,done,?_,List.mem_of_getElem? forwarding,ofForwarded,by rw [sends]; rfl,?_⟩
  · intro given
    rcases given with ⟨act,member,answers⟩
    cases (silent act member).symm.trans answers
  · intro follows
    cases proxyBranch_injective (elsewhere.unique (run_sound ran) follows).2

theorem late_cancel_follows_invite : ∃ pool forwarded, runServer envelopeCodec plainSettings cancelledLate = some pool ∧
    forwarded ∈ pool.history ∧ forwarded.task = 1 ∧ forwarded.event.op.forwards = true ∧
    GoesTo pool.history forwarded upstreamAddr (proxyBranch 1) := by
  let asked : Record Envelope := ⟨1,0,⟨.lookupInviteTransaction callKey,some ⟨⟨upstreamAddr,.udp⟩,proxyBranch 1⟩⟩⟩
  let recorded : Record Envelope := ⟨0,0,⟨.rememberInviteTransaction callKey ⟨⟨upstreamAddr,.udp⟩,proxyBranch 1⟩,()⟩⟩
  have reached : ∃ pool, runServer envelopeCodec plainSettings cancelledLate = some pool ∧
      pool.history = pool.history.take 13 ++ asked :: pool.history.drop 14 ∧
      (pool.history[7]? = some routedInvite ∧ pool.history[9]? = some sentInvite) ∧
      lastFor (recordsInvite callKey) (pool.history.take 13) = some recorded ∧
      pool.tasks[1]? = some (.done ()) ∧ (∀ act ∈ System.own 1 pool.history, act.op.answersClient = false) ∧
      pool.inputs = [.udp (request .invite) clientAddr udpListener,.udp (request .cancel) clientAddr udpListener] :=
    ⟨_,rfl,rfl,⟨rfl,rfl⟩,rfl,rfl,by decide +kernel,rfl⟩
  obtain ⟨pool,ran,split,⟨routed,sent⟩,last,done,silent,inputs⟩ := reached
  have sentBefore : sentInvite ∈ pool.history.take 13 :=
    List.mem_of_getElem? ((List.getElem?_take_of_lt (by decide)).trans sent)
  have goes : GoesTo pool.history sentInvite upstreamAddr (proxyBranch 1) :=
    ⟨⟨_,rfl⟩,routedInvite,List.mem_of_getElem? routed,rfl,_,rfl⟩
  obtain ⟨follows,forwarded⟩ := cancel_follows_invite ran ⟨_,_,by rw [inputs]; rfl,rfl,rfl,rfl,rfl⟩
    ⟨_,_,by rw [inputs]; rfl,rfl,rfl,rfl,rfl⟩ split rfl rfl sentBefore rfl goes (by decide) (by decide)
  obtain ⟨record,member,ofTask,forwards⟩ := forwarded done fun ⟨act,member,answers⟩ => nomatch (silent act member).symm.trans answers
  exact ⟨pool,record,ran,member,ofTask,forwards,(follows record member ofTask forwards).mpr ⟨recorded,last,rfl⟩⟩

end Routing
end Sigproxy.Proxy
