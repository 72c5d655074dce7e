import Sigproxy.Proxy.TargetChoice

namespace Sigproxy.Proxy
open Library Net Cluster Affinity
open Program

variable {Packet Message : Type} {codec : Codec Packet Message} {settings : Settings}

section Forwarding

def pointsHere (settings : Settings) (listener : ProxyListenerConfig) (target : UpstreamTarget) : Bool :=
  !settings.upstreamsContain target.addr && settings.isAdvertisedOrListenerAddr target.addr listener

-- A target that would be the proxy itself is replaced by one of the upstream group.
inductive Aimed (codec : Codec Packet Message) (settings : Settings) (request : Request Message)
    (found : Option InviteTransactionRoute) (past : List (Act Packet)) : UpstreamTarget → Prop where
  | chosen : codec.requestUri request.message = some requestUri → Picked codec settings request requestUri found past target →
      pointsHere settings request.listener target = false → Aimed codec settings request found past target
  | itself : codec.requestUri request.message = some requestUri → Picked codec settings request requestUri found past chosen →
      pointsHere settings request.listener chosen = true → ⟨.selectUpstream requestUri request.listener,addr⟩ ∈ past →
      Aimed codec settings request found past ⟨addr,request.listener.transport⟩

def signs (codec : Codec Packet Message) (original : Message) (prepared : Prepared Message) : Prop :=
  ∃ stripped viaHost signed, Edited codec original stripped ∧
    codec.prependVia prepared.target.transport viaHost prepared.branch stripped = .ok signed ∧ Edited codec signed prepared.message

-- Where the INVITE transaction of a request was looked for, and with what result.
structure Asked (codec : Codec Packet Message) (request : Request Message) (past : List (Act Packet))
    (found : Option InviteTransactionRoute) : Prop where
  hit : ∀ route, found = some route → (request.method = .cancel ∨ request.method = .ack) ∧
    ∃ key, inviteTransactionKey codec request.message = .ok (some key) ∧ ⟨.lookupInviteTransaction key,some route⟩ ∈ past
  missed : found = none → request.method = .cancel → ∀ key, inviteTransactionKey codec request.message = .ok (some key) →
    ⟨.lookupInviteTransaction key,none⟩ ∈ past

-- What prepare_forward has settled, with the replies that it rests on.
structure Directed (codec : Codec Packet Message) (settings : Settings) (request : Request Message) (past : List (Act Packet))
    (prepared : Prepared Message) (found : Option InviteTransactionRoute) : Prop where
  keyed : request.method = .invite → inviteTransactionKey codec request.message = .ok prepared.inviteTransactionKey
  asked : Asked codec request past found
  borrowed : ∀ route, found = some route → prepared.branch = route.branch
  minted : found = none → Minted past prepared.branch
  aimed : Aimed codec settings request found past prepared.target
  signed : signs codec request.message prepared

variable {past after : List (Act Packet)} {request : Request Message} {prepared : Prepared Message}
  {found : Option InviteTransactionRoute}

theorem Minted.grown (minted : Minted past branch) (grown : ∀ act ∈ past, act ∈ after) : Minted after branch := by
  obtain ⟨id,member,named⟩ := minted
  exact ⟨id,grown _ member,named⟩

theorem Aimed.later (aimed : Aimed codec settings request found past target) (grown : ∀ act ∈ past, act ∈ after) :
    Aimed codec settings request found after target := by
  cases aimed with
  | chosen named chosen elsewhere => exact .chosen named (chosen.later grown) elsewhere
  | itself named chosen here reply => exact .itself named (chosen.later grown) here (grown _ reply)

theorem Asked.later (asked : Asked codec request past found) (grown : ∀ act ∈ past, act ∈ after) :
    Asked codec request after found where
  hit route same := by
    obtain ⟨dependent,key,keyed,held⟩ := asked.hit route same
    exact ⟨dependent,key,keyed,grown _ held⟩
  missed none isCancel key keyed := grown _ (asked.missed none isCancel key keyed)

-- Only a CANCEL or an ACK is handed the route of an INVITE.
theorem Asked.independent (asked : Asked codec request past found) (independent : request.method ≠ .cancel ∧ request.method ≠ .ack) :
    found = none := by
  cases found with
  | none => rfl
  | some route => exact ((asked.hit route rfl).1.elim independent.1 independent.2).elim

theorem Directed.later (directed : Directed codec settings request past prepared found) (grown : ∀ act ∈ past, act ∈ after) :
    Directed codec settings request after prepared found where
  keyed := directed.keyed
  asked := directed.asked.later grown
  borrowed := directed.borrowed
  minted none := (directed.minted none).grown grown
  aimed := directed.aimed.later grown
  signed := directed.signed

def Op.forwards : Op Packet → Bool
  | .sendToUpstream .. | .sendRequest .. => true
  | _ => false

def Op.asksInvite : Op Packet → Bool
  | .lookupInviteTransaction _ => true
  | _ => false

def Unforwarded (past : List (Act Packet)) : Prop := ∀ act ∈ past, act.op.forwards = false
def Unasked (past : List (Act Packet)) : Prop := ∀ act ∈ past, act.op.asksInvite = false

-- The state in which a request is sent: nothing has gone out, and the client
-- transaction of a datagram was looked for in vain.
structure Poised (codec : Codec Packet Message) (datagram : Bool) (request : Request Message) (past : List (Act Packet)) : Prop where
  unforwarded : Unforwarded past
  fresh : datagram = true → ∀ key, udpClientTransactionKey codec request.message request.peer request.method = .ok (some key) →
    ⟨.lookupUdpClientTransaction key,none⟩ ∈ past

def Sending (codec : Codec Packet Message) (settings : Settings) (datagram : Bool) (request : Request Message)
    (past : List (Act Packet)) (prepared : Prepared Message) : Prop :=
  Poised codec datagram request past ∧ ∃ found, Directed codec settings request past prepared found

-- The request has gone out.
inductive Sent (codec : Codec Packet Message) (method : Method) (past : List (Act Packet)) (prepared : Prepared Message) : Prop where
  | udp : prepared.target.transport = .udp → ⟨.insertUdpBranch prepared.branch route,()⟩ ∈ past →
      ⟨.sendToUpstream (codec.toBytes prepared.message) prepared.target.addr,true⟩ ∈ past → Sent codec method past prepared
  | tcp : ⟨.sendRequest prepared.target.addr prepared.branch (codec.toBytes prepared.message) method,.ok responses⟩ ∈ past →
      Sent codec method past prepared

def Failed (past : List (Act Packet)) : Prop :=
  (∃ packet upstream, ⟨.sendToUpstream packet upstream,false⟩ ∈ past) ∨
    ∃ upstream branch packet method error, ⟨.sendRequest upstream branch packet method,.error error⟩ ∈ past

def Dispatched (codec : Codec Packet Message) (settings : Settings) (request : Request Message) (past : List (Act Packet))
    (prepared : Prepared Message) : Prop :=
  (∃ found, Directed codec settings request past prepared found) ∧ Sent codec request.method past prepared

-- What each call of a request stands on.
def Follows (codec : Codec Packet Message) (settings : Settings) (datagram : Bool) (request : Request Message)
    (past : List (Act Packet)) : Act Packet → Prop
  | ⟨.lookupUdpClientTransaction key,_⟩ =>
    datagram = true ∧ Unforwarded past ∧ udpClientTransactionKey codec request.message request.peer request.method = .ok (some key)
  | ⟨.lookupInviteTransaction key,_⟩ =>
    Unasked past ∧ (request.method = .cancel ∨ request.method = .ack) ∧ inviteTransactionKey codec request.message = .ok (some key)
  | ⟨.insertUdpBranch branch route,_⟩ =>
    datagram = true ∧ ∃ prepared key, Sending codec settings datagram request past prepared ∧ branch = prepared.branch ∧
      route = udpBranchRoute prepared request.peer key request.method
  | ⟨.sendToUpstream packet upstream,_⟩ =>
    datagram = true ∧ ∃ prepared key, Sending codec settings datagram request past prepared ∧
      udpClientTransactionKey codec request.message request.peer request.method = .ok key ∧
      prepared.target.transport = .udp ∧ packet = codec.toBytes prepared.message ∧ upstream = prepared.target.addr ∧
      ⟨.insertUdpBranch prepared.branch (udpBranchRoute prepared request.peer key request.method),()⟩ ∈ past ∧
      ∀ named, key = some named → ⟨.rememberUdpClientTransaction named prepared.target,()⟩ ∈ past
  | ⟨.sendRequest upstream branch packet method,_⟩ =>
    ∃ prepared, Sending codec settings datagram request past prepared ∧ (datagram = true → prepared.target.transport = .tcp) ∧
      upstream = prepared.target.addr ∧ branch = prepared.branch ∧ packet = codec.toBytes prepared.message ∧ method = request.method
  | ⟨.rememberUdpClientTransaction key _,_⟩ =>
    datagram = true ∧ udpClientTransactionKey codec request.message request.peer request.method = .ok (some key)
  | ⟨.removeUdpClientTransaction key,_⟩ =>
    datagram = true ∧ Failed past ∧ udpClientTransactionKey codec request.message request.peer request.method = .ok (some key)
  | ⟨.rememberInviteTransaction key route,_⟩ =>
    request.method = .invite ∧ inviteTransactionKey codec request.message = .ok (some key) ∧
      ∃ prepared, Dispatched codec settings request past prepared ∧ route = ⟨prepared.target,prepared.branch⟩
  | ⟨.rememberAffinityKeys keys target,_⟩ =>
    shouldRecordForwardAffinity request.method = true ∧ ∃ prepared, Dispatched codec settings request past prepared ∧
      affinityKeys codec settings.affinityKey prepared.message = .ok keys ∧ target = prepared.target.affinity
  | ⟨.rememberAffinityKey key _ _,_⟩ => ∃ aor, key = registrationUpstreamAffinityKey aor
  | _ => True

theorem aside_follows {datagram : Bool} {act : Act Packet} (aside : Aside act.op) (past : List (Act Packet)) :
    Follows codec settings datagram request past act := by
  obtain ⟨op,reply⟩ := act
  cases op <;> first | exact aside | exact aside.elim

theorem aside_silent {op : Op Packet} (aside : Aside op) : op.forwards = false ∧ op.asksInvite = false := by
  cases op <;> first | exact aside.elim | exact ⟨rfl,rfl⟩

theorem unforwarded_snoc {act : Act Packet} (unforwarded : Unforwarded past) (silent : act.op.forwards = false) :
    Unforwarded (past ++ [act]) := by
  intro other member
  rcases List.mem_append.mp member with earlier | last
  · exact unforwarded other earlier
  · rw [List.mem_singleton.mp last]; exact silent

theorem unasked_snoc {act : Act Packet} (unasked : Unasked past) (silent : act.op.asksInvite = false) :
    Unasked (past ++ [act]) := by
  intro other member
  rcases List.mem_append.mp member with earlier | last
  · exact unasked other earlier
  · rw [List.mem_singleton.mp last]; exact silent

theorem poised_snoc {datagram : Bool} {act : Act Packet} (poised : Poised codec datagram request past)
    (silent : act.op.forwards = false) : Poised codec datagram request (past ++ [act]) where
  unforwarded := unforwarded_snoc poised.unforwarded silent
  fresh isDatagram key keyed := List.mem_append_left _ (poised.fresh isDatagram key keyed)

theorem along_aside_then {datagram : Bool} {First Second : Type} {task : Task Packet First} {next : First → Task Packet Second}
    {middle : List (Act Packet) → First → Prop} {ends : List (Act Packet) → Except String Second → Prop}
    (kept : List (Act Packet) → Prop) (aside : task.Uses Aside) (yielding : Yields task past middle)
    (steady : ∀ past act, kept past → Aside act.op → kept (past ++ [act])) (start : kept past)
    (rest : ∀ between result, kept between → (∀ act ∈ past, act ∈ between) → middle between result →
      (next result).Along (Follows codec settings datagram request) ends between)
    (failed : ∀ past error, kept past → ends past (.error error)) :
    (task >>= next).Along (Follows codec settings datagram request) ends past := by
  have followed : task.Along (Follows codec settings datagram request) (fun past _ => kept past) past :=
    along_uses aside (fun past _ _ allowed => aside_follows allowed past) steady start
  refine along_bind _ (along_mono (along_both followed yielding) (fun _ _ both => both.1) fun _ _ both => both)
    (fun between result ended => ?_) (fun past error ended => failed past error ended.1)
  exact rest between result ended.1 ended.2.1 (ended.2.2 result rfl)

theorem poised_steady (codec : Codec Packet Message) (datagram : Bool) (request : Request Message) (past : List (Act Packet))
    (act : Act Packet) (poised : Poised codec datagram request past) (aside : Aside act.op) :
    Poised codec datagram request (past ++ [act]) := poised_snoc poised (aside_silent aside).1

theorem rememberPendingRegister_follows {datagram : Bool} (poised : Poised codec datagram request past) (branch : String)
    (pending : Option PendingRegister) :
    (rememberPendingRegister branch pending : Task Packet Unit).Along (Follows codec settings datagram request)
      (fun after _ => Poised codec datagram request after ∧ ∀ act ∈ past, act ∈ after) past := by
  cases pending with
  | none => exact ⟨poised,fun _ member => member⟩
  | some pending => exact fun reply => ⟨trivial,poised_snoc poised rfl,fun _ member => List.mem_append_left _ member⟩

theorem trackRegister_follows {datagram : Bool} (poised : Poised codec datagram request past) (message : Message)
    (viaHost branch : String) (peer : SocketAddr) (target : UpstreamTarget) (method : Method) :
    (trackRegister codec settings message viaHost peer target branch method).Along (Follows codec settings datagram request)
      (fun after outcome => (Poised codec datagram request after ∧ ∀ act ∈ past, act ∈ after) ∧
        ∀ tracked, outcome = .ok tracked → Edited codec message tracked) past := by
  have unedited (error : String) : (Poised codec datagram request past ∧ ∀ act ∈ past, act ∈ past) ∧
      ∀ tracked, (.error error : Except String Message) = .ok tracked → Edited codec message tracked :=
    ⟨⟨poised,fun _ member => member⟩,fun _ same => nomatch same⟩
  have recorded {edited : Message} {pending : Option PendingRegister} (edits : Edited codec message edited) :
      (rememberPendingRegister branch pending >>= fun _ => pure edited : Task Packet Message).Along
        (Follows codec settings datagram request) (fun after outcome => (Poised codec datagram request after ∧
          ∀ act ∈ past, act ∈ after) ∧ ∀ tracked, outcome = .ok tracked → Edited codec message tracked) past := by
    refine along_bind _ (rememberPendingRegister_follows poised branch pending) (fun after _ kept => ⟨kept,?_⟩)
      (fun _ _ kept => ⟨kept,fun _ same => nomatch same⟩)
    intro tracked same
    cases same
    exact edits
  unfold trackRegister
  split
  · split
    · refine along_lift (fun result rewritten => ?_) (fun error _ => unedited error)
      unfold rewriteRegisterContactAndPending at rewritten
      cases contacts : codec.rewriteContactHostWithUser viaHost
          (rewrittenRegisterContactUser codec (codec.extractAor message).toOption) message with
      | error error => simp [contacts] at rewritten
      | ok renamed =>
          simp only [contacts] at rewritten
          cases rewritten
          exact recorded (.contact contacts (.refl _))
    · refine along_lift (fun pending _ => ?_) (fun error _ => unedited error)
      refine along_lift (fun edited added => ?_) (fun error _ => unedited error)
      exact recorded (.path added (.refl edited))
  · refine ⟨⟨poised,fun _ member => member⟩,fun tracked same => ?_⟩
    cases same
    exact .refl message

-- The INVITE transaction is asked for by a CANCEL, or by an ACK without a target of its own.
theorem lookupInviteTransaction_follows {datagram : Bool} {direct : Option UpstreamTarget} {key : Option String}
    (poised : Poised codec datagram request past) (unasked : Unasked past)
    (keyed : (if request.method = .invite ∨ request.method = .cancel ∨ request.method = .ack
      then inviteTransactionKey codec request.message else .ok none) = .ok key) :
    (if request.method = .cancel ∨ (request.method = .ack ∧ direct.isNone) then lookupInviteTransaction key else pure none :
      Task Packet _).Along (Follows codec settings datagram request) (fun after outcome =>
        (Poised codec datagram request after ∧ ∀ act ∈ past, act ∈ after) ∧
        ∀ found, outcome = .ok found → Asked codec request after found ∧
          (request.method = .ack → found.isSome = true → direct = none)) past := by
  split
  · rename_i dependent
    have asking : request.method = .cancel ∨ request.method = .ack := dependent.imp_right And.left
    rw [if_pos (.inr asking)] at keyed
    cases key with
    | none =>
        refine ⟨⟨poised,fun _ member => member⟩,fun found same => ?_⟩
        cases same
        exact ⟨⟨fun _ none => (nomatch none),fun _ _ key named => nomatch keyed.symm.trans named⟩,fun _ some => nomatch some⟩
    | some key =>
        intro reply
        refine ⟨⟨unasked,asking,keyed⟩,⟨poised_snoc poised rfl,fun _ member => List.mem_append_left _ member⟩,?_⟩
        intro found same
        cases same
        refine ⟨⟨?_,?_⟩,fun isAck _ => ?_⟩
        · intro route same
          rcases same with rfl
          exact ⟨asking,key,keyed,last_mem past _⟩
        · intro same isCancel other named
          rcases same with rfl
          cases keyed.symm.trans named
          exact last_mem past _
        · rcases dependent with isCancel | ⟨_,none⟩
          · cases isAck.symm.trans isCancel
          · exact Option.isNone_iff_eq_none.mp none
  · rename_i independent
    refine ⟨⟨poised,fun _ member => member⟩,fun found same => ?_⟩
    cases same
    exact ⟨⟨fun _ none => (nomatch none),fun _ isCancel => (independent (.inl isCancel)).elim⟩,fun _ some => nomatch some⟩

theorem branchFor_follows {datagram : Bool} (poised : Poised codec datagram request past)
    (found : Option InviteTransactionRoute) : (branchFor found : Task Packet String).Along
      (Follows codec settings datagram request) (fun after outcome =>
        (Poised codec datagram request after ∧ ∀ act ∈ past, act ∈ after) ∧ ∀ branch, outcome = .ok branch →
          (∀ route, found = some route → branch = route.branch) ∧ (found = none → Minted after branch)) past := by
  cases found with
  | some route =>
      refine ⟨⟨poised,fun _ member => member⟩,fun branch same => ?_⟩
      cases same
      exact ⟨fun other found => Option.some.inj found ▸ rfl,fun none => nomatch none⟩
  | none =>
      intro id
      refine ⟨trivial,⟨poised_snoc poised rfl,fun _ member => List.mem_append_left _ member⟩,fun branch same => ?_⟩
      cases same
      exact ⟨fun _ found => (nomatch found),fun _ => ⟨id,last_mem past _,rfl⟩⟩

theorem prepareForward_follows {datagram : Bool} (poised : Poised codec datagram request past) (unasked : Unasked past) :
    (prepareForward codec settings request.message request.peer request.listener request.method).Along
      (Follows codec settings datagram request) (fun after outcome => Poised codec datagram request after ∧
        ∀ prepared, outcome = .ok prepared → ∃ found, Directed codec settings request after prepared found) past := by
  have failing : ∀ (past : List (Act Packet)) (error : String), Poised codec datagram request past →
      Poised codec datagram request past ∧ ∀ prepared, (.error error : Except String (Prepared Message)) = .ok prepared →
        ∃ found, Directed codec settings request past prepared found := fun _ _ poised => ⟨poised,fun _ same => nomatch same⟩
  have steady := poised_steady codec datagram request
  unfold prepareForward
  split
  · exact failing past _ poised
  rename_i requestUri named
  dsimp only
  refine along_aside_then (fun past => Poised codec datagram request past ∧ Unasked past)
    (?_ : Program.Uses Aside _) (?_ : Yields _ past fun _ routed => routed = true → settings.isUpstreamSource request.peer = true)
    (fun past act kept aside => ⟨steady past act kept.1 aside,unasked_snoc kept.2 (aside_silent aside).2⟩) ⟨poised,unasked⟩ ?_
    (fun past error kept => failing past error kept.1)
  · split
    · exact silent_uses (still_silent (views_still (topRouteTargetsThisProxy_views request.message request.listener request.peer)))
    · trivial
  · split
    · rename_i fromUpstream
      exact along_mono (yields_any _ past) (fun _ _ held => held) fun _ _ ended => ⟨ended.1,fun _ _ _ => fromUpstream⟩
    · exact yields_pure fun routed => nomatch routed
  rintro past routed ⟨poised,unasked⟩ - fromUpstream
  refine along_lift (fun key keyed => ?_) (fun error _ => failing past error poised)
  refine along_bind _ (lookupInviteTransaction_follows poised unasked keyed) (fun past found kept => ?_)
    (fun past error kept => failing past error kept.1.1)
  obtain ⟨⟨poised,-⟩,asked⟩ := kept
  obtain ⟨asked,direct⟩ := asked found rfl
  refine along_aside_then _ (silent_uses (looks_silent (forwardTarget_looks ..))) (forwardTarget_yields request requestUri routed found past fromUpstream direct)
    steady poised ?_ failing
  intro past chosen poised grown choice
  replace asked := asked.later grown
  refine along_aside_then _ (?_ : Program.Uses Aside _) (?_ : Yields _ past (Aimed codec settings request found)) steady poised ?_ failing
  · split
    · exact silent_uses (still_silent (views_still (selectUpstream_views requestUri request.listener)))
    · trivial
  · split
    · rename_i here
      refine yields_call fun addr => yields_pure (.itself named ?_ here (last_mem past _))
      exact choice.later fun _ member => List.mem_append_left _ member
    · rename_i elsewhere
      exact yields_pure (.chosen named choice (Bool.eq_false_iff.mpr elsewhere))
  intro past target poised grown aimed
  replace asked := asked.later grown
  refine along_aside_then _ (silent_uses (still_silent (views_still (popOwnRouteHeaders_views ..)))) (popOwnRouteHeaders_yields _ _ _ _ past) steady poised ?_ failing
  intro past stripped poised grown edited
  replace asked := asked.later grown
  replace aimed := aimed.later grown
  refine along_bind _ (branchFor_follows poised found) (fun past branch kept => ?_) (fun past error kept => failing past error kept.1.1)
  obtain ⟨⟨poised,grown⟩,branched⟩ := kept
  obtain ⟨borrowed,minted⟩ := branched branch rfl
  replace asked := asked.later grown
  replace aimed := aimed.later grown
  refine along_aside_then _ (uses_perform trivial) (yields_any _ past) steady poised ?_ failing
  intro past viaHost poised grown _
  replace asked := asked.later grown
  replace aimed := aimed.later grown
  replace minted := fun none => (minted none).grown grown
  refine along_lift (fun signed added => ?_) (fun error _ => failing past error poised)
  refine along_aside_then _ (silent_uses (still_silent (views_still (recordRoutes_views ..)))) (recordRoutes_yields signed _ _ _ _ past) steady poised ?_ failing
  intro past recorded poised grown dressed
  replace asked := asked.later grown
  replace aimed := aimed.later grown
  replace minted := fun none => (minted none).grown grown
  refine along_bind _ (trackRegister_follows poised ..) (fun past message kept => ?_) (fun past error kept => failing past error kept.1.1)
  obtain ⟨⟨poised,grown⟩,tracked⟩ := kept
  refine ⟨poised,fun prepared same => ?_⟩
  cases same
  refine ⟨found,?_,asked.later grown,borrowed,fun none => (minted none).grown grown,aimed.later grown,?_⟩
  · intro isInvite
    rw [if_pos (.inl isInvite)] at keyed
    exact keyed
  · exact ⟨stripped,viaHost,signed,edited,added,dressed.trans (tracked message rfl)⟩

-- A datagram whose request has gone out is registered, or its send has failed.
def Settled (codec : Codec Packet Message) (request : Request Message) (past : List (Act Packet)) : Prop :=
  Failed past ∨ ∀ key, udpClientTransactionKey codec request.message request.peer request.method = .ok (some key) →
    ∃ target, ⟨.rememberUdpClientTransaction key target,()⟩ ∈ past

structure Forwarded (codec : Codec Packet Message) (datagram : Bool) (request : Request Message) (past : List (Act Packet))
    (outcome : Except String Unit) : Prop where
  settled : datagram = true → Unforwarded past ∨ Settled codec request past
  delivered : outcome = .ok () → Unasked past ∨ ∃ prepared, Sent codec request.method past prepared

theorem Failed.later (failed : Failed past) (grown : ∀ act ∈ past, act ∈ after) : Failed after := by
  rcases failed with ⟨packet,upstream,member⟩ | ⟨upstream,branch,packet,method,error,member⟩
  · exact .inl ⟨packet,upstream,grown _ member⟩
  · exact .inr ⟨upstream,branch,packet,method,error,grown _ member⟩

theorem Settled.later (settled : Settled codec request past) (grown : ∀ act ∈ past, act ∈ after) :
    Settled codec request after := by
  apply settled.imp (·.later grown)
  intro registered key keyed
  obtain ⟨target,member⟩ := registered key keyed
  exact ⟨target,grown _ member⟩

theorem Sent.later {method : Method} (sent : Sent codec method past prepared) (grown : ∀ act ∈ past, act ∈ after) :
    Sent codec method after prepared := by
  cases sent with
  | udp onUdp routed member => exact .udp onUdp (grown _ routed) (grown _ member)
  | tcp member => exact .tcp (grown _ member)

theorem Dispatched.later (dispatched : Dispatched codec settings request past prepared) (grown : ∀ act ∈ past, act ∈ after) :
    Dispatched codec settings request after prepared := by
  obtain ⟨⟨found,directed⟩,sent⟩ := dispatched
  exact ⟨⟨found,directed.later grown⟩,sent.later grown⟩

theorem grown_snoc (past : List (Act Packet)) (act : Act Packet) : ∀ other ∈ past, other ∈ past ++ [act] :=
  fun _ member => List.mem_append_left _ member

theorem sending_snoc {datagram : Bool} {act : Act Packet} (sending : Sending codec settings datagram request past prepared)
    (silent : act.op.forwards = false) : Sending codec settings datagram request (past ++ [act]) prepared := by
  obtain ⟨poised,found,directed⟩ := sending
  exact ⟨poised_snoc poised silent,found,directed.later (grown_snoc past act)⟩

theorem along_aside {datagram : Bool} {Result : Type} {task : Task Packet Result} (kept : List (Act Packet) → Prop)
    (aside : task.Uses Aside) (steady : ∀ past act, kept past → Aside act.op → kept (past ++ [act])) (start : kept past) :
    task.Along (Follows codec settings datagram request) (fun after _ => kept after) past :=
  along_uses aside (fun past _ _ allowed => aside_follows allowed past) steady start

theorem along_aside_grown {datagram : Bool} {Result : Type} {task : Task Packet Result} (aside : task.Uses Aside)
    (past : List (Act Packet)) :
    task.Along (Follows codec settings datagram request) (fun after _ => ∀ act ∈ past, act ∈ after) past :=
  along_aside _ aside (fun between act grown _ other member => grown_snoc between act other (grown other member))
    fun _ member => member

theorem rememberSuccessfulForward_follows {datagram : Bool} (dispatched : Dispatched codec settings request past prepared) :
    (rememberSuccessfulForward codec settings prepared.message prepared.target prepared.branch prepared.inviteTransactionKey
      request.method).Along (Follows codec settings datagram request) (fun after _ => ∀ act ∈ past, act ∈ after) past := by
  have recorded : (rememberSuccessfulForward.recordAffinity codec settings prepared.message prepared.target request.method).Along
      (Follows codec settings datagram request) (fun after _ => ∀ act ∈ past, act ∈ after) past := by
    unfold rememberSuccessfulForward.recordAffinity
    split
    · rename_i recording
      split
      · rename_i keys keyed
        exact fun reply => ⟨⟨recording,prepared,dispatched,keyed,rfl⟩,grown_snoc past _⟩
      · exact fun _ member => member
    · exact fun _ member => member
  refine along_bind _ recorded (fun after _ grown => ?_) (fun _ _ grown => grown)
  split
  · rename_i isInvite
    obtain ⟨found,directed⟩ := dispatched.1
    cases named : prepared.inviteTransactionKey with
    | none => exact grown
    | some key =>
        refine fun reply => ⟨⟨isInvite,?_,prepared,dispatched.later grown,rfl⟩,fun act member => grown_snoc after _ act (grown act member)⟩
        rw [← named]
        exact directed.keyed isInvite
  · exact grown

theorem forwardUdpToUdpUpstream_follows {key : Option String} (sending : Sending codec settings true request past prepared)
    (keyed : udpClientTransactionKey codec request.message request.peer request.method = .ok key)
    (onUdp : prepared.target.transport = .udp) :
    (forwardUdpToUdpUpstream codec settings prepared request.peer key request.method).Along (Follows codec settings true request)
      (Forwarded codec true request) past := by
  refine along_call fun inserted => ⟨⟨rfl,prepared,key,sending,rfl,rfl⟩,?_⟩
  have routed := last_mem past ⟨.insertUdpBranch prepared.branch (udpBranchRoute prepared request.peer key request.method),inserted⟩
  replace sending := @sending_snoc Packet Message codec settings past request prepared true
    ⟨.insertUdpBranch prepared.branch (udpBranchRoute prepared request.peer key request.method),inserted⟩ sending rfl
  refine along_bind (fun after _ => Sending codec settings true request after prepared ∧
    ⟨.insertUdpBranch prepared.branch (udpBranchRoute prepared request.peer key request.method),()⟩ ∈ after ∧
    ∀ named, key = some named → ⟨.rememberUdpClientTransaction named prepared.target,()⟩ ∈ after) ?_ ?_ ?_
  · cases key with
    | none => exact ⟨sending,routed,fun _ none => nomatch none⟩
    | some key =>
        refine fun reply => ⟨⟨rfl,keyed⟩,sending_snoc sending rfl,List.mem_append_left _ routed,fun named same => ?_⟩
        cases same
        exact last_mem _ _
  · rintro past - ⟨sending,routed,registered⟩
    have settles (after : List (Act Packet)) (grown : ∀ act ∈ past, act ∈ after) : Settled codec request after := by
      refine .inr fun named same => ?_
      cases keyed.symm.trans same
      exact ⟨prepared.target,grown _ (registered named rfl)⟩
    refine along_call fun sent => ⟨⟨rfl,prepared,key,sending,keyed,onUdp,rfl,rfl,routed,registered⟩,?_⟩
    cases sent with
    | true =>
        have gone : Sent codec request.method (past ++ [⟨.sendToUpstream (codec.toBytes prepared.message) prepared.target.addr,true⟩])
          prepared := .udp onUdp (List.mem_append_left _ routed) (last_mem past _)
        refine along_mono (rememberSuccessfulForward_follows ⟨?_,gone⟩) (fun _ _ held => held) fun after outcome grown => ?_
        · obtain ⟨_,found,directed⟩ := sending
          exact ⟨found,directed.later (grown_snoc past _)⟩
        · exact ⟨fun _ => .inr (settles after fun act member => grown act (grown_snoc past _ act member)),
            fun _ => .inr ⟨prepared,gone.later grown⟩⟩
    | false =>
        have failed : Failed (past ++ [⟨.sendToUpstream (codec.toBytes prepared.message) prepared.target.addr,false⟩]) :=
          .inl ⟨_,_,last_mem past _⟩
        refine along_call fun removed => ⟨trivial,?_⟩
        replace failed := failed.later (grown_snoc _ ⟨.removeUdpBranch prepared.branch,removed⟩)
        cases key with
        | none => exact ⟨fun _ => .inr (.inl failed),fun same => nomatch same⟩
        | some key =>
            refine along_call fun dropped => ⟨⟨rfl,failed,keyed⟩,?_⟩
            exact ⟨fun _ => .inr (.inl (failed.later (grown_snoc _ _))),fun same => nomatch same⟩
  · intro past error given
    rcases given with ⟨⟨poised,_⟩,_⟩
    exact ⟨fun _ => .inl poised.unforwarded,fun same => nomatch same⟩

theorem forwardUdpToTcpUpstream_follows {key : Option String} (sending : Sending codec settings true request past prepared)
    (keyed : udpClientTransactionKey codec request.message request.peer request.method = .ok key)
    (onTcp : prepared.target.transport = .tcp) :
    (forwardUdpToTcpUpstream codec settings prepared request.peer key request.method).Along (Follows codec settings true request)
      (Forwarded codec true request) past := by
  refine along_call fun reply => ⟨⟨prepared,sending,fun _ => onTcp,rfl,rfl,rfl,rfl⟩,?_⟩
  cases reply with
  | error error =>
      have failed : Failed (past ++ [⟨.sendRequest prepared.target.addr prepared.branch (codec.toBytes prepared.message)
        request.method,.error error⟩]) := .inr ⟨_,_,_,_,_,last_mem past _⟩
      cases key with
      | none => exact ⟨fun _ => .inr (.inl failed),fun same => nomatch same⟩
      | some key =>
          refine along_call fun dropped => ⟨⟨rfl,failed,keyed⟩,?_⟩
          exact ⟨fun _ => .inr (.inl (failed.later (grown_snoc _ _))),fun same => nomatch same⟩
  | ok responses =>
      have gone : Sent codec request.method (past ++ [⟨.sendRequest prepared.target.addr prepared.branch
        (codec.toBytes prepared.message) request.method,.ok responses⟩]) prepared := .tcp (last_mem past _)
      obtain ⟨_,found,directed⟩ := sending
      have dispatched : Dispatched codec settings request _ prepared := ⟨⟨found,directed.later (grown_snoc past _)⟩,gone⟩
      have sameTarget : (⟨prepared.target.addr,.tcp⟩ : UpstreamTarget) = prepared.target := by rw [← onTcp]
      dsimp only
      rw [sameTarget]
      refine along_bind (fun after _ => Dispatched codec settings request after prepared ∧ Settled codec request after) ?_ ?_ ?_
      · cases key with
        | none => exact ⟨dispatched,.inr fun named same => nomatch keyed.symm.trans same⟩
        | some key =>
            refine fun reply => ⟨⟨rfl,keyed⟩,dispatched.later (grown_snoc _ _),.inr fun named same => ?_⟩
            cases keyed.symm.trans same
            exact ⟨_,last_mem _ _⟩
      · rintro past - ⟨dispatched,settled⟩
        refine along_bind _ (rememberSuccessfulForward_follows dispatched) (fun after _ grown => ?_) ?_
        · apply along_mono (along_aside_grown (sendUdpToTcpResponses_aside ..) after) (fun _ _ held => held)
          intro last outcome more
          replace grown := fun act member => more act (grown act member)
          exact ⟨fun _ => .inr (settled.later grown),fun _ => .inr ⟨prepared,dispatched.2.later grown⟩⟩
        · exact fun after error grown => ⟨fun _ => .inr (settled.later grown),fun same => nomatch same⟩
      · intro past error both
        rcases both with ⟨_,settled⟩
        exact ⟨fun _ => .inr settled,fun same => nomatch same⟩

-- Before a request is forwarded, its handler has only made calls beside it.
def Beside (past : List (Act Packet)) : Prop := ∀ act ∈ past, Aside act.op

theorem beside_snoc {act : Act Packet} (beside : Beside past) (aside : Aside act.op) : Beside (past ++ [act]) := by
  intro other member
  rcases List.mem_append.mp member with earlier | last
  · exact beside other earlier
  · rw [List.mem_singleton.mp last]; exact aside

theorem Beside.unforwarded (beside : Beside past) : Unforwarded past := fun act member => (aside_silent (beside act member)).1
theorem Beside.unasked (beside : Beside past) : Unasked past := fun act member => (aside_silent (beside act member)).2

theorem unforwarded_steady (past : List (Act Packet)) (act : Act Packet) (unforwarded : Unforwarded past) (aside : Aside act.op) :
    Unforwarded (past ++ [act]) := unforwarded_snoc unforwarded (aside_silent aside).1

theorem unasked_steady (past : List (Act Packet)) (act : Act Packet) (unasked : Unasked past) (aside : Aside act.op) :
    Unasked (past ++ [act]) := unasked_snoc unasked (aside_silent aside).2

theorem forwardUdp_follows (beside : Beside past) :
    (forwardUdp codec settings request.message request.peer request.listener request.method).Along
      (Follows codec settings true request) (Forwarded codec true request) past := by
  have unforwarded := beside.unforwarded
  have unasked := beside.unasked
  refine along_lift (fun key keyed => ?_) (fun _ _ => ⟨fun _ => .inl unforwarded,fun same => by cases same⟩)
  refine along_bind (fun after outcome => (Unforwarded after ∧ Unasked after) ∧ (outcome = .ok none →
    Poised codec true request after)) ?_ (fun past known kept => ?_)
    (fun past error kept => ⟨fun _ => .inl kept.1.1,fun same => by cases same⟩)
  · cases key with
    | none => exact ⟨⟨unforwarded,unasked⟩,fun _ => ⟨unforwarded,fun _ named same => by cases keyed.symm.trans same⟩⟩
    | some key =>
        refine fun reply => ⟨⟨rfl,unforwarded,keyed⟩,⟨unforwarded_snoc unforwarded rfl,unasked_snoc unasked rfl⟩,fun missed => ?_⟩
        refine ⟨unforwarded_snoc unforwarded rfl,fun _ named same => ?_⟩
        cases keyed.symm.trans same
        cases missed
        exact last_mem past _
  obtain ⟨⟨unforwarded,unasked⟩,poised⟩ := kept
  have idle {task : Task Packet Unit} (aside : task.Uses Aside) :
      task.Along (Follows codec settings true request) (Forwarded codec true request) past := by
    refine along_mono (along_aside (fun past => Unforwarded past ∧ Unasked past) aside
      (fun past act kept aside => ⟨unforwarded_steady past act kept.1 aside,unasked_steady past act kept.2 aside⟩)
      ⟨unforwarded,unasked⟩) (fun _ _ held => held) fun after outcome kept => ?_
    exact ⟨fun _ => .inl kept.1,fun _ => .inl kept.2⟩
  cases known with
  | some route =>
      dsimp only
      split
      · exact idle (silent_uses (still_silent (sendToClient_still _ _ _)))
      · exact idle (silent_uses (still_silent (trying_still request.message request.peer request.method)))
  | none =>
      refine along_bind _ (prepareForward_follows (poised rfl) unasked) (fun past prepared ended => ?_)
        (fun past error ended => ⟨fun _ => .inl ended.1.unforwarded,fun same => by cases same⟩)
      obtain ⟨poised,directed⟩ := ended
      refine along_aside_then (fun past => Sending codec settings true request past prepared)
        (silent_uses (still_silent (trying_still request.message request.peer request.method))) (yields_any _ past)
        (fun past act sending aside => sending_snoc sending (aside_silent aside).1) ⟨poised,directed prepared rfl⟩
        (fun past _ sending _ _ => ?_) (fun past error sending => ⟨fun _ => .inl sending.1.unforwarded,fun same => by cases same⟩)
      split
      · rename_i onUdp
        exact forwardUdpToUdpUpstream_follows sending keyed onUdp
      · rename_i onTcp
        exact forwardUdpToTcpUpstream_follows sending keyed onTcp
      · exact ⟨fun _ => .inl sending.1.unforwarded,fun same => by cases same⟩

theorem forwardTcpStream_follows (beside : Beside past) :
    (forwardTcpStream codec settings request.message request.peer request.listener request.method).Along
      (Follows codec settings false request) (Forwarded codec false request) past := by
  have poised : Poised codec false request past := ⟨beside.unforwarded,fun same => nomatch same⟩
  refine along_bind _ (prepareForward_follows poised beside.unasked) (fun past prepared ended => ?_)
    (fun past error ended => ⟨fun same => (nomatch same),fun same => nomatch same⟩)
  obtain ⟨poised,directed⟩ := ended
  refine along_call fun reply => ⟨⟨prepared,⟨poised,directed prepared rfl⟩,fun same => (nomatch same),rfl,rfl,rfl,rfl⟩,?_⟩
  cases reply with
  | error error => exact ⟨fun same => (nomatch same),fun same => nomatch same⟩
  | ok responses =>
      have gone : Sent codec request.method (past ++ [⟨.sendRequest prepared.target.addr prepared.branch
        (codec.toBytes prepared.message) request.method,.ok responses⟩]) prepared := .tcp (last_mem past _)
      obtain ⟨found,directed⟩ := directed prepared rfl
      refine along_bind _ (rememberSuccessfulForward_follows ⟨⟨found,directed.later (grown_snoc past _)⟩,gone⟩)
        (fun after _ grown => ?_) (fun _ _ _ => ⟨fun same => (nomatch same),fun same => nomatch same⟩)
      apply along_mono (along_aside_grown (relayTcpResponses_aside _ _) after) (fun _ _ held => held)
      intro last outcome more
      exact ⟨fun same => (nomatch same),fun _ => .inr ⟨prepared,gone.later fun act member => more act (grown act member)⟩⟩

end Forwarding

section Handling
variable {past after : List (Act Packet)} {request : Request Message}

def Op.answersClient : Op Packet → Bool
  | .sendToClient .. => true
  | _ => false

def ClientAnswered (past : List (Act Packet)) : Prop := ∃ act ∈ past, act.op.answersClient = true

-- A request that asked for its INVITE transaction and ended well went out, or a
-- datagram's client was answered.
structure Concluded (codec : Codec Packet Message) (datagram : Bool) (request : Request Message) (past : List (Act Packet))
    (outcome : Except String Unit) : Prop where
  settled : datagram = true → Unforwarded past ∨ Settled codec request past
  delivered : outcome = .ok () → Unasked past ∨ (∃ prepared, Sent codec request.method past prepared) ∨ (datagram = true → ClientAnswered past)

theorem concluded_steady {datagram : Bool} (settled : datagram = true → Unforwarded past ∨ Settled codec request past)
    (act : Act Packet) (aside : Aside act.op) :
    datagram = true → Unforwarded (past ++ [act]) ∨ Settled codec request (past ++ [act]) := fun isDatagram =>
  (settled isDatagram).imp (unforwarded_steady past act · aside) (·.later (grown_snoc past act))

theorem besides_concluded (beside : Beside past) (datagram : Bool) (outcome : Except String Unit) :
    Concluded codec datagram request past outcome :=
  ⟨fun _ => .inl beside.unforwarded,fun _ => .inl beside.unasked⟩

theorem handleRequest_follows {datagram : Bool} {forward : Message → Task Packet Unit}
    {reject : Message → Nat → String → Task Packet Unit} {message : Message}
    (counted : decrementMaxForwards codec message = .ok (true,request.message))
    (forwarded : ∀ past, Beside past → (forward request.message).Along (Follows codec settings datagram request)
      (Forwarded codec datagram request) past)
    (rejected : ∀ message code reason, (reject message code reason).Uses Aside)
    (answered : ∀ message code reason past, datagram = true → Yields (reject message code reason) past fun after _ => ClientAnswered after)
    (beside : Beside past) (packet : Packet) :
    (handleRequest codec settings packet message request.peer request.listener request.method forward reject).Along
      (Follows codec settings datagram request) (Concluded codec datagram request) past := by
  have steady : ∀ (past : List (Act Packet)) act, Beside past → Aside act.op → Beside (past ++ [act]) :=
    fun _ _ beside aside => beside_snoc beside aside
  refine along_aside_then _ (silent_uses (still_silent (absorbed_still message request.method))) (yields_any _ past) steady beside (fun past absorbed beside _ _ => ?_)
    (fun past error beside => besides_concluded beside datagram _)
  split
  · exact besides_concluded beside datagram _
  refine along_aside_then _ (silent_uses (refusal_silent ..)) (yields_any _ past) steady beside (fun past refused beside _ _ => ?_)
    (fun past error beside => besides_concluded beside datagram _)
  split
  · exact along_mono (along_aside _ (rejected _ _ _) steady beside) (fun _ _ held => held)
      fun after outcome beside => besides_concluded beside datagram outcome
  rw [counted]
  refine along_bind (fun after outcome => ∃ tried, outcome = .ok tried ∧ Forwarded codec datagram request after tried)
    (along_attempt (along_mono (forwarded past beside) (fun _ _ held => held) fun after outcome ended => ⟨outcome,rfl,ended⟩))
    (fun past outcome ended => ?_) (fun past error ended => nomatch ended.choose_spec.1)
  obtain ⟨_,same,ended⟩ := ended
  cases same
  cases outcome with
  | ok done => exact ⟨ended.settled,fun _ => (ended.delivered rfl).imp_right .inl⟩
  | error error =>
      refine along_lift (fun parsed _ => ?_) (fun _ _ => ⟨ended.settled,fun same => nomatch same⟩)
      have kept : (reject parsed 503 "Service Unavailable").Along (Follows codec settings datagram request)
          (fun past _ => datagram = true → Unforwarded past ∨ Settled codec request past) past :=
        along_aside _ (rejected parsed _ _) (fun _ act settled aside => concluded_steady settled act aside) ended.settled
      cases isDatagram : datagram with
      | false =>
          rw [isDatagram] at kept
          exact along_mono kept (fun _ _ held => held) fun after outcome settled => ⟨settled,fun _ => .inr (.inr (nomatch ·))⟩
      | true =>
          rw [isDatagram] at kept
          refine along_mono (along_both kept (answered parsed 503 "Service Unavailable" past isDatagram)) (fun _ _ both => both.1)
            fun after outcome both => ⟨both.1,fun same => .inr (.inr fun _ => both.2.2 () same)⟩

-- Where no request comes to be forwarded: its decrement fails, or there is none.
theorem handleRequest_aside {forward : Message → Task Packet Unit} {reject : Message → Nat → String → Task Packet Unit}
    (uncounted : ∀ message', decrementMaxForwards codec message ≠ .ok (true,message'))
    (rejected : ∀ message code reason, (reject message code reason).Uses Aside) (packet : Packet) (peer : SocketAddr)
    (listener : ProxyListenerConfig) (method : Method) :
    (handleRequest codec settings packet message peer listener method forward reject).Uses Aside := by
  apply uses_bind (silent_uses (still_silent (absorbed_still message method)))
  intro absorbed
  split
  · trivial
  apply uses_bind (silent_uses (refusal_silent ..))
  intro refused
  split
  · exact rejected _ _ _
  split
  · exact rejected _ _ _
  · exact rejected _ _ _
  · rename_i counted
    exact (uncounted _ counted).elim

theorem rejectUdp_yields (message : Message) (peer : SocketAddr) (method : Method) (code : Nat) (reason : String)
    (past : List (Act Packet)) : Yields (rejectUdp codec message peer method code reason) past fun after _ => ClientAnswered after := by
  apply yields_lift
  intro response _
  apply yields_bind _ (yields_any (rememberLocalInviteRejectionIfNeeded codec message method) past)
  intro between _ _ _
  apply yields_call
  intro sent
  split
  · exact yields_pure ⟨_,last_mem between _,rfl⟩
  · exact yields_fail _ _

end Handling

section Inputs

-- The request that a packet comes to be forwarded as.
def sipRequest (codec : Codec Packet Message) (packet : Packet) (peer : SocketAddr) (listener : ProxyListenerConfig) :
    Option (Request Message) :=
  match codec.parse packet with
  | .error _ => none
  | .ok message =>
    if codec.isResponse message then none
    else
      match (codec.method message).bind canonicalSipMethod,decrementMaxForwards codec message with
      | some method,.ok (true,counted) => some ⟨counted,peer,listener,method⟩
      | _,_ => none

def Input.isDatagram : Input Packet → Bool
  | .udp .. => true
  | .tcp .. => false

def Input.request (codec : Codec Packet Message) : Input Packet → Option (Request Message)
  | .udp packet peer listener =>
    if codec.isCrlfKeepalive packet || (codec.stunBindingSuccessResponse packet peer).isSome || codec.isStunPacket packet then none
    else sipRequest codec packet peer listener
  | .tcp packet peer listener => sipRequest codec packet peer listener

-- The calls of an input that forwards nothing.
def Idle : Op Packet → Prop
  | .lookupUdpBranch _ | .removeUdpBranch _ => True
  | op => Aside op

def Course (codec : Codec Packet Message) (settings : Settings) (input : Input Packet) (past : List (Act Packet)) (act : Act Packet) : Prop :=
  match input.request codec with
  | some request => Follows codec settings input.isDatagram request past act
  | none => Idle act.op

def Conclusion (codec : Codec Packet Message) (input : Input Packet) (past : List (Act Packet)) (outcome : Except String Unit) : Prop :=
  ∀ request, input.request codec = some request → Concluded codec input.isDatagram request past outcome

theorem aside_idle (op : Op Packet) (aside : Aside op) : Idle op := by
  cases op <;> first | exact aside | exact aside.elim

theorem idle_along {Result : Type} {task : Task Packet Result} (idle : task.Uses Idle) (past : List (Act Packet)) :
    task.Along (fun _ act => Idle act.op) (fun _ _ => True) past :=
  along_uses idle (fun _ _ _ allowed => allowed) (fun _ _ _ _ => trivial) trivial

theorem handleUdpResponse_idle (message : Message) (peer : SocketAddr) : (handleUdpResponse codec message peer).Uses Idle := by
  apply uses_bind (uses_lift _)
  intro top
  cases top with
  | none => trivial
  | some branch =>
      dsimp only
      split
      · apply uses_call trivial
        intro found
        cases found with
        | none => trivial
        | some route =>
            refine uses_bind ((applyRegisterStartLine_aside branch message).mono aside_idle) fun _ => uses_bind (uses_lift _) fun response => ?_
            refine uses_bind ((silent_uses (still_silent (rememberFinal_still _ _ _))).mono aside_idle) fun _ => uses_call trivial fun sent => ?_
            split
            · apply uses_call trivial
              intro _
              split <;> trivial
            · split <;> trivial
      · trivial

theorem Checked.beside (checked : Checked past) : @Beside Packet past := by
  intro act member
  obtain ⟨listener,peer,packet,same⟩ := checked act member
  rw [same]
  trivial

theorem sipRequest_forwarded {codec : Codec Packet Message} (received : IsRequest codec packet message method)
    (counted : decrementMaxForwards codec message = .ok (true,forwarded)) (peer : SocketAddr) (listener : ProxyListenerConfig) :
    sipRequest codec packet peer listener = some ⟨forwarded,peer,listener,method⟩ := by
  simp [sipRequest,received.parsed,received.isRequest,received.named,counted]

theorem sipRequest_uncounted {codec : Codec Packet Message} (received : IsRequest codec packet message method)
    (uncounted : ∀ forwarded, decrementMaxForwards codec message ≠ .ok (true,forwarded)) (peer : SocketAddr)
    (listener : ProxyListenerConfig) : sipRequest codec packet peer listener = none := by
  simp only [sipRequest,received.parsed,received.isRequest,received.named]
  cases counted : decrementMaxForwards codec message with
  | error error => rfl
  | ok pair =>
      obtain ⟨forwarding,forwarded⟩ := pair
      cases forwarding with
      | false => rfl
      | true => exact (uncounted forwarded counted).elim

theorem sipRequest_received {codec : Codec Packet Message} {request : Request Message} (requested : sipRequest codec packet peer listener = some request) :
    ∃ message, IsRequest codec packet message request.method ∧ decrementMaxForwards codec message = .ok (true,request.message) ∧
      request.peer = peer ∧ request.listener = listener := by
  unfold sipRequest at requested
  split at requested
  · cases requested
  · rename_i message parsed
    split at requested
    · cases requested
    · rename_i isRequest
      split at requested
      · rename_i named counted
        cases requested
        exact ⟨message,⟨parsed,Bool.eq_false_iff.mpr isRequest,named⟩,counted,rfl,rfl⟩
      · cases requested

theorem sipRequest_kind {codec : Codec Packet Message} {request : Request Message} (requested : sipRequest codec packet peer listener = some request) :
    sipKind codec packet peer = .request request.method := by
  obtain ⟨message,received,_⟩ := sipRequest_received requested
  simp [sipKind,received.parsed,received.isRequest,received.named]

theorem handleSipPacket_course {datagram : Bool} {onResponse : Message → Task Packet Unit}
    {forward : Method → Message → Task Packet Unit} {reject : Method → Message → Nat → String → Task Packet Unit}
    (packet : Packet) (peer : SocketAddr) (listener : ProxyListenerConfig) (answers : ∀ message, (onResponse message).Uses Idle)
    (forwarded : ∀ message method past, Beside past → (forward method message).Along
      (Follows codec settings datagram ⟨message,peer,listener,method⟩) (Forwarded codec datagram ⟨message,peer,listener,method⟩) past)
    (rejected : ∀ method message code reason, (reject method message code reason).Uses Aside)
    (answered : ∀ method message code reason past, datagram = true →
      Yields (reject method message code reason) past fun after _ => ClientAnswered after) :
    (handleSipPacket codec settings packet peer listener onResponse fun message method =>
      handleRequest codec settings packet message peer listener method (forward method) (reject method)).Along
      (fun past act => match sipRequest codec packet peer listener with
        | some request => Follows codec settings datagram request past act
        | none => Idle act.op)
      (fun past outcome => ∀ request, sipRequest codec packet peer listener = some request →
        Concluded codec datagram request past outcome) [] := by
  have unrequested (kinded : ∀ method, sipKind codec packet peer ≠ .request method) : sipRequest codec packet peer listener = none :=
    Option.eq_none_iff_forall_ne_some.mpr fun request found => kinded _ (sipRequest_kind found)
  refine handleSipPacket_along (fun decision => ?_) (fun past outcome checked _ request _ => besides_concluded checked.beside _ _)
    (fun past outcome kinded request found => nomatch kinded.symm.trans (sipRequest_kind found))
    (fun past message checked kinded => ?_) (fun past message method checked kinded received => ?_)
  · split <;> trivial
  · rw [unrequested fun method same => nomatch kinded.symm.trans same]
    exact along_mono (idle_along (answers message) past) (fun _ _ held => held) fun _ _ _ request found => nomatch found
  · by_cases counted : ∃ counted, decrementMaxForwards codec message = .ok (true,counted)
    · obtain ⟨counted,same⟩ := counted
      rw [sipRequest_forwarded received same peer listener]
      refine along_mono (handleRequest_follows same (forwarded counted method) (rejected method) (answered method) checked.beside packet)
        (fun _ _ held => held) fun past outcome concluded request found => ?_
      cases found
      exact concluded
    · have uncounted : ∀ counted, decrementMaxForwards codec message ≠ .ok (true,counted) := fun other same => counted ⟨other,same⟩
      rw [sipRequest_uncounted received uncounted]
      refine along_mono (idle_along (Uses.mono ?_ aside_idle) past) (fun _ _ held => held) fun _ _ _ request found => nomatch found
      exact handleRequest_aside uncounted (rejected method) packet peer listener method

theorem handleUdpPacket_course (packet : Packet) (peer : SocketAddr) (listener : ProxyListenerConfig) :
    (handleUdpPacket codec settings packet peer listener).Along (Course codec settings (.udp packet peer listener))
      (Conclusion codec (.udp packet peer listener)) [] := by
  have quiet {task : Task Packet Unit} (none : Input.request codec (.udp packet peer listener) = none) (aside : task.Uses Aside) :
      task.Along (Course codec settings (.udp packet peer listener)) (Conclusion codec (.udp packet peer listener)) [] := by
    unfold Course Conclusion
    rw [none]
    exact along_mono (idle_along (aside.mono aside_idle) []) (fun _ _ held => held) fun _ _ _ request found => nomatch found
  unfold handleUdpPacket
  split
  · rename_i keepalive
    exact quiet (by simp [Input.request,keepalive]) trivial
  rename_i keepalive
  split
  · rename_i response stun
    exact quiet (by simp [Input.request,stun]) (silent_uses (still_silent (sendToClient_still _ _ _)))
  rename_i stun
  split
  · rename_i isStun
    exact quiet (by simp [Input.request,isStun]) trivial
  rename_i isStun
  have sip : Input.request codec (.udp packet peer listener) = sipRequest codec packet peer listener := by
    simp [Input.request,keepalive,stun,isStun]
  unfold Course Conclusion
  rw [sip]
  exact handleSipPacket_course packet peer listener (fun message => handleUdpResponse_idle message peer)
    (fun _ _ _ beside => forwardUdp_follows beside) (fun _ _ _ _ => silent_uses (still_silent (rejectUdp_still ..)))
    (fun _ _ _ _ past _ => rejectUdp_yields _ _ _ _ _ past)

theorem handleTcpPacket_course (packet : Packet) (peer : SocketAddr) (listener : ProxyListenerConfig) :
    (handleTcpPacket codec settings packet peer listener).Along (Course codec settings (.tcp packet peer listener))
      (Conclusion codec (.tcp packet peer listener)) [] :=
  handleSipPacket_course packet peer listener (fun _ => trivial)
    (fun _ _ _ beside => forwardTcpStream_follows beside) (fun _ _ _ _ => silent_uses (still_silent (rejectTcp_still ..)))
    (fun _ _ _ _ _ isDatagram => nomatch isDatagram)

theorem handler_course (input : Input Packet) :
    (handler codec settings input).Along (Course codec settings input) (Conclusion codec input) [] := by
  cases input with
  | udp packet peer listener => exact handleUdpPacket_course packet peer listener
  | tcp packet peer listener => exact handleTcpPacket_course packet peer listener

end Inputs
end Sigproxy.Proxy
