import Sigproxy.Proxy.Handlers

namespace Sigproxy.Proxy
open Library Net Cluster Affinity
open Program

abbrev Act (Packet : Type) := Event (@Op.Reply Packet)

section Plain
variable {Packet Message : Type} {codec : Codec Packet Message} {settings : Settings}

-- The calls that neither touch the branch routes, nor store a pending REGISTER,
-- nor send a request to a UDP upstream.
def Plain : Op Packet → Prop
  | .lookupUdpBranch _ | .insertUdpBranch .. | .removeUdpBranch _ | .rememberPendingRegister .. | .sendToUpstream .. => False
  | _ => True

-- Of these, the calls beside the forwarding of a request: they take no branch,
-- send nothing to an upstream and leave the transactions alone, and the only
-- affinity they record is that of a registration.
def Aside : Op Packet → Prop
  | .rememberAffinityKey key _ _ => ∃ aor, key = registrationUpstreamAffinityKey aor
  | .sendRequest .. | .uniqueId | .lookupInviteTransaction _ | .rememberInviteTransaction .. | .rememberAffinityKeys .. => False
  | .lookupUdpClientTransaction _ | .rememberUdpClientTransaction .. | .removeUdpClientTransaction _ => False
  | op => Plain op

-- Of these again, the ones that leave the registrations and the affinity of
-- everybody as they are, except that one that has run out may be dropped; and the
-- ones that do not even do that.
def Silent : Op Packet → Prop
  | .submit _ | .takePendingRegister _ | .rememberAffinityKey .. => False
  | op => Aside op

def Still : Op Packet → Prop
  | .evictContact _ => False
  | op => Silent op

-- What a handler reads of the upstreams, the addresses and the tables on its way
-- to a target; the second class leaves the contacts in place.
def Looks : Op Packet → Prop
  | .selectUpstream .. | .isHealthy _ | .advertisedSipAddr .. | .peekContact _ | .evictContact _ | .lookupAffinityKey _ | .readClock => True
  | _ => False

def Views : Op Packet → Prop
  | .evictContact _ => False
  | op => Looks op

-- What a forwarded request leaves behind for its retransmissions and for the
-- requests that belong to it.
def Remembers : Op Packet → Prop
  | .rememberAffinityKeys .. | .rememberInviteTransaction .. => True
  | .rememberUdpClientTransaction .. | .removeUdpClientTransaction _ => True
  | _ => False

theorem aside_plain (op : Op Packet) (aside : Aside op) : Plain op := by
  cases op <;> first | exact aside.elim | trivial

theorem aside_uses {Result : Type} {task : Task Packet Result} (aside : task.Uses Aside) : task.Uses Plain :=
  aside.mono aside_plain

theorem silent_aside (op : Op Packet) (silent : Silent op) : Aside op := by
  cases op <;> first | exact silent.elim | trivial

theorem silent_uses {Result : Type} {task : Task Packet Result} (silent : task.Uses Silent) : task.Uses Aside :=
  silent.mono silent_aside

theorem silent_plain {Result : Type} {task : Task Packet Result} (silent : task.Uses Silent) : task.Uses Plain :=
  aside_uses (silent_uses silent)

theorem still_silent {Result : Type} {task : Task Packet Result} (still : task.Uses Still) : task.Uses Silent :=
  still.mono fun op allowed => by cases op <;> first | exact allowed.elim | trivial

theorem looks_silent {Result : Type} {task : Task Packet Result} (looks : task.Uses Looks) : task.Uses Silent :=
  looks.mono fun op allowed => by cases op <;> first | exact allowed.elim | trivial

theorem views_looks {Result : Type} {task : Task Packet Result} (views : task.Uses Views) : task.Uses Looks :=
  views.mono fun op allowed => by cases op <;> first | exact allowed.elim | trivial

theorem views_still {Result : Type} {task : Task Packet Result} (views : task.Uses Views) : task.Uses Still :=
  views.mono fun op allowed => by cases op <;> first | exact allowed.elim | trivial

theorem remembers_plain {Result : Type} {task : Task Packet Result} (remembers : task.Uses Remembers) : task.Uses Plain :=
  remembers.mono fun op allowed => by cases op <;> first | exact allowed.elim | trivial

theorem lookupContact_looks (aor : String) : (lookupContact aor : Task Packet _).Uses Looks := by
  apply uses_call trivial
  intro found
  cases found with
  | none => trivial
  | some binding =>
      apply uses_call trivial
      intro now
      split
      · exact uses_call trivial fun _ => trivial
      · trivial

theorem lookupFirstContact_looks (keys : List String) : (lookupFirstContact keys : Task Packet _).Uses Looks := by
  induction keys with
  | nil => trivial
  | cons key rest ih =>
      apply uses_bind (lookupContact_looks key)
      intro found
      cases found with
      | none => exact ih
      | some binding => trivial

theorem lookupDeliveryRegistrationBinding_looks (message : Message) (requestUri : String) (fallback : Bool) :
    (lookupDeliveryRegistrationBinding codec message requestUri fallback).Uses Looks := by
  apply uses_bind (lookupFirstContact_looks _)
  intro found
  cases found with
  | some binding => trivial
  | none =>
      dsimp only
      split
      · trivial
      · split
        · trivial
        · exact lookupFirstContact_looks _

theorem isHealthyUpstreamTarget_views (target : UpstreamTarget) :
    (isHealthyUpstreamTarget settings target : Task Packet Bool).Uses Views := by
  unfold isHealthyUpstreamTarget
  split
  · exact uses_perform trivial
  · trivial

theorem lookupRegisteredUpstreamKey_views (routes : List String) :
    (lookupRegisteredUpstreamKey settings routes : Task Packet _).Uses Views := by
  induction routes with
  | nil => trivial
  | cons route rest ih =>
      apply uses_call trivial
      intro found
      cases found with
      | none => exact ih
      | some target => exact uses_bind (isHealthyUpstreamTarget_views _) fun _ => trivial

theorem lookupFirstAffinity_views (keys : List AffinityKey) : (lookupFirstAffinity keys : Task Packet _).Uses Views := by
  induction keys with
  | nil => trivial
  | cons key rest ih =>
      apply uses_call trivial
      intro found
      cases found with
      | none => exact ih
      | some target => trivial

theorem selectUpstream_views (uri : String) (listener : ProxyListenerConfig) :
    (selectUpstream uri listener : Task Packet UpstreamTarget).Uses Views :=
  uses_call trivial fun _ => trivial

theorem affinityOrSelectedTarget_views (message : Message) (requestUri : String) (listener : ProxyListenerConfig) :
    (affinityOrSelectedTarget codec settings message requestUri listener).Uses Views := by
  refine uses_bind ?_ fun found => ?_
  · unfold affinityLookup
    split
    · exact uses_bind (uses_lift _) fun keys => lookupFirstAffinity_views keys
    · trivial
  · cases found with
    | none => exact selectUpstream_views requestUri listener
    | some target =>
        apply uses_bind (isHealthyUpstreamTarget_views _)
        intro healthy
        split
        · trivial
        · exact selectUpstream_views requestUri listener

theorem routeTargetsThisProxy_views (route : String) (listener : ProxyListenerConfig) (target : SocketAddr) :
    (routeTargetsThisProxy codec settings route listener target).Uses Views := by
  unfold routeTargetsThisProxy
  split
  · trivial
  · split
    · trivial
    · refine uses_bind (uses_call trivial fun _ => trivial) fun matched => ?_
      split
      · trivial
      · exact uses_call trivial fun _ => trivial

theorem popOwnRouteHeaders_views (listener : ProxyListenerConfig) (target : SocketAddr) (fuel : Nat) (message : Message) :
    (popOwnRouteHeaders codec settings listener target fuel message).Uses Views := by
  induction fuel generalizing message with
  | zero => trivial
  | succ fuel ih =>
      apply uses_bind (uses_lift _)
      intro top
      cases top with
      | none => trivial
      | some route =>
          apply uses_bind (routeTargetsThisProxy_views route listener target)
          intro ours
          dsimp only
          split
          · exact uses_bind (uses_lift _) fun popped => ih popped.2
          · trivial

theorem forwardTarget_looks (message : Message) (requestUri : String) (listener : ProxyListenerConfig) (method : Method)
    (fromUpstream routed : Bool) (direct : Option UpstreamTarget) (transactionRoute : Option InviteTransactionRoute) :
    (forwardTarget codec settings message requestUri listener method fromUpstream routed direct transactionRoute).Uses Looks := by
  unfold forwardTarget
  split
  · trivial
  · trivial
  · split
    · apply uses_bind (lookupDeliveryRegistrationBinding_looks _ _ _)
      intro found
      cases found with
      | some binding =>
          dsimp only
          split
          · trivial
          · exact views_looks (selectUpstream_views requestUri listener)
      | none =>
          dsimp only
          split
          · trivial
          · exact views_looks (affinityOrSelectedTarget_views message requestUri listener)
    · split
      · trivial
      · refine uses_bind ?_ fun found => ?_
        · unfold lookupRegisteredUpstreamTarget
          split
          · exact views_looks (lookupRegisteredUpstreamKey_views _)
          · trivial
        · cases found with
          | some target => trivial
          | none => exact views_looks (affinityOrSelectedTarget_views message requestUri listener)

theorem topRouteTargetsThisProxy_views (message : Message) (listener : ProxyListenerConfig) (peer : SocketAddr) :
    (topRouteTargetsThisProxy codec settings message listener peer).Uses Views := by
  apply uses_bind (uses_lift _)
  intro top
  cases top with
  | none => trivial
  | some route => exact routeTargetsThisProxy_views route listener peer

theorem recordRoutes_views (message : Message) (peer target : SocketAddr) (listener : ProxyListenerConfig) (method : Method) :
    (recordRoutes codec settings message peer target listener method).Uses Views := by
  unfold recordRoutes
  split
  · refine uses_bind ?_ fun addrs => uses_bind (uses_lift _) fun _ => trivial
    unfold recordRouteAddrs
    dsimp only
    split
    · exact uses_call trivial fun _ => trivial
    · exact uses_call trivial fun _ => uses_call trivial fun _ => trivial
  · trivial

theorem sendToClient_still (packet : Packet) (peer : SocketAddr) (error : String) :
    (sendToClient packet peer error).Uses Still := by
  apply uses_call trivial
  intro sent
  split <;> trivial

theorem writeToStream_still (packet : Packet) : (writeToStream packet).Uses Still := by
  apply uses_call trivial
  intro written
  split <;> trivial

theorem trying_still (message : Message) (peer : SocketAddr) (method : Method) :
    (trying codec settings message peer method).Uses Still := by
  unfold trying
  split
  · exact uses_bind (uses_lift _) fun _ => sendToClient_still _ _ _
  · trivial

theorem rememberLocalInviteRejectionIfNeeded_still (message : Message) (method : Method) :
    (rememberLocalInviteRejectionIfNeeded codec message method).Uses Still := by
  unfold rememberLocalInviteRejectionIfNeeded
  split
  · split
    · exact uses_perform trivial
    · trivial
  · trivial

theorem rejectUdp_still (message : Message) (peer : SocketAddr) (method : Method) (code : Nat) (reason : String) :
    (rejectUdp codec message peer method code reason).Uses Still :=
  uses_bind (uses_lift _) fun _ =>
    uses_bind (rememberLocalInviteRejectionIfNeeded_still message method) fun _ => sendToClient_still _ _ _

theorem rejectTcp_still (message : Message) (method : Method) (code : Nat) (reason : String) :
    (rejectTcp codec message method code reason).Uses Still :=
  uses_bind (rememberLocalInviteRejectionIfNeeded_still message method) fun _ => writeToStream_still _

theorem applyRegisterBindings_aside (target : UpstreamTarget) (expires : Nat) (bindings : List PendingRegisterBinding) :
    (applyRegisterBindings target expires bindings : Task Packet Unit).Uses Aside := by
  induction bindings with
  | nil => trivial
  | cons binding rest ih =>
      refine uses_bind ?_ fun _ => ih
      unfold applyRegisterBinding
      split
      · exact uses_perform trivial
      · exact uses_call ⟨_,rfl⟩ fun _ => uses_call trivial fun _ => uses_perform trivial

theorem applyRegisterStartLine_aside (branch : String) (response : Message) :
    (applyRegisterStartLine codec branch response).Uses Aside := by
  unfold applyRegisterStartLine applyRegisterResponse
  split
  · split
    · trivial
    · apply uses_call trivial
      intro taken
      cases taken with
      | none => trivial
      | some pending =>
          dsimp only
          split
          · exact applyRegisterBindings_aside _ _ _
          · trivial
  · trivial

theorem rememberFinal_still (final : Bool) (key : Option String) (response : Packet) :
    (rememberFinal final key response).Uses Still := by
  unfold rememberFinal
  split
  · split
    · exact uses_perform trivial
    · trivial
  · trivial

theorem rememberSuccessfulForward_remembers (message : Message) (target : UpstreamTarget) (branch : String)
    (key : Option String) (method : Method) :
    (rememberSuccessfulForward codec settings message target branch key method).Uses Remembers := by
  refine uses_bind ?_ fun _ => ?_
  · unfold rememberSuccessfulForward.recordAffinity
    split
    · split
      · exact uses_perform trivial
      · trivial
    · trivial
  · split
    · cases key with
      | none => trivial
      | some key => exact uses_perform trivial
    · trivial

theorem rememberUdpClientTransaction_remembers (target : UpstreamTarget) (key : Option String) :
    (rememberUdpClientTransaction target key : Task Packet Unit).Uses Remembers := by
  cases key with
  | none => trivial
  | some key => exact uses_perform trivial

theorem removeUdpClientTransaction_remembers (key : Option String) :
    (removeUdpClientTransaction key : Task Packet Unit).Uses Remembers := by
  cases key with
  | none => trivial
  | some key => exact uses_perform trivial

theorem sendUdpToTcpResponses_aside (clientPeer : SocketAddr) (branch : String) (key : Option String)
    (recordRouteAddrs : List String) (method : Method) (responses : List Packet) :
    (sendUdpToTcpResponses codec clientPeer branch key recordRouteAddrs method responses).Uses Aside := by
  induction responses with
  | nil => trivial
  | cons packet rest ih =>
      refine uses_bind (uses_lift _) fun message => uses_bind (applyRegisterStartLine_aside _ _) fun _ => ?_
      refine uses_bind (uses_lift _) fun _ => uses_bind (uses_lift _) fun _ => ?_
      refine uses_bind (silent_uses (still_silent (rememberFinal_still _ _ _))) fun _ => uses_bind (silent_uses (still_silent (sendToClient_still _ _ _))) fun _ => ?_
      split
      · trivial
      · exact ih

theorem relayTcpResponses_aside (branch : String) (responses : List Packet) :
    (relayTcpResponses codec branch responses).Uses Aside := by
  induction responses with
  | nil => trivial
  | cons packet rest ih =>
      refine uses_bind (uses_lift _) fun message => uses_bind (applyRegisterStartLine_aside _ _) fun _ => ?_
      apply uses_bind (silent_uses (still_silent (writeToStream_still _)))
      intro _
      split
      · trivial
      · exact ih

theorem refusal_uses {allowed : Op Packet → Prop} (looks : ∀ op, Looks op → allowed op) (listener : ProxyListenerConfig) (peer : SocketAddr)
    (message : Message) (method : Method) (checks : allowed (.checkSipRequest listener peer method)) :
    (refusal codec settings listener peer message method).Uses allowed := by
  unfold refusal
  split
  · apply uses_call checks
    intro rejected
    cases rejected with
    | some reason => trivial
    | none =>
        refine uses_bind ?_ fun found => by cases found <;> trivial
        unfold checkSipPolicy
        dsimp only
        split
        · trivial
        · split
          · trivial
          · apply uses_bind ((lookupFirstContact_looks _).mono looks)
            intro found
            cases found with
            | none => trivial
            | some binding => dsimp only; split <;> trivial
  · trivial

theorem refusal_silent (listener : ProxyListenerConfig) (peer : SocketAddr) (message : Message) (method : Method) :
    (refusal codec settings listener peer message method).Uses Silent :=
  refusal_uses (fun op allowed => by cases op <;> first | exact allowed.elim | trivial) listener peer message method trivial

theorem absorbed_still (message : Message) (method : Method) :
    (if method = .ack then consumeLocalInviteAck codec message else pure false).Uses Still := by
  unfold consumeLocalInviteAck
  split
  · split
    · exact uses_perform trivial
    · trivial
  · trivial

end Plain

section Request
variable {Packet Message : Type} {codec : Codec Packet Message} {settings : Settings}

def Minted (past : List (Act Packet)) (branch : String) : Prop :=
  ∃ id : Nat, ⟨.uniqueId,id⟩ ∈ past ∧ branch = proxyBranch id

def Borrowed (past : List (Act Packet)) (branch : String) : Prop :=
  ∃ key, ∃ route : InviteTransactionRoute, ⟨.lookupInviteTransaction key,some route⟩ ∈ past ∧ route.branch = branch

-- A request goes out under a branch of its own, but for a CANCEL or an ACK that
-- goes out under the branch of its INVITE.
def Owned (method : Method) (past : List (Act Packet)) (branch : String) : Prop :=
  Minted past branch ∨ ((method = .cancel ∨ method = .ack) ∧ Borrowed past branch)

def Op.isRouting : Op Packet → Bool
  | .insertUdpBranch .. => true
  | _ => false

def Op.isUpstreamSend : Op Packet → Bool
  | .sendToUpstream .. => true
  | _ => false

def Unsent (past : List (Act Packet)) : Prop := ∀ act ∈ past, act.op.isUpstreamSend = false
def Unrouted (past : List (Act Packet)) : Prop := Unsent past ∧ ∀ act ∈ past, act.op.isRouting = false

def RequestAdmits (method : Method) (past : List (Act Packet)) : Act Packet → Prop
  | ⟨.insertUdpBranch branch route,_⟩ =>
    Unrouted past ∧ Owned method past branch ∧ route.method = method ∧ route.removeOnFinal = decide (method ≠ .invite)
  | ⟨.removeUdpBranch branch,_⟩ =>
    (∃ route, ⟨.insertUdpBranch branch route,()⟩ ∈ past) ∧ ∃ packet upstream, ⟨.sendToUpstream packet upstream,false⟩ ∈ past
  | ⟨.sendToUpstream ..,_⟩ => Unsent past
  | ⟨.rememberPendingRegister branch _,_⟩ => method = .register ∧ Owned method past branch
  | ⟨.lookupUdpBranch _,_⟩ => False
  | _ => True

theorem plain_admitted {act : Act Packet} (plain : Plain act.op) (past : List (Act Packet)) :
    RequestAdmits method past act := by
  obtain ⟨op,reply⟩ := act
  cases op <;> first | exact plain.elim | trivial

theorem Minted.later (minted : Minted past branch) (more : List (Act Packet)) : Minted (past ++ more) branch := by
  obtain ⟨id,member,named⟩ := minted
  exact ⟨id,List.mem_append_left more member,named⟩

theorem Owned.later (owned : Owned method past branch) (more : List (Act Packet)) : Owned method (past ++ more) branch := by
  rcases owned with minted | ⟨dependent,key,route,member,named⟩
  · exact .inl (minted.later more)
  · exact .inr ⟨dependent,key,route,List.mem_append_left more member,named⟩

theorem unsent_snoc {act : Act Packet} (unsent : Unsent past) (quiet : act.op.isUpstreamSend = false) :
    Unsent (past ++ [act]) := by
  intro other member
  rcases List.mem_append.mp member with earlier | last
  · exact unsent other earlier
  · rw [List.mem_singleton.mp last]; exact quiet

theorem unrouted_snoc {act : Act Packet} (unrouted : Unrouted past) (quiet : act.op.isUpstreamSend = false)
    (still : act.op.isRouting = false) : Unrouted (past ++ [act]) := by
  refine ⟨unsent_snoc unrouted.1 quiet,?_⟩
  intro other member
  rcases List.mem_append.mp member with earlier | last
  · exact unrouted.2 other earlier
  · rw [List.mem_singleton.mp last]; exact still

theorem plain_quiet {op : Op Packet} (plain : Plain op) : op.isUpstreamSend = false ∧ op.isRouting = false := by
  cases op <;> first | exact plain.elim | exact ⟨rfl,rfl⟩

-- What plain calls cannot undo.
def Steady (kept : List (Act Packet) → Prop) : Prop := ∀ past act, kept past → Plain act.op → kept (past ++ [act])

theorem along_plain {Result : Type} {task : Task Packet Result} (plain : task.Uses Plain) (past : List (Act Packet)) :
    task.Along (RequestAdmits method) (fun _ _ => True) past :=
  along_uses plain (fun past _ _ allowed => plain_admitted allowed past) (fun _ _ _ _ => trivial) trivial

theorem along_plain_then {First Second : Type} {task : Task Packet First} {next : First → Task Packet Second}
    {kept : List (Act Packet) → Prop} {ends : List (Act Packet) → Except String Second → Prop}
    (plain : task.Uses Plain) (steady : Steady kept) (start : kept past)
    (rest : ∀ past result, kept past → (next result).Along (RequestAdmits method) ends past)
    (failed : ∀ past error, ends past (.error error)) : (task >>= next).Along (RequestAdmits method) ends past :=
  along_bind _ (along_uses plain (fun past _ _ allowed => plain_admitted allowed past) steady start) rest
    (fun past error _ => failed past error)

theorem unrouted_steady : Steady (@Unrouted Packet) := by
  intro past act unrouted plain
  exact unrouted_snoc unrouted (plain_quiet plain).1 (plain_quiet plain).2

-- A route handed out by the INVITE transactions is one that this task looked up.
def Lent (method : Method) (past : List (Act Packet)) (found : Option InviteTransactionRoute) : Prop :=
  ∀ route, found = some route → (method = .cancel ∨ method = .ack) ∧ Borrowed past route.branch

def Ready (method : Method) (past : List (Act Packet)) (branch : String) : Prop :=
  Unrouted past ∧ Owned method past branch

theorem lent_steady (method : Method) (found : Option InviteTransactionRoute) :
    Steady fun past : List (Act Packet) => Unrouted past ∧ Lent method past found := by
  intro past act both plain
  rcases both with ⟨unrouted,lent⟩
  refine ⟨unrouted_steady past act unrouted plain,?_⟩
  intro route same
  obtain ⟨dependent,key,held,member,named⟩ := lent route same
  exact ⟨dependent,key,held,List.mem_append_left _ member,named⟩

theorem ready_steady (method : Method) (branch : String) :
    Steady fun past : List (Act Packet) => Ready method past branch := by
  intro past act both plain
  rcases both with ⟨unrouted,owned⟩
  exact ⟨unrouted_steady past act unrouted plain,owned.later [act]⟩

theorem lookupInviteTransaction_along (unrouted : Unrouted past) (dependent : method = .cancel ∨ method = .ack)
    (key : Option String) : (lookupInviteTransaction key : Task Packet _).Along (RequestAdmits method)
      (fun past outcome => ∀ found, outcome = .ok found → Unrouted past ∧ Lent method past found) past := by
  cases key with
  | none =>
      intro found same
      cases same
      exact ⟨unrouted,fun route found => nomatch found⟩
  | some key =>
      intro reply
      refine ⟨trivial,?_⟩
      intro found same
      cases same
      refine ⟨unrouted_snoc unrouted rfl rfl,?_⟩
      intro route same
      rcases same with rfl
      exact ⟨dependent,key,route,by simp,rfl⟩

theorem branchFor_along (unrouted : Unrouted past) (lent : Lent method past found) :
    (branchFor found : Task Packet String).Along (RequestAdmits method)
      (fun past outcome => ∀ branch, outcome = .ok branch → Ready method past branch) past := by
  cases found with
  | some route =>
      intro branch same
      cases same
      exact ⟨unrouted,.inr (lent route rfl)⟩
  | none =>
      intro id
      refine ⟨trivial,?_⟩
      intro branch same
      cases same
      exact ⟨unrouted_snoc unrouted rfl rfl,.inl ⟨id,by simp,rfl⟩⟩

theorem rememberPendingRegister_along (ready : Ready .register past branch) (pending : Option PendingRegister) :
    (rememberPendingRegister branch pending : Task Packet Unit).Along (RequestAdmits .register)
      (fun past _ => Ready .register past branch) past := by
  cases pending with
  | none => exact ready
  | some pending =>
      intro reply
      exact ⟨⟨rfl,ready.2⟩,unrouted_snoc ready.1 rfl rfl,ready.2.later _⟩

theorem trackRegister_along (ready : Ready method past branch) (message : Message) (viaHost : String) (peer : SocketAddr)
    (target : UpstreamTarget) : (trackRegister codec settings message viaHost peer target branch method).Along
      (RequestAdmits method) (fun past _ => Ready method past branch) past := by
  unfold trackRegister
  split
  · rename_i isRegister
    subst isRegister
    split
    · refine along_lift (fun result _ => ?_) (fun _ _ => ready)
      exact along_bind _ (rememberPendingRegister_along ready _) (fun _ _ ready => ready) (fun _ _ ready => ready)
    · refine along_lift (fun pending _ => ?_) (fun _ _ => ready)
      refine along_lift (fun message _ => ?_) (fun _ _ => ready)
      exact along_bind _ (rememberPendingRegister_along ready _) (fun _ _ ready => ready) (fun _ _ ready => ready)
  · exact ready

theorem prepareForward_along (unrouted : Unrouted past) (message : Message) (peer : SocketAddr)
    (listener : ProxyListenerConfig) (method : Method) :
    (prepareForward codec settings message peer listener method).Along (RequestAdmits method)
      (fun past outcome => ∀ prepared, outcome = .ok prepared → Ready method past prepared.branch) past := by
  unfold prepareForward
  split
  · intro prepared failed
    cases failed
  · rename_i requestUri _
    have noResult : ∀ (past : List (Act Packet)) error, ∀ prepared, (.error error : Except String (Prepared Message)) =
        .ok prepared → Ready method past prepared.branch := fun _ _ _ failed => nomatch failed
    dsimp only
    refine along_plain_then ?_ unrouted_steady unrouted (fun past routed unrouted => ?_) noResult
    · split
      · exact silent_plain (still_silent (views_still (topRouteTargetsThisProxy_views message listener peer)))
      · trivial
    refine along_plain_then (uses_lift _) unrouted_steady unrouted (fun past key unrouted => ?_) noResult
    refine along_bind (fun past outcome => ∀ found, outcome = .ok found → Unrouted past ∧ Lent method past found) ?_
      (fun past found kept => ?_) (fun past error _ => noResult past error)
    · split
      · rename_i dependent
        exact lookupInviteTransaction_along unrouted (dependent.imp_right And.left) key
      · intro found same
        cases same
        exact ⟨unrouted,fun route found => nomatch found⟩
    have steady := @lent_steady Packet method found
    refine along_plain_then (silent_plain (looks_silent (forwardTarget_looks ..))) steady (kept found rfl) (fun past chosen kept => ?_) noResult
    refine along_plain_then ?_ steady kept (fun past target kept => ?_) noResult
    · split
      · exact silent_plain (still_silent (views_still (selectUpstream_views requestUri listener)))
      · trivial
    refine along_plain_then (silent_plain (still_silent (views_still (popOwnRouteHeaders_views ..)))) steady kept (fun past message kept => ?_) noResult
    refine along_bind _ (branchFor_along kept.1 kept.2) (fun past branch ready => ?_) (fun past error _ => noResult past error)
    have steady := @ready_steady Packet method branch
    refine along_plain_then (uses_perform trivial) steady (ready branch rfl) (fun past viaHost ready => ?_) noResult
    refine along_plain_then (uses_lift _) steady ready (fun past message ready => ?_) noResult
    refine along_plain_then (silent_plain (still_silent (views_still (recordRoutes_views ..)))) steady ready (fun past recorded ready => ?_) noResult
    refine along_bind _ (trackRegister_along ready ..) (fun past message ready => ?_) (fun past error _ => noResult past error)
    intro prepared same
    cases same
    exact ready

theorem sending_steady (act : Act Packet) : Steady fun past => act ∈ past ∧ Unsent past := by
  intro past next both plain
  rcases both with ⟨member,unsent⟩
  exact ⟨List.mem_append_left _ member,unsent_snoc unsent (plain_quiet plain).1⟩

theorem forwardUdpToUdpUpstream_along {prepared : Prepared Message} (ready : Ready method past prepared.branch)
    (peer : SocketAddr) (key : Option String) : (forwardUdpToUdpUpstream codec settings prepared peer key method).Along
      (RequestAdmits method) (fun _ _ => True) past := by
  refine along_call fun inserted => ⟨⟨ready.1,ready.2,rfl,rfl⟩,?_⟩
  refine along_plain_then (remembers_plain (rememberUdpClientTransaction_remembers _ _)) (sending_steady _)
    ⟨List.mem_append_right past (List.mem_singleton_self _),unsent_snoc ready.1.1 rfl⟩ (fun past _ kept => ?_) (fun _ _ => trivial)
  refine along_call fun sent => ⟨kept.2,?_⟩
  cases sent with
  | true => exact along_plain (remembers_plain (rememberSuccessfulForward_remembers ..)) _
  | false =>
      refine along_call fun removed => ⟨?_,?_⟩
      · exact ⟨⟨_,List.mem_append_left _ kept.1⟩,_,_,List.mem_append_right _ (List.mem_singleton_self _)⟩
      · exact along_plain (uses_bind (remembers_plain (removeUdpClientTransaction_remembers key)) fun _ => uses_fail _) _

theorem forwardUdpToTcpUpstream_plain (prepared : Prepared Message) (peer : SocketAddr) (key : Option String)
    (method : Method) : (forwardUdpToTcpUpstream codec settings prepared peer key method).Uses Plain := by
  apply uses_call trivial
  intro responses
  cases responses with
  | error error => exact uses_bind (remembers_plain (removeUdpClientTransaction_remembers key)) fun _ => trivial
  | ok responses =>
      apply uses_bind (remembers_plain (rememberUdpClientTransaction_remembers _ key))
      intro _
      exact uses_bind (remembers_plain (rememberSuccessfulForward_remembers ..)) fun _ => aside_uses (sendUdpToTcpResponses_aside ..)

-- What forwardUdp is left with once a request is prepared, and what it does with one whose transaction is not on record.
def forwardPrepared (codec : Codec Packet Message) (settings : Settings) (prepared : Prepared Message) (peer : SocketAddr)
    (key : Option String) (method : Method) : Task Packet Unit :=
  match prepared.target.transport with
  | .udp => forwardUdpToUdpUpstream codec settings prepared peer key method
  | .tcp => forwardUdpToTcpUpstream codec settings prepared peer key method
  | .tcpUdp => .fail "tcp_udp upstream target must be expanded before forwarding"

def forwardUnknown (codec : Codec Packet Message) (settings : Settings) (message : Message) (peer : SocketAddr)
    (listener : ProxyListenerConfig) (method : Method) (key : Option String) : Task Packet Unit := do
  let prepared ← prepareForward codec settings message peer listener method
  trying codec settings message peer method
  forwardPrepared codec settings prepared peer key method

theorem forwardUdp_along (unrouted : Unrouted past) (message : Message) (peer : SocketAddr)
    (listener : ProxyListenerConfig) (method : Method) :
    (forwardUdp codec settings message peer listener method).Along (RequestAdmits method) (fun _ _ => True) past := by
  refine along_plain_then (uses_lift _) unrouted_steady unrouted (fun past key unrouted => ?_) (fun _ _ => trivial)
  refine along_plain_then ?_ unrouted_steady unrouted (fun past known unrouted => ?_) (fun _ _ => trivial)
  · cases key with
    | none => trivial
    | some key => exact uses_perform trivial
  cases known with
  | some route =>
      dsimp only
      split
      · exact along_plain (silent_plain (still_silent (sendToClient_still _ _ _))) past
      · exact along_plain (silent_plain (still_silent (trying_still message peer method))) past
  | none =>
      refine along_bind _ (prepareForward_along unrouted message peer listener method) (fun past prepared ready => ?_)
        (fun _ _ _ => trivial)
      refine along_plain_then (silent_plain (still_silent (trying_still message peer method))) (ready_steady method prepared.branch) (ready prepared rfl)
        (fun past _ ready => ?_) (fun _ _ => trivial)
      split
      · exact forwardUdpToUdpUpstream_along ready peer key
      · exact along_plain (forwardUdpToTcpUpstream_plain prepared peer key method) past
      · trivial

theorem forwardTcpStream_along (unrouted : Unrouted past) (message : Message) (peer : SocketAddr)
    (listener : ProxyListenerConfig) (method : Method) :
    (forwardTcpStream codec settings message peer listener method).Along (RequestAdmits method) (fun _ _ => True) past := by
  refine along_bind _ (prepareForward_along unrouted message peer listener method) (fun past prepared _ => ?_)
    (fun _ _ _ => trivial)
  refine along_plain ?_ past
  apply uses_call trivial
  intro responses
  cases responses with
  | error error => trivial
  | ok responses => exact uses_bind (remembers_plain (rememberSuccessfulForward_remembers ..)) fun _ => aside_uses (relayTcpResponses_aside _ _)

theorem handleRequest_along {forward : Message → Task Packet Unit} {reject : Message → Nat → String → Task Packet Unit}
    (forwarded : ∀ past message, Unrouted past → (forward message).Along (RequestAdmits method) (fun _ _ => True) past)
    (rejected : ∀ message code reason, (reject message code reason).Uses Plain) (unrouted : Unrouted past)
    (packet : Packet) (message : Message) (peer : SocketAddr) (listener : ProxyListenerConfig) :
    (handleRequest codec settings packet message peer listener method forward reject).Along (RequestAdmits method)
      (fun _ _ => True) past := by
  refine along_plain_then (silent_plain (still_silent (absorbed_still message method))) unrouted_steady unrouted (fun past absorbed unrouted => ?_)
    (fun _ _ => trivial)
  split
  · trivial
  refine along_plain_then (silent_plain (refusal_silent ..)) unrouted_steady unrouted (fun past refused unrouted => ?_) (fun _ _ => trivial)
  split
  · exact along_plain (rejected _ _ _) past
  split
  · exact along_plain (rejected _ _ _) past
  · exact along_plain (rejected _ _ _) past
  refine along_bind (fun _ _ => True) (along_attempt (forwarded past _ unrouted)) (fun past outcome _ => ?_)
    (fun _ _ _ => trivial)
  cases outcome with
  | ok _ => trivial
  | error error => exact along_plain (uses_bind (uses_lift _) fun request => rejected _ _ _) past

end Request
end Sigproxy.Proxy
