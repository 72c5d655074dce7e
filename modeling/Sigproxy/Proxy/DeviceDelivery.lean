import Sigproxy.Library.Sequential
import Sigproxy.Proxy.PendingBindings
import Sigproxy.Proxy.RegisterResponse

namespace Sigproxy.Proxy
open Library Net Cluster
open Library.System (Ensures Returned)
open Program

variable {Packet Message : Type}

section Location

-- One binding that a successful REGISTER wrote, for how long and when.
structure Written where
  binding : PendingRegisterBinding
  lifetime : Nat
  time : Nat
  deriving DecidableEq, Repr

def Written.stored (written : Written) : Option ContactBinding :=
  if written.lifetime = 0 then none
  else some ⟨written.binding.aor,written.binding.contact,written.binding.source,written.time + written.lifetime⟩

def alive (time : Nat) (found : Option ContactBinding) : Option ContactBinding := found.filter fun binding => !binding.isExpired time

-- A location service in one line: the last REGISTER that wrote a key answers for it.
def located (log : List Written) (key : String) : Option ContactBinding :=
  (lastFor (fun written => written.binding.aor == key) log).bind Written.stored

-- Nothing that is or will be alive has moved.
structure Unmoved (w after : World Packet) : Prop where
  now : after.now = w.now
  pending : after.pendingRegisters = w.pendingRegisters
  contacts : ∀ time, w.now ≤ time → ∀ key, alive time (after.state.peek key) = alive time (w.state.peek key)

theorem Unmoved.refl (w : World Packet) : Unmoved w w := ⟨rfl,rfl,fun _ _ _ => rfl⟩

theorem Unmoved.trans {w middle after : World Packet} (first : Unmoved w middle) (second : Unmoved middle after) : Unmoved w after where
  now := second.now.trans first.now
  pending := second.pending.trans first.pending
  contacts := fun time later key =>
    (second.contacts time (by rw [first.now]; exact later) key).trans (first.contacts time later key)

theorem Unmoved.live {w after : World Packet} (unmoved : Unmoved w after) :
    (fun key => alive after.now (after.state.peek key)) = fun key => alive w.now (w.state.peek key) := by
  funext key
  rw [unmoved.now,unmoved.contacts _ (Nat.le_refl _)]

-- What the writes leave of a binding that was there before them.
def overlaid (writes : List Written) (key : String) (old : Option ContactBinding) : Option ContactBinding :=
  match lastFor (fun written => written.binding.aor == key) writes with
  | some written => written.stored
  | none => old

theorem located_append (log more : List Written) (key : String) : located (log ++ more) key = overlaid more key (located log key) := by
  unfold located overlaid lastFor
  rw [List.reverse_append,List.find?_append]
  cases List.find? (fun written => written.binding.aor == key) more.reverse <;> rfl

theorem overlaid_cons (first : Written) (rest : List Written) (key : String) (old : Option ContactBinding) :
    overlaid (first :: rest) key old = overlaid rest key (if first.binding.aor = key then first.stored else old) := by
  unfold overlaid lastFor
  rw [List.reverse_cons,List.find?_append]
  cases List.find? (fun written => written.binding.aor == key) rest.reverse with
  | some written => rfl
  | none => by_cases same : first.binding.aor = key <;> simp [same]

theorem alive_overlaid (same : alive time old = alive time other) (writes : List Written) (key : String) :
    alive time (overlaid writes key old) = alive time (overlaid writes key other) := by
  unfold overlaid
  split
  · rfl
  · exact same

end Location

section Lookups
variable {codec : Codec Packet Message} {settings : Settings} {fair : Choice Packet → Prop}

theorem server_perform : (server codec settings).perform = perform settings := rfl

theorem alive_expired {binding : ContactBinding} (expired : binding.isExpired now = true) (later : now ≤ time) :
    alive time (some binding) = none := by
  have still : binding.isExpired time = true := by
    simp only [ContactBinding.isExpired,decide_eq_true_eq] at expired ⊢
    omega
  simp [alive,Option.filter,still]

theorem evict_unmoved {w : World Packet} (found : w.state.peek aor = some binding) (expired : binding.isExpired w.now = true) :
    Unmoved w {w with state:=w.state.evict aor} := by
  refine ⟨rfl,rfl,fun time later key => ?_⟩
  simp only [SharedState.peek,SharedState.evict,Table.lookup_erase_eq] at found ⊢
  split
  · rename_i same
    rw [same,found,alive_expired expired later]
    rfl
  · rfl

theorem lookupContact_finds (w : World Packet) (aor : String) : Ensures (server codec settings) fair
    (Returned fun found after => found = alive w.now (w.state.peek aor) ∧ Unmoved w after) (lookupContact aor) w := by
  apply System.ensures_call
  intro choice _
  cases found : w.state.peek aor with
  | none =>
      simp only [server_perform,perform,found]
      exact ⟨rfl,.refl w⟩
  | some binding =>
      simp only [server_perform,perform,found]
      apply System.ensures_call
      intro choice _
      by_cases expired : binding.isExpired w.now = true
      · erw [if_pos expired]
        exact fun _ _ => ⟨(alive_expired expired (Nat.le_refl _)).symm,evict_unmoved found expired⟩
      · erw [if_neg expired]
        exact ⟨by simp [alive,Option.filter,expired],.refl w⟩

theorem lookupFirstContact_finds (w : World Packet) (keys : List String) : Ensures (server codec settings) fair
    (Returned fun found after => found = keys.findSome? (fun key => alive w.now (w.state.peek key)) ∧ Unmoved w after)
    (lookupFirstContact keys) w := by
  induction keys generalizing w with
  | nil => exact ⟨rfl,.refl w⟩
  | cons key rest ih =>
      apply System.returned_bind (lookupContact_finds w key)
      intro found after ended
      obtain ⟨rfl,unmoved⟩ := ended
      cases here : alive w.now (w.state.peek key) with
      | some binding => exact ⟨by simp [here],unmoved⟩
      | none =>
          apply System.returned_mono (ih after)
          intro found last ended
          obtain ⟨rfl,further⟩ := ended
          refine ⟨?_,unmoved.trans further⟩
          simp [here,unmoved.live]

-- The keys a delivery asks for, the Request-URI's before those of the To header.
def deliveryKeys (codec : Codec Packet Message) (message : Message) (requestUri : String) : List String :=
  registrationRouteKeys codec requestUri ++ match codec.extractToAor message with
    | .ok toAor => registrationRouteKeys codec toAor
    | .error _ => []

theorem lookupDelivery_finds (w : World Packet) (message : Message) (requestUri : String) : Ensures (server codec settings) fair
    (Returned fun found after =>
      found = (deliveryKeys codec message requestUri).findSome? (fun key => alive w.now (w.state.peek key)) ∧ Unmoved w after)
    (lookupDeliveryRegistrationBinding codec message requestUri true) w := by
  apply System.returned_bind (lookupFirstContact_finds w _)
  intro found after ended
  obtain ⟨rfl,unmoved⟩ := ended
  unfold deliveryKeys
  rw [List.findSome?_append]
  cases here : (registrationRouteKeys codec requestUri).findSome? (fun key => alive w.now (w.state.peek key)) with
  | some binding => exact ⟨rfl,unmoved⟩
  | none =>
      simp only [Bool.not_true,Bool.false_eq_true,if_false,Option.none_or]
      cases codec.extractToAor message with
      | error error => exact ⟨rfl,unmoved⟩
      | ok toAor =>
          apply System.returned_mono (lookupFirstContact_finds after _)
          intro found last ended
          obtain ⟨rfl,further⟩ := ended
          exact ⟨by rw [unmoved.live],unmoved.trans further⟩

end Lookups

section Forward
variable {codec : Codec Packet Message} {settings : Settings} {good : Message → Prop} {w : World Packet}

-- The upstreams that the surroundings select are configured ones.
def Honest (settings : Settings) (choice : Choice Packet) : Prop := settings.upstreamsContain choice.addr = true

-- A class of messages that can be edited without an error.
structure Editable (codec : Codec Packet Message) (good : Message → Prop) : Prop where
  route : ∀ message, good message → ∃ top, codec.topHeaderValue "Route" message = .ok top
  popRoute : ∀ message, good message → ∃ popped, codec.popTopHeaderValue "Route" message = .ok popped ∧ good popped.2
  key : ∀ message, good message → ∃ key, inviteTransactionKey codec message = .ok key
  affinity : ∀ strategy message, good message → ∃ keys, affinityKeys codec strategy message = .ok keys
  via : ∀ transport host branch message, good message →
    ∃ edited, codec.prependVia transport host branch message = .ok edited ∧ good edited
  recordRoute : ∀ addr message, good message → ∃ edited, codec.prependRecordRoute addr message = .ok edited ∧ good edited
  path : ∀ host message, good message → ∃ edited, codec.prependPath host message = .ok edited
  contacts : ∀ host rewrite message, good message → ∃ rewritten, codec.rewriteContactHostWithUser host rewrite message = .ok rewritten

theorem ask_returns (op : Op Packet) : Ensures (server codec settings) (Honest settings) (Returned fun _ _ => True) (ask op) w :=
  fun _ _ => trivial

theorem selectUpstream_returns (uri : String) (listener : ProxyListenerConfig) : Ensures (server codec settings) (Honest settings)
    (Returned fun target _ => settings.upstreamsContain target.addr = true) (selectUpstream uri listener) w :=
  fun _ honest => honest

theorem isHealthyUpstreamTarget_returns (target : UpstreamTarget) : Ensures (server codec settings) (Honest settings)
    (Returned fun healthy _ => healthy = true → settings.upstreamsContain target.addr = true)
    (isHealthyUpstreamTarget settings target) w := by
  unfold isHealthyUpstreamTarget
  split
  · rename_i contained
    exact fun _ _ _ => contained
  · exact fun unhealthy => (nomatch unhealthy)

theorem lookupFirstAffinity_returns (keys : List Affinity.AffinityKey) : Ensures (server codec settings) (Honest settings)
    (Returned fun _ _ => True) (lookupFirstAffinity keys) w := by
  induction keys generalizing w with
  | nil => trivial
  | cons key rest ih =>
      apply System.returned_bind (ask_returns _)
      intro found after _
      cases found with
      | some target => trivial
      | none => exact ih

theorem affinityOrSelectedTarget_returns (editable : Editable codec good) (wellFormed : good message) (requestUri : String)
    (listener : ProxyListenerConfig) : Ensures (server codec settings) (Honest settings)
      (Returned fun target _ => settings.upstreamsContain target.addr = true)
      (affinityOrSelectedTarget codec settings message requestUri listener) w := by
  have looked : Ensures (server codec settings) (Honest settings) (Returned fun _ _ => True) (affinityLookup codec settings message) w := by
    unfold affinityLookup
    split
    · obtain ⟨keys,given⟩ := editable.affinity settings.affinityKey message wellFormed
      exact System.returned_lift given (lookupFirstAffinity_returns keys)
    · trivial
  apply System.returned_bind looked
  intro found after _
  cases found with
  | none => exact selectUpstream_returns requestUri listener
  | some target =>
      apply System.returned_bind (isHealthyUpstreamTarget_returns _)
      intro healthy after contained
      split
      · rename_i isHealthy
        exact contained isHealthy
      · exact selectUpstream_returns requestUri listener

theorem routeTargetsThisProxy_returns (route : String) (listener : ProxyListenerConfig) (target : SocketAddr) :
    Ensures (server codec settings) (Honest settings) (Returned fun _ after => after = w)
      (routeTargetsThisProxy codec settings route listener target) w := by
  unfold routeTargetsThisProxy
  split
  · exact rfl
  · split
    · exact rfl
    · have resolved (side : AdvertiseSide) (addr : SocketAddr) : Ensures (server codec settings) (Honest settings)
          (Returned fun _ after => after = w) (resolvedAdvertisedAddrMatches codec side listener target addr) w := fun _ _ => rfl
      apply System.returned_bind (resolved _ _)
      intro matched after same
      subst same
      split
      · exact rfl
      · exact resolved _ _

theorem popOwnRouteHeaders_returns (editable : Editable codec good) (wellFormed : good message) (listener : ProxyListenerConfig)
    (target : SocketAddr) (fuel : Nat) : Ensures (server codec settings) (Honest settings) (Returned fun edited _ => good edited)
      (popOwnRouteHeaders codec settings listener target fuel message) w := by
  induction fuel generalizing message w with
  | zero => exact wellFormed
  | succ fuel ih =>
      obtain ⟨top,given⟩ := editable.route message wellFormed
      apply System.returned_lift given
      cases top with
      | none => exact wellFormed
      | some route =>
          apply System.returned_bind (routeTargetsThisProxy_returns route listener target)
          intro ours after _
          split
          · obtain ⟨popped,removed,still⟩ := editable.popRoute message wellFormed
            exact System.returned_lift removed (ih still)
          · exact wellFormed

theorem recordRoutes_returns (editable : Editable codec good) (wellFormed : good message) (peer target : SocketAddr)
    (listener : ProxyListenerConfig) (method : Method) : Ensures (server codec settings) (Honest settings)
      (Returned fun recorded _ => good recorded.1) (recordRoutes codec settings message peer target listener method) w := by
  have folded (addrs : List String) (message : Message) (wellFormed : good message) :
      ∃ edited, addrs.foldlM (fun message addr => codec.prependRecordRoute addr message) message = .ok edited ∧ good edited := by
    induction addrs generalizing message with
    | nil => exact ⟨message,rfl,wellFormed⟩
    | cons addr rest ih =>
        obtain ⟨edited,given,still⟩ := editable.recordRoute addr message wellFormed
        obtain ⟨last,ended,kept⟩ := ih edited still
        exact ⟨last,by rw [List.foldlM_cons,given]; exact ended,kept⟩
  have addressed : Ensures (server codec settings) (Honest settings) (Returned fun _ _ => True)
      (recordRouteAddrs settings peer target listener) w := by
    unfold recordRouteAddrs
    dsimp only
    split
    · exact fun _ _ => trivial
    · exact fun _ _ _ _ => trivial
  unfold recordRoutes
  split
  · apply System.returned_bind addressed
    intro addrs after _
    obtain ⟨edited,given,still⟩ := folded addrs.reverse message wellFormed
    exact System.returned_lift given still
  · exact wellFormed

theorem trackRegister_returns (editable : Editable codec good) (wellFormed : good message) (viaHost : String) (peer : SocketAddr)
    (target : UpstreamTarget) (branch : String) (method : Method) : Ensures (server codec settings) (Honest settings)
      (Returned fun _ _ => True) (trackRegister codec settings message viaHost peer target branch method) w := by
  have remembered (pending : Option PendingRegister) (w : World Packet) : Ensures (server codec settings) (Honest settings)
      (Returned fun _ _ => True) (rememberPendingRegister branch pending) w := by
    cases pending with
    | none => trivial
    | some pending => exact fun _ _ => trivial
  unfold trackRegister
  split
  · split
    · obtain ⟨rewritten,given⟩ := editable.contacts viaHost
        (rewrittenRegisterContactUser codec (codec.extractAor message).toOption) message wellFormed
      apply System.returned_lift (by unfold rewriteRegisterContactAndPending; simp only [given]; rfl)
      exact System.returned_bind (remembered _ w) fun _ _ _ => trivial
    · obtain ⟨rewritten,given⟩ := editable.contacts viaHost (fun _ user => user) message wellFormed
      obtain ⟨edited,pathed⟩ := editable.path viaHost message wellFormed
      apply System.returned_lift (by unfold registerContactRoutesPending; simp only [given]; rfl)
      exact System.returned_lift pathed (System.returned_bind (remembered _ w) fun _ _ _ => trivial)
  · trivial

-- The call that a CANCEL or an ACK belongs to, where the proxy knows it.
def knownCall (codec : Codec Packet Message) (w : World Packet) (message : Message) (method : Method)
    (direct : Option UpstreamTarget) : Option InviteTransactionRoute :=
  if method = .cancel ∨ (method = .ack ∧ direct.isNone) then
    match inviteTransactionKey codec message with
    | .ok (some key) => ((pruneInviteTransactions w.now w.inviteTransactions).lookup key).map Stamped.content
    | _ => none
  else none

-- What a given answer of the location service makes of the target; where there is
-- nothing to go by, an upstream is selected.
def Aim (codec : Codec Packet Message) (settings : Settings) (listener : ProxyListenerConfig) (method : Method)
    (direct : Option UpstreamTarget) (known : Option InviteTransactionRoute) (found : Option ContactBinding) (target : UpstreamTarget) :
    Prop :=
  match (if method = .ack then direct else none),known with
  | some own,_ => target = own
  | none,some route => target = route.target
  | none,none =>
    match found with
    | some binding => (targetForRegistrationBinding codec binding listener.transport).elim
        (settings.upstreamsContain target.addr = true) (target = ·)
    | none => direct.elim (settings.upstreamsContain target.addr = true) (target = ·)

theorem forwardTarget_returns (editable : Editable codec good) (wellFormed : good message) (requestUri : String)
    (listener : ProxyListenerConfig) (method : Method) (routed : Bool) (direct : Option UpstreamTarget)
    (known : Option InviteTransactionRoute) : Ensures (server codec settings) (Honest settings)
      (Returned fun target _ => Aim codec settings listener method direct known
        ((deliveryKeys codec message requestUri).findSome? fun key => alive w.now (w.state.peek key)) target)
      (forwardTarget codec settings message requestUri listener method true routed direct known) w := by
  unfold forwardTarget Aim
  cases (if method = .ack then direct else none) with
  | some own => exact rfl
  | none =>
      cases known with
      | some route => exact rfl
      | none =>
          simp only [Bool.true_or,if_true]
          apply System.returned_bind (lookupDelivery_finds w message requestUri)
          intro found after ended
          obtain ⟨rfl,_⟩ := ended
          cases (deliveryKeys codec message requestUri).findSome? fun key => alive w.now (w.state.peek key) with
          | some binding =>
              dsimp only
              cases targetForRegistrationBinding codec binding listener.transport with
              | some target => exact rfl
              | none => exact selectUpstream_returns requestUri listener
          | none =>
              cases direct with
              | some target => exact rfl
              | none => exact affinityOrSelectedTarget_returns editable wellFormed requestUri listener

theorem topRouteTargetsThisProxy_returns (editable : Editable codec good) (wellFormed : good message) (listener : ProxyListenerConfig)
    (peer : SocketAddr) : Ensures (server codec settings) (Honest settings) (Returned fun _ after => after = w)
      (topRouteTargetsThisProxy codec settings message listener peer) w := by
  obtain ⟨top,given⟩ := editable.route message wellFormed
  apply System.returned_lift given
  cases top with
  | none => exact rfl
  | some route => exact routeTargetsThisProxy_returns route listener peer

theorem knownCall_found (w : World Packet) {key : Option String} (method : Method) (direct : Option UpstreamTarget)
    (keyed : (if method = .invite ∨ method = .cancel ∨ method = .ack then inviteTransactionKey codec message else .ok none) = .ok key) :
    Ensures (server codec settings) (Honest settings)
      (Returned fun found after => found = knownCall codec w message method direct ∧ Unmoved w after)
      (if method = .cancel ∨ (method = .ack ∧ direct.isNone) then lookupInviteTransaction key else pure none) w := by
  unfold knownCall
  split
  · rename_i dependent
    have belongs : method = .invite ∨ method = .cancel ∨ method = .ack := .inr (dependent.imp_right And.left)
    rw [if_pos belongs] at keyed
    rw [keyed]
    cases key with
    | none => exact ⟨rfl,.refl w⟩
    | some key => exact fun _ _ => ⟨rfl,rfl,rfl,fun _ _ _ => rfl⟩
  · exact ⟨rfl,.refl w⟩

-- The target of a request from an upstream. The proxy's own address is no target.
theorem prepareForward_aims (editable : Editable codec good) (wellFormed : good message) (uri : codec.requestUri message = some requestUri)
    (upstream : settings.isUpstreamSource peer = true) (listener : ProxyListenerConfig) (method : Method) (w : World Packet) :
    let direct := directTarget codec settings requestUri listener true
    Ensures (server codec settings) (Honest settings)
      (Returned fun prepared _ => ∃ chosen, Aim codec settings listener method direct (knownCall codec w message method direct)
          ((deliveryKeys codec message requestUri).findSome? fun key => alive w.now (w.state.peek key)) chosen ∧
        if !settings.upstreamsContain chosen.addr && settings.isAdvertisedOrListenerAddr chosen.addr listener then
          settings.upstreamsContain prepared.target.addr = true
        else prepared.target = chosen)
      (prepareForward codec settings message peer listener method) w := by
  unfold prepareForward
  simp only [uri,upstream,if_true]
  apply System.returned_bind (topRouteTargetsThisProxy_returns editable wellFormed listener peer)
  intro routed after same
  subst same
  obtain ⟨key,keyed⟩ : ∃ key, (if method = .invite ∨ method = .cancel ∨ method = .ack then inviteTransactionKey codec message
      else .ok none) = .ok key := by
    split
    · exact editable.key message wellFormed
    · exact ⟨none,rfl⟩
  apply System.returned_lift keyed
  apply System.returned_bind (knownCall_found after method _ keyed)
  intro known later ended
  obtain ⟨rfl,unmoved⟩ := ended
  refine System.returned_bind (forwardTarget_returns editable wellFormed requestUri listener method routed _ _)
    fun chosen _ aimed => ?_
  rw [unmoved.live] at aimed
  have settled (w : World Packet) : Ensures (server codec settings) (Honest settings)
      (Returned fun target _ => if !settings.upstreamsContain chosen.addr && settings.isAdvertisedOrListenerAddr chosen.addr listener
        then settings.upstreamsContain target.addr = true else target = chosen)
      (if !settings.upstreamsContain chosen.addr && settings.isAdvertisedOrListenerAddr chosen.addr listener
        then selectUpstream requestUri listener else pure chosen) w := by
    split
    · exact selectUpstream_returns requestUri listener
    · exact rfl
  apply System.returned_bind (settled _)
  intro target _ taken
  apply System.returned_bind (popOwnRouteHeaders_returns editable wellFormed listener _ _)
  intro popped _ wellFormed
  have branched (known : Option InviteTransactionRoute) (w : World Packet) : Ensures (server codec settings) (Honest settings)
      (Returned fun _ _ => True) (branchFor known) w := by
    cases known with
    | none => exact fun _ _ => trivial
    | some route => trivial
  apply System.returned_bind (branched _ _)
  intro branch _ _
  apply System.returned_bind (ask_returns _)
  intro viaHost _ _
  obtain ⟨signed,given,wellFormed⟩ := editable.via target.transport viaHost branch popped wellFormed
  apply System.returned_lift given
  apply System.returned_bind (recordRoutes_returns editable wellFormed peer target.addr listener method)
  intro recorded _ wellFormed
  apply System.returned_bind (trackRegister_returns editable wellFormed viaHost peer target branch method)
  intro tracked _ _
  exact ⟨chosen,aimed,taken⟩

end Forward

section Service
variable (codec : Codec Packet Message) (settings : Settings)

-- The server as a location service, one message after the other: a request is
-- forwarded, and a response is applied to the REGISTER that waits for it. The
-- replicator accepts what it is given.
inductive Traffic (Packet Message : Type) where
  | request (message : Message) (peer : SocketAddr) (listener : ProxyListenerConfig) (method : Method) (answers : Nat → Choice Packet)
  | response (branch : String) (message : Message) (answers : Nat → Choice Packet) (accepted : ∀ index, (answers index).flag = true)
  | elapse (duration : Nat)

structure Service (Packet : Type) where
  world : World Packet
  log : List Written

-- What a response writes: all the bindings of the REGISTER it answers with success.
def granted (w : World Packet) (branch : String) (response : Message) : List Written :=
  match (codec.startLine response).code,livePending w branch with
  | some code,some pending =>
    if 200 ≤ code ∧ code < 300 then
      let lifetime := (codec.extractResponseContactExpires response).getD pending.content.requestExpires
      pending.content.bindings.map fun binding => ⟨binding,lifetime,w.now⟩
    else []
  | _,_ => []

def serve (s : Service Packet) : Traffic Packet Message → Option (Service Packet)
  | .request message peer listener method answers =>
    some {s with world:=((server codec settings).exec (prepareForward codec settings message peer listener method) answers s.world).2}
  | .response branch message answers _ =>
    some ⟨((server codec settings).exec (applyRegisterStartLine codec branch message) answers s.world).2,
      s.log ++ granted codec s.world branch message⟩
  | .elapse duration => some {s with world:={s.world with now:=s.world.now + duration}}

def Sourced (binding : PendingRegisterBinding) : Prop := ∃ peer, binding.source = codec.showSocketAddr peer

-- The contacts are those of the log, and everything in it has come from some peer.
structure Served (log : List Written) (w : World Packet) : Prop where
  contacts : ∀ time, w.now ≤ time → ∀ key, alive time (w.state.peek key) = alive time (located log key)
  pending : ∀ branch entry, w.pendingRegisters.lookup branch = some entry → ∀ binding ∈ entry.content.bindings, Sourced codec binding
  logged : ∀ written ∈ log, Sourced codec written.binding

end Service

section Keeping
variable {codec : Codec Packet Message} {settings : Settings} {fair : Choice Packet → Prop} {w : World Packet} {log : List Written}

theorem Served.moved {after : World Packet} (served : Served codec log w) (unmoved : Unmoved w after) : Served codec log after where
  contacts := fun time later key => by
    rw [unmoved.now] at later
    rw [unmoved.contacts time later key,served.contacts time later key]
  pending := by
    rw [unmoved.pending]
    exact served.pending
  logged := served.logged

-- The calls of a forwarding besides its lookups.
def Prepares (codec : Codec Packet Message) : Op Packet → Prop
  | .rememberPendingRegister _ pending => ∀ binding ∈ pending.bindings, Sourced codec binding
  | .uniqueId | .lookupInviteTransaction _ => True
  | op => Still op

theorem still_prepares {Result : Type} {task : Task Packet Result} (still : task.Uses Still) : task.Uses (Prepares codec) :=
  still.mono fun op allowed => by cases op <;> first | exact allowed.elim | trivial

theorem prepares_served {op : Op Packet} (allowed : Prepares codec op) (choice : Choice Packet) (served : Served codec log w) :
    Served codec log (perform settings op choice w).2 := by
  have same {after : World Packet} (now : after.now = w.now) (state : after.state = w.state)
      (pending : after.pendingRegisters = w.pendingRegisters) : Served codec log after :=
    served.moved ⟨now,pending,fun _ _ _ => by rw [state]⟩
  cases op with
  | evictContact aor => exact allowed.elim
  | submit command => exact allowed.elim
  | takePendingRegister branch => exact allowed.elim
  | rememberPendingRegister branch pending =>
      refine ⟨served.contacts,fun other entry found => ?_,served.logged⟩
      simp only [perform,Table.lookup_insert_eq,prunePendingRegisters,Expiring.prune,Table.lookup_retain] at found
      split at found
      · cases found
        exact allowed
      · exact served.pending other entry (Option.filter_eq_some_iff.mp found).1
  | rememberUdpClientTransactionFinalResponse key response =>
      simp only [perform]
      split <;> exact same rfl rfl rfl
  | _ => exact same rfl rfl rfl

theorem prepares_keeps {Result : Type} {task : Task Packet Result} (prepares : task.Uses (Prepares codec)) (served : Served codec log w) :
    Ensures (server codec settings) fair (fun _ => Served codec log) task w :=
  System.kept_uses prepares (fun _ choice _ allowed served => prepares_served allowed choice served) served

theorem found_keeps {Result : Type} {task : Task Packet Result} {post : Result → World Packet → Prop} (served : Served codec log w)
    (found : Ensures (server codec settings) fair (Returned fun result after => post result after ∧ Unmoved w after) task w) :
    Ensures (server codec settings) fair (fun _ => Served codec log) task w :=
  System.ensures_mono found fun outcome _ ended => match outcome,ended with
    | .ok _,held => served.moved held.2

theorem forwardTarget_keeps (message : Message) (requestUri : String) (listener : ProxyListenerConfig) (method : Method)
    (fromUpstream routed : Bool) (direct : Option UpstreamTarget) (known : Option InviteTransactionRoute) (served : Served codec log w) :
    Ensures (server codec settings) fair (fun _ => Served codec log)
      (forwardTarget codec settings message requestUri listener method fromUpstream routed direct known) w := by
  unfold forwardTarget
  split
  · exact served
  · exact served
  · split
    · rename_i located
      rw [located]
      apply System.kept_bind (found_keeps served (lookupDelivery_finds w message requestUri))
      intro found after served
      cases found with
      | some binding =>
          dsimp only
          split
          · exact served
          · exact prepares_keeps (still_prepares (views_still (selectUpstream_views requestUri listener))) served
      | none =>
          dsimp only
          split
          · exact served
          · exact prepares_keeps (still_prepares (views_still (affinityOrSelectedTarget_views message requestUri listener))) served
    · split
      · exact served
      · refine prepares_keeps (still_prepares (uses_bind ?_ fun found => ?_)) served
        · unfold lookupRegisteredUpstreamTarget
          split
          · exact views_still (lookupRegisteredUpstreamKey_views _)
          · trivial
        · cases found with
          | some target => trivial
          | none => exact views_still (affinityOrSelectedTarget_views message requestUri listener)

theorem prepareForward_keeps (message : Message) (peer : SocketAddr) (listener : ProxyListenerConfig) (method : Method)
    (served : Served codec log w) : Ensures (server codec settings) fair (fun _ => Served codec log)
      (prepareForward codec settings message peer listener method) w := by
  unfold prepareForward
  split
  · exact served
  · rename_i requestUri _
    dsimp only
    refine System.kept_bind (prepares_keeps ?_ served) fun routed after served => ?_
    · split
      · exact still_prepares (views_still (topRouteTargetsThisProxy_views message listener peer))
      · trivial
    apply System.kept_bind (prepares_keeps (uses_lift _) served)
    intro key after served
    refine System.kept_bind (prepares_keeps ?_ served) fun known after served => ?_
    · split
      · cases key with
        | none => trivial
        | some key => exact uses_perform trivial
      · trivial
    apply System.kept_bind (forwardTarget_keeps message requestUri listener method _ routed _ known served)
    intro chosen after served
    refine System.kept_bind (prepares_keeps ?_ served) fun target after served => ?_
    · split
      · exact still_prepares (views_still (selectUpstream_views requestUri listener))
      · trivial
    refine prepares_keeps ?_ served
    refine uses_bind (still_prepares (views_still (popOwnRouteHeaders_views ..))) fun popped => uses_bind ?_ fun branch => ?_
    · cases known with
      | none => exact uses_call trivial fun _ => trivial
      | some route => trivial
    refine uses_call trivial fun viaHost => uses_bind (uses_lift _) fun signed => ?_
    apply uses_bind (still_prepares (views_still (recordRoutes_views ..)))
    intro recorded
    exact uses_bind (trackRegister_uses (fun _ _ sourced binding member => ⟨peer,sourced binding member⟩) ..) fun _ => trivial

def Accepting (choice : Choice Packet) : Prop := choice.flag = true

-- The world after the given bindings have been written.
structure Overwritten (w : World Packet) (writes : List Written) (after : World Packet) : Prop where
  now : after.now = w.now
  pending : after.pendingRegisters = w.pendingRegisters
  contacts : ∀ key, after.state.peek key = overlaid writes key (w.state.peek key)

theorem applyRegisterBinding_writes (target : UpstreamTarget) (expires : Nat) (binding : PendingRegisterBinding) (w : World Packet) :
    Ensures (server codec settings) Accepting (Returned fun _ after => Overwritten w [⟨binding,expires,w.now⟩] after)
      (applyRegisterBinding target expires binding) w := by
  unfold applyRegisterBinding
  split
  · rename_i zero
    intro choice accepting
    have flagged : choice.flag = true := accepting
    simp only [server_perform,perform,flagged,if_true]
    refine ⟨rfl,rfl,fun key => ?_⟩
    rw [overlaid_cons]
    simp only [SharedState.peek,SharedState.apply,Table.lookup_erase_eq,Written.stored,zero,if_true,@eq_comm _ key]
    rfl
  · rename_i positive
    intro first _ second _ choice accepting
    have flagged : choice.flag = true := accepting
    simp only [server_perform,perform,flagged,if_true]
    refine ⟨rfl,rfl,fun key => ?_⟩
    rw [overlaid_cons]
    simp only [SharedState.peek,SharedState.apply,Table.lookup_insert_eq,Written.stored,if_neg positive,@eq_comm _ key]
    rfl

theorem applyRegisterBindings_writes (target : UpstreamTarget) (expires : Nat) (bindings : List PendingRegisterBinding) (w : World Packet) :
    Ensures (server codec settings) Accepting
      (Returned fun _ after => Overwritten w (bindings.map fun binding => ⟨binding,expires,w.now⟩) after)
      (applyRegisterBindings target expires bindings) w := by
  induction bindings generalizing w with
  | nil => exact ⟨rfl,rfl,fun _ => rfl⟩
  | cons binding rest ih =>
      apply System.returned_bind (applyRegisterBinding_writes target expires binding w)
      intro _ middle first
      apply System.returned_mono (ih middle)
      intro _ after further
      refine ⟨further.now.trans first.now,further.pending.trans first.pending,fun key => ?_⟩
      rw [further.contacts key,first.contacts key,first.now,List.map_cons,overlaid_cons,overlaid_cons]
      rfl

theorem Served.overwritten {after : World Packet} (served : Served codec log w) (written : Overwritten w writes after)
    (sourced : ∀ entry ∈ writes, Sourced codec entry.binding) : Served codec (log ++ writes) after where
  contacts := fun time later key => by
    rw [written.now] at later
    rw [written.contacts key,located_append]
    exact alive_overlaid (served.contacts time later key) writes key
  pending := by
    rw [written.pending]
    exact served.pending
  logged := fun entry member => (List.mem_append.mp member).elim (served.logged entry) (sourced entry)

theorem taken_served (served : Served codec log w) (branch : String) (choice : Choice Packet) :
    Served codec log (perform settings (.takePendingRegister branch) choice w).2 := by
  refine ⟨served.contacts,fun other entry found => ?_,served.logged⟩
  simp only [perform,Table.lookup_erase_eq,prunePendingRegisters,Expiring.prune,Table.lookup_retain] at found
  split at found
  · cases found
  · exact served.pending other entry (Option.filter_eq_some_iff.mp found).1

theorem taken_live (w : World Packet) (branch : String) (choice : Choice Packet) :
    (perform settings (.takePendingRegister branch) choice w).1 = (livePending w branch).map Stamped.content := by
  simp only [perform,prunePendingRegisters,Expiring.prune,Table.lookup_retain,livePending]

theorem response_served (served : Served codec log w) (branch : String) (response : Message) :
    Ensures (server codec settings) Accepting (fun _ => Served codec (log ++ granted codec w branch response))
      (applyRegisterStartLine codec branch response) w := by
  unfold applyRegisterStartLine applyRegisterResponse granted
  cases (codec.startLine response).code with
  | none =>
      rw [List.append_nil]
      exact served
  | some code =>
      dsimp only
      by_cases early : code < 200
      · have below : ¬(200 ≤ code ∧ code < 300) := by omega
        rw [if_pos early]
        cases livePending w branch with
        | none =>
            rw [List.append_nil]
            exact served
        | some pending =>
            dsimp only
            rw [if_neg below,List.append_nil]
            exact served
      · rw [if_neg early]
        apply System.ensures_call
        intro choice _
        rw [server_perform,taken_live]
        have taken := @taken_served Packet Message codec settings w log served branch choice
        cases live : livePending w branch with
        | none =>
            rw [List.append_nil]
            exact taken
        | some pending =>
            by_cases success : code < 300
            · have within : 200 ≤ code ∧ code < 300 := ⟨by omega,success⟩
              simp only [Option.map_some,if_pos success,if_pos within]
              apply System.ensures_mono (applyRegisterBindings_writes _ _ _ _)
              intro outcome after ended
              cases outcome with
              | error error => exact ended.elim
              | ok result =>
                  apply taken.overwritten ended
                  intro entry member
                  obtain ⟨binding,listed,rfl⟩ := List.mem_map.mp member
                  exact served.pending branch pending (Option.filter_eq_some_iff.mp live).1 binding listed
            · have beyond : ¬(200 ≤ code ∧ code < 300) := fun within => success within.2
              simp only [Option.map_some,if_neg success,if_neg beyond,List.append_nil]
              exact taken

end Keeping

section Delivery
variable {codec : Codec Packet Message} {settings : Settings} {good : Message → Prop}

theorem serve_served {s next : Service Packet} (served : Served codec s.log s.world) (stepped : serve codec settings s action = some next) :
    Served codec next.log next.world := by
  cases action with
  | request message peer listener method answers =>
      cases stepped
      have kept : Ensures (server codec settings) (fun _ => True) (fun _ => Served codec s.log)
          (prepareForward codec settings message peer listener method) s.world :=
        prepareForward_keeps message peer listener method served
      exact System.exec_ensured kept answers fun _ => trivial
  | response branch message answers accepted =>
      cases stepped
      exact System.exec_ensured (response_served served branch message) answers accepted
  | elapse duration =>
      cases stepped
      exact ⟨fun time later => served.contacts time (Nat.le_trans (Nat.le_add_right _ _) later),served.pending,served.logged⟩

theorem run_served {actions : List (Traffic Packet Message)} {w : World Packet} {s : Service Packet}
    (blank : ∀ key, w.state.peek key = none) (unasked : ∀ branch, w.pendingRegisters.lookup branch = none)
    (ran : Machine.run (serve codec settings) ⟨w,[]⟩ actions = some s) : Served codec s.log s.world := by
  refine Machine.run_preserves (fun s : Service Packet => Served codec s.log s.world) (fun s action next => serve_served) ?_ ran
  exact ⟨fun _ _ key => by rw [blank]; rfl,fun branch _ found => (nomatch (unasked branch).symm.trans found),
    fun _ member => (nomatch member)⟩

-- A binding leads to the source of its REGISTER where the contact is reached over
-- UDP, and to the contact's own address elsewhere.
def Leads (codec : Codec Packet Message) (transport : SipTransport) (binding : ContactBinding) (device : SocketAddr) : Prop :=
  let contact := codec.parseContactTarget binding.contact transport
  if (contact.map UpstreamTarget.transport).getD transport = .udp then binding.source = codec.showSocketAddr device
  else contact.map UpstreamTarget.addr = some device

-- An ACK to a client's address and what belongs to a known call go their own way.
def Arrives (codec : Codec Packet Message) (transport : SipTransport) (method : Method) (direct : Option UpstreamTarget)
    (known : Option InviteTransactionRoute) (found : Option ContactBinding) (device : SocketAddr) : Prop :=
  match (if method = .ack then direct else none),known with
  | some own,_ => own.addr = device
  | none,some route => route.target.addr = device
  | none,none =>
    match found with
    | some binding => Leads codec transport binding device
    | none => direct.map UpstreamTarget.addr = some device

-- A request for a device is delivered by the first of its keys that is registered,
-- whoever registered that key last, and by its own address where none of them is.
def Reaches (codec : Codec Packet Message) (settings : Settings) (s : Service Packet) (message : Message) (requestUri : String)
    (listener : ProxyListenerConfig) (method : Method) (device : SocketAddr) : Prop :=
  let direct := directTarget codec settings requestUri listener true
  settings.isAdvertisedOrListenerAddr device listener = false ∧
    Arrives codec listener.transport method direct (knownCall codec s.world message method direct)
      ((deliveryKeys codec message requestUri).findSome? fun key => alive s.world.now (located s.log key)) device

theorem located_sourced {log : List Written} (logged : ∀ written ∈ log, Sourced codec written.binding)
    (found : located log key = some binding) : ∃ peer, binding.source = codec.showSocketAddr peer := by
  obtain ⟨written,last,stored⟩ := Option.bind_eq_some_iff.mp found
  unfold Written.stored at stored
  split at stored
  · cases stored
  · cases stored
    exact logged written (lastFor_some last).2

theorem leads_iff (readable : ∀ addr, codec.parseSocketAddr (codec.showSocketAddr addr) = some addr)
    (sourced : ∃ peer, binding.source = codec.showSocketAddr peer) (transport : SipTransport) (device : SocketAddr) :
    Leads codec transport binding device ↔
      (targetForRegistrationBinding codec binding transport).map UpstreamTarget.addr = some device := by
  obtain ⟨peer,source⟩ := sourced
  have shown : codec.showSocketAddr peer = codec.showSocketAddr device ↔ peer = device := by
    refine ⟨fun same => ?_,fun same => by rw [same]⟩
    have read := readable peer
    rw [same,readable device] at read
    exact (Option.some.inj read).symm
  unfold Leads targetForRegistrationBinding
  simp only [source,readable,shown]
  split <;> simp

-- An upstream is selected only where there is nothing else to go by, and no device
-- stands behind the address of an upstream.
theorem aimed_iff {found : Option ContactBinding} (outside : settings.upstreamsContain device = false)
    (readable : ∀ addr, codec.parseSocketAddr (codec.showSocketAddr addr) = some addr)
    (sourced : ∀ binding, found = some binding → ∃ peer, binding.source = codec.showSocketAddr peer)
    (aimed : Aim codec settings listener method direct known found chosen) :
    chosen.addr = device ↔ Arrives codec listener.transport method direct known found device := by
  have elsewhere (selected : settings.upstreamsContain chosen.addr = true) : chosen.addr ≠ device := by
    intro same
    rcases same with rfl
    cases outside.symm.trans selected
  unfold Aim at aimed
  unfold Arrives
  cases own : (if method = .ack then direct else none) with
  | some target => rw [own] at aimed; cases aimed; rfl
  | none =>
      rw [own] at aimed
      cases known with
      | some route => cases aimed; rfl
      | none =>
          cases found with
          | some binding =>
              dsimp only at aimed ⊢
              rw [leads_iff readable (sourced binding rfl)]
              cases target : targetForRegistrationBinding codec binding listener.transport with
              | some given => rw [target] at aimed; cases aimed; simp
              | none => rw [target] at aimed; simpa using elsewhere aimed
          | none =>
              cases direct with
              | some given => cases aimed; simp
              | none => simpa using elsewhere aimed

theorem device_reached_iff {w : World Packet} {actions : List (Traffic Packet Message)} {s : Service Packet} {device peer : SocketAddr}
    {message : Message} {requestUri : String} (editable : Editable codec good) (wellFormed : good message)
    (readable : ∀ addr, codec.parseSocketAddr (codec.showSocketAddr addr) = some addr)
    (blank : ∀ key, w.state.peek key = none) (unasked : ∀ branch, w.pendingRegisters.lookup branch = none)
    (ran : Machine.run (serve codec settings) ⟨w,[]⟩ actions = some s) (uri : codec.requestUri message = some requestUri)
    (upstream : settings.isUpstreamSource peer = true) (outside : settings.upstreamsContain device = false)
    (listener : ProxyListenerConfig) (method : Method) (answers : Nat → Choice Packet) (honest : ∀ index, Honest settings (answers index)) :
    ∃ prepared after, (server codec settings).exec (prepareForward codec settings message peer listener method) answers s.world =
        (.ok prepared,after) ∧
      (prepared.target.addr = device ↔ Reaches codec settings s message requestUri listener method device) := by
  have served := run_served blank unasked ran
  have live : (fun key => alive s.world.now (s.world.state.peek key)) = fun key => alive s.world.now (located s.log key) := by
    funext key
    exact served.contacts _ (Nat.le_refl _) key
  obtain ⟨prepared,after,ended,chosen,aimed,taken⟩ :=
    System.exec_returned (prepareForward_aims editable wellFormed uri upstream listener method s.world) answers honest
  rw [live] at aimed
  refine ⟨prepared,after,ended,?_⟩
  have sourced (binding : ContactBinding) (found : (deliveryKeys codec message requestUri).findSome?
      (fun key => alive s.world.now (located s.log key)) = some binding) : ∃ peer, binding.source = codec.showSocketAddr peer := by
    obtain ⟨key,_,isFound⟩ := List.exists_of_findSome?_eq_some found
    exact located_sourced served.logged (Option.filter_eq_some_iff.mp isFound).1
  unfold Reaches
  dsimp only
  rw [← aimed_iff outside readable sourced aimed]
  split at taken
  · rename_i itself
    refine ⟨?_,?_⟩
    · intro same
      rcases same with rfl
      cases outside.symm.trans taken
    · intro both
      rcases both with ⟨foreign,rfl⟩
      simp [foreign] at itself
  · rename_i foreign
    rw [taken]
    refine ⟨?_,And.right⟩
    intro same
    rcases same with rfl
    simpa [outside] using foreign

end Delivery

section Runs

-- An address is shown as the number of its bits, with a letter before it for IPv6.
def showAddr (addr : SocketAddr) : String :=
  match addr.ip with
  | .v4 bits => Nat.repr bits.toNat ++ ":" ++ Nat.repr addr.port.toNat
  | .v6 bits => "v" ++ (Nat.repr bits.toNat ++ ":" ++ Nat.repr addr.port.toNat)

def readDigits (digits : List Char) : Nat × Nat :=
  let first := digits.takeWhile (· ≠ ':')
  (Nat.ofDigitChars 10 first 0,Nat.ofDigitChars 10 (digits.drop (first.length + 1)) 0)

def readAddr (text : String) : Option SocketAddr :=
  match text.toList with
  | 'v' :: digits => some ⟨.v6 (BitVec.ofNat 128 (readDigits digits).1),BitVec.ofNat 16 (readDigits digits).2⟩
  | digits => some ⟨.v4 (BitVec.ofNat 32 (readDigits digits).1),BitVec.ofNat 16 (readDigits digits).2⟩

theorem digit_ne {char sign : Char} (member : char ∈ Nat.toDigits 10 number) (noDigit : sign.isDigit = false) : char ≠ sign := by
  intro same
  rcases same with rfl
  have digit := Nat.isDigit_of_mem_toDigits (by decide) (by decide) member
  cases noDigit.symm.trans digit

theorem readDigits_shown (number port : Nat) : readDigits (Nat.toDigits 10 number ++ ':' :: Nat.toDigits 10 port) = (number,port) := by
  have first : (Nat.toDigits 10 number ++ ':' :: Nat.toDigits 10 port).takeWhile (· ≠ ':') = Nat.toDigits 10 number := by
    rw [List.takeWhile_append_of_pos fun char member => by simpa using digit_ne member (by decide)]
    simp
  have rest : (Nat.toDigits 10 number ++ ':' :: Nat.toDigits 10 port).drop ((Nat.toDigits 10 number).length + 1) =
      Nat.toDigits 10 port := by
    rw [List.drop_append]
    simp
  simp only [readDigits,first,rest]
  simp

theorem readAddr_shown (addr : SocketAddr) : readAddr (showAddr addr) = some addr := by
  obtain ⟨ip,port⟩ := addr
  cases ip with
  | v6 bits =>
      have shown : (showAddr ⟨.v6 bits,port⟩).toList = 'v' :: (Nat.toDigits 10 bits.toNat ++ ':' :: Nat.toDigits 10 port.toNat) := by
        simp [showAddr]
      simp [readAddr,shown,readDigits_shown]
  | v4 bits =>
      have shown : (showAddr ⟨.v4 bits,port⟩).toList = Nat.toDigits 10 bits.toNat ++ ':' :: Nat.toDigits 10 port.toNat := by
        simp [showAddr]
      have plain : ∀ digits, (showAddr ⟨.v4 bits,port⟩).toList ≠ 'v' :: digits := by
        intro digits same
        rw [shown] at same
        cases start : Nat.toDigits 10 bits.toNat with
        | nil => exact Nat.toDigits_ne_nil start
        | cons char more =>
            rw [start] at same
            exact digit_ne (start ▸ List.mem_cons_self) (by decide) (List.cons.inj same).1
      unfold readAddr
      split
      · rename_i digits same
        exact absurd same (plain digits)
      · simp [shown,readDigits_shown]

-- Two devices of one user, each with its own contact.
def deviceB : SocketAddr := host 3

def deviceCodec : Codec Envelope Envelope :=
  {envelopeCodec with
    requestUri:=fun message => match message.startLine with
      | .request _ uri _ => some uri
      | .response .. => none,
    parseContactTarget:=fun uri _ => (if uri = "sip:200@10.0.0.1:5060" then some ⟨clientAddr,.udp⟩
      else if uri = "sip:200@10.0.0.3:5060" then some ⟨deviceB,.udp⟩ else none),
    parseSocketAddr:=readAddr,
    showSocketAddr:=showAddr}

def settled : Nat → Choice Envelope := fun _ => ⟨.allow,none,upstreamAddr,true,"10.0.0.9:5060",.ok []⟩

def registersAs (host : String) (device : SocketAddr) (id : Nat) : List (Traffic Envelope Envelope) :=
  [.request {request .register with contacts:=[⟨"200",host⟩]} device udpListener .register settled,
    .response (proxyBranch id) (answer .register 200 "OK") settled (fun _ => rfl)]

def inviteA : Envelope := {request .invite with startLine:=.request "INVITE" "sip:200@10.0.0.1:5060" "SIP/2.0"}

def served (actions : List (Traffic Envelope Envelope)) : Option (Service Envelope) :=
  Machine.run (serve deviceCodec plainSettings) ⟨World.new Envelope plainSettings.affinity,[]⟩ actions

theorem deviceCodec_editable : Editable deviceCodec fun _ => True where
  route := fun _ _ => ⟨_,rfl⟩
  popRoute := fun _ _ => ⟨_,rfl,trivial⟩
  key := fun message _ => by
    cases first : message.vias.head? with
    | none => exact ⟨none,by simp [inviteTransactionKey,deviceCodec,envelopeCodec,first]; rfl⟩
    | some via =>
        cases answered : message.startLine.code.isSome with
        | true => exact ⟨none,by simp [inviteTransactionKey,deviceCodec,envelopeCodec,first,answered]; rfl⟩
        | false => exact ⟨_,by simp [inviteTransactionKey,deviceCodec,envelopeCodec,first,answered]; rfl⟩
  affinity := fun strategy message _ => by
    cases answered : message.startLine.code.isSome with
    | true => exact ⟨[],by simp [affinityKeys,deviceCodec,envelopeCodec,answered]; rfl⟩
    | false => cases strategy <;> exact ⟨_,by simp [affinityKeys,deviceCodec,envelopeCodec,answered]; rfl⟩
  via := fun _ _ _ _ _ => ⟨_,rfl,trivial⟩
  recordRoute := fun _ _ _ => ⟨_,rfl,trivial⟩
  path := fun _ _ _ => ⟨_,rfl⟩
  contacts := fun _ _ _ _ => ⟨_,rfl⟩

theorem registered_device_reached : ∃ s prepared after, served (registersAs "10.0.0.1:5060" clientAddr 1) = some s ∧
    (server deviceCodec plainSettings).exec (prepareForward deviceCodec plainSettings inviteA upstreamAddr udpListener .invite)
      settled s.world = (.ok prepared,after) ∧ prepared.target.addr = clientAddr := by
  have ran : ∃ s, served (registersAs "10.0.0.1:5060" clientAddr 1) = some s ∧
      plainSettings.isAdvertisedOrListenerAddr clientAddr udpListener = false ∧
      ((deliveryKeys deviceCodec inviteA "sip:200@10.0.0.1:5060").findSome? fun key => alive s.world.now (located s.log key)) =
        some ⟨"sip:200@example.com","sip:200@10.0.0.1:5060",showAddr clientAddr,3600000⟩ := ⟨_,rfl,rfl,rfl⟩
  obtain ⟨s,reached,foreign,found⟩ := ran
  obtain ⟨prepared,after,ended,delivered⟩ := @device_reached_iff Envelope Envelope deviceCodec plainSettings _ _ _ s clientAddr
    upstreamAddr inviteA _ deviceCodec_editable trivial readAddr_shown (fun _ => rfl) (fun _ => rfl) reached rfl rfl rfl udpListener
    .invite settled fun _ => rfl
  refine ⟨s,prepared,after,reached,ended,delivered.mpr ⟨foreign,?_⟩⟩
  rw [found]
  exact rfl

-- The second device takes the address-of-record, and with it the calls to the
-- contact of the first.
def bothRegister : List (Traffic Envelope Envelope) :=
  registersAs "10.0.0.1:5060" clientAddr 1 ++ registersAs "10.0.0.3:5060" deviceB 2

def registration (contact : String) (device : SocketAddr) : Written :=
  ⟨⟨"sip:200@example.com",contact,showAddr device⟩,3600000,0⟩

theorem later_device_takes_call : ∃ s prepared after, served bothRegister = some s ∧ plainSettings.registerRouting = .path ∧
    registration "sip:200@10.0.0.1:5060" clientAddr ∈ s.log ∧ registration "sip:200@10.0.0.3:5060" deviceB ∈ s.log ∧ s.world.now = 0 ∧
    deviceCodec.requestUri inviteA = some "sip:200@10.0.0.1:5060" ∧ plainSettings.isUpstreamSource upstreamAddr = true ∧
    (server deviceCodec plainSettings).exec (prepareForward deviceCodec plainSettings inviteA upstreamAddr udpListener .invite)
      settled s.world = (.ok prepared,after) ∧ prepared.target.addr = deviceB ∧ deviceB ≠ clientAddr :=
  ⟨_,_,_,rfl,rfl,by decide +kernel,by decide +kernel,rfl,rfl,rfl,rfl,by decide +kernel,by decide⟩

end Runs

end Sigproxy.Proxy
