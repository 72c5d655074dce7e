import Sigproxy.Proxy.GrantedLifetime

namespace Sigproxy.Proxy
open Library Net Cluster

variable {Packet Message : Type}

section Collision
variable (codec : Codec Packet Message) (view : ContactView Message) (mode : RegisterRoutingMode)

-- The URI under which the proxy keeps the route to a contact: in Path mode the
-- contact's own user at the advertised address.
def ContactView.routeUri (message : Message) (hostWithPort : String) (uri : Uri) : Uri :=
  let aor := (codec.extractAor message).toOption
  let auth := match mode with
    | .path => uri.auth
    | .contactRewrite =>
      some ⟨rewrittenRegisterContactUser codec aor (view.showUri uri) (uri.user.getD ""),uri.auth.bind UriAuth.password⟩
  {uri with hostWithPort:=hostWithPort,params:=uri.params.filter (· != .ob),auth:=auth}

-- A contact of the request has the address-of-record for its route, trimmed or
-- without its parameters and headers.
def ContactView.Collides (message : Message) (viaHost aor : String) : Prop :=
  ∃ hostWithPort, view.parseHostWithPort viaHost = .ok hostWithPort ∧ ∃ contact ∈ view.requestContacts codec message,
    view.isStar contact = false ∧ aor ≠ "" ∧
      let route := view.showUri (view.routeUri codec mode message hostWithPort contact.uri)
      aor = trim route ∨ view.normalizedSipUriWithoutParams route = some aor

end Collision

section Keys
variable {codec : Codec Packet Message} {view : ContactView Message} {mode : RegisterRoutingMode} {message : Message}

theorem mem_pushUniqueKey {keys : List String} : key ∈ pushUniqueKey keys new ↔ key ∈ keys ∨ key = new ∧ key ≠ "" := by
  unfold pushUniqueKey
  split
  · rename_i added
    simp only [Bool.and_eq_true,Bool.not_eq_true',String.isEmpty_eq_false_iff] at added
    rw [List.mem_append,List.mem_singleton]
    refine or_congr_right ⟨fun same => ⟨same,same ▸ added.1⟩,fun both => both.1⟩
  · rename_i skipped
    refine ⟨.inl,fun either => either.elim id fun both => ?_⟩
    obtain ⟨same,named⟩ := both
    subst same
    simpa [named] using skipped

theorem mem_registrationRouteKeys : key ∈ registrationRouteKeys codec route ↔
    key ≠ "" ∧ (key = trim route ∨ codec.normalizedSipUriWithoutParams route = some key) := by
  unfold registrationRouteKeys
  cases normalized : codec.normalizedSipUriWithoutParams route with
  | none => simp [mem_pushUniqueKey,and_comm]
  | some normal =>
      simp only [mem_pushUniqueKey,List.not_mem_nil,false_or,Option.some.injEq]
      rw [← or_and_right,and_comm,@eq_comm _ normal key]

theorem push_keys {bindings : List PendingRegisterBinding} : key ∈ (pushPendingRegisterBinding bindings new).map PendingRegisterBinding.aor ↔
    key ∈ bindings.map PendingRegisterBinding.aor ∨ key = new.aor := by
  unfold pushPendingRegisterBinding
  split
  · rename_i present
    obtain ⟨existing,member,same⟩ := List.any_eq_true.mp present
    refine ⟨.inl,fun either => either.elim id fun equal => ?_⟩
    rw [equal,← beq_iff_eq.mp same]
    exact List.mem_map_of_mem member
  · rw [List.map_append,List.mem_append,List.map_singleton,List.mem_singleton]

theorem collect_keys {bindings : List PendingRegisterBinding} {peer : SocketAddr} :
    key ∈ (collectContactRouteBindings codec bindings route contact peer).map PendingRegisterBinding.aor ↔
      key ∈ bindings.map PendingRegisterBinding.aor ∨ key ∈ registrationRouteKeys codec route := by
  unfold collectContactRouteBindings
  induction registrationRouteKeys codec route generalizing bindings with
  | nil => simp
  | cons first rest ih =>
      rw [List.foldl_cons,ih,push_keys,List.mem_cons]
      tauto

theorem routes_keys {bindings : List PendingRegisterBinding} {peer : SocketAddr} (routes : List (String × String)) :
    key ∈ (routes.foldl (fun bindings pair => collectContactRouteBindings codec bindings pair.2 pair.1 peer) bindings).map
        PendingRegisterBinding.aor ↔
      key ∈ bindings.map PendingRegisterBinding.aor ∨ ∃ pair ∈ routes, key ∈ registrationRouteKeys codec pair.2 := by
  induction routes generalizing bindings with
  | nil => simp
  | cons pair rest ih =>
      rw [List.foldl_cons,ih,collect_keys]
      simp only [List.mem_cons,exists_eq_or_imp]
      tauto

theorem routeUri_path (hostWithPort : String) (uri : Uri) :
    view.rewriteUri hostWithPort (fun _ user => user) uri = view.routeUri codec .path message hostWithPort uri := by
  unfold ContactView.rewriteUri ContactView.routeUri Uri.user
  cases uri.auth with
  | none => rfl
  | some auth => simp

theorem marked_some (aor : Option String) (contact user : String) : (rewrittenRegisterContactUser codec aor contact user).isEmpty = false := by
  rw [String.isEmpty_eq_false_iff]
  intro empty
  have length := congrArg (fun text => text.toList.length) empty
  simp [rewrittenRegisterContactUser] at length

theorem routeUri_rewrite (hostWithPort : String) (uri : Uri) :
    view.rewriteUri hostWithPort (rewrittenRegisterContactUser codec (codec.extractAor message).toOption) uri =
      view.routeUri codec .contactRewrite message hostWithPort uri := by
  unfold ContactView.rewriteUri ContactView.routeUri
  simp only [marked_some,Bool.false_eq_true,if_false]
  cases uri.auth <;> rfl

theorem routeUri_sent (hostWithPort : String) (uri : Uri) :
    view.rewriteUri hostWithPort (sentUser (view.reading codec) message mode) uri = view.routeUri codec mode message hostWithPort uri := by
  cases mode with
  | path => exact routeUri_path hostWithPort uri
  | contactRewrite => exact routeUri_rewrite hostWithPort uri

-- The keys of the routes are those that the contacts collide with.
theorem rewritten_keys {rewrite : String → String → String} (aor : String)
    (routed : ∀ hostWithPort uri, view.rewriteUri hostWithPort rewrite uri = view.routeUri codec mode message hostWithPort uri)
    (given : view.rewriteContactHostWithUser codec viaHost rewrite message = .ok (pairs,edited)) :
    (∃ pair ∈ pairs, aor ∈ registrationRouteKeys (view.reading codec) pair.2) ↔ view.Collides codec mode message viaHost aor := by
  obtain ⟨hostWithPort,parsedHost,rest⟩ := bind_ok.mp given
  obtain ⟨lists,parsed,made⟩ := bind_ok.mp rest
  have all : view.requestContacts codec message = lists.flatten := by
    simp [ContactView.requestContacts,parsed,Except.toOption]
  have pairs := (Prod.mk.inj (Except.ok.inj made)).1
  subst pairs
  unfold ContactView.Collides
  simp only [List.mem_map,List.mem_filter,exists_exists_and_eq_and,mem_registrationRouteKeys,routed,all,Bool.not_eq_true']
  constructor
  · intro given
    rcases given with ⟨contact,⟨member,plain⟩,named,keyed⟩
    exact ⟨hostWithPort,parsedHost,contact,member,plain,named,keyed⟩
  · intro given
    rcases given with ⟨other,parsedOther,contact,member,plain,named,keyed⟩
    cases parsedHost.symm.trans parsedOther
    exact ⟨contact,⟨member,plain⟩,named,keyed⟩

theorem pendingRegister_bindings (bindings : List PendingRegisterBinding) (expires : Nat) (target : UpstreamTarget) :
    ((pendingRegister bindings expires target).map PendingRegister.bindings).getD [] = bindings := by
  unfold pendingRegister
  cases bindings <;> rfl

theorem pendingFor_keys {peer : SocketAddr}
    (tracked : pendingFor (view.reading codec) mode message viaHost peer target = .ok pending)
    (own : codec.extractAor message = .ok name) (other : aor ≠ name) :
    aor ∈ ((pending.map PendingRegister.bindings).getD []).map PendingRegisterBinding.aor ↔
      view.Collides codec mode message viaHost aor := by
  obtain ⟨routes,edited,given,rfl⟩ := pendingFor_made tracked
  rw [pendingRegister_bindings,← rewritten_keys aor routeUri_sent given]
  unfold withOwn
  split
  · rw [routes_keys]
    simp
  · split
    · rename_i named
      cases own.symm.trans named
      rw [push_keys,or_iff_left other,routes_keys]
      simp
    · rw [routes_keys]
      simp

end Keys

section Frame
variable {codec : Codec Packet Message} {settings : Settings} {view : ContactView Message} {mode : RegisterRoutingMode}
  {message : Message}

theorem overlaid_other {bindings : List PendingRegisterBinding} (absent : aor ∉ bindings.map PendingRegisterBinding.aor)
    (lifetime time : Nat) (old : Option ContactBinding) :
    overlaid (bindings.map fun binding => ⟨binding,lifetime,time⟩) aor old = old := by
  unfold overlaid
  cases last : lastFor (fun written : Written => written.binding.aor == aor) (bindings.map fun binding => ⟨binding,lifetime,time⟩) with
  | none => rfl
  | some written =>
      obtain ⟨same,listed⟩ := lastFor_some last
      obtain ⟨other,among,rfl⟩ := List.mem_map.mp listed
      exact (absent (List.mem_map.mpr ⟨other,among,beq_iff_eq.mp same⟩)).elim

-- Whatever is registered for the address, and whatever success answers the request,
-- its lookup stays as it is.
def Untouched (codec : Codec Packet Message) (settings : Settings) (pending : Option PendingRegister) (aor : String) : Prop :=
  ∀ (w : World Packet) (branch : String) (code : Nat) (response : Message) (answers : Nat → Choice Packet),
    (livePending w branch).map Stamped.content = pending → 200 ≤ code ∧ code < 300 → (∀ index, Accepting (answers index)) →
    ∀ held, w.state.live w.now aor = some held →
      let after := ((server codec settings).exec (applyRegisterResponse codec branch response code) answers w).2
      after.state.live after.now aor = some held

-- Another device is registered for one unit longer than the request would be.
theorem written_taken {peer : SocketAddr} {codec : Codec Packet Message} {binding : PendingRegisterBinding}
    (apart : KeyedApart registered.bindings) (member : binding ∈ registered.bindings) (message : Message) :
    ¬ Untouched codec settings (some registered) binding.aor := by
  intro untouched
  let lifetime := (codec.extractResponseContactExpires message).getD registered.requestExpires
  let held : ContactBinding := ⟨binding.aor,"","",lifetime + 1⟩
  let w : World Packet := {World.new Packet ⟨true,0⟩ with
    state:=⟨(∅ : Table String ContactBinding).insert binding.aor held⟩
    pendingRegisters:=(∅ : Table String (Stamped PendingRegister)).insert "" ⟨registered,0⟩}
  have waiting : livePending w "" = some ⟨registered,0⟩ := by
    rw [livePending,AList.lookup_insert]
    rfl
  have stands : w.state.live w.now binding.aor = some held := by
    rw [SharedState.live_eq,AList.lookup_insert]
    exact Option.filter_some_pos (by simp [ContactBinding.isExpired,held,w,World.new])
  let answers : Nat → Choice Packet := accepting peer
  have accepted : ∀ index, Accepting (answers index) := fun _ => rfl
  have kept := untouched w "" 200 message answers (by rw [waiting]; rfl) (by omega) accepted held stands
  obtain ⟨clock,state⟩ := response_ends (response_overlays waiting ⟨Nat.le_refl 200,by omega⟩ message) accepted
  dsimp only at kept
  rw [live_peek,clock,state,overlaid_own apart member] at kept
  have stored := (Option.filter_eq_some_iff.mp kept).1
  unfold Written.stored at stored
  split at stored
  · cases stored
  · have expires := congrArg ContactBinding.expiresAtEpochMs (Option.some.inj stored)
    have later : w.now + lifetime = lifetime + 1 := expires
    have begun : w.now = 0 := rfl
    omega

theorem unwritten_untouched {codec : Codec Packet Message} {pending : Option PendingRegister}
    (absent : aor ∉ ((pending.map PendingRegister.bindings).getD []).map PendingRegisterBinding.aor) :
    Untouched codec settings pending aor := by
  intro w branch code response answers waiting success accepted held found
  cases pending with
  | none =>
      have missing : livePending w branch = none := Option.map_eq_none_iff.mp waiting
      obtain ⟨clock,state⟩ := response_ends (response_alone missing success response) accepted
      dsimp only
      rw [live_peek,clock,state,← live_peek]
      exact found
  | some registered =>
      obtain ⟨stamped,live,rfl⟩ := Option.map_eq_some_iff.mp waiting
      obtain ⟨clock,state⟩ := response_ends (response_overlays live success response) accepted
      dsimp only
      have unkeyed : aor ∉ stamped.content.bindings.map PendingRegisterBinding.aor := absent
      rw [live_peek,clock,state,overlaid_other unkeyed,← live_peek]
      exact found

theorem others_untouched_iff {peer : SocketAddr}
    (tracked : pendingFor (view.reading codec) mode message viaHost peer target = .ok pending)
    (own : codec.extractAor message = .ok name) (other : aor ≠ name) :
    Untouched (view.reading codec) settings pending aor ↔ ¬ view.Collides codec mode message viaHost aor := by
  rw [← pendingFor_keys tracked own other]
  refine ⟨fun untouched written => ?_,unwritten_untouched⟩
  cases pending with
  | none => cases written
  | some registered =>
      obtain ⟨binding,member,rfl⟩ := List.mem_map.mp written
      exact @written_taken _ _ _ _ peer _ _ (pendingFor_apart tracked) member message untouched

end Frame

section Runs

-- The phone of somebody else, registered under the address of the proxy.
def victim : ContactBinding := ⟨"sip:200@10.0.0.9:5060","sip:200@10.0.0.7:5060","10.0.0.7:5060",100000⟩

def intruder : Envelope := {enrolling ⟨"200","10.0.0.1:5060;expires=120"⟩ with toUri:="sip:666@10.0.0.9:5060"}

def pendingIntruder : PendingRegister :=
  let source := envelopeCodec.showSocketAddr clientAddr
  ⟨[⟨victim.aor,"sip:200@10.0.0.1:5060",source⟩,⟨"sip:666@10.0.0.9:5060","sip:200@10.0.0.1:5060",source⟩],120000,overUdp⟩

theorem other_user_untouched : Untouched readingCodec plainSettings (some pendingIntruder) "sip:300@10.0.0.9:5060" := by
  have made : (pendingFor readingCodec .path intruder proxyHost clientAddr overUdp).toOption = some (some pendingIntruder) := by
    decide +kernel
  have named : contactCodec.extractAor intruder = .ok "sip:666@10.0.0.9:5060" := rfl
  apply (others_untouched_iff (toOption_ok.mp made) named (by decide)).mpr
  intro given
  rcases given with ⟨hostWithPort,parsed,contact,listed,_,_,collides⟩
  cases parsed
  have sole : contactView.requestContacts contactCodec intruder = [deskPhone 120] := by decide +kernel
  rw [sole,List.mem_singleton] at listed
  subst listed
  have apart : ¬ ("sip:300@10.0.0.9:5060" = trim "sip:200@10.0.0.9:5060" ∨
      contactView.normalizedSipUriWithoutParams "sip:200@10.0.0.9:5060" = some "sip:300@10.0.0.9:5060") := by
    decide +kernel
  exact apart collides

-- The contact of one user becomes the binding of another.
theorem contact_takes_address :
    (pendingFor readingCodec .path intruder proxyHost clientAddr overUdp).toOption = some (some pendingIntruder) ∧
    let w : World Envelope := {waiting pendingIntruder with state:=⟨Table.collect [(victim.aor,victim)]⟩}
    let after := ((server readingCodec plainSettings).exec
      (applyRegisterResponse readingCodec "b" (confirming ⟨"200","10.0.0.1:5060;expires=120"⟩) 200) (accepting clientAddr) w).2
    w.state.live w.now victim.aor = some victim ∧
      (after.state.live after.now victim.aor).map ContactBinding.contact = some "sip:200@10.0.0.1:5060" := by
  decide +kernel

end Runs

end Sigproxy.Proxy
