import Sigproxy.Proxy.Paths

namespace Sigproxy.Proxy
open Library Net
open Program

variable {Packet Message : Type} {codec : Codec Packet Message} {holds : PendingRegisterBinding → Prop}

-- What a REGISTER leaves pending is one binding for each key of each contact route
-- and one for its address-of-record, all of them at the address it came from.
theorem push_all (earlier : ∀ binding ∈ bindings, holds binding) (added : holds new) :
    ∀ binding ∈ pushPendingRegisterBinding bindings new, holds binding := by
  intro binding member
  unfold pushPendingRegisterBinding at member
  split at member
  · exact earlier binding member
  · rcases List.mem_append.mp member with old | last
    · exact earlier binding old
    · cases List.mem_singleton.mp last
      exact added

theorem foldl_all {Item : Type} {add : List PendingRegisterBinding → Item → List PendingRegisterBinding} {items : List Item}
    (step : ∀ bindings, ∀ item ∈ items, (∀ binding ∈ bindings, holds binding) → ∀ binding ∈ add bindings item, holds binding)
    (earlier : ∀ binding ∈ bindings, holds binding) : ∀ binding ∈ items.foldl add bindings, holds binding := by
  induction items generalizing bindings with
  | nil => exact earlier
  | cons item rest ih =>
      exact ih (fun bindings other member => step bindings other (List.mem_cons_of_mem _ member)) (step bindings item (by simp) earlier)

theorem collect_all (peer : SocketAddr) {routes : List (String × String)}
    (routed : ∀ pair ∈ routes, ∀ aor ∈ registrationRouteKeys codec pair.2, holds ⟨aor,pair.1,codec.showSocketAddr peer⟩) :
    ∀ binding ∈ routes.foldl (fun bindings pair => collectContactRouteBindings codec bindings pair.2 pair.1 peer) [], holds binding := by
  refine foldl_all (fun bindings pair member earlier => ?_) (fun _ member => nomatch member)
  exact foldl_all (fun bindings aor keyed earlier => push_all earlier (routed pair member aor keyed)) earlier

theorem pending_bindings (made : pendingRegister bindings expires target = some pending) : pending.bindings = bindings := by
  unfold pendingRegister at made
  split at made
  · cases made
  · cases made
    rfl

-- The address-of-record is written with a contact of the request, where it has one.
theorem own_all {aor : Except String String} {contact : Option String} (peer : SocketAddr)
    (collected : ∀ binding ∈ bindings, holds binding)
    (own : ∀ name contact, aor = .ok name → holds ⟨name,contact,codec.showSocketAddr peer⟩) :
    ∀ binding ∈ (match aor,contact with
      | .ok aor,some contact => pushPendingRegisterBinding bindings ⟨aor,contact,codec.showSocketAddr peer⟩
      | _,_ => bindings), holds binding := by
  split
  · exact push_all collected (own _ _ rfl)
  · exact collected

theorem routesPending_all {message : Message} {peer : SocketAddr}
    (tracked : registerContactRoutesPending codec message viaHost peer target = .ok (some pending))
    (routed : ∀ rewritten, codec.rewriteContactHostWithUser viaHost (fun _ user => user) message = .ok rewritten →
      ∀ pair ∈ rewritten.1, ∀ aor ∈ registrationRouteKeys codec pair.2, holds ⟨aor,pair.1,codec.showSocketAddr peer⟩)
    (own : ∀ aor contact, codec.extractAor message = .ok aor → holds ⟨aor,contact,codec.showSocketAddr peer⟩) :
    ∀ binding ∈ pending.bindings, holds binding := by
  unfold registerContactRoutesPending at tracked
  cases given : codec.rewriteContactHostWithUser viaHost (fun _ user => user) message with
  | error error => rw [given] at tracked; cases tracked
  | ok rewritten =>
      rw [given] at tracked
      have made := Except.ok.inj tracked
      rw [pending_bindings made]
      exact own_all peer (collect_all peer (routed rewritten given)) own

theorem rewritePending_all {message edited : Message} {peer : SocketAddr}
    (tracked : rewriteRegisterContactAndPending codec message viaHost peer target = .ok (some pending,edited))
    (routed : ∀ rewritten, codec.rewriteContactHostWithUser viaHost (rewrittenRegisterContactUser codec (codec.extractAor message).toOption)
        message = .ok rewritten →
      ∀ pair ∈ rewritten.1, ∀ aor ∈ registrationRouteKeys codec pair.2, holds ⟨aor,pair.1,codec.showSocketAddr peer⟩)
    (own : ∀ aor contact, codec.extractAor message = .ok aor → holds ⟨aor,contact,codec.showSocketAddr peer⟩) :
    ∀ binding ∈ pending.bindings, holds binding := by
  unfold rewriteRegisterContactAndPending at tracked
  dsimp only at tracked
  cases given : codec.rewriteContactHostWithUser viaHost (rewrittenRegisterContactUser codec (codec.extractAor message).toOption) message with
  | error error => rw [given] at tracked; cases tracked
  | ok rewritten =>
      rw [given] at tracked
      have made := (Prod.mk.inj (Except.ok.inj tracked)).1
      rw [pending_bindings made]
      have collected := collect_all peer (routed rewritten given)
      cases named : codec.extractAor message with
      | error error => simpa [named,Except.toOption] using collected
      | ok aor =>
          cases (codec.extractContact message).toOption.join with
          | none => exact collected
          | some contact => exact push_all collected (own aor contact named)

section Calls
variable {settings : Settings} {allowed : Op Packet → Prop} {peer : SocketAddr}

def From (codec : Codec Packet Message) (peer : SocketAddr) (pending : PendingRegister) : Prop :=
  ∀ binding ∈ pending.bindings, binding.source = codec.showSocketAddr peer

theorem trackRegister_uses (pends : ∀ branch pending, From codec peer pending → allowed (.rememberPendingRegister branch pending))
    (message : Message) (viaHost : String) (target : UpstreamTarget) (branch : String) (method : Method) :
    (trackRegister codec settings message viaHost peer target branch method).Uses allowed := by
  have remembered (pending : Option PendingRegister) (sourced : ∀ made, pending = some made → From codec peer made) :
      (rememberPendingRegister branch pending : Task Packet Unit).Uses allowed := by
    cases pending with
    | none => trivial
    | some pending => exact uses_perform (pends branch pending (sourced pending rfl))
  unfold trackRegister
  split
  · split
    · cases tracked : rewriteRegisterContactAndPending codec message viaHost peer target with
      | error error => trivial
      | ok made =>
          change Uses _ (rememberPendingRegister branch made.1 >>= fun _ => pure made.2)
          refine uses_bind (remembered made.1 fun pending isSome => ?_) fun _ => trivial
          have split : made = (some pending,made.2) := by rw [← isSome]
          rw [split] at tracked
          exact rewritePending_all tracked (fun _ _ _ _ _ _ => rfl) fun _ _ _ => rfl
    · cases tracked : registerContactRoutesPending codec message viaHost peer target with
      | error error => trivial
      | ok pending =>
          change Uses _ (lift (codec.prependPath viaHost message) >>= fun edited =>
            rememberPendingRegister branch pending >>= fun _ => pure edited)
          refine uses_bind (uses_lift _) fun _ => uses_bind (remembered pending fun made isSome => ?_) fun _ => trivial
          rw [isSome] at tracked
          exact routesPending_all tracked (fun _ _ _ _ _ _ => rfl) fun _ _ _ => rfl
  · trivial

-- The calls of a forwarding: besides its lookups it mints a branch, asks for the
-- INVITE transaction and leaves a REGISTER pending.
theorem prepareForward_uses (looks : ∀ op, Looks op → allowed op) (mints : allowed .uniqueId)
    (asks : ∀ key, allowed (.lookupInviteTransaction key))
    (pends : ∀ branch pending, From codec peer pending → allowed (.rememberPendingRegister branch pending))
    (message : Message) (listener : ProxyListenerConfig) (method : Method) :
    (prepareForward codec settings message peer listener method).Uses allowed := by
  have quiet {Result : Type} {task : Task Packet Result} (views : task.Uses Views) : task.Uses allowed := (views_looks views).mono looks
  unfold prepareForward
  split
  · trivial
  · rename_i requestUri _
    dsimp only
    refine uses_bind ?_ fun routed => uses_bind (uses_lift _) fun key => uses_bind ?_ fun known => ?_
    · split
      · exact quiet (topRouteTargetsThisProxy_views message listener peer)
      · trivial
    · split
      · cases key with
        | none => trivial
        | some key => exact uses_perform (asks key)
      · trivial
    refine uses_bind ((forwardTarget_looks ..).mono looks) fun chosen => uses_bind ?_ fun target => ?_
    · split
      · exact quiet (selectUpstream_views requestUri listener)
      · trivial
    refine uses_bind (quiet (popOwnRouteHeaders_views ..)) fun popped => uses_bind ?_ fun branch => ?_
    · cases known with
      | none => exact uses_call mints fun _ => trivial
      | some route => trivial
    refine uses_call (looks _ trivial) fun viaHost => uses_bind (uses_lift _) fun signed => ?_
    apply uses_bind (quiet (recordRoutes_views ..))
    intro recorded
    exact uses_bind (trackRegister_uses pends ..) fun _ => trivial

end Calls

end Sigproxy.Proxy
