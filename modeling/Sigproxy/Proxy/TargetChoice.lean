import Sigproxy.Proxy.ResponsePath

namespace Sigproxy.Proxy
open Library Net Cluster Affinity
open Program

variable {Packet Message : Type} {codec : Codec Packet Message} {settings : Settings}

-- A request as it is handed to the forwarding code.
structure Request (Message : Type) where
  message : Message
  peer : SocketAddr
  listener : ProxyListenerConfig
  method : Method

section Targets

-- The replies to the affinity keys of a request, asked in turn up to the first hit.
inductive Sought (past : List (Act Packet)) : List AffinityKey → Option AffinityTarget → Prop where
  | nil : Sought past [] none
  | miss : ⟨.lookupAffinityKey key,none⟩ ∈ past → Sought past rest found → Sought past (key :: rest) found
  | hit : ⟨.lookupAffinityKey key,some target⟩ ∈ past → Sought past (key :: rest) (some target)

-- Why the upstream group was asked and not the affinity table.
inductive Astray (codec : Codec Packet Message) (settings : Settings) (request : Request Message) (past : List (Act Packet)) : Prop where
  | disabled : settings.affinity.enabled = false → Astray codec settings request past
  | missed : affinityKeys codec settings.affinityKey request.message = .ok keys → Sought past keys none →
      Astray codec settings request past
  | unhealthy : affinityKeys codec settings.affinityKey request.message = .ok keys → Sought past keys (some target) →
      settings.upstreamsContain target.addr = false ∨ ⟨.isHealthy target.addr,false⟩ ∈ past → Astray codec settings request past
  | unlocated : settings.isUpstreamSource request.peer = true → Astray codec settings request past

-- How a request without an INVITE transaction came by its target, before the check
-- for the proxy's own address.
inductive Chosen (codec : Codec Packet Message) (settings : Settings) (request : Request Message) (requestUri : String)
    (past : List (Act Packet)) : UpstreamTarget → Prop where
  | direct : directTarget codec settings requestUri request.listener (settings.isUpstreamSource request.peer) = some target →
      Chosen codec settings request requestUri past target
  | located : settings.isUpstreamSource request.peer = true → ⟨.peekContact aor,some binding⟩ ∈ past →
      targetForRegistrationBinding codec binding request.listener.transport = some target →
      Chosen codec settings request requestUri past target
  | registered {target : AffinityTarget} : codec.method request.message = some "INVITE" →
      codec.isInitialInviteRequest request.message = true →
      ⟨.lookupAffinityKey (registrationUpstreamAffinityKey route),some target⟩ ∈ past →
      settings.upstreamsContain target.addr = true →
      Chosen codec settings request requestUri past ⟨target.addr,target.transport⟩
  | affine {target : AffinityTarget} : affinityKeys codec settings.affinityKey request.message = .ok keys →
      Sought past keys (some target) → settings.upstreamsContain target.addr = true →
      Chosen codec settings request requestUri past ⟨target.addr,target.transport⟩
  | selected : ⟨.selectUpstream requestUri request.listener,addr⟩ ∈ past → Astray codec settings request past →
      Chosen codec settings request requestUri past ⟨addr,request.listener.transport⟩

def Picked (codec : Codec Packet Message) (settings : Settings) (request : Request Message) (requestUri : String)
    (found : Option InviteTransactionRoute) (past : List (Act Packet)) (target : UpstreamTarget) : Prop :=
  match found with
  | some route => target = route.target
  | none => Chosen codec settings request requestUri past target

variable {past after : List (Act Packet)}

theorem Sought.later (sought : Sought past keys found) (grown : ∀ act ∈ past, act ∈ after) : Sought after keys found := by
  induction sought with
  | nil => exact .nil
  | miss missed _ ih => exact .miss (grown _ missed) ih
  | hit held => exact .hit (grown _ held)

theorem Astray.later {request : Request Message} (astray : Astray codec settings request past)
    (grown : ∀ act ∈ past, act ∈ after) : Astray codec settings request after := by
  cases astray with
  | disabled off => exact .disabled off
  | missed keyed sought => exact .missed keyed (sought.later grown)
  | unhealthy keyed sought sick => exact .unhealthy keyed (sought.later grown) (sick.imp_right (grown _))
  | unlocated fromUpstream => exact .unlocated fromUpstream

theorem Chosen.later {request : Request Message} (chosen : Chosen codec settings request requestUri past target)
    (grown : ∀ act ∈ past, act ∈ after) : Chosen codec settings request requestUri after target := by
  cases chosen with
  | direct named => exact .direct named
  | located fromUpstream held parsed => exact .located fromUpstream (grown _ held) parsed
  | registered isInvite initial held upstream => exact .registered isInvite initial (grown _ held) upstream
  | affine keyed sought upstream => exact .affine keyed (sought.later grown) upstream
  | selected reply astray => exact .selected (grown _ reply) (astray.later grown)

theorem Picked.later {request : Request Message} {found : Option InviteTransactionRoute}
    (picked : Picked codec settings request requestUri found past target) (grown : ∀ act ∈ past, act ∈ after) :
    Picked codec settings request requestUri found after target := by
  cases found with
  | some route => exact picked
  | none => exact Chosen.later picked grown

-- What a task yields on each of its paths, with the path it took.
abbrev Yields {Result : Type} (task : Task Packet Result) (past : List (Act Packet))
    (yields : List (Act Packet) → Result → Prop) : Prop :=
  task.Along (fun _ _ => True) (fun after outcome => (∀ act ∈ past, act ∈ after) ∧
    ∀ result, outcome = .ok result → yields after result) past

theorem yields_pure {Result : Type} {result : Result} {yields : List (Act Packet) → Result → Prop} (holds : yields past result) :
    Yields (pure result) past yields := by
  refine ⟨fun _ member => member,?_⟩
  intro other same
  cases same
  exact holds

theorem yields_fail {Result : Type} (error : String) (yields : List (Act Packet) → Result → Prop) :
    Yields (.fail error) past yields := ⟨fun _ member => member,fun _ same => nomatch same⟩

theorem yields_call {Result : Type} {op : Op Packet} {next : op.Reply → Task Packet Result}
    {yields : List (Act Packet) → Result → Prop}
    (rest : ∀ reply, Yields (next reply) (past ++ [⟨op,reply⟩]) yields) : Yields (ask op >>= next) past yields := by
  refine along_call fun reply => ⟨trivial,along_mono (rest reply) (fun _ _ held => held) fun after outcome ended => ?_⟩
  exact ⟨fun act member => ended.1 act (List.mem_append_left _ member),ended.2⟩

theorem yields_bind {First Second : Type} {task : Task Packet First} {next : First → Task Packet Second}
    {yields : List (Act Packet) → Second → Prop} (middle : List (Act Packet) → First → Prop) (first : Yields task past middle)
    (rest : ∀ between result, (∀ act ∈ past, act ∈ between) → middle between result → Yields (next result) between yields) :
    Yields (task >>= next) past yields := by
  refine along_bind _ first (fun between result kept => ?_) (fun _ _ kept => ⟨kept.1,fun _ same => nomatch same⟩)
  apply along_mono (rest between result kept.1 (kept.2 result rfl)) (fun _ _ held => held)
  intro after outcome ended
  exact ⟨fun act member => ended.1 act (kept.1 act member),ended.2⟩

theorem yields_lift {First Second : Type} {value : Except String First} {next : First → Task Packet Second}
    {yields : List (Act Packet) → Second → Prop} (rest : ∀ result, value = .ok result → Yields (next result) past yields) :
    Yields (lift value >>= next) past yields :=
  along_lift rest fun error _ => yields_fail error yields

theorem yields_any {Result : Type} (task : Task Packet Result) (past : List (Act Packet)) : Yields task past fun _ _ => True := by
  induction task generalizing past with
  | done result => exact yields_pure trivial
  | fail error => exact yields_fail error _
  | call op following ih => exact yields_call fun reply => ih reply _

theorem last_mem (past : List (Act Packet)) (act : Act Packet) : act ∈ past ++ [act] :=
  List.mem_append_right past (List.mem_singleton_self act)

theorem lookupContact_yields (aor : String) (past : List (Act Packet)) :
    Yields (lookupContact aor) past fun after found => ∀ binding, found = some binding → ⟨.peekContact aor,some binding⟩ ∈ after := by
  apply yields_call
  intro found
  cases found with
  | none => exact yields_pure fun _ same => nomatch same
  | some binding =>
      apply yields_call
      intro now
      split
      · exact yields_call fun _ => yields_pure fun _ same => nomatch same
      · apply yields_pure
        intro other same
        cases same
        exact List.mem_append_left _ (last_mem past _)

-- A binding that a lookup hands out stood in the location table.
def Held (after : List (Act Packet)) (found : Option ContactBinding) : Prop :=
  ∀ binding, found = some binding → ∃ aor, ⟨.peekContact aor,some binding⟩ ∈ after

theorem lookupFirstContact_yields (keys : List String) (past : List (Act Packet)) :
    Yields (lookupFirstContact keys) past Held := by
  induction keys generalizing past with
  | nil => exact yields_pure fun _ same => nomatch same
  | cons key rest ih =>
      apply yields_bind _ (lookupContact_yields key past)
      intro between found _ held
      cases found with
      | none => exact ih between
      | some binding => exact yields_pure fun other same => ⟨key,held other same⟩

theorem lookupDeliveryRegistrationBinding_yields (message : Message) (requestUri : String) (fallback : Bool)
    (past : List (Act Packet)) :
    Yields (lookupDeliveryRegistrationBinding codec message requestUri fallback) past Held := by
  apply yields_bind _ (lookupFirstContact_yields _ past)
  intro between found _ held
  cases found with
  | some binding => exact yields_pure held
  | none =>
      dsimp only
      split
      · exact yields_pure fun _ same => nomatch same
      · split
        · exact yields_pure fun _ same => nomatch same
        · exact lookupFirstContact_yields _ between

theorem isHealthyUpstreamTarget_yields (target : UpstreamTarget) (past : List (Act Packet)) :
    Yields (isHealthyUpstreamTarget settings target) past fun after healthy =>
      if healthy then settings.upstreamsContain target.addr = true
      else settings.upstreamsContain target.addr = false ∨ ⟨.isHealthy target.addr,false⟩ ∈ after := by
  unfold isHealthyUpstreamTarget
  split
  · rename_i upstream
    refine yields_call fun healthy => yields_pure ?_
    cases healthy with
    | true => exact upstream
    | false => exact .inr (last_mem past _)
  · rename_i other
    exact yields_pure (.inl (Bool.eq_false_iff.mpr other))

theorem lookupRegisteredUpstreamKey_yields (routes : List String) (past : List (Act Packet)) :
    Yields (lookupRegisteredUpstreamKey settings routes) past fun after found => ∀ target, found = some target →
      ∃ route, ⟨.lookupAffinityKey (registrationUpstreamAffinityKey route),some target.affinity⟩ ∈ after ∧
        settings.upstreamsContain target.addr = true := by
  induction routes generalizing past with
  | nil => exact yields_pure fun _ same => nomatch same
  | cons route rest ih =>
      apply yields_call
      intro found
      cases found with
      | none => exact ih _
      | some target =>
          refine yields_bind _ (isHealthyUpstreamTarget_yields _ _) fun between healthy grown holds => yields_pure ?_
          intro other same
          cases healthy with
          | false => cases same
          | true =>
              cases same
              exact ⟨route,grown _ (last_mem past _),holds⟩

theorem lookupFirstAffinity_yields (keys : List AffinityKey) (past : List (Act Packet)) :
    Yields (lookupFirstAffinity keys) past fun after found => Sought after keys found := by
  induction keys generalizing past with
  | nil => exact yields_pure .nil
  | cons key rest ih =>
      apply yields_call
      intro found
      cases found with
      | some target => exact yields_pure (.hit (last_mem past _))
      | none =>
          refine along_mono (ih _) (fun _ _ held => held) fun after outcome ended => ⟨ended.1,fun found same => ?_⟩
          exact .miss (ended.1 _ (last_mem past _)) (ended.2 found same)

theorem affinityOrSelectedTarget_yields (request : Request Message) (requestUri : String) (past : List (Act Packet)) :
    Yields (affinityOrSelectedTarget codec settings request.message requestUri request.listener) past
      (Chosen codec settings request requestUri) := by
  have selecting (past : List (Act Packet)) (astray : Astray codec settings request past) :
      Yields (selectUpstream requestUri request.listener) past (Chosen codec settings request requestUri) := by
    refine yields_call fun addr => yields_pure (.selected (last_mem past _) ?_)
    exact astray.later fun act member => List.mem_append_left _ member
  refine yields_bind (fun between target => settings.affinity.enabled = false ∧ target = none ∨
    ∃ keys, affinityKeys codec settings.affinityKey request.message = .ok keys ∧ Sought between keys target) ?_ ?_
  · unfold affinityLookup
    split
    · apply yields_lift
      intro keys keyed
      apply along_mono (lookupFirstAffinity_yields keys past) (fun _ _ held => held)
      intro after outcome ended
      exact ⟨ended.1,fun target same => .inr ⟨keys,keyed,ended.2 target same⟩⟩
    · rename_i off
      exact yields_pure (.inl ⟨Bool.eq_false_iff.mpr off,rfl⟩)
  · intro between target _ looked
    cases target with
    | none =>
        rcases looked with ⟨off,_⟩ | ⟨keys,keyed,sought⟩
        · exact selecting between (.disabled off)
        · exact selecting between (.missed keyed sought)
    | some target =>
        obtain ⟨keys,keyed,sought⟩ := looked.resolve_left fun none => nomatch none.2
        apply yields_bind _ (isHealthyUpstreamTarget_yields _ between)
        intro after healthy grown holds
        cases healthy with
        | true => exact yields_pure (.affine keyed (sought.later grown) holds)
        | false => exact selecting after (.unhealthy keyed (sought.later grown) holds)

theorem lookupRegisteredUpstreamTarget_yields (request : Request Message) (requestUri : String) (past : List (Act Packet)) :
    Yields (lookupRegisteredUpstreamTarget codec settings request.message requestUri) past fun after known =>
      ∀ target, known = some target → Chosen codec settings request requestUri after target := by
  unfold lookupRegisteredUpstreamTarget
  split
  · rename_i initial
    obtain ⟨isInvite,isInitial⟩ := Bool.and_eq_true_iff.mp initial
    apply along_mono (lookupRegisteredUpstreamKey_yields _ past) (fun _ _ held => held)
    intro after outcome ended
    refine ⟨ended.1,fun known same target named => ?_⟩
    obtain ⟨route,held,upstream⟩ := ended.2 known same target named
    exact .registered (of_decide_eq_true isInvite) isInitial held upstream
  · exact yields_pure fun _ same => nomatch same

theorem forwardTarget_chosen (request : Request Message) (requestUri : String) (routed : Bool) (past : List (Act Packet))
    (fromUpstream : routed = true → settings.isUpstreamSource request.peer = true) :
    Yields (forwardTarget codec settings request.message requestUri request.listener request.method
      (settings.isUpstreamSource request.peer) routed
      (directTarget codec settings requestUri request.listener (settings.isUpstreamSource request.peer)) none) past
      (Chosen codec settings request requestUri) := by
  unfold forwardTarget
  split
  · rename_i target named
    split at named
    · exact yields_pure (.direct named)
    · cases named
  · rename_i same
    cases same
  · split
    · rename_i delivering
      have upstream : settings.isUpstreamSource request.peer = true := (Bool.or_eq_true _ _ ▸ delivering).elim id fromUpstream
      apply yields_bind _ (lookupDeliveryRegistrationBinding_yields _ _ _ past)
      intro between held _ stood
      cases held with
      | some binding =>
          obtain ⟨aor,peeked⟩ := stood binding rfl
          dsimp only
          split
          · rename_i target parsed
            exact yields_pure (.located upstream peeked parsed)
          · exact yields_call fun addr => yields_pure (.selected (last_mem between _) (.unlocated upstream))
      | none =>
          dsimp only
          split
          · rename_i named
            exact yields_pure (.direct named)
          · exact affinityOrSelectedTarget_yields request requestUri between
    · split
      · rename_i named
        exact yields_pure (.direct named)
      · apply yields_bind _ (lookupRegisteredUpstreamTarget_yields request requestUri past)
        intro between known _ holds
        cases known with
        | some target => exact yields_pure (holds target rfl)
        | none => exact affinityOrSelectedTarget_yields request requestUri between

theorem forwardTarget_yields (request : Request Message) (requestUri : String) (routed : Bool)
    (found : Option InviteTransactionRoute) (past : List (Act Packet))
    (fromUpstream : routed = true → settings.isUpstreamSource request.peer = true)
    (unasked : request.method = .ack → found.isSome = true →
      directTarget codec settings requestUri request.listener (settings.isUpstreamSource request.peer) = none) :
    Yields (forwardTarget codec settings request.message requestUri request.listener request.method
      (settings.isUpstreamSource request.peer) routed
      (directTarget codec settings requestUri request.listener (settings.isUpstreamSource request.peer)) found) past
      (Picked codec settings request requestUri found) := by
  cases found with
  | some route =>
      have none : (if request.method = .ack then directTarget codec settings requestUri request.listener
          (settings.isUpstreamSource request.peer) else none) = none := by
        split
        · rename_i isAck
          exact unasked isAck rfl
        · rfl
      unfold forwardTarget
      rw [none]
      exact yields_pure rfl
  | none => exact forwardTarget_chosen request requestUri routed past fromUpstream

end Targets

section Editing

-- What forwarding does to a message beside the Via it adds.
inductive Edited (codec : Codec Packet Message) : Message → Message → Prop where
  | refl (message : Message) : Edited codec message message
  | popRoute : codec.popTopHeaderValue "Route" first = .ok (value,second) → Edited codec second last → Edited codec first last
  | recordRoute : codec.prependRecordRoute addr first = .ok second → Edited codec second last → Edited codec first last
  | path {host : String} : codec.prependPath host first = .ok second → Edited codec second last → Edited codec first last
  | contact {host : String} : codec.rewriteContactHostWithUser host rewrite first = .ok (contacts,second) → Edited codec second last →
      Edited codec first last

theorem Edited.trans (first : Edited codec one two) (second : Edited codec two three) : Edited codec one three := by
  induction first with
  | refl message => exact second
  | popRoute popped _ ih => exact .popRoute popped (ih second)
  | recordRoute added _ ih => exact .recordRoute added (ih second)
  | path added _ ih => exact .path added (ih second)
  | contact rewritten _ ih => exact .contact rewritten (ih second)

variable {past : List (Act Packet)}

theorem popOwnRouteHeaders_yields (listener : ProxyListenerConfig) (target : SocketAddr) (fuel : Nat) (message : Message)
    (past : List (Act Packet)) :
    Yields (popOwnRouteHeaders codec settings listener target fuel message) past fun _ popped => Edited codec message popped := by
  induction fuel generalizing message past with
  | zero => exact yields_pure (.refl message)
  | succ fuel ih =>
      apply yields_lift
      intro top _
      cases top with
      | none => exact yields_pure (.refl message)
      | some route =>
          refine yields_bind _ (yields_any (routeTargetsThisProxy codec settings route listener target) past)
            fun between ours _ _ => ?_
          dsimp only
          split
          · apply yields_lift
            intro popped top
            refine along_mono (ih popped.2 between) (fun _ _ held => held) fun after outcome ended => ⟨ended.1,fun last same => ?_⟩
            exact .popRoute top (ended.2 last same)
          · exact yields_pure (.refl message)

theorem edited_recordRoutes (addrs : List String) {message last : Message}
    (added : addrs.foldlM (fun message addr => codec.prependRecordRoute addr message) message = .ok last) :
    Edited codec message last := by
  induction addrs generalizing message with
  | nil => cases added; exact .refl _
  | cons addr rest ih =>
      rw [List.foldlM_cons] at added
      cases first : codec.prependRecordRoute addr message with
      | error error => rw [first] at added; cases added
      | ok second => rw [first] at added; exact .recordRoute first (ih added)

theorem recordRoutes_yields (message : Message) (peer target : SocketAddr) (listener : ProxyListenerConfig) (method : Method)
    (past : List (Act Packet)) : Yields (recordRoutes codec settings message peer target listener method) past
      fun _ recorded => Edited codec message recorded.1 := by
  unfold recordRoutes
  split
  · apply yields_bind _ (yields_any (recordRouteAddrs settings peer target listener) past)
    intro between addrs _ _
    exact yields_lift fun recorded added => yields_pure (edited_recordRoutes _ added)
  · exact yields_pure (.refl message)

end Editing

end Sigproxy.Proxy
