import Sigproxy.Library.Reinstated
import Sigproxy.Proxy.RouteStripping

namespace Sigproxy.Proxy
open Library Net

def SipMessage.recordRoutes (message : SipMessage) : List String := valuesOf (Header.named "Record-Route") message.headers

-- A value stands for an address that it has as a loose-routing URI.
def carries (addr value : String) : Prop := occursIn ("sip:" ++ addr ++ ";lr").toList value.toList = true

instance (addr value : String) : Decidable (carries addr value) := inferInstanceAs (Decidable (_ = true))

def routeEntry (addr : String) : String := "<sip:" ++ addr ++ ";lr>"

-- The search of the repair, over all the texts of the headers at once.
def SipMessage.recordRoutesContain (message : SipMessage) (addr : String) : Bool :=
  occursIn ("sip:" ++ addr ++ ";lr").toList (",".intercalate (message.headerTexts "Record-Route")).toList

def Succeeds (message : SipMessage) : Prop := message.startLine.code.any (fun code => decide (200 ≤ code ∧ code < 300)) = true

instance (message : SipMessage) : Decidable (Succeeds message) := inferInstanceAs (Decidable (_ = true))

-- The stack renders a Record-Route of such an address as one value.
def RendersRoutes (stack : SipStack) (addrs : List String) : Prop :=
  ∀ addr ∈ addrs, ∀ uri, stack.uri ("sip:" ++ addr ++ ";lr") = .ok uri →
    (stack.recordRouteHeader uri).named "Record-Route" = true ∧ headerValues (stack.recordRouteHeader uri).value = [routeEntry addr]

section Text

theorem occursIn_iff : occursIn needle text = true ↔ needle <:+: text := by
  unfold occursIn
  rw [List.any_eq_true]
  constructor
  · intro ⟨rest,found,first⟩
    exact (List.isPrefixOf_iff_prefix.mp first).isInfix.trans ((List.mem_tails rest text).mp found).isInfix
  · intro ⟨before,after,split⟩
    refine ⟨needle ++ after,(List.mem_tails _ text).mpr ⟨before,?_⟩,List.isPrefixOf_iff_prefix.mpr (List.prefix_append needle after)⟩
    rw [← split,List.append_assoc]

theorem routeEntry_carries (addr : String) : carries addr (routeEntry addr) := by
  refine occursIn_iff.mpr ⟨['<'],['>'],?_⟩
  simp [routeEntry]

theorem headerValues_inside (member : value ∈ headerValues text) : value.toList <:+: text.toList := by
  obtain ⟨entry,listed,rfl⟩ := List.mem_map.mp member
  rw [String.toList_ofList]
  exact Splitter.entries_inside listed

theorem intercalate_suffix (separator : List Char) (front texts : List (List Char)) :
    separator.intercalate texts <:+ separator.intercalate (front ++ texts) := by
  induction front with
  | nil => exact List.suffix_rfl
  | cons first front ih =>
      cases rest : front ++ texts with
      | nil =>
          rw [(List.append_eq_nil_iff.mp rest).2]
          exact List.nil_suffix
      | cons next others =>
          rw [rest] at ih
          rw [List.cons_append,rest,List.intercalate_cons_cons]
          exact ih.trans (List.suffix_append _ _)

theorem intercalate_inside (separator : List Char) (member : text ∈ texts) : text <:+: separator.intercalate texts := by
  obtain ⟨front,rest,rfl⟩ := List.append_of_mem member
  have first : text <+: separator.intercalate (text :: rest) := by
    cases rest with
    | nil => rw [List.intercalate_singleton]
    | cons next rest =>
        rw [List.intercalate_cons_cons,List.append_assoc]
        exact List.prefix_append _ _
  exact first.isInfix.trans (intercalate_suffix separator front (text :: rest)).isInfix

end Text

section Repair
variable {Packet : Type} {stack : SipStack} {rest : Codec Packet SipMessage} {message : SipMessage} {addrs : List String}

theorem contained (member : value ∈ message.recordRoutes) (carried : carries addr value) : message.recordRoutesContain addr = true := by
  obtain ⟨header,listed,inside⟩ := List.mem_flatMap.mp member
  have text : header.value.toList ∈ (message.headerTexts "Record-Route").map String.toList :=
    List.mem_map.mpr ⟨header.value,List.mem_map.mpr ⟨header,listed,rfl⟩,rfl⟩
  apply occursIn_iff.mpr
  rw [String.toList_intercalate]
  exact (occursIn_iff.mp carried).trans ((headerValues_inside inside).trans (intercalate_inside _ text))

def routeHeader (stack : SipStack) (addr : String) : Header :=
  match stack.uri ("sip:" ++ addr ++ ";lr") with
  | .ok uri => stack.recordRouteHeader uri
  | .error _ => .via ""

def SipMessage.withRoutes (stack : SipStack) (addrs : List String) (message : SipMessage) : SipMessage :=
  { message with headers := addrs.map (routeHeader stack) ++ message.headers }

-- What prepare_forward put into the request without an error the repair can put into the response.
theorem inserted_prepends {sent forwarded : SipMessage}
    (inserted : addrs.foldlM (fun message addr => (stack.codec rest).prependRecordRoute addr message) sent = .ok forwarded) : ∀ addr ∈ addrs, ∃ uri, stack.uri ("sip:" ++ addr ++ ";lr") = .ok uri := by
  induction addrs generalizing sent with
  | nil => exact List.forall_mem_nil _
  | cons addr addrs ih =>
      rw [List.foldlM_cons] at inserted
      obtain ⟨next,first,later⟩ := bind_ok.mp inserted
      obtain ⟨uri,parsed,_⟩ := bind_ok.mp first
      refine List.forall_mem_cons.mpr ⟨?_,ih later⟩
      cases found : stack.uri ("sip:" ++ addr ++ ";lr") with
      | ok uri => exact ⟨uri,rfl⟩
      | error error =>
          rw [found] at parsed
          cases parsed

theorem prependRecordRoute_ok (parsed : stack.uri ("sip:" ++ addr ++ ";lr") = .ok uri) (message : SipMessage) :
    (stack.codec rest).prependRecordRoute addr message = .ok { message with headers := routeHeader stack addr :: message.headers } := by
  change message.prependRecordRoute stack addr = _
  simp [SipMessage.prependRecordRoute,routeHeader,parsed,Security.withContext,Except.mapError,bind,Except.bind,pure,Except.pure]

theorem repairs_missing (parses : ∀ addr ∈ addrs, ∃ uri, stack.uri ("sip:" ++ addr ++ ";lr") = .ok uri) (present : String → Bool) (message : SipMessage) :
    addrs.reverse.foldlM (fun message addr => if present addr then .ok message else (stack.codec rest).prependRecordRoute addr message) message =
      (.ok (message.withRoutes stack (addrs.filter fun addr => !present addr)) : Except String SipMessage) := by
  induction addrs with
  | nil => rfl
  | cons addr addrs ih =>
      obtain ⟨here,others⟩ := List.forall_mem_cons.mp parses
      obtain ⟨uri,parsed⟩ := here
      rw [List.reverse_cons,List.foldlM_append,ih others]
      cases found : present addr with
      | true => simp [found,bind,Except.bind,pure,Except.pure]
      | false => simp [found,prependRecordRoute_ok parsed,SipMessage.withRoutes,bind,Except.bind,pure,Except.pure]

theorem ensureDialogRecordRoutes_repairs (message : SipMessage) (forms : shouldRecordRoute method = true) (succeeds : Succeeds message)
    (parses : ∀ addr ∈ addrs, ∃ uri, stack.uri ("sip:" ++ addr ++ ";lr") = .ok uri) :
    ensureDialogRecordRoutes (stack.codec rest) method addrs message =
      .ok (message.withRoutes stack (addrs.filter fun addr => !message.recordRoutesContain addr)) := by
  unfold ensureDialogRecordRoutes
  cases addrs with
  | nil => simp [SipMessage.withRoutes]
  | cons addr addrs =>
      have taken : (shouldRecordRoute method && !(addr :: addrs).isEmpty &&
          ((stack.codec rest).startLine message).code.any fun code => decide (200 ≤ code ∧ code < 300)) = true := by
        rw [forms]
        exact succeeds
      rw [if_pos taken]
      exact repairs_missing parses message.recordRoutesContain message

theorem withRoutes_recordRoutes (renders : RendersRoutes stack addrs) (parses : ∀ addr ∈ addrs, ∃ uri, stack.uri ("sip:" ++ addr ++ ";lr") = .ok uri)
    (message : SipMessage) : (message.withRoutes stack addrs).recordRoutes = addrs.map routeEntry ++ message.recordRoutes := by
  unfold SipMessage.recordRoutes SipMessage.withRoutes
  induction addrs with
  | nil => rfl
  | cons addr addrs ih =>
      obtain ⟨⟨uri,parsed⟩,others⟩ := List.forall_mem_cons.mp parses
      obtain ⟨named,value⟩ := renders addr List.mem_cons_self uri parsed
      have rendered : routeHeader stack addr = stack.recordRouteHeader uri := by rw [routeHeader,parsed]
      rw [List.map_cons,List.cons_append,rendered,valuesOf_cons named,value,
        ih (fun other member => renders other (List.mem_cons_of_mem addr member)) others]
      rfl

-- What the search finds it finds again behind headers put in front.
theorem recordRoutesContain_behind (found : message.recordRoutesContain addr = true) (stack : SipStack) (addrs : List String) :
    (message.withRoutes stack addrs).recordRoutesContain addr = true := by
  refine occursIn_iff.mpr ((occursIn_iff.mp found).trans ?_)
  rw [String.toList_intercalate,String.toList_intercalate,SipMessage.headerTexts,SipMessage.headerTexts,SipMessage.withRoutes,List.filter_append,
    List.map_append,List.map_append]
  exact (intercalate_suffix _ _ _).isInfix

end Repair

-- The claim of the repair: the addresses in order, the values there were in order, and nothing left to repair.
structure RouteSetOrdered {Packet : Type} (codec : Codec Packet SipMessage) (method : Method) (addrs : List String) (before after : SipMessage) : Prop where
  addresses : List.SublistForall₂ carries addrs after.recordRoutes
  existing : before.recordRoutes.Sublist after.recordRoutes
  stable : ensureDialogRecordRoutes codec method addrs after = .ok after

section Order
variable {Packet : Type} {stack : SipStack} {message : SipMessage} {addrs : List String}

theorem ensureDialogRecordRoutes_reinstates (rest : Codec Packet SipMessage) (renders : RendersRoutes stack addrs)
    (parses : ∀ addr ∈ addrs, ∃ uri, stack.uri ("sip:" ++ addr ++ ";lr") = .ok uri) (forms : shouldRecordRoute method = true)
    (succeeds : Succeeds message) : ∃ repaired, ensureDialogRecordRoutes (stack.codec rest) method addrs message = .ok repaired ∧
      repaired.recordRoutes = reinstated message.recordRoutesContain routeEntry addrs message.recordRoutes ∧
      ensureDialogRecordRoutes (stack.codec rest) method addrs repaired = .ok repaired := by
  have missing : ∀ addr ∈ addrs.filter fun addr => !message.recordRoutesContain addr, addr ∈ addrs :=
    fun addr member => List.mem_of_mem_filter member
  have routes := withRoutes_recordRoutes (fun addr member => renders addr (missing addr member))
    (fun addr member => parses addr (missing addr member)) message
  refine ⟨_,ensureDialogRecordRoutes_repairs message forms succeeds parses,routes,?_⟩
  generalize reached : message.withRoutes stack (addrs.filter fun addr => !message.recordRoutesContain addr) = repaired at routes
  have all : ∀ addr ∈ addrs, repaired.recordRoutesContain addr = true := by
    intro addr member
    cases found : message.recordRoutesContain addr with
    | true => exact reached ▸ recordRoutesContain_behind found stack _
    | false =>
        refine contained ?_ (routeEntry_carries addr)
        rw [routes]
        exact List.mem_append_left _ (List.mem_map_of_mem (List.mem_filter.mpr ⟨member,by rw [found]; rfl⟩))
  have none : (addrs.filter fun addr => !repaired.recordRoutesContain addr) = [] := by
    rw [List.filter_eq_nil_iff]
    intro addr member
    rw [all addr member]
    exact Bool.false_ne_true
  rw [ensureDialogRecordRoutes_repairs repaired forms (reached ▸ succeeds) parses,none]
  rfl

end Order

theorem dialog_record_routes_ordered {Packet : Type} (stack : SipStack) (rest : Codec Packet SipMessage) (method : Method) (addrs : List String)
    (sent forwarded message : SipMessage) (renders : RendersRoutes stack addrs) (forms : shouldRecordRoute method = true)
    (inserted : addrs.reverse.foldlM (fun message addr => (stack.codec rest).prependRecordRoute addr message) sent = .ok forwarded)
    (succeeds : Succeeds message) :
    ∃ repaired, ensureDialogRecordRoutes (stack.codec rest) method addrs message = .ok repaired ∧
      (EndKept carries message.recordRoutesContain addrs message.recordRoutes → RouteSetOrdered (stack.codec rest) method addrs message repaired) ∧
      ((∀ one ∈ addrs, ∀ other ∈ addrs, carries one (routeEntry other) → one = other) →
        RouteSetOrdered (stack.codec rest) method addrs message repaired → EndKept carries message.recordRoutesContain addrs message.recordRoutes) := by
  have parses : ∀ addr ∈ addrs, ∃ uri, stack.uri ("sip:" ++ addr ++ ";lr") = .ok uri :=
    fun addr member => inserted_prepends inserted addr (List.mem_reverse.mpr member)
  obtain ⟨repaired,ensured,routes,stable⟩ := ensureDialogRecordRoutes_reinstates rest renders parses forms succeeds
  refine ⟨repaired,ensured,fun kept => ⟨?_,?_,stable⟩,fun apart ordered => ?_⟩
  · rw [routes]
    exact kept.reinstates fun addr _ => routeEntry_carries addr
  · rw [routes]
    exact List.sublist_append_right _ _
  · have addresses := ordered.addresses
    rw [routes] at addresses
    exact endKept_of_reinstates apart (fun addr _ value member carried => contained member carried) addresses

section Runs

def routesKept (addrs : List String) : SipMessage :=
  ⟨.response "SIP/2.0" 200 "OK",addrs.map fun addr => .standard "Record-Route" (routeEntry addr),[]⟩

theorem plainStack_renders {addrs : List String} (plain : ∀ addr ∈ addrs, headerValues (routeEntry addr) = [routeEntry addr]) :
    RendersRoutes plainStack addrs := by
  intro addr member uri parsed
  cases parsed
  have text : (plainStack.recordRouteHeader ("sip:" ++ addr ++ ";lr")).value = routeEntry addr := by
    rw [← String.toList_inj]
    simp [plainStack,Header.value,routeEntry]
  have named : eqIgnoreAsciiCase "Record-Route" "Record-Route" = true := by decide
  rw [text]
  exact ⟨named,plain addr member⟩

-- The upstream kept the upper of the two entries: the lower one comes back above it.
theorem upper_entry_kept : ¬∀ (method : Method) (addrs : List String) (sent forwarded message : SipMessage),
    RendersRoutes plainStack addrs → shouldRecordRoute method = true →
    addrs.reverse.foldlM (fun message addr => (plainStack.codec messageCodec).prependRecordRoute addr message) sent = .ok forwarded →
    Succeeds message → ∃ repaired, ensureDialogRecordRoutes (plainStack.codec messageCodec) method addrs message = .ok repaired ∧
      RouteSetOrdered (plainStack.codec messageCodec) method addrs message repaired := by
  intro all
  obtain ⟨repaired,ensured,ordered⟩ := all .invite ["10.0.0.2:5060","10.0.0.1:5060"] (routed []) _ (routesKept ["10.0.0.2:5060"])
    (plainStack_renders (by decide +kernel)) rfl rfl (by decide)
  have values : repaired.recordRoutes = ["<sip:10.0.0.1:5060;lr>","<sip:10.0.0.2:5060;lr>"] := by
    rw [ensureDialogRecordRoutes_repairs _ rfl (by decide) fun addr _ => ⟨_,rfl⟩] at ensured
    cases ensured
    decide +kernel
  have addresses := ordered.addresses
  rw [values] at addresses
  cases addresses with
  | cons first _ => exact absurd first (by decide +kernel)
  | cons_right rest =>
      cases rest with
      | cons _ rest => nomatch rest
      | cons_right rest => nomatch rest

-- The upstream kept the lower entry alone.
theorem lower_entry_kept : ∃ repaired,
    ensureDialogRecordRoutes (plainStack.codec messageCodec) .invite ["10.0.0.2:5060","10.0.0.1:5060"] (routesKept ["10.0.0.1:5060"]) = .ok repaired ∧
    RouteSetOrdered (plainStack.codec messageCodec) .invite ["10.0.0.2:5060","10.0.0.1:5060"] (routesKept ["10.0.0.1:5060"]) repaired := by
  obtain ⟨repaired,ensured,ordered,_⟩ := dialog_record_routes_ordered plainStack messageCodec .invite ["10.0.0.2:5060","10.0.0.1:5060"]
    (routed []) _ (routesKept ["10.0.0.1:5060"]) (plainStack_renders (by decide +kernel)) rfl rfl (by decide)
  have found : ["10.0.0.2:5060","10.0.0.1:5060"].filter (routesKept ["10.0.0.1:5060"]).recordRoutesContain = ["10.0.0.1:5060"] := by decide +kernel
  have values : (routesKept ["10.0.0.1:5060"]).recordRoutes = ["<sip:10.0.0.1:5060;lr>"] := by decide +kernel
  refine ⟨repaired,ensured,ordered ⟨by decide +kernel,?_⟩⟩
  rw [found,values]
  exact .cons (by decide +kernel) .nil

end Runs
end Sigproxy.Proxy
