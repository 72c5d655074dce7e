import Sigproxy.Proxy.ResponseRouting
import Sigproxy.Proxy.ViaStack

namespace Sigproxy.Proxy
open Library Net

def SipMessage.routes (message : SipMessage) : List String := valuesOf (Header.named "Route") message.headers

-- The checks of a run, value by value: the proxy found each value in front to be its
-- own, and found that the first one left, if any, is not.
inductive Stripped (targets : String → Task Packet Bool) : List String → List String → List (Event (@Op.Reply Packet)) → Prop where
  | none : Stripped targets [] [] []
  | refused : (targets route).Trace events (.ok false) → Stripped targets [] (route :: left) events
  | own : (targets route).Trace events (.ok true) → Stripped targets own left later → Stripped targets (route :: own) left (events ++ later)

section Checks
variable {Packet : Type} {targets : String → Task Packet Bool} {events : List (Event (@Op.Reply Packet))}

theorem stripped_accepted (stripped : Stripped targets own left events) : ∀ route ∈ own, ∃ events, (targets route).Trace events (.ok true) := by
  induction stripped with
  | none => exact List.forall_mem_nil _
  | refused _ => exact List.forall_mem_nil _
  | own checked _ ih => exact List.forall_mem_cons.mpr ⟨⟨_,checked⟩,ih⟩

-- Where a check has one answer for a value, what is taken is the longest run in front that it accepts.
theorem stripped_maximal {accepts : String → Bool} (decided : ∀ route events own, (targets route).Trace events (.ok own) → own = accepts route)
    (stripped : Stripped targets own left events) : left = (own ++ left).dropWhile accepts := by
  induction stripped with
  | none => rfl
  | @refused route _ left checked =>
      have refused := decided route _ false checked
      rw [List.nil_append,List.dropWhile_cons_of_neg (by simp [← refused])]
  | @own route _ _ _ _ checked _ ih =>
      have accepted := decided route _ true checked
      rw [List.cons_append,List.dropWhile_cons_of_pos accepted.symm]
      exact ih

end Checks

section Values
variable {stack : SipStack} {message : SipMessage}

theorem popTopHeaderValue_none {name : String} (absent : valuesOf (Header.named name) message.headers = []) :
    message.popTopHeaderValue stack name = .ok (none,message) :=
  popMessage_none absent ..

theorem popTopHeaderValue_takes {name : String}
    (makes : ∀ value, (stack.makeHeader name value).named name = true ∧ (stack.makeHeader name value).value = value)
    (wellQuoted : AllWellQuoted (Header.named name) message.headers) (values : valuesOf (Header.named name) message.headers = top :: rest) :
    ∃ popped, message.popTopHeaderValue stack name = .ok (some top,popped) ∧ valuesOf (Header.named name) popped.headers = rest ∧
      others (Header.named name) popped.headers = others (Header.named name) message.headers ∧
      popped.startLine = message.startLine ∧ popped.body = message.body ∧ AllWellQuoted (Header.named name) popped.headers :=
  popMessage_takes wellQuoted values makes ("failed to split top " ++ name)

end Values

section Stripping
variable {Packet : Type} {stack : SipStack} {rest : Codec Packet SipMessage} {settings : Settings} {listener : ProxyListenerConfig}
  {target : SocketAddr}

theorem routeTargetsThisProxy_sure (route : String) :
    (routeTargetsThisProxy rest settings route listener target).Sure fun _ => True := by
  unfold routeTargetsThisProxy
  split
  · trivial
  · split
    · trivial
    · have resolved (side : AdvertiseSide) (addr : SocketAddr) :
          (resolvedAdvertisedAddrMatches rest side listener target addr).Sure fun _ => True :=
        Program.sure_bind (Program.sure_perform trivial) fun _ => trivial
      apply Program.sure_bind (resolved _ _)
      intro matched
      split
      · trivial
      · exact resolved _ _

theorem popOwnRouteHeaders_done {message : SipMessage} (none : message.routes = []) :
    popOwnRouteHeaders (stack.codec rest) settings listener target (fuel + 1) message = return message := by
  have top : (stack.codec rest).topHeaderValue "Route" message = .ok Option.none := by
    change message.topHeaderValue "Route" = _
    rw [topHeaderValue_peeks stack,popTopHeaderValue_none none]
    rfl
  rw [popOwnRouteHeaders,top]
  rfl

-- One round of the loop: the value it looks at is the one it takes.
theorem popOwnRouteHeaders_round {message popped : SipMessage} (takes : message.popTopHeaderValue stack "Route" = .ok (some route,popped)) :
    popOwnRouteHeaders (stack.codec rest) settings listener target (fuel + 1) message =
      (routeTargetsThisProxy (stack.codec rest) settings route listener target >>= fun own =>
        if own then popOwnRouteHeaders (stack.codec rest) settings listener target fuel popped else return message) := by
  have top : (stack.codec rest).topHeaderValue "Route" message = .ok (some route) := by
    change message.topHeaderValue "Route" = _
    rw [topHeaderValue_peeks stack,takes]
    rfl
  have taken : (stack.codec rest).popTopHeaderValue "Route" message = .ok (some route,popped) := takes
  rw [popOwnRouteHeaders,top,taken]
  rfl

theorem popOwnRouteHeaders_strips (makes : ∀ value, (stack.makeHeader "Route" value).named "Route" = true ∧ (stack.makeHeader "Route" value).value = value)
    {message : SipMessage} (wellQuoted : AllWellQuoted (Header.named "Route") message.headers) (enough : message.routes.length ≤ fuel)
    (traced : (popOwnRouteHeaders (stack.codec rest) settings listener target fuel message).Trace events outcome) :
    ∃ popped own left, outcome = .ok popped ∧ message.routes = own ++ left ∧ popped.routes = left ∧
      others (Header.named "Route") popped.headers = others (Header.named "Route") message.headers ∧
      popped.startLine = message.startLine ∧ popped.body = message.body ∧
      Stripped (fun route => routeTargetsThisProxy (stack.codec rest) settings route listener target) own left events := by
  induction fuel generalizing message events with
  | zero =>
      have none : message.routes = [] := List.length_eq_zero_iff.mp (Nat.le_zero.mp enough)
      cases traced
      exact ⟨message,[],[],rfl,none,none,rfl,rfl,rfl,.none⟩
  | succ fuel ih =>
      cases routes : message.routes with
      | nil =>
          rw [popOwnRouteHeaders_done routes] at traced
          cases traced
          exact ⟨message,[],[],rfl,rfl,routes,rfl,rfl,rfl,.none⟩
      | cons route left =>
          obtain ⟨popped,takes,remaining,unchanged,startLine,body,quoted⟩ := popTopHeaderValue_takes makes wellQuoted routes
          rw [popOwnRouteHeaders_round takes] at traced
          obtain ⟨error,failed,_⟩ | ⟨early,late,own,rfl,checked,traced⟩ := Program.trace_bind traced
          · obtain ⟨result,succeeded⟩ := Program.trace_sure (routeTargetsThisProxy_sure route) failed
            cases succeeded
          · cases own with
            | false =>
                cases traced
                rw [List.append_nil]
                exact ⟨message,[],route :: left,rfl,rfl,routes,rfl,rfl,rfl,.refused checked⟩
            | true =>
                have fewer : popped.routes.length ≤ fuel := by
                  rw [routes,List.length_cons] at enough
                  rw [SipMessage.routes,remaining]
                  exact Nat.le_of_succ_le_succ enough
                obtain ⟨final,own,kept,returned,split,rest,sameOthers,sameStart,sameBody,checks⟩ := ih quoted fewer traced
                refine ⟨final,route :: own,kept,returned,?_,rest,sameOthers.trans unchanged,sameStart.trans startLine,sameBody.trans body,.own checked checks⟩
                rw [← remaining,List.cons_append]
                exact congrArg (route :: ·) split

end Stripping

-- Every path of the loop ends, takes exactly the values in front that the proxy found
-- to be its own, and leaves the rest of the message as it stands; and the value a
-- look reports is the one the next pop takes.
theorem own_routes_stripped {Packet : Type} (stack : SipStack)
    (makes : ∀ value, (stack.makeHeader "Route" value).named "Route" = true ∧ (stack.makeHeader "Route" value).value = value)
    (rest : Codec Packet SipMessage) (settings : Settings) (listener : ProxyListenerConfig) (target : SocketAddr) (message : SipMessage)
    (wellQuoted : AllWellQuoted (Header.named "Route") message.headers) (fuel : Nat)
    (enough : routeValueBound (stack.codec rest) message ≤ fuel) :
    (popOwnRouteHeaders (stack.codec rest) settings listener target fuel message).Along (fun _ _ => True)
      (fun events outcome => ∃ popped own left, outcome = .ok popped ∧ message.routes = own ++ left ∧ popped.routes = left ∧
        others (Header.named "Route") popped.headers = others (Header.named "Route") message.headers ∧
        popped.startLine = message.startLine ∧ popped.body = message.body ∧
        Stripped (fun route => routeTargetsThisProxy (stack.codec rest) settings route listener target) own left events) [] ∧
    ∀ name (message : SipMessage), message.topHeaderValue name = (message.popTopHeaderValue stack name).map Prod.fst := by
  refine ⟨Program.along_trace fun events outcome traced => ?_,topHeaderValue_peeks stack⟩
  exact popOwnRouteHeaders_strips makes wellQuoted ((valuesOf_length "Route" message).trans enough) traced

section Runs

def messageCodec : Codec SipMessage SipMessage where
  isCrlfKeepalive _ := false
  stunBindingSuccessResponse _ _ := none
  isStunPacket _ := false
  parse := .ok
  toBytes message := message
  startLine := SipMessage.startLine
  isResponse message := message.startLine.code.isSome
  method _ := none
  requestUri _ := none
  callIdHeader _ := .ok "c1"
  cseqNumber _ := .ok 1
  fromTag _ := none
  toTag _ := none
  isInitialInviteRequest _ := true
  topViaBranch _ := .ok none
  headers := SipMessage.headerTexts
  topHeaderValue := SipMessage.topHeaderValue
  popTopHeaderValue := SipMessage.popTopHeaderValue plainStack
  popTopVia := SipMessage.popTopVia plainStack
  prependVia := SipMessage.prependVia plainStack
  prependRecordRoute := SipMessage.prependRecordRoute plainStack
  prependPath _ message := .ok message
  applyTopViaReceivedRport _ message := .ok message
  rewriteContactHostWithUser _ _ message := .ok ([],message)
  maxForwards _ := .ok none
  setMaxForwards _ message := message
  responseLike message _ _ := message
  extractAor _ := .ok ""
  extractContact _ := .ok none
  extractFromAor _ := .ok ""
  extractToAor _ := .ok ""
  extractExpires _ := 0
  extractResponseContactExpires _ := none
  parseContactTarget _ _ := none
  parseRouteTarget route transport := if route == "<sip:10.0.0.2:5060;lr>" then some ⟨upstreamAddr,transport⟩ else none
  parseSocketAddr _ := none
  showSocketAddr _ := ""
  normalizedSipUriWithoutParams := some
  uuidLikeId key := key

def routed (routes : List String) : SipMessage :=
  ⟨.request "INVITE" "sip:100@example.com" "SIP/2.0",routes.map (.standard "Route") ++ [.other "Call-ID" "c1"],[]⟩

def ownSettings : Settings := { plainSettings with isAdvertisedOrListenerAddr := fun addr _ => addr == upstreamAddr }

theorem trailing_route_comma_unlisted : ¬∀ message, AllWellQuoted (Header.named "Route") message.headers →
    (popOwnRouteHeaders (plainStack.codec messageCodec) ownSettings udpListener clientAddr (routeValueBound messageCodec message) message).Along
      (fun _ _ => True) (fun events outcome => ∃ popped own left, outcome = .ok popped ∧
        fieldsOf (Header.named "Route") message.headers = own ++ left ∧ fieldsOf (Header.named "Route") popped.headers = left ∧
        Stripped (fun route => routeTargetsThisProxy (plainStack.codec messageCodec) ownSettings route udpListener clientAddr) own left events) [] := by
  intro all
  have along := all (routed ["<sip:10.0.0.2:5060;lr>,"]) (by decide)
  obtain ⟨popped,own,left,returned,split,remaining,checks⟩ := along
  have empty : left = [] := by
    cases returned
    exact remaining.symm.trans (by decide)
  subst empty
  rw [List.append_nil] at split
  have both : fieldsOf (Header.named "Route") (routed ["<sip:10.0.0.2:5060;lr>,"]).headers = ["<sip:10.0.0.2:5060;lr>",""] := by decide
  rw [← split,both] at checks
  obtain ⟨events,blank⟩ := stripped_accepted checks "" (by decide)
  cases blank

theorem plainStack_route (value : String) :
    (plainStack.makeHeader "Route" value).named "Route" = true ∧ (plainStack.makeHeader "Route" value).value = value := by
  have other : eqIgnoreAsciiCase "Route" "Via" = false := by decide
  have named : eqIgnoreAsciiCase "Route" "Route" = true := by decide
  simp [plainStack,other,Header.named,Header.name,Header.value,named]

theorem ownSettings_decides (route : String) (traced : Program.Trace
      (routeTargetsThisProxy (plainStack.codec messageCodec) ownSettings route udpListener clientAddr) events (.ok own)) :
    own = (route == "<sip:10.0.0.2:5060;lr>") := by
  by_cases same : route = "<sip:10.0.0.2:5060;lr>"
  · subst same
    cases traced
    rfl
  · have other : (route == "<sip:10.0.0.2:5060;lr>") = false := beq_false_of_ne same
    simp only [routeTargetsThisProxy,SipStack.codec,messageCodec,other] at traced
    cases traced
    exact other.symm

-- Two of the proxy's own values and one of another hop, in two headers.
theorem merged_routes_stripped : ∃ popped : SipMessage,
    (popOwnRouteHeaders (plainStack.codec messageCodec) ownSettings udpListener clientAddr 99
      (routed ["<sip:10.0.0.2:5060;lr>","<sip:10.0.0.2:5060;lr>, <sip:10.0.0.9;lr>"])).outcome = some (.ok popped) ∧
    popped.routes = ["<sip:10.0.0.9;lr>"] := by
  have along := (own_routes_stripped plainStack plainStack_route messageCodec ownSettings udpListener clientAddr
    (routed ["<sip:10.0.0.2:5060;lr>","<sip:10.0.0.2:5060;lr>, <sip:10.0.0.9;lr>"]) (by decide +kernel) 99 (by decide +kernel)).1
  obtain ⟨popped,own,left,returned,split,remaining,_,_,_,checks⟩ := along
  have three : (routed ["<sip:10.0.0.2:5060;lr>","<sip:10.0.0.2:5060;lr>, <sip:10.0.0.9;lr>"]).routes =
      ["<sip:10.0.0.2:5060;lr>","<sip:10.0.0.2:5060;lr>","<sip:10.0.0.9;lr>"] := by decide +kernel
  have kept := stripped_maximal (fun route _ _ traced => ownSettings_decides route traced) checks
  rw [← split,three] at kept
  refine ⟨popped,?_,remaining.trans (kept.trans (by decide))⟩
  rw [← returned]
  rfl

end Runs

end Sigproxy.Proxy
