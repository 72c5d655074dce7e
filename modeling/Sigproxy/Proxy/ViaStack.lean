import Sigproxy.Proxy.HeaderValues

namespace Sigproxy.Proxy
open Library Net
open Security (withContext)

def SipMessage.viaStack (message : SipMessage) : List String := valuesOf Header.isVia message.headers

-- A header text that is one value wherever it stands.
structure OneValue (value : String) : Prop where
  quoted : WellQuoted value
  alone : headerSplitter.pieces headerSplitter.start value.toList = [value.toList]

instance (value : String) : Decidable (OneValue value) :=
  decidable_of_iff (headerSplitter.closed (headerSplitter.read headerSplitter.start value.toList) = true ∧
      headerSplitter.pieces headerSplitter.start value.toList = [value.toList])
    ⟨fun both => ⟨both.1,both.2⟩,fun one => ⟨one.quoted,one.alone⟩⟩

-- The values of one group as an upstream writes them into a single header.
def joined (values : List String) : String := .ofList ([',',' '].intercalate (values.map String.toList))

section Values

theorem headerValues_one (one : OneValue value) : headerValues value = [trim value] := by
  rw [headerValues,Splitter.entries_alone one.alone,List.map_singleton,← trim_ofList,String.ofList_toList]

-- Values that no blank, comma or bracket of their own can tie to others are found again in any grouping.
theorem headerValues_joined (any : values ≠ []) (all : ∀ value ∈ values, Splitter.Word headerSplitter isWhiteSpace ',' value.toList) :
    headerValues (joined values) = values := by
  have words : ∀ word ∈ values.map String.toList, Splitter.Word headerSplitter isWhiteSpace ',' word := by
    intro word member
    obtain ⟨value,listed,rfl⟩ := List.mem_map.mp member
    exact all value listed
  have gap : ∀ char ∈ [' '], isWhiteSpace char = true := List.forall_mem_singleton.mpr (by decide)
  rw [headerValues,joined,String.toList_ofList,
    Splitter.entries_joined headerSplitter_lawful gap (fun none => any (List.map_eq_nil_iff.mp none)) words,List.map_map]
  exact (List.map_congr_left fun value _ => String.ofList_toList).trans (List.map_id values)

-- However an upstream groups such values into Via headers, they are the same stack.
theorem regrouped_stack {rewritten : String → Header} (rewrites : ∀ value, (rewritten value).isVia = true ∧ (rewritten value).value = value)
    {groups : List (List String)} (any : ∀ group ∈ groups, group ≠ [])
    (all : ∀ group ∈ groups, ∀ value ∈ group, Splitter.Word headerSplitter isWhiteSpace ',' value.toList) {message : SipMessage}
    (grouped : message.headers.filter Header.isVia = groups.map fun group => rewritten (joined group)) : message.viaStack = groups.flatten := by
  rw [SipMessage.viaStack,valuesOf,grouped]
  clear grouped
  induction groups with
  | nil => rfl
  | cons group groups ih =>
      have rest := ih (fun other member => any other (List.mem_cons_of_mem group member))
        fun other member => all other (List.mem_cons_of_mem group member)
      rw [List.map_cons,List.flatMap_cons,rest,(rewrites (joined group)).2,List.flatten_cons,
        headerValues_joined (any group List.mem_cons_self) (all group List.mem_cons_self)]

end Values

section Stack
variable {stack : SipStack}

-- A header of one value in front of the others is taken off whole.
theorem popTop_one {named : Header → Bool} (found : named header = true) (one : OneValue header.value) (rewritten : String → Header)
    (context : String) (headers : List Header) :
    popTop named rewritten context (header :: headers) = .ok (some (trim header.value),headers) := by
  obtain ⟨top,remainder,splits,behind⟩ := splitFirstHeaderValue_reads one.quoted
  have values := headerValues_one one
  have located : (header :: headers).zipIdx.find? (fun entry => named entry.1) = some (header,0) :=
    find_zipIdx [] header headers 0 (List.forall_mem_nil _) found
  cases left : remainder.filter fun rest => !(trim rest).isEmpty with
  | some rest =>
      rw [left] at behind
      exact absurd (List.cons.inj (behind.1.symm.trans values)).2 (headerValues_ne_nil _)
  | none =>
      rw [left] at behind
      have same : trim top = trim header.value := (List.cons.inj (behind.symm.trans values)).1
      rw [popTop_found located splits,left,same]
      rfl

theorem SipMessage.popTopVia_none (absent : SipMessage.viaStack message = []) : message.popTopVia stack = .ok (none,message) :=
  popMessage_none absent ..

theorem SipMessage.popTopVia_takes (makes : ∀ value, (stack.makeHeader "Via" value).isVia = true ∧ (stack.makeHeader "Via" value).value = value)
    {message : SipMessage} (wellQuoted : AllWellQuoted Header.isVia message.headers) (values : message.viaStack = top :: rest) :
    ∃ popped, message.popTopVia stack = .ok (some top,popped) ∧ popped.viaStack = rest ∧
      others Header.isVia popped.headers = others Header.isVia message.headers ∧
      popped.startLine = message.startLine ∧ popped.body = message.body ∧ AllWellQuoted Header.isVia popped.headers :=
  popMessage_takes wellQuoted values makes "failed to split top Via"

end Stack

theorem via_stack_popped (stack : SipStack)
    (makes : ∀ value, (stack.makeHeader "Via" value).isVia = true ∧ (stack.makeHeader "Via" value).value = value)
    (message : SipMessage) (wellQuoted : AllWellQuoted Header.isVia message.headers) :
    (match message.viaStack with
      | [] => message.popTopVia stack = .ok (none,message)
      | top :: rest => ∃ popped, message.popTopVia stack = .ok (some top,popped) ∧ popped.viaStack = rest ∧
          others Header.isVia popped.headers = others Header.isVia message.headers ∧
          popped.startLine = message.startLine ∧ popped.body = message.body ∧ AllWellQuoted Header.isVia popped.headers) ∧
    ∀ transport sentBy branch host, stack.hostWithPort sentBy = .ok host → (stack.viaHeader transport host branch).isVia = true →
      OneValue (stack.viaHeader transport host branch).value →
      ∃ top sent, message.prependVia stack transport sentBy branch = .ok sent ∧ AllWellQuoted Header.isVia sent.headers ∧
        sent.viaStack = top :: message.viaStack ∧ sent.popTopVia stack = .ok (some top,message) ∧
        ∀ returned : SipMessage, AllWellQuoted Header.isVia returned.headers → returned.viaStack = sent.viaStack →
          ∃ popped, returned.popTopVia stack = .ok (some top,popped) ∧ popped.viaStack = message.viaStack ∧
            others Header.isVia popped.headers = others Header.isVia returned.headers := by
  constructor
  · cases values : message.viaStack with
    | nil => exact SipMessage.popTopVia_none values
    | cons top rest => exact SipMessage.popTopVia_takes makes wellQuoted values
  · intro transport sentBy branch host parsed isVia one
    have stacked : valuesOf Header.isVia (stack.viaHeader transport host branch :: message.headers) =
        trim (stack.viaHeader transport host branch).value :: message.viaStack := by
      rw [valuesOf_cons isVia,headerValues_one one]
      rfl
    refine ⟨_,{ message with headers := stack.viaHeader transport host branch :: message.headers },?_,?_,stacked,?_,?_⟩
    · simp [SipMessage.prependVia,parsed,withContext,Except.mapError,bind,Except.bind,pure,Except.pure]
    · intro header member found
      cases List.mem_cons.mp member with
      | inl same => exact same ▸ one.quoted
      | inr before => exact wellQuoted header before found
    · simp only [SipMessage.popTopVia,popTop_one isVia one,bind,Except.bind,pure,Except.pure]
    · intro returned quoted regrouped
      obtain ⟨popped,taken,remaining,unchanged,_⟩ := SipMessage.popTopVia_takes makes quoted (regrouped.trans stacked)
      exact ⟨popped,taken,remaining,unchanged⟩

def plainStack : SipStack where
  HostWithPort := String
  Uri := String
  makeHeader name value := if eqIgnoreAsciiCase name "Via" then .via value else .other name value
  hostWithPort := .ok
  uri := .ok
  viaHeader transport host branch := .via ("SIP/2.0/" ++ (if transport = .udp then "UDP" else "TCP") ++ " " ++ host ++ ";branch=" ++ branch ++ ";rport")
  recordRouteHeader uri := .standard "Record-Route" ("<" ++ uri ++ ">")

theorem trailing_comma_unlisted : ¬∀ message : SipMessage, AllWellQuoted Header.isVia message.headers →
    match fieldsOf Header.isVia message.headers with
    | [] => message.popTopVia plainStack = .ok (none,message)
    | top :: rest => ∃ popped, message.popTopVia plainStack = .ok (some top,popped) ∧ fieldsOf Header.isVia popped.headers = rest := by
  intro all
  have here := all ⟨.response "SIP/2.0" 180 "Ringing",[.via "SIP/2.0/UDP client.example.com;branch=z9hG4bK-client,"],[]⟩ (by decide)
  obtain ⟨popped,taken,remaining⟩ := here
  cases (show Except.ok _ = Except.ok _ from taken)
  exact absurd remaining (by decide)

theorem plainStack_makes (value : String) : (plainStack.makeHeader "Via" value).isVia = true ∧ (plainStack.makeHeader "Via" value).value = value :=
  ⟨rfl,rfl⟩

def clientVia : String := "SIP/2.0/UDP a.example;branch=z9hG4bK-a"
def proxyVia : String := "SIP/2.0/UDP b.example;branch=z9hG4bK-b;rport"
def viaRequest : SipMessage := ⟨.request "OPTIONS" "sip:100@example.com" "SIP/2.0",[.via clientVia],[]⟩
def viaResponse : SipMessage := ⟨.response "SIP/2.0" 200 "OK",[.other "Call-ID" "c1",.via (joined [proxyVia,clientVia])],[]⟩

-- The upstream answers with the two values of the request in one header.
theorem merged_stack_popped : ∃ popped, viaResponse.popTopVia plainStack = .ok (some proxyVia,popped) ∧ popped.viaStack = viaRequest.viaStack := by
  obtain ⟨top,sent,prepended,_,stacked,_,restored⟩ := (via_stack_popped plainStack plainStack_makes viaRequest (by decide +kernel)).2
    .udp "b.example" "z9hG4bK-b" "b.example" rfl rfl (by decide +kernel)
  have words : ∀ group ∈ [[proxyVia,clientVia]], ∀ value ∈ group, Splitter.Word headerSplitter isWhiteSpace ',' value.toList := by
    intro group listed value member
    cases List.mem_singleton.mp listed
    rcases List.mem_pair.mp member with rfl | rfl
    all_goals exact ⟨by decide +kernel,by decide +kernel,by decide +kernel,by decide +kernel⟩
  have grouped : viaResponse.viaStack = [proxyVia,clientVia] :=
    regrouped_stack plainStack_makes (List.forall_mem_singleton.mpr (List.cons_ne_nil _ _)) words rfl
  have client : viaRequest.viaStack = [clientVia] := by decide +kernel
  have same : top = proxyVia := by
    cases prepended
    have both : valuesOf Header.isVia [.via proxyVia,.via clientVia] = [proxyVia,clientVia] := by decide +kernel
    exact (List.cons.inj (stacked.symm.trans both)).1
  obtain ⟨popped,taken,remaining,_⟩ := restored viaResponse (by decide +kernel) (by rw [grouped,stacked,same,client])
  exact ⟨popped,same ▸ taken,remaining⟩

end Sigproxy.Proxy
