import Mathlib.Algebra.Order.BigOperators.Group.List
import Sigproxy.Library.Splitter
import Sigproxy.Proxy.Message
import Sigproxy.Security.Validation

namespace Sigproxy.Proxy
open Library Net
open Security (withContext)

-- The Via variant, the other standard variants under their names, and what the
-- parser kept as Other.
inductive Header where
  | via (value : String)
  | standard (name value : String)
  | other (name value : String)
  deriving DecidableEq, Repr

def Header.name : Header → String
  | .via _ => "Via"
  | .standard name _ => name
  | .other name _ => name

def Header.value : Header → String
  | .via value => value
  | .standard _ value => value
  | .other _ value => value

def Header.isVia : Header → Bool
  | .via _ => true
  | .standard .. => false
  | .other name _ => eqIgnoreAsciiCase name "Via"

def Header.named (name : String) (header : Header) : Bool := eqIgnoreAsciiCase header.name name

structure SipMessage where
  startLine : SipStartLine
  headers : List Header
  body : List UInt8
  deriving DecidableEq, Repr

-- What the SIP stack parses and renders; the last two are the conversions of a
-- typed Via (with a branch and an empty rport) and of a typed Record-Route.
structure SipStack where
  HostWithPort : Type
  Uri : Type
  makeHeader : String → String → Header
  hostWithPort : String → Except String HostWithPort
  uri : String → Except String Uri
  viaHeader : SipTransport → HostWithPort → String → Header
  recordRouteHeader : Uri → Header

section Splitting

structure Quoting where
  inQuotes : Bool
  escaped : Bool
  angleDepth : Nat
  deriving DecidableEq, Repr

def Quoting.step (state : Quoting) (char : Char) : Quoting :=
  if state.escaped then { state with escaped := false }
  else
    match char with
    | '\\' => { state with escaped := state.inQuotes }
    | '"' => { state with inQuotes := !state.inQuotes }
    | '<' => if state.inQuotes then state else { state with angleDepth := state.angleDepth + 1 }
    | '>' => if state.inQuotes then state else { state with angleDepth := state.angleDepth - 1 }
    | _ => state

def headerSplitter : Splitter Quoting Char where
  start := ⟨false,false,0⟩
  step := Quoting.step
  separates state char := !state.escaped && char == ',' && !state.inQuotes && state.angleDepth == 0
  closed state := !state.inQuotes

def splitFirstHeaderValue (value : String) : Except String (String × Option String) :=
  if value.isEmpty then .ok (value,none)
  else
    match headerSplitter.first headerSplitter.start value.toList with
    | none => .error "unclosed quoted header value"
    | some (top,rest) => .ok (.ofList top,rest.map .ofList)

-- The text of a header closes its quotes.
def WellQuoted (value : String) : Prop := headerSplitter.closed (headerSplitter.read headerSplitter.start value.toList) = true

instance (value : String) : Decidable (WellQuoted value) := inferInstanceAs (Decidable (_ = true))

-- What stands between the top-level commas of a header.
def headerFields (value : String) : List String := (headerSplitter.fields isWhiteSpace value.toList).map .ofList

-- The values of a header: a blank behind its last top-level comma is none.
def headerValues (value : String) : List String := (headerSplitter.entries isWhiteSpace value.toList).map .ofList

end Splitting

section Operations
variable (stack : SipStack)

def popTop (named : Header → Bool) (rewritten : String → Header) (context : String) (headers : List Header) :
    Except String (Option String × List Header) := do
  let some (header,index) := headers.zipIdx.find? fun entry => named entry.1 | return (none,headers)
  let (top,rest) ← withContext context (splitFirstHeaderValue header.value)
  match rest.filter fun rest => !(trim rest).isEmpty with
  | some rest => return (some (trim top),headers.set index (rewritten (trim rest)))
  | none => return (some (trim top),headers.eraseIdx index)

def SipMessage.popTopVia (message : SipMessage) : Except String (Option String × SipMessage) := do
  let (top,headers) ← popTop Header.isVia (stack.makeHeader "Via") "failed to split top Via" message.headers
  return (top,{ message with headers })

def SipMessage.popTopHeaderValue (name : String) (message : SipMessage) : Except String (Option String × SipMessage) := do
  let (top,headers) ← popTop (Header.named name) (stack.makeHeader name) ("failed to split top " ++ name) message.headers
  return (top,{ message with headers })

def SipMessage.topHeaderValue (name : String) (message : SipMessage) : Except String (Option String) := do
  let some header := message.headers.find? (Header.named name) | return none
  let (top,_) ← withContext ("failed to split top " ++ name) (splitFirstHeaderValue header.value)
  return some (trim top)

def SipMessage.headerTexts (name : String) (message : SipMessage) : List String :=
  (message.headers.filter (Header.named name)).map Header.value

def SipMessage.prependVia (transport : SipTransport) (sentBy branch : String) (message : SipMessage) : Except String SipMessage := do
  let sentBy ← withContext "invalid Via sent-by" (stack.hostWithPort sentBy)
  return { message with headers := stack.viaHeader transport sentBy branch :: message.headers }

def SipMessage.prependRecordRoute (addr : String) (message : SipMessage) : Except String SipMessage := do
  let uri ← withContext "invalid Record-Route URI" (stack.uri ("sip:" ++ addr ++ ";lr"))
  return { message with headers := stack.recordRouteHeader uri :: message.headers }

-- The message wrapper over the header list of a message.
def SipStack.codec {Packet : Type} (rest : Codec Packet SipMessage) : Codec Packet SipMessage :=
  { rest with
    startLine := SipMessage.startLine,
    headers := SipMessage.headerTexts,
    topHeaderValue := SipMessage.topHeaderValue,
    popTopHeaderValue := SipMessage.popTopHeaderValue stack,
    popTopVia := SipMessage.popTopVia stack,
    prependVia := SipMessage.prependVia stack,
    prependRecordRoute := SipMessage.prependRecordRoute stack }

end Operations

-- The values of a header name, in order, however they are grouped into headers.
def valuesOf (named : Header → Bool) (headers : List Header) : List String :=
  (headers.filter named).flatMap fun header => headerValues header.value

def fieldsOf (named : Header → Bool) (headers : List Header) : List String :=
  (headers.filter named).flatMap fun header => headerFields header.value

def AllWellQuoted (named : Header → Bool) (headers : List Header) : Prop := ∀ header ∈ headers, named header = true → WellQuoted header.value

instance (named : Header → Bool) (headers : List Header) : Decidable (AllWellQuoted named headers) :=
  inferInstanceAs (Decidable (∀ header ∈ headers, named header = true → WellQuoted header.value))

section Text

theorem trim_ofList (text : List Char) : trim (.ofList text) = .ofList (trimmed isWhiteSpace text) := by
  rw [trim,String.toList_ofList,trimmed,List.rdropWhile]

theorem trim_isEmpty (text : List Char) : (trim (.ofList text)).isEmpty = true ↔ trimmed isWhiteSpace text = [] := by
  rw [trim_ofList,String.isEmpty_iff,← String.toList_eq_nil_iff,String.toList_ofList]

theorem step_blank (state : Quoting) (isBlank : isWhiteSpace char = true) : state.step char = { state with escaped := false } := by
  unfold Quoting.step
  split
  · rfl
  · rename_i plain
    have plain : state.escaped = false := by simpa using plain
    split
    all_goals first
      | exact absurd isBlank (by decide)
      | simp [← plain]

theorem headerSplitter_lawful : headerSplitter.Lawful isWhiteSpace where
  restarts state char separator := by
    simp only [headerSplitter,Bool.and_eq_true,Bool.not_eq_eq_eq_not,Bool.not_true,beq_iff_eq] at separator
    obtain ⟨⟨⟨plain,rfl⟩,outside⟩,level⟩ := separator
    obtain ⟨inQuotes,escaped,angleDepth⟩ := state
    cases plain
    cases outside
    cases level
    rfl
  leads char isBlank := step_blank headerSplitter.start isBlank
  passes state char isBlank := by
    have other : (char == ',') = false := by
      by_contra same
      rw [Bool.not_eq_false,beq_iff_eq] at same
      subst same
      exact absurd isBlank (by decide)
    simp [headerSplitter,other]
  closes state char isBlank := by
    change (!(state.step char).inQuotes) = !state.inQuotes
    rw [step_blank state isBlank]

-- A header text whose quotes close is split at its first value.
theorem splitFirstHeaderValue_reads (quoted : WellQuoted value) :
    ∃ top rest, splitFirstHeaderValue value = .ok (top,rest) ∧
      match rest.filter fun rest => !(trim rest).isEmpty with
      | none => headerValues value = [trim top]
      | some rest => headerValues value = trim top :: headerValues (trim rest) ∧ WellQuoted (trim rest) := by
  obtain ⟨top,after,found,split⟩ := Splitter.first_reads headerSplitter_lawful.restarts quoted
  have splits : splitFirstHeaderValue value = .ok (.ofList top,after.map .ofList) := by
    unfold splitFirstHeaderValue
    split
    · rename_i empty
      rw [String.isEmpty_iff] at empty
      subst empty
      cases found
      rfl
    · rw [found]
  cases after with
  | none =>
      obtain ⟨rfl,alone⟩ := split
      refine ⟨_,_,splits,?_⟩
      rw [Option.map_none,Option.filter_none,headerValues,Splitter.entries_alone alone,trim_ofList,List.map_singleton]
  | some rest =>
      obtain ⟨split,closes⟩ := split
      have behind := Splitter.entries_behind headerSplitter_lawful split
      by_cases nothing : trimmed isWhiteSpace rest = []
      · have dropped : ((some rest).map String.ofList).filter (fun rest => !(trim rest).isEmpty) = none := by
          rw [Option.map_some,Option.filter_some,(trim_isEmpty rest).mpr nothing]
          rfl
        refine ⟨_,_,splits,?_⟩
        rw [dropped,headerValues,behind,if_pos nothing,trim_ofList,List.map_singleton]
      · have kept : ((some rest).map String.ofList).filter (fun rest => !(trim rest).isEmpty) = some (String.ofList rest) := by
          rw [Option.map_some,Option.filter_some,Bool.eq_false_iff.mpr (mt (trim_isEmpty rest).mp nothing)]
          rfl
        refine ⟨_,_,splits,?_⟩
        rw [kept]
        constructor
        · rw [headerValues,behind,if_neg nothing,List.map_cons,headerValues,trim_ofList,trim_ofList,String.toList_ofList]
        · rw [WellQuoted,trim_ofList,String.toList_ofList]
          exact Splitter.closed_trimmed headerSplitter_lawful closes

theorem headerValues_ne_nil (value : String) : headerValues value ≠ [] :=
  fun none => Splitter.entries_ne_nil _ _ (List.map_eq_nil_iff.mp none)

theorem headerValues_length (value : String) : (headerValues value).length ≤ value.length + 1 := by
  rw [headerValues,List.length_map,← String.length_toList]
  exact Splitter.entries_length _ _

end Text

section Popping
variable {named : Header → Bool} {headers : List Header}

def others (named : Header → Bool) (headers : List Header) : List Header := headers.filter fun header => !named header

theorem valuesOf_nil : valuesOf named headers = [] ↔ ∀ header ∈ headers, ¬named header = true := by
  simp [valuesOf,headerValues_ne_nil]

theorem find_zipIdx (before : List Header) (header : Header) (after : List Header) (start : Nat) (skipped : ∀ earlier ∈ before, ¬named earlier = true)
    (found : named header = true) : ((before ++ header :: after).zipIdx start).find? (fun entry => named entry.1) = some (header,start + before.length) := by
  induction before generalizing start with
  | nil => simp [found]
  | cons first before ih =>
      have rest := ih (start + 1) fun earlier member => skipped earlier (List.mem_cons_of_mem first member)
      rw [List.cons_append,List.zipIdx_cons,List.find?_cons]
      simp only [skipped first List.mem_cons_self]
      rw [rest,List.length_cons,Nat.add_assoc,Nat.add_comm 1]

theorem first_named (values : valuesOf named headers = top :: rest) : ∃ before header after, headers = before ++ header :: after ∧
    (∀ earlier ∈ before, ¬named earlier = true) ∧ named header = true ∧ headerValues header.value ++ valuesOf named after = top :: rest := by
  induction headers with
  | nil => cases values
  | cons header headers ih =>
      by_cases found : named header = true
      · refine ⟨[],header,headers,rfl,by simp,found,?_⟩
        rwa [valuesOf,List.filter_cons_of_pos found,List.flatMap_cons] at values
      · have later : valuesOf named headers = top :: rest := by rwa [valuesOf,List.filter_cons_of_neg found] at values
        obtain ⟨before,first,after,rfl,skipped,named,split⟩ := ih later
        refine ⟨header :: before,first,after,rfl,?_,named,split⟩
        intro earlier member
        cases List.mem_cons.mp member with
        | inl same => exact same ▸ found
        | inr later => exact skipped earlier later

theorem valuesOf_skipped (skipped : ∀ earlier ∈ before, ¬named earlier = true) (headers : List Header) :
    valuesOf named (before ++ headers) = valuesOf named headers := by
  rw [valuesOf,List.filter_append,List.filter_eq_nil_iff.mpr skipped,List.nil_append,valuesOf]

theorem valuesOf_cons (found : named header = true) (headers : List Header) :
    valuesOf named (header :: headers) = headerValues header.value ++ valuesOf named headers := by
  rw [valuesOf,List.filter_cons_of_pos found,List.flatMap_cons,valuesOf]

theorem popTop_none (absent : valuesOf named headers = []) (rewritten : String → Header) (context : String) :
    popTop named rewritten context headers = .ok (none,headers) := by
  have nowhere : headers.zipIdx.find? (fun entry => named entry.1) = none := by
    rw [List.find?_eq_none]
    exact fun pair member => valuesOf_nil.mp absent pair.1 (List.fst_mem_of_mem_zipIdx member)
  unfold popTop
  rw [nowhere]
  rfl

theorem popTop_found {rest : Option String} (located : headers.zipIdx.find? (fun entry => named entry.1) = some (header,index))
    (splits : splitFirstHeaderValue header.value = .ok (top,rest)) (rewritten : String → Header) (context : String) :
    popTop named rewritten context headers = .ok (some (trim top),
      match rest.filter fun rest => !(trim rest).isEmpty with
      | some rest => headers.set index (rewritten (trim rest))
      | none => headers.eraseIdx index) := by
  unfold popTop
  rw [located]
  simp only [splits,withContext,Except.mapError,bind,Except.bind,pure,Except.pure]
  split <;> rfl

-- One pop takes the first of the values and leaves the others, and the other headers, as they stand.
theorem popTop_takes (wellQuoted : AllWellQuoted named headers) (values : valuesOf named headers = top :: rest) {rewritten : String → Header}
    (rewrites : ∀ value, named (rewritten value) = true ∧ (rewritten value).value = value) (context : String) :
    ∃ popped, popTop named rewritten context headers = .ok (some top,popped) ∧ valuesOf named popped = rest ∧
      others named popped = others named headers ∧ AllWellQuoted named popped := by
  obtain ⟨before,header,after,rfl,skipped,found,split⟩ := first_named values
  have quoted : WellQuoted header.value := wellQuoted header (List.mem_append_right before List.mem_cons_self) found
  obtain ⟨text,remainder,splits,behind⟩ := splitFirstHeaderValue_reads quoted
  have located := find_zipIdx before header after 0 skipped found
  rw [Nat.zero_add] at located
  have taken := fun rewritten => popTop_found located splits rewritten context
  have kept (other : Header) (member : other ∈ before ++ after) : named other = true → WellQuoted other.value := by
    apply wellQuoted other
    rw [List.mem_append] at member ⊢
    exact member.imp_right (List.mem_cons_of_mem header)
  cases left : remainder.filter fun rest => !(trim rest).isEmpty with
  | none =>
      rw [left] at behind
      rw [behind,List.singleton_append,List.cons_eq_cons] at split
      obtain ⟨rfl,rfl⟩ := split
      refine ⟨before ++ after,?_,valuesOf_skipped skipped after,?_,kept⟩
      · rw [taken,left,List.eraseIdx_append_of_length_le (Nat.le_refl _),Nat.sub_self,List.eraseIdx_zero,List.tail_cons]
      · simp [others,found]
  | some rest =>
      rw [left] at behind
      obtain ⟨values,restQuoted⟩ := behind
      rw [values,List.cons_append,List.cons_eq_cons] at split
      obtain ⟨rfl,rfl⟩ := split
      obtain ⟨foundAgain,sameText⟩ := rewrites (trim rest)
      refine ⟨before ++ rewritten (trim rest) :: after,?_,?_,?_,?_⟩
      · rw [taken,left]
        simp
      · rw [valuesOf_skipped skipped,valuesOf_cons foundAgain,sameText]
      · simp [others,found,foundAgain]
      · intro other member isNamed
        rw [List.mem_append,List.mem_cons] at member
        rcases member with earlier | rfl | later
        · exact kept other (List.mem_append_left after earlier) isNamed
        · rw [sameText]
          exact restQuoted
        · exact kept other (List.mem_append_right before later) isNamed

section Whole
variable {message : SipMessage}

theorem popMessage_none (absent : valuesOf named message.headers = []) (rewritten : String → Header) (context : String) :
    (do
      let (top,headers) ← popTop named rewritten context message.headers
      return (top,{ message with headers })) = Except.ok (none,message) := by
  rw [popTop_none absent]
  rfl

-- All that a pop changes of a message are its headers.
theorem popMessage_takes (wellQuoted : AllWellQuoted named message.headers) (values : valuesOf named message.headers = top :: rest)
    {rewritten : String → Header} (rewrites : ∀ value, named (rewritten value) = true ∧ (rewritten value).value = value) (context : String) :
    ∃ popped : SipMessage,
      (do
        let (top,headers) ← popTop named rewritten context message.headers
        return (top,{ message with headers })) = Except.ok (some top,popped) ∧
      valuesOf named popped.headers = rest ∧ others named popped.headers = others named message.headers ∧
      popped.startLine = message.startLine ∧ popped.body = message.body ∧ AllWellQuoted named popped.headers := by
  obtain ⟨headers,popped,remaining,unchanged,quoted⟩ := popTop_takes wellQuoted values rewrites context
  refine ⟨{ message with headers },?_,remaining,unchanged,rfl,rfl,quoted⟩
  rw [popped]
  rfl

end Whole

theorem find_header (headers : List Header) (start : Nat) :
    ((headers.zipIdx start).find? (fun entry => named entry.1)).map Prod.fst = headers.find? named := by
  induction headers generalizing start with
  | nil => rfl
  | cons header headers ih =>
      rw [List.zipIdx_cons,List.find?_cons,List.find?_cons]
      cases named header with
      | true => rfl
      | false => exact ih (start + 1)

-- A look at the top value tells what the next pop takes, and fails where it fails.
theorem topHeaderValue_peeks (stack : SipStack) (name : String) (message : SipMessage) :
    message.topHeaderValue name = (message.popTopHeaderValue stack name).map Prod.fst := by
  unfold SipMessage.topHeaderValue SipMessage.popTopHeaderValue
  rw [← find_header message.headers 0]
  cases located : message.headers.zipIdx.find? (fun entry => Header.named name entry.1) with
  | none => simp [popTop,located,bind,Except.bind,pure,Except.pure,Except.map]
  | some entry =>
      obtain ⟨header,index⟩ := entry
      cases splits : splitFirstHeaderValue header.value with
      | error error => simp [popTop,located,splits,withContext,Except.mapError,bind,Except.bind,Except.map]
      | ok split => simp [popTop_found located splits,splits,withContext,Except.mapError,bind,Except.bind,pure,Except.pure,Except.map]

theorem valuesOf_length (name : String) (message : SipMessage) :
    (valuesOf (Header.named name) message.headers).length ≤ ((message.headerTexts name).map fun line => line.length + 1).sum := by
  rw [valuesOf,List.length_flatMap,SipMessage.headerTexts,List.map_map]
  exact List.sum_le_sum fun header _ => headerValues_length header.value

end Popping

end Sigproxy.Proxy
