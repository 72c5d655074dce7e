import Mathlib.Data.List.DropRight
import Sigproxy.Library.Fields
import Sigproxy.Library.TextSlices
import Sigproxy.Proxy.Message

namespace Sigproxy.Proxy.StartLines
open Library TextSlices

section Lines

-- `parse::<u16>`: a plus in front is allowed, another sign is not.
def parseU16 (text : String) : Option Nat :=
  let digits := match text.toList with
    | '+' :: rest => rest
    | digits => digits
  if digits = [] ∨ ¬digits.all Char.isDigit then none
  else if Nat.ofDigitChars 10 digits 0 < 2 ^ 16 then some (Nat.ofDigitChars 10 digits 0) else none

def trimEndMatches (char : Char) (text : String) : String := .ofList (text.toList.rdropWhile (· == char))

-- The line is split at its first two spaces.
def readStartLine (line : String) : Option SipStartLine :=
  let parts := (Fields.splitn ' ' 3 line.toList).map String.ofList
  if "SIP/".isPrefixOf line then do
    let version ← parts[0]?
    let code ← parts[1]?
    let code ← parseU16 code
    return .response version code (parts[2]?.getD "")
  else do
    let method ← parts[0]?
    let uri ← parts[1]?
    let version ← parts[2]?
    return .request method uri version

def parseStartLine (bytes : List UInt8) : Option SipStartLine := do
  let lineEnd ← bytes.findIdx? (· == 10)
  let line ← String.fromUTF8? ⟨(bytes.take lineEnd).toArray⟩
  readStartLine (trimEndMatches '\r' line)

def renderStartLine : SipStartLine → String
  | .request method uri version => method ++ " " ++ uri ++ " " ++ version
  | .response version code reason => version ++ " " ++ toString code ++ " " ++ reason

def replaceStartLine (bytes : List UInt8) (startLine : SipStartLine) : List UInt8 :=
  match bytes.findIdx? (· == 10) with
  | none => bytes
  | some lineEnd =>
    let newlineStart := if 0 < lineEnd ∧ bytes[lineEnd - 1]? = some 13 then lineEnd - 1 else lineEnd
    octets (renderStartLine startLine) ++ bytes.drop newlineStart

end Lines

section Messages

-- The parsed message of the SIP stack, with the start line that it would write itself.
structure InnerStack (Inner : Type) where
  tryFrom : List UInt8 → Except String Inner
  startLine : Inner → SipStartLine
  toBytes : Inner → List UInt8

structure WireMessage (Inner : Type) where
  inner : Inner
  startLine : SipStartLine

variable {Inner : Type} (stack : InnerStack Inner)

def WireMessage.fromInner (inner : Inner) : WireMessage Inner := ⟨inner,stack.startLine inner⟩

def WireMessage.parse (bytes : List UInt8) : Except String (WireMessage Inner) := do
  let inner ← (stack.tryFrom bytes).mapError fun error => "failed to parse SIP message: " ++ error
  let message := WireMessage.fromInner stack inner
  match parseStartLine bytes with
  | some startLine => return { message with startLine }
  | none => return message

def WireMessage.toBytes (message : WireMessage Inner) : List UInt8 := replaceStartLine (stack.toBytes message.inner) message.startLine

end Messages

section Octets

theorem octets_returns (count : Nat) : octets (.ofList (List.replicate count '\r')) = List.replicate count 13 := by
  induction count with
  | zero => rfl
  | succ count ih =>
      rw [List.replicate_succ,String.ofList_cons,octets_append,ih]
      rfl

-- The bytes begin with the line, the carriage returns behind it and a line feed.
def StartsWithLine (bytes : List UInt8) (line : String) : Prop :=
  ∃ returns rest, bytes = octets line ++ List.replicate returns 13 ++ 10 :: rest ∧ 10 ∉ octets line ∧ line.toList.getLast? ≠ some '\r'

theorem trimEndMatches_parts (char : Char) (text : String) :
    ∃ count, text = trimEndMatches char text ++ .ofList (List.replicate count char) := by
  have same : ∀ found ∈ text.toList.rtakeWhile (· == char), found = char := by
    intro found member
    have passed := List.mem_rtakeWhile_imp member
    exact beq_iff_eq.mp passed
  refine ⟨(text.toList.rtakeWhile (· == char)).length,?_⟩
  rw [← List.eq_replicate_of_mem same,trimEndMatches,← String.ofList_append,List.rdropWhile_append_rtakeWhile,String.ofList_toList]

theorem trimEndMatches_ends (char : Char) (text : String) : (trimEndMatches char text).toList.getLast? ≠ some char := by
  rw [trimEndMatches,String.toList_ofList]
  by_cases empty : text.toList.rdropWhile (· == char) = []
  · rw [empty]
    exact nofun
  · rw [List.getLast?_eq_some_getLast empty]
    intro same
    have other := List.rdropWhile_last_not (· == char) text.toList empty
    rw [Option.some.inj same] at other
    exact other (beq_self_eq_true char)

theorem line_found {bytes : List UInt8} (found : bytes.findIdx? (· == 10) = some lineEnd) :
    10 ∉ bytes.take lineEnd ∧ ∃ rest, bytes = bytes.take lineEnd ++ 10 :: rest := by
  obtain ⟨inside,here,before⟩ := List.findIdx?_eq_some_iff_getElem.mp found
  constructor
  · intro member
    obtain ⟨index,below,same⟩ := List.mem_iff_getElem.mp member
    rw [List.getElem_take] at same
    rw [List.length_take] at below
    exact before index (by omega) (beq_iff_eq.mpr same)
  · refine ⟨bytes.drop (lineEnd + 1),?_⟩
    rw [← beq_iff_eq.mp here,← List.drop_eq_getElem_cons inside,List.take_append_drop]

theorem parseStartLine_line (accepted : parseStartLine bytes = some startLine) :
    ∃ line, StartsWithLine bytes line ∧ readStartLine line = some startLine := by
  obtain ⟨lineEnd,found,accepted⟩ := Option.bind_eq_some_iff.mp accepted
  obtain ⟨text,decoded,accepted⟩ := Option.bind_eq_some_iff.mp accepted
  obtain ⟨count,parts⟩ := trimEndMatches_parts '\r' text
  obtain ⟨none,rest,split⟩ := line_found found
  have same : octets (trimEndMatches '\r' text) ++ List.replicate count 13 = bytes.take lineEnd := by
    rw [← octets_returns,← octets_append,← parts,octets_decoded decoded]
  refine ⟨trimEndMatches '\r' text,⟨count,rest,by rw [same,← split],?_,trimEndMatches_ends '\r' text⟩,accepted⟩
  intro member
  exact none (same ▸ List.mem_append_left _ member)

end Octets

section Reading

-- The fields of the line, three at most.
theorem line_fields (line : String) : ∃ first, Fields.splitn ' ' 3 line.toList = [first] ∨
    (∃ second, Fields.splitn ' ' 3 line.toList = [first,second] ∧ line = .ofList first ++ " " ++ .ofList second ∧ ' ' ∉ second) ∨
    ∃ second third, Fields.splitn ' ' 3 line.toList = [first,second,third] ∧
      line = .ofList first ++ " " ++ .ofList second ++ " " ++ .ofList third ∧ ' ' ∉ second := by
  have joined := Fields.splitn_joined ' ' 2 line.toList
  have length := Fields.splitn_length ' ' 3 line.toList
  have nonempty := Fields.splitn_ne_nil ' ' 2 line.toList
  have free : ∀ field, (Fields.splitn ' ' 3 line.toList)[1]? = some field → ' ' ∉ field :=
    fun _ => Fields.splitn_free ' ' 2 line.toList 1 (by decide)
  generalize Fields.splitn ' ' 3 line.toList = fields at *
  match fields with
  | [] => exact absurd rfl nonempty
  | [first] => exact ⟨first,.inl rfl⟩
  | [first,second] =>
      refine ⟨first,.inr (.inl ⟨second,rfl,?_,free second rfl⟩)⟩
      rw [← String.toList_inj,← joined]
      simp
  | [first,second,third] =>
      refine ⟨first,.inr (.inr ⟨second,third,rfl,?_,free second rfl⟩)⟩
      rw [← String.toList_inj,← joined]
      simp
  | _ :: _ :: _ :: _ :: rest => exact absurd length (by simp)

theorem coded {version code reason : String} (accepted : (do
      let version ← some version
      let code ← some code
      let code ← parseU16 code
      return SipStartLine.response version code reason) = some startLine) :
    (parseU16 code).bind (fun code => some (.response version code reason)) = some startLine := accepted

theorem readStartLine_request (accepted : readStartLine line = some (.request method uri version)) :
    line = renderStartLine (.request method uri version) := by
  obtain ⟨first,alone | ⟨second,pair,_,_⟩ | ⟨second,third,all,whole,_⟩⟩ := line_fields line
  · rw [readStartLine,alone] at accepted
    split at accepted <;> cases accepted
  · rw [readStartLine,pair] at accepted
    split at accepted
    · obtain ⟨_,_,read⟩ := Option.bind_eq_some_iff.mp (coded accepted)
      cases read
    · cases accepted
  · rw [readStartLine,all] at accepted
    split at accepted
    · obtain ⟨_,_,read⟩ := Option.bind_eq_some_iff.mp (coded accepted)
      cases read
    · cases accepted
      exact whole

theorem readStartLine_response (accepted : readStartLine line = some (.response version code reason)) :
    ∃ codeText, parseU16 codeText = some code ∧ ' ' ∉ codeText.toList ∧
      (line = version ++ " " ++ codeText ++ " " ++ reason ∨ line = version ++ " " ++ codeText ∧ reason = "") := by
  obtain ⟨first,alone | ⟨second,pair,whole,free⟩ | ⟨second,third,all,whole,free⟩⟩ := line_fields line
  · rw [readStartLine,alone] at accepted
    split at accepted <;> cases accepted
  · rw [readStartLine,pair] at accepted
    split at accepted
    · obtain ⟨number,parsed,read⟩ := Option.bind_eq_some_iff.mp (coded accepted)
      cases read
      exact ⟨_,parsed,String.toList_ofList.symm ▸ free,.inr ⟨whole,rfl⟩⟩
    · cases accepted
  · rw [readStartLine,all] at accepted
    split at accepted
    · obtain ⟨number,parsed,read⟩ := Option.bind_eq_some_iff.mp (coded accepted)
      cases read
      exact ⟨_,parsed,String.toList_ofList.symm ▸ free,.inl whole⟩
    · cases accepted

end Reading

section Relaying
variable {Inner : Type} {message : WireMessage Inner} {bytes : List UInt8} {startLine : SipStartLine}

-- A response line is rendered as it came where its code is written in decimal, with no
-- sign and no zeros in front, and a space follows it.
theorem verbatim_iff {line version codeText reason : String} (code : Nat) (free : ' ' ∉ codeText.toList)
    (whole : line = version ++ " " ++ codeText ++ " " ++ reason ∨ line = version ++ " " ++ codeText ∧ reason = "") :
    renderStartLine (.response version code reason) = line ↔
      codeText = toString code ∧ line = version ++ " " ++ codeText ++ " " ++ reason := by
  rw [renderStartLine]
  constructor
  · intro rendered
    rcases whole with whole | ⟨short,rfl⟩
    · refine ⟨?_,whole⟩
      rw [whole,← String.toList_inj] at rendered
      rw [← String.toList_inj]
      simpa using rendered.symm
    · rw [short,← String.toList_inj] at rendered
      have spaced : (toString code).toList ++ [' '] = codeText.toList := by simpa using rendered
      exact absurd (spaced ▸ List.mem_append_right _ List.mem_cons_self) free
  · intro ⟨canonical,whole⟩
    rw [whole,canonical]

theorem replaceStartLine_own {own tail : List UInt8} (oneLine : 10 ∉ own) (startLine : SipStartLine) :
    replaceStartLine (own ++ 13 :: 10 :: tail) startLine = octets (renderStartLine startLine) ++ 13 :: 10 :: tail := by
  have otherwise : ∀ octet ∈ own, (octet == 10) = false := by
    intro octet member
    apply Bool.eq_false_iff.mpr
    intro same
    exact oneLine (beq_iff_eq.mp same ▸ member)
  have found : (own ++ 13 :: 10 :: tail).findIdx? (· == 10) = some (own.length + 1) := by
    rw [List.findIdx?_append,List.findIdx?_eq_none_iff.mpr otherwise,Option.none_or]
    exact congrArg some (Nat.add_comm 1 own.length)
  have before : (own ++ 13 :: 10 :: tail)[own.length]? = some 13 := by
    rw [List.getElem?_append_right (Nat.le_refl _),Nat.sub_self]
    rfl
  rw [replaceStartLine,found]
  dsimp only
  rw [Nat.add_sub_cancel,if_pos ⟨Nat.succ_pos _,before⟩,List.drop_left]

theorem parse_startLine {stack : InnerStack Inner} (parsed : WireMessage.parse stack bytes = .ok message)
    (accepted : parseStartLine bytes = some startLine) : message.startLine = startLine := by
  rw [WireMessage.parse,accepted] at parsed
  cases found : stack.tryFrom bytes with
  | error error =>
      rw [found] at parsed
      cases parsed
  | ok inner =>
      rw [found] at parsed
      cases parsed
      rfl

-- A response without a reason phrase and without the space in front of it gains the space.
theorem short_response_spaced : ¬∀ bytes line startLine, parseStartLine bytes = some startLine → StartsWithLine bytes line →
    renderStartLine startLine = line := by
  intro verbatim
  have accepted : parseStartLine [83,73,80,47,50,46,48,32,50,48,48,13,10] = some (.response "SIP/2.0" 200 "") := by decide +kernel
  have line : StartsWithLine [83,73,80,47,50,46,48,32,50,48,48,13,10] "SIP/2.0 200" :=
    ⟨1,[],by decide +kernel,by decide +kernel,by decide +kernel⟩
  exact absurd (verbatim _ _ _ accepted line) (by decide)

-- What is rendered of a line that was read so: the line of a request, and of a response
-- its line wherever the code and the space behind it are canonical.
def RenderedFrom (line : String) : SipStartLine → Prop
  | .request method uri version => renderStartLine (.request method uri version) = line
  | .response version code reason => ∃ codeText, parseU16 codeText = some code ∧ ' ' ∉ codeText.toList ∧
      (line = version ++ " " ++ codeText ++ " " ++ reason ∨ line = version ++ " " ++ codeText ∧ reason = "") ∧
      (renderStartLine (.response version code reason) = line ↔
        codeText = toString code ∧ line = version ++ " " ++ codeText ++ " " ++ reason)

-- Whatever becomes of the headers and the body, the start line is rendered from the line
-- that came in and stands in front of them.
theorem start_line_relayed (stack : InnerStack Inner) (parsed : WireMessage.parse stack bytes = .ok message)
    (accepted : parseStartLine bytes = some startLine) :
    ∃ line, StartsWithLine bytes line ∧ RenderedFrom line startLine ∧
      ∀ rewritten own tail, 10 ∉ own → stack.toBytes rewritten = own ++ 13 :: 10 :: tail →
        WireMessage.toBytes stack { message with inner := rewritten } = octets (renderStartLine startLine) ++ 13 :: 10 :: tail := by
  obtain ⟨line,starts,read⟩ := parseStartLine_line accepted
  refine ⟨line,starts,?_,?_⟩
  · cases startLine with
    | request method uri version => exact (readStartLine_request read).symm
    | response version code reason =>
        obtain ⟨codeText,coded,free,whole⟩ := readStartLine_response read
        exact ⟨codeText,coded,free,whole,verbatim_iff code free whole⟩
  · intro rewritten own tail oneLine written
    rw [WireMessage.toBytes,written,parse_startLine parsed accepted,replaceStartLine_own oneLine]

-- The stack writes its own text for the code, and the reason that came in stands.
def loopDetected : InnerStack (List UInt8) :=
  ⟨fun _ => .ok (octets "\r\n"),fun _ => .response "SIP/2.0" 482 "Loop Detected",fun rest => octets "SIP/2.0 482 Loop Detected\r\n" ++ rest⟩

theorem merged_response_relayed : ∃ line, StartsWithLine (octets "SIP/2.0 482 Request merged\r\n\r\n") line ∧
    RenderedFrom line (.response "SIP/2.0" 482 "Request merged") ∧
    ∀ rewritten own tail, 10 ∉ own → loopDetected.toBytes rewritten = own ++ 13 :: 10 :: tail →
      WireMessage.toBytes loopDetected ⟨rewritten,.response "SIP/2.0" 482 "Request merged"⟩ =
        octets (renderStartLine (.response "SIP/2.0" 482 "Request merged")) ++ 13 :: 10 :: tail :=
  have accepted : parseStartLine (octets "SIP/2.0 482 Request merged\r\n\r\n") = some (.response "SIP/2.0" 482 "Request merged") := by
    decide +kernel
  have parsed : WireMessage.parse loopDetected (octets "SIP/2.0 482 Request merged\r\n\r\n") =
      .ok ⟨octets "\r\n",.response "SIP/2.0" 482 "Request merged"⟩ := by
    rw [WireMessage.parse,accepted]
    rfl
  start_line_relayed loopDetected parsed accepted

end Relaying

end Sigproxy.Proxy.StartLines
