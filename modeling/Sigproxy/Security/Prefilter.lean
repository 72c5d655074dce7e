import Mathlib.Data.List.DropRight
import Sigproxy.Proxy.RecordRoutes
import Sigproxy.Proxy.StartLines
import Sigproxy.Security.Runtime

-- The look at the first line of a packet before anything of it is parsed.
namespace Sigproxy.Security.Prefilter
open Library TextSlices Net Proxy StartLines

section Definitions

-- `u8::is_ascii_whitespace`, which leaves the vertical tab out.
def isAsciiWhitespace (char : Char) : Bool := ['\t','\n',Char.ofNat 12,'\r',' '].contains char

-- `split_ascii_whitespace().next()`
def firstWord (line : String) : Option String :=
  let word := (line.toList.dropWhile isAsciiWhitespace).takeWhile fun char => !isAsciiWhitespace char
  if word = [] then none else some (.ofList word)

def isKnownSipMethod (method : String) : Bool :=
  ["INVITE","ACK","BYE","CANCEL","OPTIONS","REGISTER","MESSAGE","INFO","UPDATE","REFER","NOTIFY","PUBLISH","SUBSCRIBE","PRACK"].contains method

def isProbableSipStartLine (packet : List UInt8) (requireKnownMethod : Bool) : Bool :=
  let stop := (packet.findIdx? fun byte => byte == 13 || byte == 10).getD packet.length
  match String.fromUTF8? ⟨(packet.take stop).toArray⟩ with
  | none => false
  | some line =>
    let line := trim line
    if startsWith line "SIP/2.0 " then true
    else if !occursIn " SIP/2.0".toList line.toList then false
    else match firstWord line with
      | none => false
      | some method => !requireKnownMethod || isKnownSipMethod method

end Definitions

section Front
variable {packet : List UInt8} {line : String}

-- A line whose words are its method, a URI and the version, or a status line of that version.
def Formed : SipStartLine → Prop
  | .request method uri version => method ≠ "" ∧ (∀ char ∈ method.toList ++ uri.toList, isWhiteSpace char = false) ∧ version = "SIP/2.0"
  | .response version _ _ => version = "SIP/2.0"

-- What is looked at is the line up to its first carriage return.
theorem front_read (starts : StartsWithLine packet line) :
    String.fromUTF8? ⟨(packet.take ((packet.findIdx? fun byte => byte == 13 || byte == 10).getD packet.length)).toArray⟩ =
      some (.ofList (line.toList.takeWhile (· != '\r'))) := by
  obtain ⟨returns,rest,rfl,oneLine,_⟩ := starts
  have parts : octets line = octets (.ofList (line.toList.takeWhile (· != '\r'))) ++ octets (.ofList (line.toList.dropWhile (· != '\r'))) := by
    rw [← octets_append,← String.ofList_append,List.takeWhile_append_dropWhile,String.ofList_toList]
  have before : ∀ octet ∈ octets (.ofList (line.toList.takeWhile (· != '\r'))), (octet == 13 || octet == 10) = false := by
    intro octet member
    have noFeed : octet ≠ 10 := by
      rintro rfl
      exact oneLine (parts ▸ List.mem_append_left _ member)
    have noReturn : octet ≠ 13 := by
      rintro rfl
      have stands : '\r' ∈ line.toList.takeWhile (· != '\r') := octet_stands member (by decide)
      simpa using List.mem_takeWhile_imp stands
    simp [noFeed,noReturn]
  obtain ⟨stop,behind,tail,stops⟩ : ∃ stop behind, octets (.ofList (line.toList.dropWhile (· != '\r'))) ++ (List.replicate returns 13 ++ 10 :: rest) =
      stop :: behind ∧ (stop == 13 || stop == 10) = true := by
    cases left : line.toList.dropWhile (· != '\r') with
    | nil =>
        cases returns with
        | zero => exact ⟨10,rest,rfl,rfl⟩
        | succ returns => exact ⟨13,List.replicate returns 13 ++ 10 :: rest,rfl,rfl⟩
    | cons char chars =>
        have found : char = '\r' := by
          have refused := List.head?_dropWhile_not (· != '\r') line.toList
          rw [left] at refused
          simpa using refused
        subst found
        exact ⟨13,octets (.ofList chars) ++ (List.replicate returns 13 ++ 10 :: rest),by rw [octets_flatMap,octets_flatMap]; rfl,rfl⟩
  rw [parts,List.append_assoc,List.append_assoc,tail,List.findIdx?_append,List.findIdx?_eq_none_iff.mpr before,Option.none_or,
    List.findIdx?_cons,if_pos stops,Option.map_some,Option.getD_some,Nat.zero_add,List.take_left,octets_decode]

end Front
end Sigproxy.Security.Prefilter
