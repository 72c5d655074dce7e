import Sigproxy.Library.Fields
import Sigproxy.Library.Numerals
import Sigproxy.Library.Octets
import Sigproxy.Net

namespace Sigproxy.Net
open Library

section Addresses

-- The socket addresses of the standard library, with what the server does not look at.
structure SocketAddrV4 where
  ip : BitVec 32
  port : BitVec 16
  deriving DecidableEq, Repr

structure SocketAddrV6 where
  ip : BitVec 128
  port : BitVec 16
  flowinfo : BitVec 32
  scopeId : BitVec 32
  deriving DecidableEq, Repr

inductive StdSocketAddr where
  | v4 (addr : SocketAddrV4)
  | v6 (addr : SocketAddrV6)
  deriving DecidableEq, Repr

def StdSocketAddr.socketAddr : StdSocketAddr → SocketAddr
  | .v4 addr => ⟨.v4 addr.ip,addr.port⟩
  | .v6 addr => ⟨.v6 addr.ip,addr.port⟩

def SocketAddr.std : SocketAddr → StdSocketAddr
  | ⟨.v4 ip,port⟩ => .v4 ⟨ip,port⟩
  | ⟨.v6 ip,port⟩ => .v6 ⟨ip,port,0,0⟩

-- All that an address is shown with: the flow label is not.
def StdSocketAddr.shown : StdSocketAddr → SocketAddr × BitVec 32
  | .v4 addr => (⟨.v4 addr.ip,addr.port⟩,0)
  | .v6 addr => (⟨.v6 addr.ip,addr.port⟩,addr.scopeId)

end Addresses

section Text

def showIpv4 (ip : BitVec 32) : List Char :=
  ['.'].intercalate ([3,2,1,0].map fun place => Nat.toDigits 10 (ip.extractLsb' (8 * place) 8).toNat)

def segments (ip : BitVec 128) : List (BitVec 16) := [7,6,5,4,3,2,1,0].map fun place => ip.extractLsb' (16 * place) 16

def toIpv4Mapped (ip : BitVec 128) : Option (BitVec 32) :=
  if ip.extractLsb' 32 96 = 0xFFFF#96 then some (ip.extractLsb' 0 32) else none

structure ZeroSpan where
  start : Nat
  len : Nat
  deriving DecidableEq, Repr

structure ZeroSpans where
  longest : ZeroSpan
  current : ZeroSpan

def ZeroSpans.step (spans : ZeroSpans) (entry : BitVec 16 × Nat) : ZeroSpans :=
  if entry.1 = 0 then
    let current : ZeroSpan := ⟨if spans.current.len = 0 then entry.2 else spans.current.start,spans.current.len + 1⟩
    ⟨if spans.longest.len < current.len then current else spans.longest,current⟩
  else { spans with current := ⟨0,0⟩ }

-- The first of the longest runs of zeros.
def zeroes (segments : List (BitVec 16)) : ZeroSpan := (segments.zipIdx.foldl ZeroSpans.step ⟨⟨0,0⟩,⟨0,0⟩⟩).longest

def fmtSubslice (chunk : List (BitVec 16)) : List Char := [':'].intercalate (chunk.map fun segment => Nat.toDigits 16 segment.toNat)

def showIpv6 (ip : BitVec 128) : List Char :=
  match toIpv4Mapped ip with
  | some ipv4 => "::ffff:".toList ++ showIpv4 ipv4
  | none =>
    let span := zeroes (segments ip)
    if 1 < span.len then
      fmtSubslice ((segments ip).take span.start) ++ "::".toList ++ fmtSubslice ((segments ip).drop (span.start + span.len))
    else fmtSubslice (segments ip)

def showPort (port : BitVec 16) : List Char := Nat.toDigits 10 port.toNat

def StdSocketAddr.text : StdSocketAddr → List Char
  | .v4 addr => showIpv4 addr.ip ++ ':' :: showPort addr.port
  | .v6 addr =>
    let scope := if addr.scopeId = 0 then [] else '%' :: Nat.toDigits 10 addr.scopeId.toNat
    '[' :: (showIpv6 addr.ip ++ scope) ++ ']' :: ':' :: showPort addr.port

-- `Display` of an address.
def StdSocketAddr.display (addr : StdSocketAddr) : String := .ofList addr.text

end Text

section Numbers

theorem not_mem_decimal {char : Char} (other : ∀ digit < 16, Nat.digitChar digit ≠ char) (number : Nat) : char ∉ Nat.toDigits 10 number :=
  Numerals.not_mem_toDigits (by decide) (by decide) other number

theorem not_mem_hex {char : Char} (other : ∀ digit < 16, Nat.digitChar digit ≠ char) (number : Nat) : char ∉ Nat.toDigits 16 number :=
  Numerals.not_mem_toDigits (by decide) (by decide) other number

theorem decimal_inj {first second : BitVec width} : Nat.toDigits 10 first.toNat = Nat.toDigits 10 second.toNat ↔ first = second := by
  rw [Numerals.toDigits_inj (by decide) (by decide),BitVec.toNat_inj]

theorem hex_inj {first second : BitVec width} : Nat.toDigits 16 first.toNat = Nat.toDigits 16 second.toNat ↔ first = second := by
  rw [Numerals.toDigits_inj (by decide) (by decide),BitVec.toNat_inj]

end Numbers

section Ipv4

theorem showIpv4_free {char : Char} (other : ∀ digit < 16, Nat.digitChar digit ≠ char) (notDot : char ≠ '.') (ip : BitVec 32) :
    char ∉ showIpv4 ip := by
  apply Fields.not_mem_joined notDot
  intro field member
  obtain ⟨place,_,rfl⟩ := List.mem_map.mp member
  exact not_mem_decimal other _

theorem showIpv4_inj {first second : BitVec 32} : showIpv4 first = showIpv4 second ↔ first = second := by
  have free (ip : BitVec 32) : ∀ field ∈ [3,2,1,0].map fun place => Nat.toDigits 10 (ip.extractLsb' (8 * place) 8).toNat, '.' ∉ field := by
    intro field member
    obtain ⟨place,_,rfl⟩ := List.mem_map.mp member
    exact not_mem_decimal (by decide) _
  unfold showIpv4
  rw [Fields.joined_inj (by simp) (by simp) (free first) (free second),List.map_inj_left]
  simp only [decimal_inj]
  constructor
  · intro same
    apply Octets.eq_of_pieces 8 (by decide)
    intro place inside
    have listed : ∀ place < 4, place ∈ [3,2,1,0] := by decide
    exact same place (listed place (by omega))
  · intro same place _
    rw [same]

end Ipv4

section Zeros
variable {parts : List (BitVec 16)} {spans : ZeroSpans}

-- The segments of the span are zeros.
def Covers (parts : List (BitVec 16)) (span : ZeroSpan) : Prop :=
  ∃ before after, parts = before ++ List.replicate span.len 0 ++ after ∧ before.length = span.start

theorem Covers.longer (covers : Covers parts span) (segment : BitVec 16) : Covers (parts ++ [segment]) span := by
  obtain ⟨before,after,rfl,start⟩ := covers
  exact ⟨before,after ++ [segment],by simp,start⟩

theorem covers_none (parts : List (BitVec 16)) : Covers parts ⟨0,0⟩ := ⟨[],parts,rfl,rfl⟩

-- The current run ends with what has been read.
structure Scanned (parts : List (BitVec 16)) (spans : ZeroSpans) : Prop where
  longest : Covers parts spans.longest
  current : spans.current.len ≠ 0 → ∃ before, parts = before ++ List.replicate spans.current.len 0 ∧ before.length = spans.current.start

theorem scanned_step (scanned : Scanned parts spans) (segment : BitVec 16) :
    Scanned (parts ++ [segment]) (spans.step (segment,parts.length)) := by
  unfold ZeroSpans.step
  split
  · rename_i zero
    have isZero : segment = 0 := zero
    subst isZero
    have running : ∃ before, parts ++ [0] = before ++ List.replicate (spans.current.len + 1) 0 ∧
        before.length = (if spans.current.len = 0 then parts.length else spans.current.start) := by
      split
      · rename_i fresh
        exact ⟨parts,by rw [fresh]; rfl,rfl⟩
      · rename_i within
        obtain ⟨before,split,start⟩ := scanned.current within
        exact ⟨before,by rw [List.replicate_succ',← List.append_assoc,← split],start⟩
    refine ⟨?_,fun _ => running⟩
    dsimp only
    split
    · obtain ⟨before,split,start⟩ := running
      exact ⟨before,[],by rw [List.append_nil]; exact split,start⟩
    · exact scanned.longest.longer 0
  · exact ⟨scanned.longest.longer segment,fun fresh => absurd rfl fresh⟩

theorem zeroes_cover (parts : List (BitVec 16)) : Covers parts (zeroes parts) := by
  have scanned : Scanned parts (parts.zipIdx.foldl ZeroSpans.step ⟨⟨0,0⟩,⟨0,0⟩⟩) := by
    induction parts using List.reverseRecOn with
    | nil => exact ⟨covers_none [],fun fresh => absurd rfl fresh⟩
    | append_singleton parts segment ih =>
        rw [List.zipIdx_append,List.foldl_append,Nat.zero_add]
        exact scanned_step ih segment
  exact scanned.longest

end Zeros

section Ipv6

-- The fields of a part of the segments: an empty part is one empty field.
def chunkFields (chunk : List (BitVec 16)) : List (List Char) :=
  if chunk = [] then [[]] else chunk.map fun segment => Nat.toDigits 16 segment.toNat

theorem fmtSubslice_fields (chunk : List (BitVec 16)) : fmtSubslice chunk = [':'].intercalate (chunkFields chunk) := by
  cases chunk with
  | nil => rfl
  | cons segment chunk => rfl

theorem chunkFields_ne_nil (chunk : List (BitVec 16)) : chunkFields chunk ≠ [] := by
  cases chunk with
  | nil => exact List.cons_ne_nil [] []
  | cons segment chunk => exact List.cons_ne_nil _ _

theorem chunkFields_free (chunk : List (BitVec 16)) {char : Char} (other : ∀ digit < 16, Nat.digitChar digit ≠ char) :
    ∀ field ∈ chunkFields chunk, char ∉ field := by
  intro field member
  unfold chunkFields at member
  split at member
  · rw [List.mem_singleton.mp member]
    exact List.not_mem_nil
  · obtain ⟨segment,_,rfl⟩ := List.mem_map.mp member
    exact not_mem_hex other _

theorem hexFields_inj {first second : List (BitVec 16)} :
    first.map (fun segment => Nat.toDigits 16 segment.toNat) = second.map (fun segment => Nat.toDigits 16 segment.toNat) ↔ first = second :=
  (List.map_injective_iff.mpr fun _ _ => hex_inj.mp).eq_iff

theorem hexFields_full (chunk : List (BitVec 16)) : [] ∉ chunk.map fun segment => Nat.toDigits 16 segment.toNat := by
  intro member
  obtain ⟨segment,_,empty⟩ := List.mem_map.mp member
  exact Nat.toDigits_ne_nil empty

theorem chunkFields_inj {first second : List (BitVec 16)} (same : chunkFields first = chunkFields second) : first = second := by
  cases first with
  | nil =>
      cases second with
      | nil => rfl
      | cons segment second => exact absurd (List.cons.inj same).1.symm Nat.toDigits_ne_nil
  | cons segment first =>
      cases second with
      | nil => exact absurd (List.cons.inj same).1 Nat.toDigits_ne_nil
      | cons other second => exact hexFields_inj.mp same

theorem fmtSubslice_free (chunk : List (BitVec 16)) {char : Char} (other : ∀ digit < 16, Nat.digitChar digit ≠ char) (notColon : char ≠ ':') :
    char ∉ fmtSubslice chunk := by
  rw [fmtSubslice_fields]
  exact Fields.not_mem_joined notColon (chunkFields_free chunk other)

theorem fmtSubslice_inj {first second : List (BitVec 16)} (same : fmtSubslice first = fmtSubslice second) : first = second := by
  rw [fmtSubslice_fields,fmtSubslice_fields,Fields.joined_inj (chunkFields_ne_nil first) (chunkFields_ne_nil second)
    (chunkFields_free first (by decide)) (chunkFields_free second (by decide))] at same
  exact chunkFields_inj same

-- A double colon is an empty field more.
def compressedFields (before after : List (BitVec 16)) : List (List Char) := chunkFields before ++ [] :: chunkFields after

theorem compressed_fields (before after : List (BitVec 16)) :
    fmtSubslice before ++ "::".toList ++ fmtSubslice after = [':'].intercalate (compressedFields before after) := by
  have behind : [':'].intercalate ([] :: chunkFields after) = ':' :: fmtSubslice after := by
    rw [fmtSubslice_fields]
    exact Fields.joined_append (List.cons_ne_nil [] []) (chunkFields_ne_nil after)
  rw [compressedFields,Fields.joined_append (chunkFields_ne_nil before) (List.cons_ne_nil _ _),behind,fmtSubslice_fields before,List.append_assoc]
  rfl

theorem compressedFields_free (before after : List (BitVec 16)) : ∀ field ∈ compressedFields before after, ':' ∉ field := by
  intro field member
  rcases List.mem_append.mp member with first | rest
  · exact chunkFields_free before (by decide) field first
  · rcases List.mem_cons.mp rest with rfl | second
    · exact List.not_mem_nil
    · exact chunkFields_free after (by decide) field second

theorem compressedFields_inj {first second before after : List (BitVec 16)} (same : compressedFields first second = compressedFields before after) :
    first = before ∧ second = after := by
  cases first with
  | nil =>
      cases before with
      | nil =>
          have rest := (List.cons.inj (List.cons.inj same).2).2
          exact ⟨rfl,chunkFields_inj rest⟩
      | cons segment before => exact absurd (List.cons.inj same).1.symm Nat.toDigits_ne_nil
  | cons segment first =>
      cases before with
      | nil => exact absurd (List.cons.inj same).1 Nat.toDigits_ne_nil
      | cons other before =>
          obtain ⟨front,rest⟩ := (Fields.front_inj (hexFields_full (segment :: first)) (hexFields_full (other :: before))).mp same
          exact ⟨hexFields_inj.mp front,chunkFields_inj rest⟩

-- The parts on both sides of a double colon are told from the text.
theorem compressed_inj {first second before after : List (BitVec 16)}
    (same : fmtSubslice first ++ "::".toList ++ fmtSubslice second = fmtSubslice before ++ "::".toList ++ fmtSubslice after) :
    first = before ∧ second = after := by
  rw [compressed_fields,compressed_fields,Fields.joined_inj (by simp [compressedFields]) (by simp [compressedFields])
    (compressedFields_free first second) (compressedFields_free before after)] at same
  exact compressedFields_inj same

theorem compressed_ne (before after : List (BitVec 16)) {chunk : List (BitVec 16)} (nonempty : chunk ≠ []) :
    fmtSubslice before ++ "::".toList ++ fmtSubslice after ≠ fmtSubslice chunk := by
  intro same
  rw [compressed_fields,fmtSubslice_fields,Fields.joined_inj (by simp [compressedFields]) (chunkFields_ne_nil chunk)
    (compressedFields_free before after) (chunkFields_free chunk (by decide)),chunkFields,if_neg nonempty] at same
  exact hexFields_full chunk (same ▸ List.mem_append_right _ List.mem_cons_self)

theorem segments_length (ip : BitVec 128) : (segments ip).length = 8 := rfl

theorem segments_inj {first second : BitVec 128} (same : segments first = segments second) : first = second := by
  apply Octets.eq_of_pieces 16 (by decide)
  intro place inside
  have listed : ∀ place < 8, place ∈ [7,6,5,4,3,2,1,0] := by decide
  exact List.map_inj_left.mp same place (listed place (by omega))

-- What the double colon leaves out is known from what it leaves in.
theorem uncovered (ip : BitVec 128) : ∃ before after, (segments ip).take (zeroes (segments ip)).start = before ∧
    (segments ip).drop ((zeroes (segments ip)).start + (zeroes (segments ip)).len) = after ∧
    segments ip = before ++ List.replicate (8 - before.length - after.length) 0 ++ after := by
  obtain ⟨before,after,split,start⟩ := zeroes_cover (segments ip)
  have total := congrArg List.length split
  rw [segments_length,List.length_append,List.length_append,List.length_replicate] at total
  have run : 8 - before.length - after.length = (zeroes (segments ip)).len := by omega
  generalize zeroes (segments ip) = span at *
  refine ⟨before,after,?_,?_,by rw [run]; exact split⟩
  · rw [split,List.append_assoc,List.take_left' start]
  · rw [split]
    exact List.drop_left' (by simp [start])

-- The text of an address that is no mapped one.
def showSegments (ip : BitVec 128) : List Char :=
  if 1 < (zeroes (segments ip)).len then fmtSubslice ((segments ip).take (zeroes (segments ip)).start) ++ "::".toList ++
    fmtSubslice ((segments ip).drop ((zeroes (segments ip)).start + (zeroes (segments ip)).len))
  else fmtSubslice (segments ip)

theorem showIpv6_eq (ip : BitVec 128) :
    showIpv6 ip = if ip.extractLsb' 32 96 = 0xFFFF#96 then "::ffff:".toList ++ showIpv4 (ip.extractLsb' 0 32) else showSegments ip := by
  unfold showIpv6 toIpv4Mapped
  by_cases mapped : ip.extractLsb' 32 96 = 0xFFFF#96
  · rw [if_pos mapped,if_pos mapped]
  · rw [if_neg mapped,if_neg mapped]
    rfl

theorem showSegments_free {char : Char} (other : ∀ digit < 16, Nat.digitChar digit ≠ char) (notColon : char ≠ ':') (ip : BitVec 128) :
    char ∉ showSegments ip := by
  unfold showSegments
  split
  · simp [fmtSubslice_free _ other notColon,notColon]
  · exact fmtSubslice_free _ other notColon

theorem showSegments_inj {first second : BitVec 128} (same : showSegments first = showSegments second) : first = second := by
  have nonempty (ip : BitVec 128) : segments ip ≠ [] := List.cons_ne_nil _ _
  apply segments_inj
  unfold showSegments at same
  split at same
  · split at same
    · obtain ⟨front,rest⟩ := compressed_inj same
      obtain ⟨before,after,taken,dropped,whole⟩ := uncovered first
      obtain ⟨otherBefore,otherAfter,otherTaken,otherDropped,otherWhole⟩ := uncovered second
      rw [taken,otherTaken] at front
      rw [dropped,otherDropped] at rest
      rw [whole,otherWhole,front,rest]
    · exact absurd same (compressed_ne _ _ (nonempty second))
  · split at same
    · exact absurd same.symm (compressed_ne _ _ (nonempty first))
    · exact fmtSubslice_inj same

theorem dot_mem_showIpv4 (ip : BitVec 32) : '.' ∈ showIpv4 ip := by
  unfold showIpv4
  rw [List.map_cons,List.map_cons,List.intercalate_cons_cons]
  exact List.mem_append_left _ (List.mem_append_right _ List.mem_cons_self)

theorem showIpv6_inj {first second : BitVec 128} : showIpv6 first = showIpv6 second ↔ first = second := by
  constructor
  · intro same
    have noDot (ip : BitVec 128) : '.' ∉ showSegments ip := showSegments_free (by decide) (by decide) ip
    have dotted (ip : BitVec 32) : '.' ∈ "::ffff:".toList ++ showIpv4 ip := List.mem_append_right _ (dot_mem_showIpv4 ip)
    have whole (ip : BitVec 128) : ip.extractLsb' 32 96 ++ ip.extractLsb' 0 32 = ip := BitVec.extractLsb'_append_extractLsb'
    rw [showIpv6_eq,showIpv6_eq] at same
    split at same
    · rename_i firstMapped
      split at same
      · rename_i secondMapped
        rw [← whole first,← whole second,firstMapped,secondMapped,showIpv4_inj.mp (List.append_cancel_left same)]
      · exact absurd (same ▸ dotted _) (noDot second)
    · split at same
      · exact absurd (same ▸ dotted _) (noDot first)
      · exact showSegments_inj same
  · intro same
    rw [same]

theorem showIpv6_free {char : Char} (other : ∀ digit < 16, Nat.digitChar digit ≠ char) (notColon : char ≠ ':') (notDot : char ≠ '.')
    (ip : BitVec 128) : char ∉ showIpv6 ip := by
  have notF : char ≠ 'f' := (other 15 (by decide)).symm
  rw [showIpv6_eq]
  split
  · simp [showIpv4_free other notDot,notColon,notF]
  · exact showSegments_free other notColon ip

end Ipv6

section Sockets

def showHost (addr : SocketAddrV6) : List Char :=
  showIpv6 addr.ip ++ if addr.scopeId = 0 then [] else '%' :: Nat.toDigits 10 addr.scopeId.toNat

theorem showHost_free (addr : SocketAddrV6) : ']' ∉ showHost addr := by
  have address : ']' ∉ showIpv6 addr.ip := showIpv6_free (by decide) (by decide) (by decide) addr.ip
  unfold showHost
  split
  · simpa using address
  · have scope : ']' ∉ Nat.toDigits 10 addr.scopeId.toNat := not_mem_decimal (by decide) _
    simp [address,scope]

theorem showHost_inj {first second : SocketAddrV6} :
    showHost first = showHost second ↔ first.ip = second.ip ∧ first.scopeId = second.scopeId := by
  have address (ip : BitVec 128) : '%' ∉ showIpv6 ip := showIpv6_free (by decide) (by decide) (by decide) ip
  unfold showHost
  by_cases firstFlat : first.scopeId = 0
  · by_cases secondFlat : second.scopeId = 0
    · rw [if_pos firstFlat,if_pos secondFlat,List.append_nil,List.append_nil,showIpv6_inj,firstFlat,secondFlat]
      simp
    · rw [if_pos firstFlat,if_neg secondFlat,List.append_nil,firstFlat]
      constructor
      · intro same
        exact absurd (same ▸ List.mem_append_right _ List.mem_cons_self) (address first.ip)
      · intro both
        exact absurd both.2.symm secondFlat
  · by_cases secondFlat : second.scopeId = 0
    · rw [if_neg firstFlat,if_pos secondFlat,List.append_nil,secondFlat]
      constructor
      · intro same
        exact absurd (same ▸ List.mem_append_right _ List.mem_cons_self) (address second.ip)
      · intro both
        exact absurd both.2 firstFlat
    · rw [if_neg firstFlat,if_neg secondFlat,Fields.front_inj (address first.ip) (address second.ip),showIpv6_inj,decimal_inj]

theorem showPort_free (port : BitVec 16) : ':' ∉ showPort port := not_mem_decimal (by decide) _

theorem showIpv4_head (ip : BitVec 32) (rest other : List Char) : showIpv4 ip ++ rest ≠ '[' :: other := by
  intro same
  cases shown : showIpv4 ip with
  | nil => exact absurd (shown ▸ dot_mem_showIpv4 ip) List.not_mem_nil
  | cons char more =>
      rw [shown] at same
      have free : '[' ∉ showIpv4 ip := showIpv4_free (by decide) (by decide) ip
      rw [shown,← (List.cons.inj same).1] at free
      exact free List.mem_cons_self

-- The text of an address ends where the address says so: a colon and any text behind it
-- are told apart from it.
theorem text_front (first second : StdSocketAddr) (rest other : List Char) :
    first.text ++ ':' :: rest = second.text ++ ':' :: other ↔ first.shown = second.shown ∧ rest = other := by
  have flat (addr : SocketAddrV4) (rest : List Char) :
      (StdSocketAddr.v4 addr).text ++ ':' :: rest = showIpv4 addr.ip ++ ':' :: (showPort addr.port ++ ':' :: rest) := List.append_assoc ..
  have bracketed (addr : SocketAddrV6) (rest : List Char) :
      (StdSocketAddr.v6 addr).text ++ ':' :: rest = '[' :: (showHost addr ++ ']' :: ':' :: (showPort addr.port ++ ':' :: rest)) :=
    congrArg ('[' :: ·) (List.append_assoc ..)
  cases first with
  | v4 first =>
      cases second with
      | v4 second =>
          have free (ip : BitVec 32) : ':' ∉ showIpv4 ip := showIpv4_free (by decide) (by decide) ip
          rw [flat,flat,Fields.front_inj (free first.ip) (free second.ip),Fields.front_inj (showPort_free first.port) (showPort_free second.port),
            showIpv4_inj,showPort,showPort,decimal_inj]
          simp [StdSocketAddr.shown,and_assoc]
      | v6 second =>
          rw [flat,bracketed]
          exact ⟨fun same => absurd same (showIpv4_head _ _ _),fun both => nomatch both.1⟩
  | v6 first =>
      cases second with
      | v4 second =>
          rw [flat,bracketed]
          exact ⟨fun same => absurd same.symm (showIpv4_head _ _ _),fun both => nomatch both.1⟩
      | v6 second =>
          rw [bracketed,bracketed,List.cons_inj_right,Fields.front_inj (showHost_free first) (showHost_free second),List.cons_inj_right,
            Fields.front_inj (showPort_free first.port) (showPort_free second.port),showHost_inj,showPort,showPort,decimal_inj]
          simp only [StdSocketAddr.shown,Prod.mk.injEq,SocketAddr.mk.injEq,IpAddr.v6.injEq]
          tauto

theorem display_inj {first second : StdSocketAddr} : first.display = second.display ↔ first.shown = second.shown := by
  have front := text_front first second [] []
  rw [List.append_left_inj,and_iff_left rfl] at front
  rw [StdSocketAddr.display,StdSocketAddr.display,String.ofList_inj,front]

end Sockets

section Bare

-- `Display` of an address without a port.
def IpAddr.text : IpAddr → List Char
  | .v4 bits => showIpv4 bits
  | .v6 bits => showIpv6 bits

theorem colon_mem_showIpv6 (ip : BitVec 128) : ':' ∈ showIpv6 ip := by
  have whole (ip : BitVec 128) : ':' ∈ fmtSubslice (segments ip) := by
    unfold fmtSubslice segments
    rw [List.map_cons,List.map_cons,List.map_cons,List.map_cons,List.intercalate_cons_cons]
    exact List.mem_append_left _ (List.mem_append_right _ List.mem_cons_self)
  rw [showIpv6_eq]
  split
  · simp
  · unfold showSegments
    split
    · simp
    · exact whole ip

theorem IpAddr.text_inj {first second : IpAddr} (same : first.text = second.text) : first = second := by
  have apart (flat : BitVec 32) (ip : BitVec 128) : showIpv4 flat ≠ showIpv6 ip := by
    intro same
    have free : ':' ∉ showIpv4 flat := showIpv4_free (by decide) (by decide) flat
    exact free (same ▸ colon_mem_showIpv6 ip)
  cases first with
  | v4 first =>
      cases second with
      | v4 second => exact congrArg IpAddr.v4 (showIpv4_inj.mp same)
      | v6 second => exact absurd same (apart first second)
  | v6 first =>
      cases second with
      | v4 second => exact absurd same.symm (apart second first)
      | v6 second => exact congrArg IpAddr.v6 (showIpv6_inj.mp same)

theorem IpAddr.text_free {char : Char} (other : ∀ digit < 16, Nat.digitChar digit ≠ char) (notColon : char ≠ ':') (notDot : char ≠ '.')
    (ip : IpAddr) : char ∉ ip.text := by
  cases ip with
  | v4 bits => exact showIpv4_free other notDot bits
  | v6 bits => exact showIpv6_free other notColon notDot bits

end Bare

end Sigproxy.Net
