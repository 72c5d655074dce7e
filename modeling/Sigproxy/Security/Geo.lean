import Sigproxy.Proxy.Message
import Sigproxy.Security.Cidr

namespace Sigproxy.Security
open Library Net Proxy

section Snapshot

abbrev IpRangeV4 := Span 32 (BitVec 16)
abbrev IpRangeV6 := Span 128 (BitVec 16)

structure GeoSnapshot where
  createdAtEpochSeconds : Nat
  ipv4 : List IpRangeV4
  ipv6 : List IpRangeV6
  deriving DecidableEq

def lookupCode (ranges : List (Span width (BitVec 16))) (ip : BitVec width) : Option (BitVec 16) :=
  (Span.find ranges ip).map Span.label

def lookupV4 (ranges : List IpRangeV4) (ip : BitVec 32) : Option (BitVec 16) := lookupCode ranges ip
def lookupV6 (ranges : List IpRangeV6) (ip : BitVec 128) : Option (BitVec 16) := lookupCode ranges ip

def GeoSnapshot.lookupCountry (snapshot : GeoSnapshot) : IpAddr → Option (BitVec 16)
  | .v4 ip => lookupV4 snapshot.ipv4 ip
  | .v6 ip => lookupV6 snapshot.ipv6 ip

end Snapshot

section Parsing

-- A line ends at `\n` or `\r\n`; the text behind the last line end is a line
-- only where there is some.
def linesOf : List (List Char) → List String
  | [] => []
  | [last] => if last.isEmpty then [] else [.ofList last]
  | line :: rest => .ofList (if line.getLast? = some '\r' then line.dropLast else line) :: linesOf rest

def lines (text : String) : List String := linesOf (text.toList.splitOn '\n')

def splitOnce (separator : Char) (text : String) : Option (String × String) :=
  match text.toList.span (· != separator) with
  | (before,_ :: after) => some (.ofList before,.ofList after)
  | (_,[]) => none

def digitsFrom (value : Nat) : List Char → Except String Nat
  | [] => .ok value
  | char :: rest =>
    if char.isDigit then
      let value := value * 10 + (char.toNat - '0'.toNat)
      if value < 2 ^ 8 then digitsFrom value rest else .error "number too large to fit in target type"
    else .error "invalid digit found in string"

def parseU8 (text : String) : Except String Nat :=
  match text.toList with
  | [] => .error "cannot parse integer from empty string"
  | ['+'] => .error "invalid digit found in string"
  | '+' :: digits => digitsFrom 0 digits
  | digits => digitsFrom 0 digits

variable (parseIp : String → Except String IpAddr)

def parseCidrParts (value : String) : Except String (IpAddr × Nat) :=
  match splitOnce '/' value with
  | some (addr,prefixLen) => do
    let addr ← parseIp addr
    let prefixLen ← parseU8 prefixLen
    return (addr,prefixLen)
  | none => do
    let addr ← parseIp value
    return (addr,addr.width)

def ipRange (tooLong : String) (addr : BitVec width) (prefixLen : Nat) : Except String (BitVec width × BitVec width) :=
  if width < prefixLen then .error tooLong
  else if prefixLen = 0 then .ok (0,BitVec.allOnes width)
  else
    let mask := BitVec.allOnes width <<< (width - prefixLen)
    let start := addr &&& mask
    .ok (start,start ||| ~~~mask)

def ipv4Range (addr : BitVec 32) (prefixLen : Nat) := ipRange "IPv4 prefix must be at most 32" addr prefixLen
def ipv6Range (addr : BitVec 128) (prefixLen : Nat) := ipRange "IPv6 prefix must be at most 128" addr prefixLen

def encodeCountry (value : String) : Except String (BitVec 16) :=
  match (trim value).toList with
  | [first,second] =>
    if first.isAlpha && second.isAlpha then
      .ok (BitVec.ofNat 8 first.toUpper.toNat ++ BitVec.ofNat 8 second.toUpper.toNat)
    else .error "invalid country code"
  | _ => .error "invalid country code"

structure Ranges where
  ipv4 : List IpRangeV4
  ipv6 : List IpRangeV6

def skipped (line : String) : Bool := line.isEmpty || startsWith line "#"

def appendRange (country : BitVec 16) (ranges : Ranges) (line : String) : Except String Ranges := do
  let (addr,prefixLen) ← parseCidrParts parseIp line
  match addr with
  | .v4 addr =>
    let (start,stop) ← ipv4Range addr prefixLen
    return {ranges with ipv4:=ranges.ipv4 ++ [⟨start,stop,country⟩]}
  | .v6 addr =>
    let (start,stop) ← ipv6Range addr prefixLen
    return {ranges with ipv6:=ranges.ipv6 ++ [⟨start,stop,country⟩]}

-- A line that does not parse ends the reading; what was pushed before it stays.
def appendLines (country : BitVec 16) (ranges : Ranges) : List String → Ranges × Except String Unit
  | [] => (ranges,.ok ())
  | line :: rest =>
    if skipped (trim line) then appendLines country ranges rest
    else
      match appendRange parseIp country ranges (trim line) with
      | .error error => (ranges,.error error)
      | .ok ranges => appendLines country ranges rest

def appendCountryRanges (country body : String) (ranges : Ranges) : Ranges × Except String Unit :=
  match encodeCountry country with
  | .error error => (ranges,.error error)
  | .ok country => appendLines parseIp country ranges (lines body)

end Parsing

section Pipeline

def normalizeV4Ranges (ranges : List IpRangeV4) : List IpRangeV4 := Span.normalize BitVec.toNat ranges
def normalizeV6Ranges (ranges : List IpRangeV6) : List IpRangeV6 := Span.normalize BitVec.toNat ranges

def validateNonOverlapping (overlapping : String) (ranges : List (Span width (BitVec 16))) : Except String Unit :=
  if Span.nonOverlapping ranges then .ok () else .error overlapping

def validateNonOverlappingV4 (ranges : List IpRangeV4) := validateNonOverlapping "geo IPv4 cache contains overlapping ranges" ranges
def validateNonOverlappingV6 (ranges : List IpRangeV6) := validateNonOverlapping "geo IPv6 cache contains overlapping ranges" ranges

-- How a fetch task ends, in the order the tasks are joined.
inductive Joined where
  | aborted (error : String)
  | failed (error : String)
  | fetched (country body : String)

structure Fetch where
  ranges : Ranges
  loadedCountries : Nat
  skippedCountries : Nat

variable (parseIp : String → Except String IpAddr)

def absorb (allowPartial : Bool) (fetch : Fetch) : Joined → Except String Fetch
  | .aborted error => .error ("geo fetch task failed: " ++ error)
  | .failed error => if allowPartial then .ok {fetch with skippedCountries:=fetch.skippedCountries + 1} else .error error
  | .fetched country body =>
    match appendCountryRanges parseIp country body fetch.ranges with
    | (ranges,.ok _) => .ok {fetch with ranges:=ranges,loadedCountries:=fetch.loadedCountries + 1}
    | (ranges,.error error) =>
      if allowPartial then .ok {fetch with ranges:=ranges,skippedCountries:=fetch.skippedCountries + 1}
      else .error ("failed to parse geo ranges for " ++ country ++ ": " ++ error)

-- One task is joined for each country of the source.
def fetchGeoSnapshot (allowPartial : Bool) (now : Nat) (results : List Joined) : Except String GeoSnapshot := do
  let fetch ← results.foldlM (absorb parseIp allowPartial) ⟨⟨[],[]⟩,0,0⟩
  if fetch.loadedCountries = 0 ∧ results.isEmpty = false then throw "failed to fetch any geo country ranges"
  let ipv4 := normalizeV4Ranges fetch.ranges.ipv4
  let ipv6 := normalizeV6Ranges fetch.ranges.ipv6
  validateNonOverlappingV4 ipv4
  validateNonOverlappingV6 ipv6
  return ⟨now,ipv4,ipv6⟩

end Pipeline

section Specification
variable (parseIp : String → Except String IpAddr)

def parsedCidr (line : String) : Option Cidr :=
  match parseCidrParts parseIp line with
  | .ok (addr,prefixLen) => if bounded : prefixLen ≤ addr.width then some ⟨addr,prefixLen,bounded⟩ else none
  | .error _ => none

def entries (body : String) : List String := ((lines body).map trim).filter fun line => !skipped line

def countryCidrs (body : String) : List Cidr := (entries body).filterMap (parsedCidr parseIp)

-- The name of the country and every line of its list can be read.
def Parses (feed : String × String) : Prop :=
  (encodeCountry feed.1).isOk = true ∧ ∀ line ∈ entries feed.2, (parsedCidr parseIp line).isSome = true

-- Some list of the country names a network with the address in it.
def Located (feeds : List (String × String)) (country : BitVec 16) (ip : IpAddr) : Prop :=
  ∃ feed ∈ feeds, encodeCountry feed.1 = .ok country ∧ ∃ cidr ∈ countryCidrs parseIp feed.2, cidr.contains ip = true

end Specification

section Exactness

def blockSpan (addr : BitVec width) (prefixLen : Nat) (country : BitVec 16) : Span width (BitVec 16) :=
  let mask := BitVec.allOnes width <<< (width - prefixLen)
  ⟨addr &&& mask,(addr &&& mask) ||| ~~~mask,country⟩

theorem blockSpan_contains (addr ip : BitVec width) (prefixLen : Nat) (country : BitVec 16) :
    (blockSpan addr prefixLen country).Contains ip ↔ sameNetwork prefixLen addr ip = true := by
  rw [sameNetwork_iff]
  exact between_high_iff addr ip (Nat.sub_le _ _)

theorem blockSpan_proper (addr : BitVec width) (prefixLen : Nat) (country : BitVec 16) :
    (blockSpan addr prefixLen country).start ≤ (blockSpan addr prefixLen country).stop := by
  have self : (blockSpan addr prefixLen country).Contains addr := (blockSpan_contains ..).mpr (sameNetwork_iff.mpr rfl)
  exact BitVec.le_trans self.1 self.2

theorem ipRange_eq (addr : BitVec width) (bounded : prefixLen ≤ width) (tooLong : String) (country : BitVec 16) :
    ipRange tooLong addr prefixLen = .ok ((blockSpan addr prefixLen country).start,(blockSpan addr prefixLen country).stop) := by
  unfold ipRange blockSpan
  rw [if_neg (by omega)]
  split
  · rename_i none
    subst none
    simp
  · rfl

def rangeV4 (country : BitVec 16) (cidr : Cidr) : Option IpRangeV4 :=
  match cidr.addr with
  | .v4 addr => some (blockSpan addr cidr.prefixLen country)
  | .v6 _ => none

def rangeV6 (country : BitVec 16) (cidr : Cidr) : Option IpRangeV6 :=
  match cidr.addr with
  | .v4 _ => none
  | .v6 addr => some (blockSpan addr cidr.prefixLen country)

-- The blocks of the feeds, one family at a time.
def Ranges.add (ranges : Ranges) (country : BitVec 16) (cidrs : List Cidr) : Ranges :=
  ⟨ranges.ipv4 ++ cidrs.filterMap (rangeV4 country),ranges.ipv6 ++ cidrs.filterMap (rangeV6 country)⟩

variable {parseIp : String → Except String IpAddr}

theorem appendRange_eq (parsed : parsedCidr parseIp line = some cidr) (country : BitVec 16) (ranges : Ranges) :
    appendRange parseIp country ranges line = .ok (ranges.add country [cidr]) := by
  unfold parsedCidr at parsed
  split at parsed
  · rename_i addr prefixLen read
    split at parsed
    · rename_i bounded
      cases parsed
      rw [appendRange,read]
      cases addr with
      | v4 addr =>
          simp only [ipv4Range,bind,Except.bind,ipRange_eq addr bounded _ country]
          simp [Ranges.add,List.filterMap,rangeV4,rangeV6]
          rfl
      | v6 addr =>
          simp only [ipv6Range,bind,Except.bind,ipRange_eq addr bounded _ country]
          simp [Ranges.add,List.filterMap,rangeV4,rangeV6]
          rfl
    · cases parsed
  · cases parsed

theorem Ranges.add_add (ranges : Ranges) (country : BitVec 16) (first second : List Cidr) :
    (ranges.add country first).add country second = ranges.add country (first ++ second) := by
  simp [add]

theorem appendLines_eq (country : BitVec 16) (ranges : Ranges) (texts : List String)
    (parsed : ∀ line ∈ (texts.map trim).filter (fun line => !skipped line), (parsedCidr parseIp line).isSome = true) :
    appendLines parseIp country ranges texts =
      (ranges.add country (((texts.map trim).filter fun line => !skipped line).filterMap (parsedCidr parseIp)),.ok ()) := by
  induction texts generalizing ranges with
  | nil => simp [appendLines,Ranges.add]
  | cons line rest ih =>
      rw [appendLines]
      split
      · rename_i skip
        rw [List.map_cons,List.filter_cons_of_neg (by simpa using skip)] at parsed ⊢
        exact ih ranges parsed
      · rename_i kept
        rw [List.map_cons,List.filter_cons_of_pos (by simpa using kept)] at parsed ⊢
        obtain ⟨here,later⟩ := List.forall_mem_cons.mp parsed
        obtain ⟨cidr,read⟩ := Option.isSome_iff_exists.mp here
        rw [appendRange_eq read]
        dsimp only
        rw [ih _ later,Ranges.add_add,List.filterMap_cons_some read,List.singleton_append]

def spansOf (parseIp : String → Except String IpAddr) (range : BitVec 16 → Cidr → Option (Span width (BitVec 16)))
    (feeds : List (String × String)) : List (Span width (BitVec 16)) :=
  feeds.flatMap fun feed =>
    match encodeCountry feed.1 with
    | .ok country => (countryCidrs parseIp feed.2).filterMap (range country)
    | .error _ => []

def joined (feeds : List (String × String)) : List Joined := feeds.map fun feed => .fetched feed.1 feed.2

theorem absorb_all (allowPartial : Bool) (fetch : Fetch) (feeds : List (String × String)) (parses : ∀ feed ∈ feeds, Parses parseIp feed) :
    (joined feeds).foldlM (absorb parseIp allowPartial) fetch =
      .ok {fetch with ranges:=⟨fetch.ranges.ipv4 ++ spansOf parseIp rangeV4 feeds,fetch.ranges.ipv6 ++ spansOf parseIp rangeV6 feeds⟩,
                      loadedCountries:=fetch.loadedCountries + feeds.length} := by
  induction feeds generalizing fetch with
  | nil => simp [spansOf]; rfl
  | cons feed rest ih =>
      obtain ⟨⟨named,listed⟩,later⟩ := List.forall_mem_cons.mp parses
      obtain ⟨country,code⟩ : ∃ country, encodeCountry feed.1 = .ok country := by
        cases code : encodeCountry feed.1 with
        | ok country => exact ⟨country,rfl⟩
        | error error => rw [code] at named; cases named
      rw [joined,List.map_cons,List.foldlM_cons,absorb,appendCountryRanges,code]
      dsimp only
      rw [appendLines_eq country fetch.ranges (lines feed.2) listed]
      change (joined rest).foldlM _ _ = _
      rw [ih _ later]
      simp only [spansOf,List.flatMap_cons,code,Ranges.add,List.append_assoc,List.length_cons]
      rw [Nat.add_right_comm,Nat.add_assoc]
      rfl

theorem rangeV4_represents : Represents rangeV4 .v4 := by
  constructor
  · rintro country ⟨addr | addr,prefixLen,bounded⟩ span found <;> cases found
    rfl
  · rintro country ⟨addr | addr,prefixLen,bounded⟩ span found <;> cases found
    exact blockSpan_proper ..
  · rintro country ⟨addr | addr,prefixLen,bounded⟩ ip
    · simp [rangeV4,blockSpan_contains,Cidr.contains]
    · simp [rangeV4,Cidr.contains]

theorem rangeV6_represents : Represents rangeV6 .v6 := by
  constructor
  · rintro country ⟨addr | addr,prefixLen,bounded⟩ span found <;> cases found
    rfl
  · rintro country ⟨addr | addr,prefixLen,bounded⟩ span found <;> cases found
    exact blockSpan_proper ..
  · rintro country ⟨addr | addr,prefixLen,bounded⟩ ip
    · simp [rangeV6,Cidr.contains]
    · simp [rangeV6,blockSpan_contains,Cidr.contains]

section Family
variable {range : BitVec 16 → Cidr → Option (Span width (BitVec 16))} {addr : BitVec width → IpAddr}

theorem mem_spansOf {feeds : List (String × String)} : span ∈ spansOf parseIp range feeds ↔
    ∃ feed ∈ feeds, ∃ country, encodeCountry feed.1 = .ok country ∧ ∃ cidr ∈ countryCidrs parseIp feed.2, range country cidr = some span := by
  simp only [spansOf,List.mem_flatMap]
  refine exists_congr fun feed => and_congr_right fun _ => ?_
  cases encodeCountry feed.1 with
  | ok country => simp
  | error error => simp

theorem spansOf_proper (represents : Represents range addr) (feeds : List (String × String)) : Span.Proper (spansOf parseIp range feeds) := by
  intro span listed
  obtain ⟨_,_,_,_,_,_,found⟩ := mem_spansOf.mp listed
  exact represents.proper found

theorem spansOf_covered (represents : Represents range addr) (feeds : List (String × String)) (country : BitVec 16) (ip : BitVec width) :
    Span.Covered (spansOf parseIp range feeds) country ip ↔ Located parseIp feeds country (addr ip) := by
  constructor
  · intro given
    rcases given with ⟨span,listed,named,inside⟩
    obtain ⟨feed,member,code,encoded,cidr,stands,found⟩ := mem_spansOf.mp listed
    obtain rfl : code = country := (represents.marked found).symm.trans named
    exact ⟨feed,member,encoded,cidr,stands,represents.contains.mp ⟨span,found,inside⟩⟩
  · intro given
    rcases given with ⟨feed,member,encoded,cidr,stands,holds⟩
    obtain ⟨span,found,inside⟩ := represents.contains.mpr holds
    exact ⟨span,mem_spansOf.mpr ⟨feed,member,country,encoded,cidr,stands,found⟩,represents.marked found,inside⟩

theorem spansOf_perm (same : feeds'.Perm feeds) : (spansOf parseIp range feeds').Perm (spansOf parseIp range feeds) :=
  same.flatMap_right _

end Family

def geoOf (parseIp : String → Except String IpAddr) (now : Nat) (feeds : List (String × String)) : GeoSnapshot :=
  ⟨now,normalizeV4Ranges (spansOf parseIp rangeV4 feeds),normalizeV6Ranges (spansOf parseIp rangeV6 feeds)⟩

theorem fetchGeoSnapshot_eq (allowPartial : Bool) (now : Nat) (feeds : List (String × String)) (parses : ∀ feed ∈ feeds, Parses parseIp feed) :
    fetchGeoSnapshot parseIp allowPartial now (joined feeds) = do
      validateNonOverlappingV4 (geoOf parseIp now feeds).ipv4
      validateNonOverlappingV6 (geoOf parseIp now feeds).ipv6
      return geoOf parseIp now feeds := by
  have loaded : ¬ (0 + feeds.length = 0 ∧ (joined feeds).isEmpty = false) := by
    cases feeds with
    | nil => simp [joined]
    | cons feed rest => simp
  rw [fetchGeoSnapshot,absorb_all allowPartial _ feeds parses]
  simp only [bind,Except.bind,if_neg loaded,List.nil_append]
  rfl

theorem geoOf_perm (now : Nat) (same : feeds'.Perm feeds) : geoOf parseIp now feeds' = geoOf parseIp now feeds := by
  have codes : Function.Injective (BitVec.toNat : BitVec 16 → Nat) := fun _ _ => BitVec.eq_of_toNat_eq
  simp only [geoOf,normalizeV4Ranges,normalizeV6Ranges,Span.normalize_perm _ codes (spansOf_perm same)]

theorem geoOf_apart (now : Nat) (feeds : List (String × String)) :
    (Span.Apart (geoOf parseIp now feeds).ipv4 ∧ Span.Apart (geoOf parseIp now feeds).ipv6) ↔
      ∀ ip one other, Located parseIp feeds one ip → Located parseIp feeds other ip → one = other := by
  have v4 : Span.Apart (geoOf parseIp now feeds).ipv4 ↔ _ := Span.normalize_apart BitVec.toNat (spansOf_proper rangeV4_represents feeds)
  have v6 : Span.Apart (geoOf parseIp now feeds).ipv6 ↔ _ := Span.normalize_apart BitVec.toNat (spansOf_proper rangeV6_represents feeds)
  rw [v4,v6]
  simp only [Span.Exclusive,spansOf_covered rangeV4_represents,spansOf_covered rangeV6_represents]
  constructor
  · intro both ip
    rcases both with ⟨inV4,inV6⟩
    cases ip with
    | v4 ip => exact inV4 ip
    | v6 ip => exact inV6 ip
  · intro exclusive
    exact ⟨fun ip => exclusive (.v4 ip),fun ip => exclusive (.v6 ip)⟩

theorem geoOf_lookup (now : Nat) (feeds : List (String × String))
    (exclusive : ∀ ip one other, Located parseIp feeds one ip → Located parseIp feeds other ip → one = other) (ip : IpAddr) (country : BitVec 16) :
    (geoOf parseIp now feeds).lookupCountry ip = some country ↔ Located parseIp feeds country ip := by
  cases ip with
  | v4 ip =>
      rw [← spansOf_covered rangeV4_represents]
      refine Span.find_normalize BitVec.toNat (spansOf_proper rangeV4_represents feeds) (fun value one other => ?_) country ip
      rw [spansOf_covered rangeV4_represents,spansOf_covered rangeV4_represents]
      exact exclusive (.v4 value) one other
  | v6 ip =>
      rw [← spansOf_covered rangeV6_represents]
      refine Span.find_normalize BitVec.toNat (spansOf_proper rangeV6_represents feeds) (fun value one other => ?_) country ip
      rw [spansOf_covered rangeV6_represents,spansOf_covered rangeV6_represents]
      exact exclusive (.v6 value) one other

theorem validated_iff (now : Nat) (feeds : List (String × String)) :
    (validateNonOverlappingV4 (geoOf parseIp now feeds).ipv4 = .ok () ∧ validateNonOverlappingV6 (geoOf parseIp now feeds).ipv6 = .ok ()) ↔
      ∀ ip one other, Located parseIp feeds one ip → Located parseIp feeds other ip → one = other := by
  have proper4 : Span.Proper (geoOf parseIp now feeds).ipv4 := Span.normalize_proper _ (spansOf_proper rangeV4_represents feeds)
  have proper6 : Span.Proper (geoOf parseIp now feeds).ipv6 := Span.normalize_proper _ (spansOf_proper rangeV6_represents feeds)
  rw [← geoOf_apart now,← Span.nonOverlapping_iff proper4,← Span.nonOverlapping_iff proper6]
  simp [validateNonOverlappingV4,validateNonOverlappingV6,validateNonOverlapping]

theorem geo_pipeline_exact (parseIp : String → Except String IpAddr) (allowPartial : Bool) (now : Nat) (feeds : List (String × String))
    (parses : ∀ feed ∈ feeds, Parses parseIp feed) :
    ((∃ snapshot, fetchGeoSnapshot parseIp allowPartial now (joined feeds) = .ok snapshot) ↔
      ∀ ip one other, Located parseIp feeds one ip → Located parseIp feeds other ip → one = other) ∧
    (∀ snapshot, fetchGeoSnapshot parseIp allowPartial now (joined feeds) = .ok snapshot →
      ∀ ip country, snapshot.lookupCountry ip = some country ↔ Located parseIp feeds country ip) ∧
    ∀ feeds', feeds'.Perm feeds →
      fetchGeoSnapshot parseIp allowPartial now (joined feeds') = fetchGeoSnapshot parseIp allowPartial now (joined feeds) := by
  have succeeds (snapshot : GeoSnapshot) : fetchGeoSnapshot parseIp allowPartial now (joined feeds) = .ok snapshot ↔
      (∀ ip one other, Located parseIp feeds one ip → Located parseIp feeds other ip → one = other) ∧ geoOf parseIp now feeds = snapshot := by
    rw [fetchGeoSnapshot_eq allowPartial now feeds parses,← validated_iff now feeds]
    cases validateNonOverlappingV4 (geoOf parseIp now feeds).ipv4 with
    | error error => simp [bind,Except.bind]
    | ok =>
        cases validateNonOverlappingV6 (geoOf parseIp now feeds).ipv6 with
        | error error => simp [bind,Except.bind]
        | ok => simp [bind,Except.bind,pure,Except.pure]
  refine ⟨?_,fun snapshot fetched => ?_,fun feeds' same => ?_⟩
  · constructor
    · intro both
      rcases both with ⟨snapshot,fetched⟩
      exact ((succeeds snapshot).mp fetched).1
    · intro exclusive
      exact ⟨_,(succeeds _).mpr ⟨exclusive,rfl⟩⟩
  · obtain ⟨exclusive,rfl⟩ := (succeeds snapshot).mp fetched
    exact geoOf_lookup now feeds exclusive
  · have sameParses : ∀ feed ∈ feeds', Parses parseIp feed := fun feed member => parses feed (same.mem_iff.mp member)
    rw [fetchGeoSnapshot_eq allowPartial now feeds' sameParses,fetchGeoSnapshot_eq allowPartial now feeds parses,geoOf_perm now same]

-- Two countries side by side up to the last address, one of them with nested blocks.
def readAddr (text : String) : Except String IpAddr :=
  if text = "192.0.0.0" then .ok (.v4 0xc0000000)
  else if text = "192.168.0.0" then .ok (.v4 0xc0a80000)
  else if text = "193.0.0.0" then .ok (.v4 0xc1000000)
  else .error "invalid IP address syntax"

def neighbours : List (String × String) :=
  [("de","# nested\n192.168.0.0/16\n192.0.0.0/8\r\n"),("FR","193.0.0.0/8\n193.0.0.0")]

theorem neighbours_located : (∃ snapshot, fetchGeoSnapshot readAddr false 0 (joined neighbours) = .ok snapshot) ∧
    ∀ ip one other, Located readAddr neighbours one ip → Located readAddr neighbours other ip → one = other := by
  have parses : ∀ feed ∈ neighbours, Parses readAddr feed := by unfold Parses; decide +kernel
  have fetched : ∃ snapshot, fetchGeoSnapshot readAddr false 0 (joined neighbours) = .ok snapshot := by
    have succeeded : (fetchGeoSnapshot readAddr false 0 (joined neighbours)).isOk = true := by decide +kernel
    generalize fetchGeoSnapshot readAddr false 0 (joined neighbours) = outcome at succeeded
    cases outcome with
    | ok snapshot => exact ⟨snapshot,rfl⟩
    | error error => cases succeeded
  exact ⟨fetched,(geo_pipeline_exact readAddr false 0 neighbours parses).1.mp fetched⟩

end Exactness

end Sigproxy.Security
