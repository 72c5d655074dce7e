import Sigproxy.Security.Geo
import Sigproxy.Xdp.Plan

namespace Sigproxy.Xdp
open Library Net Security

section Splitting

inductive Family where
  | v4
  | v6
  deriving DecidableEq, Repr

def Family.bits : Family → Nat
  | .v4 => 32
  | .v6 => 128

def Family.addr : (family : Family) → BitVec family.bits → IpAddr
  | .v4,value => .v4 value
  | .v6,value => .v6 value

def prefixAddr (value : Nat) (family : Family) : IpAddr := family.addr (BitVec.ofNat family.bits value)

@[simp] theorem Family.addr_width (family : Family) (value : BitVec family.bits) : (family.addr value).width = family.bits := by
  cases family <;> rfl

@[simp] theorem Family.addr_value (family : Family) (value : BitVec family.bits) : (family.addr value).value = value.toNat := by
  cases family <;> rfl

theorem Family.bits_le (family : Family) : family.bits ≤ 128 := by
  cases family <;> simp [bits]

-- An overflow stops the program: `none`.
def prefixBlockEnd (start blockBits : Nat) : Option Nat :=
  if blockBits = 128 then some (2 ^ 128 - 1)
  else if blockBits < 128 ∧ start + (2 ^ blockBits - 1) < 2 ^ 128 then some (start + (2 ^ blockBits - 1))
  else none

structure Block (bits : Nat) where
  prefixLen : Nat
  blockEnd : Nat
  bounded : prefixLen ≤ bits

-- The inner loop: halve the block until it fits.
def fitBlock (bits start stop prefixLen : Nat) : Option (Block bits) :=
  if bounded : prefixLen ≤ bits then
    match prefixBlockEnd start (bits - prefixLen) with
    | none => none
    | some blockEnd => if blockEnd ≤ stop then some ⟨prefixLen,blockEnd,bounded⟩ else fitBlock bits start stop (prefixLen + 1)
  else none
termination_by bits + 1 - prefixLen

def alignedBits (start bits : Nat) : Nat := if start = 0 then bits else min (BitVec.ofNat 128 start).ctz.toNat bits

theorem prefixBlockEnd_le (ended : prefixBlockEnd start blockBits = some blockEnd) (inside : blockEnd ≠ 2 ^ 128 - 1) : start ≤ blockEnd := by
  unfold prefixBlockEnd at ended
  split at ended
  · cases ended; exact absurd rfl inside
  · split at ended
    · cases ended; omega
    · cases ended

theorem fitBlock_progress (fitted : fitBlock bits start stop prefixLen = some block) (inside : block.blockEnd ≠ 2 ^ 128 - 1) :
    start ≤ block.blockEnd := by
  fun_induction fitBlock bits start stop prefixLen with
  | case1 => cases fitted
  | case2 prefixLen bounded blockEnd ended fits =>
      cases fitted
      exact prefixBlockEnd_le ended inside
  | case3 _ _ _ _ _ ih => exact ih fitted
  | case4 => cases fitted

def geoPrefix (family : Family) (start : Nat) (country : BitVec 16) (block : Block family.bits) : GeoIpPrefix where
  addr := prefixAddr start family
  prefixLen := block.prefixLen
  bounded := by rw [prefixAddr,Family.addr_width]; exact block.bounded
  country := country

def appendRangePrefixes (start stop : Nat) (family : Family) (country : BitVec 16) : Option (List GeoIpPrefix) :=
  if start ≤ stop then
    match fitted : fitBlock family.bits start stop (family.bits - alignedBits start family.bits) with
    | none => none
    | some block =>
      if block.blockEnd = 2 ^ 128 - 1 then some [geoPrefix family start country block]
      else (appendRangePrefixes (block.blockEnd + 1) stop family country).map (geoPrefix family start country block :: ·)
  else some []
termination_by stop + 1 - start
decreasing_by
  rename_i begun inside
  have progress := fitBlock_progress fitted inside
  omega

def appendRanges (family : Family) : List (Span family.bits (BitVec 16)) → Option (List GeoIpPrefix)
  | [] => some []
  | range :: rest => do
    let first ← appendRangePrefixes range.start.toNat range.stop.toNat family range.label
    let later ← appendRanges family rest
    return first ++ later

end Splitting

end Sigproxy.Xdp

namespace Sigproxy.Security
open Xdp

def GeoSnapshot.xdpPrefixes (snapshot : GeoSnapshot) : Option (List GeoIpPrefix) := do
  let ipv4 ← appendRanges .v4 snapshot.ipv4
  let ipv6 ← appendRanges .v6 snapshot.ipv6
  return ipv4 ++ ipv6

end Sigproxy.Security

namespace Sigproxy.Xdp
open Library Net Security

section Exactness

theorem prefixBlockEnd_eq (aligned : 2 ^ k ∣ start) (within : k ≤ bits) (narrow : bits ≤ 128) (below : start < 2 ^ bits) :
    prefixBlockEnd start k = some (start + (2 ^ k - 1)) := by
  have ends := aligned_block_le aligned within below
  have larger := Nat.pow_le_pow_right Nat.zero_lt_two narrow
  have positive := Nat.two_pow_pos k
  unfold prefixBlockEnd
  split
  · rename_i whole
    subst whole
    obtain rfl : start = 0 := by omega
    rw [Nat.zero_add]
  · rw [if_pos ⟨by omega,by omega⟩]

-- Halving ends at the latest with a block of one address, and keeps the alignment.
theorem fitBlock_fits (begun : start ≤ stop) (below : stop < 2 ^ bits) (narrow : bits ≤ 128) (bounded : prefixLen ≤ bits)
    (aligned : 2 ^ (bits - prefixLen) ∣ start) : ∃ block, fitBlock bits start stop prefixLen = some block ∧
      2 ^ (bits - block.prefixLen) ∣ start ∧ block.blockEnd = start + (2 ^ (bits - block.prefixLen) - 1) ∧ block.blockEnd ≤ stop := by
  fun_induction fitBlock bits start stop prefixLen with
  | case1 prefixLen bounded stuck =>
      rw [prefixBlockEnd_eq aligned (Nat.sub_le _ _) narrow (by omega)] at stuck
      cases stuck
  | case2 prefixLen bounded blockEnd ended fits =>
      rw [prefixBlockEnd_eq aligned (Nat.sub_le _ _) narrow (by omega)] at ended
      cases ended
      exact ⟨_,rfl,aligned,rfl,fits⟩
  | case3 prefixLen bounded blockEnd ended large ih =>
      rw [prefixBlockEnd_eq aligned (Nat.sub_le _ _) narrow (by omega)] at ended
      cases ended
      have wide : prefixLen ≠ bits := by
        intro same
        rcases same with rfl
        simp [begun] at large
      have halved : 2 ^ (bits - (prefixLen + 1)) ∣ start := Dvd.dvd.trans (pow_dvd_pow 2 (by omega)) aligned
      exact ih (by omega) halved
  | case4 => contradiction

theorem alignedBits_dvd (start bits : Nat) (narrow : start < 2 ^ 128) : 2 ^ alignedBits start bits ∣ start := by
  unfold alignedBits
  split
  · rename_i zero
    simp [zero]
  · have aligned := two_pow_ctz_dvd (BitVec.ofNat 128 start)
    rw [BitVec.toNat_ofNat,Nat.mod_eq_of_lt narrow] at aligned
    exact Dvd.dvd.trans (pow_dvd_pow 2 (Nat.min_le_left _ _)) aligned

theorem alignedBits_le (start bits : Nat) : alignedBits start bits ≤ bits := by
  unfold alignedBits
  split
  · exact Nat.le_refl _
  · exact Nat.min_le_right _ _

def Aligned (cidr : Cidr) : Prop := 2 ^ (cidr.addr.width - cidr.prefixLen) ∣ cidr.addr.value

def Disjoint (first second : Cidr) : Prop := ∀ ip, ¬ (first.contains ip = true ∧ second.contains ip = true)

theorem aligned_contains {cidr : Cidr} (aligned : Aligned cidr) (ip : IpAddr) : cidr.contains ip = true ↔
    cidr.addr.width = ip.width ∧ cidr.addr.value ≤ ip.value ∧ ip.value ≤ cidr.addr.value + (2 ^ (cidr.addr.width - cidr.prefixLen) - 1) := by
  rw [Cidr.contains_iff]
  apply and_congr_right
  intro widths
  rw [Aligned,widths] at aligned
  rw [widths,eq_comm,div_eq_iff_within,Nat.div_mul_cancel aligned]

structure Split (family : Family) (start stop : Nat) (country : BitVec 16) (prefixes : List GeoIpPrefix) : Prop where
  aligned : ∀ geo ∈ prefixes, Aligned geo.toCidr
  disjoint : prefixes.Pairwise fun first second => Disjoint first.toCidr second.toCidr
  labelled : ∀ geo ∈ prefixes, geo.country = country
  covers : ∀ ip, (∃ geo ∈ prefixes, geo.contains ip = true) ↔ ip.width = family.bits ∧ start ≤ ip.value ∧ ip.value ≤ stop

section Blocks
variable {family : Family} {start : Nat} {block : Block family.bits}

theorem geoPrefix_aligned (below : start < 2 ^ family.bits) (aligned : 2 ^ (family.bits - block.prefixLen) ∣ start) (country : BitVec 16) :
    Aligned (geoPrefix family start country block).toCidr := by
  simpa [Aligned,geoPrefix,prefixAddr,Nat.mod_eq_of_lt below] using aligned

theorem geoPrefix_contains (below : start < 2 ^ family.bits) (aligned : 2 ^ (family.bits - block.prefixLen) ∣ start)
    (ended : block.blockEnd = start + (2 ^ (family.bits - block.prefixLen) - 1)) (country : BitVec 16) (ip : IpAddr) :
    (geoPrefix family start country block).contains ip = true ↔ ip.width = family.bits ∧ start ≤ ip.value ∧ ip.value ≤ block.blockEnd := by
  rw [aligned_contains (geoPrefix_aligned below aligned country),ended]
  simp [geoPrefix,prefixAddr,Nat.mod_eq_of_lt below,eq_comm]

end Blocks

theorem appendRangePrefixes_split {family : Family} (below : stop < 2 ^ family.bits) (start : Nat) (country : BitVec 16) :
    ∃ prefixes, appendRangePrefixes start stop family country = some prefixes ∧ Split family start stop country prefixes := by
  have narrow := family.bits_le
  have fits {start : Nat} (begun : start ≤ stop) := fitBlock_fits begun below narrow (Nat.sub_le family.bits (alignedBits start family.bits))
    (by
      rw [Nat.sub_sub_self (alignedBits_le start family.bits)]
      have larger := Nat.pow_le_pow_right Nat.zero_lt_two narrow
      exact alignedBits_dvd start family.bits (by omega))
  fun_induction appendRangePrefixes start stop family country with
  | case1 start begun stuck =>
      obtain ⟨block,fitted,_⟩ := fits begun
      rw [stuck] at fitted
      cases fitted
  | case2 start begun block fitted last =>
      obtain ⟨block',fitted',aligned,ended,within⟩ := fits begun
      rw [fitted] at fitted'
      cases fitted'
      have contains := geoPrefix_contains (by omega) aligned ended country
      have larger := Nat.pow_le_pow_right Nat.zero_lt_two narrow
      refine ⟨_,rfl,?_,List.pairwise_singleton _ _,?_,fun ip => ?_⟩
      · simpa using geoPrefix_aligned (by omega) aligned country
      · simp [geoPrefix]
      · simp only [List.mem_singleton,exists_eq_left,contains]
        omega
  | case3 start begun block fitted inside ih =>
      obtain ⟨block',fitted',aligned,ended,within⟩ := fits begun
      rw [fitted] at fitted'
      cases fitted'
      have contains := geoPrefix_contains (by omega) aligned ended country
      obtain ⟨later,split,rest⟩ := ih
      refine ⟨_,by rw [split]; rfl,?_,?_,?_,fun ip => ?_⟩
      · exact List.forall_mem_cons.mpr ⟨geoPrefix_aligned (by omega) aligned country,rest.aligned⟩
      · refine List.pairwise_cons.mpr ⟨fun geo listed ip both => ?_,rest.disjoint⟩
        have early := (contains ip).mp both.1
        have late := (rest.covers ip).mp ⟨geo,listed,both.2⟩
        omega
      · exact List.forall_mem_cons.mpr ⟨rfl,rest.labelled⟩
      · rw [List.exists_mem_cons_iff,contains,rest.covers]
        omega
  | case4 start ended =>
      refine ⟨[],rfl,?_,List.Pairwise.nil,?_,fun ip => ?_⟩
      · simp
      · simp
      · simp only [List.not_mem_nil,false_and,exists_false,false_iff]
        omega

-- The blocks of a list of ranges of one family.
structure Tiled (family : Family) (spans : List (Span family.bits (BitVec 16))) (prefixes : List GeoIpPrefix) : Prop where
  aligned : ∀ geo ∈ prefixes, Aligned geo.toCidr
  disjoint : prefixes.Pairwise fun first second => Disjoint first.toCidr second.toCidr
  native : ∀ geo ∈ prefixes, ∀ ip, geo.contains ip = true → ip.width = family.bits
  covers : ∀ country value, (∃ geo ∈ prefixes, geo.country = country ∧ geo.contains (family.addr value) = true) ↔
    Span.Covered spans country value

theorem Split.located {family : Family} {range : Span family.bits (BitVec 16)}
    (split : Split family range.start.toNat range.stop.toNat range.label prefixes) (country : BitVec 16) (value : BitVec family.bits) :
    (∃ geo ∈ prefixes, geo.country = country ∧ geo.contains (family.addr value) = true) ↔ range.label = country ∧ range.Contains value := by
  have inside := split.covers (family.addr value)
  rw [Family.addr_width,Family.addr_value,and_iff_right rfl] at inside
  change _ ↔ range.label = country ∧ range.start.toNat ≤ value.toNat ∧ value.toNat ≤ range.stop.toNat
  rw [← inside]
  constructor
  · intro given
    rcases given with ⟨geo,listed,rfl,holds⟩
    exact ⟨(split.labelled geo listed).symm,geo,listed,holds⟩
  · intro given
    rcases given with ⟨rfl,geo,listed,holds⟩
    exact ⟨geo,listed,split.labelled geo listed,holds⟩

theorem Split.tile {family : Family} {range : Span family.bits (BitVec 16)} {spans : List (Span family.bits (BitVec 16))}
    (first : Split family range.start.toNat range.stop.toNat range.label early) (rest : Tiled family spans late)
    (apart : Span.Apart (range :: spans)) : Tiled family (range :: spans) (early ++ late) := by
  refine ⟨?_,?_,?_,fun country value => ?_⟩
  · exact List.forall_mem_append.mpr ⟨first.aligned,rest.aligned⟩
  · refine List.pairwise_append.mpr ⟨first.disjoint,rest.disjoint,fun geo listed other listed' ip both => ?_⟩
    have early := (first.covers ip).mp ⟨geo,listed,both.1⟩
    obtain ⟨value,rfl⟩ : ∃ value, ip = family.addr value := by
      have widths := early.1
      cases family <;> cases ip <;> simp [IpAddr.width,Family.bits] at widths
      · exact ⟨_,rfl⟩
      · exact ⟨_,rfl⟩
    obtain ⟨span,member,_,inside⟩ := (rest.covers other.country value).mp ⟨other,listed',rfl,both.2⟩
    have gap := List.rel_of_pairwise_cons apart member
    have reached := inside.1
    rw [Family.addr_value] at early
    bv_omega
  · exact List.forall_mem_append.mpr ⟨fun geo listed ip holds => ((first.covers ip).mp ⟨geo,listed,holds⟩).1,rest.native⟩
  · unfold Span.Covered
    rw [List.exists_mem_cons_iff,← first.located,← Span.Covered,← rest.covers]
    simp only [List.mem_append,or_and_right,exists_or]

theorem appendRanges_tiled (family : Family) (spans : List (Span family.bits (BitVec 16))) (apart : Span.Apart spans) :
    ∃ prefixes, appendRanges family spans = some prefixes ∧ Tiled family spans prefixes := by
  induction spans with
  | nil => exact ⟨[],rfl,by simp,List.Pairwise.nil,by simp,by simp [Span.Covered]⟩
  | cons range rest ih =>
      obtain ⟨later,split,tiled⟩ := ih (List.pairwise_cons.mp apart).2
      obtain ⟨first,cut,pieces⟩ := appendRangePrefixes_split range.stop.isLt range.start.toNat range.label
      exact ⟨first ++ later,by simp [appendRanges,split,cut],pieces.tile tiled apart⟩

def geoTrie (prefixes : List GeoIpPrefix) : LpmTrie (BitVec 16) := LpmTrie.filled (prefixes.map fun geo => (geo.lpmKey,geo.country))

end Exactness

end Sigproxy.Xdp

namespace Sigproxy.Security
open Library Net Xdp

-- Sorted, disjoint and no range the wrong way round.
structure GeoSnapshot.Valid (snapshot : GeoSnapshot) : Prop where
  proper4 : Span.Proper snapshot.ipv4
  apart4 : Span.Apart snapshot.ipv4
  proper6 : Span.Proper snapshot.ipv6
  apart6 : Span.Apart snapshot.ipv6

def GeoSnapshot.Covers (snapshot : GeoSnapshot) (country : BitVec 16) : IpAddr → Prop
  | .v4 ip => Span.Covered snapshot.ipv4 country ip
  | .v6 ip => Span.Covered snapshot.ipv6 country ip

theorem GeoSnapshot.Valid.lookup_iff (valid : GeoSnapshot.Valid snapshot) (ip : IpAddr) (country : BitVec 16) :
    snapshot.lookupCountry ip = some country ↔ snapshot.Covers country ip := by
  cases ip with
  | v4 ip => exact Span.find_label valid.proper4 valid.apart4 country ip
  | v6 ip => exact Span.find_label valid.proper6 valid.apart6 country ip

structure GeoSnapshot.TiledBy (snapshot : GeoSnapshot) (prefixes : List GeoIpPrefix) : Prop where
  aligned : ∀ geo ∈ prefixes, Aligned geo.toCidr
  disjoint : prefixes.Pairwise fun first second => Xdp.Disjoint first.toCidr second.toCidr
  covers : ∀ country ip, (∃ geo ∈ prefixes, geo.country = country ∧ geo.contains ip = true) ↔ snapshot.Covers country ip

theorem GeoSnapshot.Valid.tiled (valid : GeoSnapshot.Valid snapshot) :
    ∃ prefixes, snapshot.xdpPrefixes = some prefixes ∧ snapshot.TiledBy prefixes := by
  obtain ⟨ipv4,split4,tiled4⟩ := appendRanges_tiled .v4 snapshot.ipv4 valid.apart4
  obtain ⟨ipv6,split6,tiled6⟩ := appendRanges_tiled .v6 snapshot.ipv6 valid.apart6
  refine ⟨ipv4 ++ ipv6,by simp [xdpPrefixes,split4,split6],?_,?_,fun country ip => ?_⟩
  · exact List.forall_mem_append.mpr ⟨tiled4.aligned,tiled6.aligned⟩
  · refine List.pairwise_append.mpr ⟨tiled4.disjoint,tiled6.disjoint,fun geo listed other listed' ip both => ?_⟩
    have narrow := tiled4.native geo listed ip both.1
    have wide := tiled6.native other listed' ip both.2
    rw [narrow] at wide
    cases wide
  · simp only [List.mem_append,or_and_right,exists_or]
    cases ip with
    | v4 ip =>
        rw [or_iff_left]
        · exact tiled4.covers country ip
        · intro given
          rcases given with ⟨geo,listed,_,holds⟩
          cases tiled6.native geo listed _ holds
    | v6 ip =>
        rw [or_iff_right]
        · exact tiled6.covers country ip
        · intro given
          rcases given with ⟨geo,listed,_,holds⟩
          cases tiled4.native geo listed _ holds

-- The blocks are apart, so at most one country has a block with the address.
theorem GeoSnapshot.TiledBy.trie_match (tiled : GeoSnapshot.TiledBy snapshot prefixes) (valid : GeoSnapshot.Valid snapshot) (ip : IpAddr) :
    (geoTrie prefixes).match? (makeGeoLpmKey ip ip.width) = snapshot.lookupCountry ip := by
  cases found : snapshot.lookupCountry ip with
  | some country =>
      have covered := (valid.lookup_iff ip country).mp found
      obtain ⟨geo,listed,rfl,holds⟩ := (tiled.covers country ip).mpr covered
      refine LpmTrie.match?_filled ?_ ⟨(geo.lpmKey,geo.country),List.mem_map_of_mem listed,(geoKey_covers_packet geo ip).mpr holds⟩
      intro entry member covers
      obtain ⟨other,listed',rfl⟩ := List.mem_map.mp member
      have located := (tiled.covers other.country ip).mp ⟨other,listed',rfl,(geoKey_covers_packet other ip).mp covers⟩
      rw [(valid.lookup_iff ip _).mpr located] at found
      exact Option.some.inj found
  | none =>
      refine LpmTrie.match?_filled_none ?_
      intro entry member covers
      obtain ⟨other,listed,rfl⟩ := List.mem_map.mp member
      have located := (tiled.covers other.country ip).mp ⟨other,listed,rfl,(geoKey_covers_packet other ip).mp covers⟩
      rw [(valid.lookup_iff ip _).mpr located] at found
      cases found

section Fetched
variable {parseIp : String → Except String IpAddr}

structure Ranges.Proper (ranges : Ranges) : Prop where
  ipv4 : Span.Proper ranges.ipv4
  ipv6 : Span.Proper ranges.ipv6

theorem ipRange_proper {addr : BitVec width} (read : ipRange tooLong addr prefixLen = .ok (start,stop)) : start ≤ stop := by
  by_cases bounded : prefixLen ≤ width
  · rw [ipRange_eq addr bounded tooLong 0] at read
    cases read
    exact blockSpan_proper ..
  · rw [ipRange,if_pos (by omega)] at read
    cases read

theorem proper_snoc {spans : List (Span width (BitVec 16))} (proper : Span.Proper spans) (begun : start ≤ stop) (country : BitVec 16) :
    Span.Proper (spans ++ [⟨start,stop,country⟩]) :=
  List.forall_mem_append.mpr ⟨proper,List.forall_mem_singleton.mpr begun⟩

theorem appendRange_proper (proper : Ranges.Proper ranges) (read : appendRange parseIp country ranges line = .ok next) : next.Proper := by
  obtain ⟨⟨addr,prefixLen⟩,_,read⟩ := bind_ok.mp read
  cases addr with
  | v4 addr =>
      obtain ⟨⟨start,stop⟩,ranged,read⟩ := bind_ok.mp read
      cases read
      exact ⟨proper_snoc proper.ipv4 (ipRange_proper ranged) country,proper.ipv6⟩
  | v6 addr =>
      obtain ⟨⟨start,stop⟩,ranged,read⟩ := bind_ok.mp read
      cases read
      exact ⟨proper.ipv4,proper_snoc proper.ipv6 (ipRange_proper ranged) country⟩

theorem appendLines_proper (proper : Ranges.Proper ranges) (texts : List String) : (appendLines parseIp country ranges texts).1.Proper := by
  induction texts generalizing ranges with
  | nil => exact proper
  | cons line rest ih =>
      rw [appendLines]
      split
      · exact ih proper
      · split
        · exact proper
        · rename_i read
          exact ih (appendRange_proper proper read)

theorem appendCountryRanges_proper (proper : Ranges.Proper ranges) (country body : String) :
    (appendCountryRanges parseIp country body ranges).1.Proper := by
  unfold appendCountryRanges
  split
  · exact proper
  · exact appendLines_proper proper _

theorem absorb_proper {fetch : Fetch} (proper : fetch.ranges.Proper) (absorbed : absorb parseIp allowPartial fetch ended = .ok next) :
    next.ranges.Proper := by
  cases ended with
  | aborted error => cases absorbed
  | failed error =>
      rw [absorb] at absorbed
      split at absorbed
      · cases absorbed
        exact proper
      · cases absorbed
  | fetched country body =>
      have read := @appendCountryRanges_proper parseIp _ proper country body
      rw [absorb] at absorbed
      split at absorbed
      · rename_i ranges _ appended
        rw [appended] at read
        cases absorbed
        exact read
      · rename_i ranges error appended
        rw [appended] at read
        split at absorbed
        · cases absorbed
          exact read
        · cases absorbed

theorem absorbed_proper {fetch : Fetch} (proper : fetch.ranges.Proper) (results : List Joined)
    (absorbed : results.foldlM (absorb parseIp allowPartial) fetch = .ok next) : next.ranges.Proper := by
  induction results generalizing fetch with
  | nil => cases absorbed; exact proper
  | cons ended rest ih =>
      obtain ⟨middle,first,later⟩ := bind_ok.mp absorbed
      exact ih (absorb_proper proper first) later

theorem validated_apart {ranges : List (Span width (BitVec 16))} (proper : Span.Proper ranges)
    (validated : validateNonOverlapping overlapping ranges = .ok unit) : Span.Apart ranges := by
  unfold validateNonOverlapping at validated
  split at validated
  · rename_i checked
    exact (Span.nonOverlapping_iff proper).mp checked
  · cases validated

-- Whatever the feeds held, a snapshot that has been fetched can be searched.
theorem fetched_valid (fetched : fetchGeoSnapshot parseIp allowPartial now results = .ok snapshot) : snapshot.Valid := by
  obtain ⟨fetch,absorbed,fetched⟩ := bind_ok.mp fetched
  have begun : (Fetch.mk ⟨[],[]⟩ 0 0).ranges.Proper := ⟨List.forall_mem_nil _,List.forall_mem_nil _⟩
  have proper := absorbed_proper begun results absorbed
  split at fetched
  · cases fetched
  · obtain ⟨_,validated4,fetched⟩ := bind_ok.mp fetched
    obtain ⟨_,validated6,fetched⟩ := bind_ok.mp fetched
    cases fetched
    have proper4 : Span.Proper (normalizeV4Ranges fetch.ranges.ipv4) := Span.normalize_proper _ proper.ipv4
    have proper6 : Span.Proper (normalizeV6Ranges fetch.ranges.ipv6) := Span.normalize_proper _ proper.ipv6
    exact ⟨proper4,validated_apart proper4 validated4,proper6,validated_apart proper6 validated6⟩

-- The snapshots that the program makes: fetched ones, which its cache gives back
-- as they were, and the one that is built in.
inductive Produced (parseIp : String → Except String IpAddr) : GeoSnapshot → Prop
  | fetched : fetchGeoSnapshot parseIp allowPartial now results = .ok snapshot → Produced parseIp snapshot
  | embedded : Produced parseIp ⟨0,[],[]⟩

theorem Produced.valid (produced : Produced parseIp snapshot) : snapshot.Valid := by
  cases produced with
  | fetched fetched => exact fetched_valid fetched
  | embedded => exact ⟨List.forall_mem_nil _,.nil,List.forall_mem_nil _,.nil⟩

end Fetched

theorem geo_prefixes_equal_lookup :
    (∀ (family : Family) (range : Span family.bits (BitVec 16)),
      (appendRangePrefixes range.start.toNat range.stop.toNat family range.label).isSome = true) ∧
    ∀ snapshot : GeoSnapshot, snapshot.Valid → ∃ prefixes, snapshot.xdpPrefixes = some prefixes ∧
      (∀ geo ∈ prefixes, Aligned geo.toCidr) ∧
      (prefixes.Pairwise fun first second => Xdp.Disjoint first.toCidr second.toCidr) ∧
      (∀ country ip, (∃ geo ∈ prefixes, geo.country = country ∧ geo.contains ip = true) ↔ snapshot.Covers country ip) ∧
      ∀ ip country, (geoTrie prefixes).match? (makeGeoLpmKey ip ip.width) = some country ↔ snapshot.lookupCountry ip = some country := by
  refine ⟨fun family range => ?_,fun snapshot valid => ?_⟩
  · obtain ⟨prefixes,split,_⟩ := appendRangePrefixes_split range.stop.isLt range.start.toNat range.label
    rw [split]
    rfl
  · obtain ⟨prefixes,split,tiled⟩ := valid.tiled
    exact ⟨prefixes,split,tiled.aligned,tiled.disjoint,tiled.covers,fun ip country => by rw [tiled.trie_match valid ip]⟩

-- One range that ends with the last IPv4 address, one that is all of IPv6.
def everywhere : GeoSnapshot := ⟨0,[⟨1,BitVec.allOnes 32,0x4445⟩],[⟨0,BitVec.allOnes 128,0x4652⟩]⟩

theorem everywhere_prefixes : ∃ prefixes, everywhere.xdpPrefixes = some prefixes ∧
    ∀ ip country, (geoTrie prefixes).match? (makeGeoLpmKey ip ip.width) = some country ↔ everywhere.lookupCountry ip = some country := by
  have valid : everywhere.Valid := ⟨by decide,by decide,by decide,by decide⟩
  obtain ⟨prefixes,split,_,_,_,matched⟩ := geo_prefixes_equal_lookup.2 everywhere valid
  exact ⟨prefixes,split,matched⟩

end Sigproxy.Security
