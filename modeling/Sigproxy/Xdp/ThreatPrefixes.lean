import Sigproxy.Xdp.Plan

namespace Sigproxy.Xdp
open Library Net Security

section Snapshot

abbrev ThreatRangeV4 := Span 32 Unit
abbrev ThreatRangeV6 := Span 128 Unit

structure ThreatSnapshot where
  createdAtEpochSeconds : Nat
  prefixes : List ThreatIpPrefix
  ipv4 : List ThreatRangeV4
  ipv6 : List ThreatRangeV6
  deriving DecidableEq

def prefixRange (value : BitVec width) (prefixLen : Nat) : BitVec width × BitVec width :=
  let mask := if prefixLen = 0 then 0 else BitVec.allOnes width <<< (width - prefixLen)
  let start := value &&& mask
  (start,start ||| ~~~mask)

def prefixRangeV4 (addr : BitVec 32) (prefixLen : Nat) : BitVec 32 × BitVec 32 := prefixRange addr prefixLen
def prefixRangeV6 (addr : BitVec 128) (prefixLen : Nat) : BitVec 128 × BitVec 128 := prefixRange addr prefixLen

def normalizePrefix : ThreatIpPrefix → ThreatIpPrefix
  | ⟨.v4 addr,prefixLen,bounded⟩ => ⟨.v4 (prefixRangeV4 addr prefixLen).1,prefixLen,bounded⟩
  | ⟨.v6 addr,prefixLen,bounded⟩ => ⟨.v6 (prefixRangeV6 addr prefixLen).1,prefixLen,bounded⟩

-- The set of prefixes seen so far is what has been pushed.
def pushUnique (normalized : List ThreatIpPrefix) (cidr : ThreatIpPrefix) : List ThreatIpPrefix :=
  if normalizePrefix cidr ∈ normalized then normalized else normalized ++ [normalizePrefix cidr]

def isIpv6 : IpAddr → Bool
  | .v4 _ => false
  | .v6 _ => true

def prefixKey (cidr : ThreatIpPrefix) : Bool ×ₗ Nat ×ₗ Nat := toLex (isIpv6 cidr.addr,toLex (cidr.addr.value,cidr.prefixLen))

def threatRangeV4 : ThreatIpPrefix → Option ThreatRangeV4
  | ⟨.v4 addr,prefixLen,_⟩ => some ⟨(prefixRangeV4 addr prefixLen).1,(prefixRangeV4 addr prefixLen).2,()⟩
  | ⟨.v6 _,_,_⟩ => none

def threatRangeV6 : ThreatIpPrefix → Option ThreatRangeV6
  | ⟨.v4 _,_,_⟩ => none
  | ⟨.v6 addr,prefixLen,_⟩ => some ⟨(prefixRangeV6 addr prefixLen).1,(prefixRangeV6 addr prefixLen).2,()⟩

def mergeV4Ranges (ranges : List ThreatRangeV4) : List ThreatRangeV4 := Span.normalize (fun _ => 0) ranges
def mergeV6Ranges (ranges : List ThreatRangeV6) : List ThreatRangeV6 := Span.normalize (fun _ => 0) ranges

def buildSnapshot (now : Nat) (prefixes : List ThreatIpPrefix) : ThreatSnapshot :=
  let normalized := sortBy prefixKey (prefixes.foldl pushUnique [])
  ⟨now,normalized,mergeV4Ranges (normalized.filterMap threatRangeV4),mergeV6Ranges (normalized.filterMap threatRangeV6)⟩

def ThreatSnapshot.contains (snapshot : ThreatSnapshot) : IpAddr → Bool
  | .v4 ip => (Span.find snapshot.ipv4 ip).isSome
  | .v6 ip => (Span.find snapshot.ipv6 ip).isSome

def ThreatSnapshot.xdpPrefixes (snapshot : ThreatSnapshot) : List ThreatIpPrefix := snapshot.prefixes

end Snapshot

section Normalizing

theorem prefixRange_start (value : BitVec width) (prefixLen : Nat) :
    (prefixRange value prefixLen).1.toNat = value.toNat / 2 ^ (width - prefixLen) * 2 ^ (width - prefixLen) := by
  unfold prefixRange
  dsimp only
  split
  · rename_i none
    simp [none,Nat.div_eq_of_lt value.isLt]
  · exact toNat_and_high value _

theorem prefixRange_between (value ip : BitVec width) (prefixLen : Nat) :
    ((prefixRange value prefixLen).1 ≤ ip ∧ ip ≤ (prefixRange value prefixLen).2) ↔ sameNetwork prefixLen value ip = true := by
  rw [sameNetwork_iff]
  unfold prefixRange
  dsimp only
  split
  · rename_i none
    subst none
    have inside := ip.isLt
    simp [Nat.div_eq_of_lt value.isLt,Nat.div_eq_of_lt ip.isLt,BitVec.le_def]
    omega
  · exact between_high_iff value ip (Nat.sub_le _ _)

-- Clearing the host bits does not change what a prefix contains.
theorem prefixRange_sameNetwork (value ip : BitVec width) (prefixLen : Nat) :
    sameNetwork prefixLen (prefixRange value prefixLen).1 ip = sameNetwork prefixLen value ip := by
  rw [Bool.eq_iff_iff,sameNetwork_iff,sameNetwork_iff,prefixRange_start,Nat.mul_div_cancel _ (Nat.two_pow_pos _)]

theorem normalizePrefix_contains (cidr : ThreatIpPrefix) (ip : IpAddr) : (normalizePrefix cidr).contains ip = cidr.contains ip := by
  obtain ⟨addr | addr,prefixLen,bounded⟩ := cidr <;> cases ip <;>
    simp [normalizePrefix,Cidr.contains,prefixRangeV4,prefixRangeV6,prefixRange_sameNetwork]

theorem mem_pushUnique : member ∈ pushUnique normalized cidr ↔ member ∈ normalized ∨ member = normalizePrefix cidr := by
  unfold pushUnique
  split
  · rename_i known
    exact ⟨.inl,fun either => either.elim id fun same => same ▸ known⟩
  · simp

theorem mem_pushUniques (prefixes : List ThreatIpPrefix) :
    member ∈ prefixes.foldl pushUnique [] ↔ ∃ cidr ∈ prefixes, normalizePrefix cidr = member := by
  induction prefixes using List.reverseRecOn with
  | nil => simp
  | append_singleton rest last ih =>
      rw [List.foldl_append,List.foldl_cons,List.foldl_nil,mem_pushUnique,ih]
      simp [or_and_right,exists_or,eq_comm]

theorem pushUniques_nodup (prefixes : List ThreatIpPrefix) : (prefixes.foldl pushUnique []).Nodup := by
  induction prefixes using List.reverseRecOn with
  | nil => exact List.nodup_nil
  | append_singleton rest last ih =>
      rw [List.foldl_append,List.foldl_cons,List.foldl_nil,pushUnique]
      split
      · exact ih
      · rename_i fresh
        exact List.nodup_append.mpr ⟨ih,List.nodup_singleton _,fun known listed other singled same => by
          rw [List.mem_singleton.mp singled] at same
          exact fresh (same ▸ listed)⟩

theorem prefixKey_injective : Function.Injective prefixKey := by
  rintro ⟨addr | addr,prefixLen,bounded⟩ ⟨addr' | addr',prefixLen',bounded'⟩ same
  all_goals simp_all [prefixKey,isIpv6,IpAddr.value,BitVec.toNat_inj]

end Normalizing

section Agreement

-- Every address lies in its own range.
theorem prefixRange_ordered (addr : BitVec width) (prefixLen : Nat) : (prefixRange addr prefixLen).1 ≤ (prefixRange addr prefixLen).2 := by
  have inside := (prefixRange_between addr addr prefixLen).mpr (sameNetwork_iff.mpr rfl)
  exact BitVec.le_trans inside.1 inside.2

theorem threatRangeV4_represents : Represents (fun _ => threatRangeV4) .v4 := by
  constructor
  · intros
    rfl
  · rintro _ ⟨addr | addr,prefixLen,bounded⟩ span found <;> cases found
    exact prefixRange_ordered addr prefixLen
  · rintro _ ⟨addr | addr,prefixLen,bounded⟩ ip
    · simp [threatRangeV4,prefixRangeV4,Span.Contains,prefixRange_between,Cidr.contains]
    · simp [threatRangeV4,Cidr.contains]

theorem threatRangeV6_represents : Represents (fun _ => threatRangeV6) .v6 := by
  constructor
  · intros
    rfl
  · rintro _ ⟨addr | addr,prefixLen,bounded⟩ span found <;> cases found
    exact prefixRange_ordered addr prefixLen
  · rintro _ ⟨addr | addr,prefixLen,bounded⟩ ip
    · simp [threatRangeV6,Cidr.contains]
    · simp [threatRangeV6,prefixRangeV6,Span.Contains,prefixRange_between,Cidr.contains]

theorem mem_prefixes (now : Nat) (prefixes : List ThreatIpPrefix) :
    member ∈ (buildSnapshot now prefixes).prefixes ↔ ∃ cidr ∈ prefixes, normalizePrefix cidr = member :=
  (mem_sortBy prefixKey).trans (mem_pushUniques prefixes)

theorem prefixes_contain (now : Nat) (prefixes : List ThreatIpPrefix) (ip : IpAddr) :
    (∃ cidr ∈ (buildSnapshot now prefixes).prefixes, cidr.contains ip = true) ↔ ∃ cidr ∈ prefixes, cidr.contains ip = true := by
  constructor
  · intro all
    rcases all with ⟨member,listed,holds⟩
    obtain ⟨cidr,given,rfl⟩ := (mem_prefixes now prefixes).mp listed
    exact ⟨cidr,given,normalizePrefix_contains cidr ip ▸ holds⟩
  · intro all
    rcases all with ⟨cidr,given,holds⟩
    exact ⟨normalizePrefix cidr,(mem_prefixes now prefixes).mpr ⟨cidr,given,rfl⟩,(normalizePrefix_contains cidr ip).trans holds⟩

theorem merged_find {range : ThreatIpPrefix → Option (Span width Unit)} {addr : BitVec width → IpAddr}
    (represents : Represents (fun _ => range) addr) (prefixes : List ThreatIpPrefix) (ip : BitVec width) :
    (Span.find (Span.normalize (fun _ => 0) (prefixes.filterMap range)) ip).isSome = true ↔
      ∃ cidr ∈ prefixes, cidr.contains (addr ip) = true := by
  have proper : Span.Proper (prefixes.filterMap range) := by
    intro span listed
    obtain ⟨cidr,_,found⟩ := List.mem_filterMap.mp listed
    exact @represents.proper () cidr span found
  have found := Span.find_normalize (fun _ => 0) proper (fun _ _ _ _ _ => rfl) () ip
  constructor
  · intro hit
    obtain ⟨hitSpan,hit⟩ := Option.isSome_iff_exists.mp hit
    obtain ⟨span,listed,_,inside⟩ := found.mp (by rw [hit]; rfl)
    obtain ⟨cidr,given,ranged⟩ := List.mem_filterMap.mp listed
    exact ⟨cidr,given,(@represents.contains () cidr ip).mp ⟨span,ranged,inside⟩⟩
  · intro all
    rcases all with ⟨cidr,given,holds⟩
    obtain ⟨span,ranged,inside⟩ := (@represents.contains () cidr ip).mpr holds
    obtain ⟨hitSpan,hit,_⟩ := Option.map_eq_some_iff.mp (found.mpr ⟨span,List.mem_filterMap.mpr ⟨cidr,given,ranged⟩,rfl,inside⟩)
    rw [hit]
    rfl

theorem snapshot_contains (now : Nat) (prefixes : List ThreatIpPrefix) (ip : IpAddr) :
    (buildSnapshot now prefixes).contains ip = true ↔ ∃ cidr ∈ prefixes, cidr.contains ip = true := by
  rw [← prefixes_contain now]
  cases ip with
  | v4 ip => exact merged_find threatRangeV4_represents _ ip
  | v6 ip => exact merged_find threatRangeV6_represents _ ip

def threatTrie (spec : XdpListenerSpec) (prefixes : List ThreatIpPrefix) : LpmTrie (BitVec 8) :=
  LpmTrie.filled (prefixes.map fun cidr => (spec.lpmKey cidr,1#8))

theorem threatTrie_match (spec : XdpListenerSpec) (prefixes : List ThreatIpPrefix) (ip : IpAddr) :
    ((threatTrie spec prefixes).match? (makeLpmKey spec.l4Proto spec.port ip ip.width)).isSome = true ↔
      ∃ cidr ∈ prefixes, cidr.contains ip = true := by
  rw [threatTrie,LpmTrie.match?_isSome fun _ => LpmTrie.filled_isSome]
  simp [lpmKey_covers_packet]

theorem buildSnapshot_perm (now : Nat) (same : prefixes'.Perm prefixes) : buildSnapshot now prefixes' = buildSnapshot now prefixes := by
  have pushed : (prefixes'.foldl pushUnique []).Perm (prefixes.foldl pushUnique []) := by
    apply (List.perm_ext_iff_of_nodup (pushUniques_nodup prefixes') (pushUniques_nodup prefixes)).mpr
    intro cidr
    rw [mem_pushUniques,mem_pushUniques]
    simp only [same.mem_iff]
  simp only [buildSnapshot,sortBy_eq prefixKey prefixKey_injective pushed]

theorem threat_representations_agree (now : Nat) (prefixes : List ThreatIpPrefix) :
    (∀ ip, (buildSnapshot now prefixes).contains ip = true ↔ ∃ cidr ∈ prefixes, cidr.contains ip = true) ∧
    (∀ (spec : XdpListenerSpec) (ip : IpAddr),
      ((threatTrie spec (buildSnapshot now prefixes).xdpPrefixes).match? (makeLpmKey spec.l4Proto spec.port ip ip.width)).isSome = true ↔
        ∃ cidr ∈ prefixes, cidr.contains ip = true) ∧
    ∀ prefixes', prefixes'.Perm prefixes → buildSnapshot now prefixes' = buildSnapshot now prefixes := by
  refine ⟨snapshot_contains now prefixes,fun spec ip => ?_,fun prefixes' same => buildSnapshot_perm now same⟩
  rw [threatTrie_match]
  exact prefixes_contain now prefixes ip

end Agreement

end Sigproxy.Xdp
