import Sigproxy.Library.Fallible
import Sigproxy.Library.Lpm
import Sigproxy.Security.Cidr
import Mathlib.Data.List.Dedup
import Mathlib.Data.List.Sort
import Mathlib.Tactic.IntervalCases

namespace Sigproxy.Xdp
open Library Net Security

def xdpProtoIcmp : BitVec 8 := 1
def xdpProtoTcp : BitVec 8 := 6
def xdpProtoUdp : BitVec 8 := 17

def xdpPolicyCidrAllowEnabled : BitVec 64 := 1 <<< 0
def xdpPolicyGeoEnabled : BitVec 64 := 1 <<< 1
def xdpPolicyGeoUnknownAllow : BitVec 64 := 1 <<< 2
def xdpPolicyGeoAllowHasEntries : BitVec 64 := 1 <<< 3
def xdpPolicyIpRateLimitEnabled : BitVec 64 := 1 <<< 4
def xdpPolicyFloodEnabled : BitVec 64 := 1 <<< 5

abbrev CountryBits := Vector (BitVec 64) 11

structure RateLimit where
  packetsPerSecond : BitVec 32
  burst : BitVec 32
  deriving DecidableEq, Repr

structure XdpListenerPolicy where
  flags : BitVec 64
  ipRate : RateLimit
  udpFlood : RateLimit
  tcpFlood : RateLimit
  tcpSynFlood : RateLimit
  tcpAckFlood : RateLimit
  icmpFlood : RateLimit
  geoAllow : CountryBits
  geoDeny : CountryBits
  deriving DecidableEq

abbrev XdpCidrPrefix := Cidr
abbrev ThreatIpPrefix := Cidr

structure GeoIpPrefix extends Cidr where
  country : BitVec 16
  deriving DecidableEq

structure XdpListenerPolicySpec extends XdpListenerPolicy where
  trustedCidrs : List XdpCidrPrefix
  allowCidrs : List XdpCidrPrefix
  denyCidrs : List XdpCidrPrefix
  threatIntel : Bool
  deriving DecidableEq

structure XdpListenerSpec where
  listenerKey : String
  l4Proto : BitVec 8
  port : BitVec 16
  policy : XdpListenerPolicySpec
  deriving DecidableEq

def encodeListenerPolicy (policy : XdpListenerPolicySpec) : XdpListenerPolicy := policy.toXdpListenerPolicy

section Keys

-- The padding byte between the two is zero.
structure XdpListenerKey where
  l4Proto : BitVec 8
  dport : BitVec 16
  deriving DecidableEq, Repr

def makeListenerKey (l4Proto : BitVec 8) (port : BitVec 16) : XdpListenerKey := ⟨l4Proto,port⟩

def family : IpAddr → BitVec 8
  | .v4 _ => 4
  | .v6 _ => 6

-- The sixteen bytes of an address field: an IPv4 address fills the first four.
def addrBytes : IpAddr → BitVec 128
  | .v4 bits => bits ++ 0#96
  | .v6 bits => bits

def lpmHeader (family l4Proto : BitVec 8) (dport : BitVec 16) : BitVec 32 := family ++ l4Proto ++ dport
def geoHeader (family : BitVec 8) : BitVec 32 := family ++ 0#24

-- Memory order: header fields, then the address, each in network byte order.
def lpmKey (header : BitVec 32) (addr : IpAddr) (prefixLen : Nat) : LpmKey 160 :=
  ⟨BitVec.ofNat 32 (32 + prefixLen),header ++ addrBytes addr⟩

def makeLpmKey (l4Proto : BitVec 8) (port : BitVec 16) (addr : IpAddr) (prefixLen : Nat) : LpmKey 160 :=
  lpmKey (lpmHeader (family addr) l4Proto port) addr prefixLen

def makeGeoLpmKey (addr : IpAddr) (prefixLen : Nat) : LpmKey 160 :=
  lpmKey (geoHeader (family addr)) addr prefixLen

-- The native byte order of a `u32` on the machines XDP runs on.
def neBytes (word : BitVec 32) : BitVec 32 :=
  word.extractLsb' 0 8 ++ word.extractLsb' 8 8 ++ word.extractLsb' 16 8 ++ word.extractLsb' 24 8

theorem neBytes_neBytes (word : BitVec 32) : neBytes (neBytes word) = word := by
  unfold neBytes
  ext i inside
  simp only [BitVec.getElem_append,BitVec.getElem_extractLsb',BitVec.getLsbD_append,BitVec.getLsbD_extractLsb']
  interval_cases i <;> simp

-- Twenty-four bytes, the first one on top.
def encodeLpmKeyBytes (key : LpmKey 160) : BitVec 192 := neBytes key.prefixLen ++ key.data

def decodeLpmKeyBytes (raw : BitVec 192) : LpmKey 160 :=
  ⟨neBytes (raw.extractLsb' 160 32),raw.extractLsb' 0 160⟩

@[simp] theorem decode_encode (key : LpmKey 160) : decodeLpmKeyBytes (encodeLpmKeyBytes key) = key := by
  unfold decodeLpmKeyBytes encodeLpmKeyBytes
  rw [BitVec.extractLsb'_append_eq_left,BitVec.extractLsb'_append_eq_right,neBytes_neBytes]

end Keys

section Matching

theorem addrBytes_toNat (addr : IpAddr) : (addrBytes addr).toNat = addr.value * 2 ^ (128 - addr.width) := by
  cases addr with
  | v4 bits =>
      change (bits ++ 0#96 : BitVec (32 + 96)).toNat = bits.toNat * 2 ^ 96
      rw [BitVec.toNat_append,Nat.shiftLeft_eq,BitVec.toNat_ofNat,Nat.zero_mod,Nat.or_zero]
  | v6 bits => simp [addrBytes,IpAddr.value,IpAddr.width]

theorem addrBytes_div (addr : IpAddr) (within : prefixLen ≤ addr.width) :
    (addrBytes addr).toNat / 2 ^ (128 - prefixLen) = addr.value / 2 ^ (addr.width - prefixLen) := by
  have wide := addr.width_le
  have split : 128 - prefixLen = 128 - addr.width + (addr.width - prefixLen) := by omega
  rw [addrBytes_toNat,split,pow_add,mul_comm,Nat.mul_div_mul_left _ _ (Nat.two_pow_pos _)]

theorem addrBytes_div_lt (addr : IpAddr) (within : prefixLen ≤ 128) :
    (addrBytes addr).toNat / 2 ^ (128 - prefixLen) < 2 ^ prefixLen := by
  rw [Nat.div_lt_iff_lt_mul (Nat.two_pow_pos _),← pow_add,Nat.add_sub_cancel' within]
  exact (addrBytes addr).isLt

theorem lpmKey_leading (header : BitVec 32) (addr : IpAddr) (within : prefixLen ≤ 128) :
    (header ++ addrBytes addr).toNat / 2 ^ (160 - (32 + prefixLen)) =
      header.toNat * 2 ^ prefixLen + (addrBytes addr).toNat / 2 ^ (128 - prefixLen) := by
  have width : 160 - (32 + prefixLen) = 128 - prefixLen := by omega
  rw [BitVec.toNat_append,← Nat.shiftLeft_add_eq_or_of_lt (addrBytes addr).isLt,Nat.shiftLeft_eq,width,div_side_by_side _ _ within]

theorem lpmKey_prefixLen (header : BitVec 32) (addr : IpAddr) (within : prefixLen ≤ 128) :
    (lpmKey header addr prefixLen).prefixLen.toNat = 32 + prefixLen := by
  rw [lpmKey,BitVec.toNat_ofNat,Nat.mod_eq_of_lt (by omega)]

-- The header tells the families apart, so a key of the trie covers the key of a
-- packet exactly when the headers are the same and the block contains the address.
theorem lpmKey_covers (headerOf : IpAddr → BitVec 32) (cidr : Cidr) (other : BitVec 32) (ip : IpAddr)
    (apart : headerOf cidr.addr = other → cidr.addr.width = ip.width) :
    (lpmKey (headerOf cidr.addr) cidr.addr cidr.prefixLen).Covers (lpmKey other ip ip.width) ↔
      headerOf cidr.addr = other ∧ cidr.contains ip = true := by
  have bounded := cidr.bounded
  have narrow := cidr.addr.width_le
  have wide := ip.width_le
  rw [LpmKey.Covers,lpmKey_prefixLen _ _ (by omega),lpmKey_prefixLen _ _ wide]
  simp only [lpmKey]
  rw [lpmKey_leading _ _ (by omega),lpmKey_leading _ _ (by omega),
    side_by_side_inj (addrBytes_div_lt _ (by omega)) (addrBytes_div_lt _ (by omega)),BitVec.toNat_inj,Cidr.contains_iff]
  constructor
  · intro given
    rcases given with ⟨shorter,headers,leading⟩
    have widths := apart headers
    rw [addrBytes_div _ bounded,addrBytes_div _ (by omega),widths] at leading
    exact ⟨headers,widths,leading⟩
  · intro given
    rcases given with ⟨headers,widths,leading⟩
    refine ⟨by omega,headers,?_⟩
    rw [addrBytes_div _ bounded,addrBytes_div _ (by omega),widths]
    exact leading

theorem family_width {first second : IpAddr} : family first = family second ↔ first.width = second.width := by
  cases first <;> cases second <;> simp [family,IpAddr.width]

theorem append_inj {upper upper' : BitVec m} {lower lower' : BitVec n} :
    upper ++ lower = upper' ++ lower' ↔ upper = upper' ∧ lower = lower' := by
  constructor
  · intro same
    have uppers := congrArg (BitVec.extractLsb' n m) same
    have lowers := congrArg (BitVec.extractLsb' 0 n) same
    rw [BitVec.extractLsb'_append_eq_left,BitVec.extractLsb'_append_eq_left] at uppers
    rw [BitVec.extractLsb'_append_eq_right,BitVec.extractLsb'_append_eq_right] at lowers
    exact ⟨uppers,lowers⟩
  · intro both
    rcases both with ⟨rfl,rfl⟩
    rfl

theorem lpmHeader_inj : lpmHeader first l4Proto dport = lpmHeader second l4Proto' dport' ↔
    first = second ∧ l4Proto = l4Proto' ∧ dport = dport' :=
  append_inj.trans ((and_congr_left' append_inj).trans and_assoc)

end Matching

section Plan

-- A `BTreeSet` lists its members once and in the order of its keys.
def btreeSet [DecidableEq Key] (rank : Key → Nat) (keys : List Key) : List Key :=
  keys.dedup.insertionSort fun first second => rank first ≤ rank second

@[simp] theorem mem_btreeSet [DecidableEq Key] {rank : Key → Nat} {keys : List Key} :
    key ∈ btreeSet rank keys ↔ key ∈ keys := by
  rw [btreeSet,List.mem_insertionSort,List.mem_dedup]

-- The port is stored in network order and compared as a native number.
def XdpListenerKey.rank (key : XdpListenerKey) : Nat :=
  (key.l4Proto ++ key.dport.extractLsb' 0 8 ++ key.dport.extractLsb' 8 8).toNat

inductive LpmMap where
  | allowCidrs
  | denyCidrs
  | trustedCidrs
  | geoCidrs
  deriving DecidableEq, Repr

instance decidableForallMap (holds : LpmMap → Prop) [∀ map, Decidable (holds map)] : Decidable (∀ map, holds map) :=
  decidable_of_iff (holds .allowCidrs ∧ holds .denyCidrs ∧ holds .trustedCidrs ∧ holds .geoCidrs)
    ⟨fun each map => by cases map <;> tauto,fun all => ⟨all _,all _,all _,all _⟩⟩

structure XdpStaticKeys where
  listenerPolicies : List XdpListenerKey
  lpm : LpmMap → List (BitVec 192)

def XdpStaticKeys.default : XdpStaticKeys := ⟨[],fun _ => []⟩

def XdpListenerSpec.key (spec : XdpListenerSpec) : XdpListenerKey := makeListenerKey spec.l4Proto spec.port

def XdpListenerSpec.lpmKey (spec : XdpListenerSpec) (cidr : Cidr) : LpmKey 160 :=
  makeLpmKey spec.l4Proto spec.port cidr.addr cidr.prefixLen

def GeoIpPrefix.lpmKey (geo : GeoIpPrefix) : LpmKey 160 := makeGeoLpmKey geo.addr geo.prefixLen

theorem lpmKey_covers_packet (other spec : XdpListenerSpec) (cidr : Cidr) (ip : IpAddr) :
    (other.lpmKey cidr).Covers (makeLpmKey spec.l4Proto spec.port ip ip.width) ↔
      other.key = spec.key ∧ cidr.contains ip = true := by
  have headers : lpmHeader (family cidr.addr) other.l4Proto other.port = lpmHeader (family ip) spec.l4Proto spec.port ↔
      cidr.addr.width = ip.width ∧ other.key = spec.key := by
    rw [lpmHeader_inj,family_width,XdpListenerSpec.key,XdpListenerSpec.key,makeListenerKey,makeListenerKey,XdpListenerKey.mk.injEq]
  have covers := lpmKey_covers (fun addr => lpmHeader (family addr) other.l4Proto other.port) cidr
    (lpmHeader (family ip) spec.l4Proto spec.port) ip fun same => (headers.mp same).1
  rw [XdpListenerSpec.lpmKey,makeLpmKey,makeLpmKey,covers,headers]
  refine ⟨fun ⟨⟨_,keys⟩,inside⟩ => ⟨keys,inside⟩,fun ⟨keys,inside⟩ => ⟨⟨?_,keys⟩,inside⟩⟩
  exact (cidr.contains_iff ip).mp inside |>.1

theorem geoKey_covers_packet (located : GeoIpPrefix) (ip : IpAddr) :
    located.lpmKey.Covers (makeGeoLpmKey ip ip.width) ↔ located.contains ip = true := by
  have headers : geoHeader (family located.addr) = geoHeader (family ip) ↔ located.addr.width = ip.width :=
    (BitVec.append_left_inj _).trans family_width
  have covers := lpmKey_covers (fun addr => geoHeader (family addr)) located.toCidr (geoHeader (family ip)) ip headers.mp
  rw [GeoIpPrefix.lpmKey,makeGeoLpmKey,makeGeoLpmKey,covers,headers]
  exact and_iff_right_of_imp fun inside => (located.contains_iff ip).mp inside |>.1

def xdpGeoEnabled (listeners : List XdpListenerSpec) : Bool :=
  listeners.any fun spec => spec.policy.flags &&& xdpPolicyGeoEnabled != 0

-- The threat prefixes go into the same map as the denied networks.
def XdpListenerPolicySpec.cidrs (policy : XdpListenerPolicySpec) (threat : List ThreatIpPrefix) : LpmMap → List Cidr
  | .allowCidrs => policy.allowCidrs
  | .denyCidrs => policy.denyCidrs ++ if policy.threatIntel then threat else []
  | .trustedCidrs => policy.trustedCidrs
  | .geoCidrs => []

def lpmKeys (listeners : List XdpListenerSpec) (geo : List GeoIpPrefix) (threat : List ThreatIpPrefix) :
    LpmMap → List (LpmKey 160)
  | .geoCidrs => if xdpGeoEnabled listeners then geo.map (·.lpmKey) else []
  | map => listeners.flatMap fun spec => (spec.policy.cidrs threat map).map spec.lpmKey

def buildXdpStaticKeys (listeners : List XdpListenerSpec) (geo : List GeoIpPrefix) (threat : List ThreatIpPrefix) :
    XdpStaticKeys where
  listenerPolicies := btreeSet XdpListenerKey.rank (listeners.map (·.key))
  lpm map := btreeSet BitVec.toNat ((lpmKeys listeners geo threat map).map encodeLpmKeyBytes)

-- What is fed to the hasher, item by item.
inductive Hashed where
  | listenerKey (key : String)
  | l4Proto (proto : BitVec 8)
  | port (port : BitVec 16)
  | policy (policy : XdpListenerPolicySpec)
  | addr (addr : IpAddr)
  | prefixLen (prefixLen : Nat)
  | country (country : BitVec 16)
  | listenerPolicies (keys : List XdpListenerKey)
  | cidrKeys (keys : List (BitVec 192))
  deriving DecidableEq

def cidrFeed (cidr : Cidr) : List Hashed := [.addr cidr.addr,.prefixLen cidr.prefixLen]

def listenerFeed (threat : List ThreatIpPrefix) (spec : XdpListenerSpec) : List Hashed :=
  [.listenerKey spec.listenerKey,.l4Proto spec.l4Proto,.port spec.port,.policy spec.policy] ++
    if spec.policy.threatIntel then threat.flatMap cidrFeed else []

def keysFeed (keys : XdpStaticKeys) : List Hashed :=
  [.listenerPolicies keys.listenerPolicies,.cidrKeys (keys.lpm .allowCidrs),.cidrKeys (keys.lpm .denyCidrs),
    .cidrKeys (keys.lpm .trustedCidrs),.cidrKeys (keys.lpm .geoCidrs)]

def planFeed (listeners : List XdpListenerSpec) (geo : List GeoIpPrefix) (threat : List ThreatIpPrefix) : List Hashed :=
  listeners.flatMap (listenerFeed threat) ++
    (if xdpGeoEnabled listeners then geo.flatMap fun geo => cidrFeed geo.toCidr ++ [.country geo.country] else []) ++
    keysFeed (buildXdpStaticKeys listeners geo threat)

structure XdpStaticPlan where
  keys : XdpStaticKeys
  fingerprint : BitVec 64

-- `DefaultHasher` promises nothing but to be a function of what it is fed.
def buildStaticSyncPlan (hasher : List Hashed → BitVec 64) (listeners : List XdpListenerSpec) (geo : List GeoIpPrefix)
    (threat : List ThreatIpPrefix) : XdpStaticPlan :=
  ⟨buildXdpStaticKeys listeners geo threat,hasher (planFeed listeners geo threat)⟩

theorem planFeed_keys (same : planFeed listeners geo threat = planFeed listeners' geo' threat') (map : LpmMap) :
    (buildXdpStaticKeys listeners geo threat).lpm map = (buildXdpStaticKeys listeners' geo' threat').lpm map := by
  have tails := (List.append_inj' same rfl).2
  simp only [keysFeed,List.cons.injEq,Hashed.cidrKeys.injEq] at tails
  obtain ⟨_,allow,deny,trusted,located,_⟩ := tails
  cases map with
  | allowCidrs => exact allow
  | denyCidrs => exact deny
  | trustedCidrs => exact trusted
  | geoCidrs => exact located

end Plan

end Sigproxy.Xdp
