import Sigproxy.Library.Cursor
import Sigproxy.Xdp.ThreatPrefixes

namespace Sigproxy.Xdp.ThreatCache
open Library Net Security

section Format

def cacheMagic : List Octet := [0x53,0x54,0x48,0x52]
def cacheVersion : BitVec 16 := 1

def encodePrefix (cidr : ThreatIpPrefix) : List Octet :=
  match cidr.addr with
  | .v4 addr => [4,BitVec.ofNat 8 cidr.prefixLen] ++ Octets.bytesOf 16 (addr.setWidth 128)
  | .v6 addr => [6,BitVec.ofNat 8 cidr.prefixLen] ++ Octets.bytesOf 16 addr

-- The count is cut to 32 bits as the source casts it.
def encodeCache (snapshot : ThreatSnapshot) : List Octet :=
  cacheMagic ++ (Octets.bytesOf 2 cacheVersion ++ (Octets.bytesOf 8 (BitVec.ofNat 64 snapshot.createdAtEpochSeconds) ++
    (Octets.bytesOf 4 (BitVec.ofNat 32 snapshot.prefixes.length) ++ snapshot.prefixes.flatMap encodePrefix)))

-- A slice of another length is an error here, not a panic.
def tryIntoWord (n : Nat) (octets : List Octet) : Risky (BitVec (8 * n)) :=
  if octets.length = n then pure (Octets.word n octets) else throw "could not convert slice to array"

def decodePrefix (family prefixLen : Octet) (value : BitVec 128) : Except String ThreatIpPrefix :=
  if family = 4 then
    if bounded : prefixLen.toNat ≤ 32 then .ok ⟨.v4 (value.setWidth 32),prefixLen.toNat,bounded⟩
    else .error ("IPv4 prefix length " ++ Nat.repr prefixLen.toNat ++ " exceeds 32")
  else if family = 6 then
    if bounded : prefixLen.toNat ≤ 128 then .ok ⟨.v6 value,prefixLen.toNat,bounded⟩
    else .error ("IPv6 prefix length " ++ Nat.repr prefixLen.toNat ++ " exceeds 128")
  else .error ("invalid threat intel cache address family " ++ Nat.repr family.toNat)

def readPrefixes (bytes : List Octet) : Nat → Nat → Risky (List ThreatIpPrefix)
  | 0,_ => return []
  | count + 1,offset => do
    let family ← itemAt bytes offset
    let prefixLen ← itemAt bytes (offset + 1)
    let octets ← slice bytes (offset + 2) (offset + 18)
    let value ← tryIntoWord 16 octets
    let first ← liftM (decodePrefix family prefixLen value)
    let rest ← readPrefixes bytes count (offset + 18)
    return first :: rest

-- `now` is the clock, which the stored time replaces.
def decodeCache (now : Nat) (bytes : List Octet) : Risky ThreatSnapshot := do
  if bytes.length < 18 then throw "threat intel cache too short"
  else
    let magic ← slice bytes 0 4
    if magic ≠ cacheMagic then throw "invalid threat intel cache magic"
    else
      let high ← itemAt bytes 4
      let low ← itemAt bytes 5
      let version : BitVec 16 := high ++ low
      if version ≠ cacheVersion then throw ("unsupported threat intel cache version " ++ Nat.repr version.toNat)
      else
        let createdOctets ← slice bytes 6 14
        let createdAtEpochSeconds ← tryIntoWord 8 createdOctets
        let countOctets ← slice bytes 14 18
        let count ← tryIntoWord 4 countOctets
        let expected := 18 + count.toNat * 18
        if bytes.length ≠ expected then
          throw ("invalid threat intel cache length " ++ Nat.repr bytes.length ++ ", expected " ++ Nat.repr expected)
        else
          let prefixes ← readPrefixes bytes count.toNat 18
          return {buildSnapshot now prefixes with createdAtEpochSeconds:=createdAtEpochSeconds.toNat}

end Format

section Canonical

theorem prefixRange_idempotent (value : BitVec width) (prefixLen : Nat) :
    (prefixRange (prefixRange value prefixLen).1 prefixLen).1 = (prefixRange value prefixLen).1 := by
  simp only [prefixRange,BitVec.and_assoc,BitVec.and_self]

theorem normalizePrefix_idempotent (cidr : ThreatIpPrefix) : normalizePrefix (normalizePrefix cidr) = normalizePrefix cidr := by
  obtain ⟨addr | addr,prefixLen,bounded⟩ := cidr
  · simp only [normalizePrefix,prefixRangeV4,prefixRange_idempotent]
  · simp only [normalizePrefix,prefixRangeV6,prefixRange_idempotent]

theorem pushUniques_canonical {prefixes : List ThreatIpPrefix} (canonical : ∀ cidr ∈ prefixes, normalizePrefix cidr = cidr)
    (nodup : prefixes.Nodup) : prefixes.foldl pushUnique [] = prefixes := by
  induction prefixes using List.reverseRecOn with
  | nil => rfl
  | append_singleton rest last ih =>
      have own := canonical last (by simp)
      have fresh : last ∉ rest := fun member => (List.nodup_append.mp nodup).2.2 last member last (List.mem_singleton_self last) rfl
      have early := ih (fun cidr listed => canonical cidr (List.mem_append_left _ listed)) (List.Nodup.of_append_left nodup)
      rw [List.foldl_append,early,List.foldl_cons,List.foldl_nil,pushUnique,own,if_neg fresh]

-- Building a snapshot from the prefixes of a snapshot changes nothing but the time.
theorem buildSnapshot_again (now later : Nat) (prefixes : List ThreatIpPrefix) :
    {buildSnapshot later (buildSnapshot now prefixes).prefixes with createdAtEpochSeconds:=now} = buildSnapshot now prefixes := by
  let pushed := prefixes.foldl pushUnique []
  have perm := sortBy_perm prefixKey pushed
  have canonical : ∀ cidr ∈ sortBy prefixKey pushed, normalizePrefix cidr = cidr := by
    intro cidr listed
    obtain ⟨other,-,rfl⟩ := (mem_pushUniques prefixes).mp (perm.mem_iff.mp listed)
    exact normalizePrefix_idempotent other
  have again : sortBy prefixKey ((sortBy prefixKey pushed).foldl pushUnique []) = sortBy prefixKey pushed := by
    rw [pushUniques_canonical canonical (perm.nodup_iff.mpr (pushUniques_nodup prefixes))]
    exact sortBy_eq prefixKey prefixKey_injective perm
  simp only [buildSnapshot,pushed] at again ⊢
  rw [again]

end Canonical

section Reading

-- What stands in the octets of so many prefixes.
def decodePrefixes : Nat → List Octet → Except String (List ThreatIpPrefix)
  | 0,_ => .ok []
  | count + 1,octets => do
    let first ← decodePrefix (octets.getD 0 0) (octets.getD 1 0) (Octets.word 16 (octets.drop 2))
    let rest ← decodePrefixes count (octets.drop 18)
    return first :: rest

theorem word_inside {bytes : List Octet} (inside : first + n ≤ bytes.length) :
    (slice bytes first (first + n) >>= tryIntoWord n) = pure (Octets.word n (bytes.drop first)) := by
  rw [slice_inside (Nat.le_add_right _ _) inside,pure_bind,Nat.add_sub_cancel_left,tryIntoWord,if_pos (by simp; omega),
    Octets.word_take _ (Nat.le_refl n)]

theorem readPrefixes_inside {bytes : List Octet} (inside : offset + count * 18 ≤ bytes.length) :
    readPrefixes bytes count offset = liftM (decodePrefixes count (bytes.drop offset)) := by
  induction count generalizing offset with
  | zero => rfl
  | succ count ih =>
      have value := @word_inside (offset + 2) 16 bytes (by omega)
      rw [Nat.add_assoc] at value
      rw [readPrefixes,itemAt_inside (by omega) 0,itemAt_inside (by omega) 0,ih (by omega),decodePrefixes]
      simp only [pure_bind]
      rw [← bind_assoc,value,pure_bind]
      simp only [List.getD_eq_getElem?_getD,List.getElem?_drop,List.drop_drop,Nat.add_zero]
      cases decodePrefix _ _ _ with
      | error => rfl
      | ok first => cases decodePrefixes count _ <;> rfl

-- What a cache says before its prefixes.
def version (bytes : List Octet) : BitVec 16 := bytes.getD 4 0 ++ bytes.getD 5 0
def created (bytes : List Octet) : BitVec 64 := Octets.word 8 (bytes.drop 6)
def count (bytes : List Octet) : Nat := (Octets.word 4 (bytes.drop 14)).toNat

theorem decodeCache_eq (now : Nat) {bytes : List Octet} (long : 18 ≤ bytes.length) : decodeCache now bytes =
    if bytes.take 4 ≠ cacheMagic then throw "invalid threat intel cache magic"
    else if version bytes ≠ cacheVersion then throw ("unsupported threat intel cache version " ++ Nat.repr (version bytes).toNat)
    else if bytes.length ≠ 18 + count bytes * 18 then
      throw ("invalid threat intel cache length " ++ Nat.repr bytes.length ++ ", expected " ++ Nat.repr (18 + count bytes * 18))
    else liftM ((decodePrefixes (count bytes) (bytes.drop 18)).map fun prefixes =>
      {buildSnapshot now prefixes with createdAtEpochSeconds:=(created bytes).toNat}) := by
  have stamp := @word_inside 6 8 bytes (by omega)
  have counted := @word_inside 14 4 bytes (by omega)
  rw [decodeCache,if_neg (by omega),slice_inside (by omega) (by omega),pure_bind]
  apply if_congr Iff.rfl rfl
  rw [itemAt_inside (by omega) 0,itemAt_inside (by omega) 0]
  simp only [pure_bind]
  apply if_congr Iff.rfl rfl
  rw [← bind_assoc,stamp,pure_bind,← bind_assoc,counted,pure_bind]
  refine ite_congr rfl (fun _ => rfl) fun fits => ?_
  change (readPrefixes bytes (count bytes) 18 >>= _) = _
  rw [readPrefixes_inside (Nat.le_of_eq (not_not.mp fits).symm)]
  cases decodePrefixes (count bytes) (bytes.drop 18) <;> rfl

theorem decodeCache_safe (now : Nat) (bytes : List Octet) : (decodeCache now bytes).Safe := by
  by_cases short : bytes.length < 18
  · rw [decodeCache,if_pos short]
    exact Risky.safe_throw _
  · rw [decodeCache_eq now (Nat.le_of_not_lt short)]
    exact Risky.safe_unless _ fun _ => Risky.safe_unless _ fun _ => Risky.safe_unless _ fun _ => Risky.safe_lift _

-- A family and a length that goes with it.
def Known (family prefixLen : Octet) : Prop := (family = 4 ∧ prefixLen.toNat ≤ 32) ∨ (family = 6 ∧ prefixLen.toNat ≤ 128)

structure Consistent (bytes : List Octet) : Prop where
  long : 18 ≤ bytes.length
  magic : bytes.take 4 = cacheMagic
  version : version bytes = cacheVersion
  fits : bytes.length = 18 + count bytes * 18
  known : ∀ i < count bytes, Known (bytes.getD (18 + i * 18) 0) (bytes.getD (18 + i * 18 + 1) 0)

theorem decodePrefix_ok (family prefixLen : Octet) (value : BitVec 128) :
    (∃ cidr, decodePrefix family prefixLen value = .ok cidr) ↔ Known family prefixLen := by
  unfold decodePrefix Known
  split
  · rename_i four
    subst four
    split <;> simp_all
  · split
    · rename_i six
      subst six
      split <;> simp_all
    · simp_all

theorem decodePrefixes_ok (count : Nat) (octets : List Octet) : (∃ prefixes, decodePrefixes count octets = .ok prefixes) ↔
    ∀ i < count, Known (octets.getD (i * 18) 0) (octets.getD (i * 18 + 1) 0) := by
  induction count generalizing octets with
  | zero => exact ⟨fun _ _ none => absurd none (Nat.not_lt_zero _),fun _ => ⟨[],rfl⟩⟩
  | succ count ih =>
      rw [decodePrefixes,Nat.forall_lt_succ_left]
      simp only [bind_ok]
      have later := ih (octets.drop 18)
      have first := decodePrefix_ok (octets.getD 0 0) (octets.getD 1 0) (Octets.word 16 (octets.drop 2))
      have shifted : (∀ i < count, Known ((octets.drop 18).getD (i * 18) 0) ((octets.drop 18).getD (i * 18 + 1) 0)) ↔
          ∀ i < count, Known (octets.getD ((i + 1) * 18) 0) (octets.getD ((i + 1) * 18 + 1) 0) := by
        simp only [List.getD_eq_getElem?_getD,List.getElem?_drop,Nat.add_mul,Nat.one_mul,Nat.add_comm 18,Nat.add_right_comm _ 18]
      rw [Nat.zero_mul,Nat.zero_add,← first,← shifted,← later]
      constructor
      · intro given
        rcases given with ⟨_,cidr,here,prefixes,rest,_⟩
        exact ⟨⟨cidr,here⟩,prefixes,rest⟩
      · intro given
        rcases given with ⟨⟨cidr,here⟩,prefixes,rest⟩
        exact ⟨_,cidr,here,prefixes,rest,rfl⟩

end Reading

section RoundTrip

theorem encodePrefix_length (cidr : ThreatIpPrefix) : (encodePrefix cidr).length = 18 := by
  obtain ⟨addr | addr,prefixLen,bounded⟩ := cidr <;> simp [encodePrefix]

theorem length_octet (bounded : prefixLen ≤ 128) : (BitVec.ofNat 8 prefixLen).toNat = prefixLen := by
  rw [BitVec.toNat_ofNat]
  exact Nat.mod_eq_of_lt (by omega)

theorem decodePrefix_encodes (cidr : ThreatIpPrefix) (rest : List Octet) :
    decodePrefix ((encodePrefix cidr ++ rest).getD 0 0) ((encodePrefix cidr ++ rest).getD 1 0)
      (Octets.word 16 ((encodePrefix cidr ++ rest).drop 2)) = .ok cidr := by
  obtain ⟨addr | addr,prefixLen,bounded⟩ := cidr
  · have bounded : prefixLen ≤ 32 := bounded
    have small := length_octet (Nat.le_trans bounded (by decide))
    simp only [encodePrefix,List.cons_append,List.nil_append,List.getD_cons_zero,List.getD_cons_succ,List.drop_succ_cons,List.drop_zero,
      Octets.word_bytesOf,decodePrefix,small,if_true,dif_pos bounded]
    simp
  · have bounded : prefixLen ≤ 128 := bounded
    have small := length_octet bounded
    simp only [encodePrefix,List.cons_append,List.nil_append,List.getD_cons_zero,List.getD_cons_succ,List.drop_succ_cons,List.drop_zero,
      Octets.word_bytesOf,decodePrefix,small,if_true,dif_pos bounded]
    simp

theorem decodePrefixes_encode (prefixes : List ThreatIpPrefix) :
    decodePrefixes prefixes.length (prefixes.flatMap encodePrefix) = .ok prefixes := by
  induction prefixes with
  | nil => rfl
  | cons cidr rest ih =>
      rw [List.length_cons,List.flatMap_cons,decodePrefixes,decodePrefix_encodes,List.drop_left' (encodePrefix_length cidr),ih]
      rfl

theorem encodePrefixes_length (prefixes : List ThreatIpPrefix) : (prefixes.flatMap encodePrefix).length = prefixes.length * 18 := by
  induction prefixes with
  | nil => rfl
  | cons cidr rest ih =>
      rw [List.flatMap_cons,List.length_append,encodePrefix_length,ih,List.length_cons]
      omega

-- The fields of an encoded cache stand where they are read.
theorem encodeCache_fields (snapshot : ThreatSnapshot) : (encodeCache snapshot).length = 18 + snapshot.prefixes.length * 18 ∧
    (encodeCache snapshot).take 4 = cacheMagic ∧ version (encodeCache snapshot) = cacheVersion ∧
    created (encodeCache snapshot) = BitVec.ofNat 64 snapshot.createdAtEpochSeconds ∧
    count (encodeCache snapshot) = snapshot.prefixes.length % 2 ^ 32 ∧
    (encodeCache snapshot).drop 18 = snapshot.prefixes.flatMap encodePrefix := by
  let opening := cacheMagic ++ Octets.bytesOf 2 cacheVersion
  let stamped := opening ++ Octets.bytesOf 8 (BitVec.ofNat 64 snapshot.createdAtEpochSeconds)
  let counted := stamped ++ Octets.bytesOf 4 (BitVec.ofNat 32 snapshot.prefixes.length)
  have whole : encodeCache snapshot = counted ++ snapshot.prefixes.flatMap encodePrefix := by
    simp [encodeCache,opening,stamped,counted]
  have length6 : opening.length = 6 := by simp [opening,cacheMagic]
  have length14 : stamped.length = 14 := by simp [stamped,length6]
  have length18 : counted.length = 18 := by simp [counted,length14]
  have ofVersion : Octets.bytesOf 2 cacheVersion = [0,1] := by decide
  have joined : (0 : Octet) ++ (1 : Octet) = cacheVersion := by decide
  refine ⟨?_,rfl,by rw [version,encodeCache,ofVersion]; exact joined,?_,?_,?_⟩
  · rw [whole,List.length_append,length18,encodePrefixes_length]
  · have split : encodeCache snapshot = opening ++ (Octets.bytesOf 8 (BitVec.ofNat 64 snapshot.createdAtEpochSeconds) ++
        (Octets.bytesOf 4 (BitVec.ofNat 32 snapshot.prefixes.length) ++ snapshot.prefixes.flatMap encodePrefix)) := by
      simp [encodeCache,opening]
    rw [created,split]
    exact Octets.word_after length6 8 _
  · have split : encodeCache snapshot = stamped ++ (Octets.bytesOf 4 (BitVec.ofNat 32 snapshot.prefixes.length) ++
        snapshot.prefixes.flatMap encodePrefix) := by
      simp [encodeCache,opening,stamped]
    rw [count,split,← BitVec.toNat_ofNat]
    exact congrArg BitVec.toNat (Octets.word_after length14 4 _)
  · rw [whole,List.drop_left' length18]

theorem encodeCache_decodes (now later : Nat) (prefixes : List ThreatIpPrefix) (timed : now < 2 ^ 64)
    (few : (buildSnapshot now prefixes).prefixes.length < 2 ^ 32) :
    (decodeCache later (encodeCache (buildSnapshot now prefixes))).Gives (buildSnapshot now prefixes) := by
  obtain ⟨length,magic,versioned,stamped,counted,rest⟩ := encodeCache_fields (buildSnapshot now prefixes)
  rw [Nat.mod_eq_of_lt few] at counted
  have stamp : (BitVec.ofNat 64 now).toNat = now := by rw [BitVec.toNat_ofNat,Nat.mod_eq_of_lt timed]
  rw [decodeCache_eq later (by rw [length]; exact Nat.le_add_right _ _),if_neg (not_not.mpr magic),if_neg (not_not.mpr versioned),
    if_neg (not_not.mpr (by rw [length,counted])),counted,rest,decodePrefixes_encode,stamped]
  refine Risky.gives_lift.mpr (congrArg Except.ok ?_)
  have again := buildSnapshot_again now later prefixes
  change {buildSnapshot later (buildSnapshot now prefixes).prefixes with createdAtEpochSeconds:=(BitVec.ofNat 64 now).toNat} = _
  rw [stamp,again]

theorem decodeCache_accepts (now : Nat) (bytes : List Octet) : (∃ snapshot, (decodeCache now bytes).Gives snapshot) ↔ Consistent bytes := by
  by_cases short : bytes.length < 18
  · rw [decodeCache,if_pos short]
    exact ⟨fun ⟨_,given⟩ => (Risky.gives_throw _ _ given).elim,fun consistent => absurd consistent.long (Nat.not_le_of_lt short)⟩
  · have long := Nat.le_of_not_lt short
    have shifted : (∀ i < count bytes, Known ((bytes.drop 18).getD (i * 18) 0) ((bytes.drop 18).getD (i * 18 + 1) 0)) ↔
        ∀ i < count bytes, Known (bytes.getD (18 + i * 18) 0) (bytes.getD (18 + i * 18 + 1) 0) := by
      simp only [List.getD_eq_getElem?_getD,List.getElem?_drop,Nat.add_assoc]
    have entries := (decodePrefixes_ok (count bytes) (bytes.drop 18)).trans shifted
    rw [decodeCache_eq now long]
    simp only [Risky.gives_unless,Risky.gives_lift,not_not]
    constructor
    · intro given
      rcases given with ⟨snapshot,magic,versioned,fits,decoded⟩
      refine ⟨long,magic,versioned,fits,entries.mp ?_⟩
      cases decoding : decodePrefixes (count bytes) (bytes.drop 18) with
      | ok prefixes => exact ⟨prefixes,rfl⟩
      | error error =>
          rw [decoding] at decoded
          cases decoded
    · intro ⟨_,magic,versioned,fits,known⟩
      obtain ⟨prefixes,decoding⟩ := entries.mpr known
      exact ⟨_,magic,versioned,fits,by rw [decoding]; rfl⟩

theorem decodeCache_refuses (now : Nat) {bytes : List Octet} (inconsistent : ¬Consistent bytes) :
    ∃ error, (decodeCache now bytes).run = some (.error error) := by
  have safe := decodeCache_safe now bytes
  match outcome : (decodeCache now bytes).run with
  | none => exact (safe outcome).elim
  | some (.error error) => exact ⟨error,rfl⟩
  | some (.ok snapshot) => exact (inconsistent ((decodeCache_accepts now bytes).mp ⟨snapshot,outcome⟩)).elim

-- What is built is what is read back, and nothing is read past the end, whatever the bytes.
theorem threat_cache_round_trip :
    (∀ now later prefixes, now < 2 ^ 64 → (buildSnapshot now prefixes).prefixes.length < 2 ^ 32 →
      (decodeCache later (encodeCache (buildSnapshot now prefixes))).Gives (buildSnapshot now prefixes)) ∧
    (∀ now bytes, (decodeCache now bytes).Safe) ∧
    ∀ now bytes, ¬Consistent bytes → ∃ error, (decodeCache now bytes).run = some (.error error) :=
  ⟨encodeCache_decodes,decodeCache_safe,fun now _ => decodeCache_refuses now⟩

def listed : List ThreatIpPrefix := [⟨.v6 1,128,by decide⟩,⟨.v4 0xC0000201,24,by decide⟩,⟨.v4 0xC0000200,24,by decide⟩]

-- Two spellings of one network, and a cache that breaks off in its second prefix.
theorem listed_round_trip : (buildSnapshot 7 listed).prefixes.length = 2 ∧
    (decodeCache 9 (encodeCache (buildSnapshot 7 listed))).Gives (buildSnapshot 7 listed) ∧
    ∃ error, (decodeCache 9 ((encodeCache (buildSnapshot 7 listed)).take 40)).run = some (.error error) := by
  have two : (buildSnapshot 7 listed).prefixes.length = 2 := by decide
  refine ⟨two,threat_cache_round_trip.1 7 9 listed (by decide) (by rw [two]; decide),threat_cache_round_trip.2.2 9 _ fun consistent => ?_⟩
  have fits := consistent.fits
  revert fits
  decide

end RoundTrip
end Sigproxy.Xdp.ThreatCache
