import Sigproxy.Library.Cursor
import Sigproxy.Library.Fallible
import Sigproxy.Security.Geo

namespace Sigproxy.Security
open Library

section Format

abbrev CacheReader := Cursor Octet

def cacheMagic : List Octet := [0x53,0x47,0x45,0x4F]
def cacheVersion : BitVec 16 := 1

def encodeRange (n : Nat) (range : Span (8 * n) (BitVec 16)) : List Octet :=
  Octets.bytesOf n range.start ++ (Octets.bytesOf n range.stop ++ Octets.bytesOf 2 range.label)

-- The counts are cut to 32 bits as the source casts them.
def encodeCache (snapshot : GeoSnapshot) : List Octet :=
  cacheMagic ++ (Octets.bytesOf 2 cacheVersion ++ (Octets.bytesOf 8 (BitVec.ofNat 64 snapshot.createdAtEpochSeconds) ++
    (Octets.bytesOf 4 (BitVec.ofNat 32 snapshot.ipv4.length) ++ (Octets.bytesOf 4 (BitVec.ofNat 32 snapshot.ipv6.length) ++
      (snapshot.ipv4.flatMap (encodeRange 4) ++ snapshot.ipv6.flatMap (encodeRange 16))))))

def take (len : Nat) (reader : CacheReader) : Risky (List Octet × CacheReader) := do
  if Cursor.usizeLimit ≤ reader.offset + len then throw "geo cache offset overflow"
  else if reader.items.length < reader.offset + len then throw "truncated geo cache"
  else
    let taken ← slice reader.items reader.offset (reader.offset + len)
    return (taken,{reader with offset:=reader.offset + len})

-- `try_into().unwrap()` panics on a slice of another length.
def fromBeBytes (n : Nat) (octets : List Octet) : Risky (BitVec (8 * n)) :=
  if octets.length = n then pure (Octets.word n octets) else ExceptT.mk none

def readWord (n : Nat) (reader : CacheReader) : Risky (BitVec (8 * n) × CacheReader) := do
  let (octets,reader) ← take n reader
  let value ← fromBeBytes n octets
  return (value,reader)

def readRange (n : Nat) (reader : CacheReader) : Risky (Span (8 * n) (BitVec 16) × CacheReader) := do
  let (start,reader) ← readWord n reader
  let (stop,reader) ← readWord n reader
  let (country,reader) ← readWord 2 reader
  return (⟨start,stop,country⟩,reader)

def isEmpty (reader : CacheReader) : Bool := reader.offset == reader.items.length

def decodeCache (bytes : List Octet) : Risky GeoSnapshot := do
  let (magic,reader) ← take 4 ⟨bytes,0⟩
  if magic ≠ cacheMagic then throw "invalid geo cache magic"
  else
    let (version,reader) ← readWord 2 reader
    if version ≠ cacheVersion then throw ("unsupported geo cache version " ++ toString version.toNat)
    else
      let (createdAtEpochSeconds,reader) ← readWord 8 reader
      let (v4Count,reader) ← readWord 4 reader
      let (v6Count,reader) ← readWord 4 reader
      let (ipv4,reader) ← readMany (readRange 4) v4Count.toNat reader
      let (ipv6,reader) ← readMany (readRange 16) v6Count.toNat reader
      if isEmpty reader = false then throw "trailing bytes in geo cache"
      else
        liftM (validateNonOverlappingV4 ipv4)
        liftM (validateNonOverlappingV6 ipv6)
        return ⟨createdAtEpochSeconds.toNat,ipv4,ipv6⟩

end Format

section Readers

theorem take_safe (len : Nat) (reader : CacheReader) : (take len reader).Safe := by
  unfold take
  split
  · exact Risky.safe_throw _
  · split
    · exact Risky.safe_throw _
    · rw [slice_inside (by omega) (by omega)]
      exact Risky.safe_pure _

theorem take_gives {reader next : CacheReader} (within : reader.Within) : (take len reader).Gives (taken,next) ↔
    taken.length = len ∧ reader.Consumes taken next ∧ next.offset < Cursor.usizeLimit := by
  unfold take
  constructor
  · intro given
    split at given
    · exact (Risky.gives_throw _ _ given).elim
    · split at given
      · exact (Risky.gives_throw _ _ given).elim
      · rename_i small enough
        rw [slice_inside (by omega) (by omega)] at given
        cases Risky.gives_pure.mp given
        have counted : ((reader.items.drop reader.offset).take (reader.offset + len - reader.offset)).length = len := by simp; omega
        refine ⟨counted,⟨rfl,by rw [counted],?_⟩,by simpa using small⟩
        simp [Cursor.rest,← List.drop_drop]
  · intro given
    rcases given with ⟨rfl,consumed,limit⟩
    have place := consumed.offset
    have inside := consumed.within within limit
    rw [Cursor.Within,consumed.items] at inside
    rw [if_neg (by omega),if_neg (by omega),slice_inside (by omega) (by omega)]
    have ahead : (reader.items.drop reader.offset).take (reader.offset + taken.length - reader.offset) = taken := by
      rw [← Cursor.rest,consumed.rest]
      simp
    apply Risky.gives_pure.mpr
    rw [ahead,← place,← consumed.items]

theorem take_followed {reader : CacheReader} {rest : List Octet × CacheReader → Risky Result} {result : Result} (within : reader.Within) :
    Risky.Gives (take len reader >>= rest) result ↔ ∃ taken next, taken.length = len ∧ reader.Consumes taken next ∧ next.Within ∧
      Risky.Gives (rest (taken,next)) result := by
  rw [Risky.gives_bind]
  constructor
  · intro all
    rcases all with ⟨⟨taken,next⟩,given,done⟩
    obtain ⟨counted,consumed,limit⟩ := (take_gives within).mp given
    exact ⟨taken,next,counted,consumed,consumed.within within limit,done⟩
  · intro all
    rcases all with ⟨taken,next,counted,consumed,inside,done⟩
    exact ⟨(taken,next),(take_gives within).mpr ⟨counted,consumed,inside.2⟩,done⟩

theorem readWord_reads (n : Nat) : Reads (readWord n) (Octets.bytesOf n) where
  safe reader within := by
    refine Risky.safe_bind (take_safe n reader) fun ⟨octets,next⟩ given => ?_
    have counted := ((take_gives within).mp given).1
    refine Risky.safe_bind ?_ fun _ _ => Risky.safe_pure _
    simpa [fromBeBytes,counted] using Risky.safe_pure _
  gives reader next value within := by
    rw [readWord,Risky.gives_bind]
    constructor
    · intro all
      rcases all with ⟨⟨octets,after⟩,given,rest⟩
      obtain ⟨counted,consumed,limit⟩ := (take_gives within).mp given
      obtain ⟨word,read,done⟩ := Risky.gives_bind.mp rest
      cases Risky.gives_pure.mp done
      simp only [fromBeBytes,counted,if_true] at read
      cases Risky.gives_pure.mp read
      rw [Octets.bytesOf_word n octets (by omega),List.take_of_length_le (by omega)]
      exact ⟨consumed,limit⟩
    · intro both
      rcases both with ⟨consumed,limit⟩
      refine ⟨(Octets.bytesOf n value,next),(take_gives within).mpr ⟨Octets.length_bytesOf n value,consumed,limit⟩,?_⟩
      refine Risky.gives_bind.mpr ⟨value,?_,rfl⟩
      have whole := Octets.word_bytesOf n value []
      rw [List.append_nil] at whole
      rw [fromBeBytes,if_pos (Octets.length_bytesOf n value),whole]
      rfl

theorem readRange_reads (n : Nat) : Reads (readRange n) (encodeRange n) where
  safe reader within := by
    have reads := readWord_reads n
    refine Risky.safe_bind (reads.safe reader within) fun ⟨start,middle⟩ given => ?_
    have inside := reads.within within given
    refine Risky.safe_bind (reads.safe middle inside) fun ⟨stop,after⟩ given => ?_
    exact Risky.safe_bind ((readWord_reads 2).safe after (reads.within inside given)) fun _ _ => Risky.safe_pure _
  gives reader next range within := by
    rw [readRange,(readWord_reads n).followed within]
    constructor
    · intro given
      rcases given with ⟨start,first,consumed,inside,rest⟩
      obtain ⟨stop,second,further,inside,rest⟩ := ((readWord_reads n).followed inside).mp rest
      obtain ⟨country,third,last,inside,rest⟩ := ((readWord_reads 2).followed inside).mp rest
      cases Risky.gives_pure.mp rest
      exact ⟨consumed.trans (further.trans last),inside.2⟩
    · intro both
      rcases both with ⟨consumed,limit⟩
      obtain ⟨first,starts,consumed⟩ := Cursor.consumes_append.mp consumed
      obtain ⟨second,stops,named⟩ := Cursor.consumes_append.mp consumed
      have inside := starts.within within (Nat.lt_of_le_of_lt consumed.onward limit)
      have further := stops.within inside (Nat.lt_of_le_of_lt named.onward limit)
      refine ⟨range.start,first,starts,inside,((readWord_reads n).followed inside).mpr ⟨range.stop,second,stops,further,?_⟩⟩
      exact ((readWord_reads 2).followed further).mpr ⟨range.label,next,named,named.within further limit,rfl⟩

end Readers

section RoundTrip

-- What the counts and the time stamp have room for, in the order of a cache.
structure Encodable (snapshot : GeoSnapshot) : Prop where
  created : snapshot.createdAtEpochSeconds < 2 ^ 64
  few4 : snapshot.ipv4.length < 2 ^ 32
  few6 : snapshot.ipv6.length < 2 ^ 32
  chained4 : snapshot.ipv4.IsChain fun first second => first.stop < second.start
  chained6 : snapshot.ipv6.IsChain fun first second => first.stop < second.start

theorem validated_iff_chained {ranges : List (Span width (BitVec 16))} {checked : Unit} : validateNonOverlapping overlapping ranges = .ok checked ↔
    ranges.IsChain fun first second => first.stop < second.start := by
  have parted : Span.nonOverlapping ranges = true ↔ ranges.IsChain fun first second => first.stop < second.start := by
    fun_induction Span.nonOverlapping ranges with
    | case1 first second rest ih => simp [ih]
    | case2 rest short =>
        rcases rest with _ | ⟨first,_ | ⟨second,rest⟩⟩
        · simp
        · simp
        · exact (short first second rest rfl).elim
  rw [validateNonOverlapping,← parted]
  split
  · rename_i passed
    simp [passed]
  · rename_i failed
    simp [failed]

theorem decodeCache_safe (bytes : List Octet) : (decodeCache bytes).Safe := by
  unfold decodeCache
  refine Risky.safe_bind (take_safe _ _) fun ⟨magic,reader⟩ given => Risky.safe_unless _ fun _ => ?_
  obtain ⟨_,consumed,limit⟩ := (take_gives (Cursor.within_start bytes)).mp given
  have inside := consumed.within (Cursor.within_start bytes) limit
  refine Risky.safe_bind ((readWord_reads 2).safe _ inside) fun ⟨version,reader⟩ given => Risky.safe_unless _ fun _ => ?_
  replace inside := (readWord_reads 2).within inside given
  refine Risky.safe_bind ((readWord_reads 8).safe _ inside) fun ⟨created,reader⟩ given => ?_
  replace inside := (readWord_reads 8).within inside given
  refine Risky.safe_bind ((readWord_reads 4).safe _ inside) fun ⟨v4Count,reader⟩ given => ?_
  replace inside := (readWord_reads 4).within inside given
  refine Risky.safe_bind ((readWord_reads 4).safe _ inside) fun ⟨v6Count,reader⟩ given => ?_
  replace inside := (readWord_reads 4).within inside given
  refine Risky.safe_bind (readMany_safe (readRange_reads 4) _ inside) fun ⟨ipv4,reader⟩ given => ?_
  obtain ⟨_,consumed,limit⟩ := (readMany_gives (readRange_reads 4) inside).mp given
  replace inside := consumed.within inside limit
  refine Risky.safe_bind (readMany_safe (readRange_reads 16) _ inside) fun ⟨ipv6,reader⟩ _ => Risky.safe_unless _ fun _ => ?_
  exact Risky.safe_bind (Risky.safe_lift _) fun _ _ => Risky.safe_bind (Risky.safe_lift _) fun _ _ => Risky.safe_pure _

theorem decodeCache_encodes {bytes : List Octet} {snapshot : GeoSnapshot} (decoded : (decodeCache bytes).Gives snapshot) :
    Encodable snapshot ∧ encodeCache snapshot = bytes := by
  unfold decodeCache at decoded
  obtain ⟨magic,reader,_,consumed,inside,decoded⟩ := (take_followed (Cursor.within_start bytes)).mp decoded
  obtain ⟨isMagic,decoded⟩ := Risky.gives_unless.mp decoded
  obtain ⟨version,reader,versioned,inside,decoded⟩ := ((readWord_reads 2).followed inside).mp decoded
  obtain ⟨isVersion,decoded⟩ := Risky.gives_unless.mp decoded
  obtain ⟨created,reader,stamped,inside,decoded⟩ := ((readWord_reads 8).followed inside).mp decoded
  obtain ⟨v4Count,reader,counted4,inside,decoded⟩ := ((readWord_reads 4).followed inside).mp decoded
  obtain ⟨v6Count,reader,counted6,inside,decoded⟩ := ((readWord_reads 4).followed inside).mp decoded
  obtain ⟨ipv4,reader,length4,read4,inside,decoded⟩ := (readMany_followed (readRange_reads 4) inside).mp decoded
  obtain ⟨ipv6,reader,length6,read6,inside,decoded⟩ := (readMany_followed (readRange_reads 16) inside).mp decoded
  obtain ⟨ended,decoded⟩ := Risky.gives_unless.mp decoded
  obtain ⟨_,validated4,decoded⟩ := Risky.gives_bind.mp decoded
  obtain ⟨_,validated6,decoded⟩ := Risky.gives_bind.mp decoded
  cases Risky.gives_pure.mp decoded
  have whole := consumed.trans (versioned.trans (stamped.trans (counted4.trans (counted6.trans (read4.trans read6)))))
  have last : reader.offset = reader.items.length := by simpa [isEmpty] using ended
  refine ⟨⟨created.isLt,?_,?_,?_,?_⟩,?_⟩
  · exact length4 ▸ v4Count.isLt
  · exact length6 ▸ v6Count.isLt
  · exact validated_iff_chained.mp (Risky.gives_lift.mp validated4)
  · exact validated_iff_chained.mp (Risky.gives_lift.mp validated6)
  · have all := ((Cursor.consumes_all bytes).mp ⟨whole,last⟩).1
    rw [← all,encodeCache,← not_not.mp isMagic,← not_not.mp isVersion]
    dsimp only
    rw [length4,length6,BitVec.ofNat_toNat,BitVec.ofNat_toNat,BitVec.ofNat_toNat,BitVec.setWidth_eq,BitVec.setWidth_eq,BitVec.setWidth_eq]

theorem encodeRanges_length (n : Nat) (ranges : List (Span (8 * n) (BitVec 16))) :
    (ranges.flatMap (encodeRange n)).length = (2 * n + 2) * ranges.length := by
  induction ranges with
  | nil => rfl
  | cons range rest ih =>
      simp only [List.flatMap_cons,List.length_append,List.length_cons,encodeRange,Octets.length_bytesOf,ih]
      ring

theorem encodeCache_length (snapshot : GeoSnapshot) :
    (encodeCache snapshot).length = 22 + 10 * snapshot.ipv4.length + 34 * snapshot.ipv6.length := by
  have length4 := encodeRanges_length 4 snapshot.ipv4
  have length6 := encodeRanges_length 16 snapshot.ipv6
  simp only [encodeCache,List.length_append,Octets.length_bytesOf,length4,length6,cacheMagic,List.length_cons,List.length_nil]
  omega

theorem encodeCache_decodes {snapshot : GeoSnapshot} (encodable : Encodable snapshot) : (decodeCache (encodeCache snapshot)).Gives snapshot := by
  have few4 := encodable.few4
  have few6 := encodable.few6
  obtain ⟨consumed,ended⟩ := (Cursor.consumes_all (encodeCache snapshot)).mpr ⟨rfl,rfl⟩
  have limit : (encodeCache snapshot).length < Cursor.usizeLimit := by
    rw [encodeCache_length,Cursor.usizeLimit]
    omega
  -- Each field begins where the one before it ends.
  have within {here next last : CacheReader} {taken later : List Octet} (inside : here.Within) (first : here.Consumes taken next)
      (rest : next.Consumes later last) (bounded : last.offset < Cursor.usizeLimit) : next.Within :=
    first.within inside (Nat.lt_of_le_of_lt rest.onward bounded)
  have start := Cursor.within_start (encodeCache snapshot)
  obtain ⟨_,magic,consumed⟩ := Cursor.consumes_append.mp consumed
  have inside1 := within start magic consumed limit
  obtain ⟨_,version,consumed⟩ := Cursor.consumes_append.mp consumed
  have inside2 := within inside1 version consumed limit
  obtain ⟨_,created,consumed⟩ := Cursor.consumes_append.mp consumed
  have inside3 := within inside2 created consumed limit
  obtain ⟨_,v4Count,consumed⟩ := Cursor.consumes_append.mp consumed
  have inside4 := within inside3 v4Count consumed limit
  obtain ⟨_,v6Count,consumed⟩ := Cursor.consumes_append.mp consumed
  have inside5 := within inside4 v6Count consumed limit
  obtain ⟨_,ipv4,ipv6⟩ := Cursor.consumes_append.mp consumed
  have inside6 := within inside5 ipv4 ipv6 limit
  have inside7 := ipv6.within inside6 limit
  refine (take_followed start).mpr ⟨cacheMagic,_,rfl,magic,inside1,Risky.gives_unless.mpr ⟨fun differs => differs rfl,?_⟩⟩
  refine ((readWord_reads 2).followed inside1).mpr ⟨cacheVersion,_,version,inside2,Risky.gives_unless.mpr ⟨fun differs => differs rfl,?_⟩⟩
  refine ((readWord_reads 8).followed inside2).mpr ⟨_,_,created,inside3,?_⟩
  refine ((readWord_reads 4).followed inside3).mpr ⟨_,_,v4Count,inside4,?_⟩
  refine ((readWord_reads 4).followed inside4).mpr ⟨_,_,v6Count,inside5,?_⟩
  have counted4 : snapshot.ipv4.length = (BitVec.ofNat 32 snapshot.ipv4.length).toNat := by
    rw [BitVec.toNat_ofNat,Nat.mod_eq_of_lt few4]
  have counted6 : snapshot.ipv6.length = (BitVec.ofNat 32 snapshot.ipv6.length).toNat := by
    rw [BitVec.toNat_ofNat,Nat.mod_eq_of_lt few6]
  refine (readMany_followed (readRange_reads 4) inside5).mpr ⟨snapshot.ipv4,_,counted4,ipv4,inside6,?_⟩
  refine (readMany_followed (readRange_reads 16) inside6).mpr ⟨snapshot.ipv6,_,counted6,ipv6,inside7,?_⟩
  refine Risky.gives_unless.mpr ⟨by simp [isEmpty],?_⟩
  refine Risky.gives_bind.mpr ⟨(),Risky.gives_lift.mpr (validated_iff_chained.mpr encodable.chained4),?_⟩
  refine Risky.gives_bind.mpr ⟨(),Risky.gives_lift.mpr (validated_iff_chained.mpr encodable.chained6),Risky.gives_pure.mpr ?_⟩
  rw [BitVec.toNat_ofNat,Nat.mod_eq_of_lt encodable.created]

-- The counts stand where they stand, whatever follows the cache.
theorem encodeCache_counts (snapshot : GeoSnapshot) (rest : List Octet) :
    Octets.word 4 ((encodeCache snapshot ++ rest).drop 14) = BitVec.ofNat 32 snapshot.ipv4.length ∧
      Octets.word 4 ((encodeCache snapshot ++ rest).drop 18) = BitVec.ofNat 32 snapshot.ipv6.length := by
  let opening := cacheMagic ++ (Octets.bytesOf 2 cacheVersion ++ Octets.bytesOf 8 (BitVec.ofNat 64 snapshot.createdAtEpochSeconds))
  let ranges := snapshot.ipv4.flatMap (encodeRange 4) ++ (snapshot.ipv6.flatMap (encodeRange 16) ++ rest)
  have split : encodeCache snapshot ++ rest = opening ++ (Octets.bytesOf 4 (BitVec.ofNat 32 snapshot.ipv4.length) ++
      (Octets.bytesOf 4 (BitVec.ofNat 32 snapshot.ipv6.length) ++ ranges)) := by
    simp [encodeCache,opening,ranges]
  have length14 : opening.length = 14 := by simp [opening,cacheMagic]
  rw [split]
  refine ⟨Octets.word_after length14 4 _,?_⟩
  rw [← List.append_assoc]
  exact Octets.word_after (by simp [length14]) 4 _

theorem decoded_prefix_eq {bytes other : List Octet} (first : (decodeCache bytes).Gives snapshot) (second : (decodeCache other).Gives snapshot')
    (longer : bytes <+: other) : bytes = other := by
  obtain ⟨encodable,rfl⟩ := decodeCache_encodes first
  obtain ⟨encodable',rfl⟩ := decodeCache_encodes second
  obtain ⟨rest,same⟩ := longer
  have counts := encodeCache_counts snapshot rest
  have counts' := encodeCache_counts snapshot' []
  rw [same] at counts
  rw [List.append_nil] at counts'
  have counted {few many : Nat} (bound : few < 2 ^ 32) (bound' : many < 2 ^ 32) (equal : BitVec.ofNat 32 few = BitVec.ofNat 32 many) : few = many := by
    have values := congrArg BitVec.toNat equal
    rwa [BitVec.toNat_ofNat,BitVec.toNat_ofNat,Nat.mod_eq_of_lt bound,Nat.mod_eq_of_lt bound'] at values
  have length4 := counted encodable.few4 encodable'.few4 (counts.1.symm.trans counts'.1)
  have length6 := counted encodable.few6 encodable'.few6 (counts.2.symm.trans counts'.2)
  apply List.IsPrefix.eq_of_length ⟨rest,same⟩
  rw [encodeCache_length,encodeCache_length,length4,length6]

theorem decodeCache_outcome (bytes : List Octet) (refused : ∀ snapshot, ¬ (decodeCache bytes).Gives snapshot) :
    ∃ error, (decodeCache bytes).run = some (.error error) := by
  have safe := decodeCache_safe bytes
  match outcome : (decodeCache bytes).run with
  | none => exact (safe outcome).elim
  | some (.error error) => exact ⟨error,rfl⟩
  | some (.ok snapshot) => exact (refused snapshot outcome).elim

-- One range of each family.
def smallSnapshot : GeoSnapshot := ⟨7,[⟨0x01020300,0x010203FF,0x434E⟩],[⟨1,5,0x4445⟩]⟩

theorem smallSnapshot_encodable : Encodable smallSnapshot := ⟨by decide,by decide,by decide,.singleton _,.singleton _⟩

end RoundTrip

end Sigproxy.Security
