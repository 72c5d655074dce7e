import Sigproxy.Security.GeoCache
import Sigproxy.Xdp.GeoPrefixes

namespace Sigproxy.Xdp
open Library Net Security

-- The blocks of any list of ranges, in order or not.
theorem appendRanges_covers (family : Family) (spans : List (Span family.bits (BitVec 16))) :
    ∃ prefixes, appendRanges family spans = some prefixes ∧
      (∀ geo ∈ prefixes, ∀ ip, geo.contains ip = true → ip.width = family.bits) ∧
      ∀ country value, (∃ geo ∈ prefixes, geo.country = country ∧ geo.contains (family.addr value) = true) ↔ Span.Covered spans country value := by
  induction spans with
  | nil => exact ⟨[],rfl,by simp,by simp [Span.Covered]⟩
  | cons range rest ih =>
      obtain ⟨later,split,native,covers⟩ := ih
      obtain ⟨first,cut,pieces⟩ := appendRangePrefixes_split range.stop.isLt range.start.toNat range.label
      refine ⟨first ++ later,by simp [appendRanges,split,cut],?_,fun country value => ?_⟩
      · exact List.forall_mem_append.mpr ⟨fun geo listed ip holds => ((pieces.covers ip).mp ⟨geo,listed,holds⟩).1,native⟩
      · unfold Span.Covered
        rw [List.exists_mem_cons_iff,← pieces.located,← Span.Covered,← covers]
        simp only [List.mem_append,or_and_right,exists_or]

end Sigproxy.Xdp

namespace Sigproxy.Security
open Library Net Xdp

theorem GeoSnapshot.prefixes_cover (snapshot : GeoSnapshot) : ∃ prefixes, snapshot.xdpPrefixes = some prefixes ∧
    ∀ country ip, (∃ geo ∈ prefixes, geo.country = country ∧ geo.contains ip = true) ↔ snapshot.Covers country ip := by
  obtain ⟨ipv4,split4,native4,covers4⟩ := appendRanges_covers .v4 snapshot.ipv4
  obtain ⟨ipv6,split6,native6,covers6⟩ := appendRanges_covers .v6 snapshot.ipv6
  refine ⟨ipv4 ++ ipv6,by simp [xdpPrefixes,split4,split6],fun country ip => ?_⟩
  simp only [List.mem_append,or_and_right,exists_or]
  cases ip with
  | v4 ip =>
      rw [or_iff_left]
      · exact covers4 country ip
      · intro given
        rcases given with ⟨geo,listed,_,holds⟩
        cases native6 geo listed _ holds
  | v6 ip =>
      rw [or_iff_right]
      · exact covers6 country ip
      · intro given
        rcases given with ⟨geo,listed,_,holds⟩
        cases native4 geo listed _ holds

def GeoSnapshot.Findable (snapshot : GeoSnapshot) : IpAddr → Prop
  | .v4 ip => Span.Findable snapshot.ipv4 ip
  | .v6 ip => Span.Findable snapshot.ipv6 ip

-- The search finds the country of an address where a range holds it, and the
-- prefixes name the same.
structure GeoSnapshot.Agrees (snapshot : GeoSnapshot) : Prop where
  search : ∀ ip country, snapshot.lookupCountry ip = some country ↔ snapshot.Covers country ip
  prefixes : ∃ prefixes, snapshot.xdpPrefixes = some prefixes ∧
    ∀ ip country, (∃ geo ∈ prefixes, geo.country = country ∧ geo.contains ip = true) ↔ snapshot.lookupCountry ip = some country

theorem GeoSnapshot.findable_iff (snapshot : GeoSnapshot) (ip : IpAddr) :
    (∀ country, snapshot.lookupCountry ip = some country ↔ snapshot.Covers country ip) ↔ snapshot.Findable ip := by
  cases ip with
  | v4 ip => exact Span.findable_iff snapshot.ipv4 ip
  | v6 ip => exact Span.findable_iff snapshot.ipv6 ip

theorem GeoSnapshot.agrees_iff (snapshot : GeoSnapshot) : snapshot.Agrees ↔ ∀ ip, snapshot.Findable ip := by
  constructor
  · exact fun agrees ip => (snapshot.findable_iff ip).mp (agrees.search ip)
  · intro findable
    have search (ip : IpAddr) (country : BitVec 16) : snapshot.lookupCountry ip = some country ↔ snapshot.Covers country ip :=
      (snapshot.findable_iff ip).mpr (findable ip) country
    obtain ⟨prefixes,split,covers⟩ := snapshot.prefixes_cover
    exact ⟨search,prefixes,split,fun ip country => (covers country ip).trans (search ip country).symm⟩

-- A decoded snapshot is safe to search exactly where every address of a range can
-- be reached; no range the wrong way round is enough.
theorem decoded_agrees_iff {bytes : List Octet} (decoded : (decodeCache bytes).Gives snapshot) :
    (snapshot.Agrees ↔ ∀ ip, snapshot.Findable ip) ∧
    (Span.Proper snapshot.ipv4 → Span.Proper snapshot.ipv6 → ∀ ip, snapshot.Findable ip) := by
  refine ⟨snapshot.agrees_iff,fun proper4 proper6 ip => ?_⟩
  have encodable := (decodeCache_encodes decoded).1
  have valid : snapshot.Valid := by
    refine ⟨proper4,?_,proper6,?_⟩
    · exact validated_apart proper4 (validated_iff_chained.mpr encodable.chained4 : validateNonOverlappingV4 snapshot.ipv4 = .ok ())
    · exact validated_apart proper6 (validated_iff_chained.mpr encodable.chained6 : validateNonOverlappingV6 snapshot.ipv6 = .ok ())
  exact (snapshot.findable_iff ip).mp fun country => valid.lookup_iff ip country

-- A range that ends before it begins stands between two others.
def turnedSnapshot : GeoSnapshot := ⟨7,[⟨1,4,0x434E⟩,⟨10,5,0x4445⟩,⟨6,8,0x4652⟩],[]⟩

theorem small_cache_agrees : smallSnapshot.Agrees ∧ ∀ ip, smallSnapshot.Findable ip := by
  have decoded := encodeCache_decodes smallSnapshot_encodable
  have findable := (decoded_agrees_iff decoded).2 (by decide) (by decide)
  exact ⟨(decoded_agrees_iff decoded).1.mpr findable,findable⟩

theorem turned_range_hides : (decodeCache (encodeCache turnedSnapshot)).Gives turnedSnapshot ∧
    turnedSnapshot.Covers 0x4652 (.v4 7) ∧ turnedSnapshot.lookupCountry (.v4 7) = none := by
  refine ⟨?_,?_,?_⟩
  · exact encodeCache_decodes ⟨by decide,by decide,by decide,by decide,.nil⟩
  · exact ⟨⟨6,8,0x4652⟩,by decide,rfl,by decide,by decide⟩
  · simp [GeoSnapshot.lookupCountry,lookupV4,lookupCode,turnedSnapshot,Span.find,bisect,Span.probe]

end Sigproxy.Security
