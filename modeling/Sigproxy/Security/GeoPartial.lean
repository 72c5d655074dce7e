import Sigproxy.Library.Fallible
import Sigproxy.Security.Geo

namespace Sigproxy.Security
open Library Net Proxy

section Reading
variable (parseIp : String → Except String IpAddr)

def Readable (line : String) : Prop := (parsedCidr parseIp line).isSome = true

instance (line : String) : Decidable (Readable parseIp line) := inferInstanceAs (Decidable (_ = true))

-- What is read of a list before its first unreadable line.
def leadingCidrs (body : String) : List Cidr :=
  ((entries body).takeWhile fun line => (parsedCidr parseIp line).isSome).filterMap (parsedCidr parseIp)

def Unreadable (body : String) : Prop := ∃ line ∈ entries body, ¬Readable parseIp line

-- Not one line of the list is read.
def Idle (body : String) : Prop := ∀ first ∈ (entries body).head?, ¬Readable parseIp first

variable {parseIp}

theorem leadingCidrs_idle (body : String) : leadingCidrs parseIp body = [] ↔ Idle parseIp body := by
  rw [leadingCidrs,Idle]
  cases entries body with
  | nil => simp
  | cons first rest =>
      cases read : parsedCidr parseIp first with
      | none => simp [Readable,read]
      | some cidr => simp [Readable,read]

theorem ipRange_long (addr : BitVec width) (tooLong : width < prefixLen) (text : String) : ipRange text addr prefixLen = .error text :=
  if_pos tooLong

theorem appendRange_unread (unread : ¬Readable parseIp line) (country : BitVec 16) (ranges : Ranges) :
    ∃ error, appendRange parseIp country ranges line = .error error := by
  unfold Readable parsedCidr at unread
  unfold appendRange
  cases read : parseCidrParts parseIp line with
  | error error => exact ⟨error,rfl⟩
  | ok parts =>
      obtain ⟨addr,prefixLen⟩ := parts
      rw [read] at unread
      have tooLong : addr.width < prefixLen := by
        by_contra short
        simp [Nat.not_lt.mp short] at unread
      cases addr with
      | v4 addr => exact ⟨"IPv4 prefix must be at most 32",by simp only [bind,Except.bind,ipv4Range,ipRange_long addr tooLong]⟩
      | v6 addr => exact ⟨"IPv6 prefix must be at most 128",by simp only [bind,Except.bind,ipv6Range,ipRange_long addr tooLong]⟩

theorem appendLines_leading (country : BitVec 16) (ranges : Ranges) (texts : List String) :
    let listed := (texts.map trim).filter fun line => !skipped line
    (appendLines parseIp country ranges texts).1 =
      ranges.add country ((listed.takeWhile fun line => (parsedCidr parseIp line).isSome).filterMap (parsedCidr parseIp)) ∧
    ((∃ error, (appendLines parseIp country ranges texts).2 = .error error) ↔ ∃ line ∈ listed, ¬Readable parseIp line) := by
  induction texts generalizing ranges with
  | nil => simp [appendLines,Ranges.add]
  | cons line rest ih =>
      rw [appendLines]
      split
      · rename_i skip
        rw [List.map_cons,List.filter_cons_of_neg (by simpa using skip)]
        exact ih ranges
      · rename_i kept
        rw [List.map_cons,List.filter_cons_of_pos (by simpa using kept)]
        cases read : parsedCidr parseIp (trim line) with
        | some cidr =>
            rw [appendRange_eq read]
            obtain ⟨accumulated,fails⟩ := ih (ranges.add country [cidr])
            refine ⟨?_,fails.trans ?_⟩
            · rw [accumulated,List.takeWhile_cons_of_pos (by rw [read]; rfl),List.filterMap_cons_some read,Ranges.add_add,List.singleton_append]
            · simp [Readable,read]
        | none =>
            have unread : ¬Readable parseIp (trim line) := by simp [Readable,read]
            obtain ⟨error,failed⟩ := appendRange_unread unread country ranges
            rw [failed]
            refine ⟨?_,iff_of_true ⟨error,rfl⟩ ⟨_,List.mem_cons_self,unread⟩⟩
            rw [List.takeWhile_cons_of_neg (by simp [read])]
            simp [Ranges.add]

theorem appendCountryRanges_leading (named : encodeCountry country = .ok code) (body : String) (ranges : Ranges) :
    (appendCountryRanges parseIp country body ranges).1 = ranges.add code (leadingCidrs parseIp body) ∧
    ((∃ error, (appendCountryRanges parseIp country body ranges).2 = .error error) ↔ Unreadable parseIp body) := by
  rw [appendCountryRanges,named]
  exact appendLines_leading code ranges (lines body)

theorem appendCountryRanges_unnamed (unnamed : encodeCountry country = .error error) (body : String) (ranges : Ranges) :
    appendCountryRanges parseIp country body ranges = (ranges,.error error) := by
  rw [appendCountryRanges,unnamed]

theorem add_same (ranges : Ranges) (code : BitVec 16) (cidrs : List Cidr) : ranges.add code cidrs = ranges ↔ cidrs = [] := by
  constructor
  · intro same
    cases cidrs with
    | nil => rfl
    | cons cidr rest =>
        obtain ⟨v4,v6⟩ := Ranges.mk.inj same
        rw [List.append_right_eq_self] at v4 v6
        have unseen := List.filterMap_eq_nil_iff.mp v4 cidr List.mem_cons_self
        have hidden := List.filterMap_eq_nil_iff.mp v6 cidr List.mem_cons_self
        unfold rangeV4 at unseen
        unfold rangeV6 at hidden
        cases family : cidr.addr with
        | v4 addr => rw [family] at unseen; cases unseen
        | v6 addr => rw [family] at hidden; cases hidden
  · intro same
    rcases same with rfl
    simp [Ranges.add]

def Refused (parseIp : String → Except String IpAddr) (country body : String) : Prop :=
  ∃ ranges error, (appendCountryRanges parseIp country body ranges).2 = .error error

theorem refused_named (named : encodeCountry country = .ok code) : Refused parseIp country body ↔ Unreadable parseIp body := by
  constructor
  · intro both
    rcases both with ⟨ranges,fails⟩
    exact (appendCountryRanges_leading named body ranges).2.mp fails
  · intro unreadable
    exact ⟨⟨[],[]⟩,(appendCountryRanges_leading named body _).2.mpr unreadable⟩

-- A refused list leaves the accumulators alone unless its first line could be read.
theorem refused_unmoved_iff (parseIp : String → Except String IpAddr) (country body : String) (ranges : Ranges) :
    ((∃ error, (appendCountryRanges parseIp country body ranges).2 = .error error) →
      (appendCountryRanges parseIp country body ranges).1 = ranges) ↔
    (∃ error, encodeCountry country = .error error) ∨ ¬Unreadable parseIp body ∨ Idle parseIp body := by
  cases named : encodeCountry country with
  | error error => simp [appendCountryRanges_unnamed named]
  | ok code =>
      obtain ⟨accumulated,fails⟩ := @appendCountryRanges_leading parseIp _ _ named body ranges
      rw [fails,accumulated,add_same,leadingCidrs_idle]
      simp [imp_iff_not_or]

end Reading

section Snapshots
variable {parseIp : String → Except String IpAddr} {results : List Joined}

-- What the tasks leave in the accumulators of one family, in the order they are joined.
def leftBy (parseIp : String → Except String IpAddr) (range : BitVec 16 → Cidr → Option (Span width (BitVec 16))) :
    Joined → List (Span width (BitVec 16))
  | .fetched country body =>
    match encodeCountry country with
    | .ok code => (leadingCidrs parseIp body).filterMap (range code)
    | .error _ => []
  | _ => []

theorem absorb_leaves (absorbed : absorb parseIp true fetch result = .ok next) :
    next.ranges = ⟨fetch.ranges.ipv4 ++ leftBy parseIp rangeV4 result,fetch.ranges.ipv6 ++ leftBy parseIp rangeV6 result⟩ := by
  cases result with
  | aborted error => cases absorbed
  | failed error =>
      cases absorbed
      simp [leftBy]
  | fetched country body =>
      have moved : next.ranges = (appendCountryRanges parseIp country body fetch.ranges).1 := by
        rw [absorb] at absorbed
        generalize appendCountryRanges parseIp country body fetch.ranges = appended at absorbed ⊢
        obtain ⟨ranges,outcome⟩ := appended
        cases outcome with
        | ok _ => cases absorbed; rfl
        | error error => cases absorbed; rfl
      rw [moved,leftBy,leftBy]
      cases named : encodeCountry country with
      | ok code => exact (appendCountryRanges_leading named body fetch.ranges).1
      | error error => simp [appendCountryRanges_unnamed named]

theorem absorbs_leave (absorbed : results.foldlM (absorb parseIp true) fetch = .ok next) :
    next.ranges = ⟨fetch.ranges.ipv4 ++ results.flatMap (leftBy parseIp rangeV4),fetch.ranges.ipv6 ++ results.flatMap (leftBy parseIp rangeV6)⟩ := by
  induction results generalizing fetch with
  | nil =>
      cases absorbed
      simp
  | cons result rest ih =>
      rw [List.foldlM_cons] at absorbed
      cases first : absorb parseIp true fetch result with
      | error error => rw [first] at absorbed; cases absorbed
      | ok middle =>
          rw [first] at absorbed
          rw [ih absorbed,absorb_leaves first]
          simp

theorem fetched_snapshot (fetched : fetchGeoSnapshot parseIp true now results = .ok snapshot) :
    snapshot.ipv4 = normalizeV4Ranges (results.flatMap (leftBy parseIp rangeV4)) ∧
    snapshot.ipv6 = normalizeV6Ranges (results.flatMap (leftBy parseIp rangeV6)) := by
  unfold fetchGeoSnapshot at fetched
  obtain ⟨fetch,absorbed,fetched⟩ := bind_ok.mp fetched
  dsimp only at fetched
  split at fetched
  · cases fetched
  obtain ⟨_,_,fetched⟩ := bind_ok.mp fetched
  obtain ⟨_,_,fetched⟩ := bind_ok.mp fetched
  cases fetched
  rw [absorbs_leave absorbed]
  exact ⟨rfl,rfl⟩

def GeoSnapshot.Lacks (snapshot : GeoSnapshot) (code : BitVec 16) : Prop :=
  (∀ range ∈ snapshot.ipv4, range.label ≠ code) ∧ ∀ range ∈ snapshot.ipv6, range.label ≠ code

theorem mem_leftBy {range : BitVec 16 → Cidr → Option (Span width (BitVec 16))} : span ∈ results.flatMap (leftBy parseIp range) ↔
    ∃ country body code, .fetched country body ∈ results ∧ encodeCountry country = .ok code ∧
      ∃ cidr ∈ leadingCidrs parseIp body, range code cidr = some span := by
  rw [List.mem_flatMap]
  constructor
  · intro given
    rcases given with ⟨result,member,left⟩
    cases result with
    | aborted error => cases left
    | failed error => cases left
    | fetched country body =>
        rw [leftBy] at left
        cases named : encodeCountry country with
        | error error => rw [named] at left; cases left
        | ok code =>
            rw [named] at left
            exact ⟨country,body,code,member,named,List.mem_filterMap.mp left⟩
  · intro given
    rcases given with ⟨country,body,code,member,named,read⟩
    refine ⟨_,member,?_⟩
    rw [leftBy,named]
    exact List.mem_filterMap.mpr read

theorem leftBy_labelled {range : BitVec 16 → Cidr → Option (Span width (BitVec 16))} {addr : BitVec width → IpAddr}
    (represents : Represents range addr) (code : BitVec 16) : (∃ span ∈ results.flatMap (leftBy parseIp range), span.label = code) ↔
      ∃ country body, .fetched country body ∈ results ∧ encodeCountry country = .ok code ∧
        ∃ cidr ∈ leadingCidrs parseIp body, (range code cidr).isSome = true := by
  constructor
  · intro given
    rcases given with ⟨span,left,labelled⟩
    obtain ⟨country,body,named,member,code',cidr,read,found⟩ := mem_leftBy.mp left
    cases (represents.marked found).symm.trans labelled
    exact ⟨country,body,member,code',cidr,read,by rw [found]; rfl⟩
  · intro given
    rcases given with ⟨country,body,member,named,cidr,read,found⟩
    obtain ⟨span,found⟩ := Option.isSome_iff_exists.mp found
    exact ⟨span,mem_leftBy.mpr ⟨country,body,code,member,named,cidr,read,found⟩,represents.marked found⟩

-- A snapshot lacks a country exactly when nothing was read of a list under its code.
theorem lacks_iff (fetched : fetchGeoSnapshot parseIp true now results = .ok snapshot) (code : BitVec 16) : snapshot.Lacks code ↔
    ∀ country body, .fetched country body ∈ results → encodeCountry country = .ok code → Idle parseIp body := by
  obtain ⟨v4,v6⟩ := fetched_snapshot fetched
  have families : ¬snapshot.Lacks code ↔ ∃ country body, .fetched country body ∈ results ∧ encodeCountry country = .ok code ∧
      leadingCidrs parseIp body ≠ [] := by
    have shown : ¬snapshot.Lacks code ↔ (∃ range ∈ snapshot.ipv4, range.label = code) ∨ ∃ range ∈ snapshot.ipv6, range.label = code := by
      simp only [GeoSnapshot.Lacks,not_and_or,not_forall,not_not,exists_prop]
    rw [shown,v4,v6,normalizeV4Ranges,normalizeV6Ranges,Span.normalize_labelled,Span.normalize_labelled,leftBy_labelled rangeV4_represents,
      leftBy_labelled rangeV6_represents]
    constructor
    · rintro (⟨country,body,member,named,cidr,read,_⟩ | ⟨country,body,member,named,cidr,read,_⟩) <;>
        exact ⟨country,body,member,named,List.ne_nil_of_mem read⟩
    · intro given
      rcases given with ⟨country,body,member,named,nonempty⟩
      obtain ⟨cidr,read⟩ := List.exists_mem_of_ne_nil _ nonempty
      cases family : cidr.addr with
      | v4 addr => exact .inl ⟨country,body,member,named,cidr,read,by simp [rangeV4,family]⟩
      | v6 addr => exact .inr ⟨country,body,member,named,cidr,read,by simp [rangeV6,family]⟩
  rw [← not_iff_not,families]
  simp only [not_forall,exists_prop,leadingCidrs_idle,ne_eq]

-- A skipped country contributes nothing exactly where nothing of its lists was read
-- before the line that is refused.
theorem skipped_contributes_nothing_iff (parseIp : String → Except String IpAddr) :
    (∀ country body ranges, ((∃ error, (appendCountryRanges parseIp country body ranges).2 = .error error) →
      (appendCountryRanges parseIp country body ranges).1 = ranges) ↔
      (∃ error, encodeCountry country = .error error) ∨ ¬Unreadable parseIp body ∨ Idle parseIp body) ∧
    ∀ now results snapshot, fetchGeoSnapshot parseIp true now results = .ok snapshot →
      ((∀ country body code, .fetched country body ∈ results → Refused parseIp country body → encodeCountry country = .ok code →
        snapshot.Lacks code) ↔
      ∀ country body code, .fetched country body ∈ results → Unreadable parseIp body → encodeCountry country = .ok code →
        ∀ country' body', .fetched country' body' ∈ results → encodeCountry country' = .ok code → Idle parseIp body') := by
  refine ⟨refused_unmoved_iff parseIp,fun now results snapshot fetched => ?_⟩
  constructor
  · intro lacks country body code member unreadable named
    exact (lacks_iff fetched code).mp (lacks country body code member ((refused_named named).mpr unreadable) named)
  · intro idle country body code member refused named
    exact (lacks_iff fetched code).mpr (idle country body code member ((refused_named named).mp refused) named)

def tornList : String := "192.0.0.0/8\nnot an address"

-- The list of DE breaks off after its first network, which stays in the snapshot.
theorem torn_list_stays : (appendCountryRanges readAddr "DE" tornList ⟨[],[]⟩).2 = .error "invalid IP address syntax" ∧
    (appendCountryRanges readAddr "DE" tornList ⟨[],[]⟩).1.ipv4 = [⟨0xc0000000,0xc0ffffff,0x4445⟩] ∧
    ∃ snapshot, fetchGeoSnapshot readAddr true 0 [.fetched "DE" tornList,.fetched "FR" "193.0.0.0/8"] = .ok snapshot ∧
      Refused readAddr "DE" tornList ∧ ¬snapshot.Lacks 0x4445 := by
  have refused : (appendCountryRanges readAddr "DE" tornList ⟨[],[]⟩).2 = .error "invalid IP address syntax" := by
    decide +kernel
  have fetched : (fetchGeoSnapshot readAddr true 0 [.fetched "DE" tornList,.fetched "FR" "193.0.0.0/8"]).isOk = true := by decide +kernel
  obtain ⟨snapshot,fetched⟩ : ∃ snapshot, fetchGeoSnapshot readAddr true 0 [.fetched "DE" tornList,.fetched "FR" "193.0.0.0/8"] = .ok snapshot := by
    generalize fetchGeoSnapshot readAddr true 0 [.fetched "DE" tornList,.fetched "FR" "193.0.0.0/8"] = outcome at fetched
    cases outcome with
    | ok snapshot => exact ⟨snapshot,rfl⟩
    | error error => cases fetched
  refine ⟨refused,by decide +kernel,snapshot,fetched,⟨⟨[],[]⟩,_,refused⟩,fun lacks => ?_⟩
  have idle := (lacks_iff fetched 0x4445).mp lacks "DE" tornList List.mem_cons_self (by decide +kernel)
  exact idle "192.0.0.0/8" (by decide +kernel) (by decide +kernel)

end Snapshots
end Sigproxy.Security
