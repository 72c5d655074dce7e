import Sigproxy.Library.JoinWindow
import Sigproxy.Library.Retrying
import Sigproxy.Security.GeoPartial

namespace Sigproxy.Security
open Library Net

section Requests

-- How one request ends; a body that breaks off comes after a good status.
inductive HttpAttempt where
  | sendFails (error : String)
  | status (error : String)
  | bodyFails (error : String)
  | body (text : String)

namespace HttpAttempt

def outcome : HttpAttempt → Except String String
  | .sendFails error | .status error | .bodyFails error => .error error
  | .body text => .ok text

def isBody : HttpAttempt → Bool
  | .body _ => true
  | _ => false

theorem outcome_ok {attempt : HttpAttempt} : attempt.outcome = .ok text ↔ attempt = .body text := by
  cases attempt <;> simp [outcome]

theorem not_body {attempt : HttpAttempt} (vain : attempt.isBody = false) : ∃ error, attempt.outcome = .error error := by
  cases attempt with
  | body text => cases vain
  | _ error => exact ⟨error,rfl⟩

end HttpAttempt

def fetchCountryBodyWithRetries (requestRetries : Nat) (attempts : Nat → HttpAttempt) : Except String String :=
  Retrying.retry HttpAttempt.isBody HttpAttempt.outcome attempts (Retrying.numbers (max requestRetries 1)) none

def spawnGeoFetch (requestRetries : Nat) (country : String) (attempts : Nat → HttpAttempt) : Joined :=
  match fetchCountryBodyWithRetries requestRetries attempts with
  | .ok body => .fetched country body
  | .error error => .failed ("failed to fetch geo ranges for " ++ country ++ ": " ++ error)

theorem geo_fetched_iff (requestRetries : Nat) (country : String) (attempts : Nat → HttpAttempt) (body : String) :
    spawnGeoFetch requestRetries country attempts = .fetched country body ↔
    ∃ number, 1 ≤ number ∧ number ≤ max requestRetries 1 ∧ attempts number = .body body ∧
      ∀ earlier, 1 ≤ earlier → earlier < number → (attempts earlier).isBody = false := by
  have fetched := Retrying.retry_ok (fun (attempt : HttpAttempt) (vain : attempt.isBody = false) => HttpAttempt.not_body vain) attempts requestRetries body
  simp only [HttpAttempt.outcome_ok] at fetched
  rw [← fetched,spawnGeoFetch,fetchCountryBodyWithRetries]
  split <;> rename_i ended <;> simp [ended]

end Requests

section Definitions

def geoFetchConcurrency : Nat := 16

variable (parseIp : String → Except String IpAddr)

def finishGeo (now : Nat) (unasked : Bool) (fetch : Fetch) : Except String GeoSnapshot := do
  if fetch.loadedCountries = 0 ∧ unasked = false then throw "failed to fetch any geo country ranges"
  let ipv4 := normalizeV4Ranges fetch.ranges.ipv4
  let ipv6 := normalizeV6Ranges fetch.ranges.ipv6
  validateNonOverlappingV4 ipv4
  validateNonOverlappingV6 ipv6
  return ⟨now,ipv4,ipv6⟩

-- The snapshot as the tasks make it: `schedule` says which of the running ones ends next.
def fetchGeoConcurrently (allowPartial : Bool) (now : Nat) (countries : List Joined) (schedule : List Nat) : Option (Except String GeoSnapshot) :=
  (JoinWindow.collect (absorb parseIp allowPartial) (JoinWindow.start geoFetchConcurrency countries) ⟨⟨[],[]⟩,0,0⟩ schedule).map
    fun fetch => fetch.bind (finishGeo now countries.isEmpty)

def Ranges.join (first second : Ranges) : Ranges := ⟨first.ipv4 ++ second.ipv4,first.ipv6 ++ second.ipv6⟩

structure Part where
  ranges : Ranges
  loaded : Bool

def merge (fetch : Fetch) (part : Part) : Fetch :=
  if part.loaded then {fetch with ranges:=fetch.ranges.join part.ranges,loadedCountries:=fetch.loadedCountries + 1}
  else {fetch with ranges:=fetch.ranges.join part.ranges,skippedCountries:=fetch.skippedCountries + 1}

def verdict (allowPartial : Bool) (country : Joined) : Except String Part :=
  (absorb parseIp allowPartial ⟨⟨[],[]⟩,0,0⟩ country).map fun fetch => ⟨fetch.ranges,fetch.loadedCountries == 1⟩

end Definitions

section Orders
variable {parseIp : String → Except String IpAddr} {countries : List Joined}

theorem fetchGeoSnapshot_finish (allowPartial : Bool) (now : Nat) (results : List Joined) : fetchGeoSnapshot parseIp allowPartial now results =
    (results.foldlM (absorb parseIp allowPartial) ⟨⟨[],[]⟩,0,0⟩).bind (finishGeo now results.isEmpty) := rfl

theorem join_empty (ranges : Ranges) : ranges.join ⟨[],[]⟩ = ranges ∧ Ranges.join ⟨[],[]⟩ ranges = ranges := by
  simp [Ranges.join]

theorem join_assoc (first second third : Ranges) : (first.join second).join third = first.join (second.join third) := by
  simp [Ranges.join]

-- A list adds the same to whatever has been read before it.
theorem appendRange_join (country : BitVec 16) (ranges : Ranges) (line : String) :
    appendRange parseIp country ranges line = (appendRange parseIp country ⟨[],[]⟩ line).map ranges.join := by
  unfold appendRange
  cases parseCidrParts parseIp line with
  | error error => rfl
  | ok parts =>
      obtain ⟨addr,prefixLen⟩ := parts
      cases addr with
      | v4 addr => cases ranged : ipv4Range addr prefixLen <;> simp [bind,Except.bind,ranged,pure,Except.pure,Except.map,Ranges.join]
      | v6 addr => cases ranged : ipv6Range addr prefixLen <;> simp [bind,Except.bind,ranged,pure,Except.pure,Except.map,Ranges.join]

theorem appendLines_join (country : BitVec 16) (ranges : Ranges) (texts : List String) : appendLines parseIp country ranges texts =
    (ranges.join (appendLines parseIp country ⟨[],[]⟩ texts).1,(appendLines parseIp country ⟨[],[]⟩ texts).2) := by
  induction texts generalizing ranges with
  | nil => simp [appendLines,join_empty]
  | cons line rest ih =>
      rw [appendLines,appendLines]
      split
      · exact ih ranges
      · rw [appendRange_join]
        cases appendRange parseIp country ⟨[],[]⟩ (Proxy.trim line) with
        | error error => simp [Except.map,join_empty]
        | ok read =>
            simp only [Except.map]
            rw [ih (ranges.join read),ih read,join_assoc]

theorem appendCountryRanges_join (country body : String) (ranges : Ranges) : appendCountryRanges parseIp country body ranges =
    (ranges.join (appendCountryRanges parseIp country body ⟨[],[]⟩).1,(appendCountryRanges parseIp country body ⟨[],[]⟩).2) := by
  unfold appendCountryRanges
  cases encodeCountry country with
  | error error => simp [join_empty]
  | ok code => exact appendLines_join code ranges _

theorem absorb_verdict (allowPartial : Bool) (fetch : Fetch) (country : Joined) :
    absorb parseIp allowPartial fetch country = (verdict parseIp allowPartial country).map (merge fetch) := by
  cases country with
  | aborted error => rfl
  | failed error => cases allowPartial <;> simp [verdict,absorb,Except.map,merge,join_empty]
  | fetched country body =>
      simp only [verdict,absorb]
      rw [appendCountryRanges_join country body fetch.ranges]
      obtain ⟨ranges,outcome⟩ := appendCountryRanges parseIp country body ⟨[],[]⟩
      cases outcome with
      | ok _ => simp [Except.map,merge]
      | error error => cases allowPartial <;> simp [Except.map,merge]

theorem merged (parts : List Part) (fetch : Fetch) : parts.foldl merge fetch =
    ⟨⟨fetch.ranges.ipv4 ++ parts.flatMap (·.ranges.ipv4),fetch.ranges.ipv6 ++ parts.flatMap (·.ranges.ipv6)⟩,
      fetch.loadedCountries + parts.countP (·.loaded),fetch.skippedCountries + parts.countP (!·.loaded)⟩ := by
  induction parts generalizing fetch with
  | nil => simp
  | cons part rest ih =>
      rw [List.foldl_cons,ih]
      cases loaded : part.loaded <;> simp [merge,loaded,Ranges.join,Nat.add_assoc,Nat.add_comm]

-- The ranges are sorted before they are joined, so that the order of the parts is lost.
theorem finishGeo_perm {parts others : List Part} (same : parts.Perm others) (now : Nat) (unasked : Bool) :
    finishGeo now unasked (parts.foldl merge ⟨⟨[],[]⟩,0,0⟩) = finishGeo now unasked (others.foldl merge ⟨⟨[],[]⟩,0,0⟩) := by
  have codes : Function.Injective (BitVec.toNat : BitVec 16 → Nat) := fun _ _ => BitVec.eq_of_toNat_eq
  have ranges4 := Span.normalize_perm _ codes (same.flatMap_right (·.ranges.ipv4))
  have ranges6 := Span.normalize_perm _ codes (same.flatMap_right (·.ranges.ipv6))
  simp only [merged,finishGeo,normalizeV4Ranges,normalizeV6Ranges,List.nil_append,ranges4,ranges6,same.countP_eq]

theorem sequential_ok (allowPartial : Bool) (now : Nat) (results : List Joined) (snapshot : GeoSnapshot) :
    fetchGeoSnapshot parseIp allowPartial now results = .ok snapshot ↔ (∀ country ∈ results, ∃ part, verdict parseIp allowPartial country = .ok part) ∧
      finishGeo now results.isEmpty ((JoinWindow.parts (verdict parseIp allowPartial) results).foldl merge ⟨⟨[],[]⟩,0,0⟩) = .ok snapshot := by
  rw [fetchGeoSnapshot_finish,JoinWindow.foldlM_verdict (absorb_verdict allowPartial)]
  cases mapped : results.mapM (verdict parseIp allowPartial) with
  | ok found =>
      obtain ⟨all,rfl⟩ := JoinWindow.mapM_parts.mp mapped
      exact ⟨fun given => ⟨all,given⟩,And.right⟩
  | error error =>
      refine ⟨fun given => (by cases given),fun both => ?_⟩
      cases (JoinWindow.mapM_parts.mpr ⟨both.1,rfl⟩).symm.trans mapped

end Orders
end Sigproxy.Security
