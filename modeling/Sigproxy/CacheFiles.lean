import Sigproxy.Library.AtomicFile
import Sigproxy.Security.GeoCache
import Sigproxy.Security.GeoFetch
import Sigproxy.Xdp.ThreatCache
import Sigproxy.Xdp.ThreatFeeds

-- The two binary caches on disk, over runs of refreshes, failures, stops and losses of power.
namespace Sigproxy.CacheFiles
open Library Net Security

-- What a decoder comes to; neither of the two can panic.
def decoded (computation : Risky Snapshot) : Except String Snapshot := computation.run.getD (.error "panic")

theorem decoded_ok {computation : Risky Snapshot} {snapshot : Snapshot} : decoded computation = .ok snapshot ↔ computation.Gives snapshot := by
  unfold decoded Risky.Gives
  cases computation.run <;> simp

namespace Threat
open Xdp ThreatCache ThreatFeeds

def embeddedThreatCache : List Octet := [0x53,0x54,0x48,0x52,0,1,0,0,0,0,0,0,0,0,0,0,0,0]

-- A file that is there and cannot be decoded is an error, and the process does not start.
def loadCacheOrEmbedded (path : String) (now : Nat) : Option (List Octet) → Except String ThreatSnapshot
  | some bytes => (decoded (decodeCache now bytes)).mapError fun error => "failed to decode threat intel binary cache " ++ path ++ ": " ++ error
  | none => decoded (decodeCache now embeddedThreatCache)

def format (path : String) : AtomicFile.Format ThreatSnapshot := ⟨encodeCache,loadCacheOrEmbedded path⟩

-- A snapshot that some fetch came to, of a size and a time that the file has room for.
def Fetchable (parseIp : String → Except String IpAddr) (fromStr : String → Option Value) (snapshot : ThreatSnapshot) : Prop :=
  ∃ allowPartial now sources schedule, fetchThreatSnapshot parseIp fromStr allowPartial now sources schedule = some (.ok snapshot) ∧
    now < 2 ^ 64 ∧ snapshot.prefixes.length < 2 ^ 32

theorem fetchable_readable (path : String) (fetched : Fetchable parseIp fromStr snapshot) : AtomicFile.Readable (format path) snapshot := by
  obtain ⟨allowPartial,stamp,sources,schedule,collected,timed,few⟩ := fetched
  have same := (fetch_any_order collected).2 snapshot rfl
  intro now
  have gives := encodeCache_decodes stamp now _ timed (same ▸ few)
  rw [← same] at gives
  simp [format,loadCacheOrEmbedded,decoded_ok.mpr gives,Except.mapError]

def Admitted (parseIp : String → Except String IpAddr) (fromStr : String → Option Value) (actions : List (AtomicFile.Action ThreatSnapshot)) : Prop :=
  ∀ snapshot, .fetched snapshot ∈ actions → Fetchable parseIp fromStr snapshot

theorem admitted_readable {actions : List (AtomicFile.Action ThreatSnapshot)} (path : String) (admitted : Admitted parseIp fromStr actions) :
    ∀ action ∈ actions, AtomicFile.Admitted (format path) action := by
  intro action member
  cases action with
  | fetched snapshot => exact fetchable_readable path (admitted snapshot member)
  | _ => trivial

theorem threat_cache_survives {actions : List (AtomicFile.Action ThreatSnapshot)} (admitted : Admitted parseIp fromStr actions)
    (ran : Machine.run (AtomicFile.advance (format path)) (AtomicFile.begin first) actions = some host) :
    (host.volume.content = first ∨ ∃ snapshot ∈ host.fetched, host.volume.content = some (encodeCache snapshot) ∧
      ∀ now, loadCacheOrEmbedded path now host.volume.content = .ok snapshot) ∧
    ∀ process, host.process = some process → (∀ snapshot, process.stage ≠ .storing snapshot) →
      ∃ now, loadCacheOrEmbedded path now host.volume.content = .ok process.memory :=
  AtomicFile.replacement_survives (admitted_readable path admitted) ran

def feed : EffectiveProxyThreatIntelSourceConfig := ⟨"drop","https://feeds.example/drop.txt",.ipsum,some 2⟩

-- A first refresh, and the power gone between the renaming and the store.
def interrupted : List (AtomicFile.Action ThreatSnapshot) :=
  [.start 5,.refresh,.fetched (buildSnapshot 7 [private16]),.proceeds,.writes 36,.proceeds,.proceeds,.proceeds,.powerLoss true [] none]

theorem interrupted_admitted : Admitted readAddr (fun _ => none) interrupted := by
  intro snapshot member
  have same : snapshot = buildSnapshot 7 [private16] := by simpa [interrupted] using member
  subst same
  exact ⟨false,7,[.fetched feed scoredList],[0],by decide +kernel,by decide,by decide +kernel⟩

theorem interrupted_cache_survives : ∃ host, Machine.run (AtomicFile.advance (format "threat.sthr")) (AtomicFile.begin none) interrupted = some host ∧
    ∀ now, loadCacheOrEmbedded "threat.sthr" now host.volume.content = .ok (buildSnapshot 7 [private16]) := by
  have content : (Machine.run (AtomicFile.advance (format "threat.sthr")) (AtomicFile.begin none) interrupted).map
      (fun host => (host.volume.content,host.fetched)) = some (some (encodeCache (buildSnapshot 7 [private16])),[buildSnapshot 7 [private16]]) := by
    decide +kernel
  obtain ⟨host,ran,both⟩ := Option.map_eq_some_iff.mp content
  obtain ⟨written,fetched⟩ := Prod.mk.inj both
  refine ⟨host,ran,?_⟩
  rcases (threat_cache_survives interrupted_admitted ran).1 with first | ⟨snapshot,member,_,loads⟩
  · cases written.symm.trans first
  · rw [fetched] at member
    cases List.mem_singleton.mp member
    exact loads

end Threat

namespace Geo

def embeddedGeoCache : List Octet := [0x53,0x47,0x45,0x4F,0,1,0,0,0,0,0,0,0,0,0,0,0,0,0,0,0,0]

-- Whatever is wrong with the file, the process starts without any ranges.
def loadCacheOrEmbedded (file : Option (List Octet)) : Except String GeoSnapshot :=
  match file with
  | some bytes => match decoded (decodeCache bytes) with
    | .ok snapshot => .ok snapshot
    | .error _ => decoded (decodeCache embeddedGeoCache)
  | none => decoded (decodeCache embeddedGeoCache)

def format : AtomicFile.Format GeoSnapshot := ⟨encodeCache,fun _ => loadCacheOrEmbedded⟩

theorem embedded_decodes : (decodeCache embeddedGeoCache).Gives ⟨0,[],[]⟩ := by
  have same : embeddedGeoCache = encodeCache ⟨0,[],[]⟩ := by decide
  rw [same]
  exact encodeCache_decodes ⟨by decide,by decide,by decide,.nil,.nil⟩

theorem loads_always (file : Option (List Octet)) : ∃ snapshot, loadCacheOrEmbedded file = .ok snapshot := by
  unfold loadCacheOrEmbedded
  split
  · split
    · exact ⟨_,rfl⟩
    · exact ⟨_,decoded_ok.mpr embedded_decodes⟩
  · exact ⟨_,decoded_ok.mpr embedded_decodes⟩

def Fetchable (parseIp : String → Except String IpAddr) (snapshot : GeoSnapshot) : Prop :=
  ∃ allowPartial now countries schedule, fetchGeoConcurrently parseIp allowPartial now countries schedule = some (.ok snapshot) ∧
    now < 2 ^ 64 ∧ snapshot.ipv4.length < 2 ^ 32 ∧ snapshot.ipv6.length < 2 ^ 32

theorem finishGeo_chained (finished : finishGeo now unasked fetch = .ok snapshot) : snapshot.createdAtEpochSeconds = now ∧
    (snapshot.ipv4.IsChain fun first second => first.stop < second.start) ∧
    snapshot.ipv6.IsChain fun first second => first.stop < second.start := by
  unfold finishGeo at finished
  split at finished
  · cases finished
  · obtain ⟨_,validated4,finished⟩ := bind_ok.mp finished
    obtain ⟨_,validated6,finished⟩ := bind_ok.mp finished
    cases finished
    exact ⟨rfl,validated_iff_chained.mp validated4,validated_iff_chained.mp validated6⟩

theorem fetchable_readable (fetched : Fetchable parseIp snapshot) : AtomicFile.Readable format snapshot := by
  obtain ⟨allowPartial,stamp,countries,schedule,collected,timed,few4,few6⟩ := fetched
  obtain ⟨outcome,_,ended⟩ := Option.map_eq_some_iff.mp collected
  obtain ⟨fetch,rfl,finished⟩ : ∃ fetch, outcome = .ok fetch ∧ finishGeo stamp countries.isEmpty fetch = .ok snapshot := bind_ok.mp ended
  obtain ⟨rfl,chained4,chained6⟩ := finishGeo_chained finished
  intro now
  simp [format,loadCacheOrEmbedded,decoded_ok.mpr (encodeCache_decodes ⟨timed,few4,few6,chained4,chained6⟩)]

def Admitted (parseIp : String → Except String IpAddr) (actions : List (AtomicFile.Action GeoSnapshot)) : Prop :=
  ∀ snapshot, .fetched snapshot ∈ actions → Fetchable parseIp snapshot

theorem admitted_readable {actions : List (AtomicFile.Action GeoSnapshot)} (admitted : Admitted parseIp actions) :
    ∀ action ∈ actions, AtomicFile.Admitted format action := by
  intro action member
  cases action with
  | fetched snapshot => exact fetchable_readable (admitted snapshot member)
  | _ => trivial

def oneCountry : GeoSnapshot := ⟨7,[⟨0xC0000000,0xC0FFFFFF,0x4445⟩],[]⟩

-- A refresh over a file that is no cache, in which the first write fails.
def retried : List (AtomicFile.Action GeoSnapshot) :=
  [.start 5,.refresh,.fetched oneCountry,.proceeds,.writes 10,.fails,.refresh,.fetched oneCountry,.proceeds,.writes 32,.proceeds,.proceeds,.proceeds,.proceeds]

theorem retried_admitted : Admitted readAddr retried := by
  intro snapshot member
  have same : snapshot = oneCountry := by simpa [retried] using member
  subst same
  exact ⟨false,7,[.fetched "de" "192.0.0.0/8"],[0],by decide +kernel,by decide,by decide,by decide⟩

end Geo

end Sigproxy.CacheFiles
