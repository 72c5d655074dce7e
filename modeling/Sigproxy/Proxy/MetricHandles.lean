import Sigproxy.Net
import Sigproxy.Proxy.Metrics

namespace Sigproxy.Proxy.Metrics
open Library Net

abbrev Series := String × List Label

section Tables

def metricTransports : List String := ["udp","tcp"]

def metricMethods : List String := ["ACK","BYE","CANCEL","INVITE","MESSAGE","OPTIONS","REGISTER","UNKNOWN"]

def metricStatusClasses : List String := ["1xx","2xx","3xx","4xx","5xx","6xx","other"]

def metricLocalResponseCodeLabels : List String := ["400","403","483","503"]

def metricAffinityLookupResults : List String :=
  ["hit","location-hit","miss","registered-upstream-hit","registered-upstream-unhealthy","request-uri-target","transaction-hit","wrong-side"]

def metricSecurityDropReasons : List String :=
  ["denied-cidr","not-allowed-cidr","ip-blocked","geo-unavailable","geo-unknown-country","geo-deny-country","geo-not-allowed-country",
    "threat-intel-unavailable","threat-intel","udp-flood-rate-limit","tcp-flood-rate-limit","tcp-udp-flood-rate-limit","ip-rate-limit",
    "invalid-start-line","parse-error","parse-error-rate-limit","dynamic-ban","sip-register-rate-limit","sip-invite-rate-limit","sip-blocked",
    "sip-invalid-from","sip-unregistered-invite","sip-unregistered-invite-source"]

def upstreamResponseLatencyMsBuckets : List Nat := [1,5,10,25,50,100,250,500,1000,2500,5000,10000,30000]

def upstreamResponseLatencyMsBucketLabels : List String :=
  ["1","5","10","25","50","100","250","500","1000","2500","5000","10000","30000","+Inf"]

def metricTransportIndex : String → Option Nat
  | "udp" => some 0
  | "tcp" => some 1
  | _ => none

-- The transport of an upstream is a concrete one: the code stops at any other.
def sipTransportMetricIndex : SipTransport → Option Nat
  | .udp => some 0
  | .tcp => some 1
  | .tcpUdp => none

def metricMethodIndex : String → Option Nat
  | "ACK" => some 0
  | "BYE" => some 1
  | "CANCEL" => some 2
  | "INVITE" => some 3
  | "MESSAGE" => some 4
  | "OPTIONS" => some 5
  | "REGISTER" => some 6
  | "UNKNOWN" => some 7
  | _ => none

def metricStatusClassIndex : String → Option Nat
  | "1xx" => some 0
  | "2xx" => some 1
  | "3xx" => some 2
  | "4xx" => some 3
  | "5xx" => some 4
  | "6xx" => some 5
  | "other" => some 6
  | _ => none

def metricLocalResponseCodeIndex : Nat → Option Nat
  | 400 => some 0
  | 403 => some 1
  | 483 => some 2
  | 503 => some 3
  | _ => none

def metricAffinityLookupResultIndex : String → Option Nat
  | "hit" => some 0
  | "location-hit" => some 1
  | "miss" => some 2
  | "registered-upstream-hit" => some 3
  | "registered-upstream-unhealthy" => some 4
  | "request-uri-target" => some 5
  | "transaction-hit" => some 6
  | "wrong-side" => some 7
  | _ => none

def metricSecurityDropReasonIndex : String → Option Nat
  | "denied-cidr" => some 0
  | "not-allowed-cidr" => some 1
  | "ip-blocked" => some 2
  | "geo-unavailable" => some 3
  | "geo-unknown-country" => some 4
  | "geo-deny-country" => some 5
  | "geo-not-allowed-country" => some 6
  | "threat-intel-unavailable" => some 7
  | "threat-intel" => some 8
  | "udp-flood-rate-limit" => some 9
  | "tcp-flood-rate-limit" => some 10
  | "tcp-udp-flood-rate-limit" => some 11
  | "ip-rate-limit" => some 12
  | "invalid-start-line" => some 13
  | "parse-error" => some 14
  | "parse-error-rate-limit" => some 15
  | "dynamic-ban" => some 16
  | "sip-register-rate-limit" => some 17
  | "sip-invite-rate-limit" => some 18
  | "sip-blocked" => some 19
  | "sip-invalid-from" => some 20
  | "sip-unregistered-invite" => some 21
  | "sip-unregistered-invite-source" => some 22
  | _ => none

def statusClass (code : Nat) : String :=
  match code / 100 with
  | 1 => "1xx"
  | 2 => "2xx"
  | 3 => "3xx"
  | 4 => "4xx"
  | 5 => "5xx"
  | 6 => "6xx"
  | _ => "unknown"

end Tables

section SeriesNames

def sipRequests (transport method : String) : Series := ("sip_requests_total",[("transport",transport),("method",method)])

def forwardedRequests (downstream upstream method : String) : Series :=
  ("proxy_forwarded_requests_total",[("downstream_transport",downstream),("upstream_transport",upstream),("method",method)])

def forwardErrors (downstream : String) : Series := ("proxy_forward_errors_total",[("downstream_transport",downstream)])

def localResponses (transport code : String) : Series := ("sip_local_responses_total",[("transport",transport),("code",code)])

def upstreamResponses (transport status : String) : Series := ("sip_upstream_responses_total",[("transport",transport),("class",status)])

def affinityLookups (result : String) : Series := ("proxy_affinity_lookup_total",[("result",result)])

def securityDrops (listener reason : String) : Series :=
  ("proxy_security_dropped_packets_total",[("listener",listener),("reason",reason)])

def udpHandlerQueueDrops (listener : String) : Series := ("proxy_udp_handler_queue_drops_total",[("listener",listener)])

def latencyBucket (downstream upstream method le : String) : Series :=
  ("proxy_upstream_response_latency_ms_bucket",
    [("downstream_transport",downstream),("upstream_transport",upstream),("method",method),("le",le)])

def latencyCount (downstream upstream method : String) : Series :=
  ("proxy_upstream_response_latency_ms_count",[("downstream_transport",downstream),("upstream_transport",upstream),("method",method)])

def latencySum (downstream upstream method : String) : Series :=
  ("proxy_upstream_response_latency_ms_sum",[("downstream_transport",downstream),("upstream_transport",upstream),("method",method)])

end SeriesNames

section Handles

-- The counters made in advance, each by the series that it was asked for.
structure ProxyMetricHandles where
  sipRequests : List (List Series)
  forwardedRequests : List (List (List Series))
  forwardErrors : List Series
  localResponses : List (List Series)
  upstreamResponses : List (List Series)
  affinityLookups : List Series
  securityDrops : Table String (List Series)
  udpHandlerQueueDrops : Table String Series
  upstreamResponseLatencyBuckets : List (List (List (List Series)))
  upstreamResponseLatencyCount : List (List (List Series))
  upstreamResponseLatencySum : List (List (List Series))

-- The keys are those of the concrete listeners.
def ProxyMetricHandles.new (listenerKeys : List String) : ProxyMetricHandles where
  sipRequests := metricTransports.map fun transport => metricMethods.map (Metrics.sipRequests transport)
  forwardedRequests := metricTransports.map fun downstream => metricTransports.map fun upstream =>
    metricMethods.map (Metrics.forwardedRequests downstream upstream)
  forwardErrors := metricTransports.map Metrics.forwardErrors
  localResponses := metricTransports.map fun transport => metricLocalResponseCodeLabels.map (Metrics.localResponses transport)
  upstreamResponses := metricTransports.map fun transport => metricStatusClasses.map (Metrics.upstreamResponses transport)
  affinityLookups := metricAffinityLookupResults.map Metrics.affinityLookups
  securityDrops := Table.collect (listenerKeys.map fun key => (key,metricSecurityDropReasons.map (Metrics.securityDrops key)))
  udpHandlerQueueDrops := Table.collect (listenerKeys.map fun key => (key,Metrics.udpHandlerQueueDrops key))
  upstreamResponseLatencyBuckets := metricTransports.map fun downstream => metricTransports.map fun upstream => metricMethods.map fun method =>
    upstreamResponseLatencyMsBucketLabels.map (latencyBucket downstream upstream method)
  upstreamResponseLatencyCount := metricTransports.map fun downstream => metricTransports.map fun upstream =>
    metricMethods.map (latencyCount downstream upstream)
  upstreamResponseLatencySum := metricTransports.map fun downstream => metricTransports.map fun upstream =>
    metricMethods.map (latencySum downstream upstream)

-- What is recorded, as the functions of the server are called.
inductive Record where
  | sipRequest (transport method : String)
  | forwardedRequest (downstream : String) (upstream : SipTransport) (method : Option String)
  | forwardError (downstream : String)
  | udpHandlerQueueDrop (listenerKey : String)
  | localResponse (transport : String) (code : Nat)
  | upstreamResponse (transport : String) (code : Nat)
  | upstreamResponseLatency (downstream : String) (upstream : SipTransport) (method : String) (elapsedMs : Nat)
  | affinityLookup (result : String)
  | securityDrop (listenerKey reason : String)
  deriving DecidableEq, Repr

-- A counter and what is added to it.
abbrev Increment := Series × Nat

def one (series : Series) : Increment := (series,1)

def cappedMs (elapsedMs : Nat) : Nat := min elapsedMs (2 ^ 64 - 1)

-- The increments by way of the names alone.
def Record.plain : Record → List Increment
  | .sipRequest transport method => [one (sipRequests transport method)]
  | .forwardedRequest downstream upstream method => [one (forwardedRequests downstream upstream.asStr (method.getD "UNKNOWN"))]
  | .forwardError downstream => [one (forwardErrors downstream)]
  | .udpHandlerQueueDrop listenerKey => [one (udpHandlerQueueDrops listenerKey)]
  | .localResponse transport code => [one (localResponses transport (toString code))]
  | .upstreamResponse transport code => [one (upstreamResponses transport (statusClass code))]
  | .upstreamResponseLatency downstream upstream method elapsedMs =>
    let elapsed := cappedMs elapsedMs
    (upstreamResponseLatencyMsBuckets.zip upstreamResponseLatencyMsBucketLabels).filterMap (fun (bucket,le) =>
      if elapsed ≤ bucket then some (one (latencyBucket downstream upstream.asStr method le)) else none) ++
    [one (latencyBucket downstream upstream.asStr method "+Inf"),one (latencyCount downstream upstream.asStr method),
      (latencySum downstream upstream.asStr method,elapsed)]
  | .affinityLookup result => [one (affinityLookups result)]
  | .securityDrop listenerKey reason => [one (securityDrops listenerKey reason)]

def at2 (rows : List (List Item)) (first second : Nat) : Option Item := rows[first]?.bind fun row => row[second]?

def at3 (rows : List (List (List Item))) (first second third : Nat) : Option Item := rows[first]?.bind fun row => at2 row second third

-- The increments as the server makes them; there are none where an index is out of bounds.
def ProxyMetricHandles.record (handles : ProxyMetricHandles) (record : Record) : Option (List Increment) :=
  match record with
  | .sipRequest transport method =>
    match metricTransportIndex transport,metricMethodIndex method with
    | some transport,some method => (at2 handles.sipRequests transport method).map fun handle => [one handle]
    | _,_ => some record.plain
  | .forwardedRequest downstream upstream method =>
    match metricTransportIndex downstream,metricMethodIndex (method.getD "UNKNOWN") with
    | some downstream,some method => do
      let upstream ← sipTransportMetricIndex upstream
      (at3 handles.forwardedRequests downstream upstream method).map fun handle => [one handle]
    | _,_ => some record.plain
  | .forwardError downstream =>
    match metricTransportIndex downstream with
    | some transport => handles.forwardErrors[transport]?.map fun handle => [one handle]
    | none => some record.plain
  | .udpHandlerQueueDrop listenerKey =>
    match handles.udpHandlerQueueDrops.lookup listenerKey with
    | some handle => some [one handle]
    | none => some record.plain
  | .localResponse transport code =>
    match metricTransportIndex transport,metricLocalResponseCodeIndex code with
    | some transport,some code => (at2 handles.localResponses transport code).map fun handle => [one handle]
    | _,_ => some record.plain
  | .upstreamResponse transport code =>
    match metricTransportIndex transport,metricStatusClassIndex (statusClass code) with
    | some transport,some status => (at2 handles.upstreamResponses transport status).map fun handle => [one handle]
    | _,_ => some record.plain
  | .upstreamResponseLatency downstream upstream method elapsedMs =>
    match metricTransportIndex downstream,metricMethodIndex method with
    | some downstream,some method => do
      let upstream ← sipTransportMetricIndex upstream
      let elapsed := cappedMs elapsedMs
      let buckets ← at3 handles.upstreamResponseLatencyBuckets downstream upstream method
      let within ← (upstreamResponseLatencyMsBuckets.zipIdx.filter fun (bucket,_) => elapsed ≤ bucket).mapM fun (_,index) => buckets[index]?
      let last ← buckets[upstreamResponseLatencyMsBucketLabels.length - 1]?
      let count ← at3 handles.upstreamResponseLatencyCount downstream upstream method
      let sum ← at3 handles.upstreamResponseLatencySum downstream upstream method
      some (within.map one ++ [one last,one count,(sum,elapsed)])
    | _,_ => some record.plain
  | .affinityLookup result =>
    match metricAffinityLookupResultIndex result with
    | some result => handles.affinityLookups[result]?.map fun handle => [one handle]
    | none => some record.plain
  | .securityDrop listenerKey reason =>
    match handles.securityDrops.lookup listenerKey,metricSecurityDropReasonIndex reason with
    | some reasons,some reason => reasons[reason]?.map fun handle => [one handle]
    | _,_ => some record.plain

-- The upstream of what is recorded has a concrete transport.
def Record.Concrete : Record → Prop
  | .forwardedRequest _ upstream _ | .upstreamResponseLatency _ upstream _ _ => upstream ≠ .tcpUdp
  | _ => True

end Handles

section Agreement

-- An index stands for the text that has its place in the table.
theorem metricTransportIndex_text (found : metricTransportIndex transport = some slot) : metricTransports[slot]? = some transport := by
  unfold metricTransportIndex at found
  split at found <;> cases found <;> rfl

theorem sipTransportMetricIndex_text (found : sipTransportMetricIndex upstream = some slot) : metricTransports[slot]? = some upstream.asStr := by
  cases upstream <;> cases found <;> rfl

theorem metricMethodIndex_text (found : metricMethodIndex method = some slot) : metricMethods[slot]? = some method := by
  unfold metricMethodIndex at found
  split at found <;> cases found <;> rfl

theorem metricStatusClassIndex_text (found : metricStatusClassIndex status = some slot) : metricStatusClasses[slot]? = some status := by
  unfold metricStatusClassIndex at found
  split at found <;> cases found <;> rfl

theorem metricLocalResponseCodeIndex_text (found : metricLocalResponseCodeIndex code = some slot) :
    metricLocalResponseCodeLabels[slot]? = some (toString code) := by
  unfold metricLocalResponseCodeIndex at found
  split at found <;> cases found <;> rfl

theorem metricAffinityLookupResultIndex_text (found : metricAffinityLookupResultIndex result = some slot) :
    metricAffinityLookupResults[slot]? = some result := by
  unfold metricAffinityLookupResultIndex at found
  split at found <;> cases found <;> rfl

theorem metricSecurityDropReasonIndex_text (found : metricSecurityDropReasonIndex reason = some slot) :
    metricSecurityDropReasons[slot]? = some reason := by
  unfold metricSecurityDropReasonIndex at found
  split at found <;> cases found <;> rfl

section Places
variable {First Second Third Item : Type} {firsts : List First} {seconds : List Second} {thirds : List Third}

theorem at2_map {f : First → Second → Item} {first second : Nat} (one : firsts[first]? = some x) (two : seconds[second]? = some y) :
    at2 (firsts.map fun x => seconds.map (f x)) first second = some (f x y) := by
  simp [at2,one,two]

theorem at3_map {f : First → Second → Third → Item} {first second third : Nat} (one : firsts[first]? = some x) (two : seconds[second]? = some y)
    (three : thirds[third]? = some z) : at3 (firsts.map fun x => seconds.map fun y => thirds.map (f x y)) first second third = some (f x y z) := by
  simp [at3,at2,one,two,three]

theorem lookup_keyed {keys : List String} {f : String → Item} (found : (Table.collect (keys.map fun key => (key,f key))).lookup key = some item) :
    item = f key := by
  rw [Table.lookup_collect] at found
  obtain ⟨pair,last,rfl⟩ := Option.map_eq_some_iff.mp found
  obtain ⟨same,member⟩ := Library.lastFor_some last
  obtain ⟨other,_,rfl⟩ := List.mem_map.mp member
  rw [← of_decide_eq_true same]

end Places

theorem within_from (f : String → Series) (elapsed : Nat) (bounds : List Nat) (labels : List String) (start : Nat) (enough : start + bounds.length ≤ labels.length) :
    (((bounds.zipIdx start).filter fun (bucket,_) => elapsed ≤ bucket).mapM fun (_,index) => (labels.map f)[index]?) =
    some ((bounds.zip (labels.drop start)).filterMap fun (bucket,le) => if elapsed ≤ bucket then some (f le) else none) := by
  induction bounds generalizing start with
  | nil => rfl
  | cons bound rest ih =>
      have within : start < labels.length := by
        simp only [List.length_cons] at enough
        omega
      have later := ih (start + 1) (by simp only [List.length_cons] at enough; omega)
      rw [List.zipIdx_cons,List.drop_eq_getElem_cons within,List.zip_cons_cons,List.filter_cons,List.filterMap_cons]
      by_cases early : elapsed ≤ bound
      · simp only [early,decide_true,if_true,List.mapM_cons,List.getElem?_map,List.getElem?_eq_getElem within,Option.map_some]
        simp only [List.getElem?_map] at later
        rw [later]
        rfl
      · simp only [early,decide_false,if_false,Bool.false_eq_true]
        exact later

theorem record_plain (listenerKeys : List String) {record : Record} (concrete : record.Concrete) :
    (ProxyMetricHandles.new listenerKeys).record record = some record.plain := by
  cases record with
  | sipRequest transport method =>
      simp only [ProxyMetricHandles.record]
      split
      · rename_i one two
        simp [ProxyMetricHandles.new,at2_map (metricTransportIndex_text one) (metricMethodIndex_text two),Record.plain]
      · rfl
  | forwardedRequest downstream upstream method =>
      simp only [ProxyMetricHandles.record]
      split
      · rename_i one two
        have three : ∃ slot, sipTransportMetricIndex upstream = some slot := by
          cases upstream with
          | udp => exact ⟨0,rfl⟩
          | tcp => exact ⟨1,rfl⟩
          | tcpUdp => exact absurd rfl concrete
        obtain ⟨slot,three⟩ := three
        simp [ProxyMetricHandles.new,three,
          at3_map (metricTransportIndex_text one) (sipTransportMetricIndex_text three) (metricMethodIndex_text two),Record.plain]
      · rfl
  | forwardError downstream =>
      simp only [ProxyMetricHandles.record]
      split
      · rename_i found
        simp [ProxyMetricHandles.new,metricTransportIndex_text found,Record.plain]
      · rfl
  | udpHandlerQueueDrop listenerKey =>
      simp only [ProxyMetricHandles.record]
      split
      · rename_i found
        rw [lookup_keyed found]
        rfl
      · rfl
  | localResponse transport code =>
      simp only [ProxyMetricHandles.record]
      split
      · rename_i one two
        simp [ProxyMetricHandles.new,at2_map (metricTransportIndex_text one) (metricLocalResponseCodeIndex_text two),Record.plain]
      · rfl
  | upstreamResponse transport code =>
      simp only [ProxyMetricHandles.record]
      split
      · rename_i one two
        simp [ProxyMetricHandles.new,at2_map (metricTransportIndex_text one) (metricStatusClassIndex_text two),Record.plain]
      · rfl
  | upstreamResponseLatency downstream upstream method elapsedMs =>
      simp only [ProxyMetricHandles.record]
      split
      · rename_i transportPlace methodPlace one two
        have three : ∃ slot, sipTransportMetricIndex upstream = some slot := by
          cases upstream with
          | udp => exact ⟨0,rfl⟩
          | tcp => exact ⟨1,rfl⟩
          | tcpUdp => exact absurd rfl concrete
        obtain ⟨slot,three⟩ := three
        have text := metricTransportIndex_text one
        have upstreamText := sipTransportMetricIndex_text three
        have methodText := metricMethodIndex_text two
        have within := within_from (latencyBucket downstream upstream.asStr method) (cappedMs elapsedMs) upstreamResponseLatencyMsBuckets
          upstreamResponseLatencyMsBucketLabels 0 (by decide)
        have buckets : at3 (ProxyMetricHandles.new listenerKeys).upstreamResponseLatencyBuckets transportPlace slot methodPlace =
            some (upstreamResponseLatencyMsBucketLabels.map (latencyBucket downstream upstream.asStr method)) := by
          simp [ProxyMetricHandles.new,at3_map text upstreamText methodText]
        have last : (upstreamResponseLatencyMsBucketLabels.map (latencyBucket downstream upstream.asStr method))[upstreamResponseLatencyMsBucketLabels.length - 1]? =
            some (latencyBucket downstream upstream.asStr method "+Inf") := rfl
        have count : at3 (ProxyMetricHandles.new listenerKeys).upstreamResponseLatencyCount transportPlace slot methodPlace =
            some (latencyCount downstream upstream.asStr method) := by
          simp [ProxyMetricHandles.new,at3_map text upstreamText methodText]
        have sum : at3 (ProxyMetricHandles.new listenerKeys).upstreamResponseLatencySum transportPlace slot methodPlace =
            some (latencySum downstream upstream.asStr method) := by
          simp [ProxyMetricHandles.new,at3_map text upstreamText methodText]
        simp only [three,Option.bind_eq_bind,Option.bind_some,buckets,within,last,count,sum]
        rw [Record.plain,List.map_filterMap,List.drop_zero]
        refine congrArg (fun front => some (front ++ _)) (List.filterMap_congr fun pair _ => ?_)
        obtain ⟨bucket,le⟩ := pair
        dsimp only
        split <;> rfl
      · rfl
  | affinityLookup result =>
      simp only [ProxyMetricHandles.record]
      split
      · rename_i found
        simp [ProxyMetricHandles.new,metricAffinityLookupResultIndex_text found,Record.plain]
      · rfl
  | securityDrop listenerKey reason =>
      simp only [ProxyMetricHandles.record]
      split
      · rename_i one two
        rw [lookup_keyed one]
        simp [metricSecurityDropReasonIndex_text two,Record.plain]
      · rfl

end Agreement

section Histogram

def added (done : List Increment) (series : Series) : Nat := ((done.filter (·.1 == series)).map Prod.snd).sum

-- The latencies that have been recorded of one kind of request.
def observed (downstream : String) (upstream : SipTransport) (method : String) (records : List Record) : List Nat :=
  records.filterMap fun record =>
    match record with
    | .upstreamResponseLatency other transport kind elapsedMs =>
      if other = downstream ∧ transport = upstream ∧ kind = method then some (cappedMs elapsedMs) else none
    | _ => none

theorem added_append (first second : List Increment) (series : Series) : added (first ++ second) series = added first series + added second series := by
  simp [added]

theorem added_cons (increment : Increment) (rest : List Increment) (series : Series) :
    added (increment :: rest) series = (if increment.1 = series then increment.2 else 0) + added rest series := by
  by_cases same : increment.1 = series <;> simp [added,same]

theorem added_perm (same : first.Perm second) (series : Series) : added first series = added second series :=
  ((same.filter _).map _).sum_nat

theorem added_none {done : List Increment} (other : ∀ increment ∈ done, increment.1 ≠ series) : added done series = 0 := by
  have empty : done.filter (·.1 == series) = [] := List.filter_eq_nil_iff.mpr fun increment member same => other increment member (beq_iff_eq.mp same)
  simp [added,empty]

theorem asStr_inj {first second : SipTransport} (same : first.asStr = second.asStr) : first = second := by
  cases first <;> cases second <;> first | rfl | simp [SipTransport.asStr] at same

-- One bucket of those that a latency falls into.
theorem added_buckets {f : String → Series} (apart : ∀ one other, f one = f other → one = other) (elapsed : Nat) {pairs : List (Nat × String)}
    (distinct : (pairs.map Prod.snd).Nodup) (member : pair ∈ pairs) :
    added (pairs.filterMap fun (bucket,le) => if elapsed ≤ bucket then some (one (f le)) else none) (f pair.2) = if elapsed ≤ pair.1 then 1 else 0 := by
  induction pairs with
  | nil => cases member
  | cons first rest ih =>
      obtain ⟨bound,label⟩ := first
      obtain ⟨fresh,distinct'⟩ := List.nodup_cons.mp distinct
      have others (absent : pair.2 ∉ rest.map Prod.snd) :
          added (rest.filterMap fun (bucket,le) => if elapsed ≤ bucket then some (one (f le)) else none) (f pair.2) = 0 := by
        refine added_none fun increment listed same => ?_
        obtain ⟨⟨bucket,le⟩,known,given⟩ := List.mem_filterMap.mp listed
        dsimp only at given
        split at given
        · cases given
          exact absent (List.mem_map.mpr ⟨_,known,apart _ _ same⟩)
        · cases given
      rw [List.filterMap_cons]
      rcases List.mem_cons.mp member with rfl | later
      · have none := others fresh
        by_cases early : elapsed ≤ bound
        · simp only [early,if_true,added_cons,none]
          simp [one]
        · simp only [early,if_false]
          exact none
      · have different : f label ≠ f pair.2 := fun same => fresh (List.mem_map.mpr ⟨pair,later,(apart _ _ same).symm⟩)
        by_cases early : elapsed ≤ bound
        · simp only [early,if_true,added_cons,ih distinct' later]
          simp [one,different]
        · simp only [early,if_false]
          exact ih distinct' later

theorem latencyBucket_inj {downstream upstream method le downstream' upstream' method' le' : String}
    (same : latencyBucket downstream upstream method le = latencyBucket downstream' upstream' method' le') :
    downstream = downstream' ∧ upstream = upstream' ∧ method = method' ∧ le = le' := by
  simpa [latencyBucket] using same

-- Only a latency shows in the series of latencies.
theorem added_other {record : Record} (other : ∀ downstream upstream method elapsedMs, record ≠ .upstreamResponseLatency downstream upstream method elapsedMs)
    (downstream upstream method le : String) : added record.plain (latencyBucket downstream upstream method le) = 0 ∧
      added record.plain (latencyCount downstream upstream method) = 0 ∧ added record.plain (latencySum downstream upstream method) = 0 := by
  cases record with
  | upstreamResponseLatency downstream upstream method elapsedMs => exact absurd rfl (other downstream upstream method elapsedMs)
  | sipRequest | forwardedRequest | forwardError | udpHandlerQueueDrop | localResponse | upstreamResponse | affinityLookup | securityDrop =>
      refine ⟨added_none fun increment member same => ?_,added_none fun increment member same => ?_,added_none fun increment member same => ?_⟩
      all_goals
        cases List.mem_singleton.mp member
        exact absurd (Prod.mk.inj same).1 (by decide)

-- What the latencies of one kind make of their counters.
structure Tallied (done : List Increment) (downstream upstream method : String) (latencies : List Nat) : Prop where
  buckets : ∀ pair ∈ upstreamResponseLatencyMsBuckets.zip upstreamResponseLatencyMsBucketLabels,
    added done (latencyBucket downstream upstream method pair.2) = latencies.countP fun latency => latency ≤ pair.1
  last : added done (latencyBucket downstream upstream method "+Inf") = latencies.length
  count : added done (latencyCount downstream upstream method) = latencies.length
  sum : added done (latencySum downstream upstream method) = latencies.sum

theorem Tallied.append (first : Tallied done downstream upstream method latencies) (second : Tallied done' downstream upstream method latencies') :
    Tallied (done ++ done') downstream upstream method (latencies ++ latencies') where
  buckets pair member := by rw [added_append,first.buckets pair member,second.buckets pair member,List.countP_append]
  last := by rw [added_append,first.last,second.last,List.length_append]
  count := by rw [added_append,first.count,second.count,List.length_append]
  sum := by rw [added_append,first.sum,second.sum,List.sum_append]

theorem latency_series (listed : increment ∈ (Record.upstreamResponseLatency downstream upstream method elapsedMs).plain) :
    (∃ le, increment.1 = latencyBucket downstream upstream.asStr method le) ∨ increment.1 = latencyCount downstream upstream.asStr method ∨
      increment.1 = latencySum downstream upstream.asStr method := by
  rcases List.mem_append.mp listed with bucket | behind
  · obtain ⟨⟨bound,le⟩,_,given⟩ := List.mem_filterMap.mp bucket
    dsimp only at given
    split at given
    · cases given
      exact .inl ⟨le,rfl⟩
    · cases given
  · simp only [List.mem_cons,List.not_mem_nil,or_false] at behind
    rcases behind with rfl | rfl | rfl
    · exact .inl ⟨"+Inf",rfl⟩
    · exact .inr (.inl rfl)
    · exact .inr (.inr rfl)

theorem finite_labels : ∀ pair ∈ upstreamResponseLatencyMsBuckets.zip upstreamResponseLatencyMsBucketLabels, pair.2 ≠ "+Inf" := by decide

theorem tallied_latency (downstream : String) (upstream : SipTransport) (method : String) (elapsedMs : Nat) :
    Tallied (Record.upstreamResponseLatency downstream upstream method elapsedMs).plain downstream upstream.asStr method [cappedMs elapsedMs] := by
  have inside {le : String} (increment : Increment) (listed : increment ∈ (upstreamResponseLatencyMsBuckets.zip upstreamResponseLatencyMsBucketLabels).filterMap
      fun (bucket,le) => if cappedMs elapsedMs ≤ bucket then some (one (latencyBucket downstream upstream.asStr method le)) else none)
      (same : increment.1 = latencyBucket downstream upstream.asStr method le) : le ≠ "+Inf" := by
    obtain ⟨⟨bound,label⟩,known,given⟩ := List.mem_filterMap.mp listed
    dsimp only at given
    split at given
    · cases given
      exact (latencyBucket_inj same).2.2.2 ▸ finite_labels _ known
    · cases given
  have named (increment : Increment) (listed : increment ∈ (upstreamResponseLatencyMsBuckets.zip upstreamResponseLatencyMsBucketLabels).filterMap
      fun (bucket,le) => if cappedMs elapsedMs ≤ bucket then some (one (latencyBucket downstream upstream.asStr method le)) else none) :
      increment.1.1 = "proxy_upstream_response_latency_ms_bucket" := by
    obtain ⟨⟨bound,label⟩,known,given⟩ := List.mem_filterMap.mp listed
    dsimp only at given
    split at given <;> cases given
    rfl
  have elsewhere {series : Series} (other : series.1 ≠ "proxy_upstream_response_latency_ms_bucket") :
      added ((upstreamResponseLatencyMsBuckets.zip upstreamResponseLatencyMsBucketLabels).filterMap fun (bucket,le) =>
        if cappedMs elapsedMs ≤ bucket then some (one (latencyBucket downstream upstream.asStr method le)) else none) series = 0 :=
    added_none fun increment listed same => other ((congrArg Prod.fst same).symm.trans (named increment listed))
  refine ⟨fun pair member => ?_,?_,?_,?_⟩
  · rw [Record.plain,added_append,added_buckets (fun one other same => (latencyBucket_inj same).2.2.2) _ (by decide) member]
    have finite := finite_labels pair member
    rw [added_none fun increment listed same => ?_]
    · simp [List.countP_cons]
    · simp only [List.mem_cons,List.not_mem_nil,or_false] at listed
      rcases listed with rfl | rfl | rfl
      · exact finite (latencyBucket_inj same).2.2.2.symm
      · exact absurd (Prod.mk.inj same).1 (by decide)
      · exact absurd (Prod.mk.inj same).1 (by decide)
  · rw [Record.plain,added_append,added_none fun increment listed same => inside increment listed same rfl]
    simp [one,latencyBucket,latencyCount,latencySum,added]
  · rw [Record.plain,added_append,elsewhere (show "proxy_upstream_response_latency_ms_count" ≠ _ by decide)]
    simp [one,latencyBucket,latencyCount,latencySum,added]
  · rw [Record.plain,added_append,elsewhere (show "proxy_upstream_response_latency_ms_sum" ≠ _ by decide)]
    simp [one,latencyBucket,latencyCount,latencySum,added]

theorem tallied_record (record : Record) (downstream : String) (upstream : SipTransport) (method : String) :
    Tallied record.plain downstream upstream.asStr method (observed downstream upstream method [record]) := by
  by_cases latency : ∃ elapsedMs, record = .upstreamResponseLatency downstream upstream method elapsedMs
  · obtain ⟨elapsedMs,rfl⟩ := latency
    have own : observed downstream upstream method [.upstreamResponseLatency downstream upstream method elapsedMs] = [cappedMs elapsedMs] := by
      simp [observed]
    rw [own]
    exact tallied_latency downstream upstream method elapsedMs
  · have none : observed downstream upstream method [record] = [] ∧ (∀ le, added record.plain (latencyBucket downstream upstream.asStr method le) = 0) ∧
        added record.plain (latencyCount downstream upstream.asStr method) = 0 ∧ added record.plain (latencySum downstream upstream.asStr method) = 0 := by
      cases record with
      | upstreamResponseLatency other transport kind elapsedMs =>
          have apart : ¬ (other = downstream ∧ transport = upstream ∧ kind = method) := by
            intro same
            obtain ⟨rfl,rfl,rfl⟩ := same
            exact latency ⟨elapsedMs,rfl⟩
          have apart' : ¬ (other = downstream ∧ transport.asStr = upstream.asStr ∧ kind = method) := fun same => apart ⟨same.1,asStr_inj same.2.1,same.2.2⟩
          refine ⟨by simp [observed,apart],fun le => added_none fun increment listed same => ?_,added_none fun increment listed same => ?_,
            added_none fun increment listed same => ?_⟩
          all_goals
            rcases latency_series listed with ⟨le',alike⟩ | alike | alike <;> rw [alike] at same
          · obtain ⟨one,two,three,_⟩ := latencyBucket_inj same
            exact apart' ⟨one,two,three⟩
          all_goals simp [latencyBucket,latencyCount,latencySum] at same
          all_goals exact apart' same
      | sipRequest | forwardedRequest | forwardError | udpHandlerQueueDrop | localResponse | upstreamResponse | affinityLookup | securityDrop =>
          refine ⟨rfl,fun le => (added_other (by simp) downstream upstream.asStr method le).1,
            (added_other (by simp) downstream upstream.asStr method "").2.1,(added_other (by simp) downstream upstream.asStr method "").2.2⟩
    obtain ⟨nothing,buckets,count,sum⟩ := none
    rw [nothing]
    exact ⟨fun pair member => buckets pair.2,buckets "+Inf",count,sum⟩

theorem tallied_records (records : List Record) (downstream : String) (upstream : SipTransport) (method : String) :
    Tallied (records.flatMap Record.plain) downstream upstream.asStr method (observed downstream upstream method records) := by
  induction records with
  | nil => exact ⟨fun _ _ => rfl,rfl,rfl,rfl⟩
  | cons record rest ih =>
      have parts : observed downstream upstream method (record :: rest) = observed downstream upstream method [record] ++
          observed downstream upstream method rest := by
        simp only [observed,← List.filterMap_append,List.singleton_append]
      rw [List.flatMap_cons,parts]
      exact (tallied_record record downstream upstream method).append ih

theorem record_some (listenerKeys : List String) {record : Record} (recorded : (ProxyMetricHandles.new listenerKeys).record record = some part) :
    part = record.plain := by
  by_cases concrete : record.Concrete
  · exact Option.some.inj (recorded.symm.trans (record_plain listenerKeys concrete))
  · cases record with
    | forwardedRequest downstream upstream method =>
        cases not_not.mp concrete
        simp only [ProxyMetricHandles.record] at recorded
        split at recorded
        · cases recorded
        · exact (Option.some.inj recorded).symm
    | upstreamResponseLatency downstream upstream method elapsedMs =>
        cases not_not.mp concrete
        simp only [ProxyMetricHandles.record] at recorded
        split at recorded
        · cases recorded
        · exact (Option.some.inj recorded).symm
    | sipRequest | forwardError | udpHandlerQueueDrop | localResponse | upstreamResponse | affinityLookup | securityDrop =>
        exact absurd trivial concrete

end Histogram

section Shown
variable {hash : String → Nat} {metrics : ProxyMetrics}

-- The counters that are made in advance are the ones that would be looked up.
theorem prepared_handles_agree (listenerKeys : List String) (records : List Record) (concrete : ∀ record ∈ records, record.Concrete) :
    records.mapM (ProxyMetricHandles.new listenerKeys).record = some (records.map Record.plain) := by
  induction records with
  | nil => rfl
  | cons record rest ih =>
      obtain ⟨here,later⟩ := List.forall_mem_cons.mp concrete
      rw [List.mapM_cons,record_plain listenerKeys here,ih later]
      rfl

def dropped : Record := .securityDrop "udp/10.0.0.1:5060" "parse-error"

def slow : Record := .upstreamResponseLatency "udp" .tcp "INVITE" 40000

theorem slow_handles_agree : [slow,dropped].mapM (ProxyMetricHandles.new ["udp/10.0.0.1:5060"]).record = some [slow.plain,dropped.plain] :=
  prepared_handles_agree ["udp/10.0.0.1:5060"] [slow,dropped] (by simp [slow,dropped,Record.Concrete])

def Shows (metrics : ProxyMetrics) (series : Series) (value : Nat) : Prop :=
  ∀ shown, ⟨series.1,series.2,shown⟩ ∈ metrics.samples ↔ 0 < shown ∧ shown = value % 2 ^ 64

-- However the increments of all that is recorded interleave, a bucket shows how many of the
-- latencies were no higher than its bound, and the sum what they add up to.
theorem latency_histogram (ran : Machine.run (ProxyMetrics.advance hash) .default actions = some metrics)
    (plain : ∀ task ∈ metrics.tasks, Plain task.asked) (recorded : records.mapM (ProxyMetricHandles.new listenerKeys).record = some parts)
    (interleaved : (actions.filterMap (credit metrics)).Perm parts.flatten) (downstream : String) (upstream : SipTransport) (method : String) :
    (∀ pair ∈ upstreamResponseLatencyMsBuckets.zip upstreamResponseLatencyMsBucketLabels,
      Shows metrics (latencyBucket downstream upstream.asStr method pair.2)
        ((observed downstream upstream method records).countP fun latency => latency ≤ pair.1)) ∧
    Shows metrics (latencyBucket downstream upstream.asStr method "+Inf") (observed downstream upstream method records).length ∧
    Shows metrics (latencyCount downstream upstream.asStr method) (observed downstream upstream method records).length ∧
    Shows metrics (latencySum downstream upstream.asStr method) (observed downstream upstream method records).sum := by
  obtain ⟨sound,known⟩ := run_sound ran
  have whole : parts = records.map Record.plain := by
    clear interleaved
    induction records generalizing parts with
    | nil =>
        cases recorded
        rfl
    | cons record rest ih =>
        rw [List.mapM_cons] at recorded
        obtain ⟨part,here,later⟩ := Option.bind_eq_some_iff.mp recorded
        obtain ⟨others,rested,same⟩ := Option.bind_eq_some_iff.mp later
        cases same
        rw [List.map_cons,record_some listenerKeys here,ih rested]
  rw [whole,← List.flatMap_def] at interleaved
  have tallied := tallied_records records downstream upstream method
  have shows {series : Series} {value : Nat} (tally : added (records.flatMap Record.plain) series = value) : Shows metrics series value := by
    intro shown
    rw [samples_total sound known plain,← tally,← added_perm interleaved]
    rfl
  exact ⟨fun pair member => shows (tallied.buckets pair member),shows tallied.last,shows tallied.count,shows tallied.sum⟩

-- A latency beyond every bound, with its increments out of order.
def counted : List Action :=
  [.ask "proxy_upstream_response_latency_ms_sum" (latencySum "udp" "tcp" "INVITE").2,.read 0,.insert 0,.incrBy 0 40000,
    .ask "proxy_upstream_response_latency_ms_bucket" (latencyBucket "udp" "tcp" "INVITE" "+Inf").2,.read 1,.insert 1,
    .ask "proxy_upstream_response_latency_ms_count" (latencyCount "udp" "tcp" "INVITE").2,.read 2,.insert 2,.incrBy 2 1,.incrBy 1 1]

theorem slow_counted : ∃ metrics, Machine.run (ProxyMetrics.advance fun _ => 0) .default counted = some metrics ∧
    Shows metrics (latencyBucket "udp" "tcp" "INVITE" "30000") 0 ∧ Shows metrics (latencySum "udp" "tcp" "INVITE") 40000 := by
  have reached : (Machine.run (ProxyMetrics.advance fun _ => 0) .default counted).map (fun metrics => (metrics.tasks.map Task.asked,
      counted.filterMap (credit metrics))) = some ([latencySum "udp" "tcp" "INVITE",latencyBucket "udp" "tcp" "INVITE" "+Inf",
        latencyCount "udp" "tcp" "INVITE"],[(latencySum "udp" "tcp" "INVITE",40000),one (latencyCount "udp" "tcp" "INVITE"),
        one (latencyBucket "udp" "tcp" "INVITE" "+Inf")]) := rfl
  obtain ⟨metrics,ran,both⟩ := Option.map_eq_some_iff.mp reached
  obtain ⟨asked,credited⟩ := Prod.mk.inj both
  have texts : ∀ series ∈ [latencySum "udp" "tcp" "INVITE",latencyBucket "udp" "tcp" "INVITE" "+Inf",latencyCount "udp" "tcp" "INVITE"],
      '|' ∉ series.1.toList ∧ ∀ label ∈ series.2, '|' ∉ label.1.toList ∧ '=' ∉ label.1.toList ∧ '|' ∉ label.2.toList := by decide +kernel
  have plain : ∀ task ∈ metrics.tasks, Plain task.asked := by
    intro task member
    have listed := List.mem_map_of_mem (f := Task.asked) member
    rw [asked] at listed
    obtain ⟨name,labels⟩ := texts task.asked listed
    exact ⟨name,labels⟩
  have recorded : [slow].mapM (ProxyMetricHandles.new []).record = some [slow.plain] := rfl
  have parts : slow.plain = [one (latencyBucket "udp" "tcp" "INVITE" "+Inf"),one (latencyCount "udp" "tcp" "INVITE"),
      (latencySum "udp" "tcp" "INVITE",40000)] := by decide +kernel
  have interleaved : (counted.filterMap (credit metrics)).Perm [slow.plain].flatten := by
    rw [credited,parts,List.flatten_singleton]
    exact (List.reverse_perm _).symm
  obtain ⟨buckets,_,_,sum⟩ := latency_histogram ran plain recorded interleaved "udp" .tcp "INVITE"
  refine ⟨metrics,ran,?_,?_⟩
  · simpa [observed,slow,cappedMs,SipTransport.asStr] using buckets (30000,"30000") (by decide)
  · simpa [observed,slow,cappedMs,SipTransport.asStr] using sum

end Shown

end Sigproxy.Proxy.Metrics
