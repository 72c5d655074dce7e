import Sigproxy.Security.GeoFetch
import Sigproxy.Xdp.ThreatPrefixes

namespace Sigproxy.Xdp.ThreatFeeds
open Library Net Proxy Security

section Parsing

inductive ProxyThreatIntelFormat where
  | cidr
  | ips
  | ipsum
  | spamhausDrop
  deriving DecidableEq, Repr

structure EffectiveProxyThreatIntelSourceConfig where
  name : String
  url : String
  format : ProxyThreatIntelFormat
  minScore : Option Nat
  deriving DecidableEq, Repr

-- A JSON value; the keys of an object are distinct.
inductive Value where
  | null
  | bool (value : Bool)
  | number (text : String)
  | string (text : String)
  | array (items : List Value)
  | object (map : List (String × Value))

def trimMatches (char : Char) (text : String) : String :=
  .ofList (((text.toList.dropWhile (· == char)).reverse.dropWhile (· == char)).reverse)

def splitWhitespace (text : String) : List String :=
  ((text.toList.splitOnP isWhiteSpace).filter fun word => !word.isEmpty).map .ofList

-- `parse::<u32>`.
def parseU32 (text : String) : Option Nat :=
  let digits := match text.toList with
    | '+' :: rest => rest
    | all => all
  let value := Nat.ofDigitChars 10 digits 0
  if digits.isEmpty || !digits.all Char.isDigit || decide (2 ^ 32 ≤ value) then none else some value

def validatePrefix (addr : IpAddr) (prefixLen : Nat) : Except String ThreatIpPrefix :=
  if bounded : prefixLen ≤ addr.width then .ok ⟨addr,prefixLen,bounded⟩
  else match addr with
    | .v4 _ => .error ("IPv4 prefix length " ++ Nat.repr prefixLen ++ " exceeds 32")
    | .v6 _ => .error ("IPv6 prefix length " ++ Nat.repr prefixLen ++ " exceeds 128")

def stripComment (line : String) : String :=
  trim (.ofList (line.toList.takeWhile fun char => !(char == '#' || char == ';')))

-- How the standard library reads an address, and serde_json a document.
variable (parseIp : String → Except String IpAddr) (fromStr : String → Option Value)

def parsePrefix (token : String) : Except String (Option ThreatIpPrefix) :=
  let token := trimMatches '"' (trimMatches ',' (trim token))
  if token.isEmpty then .ok none
  else match splitOnce '/' token with
    | some (addr,prefixLen) => do
      let addr ← parseIp addr
      let prefixLen ← parseU8 prefixLen
      return some (← validatePrefix addr prefixLen)
    | none => do
      let addr ← parseIp token
      return some ⟨addr,addr.width,Nat.le_refl _⟩

def firstPrefixToken (line : String) : Option String :=
  (splitWhitespace (stripComment line)).find? fun token => (parseIp token).isOk || token.toList.contains '/'

-- One pass over the lines; a line may be passed over, and one that cannot be read ends it.
def collectLines (token : String → Option String) : List String → List ThreatIpPrefix → Except String (List ThreatIpPrefix)
  | [],prefixes => .ok prefixes
  | line :: rest,prefixes =>
    match token line with
    | none => collectLines token rest prefixes
    | some found => do
      match ← parsePrefix parseIp found with
      | some cidr => collectLines token rest (prefixes ++ [cidr])
      | none => collectLines token rest prefixes

def parseLinePrefixes (body : String) : Except String (List ThreatIpPrefix) :=
  collectLines parseIp (firstPrefixToken parseIp) (lines body) []

def scoredToken (minScore : Nat) (line : String) : Option String :=
  match splitWhitespace (stripComment line) with
  | [] => none
  | ip :: rest =>
    let score := (rest.head?.bind parseU32).getD 1
    if score < minScore then none else some ip

def parseIpsum (body : String) (minScore : Nat) : Except String (List ThreatIpPrefix) :=
  collectLines parseIp (scoredToken minScore) (lines body) []

-- A `cidr` that is no text hides the `prefix` beside it.
def objectCidr (map : List (String × Value)) : Option String :=
  match (map.lookup "cidr").or (map.lookup "prefix") with
  | some (.string cidr) => some cidr
  | _ => none

mutual
def collectJsonCidrs : Value → List ThreatIpPrefix → Except String (List ThreatIpPrefix)
  | .array items,prefixes => collectItems items prefixes
  | .object map,prefixes =>
    match objectCidr map with
    | none => .ok prefixes
    | some cidr => (parsePrefix parseIp cidr).map fun found => prefixes ++ found.toList
  | _,prefixes => .ok prefixes

def collectItems : List Value → List ThreatIpPrefix → Except String (List ThreatIpPrefix)
  | [],prefixes => .ok prefixes
  | item :: rest,prefixes =>
    match collectJsonCidrs item prefixes with
    | .ok prefixes => collectItems rest prefixes
    | .error error => .error error
end

def parseSpamhausDrop (body : String) : Except String (List ThreatIpPrefix) :=
  match fromStr body with
  | none => parseLinePrefixes parseIp body
  | some value =>
    match collectJsonCidrs parseIp value [] with
    | .error error => .error error
    | .ok [] => parseLinePrefixes parseIp body
    | .ok prefixes => .ok prefixes

def parseThreatFeed (feed : EffectiveProxyThreatIntelSourceConfig) (body : String) : Except String (List ThreatIpPrefix) :=
  (match feed.format with
    | .cidr | .ips => parseLinePrefixes parseIp body
    | .ipsum => parseIpsum parseIp body (feed.minScore.getD 1)
    | .spamhausDrop => parseSpamhausDrop parseIp fromStr body).mapError
      fun error => "failed to parse threat intel source " ++ feed.name ++ ": " ++ error

end Parsing

section Fetching

-- A body that breaks off is not asked for again.
def settles : HttpAttempt → Bool
  | .sendFails _ | .status _ => false
  | .bodyFails _ | .body _ => true

inductive Joined where
  | aborted (error : String)
  | failed (error : String)
  | fetched (feed : EffectiveProxyThreatIntelSourceConfig) (body : String)

-- The task of one feed, with what the requests of it come to.
def spawnThreatFetch (retries : Nat) (feed : EffectiveProxyThreatIntelSourceConfig) (attempts : Nat → HttpAttempt) : Joined :=
  match Retrying.retry settles HttpAttempt.outcome attempts (Retrying.numbers (max retries 1)) none with
  | .ok body => .fetched feed body
  | .error error => .failed error

def threatFetchConcurrency : Nat := 8

structure Fetch where
  prefixes : List ThreatIpPrefix
  loadedSources : Nat
  skippedSources : Nat

variable (parseIp : String → Except String IpAddr) (fromStr : String → Option Value)

def absorb (allowPartial : Bool) (fetch : Fetch) : Joined → Except String Fetch
  | .aborted error => .error ("threat intel fetch task failed: " ++ error)
  | .failed error => if allowPartial then .ok {fetch with skippedSources:=fetch.skippedSources + 1} else .error error
  | .fetched feed body =>
    match parseThreatFeed parseIp fromStr feed body with
    | .ok parsed => .ok {fetch with prefixes:=fetch.prefixes ++ parsed,loadedSources:=fetch.loadedSources + 1}
    | .error error => if allowPartial then .ok {fetch with skippedSources:=fetch.skippedSources + 1} else .error error

def finish (now : Nat) (fetch : Fetch) : Except String ThreatSnapshot :=
  if fetch.loadedSources = 0 ∧ 0 < fetch.skippedSources then .error "all threat intel sources failed"
  else .ok (buildSnapshot now fetch.prefixes)

-- `schedule` says which of the running tasks ends next.
def fetchThreatSnapshot (allowPartial : Bool) (now : Nat) (sources : List Joined) (schedule : List Nat) : Option (Except String ThreatSnapshot) :=
  (JoinWindow.collect (absorb parseIp fromStr allowPartial) (JoinWindow.start threatFetchConcurrency sources) ⟨[],0,0⟩ schedule).map
    fun fetch => fetch.bind (finish now)

end Fetching

section Requests

theorem unsettled {attempt : HttpAttempt} (vain : settles attempt = false) : ∃ error, attempt.outcome = .error error := by
  cases attempt with
  | sendFails error | status error => exact ⟨error,rfl⟩
  | bodyFails error | body text => cases vain

theorem threat_fetched_iff (retries : Nat) (feed : EffectiveProxyThreatIntelSourceConfig) (attempts : Nat → HttpAttempt) (body : String) :
    spawnThreatFetch retries feed attempts = .fetched feed body ↔
    ∃ number, 1 ≤ number ∧ number ≤ max retries 1 ∧ attempts number = .body body ∧
      ∀ earlier, 1 ≤ earlier → earlier < number → settles (attempts earlier) = false := by
  have fetched := Retrying.retry_ok (fun (attempt : HttpAttempt) (vain : settles attempt = false) => unsettled vain) attempts retries body
  simp only [HttpAttempt.outcome_ok] at fetched
  rw [← fetched,spawnThreatFetch]
  split <;> rename_i ended <;> simp [ended]

-- Of the two siblings the one for countries asks again where a body has broken off: it gets
-- what the other one gets, and more only where that has happened.
theorem country_fetch_persists (retries : Nat) (feed : EffectiveProxyThreatIntelSourceConfig) (country : String) (attempts : Nat → HttpAttempt)
    (body : String) : spawnThreatFetch retries feed attempts = .fetched feed body ↔
    spawnGeoFetch retries country attempts = .fetched country body ∧
      ∀ number error, 1 ≤ number → attempts number = .bodyFails error →
        ∃ earlier, 1 ≤ earlier ∧ earlier < number ∧ (attempts earlier).isBody = true := by
  rw [threat_fetched_iff,geo_fetched_iff]
  constructor
  · intro given
    obtain ⟨number,above,below,found,vain⟩ := given
    refine ⟨⟨number,above,below,found,fun earlier low high => ?_⟩,fun other error low broken => ⟨number,above,?_,by simp [found,HttpAttempt.isBody]⟩⟩
    · have unsettled := vain earlier low high
      cases attempt : attempts earlier <;> simp [attempt,settles] at unsettled <;> rfl
    · rcases Nat.lt_trichotomy number other with before | same | after
      · exact before
      · cases found.symm.trans (same ▸ broken)
      · have unsettled := vain other low after
        simp [broken,settles] at unsettled
  · intro both
    obtain ⟨⟨number,above,below,found,vain⟩,broken⟩ := both
    refine ⟨number,above,below,found,fun earlier low high => ?_⟩
    have early := vain earlier low high
    cases attempt : attempts earlier with
    | sendFails error | status error => rfl
    | body text => simp [attempt,HttpAttempt.isBody] at early
    | bodyFails error =>
        obtain ⟨other,positive,before,whole⟩ := broken earlier error low attempt
        cases (vain other positive (before.trans high)).symm.trans whole

end Requests

section Scores
variable {parseIp : String → Except String IpAddr}

-- Passing over more of the lines takes prefixes away and adds none.
theorem collectLines_fewer {token fewer : String → Option String} (passes : ∀ line, fewer line = none ∨ fewer line = token line)
    {texts : List String} {prefixes left : List ThreatIpPrefix} (sub : left.Sublist prefixes) (collected : collectLines parseIp token texts prefixes = .ok all) :
    ∃ some_of, collectLines parseIp fewer texts left = .ok some_of ∧ some_of.Sublist all := by
  induction texts generalizing prefixes left with
  | nil =>
      cases collected
      exact ⟨left,rfl,sub⟩
  | cons line rest ih =>
      rw [collectLines] at collected
      have skipped (more : List ThreatIpPrefix) (wider : prefixes.Sublist more) (later : collectLines parseIp token rest more = .ok all)
          (absent : fewer line = none) : ∃ some_of, collectLines parseIp fewer (line :: rest) left = .ok some_of ∧ some_of.Sublist all := by
        rw [collectLines,absent]
        exact ih (sub.trans wider) later
      cases found : token line with
      | none =>
          rw [found] at collected
          have absent : fewer line = none := (passes line).elim id fun same => same.trans found
          exact skipped prefixes (.refl _) collected absent
      | some text =>
          rw [found] at collected
          obtain ⟨part,parsed,later⟩ := bind_ok.mp collected
          cases part with
          | some cidr =>
              rcases passes line with absent | same
              · exact skipped _ (List.sublist_append_left ..) later absent
              · obtain ⟨some_of,gathered,within⟩ := ih (sub.append_right [cidr]) later
                exact ⟨some_of,by rw [collectLines,same,found]; exact bind_ok.mpr ⟨_,parsed,gathered⟩,within⟩
          | none =>
              rcases passes line with absent | same
              · exact skipped _ (.refl _) later absent
              · obtain ⟨some_of,gathered,within⟩ := ih sub later
                exact ⟨some_of,by rw [collectLines,same,found]; exact bind_ok.mpr ⟨_,parsed,gathered⟩,within⟩

-- A feed that is read with some least score is read with every higher one.
theorem min_score_monotone (higher : low ≤ high) (parsed : parseIpsum parseIp body low = .ok all) :
    ∃ some_of, parseIpsum parseIp body high = .ok some_of ∧ some_of.Sublist all := by
  refine collectLines_fewer (fun line => ?_) (.refl []) parsed
  unfold scoredToken
  split
  · exact .inl rfl
  · dsimp only
    split
    · exact .inl rfl
    · rename_i passes
      rw [if_neg (by omega)]
      exact .inr rfl

theorem private16_fits : 16 ≤ (IpAddr.v4 0xC0A80000).width := by decide

def private16 : ThreatIpPrefix := ⟨.v4 0xC0A80000,16,private16_fits⟩

def scoredList : String := "# list\n192.168.0.0/16 3\n193.0.0.0 1"

theorem scored_list_monotone : parseIpsum readAddr scoredList 1 = .ok [private16,⟨.v4 0xC1000000,32,by decide⟩] ∧
    ∃ some_of, parseIpsum readAddr scoredList 2 = .ok some_of ∧ some_of.Sublist [private16,⟨.v4 0xC1000000,32,by decide⟩] := by
  have parsed : parseIpsum readAddr scoredList 1 = .ok [private16,⟨.v4 0xC1000000,32,by decide⟩] := by decide +kernel
  exact ⟨parsed,min_score_monotone (by decide) parsed⟩

end Scores

section Orders
variable {parseIp : String → Except String IpAddr} {fromStr : String → Option Value} {sources : List Joined}

-- What a feed adds to the snapshot, where it was fetched and parsed.
def loads (parseIp : String → Except String IpAddr) (fromStr : String → Option Value) : Joined → Option (List ThreatIpPrefix)
  | .fetched feed body => (parseThreatFeed parseIp fromStr feed body).toOption
  | _ => none

def isAborted : Joined → Bool
  | .aborted _ => true
  | _ => false

def verdict (parseIp : String → Except String IpAddr) (fromStr : String → Option Value) (allowPartial : Bool) :
    Joined → Except String (Option (List ThreatIpPrefix))
  | .aborted error => .error ("threat intel fetch task failed: " ++ error)
  | .failed error => if allowPartial then .ok none else .error error
  | .fetched feed body =>
    match parseThreatFeed parseIp fromStr feed body with
    | .ok parsed => .ok (some parsed)
    | .error error => if allowPartial then .ok none else .error error

def merge (fetch : Fetch) : Option (List ThreatIpPrefix) → Fetch
  | some parsed => {fetch with prefixes:=fetch.prefixes ++ parsed,loadedSources:=fetch.loadedSources + 1}
  | none => {fetch with skippedSources:=fetch.skippedSources + 1}

theorem absorb_verdict (allowPartial : Bool) (fetch : Fetch) (source : Joined) :
    absorb parseIp fromStr allowPartial fetch source = (verdict parseIp fromStr allowPartial source).map (merge fetch) := by
  cases source with
  | aborted error => rfl
  | failed error => cases allowPartial <;> rfl
  | fetched feed body =>
      simp only [absorb,verdict]
      cases parseThreatFeed parseIp fromStr feed body with
      | ok parsed => rfl
      | error error => cases allowPartial <;> rfl

theorem verdict_ok (allowPartial : Bool) (source : Joined) (part : Option (List ThreatIpPrefix)) :
    verdict parseIp fromStr allowPartial source = .ok part ↔
      isAborted source = false ∧ (allowPartial = false → (loads parseIp fromStr source).isSome) ∧ part = loads parseIp fromStr source := by
  cases source with
  | aborted error => simp [verdict,isAborted]
  | failed error => cases allowPartial <;> simp [verdict,isAborted,loads,eq_comm]
  | fetched feed body =>
      cases parsed : parseThreatFeed parseIp fromStr feed body with
      | ok parsed => simp [verdict,isAborted,loads,parsed,Except.toOption,eq_comm]
      | error error => cases allowPartial <;> simp [verdict,isAborted,loads,parsed,Except.toOption,eq_comm]

theorem merged (parts : List (Option (List ThreatIpPrefix))) (fetch : Fetch) : parts.foldl merge fetch =
    ⟨fetch.prefixes ++ parts.flatMap (·.getD []),fetch.loadedSources + parts.countP (·.isSome),fetch.skippedSources + parts.countP (·.isNone)⟩ := by
  induction parts generalizing fetch with
  | nil => simp
  | cons part rest ih =>
      rw [List.foldl_cons,ih]
      cases part <;> simp [merge,Nat.add_assoc,Nat.add_comm]

-- Where all the feeds are taken, what they come to is what each of them loads.
theorem parts_loads (allowPartial : Bool) (all : ∀ source ∈ sources, ∃ part, verdict parseIp fromStr allowPartial source = .ok part) :
    JoinWindow.parts (verdict parseIp fromStr allowPartial) sources = sources.map (loads parseIp fromStr) := by
  induction sources with
  | nil => rfl
  | cons source rest ih =>
      obtain ⟨⟨part,judged⟩,others⟩ := List.forall_mem_cons.mp all
      obtain ⟨_,_,rfl⟩ := (verdict_ok allowPartial source part).mp judged
      have later := ih others
      simp only [JoinWindow.parts,List.filterMap_cons,judged,Except.toOption,List.map_cons] at later ⊢
      rw [later]

-- What it takes for the feeds to make a snapshot.
structure Collectable (parseIp : String → Except String IpAddr) (fromStr : String → Option Value) (allowPartial : Bool) (sources : List Joined) : Prop where
  joined : ∀ source ∈ sources, isAborted source = false
  whole : allowPartial = false → ∀ source ∈ sources, (loads parseIp fromStr source).isSome
  some : sources = [] ∨ ∃ source ∈ sources, (loads parseIp fromStr source).isSome

theorem finish_ok (now : Nat) (sources : List Joined) : (∃ snapshot, finish now
      ((sources.map (loads parseIp fromStr)).foldl merge ⟨[],0,0⟩) = .ok snapshot) ↔
    sources = [] ∨ ∃ source ∈ sources, (loads parseIp fromStr source).isSome := by
  rw [merged]
  simp only [finish,Nat.zero_add,List.countP_map]
  by_cases any : ∃ source ∈ sources, (loads parseIp fromStr source).isSome
  · have some_loaded : sources.countP ((·.isSome) ∘ loads parseIp fromStr) ≠ 0 := by
      obtain ⟨source,member,loaded⟩ := any
      exact Nat.pos_iff_ne_zero.mp (List.countP_pos_iff.mpr ⟨source,member,loaded⟩)
    simp [some_loaded,any]
  · cases sources with
    | nil => simp
    | cons source rest =>
        have unloaded : ∀ other ∈ source :: rest, loads parseIp fromStr other = none := by simpa using any
        have empty : (source :: rest).countP ((·.isSome) ∘ loads parseIp fromStr) = 0 :=
          List.countP_eq_zero.mpr fun other member => by simp [unloaded other member]
        have skipped : 0 < (source :: rest).countP ((·.isNone) ∘ loads parseIp fromStr) :=
          List.countP_pos_iff.mpr ⟨source,List.mem_cons_self,by simp [unloaded source List.mem_cons_self]⟩
        simp only [empty,skipped,and_self,if_true,reduceCtorEq,exists_false,any,or_self]

theorem finished_snapshot (finished : finish now ((sources.map (loads parseIp fromStr)).foldl merge ⟨[],0,0⟩) = .ok snapshot) :
    snapshot = buildSnapshot now (sources.flatMap fun source => (loads parseIp fromStr source).getD []) := by
  rw [merged,finish] at finished
  split at finished
  · cases finished
  · cases finished
    simp [List.flatMap_map]

-- However the tasks end, the snapshot is the same, and there is one exactly where the
-- feeds allow it.
theorem fetch_any_order (collected : fetchThreatSnapshot parseIp fromStr allowPartial now sources schedule = some outcome) :
    ((∃ snapshot, outcome = .ok snapshot) ↔ Collectable parseIp fromStr allowPartial sources) ∧
    ∀ snapshot, outcome = .ok snapshot → snapshot = buildSnapshot now (sources.flatMap fun source => (loads parseIp fromStr source).getD []) := by
  obtain ⟨fetched,ended,rfl⟩ := Option.map_eq_some_iff.mp collected
  have packed := JoinWindow.start_packed threatFetchConcurrency sources
  obtain ⟨succeeds,ends⟩ := JoinWindow.collect_ok packed (by decide) (absorb_verdict allowPartial) ended
  rw [JoinWindow.start_jobs] at succeeds ends
  have judged : (∀ source ∈ sources, ∃ part, verdict parseIp fromStr allowPartial source = .ok part) ↔
      (∀ source ∈ sources, isAborted source = false) ∧ (allowPartial = false → ∀ source ∈ sources, (loads parseIp fromStr source).isSome) := by
    simp only [verdict_ok]
    grind
  have final {fetch : Fetch} (given : fetched = .ok fetch) : ∃ order : List Joined, order.Perm sources ∧
      fetch = (order.map (loads parseIp fromStr)).foldl merge ⟨[],0,0⟩ := by
    obtain ⟨order,same,folded⟩ := ends fetch given
    have all := succeeds.mp ⟨fetch,given⟩
    rw [parts_loads allowPartial fun source member => all source (same.mem_iff.mp member)] at folded
    exact ⟨order,same,folded⟩
  constructor
  · constructor
    · intro given
      obtain ⟨snapshot,done⟩ := given
      cases fetched with
      | error error => cases done
      | ok fetch =>
          obtain ⟨order,same,rfl⟩ := final rfl
          have both := judged.mp (succeeds.mp ⟨_,rfl⟩)
          have some_loaded := (finish_ok now order).mp ⟨snapshot,done⟩
          refine ⟨both.1,both.2,?_⟩
          simpa [same.mem_iff,← List.length_eq_zero_iff,same.length_eq] using some_loaded
    · intro collectable
      obtain ⟨fetch,rfl⟩ := succeeds.mpr (judged.mpr ⟨collectable.joined,collectable.whole⟩)
      obtain ⟨order,same,rfl⟩ := final rfl
      refine (finish_ok now order).mpr ?_
      simpa [same.mem_iff,← List.length_eq_zero_iff,same.length_eq] using collectable.some
  · intro snapshot done
    cases fetched with
    | error error => cases done
    | ok fetch =>
        obtain ⟨order,same,rfl⟩ := final rfl
        rw [finished_snapshot done]
        exact buildSnapshot_perm now (same.flatMap_right _)

theorem threat_fetch_confluent (parseIp : String → Except String IpAddr) (fromStr : String → Option Value) (allowPartial : Bool) (now : Nat)
    (sources : List Joined) :
    (∃ schedule outcome, fetchThreatSnapshot parseIp fromStr allowPartial now sources schedule = some outcome) ∧
    (∀ schedule outcome, fetchThreatSnapshot parseIp fromStr allowPartial now sources schedule = some outcome →
      ((∃ snapshot, outcome = .ok snapshot) ↔ Collectable parseIp fromStr allowPartial sources) ∧
      ∀ snapshot, outcome = .ok snapshot →
        snapshot = buildSnapshot now (sources.flatMap fun source => (loads parseIp fromStr source).getD []) ∧
        ∀ ip, snapshot.contains ip = true ↔ ∃ source ∈ sources, ∃ parsed ∈ loads parseIp fromStr source, ∃ cidr ∈ parsed, cidr.contains ip = true) ∧
    ∀ positions window, Machine.run JoinWindow.advance (JoinWindow.start threatFetchConcurrency sources) positions = some window →
      window.running.length ≤ 8 := by
  have packed := JoinWindow.start_packed threatFetchConcurrency sources
  refine ⟨?_,fun schedule outcome collected => ?_,fun positions window ran => (JoinWindow.run_packed packed ran).1⟩
  · obtain ⟨schedule,fetched,collected⟩ := JoinWindow.collect_ends packed (by decide) (⟨[],0,0⟩ : Fetch)
    exact ⟨schedule,_,by rw [fetchThreatSnapshot,collected]; rfl⟩
  · obtain ⟨succeeds,same⟩ := fetch_any_order collected
    refine ⟨succeeds,fun snapshot done => ⟨same snapshot done,fun ip => ?_⟩⟩
    rw [same snapshot done,snapshot_contains]
    simp only [List.mem_flatMap]
    constructor
    · intro given
      obtain ⟨cidr,⟨source,member,listed⟩,holds⟩ := given
      cases loaded : loads parseIp fromStr source with
      | none => simp [loaded] at listed
      | some parsed => exact ⟨source,member,parsed,loaded,cidr,by simpa [loaded] using listed,holds⟩
    · intro given
      obtain ⟨source,member,parsed,loaded,cidr,listed,holds⟩ := given
      exact ⟨cidr,⟨source,member,by simpa [Option.mem_def.mp loaded] using listed⟩,holds⟩

end Orders

end Sigproxy.Xdp.ThreatFeeds
