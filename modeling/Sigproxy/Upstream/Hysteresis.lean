import Sigproxy.Library.Fallible
import Sigproxy.Library.Hysteresis
import Sigproxy.Upstream

namespace Sigproxy.Upstream.Hysteresis
open Library Library.Hysteresis Net UpstreamGroupRuntime

section Server

-- What the three variables of a server say about the results recorded for it.
def Tracks (check : UpstreamHealthCheckConfig) (results : List Bool) (server : ServerHealth) : Prop :=
  server.consecutiveSuccesses = BitVec.ofNat 64 (trailing true results) ∧
  server.consecutiveFailures = BitVec.ofNat 64 (trailing false results) ∧
  (server.healthy = true ↔ Recovered check.successThreshold.toNat check.failureThreshold.toNat results)

variable {check : UpstreamHealthCheckConfig}

theorem initial_tracks (failurePositive : 0 < check.failureThreshold) : Tracks check [] .initial :=
  ⟨rfl,rfl,fun _ => .nil failurePositive,fun _ => rfl⟩

theorem counted_le (threshold : Usize) (count : Nat) : threshold ≤ BitVec.ofNat 64 count ↔ threshold.toNat ≤ count % 2 ^ 64 := by
  rw [BitVec.le_def,BitVec.toNat_ofNat]

-- The counter falls short of the run only where it has wrapped, and before that the
-- threshold had been met.
theorem met_or_met_before {threshold : Usize} {count : Nat} (met : threshold.toNat ≤ count + 1) :
    threshold ≤ BitVec.ofNat 64 (count + 1) ∨ threshold.toNat ≤ count := by
  rw [counted_le]
  have bounded := threshold.isLt
  by_cases small : count + 1 < 2 ^ 64
  · exact .inl (by rwa [Nat.mod_eq_of_lt small])
  · exact .inr (by omega)

theorem record_success (failurePositive : 0 < check.failureThreshold) (tracks : Tracks check results server) :
    Tracks check (results ++ [true]) (record check server true) := by
  obtain ⟨successes,failures,health⟩ := tracks
  have counted : server.consecutiveSuccesses + 1 = BitVec.ofNat 64 (trailing true results + 1) := by
    rw [successes,BitVec.ofNat_add]
    rfl
  refine ⟨by simpa [record] using counted,by simp [record],?_⟩
  rw [recovered_success failurePositive,← health]
  simp only [record,if_true,Bool.or_eq_true,decide_eq_true_eq,counted,trailing_snoc]
  constructor
  · intro either
    apply either.imp_right
    intro met
    rw [counted_le] at met
    exact met.trans (Nat.mod_le _ _)
  · intro either
    obtain healthy | met := either
    · exact .inl healthy
    · obtain now | before := met_or_met_before met
      · exact .inr now
      · exact .inl (health.mpr (recovered_of_reached before))

theorem record_failure (successPositive : 0 < check.successThreshold) (failurePositive : 0 < check.failureThreshold)
    (tracks : Tracks check results server) : Tracks check (results ++ [false]) (record check server false) := by
  obtain ⟨successes,failures,health⟩ := tracks
  have counted : server.consecutiveFailures + 1 = BitVec.ofNat 64 (trailing false results + 1) := by
    rw [failures,BitVec.ofNat_add]
    rfl
  refine ⟨by simp [record],by simpa [record] using counted,?_⟩
  rw [recovered_failure successPositive failurePositive,← health]
  simp only [record,Bool.false_eq_true,if_false,Bool.and_eq_true,Bool.not_eq_true',decide_eq_false_iff_not,counted,trailing_snoc,if_true]
  constructor
  · intro ⟨healthy,unmet⟩
    refine ⟨healthy,Nat.lt_of_not_le fun met => ?_⟩
    obtain now | before := met_or_met_before met
    · exact unmet now
    · exact not_recovered_of_reached successPositive failurePositive before (health.mp healthy)
  · intro ⟨healthy,below⟩
    refine ⟨healthy,fun met => ?_⟩
    rw [counted_le] at met
    have short := met.trans (Nat.mod_le _ _)
    omega

theorem records_track (successPositive : 0 < check.successThreshold) (failurePositive : 0 < check.failureThreshold) (results : List Bool) :
    Tracks check results (results.foldl (record check) .initial) := by
  induction results using List.reverseRecOn with
  | nil => exact initial_tracks failurePositive
  | append_singleton results last ih =>
      rw [List.foldl_append,List.foldl_cons,List.foldl_nil]
      cases last with
      | true => exact record_success failurePositive ih
      | false => exact record_failure successPositive failurePositive ih

end Server

-- A probe of one server, or what forwarding learned of an address.
inductive Feedback where
  | active (group : String) (index : Nat) (healthy : Bool)
  | passive (server : SocketAddr) (healthy : Bool)
  deriving DecidableEq, Repr

section Group

def standing (group : UpstreamGroupRuntime) (index : Nat) : Option ServerHealth :=
  if bounded : index < group.servers.length then some (group.health ⟨index,bounded⟩) else none

def recordActiveResultAt (group : UpstreamGroupRuntime) (index : Nat) (healthy : Bool) : UpstreamGroupRuntime :=
  if bounded : index < group.servers.length then group.recordHealthResult ⟨index,bounded⟩ healthy else group

-- What one group takes in.
def takeIn (name : String) (group : UpstreamGroupRuntime) : Feedback → UpstreamGroupRuntime
  | .active other index healthy => if other = name then recordActiveResultAt group index healthy else group
  | .passive server healthy =>
    match group.servers.idxOf? server with
    | none => group
    | some index => group.recordPassiveResultAt index healthy

-- The result that is recorded for one index of a group.
def heardAt (name : String) (group : UpstreamGroupRuntime) (index : Nat) : Feedback → Option Bool
  | .active other slot healthy => if other = name ∧ index = slot then some healthy else none
  | .passive server healthy =>
    if group.healthCheck.enabled = true ∧ some index = group.servers.idxOf? server then some healthy else none

theorem standing_recordActiveResultAt (group : UpstreamGroupRuntime) (index other : Nat) (healthy : Bool) :
    standing (recordActiveResultAt group index healthy) other =
      (standing group other).map fun server => if other = index then record group.healthCheck server healthy else server := by
  unfold recordActiveResultAt
  by_cases bounded : index < group.servers.length
  · rw [dif_pos bounded]
    by_cases inside : other < group.servers.length
    · simp only [standing,recordHealthResult,inside,dif_pos,Option.map_some,Function.update_apply,Fin.mk.injEq]
      split
      · rename_i same
        subst same
        rfl
      · rfl
    · simp [standing,recordHealthResult,inside]
  · rw [dif_neg bounded]
    by_cases inside : other < group.servers.length
    · have apart : other ≠ index := fun same => bounded (same ▸ inside)
      simp [standing,inside,apart]
    · simp [standing,inside]

theorem standing_recordPassiveResultAt (group : UpstreamGroupRuntime) (index other : Nat) (healthy : Bool) :
    standing (group.recordPassiveResultAt index healthy) other = (standing group other).map fun server =>
      if group.healthCheck.enabled = true ∧ other = index then record group.healthCheck server healthy else server := by
  cases enabled : group.healthCheck.enabled with
  | false => simp [recordPassiveResultAt,enabled]
  | true =>
      have same : group.recordPassiveResultAt index healthy = recordActiveResultAt group index healthy := by
        simp [recordPassiveResultAt,recordActiveResultAt,enabled]
      simpa [same] using standing_recordActiveResultAt group index other healthy

theorem standing_takeIn (name : String) (group : UpstreamGroupRuntime) (index : Nat) (event : Feedback) :
    standing (takeIn name group event) index = (standing group index).map fun server =>
      match heardAt name group index event with
      | none => server
      | some healthy => record group.healthCheck server healthy := by
  cases event with
  | active other slot healthy =>
      by_cases named : other = name
      · subst named
        simp only [takeIn,if_true,standing_recordActiveResultAt,heardAt,true_and]
        congr 1
        funext server
        split <;> rfl
      · simp [takeIn,heardAt,named]
  | passive server healthy =>
      cases listed : group.servers.idxOf? server with
      | none => simp [takeIn,heardAt,listed]
      | some slot =>
          simp only [takeIn,listed,standing_recordPassiveResultAt,heardAt,Option.some.injEq]
          congr 1
          funext server
          split <;> rfl

theorem takeIn_constant (name : String) (group : UpstreamGroupRuntime) (event : Feedback) :
    (takeIn name group event).servers = group.servers ∧ (takeIn name group event).healthCheck = group.healthCheck := by
  cases event with
  | active other index healthy =>
      simp only [takeIn,recordActiveResultAt]
      split_ifs <;> exact ⟨rfl,rfl⟩
  | passive server healthy =>
      simp only [takeIn,recordPassiveResultAt]
      split
      · exact ⟨rfl,rfl⟩
      · split_ifs <;> exact ⟨rfl,rfl⟩

end Group

section Groups

def feed (upstreams : UpstreamGroups) : Feedback → UpstreamGroups
  | .active name index healthy =>
    match upstreams.groups.lookup name with
    | none => upstreams
    | some group => ⟨upstreams.groups.insert name (recordActiveResultAt group index healthy)⟩
  | .passive server healthy => upstreams.recordPassiveResult server healthy

theorem lookup_passive (refs : List UpstreamServerRef) (apart : (refs.map UpstreamServerRef.group).Nodup) (upstreams : UpstreamGroups)
    (healthy : Bool) (name : String) :
    ((refs.foldl (fun upstreams slot =>
      match upstreams.groups.lookup slot.group with
      | none => upstreams
      | some group => ⟨upstreams.groups.insert slot.group (group.recordPassiveResultAt slot.index healthy)⟩) upstreams).groups.lookup name) =
    (upstreams.groups.lookup name).map fun group =>
      match refs.find? fun slot => slot.group = name with
      | none => group
      | some slot => group.recordPassiveResultAt slot.index healthy := by
  induction refs generalizing upstreams with
  | nil => simp
  | cons slot rest ih =>
      obtain ⟨first,later⟩ := List.nodup_cons.mp apart
      rw [List.foldl_cons,ih later]
      cases found : upstreams.groups.lookup slot.group with
      | none =>
          by_cases same : slot.group = name
          · subst same
            simp [found]
          · simp [same]
      | some group =>
          simp only [Table.lookup_insert_eq]
          by_cases same : slot.group = name
          · subst same
            have missing : rest.find? (fun other => decide (other.group = slot.group)) = none := by
              refine List.find?_eq_none.mpr fun other member => ?_
              simp only [decide_eq_true_eq]
              exact fun same => first (same ▸ List.mem_map_of_mem member)
            simp [found,missing]
          · simp [same,Ne.symm same]

theorem serversByAddr_apart (upstreams : UpstreamGroups) (server : SocketAddr) :
    ((upstreams.serversByAddr server).map UpstreamServerRef.group).Nodup := by
  have keys : (upstreams.groups.entries.map Sigma.fst).Nodup := upstreams.groups.nodupKeys
  have shorter : List.Sublist ((upstreams.serversByAddr server).map UpstreamServerRef.group) (upstreams.groups.entries.map Sigma.fst) := by
    unfold UpstreamGroups.serversByAddr
    induction upstreams.groups.entries with
    | nil => exact .slnil
    | cons entry rest ih =>
        rw [List.filterMap_cons]
        cases entry.2.servers.idxOf? server with
        | none => exact ih.cons _
        | some index => exact ih.cons_cons _
  exact keys.sublist shorter

theorem find_slotted (name : String) (server : SocketAddr) {entries : List (Sigma fun _ : String => UpstreamGroupRuntime)} {group : UpstreamGroupRuntime}
    (apart : (entries.map Sigma.fst).Nodup) (member : ⟨name,group⟩ ∈ entries) :
    ((entries.filterMap fun entry => (entry.2.servers.idxOf? server).map fun index => UpstreamServerRef.mk entry.1 index).find?
      fun slot => slot.group = name) = (group.servers.idxOf? server).map fun index => ⟨name,index⟩ := by
  induction entries with
  | nil => cases member
  | cons entry rest ih =>
      obtain ⟨first,later⟩ := List.nodup_cons.mp apart
      rw [List.filterMap_cons]
      obtain same | inside := List.mem_cons.mp member
      · subst same
        have missing : (rest.filterMap fun entry => (entry.2.servers.idxOf? server).map fun index => UpstreamServerRef.mk entry.1 index).find?
            (fun slot => slot.group = name) = none := by
          refine List.find?_eq_none.mpr fun slot listed => ?_
          obtain ⟨other,stands,named⟩ := List.mem_filterMap.mp listed
          obtain ⟨index,-,rfl⟩ := Option.map_eq_some_iff.mp named
          simp only [decide_eq_true_eq]
          exact fun same => first (List.mem_map.mpr ⟨other,stands,same⟩)
        cases group.servers.idxOf? server with
        | none => exact missing
        | some index => simp
      · have differs : entry.1 ≠ name := fun same => first (List.mem_map.mpr ⟨_,inside,same.symm⟩)
        cases entry.2.servers.idxOf? server with
        | none => exact ih later inside
        | some index =>
            simp only [Option.map_some,List.find?_cons,decide_eq_false differs]
            exact ih later inside

theorem lookup_feed (upstreams : UpstreamGroups) {name : String} (event : Feedback) (found : upstreams.groups.lookup name = some group) :
    (feed upstreams event).groups.lookup name = some (takeIn name group event) := by
  cases event with
  | active other index healthy =>
      by_cases same : other = name
      · subst same
        simp [feed,takeIn,found]
      · cases named : upstreams.groups.lookup other with
        | none => simpa [feed,takeIn,named,same] using found
        | some _ => simp [feed,takeIn,named,same,Ne.symm same,found]
  | passive server healthy =>
      have slotted := find_slotted name server upstreams.groups.nodupKeys (Table.lookup_iff_mem.mp found)
      apply (lookup_passive _ (serversByAddr_apart upstreams server) upstreams healthy name).trans
      rw [found,Option.map_some,UpstreamGroups.serversByAddr,slotted,takeIn]
      cases group.servers.idxOf? server <;> rfl

theorem lookup_feed_none (upstreams : UpstreamGroups) {name : String} (event : Feedback) (missing : upstreams.groups.lookup name = none) :
    (feed upstreams event).groups.lookup name = none := by
  cases event with
  | active other index healthy =>
      cases named : upstreams.groups.lookup other with
      | none => simpa [feed,named] using missing
      | some group =>
          have apart : name ≠ other := fun same => by rw [same,named] at missing; cases missing
          simpa [feed,named,Table.lookup_insert_eq,apart] using missing
  | passive server healthy =>
      apply (lookup_passive _ (serversByAddr_apart upstreams server) upstreams healthy name).trans
      rw [missing,Option.map_none]

-- The entry of an index, as every result of a run leaves it.
def healthAt (upstreams : UpstreamGroups) (name : String) (index : Nat) : Option ServerHealth :=
  (upstreams.groups.lookup name).bind fun group => standing group index

theorem heardAt_takeIn (name : String) (group : UpstreamGroupRuntime) (event : Feedback) :
    heardAt name (takeIn name group event) = heardAt name group := by
  obtain ⟨servers,check⟩ := takeIn_constant name group event
  funext index other
  cases other <;> simp only [heardAt,servers,check]

-- A run leaves each index with what its own results make of it.
theorem healthAt_run (events : List Feedback) {upstreams : UpstreamGroups} {name : String} (found : upstreams.groups.lookup name = some group)
    (index : Nat) : healthAt (events.foldl feed upstreams) name index =
      (standing group index).map ((events.filterMap (heardAt name group index)).foldl (record group.healthCheck)) := by
  induction events generalizing upstreams group with
  | nil => simp [healthAt,found]
  | cons event rest ih =>
      have check := (takeIn_constant name group event).2
      rw [List.foldl_cons,ih (lookup_feed upstreams event found),standing_takeIn,heardAt_takeIn,check,Option.map_map,List.filterMap_cons]
      congr 1
      cases heardAt name group index event <;> rfl

end Groups

section Claim

theorem created_initial {name : String} (created : UpstreamGroups.new resolveUpstreamServer configs = .ok upstreams)
    (found : upstreams.groups.lookup name = some group) (inside : index < group.servers.length) :
    standing group index = some .initial := by
  obtain ⟨config,-,-,made⟩ := UpstreamGroups.new_found created found
  obtain ⟨servers,-,built⟩ := bind_ok.mp made
  cases built
  exact dif_pos inside

-- The counters are the trailing runs as far as a word counts, and the flag is what the
-- whole history of runs makes it.
theorem health_hysteresis {name : String} (created : UpstreamGroups.new resolveUpstreamServer configs = .ok upstreams)
    (found : upstreams.groups.lookup name = some group)
    (successPositive : 1 ≤ group.healthCheck.successThreshold) (failurePositive : 1 ≤ group.healthCheck.failureThreshold)
    (events : List Feedback) : ∀ index < group.servers.length, ∃ server, healthAt (events.foldl feed upstreams) name index = some server ∧
      server.consecutiveSuccesses.toNat = trailing true (events.filterMap (heardAt name group index)) % 2 ^ 64 ∧
      server.consecutiveFailures.toNat = trailing false (events.filterMap (heardAt name group index)) % 2 ^ 64 ∧
      (server.consecutiveSuccesses = 0 ∨ server.consecutiveFailures = 0) ∧
      (server.healthy = true ↔ Recovered group.healthCheck.successThreshold.toNat group.healthCheck.failureThreshold.toNat
        (events.filterMap (heardAt name group index))) ∧
      ∀ event, heardAt name group index event = none →
        healthAt (feed (events.foldl feed upstreams) event) name index = healthAt (events.foldl feed upstreams) name index := by
  intro index inside
  have initial := created_initial created found inside
  obtain ⟨successes,failures,health⟩ := records_track successPositive failurePositive
    (events.filterMap (heardAt name group index))
  refine ⟨_,by rw [healthAt_run events found,initial,Option.map_some],?_,?_,?_,health,fun event unheard => ?_⟩
  · rw [successes,BitVec.toNat_ofNat]
  · rw [failures,BitVec.toNat_ofNat]
  · obtain none | none := trailing_other true (events.filterMap (heardAt name group index))
    · exact .inl (by rw [successes,none]; rfl)
    · exact .inr (by rw [failures]; exact congrArg (BitVec.ofNat 64) none)
  · have more := healthAt_run (events ++ [event]) found index
    rw [List.foldl_append,List.foldl_cons,List.foldl_nil,List.filterMap_append,List.filterMap_cons,unheard,List.filterMap_nil,List.append_nil] at more
    rw [more,healthAt_run events found]

def core : UpstreamGroupConfig := ⟨"core",.default,["10.0.0.1:5060","10.0.0.2:5060"]⟩

def resolveUpstreamServer (_ server : String) : Except String SocketAddr :=
  if server == "10.0.0.1:5060" then .ok ⟨.v4 0x0a000001,5060⟩
  else if server == "10.0.0.2:5060" then .ok ⟨.v4 0x0a000002,5060⟩
  else .error "invalid upstream server"

def coreGroup : UpstreamGroupRuntime :=
  ⟨"core",[⟨.v4 0x0a000001,5060⟩,⟨.v4 0x0a000002,5060⟩],fun _ => .initial,0,.default⟩

def upstreams : UpstreamGroups := ⟨Table.collect [("core",coreGroup)]⟩

def flapping : List Feedback :=
  [.active "core" 0 false,.active "core" 0 false,.active "core" 0 false,.active "core" 0 true,.active "core" 0 true]

-- Three failures take the first server out and two successes bring it back. The second
-- one hears nothing of it.
theorem flapping_server_returns : coreGroup.servers.length = 2 ∧ ∀ index < 2, ∃ server, healthAt (flapping.foldl feed upstreams) "core" index =
      some server ∧ server.consecutiveSuccesses.toNat = trailing true (flapping.filterMap (heardAt "core" coreGroup index)) % 2 ^ 64 ∧
      (server.healthy = true ↔ Recovered 2 3 (flapping.filterMap (heardAt "core" coreGroup index))) := by
  have created : UpstreamGroups.new resolveUpstreamServer [core] = .ok upstreams := rfl
  have found : upstreams.groups.lookup "core" = some coreGroup := rfl
  refine ⟨rfl,fun index inside => ?_⟩
  obtain ⟨server,stands,successes,-,-,health,-⟩ := health_hysteresis created found (by decide) (by decide) flapping index inside
  exact ⟨server,stands,successes,health⟩

-- As many successes as a word has values, and the counter stands at zero.
theorem counter_wraps : UpstreamGroups.new resolveUpstreamServer [core] = .ok upstreams ∧ ∃ server, healthAt ((List.replicate (2 ^ 64) (Feedback.active "core" 0 true)).foldl feed upstreams) "core" 0 =
      some server ∧ server.consecutiveSuccesses.toNat = 0 ∧
    trailing true ((List.replicate (2 ^ 64) (Feedback.active "core" 0 true)).filterMap (heardAt "core" coreGroup 0)) = 2 ^ 64 := by
  have recorded (count : Nat) : (List.replicate count (Feedback.active "core" 0 true)).filterMap (heardAt "core" coreGroup 0) =
      List.replicate count true := List.filterMap_replicate_of_some rfl
  have unbroken (count : Nat) : trailing true (List.replicate count true) = count := by simp [trailing]
  obtain ⟨successes,-⟩ := @records_track coreGroup.healthCheck (by decide) (by decide) (List.replicate (2 ^ 64) true)
  have stands := @healthAt_run coreGroup (List.replicate (2 ^ 64) (.active "core" 0 true)) upstreams "core" rfl 0
  have initial : standing coreGroup 0 = some .initial := rfl
  rw [recorded,initial,Option.map_some] at stands
  refine ⟨rfl,_,stands,?_,by rw [recorded,unbroken]⟩
  rw [successes,unbroken]
  exact Nat.mod_self (2 ^ 64)

end Claim
end Sigproxy.Upstream.Hysteresis
