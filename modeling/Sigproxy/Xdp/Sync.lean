import Sigproxy.Library.Machine
import Sigproxy.Xdp.Plan

namespace Sigproxy.Xdp
open Library Net Security

section Maps

def LpmMap.Value : LpmMap → Type
  | .geoCidrs => BitVec 16
  | _ => BitVec 8

structure XdpMaps where
  listenerPolicies : Table XdpListenerKey XdpListenerPolicy
  lpm : (map : LpmMap) → LpmTrie map.Value

def XdpMaps.empty : XdpMaps := ⟨∅,fun _ => ∅⟩

inductive MapOp where
  | insertPolicy (key : XdpListenerKey) (policy : XdpListenerPolicy)
  | insertLpm (map : LpmMap) (key : LpmKey 160) (value : map.Value)
  | removePolicy (key : XdpListenerKey)
  | removeLpm (map : LpmMap) (key : LpmKey 160)

-- The kernel refuses to remove what is not there.
def XdpMaps.perform (maps : XdpMaps) : MapOp → Option XdpMaps
  | .insertPolicy key policy => some {maps with listenerPolicies:=maps.listenerPolicies.insert key policy}
  | .insertLpm map key value => some {maps with lpm:=Function.update maps.lpm map ((maps.lpm map).insert key value)}
  | .removePolicy key =>
    if (maps.listenerPolicies.lookup key).isSome then some {maps with listenerPolicies:=maps.listenerPolicies.erase key} else none
  | .removeLpm map key =>
    ((maps.lpm map).remove key).map fun trie => {maps with lpm:=Function.update maps.lpm map trie}

-- What an operation writes to one of the tries, and to the listener policies.
def MapOp.write (map : LpmMap) : MapOp → Option (Table.Write (Nat × Nat) map.Value)
  | .insertLpm other key value => if same : other = map then some (.put key.node (same ▸ value)) else none
  | .removeLpm other key => if other = map then some (.drop key.node) else none
  | _ => none

def MapOp.policyWrite : MapOp → Option (Table.Write XdpListenerKey XdpListenerPolicy)
  | .insertPolicy key policy => some (.put key policy)
  | .removePolicy key => some (.drop key)
  | _ => none

theorem perform_lpm (performed : XdpMaps.perform maps op = some next) (map : LpmMap) :
    next.lpm map = (maps.lpm map).replay (op.write map).toList := by
  cases op with
  | insertPolicy key policy => cases performed; rfl
  | insertLpm other key value =>
      cases performed
      by_cases same : other = map
      · subst same; simp [MapOp.write,Table.replay,Table.write,LpmTrie.insert]
      · simp [MapOp.write,same,Table.replay,Function.update_of_ne (Ne.symm same)]
  | removePolicy key =>
      simp only [XdpMaps.perform,Option.ite_none_right_eq_some] at performed
      cases performed.2
      rfl
  | removeLpm other key =>
      simp only [XdpMaps.perform,LpmTrie.remove,Option.map_eq_some_iff,Option.ite_none_right_eq_some] at performed
      obtain ⟨trie,⟨_,rest⟩,rfl⟩ := performed
      cases rest
      by_cases same : other = map
      · subst same; simp [MapOp.write,Table.replay,Table.write]
      · simp [MapOp.write,same,Table.replay,Function.update_of_ne (Ne.symm same)]

theorem perform_policies (performed : XdpMaps.perform maps op = some next) :
    next.listenerPolicies = maps.listenerPolicies.replay op.policyWrite.toList := by
  cases op with
  | insertPolicy key policy => cases performed; rfl
  | insertLpm other key value => cases performed; rfl
  | removePolicy key =>
      simp only [XdpMaps.perform,Option.ite_none_right_eq_some] at performed
      cases performed.2
      rfl
  | removeLpm other key =>
      simp only [XdpMaps.perform,Option.map_eq_some_iff] at performed
      obtain ⟨_,_,rfl⟩ := performed
      rfl

-- A table of the maps that each operation replays its own write to.
theorem run_replays {Key Value : Type} [DecidableEq Key] (view : XdpMaps → Table Key Value) (write : MapOp → Option (Table.Write Key Value))
    (performs : ∀ maps op next, XdpMaps.perform maps op = some next → view next = (view maps).replay (write op).toList)
    (ran : Machine.run XdpMaps.perform maps ops = some final) : view final = (view maps).replay (ops.filterMap write) := by
  induction ops generalizing maps with
  | nil => cases ran; rfl
  | cons op rest ih =>
      obtain ⟨next,performed,later⟩ := Machine.run_cons.mp ran
      rw [ih later,performs maps op next performed]
      cases written : write op <;> simp [Table.replay,written]

theorem run_lpm (ran : Machine.run XdpMaps.perform maps ops = some final) (map : LpmMap) :
    final.lpm map = (maps.lpm map).replay (ops.filterMap (MapOp.write map)) :=
  run_replays (fun maps => maps.lpm map) (MapOp.write map) (fun _ _ _ performed => perform_lpm performed map) ran

theorem run_policies (ran : Machine.run XdpMaps.perform maps ops = some final) :
    final.listenerPolicies = maps.listenerPolicies.replay (ops.filterMap MapOp.policyWrite) :=
  run_replays XdpMaps.listenerPolicies MapOp.policyWrite (fun _ _ _ performed => perform_policies performed) ran

end Maps

section Syncing

-- In the order of the source: per listener its policy, then the trusted, allowed
-- and denied networks and the threat prefixes; the geo prefixes come last.
def XdpListenerSpec.inserts (threat : List ThreatIpPrefix) (spec : XdpListenerSpec) : List MapOp :=
  .insertPolicy spec.key (encodeListenerPolicy spec.policy) ::
    (spec.policy.trustedCidrs.map fun cidr => .insertLpm .trustedCidrs (spec.lpmKey cidr) 1#8) ++
    (spec.policy.allowCidrs.map fun cidr => .insertLpm .allowCidrs (spec.lpmKey cidr) 1#8) ++
    (spec.policy.denyCidrs.map fun cidr => .insertLpm .denyCidrs (spec.lpmKey cidr) 1#8) ++
    if spec.policy.threatIntel then threat.map fun cidr => .insertLpm .denyCidrs (spec.lpmKey cidr) 1#8 else []

def staticInserts (listeners : List XdpListenerSpec) (geo : List GeoIpPrefix) (threat : List ThreatIpPrefix) : List MapOp :=
  listeners.flatMap (·.inserts threat) ++
    if xdpGeoEnabled listeners then geo.map fun geo => .insertLpm .geoCidrs geo.lpmKey geo.country else []

def difference [DecidableEq Key] (current next : List Key) : List Key := current.filter fun key => decide (key ∉ next)

def deleteStaleLpmKeys (map : LpmMap) (current next : List (BitVec 192)) : List MapOp :=
  (difference current next).map fun raw => .removeLpm map (decodeLpmKeyBytes raw)

def deleteStaleStaticKeys (current next : XdpStaticKeys) : List MapOp :=
  (difference current.listenerPolicies next.listenerPolicies).map .removePolicy ++
    deleteStaleLpmKeys .allowCidrs (current.lpm .allowCidrs) (next.lpm .allowCidrs) ++
    deleteStaleLpmKeys .denyCidrs (current.lpm .denyCidrs) (next.lpm .denyCidrs) ++
    deleteStaleLpmKeys .trustedCidrs (current.lpm .trustedCidrs) (next.lpm .trustedCidrs) ++
    deleteStaleLpmKeys .geoCidrs (current.lpm .geoCidrs) (next.lpm .geoCidrs)

-- The maps as this process has them open, and what it keeps in its own memory.
structure AyaXdpBackend where
  listeners : List XdpListenerSpec
  maps : XdpMaps
  keys : XdpStaticKeys
  fingerprint : Option (BitVec 64)

-- `lasts` is the number of operations after which the kernel refuses one, be it
-- that a map is full or that memory is short; none where it refuses nothing.
structure SyncCall where
  geo : List GeoIpPrefix
  threat : List ThreatIpPrefix
  lasts : Option Nat

structure Synced where
  backend : AyaXdpBackend
  taken : List MapOp
  ok : Bool

def AyaXdpBackend.syncOps (backend : AyaXdpBackend) (geo : List GeoIpPrefix) (threat : List ThreatIpPrefix) : List MapOp :=
  staticInserts backend.listeners geo threat ++
    deleteStaleStaticKeys backend.keys (buildXdpStaticKeys backend.listeners geo threat)

def AyaXdpBackend.syncStaticPolicyPrefixes (hasher : List Hashed → BitVec 64) (backend : AyaXdpBackend) (call : SyncCall) :
    Synced :=
  let plan := buildStaticSyncPlan hasher backend.listeners call.geo call.threat
  if backend.fingerprint = some plan.fingerprint then ⟨backend,[],true⟩
  else
    let ops := backend.syncOps call.geo call.threat
    let (taken,maps) := Machine.attempt XdpMaps.perform call.lasts backend.maps ops
    if taken.length = ops.length then
      ⟨{backend with maps:=maps,keys:=plan.keys,fingerprint:=some plan.fingerprint},taken,true⟩
    else ⟨{backend with maps:=maps},taken,false⟩

end Syncing

section Effects
variable {listeners : List XdpListenerSpec} {geo : List GeoIpPrefix} {threat : List ThreatIpPrefix} {map : LpmMap}

def MapOp.isRemoval : MapOp → Bool
  | .removePolicy _ => true
  | .removeLpm _ _ => true
  | _ => false

-- The key that an operation inserts into the map, or removes from it.
def MapOp.inserted (map : LpmMap) : MapOp → Option (LpmKey 160)
  | .insertLpm other key _ => if other = map then some key else none
  | _ => none

def MapOp.removed (map : LpmMap) : MapOp → Option (LpmKey 160)
  | .removeLpm other key => if other = map then some key else none
  | _ => none

def MapOp.Puts (map : LpmMap) (node : Nat × Nat) (op : MapOp) : Prop := ∃ key, op.inserted map = some key ∧ key.node = node

theorem write_put (written : MapOp.write map op = some change) (put : change.outcome.isSome = true) :
    op.Puts map change.key := by
  cases op with
  | insertLpm other key value =>
      by_cases same : other = map
      · subst same
        simp only [MapOp.write,dif_pos,Option.some.injEq] at written
        subst written
        exact ⟨key,by simp [MapOp.inserted],rfl⟩
      · simp [MapOp.write,same] at written
  | removeLpm other key =>
      by_cases same : other = map
      · simp only [MapOp.write,same,if_pos,Option.some.injEq] at written
        subst written
        cases put
      · simp [MapOp.write,same] at written
  | insertPolicy key policy => cases written
  | removePolicy key => cases written

theorem write_of_put (puts : MapOp.Puts map node op) :
    ∃ change, op.write map = some change ∧ change.key = node := by
  obtain ⟨key,inserted,same⟩ := puts
  cases op with
  | insertLpm other written value =>
      simp only [MapOp.inserted,Option.ite_none_right_eq_some,Option.some.injEq] at inserted
      obtain ⟨rfl,rfl⟩ := inserted
      exact ⟨.put written.node value,by simp [MapOp.write],same⟩
  | removeLpm other written => cases inserted
  | insertPolicy written policy => cases inserted
  | removePolicy written => cases inserted

theorem write_of_removed (removed : MapOp.removed map op = some key) :
    ∃ change, op.write map = some change ∧ change.key = key.node := by
  cases op with
  | removeLpm other written =>
      simp only [MapOp.removed,Option.ite_none_right_eq_some,Option.some.injEq] at removed
      obtain ⟨rfl,rfl⟩ := removed
      exact ⟨.drop written.node,by simp [MapOp.write],rfl⟩
  | insertLpm other written value => cases removed
  | insertPolicy written policy => cases removed
  | removePolicy written => cases removed

theorem write_insert (inserts : MapOp.isRemoval op = false) (written : op.write map = some change) :
    change.outcome.isSome = true := by
  cases op with
  | insertLpm other key value =>
      by_cases same : other = map
      · subst same
        simp only [MapOp.write,dif_pos,Option.some.injEq] at written
        subst written
        rfl
      · simp [MapOp.write,same] at written
  | removeLpm other key => cases inserts
  | insertPolicy key policy => cases written
  | removePolicy key => cases written

theorem write_removal (removes : MapOp.isRemoval op = true) (written : op.write map = some change) :
    change.outcome = none ∧ ∃ key, op.removed map = some key ∧ key.node = change.key := by
  cases op with
  | removeLpm other key =>
      by_cases same : other = map
      · subst same
        simp only [MapOp.write,if_pos,Option.some.injEq] at written
        subst written
        exact ⟨rfl,key,by simp [MapOp.removed],rfl⟩
      · simp [MapOp.write,same] at written
  | insertLpm other key value => cases removes
  | insertPolicy key policy => cases removes
  | removePolicy key => cases written

-- A node is there after some operations only if it was there before or one of
-- them put it; operations that remove nothing leave what is there.
theorem run_adds (ran : Machine.run XdpMaps.perform maps ops = some final)
    (present : ((final.lpm map).lookup node).isSome = true) :
    ((maps.lpm map).lookup node).isSome = true ∨ ∃ op ∈ ops, op.Puts map node := by
  rw [run_lpm ran] at present
  apply (Table.replay_isSome_put present).imp_right
  intro given
  rcases given with ⟨change,member,rfl,put⟩
  obtain ⟨op,listed,written⟩ := List.mem_filterMap.mp member
  exact ⟨op,listed,write_put written put⟩

theorem run_inserts (inserts : ∀ op ∈ ops, MapOp.isRemoval op = false)
    (ran : Machine.run XdpMaps.perform maps ops = some final) : ((final.lpm map).lookup node).isSome = true ↔
      ((maps.lpm map).lookup node).isSome = true ∨ ∃ op ∈ ops, op.Puts map node := by
  have puts : ∀ change ∈ ops.filterMap (MapOp.write map), change.outcome.isSome = true := by
    intro change member
    obtain ⟨op,listed,written⟩ := List.mem_filterMap.mp member
    exact write_insert (inserts op listed) written
  refine ⟨run_adds ran,?_⟩
  rw [run_lpm ran,Table.replay_puts_isSome puts]
  refine Or.imp_right fun ⟨op,listed,puts⟩ => ?_
  obtain ⟨change,written,named⟩ := write_of_put puts
  exact ⟨change,List.mem_filterMap.mpr ⟨op,listed,written⟩,named⟩

theorem run_removals (removes : ∀ op ∈ ops, MapOp.isRemoval op = true)
    (ran : Machine.run XdpMaps.perform maps ops = some final) : ((final.lpm map).lookup node).isSome = true ↔
      ((maps.lpm map).lookup node).isSome = true ∧ ∀ key ∈ ops.filterMap (MapOp.removed map), key.node ≠ node := by
  have drops : ∀ change ∈ ops.filterMap (MapOp.write map), change.outcome = none := by
    intro change member
    obtain ⟨op,listed,written⟩ := List.mem_filterMap.mp member
    exact (write_removal (removes op listed) written).1
  rw [run_lpm ran,Table.replay_drops_isSome drops]
  refine and_congr_right fun _ => ⟨fun others key listed => ?_,fun others change member => ?_⟩
  · obtain ⟨op,member,removed⟩ := List.mem_filterMap.mp listed
    obtain ⟨change,written,named⟩ := write_of_removed removed
    exact named ▸ others change (List.mem_filterMap.mpr ⟨op,member,written⟩)
  · obtain ⟨op,listed,written⟩ := List.mem_filterMap.mp member
    obtain ⟨_,key,removed,named⟩ := write_removal (removes op listed) written
    exact named ▸ others key (List.mem_filterMap.mpr ⟨op,listed,removed⟩)

theorem inserts_keys (spec : XdpListenerSpec) :
    (spec.inserts threat).filterMap (MapOp.inserted map) = (spec.policy.cidrs threat map).map spec.lpmKey := by
  cases map <;> cases feeds : spec.policy.threatIntel <;>
    simp [XdpListenerSpec.inserts,XdpListenerPolicySpec.cidrs,MapOp.inserted,List.filterMap_cons,List.filterMap_map,
      Function.comp_def,feeds]

theorem staticInserts_keys :
    (staticInserts listeners geo threat).filterMap (MapOp.inserted map) = lpmKeys listeners geo threat map := by
  unfold staticInserts
  rw [List.filterMap_append,List.filterMap_flatMap]
  simp only [inserts_keys]
  cases map <;> cases located : xdpGeoEnabled listeners <;>
    simp [lpmKeys,XdpListenerPolicySpec.cidrs,MapOp.inserted,List.filterMap_map,Function.comp_def,located]

theorem staticInserts_inserts : ∀ op ∈ staticInserts listeners geo threat, op.isRemoval = false := by
  intro op member
  simp only [staticInserts,XdpListenerSpec.inserts,List.mem_append,List.mem_flatMap,List.mem_cons,List.mem_map,
    List.mem_ite_nil_right] at member
  rcases member with ⟨spec,_,((((rfl | ⟨_,_,rfl⟩) | ⟨_,_,rfl⟩) | ⟨_,_,rfl⟩) | ⟨_,_,_,rfl⟩)⟩ | ⟨_,_,_,rfl⟩ <;> rfl

theorem deleteStale_removes : ∀ op ∈ deleteStaleStaticKeys current next, op.isRemoval = true := by
  intro op member
  simp only [deleteStaleStaticKeys,deleteStaleLpmKeys,List.mem_append,List.mem_map] at member
  rcases member with (((⟨_,_,rfl⟩ | ⟨_,_,rfl⟩) | ⟨_,_,rfl⟩) | ⟨_,_,rfl⟩) | ⟨_,_,rfl⟩ <;> rfl

theorem deleteStale_keys : (deleteStaleStaticKeys current next).filterMap (MapOp.removed map) =
    (difference (current.lpm map) (next.lpm map)).map decodeLpmKeyBytes := by
  cases map <;>
    simp [deleteStaleStaticKeys,deleteStaleLpmKeys,MapOp.removed,List.filterMap_map,Function.comp_def]

theorem staticInserts_policies : (staticInserts listeners geo threat).filterMap MapOp.policyWrite =
    listeners.map fun spec => .put spec.key (encodeListenerPolicy spec.policy) := by
  have own (spec : XdpListenerSpec) : (spec.inserts threat).filterMap MapOp.policyWrite =
      [.put spec.key (encodeListenerPolicy spec.policy)] := by
    cases feeds : spec.policy.threatIntel <;>
      simp [XdpListenerSpec.inserts,MapOp.policyWrite,List.filterMap_map,Function.comp_def,feeds]
  unfold staticInserts
  rw [List.filterMap_append,List.filterMap_flatMap]
  simp only [own,← List.map_eq_flatMap]
  cases xdpGeoEnabled listeners <;> simp [MapOp.policyWrite,List.filterMap_map,Function.comp_def]

theorem deleteStale_policies : (deleteStaleStaticKeys current next).filterMap MapOp.policyWrite =
    (difference current.listenerPolicies next.listenerPolicies).map .drop := by
  simp [deleteStaleStaticKeys,deleteStaleLpmKeys,MapOp.policyWrite,List.filterMap_map,Function.comp_def]

theorem puts_iff {ops : List MapOp} :
    (∃ op ∈ ops, op.Puts map node) ↔ ∃ key ∈ ops.filterMap (MapOp.inserted map), key.node = node := by
  simp only [MapOp.Puts,List.mem_filterMap]
  constructor
  · intro given
    rcases given with ⟨op,listed,key,written,same⟩
    exact ⟨key,⟨op,listed,written⟩,same⟩
  · intro given
    rcases given with ⟨key,⟨op,listed,written⟩,same⟩
    exact ⟨op,listed,key,written,same⟩

-- What is there after a synchronization was there before or is planned, and is
-- not what the trie makes of a stale key.
theorem syncOps_present {backend : AyaXdpBackend}
    (ran : Machine.run XdpMaps.perform backend.maps (backend.syncOps geo threat) = some final) (node : Nat × Nat) :
    ((final.lpm map).lookup node).isSome = true ↔
      (((backend.maps.lpm map).lookup node).isSome = true ∨
        ∃ key ∈ lpmKeys backend.listeners geo threat map, key.node = node) ∧
      ∀ raw ∈ difference (backend.keys.lpm map) ((buildXdpStaticKeys backend.listeners geo threat).lpm map),
        (decodeLpmKeyBytes raw).node ≠ node := by
  obtain ⟨middle,inserted,removed⟩ := Machine.run_append.mp ran
  rw [run_removals deleteStale_removes removed,run_inserts staticInserts_inserts inserted,deleteStale_keys,← staticInserts_keys,
    puts_iff,List.forall_mem_map]

inductive SyncResult (hasher : List Hashed → BitVec 64) (backend : AyaXdpBackend) (call : SyncCall) : Synced → Prop
  | skipped (same : backend.fingerprint = some (hasher (planFeed backend.listeners call.geo call.threat))) :
    SyncResult hasher backend call ⟨backend,[],true⟩
  | done (changed : backend.fingerprint ≠ some (hasher (planFeed backend.listeners call.geo call.threat)))
    (ran : Machine.run XdpMaps.perform backend.maps (backend.syncOps call.geo call.threat) = some maps) :
    SyncResult hasher backend call ⟨{backend with
      maps:=maps
      keys:=buildXdpStaticKeys backend.listeners call.geo call.threat
      fingerprint:=some (hasher (planFeed backend.listeners call.geo call.threat))},backend.syncOps call.geo call.threat,true⟩
  | broken (ran : Machine.run XdpMaps.perform backend.maps taken = some maps) :
    SyncResult hasher backend call ⟨{backend with maps:=maps},taken,false⟩

theorem sync_result (hasher : List Hashed → BitVec 64) (backend : AyaXdpBackend) (call : SyncCall) :
    SyncResult hasher backend call (backend.syncStaticPolicyPrefixes hasher call) := by
  have ran := @Machine.attempt_ran _ _ XdpMaps.perform call.lasts backend.maps (backend.syncOps call.geo call.threat)
  have begins := @Machine.attempt_initial _ _ XdpMaps.perform call.lasts backend.maps (backend.syncOps call.geo call.threat)
  simp only [AyaXdpBackend.syncStaticPolicyPrefixes]
  by_cases same : backend.fingerprint = some (buildStaticSyncPlan hasher backend.listeners call.geo call.threat).fingerprint
  · rw [if_pos same]
    exact .skipped same
  · rw [if_neg same]
    generalize Machine.attempt XdpMaps.perform call.lasts backend.maps (backend.syncOps call.geo call.threat) = outcome at ran begins ⊢
    obtain ⟨taken,maps⟩ := outcome
    by_cases whole : taken.length = (backend.syncOps call.geo call.threat).length
    · obtain rfl := begins.eq_of_length whole
      rw [if_pos rfl]
      exact .done same ran
    · rw [if_neg whole]
      exact .broken ran

end Effects

end Sigproxy.Xdp
