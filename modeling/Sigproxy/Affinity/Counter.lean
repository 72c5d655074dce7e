import Sigproxy.Library.Counted
import Sigproxy.Proxy.ResponseRouting

namespace Sigproxy.Affinity.Counter
open Library
open Proxy (Codec ProxyAffinityKey affinityKeys Envelope envelopeCodec upstreamAddr)
open Counted (ask withLock lockAll unlockAll)
open Program (lift)

-- The table as the source keeps it: 64 locked maps and an atomic count of their
-- entries. A task is one operation; its calls are the lock acquisitions, the changes
-- under a lock and the updates of the counter.
abbrev Bindings := Table AffinityKey AffinityBinding

def affinityShards : Nat := 64

abbrev AffinityShard := Fin affinityShards

abbrev AffinityTask := Counted.Task AffinityShard Bindings

def Bindings.len (bindings : Bindings) : Nat := bindings.entries.length

-- What prune_affinity leaves.
def Bindings.pruned (bindings : Bindings) (now : Nat) : Bindings := bindings.retain fun _ binding => decide (now < binding.expiresAt)

section Operations
variable (affinityShardIndex : AffinityKey → Nat)

def addLen (count : Nat) : AffinityTask Unit := ask (.add count)

def subtractLen (count : Nat) : AffinityTask Unit := if 0 < count then ask (.subtract count) else return ()

def shardForKey (key : AffinityKey) : AffinityShard := ⟨affinityShardIndex key % affinityShards,Nat.mod_lt _ (by decide)⟩

-- Under the lock of the shard: prune it and take what was pruned off the counter.
def pruneAffinity (shard : AffinityShard) (now : Nat) : AffinityTask Bindings := do
  let bindings ← ask (.edit shard (Bindings.pruned · now))
  subtractLen (bindings.len - (bindings.pruned now).len)
  return bindings.pruned now

-- Under the lock of the shard: insert, and count the entry if the key is new.
def insertCounted (shard : AffinityShard) (key : AffinityKey) (binding : AffinityBinding) : AffinityTask Unit := do
  let bindings ← ask (.edit shard (AList.insert key binding))
  (if bindings.lookup key = none then addLen 1 else return ())
  return ()

def lookupKeys (now : Nat) : List AffinityKey → AffinityTask (Option AffinityTarget)
  | [] => return none
  | key :: keys => do
    let bindings ← withLock (shardForKey affinityShardIndex key) (pruneAffinity (shardForKey affinityShardIndex key) now)
    match bindings.lookup key with
    | some binding => return some binding.target
    | none => lookupKeys now keys

section Messages
variable {Packet Message : Type} (codec : Codec Packet Message) (config : ProxyAffinityConfig) (strategy : ProxyAffinityKey)

def lookup (message : Message) : AffinityTask (Option AffinityTarget) :=
  if config.enabled then do
    let keys ← lift (affinityKeys codec strategy message)
    if keys.isEmpty then return none
    let now ← ask .clock
    lookupKeys affinityShardIndex now keys
  else return none

def lookupKey (key : AffinityKey) : AffinityTask (Option AffinityTarget) :=
  if config.enabled then do
    let shard := shardForKey affinityShardIndex key
    withLock shard do
      let now ← ask .clock
      let bindings ← pruneAffinity shard now
      return (bindings.lookup key).map AffinityBinding.target
  else return none

def rememberKeys (binding : AffinityBinding) : List AffinityKey → AffinityTask Unit
  | [] => return ()
  | key :: keys => do
    let shard := shardForKey affinityShardIndex key
    withLock shard (insertCounted shard key binding)
    rememberKeys binding keys

def remember (message : Message) (target : AffinityTarget) : AffinityTask (List AffinityBindingSnapshot) :=
  if config.enabled then do
    let keys ← lift (affinityKeys codec strategy message)
    if keys.isEmpty then return []
    let now ← ask .clock
    let expiresAt := now + config.ttlSeconds * 1000
    rememberKeys affinityShardIndex ⟨target,expiresAt⟩ keys
    return keys.map fun key => ⟨key,target,expiresAt⟩
  else return []

def rememberKey (key : AffinityKey) (target : AffinityTarget) (ttl : Nat) : AffinityTask (List AffinityBindingSnapshot) :=
  if !config.enabled || ttl == 0 then return []
  else do
    let now ← ask .clock
    let shard := shardForKey affinityShardIndex key
    withLock shard (insertCounted shard key ⟨target,now + ttl⟩)
    return [⟨key,target,now + ttl⟩]

end Messages

-- Each shard in turn is pruned under its lock.
def pruneShards (now : Nat) : List AffinityShard → AffinityTask (List Bindings)
  | [] => return []
  | shard :: shards => do
    let bindings ← withLock shard (pruneAffinity shard now)
    return bindings :: (← pruneShards now shards)

def snapshot : AffinityTask AffinityStateSnapshot := do
  let now ← ask .clock
  let shards ← pruneShards now (List.finRange affinityShards)
  return ⟨shards.flatMap fun bindings => bindings.entries.map fun entry => ⟨entry.1,entry.2.target,now + (entry.2.expiresAt - now)⟩⟩

-- The tables that a snapshot fills: a later binding of a key replaces an earlier one.
def snapshotShards (now : Nat) (snapshot : AffinityStateSnapshot) (shard : AffinityShard) : Bindings :=
  let kept := snapshot.bindings.filter fun binding =>
    decide (now < binding.expiresAtEpochMs) && shardForKey affinityShardIndex binding.key == shard
  Table.collect (kept.map fun binding => (binding.key,⟨binding.target,AffinityTable.expiryFrom now binding.expiresAtEpochMs⟩))

-- All the locks are held until the counter is set.
def replaceAll (shardedBindings : AffinityShard → Bindings) : AffinityTask Unit := do
  lockAll (List.finRange affinityShards)
  ask (.replace shardedBindings)
  ask (.store (∑ shard, (shardedBindings shard).len))
  unlockAll (List.finRange affinityShards)

def installSnapshot (snapshot : AffinityStateSnapshot) : AffinityTask Unit := do
  let now ← ask .clock
  replaceAll (snapshotShards affinityShardIndex now snapshot)

-- Under the lock of the shard: remove, and count the entry out if there was one.
def removeCounted (shard : AffinityShard) (key : AffinityKey) : AffinityTask Unit := do
  let bindings ← ask (.edit shard (AList.erase key))
  (if bindings.lookup key = none then return () else subtractLen 1)
  return ()

def upsertBindings (now : Nat) : List AffinityBindingSnapshot → AffinityTask Unit
  | [] => return ()
  | snapshot :: snapshots => do
    let shard := shardForKey affinityShardIndex snapshot.key
    withLock shard
      (if snapshot.expiresAtEpochMs ≤ now then removeCounted shard snapshot.key
      else insertCounted shard snapshot.key ⟨snapshot.target,AffinityTable.expiryFrom now snapshot.expiresAtEpochMs⟩)
    upsertBindings now snapshots

def upsertSnapshotBindings (snapshots : List AffinityBindingSnapshot) : AffinityTask Unit := do
  let now ← ask .clock
  upsertBindings affinityShardIndex now snapshots

-- The guard is a temporary of the condition: it is dropped before the counter is changed.
def removeKey (key : AffinityKey) : AffinityTask Unit := do
  let shard := shardForKey affinityShardIndex key
  let bindings ← withLock shard (ask (.edit shard (AList.erase key)))
  if bindings.lookup key = none then return () else subtractLen 1

def activeLen : AffinityTask Nat := do
  let now ← ask .clock
  let _ ← pruneShards now (List.finRange affinityShards)
  ask .load

def bindingLen : AffinityTask Nat := ask .load

inductive AffinityOperation (Message : Type) where
  | lookup (message : Message)
  | lookupKey (key : AffinityKey)
  | remember (message : Message) (target : AffinityTarget)
  | rememberKey (key : AffinityKey) (target : AffinityTarget) (ttl : Nat)
  | snapshot
  | installSnapshot (snapshot : AffinityStateSnapshot)
  | upsertSnapshotBindings (snapshots : List AffinityBindingSnapshot)
  | removeKey (key : AffinityKey)
  | activeLen
  | bindingLen

def AffinityOperation.task {Packet Message : Type} (codec : Codec Packet Message) (config : ProxyAffinityConfig) (strategy : ProxyAffinityKey) :
    AffinityOperation Message → AffinityTask Unit
  | .lookup message => Counter.lookup affinityShardIndex codec config strategy message >>= fun _ => return ()
  | .lookupKey key => Counter.lookupKey affinityShardIndex config key >>= fun _ => return ()
  | .remember message target => Counter.remember affinityShardIndex codec config strategy message target >>= fun _ => return ()
  | .rememberKey key target ttl => Counter.rememberKey affinityShardIndex config key target ttl >>= fun _ => return ()
  | .snapshot => Counter.snapshot >>= fun _ => return ()
  | .installSnapshot state => Counter.installSnapshot affinityShardIndex state >>= fun _ => return ()
  | .upsertSnapshotBindings snapshots => Counter.upsertSnapshotBindings affinityShardIndex snapshots >>= fun _ => return ()
  | .removeKey key => Counter.removeKey affinityShardIndex key >>= fun _ => return ()
  | .activeLen => Counter.activeLen >>= fun _ => return ()
  | .bindingLen => Counter.bindingLen >>= fun _ => return ()

end Operations

section Sizes

theorem len_keys (bindings : Bindings) : bindings.len = bindings.keys.length := (List.length_map _).symm

theorem len_erase (bindings : Bindings) (key : AffinityKey) :
    Bindings.len (AList.erase key bindings) + (if bindings.lookup key = none then 0 else 1) = bindings.len := by
  rw [len_keys,len_keys,AList.keys_erase,List.length_erase]
  by_cases member : key ∈ bindings.keys
  · have some := List.length_pos_of_mem member
    have present : bindings.lookup key ≠ none := fun absent => AList.lookup_eq_none.mp absent (AList.mem_keys.mpr member)
    rw [if_pos member,if_neg present]
    omega
  · rw [if_neg member,if_pos (AList.lookup_eq_none.mpr fun held => member (AList.mem_keys.mp held))]
    rfl

theorem len_insert (bindings : Bindings) (key : AffinityKey) (binding : AffinityBinding) :
    Bindings.len (AList.insert key binding bindings) = bindings.len + (if bindings.lookup key = none then 1 else 0) := by
  have erased := len_erase bindings key
  rw [len_keys,AList.keys_erase] at erased
  rw [len_keys,AList.keys_insert,List.length_cons]
  split
  · rename_i absent
    rw [if_pos absent] at erased
    omega
  · rename_i present
    rw [if_neg present] at erased
    exact erased

theorem len_pruned (bindings : Bindings) (now : Nat) : (bindings.pruned now).len ≤ bindings.len := List.length_filter_le _ _

end Sizes

section Keeping
open Counted
variable {shard : AffinityShard}

theorem settles_subtractLen {content : Bindings} (enough : count ≤ counted) {next : Unit → Counted.Task AffinityShard Bindings Final}
    (rest : Sound Bindings.len (holding shard content (counted - count)) 0 (next ())) :
    Sound Bindings.len (holding shard content counted) 0 (subtractLen count >>= next) := by
  unfold subtractLen
  split
  · refine .subtract (holding_self shard content counted) enough ?_
    rw [update_holding]
    exact rest
  · have none : count = 0 := by omega
    rw [none,Nat.sub_zero] at rest
    exact rest

theorem settles_addLen {content : Bindings} {next : Unit → Counted.Task AffinityShard Bindings Final}
    (rest : Sound Bindings.len (holding shard content (counted + count)) 0 (next ())) :
    Sound Bindings.len (holding shard content counted) 0 (addLen count >>= next) := by
  refine .add (holding_self shard content counted) ?_
  rw [update_holding]
  exact rest

theorem keeps_pruneAffinity (shard : AffinityShard) (now : Nat) : Keeps Bindings.len shard (pruneAffinity shard now) := by
  refine keeps_edit fun Final next content rest => settles_subtractLen (Nat.sub_le _ _) ?_
  rw [Nat.sub_sub_self (len_pruned content now)]
  exact rest

theorem keeps_insertCounted (shard : AffinityShard) (key : AffinityKey) (binding : AffinityBinding) :
    Keeps Bindings.len shard (insertCounted shard key binding) := by
  apply keeps_edit
  intro Final next content rest
  rw [len_insert] at rest
  split
  · rename_i absent
    rw [if_pos absent] at rest
    exact settles_addLen rest
  · rename_i present
    rw [if_neg present] at rest
    exact rest

theorem keeps_removeCounted (shard : AffinityShard) (key : AffinityKey) : Keeps Bindings.len shard (removeCounted shard key) := by
  apply keeps_edit
  intro Final next content rest
  have erased := len_erase content key
  split
  · rename_i absent
    rw [if_pos absent] at erased
    rw [← erased]
    exact rest
  · rename_i present
    rw [if_neg present] at erased
    apply settles_subtractLen (by omega)
    rw [← erased,Nat.add_sub_cancel]
    exact rest

end Keeping

section Cleaning
open Counted
variable {affinityShardIndex : AffinityKey → Nat}

theorem clean_lookupKeys (now : Nat) (keys : List AffinityKey) : Clean Bindings.len (lookupKeys affinityShardIndex now keys) := by
  induction keys with
  | nil => exact clean_return none
  | cons key keys ih =>
      apply clean_bind (clean_withLock (keeps_pruneAffinity _ now))
      intro bindings
      split
      · exact clean_return _
      · exact ih

theorem clean_rememberKeys (binding : AffinityBinding) (keys : List AffinityKey) :
    Clean Bindings.len (rememberKeys affinityShardIndex binding keys) := by
  induction keys with
  | nil => exact clean_return ()
  | cons key keys ih => exact clean_bind (clean_withLock (keeps_insertCounted _ key binding)) fun _ => ih

theorem clean_pruneShards (now : Nat) (shards : List AffinityShard) : Clean Bindings.len (pruneShards now shards) := by
  induction shards with
  | nil => exact clean_return []
  | cons shard shards ih =>
      exact clean_bind (clean_withLock (keeps_pruneAffinity shard now)) fun _ => clean_bind ih fun _ => clean_return _

theorem clean_upsertBindings (now : Nat) (snapshots : List AffinityBindingSnapshot) :
    Clean Bindings.len (upsertBindings affinityShardIndex now snapshots) := by
  induction snapshots with
  | nil => exact clean_return ()
  | cons snapshot snapshots ih =>
      refine clean_bind (clean_withLock ?_) fun _ => ih
      split
      · exact keeps_removeCounted _ snapshot.key
      · exact keeps_insertCounted _ snapshot.key _

-- The locks of all shards are held from the replacement to the new count.
theorem clean_replaceAll (shardedBindings : AffinityShard → Bindings) : Clean Bindings.len (replaceAll shardedBindings) := by
  intro Final next rest
  unfold replaceAll
  rw [bind_assoc]
  apply sound_lockAll
  intro held locked _
  choose contents all using fun shard => locked shard (List.mem_finRange shard)
  refine .replace all (.store (fun _ => rfl) rfl ?_)
  exact sound_unlockAll (List.nodup_finRange _) (fun shard _ => ⟨shardedBindings shard,rfl⟩)
    (fun shard absent => absurd (List.mem_finRange shard) absent) (rest ())

-- What the removal takes out is owed to the counter until it is taken off.
theorem clean_removeKey (key : AffinityKey) : Clean Bindings.len (removeKey affinityShardIndex key) := by
  intro Final next rest
  refine .lock fun content => .edit (holding_self _ content content.len) (.unlock (Function.update_self ..) ?_ ?_)
  · rw [← len_erase content key]
    exact Nat.le_add_right _ _
  · have erased := len_erase content key
    change Sound Bindings.len (Function.update (Function.update (holding _ content content.len) _ _) _ none) _
      ((if content.lookup key = none then return () else subtractLen 1) >>= next)
    rw [Function.update_idem,update_holding,update_free]
    split
    · rename_i absent
      rw [if_pos absent,Nat.add_zero] at erased
      rw [erased,Nat.sub_self]
      exact rest ()
    · rename_i present
      rw [if_neg present] at erased
      rw [← erased,Nat.add_sub_cancel_left]
      exact .settle (fun _ => rfl) (rest ())

theorem task_sound {Packet Message : Type} (codec : Codec Packet Message) (config : ProxyAffinityConfig) (strategy : ProxyAffinityKey)
    (operation : AffinityOperation Message) :
    Sound Bindings.len (fun _ => none) 0 (operation.task affinityShardIndex codec config strategy) := by
  cases operation with
  | lookup message =>
      apply Clean.sound
      unfold lookup
      split
      · apply clean_bind (clean_lift _)
        intro keys
        split
        · exact clean_return none
        · exact clean_bind clean_clock fun now => clean_lookupKeys now keys
      · exact clean_return none
  | lookupKey key =>
      apply Clean.sound
      unfold lookupKey
      split
      · exact clean_withLock (keeps_bind (keeps_clock _) fun now => keeps_bind (keeps_pruneAffinity _ now) fun _ => keeps_return _ _)
      · exact clean_return none
  | remember message target =>
      apply Clean.sound
      unfold remember
      split
      · apply clean_bind (clean_lift _)
        intro keys
        split
        · exact clean_return []
        · exact clean_bind clean_clock fun now => clean_bind (clean_rememberKeys _ keys) fun _ => clean_return _
      · exact clean_return []
  | rememberKey key target ttl =>
      apply Clean.sound
      unfold rememberKey
      split
      · exact clean_return []
      · exact clean_bind clean_clock fun now => clean_bind (clean_withLock (keeps_insertCounted _ key _)) fun _ => clean_return _
  | snapshot => exact (clean_bind clean_clock fun now => clean_bind (clean_pruneShards now _) fun _ => clean_return _).sound
  | installSnapshot state => exact (clean_bind clean_clock fun now => clean_replaceAll _).sound
  | upsertSnapshotBindings snapshots => exact (clean_bind clean_clock fun now => clean_upsertBindings now snapshots).sound
  | removeKey key => exact (clean_removeKey key).sound
  | activeLen => exact (clean_bind clean_clock fun now => clean_bind (clean_pruneShards now _) fun _ => clean_load).sound
  | bindingLen => exact clean_load.sound

end Cleaning

section Runs
variable {Packet Message : Type}

def emptyTable : Counted.World AffinityShard Bindings := ⟨fun _ => ∅,fun _ => none,0,0⟩

-- Any operations started at any time on a new table, their calls in any order.
def runTable (affinityShardIndex : AffinityKey → Nat) (codec : Codec Packet Message) (config : ProxyAffinityConfig) (strategy : ProxyAffinityKey)
    (actions : List (Counted.Action (AffinityOperation Message))) : Option (Counted.Pool AffinityShard Bindings Unit) :=
  Machine.run (Counted.advance (AffinityOperation.task affinityShardIndex codec config strategy)) (Counted.start emptyTable) actions

-- No snapshot sets the counter while a removal stands between the lock it has given
-- back and the subtraction it owes.
def Uncrossed (affinityShardIndex : AffinityKey → Nat) (codec : Codec Packet Message) (config : ProxyAffinityConfig) (strategy : ProxyAffinityKey)
    (actions : List (Counted.Action (AffinityOperation Message))) : Prop :=
  Machine.Within (Counted.advance (AffinityOperation.task affinityShardIndex codec config strategy))
    (fun pool action => Counted.clear pool action = true) (Counted.start emptyTable) actions

theorem affinity_counter_exact (affinityShardIndex : AffinityKey → Nat) (codec : Codec Packet Message) (config : ProxyAffinityConfig)
    (strategy : ProxyAffinityKey) (actions : List (Counted.Action (AffinityOperation Message)))
    (uncrossed : Uncrossed affinityShardIndex codec config strategy actions)
    (ran : runTable affinityShardIndex codec config strategy actions = some pool) :
    (Counted.quiet pool = true → pool.world.counter = Counted.total Bindings.len pool.world) ∧
      ∀ program ∈ pool.tasks, (Counted.takes program : Int) ≤ pool.world.counter := by
  obtain ⟨counted,owed,accounted⟩ := Counted.run_accounted (task_sound codec config strategy) (w := emptyTable) (fun _ => rfl) (by rfl) uncrossed ran
  exact ⟨accounted.settled,accounted.funded⟩

def rememberA : List (Counted.Action (AffinityOperation Envelope)) :=
  .spawn (.rememberKey ⟨"a"⟩ ⟨upstreamAddr,.udp⟩ 1000) :: List.replicate 5 (.step 0)

-- The removal takes its entry out and gives the lock back, the snapshot sets the
-- counter to none, and then the removal takes one off.
def crossed : List (Counted.Action (AffinityOperation Envelope)) :=
  rememberA ++ .spawn (.removeKey ⟨"a"⟩) :: List.replicate 3 (.step 1) ++ .spawn (.installSnapshot ⟨[]⟩) :: List.replicate 131 (.step 2) ++ [.step 1]

theorem crossed_counter_wraps : ∃ pool, runTable (fun _ => 0) envelopeCodec ⟨true,60⟩ .callId crossed = some pool ∧
    Counted.quiet pool = true ∧ Counted.total Bindings.len pool.world = 0 ∧ pool.world.counter = -1 := by
  have reached : (runTable (fun _ => 0) envelopeCodec ⟨true,60⟩ .callId crossed).map
      (fun pool => (Counted.quiet pool,Counted.total Bindings.len pool.world,pool.world.counter)) = some (true,0,-1) := by decide +kernel
  obtain ⟨pool,ran,facts⟩ := Option.map_eq_some_iff.mp reached
  simp only [Prod.mk.injEq] at facts
  exact ⟨pool,ran,facts⟩

-- The removal pays before the snapshot has all the locks.
def paidInTime : List (Counted.Action (AffinityOperation Envelope)) :=
  rememberA ++ .spawn (.removeKey ⟨"a"⟩) :: List.replicate 3 (.step 1) ++ .spawn (.installSnapshot ⟨[⟨⟨"b"⟩,⟨upstreamAddr,.udp⟩,1000⟩]⟩) ::
    List.replicate 40 (.step 2) ++ .step 1 :: List.replicate 91 (.step 2)

theorem paid_in_time_counted : ∃ pool, runTable (fun _ => 0) envelopeCodec ⟨true,60⟩ .callId paidInTime = some pool ∧
    pool.world.counter = Counted.total Bindings.len pool.world := by
  have reached : (runTable (fun _ => 0) envelopeCodec ⟨true,60⟩ .callId paidInTime).map Counted.quiet = some true := by decide +kernel
  have uncrossed : Uncrossed (fun _ => 0) envelopeCodec ⟨true,60⟩ .callId paidInTime := by
    unfold Uncrossed
    decide +kernel
  obtain ⟨pool,ran,quiet⟩ := Option.map_eq_some_iff.mp reached
  exact ⟨pool,ran,(affinity_counter_exact (fun _ => 0) envelopeCodec ⟨true,60⟩ .callId paidInTime uncrossed ran).1 quiet⟩

end Runs
end Sigproxy.Affinity.Counter
