import Mathlib.Algebra.Ring.Nat
import Sigproxy.Library.Table
import Sigproxy.Net

namespace Sigproxy.Affinity
open Library Net

structure AffinityTarget where
  addr : SocketAddr
  transport : SipTransport
  deriving DecidableEq, Repr

structure AffinityKey where
  value : String
  deriving DecidableEq, Repr

structure AffinityBindingSnapshot where
  key : AffinityKey
  target : AffinityTarget
  expiresAtEpochMs : Nat
  deriving DecidableEq, Repr

structure AffinityStateSnapshot where
  bindings : List AffinityBindingSnapshot
  deriving DecidableEq, Repr

structure AffinityBinding where
  target : AffinityTarget
  expiresAt : Nat
  deriving DecidableEq, Repr

structure ProxyAffinityConfig where
  enabled : Bool
  ttlSeconds : Nat
  deriving DecidableEq, Repr

-- The 64 shards are one map here: a key always falls in the same shard. Instants
-- are milliseconds on the clock that also gives the epoch time.
structure AffinityTable where
  config : ProxyAffinityConfig
  bindings : Table AffinityKey AffinityBinding

namespace AffinityTable

def new (config : ProxyAffinityConfig) : AffinityTable := ⟨config,∅⟩

def prune (table : AffinityTable) (now : Nat) : AffinityTable :=
  {table with bindings:=table.bindings.retain fun _ binding => decide (now < binding.expiresAt)}

def lookupKey (table : AffinityTable) (now : Nat) (key : AffinityKey) : Option AffinityTarget × AffinityTable :=
  if table.config.enabled then
    let pruned := table.prune now
    ((pruned.bindings.lookup key).map AffinityBinding.target,pruned)
  else (none,table)

-- The body of `remember` for the keys of a message.
def rememberKeys (table : AffinityTable) (now : Nat) (keys : List AffinityKey) (target : AffinityTarget) :
    List AffinityBindingSnapshot × AffinityTable :=
  if table.config.enabled then
    let expiresAt := now + table.config.ttlSeconds * 1000
    (keys.map fun key => ⟨key,target,expiresAt⟩,
      {table with bindings:=keys.foldl (fun bindings key => bindings.insert key ⟨target,expiresAt⟩) table.bindings})
  else ([],table)

def rememberKey (table : AffinityTable) (now : Nat) (key : AffinityKey) (target : AffinityTarget) (ttl : Nat) :
    List AffinityBindingSnapshot × AffinityTable :=
  if !table.config.enabled || ttl == 0 then ([],table)
  else ([⟨key,target,now + ttl⟩],{table with bindings:=table.bindings.insert key ⟨target,now + ttl⟩})

def snapshot (table : AffinityTable) (now : Nat) : AffinityStateSnapshot × AffinityTable :=
  let pruned := table.prune now
  (⟨pruned.bindings.entries.map fun entry => ⟨entry.1,entry.2.target,now + (entry.2.expiresAt - now)⟩⟩,pruned)

-- The remaining lifetime passes through `as u64`.
def expiryFrom (now expiresAtEpochMs : Nat) : Nat := now + (expiresAtEpochMs - now) % 2 ^ 64

def installSnapshot (table : AffinityTable) (now : Nat) (snapshot : AffinityStateSnapshot) : AffinityTable :=
  let kept := snapshot.bindings.filter fun binding => decide (now < binding.expiresAtEpochMs)
  {table with bindings:=Table.collect (kept.map fun binding =>
    (binding.key,⟨binding.target,expiryFrom now binding.expiresAtEpochMs⟩))}

def upsertSnapshotBinding (now : Nat) (bindings : Table AffinityKey AffinityBinding)
    (snapshot : AffinityBindingSnapshot) : Table AffinityKey AffinityBinding :=
  if snapshot.expiresAtEpochMs ≤ now then bindings.erase snapshot.key
  else bindings.insert snapshot.key ⟨snapshot.target,expiryFrom now snapshot.expiresAtEpochMs⟩

def upsertSnapshotBindings (table : AffinityTable) (now : Nat) (snapshots : List AffinityBindingSnapshot) :
    AffinityTable :=
  {table with bindings:=snapshots.foldl (upsertSnapshotBinding now) table.bindings}

def removeKey (table : AffinityTable) (key : AffinityKey) : AffinityTable :=
  {table with bindings:=table.bindings.erase key}

-- The target that a lookup at `now` answers with, were the table enabled.
def live (table : AffinityTable) (now : Nat) (key : AffinityKey) : Option AffinityTarget :=
  (((table.prune now).bindings.lookup key).map AffinityBinding.target)

theorem live_eq (table : AffinityTable) (now : Nat) (key : AffinityKey) :
    table.live now key =
      ((table.bindings.lookup key).filter fun binding => decide (now < binding.expiresAt)).map AffinityBinding.target := by
  simp [live,prune,Table.lookup_retain]

end AffinityTable
end Sigproxy.Affinity
