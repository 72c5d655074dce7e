import Sigproxy.Persistence

namespace Sigproxy.Proxy
open Library Cluster Affinity Persistence

structure HaStateSnapshot where
  lastSeq : Nat
  checksum : String
  contacts : ContactStateSnapshot
  affinity : AffinityStateSnapshot
  deriving DecidableEq, Repr

-- The FNV-1a digest of the sorted contents is left open here.
def HaStateSnapshot.checksumIsValid (computeChecksum : HaStateSnapshot → String) (snapshot : HaStateSnapshot) : Bool :=
  snapshot.checksum.isEmpty || snapshot.checksum == computeChecksum snapshot

-- The replicated part of the server: what HA snapshots and events carry.
structure ProxyState where
  state : SharedState
  affinity : AffinityTable
  persistence : Option Database

namespace ProxyState

def new (config : ProxyAffinityConfig) (persistence : Option Database) : ProxyState :=
  ⟨.empty,.new config,persistence⟩

-- The memory half of apply_ha_event.
def applyHaEventToMemory (server : ProxyState) (now : Nat) (event : HaEventRecord) : ProxyState :=
  match event.payload with
  | .registerContact binding =>
    if binding.isExpired now then server
    else {server with state:=server.state.apply (.registerContact binding)}
  | .unregisterContact aor => {server with state:=server.state.apply (.unregisterContact aor)}
  | .upsertAffinity binding => {server with affinity:=server.affinity.upsertSnapshotBindings now [binding]}
  | .removeAffinity key => {server with affinity:=server.affinity.removeKey key}

def persistHaEvent (server : ProxyState) (now : Nat) (event : HaEventRecord) : ProxyState :=
  {server with persistence:=server.persistence.map (·.applyEventWithoutAppend now event)}

@[simp] theorem applyHaEventToMemory_persistence (server : ProxyState) (now : Nat) (event : HaEventRecord) :
    (server.applyHaEventToMemory now event).persistence = server.persistence := by
  unfold applyHaEventToMemory
  cases event.payload with
  | registerContact binding => dsimp only; split <;> rfl
  | _ => rfl

-- `now` is what the memory tables read from the clock, `persistNow` what the
-- transaction reads afterwards.
def applyHaEvent (server : ProxyState) (now persistNow : Nat) (event : HaEventRecord) : ProxyState :=
  (server.applyHaEventToMemory now event).persistHaEvent persistNow event

@[simp] theorem applyHaEvent_state (server : ProxyState) (now persistNow : Nat) (event : HaEventRecord) :
    (server.applyHaEvent now persistNow event).state = (server.applyHaEventToMemory now event).state := rfl

@[simp] theorem applyHaEvent_affinity (server : ProxyState) (now persistNow : Nat) (event : HaEventRecord) :
    (server.applyHaEvent now persistNow event).affinity = (server.applyHaEventToMemory now event).affinity := rfl

def lastAppliedHaEventSeq (server : ProxyState) : Nat :=
  (server.persistence.bind Database.lastAppliedSeq).getD 0

-- The three stages of install_state_snapshot; the first two are also what
-- restore_persistent_state does with the snapshot it has loaded.
def installContacts (server : ProxyState) (now : Nat) (snapshot : HaStateSnapshot) : ProxyState :=
  {server with state:=.installSnapshot now snapshot.contacts}

def installAffinity (server : ProxyState) (now : Nat) (snapshot : HaStateSnapshot) : ProxyState :=
  {server with affinity:=server.affinity.installSnapshot now snapshot.affinity}

def persistSnapshot (server : ProxyState) (now : Nat) (snapshot : HaStateSnapshot) : ProxyState :=
  let install (db : Database) := db.installSnapshot now snapshot.lastSeq snapshot.contacts snapshot.affinity
  {server with persistence:=server.persistence.map install}

end ProxyState

-- The two tables are read at clock readings of their own.
def loadSnapshot (digest : Nat → ContactStateSnapshot → AffinityStateSnapshot → String) (db : Database) (contactsAt affinityAt : Nat) :
    Except String HaStateSnapshot := do
  let lastSeq := db.latestEventSeq
  let contacts := db.loadContacts contactsAt
  let affinity ← db.loadAffinity affinityAt
  return ⟨lastSeq,digest lastSeq contacts affinity,contacts,affinity⟩

section Writes
variable (now : Nat)

-- What an event writes to the tables in memory: a contact that has expired is
-- passed over, an affinity binding that has expired takes the old one with it.
def contactWrite : HaEventPayload → Option (Table.Write String ContactBinding)
  | .registerContact binding => if binding.isExpired now then none else some (.put binding.aor binding)
  | .unregisterContact aor => some (.drop aor)
  | _ => none

def affinityWrite : HaEventPayload → Option (Table.Write AffinityKey AffinityBinding)
  | .upsertAffinity binding =>
    some (if binding.expiresAtEpochMs ≤ now then .drop binding.key
      else .put binding.key ⟨binding.target,AffinityTable.expiryFrom now binding.expiresAtEpochMs⟩)
  | .removeAffinity key => some (.drop key)
  | _ => none

theorem memory_contacts (server : ProxyState) (event : HaEventRecord) :
    (server.applyHaEventToMemory now event).state.contacts = server.state.contacts.replay (contactWrite now event.payload).toList := by
  unfold ProxyState.applyHaEventToMemory contactWrite
  cases event.payload with
  | registerContact binding => cases expired : binding.isExpired now <;> simp [expired,Table.replay,Table.write,SharedState.apply]
  | _ => simp [Table.replay,Table.write,SharedState.apply]

theorem memory_affinity (server : ProxyState) (event : HaEventRecord) :
    (server.applyHaEventToMemory now event).affinity.bindings = server.affinity.bindings.replay (affinityWrite now event.payload).toList := by
  unfold ProxyState.applyHaEventToMemory affinityWrite
  cases event.payload with
  | registerContact binding => cases expired : binding.isExpired now <;> simp [expired,Table.replay]
  | upsertAffinity binding =>
      simp only [AffinityTable.upsertSnapshotBindings,AffinityTable.upsertSnapshotBinding,List.foldl_cons,List.foldl_nil,
        Option.toList_some,Table.replay]
      split <;> rfl
  | _ => simp [Table.replay,Table.write,AffinityTable.removeKey]

-- What an event writes to the tables on disk: both kinds pass over a binding that
-- has expired.
def contactRowWrite (event : HaEventRecord) : Option (Table.Write String ContactRow) :=
  match event.payload with
  | .registerContact binding =>
    if binding.isExpired now then none
    else some (.put binding.aor ⟨binding.contact,binding.source,binding.expiresAtEpochMs,some event.seq⟩)
  | .unregisterContact aor => some (.drop aor)
  | _ => none

def affinityRowWrite (event : HaEventRecord) : Option (Table.Write AffinityKey AffinityRow) :=
  match event.payload with
  | .upsertAffinity binding =>
    if now < binding.expiresAtEpochMs then some (.put binding.key ⟨binding.target,binding.expiresAtEpochMs,some event.seq⟩) else none
  | .removeAffinity key => some (.drop key)
  | _ => none

theorem disk_contacts (db : Database) (event : HaEventRecord) :
    (db.applyEventWithoutAppend now event).contacts = db.contacts.replay (contactRowWrite now event).toList := by
  unfold Database.applyEventWithoutAppend contactRowWrite
  cases event.payload with
  | registerContact binding =>
      cases expired : binding.isExpired now <;> simp [expired,Table.replay,Table.write,Database.upsertContact]
  | upsertAffinity binding =>
      by_cases alive : now < binding.expiresAtEpochMs <;> simp [alive,Table.replay,Database.upsertAffinityBinding]
  | _ => simp [Table.replay,Table.write,Database.deleteContact,Database.deleteAffinity]

theorem disk_affinity (db : Database) (event : HaEventRecord) :
    (db.applyEventWithoutAppend now event).affinity = db.affinity.replay (affinityRowWrite now event).toList := by
  unfold Database.applyEventWithoutAppend affinityRowWrite
  cases event.payload with
  | registerContact binding =>
      cases expired : binding.isExpired now <;> simp [expired,Table.replay,Database.upsertContact]
  | upsertAffinity binding =>
      by_cases alive : now < binding.expiresAtEpochMs <;> simp [alive,Table.replay,Table.write,Database.upsertAffinityBinding]
  | _ => simp [Table.replay,Table.write,Database.deleteContact,Database.deleteAffinity]

variable {now}

theorem contactWrite_put (written : contactWrite now payload = some (.put aor binding)) :
    binding.aor = aor ∧ binding.isExpired now = false := by
  cases payload with
  | registerContact registered =>
      simp only [contactWrite] at written
      split at written
      · cases written
      · rename_i alive
        cases written
        exact ⟨rfl,by simpa using alive⟩
  | _ => cases written

theorem affinityWrite_put : affinityWrite now payload = some (.put key binding) ↔
    ∃ snapshot, payload = .upsertAffinity snapshot ∧ now < snapshot.expiresAtEpochMs ∧ snapshot.key = key ∧
      binding = ⟨snapshot.target,AffinityTable.expiryFrom now snapshot.expiresAtEpochMs⟩ := by
  cases payload with
  | upsertAffinity snapshot =>
      simp only [affinityWrite,Option.some.injEq,HaEventPayload.upsertAffinity.injEq,exists_eq_left']
      split
      · rename_i expired
        simp [Nat.not_lt.mpr expired]
      · rename_i alive
        simp only [Table.Write.put.injEq,Nat.lt_of_not_le alive,true_and,eq_comm]
  | _ => simp [affinityWrite]

theorem affinityRowWrite_put (written : affinityRowWrite now event = some (.put key row)) :
    ∃ snapshot, event.payload = .upsertAffinity snapshot ∧ now < snapshot.expiresAtEpochMs ∧
      row = ⟨snapshot.target,snapshot.expiresAtEpochMs,some event.seq⟩ := by
  unfold affinityRowWrite at written
  cases payload : event.payload with
  | upsertAffinity snapshot =>
      rw [payload] at written
      dsimp only at written
      split at written
      · rename_i alive
        cases written
        exact ⟨snapshot,rfl,alive,rfl⟩
      · cases written
  | _ => rw [payload] at written; cases written

end Writes

end Sigproxy.Proxy
