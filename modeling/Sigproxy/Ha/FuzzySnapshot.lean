import Sigproxy.Proxy.State

namespace Sigproxy.Ha.FuzzySnapshot
open Library Cluster Affinity Persistence Proxy

-- The checksum is a digest of the other three fields.
variable (digest : Nat → ContactStateSnapshot → AffinityStateSnapshot → String)

def computeChecksum (snapshot : HaStateSnapshot) : String := digest snapshot.lastSeq snapshot.contacts snapshot.affinity

-- `lastSeq` is what the log answered before the tables were read.
def snapshotState (server : ProxyState) (now lastSeq : Nat) : HaStateSnapshot :=
  let contacts := (server.state.snapshot now).1
  let affinity := (server.affinity.snapshot now).1
  ⟨lastSeq,digest lastSeq contacts affinity,contacts,affinity⟩

def installStateSnapshot (server : ProxyState) (now : Nat) (snapshot : HaStateSnapshot) : Bool × ProxyState :=
  if snapshot.checksumIsValid (computeChecksum digest) then
    (true,((server.installContacts now snapshot).installAffinity now snapshot).persistSnapshot now snapshot)
  else (false,server)

def applyHaEvents (now : Nat) (server : ProxyState) (events : List HaEventRecord) : ProxyState :=
  events.foldl (fun server event => server.applyHaEvent now now event) server

section Tables
variable {now : Nat}

theorem applyHaEvents_contacts (server : ProxyState) (events : List HaEventRecord) :
    (applyHaEvents now server events).state.contacts =
      server.state.contacts.replay (events.filterMap fun event => contactWrite now event.payload) := by
  induction events generalizing server with
  | nil => rfl
  | cons event rest ih =>
      change (applyHaEvents now (server.applyHaEvent now now event) rest).state.contacts = _
      rw [ih,ProxyState.applyHaEvent_state,memory_contacts]
      cases written : contactWrite now event.payload <;> simp [written,Table.replay]

theorem applyHaEvents_affinity (server : ProxyState) (events : List HaEventRecord) :
    (applyHaEvents now server events).affinity.bindings =
      server.affinity.bindings.replay (events.filterMap fun event => affinityWrite now event.payload) := by
  induction events generalizing server with
  | nil => rfl
  | cons event rest ih =>
      change (applyHaEvents now (server.applyHaEvent now now event) rest).affinity.bindings = _
      rw [ih,ProxyState.applyHaEvent_affinity,memory_affinity]
      cases written : affinityWrite now event.payload <;> simp [written,Table.replay]

end Tables

section Installing
variable {server : ProxyState} {now : Nat}

-- What was written at one clock value survives a snapshot at that value whole.
theorem installed_contacts (written : ∀ aor binding, server.state.contacts.lookup aor = some binding →
    binding.aor = aor ∧ binding.isExpired now = false) (aor : String) :
    (SharedState.installSnapshot now (server.state.snapshot now).1).contacts.lookup aor = server.state.contacts.lookup aor := by
  have keyed : SharedState.Keyed server.state := fun aor binding found => (written aor binding found).1
  have rebuilt : (SharedState.installSnapshot now (server.state.snapshot now).1).contacts.lookup aor =
      ((server.state.snapshot now).2.contacts.lookup aor).filter fun binding => !binding.isExpired now :=
    Table.lookup_collect_values (SharedState.snapshot_keyed keyed now) _ aor
  rw [rebuilt]
  simp only [SharedState.snapshot,SharedState.retainUnexpired,Table.lookup_retain]
  cases found : server.state.contacts.lookup aor with
  | none => rfl
  | some binding => simp [Option.filter,(written aor binding found).2]

-- Of the affinity bindings those survive that have any time left.
theorem installed_affinity (table : AffinityTable) (bounded : ∀ key binding, server.affinity.bindings.lookup key = some binding →
    binding.expiresAt < now + 2 ^ 64) (key : AffinityKey) :
    (table.installSnapshot now (server.affinity.snapshot now).1).bindings.lookup key =
      (server.affinity.bindings.lookup key).filter fun binding => decide (now < binding.expiresAt) := by
  refine @Table.lookup_collect_graph _ _ _ _
    (fun key => (server.affinity.bindings.lookup key).filter fun binding => decide (now < binding.expiresAt)) (fun key binding => ?_) key
  have same (binding : AffinityBinding) (alive : now < binding.expiresAt) (bound : binding.expiresAt < now + 2 ^ 64) :
      AffinityTable.expiryFrom now (now + (binding.expiresAt - now)) = binding.expiresAt := by
    unfold AffinityTable.expiryFrom
    rw [Nat.mod_eq_of_lt (by omega)]
    omega
  simp only [List.mem_map,List.mem_filter,AffinityTable.snapshot,AffinityTable.prune,Table.retain,Option.filter_eq_some_iff,
    Prod.mk.injEq,decide_eq_true_eq]
  constructor
  · intro given
    rcases given with ⟨_,⟨⟨⟨key,binding⟩,⟨listed,alive⟩,rfl⟩,_⟩,rfl,rfl⟩
    have found := Table.lookup_iff_mem.mpr listed
    rw [same binding alive (bounded key binding found)]
    exact ⟨found,alive⟩
  · intro both
    rcases both with ⟨found,alive⟩
    refine ⟨_,⟨⟨⟨key,binding⟩,⟨Table.lookup_iff_mem.mp found,alive⟩,rfl⟩,?_⟩,rfl,?_⟩
    · dsimp only
      omega
    · dsimp only
      rw [same binding alive (bounded key binding found)]

end Installing

section Convergence

structure SameTables (first second : ProxyState) : Prop where
  contacts : ∀ aor, first.state.contacts.lookup aor = second.state.contacts.lookup aor
  affinity : ∀ key, first.affinity.bindings.lookup key = second.affinity.bindings.lookup key

-- The state that the first events of the log lead to.
def reached (config : ProxyAffinityConfig) (now : Nat) (events : List HaEventRecord) : ProxyState :=
  applyHaEvents now (.new config none) events

-- The snapshot of that state on the standby, and the rest of the log on top of it.
def resynced (standby server : ProxyState) (now lastSeq : Nat) (events : List HaEventRecord) : ProxyState :=
  applyHaEvents now (installStateSnapshot digest standby now (snapshotState digest server now lastSeq)).2 events

-- A lifetime that is lost in the cast to u64: the binding enters the table expired.
def Wraps (now : Nat) (binding : AffinityBindingSnapshot) : Prop :=
  now < binding.expiresAtEpochMs ∧ (binding.expiresAtEpochMs - now) % 2 ^ 64 = 0

def affinityKey : HaEventPayload → Option AffinityKey
  | .upsertAffinity binding => some binding.key
  | .removeAffinity key => some key
  | _ => none

-- None of the first `lastSeq` events leaves such a binding for the rest of the log.
def Lasting (now lastSeq : Nat) (events : List HaEventRecord) : Prop :=
  ∀ before event after binding, events = before ++ event :: after → before.length < lastSeq →
    event.payload = .upsertAffinity binding → (∀ other ∈ after, affinityKey other.payload ≠ some binding.key) → ¬ Wraps now binding

variable {config : ProxyAffinityConfig} {now : Nat}

theorem reached_contact {events : List HaEventRecord} (found : (reached config now events).state.contacts.lookup aor = some binding) :
    binding.aor = aor ∧ binding.isExpired now = false := by
  rw [reached,applyHaEvents_contacts] at found
  obtain ⟨_,_,written⟩ := Table.lookup_replay_put found
  exact contactWrite_put written

theorem affinityWrite_key : affinityWrite now payload = some change → affinityKey payload = some change.key := by
  intro written
  cases payload with
  | upsertAffinity binding =>
      cases written
      dsimp only [affinityKey]
      split <;> rfl
  | removeAffinity key => cases written; rfl
  | _ => cases written

theorem affinityWrite_none : affinityWrite now payload = none ↔ affinityKey payload = none := by
  cases payload <;> simp [affinityWrite,affinityKey]

theorem unwritten_iff {events : List HaEventRecord} : (∀ other ∈ events, ∀ change, affinityWrite now other.payload = some change → change.key ≠ key) ↔
    ∀ other ∈ events, affinityKey other.payload ≠ some key := by
  apply forall₂_congr
  intro other _
  cases written : affinityWrite now other.payload with
  | none => simp [affinityWrite_none.mp written]
  | some change => simp [affinityWrite_key written]

theorem reached_affinity {events : List HaEventRecord} : (reached config now events).affinity.bindings.lookup key = some binding ↔
    ∃ before event after snapshot, events = before ++ event :: after ∧ event.payload = .upsertAffinity snapshot ∧
      now < snapshot.expiresAtEpochMs ∧ snapshot.key = key ∧
      binding = ⟨snapshot.target,AffinityTable.expiryFrom now snapshot.expiresAtEpochMs⟩ ∧
      ∀ other ∈ after, affinityKey other.payload ≠ some key := by
  rw [reached,applyHaEvents_affinity]
  apply Table.lookup_replay_last.trans
  simp only [affinityWrite_put,unwritten_iff]
  constructor
  · intro given
    rcases given with ⟨before,event,after,rfl,⟨snapshot,payload,alive,named,rfl⟩,quiet⟩
    exact ⟨before,event,after,snapshot,rfl,payload,alive,named,rfl,quiet⟩
  · intro given
    rcases given with ⟨before,event,after,snapshot,rfl,payload,alive,named,rfl,quiet⟩
    exact ⟨before,event,after,rfl,⟨snapshot,payload,alive,named,rfl⟩,quiet⟩

theorem reached_bounded {events : List HaEventRecord} (found : (reached config now events).affinity.bindings.lookup key = some binding) :
    binding.expiresAt < now + 2 ^ 64 := by
  obtain ⟨_,_,_,snapshot,_,_,_,_,rfl,_⟩ := reached_affinity.mp found
  have below := Nat.mod_lt (snapshot.expiresAtEpochMs - now) (Nat.two_pow_pos 64)
  dsimp only [AffinityTable.expiryFrom]
  omega

section Resynced
variable (standby server : ProxyState) (lastSeq : Nat) (events : List HaEventRecord)

theorem installed_snapshotState : installStateSnapshot digest standby now (snapshotState digest server now lastSeq) =
    (true,((standby.installContacts now (snapshotState digest server now lastSeq)).installAffinity now
      (snapshotState digest server now lastSeq)).persistSnapshot now (snapshotState digest server now lastSeq)) := by
  rw [installStateSnapshot,if_pos]
  simp [HaStateSnapshot.checksumIsValid,computeChecksum,snapshotState]

theorem resynced_contactTable : (resynced digest standby server now lastSeq events).state.contacts =
    (SharedState.installSnapshot now (server.state.snapshot now).1).contacts.replay
      (events.filterMap fun event => contactWrite now event.payload) := by
  rw [resynced,applyHaEvents_contacts,installed_snapshotState]
  rfl

theorem resynced_affinityTable : (resynced digest standby server now lastSeq events).affinity.bindings =
    (standby.affinity.installSnapshot now (server.affinity.snapshot now).1).bindings.replay
      (events.filterMap fun event => affinityWrite now event.payload) := by
  rw [resynced,applyHaEvents_affinity,installed_snapshotState]
  rfl

end Resynced

variable (early middle late : List HaEventRecord) (standby : ProxyState) (lastSeq : Nat)

theorem resynced_contacts (aor : String) :
    (resynced digest standby (reached config now (early ++ middle)) now lastSeq (middle ++ late)).state.contacts.lookup aor =
      (reached config now (early ++ middle ++ late)).state.contacts.lookup aor := by
  rw [resynced_contactTable]
  have whole (aor : String) := @installed_contacts (reached config now (early ++ middle)) now (fun _ _ => reached_contact) aor
  apply (Table.lookup_replay_congr whole _ aor).trans
  simp only [reached,applyHaEvents_contacts,List.filterMap_append]
  exact Table.lookup_replay_overlap _ _ _ _ aor

theorem lastWrite_eq_none (now : Nat) (events : List HaEventRecord) :
    Table.lastWrite key (events.filterMap fun event => affinityWrite now event.payload) = none ↔
      ∀ event ∈ events, affinityKey event.payload ≠ some key := by
  rw [Table.lastWrite_eq_none,← unwritten_iff]
  simp only [List.mem_filterMap,forall_exists_index,and_imp]
  exact ⟨fun all event member change written => all change event member written,
    fun all change event member written => all event member change written⟩

-- A binding that the rest of the log does not touch has been through the snapshot.
theorem resynced_affinity (key : AffinityKey) :
    (resynced digest standby (reached config now (early ++ middle)) now lastSeq (middle ++ late)).affinity.bindings.lookup key =
      if ∀ event ∈ middle ++ late, affinityKey event.payload ≠ some key then
        ((reached config now early).affinity.bindings.lookup key).filter fun binding => decide (now < binding.expiresAt)
      else (reached config now (early ++ middle ++ late)).affinity.bindings.lookup key := by
  rw [resynced_affinityTable,Table.lookup_replay,
    installed_affinity standby.affinity fun _ _ => reached_bounded]
  simp only [reached,applyHaEvents_affinity,List.filterMap_append,Table.lookup_replay,Table.lastWrite_append]
  split
  · rename_i quiet
    have inMiddle := (lastWrite_eq_none now middle).mpr fun event member => quiet event (List.mem_append_left _ member)
    have inLate := (lastWrite_eq_none now late).mpr fun event member => quiet event (List.mem_append_right _ member)
    rw [inMiddle,inLate]
    rfl
  · rename_i touched
    cases inLate : Table.lastWrite key (late.filterMap fun event => affinityWrite now event.payload) with
    | some change => rfl
    | none =>
        cases inMiddle : Table.lastWrite key (middle.filterMap fun event => affinityWrite now event.payload) with
        | some change => rfl
        | none =>
            refine absurd (fun event member => ?_) touched
            rcases List.mem_append.mp member with inside | inside
            · exact (lastWrite_eq_none now middle).mp inMiddle event inside
            · exact (lastWrite_eq_none now late).mp inLate event inside

theorem reached_quiet (quiet : ∀ event ∈ middle ++ late, affinityKey event.payload ≠ some key) :
    (reached config now (early ++ middle ++ late)).affinity.bindings.lookup key = (reached config now early).affinity.bindings.lookup key := by
  have silent := (lastWrite_eq_none now (middle ++ late)).mpr quiet
  rw [List.append_assoc]
  simp only [reached,applyHaEvents_affinity,Table.lookup_replay]
  rw [List.filterMap_append,Table.lastWrite_append,silent]
  rfl

theorem same_iff_lasting : SameTables (resynced digest standby (reached config now (early ++ middle)) now lastSeq (middle ++ late))
    (reached config now (early ++ middle ++ late)) ↔ Lasting now early.length (early ++ middle ++ late) := by
  constructor
  · intro both before event after binding whole inside payload quiet pair
    rcases both with ⟨_,same⟩
    rcases pair with ⟨alive,lost⟩
    obtain ⟨between,rfl,rfl⟩ : ∃ between, early = before ++ event :: between ∧ after = between ++ (middle ++ late) := by
      rw [List.append_assoc,List.append_eq_append_iff] at whole
      rcases whole with ⟨rest,rfl,_⟩ | ⟨rest,rfl,tail⟩
      · rw [List.length_append] at inside
        omega
      · cases rest with
        | nil => simp at inside
        | cons first between => cases tail; exact ⟨between,rfl,rfl⟩
    have stored : (reached config now (before ++ event :: between)).affinity.bindings.lookup binding.key =
        some ⟨binding.target,AffinityTable.expiryFrom now binding.expiresAtEpochMs⟩ :=
      reached_affinity.mpr ⟨before,event,between,binding,rfl,payload,alive,rfl,rfl,
        fun other member => quiet other (List.mem_append_left _ member)⟩
    have outside : ∀ other ∈ middle ++ late, affinityKey other.payload ≠ some binding.key :=
      fun other member => quiet other (List.mem_append_right _ member)
    have kept := same binding.key
    have spent : AffinityTable.expiryFrom now binding.expiresAtEpochMs = now := by
      rw [AffinityTable.expiryFrom,lost,Nat.add_zero]
    rw [resynced_affinity,if_pos outside,reached_quiet _ _ _ outside,stored,spent] at kept
    simp at kept
  · intro lasting
    refine ⟨resynced_contacts digest early middle late standby lastSeq,fun key => ?_⟩
    rw [resynced_affinity]
    split
    · rename_i quiet
      rw [reached_quiet _ _ _ quiet]
      cases stored : (reached config now early).affinity.bindings.lookup key with
      | none => rfl
      | some binding =>
          obtain ⟨before,event,after,snapshot,rfl,payload,alive,rfl,rfl,silent⟩ := reached_affinity.mp stored
          have whole := lasting before event (after ++ (middle ++ late)) snapshot (by simp) (by simp) payload
            (fun other member => (List.mem_append.mp member).elim (silent other) (quiet other))
          have left : (snapshot.expiresAtEpochMs - now) % 2 ^ 64 ≠ 0 := fun lost => whole ⟨alive,lost⟩
          have lives : now < AffinityTable.expiryFrom now snapshot.expiresAtEpochMs := by
            unfold AffinityTable.expiryFrom
            omega
          simp [lives]
    · rfl

theorem resynced_live (later : now ≤ time) (key : AffinityKey) :
    (resynced digest standby (reached config now (early ++ middle)) now lastSeq (middle ++ late)).affinity.live time key =
      (reached config now (early ++ middle ++ late)).affinity.live time key := by
  rw [AffinityTable.live_eq,AffinityTable.live_eq,resynced_affinity]
  split
  · rename_i quiet
    rw [reached_quiet _ _ _ quiet,Option.filter_filter]
    congr 2
    funext binding
    rw [Bool.eq_iff_iff]
    simp only [Bool.and_eq_true,decide_eq_true_eq]
    omega
  · rfl

theorem fuzzy_snapshot_converges (config : ProxyAffinityConfig) (now : Nat) (events : List HaEventRecord) (lastSeq taken : Nat)
    (fuzzy : lastSeq ≤ taken) (within : taken ≤ events.length) (standby : ProxyState) :
    (installStateSnapshot digest standby now (snapshotState digest (reached config now (events.take taken)) now lastSeq)).1 = true ∧
    (SameTables (resynced digest standby (reached config now (events.take taken)) now lastSeq (events.drop lastSeq))
      (reached config now events) ↔ Lasting now lastSeq events) ∧
    ∀ time, now ≤ time →
      (∀ aor, (resynced digest standby (reached config now (events.take taken)) now lastSeq (events.drop lastSeq)).state.live time aor =
        (reached config now events).state.live time aor) ∧
      ∀ key, (resynced digest standby (reached config now (events.take taken)) now lastSeq (events.drop lastSeq)).affinity.live time key =
        (reached config now events).affinity.live time key := by
  obtain ⟨early,middle,late,rfl,rfl,rfl⟩ : ∃ early middle late, events = early ++ middle ++ late ∧ lastSeq = early.length ∧
      taken = (early ++ middle).length := by
    have front : events.take lastSeq ++ (events.drop lastSeq).take (taken - lastSeq) = events.take taken := by
      rw [← List.take_add,Nat.add_sub_cancel' fuzzy]
    refine ⟨events.take lastSeq,(events.drop lastSeq).take (taken - lastSeq),events.drop taken,?_,?_,?_⟩
    · rw [front,List.take_append_drop]
    · rw [List.length_take]
      omega
    · rw [front,List.length_take]
      omega
  have back : (early ++ middle ++ late).drop early.length = middle ++ late := by
    rw [List.append_assoc,List.drop_left]
  rw [List.take_left,back]
  refine ⟨by rw [installed_snapshotState],same_iff_lasting digest early middle late standby early.length,fun time later => ⟨fun aor => ?_,?_⟩⟩
  · rw [SharedState.live_eq,SharedState.live_eq,resynced_contacts]
  · exact resynced_live digest early middle late standby early.length later

-- A binding for exactly 2^64 ms: the leader holds it, expired; the snapshot leaves it out.
def endless : HaEventRecord := ⟨1,.upsertAffinity ⟨⟨"call-id:a"⟩,⟨⟨.v4 0x0a000001,5060⟩,.udp⟩,2 ^ 64⟩,0⟩

theorem endless_binding_dropped :
    ¬ SameTables (resynced (fun _ _ _ => "") (.new ⟨true,60⟩ none) (reached ⟨true,60⟩ 0 [endless]) 0 1 [])
      (reached ⟨true,60⟩ 0 [endless]) := by
  intro both
  rcases both with ⟨_,affinity⟩
  have kept := affinity ⟨"call-id:a"⟩
  revert kept
  decide +kernel

def hourly : HaEventRecord := ⟨1,.upsertAffinity ⟨⟨"call-id:a"⟩,⟨⟨.v4 0x0a000001,5060⟩,.udp⟩,3600000⟩,0⟩
def dropped : HaEventRecord := ⟨2,.removeAffinity ⟨"call-id:a"⟩,0⟩

theorem overlapping_suffix_harmless :
    SameTables (resynced (fun _ _ _ => "") (.new ⟨true,60⟩ none) (reached ⟨true,60⟩ 0 ([hourly,dropped].take 2)) 0 1 ([hourly,dropped].drop 1))
      (reached ⟨true,60⟩ 0 [hourly,dropped]) := by
  apply (fuzzy_snapshot_converges (fun _ _ _ => "") ⟨true,60⟩ 0 [hourly,dropped] 1 2 (by decide) (by decide) (.new ⟨true,60⟩ none)).2.1.mpr
  intro before event after binding whole inside payload quiet both
  rcases both with ⟨alive,lost⟩
  obtain rfl : before = [] := List.length_eq_zero_iff.mp (by omega)
  cases whole
  cases payload
  exact quiet dropped (by simp) rfl

end Convergence

end Sigproxy.Ha.FuzzySnapshot
