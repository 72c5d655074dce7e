import Mathlib.Data.List.Nodup
import Sigproxy.Affinity

-- The affinity table on the clocks and integers of the platform. An operation that
-- panics, or that would overflow, answers `none`.
namespace Sigproxy.Platform
open Library Net Affinity

def nanosPerMilli : Nat := 1000000

-- `Instant` keeps its seconds in an `i64`.
def instantLimit : Nat := 2 ^ 63 * 1000000000

structure Instant where
  nanos : Nat
  bounded : nanos < instantLimit
  deriving DecidableEq, Repr

namespace Instant

-- `Instant + Duration`, the duration in milliseconds.
def checkedAdd (instant : Instant) (millis : Nat) : Option Instant :=
  if bounded : instant.nanos + millis * nanosPerMilli < instantLimit then some ⟨_,bounded⟩ else none

-- `saturating_duration_since`, `as_millis`.
def millisSince (later earlier : Instant) : Nat := (later.nanos - earlier.nanos) / nanosPerMilli

theorem checkedAdd_some {instant : Instant} : instant.checkedAdd millis = some sum ↔ sum.nanos = instant.nanos + millis * nanosPerMilli := by
  unfold checkedAdd
  split
  · rw [Option.some.injEq]
    constructor
    · intro same
      rcases same with rfl
      rfl
    · intro same
      cases sum
      cases same
      rfl
  · rename_i beyond
    refine ⟨nofun,fun same => absurd sum.bounded ?_⟩
    rwa [same]

end Instant

-- What a thread reads of the two clocks; a `Duration` keeps its seconds in a `u64`.
structure Reading where
  instant : Instant
  epochMs : Nat
  bounded : epochMs < 2 ^ 64 * 1000
  deriving DecidableEq, Repr

-- The sum of two `u128`.
def checkedSum (first second : Nat) : Option Nat := if first + second < 2 ^ 128 then some (first + second) else none

structure AffinityBinding where
  target : AffinityTarget
  expiresAt : Instant
  deriving DecidableEq, Repr

structure AffinityTable where
  config : ProxyAffinityConfig
  bindings : Table AffinityKey AffinityBinding

namespace AffinityTable

def prune (table : AffinityTable) (now : Instant) : AffinityTable :=
  {table with bindings:=table.bindings.retain fun _ binding => decide (now.nanos < binding.expiresAt.nanos)}

def lookupKey (table : AffinityTable) (now : Reading) (key : AffinityKey) : Option AffinityTarget × AffinityTable :=
  if table.config.enabled then
    let pruned := table.prune now.instant
    ((pruned.bindings.lookup key).map AffinityBinding.target,pruned)
  else (none,table)

def rememberKeys (table : AffinityTable) (now : Reading) (keys : List AffinityKey) (target : AffinityTarget) :
    Option (List AffinityBindingSnapshot × AffinityTable) :=
  if table.config.enabled && !keys.isEmpty then do
    let expiresAt ← now.instant.checkedAdd (table.config.ttlSeconds * 1000)
    let expiresAtEpochMs ← checkedSum now.epochMs (table.config.ttlSeconds * 1000)
    return (keys.map fun key => ⟨key,target,expiresAtEpochMs⟩,
      {table with bindings:=keys.foldl (fun bindings key => bindings.insert key ⟨target,expiresAt⟩) table.bindings})
  else some ([],table)

def rememberKey (table : AffinityTable) (now : Reading) (key : AffinityKey) (target : AffinityTarget) (ttl : Nat) :
    Option (List AffinityBindingSnapshot × AffinityTable) :=
  if !table.config.enabled || ttl == 0 then some ([],table)
  else do
    let expiresAt ← now.instant.checkedAdd ttl
    let expiresAtEpochMs ← checkedSum now.epochMs ttl
    return ([⟨key,target,expiresAtEpochMs⟩],{table with bindings:=table.bindings.insert key ⟨target,expiresAt⟩})

def snapshot (table : AffinityTable) (now : Reading) : Option (AffinityStateSnapshot × AffinityTable) := do
  let pruned := table.prune now.instant
  let bindings ← pruned.bindings.entries.mapM fun entry =>
    (checkedSum now.epochMs (entry.2.expiresAt.millisSince now.instant)).map fun expiresAtEpochMs =>
      ⟨entry.1,entry.2.target,expiresAtEpochMs⟩
  return (⟨bindings⟩,pruned)

-- `now + Duration::from_millis(ttl_ms as u64)`.
def installed (now : Reading) (snapshot : AffinityBindingSnapshot) : Option AffinityBinding :=
  (now.instant.checkedAdd ((snapshot.expiresAtEpochMs - now.epochMs) % 2 ^ 64)).map fun expiresAt => ⟨snapshot.target,expiresAt⟩

-- One turn of either loop; they differ in what becomes of a key that has expired.
def carryBinding (expired : Table AffinityKey AffinityBinding → AffinityKey → Table AffinityKey AffinityBinding) (now : Reading)
    (bindings : Table AffinityKey AffinityBinding) (snapshot : AffinityBindingSnapshot) : Option (Table AffinityKey AffinityBinding) :=
  if snapshot.expiresAtEpochMs ≤ now.epochMs then some (expired bindings snapshot.key)
  else (installed now snapshot).map (bindings.insert snapshot.key)

def installSnapshot (table : AffinityTable) (now : Reading) (snapshot : AffinityStateSnapshot) : Option AffinityTable :=
  (snapshot.bindings.foldlM (carryBinding (fun bindings _ => bindings) now) ∅).map fun bindings => {table with bindings:=bindings}

def upsertSnapshotBindings (table : AffinityTable) (now : Reading) (snapshots : List AffinityBindingSnapshot) : Option AffinityTable :=
  (snapshots.foldlM (carryBinding (fun bindings key => bindings.erase key) now) table.bindings).map fun bindings =>
    {table with bindings:=bindings}

end AffinityTable

section Remaining
variable {now : Reading} {table : AffinityTable}

def Reading.remaining (now : Reading) (expiresAtEpochMs : Nat) : Nat := expiresAtEpochMs - now.epochMs

-- The receiver counts what remains in a `u64` of milliseconds and adds it to its own instant.
def Fits (now : Reading) (expiresAtEpochMs : Nat) : Prop :=
  now.remaining expiresAtEpochMs < 2 ^ 64 ∧ now.instant.nanos + now.remaining expiresAtEpochMs * nanosPerMilli < instantLimit

instance : Decidable (Fits now expiresAtEpochMs) := inferInstanceAs (Decidable (_ ∧ _))

-- What has not expired keeps all of its remaining lifetime.
def Kept (now : Reading) (bindings : Table AffinityKey AffinityBinding) (snapshot : AffinityBindingSnapshot) : Prop :=
  now.epochMs < snapshot.expiresAtEpochMs → ∃ binding, bindings.lookup snapshot.key = some binding ∧ binding.target = snapshot.target ∧
    binding.expiresAt.nanos = now.instant.nanos + now.remaining snapshot.expiresAtEpochMs * nanosPerMilli

theorem fits_expired (expired : expiresAtEpochMs ≤ now.epochMs) : Fits now expiresAtEpochMs := by
  unfold Fits Reading.remaining
  rw [Nat.sub_eq_zero_of_le expired]
  exact ⟨by decide,by simpa using now.instant.bounded⟩

theorem installed_some {snapshot : AffinityBindingSnapshot} : AffinityTable.installed now snapshot = some binding ↔
    binding.target = snapshot.target ∧
      binding.expiresAt.nanos = now.instant.nanos + now.remaining snapshot.expiresAtEpochMs % 2 ^ 64 * nanosPerMilli := by
  unfold AffinityTable.installed
  rw [Option.map_eq_some_iff]
  constructor
  · intro given
    rcases given with ⟨expiresAt,added,rfl⟩
    exact ⟨rfl,Instant.checkedAdd_some.mp added⟩
  · intro both
    rcases both with ⟨target,expiresAt⟩
    exact ⟨binding.expiresAt,Instant.checkedAdd_some.mpr expiresAt,by rw [← target]⟩

theorem installed_fits {snapshot : AffinityBindingSnapshot} : (∃ binding, AffinityTable.installed now snapshot = some binding ∧
    binding.expiresAt.nanos = now.instant.nanos + now.remaining snapshot.expiresAtEpochMs * nanosPerMilli) ↔
      Fits now snapshot.expiresAtEpochMs := by
  constructor
  · intro given
    rcases given with ⟨binding,made,whole⟩
    have cut := (installed_some.mp made).2
    have bounded := binding.expiresAt.bounded
    have same : now.remaining snapshot.expiresAtEpochMs % 2 ^ 64 = now.remaining snapshot.expiresAtEpochMs := by
      apply Nat.eq_of_mul_eq_mul_right (by decide : 0 < nanosPerMilli)
      omega
    exact ⟨same ▸ Nat.mod_lt _ (by decide),whole ▸ bounded⟩
  · intro both
    rcases both with ⟨short,bounded⟩
    refine ⟨⟨snapshot.target,⟨_,bounded⟩⟩,installed_some.mpr ⟨rfl,?_⟩,rfl⟩
    rw [Nat.mod_eq_of_lt short]

variable {expired : Table AffinityKey AffinityBinding → AffinityKey → Table AffinityKey AffinityBinding}

theorem carry_apart (aside : ∀ bindings key other, other ≠ key → (expired bindings key).lookup other = bindings.lookup other)
    {snapshots : List AffinityBindingSnapshot} {bindings : Table AffinityKey AffinityBinding}
    (carried : snapshots.foldlM (AffinityTable.carryBinding expired now) bindings = some after)
    (other : key ∉ snapshots.map AffinityBindingSnapshot.key) : after.lookup key = bindings.lookup key := by
  induction snapshots generalizing bindings with
  | nil =>
      cases carried
      rfl
  | cons snapshot rest ih =>
      rw [List.map_cons,List.mem_cons,not_or] at other
      rw [List.foldlM_cons] at carried
      obtain ⟨middle,first,further⟩ := Option.bind_eq_some_iff.mp carried
      rw [ih further other.2]
      unfold AffinityTable.carryBinding at first
      split at first
      · cases first
        exact aside _ _ _ other.1
      · obtain ⟨binding,_,rfl⟩ := Option.map_eq_some_iff.mp first
        rw [Table.lookup_insert_eq,if_neg other.1]

-- A loop over distinct keys keeps every lifetime if and only if each of them fits.
theorem carried_iff (aside : ∀ bindings key other, other ≠ key → (expired bindings key).lookup other = bindings.lookup other)
    {snapshots : List AffinityBindingSnapshot} (apart : (snapshots.map AffinityBindingSnapshot.key).Nodup)
    (bindings : Table AffinityKey AffinityBinding) :
    (∃ after, snapshots.foldlM (AffinityTable.carryBinding expired now) bindings = some after ∧
      ∀ snapshot ∈ snapshots, Kept now after snapshot) ↔ ∀ snapshot ∈ snapshots, Fits now snapshot.expiresAtEpochMs := by
  induction snapshots generalizing bindings with
  | nil => simp
  | cons snapshot rest ih =>
      rw [List.map_cons,List.nodup_cons] at apart
      rw [List.foldlM_cons,List.forall_mem_cons]
      by_cases late : snapshot.expiresAtEpochMs ≤ now.epochMs
      · have skipped : AffinityTable.carryBinding expired now bindings snapshot = some (expired bindings snapshot.key) := if_pos late
        have vacuous : ∀ after, Kept now after snapshot := fun after early => absurd early (by omega)
        rw [skipped,← ih apart.2 (expired bindings snapshot.key),and_iff_right (fits_expired late)]
        simp only [List.forall_mem_cons,vacuous,true_and]
        rfl
      · have put : AffinityTable.carryBinding expired now bindings snapshot =
            (AffinityTable.installed now snapshot).map (bindings.insert snapshot.key) := if_neg late
        rw [put,← installed_fits]
        constructor
        · intro given
          rcases given with ⟨after,carried,kept⟩
          rw [List.forall_mem_cons] at kept
          obtain ⟨middle,first,further⟩ := Option.bind_eq_some_iff.mp carried
          obtain ⟨binding,made,rfl⟩ := Option.map_eq_some_iff.mp first
          obtain ⟨held,found,_,whole⟩ := kept.1 (by omega)
          rw [carry_apart aside further apart.1,Table.lookup_insert_eq,if_pos rfl] at found
          cases found
          exact ⟨⟨binding,made,whole⟩,(ih apart.2 _).mp ⟨after,further,kept.2⟩⟩
        · intro given
          rcases given with ⟨⟨binding,made,whole⟩,fits⟩
          obtain ⟨after,further,kept⟩ := (ih apart.2 (bindings.insert snapshot.key binding)).mpr fits
          refine ⟨after,?_,List.forall_mem_cons.mpr ⟨fun _ => ?_,kept⟩⟩
          · rw [made]
            exact further
          · refine ⟨binding,?_,(installed_some.mp made).1,whole⟩
            rw [carry_apart aside further apart.1,Table.lookup_insert_eq,if_pos rfl]

theorem installSnapshot_iff {snapshot : AffinityStateSnapshot} (apart : (snapshot.bindings.map AffinityBindingSnapshot.key).Nodup) :
    (∃ after, table.installSnapshot now snapshot = some after ∧ ∀ binding ∈ snapshot.bindings, Kept now after.bindings binding) ↔
      ∀ binding ∈ snapshot.bindings, Fits now binding.expiresAtEpochMs := by
  rw [← carried_iff (fun _ _ _ _ => rfl) apart ∅]
  simp only [AffinityTable.installSnapshot,Option.map_eq_some_iff,exists_exists_and_eq_and]

theorem upsertSnapshotBindings_iff {snapshots : List AffinityBindingSnapshot}
    (apart : (snapshots.map AffinityBindingSnapshot.key).Nodup) :
    (∃ after, table.upsertSnapshotBindings now snapshots = some after ∧ ∀ snapshot ∈ snapshots, Kept now after.bindings snapshot) ↔
      ∀ snapshot ∈ snapshots, Fits now snapshot.expiresAtEpochMs := by
  have aside : ∀ (bindings : Table AffinityKey AffinityBinding) key other, other ≠ key →
      (bindings.erase key).lookup other = bindings.lookup other := fun bindings key other apart => by
    rw [Table.lookup_erase_eq,if_neg apart]
  rw [← carried_iff aside apart table.bindings]
  simp only [AffinityTable.upsertSnapshotBindings,Option.map_eq_some_iff,exists_exists_and_eq_and]

end Remaining

section Snapshots
variable {now : Reading} {table : AffinityTable}

-- The epoch time at which an instant is reached, by the clocks of the reader.
def Reading.epochOf (now : Reading) (nanos : Nat) : Nat := now.epochMs + (nanos - now.instant.nanos) / nanosPerMilli

theorem snapshot_sums (binding : AffinityBinding) :
    checkedSum now.epochMs (binding.expiresAt.millisSince now.instant) = some (now.epochOf binding.expiresAt.nanos) := by
  have first := now.bounded
  have second : binding.expiresAt.nanos < 2 ^ 63 * 1000000000 := binding.expiresAt.bounded
  apply if_pos
  unfold Instant.millisSince nanosPerMilli
  omega

theorem snapshot_eq : table.snapshot now = some
    (⟨(table.prune now.instant).bindings.entries.map fun entry => ⟨entry.1,entry.2.target,now.epochOf entry.2.expiresAt.nanos⟩⟩,
      table.prune now.instant) := by
  unfold AffinityTable.snapshot
  simp only [snapshot_sums,Option.map_some]
  generalize (table.prune now.instant).bindings.entries = entries
  have collected : ∀ entries : List (Sigma fun _ : AffinityKey => AffinityBinding),
      (entries.mapM fun entry => some (⟨entry.1,entry.2.target,now.epochOf entry.2.expiresAt.nanos⟩ : AffinityBindingSnapshot)) =
        some (entries.map fun entry => ⟨entry.1,entry.2.target,now.epochOf entry.2.expiresAt.nanos⟩) := by
    intro entries
    exact List.mapM_pure
  rw [collected]
  rfl

theorem snapshot_apart (taken : table.snapshot now = some (snapshot,pruned)) :
    (snapshot.bindings.map AffinityBindingSnapshot.key).Nodup := by
  rw [snapshot_eq] at taken
  cases taken
  rw [List.map_map]
  exact (table.prune now.instant).bindings.nodupKeys

theorem mem_snapshot (taken : table.snapshot now = some (snapshot,pruned)) : entry ∈ snapshot.bindings ↔
    ∃ binding, table.bindings.lookup entry.key = some binding ∧ now.instant.nanos < binding.expiresAt.nanos ∧
      binding.target = entry.target ∧ now.epochOf binding.expiresAt.nanos = entry.expiresAtEpochMs := by
  rw [snapshot_eq] at taken
  cases taken
  rw [List.mem_map]
  have live : ∀ key binding, (⟨key,binding⟩ : Sigma fun _ : AffinityKey => AffinityBinding) ∈ (table.prune now.instant).bindings.entries ↔
      table.bindings.lookup key = some binding ∧ now.instant.nanos < binding.expiresAt.nanos := fun key binding => by
    rw [← Table.lookup_iff_mem]
    simp [AffinityTable.prune,Table.lookup_retain,Option.filter_eq_some_iff]
  constructor
  · intro given
    rcases given with ⟨⟨key,binding⟩,listed,rfl⟩
    exact ⟨binding,((live key binding).mp listed).1,((live key binding).mp listed).2,rfl,rfl⟩
  · intro given
    rcases given with ⟨binding,found,ahead,target,epoch⟩
    refine ⟨⟨entry.key,binding⟩,(live _ _).mpr ⟨found,ahead⟩,?_⟩
    rw [target,epoch]

theorem snapshot_fits {received : Reading} (taken : table.snapshot now = some (snapshot,pruned)) :
    (∀ entry ∈ snapshot.bindings, Fits received entry.expiresAtEpochMs) ↔
      ∀ key binding, table.bindings.lookup key = some binding → now.instant.nanos < binding.expiresAt.nanos →
        Fits received (now.epochOf binding.expiresAt.nanos) := by
  constructor
  · intro fits key binding found ahead
    exact fits ⟨key,binding.target,now.epochOf binding.expiresAt.nanos⟩ ((mem_snapshot taken).mpr ⟨binding,found,ahead,rfl,rfl⟩)
  · intro fits entry member
    obtain ⟨binding,found,ahead,_,epoch⟩ := (mem_snapshot taken).mp member
    rw [← epoch]
    exact fits entry.key binding found ahead

-- What a snapshot carries to another node, on either way in.
structure Carried (sent received : Reading) (table standby : AffinityTable) : Prop where
  installed : ∃ snapshot pruned after, table.snapshot sent = some (snapshot,pruned) ∧
    standby.installSnapshot received snapshot = some after ∧ ∀ entry ∈ snapshot.bindings, Kept received after.bindings entry
  upserted : ∃ snapshot pruned after, table.snapshot sent = some (snapshot,pruned) ∧
    standby.upsertSnapshotBindings received snapshot.bindings = some after ∧ ∀ entry ∈ snapshot.bindings, Kept received after.bindings entry

theorem table_carried_iff {sent received : Reading} {standby : AffinityTable} : Carried sent received table standby ↔
    ∀ key binding, table.bindings.lookup key = some binding → sent.instant.nanos < binding.expiresAt.nanos →
      Fits received (sent.epochOf binding.expiresAt.nanos) := by
  have taken := @snapshot_eq sent table
  rw [← snapshot_fits taken]
  have apart := snapshot_apart taken
  constructor
  · intro all
    rcases all with ⟨⟨snapshot,pruned,after,same,made,kept⟩,_⟩
    cases taken.symm.trans same
    exact (installSnapshot_iff apart).mp ⟨after,made,kept⟩
  · intro fits
    obtain ⟨installed,made,kept⟩ := (@installSnapshot_iff received standby _ apart).mpr fits
    obtain ⟨upserted,given,held⟩ := (@upsertSnapshotBindings_iff received standby _ apart).mpr fits
    exact ⟨⟨_,_,installed,taken,made,kept⟩,⟨_,_,upserted,taken,given,held⟩⟩

end Snapshots

section Scale
variable {now : Reading} {time : Nat} {table : AffinityTable} {plain : Affinity.AffinityTable}

-- Two clocks that agree, and a table of theirs beside the same table in milliseconds.
def Reading.At (now : Reading) (time : Nat) : Prop := now.instant.nanos = time * nanosPerMilli ∧ now.epochMs = time

def Alike (bindings : Table AffinityKey AffinityBinding) (plain : Table AffinityKey Affinity.AffinityBinding) : Prop :=
  ∀ key, (bindings.lookup key).map (fun binding => (binding.target,binding.expiresAt.nanos)) =
    (plain.lookup key).map fun binding => (binding.target,binding.expiresAt * nanosPerMilli)

structure Scaled (table : AffinityTable) (plain : Affinity.AffinityTable) : Prop where
  config : table.config = plain.config
  bindings : Alike table.bindings plain.bindings

theorem alike_insert {bindings : Table AffinityKey AffinityBinding} {plain : Table AffinityKey Affinity.AffinityBinding}
    {made : AffinityBinding} (alike : Alike bindings plain) (key : AffinityKey)
    (same : made.expiresAt.nanos = expiresAt * nanosPerMilli) :
    Alike (bindings.insert key made) (plain.insert key ⟨made.target,expiresAt⟩) := by
  intro other
  rw [Table.lookup_insert_eq,Table.lookup_insert_eq]
  split
  · simp [same]
  · exact alike other

theorem alike_erase {bindings : Table AffinityKey AffinityBinding} {plain : Table AffinityKey Affinity.AffinityBinding}
    (alike : Alike bindings plain) (key : AffinityKey) : Alike (bindings.erase key) (plain.erase key) := by
  intro other
  rw [Table.lookup_erase_eq,Table.lookup_erase_eq]
  split
  · rfl
  · exact alike other

theorem alike_some {bindings : Table AffinityKey AffinityBinding} {plain : Table AffinityKey Affinity.AffinityBinding}
    (alike : Alike bindings plain) : (∃ binding, bindings.lookup key = some binding ∧ binding.target = target ∧ binding.expiresAt.nanos = nanos) ↔
      ∃ binding, plain.lookup key = some binding ∧ binding.target = target ∧ binding.expiresAt * nanosPerMilli = nanos := by
  have same := alike key
  cases first : bindings.lookup key <;> cases second : plain.lookup key <;> simp_all

theorem added_at (agrees : now.At time) (added : now.instant.checkedAdd millis = some sum) : sum.nanos = (time + millis) * nanosPerMilli := by
  rw [Instant.checkedAdd_some.mp added,agrees.1,Nat.add_mul]

theorem lookupKey_scaled (agrees : now.At time) (scaled : Scaled table plain) (key : AffinityKey) :
    (table.lookupKey now key).1 = (plain.lookupKey time key).1 ∧ Scaled (table.lookupKey now key).2 (plain.lookupKey time key).2 := by
  have pruned : Alike (table.prune now.instant).bindings (plain.prune time).bindings := by
    intro other
    have same := scaled.bindings other
    simp only [AffinityTable.prune,Affinity.AffinityTable.prune,Table.lookup_retain,agrees.1]
    cases first : table.bindings.lookup other <;> cases second : plain.bindings.lookup other <;>
      simp_all [Option.filter,nanosPerMilli]
  unfold AffinityTable.lookupKey Affinity.AffinityTable.lookupKey
  rw [scaled.config]
  split
  · refine ⟨?_,scaled.config,pruned⟩
    have same := congrArg (Option.map Prod.fst) (pruned key)
    simpa [Option.map_map,Function.comp_def] using same
  · exact ⟨rfl,scaled⟩

theorem checkedSum_some (summed : checkedSum first second = some sum) : sum = first + second := by
  unfold checkedSum at summed
  split at summed
  · exact (Option.some.inj summed).symm
  · cases summed

theorem rememberKeys_scaled (agrees : now.At time) (scaled : Scaled table plain)
    (made : table.rememberKeys now keys target = some (snapshots,after)) :
    snapshots = (plain.rememberKeys time keys target).1 ∧ Scaled after (plain.rememberKeys time keys target).2 := by
  unfold AffinityTable.rememberKeys at made
  unfold Affinity.AffinityTable.rememberKeys
  rw [scaled.config] at made
  split at made
  · rename_i kept
    rw [if_pos (Bool.and_eq_true_iff.mp kept).1]
    obtain ⟨expiresAt,added,rest⟩ := Option.bind_eq_some_iff.mp made
    obtain ⟨epoch,summed,done⟩ := Option.bind_eq_some_iff.mp rest
    cases done
    have sum := checkedSum_some summed
    rw [agrees.2] at sum
    refine ⟨by rw [sum],rfl,?_⟩
    have inserted : ∀ (keys : List AffinityKey) (bindings : Table AffinityKey AffinityBinding)
        (plain' : Table AffinityKey Affinity.AffinityBinding), Alike bindings plain' →
        Alike (keys.foldl (fun bindings key => bindings.insert key ⟨target,expiresAt⟩) bindings)
          (keys.foldl (fun bindings key => bindings.insert key ⟨target,time + plain.config.ttlSeconds * 1000⟩) plain') := by
      intro keys
      induction keys with
      | nil => exact fun _ _ alike => alike
      | cons key rest ih => exact fun _ _ alike => ih _ _ (alike_insert alike key (added_at agrees added))
    exact inserted keys _ _ scaled.bindings
  · rename_i idle
    cases made
    split
    · rename_i enabled
      have none : keys = [] := by simpa [enabled] using idle
      rw [none]
      exact ⟨rfl,scaled⟩
    · exact ⟨rfl,scaled⟩

theorem rememberKey_scaled (agrees : now.At time) (scaled : Scaled table plain)
    (made : table.rememberKey now key target ttl = some (snapshots,after)) :
    snapshots = (plain.rememberKey time key target ttl).1 ∧ Scaled after (plain.rememberKey time key target ttl).2 := by
  unfold AffinityTable.rememberKey at made
  unfold Affinity.AffinityTable.rememberKey
  rw [scaled.config] at made
  split at made
  · rename_i idle
    cases made
    rw [if_pos idle]
    exact ⟨rfl,scaled⟩
  · rename_i kept
    rw [if_neg kept]
    obtain ⟨expiresAt,added,rest⟩ := Option.bind_eq_some_iff.mp made
    obtain ⟨epoch,summed,done⟩ := Option.bind_eq_some_iff.mp rest
    cases done
    have sum := checkedSum_some summed
    rw [agrees.2] at sum
    exact ⟨by rw [sum],rfl,alike_insert scaled.bindings key (added_at agrees added)⟩

theorem ahead_at (agrees : now.At time) : now.instant.nanos < expiresAt * nanosPerMilli ↔ time < expiresAt := by
  rw [agrees.1]
  exact Nat.mul_lt_mul_right (by decide)

theorem epochOf_at (agrees : now.At time) : now.epochOf (expiresAt * nanosPerMilli) = time + (expiresAt - time) := by
  unfold Reading.epochOf
  rw [agrees.1,agrees.2,← Nat.sub_mul,Nat.mul_div_cancel _ (by decide)]

theorem mem_snapshot_scaled (agrees : now.At time) (scaled : Scaled table plain) (taken : table.snapshot now = some (snapshot,pruned)) :
    entry ∈ snapshot.bindings ↔ entry ∈ (plain.snapshot time).1.bindings := by
  have listed : entry ∈ (plain.snapshot time).1.bindings ↔ ∃ binding, plain.bindings.lookup entry.key = some binding ∧
      time < binding.expiresAt ∧ binding.target = entry.target ∧ time + (binding.expiresAt - time) = entry.expiresAtEpochMs := by
    simp only [Affinity.AffinityTable.snapshot,List.mem_map,Sigma.exists,← Table.lookup_iff_mem,Affinity.AffinityTable.prune,
      Table.lookup_retain,Option.filter_eq_some_iff,decide_eq_true_eq]
    constructor
    · intro given
      rcases given with ⟨key,binding,⟨found,ahead⟩,rfl⟩
      exact ⟨binding,found,ahead,rfl,rfl⟩
    · intro given
      rcases given with ⟨binding,found,ahead,target,epoch⟩
      exact ⟨entry.key,binding,⟨found,ahead⟩,by rw [target,epoch]⟩
  rw [mem_snapshot taken,listed]
  constructor
  · intro given
    rcases given with ⟨binding,found,ahead,target,epoch⟩
    obtain ⟨other,beside,same,scale⟩ := (alike_some scaled.bindings).mp ⟨binding,found,rfl,rfl⟩
    rw [← scale] at ahead epoch
    exact ⟨other,beside,(ahead_at agrees).mp ahead,same.trans target,(epochOf_at agrees).symm.trans epoch⟩
  · intro given
    rcases given with ⟨other,beside,ahead,target,epoch⟩
    obtain ⟨binding,found,same,scale⟩ := (alike_some scaled.bindings).mpr ⟨other,beside,rfl,rfl⟩
    refine ⟨binding,found,?_,same.trans target,?_⟩
    · rw [scale]
      exact (ahead_at agrees).mpr ahead
    · rw [scale]
      exact (epochOf_at agrees).trans epoch

-- Either loop, against the same loop in milliseconds.
theorem carry_scaled (agrees : now.At time)
    {expired : Table AffinityKey AffinityBinding → AffinityKey → Table AffinityKey AffinityBinding}
    {plainly : Table AffinityKey Affinity.AffinityBinding → AffinityKey → Table AffinityKey Affinity.AffinityBinding}
    (aside : ∀ bindings plain key, Alike bindings plain → Alike (expired bindings key) (plainly plain key))
    {snapshots : List AffinityBindingSnapshot} {bindings : Table AffinityKey AffinityBinding}
    {plain : Table AffinityKey Affinity.AffinityBinding} (alike : Alike bindings plain)
    (carried : snapshots.foldlM (AffinityTable.carryBinding expired now) bindings = some after) :
    Alike after (snapshots.foldl (fun bindings snapshot => if snapshot.expiresAtEpochMs ≤ time then plainly bindings snapshot.key
      else bindings.insert snapshot.key ⟨snapshot.target,Affinity.AffinityTable.expiryFrom time snapshot.expiresAtEpochMs⟩) plain) := by
  induction snapshots generalizing bindings plain with
  | nil =>
      cases carried
      exact alike
  | cons snapshot rest ih =>
      rw [List.foldlM_cons] at carried
      obtain ⟨middle,first,further⟩ := Option.bind_eq_some_iff.mp carried
      refine ih ?_ further
      unfold AffinityTable.carryBinding at first
      rw [agrees.2] at first
      dsimp only
      split at first
      · rename_i late
        cases first
        rw [if_pos late]
        exact aside _ _ _ alike
      · rename_i early
        rw [if_neg early]
        obtain ⟨binding,made,rfl⟩ := Option.map_eq_some_iff.mp first
        obtain ⟨target,expiresAt⟩ := installed_some.mp made
        rw [← target]
        apply alike_insert alike snapshot.key
        rw [expiresAt,agrees.1,← Nat.add_mul,Reading.remaining,agrees.2]
        rfl

theorem installSnapshot_scaled (agrees : now.At time) (scaled : Scaled table plain)
    (made : table.installSnapshot now snapshot = some after) : Scaled after (plain.installSnapshot time snapshot) := by
  obtain ⟨bindings,carried,rfl⟩ := Option.map_eq_some_iff.mp made
  refine ⟨scaled.config,?_⟩
  have empty : Alike ∅ ∅ := fun _ => rfl
  have alike := @carry_scaled now time _ agrees _ (fun bindings _ => bindings) (fun _ _ _ alike => alike) _ _ _ empty carried
  have turned : (fun (bindings : Table AffinityKey Affinity.AffinityBinding) (binding : AffinityBindingSnapshot) =>
      if decide (time < binding.expiresAtEpochMs) = true then
        bindings.insert binding.key ⟨binding.target,Affinity.AffinityTable.expiryFrom time binding.expiresAtEpochMs⟩
      else bindings) = fun bindings binding =>
      if binding.expiresAtEpochMs ≤ time then bindings
      else bindings.insert binding.key ⟨binding.target,Affinity.AffinityTable.expiryFrom time binding.expiresAtEpochMs⟩ := by
    funext bindings binding
    by_cases late : binding.expiresAtEpochMs ≤ time
    · rw [if_pos late,if_neg (by simpa using late)]
    · rw [if_neg late,if_pos (by simpa using late)]
  unfold Affinity.AffinityTable.installSnapshot Table.collect
  dsimp only
  rw [List.foldl_map,List.foldl_filter,turned]
  exact alike

theorem upsertSnapshotBindings_scaled (agrees : now.At time) (scaled : Scaled table plain)
    (made : table.upsertSnapshotBindings now snapshots = some after) : Scaled after (plain.upsertSnapshotBindings time snapshots) := by
  obtain ⟨bindings,carried,rfl⟩ := Option.map_eq_some_iff.mp made
  exact ⟨scaled.config,carry_scaled agrees (fun _ _ key alike => alike_erase alike key) scaled.bindings carried⟩

end Scale
end Sigproxy.Platform
