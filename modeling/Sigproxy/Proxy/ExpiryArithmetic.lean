import Sigproxy.Library.Panics
import Sigproxy.Platform
import Sigproxy.Proxy.GrantedLifetime
import Sigproxy.Proxy.SessionAffinity

namespace Sigproxy.Proxy
open Library Net Cluster Affinity
open Platform (Reading Instant nanosPerMilli instantLimit Fits Kept Alike Scaled)
open Program

variable {Packet Message : Type}

section Clocked

-- The world with its affinity table on the clocks of the platform, and what the
-- answer to a REGISTER hands to persistence for the other nodes.
structure ClockedWorld (Packet : Type) where
  world : World Packet
  affinity : Platform.AffinityTable
  persisted : List AffinityBindingSnapshot

def submittedExpiry : ClusterCommand → Nat
  | .registerContact binding => binding.expiresAtEpochMs
  | .unregisterContact _ => 0

-- A call with the clocks as the thread reads them, `none` where it panics. The
-- sum of `expires_at` is checked where the binding that carries it is submitted.
def clockedPerform (settings : Settings) : (op : Op Packet) → Choice Packet × Reading → ClockedWorld Packet →
    Option (op.Reply × ClockedWorld Packet)
  | .lookupAffinityKey key,(_,now),w =>
    let (target,affinity) := w.affinity.lookupKey now key
    some (target,{w with affinity:=affinity})
  | .rememberAffinityKeys keys target,(_,now),w =>
    (w.affinity.rememberKeys now keys target).map fun made => ((),{w with affinity:=made.2})
  | .rememberAffinityKey key target ttl,(_,now),w =>
    (w.affinity.rememberKey now key target ttl).map fun made =>
      ((),{w with affinity:=made.2,persisted:=w.persisted ++ made.1})
  | .readClock,(_,now),w => some (now.epochMs,w)
  | .submit command,(choice,_),w =>
    if submittedExpiry command < 2 ^ 128 then some ((),{w with world:=(perform settings (.submit command) choice w.world).2}) else none
  | op,(choice,_),w =>
    let (reply,world) := perform settings op choice w.world
    some (reply,{w with world:=world})

variable {codec : Codec Packet Message} {settings : Settings}

-- The same world beside the one that the milliseconds model has.
structure Shadows (time : Nat) (w : ClockedWorld Packet) (plain : World Packet) : Prop where
  world : {w.world with affinity:=plain.affinity} = plain
  affinity : Scaled w.affinity plain.affinity
  now : plain.now = time

theorem perform_aside {op : Op Packet} (other : op.touchesAffinity = false) (choice : Choice Packet) (w : World Packet)
    (affinity : AffinityTable) : perform settings op choice {w with affinity:=affinity} =
      ((perform settings op choice w).1,{(perform settings op choice w).2 with affinity:=affinity}) := by
  cases op <;> simp only [Op.touchesAffinity,reduceCtorEq] at other
  all_goals try rfl
  all_goals
    simp only [perform]
    split <;> rfl

theorem shadows_perform {w : ClockedWorld Packet} {plain : World Packet} (shadows : Shadows time w plain) {op : Op Packet}
    (other : op.touchesAffinity = false) (choice : Choice Packet) :
    (perform settings op choice w.world).1 = (perform settings op choice plain).1 ∧
      Shadows time {w with world:=(perform settings op choice w.world).2} (perform settings op choice plain).2 := by
  have kept := @perform_affinity Packet settings op other choice plain
  have same := @perform_aside Packet settings op other choice w.world plain.affinity
  rw [shadows.world] at same
  refine ⟨(congrArg Prod.fst same).symm,?_,?_,(perform_now op choice plain).trans shadows.now⟩
  · rw [kept]
    exact (congrArg Prod.snd same).symm
  · rw [kept]
    exact shadows.affinity

theorem shadows_table {w : ClockedWorld Packet} {plain : World Packet} {affinity : AffinityTable} (shadows : Shadows time w plain)
    (scaled : Scaled table affinity) (persisted : List AffinityBindingSnapshot) :
    Shadows time ⟨w.world,table,persisted⟩ {plain with affinity:=affinity} :=
  ⟨congrArg (fun w : World Packet => {w with affinity:=affinity}) shadows.world,scaled,shadows.now⟩

theorem clocked_step {op : Op Packet} {detail : Choice Packet × Reading} {w : ClockedWorld Packet} {plain : World Packet}
    {result : op.Reply × ClockedWorld Packet} (shadows : Shadows time w plain) (agrees : detail.2.At time)
    (made : clockedPerform settings op detail w = some result) :
    result.1 = (perform settings op detail.1 plain).1 ∧ Shadows time result.2 (perform settings op detail.1 plain).2 := by
  obtain ⟨choice,now⟩ := detail
  have clock := shadows.now
  subst clock
  have aside := fun other : op.touchesAffinity = false => @shadows_perform Packet settings plain.now w plain shadows op other choice
  cases op
  case lookupAffinityKey key =>
      cases made
      obtain ⟨answered,scaled⟩ := Platform.lookupKey_scaled agrees shadows.affinity key
      exact ⟨answered,shadows_table shadows scaled _⟩
  case rememberAffinityKeys keys target =>
      obtain ⟨⟨snapshots,affinity⟩,done,rfl⟩ := Option.map_eq_some_iff.mp made
      obtain ⟨_,scaled⟩ := Platform.rememberKeys_scaled agrees shadows.affinity done
      exact ⟨rfl,shadows_table shadows scaled _⟩
  case rememberAffinityKey key target ttl =>
      obtain ⟨⟨snapshots,affinity⟩,done,rfl⟩ := Option.map_eq_some_iff.mp made
      obtain ⟨_,scaled⟩ := Platform.rememberKey_scaled agrees shadows.affinity done
      exact ⟨rfl,shadows_table shadows scaled _⟩
  case readClock =>
      cases made
      exact ⟨agrees.2,shadows⟩
  case submit command =>
      simp only [clockedPerform] at made
      split at made
      · cases made
        exact aside rfl
      · cases made
  all_goals
    cases made
    exact aside rfl

-- Where no call panics and the clocks agree, the task does what the milliseconds model does.
theorem clocked_refines {program : Task Packet Unit} {details : Nat → Choice Packet × Reading} {w : ClockedWorld Packet} {plain : World Packet}
    {outcome : Except String Unit} (shadows : Shadows time w plain) (agree : ∀ index, (details index).2.At time)
    (finished : program.orPanic (clockedPerform settings) details w = some (outcome,after)) :
    ((server codec settings).exec program (fun index => (details index).1) plain).1 = outcome ∧
      Shadows time after ((server codec settings).exec program (fun index => (details index).1) plain).2 :=
  orPanic_refines Prod.fst (fun detail => detail.2.At time) (Shadows time)
    (fun _ _ _ _ _ shadows agrees made => clocked_step shadows agrees made) shadows agree finished

end Clocked

section Remembering
variable {settings : Settings} {w : ClockedWorld Packet} {details : Nat → Choice Packet × Reading} {target : UpstreamTarget}
  {lifetime : Nat}

-- The keys under which a REGISTER is remembered, each with the clocks as they read
-- then: there are three calls to a binding.
def enrolments (details : Nat → Choice Packet × Reading) : List PendingRegisterBinding → List (AffinityKey × Reading)
  | [] => []
  | binding :: rest => (registrationUpstreamAffinityKey binding.aor,(details 0).2) :: enrolments (fun index => details (index + 3)) rest

theorem registration_key_inj (same : registrationUpstreamAffinityKey first = registrationUpstreamAffinityKey second) : first = second := by
  have text := congrArg (fun key : AffinityKey => key.value.toList) same
  dsimp only [registrationUpstreamAffinityKey] at text
  rw [String.toList_append,String.toList_append] at text
  exact String.toList_inj.mp (List.append_cancel_left text)

theorem enrolment_keys (bindings : List PendingRegisterBinding) : (enrolments details bindings).map Prod.fst =
    bindings.map fun binding => registrationUpstreamAffinityKey binding.aor := by
  induction bindings generalizing details with
  | nil => rfl
  | cons binding rest ih => exact congrArg _ ih

theorem enrolments_apart (apart : KeyedApart bindings) : ((enrolments details bindings).map Prod.fst).Nodup := by
  rw [enrolment_keys]
  have keys := List.Nodup.map (f := registrationUpstreamAffinityKey) (fun _ _ same => registration_key_inj same) apart
  rwa [List.map_map] at keys

-- Nothing is remembered where the table is disabled or the lifetime is none.
theorem bindings_idle (idle : w.affinity.config.enabled = false ∨ lifetime = 0) (short : lifetime < 2 ^ 64 * 1000)
    (bindings : List PendingRegisterBinding) :
    ∃ after, (applyRegisterBindings target lifetime bindings).orPanic (clockedPerform settings) details w = some (.ok (),after) ∧
      after.affinity = w.affinity ∧ after.persisted = w.persisted := by
  induction bindings generalizing w details with
  | nil => exact ⟨w,rfl,rfl,rfl⟩
  | cons binding rest ih =>
      rw [applyRegisterBindings,applyRegisterBinding]
      by_cases zero : lifetime = 0
      · rw [if_pos zero]
        obtain ⟨after,ended,affinity,persisted⟩ := @ih
          {w with world:=(perform settings (.submit (.unregisterContact binding.aor)) (details 0).1 w.world).2}
          (fun index => details (index + 1)) idle
        refine ⟨after,?_,affinity,persisted⟩
        apply (orPanic_call ..).trans
        exact ended
      · rw [if_neg zero]
        have disabled : w.affinity.config.enabled = false := idle.resolve_right zero
        have bounded := (details 1).2.bounded
        have submitted : submittedExpiry (.registerContact ⟨binding.aor,binding.contact,binding.source,(details 1).2.epochMs + lifetime⟩) <
          2 ^ 128 := by simp only [submittedExpiry]; omega
        obtain ⟨after,ended,affinity,persisted⟩ := @ih
          {w with world:=(perform settings (.submit (.registerContact
            ⟨binding.aor,binding.contact,binding.source,(details 1).2.epochMs + lifetime⟩)) (details 2).1 w.world).2,persisted:=w.persisted ++ []}
          (fun index => details (index + 3)) idle
        refine ⟨after,?_,affinity,persisted.trans (List.append_nil _)⟩
        apply (orPanic_call ..).trans
        have skipped : (!w.affinity.config.enabled || lifetime == 0) = true := by simp [disabled]
        simp only [clockedPerform,Platform.AffinityTable.rememberKey,if_pos skipped]
        change Option.bind (ite (submittedExpiry _ < 2 ^ 128) _ none) _ = _
        rw [if_pos submitted]
        exact ended

structure Enrols (target : UpstreamTarget) (lifetime : Nat) (entries : List (AffinityKey × Reading)) (w after : ClockedWorld Packet) :
    Prop where
  written : ∀ entry ∈ entries, ∃ binding, after.affinity.bindings.lookup entry.1 = some binding ∧ binding.target = target.affinity ∧
    binding.expiresAt.nanos = entry.2.instant.nanos + lifetime * nanosPerMilli
  others : ∀ key, key ∉ entries.map Prod.fst → after.affinity.bindings.lookup key = w.affinity.bindings.lookup key
  persisted : after.persisted = w.persisted ++ entries.map fun entry => ⟨entry.1,target.affinity,entry.2.epochMs + lifetime⟩

def enrolled (w : ClockedWorld Packet) (world : World Packet) (key : AffinityKey) (target : AffinityTarget) (expiresAt : Instant)
    (expiresAtEpochMs : Nat) : ClockedWorld Packet :=
  ⟨world,{w.affinity with bindings:=w.affinity.bindings.insert key ⟨target,expiresAt⟩},w.persisted ++ [⟨key,target,expiresAtEpochMs⟩]⟩

-- The three calls for one binding: the instant is the only sum that can fail.
theorem binding_run (enabled : w.affinity.config.enabled = true) (positive : lifetime ≠ 0) (short : lifetime < 2 ^ 64 * 1000)
    (binding : PendingRegisterBinding) (rest : List PendingRegisterBinding) :
    ∃ world, (applyRegisterBindings target lifetime (binding :: rest)).orPanic (clockedPerform settings) details w =
      ((details 0).2.instant.checkedAdd lifetime).bind fun expiresAt =>
        (applyRegisterBindings target lifetime rest).orPanic (clockedPerform settings) (fun index => details (index + 3))
          (enrolled w world (registrationUpstreamAffinityKey binding.aor) target.affinity expiresAt ((details 0).2.epochMs + lifetime)) := by
  have first := (details 0).2.bounded
  have second := (details 1).2.bounded
  have summed : Platform.checkedSum (details 0).2.epochMs lifetime = some ((details 0).2.epochMs + lifetime) := if_pos (by omega)
  have submitted : submittedExpiry (.registerContact ⟨binding.aor,binding.contact,binding.source,(details 1).2.epochMs + lifetime⟩) <
    2 ^ 128 := by simp only [submittedExpiry]; omega
  refine ⟨(perform settings (.submit (.registerContact ⟨binding.aor,binding.contact,binding.source,(details 1).2.epochMs + lifetime⟩))
    (details 2).1 w.world).2,?_⟩
  have kept : ¬(!w.affinity.config.enabled || lifetime == 0) = true := by simp [enabled,positive]
  rw [applyRegisterBindings,applyRegisterBinding,if_neg positive]
  apply (orPanic_call ..).trans
  simp only [clockedPerform,Platform.AffinityTable.rememberKey,if_neg kept,summed]
  cases (details 0).2.instant.checkedAdd lifetime with
  | none => rfl
  | some expiresAt =>
      change Option.bind (ite (submittedExpiry _ < 2 ^ 128) _ none) _ = _
      rw [if_pos submitted]
      rfl

theorem bindings_added (enabled : w.affinity.config.enabled = true) (positive : lifetime ≠ 0) (short : lifetime < 2 ^ 64 * 1000)
    {bindings : List PendingRegisterBinding} {result : Except String Unit × ClockedWorld Packet}
    (ended : (applyRegisterBindings target lifetime bindings).orPanic (clockedPerform settings) details w = some result) :
    ∀ entry ∈ enrolments details bindings, entry.2.instant.nanos + lifetime * nanosPerMilli < instantLimit := by
  induction bindings generalizing w details with
  | nil => exact fun _ member => nomatch member
  | cons binding rest ih =>
      obtain ⟨world,run⟩ := @binding_run Packet settings w details target lifetime enabled positive short binding rest
      rw [run] at ended
      obtain ⟨expiresAt,added,further⟩ := Option.bind_eq_some_iff.mp ended
      have after := @ih (enrolled w world (registrationUpstreamAffinityKey binding.aor) target.affinity expiresAt
        ((details 0).2.epochMs + lifetime)) (fun index => details (index + 3)) enabled further
      refine List.forall_mem_cons.mpr ⟨?_,after⟩
      rw [← Instant.checkedAdd_some.mp added]
      exact expiresAt.bounded

theorem bindings_enrol (enabled : w.affinity.config.enabled = true) (positive : lifetime ≠ 0) (short : lifetime < 2 ^ 64 * 1000)
    (apart : KeyedApart bindings)
    (fit : ∀ entry ∈ enrolments details bindings, entry.2.instant.nanos + lifetime * nanosPerMilli < instantLimit) :
    ∃ after, (applyRegisterBindings target lifetime bindings).orPanic (clockedPerform settings) details w = some (.ok (),after) ∧
      Enrols target lifetime (enrolments details bindings) w after := by
  induction bindings generalizing w details with
  | nil => exact ⟨w,rfl,⟨fun _ member => (nomatch member),fun _ _ => rfl,(List.append_nil _).symm⟩⟩
  | cons binding rest ih =>
      obtain ⟨here,later⟩ := List.forall_mem_cons.mp fit
      have keys := @enrolments_apart Packet details _ apart
      obtain ⟨alone,_⟩ := List.nodup_cons.mp keys
      obtain ⟨world,run⟩ := @binding_run Packet settings w details target lifetime enabled positive short binding rest
      have added := Instant.checkedAdd_some.mpr (rfl : (⟨_,here⟩ : Instant).nanos = _)
      obtain ⟨after,ended,enrols⟩ := @ih (enrolled w world (registrationUpstreamAffinityKey binding.aor) target.affinity ⟨_,here⟩
        ((details 0).2.epochMs + lifetime)) (fun index => details (index + 3)) enabled (List.nodup_cons.mp apart).2 later
      refine ⟨after,by rw [run,added]; exact ended,?_,?_,?_⟩
      · refine List.forall_mem_cons.mpr ⟨⟨⟨target.affinity,⟨_,here⟩⟩,?_,rfl,rfl⟩,enrols.written⟩
        rw [enrols.others _ alone]
        exact (Table.lookup_insert_eq ..).trans (if_pos rfl)
      · intro key other
        rw [enrolments,List.map_cons,List.mem_cons,not_or] at other
        rw [enrols.others key other.2]
        exact (Table.lookup_insert_eq ..).trans (if_neg other.1)
      · rw [enrols.persisted]
        exact List.append_assoc ..

end Remembering

section Lifetimes
variable {codec : Codec Packet Message} {settings : Settings} {view : ContactView Message} {mode : RegisterRoutingMode}
  {message response : Message}

theorem parseU64_short (parsed : parseU64 text = some value) : value < 2 ^ 64 := by
  simp only [parseU64,Option.ite_none_left_eq_some,Bool.or_eq_true,decide_eq_true_eq,not_or,Option.some.injEq] at parsed
  omega

theorem seconds_short {contact : TypedContact} (own : contact.seconds = some value) : value < 2 ^ 32 := by
  obtain ⟨expires,_,rfl⟩ := Option.map_eq_some_iff.mp own
  exact expires.toNat_lt

theorem extractExpires_short (message : Message) : view.extractExpires codec message < 2 ^ 64 * 1000 := by
  unfold ContactView.extractExpires
  split
  · decide
  · refine Nat.mul_lt_mul_of_pos_right ?_ (by decide)
    cases listed : ((view.typedContactHeaders message).toOption.getD []).findSome? TypedContact.seconds with
    | some value =>
        obtain ⟨contact,_,own⟩ := List.exists_of_findSome?_eq_some listed
        exact Nat.lt_trans (seconds_short own) (by decide)
    | none =>
        cases header : view.expiresHeaderSeconds message with
        | none => decide
        | some value =>
            obtain ⟨text,_,parsed⟩ := Option.bind_eq_some_iff.mp header
            exact parseU64_short parsed

theorem lifetime_short (largest : Largest ((view.responseContacts codec response).filterMap TypedContact.seconds)
    (view.extractExpires codec message) lifetime) : lifetime < 2 ^ 64 * 1000 := by
  obtain ⟨_,chosen⟩ := largest
  split at chosen
  · rw [chosen]
    exact extractExpires_short message
  · obtain ⟨seconds,listed,rfl⟩ := chosen
    obtain ⟨contact,_,own⟩ := List.mem_filterMap.mp listed
    have short := seconds_short own
    omega

theorem pendingFor_expires {peer : SocketAddr} (tracked : pendingFor codec mode message viaHost peer target = .ok (some pending)) :
    pending.requestExpires = codec.extractExpires message := by
  obtain ⟨routes,edited,_,made⟩ := pendingFor_made tracked
  unfold pendingRegister at made
  split at made
  · cases made
  · cases made
    rfl

-- What the answer has put into the table and handed on reaches the other node whole.
structure Delivered (sent received : Reading) (standby : Platform.AffinityTable) (after : ClockedWorld Packet) : Prop where
  carried : Platform.Carried sent received after.affinity standby
  replicated : ∀ snapshot ∈ after.persisted, ∃ updated, standby.upsertSnapshotBindings received [snapshot] = some updated ∧
    Kept received updated.bindings snapshot

-- The sums that have to hold, for the keys that are remembered and those that stay.
structure Bearable (sent received : Reading) (affinity : Platform.AffinityTable) (entries : List (AffinityKey × Reading))
    (lifetime : Nat) : Prop where
  added : ∀ entry ∈ entries, entry.2.instant.nanos + lifetime * nanosPerMilli < instantLimit
  replicated : ∀ entry ∈ entries, Fits received (entry.2.epochMs + lifetime)
  carried : ∀ entry ∈ entries, sent.instant.nanos < entry.2.instant.nanos + lifetime * nanosPerMilli →
    Fits received (sent.epochOf (entry.2.instant.nanos + lifetime * nanosPerMilli))
  earlier : ∀ key binding, affinity.bindings.lookup key = some binding → key ∉ entries.map Prod.fst →
    sent.instant.nanos < binding.expiresAt.nanos → Fits received (sent.epochOf binding.expiresAt.nanos)

theorem delivered_iff {sent received : Reading} {standby : Platform.AffinityTable} {after : ClockedWorld Packet} :
    Delivered sent received standby after ↔
    (∀ key binding, after.affinity.bindings.lookup key = some binding → sent.instant.nanos < binding.expiresAt.nanos →
      Fits received (sent.epochOf binding.expiresAt.nanos)) ∧ ∀ snapshot ∈ after.persisted, Fits received snapshot.expiresAtEpochMs := by
  have single : ∀ snapshot : AffinityBindingSnapshot, (∃ updated, standby.upsertSnapshotBindings received [snapshot] = some updated ∧
      Kept received updated.bindings snapshot) ↔ Fits received snapshot.expiresAtEpochMs := by
    intro snapshot
    have alone : ([snapshot].map AffinityBindingSnapshot.key).Nodup := List.nodup_singleton _
    have upserted := @Platform.upsertSnapshotBindings_iff received standby _ alone
    simpa using upserted
  rw [← @Platform.table_carried_iff after.affinity sent received standby]
  exact ⟨fun delivered => ⟨delivered.carried,fun snapshot member => (single snapshot).mp (delivered.replicated snapshot member)⟩,
    fun ⟨carried,fits⟩ => ⟨carried,fun snapshot member => (single snapshot).mpr (fits snapshot member)⟩⟩

-- The bindings of a table after a run that leaves it alone, or that enrols its keys.
theorem enrols_delivered {sent received : Reading} {standby : Platform.AffinityTable} {w after : ClockedWorld Packet}
    (fresh : w.persisted = []) (enrols : Enrols target lifetime entries w after)
    (fit : ∀ entry ∈ entries, entry.2.instant.nanos + lifetime * nanosPerMilli < instantLimit) :
    Delivered sent received standby after ↔ Bearable sent received w.affinity entries lifetime := by
  rw [delivered_iff,enrols.persisted,fresh,List.nil_append]
  constructor
  · intro both
    rcases both with ⟨carried,replicated⟩
    refine ⟨fit,fun entry member => ?_,fun entry member ahead => ?_,fun key binding found other ahead => ?_⟩
    · exact replicated _ (List.mem_map_of_mem member)
    · obtain ⟨binding,found,_,expiresAt⟩ := enrols.written entry member
      rw [← expiresAt] at ahead ⊢
      exact carried entry.1 binding found ahead
    · rw [← enrols.others key other] at found
      exact carried key binding found ahead
  · intro bearable
    refine ⟨fun key binding found ahead => ?_,fun snapshot member => ?_⟩
    · by_cases listed : key ∈ entries.map Prod.fst
      · obtain ⟨entry,member,rfl⟩ := List.mem_map.mp listed
        obtain ⟨held,own,_,expiresAt⟩ := enrols.written entry member
        cases found.symm.trans own
        rw [expiresAt] at ahead ⊢
        exact bearable.carried entry member ahead
      · rw [enrols.others key listed] at found
        exact bearable.earlier key binding found listed ahead
    · obtain ⟨entry,listed,rfl⟩ := List.mem_map.mp member
      exact bearable.replicated entry listed

-- What is left of the answer once the pending REGISTER has been taken.
def confirmed (lifetime : Nat) : Option PendingRegister → Task Packet Unit
  | none => .done ()
  | some registered => applyRegisterBindings registered.target lifetime registered.bindings

theorem response_orPanic {peer : SocketAddr} {world : World Packet} {affinity : Platform.AffinityTable}
    {details : Nat → Choice Packet × Reading}
    (tracked : pendingFor (view.reading codec) mode message viaHost peer target = .ok pending)
    (waiting : (livePending world branch).map Stamped.content = pending) (success : 200 ≤ code ∧ code < 300)
    (chosen : lifetime = (view.extractResponseContactExpires codec response).getD (view.extractExpires codec message)) :
    (applyRegisterResponse (view.reading codec) branch response code).orPanic (clockedPerform settings) details ⟨world,affinity,[]⟩ =
      (confirmed lifetime pending).orPanic (clockedPerform settings) (fun index => details (index + 1))
        ⟨(perform settings (.takePendingRegister branch) (details 0).1 world).2,affinity,[]⟩ := by
  have late : ¬ code < 200 := by omega
  unfold applyRegisterResponse
  rw [if_neg late]
  apply (orPanic_call ..).trans
  simp only [clockedPerform,Option.bind_some]
  have taken := @taken_live Packet settings world branch (details 0).1
  rw [waiting] at taken
  rw [taken]
  cases pending with
  | none => rfl
  | some registered =>
      dsimp only [Program.bind]
      rw [if_pos success.2,chosen,pendingFor_expires tracked]
      rfl

section Ending
variable {w : ClockedWorld Packet} {details : Nat → Choice Packet × Reading} {sent received : Reading}
  {standby : Platform.AffinityTable} {lifetime : Nat} (fresh : w.persisted = [])
include fresh

-- A run that remembers nothing.
theorem idle_borne_iff {program : Task Packet Unit} {after : ClockedWorld Packet}
    (ended : program.orPanic (clockedPerform settings) details w = some (.ok (),after)) (affinity : after.affinity = w.affinity)
    (persisted : after.persisted = w.persisted) :
    (∃ reached, program.orPanic (clockedPerform settings) details w = some (.ok (),reached) ∧ Delivered sent received standby reached) ↔
      Bearable sent received w.affinity [] lifetime := by
  have still : Enrols overUdp lifetime [] w after := by
    refine ⟨fun _ member => (nomatch member),fun _ _ => by rw [affinity],?_⟩
    rw [persisted]
    exact (List.append_nil _).symm
  rw [← enrols_delivered fresh still fun _ member => (nomatch member)]
  constructor
  · intro given
    rcases given with ⟨reached,same,delivered⟩
    cases ended.symm.trans same
    exact delivered
  · exact fun delivered => ⟨after,ended,delivered⟩

theorem enrolled_borne_iff {bindings : List PendingRegisterBinding} (enabled : w.affinity.config.enabled = true) (positive : lifetime ≠ 0)
    (short : lifetime < 2 ^ 64 * 1000) (apart : KeyedApart bindings) :
    (∃ reached, (applyRegisterBindings target lifetime bindings).orPanic (clockedPerform settings) details w = some (.ok (),reached) ∧
      Delivered sent received standby reached) ↔ Bearable sent received w.affinity (enrolments details bindings) lifetime := by
  have enrols := @bindings_enrol Packet settings w details target lifetime bindings enabled positive short apart
  constructor
  · intro given
    rcases given with ⟨reached,ended,delivered⟩
    have fit := bindings_added enabled positive short ended
    obtain ⟨after,same,enrolled⟩ := enrols fit
    cases ended.symm.trans same
    exact (enrols_delivered fresh enrolled fit).mp delivered
  · intro bearable
    obtain ⟨after,ended,enrolled⟩ := enrols bearable.added
    exact ⟨after,ended,(enrols_delivered fresh enrolled bearable.added).mpr bearable⟩

end Ending

theorem expiry_borne_iff {peer : SocketAddr} {world : World Packet}
    (tracked : pendingFor (view.reading codec) mode message viaHost peer target = .ok pending)
    (waiting : (livePending world branch).map Stamped.content = pending) (success : 200 ≤ code ∧ code < 300)
    (details : Nat → Choice Packet × Reading) (affinity standby : Platform.AffinityTable) (sent received : Reading) :
    (∃ after, (applyRegisterResponse (view.reading codec) branch response code).orPanic (clockedPerform settings) details
        ⟨world,affinity,[]⟩ = some (.ok (),after) ∧ Delivered sent received standby after) ↔
    ∀ lifetime, Largest ((view.responseContacts codec response).filterMap TypedContact.seconds) (view.extractExpires codec message) lifetime →
      Bearable sent received affinity
        (if affinity.config.enabled && decide (lifetime ≠ 0) then
          enrolments (fun index => details (index + 1)) ((pending.map PendingRegister.bindings).getD [])
        else []) lifetime := by
  obtain ⟨lifetime,chosen⟩ : ∃ lifetime, lifetime =
    (view.extractResponseContactExpires codec response).getD (view.extractExpires codec message) := ⟨_,rfl⟩
  have unique : ∀ value, Largest ((view.responseContacts codec response).filterMap TypedContact.seconds)
      (view.extractExpires codec message) value ↔ value = lifetime := by
    intro value
    rw [largest_iff,chosen]
    exact eq_comm
  have short : lifetime < 2 ^ 64 * 1000 := lifetime_short ((unique lifetime).mpr rfl)
  simp only [unique,forall_eq]
  rw [response_orPanic tracked waiting success chosen]
  cases pending with
  | none =>
      simp only [Option.map_none,Option.getD_none,enrolments,ite_self]
      exact idle_borne_iff rfl rfl rfl rfl
  | some registered =>
      simp only [Option.map_some,Option.getD_some]
      split
      · rename_i remembers
        rw [Bool.and_eq_true,decide_eq_true_eq] at remembers
        exact enrolled_borne_iff rfl remembers.1 remembers.2 short (pendingFor_apart tracked)
      · rename_i idle
        rw [Bool.and_eq_true,not_and_or,decide_eq_true_eq,not_not,Bool.not_eq_true] at idle
        obtain ⟨after,ended,same,none⟩ := @bindings_idle Packet settings
          ⟨(perform settings (.takePendingRegister branch) (details 0).1 world).2,affinity,[]⟩ (fun index => details (index + 1))
          registered.target lifetime idle short registered.bindings
        exact idle_borne_iff rfl ended same none

end Lifetimes

section Runs

-- The desk phone without a lifetime of its own: the Expires header decides.
def barePhone : TypedContact := {deskPhone 0 with expires:=none}

def readBare (text : String) : Option TypedContact := if text == renderContact barePhone then some barePhone else none

def headerView (expires : String) : ContactView Envelope := {contactView with
  typedContactHeaders := fun message => .ok (message.contacts.filterMap fun contact => readBare contact.render)
  expiresHeader := fun _ => some expires
  parseHeaderList := fun text => (readBare text).elim (.error "failed to parse Contact header") fun contact => .ok [contact]
  parseContact := readBare}

abbrev headerCodec (expires : String) : Codec Envelope Envelope := (headerView expires).reading contactCodec

def bareRequest : Envelope := enrolling ⟨"200","10.0.0.1:5060"⟩
def bareAnswer : Envelope := answer .register 200 "OK"

def uptime : Reading := ⟨⟨1000000000,by decide⟩,1700000000000,by decide⟩
def emptyTable : Platform.AffinityTable := ⟨⟨true,3600⟩,∅⟩

def bareRun (expires : Nat) : Option (Except String Unit × ClockedWorld Envelope) :=
  (applyRegisterResponse (headerCodec (Nat.repr expires)) "b" bareAnswer 200).orPanic (clockedPerform plainSettings)
    (fun index => (accepting clientAddr index,uptime)) ⟨waiting (pendingPhone expires),emptyTable,[]⟩

def bareTracked (expires : Nat) : Option (Option PendingRegister) :=
  (pendingFor (headerCodec (Nat.repr expires)) .path bareRequest proxyHost clientAddr overUdp).toOption

-- The time, in nanoseconds, that the registration lasts where a snapshot of it is installed.
def bareInstalled (expires : Nat) : Option Nat := do
  let (_,after) ← bareRun expires
  let (snapshot,_) ← after.affinity.snapshot uptime
  let standby ← emptyTable.installSnapshot uptime snapshot
  let binding ← standby.bindings.lookup (registrationUpstreamAffinityKey "sip:200@example.com")
  return binding.expiresAt.nanos - uptime.instant.nanos

theorem plain_expiry_borne : ∃ after, bareRun 120 = some (.ok (),after) ∧ Delivered uptime uptime emptyTable after := by
  have tracked : bareTracked 120 = some (some (pendingPhone 120)) := by decide +kernel
  have found : (livePending (waiting (pendingPhone 120)) "b").map Stamped.content = some (pendingPhone 120) := by decide +kernel
  refine (expiry_borne_iff (toOption_ok.mp tracked) found (by decide) (fun index => (accepting clientAddr index,uptime)) emptyTable emptyTable
    uptime uptime).mpr ?_
  intro lifetime largest
  rw [largest_iff] at largest
  have asked : ((((headerView (Nat.repr 120)).responseContacts contactCodec bareAnswer).filterMap TypedContact.seconds).max?.map (· * 1000)).getD
      ((headerView (Nat.repr 120)).extractExpires contactCodec bareRequest) = 120000 := by decide +kernel
  cases asked.symm.trans largest
  exact ⟨by decide +kernel,by decide +kernel,by decide +kernel,fun _ _ found => nomatch found⟩

theorem longest_expiry_panics :
    bareTracked 18446744073709551615 = some (some (pendingPhone 18446744073709551615)) ∧ (bareRun 18446744073709551615).isNone = true ∧
    bareTracked 20000000000000000 = some (some (pendingPhone 20000000000000000)) ∧
    bareInstalled 20000000000000000 = some ((20000000000000000 * 1000 - 2 ^ 64) * nanosPerMilli) := by
  decide +kernel

end Runs
end Sigproxy.Proxy
