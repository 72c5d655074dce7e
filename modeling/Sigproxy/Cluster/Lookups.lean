import Sigproxy.Cluster
import Sigproxy.Library.Machine

namespace Sigproxy.Cluster.Lookups
open Library

section Model

-- A lookup that found a binding: the clone it made under the read lock, or, once the
-- clock has told it that the clone has expired, the address it will remove.
inductive Lookup where
  | cloned (aor : String) (binding : ContactBinding)
  | evicting (aor : String)
  deriving DecidableEq, Repr

structure State where
  shared : SharedState
  lookups : List Lookup
  now : Nat

inductive Action where
  | apply (command : ClusterCommand)
  | peek (aor : String)
  | check (index : Nat)
  | evict (index : Nat)
  | tick (time : Nat)
  deriving DecidableEq, Repr

def start (now : Nat) : State := ⟨.empty,[],now⟩

def advance (s : State) : Action → Option State
  | .apply command => some {s with shared:=s.shared.apply command}
  | .peek aor =>
    match s.shared.peek aor with
    | none => some s
    | some binding => some {s with lookups:=s.lookups ++ [.cloned aor binding]}
  | .check index =>
    match s.lookups[index]? with
    | some (.cloned aor binding) =>
      if binding.isExpired s.now then some {s with lookups:=s.lookups.set index (.evicting aor)}
      else some {s with lookups:=s.lookups.eraseIdx index}
    | _ => none
  | .evict index =>
    match s.lookups[index]? with
    | some (.evicting aor) => some {s with shared:=s.shared.evict aor,lookups:=s.lookups.eraseIdx index}
    | _ => none
  | .tick time => if s.now ≤ time then some {s with now:=time} else none

abbrev run (s : State) (actions : List Action) : Option State := Machine.run advance s actions

end Model

section Freshness
variable {s next : State} {history actions : List Action}

def remember (aor : String) (held : Option ContactBinding) : Action → Option ContactBinding
  | .apply (.registerContact binding) => if aor = binding.aor then some binding else held
  | .apply (.unregisterContact removed) => if aor = removed then none else held
  | _ => held

-- The last registration of an address that no removal of it has followed.
def lastRegistered (history : List Action) (aor : String) : Option ContactBinding := history.foldl (remember aor) none

def Fresh (history : List Action) (s : State) : Prop := ∀ aor binding, lastRegistered history aor = some binding →
  binding.isExpired s.now = false → s.shared.contacts.lookup aor = some binding

-- No lookup removes what another one would find.
def SparesLive (s : State) : Action → Prop
  | .evict index => ∀ aor, s.lookups[index]? = some (.evicting aor) → s.shared.live s.now aor = none
  | _ => True

def Sound (history : List Action) (s : State) : Prop := ∀ aor binding, s.shared.contacts.lookup aor = some binding →
  lastRegistered history aor = some binding

theorem lastRegistered_snoc (history : List Action) (action : Action) (aor : String) :
    lastRegistered (history ++ [action]) aor = remember aor (lastRegistered history aor) action := by
  rw [lastRegistered,List.foldl_append]
  rfl

theorem apply_lookup (state : SharedState) (command : ClusterCommand) (aor : String) :
    (state.apply command).contacts.lookup aor = remember aor (state.contacts.lookup aor) (.apply command) := by
  cases command with
  | registerContact binding => exact Table.lookup_insert_eq ..
  | unregisterContact removed => exact Table.lookup_erase_eq ..

-- What one step leaves of the map and of the clock.
theorem advance_cases (stepped : advance s action = some next) :
    (∃ command, action = .apply command ∧ next.shared = s.shared.apply command ∧ next.now = s.now) ∨
    (∃ index aor, action = .evict index ∧ s.lookups[index]? = some (.evicting aor) ∧ next.shared = s.shared.evict aor ∧ next.now = s.now) ∨
    ((∀ aor held, remember aor held action = held) ∧ SparesLive s action ∧ next.shared = s.shared ∧ s.now ≤ next.now) := by
  cases action with
  | apply command =>
      cases stepped
      exact .inl ⟨command,rfl,rfl,rfl⟩
  | peek aor =>
      simp only [advance] at stepped
      refine .inr (.inr ⟨fun _ _ => rfl,trivial,?_⟩)
      split at stepped <;> cases stepped <;> exact ⟨rfl,Nat.le_refl _⟩
  | check index =>
      simp only [advance] at stepped
      refine .inr (.inr ⟨fun _ _ => rfl,trivial,?_⟩)
      split at stepped
      · split at stepped <;> cases stepped <;> exact ⟨rfl,Nat.le_refl _⟩
      · cases stepped
  | evict index =>
      simp only [advance] at stepped
      split at stepped
      · rename_i aor evicting
        cases stepped
        exact .inr (.inl ⟨index,aor,rfl,evicting,rfl,rfl⟩)
      · cases stepped
  | tick time =>
      simp only [advance] at stepped
      split at stepped
      · rename_i later
        cases stepped
        exact .inr (.inr ⟨fun _ _ => rfl,trivial,rfl,later⟩)
      · cases stepped

-- A command decides for its own address, whatever was held before.
theorem remember_follows {held other : Option ContactBinding} (follows : held = some binding → other = some binding) (action : Action)
    (kept : remember aor held action = some binding) : remember aor other action = some binding := by
  unfold remember at kept ⊢
  split at kept
  · split at kept
    · rename_i same
      rwa [if_pos same]
    · rename_i apart
      rw [if_neg apart]
      exact follows kept
  · split at kept
    · cases kept
    · rename_i apart
      rw [if_neg apart]
      exact follows kept
  · exact follows kept

theorem advance_sound (sound : Sound history s) (stepped : advance s action = some next) : Sound (history ++ [action]) next := by
  intro aor binding found
  rw [lastRegistered_snoc]
  rcases advance_cases stepped with ⟨command,rfl,shared,_⟩ | ⟨index,asked,rfl,_,shared,_⟩ | ⟨keeps,_,shared,_⟩
  · rw [shared,apply_lookup] at found
    exact remember_follows (sound aor binding) _ found
  · rw [shared,SharedState.evict,Table.lookup_erase_eq] at found
    split at found
    · cases found
    · exact sound aor binding found
  · rw [keeps]
    exact sound aor binding (shared ▸ found)

theorem live_none {state : SharedState} : state.live now aor = none ↔
    ∀ binding, state.contacts.lookup aor = some binding → binding.isExpired now = true := by
  rw [SharedState.live_eq,Option.filter_eq_none_iff]
  simp

theorem advance_fresh (fresh : Fresh history s) (spares : SparesLive s action) (stepped : advance s action = some next) :
    Fresh (history ++ [action]) next := by
  intro aor binding registered unexpired
  rw [lastRegistered_snoc] at registered
  rcases advance_cases stepped with ⟨command,rfl,shared,clock⟩ | ⟨index,asked,rfl,evicting,shared,clock⟩ | ⟨keeps,_,shared,later⟩
  · rw [shared,apply_lookup]
    rw [clock] at unexpired
    exact remember_follows (fun held => fresh aor binding held unexpired) _ registered
  · rw [clock] at unexpired
    have held := fresh aor binding registered unexpired
    rw [shared,SharedState.evict,Table.lookup_erase_eq,if_neg]
    · exact held
    · intro same
      rcases same with rfl
      have expired := live_none.mp (spares _ evicting) binding held
      rw [unexpired] at expired
      cases expired
  · rw [keeps] at registered
    rw [shared]
    refine fresh aor binding registered (Bool.eq_false_iff.mpr fun expired => ?_)
    rw [SharedState.isExpired_mono expired later] at unexpired
    cases unexpired

-- A removal that meets a live binding loses a registration.
theorem eviction_loses (sound : Sound history s) (stepped : advance s action = some next) (fresh : Fresh (history ++ [action]) next) :
    SparesLive s action := by
  rcases advance_cases stepped with ⟨command,rfl,_⟩ | ⟨index,asked,rfl,evicting,shared,clock⟩ | ⟨_,spares,_⟩
  · trivial
  · intro aor evicted
    cases evicting.symm.trans evicted
    apply live_none.mpr
    intro binding held
    cases alive : binding.isExpired s.now with
    | true => rfl
    | false =>
        have kept := fresh asked binding (by rw [lastRegistered_snoc]; exact sound asked binding held) (clock ▸ alive)
        rw [shared,SharedState.evict,Table.lookup_erase_eq,if_pos rfl] at kept
        cases kept
  · exact spares

theorem refused_spares (refused : advance s action = none) : SparesLive s action := by
  cases action with
  | evict index =>
      intro aor evicting
      simp [advance,evicting] at refused
  | apply => trivial
  | peek => trivial
  | check => trivial
  | tick => trivial

theorem fresh_iff_from (sound : Sound history s) (fresh : Fresh history s) :
    (∀ earlier later, actions = earlier ++ later → ∀ reached, run s earlier = some reached → Fresh (history ++ earlier) reached) ↔
      Machine.Within advance SparesLive s actions := by
  induction actions generalizing s history with
  | nil =>
      refine ⟨fun _ => trivial,fun _ earlier later split reached ran => ?_⟩
      obtain ⟨rfl,_⟩ := List.append_eq_nil_iff.mp split.symm
      cases ran
      rwa [List.append_nil]
  | cons action rest ih =>
      have onward : ∀ next, advance s action = some next → Fresh (history ++ [action]) next → (_ ↔ _) :=
        fun next stepped settled => ih (advance_sound sound stepped) settled
      constructor
      · intro always
        have after : ∀ next, advance s action = some next → Fresh (history ++ [action]) next :=
          fun next stepped => always [action] rest rfl next (Machine.run_cons.mpr ⟨next,stepped,rfl⟩)
        refine ⟨?_,fun next stepped => (onward next stepped (after next stepped)).mp fun earlier later split reached ran => ?_⟩
        · cases stepped : advance s action with
          | none => exact refused_spares stepped
          | some next => exact eviction_loses sound stepped (after next stepped)
        · rw [List.append_assoc]
          exact always (action :: earlier) later (by rw [split]; rfl) reached (Machine.run_cons.mpr ⟨next,stepped,ran⟩)
      · intro both earlier remaining split reached ran
        rcases both with ⟨spares,later⟩
        cases earlier with
        | nil =>
            cases ran
            rwa [List.append_nil]
        | cons first earlier =>
            obtain ⟨rfl,shorter⟩ := List.cons.inj split
            obtain ⟨next,stepped,ran⟩ := Machine.run_cons.mp ran
            have kept := (onward next stepped (advance_fresh fresh spares stepped)).mpr (later next stepped) earlier remaining shorter reached ran
            rwa [List.append_assoc] at kept

-- In every state that a schedule reaches the last registration stands until it
-- expires, exactly when no lookup removes a live binding on the way.
theorem registrations_stand_iff (now : Nat) (actions : List Action) :
    (∀ earlier later, actions = earlier ++ later → ∀ reached, run (start now) earlier = some reached → Fresh earlier reached) ↔
      Machine.Within advance SparesLive (start now) actions := by
  have sound : Sound [] (start now) := nofun
  have fresh : Fresh [] (start now) := nofun
  exact fresh_iff_from sound fresh

end Freshness

section Runs

def expired : ContactBinding := ⟨"sip:200@example.com","sip:200@10.0.0.1:5060","10.0.0.1:5060",10⟩
def refreshed : ContactBinding := {expired with expiresAtEpochMs:=1000}

-- The refresh comes between the clone of the lookup and its removal.
def raced : List Action := [.apply (.registerContact expired),.tick 20,.peek expired.aor,.check 0,.apply (.registerContact refreshed),.evict 0]

theorem lookup_destroys_refresh : lastRegistered raced expired.aor = some refreshed ∧ refreshed.isExpired 20 = false ∧
    (run (start 0) raced).map (fun s => (s.now,s.shared.contacts.lookup expired.aor)) = some (20,none) := by
  decide +kernel

end Runs

end Sigproxy.Cluster.Lookups
