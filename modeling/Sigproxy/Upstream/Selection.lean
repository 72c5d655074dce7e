import Mathlib.Tactic.Ring
import Sigproxy.Library.Machine
import Sigproxy.Upstream

namespace Sigproxy.Upstream.Selection
open UpstreamGroupRuntime

section Machine

inductive Progress (n : Nat) where
  | probing (left : Nat)
  | loading (left : Nat) (index : Fin n)
  | returned (index : Fin n)
  deriving DecidableEq, Repr

-- A call of select on a group that has servers. What it drew from the counter is
-- kept, the latest first.
structure Call (n : Nat) where
  progress : Progress n
  drawn : List Usize
  deriving DecidableEq, Repr

structure State (n : Nat) where
  next : Usize
  calls : List (Call n)
  deriving DecidableEq, Repr

inductive Action where
  | enter
  | fetchAdd (who : Nat)
  | load (who : Nat)
  deriving DecidableEq, Repr

def entered (n : Nat) : Call n := ⟨.probing n,[]⟩

-- The flags of the servers are only read.
def advance (group : UpstreamGroupRuntime) (nonempty : 0 < group.servers.length) (s : State group.servers.length) :
    Action → Option (State group.servers.length)
  | .enter => some {s with calls:=s.calls ++ [entered group.servers.length]}
  | .fetchAdd who => s.calls[who]? >>= fun call =>
    let index := place group.servers nonempty s.next
    match call.progress with
    | .probing (left + 1) => some ⟨s.next + 1,s.calls.set who ⟨.loading left index,s.next :: call.drawn⟩⟩
    | .probing 0 => some ⟨s.next + 1,s.calls.set who ⟨.returned index,s.next :: call.drawn⟩⟩
    | _ => none
  | .load who => s.calls[who]? >>= fun call =>
    match call.progress with
    | .loading left index =>
      let progress := if (group.health index).healthy then .returned index else .probing left
      some {s with calls:=s.calls.set who {call with progress:=progress}}
    | _ => none

end Machine

section Passing
variable (group : UpstreamGroupRuntime) (nonempty : 0 < group.servers.length)

-- The server at a place counted around the group.
def around (i : Nat) : ServerHealth := group.health ⟨i % group.servers.length,Nat.mod_lt _ nonempty⟩

-- How many places the counter went past between two draws.
def passed (n : Nat) (last next : Usize) : Nat := (next.toNat % n + n - last.toNat % n - 1) % n

-- A call that draws again finds that the counter passed no healthy server since its last draw.
def PassesNoHealthy (s : State group.servers.length) : Action → Prop
  | .enter | .load _ => True
  | .fetchAdd who => ∀ call ∈ s.calls[who]?, ∀ last ∈ call.drawn.head?,
    ∀ k < passed group.servers.length last s.next, (around group nonempty (last.toNat + 1 + k)).healthy = false

instance (s : State group.servers.length) : (action : Action) → Decidable (PassesNoHealthy group nonempty s action)
  | .enter | .load _ => inferInstanceAs (Decidable True)
  | .fetchAdd who =>
    have (call : Call group.servers.length) : Decidable (∀ last ∈ call.drawn.head?, ∀ k < passed group.servers.length last s.next,
        (around group nonempty (last.toNat + 1 + k)).healthy = false) := Option.decidableForallMem _
    Option.decidableForallMem s.calls[who]?

end Passing

section Round
variable {group : UpstreamGroupRuntime} {nonempty : 0 < group.servers.length}

-- A stretch of the round without a healthy server.
def Swept (group : UpstreamGroupRuntime) (nonempty : 0 < group.servers.length) (start length : Nat) : Prop :=
  ∀ k < length, (around group nonempty (start + k)).healthy = false

theorem around_congr {i : Nat} (j : Nat) (same : i % group.servers.length = j % group.servers.length) :
    around group nonempty i = around group nonempty j := by
  simp only [around,same]

theorem Swept.append (first : Swept group nonempty start length) (second : Swept group nonempty (start + length) more) :
    Swept group nonempty start (length + more) := by
  intro k inside
  by_cases early : k < length
  · exact first k early
  · have later := second (k - length) (by omega)
    rwa [Nat.add_assoc,Nat.add_sub_cancel' (Nat.le_of_not_lt early)] at later

theorem Swept.congr (swept : Swept group nonempty start length) (same : start % group.servers.length = origin % group.servers.length) :
    Swept group nonempty origin length := by
  intro k inside
  have unhealthy := swept k inside
  rwa [around_congr (origin + k) (Nat.ModEq.add_right k same)] at unhealthy

-- Going once around the group meets every server.
theorem Swept.reaches (swept : Swept group nonempty start length) (whole : group.servers.length ≤ length) (index : Fin group.servers.length) :
    (group.health index).healthy = false := by
  have unhealthy := swept ((index + (group.servers.length - start % group.servers.length)) % group.servers.length)
    ((Nat.mod_lt _ nonempty).trans_le whole)
  have lands : (start + (index + (group.servers.length - start % group.servers.length)) % group.servers.length) % group.servers.length = index := by
    have below := Nat.mod_lt start nonempty
    have meets : start % group.servers.length + (index + (group.servers.length - start % group.servers.length)) = index + group.servers.length := by omega
    rw [Nat.add_mod,Nat.mod_mod,← Nat.add_mod,← Nat.mod_add_mod,meets,Nat.add_mod_right,Nat.mod_eq_of_lt index.isLt]
  rw [around_congr index (lands.trans (Nat.mod_eq_of_lt index.isLt).symm)] at unhealthy
  simpa only [around,Nat.mod_eq_of_lt index.isLt] using unhealthy

theorem passed_reaches (nonempty : 0 < n) (last next : Usize) : (last.toNat + 1 + passed n last next) % n = next.toNat % n := by
  have lastBelow := Nat.mod_lt last.toNat nonempty
  have nextBelow := Nat.mod_lt next.toNat nonempty
  have meets : last.toNat % n + 1 + (next.toNat % n + n - last.toNat % n - 1) = next.toNat % n + n := by omega
  calc (last.toNat + 1 + passed n last next) % n
      = (last.toNat % n + 1 + (next.toNat % n + n - last.toNat % n - 1)) % n := by
        rw [passed,Nat.add_mod_mod,Nat.add_assoc,Nat.add_assoc,Nat.mod_add_mod]
    _ = next.toNat % n := by rw [meets,Nat.add_mod_right,Nat.mod_mod]

end Round

section Invariant
variable (group : UpstreamGroupRuntime) (nonempty : 0 < group.servers.length)

-- What a call has drawn lies in a stretch of the round that holds no healthy server
-- and ends with its last draw.
def Course (call : Call group.servers.length) : Prop :=
  match call.progress with
  | .probing left => call.drawn.length + left = group.servers.length ∧ ∃ start length, call.drawn.length ≤ length ∧
    Swept group nonempty start length ∧
    ∀ last ∈ call.drawn.head?, (start + length) % group.servers.length = (last.toNat + 1) % group.servers.length
  | .loading left index => call.drawn.length + left = group.servers.length ∧ ∃ start length, call.drawn.length ≤ length + 1 ∧
    Swept group nonempty start length ∧ (start + length) % group.servers.length = index ∧
    ∀ last ∈ call.drawn.head?, last.toNat % group.servers.length = index
  | .returned index => (group.health index).healthy = true

def Coursing (s : State group.servers.length) : Prop := ∀ call ∈ s.calls, Course group nonempty call

end Invariant

section Steps
variable {group : UpstreamGroupRuntime} {nonempty : 0 < group.servers.length}

theorem entered_course : Course group nonempty (entered group.servers.length) :=
  ⟨Nat.zero_add _,0,0,Nat.le_refl _,fun _ inside => by omega,fun _ none => (nomatch none)⟩

-- A probe that goes on from the swept stretch draws the place right behind it, once
-- the places that the counter passed are added.
theorem probe_course {call : Call group.servers.length} (course : Course group nonempty call) (probing : call.progress = .probing (left + 1))
    {next : Usize} (passes : ∀ last ∈ call.drawn.head?, ∀ k < passed group.servers.length last next, (around group nonempty (last.toNat + 1 + k)).healthy = false) :
    Course group nonempty ⟨.loading left (place group.servers nonempty next),next :: call.drawn⟩ := by
  rw [Course,probing] at course
  obtain ⟨total,start,length,covered,swept,ends⟩ := course
  have counted : (next :: call.drawn).length + left = group.servers.length := by simp only [List.length_cons]; omega
  cases drawn : call.drawn with
  | nil =>
      rw [drawn] at counted
      exact ⟨counted,next.toNat,0,Nat.le_refl _,fun _ inside => (nomatch inside),rfl,fun _ same => by cases same; rfl⟩
  | cons last earlier =>
      rw [drawn] at counted covered passes ends
      have behind : Swept group nonempty (last.toNat + 1) (passed group.servers.length last next) := passes last rfl
      have joined := swept.append (behind.congr (ends last rfl).symm)
      have lands : (start + (length + passed group.servers.length last next)) % group.servers.length = next.toNat % group.servers.length := by
        rw [← Nat.add_assoc,Nat.ModEq.add_right _ (ends last rfl)]
        exact passed_reaches nonempty last next
      refine ⟨counted,start,_,?_,joined,lands,fun _ same => by cases same; rfl⟩
      simp only [List.length_cons] at covered ⊢
      omega

-- A call out of probes has been once around the group.
theorem fallback_absurd {call : Call group.servers.length} (course : Course group nonempty call) (probing : call.progress = .probing 0)
    (index : Fin group.servers.length) : (group.health index).healthy = false := by
  rw [Course,probing] at course
  obtain ⟨total,start,length,covered,swept,-⟩ := course
  exact swept.reaches (by omega) index

theorem load_course {call : Call group.servers.length} (course : Course group nonempty call) (loading : call.progress = .loading left index) :
    Course group nonempty {call with progress:=if (group.health index).healthy then .returned index else .probing left} := by
  rw [Course,loading] at course
  obtain ⟨total,start,length,covered,swept,lands,last⟩ := course
  cases health : (group.health index).healthy with
  | true => exact health
  | false =>
      have one : Swept group nonempty (start + length) 1 := by
        intro k inside
        obtain rfl : k = 0 := by omega
        rw [around_congr index (by rw [Nat.add_zero,lands,Nat.mod_eq_of_lt index.isLt])]
        simpa only [around,Nat.mod_eq_of_lt index.isLt] using health
      refine ⟨total,start,length + 1,covered,swept.append one,fun other drawn => ?_⟩
      rw [← Nat.add_assoc,← Nat.mod_add_mod,lands,← last other drawn,Nat.mod_add_mod]

theorem set_courses {s : State group.servers.length} (courses : Coursing group nonempty s) (course : Course group nonempty call) :
    Coursing group nonempty ⟨counter,s.calls.set who call⟩ := by
  intro other member
  obtain kept | rfl := List.mem_or_eq_of_mem_set member
  · exact courses other kept
  · exact course

theorem advance_courses (someHealthy : ∃ index, (group.health index).healthy = true) {s next : State group.servers.length}
    (passes : PassesNoHealthy group nonempty s action) (courses : Coursing group nonempty s)
    (stepped : advance group nonempty s action = some next) : Coursing group nonempty next := by
  cases action with
  | enter =>
      cases stepped
      intro call member
      obtain old | new := List.mem_append.mp member
      · exact courses call old
      · cases List.mem_singleton.mp new
        exact entered_course
  | fetchAdd who =>
      obtain ⟨call,found,drew⟩ := Option.bind_eq_some_iff.mp stepped
      have course := courses call (List.mem_of_getElem? found)
      obtain ⟨progress,drawn⟩ := call
      cases progress with
      | probing left =>
          cases left with
          | zero =>
              obtain ⟨index,healthy⟩ := someHealthy
              exact absurd healthy (by simp [fallback_absurd course rfl index])
          | succ left =>
              cases drew
              exact set_courses courses (probe_course course rfl (passes _ found))
      | loading => cases drew
      | returned => cases drew
  | load who =>
      obtain ⟨call,found,read⟩ := Option.bind_eq_some_iff.mp stepped
      have course := courses call (List.mem_of_getElem? found)
      obtain ⟨progress,drawn⟩ := call
      cases progress with
      | probing => cases read
      | returned => cases read
      | loading left index =>
          cases read
          exact set_courses courses (load_course course rfl)

end Steps

-- However the calls interleave and wherever the counter stands: as long as no call
-- lets the counter pass a healthy server between two of its draws, what is returned is healthy.
theorem select_returns_healthy {group : UpstreamGroupRuntime} {nonempty : 0 < group.servers.length} {s : State group.servers.length}
    (someHealthy : ∃ index, (group.health index).healthy = true)
    (passes : Library.Machine.Within (advance group nonempty) (PassesNoHealthy group nonempty) ⟨counter,[]⟩ actions)
    (ran : Library.Machine.run (advance group nonempty) ⟨counter,[]⟩ actions = some s) :
    ∀ call ∈ s.calls, ∀ index, call.progress = .returned index → (group.health index).healthy = true := by
  have courses : Coursing group nonempty s := Library.Machine.run_preserves_within (Coursing group nonempty)
    (fun _ _ _ passes courses stepped => advance_courses someHealthy passes courses stepped) passes (fun _ none => (nomatch none)) ran
  intro call member index returned
  have course := courses call member
  rwa [Course,returned] at course

def peer (last : BitVec 16) : Net.SocketAddr := ⟨.v4 0x0a000001,last⟩

def twoServers : UpstreamGroupRuntime where
  name := "core"
  servers := [peer 1,peer 2]
  health index := ⟨index.val = 1,0,0⟩
  next := 0
  healthCheck := .default

def alternating : List Action :=
  [.enter,.enter,.fetchAdd 0,.load 0,.fetchAdd 0,.fetchAdd 1,.load 0,.load 1,.fetchAdd 1,.load 1]

-- Two calls, and neither leaves the healthy server to the other.
theorem alternating_calls_return : Library.Machine.run (advance twoServers (by decide)) ⟨0,[]⟩ alternating =
      some ⟨4,[⟨.returned (1 : Fin 2),[1,0]⟩,⟨.returned (1 : Fin 2),[3,2]⟩]⟩ ∧
    ∀ call ∈ [Call.mk (.returned (1 : Fin 2)) [1,0],⟨.returned (1 : Fin 2),[3,2]⟩], ∀ index,
      call.progress = .returned index → (twoServers.health index).healthy = true := by
  have someHealthy : ∃ index, (twoServers.health index).healthy = true := ⟨(1 : Fin 2),by decide⟩
  have passes : Library.Machine.Within (advance twoServers (by decide)) (PassesNoHealthy twoServers (by decide)) ⟨0,[]⟩ alternating := by
    decide
  have ran : Library.Machine.run (advance twoServers (by decide)) ⟨0,[]⟩ alternating =
      some ⟨4,[⟨.returned (1 : Fin 2),[1,0]⟩,⟨.returned (1 : Fin 2),[3,2]⟩]⟩ := rfl
  exact ⟨ran,select_returns_healthy someHealthy passes ran⟩

-- The first call sees the unhealthy server three times, since two others draw the
-- healthy one in between.
theorem crowded_out : ∃ s, Library.Machine.run (advance twoServers (by decide)) ⟨twoServers.next,[]⟩
      [.enter,.enter,.enter,.fetchAdd 0,.load 0,.fetchAdd 1,.load 1,.fetchAdd 0,.load 0,.fetchAdd 2,.fetchAdd 0] = some s ∧
    (∃ index, (twoServers.health index).healthy = true) ∧
    ∃ call ∈ s.calls, ∃ index, call.progress = .returned index ∧ (twoServers.health index).healthy = false :=
  ⟨_,rfl,⟨(1 : Fin 2),by decide⟩,_,List.mem_cons_self,(0 : Fin 2),rfl,by decide⟩

-- Where the counter wraps in the middle of a round, one call suffices.
def sixServers : UpstreamGroupRuntime where
  name := "core"
  servers := [peer 1,peer 2,peer 3,peer 4,peer 5,peer 6]
  health index := ⟨index.val = 5,0,0⟩
  next := -2
  healthCheck := .default

example : sixServers.select.1.toOption = some (peer 5) ∧ sixServers.servers[4] = peer 5 := by decide

section Lone
variable {group : UpstreamGroupRuntime} {nonempty : 0 < group.servers.length}

-- A counter that does not wrap, or wraps at the end of a round, passes nothing from one
-- draw to the next.
theorem passed_next (nonempty : 0 < n) (next : Usize) (steady : n ∣ 2 ^ 64 ∨ next.toNat + 1 < 2 ^ 64) : passed n next (next + 1) = 0 := by
  have follows : (next + 1).toNat % n = (next.toNat + 1) % n := by
    rw [BitVec.toNat_add]
    cases steady with
    | inl divides => exact Nat.mod_mod_of_dvd _ divides
    | inr below => exact congrArg (· % n) (Nat.mod_eq_of_lt below)
  have lastBelow := Nat.mod_lt next.toNat nonempty
  rw [passed,follows,Nat.add_mod]
  by_cases single : n = 1
  · rw [single,Nat.mod_one]
  · rw [Nat.mod_eq_of_lt (show 1 < n by omega)]
    by_cases wraps : next.toNat % n + 1 = n
    · rw [wraps,Nat.mod_self,show 0 + n - next.toNat % n - 1 = 0 by omega,Nat.zero_mod]
    · rw [Nat.mod_eq_of_lt (show next.toNat % n + 1 < n by omega),show next.toNat % n + 1 + n - next.toNat % n - 1 = n by omega,Nat.mod_self]

theorem lone_passes {s : State group.servers.length} (mine : s.calls[who]? = some call)
    (follows : ∀ last ∈ call.drawn.head?, passed group.servers.length last s.next = 0) : PassesNoHealthy group nonempty s (.fetchAdd who) := by
  intro other found last drew k below
  cases mine.symm.trans found
  rw [follows last drew] at below
  exact absurd below (Nat.not_lt_zero k)

theorem fetchAdd_probes (nonempty : 0 < group.servers.length) {s : State group.servers.length} (mine : s.calls[who]? = some ⟨.probing (left + 1),drawn⟩) :
    advance group nonempty s (.fetchAdd who) =
      some ⟨s.next + 1,s.calls.set who ⟨.loading left (place group.servers nonempty s.next),s.next :: drawn⟩⟩ := by
  simp only [advance,mine]
  rfl

theorem fetchAdd_falls_back (nonempty : 0 < group.servers.length) {s : State group.servers.length} (mine : s.calls[who]? = some ⟨.probing 0,drawn⟩) :
    advance group nonempty s (.fetchAdd who) =
      some ⟨s.next + 1,s.calls.set who ⟨.returned (place group.servers nonempty s.next),s.next :: drawn⟩⟩ := by
  simp only [advance,mine]
  rfl

theorem load_reads (nonempty : 0 < group.servers.length) {s : State group.servers.length} (mine : s.calls[who]? = some ⟨.loading left index,drawn⟩) :
    advance group nonempty s (.load who) = some ⟨s.next,s.calls.set who
      ⟨if (group.health index).healthy then .returned index else .probing left,drawn⟩⟩ := by
  simp only [advance,mine]
  rfl

theorem moved {calls : List (Call n)} (mine : calls[who]? = some call) (changed : Call n) : (calls.set who changed)[who]? = some changed :=
  List.getElem?_set_self (List.getElem?_eq_some_iff.mp mine).1

-- What select does on its own is a run of the machine in which only this call moves.
theorem selectFrom_runs (left : Nat) {s : State group.servers.length} {who : Nat} {drawn : List Usize}
    (mine : s.calls[who]? = some ⟨.probing left,drawn⟩)
    (follows : ∀ last ∈ drawn.head?, passed group.servers.length last s.next = 0)
    (steady : group.servers.length ∣ 2 ^ 64 ∨ s.next.toNat + left < 2 ^ 64) :
    ∃ actions final index, Library.Machine.run (advance group nonempty) s actions = some final ∧
      Library.Machine.Within (advance group nonempty) (PassesNoHealthy group nonempty) s actions ∧
      (∃ drew, final.calls[who]? = some ⟨.returned index,drew⟩) ∧
      selectFrom {group with next:=s.next} nonempty left = (group.servers[index],{group with next:=final.next}) := by
  have passes : PassesNoHealthy group nonempty s (.fetchAdd who) := lone_passes mine follows
  induction left generalizing s drawn with
  | zero =>
      have drew := fetchAdd_falls_back nonempty mine
      exact ⟨[.fetchAdd who],_,place group.servers nonempty s.next,Library.Machine.run_cons.mpr ⟨_,drew,rfl⟩,
        ⟨passes,fun _ _ => trivial⟩,⟨_,moved mine _⟩,rfl⟩
  | succ left ih =>
      let index := place group.servers nonempty s.next
      let loading : State group.servers.length := ⟨s.next + 1,s.calls.set who ⟨.loading left index,s.next :: drawn⟩⟩
      have drew : advance group nonempty s (.fetchAdd who) = some loading := fetchAdd_probes nonempty mine
      have loads : loading.calls[who]? = some ⟨.loading left index,s.next :: drawn⟩ := moved mine _
      have read := load_reads nonempty loads
      cases health : (group.health index).healthy with
      | true =>
          rw [health] at read
          refine ⟨[.fetchAdd who,.load who],_,index,Library.Machine.run_cons.mpr ⟨_,drew,Library.Machine.run_cons.mpr ⟨_,read,rfl⟩⟩,
            ⟨passes,fun _ _ => ⟨trivial,fun _ _ => trivial⟩⟩,⟨_,moved loads _⟩,?_⟩
          rw [selectFrom]
          exact if_pos health
      | false =>
          rw [health] at read
          let probing : State group.servers.length := ⟨s.next + 1,loading.calls.set who ⟨.probing left,s.next :: drawn⟩⟩
          have probes : probing.calls[who]? = some ⟨.probing left,s.next :: drawn⟩ := moved loads _
          have unwrapped : group.servers.length ∣ 2 ^ 64 ∨ s.next.toNat + 1 < 2 ^ 64 := steady.imp_right fun below => by omega
          have kept : ∀ last ∈ (s.next :: drawn).head?, passed group.servers.length last probing.next = 0 := by
            intro last first
            cases first
            exact passed_next nonempty s.next unwrapped
          have later : group.servers.length ∣ 2 ^ 64 ∨ probing.next.toNat + left < 2 ^ 64 := by
            apply steady.imp_right
            intro below
            have counted : probing.next.toNat = s.next.toNat + 1 := by
              have small : s.next.toNat + (1 : Usize).toNat < 2 ^ 64 := lt_of_le_of_lt (Nat.add_le_add_left (Nat.le_add_left 1 left) _) below
              exact BitVec.toNat_add_of_lt small
            rw [counted]
            omega
          obtain ⟨actions,final,reached,ran,within,returned,same⟩ := ih probes kept later (lone_passes probes kept)
          refine ⟨.fetchAdd who :: .load who :: actions,final,reached,
            Library.Machine.run_cons.mpr ⟨_,drew,Library.Machine.run_cons.mpr ⟨_,read,ran⟩⟩,
            ⟨passes,fun next stepped => ?_⟩,returned,?_⟩
          · cases drew.symm.trans stepped
            refine ⟨trivial,fun next stepped => ?_⟩
            cases read.symm.trans stepped
            exact within
          · rw [← same,selectFrom]
            exact if_neg (by rw [health]; exact Bool.false_ne_true)

end Lone
end Sigproxy.Upstream.Selection
