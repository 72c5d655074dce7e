import Sigproxy.Library.Machine
import Sigproxy.Xdp.Restart

namespace Sigproxy.Xdp.BanMirror
open Library Net

section Model

structure XdpBlockKey where
  listenerKey : String
  ip : IpAddr
  deriving DecidableEq

-- The network byte order of the port is left out, as in every other key.
def makeIpKey (l4Proto : BitVec 8) (port : BitVec 16) (ip : IpAddr) : XdpIpKey := ⟨family ip,l4Proto,port,addrBytes ip⟩

-- What the process has been started with: the specs of its listeners, and how the
-- keys of the block list spread over its shards.
structure Layout where
  listeners : List XdpListenerSpec
  shards : Nat
  shardOf : XdpBlockKey → Nat

def Layout.ipKeys (layout : Layout) (key : XdpBlockKey) : List XdpIpKey :=
  (layout.listeners.filter (·.listenerKey == key.listenerKey)).map fun spec => makeIpKey spec.l4Proto spec.port key.ip

-- A call by what it has to do next, under the lock that it takes for it.
inductive Task where
  | blocking (key : XdpBlockKey) (readAt until' : Nat)
  | syncing (key : XdpBlockKey) (until' : Nat)
  | mirroring (key : XdpBlockKey) (rest : List XdpIpKey)
  | retaining (readAt shard : Nat)
  | pruning
  | expiring (readAt : Nat)
  | removing (rest : List XdpIpKey) (later : List XdpBlockKey)
  deriving DecidableEq

-- Deadlines are milliseconds, as everywhere in the security runtime.
structure State where
  blocks : Table XdpBlockKey Nat
  controlPlane : Table XdpBlockKey Nat
  blockedIps : Table XdpIpKey (BitVec 64)
  tasks : List Task
  now : Nat

inductive Action where
  | blockFor (key : XdpBlockKey) (seconds : Nat)
  | pruneExpired
  | step (index choice : Nat)
  | tick (time : Nat)
  deriving DecidableEq

def start (now : Nat) : State := ⟨∅,∅,∅,[],now⟩

variable (layout : Layout)

def State.finish (s : State) (index : Nat) : State := {s with tasks:=s.tasks.eraseIdx index}
def State.become (s : State) (index : Nat) (task : Task) : State := {s with tasks:=s.tasks.set index task}

def State.advanceTask (s : State) (index choice : Nat) : Task → State
  | .blocking key readAt until' =>
    match s.blocks.lookup key with
    | some existing =>
      if readAt < existing ∧ until' ≤ existing then s.finish index
      else {s with blocks:=s.blocks.insert key until'}.become index (.syncing key until')
    | none => {s with blocks:=s.blocks.insert key until'}.become index (.syncing key until')
  | .syncing key until' =>
    {s with controlPlane:=s.controlPlane.insert key until'}.become index (.mirroring key (layout.ipKeys key))
  | .mirroring _ [] => s.finish index
  | .mirroring key (ipKey :: rest) => {s with blockedIps:=s.blockedIps.insert ipKey 1}.become index (.mirroring key rest)
  | .retaining readAt shard =>
    if shard < layout.shards then
      {s with blocks:=s.blocks.retain fun key until' => layout.shardOf key != shard || decide (readAt < until')}.become index
        (.retaining readAt (shard + 1))
    else s.become index .pruning
  | .pruning => s.become index (.expiring s.now)
  | .expiring readAt =>
    let expired := s.controlPlane.entries.filter fun entry => decide (entry.2 ≤ readAt)
    {s with controlPlane:=s.controlPlane.retain fun _ until' => decide (readAt < until')}.become index
      (.removing [] (expired.map Sigma.fst))
  -- The expired keys come in the order of a hash map.
  | .removing [] later =>
    match later[choice % later.length]? with
    | some key => s.become index (.removing (layout.ipKeys key) (later.eraseIdx (choice % later.length)))
    | none => s.finish index
  -- A key that the kernel has not got is an error, and ends the loop over the specs.
  | .removing (ipKey :: rest) later =>
    if (s.blockedIps.lookup ipKey).isSome then {s with blockedIps:=s.blockedIps.erase ipKey}.become index (.removing rest later)
    else s.become index (.removing [] later)

def advance (s : State) : Action → Option State
  | .blockFor key seconds =>
    let until' := s.now + seconds * 1000
    if seconds = 0 ∨ 2 ^ 63 * 1000 ≤ until' then some s
    else some {s with tasks:=s.tasks ++ [.blocking key s.now until']}
  | .pruneExpired => some {s with tasks:=s.tasks ++ [.retaining s.now 0]}
  | .step index choice => s.tasks[index]?.map (s.advanceTask layout index choice)
  | .tick time => if s.now ≤ time then some {s with now:=time} else none

abbrev run (s : State) (actions : List Action) : Option State := Machine.run (advance layout) s actions

end Model

section Lag
variable {layout : Layout} {s next : State} {key : XdpBlockKey} {until' index choice : Nat} {old : Task} {tasks : List Task}

-- A call is still to write a deadline that reaches so far.
def Due (tasks : List Task) (key : XdpBlockKey) (until' : Nat) : Prop := ∃ later, until' ≤ later ∧ .syncing key later ∈ tasks

-- A call is still to write this key of the kernel for that block.
def Bringing (tasks : List Task) (key : XdpBlockKey) (ipKey : XdpIpKey) : Prop :=
  (∃ until', .syncing key until' ∈ tasks) ∨ ∃ rest, ipKey ∈ rest ∧ .mirroring key rest ∈ tasks

structure Covered (layout : Layout) (s : State) (key : XdpBlockKey) (until' : Nat) : Prop where
  recorded : (∃ later, s.controlPlane.lookup key = some later ∧ until' ≤ later) ∨ Due s.tasks key until'
  enforced : ∀ ipKey ∈ layout.ipKeys key, (s.blockedIps.lookup ipKey).isSome = true ∨ Bringing s.tasks key ipKey

def Task.readAt : Task → Nat
  | .blocking _ readAt _ => readAt
  | .retaining readAt _ => readAt
  | .expiring readAt => readAt
  | _ => 0

structure Sound (layout : Layout) (s : State) : Prop where
  covered : ∀ key until', s.blocks.lookup key = some until' → s.now < until' → Covered layout s key until'
  read : ∀ task ∈ s.tasks, task.readAt ≤ s.now

-- No call writes a deadline that falls short of the block list unless another call is
-- still to write one that does not, and no kernel key of a running block is removed
-- unless a call is still to write it.
def KeepsUp (layout : Layout) (s : State) : Action → Prop
  | .step index _ =>
    match s.tasks[index]? with
    | some (.syncing key _) => ∀ until', s.blocks.lookup key = some until' → s.now < until' → Due s.tasks key until'
    | some (.removing (ipKey :: _) _) => ∀ key until', s.blocks.lookup key = some until' → s.now < until' →
        ipKey ∈ layout.ipKeys key → Bringing s.tasks key ipKey
    | _ => True
  | _ => True

def Task.brings (key : XdpBlockKey) : Task → Prop
  | .syncing other _ => other = key
  | .mirroring other (_ :: _) => other = key
  | _ => False

theorem mem_set_of_ne {task : Task} (member : task ∈ tasks) (found : tasks[index]? = some old) (apart : task ≠ old) (new : Task) :
    task ∈ tasks.set index new := by
  obtain ⟨place,at'⟩ := List.mem_iff_getElem?.mp member
  have elsewhere : index ≠ place := by
    intro same
    rcases same with rfl
    cases found.symm.trans at'
    exact apart rfl
  exact List.mem_iff_getElem?.mpr ⟨place,by rw [List.getElem?_set_ne elsewhere,at']⟩

theorem mem_eraseIdx_of_ne {task : Task} (member : task ∈ tasks) (found : tasks[index]? = some old) (apart : task ≠ old) :
    task ∈ tasks.eraseIdx index := by
  obtain ⟨place,at'⟩ := List.mem_iff_getElem?.mp member
  refine List.mem_eraseIdx_iff_getElem?.mpr ⟨place,?_,at'⟩
  intro same
  rcases same with rfl
  cases found.symm.trans at'
  exact apart rfl

theorem mem_set_self (found : tasks[index]? = some old) (new : Task) : new ∈ tasks.set index new :=
  List.mem_set (List.getElem?_eq_some_iff.mp found).1 new

-- What carries a block goes on doing so when nothing of its own is taken away.
theorem Covered.frame (held : Covered layout s key until')
    (control : ∀ later, s.controlPlane.lookup key = some later → until' ≤ later → next.controlPlane.lookup key = some later)
    (kernel : ∀ ipKey ∈ layout.ipKeys key, (s.blockedIps.lookup ipKey).isSome = true →
      (next.blockedIps.lookup ipKey).isSome = true ∨ Bringing next.tasks key ipKey)
    (kept : ∀ task ∈ s.tasks, task.brings key → task ∈ next.tasks) : Covered layout next key until' := by
  constructor
  · rcases held.recorded with ⟨later,found,reaches⟩ | ⟨later,reaches,pending⟩
    · exact .inl ⟨later,control later found reaches,reaches⟩
    · exact .inr ⟨later,reaches,kept _ pending rfl⟩
  · intro ipKey member
    rcases held.enforced ipKey member with present | ⟨later,pending⟩ | ⟨rest,inside,pending⟩
    · exact kernel ipKey member present
    · exact .inr (.inl ⟨later,kept _ pending rfl⟩)
    · refine .inr (.inr ⟨rest,inside,kept _ pending ?_⟩)
      cases rest with
      | nil => cases inside
      | cons => rfl

theorem covered_started (pending : .syncing key until' ∈ s.tasks) : Covered layout s key until' :=
  ⟨.inr ⟨until',Nat.le_refl _,pending⟩,fun _ _ => .inr (.inl ⟨until',pending⟩)⟩

-- A step of a call that carries nothing for the block, and touches no map.
theorem Covered.kept_set (found : tasks[index]? = some old) (idle : ¬ old.brings key) (new : Task) :
    ∀ task ∈ tasks, task.brings key → task ∈ tasks.set index new := by
  intro task member brings
  refine mem_set_of_ne member found ?_ new
  intro same
  rcases same with rfl
  exact idle brings

theorem Covered.kept_eraseIdx (found : tasks[index]? = some old) (idle : ¬ old.brings key) :
    ∀ task ∈ tasks, task.brings key → task ∈ tasks.eraseIdx index := by
  intro task member brings
  apply mem_eraseIdx_of_ne member found
  intro same
  rcases same with rfl
  exact idle brings

theorem Covered.become (held : Covered layout s key until') (found : s.tasks[index]? = some old) (idle : ¬ old.brings key) (new : Task) :
    Covered layout (s.become index new) key until' :=
  held.frame (fun _ found _ => found) (fun _ _ present => .inl present) (Covered.kept_set found idle new)

theorem Covered.finish (held : Covered layout s key until') (found : s.tasks[index]? = some old) (idle : ¬ old.brings key) :
    Covered layout (s.finish index) key until' :=
  held.frame (fun _ found _ => found) (fun _ _ present => .inl present) (Covered.kept_eraseIdx found idle)

theorem Covered.syncing {other : XdpBlockKey} {deadline : Nat} (held : Covered layout s key until')
    (found : s.tasks[index]? = some (.syncing other deadline)) (reaches : other = key → Due s.tasks key until') :
    Covered layout (s.advanceTask layout index choice (.syncing other deadline)) key until' := by
  by_cases same : other = key
  · subst same
    constructor
    · obtain ⟨later,further,pending⟩ := reaches rfl
      by_cases own : later = deadline
      · subst own
        exact .inl ⟨later,AList.lookup_insert _,further⟩
      · refine .inr ⟨later,further,mem_set_of_ne pending found ?_ _⟩
        intro both
        rcases both with ⟨⟩
        exact own rfl
    · intro ipKey member
      exact .inr (.inr ⟨layout.ipKeys other,member,mem_set_self found _⟩)
  · refine held.frame (fun later present _ => ?_) (fun _ _ present => .inl present) (Covered.kept_set found same _)
    exact (AList.lookup_insert_ne fun equal => same equal.symm).trans present

theorem Covered.mirroring {other : XdpBlockKey} {first : XdpIpKey} {rest : List XdpIpKey} (held : Covered layout s key until')
    (found : s.tasks[index]? = some (.mirroring other (first :: rest))) :
    Covered layout (s.advanceTask layout index choice (.mirroring other (first :: rest))) key until' := by
  have written : ∀ ipKey, (s.blockedIps.lookup ipKey).isSome = true ∨ ipKey = first →
      ((s.blockedIps.insert first 1).lookup ipKey).isSome = true := by
    intro ipKey held
    rw [Table.lookup_insert_eq]
    split
    · rfl
    · rename_i apart
      exact held.resolve_right apart
  have waits : ∀ later, .syncing key later ∈ s.tasks → .syncing key later ∈ s.tasks.set index (.mirroring other rest) :=
    fun later pending => mem_set_of_ne pending found (by rintro ⟨⟩) _
  constructor
  · exact held.recorded.imp_right fun ⟨later,further,pending⟩ => ⟨later,further,waits later pending⟩
  · intro ipKey member
    rcases held.enforced ipKey member with present | ⟨later,pending⟩ | ⟨keys,inside,pending⟩
    · exact .inl (written ipKey (.inl present))
    · exact .inr (.inl ⟨later,waits later pending⟩)
    · by_cases own : Task.mirroring key keys = .mirroring other (first :: rest)
      · cases own
        rcases List.mem_cons.mp inside with rfl | later
        · exact .inl (written ipKey (.inr rfl))
        · exact .inr (.inr ⟨rest,later,mem_set_self found _⟩)
      · exact .inr (.inr ⟨keys,inside,mem_set_of_ne pending found own _⟩)

theorem Covered.expiring {readAt : Nat} (held : Covered layout s key until') (found : s.tasks[index]? = some (.expiring readAt))
    (early : readAt < until') : Covered layout (s.advanceTask layout index choice (.expiring readAt)) key until' := by
  refine held.frame (fun later present reaches => ?_) (fun _ _ present => .inl present) (Covered.kept_set found id _)
  exact (Table.lookup_retain ..).trans (by rw [present]; exact Option.filter_some_pos (decide_eq_true (by omega)))

theorem Covered.removing {first : XdpIpKey} {rest : List XdpIpKey} {later : List XdpBlockKey} (held : Covered layout s key until')
    (found : s.tasks[index]? = some (.removing (first :: rest) later))
    (returns : first ∈ layout.ipKeys key → Bringing s.tasks key first) :
    Covered layout (s.advanceTask layout index choice (.removing (first :: rest) later)) key until' := by
  unfold State.advanceTask
  dsimp only
  split
  · refine held.frame (fun _ present _ => present) (fun ipKey member present => ?_) (Covered.kept_set found id _)
    by_cases gone : ipKey = first
    · subst gone
      have kept : ∀ task ∈ s.tasks, task.brings key → task ∈ s.tasks.set index (.removing rest later) :=
        Covered.kept_set found id _
      rcases returns member with ⟨deadline,pending⟩ | ⟨keys,inside,pending⟩
      · exact .inr (.inl ⟨deadline,kept _ pending rfl⟩)
      · refine .inr (.inr ⟨keys,inside,kept _ pending ?_⟩)
        cases keys with
        | nil => cases inside
        | cons => rfl
    · exact .inl (by rw [State.become,AList.lookup_erase_ne gone]; exact present)
  · exact held.become found id _

theorem Covered.retaining {readAt shard : Nat} (held : Covered layout s key until')
    (found : s.tasks[index]? = some (.retaining readAt shard)) :
    Covered layout (s.advanceTask layout index choice (.retaining readAt shard)) key until' := by
  unfold State.advanceTask
  dsimp only
  split
  · exact held.frame (fun _ present _ => present) (fun _ _ present => .inl present) (Covered.kept_set found id _)
  · exact held.become found id _

theorem Covered.choosing {later : List XdpBlockKey} (held : Covered layout s key until')
    (found : s.tasks[index]? = some (.removing [] later)) :
    Covered layout (s.advanceTask layout index choice (.removing [] later)) key until' := by
  unfold State.advanceTask
  dsimp only
  split
  · exact held.become found id _
  · exact held.finish found id

-- A call that finds a longer block leaves it; any other one has now to mirror its own.
theorem blocking_covers {other : XdpBlockKey} {readAt deadline : Nat} (found : s.tasks[index]? = some (.blocking other readAt deadline))
    (held : ∀ until', s.blocks.lookup key = some until' → s.now < until' → Covered layout s key until') :
    ∀ until', (s.advanceTask layout index choice (.blocking other readAt deadline)).blocks.lookup key = some until' →
      s.now < until' → Covered layout (s.advanceTask layout index choice (.blocking other readAt deadline)) key until' := by
  have records : ∀ until', (s.blocks.insert other deadline).lookup key = some until' → s.now < until' →
      Covered layout ({s with blocks:=s.blocks.insert other deadline}.become index (.syncing other deadline)) key until' := by
    intro until' blocked running
    rw [Table.lookup_insert_eq] at blocked
    split at blocked
    · rename_i same
      cases blocked
      subst same
      exact covered_started (mem_set_self found _)
    · exact (held until' blocked running).frame (fun _ present _ => present) (fun _ _ present => .inl present)
        (Covered.kept_set found id _)
  intro until' blocked running
  simp only [State.advanceTask] at blocked ⊢
  split at blocked
  · split at blocked
    · rename_i longer
      rw [if_pos longer]
      exact (held until' blocked running).finish found id
    · rename_i shorter
      rw [if_neg shorter]
      exact records until' blocked running
  · exact records until' blocked running

theorem advanceTask_now (s : State) (index choice : Nat) (task : Task) : (s.advanceTask layout index choice task).now = s.now := by
  unfold State.advanceTask
  split <;> (try split) <;> (try split) <;> rfl

-- Only a call that has just found no longer block enters one in the block list.
theorem advanceTask_blocks (task : Task) (quiet : ∀ other readAt deadline, task ≠ .blocking other readAt deadline)
    (blocked : (s.advanceTask layout index choice task).blocks.lookup key = some until') : s.blocks.lookup key = some until' := by
  cases task with
  | blocking other readAt deadline => exact (quiet other readAt deadline rfl).elim
  | syncing => exact blocked
  | mirroring other rest => cases rest <;> exact blocked
  | retaining readAt shard =>
      simp only [State.advanceTask] at blocked
      split at blocked
      · rw [State.become,Table.lookup_retain] at blocked
        exact (Option.filter_eq_some_iff.mp blocked).1
      · exact blocked
  | pruning => exact blocked
  | expiring => exact blocked
  | removing rest later =>
      cases rest with
      | nil =>
          simp only [State.advanceTask] at blocked
          split at blocked <;> exact blocked
      | cons =>
          simp only [State.advanceTask] at blocked
          split at blocked <;> exact blocked

theorem Sound.advanceTask_covers (sound : Sound layout s) (found : s.tasks[index]? = some old)
    (keeps : KeepsUp layout s (.step index choice)) (blocked : (s.advanceTask layout index choice old).blocks.lookup key = some until')
    (running : s.now < until') : Covered layout (s.advanceTask layout index choice old) key until' := by
  simp only [KeepsUp,found] at keeps
  have member := List.mem_of_getElem? found
  cases old with
  | blocking => exact blocking_covers found (sound.covered key) until' blocked running
  | syncing other deadline =>
      exact (sound.covered key until' blocked running).syncing found fun same => by
        subst same
        exact keeps until' blocked running
  | mirroring other rest =>
      have held := sound.covered key until' (advanceTask_blocks _ (by simp) blocked) running
      cases rest with
      | nil => exact held.finish found id
      | cons => exact held.mirroring found
  | retaining => exact (sound.covered key until' (advanceTask_blocks _ (by simp) blocked) running).retaining found
  | pruning => exact (sound.covered key until' blocked running).become found id _
  | expiring readAt =>
      have early : readAt ≤ s.now := sound.read _ member
      exact (sound.covered key until' blocked running).expiring found (Nat.lt_of_le_of_lt early running)
  | removing rest later =>
      have recorded := advanceTask_blocks _ (by simp) blocked
      have held := sound.covered key until' recorded running
      cases rest with
      | nil => exact held.choosing found
      | cons => exact held.removing found (keeps key until' recorded running)

theorem become_read (read : ∀ task ∈ s.tasks, task.readAt ≤ s.now) (task : Task) (early : task.readAt ≤ s.now) :
    ∀ other ∈ (s.become index task).tasks, other.readAt ≤ s.now := by
  intro other member
  rcases List.mem_or_eq_of_mem_set member with earlier | rfl
  · exact read other earlier
  · exact early

theorem finish_read (read : ∀ task ∈ s.tasks, task.readAt ≤ s.now) :
    ∀ other ∈ (s.finish index).tasks, other.readAt ≤ s.now := fun other member => read other (List.mem_of_mem_eraseIdx member)

theorem advanceTask_read (read : ∀ task ∈ s.tasks, task.readAt ≤ s.now) (found : s.tasks[index]? = some old) :
    ∀ other ∈ (s.advanceTask layout index choice old).tasks, other.readAt ≤ s.now := by
  have early := read old (List.mem_of_getElem? found)
  cases old with
  | blocking =>
      simp only [State.advanceTask]
      split
      · split
        · exact finish_read read
        · exact become_read read _ (Nat.zero_le _)
      · exact become_read read _ (Nat.zero_le _)
  | syncing => exact become_read read _ (Nat.zero_le _)
  | mirroring other rest =>
      cases rest with
      | nil => exact finish_read read
      | cons => exact become_read read _ (Nat.zero_le _)
  | retaining =>
      simp only [State.advanceTask]
      split
      · exact become_read read _ early
      · exact become_read read _ (Nat.zero_le _)
  | pruning => exact become_read read _ (Nat.le_refl _)
  | expiring => exact become_read read _ (Nat.zero_le _)
  | removing rest later =>
      cases rest with
      | nil =>
          simp only [State.advanceTask]
          split
          · exact become_read read _ (Nat.zero_le _)
          · exact finish_read read
      | cons =>
          simp only [State.advanceTask]
          split <;> exact become_read read _ (Nat.zero_le _)

theorem Sound.called (sound : Sound layout s) (task : Task) (early : task.readAt ≤ s.now) :
    Sound layout {s with tasks:=s.tasks ++ [task]} where
  covered key until' blocked running := (sound.covered key until' blocked running).frame (fun _ present _ => present)
    (fun _ _ present => .inl present) (fun _ member _ => List.mem_append_left _ member)
  read other member := by
    rcases List.mem_append.mp member with earlier | new
    · exact sound.read other earlier
    · rw [List.mem_singleton.mp new]
      exact early

theorem advance_sound (s : State) (action : Action) (next : State) (keeps : KeepsUp layout s action) (sound : Sound layout s)
    (stepped : advance layout s action = some next) : Sound layout next := by
  cases action with
  | blockFor key seconds =>
      simp only [advance] at stepped
      split at stepped
      · cases stepped
        exact sound
      · cases stepped
        exact sound.called _ (Nat.le_refl _)
  | pruneExpired =>
      cases stepped
      exact sound.called _ (Nat.le_refl _)
  | step index choice =>
      obtain ⟨task,found,rfl⟩ := Option.map_eq_some_iff.mp stepped
      refine ⟨fun key until' blocked running => ?_,fun other member => ?_⟩
      · rw [advanceTask_now] at running
        exact sound.advanceTask_covers found keeps blocked running
      · rw [advanceTask_now]
        exact advanceTask_read sound.read found other member
  | tick time =>
      simp only [advance] at stepped
      split at stepped
      · rename_i later
        cases stepped
        refine ⟨fun key until' blocked running => ?_,fun task member => Nat.le_trans (sound.read task member) later⟩
        exact (sound.covered key until' blocked (Nat.lt_of_le_of_lt later running)).frame (fun _ present _ => present)
          (fun _ _ present => .inl present) (fun _ member _ => member)
      · cases stepped

-- Every running block is in the control plane for at least as long, and in the kernel.
def Mirrored (layout : Layout) (s : State) : Prop := ∀ key until', s.blocks.lookup key = some until' → s.now < until' →
  (∃ later, s.controlPlane.lookup key = some later ∧ until' ≤ later) ∧
    ∀ ipKey ∈ layout.ipKeys key, (s.blockedIps.lookup ipKey).isSome = true

theorem Sound.mirrored (sound : Sound layout s) (done : s.tasks = []) : Mirrored layout s := by
  intro key until' blocked running
  obtain ⟨recorded,enforced⟩ := sound.covered key until' blocked running
  rw [done] at recorded enforced
  refine ⟨recorded.resolve_right ?_,fun ipKey member => (enforced ipKey member).resolve_right ?_⟩
  · intro given
    rcases given with ⟨_,_,pending⟩
    cases pending
  · rintro (⟨_,pending⟩ | ⟨_,_,pending⟩) <;> cases pending

theorem bans_mirrored_within {actions : List Action} (now : Nat) (keeps : Machine.Within (advance layout) (KeepsUp layout) (start now) actions)
    (ran : run layout (start now) actions = some s) (done : s.tasks = []) : Mirrored layout s := by
  have begun : Sound layout (start now) := ⟨nofun,nofun⟩
  exact (Machine.run_preserves_within (Sound layout) advance_sound keeps begun ran).mirrored done

end Lag

section Check
variable {layout : Layout} {s : State} {key : XdpBlockKey} {until' : Nat} {tasks : List Task}

def Task.reaches (key : XdpBlockKey) (until' : Nat) : Task → Bool
  | .syncing other later => decide (other = key ∧ until' ≤ later)
  | _ => false

def Task.carries (key : XdpBlockKey) (ipKey : XdpIpKey) : Task → Bool
  | .syncing other _ => decide (other = key)
  | .mirroring other rest => decide (other = key ∧ ipKey ∈ rest)
  | _ => false

theorem due_iff : (∃ task ∈ tasks, task.reaches key until' = true) ↔ Due tasks key until' := by
  constructor
  · intro given
    rcases given with ⟨task,member,reaches⟩
    cases task with
    | syncing other later =>
        obtain ⟨rfl,further⟩ := of_decide_eq_true reaches
        exact ⟨later,further,member⟩
    | _ => cases reaches
  · intro given
    rcases given with ⟨later,further,member⟩
    exact ⟨_,member,decide_eq_true ⟨rfl,further⟩⟩

theorem bringing_iff {ipKey : XdpIpKey} : (∃ task ∈ tasks, task.carries key ipKey = true) ↔ Bringing tasks key ipKey := by
  constructor
  · intro given
    rcases given with ⟨task,member,carries⟩
    cases task with
    | syncing other later =>
        cases of_decide_eq_true carries
        exact .inl ⟨later,member⟩
    | mirroring other rest =>
        obtain ⟨rfl,inside⟩ := of_decide_eq_true carries
        exact .inr ⟨rest,inside,member⟩
    | _ => cases carries
  · intro either
    rcases either with ⟨later,member⟩ | ⟨rest,inside,member⟩
    · exact ⟨_,member,decide_eq_true rfl⟩
    · exact ⟨_,member,decide_eq_true ⟨rfl,inside⟩⟩

instance : Decidable (Due tasks key until') := decidable_of_iff _ due_iff
instance {ipKey : XdpIpKey} : Decidable (Bringing tasks key ipKey) := decidable_of_iff _ bringing_iff

theorem running_iff {holds : XdpBlockKey → Nat → Prop} : (∀ entry ∈ s.blocks.entries, s.now < entry.2 → holds entry.1 entry.2) ↔
    ∀ key until', s.blocks.lookup key = some until' → s.now < until' → holds key until' :=
  ⟨fun all _ _ found => all _ (Table.lookup_iff_mem.mp found),fun all entry member => all entry.1 entry.2 (Table.lookup_iff_mem.mpr member)⟩

def keepsUp (layout : Layout) (s : State) : Action → Bool
  | .step index _ =>
    match s.tasks[index]? with
    | some (.syncing key _) => (s.blocks.lookup key).all fun until' => decide (s.now < until' → Due s.tasks key until')
    | some (.removing (ipKey :: _) _) => s.blocks.entries.all fun entry => decide (s.now < entry.2 → ipKey ∈ layout.ipKeys entry.1 →
        Bringing s.tasks entry.1 ipKey)
    | _ => true
  | _ => true

theorem keepsUp_iff (layout : Layout) (s : State) (action : Action) : keepsUp layout s action = true ↔ KeepsUp layout s action := by
  cases action with
  | step index choice =>
      simp only [keepsUp,KeepsUp]
      split
      · simp only [Option.all_eq_true,decide_eq_true_eq]
      · rename_i ipKey _ _ _
        simp only [List.all_eq_true,decide_eq_true_eq]
        exact @running_iff s fun key _ => ipKey ∈ layout.ipKeys key → Bringing s.tasks key ipKey
      · exact iff_of_true rfl trivial
  | _ => exact iff_of_true rfl trivial

instance (layout : Layout) (s : State) (action : Action) : Decidable (KeepsUp layout s action) :=
  decidable_of_iff _ (keepsUp_iff layout s action)

end Check

section Runs

def soleLayout : Layout := ⟨[trustingListener []],1,fun _ => 0⟩

def caller : XdpBlockKey := ⟨(trustingListener []).listenerKey,.v4 0xC0000201⟩

def whole (index steps : Nat) : List Action := List.replicate steps (.step index 0)

-- One call after the other, and an upkeep round behind them.
def orderly : List Action :=
  [.blockFor caller 60] ++ whole 0 4 ++ [.blockFor caller 3600] ++ whole 0 4 ++ [.tick 60000,.pruneExpired] ++ whole 0 5

theorem orderly_mirrored : ∃ s, run soleLayout (start 0) orderly = some s ∧ s.blocks.lookup caller = some 3600000 ∧ Mirrored soleLayout s := by
  have ran : (run soleLayout (start 0) orderly).map (fun s => (s.tasks,s.blocks.lookup caller)) = some ([],some 3600000) := by
    decide +kernel
  obtain ⟨s,reached,standing⟩ := Option.map_eq_some_iff.mp ran
  obtain ⟨done,blocked⟩ := Prod.mk.inj standing
  exact ⟨s,reached,blocked,bans_mirrored_within 0 (by decide +kernel) reached done⟩

-- The longer call is mirrored whole before the shorter one writes its deadline.
def crossed : List Action :=
  [.blockFor caller 60,.blockFor caller 3600] ++ whole 0 1 ++ whole 1 4 ++ whole 0 3 ++ [.tick 60000,.pruneExpired] ++ whole 0 7

theorem crossed_ban_lost : ∃ s, run soleLayout (start 0) crossed = some s ∧ s.tasks = [] ∧ s.now = 60000 ∧
    s.blocks.lookup caller = some 3600000 ∧ ¬ Mirrored soleLayout s ∧
    (soleLayout.ipKeys caller).map (fun ipKey => (s.blockedIps.lookup ipKey).isSome) = [false] := by
  have ran : (run soleLayout (start 0) crossed).map (fun s => (s.tasks,s.now,s.blocks.lookup caller,s.controlPlane.lookup caller,
      (soleLayout.ipKeys caller).map fun ipKey => (s.blockedIps.lookup ipKey).isSome)) =
        some ([],60000,some 3600000,none,[false]) := by
    decide +kernel
  obtain ⟨s,reached,standing⟩ := Option.map_eq_some_iff.mp ran
  simp only [Prod.mk.injEq] at standing
  obtain ⟨done,clock,blocked,forgotten,dropped⟩ := standing
  refine ⟨s,reached,done,clock,blocked,fun mirrored => ?_,dropped⟩
  obtain ⟨⟨later,recorded,_⟩,_⟩ := mirrored caller 3600000 blocked (by omega)
  cases forgotten.symm.trans recorded

end Runs

end Sigproxy.Xdp.BanMirror
