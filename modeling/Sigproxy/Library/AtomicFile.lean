import Sigproxy.Library.Machine
import Sigproxy.Library.Octets

namespace Sigproxy.Library.AtomicFile

structure File where
  content : List Octet
  synced : Bool
  deriving DecidableEq

-- A file under a name, the temporary file beside it, and what the name leads to where
-- the directory is lost with the power.
structure Volume where
  cache : Option File
  staged : Option File
  durable : Option File

-- How far the replacement of the file has come.
inductive Stage (Snapshot : Type) where
  | idle
  | fetching
  | creating (snapshot : Snapshot)
  | writing (snapshot : Snapshot) (rest : List Octet)
  | syncing (snapshot : Snapshot)
  | renaming (snapshot : Snapshot)
  | storing (snapshot : Snapshot)

-- What is about to be put in use.
def Stage.stored : Stage Snapshot → Option Snapshot
  | .storing snapshot => some snapshot
  | _ => none

structure Process (Snapshot : Type) where
  memory : Snapshot
  stage : Stage Snapshot

-- What is read of the file at a start may depend on the clock.
structure Format (Snapshot : Type) where
  encode : Snapshot → List Octet
  load : Nat → Option (List Octet) → Except String Snapshot

structure Host (Snapshot : Type) where
  volume : Volume
  process : Option (Process Snapshot)
  fetched : List Snapshot

inductive Action (Snapshot : Type) where
  | start (now : Nat)
  | refresh
  | fetched (snapshot : Snapshot)
  | proceeds
  | writes (count : Nat)
  | fails
  | stops
  | flush
  | powerLoss (renamed : Bool) (torn : List Octet) (left : Option (List Octet))

section Steps
variable {Snapshot : Type}

def Volume.content (volume : Volume) : Option (List Octet) := volume.cache.map File.content

def Host.stand (host : Host Snapshot) (process : Process Snapshot) (stage : Stage Snapshot) : Host Snapshot :=
  {host with process:=some {process with stage:=stage}}

-- A file that has not been synced holds anything after the power has been lost.
def File.survives (torn : List Octet) (file : File) : File := if file.synced then file else ⟨torn,true⟩

def proceed (format : Format Snapshot) (host : Host Snapshot) (process : Process Snapshot) : Option (Host Snapshot) :=
  match process.stage with
  | .creating snapshot =>
    some {host.stand process (.writing snapshot (format.encode snapshot)) with volume:={host.volume with staged:=some ⟨[],false⟩}}
  | .writing snapshot [] => some (host.stand process (.syncing snapshot))
  | .syncing snapshot => do
    let file ← host.volume.staged
    some {host.stand process (.renaming snapshot) with volume:={host.volume with staged:=some {file with synced:=true}}}
  | .renaming snapshot => do
    let file ← host.volume.staged
    some {host.stand process (.storing snapshot) with volume:={host.volume with cache:=some file,staged:=none}}
  | .storing snapshot => some {host with process:=some ⟨snapshot,.idle⟩}
  | _ => none

def advance (format : Format Snapshot) (host : Host Snapshot) : Action Snapshot → Option (Host Snapshot)
  | .start now => match host.process with
    | some _ => none
    | none => match format.load now host.volume.content with
      | .ok snapshot => some {host with process:=some ⟨snapshot,.idle⟩}
      | .error _ => some host
  | .refresh => do
    let process ← host.process
    match process.stage with
    | .idle => some (host.stand process .fetching)
    | _ => none
  | .fetched snapshot => do
    let process ← host.process
    match process.stage with
    | .fetching => some {host.stand process (.creating snapshot) with fetched:=host.fetched ++ [snapshot]}
    | _ => none
  | .proceeds => do proceed format host (← host.process)
  | .writes count => do
    let process ← host.process
    let file ← host.volume.staged
    match process.stage with
    | .writing snapshot rest => some {host.stand process (.writing snapshot (rest.drop count)) with
        volume:={host.volume with staged:=some ⟨file.content ++ rest.take count,false⟩}}
    | _ => none
  | .fails => do
    let process ← host.process
    match process.stage with
    | .idle | .storing _ => none
    | _ => some (host.stand process .idle)
  | .stops => some {host with process:=none}
  | .flush => some {host with volume:={host.volume with durable:=host.volume.cache}}
  | .powerLoss renamed torn left =>
    let survivor := (if renamed then host.volume.cache else host.volume.durable).map (File.survives torn)
    some {host with process:=none,volume:=⟨survivor,left.map fun content => ⟨content,true⟩,survivor⟩}

def begin (content : Option (List Octet)) : Host Snapshot :=
  ⟨⟨content.map fun content => ⟨content,true⟩,none,content.map fun content => ⟨content,true⟩⟩,none,[]⟩

end Steps

section Invariant
variable {Snapshot : Type} (format : Format Snapshot) (first : Option (List Octet))

-- A file that is the first one, or holds one fetched snapshot from end to end.
def Whole (fetched : List Snapshot) (file : Option File) : Prop :=
  (∀ found ∈ file, found.synced = true) ∧
  (file.map File.content = first ∨ ∃ snapshot ∈ fetched, file.map File.content = some (format.encode snapshot))

-- What stands on the volume while a replacement is under way.
def Staged (host : Host Snapshot) : Stage Snapshot → Prop
  | .idle | .fetching => True
  | .creating snapshot => snapshot ∈ host.fetched
  | .writing snapshot rest => snapshot ∈ host.fetched ∧ ∃ file, host.volume.staged = some file ∧ file.content ++ rest = format.encode snapshot
  | .syncing snapshot => snapshot ∈ host.fetched ∧ ∃ file, host.volume.staged = some file ∧ file.content = format.encode snapshot
  | .renaming snapshot => snapshot ∈ host.fetched ∧ host.volume.staged = some ⟨format.encode snapshot,true⟩
  | .storing snapshot => snapshot ∈ host.fetched ∧ host.volume.cache = some ⟨format.encode snapshot,true⟩

-- What is in use is what a start would load, but for the moment between the renaming
-- and the store.
def Remembered (host : Host Snapshot) (process : Process Snapshot) : Prop := match process.stage with
  | .storing _ => True
  | _ => ∃ now, format.load now host.volume.content = .ok process.memory

-- What is written can be read back at any time.
def Readable (snapshot : Snapshot) : Prop := ∀ now, format.load now (some (format.encode snapshot)) = .ok snapshot

structure Sound (host : Host Snapshot) : Prop where
  readable : ∀ snapshot ∈ host.fetched, Readable format snapshot
  cache : Whole format first host.fetched host.volume.cache
  durable : Whole format first host.fetched host.volume.durable
  staged : ∀ process, host.process = some process → Staged format host process.stage
  remembered : ∀ process, host.process = some process → Remembered format host process

def Admitted : Action Snapshot → Prop
  | .fetched snapshot => Readable format snapshot
  | _ => True

variable {format first} {host next : Host Snapshot}

theorem begin_sound : Sound format first (begin first) where
  readable := by simp [begin]
  cache := by simp [begin,Whole,Function.comp_def]
  durable := by simp [begin,Whole,Function.comp_def]
  staged process running := by cases running
  remembered process running := by cases running

theorem Whole.mono (whole : Whole format first fetched file) (more : ∀ snapshot ∈ fetched, snapshot ∈ others) : Whole format first others file := by
  refine ⟨whole.1,whole.2.imp_right fun given => ?_⟩
  obtain ⟨snapshot,member,content⟩ := given
  exact ⟨snapshot,more snapshot member,content⟩

theorem Whole.survives (whole : Whole format first fetched file) (torn : List Octet) : Whole format first fetched (file.map (File.survives torn)) := by
  have same : file.map (File.survives torn) = file := by
    cases file with
    | none => rfl
    | some found => simp [File.survives,whole.1 found rfl]
  rwa [same]

theorem whole_encoded (member : snapshot ∈ fetched) : Whole format first fetched (some ⟨format.encode snapshot,true⟩) :=
  ⟨by simp,.inr ⟨snapshot,member,rfl⟩⟩

def Host.staging (host : Host Snapshot) (process : Process Snapshot) (stage : Stage Snapshot) (staged : Option File) : Host Snapshot :=
  {host.stand process stage with volume:={host.volume with staged:=staged}}

theorem Remembered.loaded {process : Process Snapshot} (remembered : Remembered format host process)
    (settled : ∀ snapshot, process.stage ≠ .storing snapshot) : ∃ now, format.load now host.volume.content = .ok process.memory := by
  unfold Remembered at remembered
  split at remembered
  · rename_i snapshot stage
    exact absurd stage (settled snapshot)
  · exact remembered

-- A step that leaves the file under its name as it is.
theorem Sound.stages (sound : Sound format first host) (running : host.process = some process)
    (settled : ∀ snapshot, process.stage ≠ .storing snapshot) (staged : Staged format (host.staging process stage left) stage) :
    Sound format first (host.staging process stage left) := by
  refine ⟨sound.readable,sound.cache,sound.durable,fun other same => ?_,fun other same => ?_⟩
  · cases same
    exact staged
  · cases same
    have loaded := (sound.remembered process running).loaded settled
    unfold Remembered
    split
    · trivial
    · exact loaded

theorem proceed_sound (sound : Sound format first host) (running : host.process = some process)
    (went : proceed format host process = some next) : Sound format first next := by
  have staged := sound.staged process running
  unfold proceed at went
  split at went
  case h_1 snapshot stage =>
      rw [stage] at staged
      cases went
      exact sound.stages running (by simp [stage]) ⟨staged,⟨[],false⟩,rfl,rfl⟩
  case h_2 snapshot stage =>
      rw [stage] at staged
      cases went
      obtain ⟨member,file,found,content⟩ := staged
      exact sound.stages running (by simp [stage]) ⟨member,file,found,by simpa using content⟩
  case h_3 snapshot stage =>
      rw [stage] at staged
      obtain ⟨member,file,found,content⟩ := staged
      simp only [found,Option.bind_eq_bind,Option.bind_some,Option.some.injEq] at went
      cases went
      refine sound.stages running (by simp [stage]) ⟨member,?_⟩
      rw [← content]
      rfl
  case h_4 snapshot stage =>
      rw [stage] at staged
      obtain ⟨member,found⟩ := staged
      simp only [found,Option.bind_eq_bind,Option.bind_some,Option.some.injEq] at went
      cases went
      refine ⟨sound.readable,whole_encoded member,sound.durable,fun other same => ?_,fun other same => ?_⟩ <;> cases same
      · exact ⟨member,rfl⟩
      · trivial
  case h_5 snapshot stage =>
      rw [stage] at staged
      obtain ⟨member,found⟩ := staged
      cases went
      refine ⟨sound.readable,sound.cache,sound.durable,fun other same => ?_,fun other same => ?_⟩ <;> cases same
      · trivial
      · refine ⟨0,?_⟩
        simp only [Volume.content,found,Option.map_some]
        exact sound.readable snapshot member 0
  case h_6 => cases went

theorem step_sound {action : Action Snapshot} (admitted : Admitted format action) (sound : Sound format first host)
    (stepped : advance format host action = some next) : Sound format first next := by
  cases action with
  | start now =>
      simp only [advance] at stepped
      split at stepped
      · cases stepped
      · split at stepped <;> rename_i loaded <;> cases stepped
        · refine ⟨sound.readable,sound.cache,sound.durable,fun other same => ?_,fun other same => ?_⟩ <;> cases same
          · trivial
          · exact ⟨now,loaded⟩
        · exact sound
  | refresh =>
      obtain ⟨process,running,stepped⟩ := Option.bind_eq_some_iff.mp stepped
      split at stepped <;> cases stepped
      rename_i idle
      exact sound.stages running (by simp [idle]) trivial
  | fetched snapshot =>
      obtain ⟨process,running,stepped⟩ := Option.bind_eq_some_iff.mp stepped
      split at stepped <;> cases stepped
      rename_i fetching
      have more (other : Snapshot) (member : other ∈ host.fetched) : other ∈ host.fetched ++ [snapshot] := List.mem_append_left _ member
      refine ⟨fun other member => ?_,sound.cache.mono more,sound.durable.mono more,fun other same => ?_,fun other same => ?_⟩
      · rcases List.mem_append.mp member with before | last
        · exact sound.readable other before
        · cases List.mem_singleton.mp last
          exact admitted
      · cases same
        exact List.mem_append_right _ (List.mem_singleton_self snapshot)
      · cases same
        exact (sound.remembered process running).loaded (by simp [fetching])
  | proceeds =>
      obtain ⟨process,running,stepped⟩ := Option.bind_eq_some_iff.mp stepped
      exact proceed_sound sound running stepped
  | writes count =>
      obtain ⟨process,running,stepped⟩ := Option.bind_eq_some_iff.mp stepped
      obtain ⟨file,found,stepped⟩ := Option.bind_eq_some_iff.mp stepped
      split at stepped
      · rename_i snapshot rest writing
        cases stepped
        have staged := sound.staged process running
        rw [writing] at staged
        obtain ⟨member,written,same,content⟩ := staged
        cases found.symm.trans same
        refine sound.stages running (by simp [writing]) ⟨member,_,rfl,?_⟩
        simpa using content
      · cases stepped
  | fails =>
      obtain ⟨process,running,stepped⟩ := Option.bind_eq_some_iff.mp stepped
      split at stepped
      · cases stepped
      · cases stepped
      · rename_i other storing
        cases stepped
        exact sound.stages running storing trivial
  | stops =>
      cases stepped
      refine ⟨sound.readable,sound.cache,sound.durable,fun other same => ?_,fun other same => ?_⟩ <;> cases same
  | flush =>
      cases stepped
      refine ⟨sound.readable,sound.cache,sound.cache,fun other same => ?_,fun other same => ?_⟩
      · have staged := sound.staged other same
        unfold Staged at staged ⊢
        exact staged
      · exact sound.remembered other same
  | powerLoss renamed torn left =>
      cases stepped
      have survives : Whole format first host.fetched ((if renamed then host.volume.cache else host.volume.durable).map (File.survives torn)) := by
        cases renamed
        · exact sound.durable.survives torn
        · exact sound.cache.survives torn
      refine ⟨sound.readable,survives,survives,fun other same => ?_,fun other same => ?_⟩ <;> cases same

theorem run_sound (admitted : ∀ action ∈ actions, Admitted format action)
    (ran : Machine.run (advance format) (begin first) actions = some host) : Sound format first host :=
  Machine.run_preserves_on (Sound format first) (fun _ _ _ => step_sound) admitted begin_sound ran

-- After any run of refreshes, failures, stops and losses of power the file is the first
-- one or one whole snapshot that was fetched, and a start gets what a process had in use.
theorem replacement_survives (admitted : ∀ action ∈ actions, Admitted format action)
    (ran : Machine.run (advance format) (begin first) actions = some host) :
    (host.volume.content = first ∨ ∃ snapshot ∈ host.fetched, host.volume.content = some (format.encode snapshot) ∧
      ∀ now, format.load now host.volume.content = .ok snapshot) ∧
    ∀ process, host.process = some process → (∀ snapshot, process.stage ≠ .storing snapshot) →
      ∃ now, format.load now host.volume.content = .ok process.memory := by
  have sound := run_sound admitted ran
  refine ⟨sound.cache.2.imp_right fun given => ?_,fun process running => (sound.remembered process running).loaded⟩
  obtain ⟨snapshot,member,content⟩ := given
  refine ⟨snapshot,member,content,fun now => ?_⟩
  rw [Volume.content,content]
  exact sound.readable snapshot member now

end Invariant

end Sigproxy.Library.AtomicFile
