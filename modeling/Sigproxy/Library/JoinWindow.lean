import Mathlib.Data.List.Perm.Basic
import Sigproxy.Library.Fallible
import Sigproxy.Library.Machine

namespace Sigproxy.Library.JoinWindow

-- Jobs of which a limited number runs at a time: whichever of the running ones ends is
-- joined, and the next waiting one is started in its place.
structure Window (Job : Type) where
  waiting : List Job
  running : List Job

section Definitions
variable {Job State Part : Type}

def start (width : Nat) (jobs : List Job) : Window Job :=
  let started := min width jobs.length
  ⟨jobs.drop started,jobs.take started⟩

def Window.next (window : Window Job) (position : Nat) : Window Job :=
  ⟨window.waiting.tail,window.running.eraseIdx position ++ window.waiting.head?.toList⟩

def advance (window : Window Job) (position : Nat) : Option (Window Job) :=
  window.running[position]?.map fun _ => window.next position

-- What is joined is absorbed at once, and the first error puts an end to the joining.
def collect (absorb : State → Job → Except String State) : Window Job → State → List Nat → Option (Except String State)
  | window,state,[] => if window.running.isEmpty then some (.ok state) else none
  | window,state,position :: later => do
    let job ← window.running[position]?
    match absorb state job with
    | .ok state => collect absorb (window.next position) state later
    | .error error => some (.error error)

def Window.jobs (window : Window Job) : List Job := window.running ++ window.waiting

-- No job waits where a place is free.
def Window.Packed (width : Nat) (window : Window Job) : Prop :=
  window.running.length ≤ width ∧ (window.running.length < width → window.waiting = [])

end Definitions

section Windows
variable {Job : Type} {window : Window Job}

theorem start_packed (width : Nat) (jobs : List Job) : (start width jobs).Packed width := by
  refine ⟨Nat.le_trans (List.length_take_le _ jobs) (Nat.min_le_left ..),fun free => ?_⟩
  simp only [start,List.length_take] at free ⊢
  exact List.drop_eq_nil_of_le (by omega)

theorem start_jobs (width : Nat) (jobs : List Job) : (start width jobs).jobs = jobs := by
  simp [start,Window.jobs]

theorem next_packed (packed : window.Packed width) (found : window.running[position]? = some job) : (window.next position).Packed width := by
  obtain ⟨bounded,idle⟩ := packed
  have within := (List.getElem?_eq_some_iff.mp found).1
  have erased : (window.running.eraseIdx position).length = window.running.length - 1 := List.length_eraseIdx_of_lt within
  cases waiting : window.waiting with
  | nil => exact ⟨by simp [Window.next,waiting,erased]; omega,by simp [Window.next,waiting]⟩
  | cons first rest =>
      have full : ¬window.running.length < width := by
        intro free
        cases (idle free).symm.trans waiting
      refine ⟨by simp [Window.next,waiting,erased]; omega,fun free => ?_⟩
      simp [Window.next,waiting,erased] at free
      omega

-- What is joined, what runs and what waits are the jobs, each of them once.
theorem next_jobs (found : window.running[position]? = some job) : (job :: (window.next position).jobs).Perm window.jobs := by
  obtain ⟨within,same⟩ := List.getElem?_eq_some_iff.mp found
  have taken : (job :: window.running.eraseIdx position).Perm window.running := by
    rw [← same]
    exact List.getElem_cons_eraseIdx_perm within
  have rest : window.waiting.head?.toList ++ window.waiting.tail = window.waiting := by cases window.waiting <;> rfl
  simp only [Window.jobs,Window.next,List.append_assoc,rest]
  exact taken.append_right window.waiting

theorem run_packed (packed : window.Packed width) (ran : Machine.run advance window positions = some later) : later.Packed width := by
  refine Machine.run_preserves (Window.Packed width) (fun window position next packed stepped => ?_) packed ran
  obtain ⟨job,found,rfl⟩ := Option.map_eq_some_iff.mp stepped
  exact next_packed packed found

end Windows

section Collecting
variable {Job State Part : Type} {absorb : State → Job → Except String State} {window : Window Job} {state : State}

-- However the jobs end, what comes of it is what one pass over them in some order gives.
theorem collect_order (packed : window.Packed width) (wide : 0 < width) (collected : collect absorb window state schedule = some outcome) :
    ∃ order : List Job, order.Perm window.jobs ∧ order.foldlM absorb state = outcome := by
  induction schedule generalizing window state with
  | nil =>
      simp only [collect] at collected
      split at collected
      · rename_i ended
        have none_running : window.running = [] := by simpa using ended
        have none_waiting : window.waiting = [] := packed.2 (by simpa [none_running] using wide)
        cases collected
        exact ⟨[],by simp [Window.jobs,none_running,none_waiting],rfl⟩
      · cases collected
  | cons position later ih =>
      obtain ⟨job,found,collected⟩ := Option.bind_eq_some_iff.mp collected
      split at collected
      · rename_i middle absorbed
        obtain ⟨order,same,folded⟩ := ih (next_packed packed found) collected
        refine ⟨job :: order,(same.cons job).trans (next_jobs found),?_⟩
        rw [List.foldlM_cons,absorbed]
        exact folded
      · rename_i error failed
        cases collected
        refine ⟨job :: (window.next position).jobs,next_jobs found,?_⟩
        rw [List.foldlM_cons,failed]
        rfl

-- The jobs can always be joined to the end.
theorem collect_ends (packed : window.Packed width) (wide : 0 < width) (state : State) :
    ∃ schedule outcome, collect absorb window state schedule = some outcome := by
  induction size : window.jobs.length generalizing window state with
  | zero =>
      have none_running : window.running = [] := by
        have empty := List.length_eq_zero_iff.mp size
        exact (List.append_eq_nil_iff.mp empty).1
      exact ⟨[],.ok state,by simp [collect,none_running]⟩
  | succ count ih =>
      cases running : window.running with
      | nil =>
          have none_waiting : window.waiting = [] := packed.2 (by simpa [running] using wide)
          simp [Window.jobs,running,none_waiting] at size
      | cons job rest =>
          have found : window.running[0]? = some job := by simp [running]
          have fewer := (next_jobs found).length_eq
          cases absorbed : absorb state job with
          | error error => exact ⟨[0],.error error,by simp [collect,running,absorbed]⟩
          | ok middle =>
              have left : (window.next 0).jobs.length = count := by simp at fewer; omega
              obtain ⟨schedule,outcome,collected⟩ := ih (next_packed packed found) middle left
              exact ⟨0 :: schedule,outcome,by simp [collect,running,absorbed,collected]⟩

variable {verdict : Job → Except String Part} {merge : State → Part → State}

-- Where what a job comes to does not depend on the state, the jobs may be judged first.
theorem foldlM_verdict (absorbs : ∀ state job, absorb state job = (verdict job).map (merge state)) (order : List Job) (state : State) :
    order.foldlM absorb state = (order.mapM verdict).map (·.foldl merge state) := by
  induction order generalizing state with
  | nil => rfl
  | cons job rest ih =>
      rw [List.foldlM_cons,absorbs,List.mapM_cons]
      cases verdict job with
      | error error => rfl
      | ok part =>
          change rest.foldlM absorb (merge state part) = _
          rw [ih]
          simp only [bind,Except.bind,Except.map]
          cases rest.mapM verdict <;> rfl

def parts (verdict : Job → Except String Part) (jobs : List Job) : List Part := jobs.filterMap fun job => (verdict job).toOption

theorem mapM_parts {jobs : List Job} : jobs.mapM verdict = .ok found ↔
    (∀ job ∈ jobs, ∃ part, verdict job = .ok part) ∧ found = parts verdict jobs := by
  induction jobs generalizing found with
  | nil => simp [parts,pure,Except.pure,eq_comm]
  | cons job rest ih =>
      rw [List.mapM_cons,bind_ok,List.forall_mem_cons]
      constructor
      · intro given
        obtain ⟨part,judged,others⟩ := given
        obtain ⟨later,rested,last⟩ := bind_ok.mp others
        obtain ⟨all,rfl⟩ := ih.mp rested
        cases last
        exact ⟨⟨⟨part,judged⟩,all⟩,by simp [parts,judged,Except.toOption]⟩
      · intro given
        obtain ⟨⟨⟨part,judged⟩,all⟩,rfl⟩ := given
        exact ⟨part,judged,bind_ok.mpr ⟨_,ih.mpr ⟨all,rfl⟩,by simp [parts,judged,Except.toOption,pure,Except.pure]⟩⟩

theorem parts_perm (same : order.Perm jobs) : (parts verdict order).Perm (parts verdict jobs) := same.filterMap _

-- Whether the joining succeeds does not depend on the order in which the jobs end.
theorem collect_ok (packed : window.Packed width) (wide : 0 < width) (absorbs : ∀ state job, absorb state job = (verdict job).map (merge state))
    (collected : collect absorb window state schedule = some outcome) :
    ((∃ final, outcome = .ok final) ↔ ∀ job ∈ window.jobs, ∃ part, verdict job = .ok part) ∧
    ∀ final, outcome = .ok final → ∃ order : List Job, order.Perm window.jobs ∧ final = (parts verdict order).foldl merge state := by
  obtain ⟨order,same,folded⟩ := collect_order packed wide collected
  rw [foldlM_verdict absorbs] at folded
  have ends (final : State) : outcome = .ok final ↔ (∀ job ∈ order, ∃ part, verdict job = .ok part) ∧ final = (parts verdict order).foldl merge state := by
    rw [← folded]
    cases mapped : order.mapM verdict with
    | ok found =>
        obtain ⟨all,rfl⟩ := mapM_parts.mp mapped
        simp only [Except.map,Except.ok.injEq]
        exact ⟨fun same => ⟨all,same.symm⟩,fun both => both.2.symm⟩
    | error error =>
        refine ⟨fun same => (by cases same),fun both => ?_⟩
        cases (mapM_parts.mpr ⟨both.1,rfl⟩).symm.trans mapped
  refine ⟨?_,fun final given => ⟨order,same,((ends final).mp given).2⟩⟩
  constructor
  · intro given
    obtain ⟨final,given⟩ := given
    exact fun job member => ((ends final).mp given).1 job (same.mem_iff.mpr member)
  · exact fun all => ⟨_,(ends _).mpr ⟨fun job member => all job (same.mem_iff.mp member),rfl⟩⟩

end Collecting

end Sigproxy.Library.JoinWindow
