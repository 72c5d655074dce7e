import Sigproxy.Library.Octets
import Sigproxy.Proxy.TcpUpstream

namespace Sigproxy.Proxy.TcpHygiene
open Library

variable {Packet Message : Type}

def upstreamTimeout : Nat := 5000

inductive Failure where
  | closed
  | timedOut
  | write
  deriving DecidableEq, Repr

-- How far a call of send_request has come. Between the steps of one call any step of
-- another call or of the reader can fall.
inductive Progress where
  | checked
  | registered (rx : Nat)
  | writing (rx since : Nat)
  | failed (rx : Nat)
  | removed
  | returned (result : Except Failure Nat)

structure Call where
  branch : String
  packet : List Octet
  progress : Progress

-- What one write_all has put on the stream.
structure Fragment where
  packet : List Octet
  sent : Nat

inductive ReaderTask where
  | reading
  | stopped
  | marked
  | finished
  deriving DecidableEq, Repr

-- A connection in finer grain, with the calls made on it, which of them holds the
-- writer, and the stream.
structure Shared (Packet : Type) extends TcpUpstreamConnection Packet where
  reader : ReaderTask
  writer : Option Nat
  calls : List Call
  stream : List Fragment

def connect (Packet : Type) : Shared Packet := ⟨.connect Packet,.reading,none,[],[]⟩

inductive Turn where
  | register (method : Method) (recordRouteAddrs : List String)
  | lockWriter
  | written
  | writeFails (sent : Nat)
  | timesOut (sent : Nat)
  | removeBranch
  | markDead

inductive Action (Packet : Type) where
  | elapse (duration : Nat)
  | activeCounts
  | send (branch : String) (packet : List Octet)
  | turn (index : Nat) (turn : Turn)
  | dispatch (packet : Packet)
  | endOfStream
  | readerMarks
  | readerClears

def Shared.stand (shared : Shared Packet) (index : Nat) (call : Call) (progress : Progress) : Shared Packet :=
  {shared with calls:=shared.calls.set index {call with progress:=progress}}

-- The guard of the writer is dropped where the statement of the write ends, before
-- its result is looked at.
def Shared.wrote (shared : Shared Packet) (index : Nat) (call : Call) (sent : Nat) (progress : Progress) : Shared Packet :=
  {shared.stand index call progress with writer:=none,stream:=shared.stream ++ [⟨call.packet,sent⟩]}

def Shared.take (shared : Shared Packet) (index : Nat) (call : Call) : Turn → Progress → Option (Shared Packet)
  | .register method recordRouteAddrs,.checked =>
    let rx := shared.channels.length
    let branches := TcpUpstreamConnection.pruneTcpBranches shared.now shared.branches
    some {shared.stand index call (.registered rx) with
      branches:=branches.insert call.branch ⟨⟨rx,method,recordRouteAddrs⟩,shared.now⟩
      channels:=shared.channels ++ [[]]}
  | .lockWriter,.registered rx =>
    if shared.writer = none then some {shared.stand index call (.writing rx shared.now) with writer:=some index} else none
  | .written,.writing rx _ => some (shared.wrote index call call.packet.length (.returned (.ok rx)))
  | .writeFails sent,.writing rx _ =>
    if sent < call.packet.length then some (shared.wrote index call sent (.failed rx)) else none
  -- A write that times out returns here, with the branch registered and the
  -- connection alive.
  | .timesOut sent,.writing _ since =>
    if sent < call.packet.length ∧ since + upstreamTimeout ≤ shared.now then
      some (shared.wrote index call sent (.returned (.error .timedOut)))
    else none
  | .removeBranch,.failed _ => some {shared.stand index call .removed with branches:=shared.branches.erase call.branch}
  | .markDead,.removed => some {shared.stand index call (.returned (.error .write)) with alive:=false}
  | _,_ => none

def advance (codec : Codec Packet Message) (shared : Shared Packet) : Action Packet → Option (Shared Packet)
  | .elapse duration => some {shared with now:=shared.now + duration}
  | .activeCounts => some {shared with branches:=TcpUpstreamConnection.pruneTcpBranches shared.now shared.branches}
  | .send branch packet =>
    let progress := if shared.alive then .checked else .returned (.error .closed)
    some {shared with calls:=shared.calls ++ [⟨branch,packet,progress⟩]}
  | .turn index turn => do
    let call ← shared.calls[index]?
    shared.take index call turn call.progress
  | .dispatch packet =>
    if shared.reader = .reading then
      some {shared with toTcpUpstreamConnection:=
        TcpUpstreamConnection.dispatchTcpUpstreamResponse codec shared.toTcpUpstreamConnection packet}
    else none
  | .endOfStream => if shared.reader = .reading then some {shared with reader:=.stopped,reading:=false} else none
  | .readerMarks => if shared.reader = .stopped then some {shared with reader:=.marked,alive:=false} else none
  | .readerClears => if shared.reader = .marked then some {shared with reader:=.finished,branches:=∅} else none

def Call.returned (call : Call) : Bool := match call.progress with
  | .returned _ => true
  | _ => false

-- The call has returned the error of a write.
def Call.failed (call : Call) : Bool := match call.progress with
  | .returned (.error .timedOut) | .returned (.error .write) => true
  | _ => false

def Call.withdrawn (call : Call) : Bool := match call.progress with
  | .removed => true
  | _ => call.failed

-- The call has seen the connection alive and is not through with its write.
def Call.underway (call : Call) : Bool := match call.progress with
  | .checked | .registered _ | .writing .. => true
  | _ => false

-- The receiver that the call still has in hand.
def Call.holding (call : Call) : Option Nat := match call.progress with
  | .registered rx | .writing rx _ | .failed rx => some rx
  | _ => none

def Fragment.Broken (fragment : Fragment) : Prop := 0 < fragment.sent ∧ fragment.sent < fragment.packet.length

instance (fragment : Fragment) : Decidable fragment.Broken := inferInstanceAs (Decidable (_ ∧ _))

structure Hygienic (shared : Shared Packet) : Prop where
  vacated : shared.reader = .finished → (∀ call ∈ shared.calls, call.returned = true) → shared.branches = ∅
  withdrawn : ∀ call ∈ shared.calls, call.failed = true → shared.branches.lookup call.branch = none ∧ shared.alive = false
  unbroken : shared.stream.Pairwise fun earlier later => earlier.Broken → later.sent = 0

-- No call but the one that breaks off a request is on its way to the writer.
def Shared.Alone (shared : Shared Packet) (index : Nat) : Prop := ∀ call ∈ shared.calls.eraseIdx index, call.underway = false

def Shared.Torn (shared : Shared Packet) : Prop := ∃ fragment ∈ shared.stream, fragment.Broken

def Orderly (shared : Shared Packet) : Action Packet → Prop
  | .send .. => shared.Torn → shared.alive = false
  | .turn index (.register ..) =>
    ∀ call ∈ shared.calls[index]?, ∀ other ∈ shared.calls, other.withdrawn = true → other.branch ≠ call.branch
  | .turn index .written => shared.reader = .finished → ∀ call ∈ shared.calls[index]?,
    ∀ route ∈ shared.branches.lookup call.branch, call.holding ≠ some route.content.tx
  | .turn index (.writeFails sent) => 0 < sent → shared.Alone index
  | .turn index (.timesOut sent) => (∀ call ∈ shared.calls[index]?, shared.branches.lookup call.branch = none) ∧
    shared.alive = false ∧ (0 < sent → shared.Alone index)
  | _ => True

theorem mem_stand {index : Nat} {call other : Call} {progress : Progress} {shared : Shared Packet}
    (member : other ∈ (shared.stand index call progress).calls) :
    other = {call with progress:=progress} ∨ other ∈ shared.calls.eraseIdx index := by
  obtain ⟨place,placed⟩ := List.mem_iff_getElem?.mp member
  rw [Shared.stand,List.getElem?_set] at placed
  split at placed
  · split at placed
    · exact .inl (Option.some.inj placed).symm
    · cases placed
  · rename_i elsewhere
    exact .inr (List.mem_eraseIdx_iff_getElem?.mpr ⟨place,Ne.symm elsewhere,placed⟩)

theorem stand_mem {index : Nat} {call other : Call} {progress : Progress} {shared : Shared Packet}
    (found : shared.calls[index]? = some call) (member : other ∈ shared.calls) :
    other = call ∧ {call with progress:=progress} ∈ (shared.stand index call progress).calls ∨
      other ∈ (shared.stand index call progress).calls := by
  obtain ⟨place,placed⟩ := List.mem_iff_getElem?.mp member
  by_cases here : index = place
  · subst here
    cases found.symm.trans placed
    refine .inl ⟨rfl,List.mem_iff_getElem?.mpr ⟨index,?_⟩⟩
    rw [Shared.stand,List.getElem?_set_self (List.getElem?_eq_some_iff.mp found).1]
  · refine .inr (List.mem_iff_getElem?.mpr ⟨place,?_⟩)
    rw [Shared.stand,List.getElem?_set_ne here]
    exact placed

variable {codec : Codec Packet Message} {shared next : Shared Packet} {connection answered : TcpUpstreamConnection Packet}

theorem pruned_held (held : (TcpUpstreamConnection.pruneTcpBranches connection.now connection.branches).lookup branch = some route) :
    connection.branches.lookup branch = some route := by
  rw [TcpUpstreamConnection.pruneTcpBranches,Expiring.prune,Table.lookup_retain] at held
  exact (Option.filter_eq_some_iff.mp held).1

theorem erased_held {branches : Table String (Stamped TcpBranchRoute)} (held : (branches.erase other).lookup branch = some route) :
    branches.lookup branch = some route := by
  rw [Table.lookup_erase_eq] at held
  split at held
  · cases held
  · exact held

theorem dispatched_held (dispatched : TcpUpstreamConnection.Dispatched codec connection packet answered)
    (held : answered.branches.lookup branch = some route) : connection.branches.lookup branch = some route := by
  cases dispatched with
  | ignored _ => exact held
  | unmatched _ _ => exact pruned_held held
  | matched _ _ =>
      simp only [TcpUpstreamConnection.afterRelay] at held
      split at held
      · exact pruned_held (erased_held held)
      · exact pruned_held held

theorem dispatched_alive (dispatched : TcpUpstreamConnection.Dispatched codec connection packet answered) :
    answered.alive = connection.alive := by
  cases dispatched <;> rfl

structure Kept (shared : Shared Packet) : Prop where
  dead : shared.reader = .marked ∨ shared.reader = .finished → shared.alive = false
  owned : shared.reader = .finished → ∀ branch route, shared.branches.lookup branch = some route →
    ∃ call ∈ shared.calls, call.branch = branch ∧ call.holding = some route.content.tx
  withdrawn : ∀ call ∈ shared.calls, call.withdrawn = true → shared.branches.lookup call.branch = none
  buried : ∀ call ∈ shared.calls, call.failed = true → shared.alive = false
  quiet : shared.Torn → ∀ call ∈ shared.calls, call.underway = false
  unbroken : shared.stream.Pairwise fun earlier later => earlier.Broken → later.sent = 0

theorem returned_empty {call : Call} (returned : call.returned = true) : call.holding = none := by
  unfold Call.returned at returned
  unfold Call.holding
  split at returned
  · rename_i stands
    rw [stands]
  · cases returned

theorem Kept.hygienic {shared : Shared Packet} (kept : Kept shared) : Hygienic shared where
  vacated finished returned := by
    apply Table.eq_empty
    intro branch
    cases found : shared.branches.lookup branch with
    | none => rfl
    | some route =>
        obtain ⟨call,member,_,holds⟩ := kept.owned finished branch route found
        cases (returned_empty (returned call member)).symm.trans holds
  withdrawn call member failed := by
    refine ⟨kept.withdrawn call member ?_,kept.buried call member failed⟩
    unfold Call.withdrawn
    split
    · rfl
    · exact failed
  unbroken := kept.unbroken

theorem connect_kept (Packet : Type) : Kept (connect Packet) where
  dead ended := by rcases ended with ended | ended <;> cases ended
  owned finished := by cases finished
  withdrawn _ member := (nomatch member)
  buried _ member := (nomatch member)
  quiet torn := by
    obtain ⟨_,member,_⟩ := torn
    cases member
  unbroken := .nil

-- A connection that has lost routes or its life and gained neither.
theorem Kept.lessened (kept : Kept shared)
    (fewer : ∀ branch route, connection.branches.lookup branch = some route → shared.branches.lookup branch = some route)
    (life : shared.alive = false → connection.alive = false) : Kept {shared with toTcpUpstreamConnection:=connection} where
  dead ended := life (kept.dead ended)
  owned finished branch route held := kept.owned finished branch route (fewer branch route held)
  withdrawn call member gone := by
    apply Option.eq_none_iff_forall_ne_some.mpr
    intro route held
    cases (kept.withdrawn call member gone).symm.trans (fewer _ _ held)
  buried call member failed := life (kept.buried call member failed)
  quiet := kept.quiet
  unbroken := kept.unbroken

variable {index sent : Nat} {call : Call} {progress : Progress}

theorem Kept.stand (kept : Kept shared) (found : shared.calls[index]? = some call)
    (owned : shared.reader = .finished → ∀ route, shared.branches.lookup call.branch = some route →
      call.holding = some route.content.tx → Call.holding {call with progress:=progress} = some route.content.tx)
    (withdrawn : Call.withdrawn {call with progress:=progress} = true → shared.branches.lookup call.branch = none)
    (failed : Call.failed {call with progress:=progress} = true → shared.alive = false)
    (underway : Call.underway {call with progress:=progress} = true → call.underway = true) :
    Kept (shared.stand index call progress) where
  dead := kept.dead
  owned finished branch route held := by
    obtain ⟨owner,member,rfl,holds⟩ := kept.owned finished branch route held
    rcases @stand_mem _ _ _ _ progress _ found member with ⟨rfl,here⟩ | elsewhere
    · exact ⟨_,here,rfl,owned finished route held holds⟩
    · exact ⟨owner,elsewhere,rfl,holds⟩
  withdrawn other member gone := by
    rcases mem_stand member with rfl | elsewhere
    · exact withdrawn gone
    · exact kept.withdrawn other (List.mem_of_mem_eraseIdx elsewhere) gone
  buried other member error := by
    rcases mem_stand member with rfl | elsewhere
    · exact failed error
    · exact kept.buried other (List.mem_of_mem_eraseIdx elsewhere) error
  quiet torn other member := by
    have silent := kept.quiet torn
    rcases mem_stand member with rfl | elsewhere
    · have before := silent call (List.mem_of_getElem? found)
      by_contra going
      cases before.symm.trans (underway (eq_true_of_ne_false going))
    · exact silent other (List.mem_of_mem_eraseIdx elsewhere)
  unbroken := kept.unbroken

-- A call that writes finds the stream whole, and one that breaks off is the last.
theorem Kept.wrote (kept : Kept shared) (found : shared.calls[index]? = some call) (writing : call.underway = true)
    (owned : shared.reader = .finished → ∀ route, shared.branches.lookup call.branch = some route →
      call.holding = some route.content.tx → Call.holding {call with progress:=progress} = some route.content.tx)
    (withdrawn : Call.withdrawn {call with progress:=progress} = true → shared.branches.lookup call.branch = none)
    (failed : Call.failed {call with progress:=progress} = true → shared.alive = false)
    (through : Call.underway {call with progress:=progress} = false) (alone : 0 < sent → sent < call.packet.length → shared.Alone index) :
    Kept (shared.wrote index call sent progress) := by
  have standing := kept.stand found owned withdrawn failed fun going => (nomatch through.symm.trans going)
  have whole : ¬shared.Torn := by
    intro torn
    cases (kept.quiet torn call (List.mem_of_getElem? found)).symm.trans writing
  refine ⟨standing.dead,standing.owned,standing.withdrawn,standing.buried,?_,?_⟩
  · intro given other here
    rcases given with ⟨fragment,member,broken⟩
    rcases List.mem_append.mp member with before | now
    · exact (whole ⟨fragment,before,broken⟩).elim
    · cases List.mem_singleton.mp now
      rcases mem_stand here with rfl | elsewhere
      · exact through
      · exact alone broken.1 broken.2 other elsewhere
  · refine List.pairwise_append.mpr ⟨kept.unbroken,List.pairwise_singleton _ _,?_⟩
    intro earlier member later _ broken
    exact (whole ⟨earlier,member,broken⟩).elim

-- A branch is registered for a call that still has its receiver in hand, and no
-- call that has given the branch up shares it.
theorem Kept.registered (kept : Kept shared) (found : shared.calls[index]? = some call) (standing : call.progress = .checked)
    (others : ∀ other ∈ shared.calls, other.withdrawn = true → other.branch ≠ call.branch) (route : Stamped TcpBranchRoute)
    (hands : route.content.tx = shared.channels.length) : Kept {shared.stand index call (.registered shared.channels.length) with
      branches:=(TcpUpstreamConnection.pruneTcpBranches shared.now shared.branches).insert call.branch route
      channels:=shared.channels ++ [[]]} := by
  have moved : Kept (shared.stand index call (.registered shared.channels.length)) := by
    refine kept.stand found (fun _ route _ holds => ?_) (fun gone => (nomatch gone)) (fun failed => (nomatch failed)) fun _ => ?_
    · rw [Call.holding,standing] at holds
      cases holds
    · rw [Call.underway,standing]
  refine ⟨moved.dead,fun finished branch held shown => ?_,fun other member gone => ?_,moved.buried,moved.quiet,moved.unbroken⟩
  · dsimp only at shown
    rw [Table.lookup_insert_eq] at shown
    split at shown
    · cases shown
      subst branch
      refine ⟨_,List.mem_of_getElem? (List.getElem?_set_self (List.getElem?_eq_some_iff.mp found).1),rfl,?_⟩
      rw [hands]
      rfl
    · exact moved.owned finished branch held (@pruned_held _ shared.toTcpUpstreamConnection _ _ shown)
  · have another : other.branch ≠ call.branch := by
      rcases mem_stand member with rfl | elsewhere
      · cases gone
      · exact others other (List.mem_of_mem_eraseIdx elsewhere) gone
    apply Option.eq_none_iff_forall_ne_some.mpr
    intro held shown
    dsimp only at shown
    rw [Table.lookup_insert_eq,if_neg another] at shown
    cases (moved.withdrawn other member gone).symm.trans (@pruned_held _ shared.toTcpUpstreamConnection _ _ shown)

theorem take_kept (kept : Kept shared) (found : shared.calls[index]? = some call) (orderly : Orderly shared (.turn index turn))
    (taken : shared.take index call turn call.progress = some next) : Kept next := by
  generalize standing : call.progress = progress at taken
  unfold Shared.take at taken
  split at taken
  · cases taken
    exact kept.registered found standing (orderly call found) ⟨⟨_,_,_⟩,_⟩ rfl
  · rename_i rx
    split at taken
    · cases taken
      have moved : Kept (shared.stand index call (.writing rx shared.now)) := by
        refine kept.stand found (fun _ route _ holds => ?_) (fun gone => (nomatch gone)) (fun failed => (nomatch failed)) fun _ => ?_
        · rw [Call.holding,standing] at holds
          exact holds
        · rw [Call.underway,standing]
      exact ⟨moved.dead,moved.owned,moved.withdrawn,moved.buried,moved.quiet,moved.unbroken⟩
    · cases taken
  · cases taken
    have writing : call.underway = true := by rw [Call.underway,standing]
    refine kept.wrote found writing (fun finished route held holds => (orderly finished call found route held holds).elim)
      (fun gone => (nomatch gone)) (fun failed => (nomatch failed)) rfl fun _ short => (Nat.lt_irrefl _ short).elim
  · split at taken
    · cases taken
      have writing : call.underway = true := by rw [Call.underway,standing]
      refine kept.wrote found writing (fun _ route _ holds => ?_) (fun gone => (nomatch gone)) (fun failed => (nomatch failed)) rfl
        fun partly _ => orderly partly
      rw [Call.holding,standing] at holds
      exact holds
    · cases taken
  · split at taken
    · cases taken
      obtain ⟨absent,dead,alone⟩ := orderly
      have writing : call.underway = true := by rw [Call.underway,standing]
      exact kept.wrote found writing (fun _ route held _ => (nomatch (absent call found).symm.trans held)) (fun _ => absent call found)
        (fun _ => dead) rfl fun partly _ => alone partly
    · cases taken
  · cases taken
    have less : Kept {shared with branches:=shared.branches.erase call.branch} := kept.lessened (fun _ _ => erased_held) id
    have erased : (shared.branches.erase call.branch).lookup call.branch = none := AList.lookup_erase _ _
    exact less.stand found (fun _ route held _ => (nomatch erased.symm.trans held)) (fun _ => erased) (fun failed => (nomatch failed))
      fun going => (nomatch going)
  · cases taken
    have less : Kept {shared with alive:=false} := kept.lessened (fun _ _ held => held) fun _ => rfl
    refine less.stand found (fun _ route _ holds => ?_) (fun _ => kept.withdrawn call (List.mem_of_getElem? found) ?_) (fun _ => rfl)
      fun going => (nomatch going)
    · rw [Call.holding,standing] at holds
      cases holds
    · rw [Call.withdrawn,standing]
  · cases taken

theorem Kept.joined (kept : Kept shared) (orderly : shared.Torn → shared.alive = false) (branch : String) (packet : List Octet) :
    Kept {shared with calls:=shared.calls ++ [⟨branch,packet,if shared.alive then .checked else .returned (.error .closed)⟩]} := by
  have fresh {call : Call} (member : call ∈ shared.calls ++ [⟨branch,packet,if shared.alive then .checked else .returned (.error .closed)⟩]) :
      call ∈ shared.calls ∨ call.withdrawn = false ∧ call.failed = false ∧ (shared.alive = false → call.underway = false) := by
    rcases List.mem_append.mp member with before | now
    · exact .inl before
    · cases List.mem_singleton.mp now
      cases shared.alive <;> simp [Call.withdrawn,Call.failed,Call.underway]
  refine ⟨kept.dead,fun finished branch route held => ?_,fun call member gone => ?_,fun call member error => ?_,fun torn call member => ?_,
    kept.unbroken⟩
  · obtain ⟨owner,member,same,holds⟩ := kept.owned finished branch route held
    exact ⟨owner,List.mem_append_left _ member,same,holds⟩
  · rcases fresh member with before | ⟨staying,_⟩
    · exact kept.withdrawn call before gone
    · cases staying.symm.trans gone
  · rcases fresh member with before | ⟨_,sound,_⟩
    · exact kept.buried call before error
    · cases sound.symm.trans error
  · rcases fresh member with before | ⟨_,_,refused⟩
    · exact kept.quiet torn call before
    · exact refused (orderly torn)

theorem advance_kept {action : Action Packet} (orderly : Orderly shared action) (kept : Kept shared)
    (stepped : advance codec shared action = some next) : Kept next := by
  cases action with
  | elapse duration => cases stepped; exact kept.lessened (fun _ _ held => held) id
  | activeCounts =>
      cases stepped
      exact kept.lessened (fun _ _ => @pruned_held _ shared.toTcpUpstreamConnection _ _) id
  | send branch packet =>
      cases stepped
      exact kept.joined orderly branch packet
  | turn index turn =>
      obtain ⟨call,found,taken⟩ := Option.bind_eq_some_iff.mp stepped
      exact take_kept kept found orderly taken
  | dispatch packet =>
      simp only [advance] at stepped
      split at stepped
      · cases stepped
        have dispatched := TcpUpstreamConnection.dispatch_exact codec shared.toTcpUpstreamConnection packet
        exact kept.lessened (fun _ _ => dispatched_held dispatched) fun dead => (dispatched_alive dispatched).trans dead
      · cases stepped
  | endOfStream =>
      simp only [advance] at stepped
      split at stepped
      · cases stepped
        refine ⟨fun ended => ?_,fun finished => (nomatch finished),kept.withdrawn,kept.buried,kept.quiet,kept.unbroken⟩
        rcases ended with ended | ended <;> cases ended
      · cases stepped
  | readerMarks =>
      simp only [advance] at stepped
      split at stepped
      · cases stepped
        exact ⟨fun _ => rfl,fun finished => (nomatch finished),kept.withdrawn,fun _ _ _ => rfl,kept.quiet,kept.unbroken⟩
      · cases stepped
  | readerClears =>
      simp only [advance] at stepped
      split at stepped
      · rename_i marked
        cases stepped
        exact ⟨fun _ => kept.dead (.inl marked),fun _ _ _ held => (nomatch held),fun _ _ _ => rfl,kept.buried,kept.quiet,kept.unbroken⟩
      · cases stepped

theorem hygienic_while_orderly {actions : List (Action Packet)} (within : Machine.Within (advance codec) Orderly (connect Packet) actions)
    (ran : Machine.run (advance codec) (connect Packet) actions = some shared) : Hygienic shared :=
  (Machine.run_preserves_within Kept (fun _ _ _ => advance_kept) within (connect_kept Packet) ran).hygienic

section Schedules

instance (shared : Shared Packet) (index : Nat) : Decidable (shared.Alone index) :=
  inferInstanceAs (Decidable (∀ call ∈ shared.calls.eraseIdx index,call.underway = false))

instance (shared : Shared Packet) : Decidable shared.Torn :=
  inferInstanceAs (Decidable (∃ fragment ∈ shared.stream,fragment.Broken))

instance decidableOrderly (shared : Shared Packet) : ∀ action, Decidable (Orderly shared action)
  | .send .. => inferInstanceAs (Decidable (shared.Torn → shared.alive = false))
  | .turn index (.register ..) => inferInstanceAs (Decidable (∀ call ∈ shared.calls[index]?,∀ other ∈ shared.calls,
      other.withdrawn = true → other.branch ≠ call.branch))
  | .turn index .written => inferInstanceAs (Decidable (shared.reader = .finished → ∀ call ∈ shared.calls[index]?,
      ∀ route ∈ shared.branches.lookup call.branch,call.holding ≠ some route.content.tx))
  | .turn index (.writeFails sent) => inferInstanceAs (Decidable (0 < sent → shared.Alone index))
  | .turn index (.timesOut sent) => inferInstanceAs (Decidable ((∀ call ∈ shared.calls[index]?,
      shared.branches.lookup call.branch = none) ∧ shared.alive = false ∧ (0 < sent → shared.Alone index)))
  | .turn _ .lockWriter | .turn _ .removeBranch | .turn _ .markDead => inferInstanceAs (Decidable True)
  | .elapse _ | .activeCounts | .dispatch _ | .endOfStream | .readerMarks | .readerClears => inferInstanceAs (Decidable True)

-- The second request waits for the writer while the write of the first one times out.
def timedOut : List (Action Envelope) :=
  [.send (proxyBranch 1) [1,2],.send (proxyBranch 2) [3],.turn 0 (.register .invite []),.turn 1 (.register .bye []),
    .turn 0 .lockWriter,.elapse upstreamTimeout,.turn 0 (.timesOut 1),.turn 1 .lockWriter,.turn 1 .written]

-- The upstream closes its half between the check and the registration.
def belated : List (Action Envelope) :=
  [.send (proxyBranch 1) [1,2],.endOfStream,.readerMarks,.readerClears,.turn 0 (.register .invite []),.turn 0 .lockWriter,.turn 0 .written]

-- The second request gets the writer before the first one marks the connection dead.
def overtaken : List (Action Envelope) :=
  [.send (proxyBranch 1) [1,2],.send (proxyBranch 2) [3],.turn 0 (.register .invite []),.turn 1 (.register .bye []),
    .turn 0 .lockWriter,.turn 0 (.writeFails 1),.turn 1 .lockWriter,.turn 1 .written,.turn 0 .removeBranch,.turn 0 .markDead]

def orderly : List (Action Envelope) :=
  [.send (proxyBranch 1) [1,2],.send (proxyBranch 2) [3],.turn 1 (.register .bye []),.turn 0 (.register .invite []),
    .turn 1 .lockWriter,.turn 1 .written,.turn 0 .lockWriter,.turn 0 .written,.dispatch (answer .invite 180 "Ringing"),
    .send (proxyBranch 3) [4,5],.turn 2 (.register .info []),.turn 2 .lockWriter,.turn 2 (.writeFails 1),.turn 2 .removeBranch,
    .turn 2 .markDead,.send (proxyBranch 4) [6],.endOfStream,.readerMarks,.readerClears]

theorem timed_out_request_followed :
    (∃ left, Machine.run (advance envelopeCodec) (connect Envelope) timedOut = some left ∧ left.alive = true ∧
      (∃ call ∈ left.calls, call.failed = true ∧ (left.branches.lookup call.branch).isSome) ∧
      (∃ earlier later, left.stream = [earlier,later] ∧ earlier.Broken ∧ 0 < later.sent) ∧ ¬Hygienic left) ∧
    (∃ left, Machine.run (advance envelopeCodec) (connect Envelope) belated = some left ∧ left.reader = .finished ∧
      (∀ call ∈ left.calls, call.returned = true) ∧ left.branches.keys = [proxyBranch 1] ∧ ¬Hygienic left) ∧
    ∃ left, Machine.run (advance envelopeCodec) (connect Envelope) overtaken = some left ∧ ¬Hygienic left := by
  refine ⟨⟨_,rfl,rfl,by decide,⟨_,_,rfl,by decide,by decide⟩,fun hygienic => ?_⟩,⟨_,rfl,rfl,by decide,rfl,fun hygienic => ?_⟩,_,rfl,fun hygienic => ?_⟩
  · have dead := (hygienic.withdrawn _ List.mem_cons_self rfl).2
    cases dead
  · have empty := hygienic.vacated rfl (by decide)
    cases empty
  · have unbroken := List.rel_of_pairwise_cons hygienic.unbroken (List.mem_cons_self) (by decide)
    cases unbroken

theorem broken_request_last : ∃ left, Machine.run (advance envelopeCodec) (connect Envelope) orderly = some left ∧ Hygienic left ∧
    left.reader = .finished ∧ (∀ call ∈ left.calls, call.returned = true) ∧ (∃ call ∈ left.calls, call.failed = true) ∧ left.Torn := by
  have ran : ∃ left, Machine.run (advance envelopeCodec) (connect Envelope) orderly = some left ∧ left.reader = .finished ∧
      (∀ call ∈ left.calls, call.returned = true) ∧ (∃ call ∈ left.calls, call.failed = true) ∧ left.Torn :=
    ⟨_,rfl,rfl,by decide,by decide,by decide⟩
  obtain ⟨left,ran,finished,returned,failed,torn⟩ := ran
  exact ⟨left,ran,hygienic_while_orderly (by decide +kernel) ran,finished,returned,failed,torn⟩

end Schedules

end Sigproxy.Proxy.TcpHygiene
