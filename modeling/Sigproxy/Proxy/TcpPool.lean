import Sigproxy.Proxy.TcpHygiene

namespace Sigproxy.Proxy
open Library Net

-- Connections are numbered in the order they are opened in, which stands for the
-- identity of their Arc.
structure OpenedConnection where
  target : SocketAddr
  alive : Bool
  deriving DecidableEq, Repr

namespace TcpUpstreamPool

inductive Failure where
  | connect (timedOut : Bool)
  | send (failure : TcpHygiene.Failure)
  | unsent
  deriving DecidableEq, Repr

-- Where a call of the pool's send_request stands, with the turns of its loop that are
-- left after this one. The lock of the map is held for one critical section at a time.
inductive Stage where
  | lookingUp (left : Nat)
  | connecting (left : Nat)
  | inserting (left connection : Nat)
  | checking (left connection : Nat)
  | writing (left connection : Nat)
  | failing (left connection : Nat)
  | removing (left connection : Nat)
  | returned (result : Except Failure Nat)

structure Call where
  target : SocketAddr
  lastError : Option Failure
  stage : Stage

end TcpUpstreamPool

-- `tried` is the connections on which a call has started a send_request, with the call.
structure TcpUpstreamPool where
  connections : Table SocketAddr Nat
  opened : List OpenedConnection
  calls : List TcpUpstreamPool.Call
  tried : List (Nat × Nat)

namespace TcpUpstreamPool

def new : TcpUpstreamPool := ⟨∅,[],[],[]⟩

def sendRequest (target : SocketAddr) : Call := ⟨target,none,.lookingUp 1⟩

inductive Turn where
  | lookUp
  | connected
  | connectFails (timedOut : Bool)
  | insert
  | check
  | written
  | timesOut
  | writeFails
  | markDead
  | remove
  deriving DecidableEq, Repr

inductive Action where
  | sendRequest (target : SocketAddr)
  | turn (index : Nat) (turn : Turn)
  | readerEnds (connection : Nat)

def isAlive (pool : TcpUpstreamPool) (connection : Nat) : Bool := pool.opened[connection]?.any OpenedConnection.alive

def markDead (opened : List OpenedConnection) (connection : Nat) : List OpenedConnection :=
  opened.modify connection fun known => {known with alive:=false}

def removeIfSame (connections : Table SocketAddr Nat) (target : SocketAddr) (connection : Nat) : Table SocketAddr Nat :=
  if connections.lookup target = some connection then connections.erase target else connections

-- The first half of get_or_connect: the connection is read and seen alive under the lock.
def pooled (pool : TcpUpstreamPool) (target : SocketAddr) : Option Nat :=
  (pool.connections.lookup target).filter pool.isAlive

-- The end of one turn of the loop.
def Call.next (call : Call) : Nat → Stage
  | 0 => .returned (.error (call.lastError.getD .unsent))
  | left + 1 => .lookingUp left

def stand (pool : TcpUpstreamPool) (index : Nat) (call : Call) (stage : Stage) : TcpUpstreamPool :=
  {pool with calls:=pool.calls.set index {call with stage:=stage}}

def fail (pool : TcpUpstreamPool) (index : Nat) (call : Call) (failure : TcpHygiene.Failure) (stage : Stage) : TcpUpstreamPool :=
  {pool with calls:=pool.calls.set index {call with lastError:=some (.send failure),stage:=stage}}

def take (pool : TcpUpstreamPool) (index : Nat) (call : Call) : Turn → Stage → Option TcpUpstreamPool
  | .lookUp,.lookingUp left =>
    match pool.pooled call.target with
    | some connection => some (pool.stand index call (.checking left connection))
    | none => some (pool.stand index call (.connecting left))
  | .connected,.connecting left =>
    some {pool.stand index call (.inserting left pool.opened.length) with opened:=pool.opened ++ [⟨call.target,true⟩]}
  | .connectFails timedOut,.connecting _ => some (pool.stand index call (.returned (.error (.connect timedOut))))
  | .insert,.inserting left connection =>
    some {pool.stand index call (.checking left connection) with connections:=pool.connections.insert call.target connection}
  | .check,.checking left connection =>
    let tried := pool.tried ++ [(index,connection)]
    if pool.isAlive connection then some {pool.stand index call (.writing left connection) with tried:=tried}
    else some {pool.fail index call .closed (.removing left connection) with tried:=tried}
  | .written,.writing _ connection => some (pool.stand index call (.returned (.ok connection)))
  | .timesOut,.writing left connection => some (pool.fail index call .timedOut (.removing left connection))
  | .writeFails,.writing left connection => some (pool.stand index call (.failing left connection))
  | .markDead,.failing left connection =>
    some {pool.fail index call .write (.removing left connection) with opened:=markDead pool.opened connection}
  | .remove,.removing left connection =>
    some {pool.stand index call (call.next left) with connections:=removeIfSame pool.connections call.target connection}
  | _,_ => none

def advance (pool : TcpUpstreamPool) : Action → Option TcpUpstreamPool
  | .sendRequest target => some {pool with calls:=pool.calls ++ [TcpUpstreamPool.sendRequest target]}
  | .turn index turn => do
    let call ← pool.calls[index]?
    pool.take index call turn call.stage
  | .readerEnds connection => some {pool with opened:=markDead pool.opened connection}

-- The connection a call has opened and not put into the map yet.
def Stage.introduces : Stage → Option Nat
  | .inserting _ connection => some connection
  | _ => none

def tries (pool : TcpUpstreamPool) (index : Nat) : List Nat := (pool.tried.filter (·.1 == index)).map Prod.snd

def Reaches (pool : TcpUpstreamPool) (target : SocketAddr) (connection : Nat) : Prop :=
  ∃ known, pool.opened[connection]? = some known ∧ known.target = target

def Dead (pool : TcpUpstreamPool) (connection : Nat) : Prop :=
  ∃ known, pool.opened[connection]? = some known ∧ known.alive = false

-- An open connection that no call is about to put into the map.
structure Introduced (pool : TcpUpstreamPool) (connection : Nat) : Prop where
  opened : connection < pool.opened.length
  settled : ∀ call ∈ pool.calls, call.stage.introduces ≠ some connection

structure Retired (pool : TcpUpstreamPool) (connection : Nat) : Prop extends Introduced pool connection where
  absent : ∀ target, pool.connections.lookup target ≠ some connection

-- What one turn of a call can do, with the guards it was taken under.
inductive Took (pool : TcpUpstreamPool) (index : Nat) (call : Call) : Stage → TcpUpstreamPool → Prop where
  | found : pool.pooled call.target = some connection → Took pool index call (.lookingUp left) (pool.stand index call (.checking left connection))
  | missed : pool.pooled call.target = none → Took pool index call (.lookingUp left) (pool.stand index call (.connecting left))
  | connected : Took pool index call (.connecting left)
      {pool.stand index call (.inserting left pool.opened.length) with opened:=pool.opened ++ [⟨call.target,true⟩]}
  | refused : Took pool index call (.connecting left) (pool.stand index call (.returned (.error (.connect timedOut))))
  | inserted : Took pool index call (.inserting left connection)
      {pool.stand index call (.checking left connection) with connections:=pool.connections.insert call.target connection}
  | alive : pool.isAlive connection = true → Took pool index call (.checking left connection)
      {pool.stand index call (.writing left connection) with tried:=pool.tried ++ [(index,connection)]}
  | dead : pool.isAlive connection = false → Took pool index call (.checking left connection)
      {pool.fail index call .closed (.removing left connection) with tried:=pool.tried ++ [(index,connection)]}
  | written : Took pool index call (.writing left connection) (pool.stand index call (.returned (.ok connection)))
  | timedOut : Took pool index call (.writing left connection) (pool.fail index call .timedOut (.removing left connection))
  | broken : Took pool index call (.writing left connection) (pool.stand index call (.failing left connection))
  | marked : Took pool index call (.failing left connection)
      {pool.fail index call .write (.removing left connection) with opened:=markDead pool.opened connection}
  | removed : Took pool index call (.removing left connection)
      {pool.stand index call (call.next left) with connections:=removeIfSame pool.connections call.target connection}

theorem take_took (taken : take pool index call turn stage = some next) : Took pool index call stage next := by
  unfold take at taken
  split at taken
  · split at taken <;> rename_i looked <;> cases taken
    · exact .found looked
    · exact .missed looked
  · cases taken; exact .connected
  · cases taken; exact .refused
  · cases taken; exact .inserted
  · dsimp only at taken
    split at taken <;> rename_i lives <;> cases taken
    · exact .alive lives
    · exact .dead (Bool.eq_false_iff.mpr lives)
  · cases taken; exact .written
  · cases taken; exact .timedOut
  · cases taken; exact .broken
  · cases taken; exact .marked
  · cases taken; exact .removed
  · cases taken

section Marking
variable {opened : List OpenedConnection}

theorem markDead_get (opened : List OpenedConnection) (connection other : Nat) : (markDead opened connection)[other]? =
    (opened[other]?).map fun known => if connection = other then {known with alive:=false} else known := by
  simp [markDead,List.getElem?_modify]

end Marking

variable {pool next : TcpUpstreamPool}

-- What no step takes back.
structure Onward (pool next : TcpUpstreamPool) : Prop where
  reaches : Reaches pool target connection → Reaches next target connection
  dead : Dead pool connection → Dead next connection
  introduced : Introduced pool connection → Introduced next connection
  retired : Retired pool connection → Retired next connection

-- Connections keep their numbers and targets, and a closed one stays closed.
def Carried (before after : List OpenedConnection) : Prop :=
  ∀ (connection : Nat) (known : OpenedConnection), before[connection]? = some known →
    ∃ later, after[connection]? = some later ∧ later.target = known.target ∧ (known.alive = false → later.alive = false)

theorem Carried.refl (opened : List OpenedConnection) : Carried opened opened := fun _ known found => ⟨known,found,rfl,id⟩

theorem carried_append (opened fresh : List OpenedConnection) : Carried opened (opened ++ fresh) :=
  fun _ known found => ⟨known,(List.getElem?_append_left (List.getElem?_eq_some_iff.mp found).1).trans found,rfl,id⟩

theorem carried_markDead (opened : List OpenedConnection) (marked : Nat) : Carried opened (markDead opened marked) := by
  intro connection known found
  simp only [markDead_get,found,Option.map_some,Option.some.injEq,exists_eq_left']
  split <;> simp

theorem onward_of (opened : Carried pool.opened next.opened)
    (calls : ∀ call ∈ next.calls, ∀ connection, call.stage.introduces = some connection →
      pool.opened.length ≤ connection ∨ ∃ other ∈ pool.calls, other.stage.introduces = some connection)
    (connections : ∀ target connection, next.connections.lookup target = some connection →
      pool.connections.lookup target = some connection ∨ ¬Introduced pool connection) : Onward pool next := by
  have introduced {connection : Nat} (known : Introduced pool connection) : Introduced next connection := by
    obtain ⟨later,found,_⟩ := opened connection _ (List.getElem?_eq_getElem known.opened)
    refine ⟨(List.getElem?_eq_some_iff.mp found).1,fun call member same => ?_⟩
    rcases calls call member connection same with beyond | ⟨other,held,also⟩
    · exact absurd known.opened (Nat.not_lt.mpr beyond)
    · exact known.settled other held also
  refine ⟨?reaches,?dead,introduced,?retired⟩
  case reaches =>
      intro target connection given
      obtain ⟨known,found,same⟩ := given
      obtain ⟨later,kept,target,_⟩ := opened connection known found
      exact ⟨later,kept,target.trans same⟩
  case dead =>
      intro connection given
      obtain ⟨known,found,gone⟩ := given
      obtain ⟨later,kept,_,stays⟩ := opened connection known found
      exact ⟨later,kept,stays gone⟩
  case retired =>
      intro connection gone
      refine ⟨introduced gone.toIntroduced,fun target held => ?_⟩
      rcases connections target connection held with before | fresh
      · exact gone.absent target before
      · exact fresh gone.toIntroduced

theorem set_introduces {calls : List Call} {fresh : Call} (quiet : fresh.stage.introduces = none) :
    ∀ call ∈ calls.set index fresh, ∀ connection, call.stage.introduces = some connection →
      bound ≤ connection ∨ ∃ other ∈ calls, other.stage.introduces = some connection := by
  intro call member connection introduces
  rcases List.mem_or_eq_of_mem_set member with held | rfl
  · exact .inr ⟨call,held,introduces⟩
  · cases quiet.symm.trans introduces

theorem next_introduces (call : Call) (left : Nat) : (call.next left).introduces = none := by
  cases left <;> rfl

theorem removeIfSame_held {connections : Table SocketAddr Nat}
    (held : (removeIfSame connections target connection).lookup other = some found) : connections.lookup other = some found := by
  unfold removeIfSame at held
  split at held
  · rw [Table.lookup_erase_eq] at held
    split at held
    · cases held
    · exact held
  · exact held

theorem took_onward (found : pool.calls[index]? = some call) (took : Took pool index call call.stage next) : Onward pool next := by
  generalize standing : call.stage = stage at took
  cases took with
  | connected =>
      refine onward_of (carried_append _ _) (fun other member connection introduces => ?_) fun _ _ held => .inl held
      rcases List.mem_or_eq_of_mem_set member with held | rfl
      · exact .inr ⟨other,held,introduces⟩
      · cases introduces
        exact .inl (Nat.le_refl _)
  | @inserted left connection =>
      refine onward_of (.refl _) (set_introduces rfl) fun target other held => ?_
      rw [Table.lookup_insert_eq] at held
      split at held
      · cases held
        exact .inr fun introduced => introduced.settled call (List.mem_of_getElem? found) (by rw [standing]; rfl)
      · exact .inl held
  | marked => exact onward_of (carried_markDead _ _) (set_introduces rfl) fun _ _ held => .inl held
  | removed => exact onward_of (.refl _) (set_introduces (next_introduces ..)) fun _ _ held => .inl (removeIfSame_held held)
  | _ => exact onward_of (.refl _) (set_introduces rfl) fun _ _ held => .inl held

theorem step_onward (stepped : advance pool action = some next) : Onward pool next := by
  cases action with
  | sendRequest target =>
      cases stepped
      refine onward_of (.refl _) (fun call member connection introduces => ?_) fun _ _ held => .inl held
      rcases List.mem_append.mp member with held | fresh
      · exact .inr ⟨call,held,introduces⟩
      · cases List.mem_singleton.mp fresh
        cases introduces
  | turn index turn =>
      obtain ⟨call,found,taken⟩ := Option.bind_eq_some_iff.mp stepped
      exact took_onward found (take_took taken)
  | readerEnds connection =>
      cases stepped
      exact onward_of (carried_markDead _ _) (fun call held connection introduces => .inr ⟨call,held,introduces⟩) fun _ _ held => .inl held

-- Connections that a call has tried in vain: they are out of the pool for good.
structure Spent (pool : TcpUpstreamPool) (target : SocketAddr) (made : List Nat) : Prop where
  distinct : made.Nodup
  reaches : ∀ connection ∈ made, Reaches pool target connection
  retired : ∀ connection ∈ made, Retired pool connection

structure Behind (pool : TcpUpstreamPool) (target : SocketAddr) (made : List Nat) (left : Nat) : Prop extends Spent pool target made where
  count : made.length + left = 1

-- The connection of this turn, which is none of the earlier ones.
structure Current (pool : TcpUpstreamPool) (target : SocketAddr) (made : List Nat) (left connection : Nat) : Prop extends
    Behind pool target made left where
  other : connection ∉ made
  reached : Reaches pool target connection

def Standing (pool : TcpUpstreamPool) (made : List Nat) (call : Call) : Prop := match call.stage with
  | .lookingUp left | .connecting left => Behind pool call.target made left
  | .inserting left connection => Current pool call.target made left connection
  | .checking left connection => Current pool call.target made left connection ∧ Introduced pool connection
  | .writing left connection | .failing left connection => ∃ earlier, made = earlier ++ [connection] ∧
      Current pool call.target earlier left connection ∧ Introduced pool connection
  | .removing left connection => ∃ earlier failure, made = earlier ++ [connection] ∧ call.lastError = some (.send failure) ∧
      Current pool call.target earlier left connection ∧ Introduced pool connection ∧ (failure = .timedOut ∨ Dead pool connection)
  | .returned (.ok connection) => ∃ earlier left, made = earlier ++ [connection] ∧ Current pool call.target earlier left connection
  | .returned (.error failure) => failure ≠ .unsent ∧ made.length ≤ 2 ∧ Spent pool call.target made

theorem Spent.onward (spent : Spent pool target made) (on : Onward pool next) : Spent next target made :=
  ⟨spent.distinct,fun connection member => on.reaches (spent.reaches connection member),
    fun connection member => on.retired (spent.retired connection member)⟩

theorem Behind.onward (behind : Behind pool target made left) (on : Onward pool next) : Behind next target made left :=
  ⟨behind.toSpent.onward on,behind.count⟩

theorem Current.onward (current : Current pool target made left connection) (on : Onward pool next) :
    Current next target made left connection :=
  ⟨current.toBehind.onward on,current.other,on.reaches current.reached⟩

theorem Standing.onward (standing : Standing pool made call) (on : Onward pool next) : Standing next made call := by
  unfold Standing at standing ⊢
  split at standing
  case h_1 | h_2 => exact standing.onward on
  case h_3 => exact standing.onward on
  case h_4 => exact ⟨standing.1.onward on,on.introduced standing.2⟩
  case h_5 | h_6 =>
      obtain ⟨earlier,split,current,introduced⟩ := standing
      exact ⟨earlier,split,current.onward on,on.introduced introduced⟩
  case h_7 =>
      obtain ⟨earlier,failure,split,error,current,introduced,perished⟩ := standing
      exact ⟨earlier,failure,split,error,current.onward on,on.introduced introduced,perished.imp_right on.dead⟩
  case h_8 =>
      obtain ⟨earlier,left,split,current⟩ := standing
      exact ⟨earlier,left,split,current.onward on⟩
  case h_9 =>
      obtain ⟨sent,count,spent⟩ := standing
      exact ⟨sent,count,spent.onward on⟩

structure Sound (pool : TcpUpstreamPool) : Prop where
  pooled : ∀ target connection, pool.connections.lookup target = some connection → Reaches pool target connection ∧ Introduced pool connection
  alone : ∀ (index other connection : Nat) (call rival : Call), pool.calls[index]? = some call → pool.calls[other]? = some rival → call.stage.introduces = some connection →
    rival.stage.introduces = some connection → index = other
  standing : ∀ (index : Nat) (call : Call), pool.calls[index]? = some call → Standing pool (pool.tries index) call
  begun : ∀ pair ∈ pool.tried, pair.1 < pool.calls.length

theorem new_sound : Sound new where
  pooled := by intro target connection held; simp [new] at held
  alone := by intro index other connection call rival found; simp [new] at found
  standing := by intro index call found; simp [new] at found
  begun := by simp [new]

theorem tries_own (same : next.tried = pool.tried ++ [(index,connection)]) : next.tries index = pool.tries index ++ [connection] := by
  simp [tries,same]

theorem tries_other (same : next.tried = pool.tried ++ [(index,connection)]) (different : other ≠ index) :
    next.tries other = pool.tries other := by
  have skipped : (index == other) = false := by simpa using different.symm
  simp [tries,same,skipped]

theorem Standing.reached {call : Call} (standing : Standing pool made call) (introduces : call.stage.introduces = some connection) :
    Reaches pool call.target connection := by
  unfold Standing at standing
  unfold Stage.introduces at introduces
  split at introduces
  · rename_i left connection stage
    rw [stage] at standing
    cases introduces
    exact standing.reached
  · cases introduces

theorem reaches_lt (reaches : Reaches pool target connection) : connection < pool.opened.length := by
  obtain ⟨known,found,_⟩ := reaches
  exact (List.getElem?_eq_some_iff.mp found).1

-- Nobody else is about to put in a connection that has just been opened.
theorem Sound.unheard (sound : Sound pool) : ∀ call ∈ pool.calls, call.stage.introduces ≠ some pool.opened.length := by
  intro call member introduces
  obtain ⟨index,found⟩ := List.mem_iff_getElem?.mp member
  exact Nat.lt_irrefl _ (reaches_lt ((sound.standing index call found).reached introduces))

structure Turned (pool : TcpUpstreamPool) (index : Nat) (fresh : Call) (next : TcpUpstreamPool) : Prop where
  calls : next.calls = pool.calls.set index fresh
  tried : next.tried = pool.tried ∨ ∃ connection, next.tried = pool.tried ++ [(index,connection)]
  pooled : ∀ target connection, next.connections.lookup target = some connection →
    pool.connections.lookup target = some connection ∨ Reaches next target connection ∧ Introduced next connection
  sole : ∀ connection, fresh.stage.introduces = some connection → ∀ call ∈ pool.calls, call.stage.introduces ≠ some connection
  standing : Standing next (next.tries index) fresh

theorem quiet_sole {stage : Stage} {calls : List Call} (quiet : stage.introduces = none) :
    ∀ connection, stage.introduces = some connection → ∀ call ∈ calls, call.stage.introduces ≠ some connection := by
  intro connection introduces
  cases quiet.symm.trans introduces

theorem Sound.turned (sound : Sound pool) (on : Onward pool next) (found : pool.calls[index]? = some call)
    (turned : Turned pool index fresh next) : Sound next := by
  have within := (List.getElem?_eq_some_iff.mp found).1
  have others (other : Nat) (different : other ≠ index) : next.calls[other]? = pool.calls[other]? := by
    simp [turned.calls,List.getElem?_set_ne different.symm]
  have own : next.calls[index]? = some fresh := by simp [turned.calls,within]
  refine ⟨?pooled,?alone,?standing,?begun⟩
  case pooled =>
      intro target connection held
      rcases turned.pooled target connection held with before | taken
      · exact (sound.pooled target connection before).imp on.reaches on.introduced
      · exact taken
  case alone =>
      intro first second connection call rival one two introduces also
      by_cases atFirst : first = index
      · by_cases atSecond : second = index
        · rw [atFirst,atSecond]
        · rw [others second atSecond] at two
          subst atFirst
          cases own.symm.trans one
          exact absurd also (turned.sole connection introduces rival (List.mem_of_getElem? two))
      · rw [others first atFirst] at one
        by_cases atSecond : second = index
        · subst atSecond
          cases own.symm.trans two
          exact absurd introduces (turned.sole connection also call (List.mem_of_getElem? one))
        · rw [others second atSecond] at two
          exact sound.alone first second connection call rival one two introduces also
  case standing =>
      intro other call held
      by_cases same : other = index
      · subst same
        cases own.symm.trans held
        exact turned.standing
      · rw [others other same] at held
        have kept := (sound.standing other call held).onward on
        rcases turned.tried with tried | ⟨connection,tried⟩
        · simpa [tries,tried] using kept
        · rwa [tries_other tried same]
  case begun =>
      intro pair member
      rw [turned.calls,List.length_set]
      rcases turned.tried with tried | ⟨connection,tried⟩ <;> rw [tried] at member
      · exact sound.begun pair member
      · rcases List.mem_append.mp member with before | last
        · exact sound.begun pair before
        · cases List.mem_singleton.mp last
          exact within

theorem pooled_some (looked : pool.pooled target = some connection) :
    pool.connections.lookup target = some connection ∧ pool.isAlive connection = true := by
  simpa [pooled,Option.filter_eq_some_iff] using looked

theorem dead_of_isAlive (reaches : Reaches pool target connection) (lives : pool.isAlive connection = false) : Dead pool connection := by
  obtain ⟨known,found,_⟩ := reaches
  exact ⟨known,found,by simpa [isAlive,found] using lives⟩

theorem reaches_unique (one : Reaches pool target connection) (two : Reaches pool other connection) : target = other := by
  obtain ⟨known,found,rfl⟩ := one
  obtain ⟨_,also,rfl⟩ := two
  cases found.symm.trans also
  rfl

-- What another call has put in place of the connection stays where it is.
theorem removeIfSame_absent (sound : Sound pool) (reaches : Reaches pool target connection) (other : SocketAddr) :
    (removeIfSame pool.connections target connection).lookup other ≠ some connection := by
  intro held
  have before := removeIfSame_held held
  have same := reaches_unique (sound.pooled other connection before).1 reaches
  subst same
  simp [removeIfSame,before] at held

theorem Current.spent (current : Current pool target made left connection) (retired : Retired pool connection) :
    Spent pool target (made ++ [connection]) where
  distinct := by simpa [List.nodup_append] using ⟨current.distinct,fun other member same => current.other (same ▸ member)⟩
  reaches other member := by
    rcases List.mem_append.mp member with earlier | last
    · exact current.reaches other earlier
    · exact List.mem_singleton.mp last ▸ current.reached
  retired other member := by
    rcases List.mem_append.mp member with earlier | last
    · exact current.retired other earlier
    · exact List.mem_singleton.mp last ▸ retired

theorem took_turned (sound : Sound pool) (found : pool.calls[index]? = some call) (took : Took pool index call call.stage next) :
    ∃ fresh, Turned pool index fresh next := by
  have on := took_onward found took
  have standing := sound.standing index call found
  unfold Standing at standing
  generalize stage : call.stage = at_ at took standing
  cases took with
  | @found connection left looked =>
      obtain ⟨held,_⟩ := pooled_some looked
      obtain ⟨reaches,introduced⟩ := sound.pooled _ _ held
      refine ⟨_,rfl,.inl rfl,fun _ _ => .inl,quiet_sole rfl,?_⟩
      exact ⟨⟨standing.onward on,fun member => (standing.retired connection member).absent _ held,on.reaches reaches⟩,on.introduced introduced⟩
  | missed => exact ⟨_,rfl,.inl rfl,fun _ _ => .inl,quiet_sole rfl,standing.onward on⟩
  | connected =>
      refine ⟨_,rfl,.inl rfl,fun _ _ => .inl,fun _ introduces => ?_,standing.onward on,fun member => ?_,⟨⟨call.target,true⟩,by simp,rfl⟩⟩
      · cases introduces
        exact sound.unheard
      · exact Nat.lt_irrefl _ (reaches_lt (standing.reaches _ member))
  | @refused left timedOut =>
      have count := standing.count
      exact ⟨_,rfl,.inl rfl,fun _ _ => .inl,quiet_sole rfl,by simp,by simp only [tries,stand] at count ⊢; omega,standing.toSpent.onward on⟩
  | @inserted left connection =>
      have introduced : Introduced {pool.stand index call (.checking left connection) with
          connections:=pool.connections.insert call.target connection} connection := by
        refine ⟨reaches_lt standing.reached,fun other member introduces => ?_⟩
        obtain ⟨place,held⟩ := List.mem_iff_getElem?.mp member
        by_cases same : place = index
        · subst same
          simp only [stand,List.getElem?_set_self (List.getElem?_eq_some_iff.mp found).1,Option.some.injEq] at held
          cases held
          cases introduces
        · simp only [stand,List.getElem?_set_ne (Ne.symm same)] at held
          exact same (sound.alone place index connection other call held found introduces (by rw [stage]; rfl))
      have reached : Reaches {pool.stand index call (.checking left connection) with
          connections:=pool.connections.insert call.target connection} call.target connection := on.reaches standing.reached
      refine ⟨_,rfl,.inl rfl,fun target other held => ?_,quiet_sole rfl,standing.onward on,introduced⟩
      rw [Table.lookup_insert_eq] at held
      split at held
      · rename_i same
        cases held
        exact .inr ⟨same ▸ reached,introduced⟩
      · exact .inl held
  | alive lives =>
      obtain ⟨current,introduced⟩ := standing
      exact ⟨_,rfl,.inr ⟨_,rfl⟩,fun _ _ => .inl,quiet_sole rfl,_,tries_own rfl,current.onward on,on.introduced introduced⟩
  | dead gone =>
      obtain ⟨current,introduced⟩ := standing
      have dead := on.dead (dead_of_isAlive current.reached gone)
      exact ⟨_,rfl,.inr ⟨_,rfl⟩,fun _ _ => .inl,quiet_sole rfl,_,.closed,tries_own rfl,rfl,current.onward on,
        on.introduced introduced,.inr dead⟩
  | written =>
      obtain ⟨earlier,split,current,_⟩ := standing
      exact ⟨_,rfl,.inl rfl,fun _ _ => .inl,quiet_sole rfl,earlier,_,split,current.onward on⟩
  | timedOut =>
      obtain ⟨earlier,split,current,introduced⟩ := standing
      exact ⟨_,rfl,.inl rfl,fun _ _ => .inl,quiet_sole rfl,earlier,.timedOut,split,rfl,current.onward on,
        on.introduced introduced,.inl rfl⟩
  | broken =>
      obtain ⟨earlier,split,current,introduced⟩ := standing
      exact ⟨_,rfl,.inl rfl,fun _ _ => .inl,quiet_sole rfl,earlier,split,current.onward on,on.introduced introduced⟩
  | @marked left connection =>
      obtain ⟨earlier,split,current,introduced⟩ := standing
      obtain ⟨known,held,_⟩ := current.reached
      refine ⟨_,rfl,.inl rfl,fun _ _ => .inl,quiet_sole rfl,earlier,.write,split,rfl,current.onward on,
        on.introduced introduced,.inr ⟨{known with alive:=false},?_,rfl⟩⟩
      simp [markDead_get,held]
  | @removed left connection =>
      obtain ⟨earlier,failure,split,error,current,introduced,_⟩ := standing
      have retired : Retired {pool.stand index call (call.next left) with
          connections:=removeIfSame pool.connections call.target connection} connection :=
        ⟨on.introduced introduced,removeIfSame_absent sound current.reached⟩
      refine ⟨_,rfl,.inl rfl,fun _ _ held => .inl (removeIfSame_held held),quiet_sole (next_introduces call left),?_⟩
      have tried : tries {pool.stand index call (call.next left) with
          connections:=removeIfSame pool.connections call.target connection} index = earlier ++ [connection] := split
      rw [tried]
      have spent := (current.onward on).spent retired
      have count := current.count
      cases left with
      | zero => exact ⟨by simp [error],by simp; omega,spent⟩
      | succ left => exact ⟨spent,by simp; omega⟩

theorem step_sound (sound : Sound pool) (stepped : advance pool action = some next) : Sound next := by
  have on := step_onward stepped
  cases action with
  | turn index turn =>
      obtain ⟨call,found,taken⟩ := Option.bind_eq_some_iff.mp stepped
      obtain ⟨fresh,turned⟩ := took_turned sound found (take_took taken)
      exact sound.turned on found turned
  | readerEnds connection =>
      cases stepped
      exact ⟨fun target connection held => (sound.pooled target connection held).imp on.reaches on.introduced,sound.alone,
        fun index call found => (sound.standing index call found).onward on,sound.begun⟩
  | sendRequest target =>
      cases stepped
      have known (index : Nat) (call : Call) (found : (pool.calls ++ [sendRequest target])[index]? = some call) :
          pool.calls[index]? = some call ∨ index = pool.calls.length ∧ call = sendRequest target := by
        rcases Nat.lt_trichotomy index pool.calls.length with within | same | beyond
        · exact .inl ((List.getElem?_append_left within).symm.trans found)
        · subst same
          exact .inr ⟨rfl,by simpa using found.symm⟩
        · exact absurd (List.getElem?_eq_some_iff.mp found).1 (by simp; omega)
      refine ⟨fun target connection held => (sound.pooled target connection held).imp on.reaches on.introduced,?alone,?standing,?begun⟩
      case alone =>
          intro first second connection call rival one two introduces also
          rcases known first call one with old | ⟨_,rfl⟩
          · rcases known second rival two with held | ⟨_,rfl⟩
            · exact sound.alone first second connection call rival old held introduces also
            · cases also
          · cases introduces
      case standing =>
          intro index call found
          rcases known index call found with old | ⟨rfl,rfl⟩
          · exact (sound.standing index call old).onward on
          · have untried : pool.tries pool.calls.length = [] := by
              simp only [tries,List.map_eq_nil_iff,List.filter_eq_nil_iff,beq_iff_eq]
              exact fun pair member same => Nat.lt_irrefl _ (same ▸ sound.begun pair member)
            have none_yet : tries {pool with calls:=pool.calls ++ [sendRequest target]} pool.calls.length = [] := untried
            rw [none_yet]
            exact ⟨⟨List.nodup_nil,by simp,by simp⟩,rfl⟩
      case begun =>
          intro pair member
          have begun := sound.begun pair member
          simp
          omega

theorem run_sound (ran : Machine.run advance new actions = some pool) : Sound pool :=
  Machine.run_preserves Sound (fun _ _ _ => step_sound) new_sound ran

theorem run_onward (ran : Machine.run advance pool actions = some next) : Onward pool next := by
  induction actions generalizing pool with
  | nil => cases ran; exact ⟨id,id,id,id⟩
  | cons action rest ih =>
      obtain ⟨middle,stepped,later⟩ := Machine.run_cons.mp ran
      have one := step_onward stepped
      have others := ih later
      exact ⟨others.reaches ∘ one.reaches,others.dead ∘ one.dead,others.introduced ∘ one.introduced,others.retired ∘ one.retired⟩

-- No request goes out twice on one connection, and none on a connection to another
-- address than the call's own.
theorem call_tries (ran : Machine.run advance new actions = some pool) (found : pool.calls[index]? = some call) :
    (pool.tries index).Nodup ∧ (pool.tries index).length ≤ 2 ∧ (∀ connection ∈ pool.tries index, Reaches pool call.target connection) ∧
    (∀ connection, call.stage = .returned (.ok connection) → (pool.tries index).getLast? = some connection) ∧
    ∀ failure, call.stage = .returned (.error failure) → failure ≠ .unsent ∧
      ∀ connection ∈ pool.tries index, ∀ target, pool.connections.lookup target ≠ some connection := by
  have standing := (run_sound ran).standing index call found
  have ended {made : List Nat} {target : SocketAddr} {left connection : Nat} (current : Current pool target made left connection) :
      (made ++ [connection]).Nodup ∧ (made ++ [connection]).length ≤ 2 ∧ ∀ other ∈ made ++ [connection], Reaches pool target other := by
    refine ⟨?_,by have count := current.count; simp; omega,fun other member => ?_⟩
    · simpa [List.nodup_append] using ⟨current.distinct,fun other member same => current.other (same ▸ member)⟩
    · rcases List.mem_append.mp member with earlier | last
      · exact current.reaches other earlier
      · exact List.mem_singleton.mp last ▸ current.reached
  have early {made : List Nat} {target : SocketAddr} {left : Nat} (behind : Behind pool target made left) :
      made.Nodup ∧ made.length ≤ 2 ∧ ∀ other ∈ made, Reaches pool target other :=
    ⟨behind.distinct,by have count := behind.count; omega,behind.reaches⟩
  have summed : (pool.tries index).Nodup ∧ (pool.tries index).length ≤ 2 ∧ ∀ connection ∈ pool.tries index, Reaches pool call.target connection := by
    unfold Standing at standing
    split at standing
    case h_1 | h_2 => exact early standing
    case h_3 => exact early standing.toBehind
    case h_4 => exact early standing.1.toBehind
    case h_5 | h_6 =>
        obtain ⟨earlier,split,current,_⟩ := standing
        exact split ▸ ended current
    case h_7 =>
        obtain ⟨earlier,failure,split,_,current,_⟩ := standing
        exact split ▸ ended current
    case h_8 =>
        obtain ⟨earlier,left,split,current⟩ := standing
        exact split ▸ ended current
    case h_9 =>
        obtain ⟨_,count,spent⟩ := standing
        exact ⟨spent.distinct,count,spent.reaches⟩
  refine ⟨summed.1,summed.2.1,summed.2.2,fun connection returned => ?_,fun failure returned => ?_⟩
  · simp only [Standing,returned] at standing
    obtain ⟨earlier,left,split,_⟩ := standing
    simp [split]
  · simp only [Standing,returned] at standing
    exact ⟨standing.1,fun connection member => (standing.2.2.retired connection member).absent⟩

theorem Sound.left (sound : Sound pool) (on : Onward pool next) (held : pool.connections.lookup target = some connection)
    (gone : next.connections.lookup target ≠ some connection) (alone : ∀ other, next.connections.lookup other = some connection →
      pool.connections.lookup other = some connection) : Retired next connection := by
  obtain ⟨reaches,introduced⟩ := sound.pooled target connection held
  refine ⟨on.introduced introduced,fun other found => ?_⟩
  cases reaches_unique reaches (sound.pooled other connection (alone other found)).1
  exact gone found

-- What puts a pooled connection out: another one, fresh from its own connect, in its
-- place, or a call that has failed on this very connection.
inductive Displaced (pool : TcpUpstreamPool) (target : SocketAddr) (connection : Nat) (next : TcpUpstreamPool) : Action → Prop where
  | replaced : pool.calls[index]? = some call → call.target = target → call.stage = .inserting left fresh →
      (∀ other, pool.connections.lookup other ≠ some fresh) → next.connections.lookup target = some fresh →
      Displaced pool target connection next (.turn index .insert)
  | removed : pool.calls[index]? = some call → call.target = target → call.stage = .removing left connection →
      (Dead pool connection ∨ call.lastError = some (.send .timedOut)) → next.connections.lookup target = none →
      Displaced pool target connection next (.turn index .remove)

theorem take_displaced (sound : Sound pool) (found : pool.calls[index]? = some call) (taken : take pool index call turn call.stage = some next)
    (held : pool.connections.lookup target = some connection) (gone : next.connections.lookup target ≠ some connection) :
    Displaced pool target connection next (.turn index turn) ∧ ∀ other, next.connections.lookup other = some connection →
      pool.connections.lookup other = some connection := by
  have standing := sound.standing index call found
  unfold Standing at standing
  generalize stage : call.stage = at_ at taken standing
  unfold take at taken
  split at taken
  case h_4 left fresh =>
      cases taken
      have unseen (other : SocketAddr) : pool.connections.lookup other ≠ some fresh := fun pooled =>
        (sound.pooled other fresh pooled).2.settled call (List.mem_of_getElem? found) (by rw [stage]; rfl)
      rw [Table.lookup_insert_eq] at gone
      split at gone
      · rename_i same
        refine ⟨.replaced found same.symm stage unseen (by rw [same]; simp),fun other pooled => ?_⟩
        rw [Table.lookup_insert_eq] at pooled
        split at pooled
        · cases pooled
          exact absurd held (unseen target)
        · exact pooled
      · exact absurd held gone
  case h_10 left failed =>
      cases taken
      obtain ⟨earlier,failure,_,error,_,_,perished⟩ := standing
      have kept (other : SocketAddr) (known : Nat) (pooled : (removeIfSame pool.connections call.target failed).lookup other = some known) :
          pool.connections.lookup other = some known := removeIfSame_held pooled
      simp only [removeIfSame] at gone
      split at gone
      · rename_i same
        rw [Table.lookup_erase_eq] at gone
        split at gone
        · rename_i at_target
          subst at_target
          cases same.symm.trans held
          refine ⟨.removed found rfl stage ?_ (by simp [removeIfSame,same]),fun other => kept other connection⟩
          refine perished.symm.imp_right fun timedOut => ?_
          rw [error,timedOut]
        · exact absurd held gone
      · exact absurd held gone
  case h_1 =>
      split at taken <;> cases taken <;> exact absurd held gone
  case h_5 =>
      dsimp only at taken
      split at taken <;> cases taken <;> exact absurd held gone
  case h_11 => cases taken
  all_goals cases taken; exact absurd held gone

theorem step_displaced (sound : Sound pool) (stepped : advance pool action = some next)
    (held : pool.connections.lookup target = some connection) (gone : next.connections.lookup target ≠ some connection) :
    Displaced pool target connection next action ∧ Retired next connection := by
  have on := step_onward stepped
  cases action with
  | sendRequest other => cases stepped; exact absurd held gone
  | readerEnds other => cases stepped; exact absurd held gone
  | turn index turn =>
      obtain ⟨call,found,taken⟩ := Option.bind_eq_some_iff.mp stepped
      obtain ⟨displaced,alone⟩ := take_displaced sound found taken held gone
      exact ⟨displaced,sound.left on held gone alone⟩

-- A connection that has been in the pool goes out of it for a reason, and for good.
theorem pooled_until_displaced (ran : Machine.run advance new actions = some pool) (held : pool.connections.lookup target = some connection)
    (later : Machine.run advance pool more = some final) (gone : final.connections.lookup target ≠ some connection) :
    (∀ other, final.connections.lookup other ≠ some connection) ∧
    ∃ before action after kept next, more = before ++ action :: after ∧ Machine.run advance pool before = some kept ∧
      advance kept action = some next ∧ Displaced kept target connection next action := by
  induction more generalizing pool actions with
  | nil => cases later; exact absurd held gone
  | cons action rest ih =>
      obtain ⟨next,stepped,later⟩ := Machine.run_cons.mp later
      by_cases stays : next.connections.lookup target = some connection
      · obtain ⟨absent,before,last,after,kept,final,rfl,reached,turned,displaced⟩ := ih (Machine.run_snoc ran stepped) stays later
        exact ⟨absent,action :: before,last,after,kept,final,rfl,Machine.run_cons.mpr ⟨next,stepped,reached⟩,turned,displaced⟩
      · obtain ⟨displaced,retired⟩ := step_displaced (run_sound ran) stepped held stays
        exact ⟨((run_onward later).retired retired).absent,[],action,rest,pool,next,rfl,rfl,stepped,displaced⟩

-- The turns that are before a call at most.
def Stage.ahead : Stage → Nat
  | .lookingUp left => 7 * left + 7
  | .connecting left => 7 * left + 6
  | .inserting left _ => 7 * left + 5
  | .checking left _ => 7 * left + 4
  | .writing left _ => 7 * left + 3
  | .failing left _ => 7 * left + 2
  | .removing left _ => 7 * left + 1
  | .returned _ => 0

theorem took_ahead (took : Took pool index call stage next) :
    ∃ fresh, next.calls = pool.calls.set index fresh ∧ fresh.stage.ahead < stage.ahead := by
  cases took
  case removed left connection =>
      refine ⟨_,rfl,?_⟩
      cases left with
      | zero => simp [Call.next,Stage.ahead]
      | succ left => simp [Call.next,Stage.ahead]; omega
  all_goals exact ⟨_,rfl,by simp [Stage.ahead]⟩

def Action.turns (index : Nat) : Action → Bool
  | .turn other _ => other == index
  | _ => false

structure Bounded (pool : TcpUpstreamPool) (actions : List Action) : Prop where
  begun : ∀ (index : Nat) (call : Call), pool.calls[index]? = some call → actions.countP (Action.turns index) + call.stage.ahead ≤ 14
  unborn : ∀ index, pool.calls.length ≤ index → actions.countP (Action.turns index) = 0

theorem run_bounded (ran : Machine.run advance new actions = some pool) : Bounded pool actions := by
  induction actions using List.reverseRecOn generalizing pool with
  | nil => cases ran; exact ⟨by simp [new],by simp⟩
  | append_singleton actions last ih =>
      obtain ⟨before,reached,stepped⟩ := Machine.run_append.mp ran
      obtain ⟨_,stepped,done⟩ := Machine.run_cons.mp stepped
      cases done
      have bounded := ih reached
      cases last with
      | readerEnds connection =>
          cases stepped
          exact ⟨by simpa [Action.turns] using bounded.begun,by simpa [Action.turns] using bounded.unborn⟩
      | sendRequest target =>
          cases stepped
          refine ⟨fun index call found => ?_,fun index beyond => by simpa [Action.turns] using bounded.unborn index (by simp at beyond; omega)⟩
          simp only [List.countP_append,Action.turns,List.countP_singleton,Bool.false_eq_true,if_false,Nat.add_zero]
          rcases Nat.lt_or_ge index before.calls.length with within | beyond
          · exact bounded.begun index call ((List.getElem?_append_left within).symm.trans found)
          · have fresh := bounded.unborn index beyond
            have at_end := (List.getElem?_eq_some_iff.mp found).1
            obtain rfl : index = before.calls.length := by simp at at_end; omega
            have same : call = sendRequest target := by simpa using found.symm
            simp [same,fresh,sendRequest,Stage.ahead]
      | turn index turn =>
          obtain ⟨call,found,taken⟩ := Option.bind_eq_some_iff.mp stepped
          obtain ⟨fresh,calls,fewer⟩ := took_ahead (take_took taken)
          have within := (List.getElem?_eq_some_iff.mp found).1
          have counted (other : Nat) : (actions ++ [Action.turn index turn]).countP (Action.turns other) =
              actions.countP (Action.turns other) + if index = other then 1 else 0 := by
            simp [Action.turns,List.countP_singleton]
          refine ⟨fun other standing held => ?_,fun other beyond => ?_⟩ <;> rw [counted]
          · have before_it := bounded.begun index call found
            by_cases same : index = other
            · subst same
              simp only [calls,List.getElem?_set_self within,Option.some.injEq] at held
              subst held
              simp
              omega
            · simp only [calls,List.getElem?_set_ne same] at held
              simpa [same] using bounded.begun other standing held
          · rw [calls,List.length_set] at beyond
            have different : index ≠ other := by omega
            simpa [different] using bounded.unborn other beyond

-- A call can always take a turn until it has returned.
theorem unreturned_turns (found : pool.calls[index]? = some call) (unreturned : call.stage.ahead ≠ 0) :
    ∃ turn, (advance pool (.turn index turn)).isSome := by
  simp only [advance,found,Option.bind_eq_bind,Option.bind_some]
  unfold Stage.ahead at unreturned
  split at unreturned <;> rename_i stage <;> rw [stage]
  · exact ⟨.lookUp,by simp only [take]; split <;> rfl⟩
  · exact ⟨.connected,rfl⟩
  · exact ⟨.insert,rfl⟩
  · exact ⟨.check,by simp only [take]; split <;> rfl⟩
  · exact ⟨.written,rfl⟩
  · exact ⟨.markDead,rfl⟩
  · exact ⟨.remove,rfl⟩
  · exact absurd rfl unreturned

-- Two first calls each open a connection, and the second one's takes the place of the
-- first one's; the first call's write fails, and it goes out on the other connection.
def raced (target : SocketAddr) : List Action :=
  [.sendRequest target,.sendRequest target,.turn 0 .lookUp,.turn 1 .lookUp,.turn 0 .connected,.turn 1 .connected,.turn 0 .insert]

def overtaken : List Action :=
  [.turn 1 .insert,.turn 0 .check,.turn 0 .writeFails,.turn 0 .markDead,.turn 0 .remove,.turn 0 .lookUp,.turn 0 .check,.turn 0 .written]

theorem overtaken_call_tries : ∃ pool call, Machine.run advance new (raced upstreamAddr ++ overtaken) = some pool ∧
    pool.calls[0]? = some call ∧ pool.tries 0 = [0,1] ∧ (pool.tries 0).Nodup ∧ (pool.tries 0).getLast? = some 1 := by
  refine ⟨_,_,rfl,rfl,rfl,?_⟩
  have ran : Machine.run advance new (raced upstreamAddr ++ overtaken) = some _ := rfl
  obtain ⟨distinct,_,_,last,_⟩ := @call_tries _ _ 0 _ ran rfl
  exact ⟨distinct,last 1 rfl⟩

theorem raced_displaced : ∃ pool final, Machine.run advance new (raced upstreamAddr) = some pool ∧
    pool.connections.lookup upstreamAddr = some 0 ∧ Machine.run advance pool overtaken = some final ∧
    ∀ other, final.connections.lookup other ≠ some 0 := by
  refine ⟨_,_,rfl,rfl,rfl,?_⟩
  have ran : Machine.run advance new (raced upstreamAddr) = some _ := rfl
  exact (@pooled_until_displaced _ _ upstreamAddr 0 overtaken _ ran rfl rfl (by decide)).1

end TcpUpstreamPool
end Sigproxy.Proxy
