import Sigproxy.Library.Sequential
import Sigproxy.Proxy.CancelRouting
import Sigproxy.Proxy.RegisterResponse
import Sigproxy.Proxy.Retransmission

namespace Sigproxy.Proxy.SendRollback
open Library Net Cluster Affinity
open Program

variable {Packet Message : Type} {codec : Codec Packet Message} {settings : Settings}

section Path
variable {past : List (Act Packet)} {ops : List (Op Packet)} {lent : List InviteTransactionRoute} {message : Message} {peer : SocketAddr} {method : Method}

def writesTable : Op Packet → Bool
  | .insertUdpBranch .. | .removeUdpBranch _ => true
  | .rememberPendingRegister .. | .takePendingRegister _ => true
  | .rememberUdpClientTransaction .. | .rememberUdpClientTransactionFinalResponse .. | .removeUdpClientTransaction _ => true
  | .rememberInviteTransaction .. => true
  | _ => false

def writes (past : List (Act Packet)) : List (Op Packet) := (past.map Event.op).filter writesTable

-- The INVITE routes that a call has been handed.
def handed (past : List (Act Packet)) : List InviteTransactionRoute := past.filterMap fun
  | ⟨.lookupInviteTransaction _,found⟩ => found
  | _ => none

def Quiet (op : Op Packet) : Prop := writesTable op = false ∧ op.isUpstreamSend = false ∧ op.asksInvite = false

-- The tables have been written as listed, the routes listed have been handed out,
-- and nothing has gone to an upstream.
structure Calm (ops : List (Op Packet)) (lent : List InviteTransactionRoute) (past : List (Act Packet)) : Prop where
  written : writes past = ops
  handed : handed past = lent
  unsent : Unsent past

theorem writes_snoc (past : List (Act Packet)) (act : Act Packet) :
    writes (past ++ [act]) = writes past ++ if writesTable act.op then [act.op] else [] := by
  simp only [writes,List.map_append,List.filter_append,List.map_cons,List.map_nil,List.filter_cons,List.filter_nil]

theorem handed_snoc (past : List (Act Packet)) {act : Act Packet} (unasked : act.op.asksInvite = false) :
    handed (past ++ [act]) = handed past := by
  obtain ⟨op,reply⟩ := act
  rw [handed,List.filterMap_append]
  cases op with
  | lookupInviteTransaction key => cases unasked
  | _ => exact List.append_nil _

theorem Calm.quiet {act : Act Packet} (calm : Calm ops lent past) (quiet : Quiet act.op) : Calm ops lent (past ++ [act]) where
  written := by
    rw [writes_snoc,quiet.1,calm.written]
    exact List.append_nil ops
  handed := (handed_snoc past quiet.2.2).trans calm.handed
  unsent := unsent_snoc calm.unsent quiet.2.1

theorem Calm.write {act : Act Packet} (calm : Calm ops lent past) (written : writesTable act.op = true) :
    Calm (ops ++ [act.op]) lent (past ++ [act]) where
  written := by
    rw [writes_snoc,written,calm.written]
    rfl
  handed := (handed_snoc past (by cases op : act.op <;> rw [op] at written <;> first | rfl | cases written)).trans calm.handed
  unsent := unsent_snoc calm.unsent (by cases op : act.op <;> rw [op] at written <;> first | rfl | cases written)

theorem Calm.asked (calm : Calm ops [] past) (key : String) (found : Option InviteTransactionRoute) :
    Calm ops found.toList (past ++ [⟨.lookupInviteTransaction key,found⟩]) := by
  refine ⟨?_,?_,unsent_snoc calm.unsent rfl⟩
  · rw [writes_snoc,calm.written]
    exact List.append_nil ops
  · refine List.filterMap_append.trans ((congrArg (· ++ _) calm.handed).trans ?_)
    cases found <;> rfl

theorem looks_quiet {Result : Type} {task : Task Packet Result} (looks : task.Uses Looks) : task.Uses Quiet :=
  looks.mono fun op allowed => by cases op <;> first | exact allowed.elim | exact ⟨rfl,rfl,rfl⟩

theorem trying_quiet (message : Message) (peer : SocketAddr) (method : Method) : (trying codec settings message peer method).Uses Quiet := by
  unfold trying
  split
  · refine uses_bind (uses_lift _) fun response => uses_call ⟨rfl,rfl,rfl⟩ fun sent => ?_
    split <;> trivial
  · trivial

theorem quiet_then {First Second : Type} {task : Task Packet First} {next : First → Task Packet Second}
    {ends : List (Act Packet) → Except String Second → Prop} (quiet : task.Uses Quiet) (calm : Calm ops lent past)
    (rest : ∀ after result, Calm ops lent after → (next result).Along (fun _ _ => True) ends after)
    (failed : ∀ after error, Calm ops lent after → ends after (.error error)) : (task >>= next).Along (fun _ _ => True) ends past :=
  along_bind _ (along_uses quiet (fun _ _ _ _ => trivial) (fun _ _ calm quiet => Calm.quiet calm quiet) calm) rest failed

-- A REGISTER may leave a pending entry under its branch, and a call that is handed a
-- route takes the branch of it.
def Registering (past : List (Act Packet)) (branch : String) : Prop := ∃ lent, (∀ route ∈ lent, route.branch = branch) ∧
  ∃ pending : Option PendingRegister, Calm (pending.toList.map (.rememberPendingRegister branch)) lent past

theorem rememberPendingRegister_registering (calm : Calm [] lent past) (branched : ∀ route ∈ lent, route.branch = branch)
    (pending : Option PendingRegister) :
    (rememberPendingRegister branch pending : Task Packet Unit).Along (fun _ _ => True)
      (fun after _ => Registering after branch) past := by
  cases pending with
  | none => exact ⟨lent,branched,none,calm⟩
  | some pending => exact fun reply => ⟨trivial,lent,branched,some pending,@Calm.write _ _ _ _ ⟨.rememberPendingRegister branch pending,reply⟩ calm rfl⟩

theorem trackRegister_registering (calm : Calm [] lent past) (branched : ∀ route ∈ lent, route.branch = branch) (message : Message)
    (viaHost : String) (peer : SocketAddr)
    (target : UpstreamTarget) (method : Method) : (trackRegister codec settings message viaHost peer target branch method).Along
      (fun _ _ => True) (fun after _ => Registering after branch) past := by
  have still : Registering past branch := ⟨lent,branched,none,calm⟩
  unfold trackRegister
  split
  · split
    · refine along_lift (fun rewritten _ => ?_) fun _ _ => still
      exact along_bind _ (rememberPendingRegister_registering calm branched _) (fun _ _ held => held) fun _ _ held => held
    · refine along_lift (fun pending _ => along_lift (fun edited _ => ?_) fun _ _ => still) fun _ _ => still
      exact along_bind _ (rememberPendingRegister_registering calm branched _) (fun _ _ held => held) fun _ _ held => held
  · exact still

def Unprepared (past : List (Act Packet)) : Prop := ∃ ops lent, Calm ops lent past

theorem Registering.unprepared (registering : Registering past branch) : Unprepared past := by
  obtain ⟨lent,_,pending,calm⟩ := registering
  exact ⟨_,lent,calm⟩

theorem prepareForward_registering (calm : Calm [] [] past) (message : Message) (peer : SocketAddr) (listener : ProxyListenerConfig)
    (method : Method) : (prepareForward codec settings message peer listener method).Along (fun _ _ => True)
      (fun after outcome => Unprepared after ∧ ∀ prepared, outcome = .ok prepared → Registering after prepared.branch) past := by
  have stopped {lent : List InviteTransactionRoute} (after : List (Act Packet)) (error : String) (calm : Calm [] lent after) :
      Unprepared after ∧ ∀ prepared, (.error error : Except String (Prepared Message)) = .ok prepared → Registering after prepared.branch :=
    ⟨⟨[],lent,calm⟩,fun _ same => nomatch same⟩
  have viewed {Result : Type} {task : Task Packet Result} (views : task.Uses Views) : task.Uses Quiet := looks_quiet (views_looks views)
  unfold prepareForward
  split
  · exact stopped past _ calm
  dsimp only
  refine quiet_then ?_ calm (fun past routed calm => ?_) stopped
  · split
    · exact viewed (topRouteTargetsThisProxy_views message listener peer)
    · trivial
  refine along_lift (fun key _ => ?_) fun error _ => stopped past error calm
  refine along_bind (fun after outcome => (∃ lent, Calm [] lent after) ∧ ∀ found : Option InviteTransactionRoute, outcome = .ok found →
    Calm [] found.toList after) ?_ (fun past found calm => ?_) fun past error calm => ?_
  · have unfound : (∃ lent, Calm [] lent past) ∧ ∀ found : Option InviteTransactionRoute,
        (.ok none : Except String (Option InviteTransactionRoute)) = .ok found → Calm [] found.toList past := by
      refine ⟨⟨[],calm⟩,fun found same => ?_⟩
      cases same
      exact calm
    split
    · cases key with
      | none => exact unfound
      | some key =>
          intro found
          refine ⟨trivial,⟨_,calm.asked key found⟩,fun given same => ?_⟩
          cases same
          exact calm.asked key found
    · exact unfound
  · replace calm := calm.2 found rfl
    refine quiet_then (looks_quiet (forwardTarget_looks ..)) calm (fun past chosen calm => ?_) stopped
    refine quiet_then ?_ calm (fun past target calm => ?_) stopped
    · split
      · exact viewed (selectUpstream_views _ listener)
      · trivial
    refine quiet_then (viewed (popOwnRouteHeaders_views ..)) calm (fun past stripped calm => ?_) stopped
    refine along_bind (fun after outcome => Calm [] found.toList after ∧ ∀ branch, outcome = .ok branch →
      ∀ route ∈ found.toList, route.branch = branch) ?_ (fun past branch branched => ?_) fun past error branched => stopped past error branched.1
    · cases found with
      | none => exact fun _ => ⟨trivial,calm.quiet ⟨rfl,rfl,rfl⟩,fun _ _ _ member => nomatch member⟩
      | some route =>
          refine ⟨calm,fun branch same other member => ?_⟩
          cases same
          rw [List.mem_singleton.mp member]
    obtain ⟨calm,branched⟩ := branched
    refine quiet_then (uses_perform ⟨rfl,rfl,rfl⟩) calm (fun past viaHost calm => ?_) stopped
    refine along_lift (fun signed _ => ?_) fun error _ => stopped past error calm
    refine quiet_then (viewed (recordRoutes_views ..)) calm (fun past recorded calm => ?_) stopped
    refine along_bind _ (trackRegister_registering calm (branched branch rfl) ..) (fun past tracked registering => ?_)
      fun _ _ registering => ⟨registering.unprepared,fun _ same => nomatch same⟩
    refine ⟨registering.unprepared,fun prepared same => ?_⟩
    cases same
    exact registering
  · obtain ⟨lent,calm⟩ := calm.1
    exact stopped past error calm

def sendError : String := "failed to send SIP request to upstream UDP socket"

def FailsToSend (past : List (Act Packet)) : Prop := ∃ packet upstream, ⟨.sendToUpstream packet upstream,false⟩ ∈ past

-- What a failing forward_udp has written, in order.
inductive RolledBack (branch : String) (key : Option String) : List (Op Packet) → Prop where
  | along {pending : Option PendingRegister} {route : UdpBranchRoute} {target : UpstreamTarget} : RolledBack branch key
      (pending.toList.map (.rememberPendingRegister branch) ++ [.insertUdpBranch branch route] ++
        key.toList.map (.rememberUdpClientTransaction · target) ++ [.removeUdpBranch branch] ++
        key.toList.map .removeUdpClientTransaction)

def Undone (codec : Codec Packet Message) (message : Message) (peer : SocketAddr) (method : Method) (past : List (Act Packet))
    (outcome : Except String Unit) : Prop :=
  FailsToSend past → outcome = .error sendError ∧ ∃ branch key, udpClientTransactionKey codec message peer method = .ok key ∧
    RolledBack branch key (writes past) ∧ ∀ route ∈ handed past, route.branch = branch

theorem unsent_undone (unsent : Unsent past) (outcome : Except String Unit) : Undone codec message peer method past outcome := by
  intro given
  rcases given with ⟨packet,upstream,member⟩
  cases unsent _ member

theorem plain_undone {task : Task Packet Unit} (plain : task.Uses Plain) (unsent : Unsent past) :
    task.Along (fun _ _ => True) (Undone codec message peer method) past :=
  along_mono (along_uses plain (fun _ _ _ _ => trivial) (fun _ _ unsent plain => unsent_snoc unsent (plain_quiet plain).1) unsent)
    (fun _ _ held => held) fun _ outcome unsent => unsent_undone unsent outcome

theorem forwardUdpToUdpUpstream_undone {key : Option String} {prepared : Prepared Message} (registering : Registering past prepared.branch)
    (keyed : udpClientTransactionKey codec message peer method = .ok key) :
    (forwardUdpToUdpUpstream codec settings prepared peer key method).Along (fun _ _ => True)
      (Undone codec message peer method) past := by
  obtain ⟨lent,branched,pending,calm⟩ := registering
  refine along_call fun inserted => ⟨trivial,?_⟩
  replace calm := @Calm.write _ past _ _ ⟨.insertUdpBranch prepared.branch (udpBranchRoute prepared peer key method),inserted⟩ calm rfl
  refine along_bind (fun after _ => Calm (pending.toList.map (.rememberPendingRegister prepared.branch) ++
    [.insertUdpBranch prepared.branch (udpBranchRoute prepared peer key method)] ++
    key.toList.map (.rememberUdpClientTransaction · prepared.target)) lent after) ?_ (fun past _ calm => ?_)
    fun past error calm => unsent_undone calm.unsent _
  · cases key with
    | none =>
        show Calm _ _ _
        rw [Option.toList_none,List.map_nil,List.append_nil]
        exact calm
    | some key => exact fun reply => ⟨trivial,@Calm.write _ _ _ _ ⟨.rememberUdpClientTransaction key prepared.target,reply⟩ calm rfl⟩
  refine along_call fun sent => ⟨trivial,?_⟩
  cases sent with
  | true =>
      have unfailed : ¬FailsToSend (past ++ [⟨.sendToUpstream (codec.toBytes prepared.message) prepared.target.addr,true⟩]) := by
        intro given
        rcases given with ⟨packet,upstream,member⟩
        rcases List.mem_append.mp member with earlier | last
        · cases calm.unsent _ earlier
        · cases List.mem_singleton.mp last
      have kept (past : List (Act Packet)) (unfailed : ¬FailsToSend past) := along_uses (@rememberSuccessfulForward_remembers _ _ codec settings
        prepared.message prepared.target prepared.branch prepared.inviteTransactionKey method) (fun _ _ _ _ => trivial)
        (fun past act (unfailed : ¬FailsToSend past) remembers => ?_) unfailed
      · exact along_mono (kept _ unfailed) (fun _ _ held => held) fun after outcome unfailed fails => (unfailed fails).elim
      intro given
      rcases given with ⟨packet,upstream,member⟩
      rcases List.mem_append.mp member with earlier | last
      · exact unfailed ⟨packet,upstream,earlier⟩
      · rw [← List.mem_singleton.mp last] at remembers
        exact remembers.elim
  | false =>
      refine along_call fun removed => ⟨trivial,?_⟩
      have removing : writes (past ++ [⟨.sendToUpstream (codec.toBytes prepared.message) prepared.target.addr,false⟩] ++
          [⟨.removeUdpBranch prepared.branch,removed⟩]) = writes past ++ [.removeUdpBranch prepared.branch] := by
        rw [writes_snoc,writes_snoc]
        exact congrArg (· ++ _) (List.append_nil _)
      have unasked : handed (past ++ [⟨.sendToUpstream (codec.toBytes prepared.message) prepared.target.addr,false⟩] ++
          [⟨.removeUdpBranch prepared.branch,removed⟩]) = lent := by
        rw [handed_snoc _ rfl,handed_snoc _ rfl,calm.handed]
      cases key with
      | none =>
          refine fun _ => ⟨rfl,prepared.branch,none,keyed,?_,by rw [unasked]; exact branched⟩
          rw [removing,calm.written,← List.append_nil (_ ++ [Op.removeUdpBranch _])]
          exact .along
      | some key =>
          refine fun dropped => ⟨trivial,fun _ => ⟨rfl,prepared.branch,some key,keyed,?_,by rw [handed_snoc _ rfl,unasked]; exact branched⟩⟩
          rw [writes_snoc,removing,calm.written]
          exact .along

theorem forwardUdp_unknown {key : Option String} {listener : ProxyListenerConfig} (calm : Calm [] [] past)
    (keyed : udpClientTransactionKey codec message peer method = .ok key) :
    (forwardUnknown codec settings message peer listener method key).Along (fun _ _ => True) (Undone codec message peer method) past := by
  refine along_bind _ (prepareForward_registering calm message peer listener method) (fun past prepared registering => ?_)
    fun past error ⟨⟨ops,lent,calm⟩,_⟩ => unsent_undone calm.unsent _
  obtain ⟨lent,branched,pending,calm⟩ := registering.2 prepared rfl
  refine quiet_then (trying_quiet message peer method) calm (fun past _ calm => ?_) fun past error calm => unsent_undone calm.unsent _
  rw [forwardPrepared]
  split
  · exact forwardUdpToUdpUpstream_undone ⟨lent,branched,pending,calm⟩ keyed
  · exact plain_undone (forwardUdpToTcpUpstream_plain ..) calm.unsent
  · exact unsent_undone calm.unsent _

-- Before a call that fails so, its transaction was looked for first and in vain.
theorem forwardUdp_undone (listener : ProxyListenerConfig) : (forwardUdp codec settings message peer listener method).Along (fun _ _ => True)
    (fun after outcome => Undone codec message peer method after outcome ∧ (FailsToSend after → ∀ named,
      udpClientTransactionKey codec message peer method = .ok (some named) →
        ∃ rest, after = ⟨.lookupUdpClientTransaction named,none⟩ :: rest)) [] := by
  have calm : Calm [] [] ([] : List (Act Packet)) := ⟨rfl,rfl,fun _ member => by cases member⟩
  have spared {past : List (Act Packet)} {outcome : Except String Unit} (unsent : Unsent past) : Undone codec message peer method past outcome ∧
      (FailsToSend past → ∀ named, udpClientTransactionKey codec message peer method = .ok (some named) →
        ∃ rest, past = ⟨.lookupUdpClientTransaction named,none⟩ :: rest) := by
    refine ⟨unsent_undone unsent _,fun fails => ?_⟩
    obtain ⟨packet,upstream,member⟩ := fails
    cases unsent _ member
  refine along_lift (fun key keyed => ?_) fun error _ => spared calm.unsent
  cases key with
  | none =>
      refine along_mono (forwardUdp_unknown calm keyed) (fun _ _ held => held) fun past outcome undone => ⟨undone,fun _ named same => ?_⟩
      cases keyed.symm.trans same
  | some key =>
      refine along_call fun found => ⟨trivial,?_⟩
      have looked := @Calm.quiet _ _ _ _ ⟨.lookupUdpClientTransaction key,found⟩ calm ⟨rfl,rfl,rfl⟩
      cases found with
      | some route =>
          have silent {task : Task Packet Unit} (still : task.Uses Still) : task.Along (fun _ _ => True) (fun after _ => Unsent after)
              ([] ++ [⟨.lookupUdpClientTransaction key,some route⟩]) :=
            along_uses (silent_plain (still_silent still)) (fun _ _ _ _ => trivial)
              (fun _ _ unsent plain => unsent_snoc unsent (plain_quiet plain).1) looked.unsent
          dsimp only
          split
          · exact along_mono (silent (sendToClient_still ..)) (fun _ _ held => held) fun _ _ unsent => spared unsent
          · exact along_mono (silent (trying_still ..)) (fun _ _ held => held) fun _ _ unsent => spared unsent
      | none =>
          have longer (past : List (Act Packet)) (event : Act Packet) (begins : ∃ rest, past = ⟨.lookupUdpClientTransaction key,none⟩ :: rest) :
              ∃ rest, past ++ [event] = ⟨.lookupUdpClientTransaction key,none⟩ :: rest := by
            obtain ⟨rest,same⟩ := begins
            exact ⟨rest ++ [event],by rw [same]; rfl⟩
          have begins := along_kept (fun past : List (Act Packet) => ∃ rest, past = ⟨.lookupUdpClientTransaction key,none⟩ :: rest)
            (forwardUnknown codec settings message peer listener method (some key)) longer ⟨[],rfl⟩ fun _ _ held => held
          refine along_mono (along_both (forwardUdp_unknown looked keyed) begins) (fun _ _ _ => trivial) fun past outcome both => ⟨both.1,?_⟩
          intro _ named same
          cases keyed.symm.trans same
          exact both.2

end Path

section Eviction
variable {w start : World Packet}

theorem enforce_spares (settings : Settings) (shard fuel : Nat) (transactions : Table String (Stamped (UdpClientTransactionRoute Packet)))
    (key : String) :
    let enforced := enforceUdpClientTransactionShardLimit settings shard fuel transactions
    enforced.lookup key = transactions.lookup key ∨ (enforced.lookup key = none ∧ settings.shardIndex key = shard ∧
      settings.udpClientTransactionShardLimit < (transactions.entries.filter fun entry => settings.shardIndex entry.1 == shard).length) := by
  induction fuel generalizing transactions with
  | zero => exact .inl rfl
  | succ fuel ih =>
      simp only [enforceUdpClientTransactionShardLimit]
      split
      · exact .inl rfl
      · rename_i crowded
        have beyond := Nat.lt_of_not_le crowded
        split
        · exact .inl rfl
        · rename_i oldest least
          have member := List.mem_filter.mp (List.minOn?_mem least)
          have gone := ih (transactions.erase oldest.1)
          by_cases same : key = oldest.1
          · subst same
            refine .inr ⟨?_,by simpa using member.2,beyond⟩
            rcases gone with kept | evicted
            · rw [kept,AList.lookup_erase]
            · exact evicted.1
          · rcases gone with kept | evicted
            · rw [AList.lookup_erase_ne same] at kept
              exact .inl kept
            · exact .inr ⟨evicted.1,evicted.2.1,beyond⟩

theorem load_le (settings : Settings) {table other : Table String (Stamped (UdpClientTransactionRoute Packet))}
    (within : ∀ key entry, table.lookup key = some entry → other.lookup key = some entry) (key : String) :
    shardLoad settings key table ≤ shardLoad settings key other := by
  have nodup := (table.nodupKeys.nodup).filter fun entry => settings.shardIndex entry.1 == settings.shardIndex key
  refine (List.subperm_of_subset nodup fun entry member => ?_).length_le
  obtain ⟨inside,sameShard⟩ := List.mem_filter.mp member
  exact List.mem_filter.mpr ⟨Table.lookup_iff_mem.mp (within _ _ (Table.lookup_iff_mem.mpr inside)),sameShard⟩

theorem load_insert (settings : Settings) (table : Table String (Stamped (UdpClientTransactionRoute Packet))) (key : String)
    (entry : Stamped (UdpClientTransactionRoute Packet)) : shardLoad settings key (table.insert key entry) ≤ shardLoad settings key table + 1 := by
  unfold shardLoad
  rw [AList.entries_insert,List.filter_cons]
  have fewer := ((List.kerase_sublist key table.entries).filter fun entry => settings.shardIndex entry.1 == settings.shardIndex key).length_le
  split
  · simpa using fewer
  · omega

-- The shard of the key had no room left when the call began.
def Full (settings : Settings) (start : World Packet) (key : String) : Prop :=
  settings.udpClientTransactionShardLimit ≤ shardLoad settings key (pruneUdpClientTransactions start.now start.udpClientTransactions)

-- The key shows what it showed before the call, but for what has run out or had to
-- make room.
def Spared (settings : Settings) (start w : World Packet) (key : String) : Prop :=
  (w.udpClientTransactions.lookup key).filter (Stamped.fresh udpBranchTtl w.now) =
    (start.udpClientTransactions.lookup key).filter (Stamped.fresh udpBranchTtl w.now) ∨
  (w.udpClientTransactions.lookup key = none ∧ Full settings start key)

def writesCache : Op Packet → Bool
  | .rememberUdpClientTransaction .. | .rememberUdpClientTransactionFinalResponse .. | .removeUdpClientTransaction _ => true
  | _ => false

def cacheWrites (log : List (Record Packet)) : List (Op Packet) := (log.map fun record => record.event.op).filter writesCache

def CacheAfter (settings : Settings) (start w : World Packet) : List (Op Packet) → Prop
  | [] => Expiring.Agrees udpBranchTtl w.now w.udpClientTransactions start.udpClientTransactions
  | [.rememberUdpClientTransaction key _] => ∀ other, other ≠ key → Spared settings start w other
  | [.rememberUdpClientTransaction key _,.removeUdpClientTransaction removed] => removed = key →
    w.udpClientTransactions.lookup key = none ∧ ∀ other, other ≠ key → Spared settings start w other
  | _ => True

structure Followed (settings : Settings) (start w : World Packet) (log : List (Record Packet)) : Prop where
  later : start.now ≤ w.now
  timed : ∀ record ∈ log, start.now ≤ record.time
  cache : CacheAfter settings start w (cacheWrites log)
  missed : ∀ task time key rest, log = ⟨task,time,⟨.lookupUdpClientTransaction key,none⟩⟩ :: rest →
    (start.udpClientTransactions.lookup key).filter (Stamped.fresh udpBranchTtl w.now) = none

theorem Spared.later (spared : Spared settings start w key) (duration : Nat) :
    Spared settings start {w with now:=w.now + duration} key := by
  refine spared.imp (fun same => ?_) id
  have onward := Nat.le_add_right w.now duration
  rw [← Expiring.filter_fresh onward (w.udpClientTransactions.lookup key),same,Expiring.filter_fresh onward]

theorem Spared.pruned (spared : Spared settings start w key) : Spared settings start
    {w with udpClientTransactions:=pruneUdpClientTransactions w.now w.udpClientTransactions} key := by
  rcases spared with same | ⟨gone,full⟩
  · refine .inl ?_
    rw [← same,pruneUdpClientTransactions,Expiring.prune,Table.lookup_retain]
    exact Expiring.filter_fresh (Nat.le_refl _) _
  · refine .inr ⟨?_,full⟩
    rw [pruneUdpClientTransactions,Expiring.prune,Table.lookup_retain,gone]
    rfl

theorem remembered_spares (onward : start.now ≤ w.now)
    (agrees : Expiring.Agrees udpBranchTtl w.now w.udpClientTransactions start.udpClientTransactions) (choice : Choice Packet)
    (target : UpstreamTarget) (another : other ≠ key) :
    Spared settings start (perform settings (.rememberUdpClientTransaction key target) choice w).2 other := by
  have pruned : ∀ name, (pruneUdpClientTransactions w.now w.udpClientTransactions).lookup name =
      (start.udpClientTransactions.lookup name).filter (Stamped.fresh udpBranchTtl w.now) := Expiring.lookup_prune agrees
  rcases enforce_spares settings (settings.shardIndex key) (remembered w key target).entries.length (remembered w key target) other with
    kept | ⟨gone,sameShard,beyond⟩
  · refine .inl ?_
    rw [remembered,Table.lookup_insert_eq,if_neg another,pruned] at kept
    exact (congrArg (Option.filter _) kept).trans (Expiring.filter_fresh (Nat.le_refl _) _)
  · refine .inr ⟨gone,?_⟩
    have within (name : String) (entry : Stamped (UdpClientTransactionRoute Packet))
        (held : (pruneUdpClientTransactions w.now w.udpClientTransactions).lookup name = some entry) :
        (pruneUdpClientTransactions start.now start.udpClientTransactions).lookup name = some entry := by
      rw [pruned] at held
      obtain ⟨found,fresh⟩ := Option.filter_eq_some_iff.mp held
      rw [pruneUdpClientTransactions,Expiring.prune,Table.lookup_retain,found]
      exact if_pos (Stamped.fresh_earlier onward fresh)
    have before := load_le settings within key
    have grown := load_insert settings (pruneUdpClientTransactions w.now w.udpClientTransactions) key ⟨⟨target,none⟩,w.now⟩
    unfold Full shardLoad at *
    rw [sameShard]
    simp only [remembered] at beyond
    omega

theorem start_followed (settings : Settings) (start : World Packet) : Followed settings start start [] where
  later := Nat.le_refl _
  timed _ member := by cases member
  cache := Expiring.agrees_refl _ _ _
  missed _ _ _ _ same := by cases same

theorem change_followed (followed : Followed settings start w log) (change : Change) : Followed settings start (World.change change w) log := by
  cases change with
  | replicate state affinity => exact ⟨followed.later,followed.timed,followed.cache,followed.missed⟩
  | elapse duration =>
      have onward : w.now ≤ w.now + duration := Nat.le_add_right _ _
      refine ⟨Nat.le_trans followed.later onward,followed.timed,?_,fun task time key rest same => ?_⟩
      · have cache := followed.cache
        unfold CacheAfter at cache ⊢
        split at cache
        · exact Expiring.agrees_later cache onward
        · exact fun other another => (cache other another).later duration
        · exact fun same => ⟨(cache same).1,fun other another => ((cache same).2 other another).later duration⟩
        · trivial
      · have stale := congrArg (Option.filter (Stamped.fresh udpBranchTtl (w.now + duration))) (followed.missed task time key rest same)
        rw [Expiring.filter_fresh onward] at stale
        exact stale

theorem cacheWrites_snoc (log : List (Record Packet)) (record : Record Packet) :
    cacheWrites (log ++ [record]) = cacheWrites log ++ if writesCache record.event.op then [record.event.op] else [] := by
  simp only [cacheWrites,List.map_append,List.filter_append,List.map_cons,List.map_nil,List.filter_cons,List.filter_nil]

theorem CacheAfter.shown {after : World Packet} {ops : List (Op Packet)} (cache : CacheAfter settings start w ops) (sameNow : after.now = w.now)
    (same : after.udpClientTransactions = w.udpClientTransactions) : CacheAfter settings start after ops := by
  unfold CacheAfter Spared at cache ⊢
  rw [sameNow,same]
  exact cache

theorem CacheAfter.pruned {ops : List (Op Packet)} (cache : CacheAfter settings start w ops) : CacheAfter settings start
    {w with udpClientTransactions:=pruneUdpClientTransactions w.now w.udpClientTransactions} ops := by
  unfold CacheAfter at cache ⊢
  split at cache
  · exact Expiring.agrees_prune cache
  · exact fun other another => (cache other another).pruned
  · refine fun same => ⟨?_,fun other another => ((cache same).2 other another).pruned⟩
    rw [pruneUdpClientTransactions,Expiring.prune,Table.lookup_retain,(cache same).1]
    rfl
  · trivial

theorem cacheAfter_long {ops : List (Op Packet)} (long : 2 < ops.length) : CacheAfter settings start w ops := by
  rcases ops with _ | ⟨first,_ | ⟨second,_ | ⟨third,rest⟩⟩⟩
  · exact (Nat.not_lt_zero _ long).elim
  · exact (Nat.not_lt.mpr (Nat.le_succ 1) long).elim
  · exact (Nat.lt_irrefl _ long).elim
  · cases first with
    | rememberUdpClientTransaction key target => cases second <;> trivial
    | _ => trivial

theorem CacheAfter.remembers {ops : List (Op Packet)} (cache : CacheAfter settings start w ops) (onward : start.now ≤ w.now)
    (key : String) (target : UpstreamTarget) (choice : Choice Packet) :
    CacheAfter settings start (perform settings (.rememberUdpClientTransaction key target) choice w).2
      (ops ++ [.rememberUdpClientTransaction key target]) := by
  rcases ops with _ | ⟨first,_ | ⟨second,rest⟩⟩
  · exact fun other another => remembered_spares onward cache choice target another
  · cases first <;> trivial
  · exact cacheAfter_long (by simp)

theorem CacheAfter.removes {ops : List (Op Packet)} (cache : CacheAfter settings start w ops) (key : String) :
    CacheAfter settings start {w with udpClientTransactions:=w.udpClientTransactions.erase key}
      (ops ++ [.removeUdpClientTransaction key]) := by
  rcases ops with _ | ⟨first,_ | ⟨second,rest⟩⟩
  · trivial
  · cases first with
    | rememberUdpClientTransaction kept target =>
        intro same
        rcases same with rfl
        refine ⟨AList.lookup_erase _ _,fun other another => ?_⟩
        have spared := cache other another
        unfold Spared at spared ⊢
        dsimp only
        rw [AList.lookup_erase_ne another]
        exact spared
    | _ => trivial
  · exact cacheAfter_long (by simp)

theorem perform_followed (followed : Followed settings start w log) (task : Nat) (op : Op Packet) (choice : Choice Packet) :
    let result := perform settings op choice w
    Followed settings start result.2 (log ++ [⟨task,w.now,⟨op,result.1⟩⟩]) := by
  have sameNow := @perform_now Packet settings op choice w
  refine ⟨by rw [sameNow]; exact followed.later,fun record member => ?_,?_,fun task' time key rest same => ?_⟩
  · rcases List.mem_append.mp member with earlier | last
    · exact followed.timed record earlier
    · rw [List.mem_singleton.mp last]
      exact followed.later
  · rw [cacheWrites_snoc]
    have cache := followed.cache
    cases op with
    | rememberUdpClientTransaction key target => exact cache.remembers followed.later key target choice
    | removeUdpClientTransaction key => exact cache.removes key
    | rememberUdpClientTransactionFinalResponse key response =>
        rcases cacheWrites log with _ | ⟨first,_ | ⟨second,rest⟩⟩
        · trivial
        · cases first <;> trivial
        · exact cacheAfter_long (by simp [writesCache])
    | lookupUdpClientTransaction key =>
        show CacheAfter settings start _ (cacheWrites log ++ [])
        rw [List.append_nil]
        exact cache.pruned
    | _ =>
        show CacheAfter settings start _ (cacheWrites log ++ [])
        rw [List.append_nil]
        exact cache.shown sameNow (perform_transactions rfl choice w)
  · rw [sameNow]
    cases log with
    | cons first others =>
        cases same
        exact followed.missed _ _ _ _ rfl
    | nil =>
        simp only [List.nil_append,List.cons.injEq,Entry.mk.injEq] at same
        obtain ⟨⟨_,_,event⟩,_⟩ := same
        have isLookup : op = .lookupUdpClientTransaction key := congrArg Event.op event
        subst isLookup
        have missed := eq_of_heq (Event.mk.inj event).2
        have pruned := Expiring.lookup_prune followed.cache key
        exact pruned.symm.trans (Option.map_eq_none_iff.mp missed)

end Eviction

section Names
variable {pool : ServerPool Packet} {record : Record Packet} {history : List (Record Packet)}

def MintedIn (history : List (Record Packet)) (branch : String) : Prop :=
  ∃ minting ∈ history, ∃ id : Nat, minting.event = ⟨.uniqueId,id⟩ ∧ branch = proxyBranch id

theorem minted_in {task : Nat} (minted : Minted (System.own task history) branch) : MintedIn history branch := by
  obtain ⟨id,member,named⟩ := minted
  obtain ⟨minting,inHistory,_,event⟩ := System.mem_own.mp member
  exact ⟨minting,inHistory,id,event,named⟩

theorem MintedIn.grown (minted : MintedIn history branch) (grown : ∀ record ∈ history, record ∈ pool.history) : MintedIn pool.history branch := by
  obtain ⟨minting,member,id,event,named⟩ := minted
  exact ⟨minting,grown minting member,id,event,named⟩

-- A route that is handed out carries the branch that its INVITE minted.
theorem lent_minted (ran : runServer codec settings actions = some pool) (member : record ∈ pool.history)
    (event : record.event = ⟨.lookupInviteTransaction key,some route⟩) : MintedIn pool.history route.branch := by
  obtain ⟨before,after,split⟩ := List.append_of_mem member
  have answered := (asked_reply (run_invites ran) split (congrArg Event.op event)).symm.trans event
  obtain ⟨stamped,kept,rfl⟩ := Option.map_eq_some_iff.mp (eq_of_heq (Event.mk.inj answered).2)
  obtain ⟨records,last,stored⟩ := Option.bind_eq_some_iff.mp (Option.filter_eq_some_iff.mp kept).1
  obtain ⟨isRecord,inBefore⟩ := lastFor_some last
  obtain ⟨first,rest,rfl⟩ := List.append_of_mem inBefore
  obtain ⟨request,prepared,isInvite,⟨⟨found,directed⟩,_⟩,recorded⟩ := record_dispatched (run_coursed ran)
    (by simp [split] : pool.history = first ++ records :: (rest ++ record :: after)) isRecord
  have independent : request.method ≠ .cancel ∧ request.method ≠ .ack := by rw [isInvite]; exact ⟨Method.noConfusion,Method.noConfusion⟩
  cases stored.symm.trans recorded
  exact (minted_in (directed.minted (directed.asked.independent independent))).grown fun other inFirst => by simp [split,inFirst]

theorem owned_minted (ran : runServer codec settings actions = some pool) (split : pool.history = before ++ record :: after)
    (owned : Owned method (System.own record.task before) branch) : MintedIn pool.history branch := by
  rcases owned with minted | ⟨_,key,route,looked,rfl⟩
  · exact (minted_in minted).grown fun other inBefore => by simp [split,inBefore]
  · obtain ⟨asked,inBefore,_,event⟩ := System.mem_own.mp looked
    exact lent_minted ran (by simp [split,inBefore]) event

theorem routed_minted (ran : runServer codec settings actions = some pool) (found : (routes pool.history).lookup branch = some stamped) :
    MintedIn pool.history branch := by
  obtain ⟨record,member,op,_⟩ := lookup_routes found
  obtain ⟨before,after,split⟩ := List.append_of_mem member
  obtain ⟨input,_,admitted⟩ := (run_sound ran).tracked.admitted before record after split
  exact owned_minted ran split (admits_insert admitted op).2.1

theorem admits_pending {known : Kind Message} {past : List (Act Packet)} {act : Act Packet} (admitted : known.Admits codec past act)
    (op : act.op = .rememberPendingRegister branch pending) : Owned .register past branch := by
  obtain ⟨_,reply⟩ := act
  cases op
  cases known with
  | other => exact admitted.elim
  | response message peer => exact admitted.elim
  | request method =>
      obtain ⟨rfl,owned⟩ := admitted
      exact owned

theorem registered_minted (ran : runServer codec settings actions = some pool)
    (found : (registers pool.history).lookup branch = some stamped) : MintedIn pool.history branch := by
  obtain ⟨record,member,op,_⟩ := lookup_registers found
  obtain ⟨before,after,split⟩ := List.append_of_mem member
  obtain ⟨input,_,admitted⟩ := (run_sound ran).tracked.admitted before record after split
  exact owned_minted ran split (admits_pending admitted op)

theorem fresh_unminted {w : World Packet} {log : List (Record Packet)} {id : Nat} (ledger : Ledger w (history ++ log))
    (member : record ∈ log) (event : record.event = ⟨.uniqueId,id⟩) : ¬MintedIn history (proxyBranch id) := by
  intro given
  rcases given with ⟨minting,inHistory,other,minted,named⟩
  cases proxyBranch_injective named
  obtain ⟨before,after,rfl⟩ := List.append_of_mem member
  have later := ledger.faithful (history ++ before) record after (by simp)
  unfold Faithful at later
  rw [event] at later
  exact Nat.lt_irrefl id (later minting (List.mem_append_left _ inHistory) id minted)

end Names

section Effects
variable {log history : List (Record Packet)} {key : Option String}

theorem filterMap_written {Result : Type} (effect : Record Packet → Option Result)
    (idle : ∀ record, writesTable record.event.op = false → effect record = none) (log : List (Record Packet)) :
    log.filterMap effect = (log.filter fun record => writesTable record.event.op).filterMap effect := by
  rw [List.filterMap_filter]
  apply List.filterMap_congr
  intro record _
  split
  · rfl
  · rename_i unwritten
    exact idle record (Bool.eq_false_iff.mpr unwritten)

-- The writes of the transaction cache are none of the two other maps.
theorem keyed_idle {make : String → Op Packet} (mapped : log.map (fun record => record.event.op) = key.toList.map make)
    (idle : ∀ name, ∀ record : Record Packet, record.event.op = make name → routeWrite record = none ∧ registerWrite record = none) :
    log.filterMap routeWrite = [] ∧ log.filterMap registerWrite = [] := by
  cases key with
  | none => simp [List.map_eq_nil_iff.mp mapped]
  | some name =>
      obtain ⟨record,rfl,op⟩ := List.map_eq_singleton_iff.mp mapped
      simp [idle name record op]

theorem rolled_effects (rolled : RolledBack branch key (writes (log.map Entry.event))) :
    (∃ route, log.filterMap routeWrite = [.put branch route,.drop branch]) ∧
    (∃ pending : Option (Stamped PendingRegister), log.filterMap registerWrite = pending.toList.map (.put branch ·)) ∧
    ∃ target, cacheWrites log = key.toList.map (.rememberUdpClientTransaction · target) ++ key.toList.map .removeUdpClientTransaction := by
  have listed : (log.filter fun record => writesTable record.event.op).map (fun record => record.event.op) = writes (log.map Entry.event) := by
    rw [writes,List.map_map,List.filter_map]
    rfl
  have cached : cacheWrites log = (writes (log.map Entry.event)).filter writesCache := by
    rw [writes,List.map_map,List.filter_filter]
    apply List.filter_congr
    intro op _
    cases op <;> rfl
  rw [filterMap_written routeWrite (fun record unwritten => ?_),filterMap_written registerWrite (fun record unwritten => ?_),cached]
  · generalize writes (log.map Entry.event) = ops at rolled listed
    cases rolled with
    | @along pending route target =>
        obtain ⟨front,last,whole,front',removes⟩ := List.map_eq_append_iff.mp listed
        obtain ⟨front,removal,rfl,front',removed⟩ := List.map_eq_append_iff.mp front'
        obtain ⟨front,remembers,rfl,front',remembered⟩ := List.map_eq_append_iff.mp front'
        obtain ⟨pends,insertion,rfl,pended,inserted⟩ := List.map_eq_append_iff.mp front'
        obtain ⟨⟨_,inserting,⟨_,_⟩⟩,rfl,rfl⟩ := List.map_eq_singleton_iff.mp inserted
        obtain ⟨⟨_,_,⟨_,_⟩⟩,rfl,rfl⟩ := List.map_eq_singleton_iff.mp removed
        have first := keyed_idle remembered fun name record op => by simp [routeWrite,registerWrite,op]
        have second := keyed_idle removes fun name record op => by simp [routeWrite,registerWrite,op]
        cases pending with
        | none =>
            cases List.map_eq_nil_iff.mp pended
            refine ⟨⟨⟨route,inserting⟩,?_⟩,⟨none,?_⟩,target,?_⟩
            · rw [whole]
              simp only [List.filterMap_append,first.1,second.1]
              rfl
            · rw [whole]
              simp only [List.filterMap_append,first.2,second.2]
              rfl
            · cases key <;> rfl
        | some pending =>
            obtain ⟨⟨_,time,⟨_,_⟩⟩,rfl,rfl⟩ := List.map_eq_singleton_iff.mp pended
            refine ⟨⟨⟨route,inserting⟩,?_⟩,⟨some ⟨pending,time⟩,?_⟩,target,?_⟩
            · rw [whole]
              simp only [List.filterMap_append,first.1,second.1]
              rfl
            · rw [whole]
              simp only [List.filterMap_append,first.2,second.2]
              rfl
            · cases key <;> rfl
  · obtain ⟨task,time,⟨op,reply⟩⟩ := record
    cases op <;> first | rfl | cases unwritten
  · obtain ⟨task,time,⟨op,reply⟩⟩ := record
    cases op <;> first | rfl | cases unwritten

end Effects
section Rollback
variable {pool : ServerPool Packet} {message : Message} {peer : SocketAddr} {listener : ProxyListenerConfig} {method : Method}
  {after : World Packet} {log : List (Record Packet)} {answers : Nat → List Change × Choice Packet} {outcome : Except String Unit}

-- The three maps show what they showed before the call.
structure Restored (settings : Settings) (start after : World Packet) : Prop where
  branches : Expiring.Agrees udpBranchTtl after.now after.udpBranches start.udpBranches
  transactions : ∀ key, Spared settings start after key
  registers : Expiring.Agrees pendingRegisterTtl after.now after.pendingRegisters start.pendingRegisters

-- The call asked for the INVITE of a CANCEL or an ACK, and the state before the call
-- has one, with a live response route under its branch.
def TakesInvite (start after : World Packet) (log : List (Record Packet)) : Prop := ∃ record ∈ log, ∃ key stamped,
  record.event.op = .lookupInviteTransaction key ∧ start.inviteTransactions.lookup key = some stamped ∧
  stamped.fresh inviteTransactionTtl record.time = true ∧
  ((start.udpBranches.lookup stamped.content.branch).filter (Stamped.fresh udpBranchTtl after.now)).isSome = true

-- The call stored the bindings of a REGISTER, not so long ago.
def StoresRegister (after : World Packet) (log : List (Record Packet)) : Prop := ∃ record ∈ log, ∃ branch pending,
  record.event.op = .rememberPendingRegister branch pending ∧ after.now - record.time ≤ pendingRegisterTtl

def call (codec : Codec Packet Message) (settings : Settings) (task : Nat) (message : Message) (peer : SocketAddr)
    (listener : ProxyListenerConfig) (method : Method) (answers : Nat → List Change × Choice Packet) (start : World Packet) :
    Except String Unit × World Packet × List (Record Packet) :=
  ((server codec settings).recorded task).exec (forwardUdp codec settings message peer listener method) answers (start,[])

-- What is known of a call that has come to its end.
structure Called (codec : Codec Packet Message) (settings : Settings) (history : List (Record Packet)) (start : World Packet)
    (message : Message) (peer : SocketAddr) (method : Method) (outcome : Except String Unit) (after : World Packet)
    (log : List (Record Packet)) : Prop where
  ledger : Ledger after (history ++ log)
  invited : InviteLedger after (history ++ log)
  followed : Followed settings start after log
  admitted : Throughout (RequestAdmits method) (log.map Entry.event)
  undone : Undone codec message peer method (log.map Entry.event) outcome
  missed : FailsToSend (log.map Entry.event) → ∀ named, udpClientTransactionKey codec message peer method = .ok (some named) →
    ∃ rest, log.map Entry.event = ⟨.lookupUdpClientTransaction named,none⟩ :: rest

theorem called (ran : runServer codec settings actions = some pool)
    (ended : call codec settings task message peer listener method answers pool.world = (outcome,after,log)) :
    Called codec settings pool.history pool.world message peer method outcome after log := by
  have unrouted : Unrouted ([] : List (Act Packet)) := ⟨fun _ member => (nomatch member),fun _ member => nomatch member⟩
  have admitted := System.recorded_along (forwardUdp_along unrouted message peer listener method) (throughout_nil _) ended
  have ends := System.recorded_along (@forwardUdp_undone _ _ codec settings message peer method listener) (throughout_nil _) ended
  refine ⟨?_,?_,?_,admitted.1,ends.2.1,ends.2.2⟩
  · exact System.recorded_continues Ledger perform_ledger change_ledger (run_sound ran).ledger ended
  · exact System.recorded_continues InviteLedger perform_invites change_invites (run_invites ran) ended
  · exact System.recorded_kept (Followed settings pool.world) (fun w log op choice followed => perform_followed followed task op choice)
      (fun w log change followed => change_followed followed change) (start_followed settings pool.world) ended

theorem rolled_uninvited (rolled : RolledBack branch key ops) (named : String) (route : InviteTransactionRoute) :
    (.rememberInviteTransaction named route : Op Packet) ∉ ops := by
  cases rolled with
  | along => simp

theorem write_listed (member : record ∈ log) (written : writesTable record.event.op = true) :
    record.event.op ∈ writes (log.map Entry.event) :=
  List.mem_filter.mpr ⟨List.mem_map_of_mem (List.mem_map_of_mem member),written⟩

theorem invites_still {history : List (Record Packet)} (still : ∀ record ∈ log, ∀ key route, record.event.op ≠ .rememberInviteTransaction key route) :
    invites (history ++ log) = invites history := by
  unfold invites
  rw [List.foldl_append]
  generalize history.foldl recordInvite ∅ = table
  induction log with
  | nil => rfl
  | cons first rest ih =>
      have unwritten : recordInvite table first = table := by
        unfold recordInvite
        split
        · rename_i op
          exact (still first List.mem_cons_self _ _ op).elim
        · rfl
      rw [List.foldl_cons,unwritten]
      exact ih fun record member => still record (List.mem_cons_of_mem _ member)

-- An INVITE that the call asked for is the one that the state before the call has.
theorem asked_before (ran : runServer codec settings actions = some pool)
    (called : Called codec settings pool.history pool.world message peer method outcome after log)
    (rolled : RolledBack branch key (writes (log.map Entry.event))) (member : record ∈ log)
    (op : record.event.op = .lookupInviteTransaction named) : record.event = ⟨.lookupInviteTransaction named,
      ((pool.world.inviteTransactions.lookup named).filter (Stamped.fresh inviteTransactionTtl record.time)).map Stamped.content⟩ := by
  have onward := called.followed.timed record member
  have uninvited : ∀ other ∈ log, ∀ key route, other.event.op ≠ .rememberInviteTransaction key route := by
    intro other member key route op
    have listed := write_listed member (by rw [op]; rfl)
    rw [op] at listed
    exact rolled_uninvited rolled key route listed
  obtain ⟨before,rest,split⟩ := List.append_of_mem member
  have held := called.invited.faithful (pool.history ++ before) record rest (by rw [split,List.append_assoc])
  rw [split] at uninvited
  obtain ⟨task,time,⟨asking,reply⟩⟩ := record
  cases op
  unfold InviteFaithful at held
  rw [invites_still fun other member => uninvited other (List.mem_append_left _ member)] at held
  rw [held,← Expiring.filter_fresh onward,← (run_invites ran).agrees named,Expiring.filter_fresh onward]

theorem minted_before (ledger : Ledger after (pool.history ++ log)) (within : ∀ act ∈ past, act ∈ log.map Entry.event)
    (owned : Owned method past branch) (known : MintedIn pool.history branch) :
    (method = .cancel ∨ method = .ack) ∧ Borrowed (log.map Entry.event) branch := by
  rcases owned with ⟨id,member,rfl⟩ | ⟨dependent,key,route,member,named⟩
  · obtain ⟨minting,inLog,event⟩ := List.mem_map.mp (within _ member)
    exact (fresh_unminted ledger inLog event known).elim
  · exact ⟨dependent,key,route,within _ member,named⟩

theorem routes_after {history : List (Record Packet)} {route : Stamped UdpBranchRoute}
    (written : log.filterMap routeWrite = [.put branch route,.drop branch]) (other : String) :
    (routes (history ++ log)).lookup other = if other = branch then none else (routes history).lookup other := by
  simp only [routes,List.filterMap_append,written,Table.replay,List.foldl_append,List.foldl_cons,List.foldl_nil,Table.write,
    Table.lookup_erase_eq,Table.lookup_insert_eq]
  split <;> rfl

theorem admitted_within {acts : List (Act Packet)} {act : Act Packet} (admitted : Throughout (RequestAdmits method) acts) (member : act ∈ acts) :
    ∃ past, (∀ other ∈ past, other ∈ acts) ∧ RequestAdmits method past act := by
  obtain ⟨before,rest,rfl⟩ := List.append_of_mem member
  exact ⟨before,fun other inside => List.mem_append_left _ inside,admitted before act rest rfl⟩

theorem written_act {op : Op Packet} (listed : op ∈ writes (log.map Entry.event)) : ∃ act ∈ log.map Entry.event, act.op = op :=
  List.mem_map.mp (List.mem_of_mem_filter listed)

theorem inserted_owned (admitted : Throughout (RequestAdmits method) (log.map Entry.event))
    (rolled : RolledBack branch key (writes (log.map Entry.event))) :
    ∃ past, (∀ act ∈ past, act ∈ log.map Entry.event) ∧ Owned method past branch := by
  have listed : ∃ route, (.insertUdpBranch branch route : Op Packet) ∈ writes (log.map Entry.event) := by
    generalize writes (log.map Entry.event) = ops at rolled
    cases rolled with
    | @along pending route target => exact ⟨route,by simp⟩
  obtain ⟨route,listed⟩ := listed
  obtain ⟨⟨_,reply⟩,member,rfl⟩ := written_act listed
  obtain ⟨past,within,_,owned,_⟩ := admitted_within admitted member
  exact ⟨past,within,owned⟩

theorem stored_owned (admitted : Throughout (RequestAdmits method) (log.map Entry.event)) (member : record ∈ log)
    (op : record.event.op = .rememberPendingRegister branch pending) :
    method = .register ∧ ∃ past, (∀ act ∈ past, act ∈ log.map Entry.event) ∧ Owned method past branch := by
  obtain ⟨task,time,⟨_,reply⟩⟩ := record
  cases op
  obtain ⟨past,within,isRegister,owned⟩ := admitted_within admitted (List.mem_map_of_mem member)
  exact ⟨isRegister,past,within,owned⟩

theorem branches_restored (ran : runServer codec settings actions = some pool)
    (called : Called codec settings pool.history pool.world message peer method outcome after log)
    (rolled : RolledBack branch key (writes (log.map Entry.event))) (branched : ∀ route ∈ handed (log.map Entry.event), route.branch = branch) :
    Expiring.Agrees udpBranchTtl after.now after.udpBranches pool.world.udpBranches ↔ ¬TakesInvite pool.world after log := by
  obtain ⟨⟨_,written⟩,_,_⟩ := rolled_effects rolled
  have before := Expiring.agrees_later (run_sound ran).ledger.routed called.followed.later
  constructor
  · intro agrees given
    rcases given with ⟨record,member,named,stamped,op,found,fresh,live⟩
    have event := asked_before ran called rolled member op
    have kept : (pool.world.inviteTransactions.lookup named).filter (Stamped.fresh inviteTransactionTtl record.time) = some stamped :=
      Option.filter_eq_some_iff.mpr ⟨found,fresh⟩
    rw [kept] at event
    have same := branched stamped.content (List.mem_filterMap.mpr ⟨_,List.mem_map_of_mem member,by rw [event]; rfl⟩)
    rw [same,← agrees branch,called.ledger.routed branch,routes_after written,if_pos rfl] at live
    cases live
  · intro untaken other
    rw [called.ledger.routed other,before other,routes_after written]
    split
    · rename_i same
      subst same
      cases live : ((routes pool.history).lookup other).filter (Stamped.fresh udpBranchTtl after.now) with
      | none => rfl
      | some entry =>
          refine (untaken ?_).elim
          obtain ⟨past,within,owned⟩ := inserted_owned called.admitted rolled
          have known := routed_minted ran (Option.filter_eq_some_iff.mp live).1
          obtain ⟨_,named,route,asked,rfl⟩ := minted_before called.ledger within owned known
          obtain ⟨record,member,event⟩ := List.mem_map.mp asked
          have answered := event.symm.trans (asked_before ran called rolled member (congrArg Event.op event))
          obtain ⟨stamped,kept,rfl⟩ := Option.map_eq_some_iff.mp (eq_of_heq (Event.mk.inj answered).2).symm
          obtain ⟨found,fresh⟩ := Option.filter_eq_some_iff.mp kept
          refine ⟨record,member,named,stamped,congrArg Event.op event,found,fresh,?_⟩
          rw [before,live]
          rfl
    · rfl

theorem registers_after {history : List (Record Packet)} {pending : Option (Stamped PendingRegister)}
    (written : log.filterMap registerWrite = pending.toList.map (.put branch ·)) (other : String) :
    (registers (history ++ log)).lookup other =
      if other = branch then pending.or ((registers history).lookup branch) else (registers history).lookup other := by
  simp only [registers,List.filterMap_append,written,Table.replay,List.foldl_append]
  cases pending with
  | none =>
      split
      · rename_i same
        rw [same]
        rfl
      · rfl
  | some entry => exact Table.lookup_insert_eq _ branch other entry

theorem stored_written {pending : Option (Stamped PendingRegister)}
    (written : log.filterMap registerWrite = pending.toList.map (.put branch ·)) (member : record ∈ log) {held : PendingRegister}
    (op : record.event.op = .rememberPendingRegister named held) : pending = some ⟨held,record.time⟩ := by
  have listed : (.put named ⟨held,record.time⟩ : Table.Write String (Stamped PendingRegister)) ∈ log.filterMap registerWrite :=
    List.mem_filterMap.mpr ⟨record,member,by simp only [registerWrite,op]⟩
  rw [written] at listed
  obtain ⟨entry,isPending,same⟩ := List.mem_map.mp listed
  cases same
  exact Option.mem_toList.mp isPending

theorem written_stored {entry : Stamped PendingRegister} (written : log.filterMap registerWrite = [.put branch entry]) :
    ∃ record ∈ log, record.event.op = .rememberPendingRegister branch entry.content ∧ record.time = entry.createdAt := by
  have added : ∃ record ∈ log, registerWrite record = some (.put branch entry) :=
    List.mem_filterMap.mp (by rw [written]; exact List.mem_singleton.mpr rfl)
  obtain ⟨record,member,wrote⟩ := added
  exact ⟨record,member,registerWrite_put wrote⟩

theorem stores_iff {pending : Option (Stamped PendingRegister)}
    (written : log.filterMap registerWrite = pending.toList.map (.put branch ·)) :
    StoresRegister after log ↔ ∃ entry, pending = some entry ∧ entry.fresh pendingRegisterTtl after.now = true := by
  constructor
  · intro given
    rcases given with ⟨record,member,named,held,op,fresh⟩
    exact ⟨_,stored_written written member op,decide_eq_true fresh⟩
  · intro given
    rcases given with ⟨entry,rfl,fresh⟩
    obtain ⟨record,member,op,time⟩ := written_stored written
    exact ⟨record,member,branch,entry.content,op,by rw [time]; exact of_decide_eq_true fresh⟩

-- The branch of a call that writes there is not on record before it.
theorem written_unregistered (ran : runServer codec settings actions = some pool)
    (called : Called codec settings pool.history pool.world message peer method outcome after log) {entry : Stamped PendingRegister}
    (written : log.filterMap registerWrite = [.put branch entry]) : (registers pool.history).lookup branch = none := by
  cases found : (registers pool.history).lookup branch with
  | none => rfl
  | some _ =>
      obtain ⟨record,member,op,_⟩ := written_stored written
      obtain ⟨rfl,past,within,owned⟩ := stored_owned called.admitted member op
      rcases (minted_before called.ledger within owned (registered_minted ran found)).1 with same | same <;> cases same

theorem registers_restored (ran : runServer codec settings actions = some pool)
    (called : Called codec settings pool.history pool.world message peer method outcome after log)
    (rolled : RolledBack branch key (writes (log.map Entry.event))) :
    Expiring.Agrees pendingRegisterTtl after.now after.pendingRegisters pool.world.pendingRegisters ↔ ¬StoresRegister after log := by
  obtain ⟨_,⟨pending,written⟩,_⟩ := rolled_effects rolled
  have before := Expiring.agrees_later (run_sound ran).ledger.registered called.followed.later
  rw [stores_iff written]
  cases pending with
  | none =>
      refine iff_of_true (fun other => ?_) fun ⟨_,same,_⟩ => nomatch same
      rw [called.ledger.registered other,before other,registers_after written]
      split
      · rename_i same
        rw [same]
        rfl
      · rfl
  | some entry =>
      have unknown := written_unregistered ran called written
      constructor
      · intro agrees given
        rcases given with ⟨_,same,fresh⟩
        cases same
        have gone := agrees branch
        rw [called.ledger.registered,before,registers_after written,if_pos rfl,unknown] at gone
        exact absurd gone (by simp [fresh])
      · intro unstored other
        rw [called.ledger.registered other,before other,registers_after written]
        split
        · rename_i same
          have stale : entry.fresh pendingRegisterTtl after.now = false :=
            Bool.eq_false_iff.mpr fun fresh => unstored ⟨entry,rfl,fresh⟩
          rw [same,unknown]
          simp [stale]
        · rfl

theorem transactions_restored (called : Called codec settings history start message peer method outcome after log)
    (failed : FailsToSend (log.map Entry.event)) (keyed : udpClientTransactionKey codec message peer method = .ok key)
    (rolled : RolledBack branch key (writes (log.map Entry.event))) (other : String) : Spared settings start after other := by
  obtain ⟨_,_,target,written⟩ := rolled_effects rolled
  have cache := called.followed.cache
  rw [written] at cache
  cases key with
  | none => exact .inl (cache other)
  | some named =>
      obtain ⟨gone,spared⟩ := cache rfl
      by_cases same : other = named
      · subst same
        refine .inl ?_
        obtain ⟨rest,begins⟩ := called.missed failed other keyed
        obtain ⟨⟨task,time,_⟩,rest,rfl,rfl,_⟩ := List.map_eq_cons_iff.mp begins
        rw [gone,called.followed.missed task time other rest rfl]
        rfl
      · exact spared other same

end Rollback

section Runs

def invited : Schedule := datagram (request .invite) clientAddr :: steps 0 12

def unreachable : Nat → List Change × Choice Envelope := fun _ => ([],⟨.allow,none,upstreamAddr,false,"10.0.0.9:5060",.ok []⟩)

end Runs
end Sigproxy.Proxy.SendRollback
