import Sigproxy.Proxy.ResponsePath

namespace Sigproxy.Proxy
open Library Net Cluster Affinity

variable {Packet Message : Type} {codec : Codec Packet Message} {settings : Settings}

abbrev Record (Packet : Type) := Entry (@Op.Reply Packet)

section Writes

def routeWrite (record : Record Packet) : Option (Table.Write String (Stamped UdpBranchRoute)) :=
  match record.event.op with
  | .insertUdpBranch branch route => some (.put branch ⟨route,record.time⟩)
  | .removeUdpBranch branch => some (.drop branch)
  | _ => none

def registerWrite (record : Record Packet) : Option (Table.Write String (Stamped PendingRegister)) :=
  match record.event.op with
  | .rememberPendingRegister branch pending => some (.put branch ⟨pending,record.time⟩)
  | .takePendingRegister branch => some (.drop branch)
  | _ => none

-- What the writes of a history leave in a map that nobody prunes.
def routes (history : List (Record Packet)) : Table String (Stamped UdpBranchRoute) :=
  (∅ : Table _ _).replay (history.filterMap routeWrite)

def registers (history : List (Record Packet)) : Table String (Stamped PendingRegister) :=
  (∅ : Table _ _).replay (history.filterMap registerWrite)

theorem routes_snoc (history : List (Record Packet)) (record : Record Packet) :
    routes (history ++ [record]) = (routeWrite record).elim (routes history) (routes history).write :=
  Table.replay_filterMap_snoc _ routeWrite history record

theorem registers_snoc (history : List (Record Packet)) (record : Record Packet) :
    registers (history ++ [record]) = (registerWrite record).elim (registers history) (registers history).write :=
  Table.replay_filterMap_snoc _ registerWrite history record

theorem registerWrite_put (written : registerWrite record = some (.put branch stamped)) :
    record.event.op = .rememberPendingRegister branch stamped.content ∧ record.time = stamped.createdAt := by
  unfold registerWrite at written
  split at written
  · rename_i op
    cases written
    exact ⟨op,rfl⟩
  · cases written
  · cases written

theorem lookup_routes {history : List (Record Packet)} (found : (routes history).lookup branch = some stamped) :
    ∃ record ∈ history, record.event.op = .insertUdpBranch branch stamped.content ∧ record.time = stamped.createdAt := by
  obtain ⟨record,member,written⟩ := Table.lookup_replay_put found
  refine ⟨record,member,?_⟩
  unfold routeWrite at written
  split at written
  · rename_i op
    cases written
    exact ⟨op,rfl⟩
  · cases written
  · cases written

theorem lookup_registers {history : List (Record Packet)} (found : (registers history).lookup branch = some stamped) :
    ∃ record ∈ history, record.event.op = .rememberPendingRegister branch stamped.content ∧ record.time = stamped.createdAt := by
  obtain ⟨record,member,written⟩ := Table.lookup_replay_put found
  exact ⟨record,member,registerWrite_put written⟩

end Writes

section Ledger

-- The replies that the maps give are the ones the history implies.
def Faithful (before : List (Record Packet)) (record : Record Packet) : Prop :=
  match record.event with
  | ⟨.lookupUdpBranch branch,found⟩ =>
    found = (((routes before).lookup branch).filter (Stamped.fresh udpBranchTtl record.time)).map Stamped.content
  | ⟨.takePendingRegister branch,taken⟩ =>
    taken = (((registers before).lookup branch).filter (Stamped.fresh pendingRegisterTtl record.time)).map Stamped.content
  | ⟨.uniqueId,id⟩ => ∀ earlier ∈ before, ∀ other : Nat, earlier.event = ⟨.uniqueId,other⟩ → other < id
  | _ => True

structure Ledger (w : World Packet) (history : List (Record Packet)) : Prop where
  routed : Expiring.Agrees udpBranchTtl w.now w.udpBranches (routes history)
  registered : Expiring.Agrees pendingRegisterTtl w.now w.pendingRegisters (registers history)
  minted : ∀ record ∈ history, ∀ id : Nat, record.event = ⟨.uniqueId,id⟩ → id < w.nextId
  faithful : Throughout Faithful history

theorem start_ledger (affinity : ProxyAffinityConfig) : Ledger (World.new Packet affinity) [] where
  routed := Expiring.agrees_refl _ _ _
  registered := Expiring.agrees_refl _ _ _
  minted := by simp
  faithful := throughout_nil _

def Op.touchesLedger : Op Packet → Bool
  | .uniqueId | .lookupUdpBranch _ | .insertUdpBranch .. | .removeUdpBranch _ => true
  | .rememberPendingRegister .. | .takePendingRegister _ => true
  | _ => false

theorem perform_untouched {op : Op Packet} (untouched : op.touchesLedger = false) (choice : Choice Packet) (w : World Packet) :
    let next := (perform settings op choice w).2
    next.now = w.now ∧ next.nextId = w.nextId ∧ next.udpBranches = w.udpBranches ∧ next.pendingRegisters = w.pendingRegisters := by
  cases op with
  | uniqueId => cases untouched
  | lookupUdpBranch branch => cases untouched
  | insertUdpBranch branch route => cases untouched
  | removeUdpBranch branch => cases untouched
  | rememberPendingRegister branch pending => cases untouched
  | takePendingRegister branch => cases untouched
  | rememberUdpClientTransactionFinalResponse key response =>
      simp only [perform]
      split <;> exact ⟨rfl,rfl,rfl,rfl⟩
  | submit command =>
      simp only [perform]
      split <;> exact ⟨rfl,rfl,rfl,rfl⟩
  | _ => exact ⟨rfl,rfl,rfl,rfl⟩

theorem untouched_record {op : Op Packet} (untouched : op.touchesLedger = false) (task time : Nat) (reply : op.Reply)
    (before : List (Record Packet)) :
    routeWrite ⟨task,time,⟨op,reply⟩⟩ = none ∧ registerWrite ⟨task,time,⟨op,reply⟩⟩ = none ∧
      Faithful before ⟨task,time,⟨op,reply⟩⟩ ∧ op ≠ .uniqueId := by
  cases op with
  | uniqueId => cases untouched
  | lookupUdpBranch branch => cases untouched
  | insertUdpBranch branch route => cases untouched
  | removeUdpBranch branch => cases untouched
  | rememberPendingRegister branch pending => cases untouched
  | takePendingRegister branch => cases untouched
  | _ => exact ⟨rfl,rfl,trivial,fun same => nomatch same⟩

theorem ledger_snoc {w next : World Packet} {record : Record Packet} (ledger : Ledger w history)
    (routed : Expiring.Agrees udpBranchTtl next.now next.udpBranches (routes (history ++ [record])))
    (registered : Expiring.Agrees pendingRegisterTtl next.now next.pendingRegisters (registers (history ++ [record])))
    (counted : w.nextId ≤ next.nextId) (minted : ∀ id : Nat, record.event = ⟨.uniqueId,id⟩ → id < next.nextId)
    (faithful : Faithful history record) : Ledger next (history ++ [record]) where
  routed := routed
  registered := registered
  faithful := throughout_snoc.mpr ⟨ledger.faithful,faithful⟩
  minted := by
    intro other member id same
    rcases List.mem_append.mp member with earlier | last
    · exact Nat.lt_of_lt_of_le (ledger.minted other earlier id same) counted
    · cases List.mem_singleton.mp last
      exact minted id same

theorem perform_ledger (w : World Packet) (history : List (Record Packet)) (task : Nat) (op : Op Packet)
    (choice : Choice Packet) (ledger : Ledger w history) :
    let result := perform settings op choice w
    Ledger result.2 (history ++ [⟨task,w.now,⟨op,result.1⟩⟩]) := by
  cases touched : op.touchesLedger with
  | false =>
      obtain ⟨sameNow,sameId,sameBranches,sameRegisters⟩ := @perform_untouched Packet settings op touched choice w
      obtain ⟨noRoute,noRegister,faithful,notMint⟩ :=
        untouched_record touched task w.now (perform settings op choice w).1 history
      refine ledger_snoc ledger ?_ ?_ (Nat.le_of_eq sameId.symm) ?_ faithful
      · rw [routes_snoc,noRoute,sameNow,sameBranches]
        exact ledger.routed
      · rw [registers_snoc,noRegister,sameNow,sameRegisters]
        exact ledger.registered
      · intro id same
        exact (notMint (congrArg Event.op same)).elim
  | true =>
      cases op with
      | uniqueId =>
          refine ledger_snoc ledger ?_ ?_ (Nat.le_succ _) ?_ ledger.minted
          · rw [routes_snoc]; exact ledger.routed
          · rw [registers_snoc]; exact ledger.registered
          · intro id same
            cases same
            exact Nat.lt_succ_self _
      | lookupUdpBranch branch =>
          refine ledger_snoc ledger ?_ ?_ (Nat.le_refl _) (fun id same => nomatch same) ?_
          · rw [routes_snoc]; exact Expiring.agrees_prune ledger.routed
          · rw [registers_snoc]; exact ledger.registered
          · exact congrArg (Option.map Stamped.content) (Expiring.lookup_prune ledger.routed branch)
      | insertUdpBranch branch route =>
          refine ledger_snoc ledger ?_ ?_ (Nat.le_refl _) (fun id same => nomatch same) trivial
          · rw [routes_snoc]
            exact Expiring.agrees_write (Expiring.agrees_prune ledger.routed) (.put branch ⟨route,w.now⟩)
          · rw [registers_snoc]; exact ledger.registered
      | removeUdpBranch branch =>
          refine ledger_snoc ledger ?_ ?_ (Nat.le_refl _) (fun id same => nomatch same) trivial
          · rw [routes_snoc]; exact Expiring.agrees_write ledger.routed (.drop branch)
          · rw [registers_snoc]; exact ledger.registered
      | rememberPendingRegister branch pending =>
          refine ledger_snoc ledger ?_ ?_ (Nat.le_refl _) (fun id same => nomatch same) trivial
          · rw [routes_snoc]; exact ledger.routed
          · rw [registers_snoc]
            exact Expiring.agrees_write (Expiring.agrees_prune ledger.registered) (.put branch ⟨pending,w.now⟩)
      | takePendingRegister branch =>
          refine ledger_snoc ledger ?_ ?_ (Nat.le_refl _) (fun id same => nomatch same) ?_
          · rw [routes_snoc]; exact ledger.routed
          · rw [registers_snoc]; exact Expiring.agrees_write (Expiring.agrees_prune ledger.registered) (.drop branch)
          · exact congrArg (Option.map Stamped.content) (Expiring.lookup_prune ledger.registered branch)
      | _ => cases touched

theorem change_ledger (w : World Packet) (history : List (Record Packet)) (change : Change) (ledger : Ledger w history) :
    Ledger (World.change change w) history := by
  cases change with
  | elapse duration =>
      exact ⟨Expiring.agrees_later ledger.routed (Nat.le_add_right _ _),
        Expiring.agrees_later ledger.registered (Nat.le_add_right _ _),ledger.minted,ledger.faithful⟩
  | replicate state affinity => exact ⟨ledger.routed,ledger.registered,ledger.minted,ledger.faithful⟩

end Ledger

section Sound

abbrev ServerPool (Packet : Type) := Pool (@Op.Reply Packet) (Input Packet) (World Packet) Unit
abbrev ServerAction (Packet : Type) := System.Action (Input Packet) (Choice Packet) Change

abbrev runServer (codec : Codec Packet Message) (settings : Settings)
    (actions : List (ServerAction Packet)) : Option (ServerPool Packet) :=
  Machine.run (server codec settings).advance (System.start (World.new Packet settings.affinity)) actions

structure Sound (codec : Codec Packet Message) (settings : Settings) (pool : ServerPool Packet) : Prop where
  ledger : Ledger pool.world pool.history
  tracked : System.Tracked (fun input => (kind codec input).Admits codec)
    (fun input => (kind codec input).Ends codec settings) pool

theorem run_sound {pool : ServerPool Packet} (ran : runServer codec settings actions = some pool) : Sound codec settings pool where
  ledger := System.run_world Ledger perform_ledger change_ledger (start_ledger settings.affinity) ran
  tracked := System.run_tracked handler_along ran

end Sound

section Admitted
variable {known : Kind Message} {past : List (Act Packet)} {act : Act Packet}

theorem admits_insert (admitted : known.Admits codec past act) (op : act.op = .insertUdpBranch branch route) :
    Unrouted past ∧ Owned route.method past branch ∧ route.removeOnFinal = decide (route.method ≠ .invite) := by
  obtain ⟨_,reply⟩ := act
  cases op
  cases known with
  | other => exact admitted.elim
  | response message peer => exact admitted.elim
  | request method =>
      obtain ⟨unrouted,owned,rfl,removing⟩ := admitted
      exact ⟨unrouted,owned,removing⟩

theorem admits_routing (admitted : known.Admits codec past act) (inserts : act.op.isRouting = true) :
    ∀ other ∈ past, other.op.isRouting = false := by
  obtain ⟨op,reply⟩ := act
  cases op with
  | insertUdpBranch branch route => exact (admits_insert admitted rfl).1.2
  | _ => cases inserts

theorem admits_remove (admitted : known.Admits codec past act) (op : act.op = .removeUdpBranch branch) :
    ((∃ route, ⟨.insertUdpBranch branch route,()⟩ ∈ past) ∧ ∃ packet upstream, ⟨.sendToUpstream packet upstream,false⟩ ∈ past) ∨
      ∃ route, Found past branch route ∧ route.removeOnFinal = true := by
  obtain ⟨_,reply⟩ := act
  cases op
  cases known with
  | other => exact admitted.elim
  | response message peer => exact .inr admitted
  | request method => exact .inl admitted

theorem admits_send (admitted : known.Admits codec past act) (sends : act.op.isUpstreamSend = true) : Unsent past := by
  obtain ⟨op,reply⟩ := act
  cases op with
  | sendToUpstream packet upstream =>
      cases known with
      | other => exact admitted.elim
      | response message peer => exact admitted.elim
      | request method => exact admitted
  | _ => cases sends

theorem admits_lookup (admitted : known.Admits codec past act) (asks : act.op.isBranchLookup = true) :
    Unanswered past ∧ ∃ message peer, known = .response message peer := by
  obtain ⟨op,reply⟩ := act
  cases op with
  | lookupUdpBranch branch =>
      cases known with
      | other => exact admitted.elim
      | request method => exact admitted.elim
      | response message peer => exact ⟨admitted.1,message,peer,rfl⟩
  | _ => cases asks

end Admitted

section Once
variable {pool : ServerPool Packet} {one two : Record Packet}

theorem routing_once (sound : Sound codec settings pool) (first : one ∈ pool.history) (second : two ∈ pool.history)
    (same : one.task = two.task) (firstRoutes : one.event.op.isRouting = true)
    (secondRoutes : two.event.op.isRouting = true) : one = two :=
  sound.tracked.once (fun _ _ _ admitted routes => admits_routing admitted routes) first second same firstRoutes secondRoutes

theorem send_once (sound : Sound codec settings pool) (first : one ∈ pool.history) (second : two ∈ pool.history)
    (same : one.task = two.task) (firstSends : one.event.op.isUpstreamSend = true)
    (secondSends : two.event.op.isUpstreamSend = true) : one = two :=
  sound.tracked.once (fun _ _ _ admitted sends => admits_send admitted sends) first second same firstSends secondSends

theorem lookup_once (sound : Sound codec settings pool) (first : one ∈ pool.history) (second : two ∈ pool.history)
    (same : one.task = two.task) (firstAsks : one.event.op.isBranchLookup = true)
    (secondAsks : two.event.op.isBranchLookup = true) : one = two :=
  sound.tracked.once (fun _ _ _ admitted asks => (admits_lookup admitted asks).1) first second same firstAsks secondAsks

theorem mint_once (sound : Sound codec settings pool) {id : Nat} (first : one ∈ pool.history) (second : two ∈ pool.history)
    (firstId : one.event = ⟨.uniqueId,id⟩) (secondId : two.event = ⟨.uniqueId,id⟩) : one = two := by
  rcases sound.ledger.faithful.pair first second with same | ⟨before,earlier,held⟩ | ⟨before,earlier,held⟩
  · exact same
  · unfold Faithful at held
    rw [secondId] at held
    exact (Nat.lt_irrefl id (held one earlier id firstId)).elim
  · unfold Faithful at held
    rw [firstId] at held
    exact (Nat.lt_irrefl id (held two earlier id secondId)).elim

end Once
end Sigproxy.Proxy
