import Sigproxy.Proxy.ResponseRouting

namespace Sigproxy.Proxy
open Library Net Cluster Affinity

variable {Packet Message : Type} {codec : Codec Packet Message} {settings : Settings} {pool next : ServerPool Packet}

-- The response names a branch of the proxy under which the handling task has
-- found a route, put there by a forwarded request no longer ago than its TTL.
structure Vouched (codec : Codec Packet Message) (pool : ServerPool Packet) (task : Nat) (message : Message) (branch : String) :
    Prop where
  named : codec.topViaBranch message = .ok (some branch)
  ours : startsWith branch proxyBranchPrefix = true
  routed : ∃ asked ∈ pool.history, ∃ routed ∈ pool.history, ∃ route, asked.task = task ∧
    asked.event = ⟨.lookupUdpBranch branch,some route⟩ ∧ routed.event.op = .insertUdpBranch branch route ∧
    asked.time - routed.time ≤ udpBranchTtl

-- The task has taken, in time and before anybody else, the pending bindings that
-- a forwarded REGISTER left under the branch.
def Pended (codec : Codec Packet Message) (pool : ServerPool Packet) (task : Nat) (branch : String) (pending : PendingRegister) :
    Prop :=
  ∃ before taken after, pool.history = before ++ taken :: after ∧ taken.task = task ∧
    taken.event = ⟨.takePendingRegister branch,some pending⟩ ∧
    ∃ remembered ∈ before, remembered.event.op = .rememberPendingRegister branch pending ∧
      (registers before).lookup branch = some ⟨pending,remembered.time⟩ ∧
      taken.time - remembered.time ≤ pendingRegisterTtl ∧
      ∃ input, pool.inputs[remembered.task]? = some input ∧ kind codec input = .request .register

section Provenance

theorem admits_pending {known : Kind Message} {past : List (Act Packet)} {act : Act Packet}
    (admitted : known.Admits codec past act) (op : act.op = .rememberPendingRegister branch pending) :
    known = .request .register := by
  obtain ⟨_,reply⟩ := act
  cases op
  cases known with
  | other => exact admitted.elim
  | response message peer => exact admitted.elim
  | request method => rw [admitted.1]

theorem found_vouched (sound : Sound codec settings pool) (hasInput : pool.inputs[task]? = some input)
    (kinded : kind codec input = .response message peer)
    (member : ⟨.lookupUdpBranch branch,some route⟩ ∈ System.own task pool.history) : Vouched codec pool task message branch := by
  obtain ⟨asked,inHistory,ofTask,event⟩ := System.mem_own.mp member
  obtain ⟨before,after,split⟩ := List.append_of_mem inHistory
  obtain ⟨routed,earlier,op,inTime⟩ := lookup_inserted sound split event
  obtain ⟨given,hasGiven,admitted⟩ := sound.tracked.admitted before asked after split
  rw [ofTask,hasInput] at hasGiven
  cases hasGiven
  rw [kinded,event] at admitted
  refine ⟨admitted.2.1,admitted.2.2,asked,inHistory,routed,?_,route,ofTask,event,op,inTime⟩
  rw [split]
  exact List.mem_append_left _ earlier

theorem taken_pended (sound : Sound codec settings pool)
    (member : ⟨.takePendingRegister branch,some pending⟩ ∈ System.own task pool.history) : Pended codec pool task branch pending := by
  obtain ⟨taken,inHistory,ofTask,event⟩ := System.mem_own.mp member
  obtain ⟨before,after,split⟩ := List.append_of_mem inHistory
  have held := sound.ledger.faithful before taken after split
  unfold Faithful at held
  rw [event] at held
  obtain ⟨stamped,found,rfl⟩ := Option.map_eq_some_iff.mp held.symm
  obtain ⟨stored,fresh⟩ := Option.filter_eq_some_iff.mp found
  obtain ⟨remembered,earlier,op,time⟩ := lookup_registers stored
  obtain ⟨first,rest,rfl⟩ := List.append_of_mem earlier
  obtain ⟨input,hasInput,admitted⟩ := sound.tracked.admitted first remembered (rest ++ taken :: after) (by simp [split])
  refine ⟨_,taken,after,split,ofTask,event,remembered,earlier,op,?_,?_,input,hasInput,admits_pending admitted op⟩
  · rw [time]
    exact stored
  · rw [time]
    simpa [Stamped.fresh] using fresh

-- What the record of a taken entry says of the response that took it.
theorem taken_vouched (sound : Sound codec settings pool) (hasInput : pool.inputs[task]? = some input)
    (kinded : kind codec input = .response message peer)
    (member : ⟨.takePendingRegister branch,some pending⟩ ∈ System.own task pool.history) : Vouched codec pool task message branch := by
  obtain ⟨before,after,split⟩ := List.append_of_mem member
  have admitted := sound.tracked.past task input hasInput before _ after split
  rw [kinded] at admitted
  obtain ⟨⟨route,found⟩,_⟩ := admitted
  have looked : ⟨.lookupUdpBranch branch,some route⟩ ∈ System.own task pool.history := by
    rw [split]
    exact List.mem_append_left _ ((found branch (some route)).mpr ⟨rfl,rfl⟩)
  exact found_vouched sound hasInput kinded looked

end Provenance

section Step

-- A success response to the pending bindings.
structure Authorised (codec : Codec Packet Message) (pool : ServerPool Packet) (task : Nat) (message : Message)
    (pending : PendingRegister) : Prop where
  success : ∃ code, (codec.startLine message).code = some code ∧ 200 ≤ code ∧ code < 300
  pended : ∃ branch, Vouched codec pool task message branch ∧ Pended codec pool task branch pending

theorem granted_authorised (sound : Sound codec settings pool) (hasInput : pool.inputs[task]? = some input)
    (kinded : kind codec input = .response message peer)
    (granted : Granted codec message (System.own task pool.history) aor target) :
    ∃ pending, Authorised codec pool task message pending ∧ aor ∈ pending.bindings.map PendingRegisterBinding.aor ∧
      target = pending.target.affinity := by
  obtain ⟨branch,pending,member,success,named,targeted⟩ := granted
  have vouched := taken_vouched sound hasInput kinded member
  exact ⟨pending,⟨success,branch,vouched,taken_pended sound member⟩,named,targeted⟩

-- The pending REGISTERs that are still good.
def livePending (w : World Packet) (branch : String) : Option (Stamped PendingRegister) :=
  (w.pendingRegisters.lookup branch).filter (Stamped.fresh pendingRegisterTtl w.now)

-- What one step of a task that is handling a response can do to the registrations.
structure Effect (codec : Codec Packet Message) (message : Message) (past : List (Act Packet)) (w after : World Packet) : Prop where
  contacts : after.state = w.state ∨ ∃ command target, Granted codec message past command.aor target ∧
    after.state = w.state.apply command
  affinity : after.affinity = w.affinity ∨ ∃ aor target ttl, Granted codec message past aor target ∧
    after.affinity = (w.affinity.rememberKey w.now (registrationUpstreamAffinityKey aor) target ttl).2
  pending : ∀ branch, livePending after branch = livePending w branch ∨
    (isFinal codec message = true ∧ ∃ route, Found past branch route)

theorem take_livePending (settings : Settings) (choice : Choice Packet) (w : World Packet) (other : branch ≠ taken) :
    livePending (perform settings (.takePendingRegister taken) choice w).2 branch = livePending w branch := by
  simp only [livePending,perform,prunePendingRegisters,Expiring.prune,Table.lookup_erase_eq,if_neg other,Table.lookup_retain]
  exact Expiring.filter_fresh (Nat.le_refl _) _

theorem perform_effect {past : List (Act Packet)} (admitted : ResponseAdmits codec message past ⟨op,(perform settings op choice w).1⟩) :
    Effect codec message past w (perform settings op choice w).2 := by
  have untouched {after : World Packet} (state : after.state = w.state) (affinity : after.affinity = w.affinity)
      (pending : after.pendingRegisters = w.pendingRegisters) (now : after.now = w.now) : Effect codec message past w after :=
    ⟨.inl state,.inl affinity,fun branch => .inl (by simp only [livePending,pending,now])⟩
  cases op with
  | submit command =>
      obtain ⟨target,granted⟩ := admitted
      simp only [perform]
      split
      · exact ⟨.inr ⟨command,target,granted,rfl⟩,.inl rfl,fun _ => .inl rfl⟩
      · exact untouched rfl rfl rfl rfl
  | rememberAffinityKey key target ttl =>
      obtain ⟨aor,rfl,granted⟩ := admitted
      exact ⟨.inl rfl,.inr ⟨aor,target,ttl,granted,rfl⟩,fun _ => .inl rfl⟩
  | takePendingRegister taken =>
      obtain ⟨⟨route,found⟩,code,isCode,final⟩ := admitted
      refine ⟨.inl rfl,.inl rfl,fun branch => ?_⟩
      by_cases same : branch = taken
      · subst same
        exact .inr ⟨by simp [isFinal,isCode,final],route,found⟩
      · exact .inl (take_livePending settings choice w same)
  | rememberUdpClientTransactionFinalResponse key response =>
      simp only [perform]
      split <;> exact untouched rfl rfl rfl rfl
  | checkPacket listener peer packet => exact untouched rfl rfl rfl rfl
  | readClock => exact untouched rfl rfl rfl rfl
  | lookupUdpBranch branch => exact untouched rfl rfl rfl rfl
  | sendToClient packet peer => exact untouched rfl rfl rfl rfl
  | removeUdpBranch branch => exact untouched rfl rfl rfl rfl
  | _ => exact admitted.elim

theorem register_response_vouched (ran : runServer codec settings actions = some pool)
    (hasInput : pool.inputs[task]? = some (.udp packet peer listener))
    (kinded : kind codec (.udp packet peer listener) = .response message peer)
    (stepped : (server codec settings).advance pool (.step task choice) = some next) :
    (next.world.state ≠ pool.world.state → ∃ pending command, Authorised codec pool task message pending ∧
      command.aor ∈ pending.bindings.map PendingRegisterBinding.aor ∧ next.world.state = pool.world.state.apply command) ∧
    (next.world.affinity ≠ pool.world.affinity → ∃ pending aor ttl, Authorised codec pool task message pending ∧
      aor ∈ pending.bindings.map PendingRegisterBinding.aor ∧ next.world.affinity =
        (pool.world.affinity.rememberKey pool.world.now (registrationUpstreamAffinityKey aor) pending.target.affinity ttl).2) ∧
    ∀ branch, livePending next.world branch ≠ livePending pool.world branch →
      isFinal codec message = true ∧ Vouched codec pool task message branch := by
  have sound := run_sound ran
  obtain ⟨op,rest,stands,rfl⟩ := System.advance_step stepped
  have along := sound.tracked.path task _ _ hasInput stands
  rw [kinded] at along
  have effect := perform_effect (along ((server codec settings).perform op choice pool.world).1).1
  refine ⟨?_,?_,?_⟩
  · intro changed
    obtain ⟨command,target,granted,applied⟩ := effect.contacts.resolve_left changed
    obtain ⟨pending,authorised,named,_⟩ := granted_authorised sound hasInput kinded granted
    exact ⟨pending,command,authorised,named,applied⟩
  · intro changed
    obtain ⟨aor,target,ttl,granted,remembered⟩ := effect.affinity.resolve_left changed
    obtain ⟨pending,authorised,named,rfl⟩ := granted_authorised sound hasInput kinded granted
    exact ⟨pending,aor,ttl,authorised,named,remembered⟩
  · intro branch changed
    obtain ⟨final,route,found⟩ := (effect.pending branch).resolve_left changed
    exact ⟨final,found_vouched sound hasInput kinded ((found branch (some route)).mpr ⟨rfl,rfl⟩)⟩

end Step

section Runs

def registerRequest : Envelope := {request .register with contacts:=[⟨"200","10.0.0.1:5060"⟩]}

-- The handler of the response is about to submit the first of the two bindings.
def registering (peer : SocketAddr) : Schedule :=
  datagram registerRequest clientAddr :: steps 0 10 ++ datagram (answer .register 200 "OK") peer :: steps 1 4

def submitting : System.Action (Input Envelope) (Choice Envelope) Change := .step 1 ⟨.allow,none,upstreamAddr,true,"10.0.0.9:5060",.ok []⟩

def boundAor : String := "sip:200@10.0.0.9:5060"
def boundContact : ContactBinding := ⟨boundAor,"sip:200@10.0.0.1:5060","167772161:5060",3600000⟩

theorem peek_changed {state after : SharedState} (absent : state.peek aor = none) (present : after.peek aor = some binding) :
    after ≠ state := by
  intro same
  rcases same with rfl
  cases absent.symm.trans present

theorem register_response_vouched_upstream : ∃ pool next, runServer envelopeCodec plainSettings (registering upstreamAddr) = some pool ∧
    (server envelopeCodec plainSettings).advance pool submitting = some next ∧ next.world.state ≠ pool.world.state ∧
    ∃ pending command, Authorised envelopeCodec pool 1 (answer .register 200 "OK") pending ∧
      command.aor ∈ pending.bindings.map PendingRegisterBinding.aor ∧ next.world.state = pool.world.state.apply command := by
  have reached : ∃ pool next, runServer envelopeCodec plainSettings (registering upstreamAddr) = some pool ∧
      (server envelopeCodec plainSettings).advance pool submitting = some next ∧
      pool.inputs[1]? = some (.udp (answer .register 200 "OK") upstreamAddr udpListener) ∧
      pool.world.state.peek boundAor = none ∧ next.world.state.peek boundAor = some boundContact :=
    ⟨_,_,rfl,rfl,rfl,rfl,rfl⟩
  obtain ⟨pool,next,ran,stepped,hasInput,absent,present⟩ := reached
  have changed := peek_changed absent present
  exact ⟨pool,next,ran,stepped,changed,(register_response_vouched ran hasInput rfl stepped).1 changed⟩

-- Branches are numbered, so a stranger can name the one a REGISTER went out under.
def stranger : SocketAddr := host 66

theorem strange_response_registers : ∃ pool next route, runServer envelopeCodec plainSettings (registering stranger) = some pool ∧
    (server envelopeCodec plainSettings).advance pool submitting = some next ∧
    pool.inputs[1]? = some (.udp (answer .register 200 "OK") stranger udpListener) ∧
    ⟨.lookupUdpBranch (proxyBranch 1),some route⟩ ∈ System.own 1 pool.history ∧
    plainSettings.isUpstreamSource stranger = false ∧ stranger ≠ route.upstream ∧ next.world.state ≠ pool.world.state := by
  let route : UdpBranchRoute := ⟨clientAddr,upstreamAddr,.register,true,some "167772161:5060:z9hG4bK-client:call:1:REGISTER",[]⟩
  have reached : ∃ pool next, runServer envelopeCodec plainSettings (registering stranger) = some pool ∧
      (server envelopeCodec plainSettings).advance pool submitting = some next ∧
      pool.inputs[1]? = some (.udp (answer .register 200 "OK") stranger udpListener) ∧
      (System.own 1 pool.history).head? = some ⟨.lookupUdpBranch (proxyBranch 1),some route⟩ ∧
      pool.world.state.peek boundAor = none ∧ next.world.state.peek boundAor = some boundContact :=
    ⟨_,_,rfl,rfl,rfl,rfl,rfl,rfl⟩
  obtain ⟨pool,next,ran,stepped,hasInput,asked,absent,present⟩ := reached
  exact ⟨pool,next,route,ran,stepped,hasInput,List.mem_of_head? asked,by decide,by decide,peek_changed absent present⟩

end Runs
end Sigproxy.Proxy
