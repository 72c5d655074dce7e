import Sigproxy.Proxy.CancelRouting

namespace Sigproxy.Proxy
open Library Net Cluster Affinity

variable {Packet Message : Type} {codec : Codec Packet Message} {settings : Settings} {pool : ServerPool Packet}

section Fleet

-- One life of a process of either node. What it learns of earlier lives comes
-- to it as a change of its world: the state it loads or installs.
structure Incarnation (Packet : Type) where
  settings : Settings
  pool : ServerPool Packet

inductive FleetAction (Packet : Type) where
  | launch (settings : Settings)
  | act (incarnation : Nat) (action : System.Action (Input Packet) (Choice Packet) Change)

def advanceFleet (codec : Codec Packet Message) (fleet : List (Incarnation Packet)) :
    FleetAction Packet → Option (List (Incarnation Packet))
  | .launch settings => some (fleet ++ [⟨settings,System.start (World.new Packet settings.affinity)⟩])
  | .act index action =>
    match fleet[index]? with
    | none => none
    | some incarnation => ((server codec incarnation.settings).advance incarnation.pool action).map fun pool =>
      fleet.set index {incarnation with pool:=pool}

theorem advanceFleet_act {fleet next : List (Incarnation Packet)} (stepped : advanceFleet codec fleet (.act index action) = some next) :
    ∃ incarnation pool, fleet[index]? = some incarnation ∧
      (server codec incarnation.settings).advance incarnation.pool action = some pool ∧
      next = fleet.set index {incarnation with pool:=pool} := by
  unfold advanceFleet at stepped
  dsimp only at stepped
  split at stepped
  · cases stepped
  · rename_i incarnation found
    obtain ⟨pool,advanced,rfl⟩ := Option.map_eq_some_iff.mp stepped
    exact ⟨incarnation,pool,found,advanced,rfl⟩

-- Each process runs the server from its own start.
def Lived (codec : Codec Packet Message) (fleet : List (Incarnation Packet)) : Prop :=
  ∀ incarnation ∈ fleet, ∃ actions, runServer codec incarnation.settings actions = some incarnation.pool

theorem step_lived {fleet next : List (Incarnation Packet)} (lived : Lived codec fleet)
    (stepped : advanceFleet codec fleet action = some next) : Lived codec next := by
  cases action with
  | launch settings =>
      cases stepped
      intro incarnation member
      rcases List.mem_append.mp member with earlier | last
      · exact lived incarnation earlier
      · cases List.mem_singleton.mp last
        exact ⟨[],rfl⟩
  | act index action =>
      obtain ⟨incarnation,pool,found,advanced,rfl⟩ := advanceFleet_act stepped
      intro other member
      rcases List.mem_or_eq_of_mem_set member with earlier | rfl
      · exact lived other earlier
      · obtain ⟨actions,ran⟩ := lived incarnation (List.mem_of_getElem? found)
        exact ⟨actions ++ [action],Machine.run_snoc ran advanced⟩

end Fleet

section Branches

inductive Carries (history : List (Record Packet)) (record : Record Packet) (branch : String) : Prop where
  | udp : GoesTo history record upstream branch → Carries history record branch
  | tcp : record.event.op = .sendRequest upstream branch packet method → Carries history record branch

-- The task forwards a request that is neither a CANCEL nor an ACK.
def Independent (codec : Codec Packet Message) (pool : ServerPool Packet) (task : Nat) : Prop :=
  ∃ input, ∃ request : Request Message, pool.inputs[task]? = some input ∧ input.request codec = some request ∧
    request.method ≠ .cancel ∧ request.method ≠ .ack

theorem Carries.forwards {history : List (Record Packet)} {record : Record Packet} (carries : Carries history record branch) :
    record.event.op.forwards = true := by
  cases carries with
  | udp goes =>
      obtain ⟨packet,op⟩ := goes.sent
      rw [op]
      rfl
  | tcp op => rw [op]; rfl

theorem carries_minted (coursed : Coursed codec settings pool) (sound : Sound codec settings pool) {sent : Record Packet}
    (member : sent ∈ pool.history) (independent : Independent codec pool sent.task) (carries : Carries pool.history sent branch) :
    ∃ minting ∈ pool.history, ∃ id : Nat, minting.task = sent.task ∧ minting.event = ⟨.uniqueId,id⟩ ∧ branch = proxyBranch id := by
  obtain ⟨input,request,hasInput,requested,independent⟩ := independent
  cases carries with
  | udp goes => exact goes_minted coursed sound member hasInput requested independent goes
  | tcp op =>
      obtain ⟨before,after,split⟩ := List.append_of_mem member
      have follows := follows_at coursed split hasInput requested
      obtain ⟨task,time,⟨sending,reply⟩⟩ := sent
      cases op
      obtain ⟨prepared,⟨_,found,directed⟩,_,_,rfl,_⟩ := follows
      have unborrowed := directed.asked.independent independent
      obtain ⟨minting,earlier,id,ofTask,event,named⟩ := minter (directed.minted unborrowed)
      exact ⟨minting,by simp [split,earlier],id,ofTask,event,named⟩

theorem carries_sole (coursed : Coursed codec settings pool) (sound : Sound codec settings pool) {one two : Record Packet}
    (first : one ∈ pool.history) (second : two ∈ pool.history) (independent : Independent codec pool one.task)
    (otherIndependent : Independent codec pool two.task) (carries : Carries pool.history one branch)
    (otherCarries : Carries pool.history two branch) : one = two := by
  obtain ⟨minting,minted,id,ofFirst,event,named⟩ := carries_minted coursed sound first independent carries
  obtain ⟨minting',minted',id',ofSecond,event',named'⟩ := carries_minted coursed sound second otherIndependent otherCarries
  cases proxyBranch_injective (named.symm.trans named')
  cases mint_once sound minted minted' event event'
  exact forward_once coursed first second (ofFirst.symm.trans ofSecond) carries.forwards otherCarries.forwards

-- A response that a client is handed carries a branch that was assigned to a
-- request of this client.
def DeliversOwn (codec : Codec Packet Message) (pool : ServerPool Packet) : Prop :=
  ∀ delivered ∈ pool.history, ∀ packet peer input message sender, delivered.event.op = .sendToClient packet peer →
    pool.inputs[delivered.task]? = some input → kind codec input = .response message sender →
    ∃ branch, codec.topViaBranch message = .ok (some branch) ∧ ∃ routed ∈ pool.history, ∃ route asking, ∃ request : Request Message,
      routed.event.op = .insertUdpBranch branch route ∧ pool.inputs[routed.task]? = some asking ∧
      asking.request codec = some request ∧ request.peer = peer

theorem delivers_own (coursed : Coursed codec settings pool) (sound : Sound codec settings pool) : DeliversOwn codec pool := by
  intro delivered member packet peer input message sender op hasInput kinded
  obtain ⟨before,after,split⟩ := List.append_of_mem member
  obtain ⟨_,sameInput,admitted⟩ := sound.tracked.admitted before delivered after split
  cases hasInput.symm.trans sameInput
  rw [kinded] at admitted
  obtain ⟨task,time,⟨sending,reply⟩⟩ := delivered
  cases op
  obtain ⟨branch,route,found,rfl,_⟩ := admitted
  obtain ⟨asked,inBefore,ofTask,event⟩ := System.mem_own.mp ((found branch (some route)).mpr ⟨rfl,rfl⟩)
  obtain ⟨first,rest,rfl⟩ := List.append_of_mem inBefore
  have splitAsked : pool.history = first ++ asked :: (rest ++ ⟨task,time,⟨.sendToClient packet route.clientPeer,reply⟩⟩ :: after) := by
    simp [split]
  obtain ⟨_,askedInput,asking⟩ := sound.tracked.admitted first asked _ splitAsked
  rw [ofTask] at askedInput
  cases hasInput.symm.trans askedInput
  rw [kinded,event] at asking
  obtain ⟨routed,inFirst,inserts,_⟩ := lookup_inserted sound splitAsked event
  have routedIn : routed ∈ pool.history := by simp [splitAsked,inFirst]
  refine ⟨branch,asking.2.1,routed,routedIn,route,?_⟩
  obtain ⟨early,late,splitRouted⟩ := List.append_of_mem routedIn
  obtain ⟨requesting,requestInput,course⟩ := coursed.admitted early routed late splitRouted
  obtain ⟨task',time',⟨inserting,inserted⟩⟩ := routed
  cases inserts
  obtain ⟨request,requested,_,prepared,key,_,_,rfl⟩ := course_request course fun idle => idle
  exact ⟨requesting,request,rfl,requestInput,requested,rfl⟩

end Branches

section Lifetimes

def Op.mints : Op Packet → Bool
  | .uniqueId => true
  | _ => false

def HasMinted (pool : ServerPool Packet) : Prop := ∃ record ∈ pool.history, record.event.op.mints = true

-- A process that draws an id for a branch is the only one that ever drew one.
def MintsAlone (fleet : List (Incarnation Packet)) : FleetAction Packet → Prop
  | .act index (.step task _) => ∀ incarnation ∈ fleet[index]?, (System.nextOp incarnation.pool task).any Op.mints = true →
    ∀ other < fleet.length, other ≠ index → ∀ elsewhere ∈ fleet[other]?, ¬HasMinted elsewhere.pool
  | _ => True

instance (pool : ServerPool Packet) : Decidable (HasMinted pool) := inferInstanceAs (Decidable (∃ record ∈ _, _))

instance (fleet : List (Incarnation Packet)) : ∀ action, Decidable (MintsAlone fleet action)
  | .launch _ => inferInstanceAs (Decidable True)
  | .act _ (.spawn _) => inferInstanceAs (Decidable True)
  | .act _ (.change _) => inferInstanceAs (Decidable True)
  | .act _ (.step ..) => inferInstanceAs (Decidable (∀ incarnation ∈ _, _))

-- No two requests but CANCELs and ACKs go out under one branch, whichever process
-- of whichever node forwards them.
def Unshared (codec : Codec Packet Message) (fleet : List (Incarnation Packet)) : Prop :=
  ∀ (i j : Nat) (first second : Incarnation Packet), fleet[i]? = some first → fleet[j]? = some second →
    ∀ one ∈ first.pool.history, ∀ two ∈ second.pool.history, Independent codec first.pool one.task →
    Independent codec second.pool two.task → ∀ branch, Carries first.pool.history one branch →
    Carries second.pool.history two branch → i = j ∧ one = two

def Sole (fleet : List (Incarnation Packet)) : Prop :=
  ∀ (i j : Nat) (first second : Incarnation Packet), fleet[i]? = some first → fleet[j]? = some second →
    HasMinted first.pool → HasMinted second.pool → i = j

variable {fleet next : List (Incarnation Packet)}

theorem launch_sole (sole : Sole fleet) (settings : Settings) :
    Sole (fleet ++ [⟨settings,System.start (World.new Packet settings.affinity)⟩]) := by
  have earlier {i : Nat} {incarnation : Incarnation Packet} (minted : HasMinted incarnation.pool)
      (found : (fleet ++ [⟨settings,System.start (World.new Packet settings.affinity)⟩])[i]? = some incarnation) :
      fleet[i]? = some incarnation := by
    rcases Nat.lt_trichotomy i fleet.length with inside | rfl | beyond
    · exact (List.getElem?_append_left inside).symm.trans found
    · rw [List.getElem?_concat_length] at found
      cases found
      obtain ⟨record,member,_⟩ := minted
      cases member
    · rw [List.getElem?_eq_none (by simp; omega)] at found
      cases found
  intro i j first second foundFirst foundSecond firstMinted secondMinted
  exact sole i j first second (earlier firstMinted foundFirst) (earlier secondMinted foundSecond) firstMinted secondMinted

-- A step mints only where its call does.
theorem advance_minted {next : ServerPool Packet} (advanced : (server codec settings).advance pool action = some next)
    (minted : HasMinted next) : HasMinted pool ∨ ∃ task choice, action = .step task choice ∧
      (System.nextOp pool task).any Op.mints = true := by
  cases action with
  | spawn input => cases advanced; exact .inl minted
  | change change => cases advanced; exact .inl minted
  | step task choice =>
      obtain ⟨op,rest,found,rfl⟩ := System.advance_step advanced
      obtain ⟨record,member,mints⟩ := minted
      rcases List.mem_append.mp member with earlier | last
      · exact .inl ⟨record,earlier,mints⟩
      · cases List.mem_singleton.mp last
        exact .inr ⟨task,choice,rfl,by simpa [System.nextOp,found] using mints⟩

theorem step_sole (sole : Sole fleet) (guarded : MintsAlone fleet action) (stepped : advanceFleet codec fleet action = some next) :
    Sole next := by
  cases action with
  | launch settings => cases stepped; exact launch_sole sole settings
  | act index action =>
      obtain ⟨incarnation,pool,found,advanced,rfl⟩ := advanceFleet_act stepped
      have inside := (List.getElem?_eq_some_iff.mp found).1
      -- Where this process has minted, no other one had.
      have alone {other : Nat} {elsewhere : Incarnation Packet} (different : other ≠ index) (there : fleet[other]? = some elsewhere)
          (minted : HasMinted pool) (otherMinted : HasMinted elsewhere.pool) : False := by
        rcases advance_minted advanced minted with before | ⟨task,choice,rfl,mints⟩
        · exact different (sole other index elsewhere incarnation there found otherMinted before)
        · exact guarded incarnation found mints other (List.getElem?_eq_some_iff.mp there).1 different elsewhere there otherMinted
      intro i j first second foundFirst foundSecond firstMinted secondMinted
      by_cases isFirst : index = i
      · subst isFirst
        rw [List.getElem?_set_self inside] at foundFirst
        cases foundFirst
        by_cases isSecond : index = j
        · exact isSecond
        · rw [List.getElem?_set_ne isSecond] at foundSecond
          exact (alone (Ne.symm isSecond) foundSecond firstMinted secondMinted).elim
      · rw [List.getElem?_set_ne isFirst] at foundFirst
        by_cases isSecond : index = j
        · subst isSecond
          rw [List.getElem?_set_self inside] at foundSecond
          cases foundSecond
          exact (alone (Ne.symm isFirst) foundFirst secondMinted firstMinted).elim
        · rw [List.getElem?_set_ne isSecond] at foundSecond
          exact sole i j first second foundFirst foundSecond firstMinted secondMinted

theorem branches_unshared {actions : List (FleetAction Packet)} (within : Machine.Within (advanceFleet codec) MintsAlone [] actions)
    (ran : Machine.run (advanceFleet codec) [] actions = some fleet) :
    Unshared codec fleet ∧ ∀ incarnation ∈ fleet, DeliversOwn codec incarnation.pool := by
  have reached : Lived codec fleet ∧ Sole fleet := by
    refine Machine.run_preserves_within (fun fleet => Lived codec fleet ∧ Sole fleet) ?_ within ⟨by simp [Lived],by simp [Sole]⟩ ran
    intro fleet action next guarded held stepped
    exact ⟨step_lived held.1 stepped,step_sole held.2 guarded stepped⟩
  obtain ⟨lived,sole⟩ := reached
  have minting {i : Nat} {incarnation : Incarnation Packet} {branch : String} (found : fleet[i]? = some incarnation) {sent : Record Packet}
      (member : sent ∈ incarnation.pool.history) (independent : Independent codec incarnation.pool sent.task)
      (carries : Carries incarnation.pool.history sent branch) : HasMinted incarnation.pool := by
    obtain ⟨actions,lifetime⟩ := lived incarnation (List.mem_of_getElem? found)
    obtain ⟨minting,minted,id,_,event,_⟩ := carries_minted (run_coursed lifetime) (run_sound lifetime) member independent carries
    exact ⟨minting,minted,by rw [event]; rfl⟩
  refine ⟨fun i j first second foundFirst foundSecond one inFirst two inSecond independent otherIndependent branch carries
    otherCarries => ?_,fun incarnation member => ?_⟩
  · have same := sole i j first second foundFirst foundSecond (minting foundFirst inFirst independent carries)
      (minting foundSecond inSecond otherIndependent otherCarries)
    subst same
    cases foundFirst.symm.trans foundSecond
    obtain ⟨actions,lifetime⟩ := lived first (List.mem_of_getElem? foundFirst)
    exact ⟨rfl,carries_sole (run_coursed lifetime) (run_sound lifetime) inFirst inSecond independent otherIndependent carries otherCarries⟩
  · obtain ⟨actions,lifetime⟩ := lived incarnation member
    exact delivers_own (run_coursed lifetime) (run_sound lifetime)

def within (incarnation : Nat) (schedule : Schedule) : List (FleetAction Envelope) := schedule.map (.act incarnation)

def otherClient : SocketAddr := host 7

def otherCall : Envelope := {request .invite with vias:=[⟨"z9hG4bK-other",none⟩],callId:="other"}

-- The answer to the first client's INVITE reaches the process that followed.
def restarted : List (FleetAction Envelope) :=
  .launch plainSettings :: within 0 (datagram (request .invite) clientAddr :: steps 0 12) ++
    .launch plainSettings :: within 1 (datagram otherCall otherClient :: steps 0 12 ++
      datagram (answer .invite 200 "OK") upstreamAddr :: steps 1 4)

def standingBy : List (FleetAction Envelope) :=
  .launch plainSettings :: .launch plainSettings :: within 0 (datagram (request .invite) clientAddr :: steps 0 12)

theorem restarted_process_shares_branch : ∃ fleet, Machine.run (advanceFleet envelopeCodec) [] restarted = some fleet ∧
    ¬Unshared envelopeCodec fleet ∧ ∃ later delivered packet, fleet[1]? = some later ∧ delivered ∈ later.pool.history ∧
      later.pool.inputs[delivered.task]? = some (.udp (answer .invite 200 "OK") upstreamAddr udpListener) ∧
      delivered.event.op = .sendToClient packet otherClient := by
  have reached : ∃ fleet first second one two routed packet other late, Machine.run (advanceFleet envelopeCodec) [] restarted = some fleet ∧
      (fleet[0]? = some first ∧ fleet[1]? = some second) ∧
      (first.pool.history[7]? = some routedInvite ∧ first.pool.history[9]? = some sentInvite ∧
        first.pool.inputs[0]? = some (.udp (request .invite) clientAddr udpListener)) ∧
      (second.pool.history[7]? = some routed ∧ routed.task = 0 ∧ routed.event.op = .insertUdpBranch (proxyBranch 1) one ∧
        second.pool.history[9]? = some two ∧ two.task = 0 ∧ two.event.op = .sendToUpstream packet upstreamAddr ∧
        second.pool.inputs[0]? = some (.udp otherCall otherClient udpListener)) ∧
      second.pool.history[15]? = some late ∧ late.task = 1 ∧ late.event.op = .sendToClient other otherClient ∧
      second.pool.inputs[1]? = some (.udp (answer .invite 200 "OK") upstreamAddr udpListener) :=
    ⟨_,_,_,_,_,_,_,_,_,rfl,⟨rfl,rfl⟩,⟨rfl,rfl,rfl⟩,⟨rfl,rfl,rfl,rfl,rfl,rfl,rfl⟩,rfl,rfl,rfl,rfl⟩
  obtain ⟨fleet,first,second,one,two,routed,packet,other,late,ran,⟨foundFirst,foundSecond⟩,⟨routedFirst,sentFirst,inputFirst⟩,
    ⟨routing,ofRouted,routes,sending,ofSent,sends,inputSecond⟩,delivering,ofLate,delivers,inputLate⟩ := reached
  refine ⟨fleet,ran,fun unshared => ?_,second,late,other,foundSecond,List.mem_of_getElem? delivering,by rw [ofLate]; exact inputLate,delivers⟩
  have goes : GoesTo first.pool.history sentInvite upstreamAddr (proxyBranch 1) :=
    ⟨⟨_,rfl⟩,routedInvite,List.mem_of_getElem? routedFirst,rfl,_,rfl⟩
  have goesAgain : GoesTo second.pool.history two upstreamAddr (proxyBranch 1) :=
    ⟨⟨packet,sends⟩,routed,List.mem_of_getElem? routing,ofRouted.trans ofSent.symm,one,routes⟩
  have same := unshared 0 1 first second foundFirst foundSecond sentInvite (List.mem_of_getElem? sentFirst) two
    (List.mem_of_getElem? sending) ⟨_,_,inputFirst,rfl,by decide,by decide⟩
    ⟨_,_,by rw [ofSent]; exact inputSecond,rfl,by decide,by decide⟩ (proxyBranch 1) (.udp goes) (.udp goesAgain)
  cases same.1

-- Where one process alone acts, no other one draws an id.
theorem acting_alone {fleet : List (Incarnation Packet)} {index : Nat}
    (idle : ∀ other elsewhere, other ≠ index → fleet[other]? = some elsewhere → ¬HasMinted elsewhere.pool)
    (actions : List (System.Action (Input Packet) (Choice Packet) Change)) :
    Machine.Within (advanceFleet codec) MintsAlone fleet (actions.map (.act index)) := by
  induction actions generalizing fleet with
  | nil => trivial
  | cons action rest ih =>
      refine ⟨?_,fun next stepped => ih fun other elsewhere different found => ?_⟩
      · cases action with
        | step task choice => exact fun _ _ _ other _ different elsewhere found => idle other elsewhere different found
        | spawn input => trivial
        | change change => trivial
      · obtain ⟨incarnation,pool,_,_,rfl⟩ := advanceFleet_act stepped
        rw [List.getElem?_set_ne (Ne.symm different)] at found
        exact idle other elsewhere different found

theorem sole_process_unshared : ∃ fleet, Machine.run (advanceFleet envelopeCodec) [] standingBy = some fleet ∧ fleet.length = 2 ∧
    Unshared envelopeCodec fleet ∧ ∀ incarnation ∈ fleet, DeliversOwn envelopeCodec incarnation.pool := by
  have reached : ∃ fleet, Machine.run (advanceFleet envelopeCodec) [] standingBy = some fleet ∧ fleet.length = 2 := ⟨_,rfl,rfl⟩
  obtain ⟨fleet,ran,size⟩ := reached
  have idle : ∀ (other : Nat) (elsewhere : Incarnation Envelope), other ≠ 0 →
      [Incarnation.mk plainSettings (System.start (World.new Envelope plainSettings.affinity)),
        ⟨plainSettings,System.start (World.new Envelope plainSettings.affinity)⟩][other]? = some elsewhere → ¬HasMinted elsewhere.pool := by
    intro other elsewhere _ found given
    rcases given with ⟨record,member,_⟩
    have among := List.mem_of_getElem? found
    simp only [List.mem_cons,List.not_mem_nil,or_false,or_self] at among
    cases among
    cases member
  have alone : Machine.Within (advanceFleet envelopeCodec) MintsAlone [] standingBy := by
    refine ⟨trivial,?_⟩
    intro _ both
    rcases both with ⟨⟩
    refine ⟨trivial,?_⟩
    intro _ both
    rcases both with ⟨⟩
    exact acting_alone idle _
  exact ⟨fleet,ran,size,branches_unshared alone ran⟩

end Lifetimes
end Sigproxy.Proxy
