import Sigproxy.Proxy.Retransmission

namespace Sigproxy.Proxy
open Library Net Cluster Affinity

variable {Packet Message : Type} {codec : Codec Packet Message} {settings : Settings} {pool next : ServerPool Packet}

section Keys

def sessionKey (callId : String) : AffinityKey := ⟨"call-id:" ++ callId⟩

-- The keys of the requests with this Call-ID: its own, and those of its dialogs.
def inSession (callId : String) (key : AffinityKey) : Bool :=
  key == sessionKey callId || startsWith key.value ("dialog-id:" ++ callId ++ ":")

def OfCall (codec : Codec Packet Message) (callId : String) (request : Request Message) : Prop :=
  codec.isResponse request.message = false ∧ (codec.callIdHeader request.message).toOption.map trim = some callId

theorem sessionKey_inside (callId : String) : inSession callId (sessionKey callId) = true := by
  simp [inSession]

theorem head_append {stem : String} (rest : String) (first : stem.toList.head? = some char) :
    (stem ++ rest).toList.head? = some char := by
  rw [String.toList_append,List.head?_append,first]
  rfl

theorem head_startsWith {text start : String} (starts : startsWith text start = true) (first : start.toList.head? = some char) :
    text.toList.head? = some char := by
  obtain ⟨rest,same⟩ := List.isPrefixOf_iff_prefix.mp starts
  rw [← same,List.head?_append,first]
  rfl

theorem registration_outside (callId route : String) : inSession callId (registrationUpstreamAffinityKey route) = false := by
  have first : (registrationUpstreamAffinityKey route).value.toList.head? = some 'r' := head_append route (by decide)
  rw [inSession,Bool.or_eq_false_iff,beq_eq_false_iff_ne]
  refine ⟨fun same => ?_,Bool.eq_false_iff.mpr fun starts => ?_⟩
  · rw [same] at first
    cases first.symm.trans (head_append callId (by decide : "call-id:".toList.head? = some 'c'))
  · have stem : ("dialog-id:" ++ callId ++ ":").toList.head? = some 'd' := head_append ":" (head_append callId (by decide))
    cases first.symm.trans (head_startsWith starts stem)

theorem dialogKey_inside {message : Message} (named : codec.callIdHeader message = .ok header)
    (keyed : dialogKey codec message = .ok (some key)) : inSession (trim header) key = true := by
  unfold dialogKey at keyed
  rw [named] at keyed
  cases fromTag : codec.fromTag message with
  | none => simp only [fromTag] at keyed; cases keyed
  | some first =>
      cases toTag : codec.toTag message with
      | none => simp only [fromTag,toTag] at keyed; cases keyed
      | some second =>
          simp only [fromTag,toTag] at keyed
          cases keyed
          rw [inSession,Bool.or_eq_true]
          right
          simp [startsWith]

theorem affinityKeys_inside {request : Request Message} (ofCall : OfCall codec callId request) (byCall : strategy ≠ .requestUri)
    (keyed : affinityKeys codec strategy request.message = .ok keys) :
    sessionKey callId ∈ keys ∧ ∀ key ∈ keys, inSession callId key = true := by
  obtain ⟨isRequest,named⟩ := ofCall
  cases header : codec.callIdHeader request.message with
  | error error => simp [header,Except.toOption] at named
  | ok text =>
      have trimmed : trim text = callId := by simpa [header,Except.toOption] using named
      have call : callIdKey codec request.message = .ok (sessionKey callId) := by
        rw [callIdKey,header,← trimmed]
        rfl
      unfold affinityKeys at keyed
      rw [isRequest] at keyed
      cases strategy with
      | requestUri => exact (byCall rfl).elim
      | callId =>
          simp only [call] at keyed
          cases keyed
          simp [sessionKey_inside]
      | dialogId =>
          cases dialog : dialogKey codec request.message with
          | error error => simp only [dialog] at keyed; cases keyed
          | ok found =>
              simp only [dialog,call] at keyed
              cases keyed
              refine ⟨by simp,fun key member => ?_⟩
              rcases List.mem_append.mp member with inDialog | last
              · rw [Option.mem_toList] at inDialog
                cases Option.mem_def.mp inDialog
                exact trimmed ▸ dialogKey_inside header dialog
              · cases List.mem_singleton.mp last
                exact sessionKey_inside callId

end Keys

section Choice
variable {callId : String} {upstream : SocketAddr} {past : List (Act Packet)} {request : Request Message}

-- What the surroundings and the table answer while the session stays with its upstream.
def Answers (callId : String) (upstream : SocketAddr) : Act Packet → Prop
  | ⟨.lookupAffinityKey key,found⟩ => inSession callId key = true →
    (∀ target, found = some target → target.addr = upstream) ∧ (key = sessionKey callId → found ≠ none)
  | ⟨.isHealthy addr,healthy⟩ => addr = upstream → healthy = true
  | _ => True

theorem sought_upstream (answers : ∀ act ∈ past, Answers callId upstream act) (sought : Sought past keys found)
    (inside : ∀ key ∈ keys, inSession callId key = true) (held : sessionKey callId ∈ keys) :
    ∃ target, found = some target ∧ target.addr = upstream := by
  induction sought with
  | nil => cases held
  | hit found => exact ⟨_,rfl,(answers _ found (inside _ (by simp))).1 _ rfl⟩
  | miss missed _ ih =>
      apply ih (fun other member => inside other (List.mem_cons_of_mem _ member))
      rcases List.mem_cons.mp held with same | later
      · exact ((answers _ missed (inside _ (by simp))).2 same.symm rfl).elim
      · exact later

-- A client's request that neither an INVITE transaction nor a registration directs
-- goes where the affinity of its session points.
theorem chosen_upstream (answers : ∀ act ∈ past, Answers callId upstream act) (ofCall : OfCall codec callId request)
    (enabled : settings.affinity.enabled = true) (byCall : settings.affinityKey ≠ .requestUri)
    (fromClient : settings.isUpstreamSource request.peer = false) (isUpstream : settings.upstreamsContain upstream = true)
    (unregistered : codec.method request.message = some "INVITE" → codec.isInitialInviteRequest request.message = true →
      ∀ route target, ⟨.lookupAffinityKey (registrationUpstreamAffinityKey route),some target⟩ ∈ past → target.addr = upstream)
    (chosen : Chosen codec settings request requestUri past target) : target.addr = upstream := by
  cases chosen with
  | direct direct =>
      rw [fromClient,directTarget] at direct
      cases direct
  | located fromUpstream => cases fromClient.symm.trans fromUpstream
  | registered isInvite initial found => exact unregistered isInvite initial _ _ found
  | affine keyed sought =>
      obtain ⟨held,inside⟩ := affinityKeys_inside ofCall byCall keyed
      obtain ⟨_,same,there⟩ := sought_upstream answers sought inside held
      cases same
      exact there
  | selected _ astray =>
      cases astray with
      | disabled off => cases enabled.symm.trans off
      | missed keyed sought =>
          obtain ⟨held,inside⟩ := affinityKeys_inside ofCall byCall keyed
          obtain ⟨_,same,_⟩ := sought_upstream answers sought inside held
          cases same
      | unhealthy keyed sought sick =>
          obtain ⟨held,inside⟩ := affinityKeys_inside ofCall byCall keyed
          obtain ⟨_,same,there⟩ := sought_upstream answers sought inside held
          cases same
          rw [there] at sick
          rcases sick with absent | sick
          · cases isUpstream.symm.trans absent
          · cases answers _ sick rfl
      | unlocated fromUpstream => cases fromClient.symm.trans fromUpstream

theorem aimed_upstream (answers : ∀ act ∈ past, Answers callId upstream act) (ofCall : OfCall codec callId request)
    (enabled : settings.affinity.enabled = true) (byCall : settings.affinityKey ≠ .requestUri)
    (fromClient : settings.isUpstreamSource request.peer = false) (isUpstream : settings.upstreamsContain upstream = true)
    (unregistered : codec.method request.message = some "INVITE" → codec.isInitialInviteRequest request.message = true →
      ∀ route target, ⟨.lookupAffinityKey (registrationUpstreamAffinityKey route),some target⟩ ∈ past → target.addr = upstream)
    (led : ∀ route, found = some route → route.target.addr = upstream)
    (aimed : Aimed codec settings request found past target) : target.addr = upstream := by
  have picked {requestUri : String} {chosen : UpstreamTarget} (picked : Picked codec settings request requestUri found past chosen) :
      chosen.addr = upstream := by
    cases found with
    | some route =>
        rw [show chosen = route.target from picked]
        exact led route rfl
    | none => exact chosen_upstream answers ofCall enabled byCall fromClient isUpstream unregistered picked
  cases aimed with
  | chosen _ choice _ => exact picked choice
  | itself _ choice here _ =>
      rw [pointsHere,picked choice,isUpstream] at here
      cases here

end Choice

section Conditions

def Op.destination : Op Packet → Option SocketAddr
  | .sendToUpstream _ upstream | .sendRequest upstream _ _ _ => some upstream
  | _ => none

-- A client's request with the Call-ID.
def clientCall (codec : Codec Packet Message) (settings : Settings) (callId : String) (pool : ServerPool Packet) (task : Nat) : Bool :=
  pool.inputs[task]?.any fun input => (input.request codec).any fun request => !settings.isUpstreamSource request.peer &&
    !codec.isResponse request.message && (codec.callIdHeader request.message).toOption.map trim == some callId

def refreshes (callId : String) (record : Record Packet) : Bool :=
  match record.event.op with
  | .rememberAffinityKeys keys _ => keys.contains (sessionKey callId)
  | _ => false

-- The upstream stays healthy, and a request of the session comes within the
-- lifetime of an earlier one.
def AttendedCall (settings : Settings) (callId : String) (upstream : SocketAddr) (pool : ServerPool Packet) (choice : Choice Packet) :
    Op Packet → Prop
  | .isHealthy addr => addr = upstream → choice.flag = true
  | .lookupAffinityKey key => key = sessionKey callId →
    ∃ record ∈ pool.history, refreshes callId record = true ∧ pool.world.now < record.time + settings.affinity.ttlSeconds * 1000
  | _ => True

def Attended (settings : Settings) (callId : String) (upstream : SocketAddr) (pool : ServerPool Packet) :
    ServerAction Packet → Prop
  | .step task choice => ∀ op ∈ System.nextOp pool task, AttendedCall settings callId upstream pool choice op
  | _ => True

-- Neither an INVITE transaction nor a registration directed the request elsewhere.
def leadsTo (callId : String) (upstream : SocketAddr) (act : Act Packet) : Bool :=
  match act with
  | ⟨.lookupInviteTransaction _,some route⟩ => route.target.addr == upstream
  | ⟨.lookupAffinityKey key,some target⟩ => inSession callId key || target.addr == upstream
  | _ => true

def LoyalCall (codec : Codec Packet Message) (settings : Settings) (callId : String) (upstream : SocketAddr) (arrived : Nat)
    (pool : ServerPool Packet) (task : Nat) : Op Packet → Prop
  | .rememberAffinityKeys keys _ => keys.any (inSession callId) = true → arrived ≤ task ∧
    clientCall codec settings callId pool task = true ∧ ∀ act ∈ System.own task pool.history, leadsTo callId upstream act = true
  | _ => True

def sessionBindings (callId : String) (affinity : AffinityTable) : Table AffinityKey AffinityBinding :=
  affinity.bindings.retain fun key _ => inSession callId key

-- Once the session is bound, only requests of its clients record it again.
def Loyal (codec : Codec Packet Message) (settings : Settings) (callId : String) (upstream : SocketAddr) (arrived : Nat)
    (pool : ServerPool Packet) : ServerAction Packet → Prop
  | .step task _ => ∀ op ∈ System.nextOp pool task, LoyalCall codec settings callId upstream arrived pool task op
  | .change (.replicate _ affinity) => affinity.config = pool.world.affinity.config ∧
    sessionBindings callId affinity = sessionBindings callId pool.world.affinity
  | _ => True

instance (settings : Settings) (callId : String) (upstream : SocketAddr) (pool : ServerPool Packet) (choice : Choice Packet)
    (op : Op Packet) : Decidable (AttendedCall settings callId upstream pool choice op) := by
  casesm Op _ <;> dsimp only [AttendedCall] <;> infer_instance

instance (settings : Settings) (callId : String) (upstream : SocketAddr) (pool : ServerPool Packet) :
    ∀ action, Decidable (Attended settings callId upstream pool action)
  | .spawn _ => inferInstanceAs (Decidable True)
  | .change _ => inferInstanceAs (Decidable True)
  | .step _ _ => inferInstanceAs (Decidable (∀ op ∈ _, _))

instance (codec : Codec Packet Message) (settings : Settings) (callId : String) (upstream : SocketAddr) (arrived : Nat)
    (pool : ServerPool Packet) (task : Nat) (op : Op Packet) :
    Decidable (LoyalCall codec settings callId upstream arrived pool task op) := by
  casesm Op _ <;> dsimp only [LoyalCall] <;> infer_instance

instance (codec : Codec Packet Message) (settings : Settings) (callId : String) (upstream : SocketAddr) (arrived : Nat)
    (pool : ServerPool Packet) : ∀ action, Decidable (Loyal codec settings callId upstream arrived pool action)
  | .spawn _ => inferInstanceAs (Decidable True)
  | .change (.elapse _) => inferInstanceAs (Decidable True)
  | .change (.replicate _ _) => inferInstanceAs (Decidable (_ ∧ _))
  | .step _ _ => inferInstanceAs (Decidable (∀ op ∈ _, _))

theorem clientCall_exact {task : Nat} : clientCall codec settings callId pool task = true ↔ ∃ input request,
    pool.inputs[task]? = some input ∧ input.request codec = some request ∧ settings.isUpstreamSource request.peer = false ∧
      OfCall codec callId request := by
  simp [clientCall,OfCall,Option.any_eq_true,and_assoc]

end Conditions

section Binding
variable {callId : String} {upstream : SocketAddr}

def Bound (callId : String) (upstream : SocketAddr) (affinity : AffinityTable) : Prop :=
  ∀ key binding, inSession callId key = true → affinity.bindings.lookup key = some binding → binding.target.addr = upstream

-- The session is still known where it was recorded within the lifetime.
def Known (callId : String) (w : World Packet) (history : List (Record Packet)) : Prop :=
  ∀ record ∈ history, refreshes callId record = true → w.now < record.time + w.affinity.config.ttlSeconds * 1000 →
    ∃ binding, w.affinity.bindings.lookup (sessionKey callId) = some binding ∧
      record.time + w.affinity.config.ttlSeconds * 1000 ≤ binding.expiresAt

theorem lookup_prune_affinity (affinity : AffinityTable) (now : Nat) (key : AffinityKey) :
    (affinity.prune now).bindings.lookup key = (affinity.bindings.lookup key).filter fun binding => decide (now < binding.expiresAt) :=
  Table.lookup_retain _ _ _

theorem prune_bound (bound : Bound callId upstream affinity) (now : Nat) : Bound callId upstream (affinity.prune now) := by
  intro key binding inside found
  rw [lookup_prune_affinity] at found
  exact bound key binding inside (Option.filter_eq_some_iff.mp found).1

theorem lookup_insertAll (keys : List AffinityKey) (value : AffinityBinding) (bindings : Table AffinityKey AffinityBinding)
    (key : AffinityKey) : (keys.foldl (fun bindings key => bindings.insert key value) bindings).lookup key =
      if key ∈ keys then some value else bindings.lookup key := by
  induction keys generalizing bindings with
  | nil => simp
  | cons first rest ih =>
      rw [List.foldl_cons,ih,Table.lookup_insert_eq]
      by_cases later : key ∈ rest <;> by_cases same : key = first <;> simp [later,same]

theorem lookup_rememberKeys {affinity : AffinityTable} (enabled : affinity.config.enabled = true) (now : Nat) (keys : List AffinityKey)
    (target : AffinityTarget) (key : AffinityKey) : ((affinity.rememberKeys now keys target).2.bindings.lookup key) =
      if key ∈ keys then some ⟨target,now + affinity.config.ttlSeconds * 1000⟩ else affinity.bindings.lookup key := by
  rw [AffinityTable.rememberKeys,if_pos enabled]
  exact lookup_insertAll keys _ _ key

def Op.touchesAffinity : Op Packet → Bool
  | .lookupAffinityKey _ | .rememberAffinityKeys .. | .rememberAffinityKey .. => true
  | _ => false

theorem perform_affinity {op : Op Packet} (untouched : op.touchesAffinity = false) (choice : Choice Packet) (w : World Packet) :
    (perform settings op choice w).2.affinity = w.affinity := by
  cases op with
  | lookupAffinityKey key => cases untouched
  | rememberAffinityKeys keys target => cases untouched
  | rememberAffinityKey key target ttl => cases untouched
  | rememberUdpClientTransactionFinalResponse key response => simp only [perform]; split <;> rfl
  | submit command => simp only [perform]; split <;> rfl
  | _ => rfl

theorem known_pruned {w : World Packet} (known : Known callId w history) (member : record ∈ history)
    (refreshed : refreshes callId record = true) (inTime : w.now < record.time + w.affinity.config.ttlSeconds * 1000) :
    ∃ binding, (w.affinity.prune w.now).bindings.lookup (sessionKey callId) = some binding ∧
      record.time + w.affinity.config.ttlSeconds * 1000 ≤ binding.expiresAt := by
  obtain ⟨binding,found,later⟩ := known record member refreshed inTime
  refine ⟨binding,?_,later⟩
  rw [lookup_prune_affinity,found,Option.filter_some,if_pos]
  exact decide_eq_true (Nat.lt_of_lt_of_le inTime later)

theorem known_snoc {w after : World Packet} {record : Record Packet} (sameNow : after.now = w.now)
    (sameConfig : after.affinity.config = w.affinity.config) (made : record.time = w.now)
    (stays : ∀ earlier ∈ history, refreshes callId earlier = true → w.now < earlier.time + w.affinity.config.ttlSeconds * 1000 →
      ∃ binding, after.affinity.bindings.lookup (sessionKey callId) = some binding ∧
        earlier.time + w.affinity.config.ttlSeconds * 1000 ≤ binding.expiresAt)
    (added : refreshes callId record = true → ∃ binding, after.affinity.bindings.lookup (sessionKey callId) = some binding ∧
      w.now + w.affinity.config.ttlSeconds * 1000 ≤ binding.expiresAt) : Known callId after (history ++ [record]) := by
  intro other member refreshed inTime
  rw [sameNow,sameConfig] at inTime
  rw [sameConfig]
  rcases List.mem_append.mp member with earlier | last
  · exact stays other earlier refreshed inTime
  · rw [List.mem_singleton.mp last] at refreshed ⊢
    rw [made]
    exact added refreshed

theorem perform_config (op : Op Packet) (choice : Choice Packet) (w : World Packet) :
    (perform settings op choice w).2.affinity.config = w.affinity.config := by
  cases op with
  | lookupAffinityKey key => simp only [perform,AffinityTable.lookupKey]; split <;> rfl
  | rememberAffinityKeys keys target => simp only [perform,AffinityTable.rememberKeys]; split <;> rfl
  | rememberAffinityKey key target ttl => simp only [perform,AffinityTable.rememberKey]; split <;> rfl
  | rememberUdpClientTransactionFinalResponse key response => simp only [perform]; split <;> rfl
  | submit command => simp only [perform]; split <;> rfl
  | _ => rfl

-- A write under the keys of a session names its upstream.
def Op.binds (callId : String) (upstream : SocketAddr) : Op Packet → Prop
  | .rememberAffinityKeys keys target => keys.any (inSession callId) = true → target.addr = upstream
  | .rememberAffinityKey key _ _ => inSession callId key = false
  | _ => True

theorem perform_bound {op : Op Packet} {w : World Packet} (enabled : w.affinity.config.enabled = true)
    (bound : Bound callId upstream w.affinity) (binds : op.binds callId upstream) (choice : Choice Packet) :
    Bound callId upstream (perform settings op choice w).2.affinity := by
  cases op with
  | lookupAffinityKey key =>
      simp only [perform,AffinityTable.lookupKey,if_pos enabled]
      exact prune_bound bound w.now
  | rememberAffinityKeys keys target =>
      intro key binding inside found
      rw [show (perform settings (.rememberAffinityKeys keys target) choice w).2.affinity =
        (w.affinity.rememberKeys w.now keys target).2 from rfl,lookup_rememberKeys enabled] at found
      split at found
      · rename_i member
        cases found
        exact binds (List.any_eq_true.mpr ⟨key,member,inside⟩)
      · exact bound key binding inside found
  | rememberAffinityKey kept target ttl =>
      intro key binding inside found
      have other : key ≠ kept := by
        intro same
        rcases same with rfl
        cases inside.symm.trans binds
      simp only [perform,AffinityTable.rememberKey] at found
      split at found
      · exact bound key binding inside found
      · rw [Table.lookup_insert_eq,if_neg other] at found
        exact bound key binding inside found
  | _ => rw [perform_affinity rfl]; exact bound

theorem perform_known {op : Op Packet} {w : World Packet} (enabled : w.affinity.config.enabled = true)
    (past : ∀ record ∈ history, record.time ≤ w.now) (known : Known callId w history) (binds : op.binds callId upstream)
    (choice : Choice Packet) (task : Nat) :
    Known callId (perform settings op choice w).2 (history ++ [⟨task,w.now,⟨op,(perform settings op choice w).1⟩⟩]) := by
  refine known_snoc (perform_now op choice w) (perform_config op choice w) rfl (fun earlier member refreshed inTime => ?_)
    fun refreshed => ?_
  · cases op with
    | lookupAffinityKey key =>
        simp only [perform,AffinityTable.lookupKey,if_pos enabled]
        exact known_pruned known member refreshed inTime
    | rememberAffinityKeys keys target =>
        rw [show (perform settings (.rememberAffinityKeys keys target) choice w).2.affinity =
          (w.affinity.rememberKeys w.now keys target).2 from rfl,lookup_rememberKeys enabled]
        split
        · exact ⟨_,rfl,Nat.add_le_add_right (past earlier member) _⟩
        · exact known earlier member refreshed inTime
    | rememberAffinityKey kept target ttl =>
        have other : sessionKey callId ≠ kept := by
          intro same
          rcases same with rfl
          cases (sessionKey_inside callId).symm.trans binds
        simp only [perform,AffinityTable.rememberKey]
        split
        · exact known earlier member refreshed inTime
        · rw [Table.lookup_insert_eq,if_neg other]
          exact known earlier member refreshed inTime
    | _ => rw [perform_affinity rfl]; exact known earlier member refreshed inTime
  · cases op with
    | rememberAffinityKeys keys target =>
        rw [show (perform settings (.rememberAffinityKeys keys target) choice w).2.affinity =
          (w.affinity.rememberKeys w.now keys target).2 from rfl,lookup_rememberKeys enabled,if_pos (by simpa [refreshes] using refreshed)]
        exact ⟨_,rfl,Nat.le_refl _⟩
    | _ => cases refreshed

theorem perform_answers {op : Op Packet} {w : World Packet} {choice : Choice Packet} (configured : w.affinity.config = settings.affinity)
    (enabled : settings.affinity.enabled = true) (bound : Bound callId upstream w.affinity) (known : Known callId w history)
    (healthy : ∀ addr, op = .isHealthy addr → addr = upstream → choice.flag = true)
    (inTime : op = .lookupAffinityKey (sessionKey callId) → ∃ record ∈ history, refreshes callId record = true ∧
      w.now < record.time + settings.affinity.ttlSeconds * 1000) :
    Answers callId upstream ⟨op,(perform settings op choice w).1⟩ := by
  cases op with
  | isHealthy addr => exact fun same => healthy addr rfl same
  | lookupAffinityKey key =>
      intro inside
      simp only [perform,AffinityTable.lookupKey,configured,if_pos enabled]
      refine ⟨fun target found => ?_,fun same => ?_⟩
      · obtain ⟨binding,held,rfl⟩ := Option.map_eq_some_iff.mp found
        exact prune_bound bound w.now key binding inside held
      · subst same
        obtain ⟨record,member,refreshed,inTime⟩ := inTime rfl
        obtain ⟨binding,found,_⟩ := known_pruned known member refreshed (configured ▸ inTime)
        simp [found]
  | _ => trivial

end Binding

section Sessions
variable {callId : String} {upstream : SocketAddr} {arrived : Nat}

structure Pinned (codec : Codec Packet Message) (settings : Settings) (callId : String) (upstream : SocketAddr) (arrived : Nat)
    (pool : ServerPool Packet) : Prop where
  reached : ∃ actions, runServer codec settings actions = some pool
  configured : pool.world.affinity.config = settings.affinity
  past : ∀ record ∈ pool.history, record.time ≤ pool.world.now
  bound : Bound callId upstream pool.world.affinity
  known : Known callId pool.world pool.history
  answered : ∀ record ∈ pool.history, arrived ≤ record.task → Answers callId upstream record.event

-- The call that a task stands before follows from what it has done.
theorem next_course (coursed : Coursed codec settings pool) (found : pool.tasks[task]? = some (.call op rest)) (reply : op.Reply) :
    ∃ input, pool.inputs[task]? = some input ∧ Course codec settings input (System.own task pool.history) ⟨op,reply⟩ := by
  have inside : task < pool.inputs.length := coursed.sized ▸ (List.getElem?_eq_some_iff.mp found).1
  have hasInput := List.getElem?_eq_getElem inside
  exact ⟨_,hasInput,((coursed.path task _ _ hasInput found) reply).1⟩

theorem nextOp_call (found : pool.tasks[task]? = some (.call op rest)) : System.nextOp pool task = some op := by
  simp [System.nextOp,found]

theorem pinned_binds (enabled : settings.affinity.enabled = true) (byCall : settings.affinityKey ≠ .requestUri)
    (isUpstream : settings.upstreamsContain upstream = true) (pinned : Pinned codec settings callId upstream arrived pool)
    (found : pool.tasks[task]? = some (.call op rest)) (loyal : LoyalCall codec settings callId upstream arrived pool task op) :
    op.binds callId upstream := by
  obtain ⟨actions,ran⟩ := pinned.reached
  have course := next_course (run_coursed ran) found
  cases op with
  | rememberAffinityKeys keys target =>
      intro touched
      obtain ⟨since,client,led⟩ := loyal touched
      obtain ⟨input,request,hasInput,requested,fromClient,ofCall⟩ := clientCall_exact.mp client
      obtain ⟨_,sameInput,course⟩ := course ()
      cases hasInput.symm.trans sameInput
      obtain ⟨_,prepared,⟨⟨found,directed⟩,_⟩,_,rfl⟩ := course_follows course requested
      have answers : ∀ act ∈ System.own task pool.history, Answers callId upstream act := by
        intro act member
        obtain ⟨record,inHistory,ofTask,rfl⟩ := System.mem_own.mp member
        exact pinned.answered record inHistory (ofTask ▸ since)
      refine aimed_upstream answers ofCall enabled byCall fromClient isUpstream (fun _ _ route target looked => ?_)
        (fun route same => ?_) directed.aimed
      · have leads := led _ looked
        simpa [leadsTo,registration_outside] using leads
      · obtain ⟨_,key,_,looked⟩ := directed.asked.hit route same
        simpa [leadsTo] using led _ looked
  | rememberAffinityKey key target ttl =>
      obtain ⟨input,_,course⟩ := course ()
      unfold Course at course
      split at course
      · obtain ⟨aor,rfl⟩ := course
        exact registration_outside callId aor
      · obtain ⟨aor,rfl⟩ := course
        exact registration_outside callId aor
  | _ => trivial

theorem bound_same (same : sessionBindings callId after = sessionBindings callId affinity) (inside : inSession callId key = true) :
    after.bindings.lookup key = affinity.bindings.lookup key := by
  have view (table : AffinityTable) : (sessionBindings callId table).lookup key = table.bindings.lookup key := by
    rw [sessionBindings,Table.lookup_retain,inside]
    cases table.bindings.lookup key <;> rfl
  rw [← view,same,view]

theorem step_pinned (enabled : settings.affinity.enabled = true) (byCall : settings.affinityKey ≠ .requestUri)
    (isUpstream : settings.upstreamsContain upstream = true) (pinned : Pinned codec settings callId upstream arrived pool)
    (attended : Attended settings callId upstream pool action) (loyal : Loyal codec settings callId upstream arrived pool action)
    (stepped : (server codec settings).advance pool action = some next) : Pinned codec settings callId upstream arrived next := by
  obtain ⟨actions,ran⟩ := pinned.reached
  have reached : ∃ actions, runServer codec settings actions = some next := ⟨_,Machine.run_snoc ran stepped⟩
  cases action with
  | spawn input =>
      cases stepped
      exact ⟨reached,pinned.configured,pinned.past,pinned.bound,pinned.known,pinned.answered⟩
  | change change =>
      cases stepped
      cases change with
      | elapse duration =>
          refine ⟨reached,pinned.configured,?_,pinned.bound,?_,pinned.answered⟩
          · exact fun record member => Nat.le_trans (pinned.past record member) (Nat.le_add_right _ _)
          · exact fun record member refreshed inTime =>
              pinned.known record member refreshed (Nat.lt_of_le_of_lt (Nat.le_add_right _ _) inTime)
      | replicate state affinity =>
          obtain ⟨sameConfig,same⟩ := loyal
          refine ⟨reached,sameConfig.trans pinned.configured,pinned.past,?_,?_,pinned.answered⟩
          · intro key binding inside found
            exact pinned.bound key binding inside ((bound_same same inside).symm.trans found)
          · intro record member refreshed inTime
            obtain ⟨binding,found,later⟩ := pinned.known record member refreshed (sameConfig ▸ inTime)
            exact ⟨binding,(bound_same same (sessionKey_inside callId)).trans found,sameConfig ▸ later⟩
  | step task choice =>
      obtain ⟨op,rest,found,rfl⟩ := System.advance_step stepped
      have stands := nextOp_call found
      have binds := pinned_binds enabled byCall isUpstream pinned found (loyal op stands)
      have configured := pinned.configured
      have enabledHere : pool.world.affinity.config.enabled = true := by rw [configured]; exact enabled
      refine ⟨reached,(perform_config op choice pool.world).trans configured,?_,perform_bound enabledHere pinned.bound binds choice,
        perform_known enabledHere pinned.past pinned.known binds choice task,?_⟩
      · intro record member
        show record.time ≤ (perform settings op choice pool.world).2.now
        rw [perform_now]
        rcases List.mem_append.mp member with earlier | last
        · exact pinned.past record earlier
        · rw [List.mem_singleton.mp last]; exact Nat.le_refl _
      · intro record member since
        rcases List.mem_append.mp member with earlier | last
        · exact pinned.answered record earlier since
        · rw [List.mem_singleton.mp last]
          refine perform_answers configured enabled pinned.bound pinned.known (fun addr same => ?_) fun same => ?_
          · subst same
            exact attended _ stands
          · subst same
            exact attended _ stands rfl

theorem run_past (ran : runServer codec settings actions = some pool) : ∀ record ∈ pool.history, record.time ≤ pool.world.now := by
  refine System.run_world (fun w history => ∀ record ∈ history, record.time ≤ w.now) ?_ ?_ (by simp) ran
  · intro w history task op choice past result record member
    rw [show result.2.now = w.now from perform_now op choice w]
    rcases List.mem_append.mp member with earlier | last
    · exact past record earlier
    · rw [List.mem_singleton.mp last]; exact Nat.le_refl _
  · intro w history change past record member
    cases change with
    | elapse duration => exact Nat.le_trans (past record member) (Nat.le_add_right _ _)
    | replicate state affinity => exact past record member

-- A client's request of the Call-ID has been sent to the upstream, and its
-- affinity is about to be recorded.
structure Opening (codec : Codec Packet Message) (settings : Settings) (callId : String) (upstream : SocketAddr) (first : Nat)
    (keys : List AffinityKey) (target : AffinityTarget) (pool : ServerPool Packet) : Prop where
  client : clientCall codec settings callId pool first = true
  sent : ∃ record ∈ pool.history, record.task = first ∧ record.event.op.destination = some upstream
  stands : System.nextOp pool first = some (.rememberAffinityKeys keys target)
  keyed : sessionKey callId ∈ keys
  configured : pool.world.affinity.config = settings.affinity

-- No other binding of the Call-ID names another target.
def Vacant (callId : String) (upstream : SocketAddr) (keys : List AffinityKey) (affinity : AffinityTable) : Prop :=
  ∀ entry ∈ affinity.bindings.entries, inSession callId entry.1 = true → entry.1 ∈ keys ∨ entry.2.target.addr = upstream

-- The request of a task that no INVITE transaction directs and no registration may.
def Undirected (codec : Codec Packet Message) (pool : ServerPool Packet) (task : Nat) : Prop :=
  (∀ key route, ⟨.lookupInviteTransaction key,some route⟩ ∉ System.own task pool.history) ∧
    ∀ input request, pool.inputs[task]? = some input → input.request codec = some request →
      ¬(codec.method request.message = some "INVITE" ∧ codec.isInitialInviteRequest request.message = true)

theorem sent_destination {method : Method} {prepared : Prepared Message} (coursed : Coursed codec settings pool)
    (sent : Sent codec method (System.own task pool.history) prepared) {record : Record Packet} (member : record ∈ pool.history)
    (ofTask : record.task = task) (goes : record.event.op.destination = some upstream) : prepared.target.addr = upstream := by
  have forwards : record.event.op.forwards = true := by
    obtain ⟨_,_,⟨op,reply⟩⟩ := record
    cases op <;> first | rfl | cases goes
  have only {event : Act Packet} (gone : event ∈ System.own task pool.history) (going : event.op.forwards = true) :
      event.op.destination = some upstream := by
    obtain ⟨other,inHistory,ofOther,rfl⟩ := System.mem_own.mp gone
    rw [← forward_once coursed member inHistory (ofTask.trans ofOther.symm) forwards going]
    exact goes
  cases sent with
  | udp _ _ gone => exact Option.some.inj (only gone rfl)
  | tcp gone => exact Option.some.inj (only gone rfl)

theorem opening_pinned {before start : ServerPool Packet} (enabled : settings.affinity.enabled = true)
    (ran : runServer codec settings actions = some before) (opening : Opening codec settings callId upstream first keys target before)
    (vacant : Vacant callId upstream keys before.world.affinity)
    (recorded : (server codec settings).advance before (.step first choice) = some start) :
    Pinned codec settings callId upstream start.inputs.length start := by
  have rerun := Machine.run_snoc ran recorded
  obtain ⟨op,rest,found,rfl⟩ := System.advance_step recorded
  cases Option.some.inj ((nextOp_call found).symm.trans opening.stands)
  have coursed := run_coursed ran
  have configured := opening.configured
  have enabledHere : before.world.affinity.config.enabled = true := by rw [configured]; exact enabled
  have there : target.addr = upstream := by
    obtain ⟨input,_,course⟩ := next_course coursed found ()
    obtain ⟨request,_,_,prepared,dispatched,_,rfl⟩ := course_request course fun idle => idle
    obtain ⟨record,member,ofTask,goes⟩ := opening.sent
    exact sent_destination coursed dispatched.2 member ofTask goes
  have view (key : AffinityKey) : (perform settings (.rememberAffinityKeys keys target) choice before.world).2.affinity.bindings.lookup key =
      if key ∈ keys then some ⟨target,before.world.now + before.world.affinity.config.ttlSeconds * 1000⟩
      else before.world.affinity.bindings.lookup key := lookup_rememberKeys enabledHere _ _ _ _
  refine ⟨⟨_,rerun⟩,(perform_config _ choice before.world).trans configured,run_past rerun,?_,?_,?_⟩
  · intro key binding inside held
    replace held := (view key).symm.trans held
    split at held
    · cases held
      exact there
    · rename_i other
      exact (vacant ⟨key,binding⟩ (Table.lookup_iff_mem.mp held) inside).resolve_left other
  · have holds : ∃ binding, (perform settings (.rememberAffinityKeys keys target) choice before.world).2.affinity.bindings.lookup
        (sessionKey callId) = some binding ∧
        before.world.now + before.world.affinity.config.ttlSeconds * 1000 ≤ binding.expiresAt := by
      rw [view,if_pos opening.keyed]
      exact ⟨_,rfl,Nat.le_refl _⟩
    refine known_snoc (perform_now _ choice before.world) (perform_config _ choice before.world) rfl
      (fun earlier member _ _ => ?_) fun _ => holds
    obtain ⟨binding,held,later⟩ := holds
    exact ⟨binding,held,Nat.le_trans (Nat.add_le_add_right (run_past ran earlier member) _) later⟩
  · intro record member since
    exact absurd ((run_coursed rerun).started record member) (Nat.not_lt.mpr since)

theorem session_stays {opened start : ServerPool Packet} (enabled : settings.affinity.enabled = true)
    (byCall : settings.affinityKey ≠ .requestUri) (isUpstream : settings.upstreamsContain upstream = true)
    (ran : runServer codec settings before = some opened) (opening : Opening codec settings callId upstream first keys target opened)
    (vacant : Vacant callId upstream keys opened.world.affinity)
    (recorded : (server codec settings).advance opened (.step first choice) = some start)
    (attended : Machine.Within (server codec settings).advance (Attended settings callId upstream) start after)
    (loyal : Machine.Within (server codec settings).advance (Loyal codec settings callId upstream start.inputs.length) start after)
    (continued : Machine.run (server codec settings).advance start after = some pool) :
    ∀ sent ∈ pool.history, start.inputs.length ≤ sent.task → clientCall codec settings callId pool sent.task = true →
      Undirected codec pool sent.task → sent.event.op.forwards = true → sent.event.op.destination = some upstream := by
  have pinned : Pinned codec settings callId upstream start.inputs.length pool := by
    refine Machine.run_preserves_within (Pinned codec settings callId upstream start.inputs.length) ?_ (attended.and loyal)
      (opening_pinned enabled ran opening vacant recorded) continued
    exact fun pool action next guarded held stepped => step_pinned enabled byCall isUpstream held guarded.1 guarded.2 stepped
  intro sent member since client undirected forwards
  obtain ⟨actions,reached⟩ := pinned.reached
  obtain ⟨input,request,hasInput,requested,fromClient,ofCall⟩ := clientCall_exact.mp client
  obtain ⟨first,rest,split⟩ := List.append_of_mem member
  obtain ⟨_,sameInput,course⟩ := (run_coursed reached).admitted first sent rest split
  cases hasInput.symm.trans sameInput
  have follows := course_follows course requested
  have part : ∀ act ∈ System.own sent.task first, act ∈ System.own sent.task pool.history := by
    intro act inOwn
    obtain ⟨record,inFirst,ofTask,event⟩ := System.mem_own.mp inOwn
    exact System.mem_own.mpr ⟨record,by simp [split,inFirst],ofTask,event⟩
  have aimed {prepared : Prepared Message} (sending : Sending codec settings input.isDatagram request (System.own sent.task first) prepared) :
      prepared.target.addr = upstream := by
    obtain ⟨_,found,directed⟩ := sending
    refine aimed_upstream (fun act inOwn => ?_) ofCall enabled byCall fromClient isUpstream (fun isInvite initial => ?_)
      (fun route same => ?_) directed.aimed
    · obtain ⟨record,inHistory,ofTask,rfl⟩ := System.mem_own.mp (part act inOwn)
      exact pinned.answered record inHistory (ofTask ▸ since)
    · exact (undirected.2 input request hasInput requested ⟨isInvite,initial⟩).elim
    · obtain ⟨_,key,_,looked⟩ := directed.asked.hit route same
      exact (undirected.1 key route (part _ looked)).elim
  obtain ⟨task,time,⟨op,reply⟩⟩ := sent
  cases op with
  | sendToUpstream packet goal =>
      obtain ⟨_,prepared,_,sending,_,_,_,rfl,_⟩ := follows
      exact congrArg some (aimed sending)
  | sendRequest goal branch packet method =>
      obtain ⟨prepared,sending,_,rfl,_⟩ := follows
      exact congrArg some (aimed sending)
  | _ => cases forwards

def otherUpstream : SocketAddr := host 3

def clientUri : String := "sip:client@10.0.0.1"

def callCodec : Codec Envelope Envelope :=
  {envelopeCodec with parseContactTarget:=fun uri transport => if uri == clientUri then some ⟨clientAddr,transport⟩ else none}

def pairSettings : Settings := {plainSettings with upstreamsContain:=fun addr => addr == upstreamAddr || addr == otherUpstream}

def inDialog (method : Method) (number : Nat) (uri : String) : Envelope := {request method with cseq:=(number,method),toUri:=uri}

-- The upstream group answers with its other member.
def turned (task count : Nat) : Schedule :=
  List.replicate count (.step task ⟨.allow,none,otherUpstream,true,"10.0.0.9:5060",.ok []⟩)

def invited : Schedule := datagram (request .invite) clientAddr :: steps 0 10

def hungUp (task : Nat) : Schedule := datagram (inDialog .bye 2 "sip:200@example.com") clientAddr :: turned task 9

def recording : ServerAction Envelope := .step 0 ⟨.allow,none,upstreamAddr,true,"10.0.0.9:5060",.ok []⟩

def justHungUp : Schedule := steps 0 1 ++ hungUp 1

-- The upstream updates the dialog before the client hangs up.
def updatedThenHungUp : Schedule := steps 0 1 ++ datagram (inDialog .update 1 clientUri) upstreamAddr :: steps 1 9 ++ hungUp 2

-- The INVITE has gone out and stands before the record of its affinity.
theorem invited_opening : ∃ opened start, runServer callCodec pairSettings invited = some opened ∧
    Opening callCodec pairSettings "call" upstreamAddr 0 [sessionKey "call"] ⟨upstreamAddr,.udp⟩ opened ∧
    Vacant "call" upstreamAddr [sessionKey "call"] opened.world.affinity ∧
    (server callCodec pairSettings).advance opened recording = some start ∧ runServer callCodec pairSettings (invited ++ [recording]) = some start := by
  have reached : ∃ opened start first, runServer callCodec pairSettings invited = some opened ∧
      (clientCall callCodec pairSettings "call" opened 0 = true ∧ opened.history[9]? = some first ∧ first.task = 0 ∧
        first.event.op.destination = some upstreamAddr) ∧
      System.nextOp opened 0 = some (.rememberAffinityKeys [sessionKey "call"] ⟨upstreamAddr,.udp⟩) ∧
      opened.world.affinity.config = pairSettings.affinity ∧ opened.world.affinity.bindings.entries = [] ∧
      (server callCodec pairSettings).advance opened recording = some start ∧
      runServer callCodec pairSettings (invited ++ [recording]) = some start :=
    ⟨_,_,_,rfl,⟨by decide +kernel,rfl,rfl,rfl⟩,rfl,rfl,rfl,rfl,rfl⟩
  obtain ⟨opened,start,first,ran,⟨client,sent,ofFirst,goes⟩,stands,configured,empty,recorded,reached⟩ := reached
  refine ⟨opened,start,ran,⟨client,⟨first,List.mem_of_getElem? sent,ofFirst,goes⟩,stands,by simp,configured⟩,?_,recorded,reached⟩
  intro entry member
  rw [empty] at member
  cases member

theorem bye_undirected {pool : ServerPool Envelope} {task : Nat} (unasked : ∀ act ∈ System.own task pool.history, act.op.asksInvite = false)
    (hasInput : pool.inputs[task]? = some (.udp (inDialog .bye 2 "sip:200@example.com") clientAddr udpListener)) :
    Undirected callCodec pool task := by
  refine ⟨fun key route asked => ?_,fun input request sameInput requested => ?_⟩
  · cases unasked _ asked
  · cases hasInput.symm.trans sameInput
    cases requested
    exact fun initial => absurd initial.1 (by decide)

theorem upstream_request_moves_session : ∃ opened start pool sent, runServer callCodec pairSettings invited = some opened ∧
    Opening callCodec pairSettings "call" upstreamAddr 0 [sessionKey "call"] ⟨upstreamAddr,.udp⟩ opened ∧
    Vacant "call" upstreamAddr [sessionKey "call"] opened.world.affinity ∧
    (server callCodec pairSettings).advance opened recording = some start ∧
    Machine.Within (server callCodec pairSettings).advance (Attended pairSettings "call" upstreamAddr) start updatedThenHungUp ∧
    Machine.run (server callCodec pairSettings).advance start updatedThenHungUp = some pool ∧
    sent ∈ pool.history ∧ start.inputs.length ≤ sent.task ∧ clientCall callCodec pairSettings "call" pool sent.task = true ∧
    Undirected callCodec pool sent.task ∧ sent.event.op.forwards = true ∧ sent.event.op.destination = some otherUpstream ∧
    otherUpstream ≠ upstreamAddr := by
  obtain ⟨opened,start,ran,opening,vacant,recorded,rerun⟩ := invited_opening
  have reached : ∃ start pool sent, runServer callCodec pairSettings (invited ++ [recording]) = some start ∧
      Machine.Within (server callCodec pairSettings).advance (Attended pairSettings "call" upstreamAddr) start updatedThenHungUp ∧
      Machine.run (server callCodec pairSettings).advance start updatedThenHungUp = some pool ∧
      (pool.history[28]? = some sent ∧ sent.task = 2 ∧ sent.event.op.forwards = true ∧
        sent.event.op.destination = some otherUpstream) ∧ start.inputs.length = 1 ∧
      clientCall callCodec pairSettings "call" pool 2 = true ∧ (∀ act ∈ System.own 2 pool.history, act.op.asksInvite = false) ∧
      pool.inputs[2]? = some (.udp (inDialog .bye 2 "sip:200@example.com") clientAddr udpListener) :=
    ⟨_,_,_,rfl,by decide +kernel,rfl,⟨rfl,rfl,rfl,rfl⟩,rfl,by decide +kernel,by decide +kernel,rfl⟩
  obtain ⟨_,pool,sent,same,attended,continued,⟨member,ofTask,forwards,goes⟩,arrived,client,unasked,hasInput⟩ := reached
  cases rerun.symm.trans same
  refine ⟨opened,start,pool,sent,ran,opening,vacant,recorded,attended,continued,List.mem_of_getElem? member,?_,?_,?_,forwards,goes,by decide⟩
  · rw [ofTask,arrived]; decide
  · rw [ofTask]; exact client
  · rw [ofTask]; exact bye_undirected unasked hasInput

theorem client_session_stays : ∃ start pool sent, runServer callCodec pairSettings (invited ++ [recording]) = some start ∧
    Machine.run (server callCodec pairSettings).advance start justHungUp = some pool ∧ sent ∈ pool.history ∧ sent.task = 1 ∧
    sent.event.op.forwards = true ∧ sent.event.op.destination = some upstreamAddr := by
  obtain ⟨opened,start,ran,opening,vacant,recorded,rerun⟩ := invited_opening
  have reached : ∃ start pool sent, runServer callCodec pairSettings (invited ++ [recording]) = some start ∧
      (Machine.Within (server callCodec pairSettings).advance (Attended pairSettings "call" upstreamAddr) start justHungUp ∧
        Machine.Within (server callCodec pairSettings).advance
          (Loyal callCodec pairSettings "call" upstreamAddr start.inputs.length) start justHungUp) ∧
      Machine.run (server callCodec pairSettings).advance start justHungUp = some pool ∧
      (pool.history[19]? = some sent ∧ sent.task = 1 ∧ sent.event.op.forwards = true) ∧ start.inputs.length = 1 ∧
      clientCall callCodec pairSettings "call" pool 1 = true ∧ (∀ act ∈ System.own 1 pool.history, act.op.asksInvite = false) ∧
      pool.inputs[1]? = some (.udp (inDialog .bye 2 "sip:200@example.com") clientAddr udpListener) :=
    ⟨_,_,_,rfl,⟨by decide +kernel,by decide +kernel⟩,rfl,⟨rfl,rfl,rfl⟩,rfl,by decide +kernel,by decide +kernel,rfl⟩
  obtain ⟨_,pool,sent,same,⟨attended,loyal⟩,continued,⟨member,ofTask,forwards⟩,arrived,client,unasked,hasInput⟩ := reached
  cases rerun.symm.trans same
  refine ⟨start,pool,sent,rerun,continued,List.mem_of_getElem? member,ofTask,forwards,?_⟩
  refine session_stays rfl (by decide) (by decide) ran opening vacant recorded attended loyal continued sent
    (List.mem_of_getElem? member) (by rw [ofTask,arrived]) (by rw [ofTask]; exact client) ?_ forwards
  rw [ofTask]
  exact bye_undirected unasked hasInput

end Sessions
end Sigproxy.Proxy
