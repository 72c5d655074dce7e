import Sigproxy.Proxy.ResponseRouting
import Sigproxy.Security.Runtime
import Sigproxy.Security.TokenBucket

namespace Sigproxy.Security
open Library Library.Bucket Net Proxy

section Model
variable {Packet Message Bucket : Type}

-- `.ok().flatten()`: a header that is missing and one that cannot be read are the same.
def sipRateIdentity (codec : Codec Packet Message) (view : SecurityCodec Packet Bucket) (message : Message) (method : Method)
    (peer : SocketAddr) : String :=
  match method,codec.extractAor message with
  | .register,.ok aor => aor
  | _,_ => ((codec.topHeaderValue "From" message).toOption.join).getD (view.showIp peer.ip)

def Rate.perSecond (rate : Rate) : ℚ := rate.tokens / rate.seconds

-- The buckets in exact numbers, over a clock that ticks once in so many seconds.
def exactly (tick : ℚ) (view : SecurityCodec Packet Bucket) : SecurityCodec Packet TokenBucket where
  showIp := view.showIp
  isProbableSipStartLine := view.isProbableSipStartLine
  newBucket rate burst now := .new rate.perSecond burst (now * tick)
  allow bucket now rate burst := bucket.allow (now * tick) rate.perSecond burst

structure Call (Message : Type) where
  now : Nat
  message : Message
  peer : SocketAddr
  deriving DecidableEq, Repr

variable (codec : Codec Packet Message) (view : SecurityCodec Packet Bucket) (tick : ℚ)

def Call.identity (call : Call Message) : String := sipRateIdentity codec view call.message .invite call.peer

def SecurityRuntime.invites (runtime : SecurityRuntime) (listener : ProxyListenerConfig) :
    SecurityState TokenBucket → List (Call Message) → List (ℚ × Bool)
  | _,[] => []
  | state,call :: rest =>
    let checked := runtime.checkSipRequest (exactly tick view) call.now listener (call.identity codec view) .invite state
    (call.now * tick,checked.1.isNone) :: runtime.invites listener checked.2 rest

end Model

section Check
variable {Packet Message Bucket : Type} {codec : Codec Packet Message} {view : SecurityCodec Packet Bucket} {tick : ℚ}
  {runtime : SecurityRuntime} {listener : ProxyListenerConfig} {security : ListenerSecurityRuntime}

def ListenerSecurityRuntime.limitsInvites (security : ListenerSecurityRuntime) : Prop :=
  security.config.enabled = true ∧ security.config.sipRateLimit.enabled = true ∧ 0 < security.config.sipRateLimit.invitePerMinutePerAor

def inviteSubject (listener : ProxyListenerConfig) (identity : String) : String :=
  "|" ++ listenerKey listener ++ "|" ++ Method.invite.asStr ++ "|" ++ identity

theorem check_unlimited (held : runtime.listenerByKey (listenerKey listener) = some security) (off : ¬ security.limitsInvites) :
    runtime.checkSipRequest view now listener identity .invite state = (none,state) := by
  unfold SecurityRuntime.checkSipRequest
  simp only [held]
  split
  · rfl
  · rename_i enabled
    have none : ¬ 0 < security.config.sipRateLimit.invitePerMinutePerAor := by
      intro some
      refine off ⟨?_,?_,some⟩ <;> simp_all
    simp only [SecurityRuntime.sipRateLimit,if_neg none]

-- The bucket of an identity decides on what the block list lets through.
def decided (tick : ℚ) (limit : Nat) (key : String) (now : Nat) (state : SecurityState TokenBucket) : Bool × TokenBucket :=
  let rate := (perMinute limit).perSecond
  ((state.buckets.lookup key).getD (.new rate limit (now * tick))).allow (now * tick) rate limit

theorem allowBucket_decided {state charged : SecurityState TokenBucket} (some : 0 < limit) (same : charged.buckets = state.buckets) :
    charged.allowBucket (exactly tick view) now key (perMinute limit) limit =
      ((decided tick limit key now state).1,{charged with buckets:=charged.buckets.insert key (decided tick limit key now state).2}) := by
  unfold SecurityState.allowBucket
  have rated : ¬ ((perMinute limit).tokens = 0 ∨ limit = 0) := fun none => some.ne' (or_self_iff.mp none)
  rw [if_neg rated,same]
  rfl

theorem isBlocked_buckets (state : SecurityState TokenBucket) (now : Nat) (key : String) :
    (state.isBlocked now key).2.buckets = state.buckets := by
  unfold SecurityState.isBlocked
  split
  · split <;> rfl
  · rfl

theorem blockFor_buckets (state : SecurityState TokenBucket) (now : Nat) (key : String) (seconds : Nat) :
    (state.blockFor now key seconds).buckets = state.buckets := by
  unfold SecurityState.blockFor
  dsimp only
  split
  · rfl
  · split
    · split <;> rfl
    · rfl

theorem check_limited (held : runtime.listenerByKey (listenerKey listener) = some security) (limits : security.limitsInvites) :
    let limit := security.config.sipRateLimit.invitePerMinutePerAor
    let rateKey := "sip-rate" ++ inviteSubject listener identity
    let blocked := state.isBlocked now ("sip-block" ++ inviteSubject listener identity)
    let granted := decided tick limit rateKey now state
    runtime.checkSipRequest (exactly tick view) now listener identity .invite state =
      if blocked.1 then (some "sip-blocked",blocked.2)
      else
        let charged := {blocked.2 with buckets:=blocked.2.buckets.insert rateKey granted.2}
        if granted.1 then (none,charged)
        else (some "sip-invite-rate-limit",charged.blockFor now ("sip-block" ++ inviteSubject listener identity)
          security.config.sipRateLimit.blockSeconds) := by
  obtain ⟨enabled,limited,some⟩ := limits
  unfold SecurityRuntime.checkSipRequest
  simp only [held,enabled,limited,Bool.not_true,Bool.or_self,Bool.false_eq_true,if_false,SecurityRuntime.sipRateLimit,if_pos some,
    allowBucket_decided some (isBlocked_buckets state now _)]
  rfl

-- Either the block list turns the INVITE away, or the bucket decides.
theorem check_cases (held : runtime.listenerByKey (listenerKey listener) = some security) (limits : security.limitsInvites) :
    let checked := runtime.checkSipRequest (exactly tick view) now listener identity .invite state
    let rateKey := "sip-rate" ++ inviteSubject listener identity
    let granted := decided tick security.config.sipRateLimit.invitePerMinutePerAor rateKey now state
    checked.1.isNone = false ∧ checked.2.buckets = state.buckets ∨
      checked.1.isNone = granted.1 ∧ checked.2.buckets = state.buckets.insert rateKey granted.2 := by
  dsimp only
  rw [check_limited held limits]
  dsimp only
  split
  · exact .inl ⟨rfl,isBlocked_buckets ..⟩
  · right
    split
    · rename_i granted
      exact ⟨granted.symm,by rw [isBlocked_buckets]⟩
    · rename_i refused
      exact ⟨(Bool.eq_false_iff.mpr refused).symm,by rw [blockFor_buckets,isBlocked_buckets]⟩

theorem decided_grants {now : Nat} {since : ℚ}
    (filled : (state.buckets.lookup key).getD ⟨limit,since⟩ = ⟨level,since⟩) (later : since ≤ now * tick) :
    decided tick limit key now state =
      ((grant (perMinute limit).perSecond limit level (now * tick - since)).1,
        ⟨(grant (perMinute limit).perSecond limit level (now * tick - since)).2,now * tick⟩) := by
  unfold decided
  dsimp only
  cases found : state.buckets.lookup key with
  | some bucket =>
      rw [found,Option.getD_some] at filled
      subst filled
      exact TokenBucket.allow_grants _ later
  | none =>
      rw [found,Option.getD_none] at filled
      have full : (limit : ℚ) = level := congrArg TokenBucket.tokens filled
      subst full
      -- A bucket made now is as full as one that has stood full since.
      have earned : 0 ≤ (now * tick - since) * (perMinute limit).perSecond :=
        mul_nonneg (sub_nonneg.mpr later) (div_nonneg (Nat.cast_nonneg _) (Nat.cast_nonneg _))
      have stands : grant (perMinute limit).perSecond limit limit (now * tick - since) = grant (perMinute limit).perSecond limit limit 0 := by
        unfold grant
        rw [zero_mul,add_zero,min_self,min_eq_right (le_add_of_nonneg_right earned)]
      have made : (TokenBucket.new (perMinute limit).perSecond limit (now * tick)).updatedAt ≤ now * tick := le_refl _
      rw [stands,Option.getD_none,TokenBucket.allow_grants _ made]
      simp only [TokenBucket.new,sub_self]

theorem invites_times (state : SecurityState TokenBucket) (calls : List (Call Message)) :
    (runtime.invites codec view tick listener state calls).map (·.1) = calls.map fun call => call.now * tick := by
  induction calls generalizing state with
  | nil => rfl
  | cons call rest ih => simp only [SecurityRuntime.invites,List.map_cons,ih]

theorem invites_conform {since : ℚ} (held : runtime.listenerByKey (listenerKey listener) = some security) (limits : security.limitsInvites) (ticks : 0 ≤ tick)
    {calls : List (Call Message)} (same : ∀ call ∈ calls, call.identity codec view = identity) (ordered : calls.Pairwise fun first second => first.now ≤ second.now)
    (later : ∀ call ∈ calls, since ≤ call.now * tick) (funded : 0 ≤ level)
    (filled : (state.buckets.lookup ("sip-rate" ++ inviteSubject listener identity)).getD
      ⟨security.config.sipRateLimit.invitePerMinutePerAor,since⟩ = ⟨level,since⟩) :
    Conforms (perMinute security.config.sipRateLimit.invitePerMinutePerAor).perSecond security.config.sipRateLimit.invitePerMinutePerAor
      level since (runtime.invites codec view tick listener state calls) := by
  have rated : 0 ≤ (perMinute security.config.sipRateLimit.invitePerMinutePerAor).perSecond :=
    div_nonneg (Nat.cast_nonneg _) (Nat.cast_nonneg _)
  have sized : (0 : ℚ) ≤ security.config.sipRateLimit.invitePerMinutePerAor := Nat.cast_nonneg _
  induction calls generalizing state level since with
  | nil => exact .done funded
  | cons call rest ih =>
      obtain ⟨first,ordered⟩ := List.pairwise_cons.mp ordered
      obtain ⟨here,same⟩ := List.forall_mem_cons.mp same
      obtain ⟨now,later⟩ := List.forall_mem_cons.mp later
      simp only [SecurityRuntime.invites,here]
      rcases check_cases held limits with ⟨refused,kept⟩ | ⟨verdict,charged⟩
      · rw [refused]
        apply (ih same ordered later funded (by rwa [kept])).unseen rated sized now
        intro verdict member
        have listed := List.mem_map_of_mem (f := (·.1)) member
        rw [invites_times] at listed
        obtain ⟨next,queued,at'⟩ := List.mem_map.mp listed
        rw [← at']
        exact mul_le_mul_of_nonneg_right (Nat.cast_le.mpr (first next queued)) ticks
      · rw [decided_grants filled now] at verdict charged
        have filledUp : 0 ≤ min (level + (call.now * tick - since) * (perMinute security.config.sipRateLimit.invitePerMinutePerAor).perSecond)
            (security.config.sipRateLimit.invitePerMinutePerAor : ℚ) :=
          le_min (add_nonneg funded (mul_nonneg (sub_nonneg.mpr now) rated)) sized
        rw [verdict]
        refine .arrival funded now (grant_pays _ _ _ _).le (ih same ordered ?_ (grant_funded filledUp) ?_)
        · exact fun next queued => mul_le_mul_of_nonneg_right (Nat.cast_le.mpr (first next queued)) ticks
        · rw [charged,AList.lookup_insert,Option.getD_some]

theorem check_pays (held : runtime.listenerByKey (listenerKey listener) = some security) (limits : security.limitsInvites)
    (unblocked : state.blocks = ∅) (bounded : count + 1 ≤ security.config.sipRateLimit.invitePerMinutePerAor)
    (filled : (state.buckets.lookup ("sip-rate" ++ inviteSubject listener identity)).getD
      ⟨security.config.sipRateLimit.invitePerMinutePerAor,0⟩ = ⟨(count + 1 : Nat),0⟩) :
    runtime.checkSipRequest (exactly tick view) 0 listener identity .invite state =
      (none,{state with buckets:=state.buckets.insert ("sip-rate" ++ inviteSubject listener identity) ⟨count,0⟩}) := by
  have passes : state.isBlocked 0 ("sip-block" ++ inviteSubject listener identity) = (false,state) := by
    simp [SecurityState.isBlocked,unblocked]
  have level : min (((count + 1 : Nat) : ℚ) + (((0 : Nat) : ℚ) * tick - 0) *
      (perMinute security.config.sipRateLimit.invitePerMinutePerAor).perSecond)
      (security.config.sipRateLimit.invitePerMinutePerAor : ℚ) = (count : ℚ) + 1 := by
    rw [Nat.cast_zero,zero_mul,sub_zero,zero_mul,add_zero,min_eq_left (Nat.cast_le.mpr bounded)]
    push_cast
    rfl
  have enough : (1 : ℚ) ≤ count + 1 := le_add_of_nonneg_left (Nat.cast_nonneg count)
  have granted : decided tick security.config.sipRateLimit.invitePerMinutePerAor ("sip-rate" ++ inviteSubject listener identity) 0 state =
      (true,⟨count,0⟩) := by
    rw [decided_grants filled (by simp),grant_passed (by rwa [level]),level]
    simp
  rw [check_limited held limits]
  simp only [passes,granted,Bool.false_eq_true,if_false,if_true]

theorem subject_apart (apart : one ≠ other) : "sip-rate" ++ inviteSubject listener one ≠ "sip-rate" ++ inviteSubject listener other := by
  intro same
  simp [inviteSubject] at same
  exact apart same

-- As many INVITEs at one instant as there are tokens, and another that finds a
-- bucket of its own.
theorem invites_burst (held : runtime.listenerByKey (listenerKey listener) = some security) (limits : security.limitsInvites)
    {one other : Message × SocketAddr} (apart : sipRateIdentity codec view one.1 .invite one.2 ≠ sipRateIdentity codec view other.1 .invite other.2)
    (unblocked : state.blocks = ∅) (count : Nat) (bounded : count ≤ security.config.sipRateLimit.invitePerMinutePerAor)
    (filled : (state.buckets.lookup ("sip-rate" ++ inviteSubject listener (sipRateIdentity codec view one.1 .invite one.2))).getD
      ⟨security.config.sipRateLimit.invitePerMinutePerAor,0⟩ = ⟨count,0⟩)
    (fresh : state.buckets.lookup ("sip-rate" ++ inviteSubject listener (sipRateIdentity codec view other.1 .invite other.2)) = none) :
    runtime.invites codec view tick listener state (List.replicate count ⟨0,one.1,one.2⟩ ++ [⟨0,other.1,other.2⟩]) =
      List.replicate (count + 1) (0,true) := by
  induction count generalizing state with
  | zero =>
      obtain ⟨rest,whole⟩ := Nat.exists_eq_succ_of_ne_zero limits.2.2.ne'
      have full : (state.buckets.lookup ("sip-rate" ++ inviteSubject listener (sipRateIdentity codec view other.1 .invite other.2))).getD
          ⟨security.config.sipRateLimit.invitePerMinutePerAor,0⟩ = ⟨(rest + 1 : Nat),0⟩ := by rw [fresh,Option.getD_none,whole]
      simp [SecurityRuntime.invites,Call.identity,check_pays held limits unblocked whole.ge full]
  | succ count ih =>
      simp only [List.replicate_succ,List.cons_append,SecurityRuntime.invites,Call.identity,check_pays held limits unblocked bounded filled]
      refine congrArg₂ List.cons (by simp) (ih unblocked (Nat.le_of_succ_le bounded) ?_ ?_)
      · rw [AList.lookup_insert,Option.getD_some]
      · rw [AList.lookup_insert_ne (subject_apart apart).symm,fresh]

theorem invites_unlimited (held : runtime.listenerByKey (listenerKey listener) = some security) (off : ¬ security.limitsInvites)
    (state : SecurityState TokenBucket) (count : Nat) (one : Message × SocketAddr) :
    runtime.invites codec view tick listener state (List.replicate count ⟨0,one.1,one.2⟩) = List.replicate count (0,true) := by
  induction count with
  | zero => rfl
  | succ count ih =>
      simp only [List.replicate_succ,SecurityRuntime.invites,check_unlimited held off,ih]
      simp

end Check

section Limit
variable {Packet Message Bucket : Type} (codec : Codec Packet Message) (view : SecurityCodec Packet Bucket) (tick : ℚ)
  (runtime : SecurityRuntime) (listener : ProxyListenerConfig)

-- The whole value of the top From header, or the address where it has none.
def fromText (one : Message × SocketAddr) : String := ((codec.topHeaderValue "From" one.1).toOption.join).getD (view.showIp one.2.ip)

variable {codec view} in
theorem identity_invite (message : Message) (peer : SocketAddr) : sipRateIdentity codec view message .invite peer = fromText codec view (message,peer) := by
  unfold sipRateIdentity
  cases codec.extractAor message <;> rfl

-- What the INVITEs of some senders may come to in any window, in seconds.
def InvitesBounded (senders : Set (Message × SocketAddr)) (limit : Nat) : Prop :=
  ∀ (state : SecurityState TokenBucket) (calls : List (Call Message)), (∀ call ∈ calls, (call.message,call.peer) ∈ senders) →
    (∀ call ∈ calls, state.buckets.lookup ("sip-rate" ++ inviteSubject listener (call.identity codec view)) = none) →
    (calls.Pairwise fun first second => first.now ≤ second.now) → ∀ start length, 0 ≤ length →
      (passesIn (runtime.invites codec view tick listener state calls) start length : ℚ) ≤ limit * (1 + length / 60)

variable {codec view tick runtime listener} {security : ListenerSecurityRuntime}

theorem invites_bounded_iff (held : runtime.listenerByKey (listenerKey listener) = some security) (ticks : 0 ≤ tick)
    (senders : Set (Message × SocketAddr)) :
    InvitesBounded codec view tick runtime listener senders security.config.sipRateLimit.invitePerMinutePerAor ↔
      ∀ one ∈ senders, security.limitsInvites ∧ ∀ other ∈ senders, fromText codec view one = fromText codec view other := by
  have identity : ∀ one : Message × SocketAddr, fromText codec view one = sipRateIdentity codec view one.1 .invite one.2 :=
    fun one => (identity_invite one.1 one.2).symm
  simp only [identity]
  constructor
  · intro bounded one sent
    have beyond : ∀ calls, (∀ call ∈ calls, (call.message,call.peer) ∈ senders ∧ call.now = 0) →
        runtime.invites codec view tick listener ⟨∅,∅⟩ calls ≠
          List.replicate (security.config.sipRateLimit.invitePerMinutePerAor + 1) (0,true) := by
      intro calls sends passed
      have counted := bounded ⟨∅,∅⟩ calls (fun call member => (sends call member).1) (fun _ _ => rfl)
        (List.pairwise_of_forall_mem_list fun first one second two => by rw [(sends first one).2,(sends second two).2]) 0 0 (le_refl 0)
      rw [passed,passesIn,List.countP_replicate,if_pos (by simp)] at counted
      push_cast at counted
      linarith
    have limits : security.limitsInvites := by
      by_contra off
      refine beyond (List.replicate _ ⟨0,one.1,one.2⟩) ?_ (invites_unlimited held off ⟨∅,∅⟩ _ one)
      intro call member
      rw [List.eq_of_mem_replicate member]
      exact ⟨sent,rfl⟩
    refine ⟨limits,fun other heard => ?_⟩
    by_contra apart
    refine beyond _ ?_ (invites_burst held limits apart rfl _ (le_refl _) rfl rfl)
    intro call member
    rcases List.mem_append.mp member with first | last
    · rw [List.eq_of_mem_replicate first]
      exact ⟨sent,rfl⟩
    · rw [List.mem_singleton.mp last]
      exact ⟨heard,rfl⟩
  · intro condition state calls sends fresh ordered start length lasts
    cases calls with
    | nil =>
        simp only [SecurityRuntime.invites,passesIn,List.countP_nil,Nat.cast_zero]
        positivity
    | cons call rest =>
        obtain ⟨limits,same⟩ := condition _ (sends call (by simp))
        obtain ⟨first,_⟩ := List.pairwise_cons.mp ordered
        have later : ∀ next ∈ call :: rest, call.now * tick ≤ next.now * tick := by
          intro next queued
          refine mul_le_mul_of_nonneg_right (Nat.cast_le.mpr ?_) ticks
          rcases List.mem_cons.mp queued with rfl | behind
          · exact le_refl _
          · exact first next behind
        have filled : (state.buckets.lookup ("sip-rate" ++ inviteSubject listener (call.identity codec view))).getD
            ⟨security.config.sipRateLimit.invitePerMinutePerAor,call.now * tick⟩ =
              ⟨security.config.sipRateLimit.invitePerMinutePerAor,call.now * tick⟩ := by
          rw [fresh call (by simp),Option.getD_none]
        have conforms : Conforms _ _ _ _ (runtime.invites codec view tick listener state (call :: rest)) :=
          invites_conform held limits ticks (fun next queued => (same _ (sends next queued)).symm) ordered later (Nat.cast_nonneg _) filled
        have window := conforms.window (div_nonneg (Nat.cast_nonneg _) (Nat.cast_nonneg _)) (Nat.cast_nonneg _) start lasts
        refine le_trans window (le_of_eq ?_)
        simp only [Rate.perSecond,perMinute]
        push_cast
        ring

end Limit

section Runs

-- A client that tags each call with its Call-ID.
def taggedFrom (message : Envelope) : String := "<" ++ message.toUri ++ ">;tag=" ++ message.callId

def taggedCodec : Codec Envelope Envelope :=
  {envelopeCodec with topHeaderValue:=fun name message => Except.ok (if name = "From" then some (taggedFrom message) else none)}

def plainCheck : SecurityCodec Envelope Unit where
  showIp _ := "10.0.0.1"
  isProbableSipStartLine _ _ := true
  newBucket _ _ _ := ()
  allow _ _ _ _ := (true,())

def onePerMinute : ListenerSecurityRuntime :=
  let config := {EffectiveProxySecurityConfig.off with sipRateLimit:=⟨true,0,1,60⟩}
  ⟨config,.fromConfig config.geo,.fromConfig config.threatIntel,[],[],[]⟩

def limitedRuntime : SecurityRuntime := ⟨Table.collect [(listenerKey udpListener,onePerMinute)],none,none⟩

def callAs (callId : String) (peer : SocketAddr) : Call Envelope := ⟨0,{request .invite with callId:=callId},peer⟩

-- The tag of the From header is part of what the bucket is keyed by.
theorem retagged_invites_pass : (∀ callId, taggedCodec.extractFromAor (callAs callId clientAddr).message = .ok "sip:200@example.com") ∧
    passesIn (limitedRuntime.invites taggedCodec plainCheck (1 / 1000) udpListener ⟨∅,∅⟩ [callAs "a" clientAddr,callAs "b" clientAddr]) 0 0 = 2 ∧
    onePerMinute.config.sipRateLimit.invitePerMinutePerAor = 1 := by
  refine ⟨fun _ => rfl,?_,rfl⟩
  decide +kernel

theorem same_from_bounded :
    InvitesBounded taggedCodec plainCheck (1 / 1000) limitedRuntime udpListener {one | one.1 = request .invite} 1 := by
  have held : limitedRuntime.listenerByKey (listenerKey udpListener) = some onePerMinute := rfl
  refine (invites_bounded_iff held (by norm_num) {one | one.1 = request .invite}).mpr fun one sent => ⟨⟨rfl,rfl,by decide⟩,fun other heard => ?_⟩
  have here : one.1 = request .invite := sent
  have there : other.1 = request .invite := heard
  rw [fromText,fromText,here,there]
  rfl

end Runs

end Sigproxy.Security
