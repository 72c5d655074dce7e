import Sigproxy.Library.Isolation
import Sigproxy.Library.Sequential
import Sigproxy.Net.AddressText
import Sigproxy.Security.InviteRate

namespace Sigproxy.Security.Sources
open Library Net Proxy Program

section Model

-- The rest of the prefilter.
structure InvalidPacketLog where
  logInvalidPackets : Bool
  invalidLogSamplePerMinute : Nat
  deriving DecidableEq, Repr

structure Configured where
  runtime : SecurityRuntime
  invalidLogs : Table String InvalidPacketLog

-- Each call is one section under a lock. A time is read before the lock is taken, and
-- the two last calls belong to the registrar, which these tables know nothing of.
inductive SecurityOp where
  | readClock
  | readConfigured
  | isBlocked (now : Nat) (key : String)
  | allowBucket (now : Nat) (key : String) (rate : Rate) (burst : Nat)
  | blockFor (now : Nat) (key : String) (seconds : Nat)
  | consumeLocalInviteAck
  | checkSipPolicy

def SecurityOp.Reply : SecurityOp → Type
  | .readClock => Nat
  | .readConfigured => Configured
  | .isBlocked .. => Bool
  | .allowBucket .. => Bool
  | .blockFor .. => Unit
  | .consumeLocalInviteAck => Bool
  | .checkSipPolicy => Option String

abbrev Task := Program SecurityOp.Reply

def ask (op : SecurityOp) : Task op.Reply := perform op

def isBlocked (key : String) : Task Bool := do
  let now ← ask .readClock
  ask (.isBlocked now key)

def allowBucket (key : String) (rate : Rate) (burst : Nat) : Task Bool := do
  if rate.tokens = 0 ∨ burst = 0 then return true
  else
    let now ← ask .readClock
    ask (.allowBucket now key rate burst)

def blockFor (key : String) (seconds : Nat) : Task Unit := do
  if seconds = 0 then return ()
  else
    let now ← ask .readClock
    ask (.blockFor now key seconds)

def consumeLocalInviteAck : Task Bool := ask .consumeLocalInviteAck

structure Inbound (Packet : Type) where
  listener : ProxyListenerConfig
  peer : SocketAddr
  packet : Packet

variable {Packet Message Bucket : Type} (codec : Codec Packet Message) (view : SecurityCodec Packet Bucket) (settings : Settings)

def chargeIp (kind key blockKey : String) (ip : IpAddr) (rate burst blockSeconds : Nat) : Task Bool := do
  if ← allowBucket (ipSecurityKey view kind key ip) (perSecond rate) burst then return true
  else
    blockFor blockKey blockSeconds
    return false

-- What is left of check_packet once the address has not been turned away.
def checkLimits (security : ListenerSecurityRuntime) (listener : ProxyListenerConfig) (peer : SocketAddr) (packet : Packet) :
    Task SecurityDecision := do
  let key := listenerKey listener
  let blockKey := ipSecurityKey view "block" key peer.ip
  let flood := security.config.flood
  let (rate,burst,reason) := floodLimit flood listener.transport
  let unflooded ← (if flood.enabled ∧ 0 < rate ∧ 0 < burst then
      chargeIp view "flood-packets" key blockKey peer.ip rate burst flood.blockSeconds
    else pure true)
  if !unflooded then return .drop reason
  else
    let ipRate := security.config.ipRateLimit
    let unlimited ← (if ipRate.enabled ∧ 0 < ipRate.packetsPerSecond ∧ 0 < ipRate.burst then
        chargeIp view "packets" key blockKey peer.ip ipRate.packetsPerSecond ipRate.burst ipRate.blockSeconds
      else pure true)
    if !unlimited then return .drop "ip-rate-limit"
    else
      let prefilter := security.config.prefilter
      if prefilter.enabled && prefilter.dropInvalidStartLine && !view.isProbableSipStartLine packet prefilter.dropNonSipMethods then
        return .drop "invalid-start-line"
      else return .allow

-- The policies look at what the databases hold at that moment.
def checkPolicies (security : ListenerSecurityRuntime) (listener : ProxyListenerConfig) (peer : SocketAddr) (packet : Packet) :
    Task SecurityDecision := do
  let located ← ask .readConfigured
  match evaluateGeoPolicy security.geoPolicy located.runtime.geo peer.ip with
  | .drop reason => return .drop reason
  | .allow =>
    let listed ← ask .readConfigured
    match evaluateThreatPolicy security.threatPolicy listed.runtime.threat peer.ip with
    | .drop reason => return .drop reason
    | .allow => checkLimits view security listener peer packet

def checkPacket (listener : ProxyListenerConfig) (peer : SocketAddr) (packet : Packet) : Task SecurityDecision := do
  let key := listenerKey listener
  let configured ← ask .readConfigured
  match configured.runtime.listenerByKey key with
  | none => return .allow
  | some security =>
    if !security.config.enabled then return .allow
    else if security.isDenied peer.ip then return .drop "denied-cidr"
    else if !security.isAllowed peer.ip then return .drop "not-allowed-cidr"
    else
      let blocked ← isBlocked (ipSecurityKey view "block" key peer.ip)
      if blocked then return .drop "ip-blocked"
      else if security.isTrusted peer.ip then return .allow
      else checkPolicies view security listener peer packet

def offensesPerMinute (ban : EffectiveProxyDynamicBanConfig) : DynamicOffense → Nat
  | .invalidPacket => ban.invalidPacketsPerMinute
  | .parseError => ban.parseErrorsPerMinute
  | .sipRateViolation => ban.sipRateViolationsPerMinute

def recordDynamicOffense (listener : ProxyListenerConfig) (peer : SocketAddr) (offense : Option DynamicOffense) : Task (Option String) := do
  match offense with
  | none => return none
  | some offense =>
    let key := listenerKey listener
    let configured ← ask .readConfigured
    match configured.runtime.listenerByKey key with
    | none => return none
    | some security =>
      let ban := security.config.dynamicBan
      let limit := offensesPerMinute ban offense
      if !ban.enabled || (security.isTrusted peer.ip && decide (offense ≠ .sipRateViolation)) || decide (limit = 0) then return none
      else
        let bucketKey := "dynamic-ban|" ++ dynamicOffenseKey offense ++ "|" ++ key ++ "|" ++ view.showIp peer.ip
        if ← allowBucket bucketKey (perMinute limit) limit then return none
        else
          blockFor (ipSecurityKey view "block" key peer.ip) ban.banSeconds
          return some "dynamic-ban"

-- The reasons that are counted.
def handleSecurityDrop (listener : ProxyListenerConfig) (peer : SocketAddr) (reason : String) : Task (List String) := do
  let banned ← recordDynamicOffense view listener peer (dynamicOffenseForReason reason)
  return reason :: banned.toList

def recordParseError (listener : ProxyListenerConfig) (peer : SocketAddr) : Task SecurityDecision := do
  let key := listenerKey listener
  let configured ← ask .readConfigured
  match configured.runtime.listenerByKey key with
  | none => return .allow
  | some security =>
    let ipRate := security.config.ipRateLimit
    if !security.config.enabled || !ipRate.enabled || decide (ipRate.parseErrorsPerMinute = 0) then return .allow
    else if ← allowBucket (ipSecurityKey view "parse-errors" key peer.ip) (perMinute ipRate.parseErrorsPerMinute)
        ipRate.parseErrorsPerMinute then return .allow
    else
      blockFor (ipSecurityKey view "block" key peer.ip) ipRate.blockSeconds
      return .drop "parse-error-rate-limit"

def shouldLogInvalidPacket (listener : ProxyListenerConfig) (peer : SocketAddr) : Task Bool := do
  let key := listenerKey listener
  let configured ← ask .readConfigured
  match configured.runtime.listenerByKey key,configured.invalidLogs.lookup key with
  | some security,some log =>
    if !security.config.prefilter.enabled || !log.logInvalidPackets || decide (log.invalidLogSamplePerMinute = 0) then return false
    else allowBucket (ipSecurityKey view "invalid-log" key peer.ip) (perMinute log.invalidLogSamplePerMinute) log.invalidLogSamplePerMinute
  | _,_ => return false

def handleParseError (listener : ProxyListenerConfig) (peer : SocketAddr) : Task (List String × Bool) := do
  let decision ← recordParseError view listener peer
  let reason := match decision with
    | .allow => "parse-error"
    | .drop reason => reason
  let banned ← recordDynamicOffense view listener peer (some .parseError)
  let logged ← shouldLogInvalidPacket view listener peer
  return (reason :: banned.toList,logged)

def checkSipRequest (listener : ProxyListenerConfig) (peer : SocketAddr) (message : Message) (method : Method) : Task (Option String) := do
  if method = .ack ∨ method = .cancel then return none
  else
    let key := listenerKey listener
    let configured ← ask .readConfigured
    match configured.runtime.listenerByKey key with
    | none => return none
    | some security =>
      let limits := security.config.sipRateLimit
      if !security.config.enabled || !limits.enabled then return none
      else
        match SecurityRuntime.sipRateLimit limits method with
        | none => return none
        | some (limit,reason) =>
          let subject := "|" ++ key ++ "|" ++ method.asStr ++ "|" ++ sipRateIdentity codec view message method peer
          if ← isBlocked ("sip-block" ++ subject) then return some "sip-blocked"
          else if ← allowBucket ("sip-rate" ++ subject) (perMinute limit) limit then return none
          else
            blockFor ("sip-block" ++ subject) limits.blockSeconds
            return some reason

inductive Verdict (Message : Type) where
  | dropped (reasons : List String)
  | malformed (reasons : List String) (logged : Bool)
  | response (message : Message)
  | ignored
  | absorbed
  | refused (reasons : List String)
  | admitted (message : Message) (method : Method)

def refuse (listener : ProxyListenerConfig) (peer : SocketAddr) (reason : String) : Task (Verdict Message) := do
  let banned ← recordDynamicOffense view listener peer (some .sipRateViolation)
  return .refused (reason :: banned.toList)

-- handle_udp_packet and handle_tcp_packet up to the decision on a request.
def receive (inbound : Inbound Packet) : Task (Verdict Message) := do
  let ⟨listener,peer,packet⟩ := inbound
  let guarded := settings.userSpaceSecurityEnabled && !settings.isUpstreamSource peer
  match ← (if guarded then checkPacket view listener peer packet else pure .allow) with
  | .drop reason =>
    let reasons ← handleSecurityDrop view listener peer reason
    return .dropped reasons
  | .allow =>
    match codec.parse packet with
    | .error error =>
      let configured ← ask .readConfigured
      if settings.userSpaceSecurityEnabled && configured.runtime.enabled listener then
        let (reasons,logged) ← handleParseError view listener peer
        return .malformed reasons logged
      else .fail error
    | .ok message =>
      if codec.isResponse message then return .response message
      else
        match (codec.method message).bind canonicalSipMethod with
        | none => return .ignored
        | some method =>
          let absorbed : Bool ← (if method = .ack then consumeLocalInviteAck else pure false)
          if absorbed then return .absorbed
          else if !guarded then return .admitted message method
          else
            match ← checkSipRequest codec view listener peer message method with
            | some reason => refuse view listener peer reason
            | none =>
              match ← ask .checkSipPolicy with
              | some reason => refuse view listener peer reason
              | none => return .admitted message method

structure World (Bucket : Type) where
  now : Nat
  configured : Configured
  state : SecurityState Bucket

structure Answers where
  absorbed : Bool
  refusal : Option String

-- A reload takes in new listeners or databases. The prune loop goes through the tables
-- shard by shard with the time it read before.
inductive Change where
  | elapse (passed : Nat)
  | reload (configured : Configured)
  | pruneBlocks (now : Nat) (shard : String → Bool)
  | pruneBuckets (now : Nat) (shard : String → Bool)

def change (idle : Bucket → Nat → Bool) : Change → World Bucket → World Bucket
  | .elapse passed,world => {world with now:=world.now + passed}
  | .reload configured,world => {world with configured:=configured}
  | .pruneBlocks now shard,world =>
    {world with state:={world.state with blocks:=world.state.blocks.retain fun key until' => !shard key || decide (now < until')}}
  | .pruneBuckets now shard,world =>
    {world with state:={world.state with buckets:=world.state.buckets.retain fun key bucket => !shard key || !idle bucket now}}

def respond : (op : SecurityOp) → Answers → World Bucket → op.Reply × World Bucket
  | .readClock,_,world => (world.now,world)
  | .readConfigured,_,world => (world.configured,world)
  | .isBlocked now key,_,world =>
    let (blocked,state) := world.state.isBlocked now key
    (blocked,{world with state:=state})
  | .allowBucket now key rate burst,_,world =>
    let (allowed,state) := world.state.allowBucket view now key rate burst
    (allowed,{world with state:=state})
  | .blockFor now key seconds,_,world => ((),{world with state:=world.state.blockFor now key seconds})
  | .consumeLocalInviteAck,answers,world => (answers.absorbed,world)
  | .checkSipPolicy,answers,world => (answers.refusal,world)

def system (idle : Bucket → Nat → Bool) :
    System SecurityOp.Reply (Inbound Packet) (World Bucket) Answers Change (Verdict Message) where
  handler := receive codec view settings
  perform := respond view
  clock world := world.now
  change := change idle

-- The texts of the addresses as they are.
def spelled : SecurityCodec Packet Bucket := {view with showIp:=fun ip => .ofList ip.text}

end Model

section Alone
variable {Packet Message Bucket : Type} (codec : Codec Packet Message) (settings : Settings) (idle : Bucket → Nat → Bool)
  {First Second : Type}

-- A task that nothing comes between ends with such a value and leaves such tables.
def Settles (view : SecurityCodec Packet Bucket) (world : World Bucket) (program : Task First) (outcome : First × SecurityState Bucket) : Prop :=
  System.Ensures (system codec view settings idle) (fun _ => True)
    (System.Returned fun value after => value = outcome.1 ∧ after = {world with state:=outcome.2}) program world

variable {codec settings idle} {view : SecurityCodec Packet Bucket} {world : World Bucket}

theorem settles_pure (value : First) : Settles codec settings idle view world (pure value) (value,world.state) := ⟨rfl,rfl⟩

theorem settles_bind {program : Task First} {next : First → Task Second} {middle : First × SecurityState Bucket}
    {outcome : Second × SecurityState Bucket} (first : Settles codec settings idle view world program middle)
    (rest : Settles codec settings idle view {world with state:=middle.2} (next middle.1) outcome) :
    Settles codec settings idle view world (program >>= next) outcome := by
  refine System.returned_bind first fun value after both => ?_
  obtain ⟨rfl,rfl⟩ := both
  exact rest

theorem settles_ite {limited : Prop} [Decidable limited] {program other : Task First} {outcome otherwise : First × SecurityState Bucket}
    (yes : limited → Settles codec settings idle view world program outcome)
    (no : ¬ limited → Settles codec settings idle view world other otherwise) :
    Settles codec settings idle view world (if limited then program else other) (if limited then outcome else otherwise) := by
  by_cases held : limited
  · rw [if_pos held,if_pos held]
    exact yes held
  · rw [if_neg held,if_neg held]
    exact no held

theorem readConfigured_settles : Settles codec settings idle view world (ask .readConfigured) (world.configured,world.state) :=
  fun _ _ => ⟨rfl,rfl⟩

theorem isBlocked_settles (key : String) : Settles codec settings idle view world (isBlocked key) (world.state.isBlocked world.now key) :=
  fun _ _ _ _ => ⟨rfl,rfl⟩

theorem allowBucket_settles (key : String) (rate : Rate) (burst : Nat) :
    Settles codec settings idle view world (allowBucket key rate burst) (world.state.allowBucket view world.now key rate burst) := by
  unfold allowBucket
  split
  · rename_i free
    have nothing : world.state.allowBucket view world.now key rate burst = (true,world.state) := if_pos free
    rw [nothing]
    exact settles_pure true
  · exact fun _ _ _ _ => ⟨rfl,rfl⟩

theorem blockFor_settles (key : String) (seconds : Nat) :
    Settles codec settings idle view world (blockFor key seconds) ((),world.state.blockFor world.now key seconds) := by
  unfold blockFor
  split
  · rename_i never
    have nothing : world.state.blockFor world.now key seconds = world.state := if_pos (.inl never)
    rw [nothing]
    exact settles_pure ()
  · exact fun _ _ _ _ => ⟨rfl,rfl⟩

-- A bucket and the ban that its end brings.
theorem charged_settles (key blockKey : String) (rate : Rate) (burst seconds : Nat) (passed refused : First) :
    Settles codec settings idle view world
      (do if ← allowBucket key rate burst then return passed
          else
            blockFor blockKey seconds
            return refused)
      (let charged := world.state.allowBucket view world.now key rate burst
        if charged.1 then (passed,charged.2) else (refused,charged.2.blockFor world.now blockKey seconds)) :=
  settles_bind (allowBucket_settles key rate burst) (settles_ite (fun _ => settles_pure passed) fun _ =>
    settles_bind (blockFor_settles blockKey seconds) (settles_pure refused))

theorem gate_settles (limited : Prop) [Decidable limited] (kind key blockKey : String) (ip : IpAddr) (rate burst seconds : Nat) :
    Settles codec settings idle view world (if limited then chargeIp view kind key blockKey ip rate burst seconds else pure true)
      (if limited then SecurityRuntime.chargeIp view world.now kind key blockKey ip rate burst seconds world.state else (true,world.state)) :=
  settles_ite (fun _ => charged_settles _ blockKey _ burst seconds true false) fun _ => settles_pure true

theorem checkPacket_settles (listener : ProxyListenerConfig) (peer : SocketAddr) (packet : Packet) :
    Settles codec settings idle view world (checkPacket view listener peer packet)
      (world.configured.runtime.checkPacket view world.now listener peer packet world.state) := by
  refine settles_bind readConfigured_settles ?_
  unfold SecurityRuntime.checkPacket
  dsimp only
  cases world.configured.runtime.listenerByKey (listenerKey listener) with
  | none => exact settles_pure _
  | some security =>
      refine settles_ite (fun _ => settles_pure _) fun _ => settles_ite (fun _ => settles_pure _) fun _ => ?_
      refine settles_ite (fun _ => settles_pure _) fun _ => settles_bind (isBlocked_settles _) ?_
      refine settles_ite (fun _ => settles_pure _) fun _ => settles_ite (fun _ => settles_pure _) fun _ => ?_
      refine settles_bind readConfigured_settles ?_
      dsimp only
      cases evaluateGeoPolicy security.geoPolicy world.configured.runtime.geo peer.ip with
      | drop reason => exact settles_pure _
      | allow =>
          refine settles_bind readConfigured_settles ?_
          dsimp only
          cases evaluateThreatPolicy security.threatPolicy world.configured.runtime.threat peer.ip with
          | drop reason => exact settles_pure _
          | allow =>
              refine settles_bind (gate_settles _ _ _ _ _ _ _ _) (settles_ite (fun _ => settles_pure _) fun _ => ?_)
              refine settles_bind (gate_settles _ _ _ _ _ _ _ _) (settles_ite (fun _ => settles_pure _) fun _ => ?_)
              exact settles_ite (fun _ => settles_pure _) fun _ => settles_pure _

theorem checkSipRequest_settles (listener : ProxyListenerConfig) (peer : SocketAddr) (message : Message) (method : Method) :
    Settles codec settings idle view world (checkSipRequest codec view listener peer message method)
      (world.configured.runtime.checkSipRequest view world.now listener (sipRateIdentity codec view message method peer) method world.state) := by
  have unlimited (limits : EffectiveProxySipRateLimitConfig) (skipped : method = .ack ∨ method = .cancel) :
      SecurityRuntime.sipRateLimit limits method = none := by
    rcases skipped with rfl | rfl <;> rfl
  unfold checkSipRequest SecurityRuntime.checkSipRequest
  dsimp only
  split
  · rename_i skipped
    cases world.configured.runtime.listenerByKey (listenerKey listener) with
    | none => exact settles_pure _
    | some security =>
        dsimp only
        rw [unlimited _ skipped]
        split <;> exact settles_pure _
  · refine settles_bind readConfigured_settles ?_
    dsimp only
    cases world.configured.runtime.listenerByKey (listenerKey listener) with
    | none => exact settles_pure _
    | some security =>
        refine settles_ite (fun _ => settles_pure _) fun _ => ?_
        cases SecurityRuntime.sipRateLimit security.config.sipRateLimit method with
        | none => exact settles_pure _
        | some limited =>
            refine settles_bind (isBlocked_settles _) (settles_ite (fun _ => settles_pure _) fun _ => ?_)
            exact charged_settles _ _ _ _ _ _ _

-- Of what such a task ends with, only the tables.
def Leaves (codec : Codec Packet Message) (settings : Settings) (idle : Bucket → Nat → Bool) (view : SecurityCodec Packet Bucket)
    (world : World Bucket) (program : Task First) (state : SecurityState Bucket) : Prop :=
  ∃ value, Settles codec settings idle view world program (value,state)

theorem leaves_pure (value : First) : Leaves codec settings idle view world (pure value) world.state := ⟨value,settles_pure value⟩

theorem leaves_bind {program : Task First} {next : First → Task Second} {middle : First × SecurityState Bucket}
    (first : Settles codec settings idle view world program middle)
    (rest : Leaves codec settings idle view {world with state:=middle.2} (next middle.1) state) :
    Leaves codec settings idle view world (program >>= next) state :=
  ⟨rest.choose,settles_bind first rest.choose_spec⟩

theorem leaves_ite {limited : Prop} [Decidable limited] {program other : Task First}
    (yes : Leaves codec settings idle view world program state) (no : Leaves codec settings idle view world other otherwise) :
    Leaves codec settings idle view world (if limited then program else other) (if limited then state else otherwise) := by
  split
  · exact yes
  · exact no

theorem charged_leaves (key blockKey : String) (rate : Rate) (burst seconds : Nat) (passed refused : First) :
    Leaves codec settings idle view world
      (do if ← allowBucket key rate burst then return passed
          else
            blockFor blockKey seconds
            return refused)
      (let charged := world.state.allowBucket view world.now key rate burst
        if charged.1 then charged.2 else charged.2.blockFor world.now blockKey seconds) :=
  leaves_bind (allowBucket_settles key rate burst) (leaves_ite (leaves_pure passed)
    (leaves_bind (blockFor_settles blockKey seconds) (leaves_pure refused)))

theorem recordDynamicOffense_leaves (listener : ProxyListenerConfig) (peer : SocketAddr) (offense : Option DynamicOffense) :
    Leaves codec settings idle view world (recordDynamicOffense view listener peer offense)
      (world.configured.runtime.recordDynamicOffense view world.now listener peer offense world.state) := by
  unfold SecurityRuntime.recordDynamicOffense
  cases offense with
  | none => exact leaves_pure none
  | some offense =>
      refine leaves_bind readConfigured_settles ?_
      dsimp only
      cases world.configured.runtime.listenerByKey (listenerKey listener) with
      | none => exact leaves_pure none
      | some security =>
          cases offense <;> exact leaves_ite (leaves_pure none) (charged_leaves _ _ _ _ _ none (some "dynamic-ban"))

theorem recordParseError_leaves (listener : ProxyListenerConfig) (peer : SocketAddr) :
    Leaves codec settings idle view world (recordParseError view listener peer)
      (world.configured.runtime.recordParseError view world.now listener peer world.state) := by
  unfold SecurityRuntime.recordParseError
  refine leaves_bind readConfigured_settles ?_
  dsimp only
  cases world.configured.runtime.listenerByKey (listenerKey listener) with
  | none => exact leaves_pure _
  | some security => exact leaves_ite (leaves_pure _) (charged_leaves _ _ _ _ _ _ _)

end Alone

section Keys
variable {Packet Message Bucket : Type} (codec : Codec Packet Message) (view : SecurityCodec Packet Bucket)

def addressKinds : List String :=
  ["block","flood-packets","packets","parse-errors","invalid-log","dynamic-ban|invalid-packet","dynamic-ban|parse-error",
    "dynamic-ban|sip-rate-violation"]

def requestKinds : List String := ["sip-block","sip-rate"]

def requestKey (kind key : String) (method : Method) (identity : String) : String :=
  kind ++ ("|" ++ key ++ "|" ++ method.asStr ++ "|" ++ identity)

-- Whom a packet says that it comes from.
def Claims (inbound : Inbound Packet) (method : Method) (identity : String) : Prop :=
  ∃ message, codec.parse inbound.packet = .ok message ∧ sipRateIdentity codec view message method inbound.peer = identity

-- The entries that a packet can have to do with.
inductive Reaches (inbound : Inbound Packet) : String → Prop where
  | address (kind : String) : kind ∈ addressKinds → Reaches inbound (ipSecurityKey view kind (listenerKey inbound.listener) inbound.peer.ip)
  | request (kind : String) (method : Method) (identity : String) : kind ∈ requestKinds → Claims codec view inbound method identity →
    Reaches inbound (requestKey kind (listenerKey inbound.listener) method identity)

-- Packets of one listener that come from different addresses and speak for
-- different users; and any two of different listeners.
def Apart (one two : Inbound Packet) : Prop :=
  listenerKey one.listener = listenerKey two.listener →
    one.peer.ip ≠ two.peer.ip ∧ ∀ method identity, Claims codec view one method identity → ¬ Claims codec view two method identity

variable {codec view} {one two : Inbound Packet}

theorem listenerKey_free {listener : ProxyListenerConfig} (plain : '|' ∉ listener.bind.toList) : '|' ∉ (listenerKey listener).toList := by
  have named : '|' ∉ listener.transport.asStr.toList := by cases listener.transport <;> decide
  simp [listenerKey,named,plain]

theorem addressKey_toList (kind key : String) (ip : IpAddr) :
    (ipSecurityKey (spelled view) kind key ip).toList = (kind.toList ++ '|' :: key.toList) ++ '|' :: ip.text := by
  simp [ipSecurityKey,spelled]

theorem requestKey_toList (kind key : String) (method : Method) (identity : String) :
    (requestKey kind key method identity).toList = kind.toList ++ '|' :: (key.toList ++ '|' :: (method.asStr.toList ++ '|' :: identity.toList)) := by
  simp [requestKey]

theorem addressKey_inj {kind kind' key key' : String} {ip ip' : IpAddr} (free : '|' ∉ key.toList) (free' : '|' ∉ key'.toList)
    (same : ipSecurityKey (spelled view) kind key ip = ipSecurityKey (spelled view) kind' key' ip') : key = key' ∧ ip = ip' := by
  have texts := congrArg String.toList same
  have spelledFree (ip : IpAddr) : '|' ∉ ip.text := IpAddr.text_free (by decide) (by decide) (by decide) ip
  rw [addressKey_toList,addressKey_toList,Fields.back_inj (spelledFree ip) (spelledFree ip'),Fields.back_inj free free'] at texts
  exact ⟨String.toList_injective texts.1.2,IpAddr.text_inj texts.2⟩

theorem requestKey_inj {kind kind' key key' identity identity' : String} {method method' : Method} (listed : kind ∈ requestKinds)
    (listed' : kind' ∈ requestKinds) (free : '|' ∉ key.toList) (free' : '|' ∉ key'.toList)
    (same : requestKey kind key method identity = requestKey kind' key' method' identity') :
    key = key' ∧ method = method' ∧ identity = identity' := by
  have texts := congrArg String.toList same
  have kindFree : ∀ kind ∈ requestKinds, '|' ∉ kind.toList := by decide
  have methodFree (method : Method) : '|' ∉ method.asStr.toList := by cases method <;> decide
  rw [requestKey_toList,requestKey_toList,Fields.front_inj (kindFree kind listed) (kindFree kind' listed'),Fields.front_inj free free',
    Fields.front_inj (methodFree method) (methodFree method')] at texts
  refine ⟨String.toList_injective texts.2.1,?_,String.toList_injective texts.2.2.2⟩
  have named : method.asStr = method'.asStr := String.toList_injective texts.2.2.1
  revert named
  cases method <;> cases method' <;> decide

-- The first letter tells the two kinds of keys apart.
theorem address_ne_request {kind kind' key key' identity : String} {method : Method} {ip : IpAddr} (listed : kind ∈ addressKinds)
    (listed' : kind' ∈ requestKinds) : ipSecurityKey (spelled view) kind key ip ≠ requestKey kind' key' method identity := by
  intro same
  have heads := congrArg (fun text => text.toList.head?) same
  have addressed : ∀ kind ∈ addressKinds, ∃ letter rest, kind.toList = letter :: rest ∧ letter ≠ 's' := by
    intro kind listed
    have nonempty : ∀ kind ∈ addressKinds, kind.toList.head?.any (· != 's') = true := by decide
    have here := nonempty kind listed
    cases letters : kind.toList with
    | nil => simp [letters] at here
    | cons letter rest => exact ⟨letter,rest,rfl,by simpa [letters] using here⟩
  have requested : ∀ kind ∈ requestKinds, kind.toList.head? = some 's' := by decide
  obtain ⟨letter,rest,begins,other⟩ := addressed kind listed
  have begun := requested kind' listed'
  cases letters : kind'.toList with
  | nil => simp [letters] at begun
  | cons letter' rest' =>
      rw [letters] at begun
      simp only [addressKey_toList,requestKey_toList,begins,letters,List.cons_append,List.head?_cons] at heads
      exact other (by simpa using heads.trans begun)

-- Packets that are apart have no entry in common.
theorem Apart.disjoint (apart : Apart codec (spelled view) one two) (plain : '|' ∉ one.listener.bind.toList)
    (plain' : '|' ∉ two.listener.bind.toList) (first : Reaches codec (spelled view) one key) : ¬ Reaches codec (spelled view) two key := by
  have free := listenerKey_free plain
  have free' := listenerKey_free plain'
  intro second
  generalize named : key = other at second
  cases first with
  | address kind listed =>
      cases second with
      | address kind' listed' =>
          obtain ⟨keys,ips⟩ := addressKey_inj free free' named
          exact (apart keys).1 ips
      | request kind' method identity listed' claimed => exact address_ne_request listed listed' named
  | request kind method identity listed claimed =>
      cases second with
      | address kind' listed' => exact address_ne_request listed' listed named.symm
      | request kind' method' identity' listed' claimed' =>
          obtain ⟨keys,rfl,rfl⟩ := requestKey_inj listed listed' free free' named
          exact (apart keys).2 method identity claimed claimed'

end Keys

section Uses
variable {Packet Message Bucket : Type} {codec : Codec Packet Message} {view : SecurityCodec Packet Bucket} {settings : Settings}
  {reaches : String → Prop} {listener : ProxyListenerConfig} {peer : SocketAddr}

-- The calls that touch such entries only.
def Touches (reaches : String → Prop) : SecurityOp → Prop
  | .isBlocked _ key => reaches key
  | .allowBucket _ key _ _ => reaches key
  | .blockFor _ key _ => reaches key
  | _ => True

theorem isBlocked_uses (reached : reaches key) : (isBlocked key).Uses (Touches reaches) :=
  uses_call trivial fun _ => uses_perform reached

theorem allowBucket_uses (reached : reaches key) (rate : Rate) (burst : Nat) : (allowBucket key rate burst).Uses (Touches reaches) := by
  unfold allowBucket
  split
  · trivial
  · exact uses_call trivial fun _ => uses_perform reached

theorem blockFor_uses (reached : reaches key) (seconds : Nat) : (blockFor key seconds).Uses (Touches reaches) := by
  unfold blockFor
  split
  · trivial
  · exact uses_call trivial fun _ => uses_perform reached

-- A bucket and the ban that its end brings.
theorem charged_uses (bucket : reaches key) (block : reaches blockKey) (rate : Rate) (burst seconds : Nat) (passed refused : Result) :
    (do if ← allowBucket key rate burst then return passed
        else
          blockFor blockKey seconds
          return refused : Task Result).Uses (Touches reaches) := by
  refine uses_bind (allowBucket_uses bucket rate burst) fun allowed => ?_
  cases allowed with
  | true => trivial
  | false => exact uses_bind (blockFor_uses block seconds) fun _ => trivial

section Address
variable (addressed : ∀ kind ∈ addressKinds, reaches (ipSecurityKey view kind (listenerKey listener) peer.ip))
include addressed

theorem checkLimits_uses (security : ListenerSecurityRuntime) (packet : Packet) :
    (checkLimits view security listener peer packet).Uses (Touches reaches) := by
  have block := addressed "block" (by decide)
  have gate (limited : Prop) [Decidable limited] (kind : String) (listed : kind ∈ addressKinds) (rate burst seconds : Nat) :
      (if limited then chargeIp view kind (listenerKey listener) (ipSecurityKey view "block" (listenerKey listener) peer.ip) peer.ip rate burst seconds
        else pure true : Task Bool).Uses (Touches reaches) := by
    split
    · exact charged_uses (addressed kind listed) block _ _ _ true false
    · trivial
  unfold checkLimits
  refine uses_bind (gate _ "flood-packets" (by decide) _ _ _) fun unflooded => ?_
  split
  · trivial
  · refine uses_bind (gate _ "packets" (by decide) _ _ _) fun unlimited => ?_
    split
    · trivial
    · dsimp only
      split <;> trivial

theorem checkPacket_uses (packet : Packet) : (checkPacket view listener peer packet).Uses (Touches reaches) := by
  refine uses_call trivial fun configured => ?_
  split
  · trivial
  · split
    · trivial
    · split
      · trivial
      · split
        · trivial
        · refine uses_bind (isBlocked_uses (addressed "block" (by decide))) fun blocked => ?_
          split
          · trivial
          · split
            · trivial
            · refine uses_call trivial fun located => ?_
              split
              · trivial
              · refine uses_call trivial fun listed => ?_
                split
                · trivial
                · exact checkLimits_uses addressed _ packet

theorem recordDynamicOffense_uses (offense : Option DynamicOffense) :
    (recordDynamicOffense view listener peer offense).Uses (Touches reaches) := by
  cases offense with
  | none => trivial
  | some offense =>
      have listed : "dynamic-ban|" ++ dynamicOffenseKey offense ∈ addressKinds := by cases offense <;> decide
      refine uses_call trivial fun configured => ?_
      split
      · trivial
      · dsimp only
        split
        · trivial
        · exact charged_uses (addressed _ listed) (addressed "block" (by decide)) _ _ _ none (some "dynamic-ban")

theorem handleParseError_uses : (handleParseError view listener peer).Uses (Touches reaches) := by
  have recorded : (recordParseError view listener peer).Uses (Touches reaches) := by
    refine uses_call trivial fun configured => ?_
    split
    · trivial
    · dsimp only
      split
      · trivial
      · exact charged_uses (addressed "parse-errors" (by decide)) (addressed "block" (by decide)) _ _ _ _ _
  have sampled : (shouldLogInvalidPacket view listener peer).Uses (Touches reaches) := by
    refine uses_call trivial fun configured => ?_
    split
    · split
      · trivial
      · exact allowBucket_uses (addressed "invalid-log" (by decide)) _ _
    · trivial
  exact uses_bind recorded fun _ => uses_bind (recordDynamicOffense_uses addressed _) fun _ => uses_bind sampled fun _ => trivial

theorem refuse_uses (reason : String) : (refuse view listener peer reason : Task (Verdict Message)).Uses (Touches reaches) :=
  uses_bind (recordDynamicOffense_uses addressed _) fun _ => trivial

end Address

theorem checkSipRequest_uses {message : Message} {method : Method}
    (claimed : ∀ kind ∈ requestKinds, reaches (requestKey kind (listenerKey listener) method (sipRateIdentity codec view message method peer))) :
    (checkSipRequest codec view listener peer message method).Uses (Touches reaches) := by
  have block := claimed "sip-block" (by decide)
  unfold checkSipRequest
  split
  · trivial
  · refine uses_call trivial fun configured => ?_
    split
    · trivial
    · dsimp only
      split
      · trivial
      · split
        · trivial
        · refine uses_bind (isBlocked_uses block) fun blocked => ?_
          split
          · trivial
          · exact charged_uses (claimed "sip-rate" (by decide)) block _ _ _ _ _

-- A packet touches what it reaches.
theorem receive_uses (inbound : Inbound Packet) : (receive codec view settings inbound).Uses (Touches (Reaches codec view inbound)) := by
  obtain ⟨listener,peer,packet⟩ := inbound
  have addressed (kind : String) (listed : kind ∈ addressKinds) :
      Reaches codec view ⟨listener,peer,packet⟩ (ipSecurityKey view kind (listenerKey listener) peer.ip) := .address kind listed
  have checked : (if settings.userSpaceSecurityEnabled && !settings.isUpstreamSource peer then checkPacket view listener peer packet
      else pure .allow : Task SecurityDecision).Uses (Touches (Reaches codec view ⟨listener,peer,packet⟩)) := by
    split
    · exact checkPacket_uses addressed packet
    · trivial
  refine uses_bind checked fun decision => ?_
  cases decision with
  | drop reason =>
      exact uses_bind (uses_bind (recordDynamicOffense_uses addressed _) fun _ => trivial) fun _ => trivial
  | allow =>
      cases parsed : codec.parse packet with
      | error error =>
          dsimp only
          refine uses_call trivial fun configured => ?_
          split
          · exact uses_bind (handleParseError_uses addressed) fun _ => trivial
          · trivial
      | ok message =>
          dsimp only
          split
          · trivial
          · split
            · trivial
            · rename_i method known
              have asked : (if method = .ack then consumeLocalInviteAck else pure false : Task Bool).Uses
                  (Touches (Reaches codec view ⟨listener,peer,packet⟩)) := by
                split
                · exact uses_perform trivial
                · trivial
              refine uses_bind asked fun absorbed => ?_
              split
              · trivial
              · split
                · trivial
                · have claimed : ∀ kind ∈ requestKinds, Reaches codec view ⟨listener,peer,packet⟩
                      (requestKey kind (listenerKey listener) method (sipRateIdentity codec view message method peer)) :=
                    fun kind listed => .request kind method _ listed ⟨message,parsed,rfl⟩
                  refine uses_bind (checkSipRequest_uses claimed) fun limited => ?_
                  cases limited with
                  | some reason => exact refuse_uses addressed reason
                  | none =>
                      refine uses_call trivial fun refusal => ?_
                      cases refusal with
                      | some reason => exact refuse_uses addressed reason
                      | none => trivial

end Uses

section State
variable {Packet Message Bucket : Type} {view : SecurityCodec Packet Bucket} {reaches : String → Prop}

-- What a call answers and does to an entry is a matter of the entry of its key alone.
theorem isBlocked_reply (state : SecurityState Bucket) (now : Nat) (key : String) :
    (state.isBlocked now key).1 = (state.blocks.lookup key).any fun until' => decide (now < until') := by
  unfold SecurityState.isBlocked
  cases state.blocks.lookup key with
  | none => rfl
  | some until' =>
      dsimp only
      split
      · rename_i runs
        simp [runs]
      · rename_i ended
        simp [ended]

theorem isBlocked_blocks (state : SecurityState Bucket) (now : Nat) (key other : String) :
    (state.isBlocked now key).2.blocks.lookup other =
      if other = key then (state.blocks.lookup key).filter fun until' => decide (now < until') else state.blocks.lookup other := by
  unfold SecurityState.isBlocked
  by_cases same : other = key
  · subst same
    rw [if_pos rfl]
    cases found : state.blocks.lookup other with
    | none => exact found
    | some until' =>
        dsimp only
        split
        · rename_i runs
          simp [Option.filter_some,runs,found]
        · rename_i ended
          simp [Option.filter_some,ended]
  · rw [if_neg same]
    split
    · split
      · rfl
      · exact AList.lookup_erase_ne same
    · rfl

theorem isBlocked_keeps (state : SecurityState Bucket) (now : Nat) (key : String) : (state.isBlocked now key).2.buckets = state.buckets := by
  unfold SecurityState.isBlocked
  split
  · split <;> rfl
  · rfl

def charge (view : SecurityCodec Packet Bucket) (now : Nat) (rate : Rate) (burst : Nat) (bucket : Option Bucket) : Bool × Option Bucket :=
  if rate.tokens = 0 ∨ burst = 0 then (true,bucket)
  else
    let charged := view.allow (bucket.getD (view.newBucket rate burst now)) now rate burst
    (charged.1,some charged.2)

theorem allowBucket_reply (state : SecurityState Bucket) (now : Nat) (key : String) (rate : Rate) (burst : Nat) :
    (state.allowBucket view now key rate burst).1 = (charge view now rate burst (state.buckets.lookup key)).1 := by
  unfold SecurityState.allowBucket charge
  split <;> rfl

theorem allowBucket_buckets (state : SecurityState Bucket) (now : Nat) (key other : String) (rate : Rate) (burst : Nat) :
    (state.allowBucket view now key rate burst).2.buckets.lookup other =
      if other = key then (charge view now rate burst (state.buckets.lookup key)).2 else state.buckets.lookup other := by
  unfold SecurityState.allowBucket charge
  split
  · split
    · rename_i same
      rw [same]
    · rfl
  · exact Table.lookup_insert_eq _ _ _ _

theorem allowBucket_keeps (state : SecurityState Bucket) (now : Nat) (key : String) (rate : Rate) (burst : Nat) :
    (state.allowBucket view now key rate burst).2.blocks = state.blocks := by
  unfold SecurityState.allowBucket
  split <;> rfl

theorem blockFor_own {first second : SecurityState Bucket} (same : first.blocks.lookup key = second.blocks.lookup key) (now seconds : Nat) :
    (first.blockFor now key seconds).blocks.lookup key = (second.blockFor now key seconds).blocks.lookup key := by
  unfold SecurityState.blockFor
  dsimp only
  rw [same]
  split
  · exact same
  · cases found : second.blocks.lookup key with
    | none => simp
    | some existing =>
        dsimp only
        split
        · exact same.trans found |>.trans found.symm
        · simp

theorem blockFor_other (apart : other ≠ key) (state : SecurityState Bucket) (now seconds : Nat) :
    (state.blockFor now key seconds).blocks.lookup other = state.blocks.lookup other := by
  unfold SecurityState.blockFor
  dsimp only
  split
  · rfl
  · split
    · split
      · rfl
      · exact AList.lookup_insert_ne apart
    · exact AList.lookup_insert_ne apart

theorem blockFor_keeps (state : SecurityState Bucket) (now seconds : Nat) (key : String) : (state.blockFor now key seconds).buckets = state.buckets := by
  unfold SecurityState.blockFor
  dsimp only
  split
  · rfl
  · split
    · split <;> rfl
    · rfl

end State

section Isolation
variable {Packet Message Bucket : Type} {codec : Codec Packet Message} {view : SecurityCodec Packet Bucket} {settings : Settings}
  {idle : Bucket → Nat → Bool} {reaches : String → Prop} {first second : World Bucket}

-- Two worlds that the given entries do not tell apart.
structure Agree (reaches : String → Prop) (first second : World Bucket) : Prop where
  now : first.now = second.now
  configured : first.configured = second.configured
  blocks : ∀ key, reaches key → first.state.blocks.lookup key = second.state.blocks.lookup key
  buckets : ∀ key, reaches key → first.state.buckets.lookup key = second.state.buckets.lookup key

theorem agree_refl (reaches : String → Prop) (world : World Bucket) : Agree reaches world world :=
  ⟨rfl,rfl,fun _ _ => rfl,fun _ _ => rfl⟩

theorem respond_aside (op : SecurityOp) (answers : Answers) (aside : Touches (fun key => ¬ reaches key) op)
    (agree : Agree reaches first second) : Agree reaches (respond view op answers first).2 second := by
  have apart {key other : String} (outside : ¬ reaches key) (reached : reaches other) : other ≠ key := by
    rintro rfl
    exact outside reached
  obtain ⟨now,configured,blocks,buckets⟩ := agree
  cases op with
  | readClock => exact ⟨now,configured,blocks,buckets⟩
  | readConfigured => exact ⟨now,configured,blocks,buckets⟩
  | consumeLocalInviteAck => exact ⟨now,configured,blocks,buckets⟩
  | checkSipPolicy => exact ⟨now,configured,blocks,buckets⟩
  | isBlocked time key =>
      refine ⟨now,configured,fun other reached => ?_,fun other reached => ?_⟩
      · rw [← blocks other reached]
        exact (isBlocked_blocks ..).trans (if_neg (apart aside reached))
      · simp only [respond,isBlocked_keeps,buckets other reached]
  | allowBucket time key rate burst =>
      refine ⟨now,configured,fun other reached => ?_,fun other reached => ?_⟩
      · simp only [respond,allowBucket_keeps,blocks other reached]
      · rw [← buckets other reached]
        exact (allowBucket_buckets ..).trans (if_neg (apart aside reached))
  | blockFor time key seconds =>
      refine ⟨now,configured,fun other reached => ?_,fun other reached => ?_⟩
      · rw [← blocks other reached]
        exact blockFor_other (apart aside reached) ..
      · simp only [respond,blockFor_keeps,buckets other reached]

theorem respond_determined (op : SecurityOp) (answers : Answers) (inside : Touches reaches op) (agree : Agree reaches first second) :
    (respond view op answers first).1 = (respond view op answers second).1 ∧
      Agree reaches (respond view op answers first).2 (respond view op answers second).2 := by
  obtain ⟨now,configured,blocks,buckets⟩ := agree
  cases op with
  | readClock => exact ⟨now,now,configured,blocks,buckets⟩
  | readConfigured => exact ⟨configured,now,configured,blocks,buckets⟩
  | consumeLocalInviteAck => exact ⟨rfl,now,configured,blocks,buckets⟩
  | checkSipPolicy => exact ⟨rfl,now,configured,blocks,buckets⟩
  | isBlocked time key =>
      have here := blocks key inside
      refine ⟨?_,now,configured,fun other reached => ?_,fun other reached => ?_⟩
      · show (first.state.isBlocked time key).1 = (second.state.isBlocked time key).1
        rw [isBlocked_reply,isBlocked_reply,here]
      · simp only [respond,isBlocked_blocks,here,blocks other reached]
      · simp only [respond,isBlocked_keeps,buckets other reached]
  | allowBucket time key rate burst =>
      have here := buckets key inside
      refine ⟨?_,now,configured,fun other reached => ?_,fun other reached => ?_⟩
      · show (first.state.allowBucket view time key rate burst).1 = (second.state.allowBucket view time key rate burst).1
        rw [allowBucket_reply,allowBucket_reply,here]
      · simp only [respond,allowBucket_keeps,blocks other reached]
      · simp only [respond,allowBucket_buckets,here,buckets other reached]
  | blockFor time key seconds =>
      refine ⟨rfl,now,configured,fun other reached => ?_,fun other reached => ?_⟩
      · by_cases same : other = key
        · subst same
          exact blockFor_own (blocks other reached) ..
        · simp only [respond,blockFor_other same,blocks other reached]
      · simp only [respond,blockFor_keeps,buckets other reached]

theorem change_agree (made : Change) (agree : Agree reaches first second) : Agree reaches (change idle made first) (change idle made second) := by
  obtain ⟨now,configured,blocks,buckets⟩ := agree
  cases made with
  | elapse passed => exact ⟨congrArg (· + passed) now,configured,blocks,buckets⟩
  | reload loaded => exact ⟨now,rfl,blocks,buckets⟩
  | pruneBlocks time shard =>
      refine ⟨now,configured,fun other reached => ?_,buckets⟩
      simp only [change,Table.lookup_retain,blocks other reached]
  | pruneBuckets time shard =>
      refine ⟨now,configured,blocks,fun other reached => ?_⟩
      simp only [change,Table.lookup_retain,buckets other reached]

variable (codec view) in
-- What some packets of a run can reach.
def ReachedBy (inputs : List (Inbound Packet)) (mine : Inbound Packet → Bool) (key : String) : Prop :=
  ∃ inbound ∈ inputs, mine inbound = true ∧ Reaches codec view inbound key

theorem sources_isolates {inputs : List (Inbound Packet)} {mine : Inbound Packet → Bool} (plain : ∀ inbound ∈ inputs, '|' ∉ inbound.listener.bind.toList)
    (apart : ∀ one ∈ inputs, ∀ two ∈ inputs, mine one = true → mine two = false → Apart codec (spelled view) one two) :
    let reached := ReachedBy codec (spelled view) inputs mine
    (system codec (spelled view) settings idle).Isolates inputs mine (Agree reached) (Touches reached) (Touches fun key => ¬ reached key) where
  own inbound listed own := (receive_uses inbound).mono fun op touched => by
    cases op <;> first | trivial | exact ⟨inbound,listed,own,touched⟩
  others inbound listed other := (receive_uses inbound).mono fun op touched => by
    have clear {key : String} (reaches : Reaches codec (spelled view) inbound key) : ¬ ReachedBy codec (spelled view) inputs mine key := by
      rintro ⟨one,member,own,found⟩
      exact (apart one member inbound listed own other).disjoint (plain one member) (plain inbound listed) found reaches
    cases op <;> first | trivial | exact clear touched
  apart op choice _ _ aside agree := respond_aside op choice aside agree
  determined op choice _ _ inside agree := respond_determined op choice inside agree
  changes made _ _ agree := change_agree made agree

-- Whatever packets come from other addresses for other users, and in whatever order
-- the calls of all of them take the locks, a packet is decided as if the others had
-- never been looked at.
theorem sources_isolated {world : World Bucket} {actions : List (System.Action (Inbound Packet) Answers Change)}
    {final : Pool SecurityOp.Reply (Inbound Packet) (World Bucket) (Verdict Message)} {mine : Inbound Packet → Bool}
    (plain : ∀ inbound ∈ final.inputs, '|' ∉ inbound.listener.bind.toList)
    (apart : ∀ one ∈ final.inputs, ∀ two ∈ final.inputs, mine one = true → mine two = false → Apart codec (spelled view) one two)
    (ran : Machine.run (system codec (spelled view) settings idle).advance (System.start world) actions = some final) :
    ∃ alone, Machine.run (system codec (spelled view) settings idle).advance (System.start world)
        (actions.filter (System.keeps mine final.inputs)) = some alone ∧
      ∀ (task : Nat) inbound, final.inputs[task]? = some inbound → mine inbound = true →
        alone.tasks[task]? = final.tasks[task]? ∧ System.own task alone.history = System.own task final.history := by
  obtain ⟨alone,went,alike⟩ := System.run_alike (sources_isolates plain apart) (agree_refl _ world) ran List.prefix_rfl
  exact ⟨alone,went,fun task inbound found own => ⟨alike.tasks task inbound found own,alike.history task inbound found own⟩⟩

-- A bucket at one moment: so many more.
def countingCheck : SecurityCodec Envelope Nat where
  showIp _ := ""
  isProbableSipStartLine _ _ := true
  newBucket _ burst _ := burst
  allow bucket _ _ _ := (decide (0 < bucket),bucket - 1)

def oneAtATime : ListenerSecurityRuntime :=
  let config := {EffectiveProxySecurityConfig.off with ipRateLimit:=⟨true,1,1,0,60⟩}
  ⟨config,.fromConfig config.geo,.fromConfig config.threatIntel,[],[],[]⟩

def guardedWorld : World Nat := ⟨0,⟨⟨Table.collect [(listenerKey udpListener,oneAtATime)],none,none⟩,∅⟩,⟨∅,∅⟩⟩

def callFrom (caller : String) (peer : SocketAddr) : Inbound Envelope := ⟨udpListener,peer,{request .invite with toUri:=caller,callId:=caller}⟩

def isClient (inbound : Inbound Envelope) : Bool := decide (inbound.peer = clientAddr)

-- The packet of the second caller is looked at while that of the first one waits.
def turns (task count : Nat) : List (System.Action (Inbound Envelope) Answers Change) := .replicate count (.step task ⟨false,none⟩)

def crossing : List (System.Action (Inbound Envelope) Answers Change) :=
  [.spawn (callFrom "sip:a" clientAddr),.spawn (callFrom "sip:b" (host 9))] ++ turns 0 1 ++ turns 1 9 ++ turns 0 8

def guarded : System SecurityOp.Reply (Inbound Envelope) (World Nat) Answers Change (Verdict Envelope) :=
  system taggedCodec (spelled countingCheck) {plainSettings with userSpaceSecurityEnabled:=true} fun _ _ => false

theorem crossing_isolated : ∃ final, Machine.run guarded.advance (System.start guardedWorld) crossing = some final ∧
    ∃ alone, Machine.run guarded.advance (System.start guardedWorld) (crossing.filter (System.keeps isClient final.inputs)) = some alone ∧
      ∀ (task : Nat) inbound, final.inputs[task]? = some inbound → isClient inbound = true →
        alone.tasks[task]? = final.tasks[task]? ∧ System.own task alone.history = System.own task final.history := by
  obtain ⟨final,ran⟩ : ∃ final, Machine.run guarded.advance (System.start guardedWorld) crossing = some final :=
    Option.isSome_iff_exists.mp rfl
  have inputs : some final.inputs = some [callFrom "sip:a" clientAddr,callFrom "sip:b" (host 9)] :=
    (congrArg (Option.map Pool.inputs) ran).symm.trans rfl
  have given := Option.some.inj inputs
  refine ⟨final,ran,sources_isolated ?_ ?_ ran⟩
  · simp [given,callFrom,udpListener]
  · have claims : Apart taggedCodec (spelled countingCheck) (callFrom "sip:a" clientAddr) (callFrom "sip:b" (host 9)) := by
      refine fun _ => ⟨by decide,fun method identity one two => ?_⟩
      obtain ⟨_,sent,rfl⟩ := one
      obtain ⟨_,other,claimed⟩ := two
      cases sent
      cases other
      revert claimed
      cases method <;> decide
    rw [given]
    intro one first two second own other
    simp only [List.mem_cons,List.not_mem_nil,or_false] at first second
    rcases first with rfl | rfl
    · rcases second with rfl | rfl
      · exact absurd other (by decide)
      · exact claims
    · exact absurd own (by decide)

end Isolation

end Sigproxy.Security.Sources
