import Sigproxy.Library.Expiring
import Sigproxy.Library.Program
import Sigproxy.Proxy.Message

namespace Sigproxy.Proxy
open Library Net Cluster Affinity

def udpBranchTtl : Nat := 300000
def pendingRegisterTtl : Nat := 300000
def inviteTransactionTtl : Nat := 300000
def localInviteRejectionTtl : Nat := 300000
def routeMapShards : Nat := 64

structure ProxyListenerConfig where
  bind : String
  transport : SipTransport
  upstreamGroup : String
  deriving DecidableEq, Repr

inductive AdvertiseSide where
  | isPublic
  | internal
  deriving DecidableEq, Repr

inductive RegisterRoutingMode where
  | path
  | contactRewrite
  deriving DecidableEq, Repr

inductive ProxyRegisteredInviteSourceMatch where
  | ip
  | ipPort
  deriving DecidableEq, Repr

structure EffectiveProxySipPolicyConfig where
  requireRegisteredInviteSource : Bool
  registeredInviteSourceMatch : ProxyRegisteredInviteSourceMatch
  deriving DecidableEq, Repr

inductive SecurityDecision where
  | allow
  | drop (reason : String)
  deriving DecidableEq, Repr

-- What is fixed once the server is built.
structure Settings where
  userSpaceSecurityEnabled : Bool
  securityEnabled : ProxyListenerConfig → Bool
  sipPolicy : ProxyListenerConfig → EffectiveProxySipPolicyConfig
  upstreamsContain : SocketAddr → Bool
  upstreamSourcesContain : SocketAddr → Bool
  isAdvertisedOrListenerAddr : SocketAddr → ProxyListenerConfig → Bool
  recordRoute : Bool
  registerRouting : RegisterRoutingMode
  affinity : ProxyAffinityConfig
  affinityKey : ProxyAffinityKey
  udpClientTransactionCacheEntries : Nat
  shardIndex : String → Nat

namespace Settings

def isUpstreamSource (settings : Settings) (peer : SocketAddr) : Bool :=
  settings.upstreamsContain peer || settings.upstreamSourcesContain peer

def udpClientTransactionShardLimit (settings : Settings) : Nat :=
  max ((settings.udpClientTransactionCacheEntries + routeMapShards - 1) / routeMapShards) 1

end Settings

-- The `created_at` of the source's records is the stamp of the entry.
structure UdpBranchRoute where
  clientPeer : SocketAddr
  upstream : SocketAddr
  method : Method
  removeOnFinal : Bool
  clientTransactionKey : Option String
  recordRouteAddrs : List String
  deriving DecidableEq, Repr

structure UdpClientTransactionRoute (Packet : Type) where
  target : UpstreamTarget
  finalResponse : Option Packet
  deriving DecidableEq, Repr

structure InviteTransactionRoute where
  target : UpstreamTarget
  branch : String
  deriving DecidableEq, Repr

structure World (Packet : Type) where
  now : Nat
  nextId : Nat
  udpBranches : Table String (Stamped UdpBranchRoute)
  udpClientTransactions : Table String (Stamped (UdpClientTransactionRoute Packet))
  inviteTransactions : Table String (Stamped InviteTransactionRoute)
  localInviteRejections : Table String (Stamped Unit)
  pendingRegisters : Table String (Stamped PendingRegister)
  state : SharedState
  affinity : AffinityTable

def World.new (Packet : Type) (affinity : ProxyAffinityConfig) : World Packet :=
  ⟨0,1,∅,∅,∅,∅,∅,.empty,.new affinity⟩

-- One constructor for each locked section of the shared maps and for each thing
-- the handlers learn from outside: the firewall, upstream selection and health,
-- the advertised addresses, the sockets and the replicator.
inductive Op (Packet : Type) where
  | checkPacket (listener : ProxyListenerConfig) (peer : SocketAddr) (packet : Packet)
  | checkSipRequest (listener : ProxyListenerConfig) (peer : SocketAddr) (method : Method)
  | selectUpstream (uri : String) (listener : ProxyListenerConfig)
  | isHealthy (addr : SocketAddr)
  | advertisedSipAddr (side : AdvertiseSide) (listener : ProxyListenerConfig) (target : SocketAddr)
  | sendToClient (packet : Packet) (peer : SocketAddr)
  | sendToUpstream (packet : Packet) (upstream : SocketAddr)
  | writeToStream (packet : Packet)
  | sendRequest (upstream : SocketAddr) (branch : String) (packet : Packet) (method : Method)
  | uniqueId
  | lookupUdpBranch (branch : String)
  | insertUdpBranch (branch : String) (route : UdpBranchRoute)
  | removeUdpBranch (branch : String)
  | lookupUdpClientTransaction (key : String)
  | rememberUdpClientTransaction (key : String) (target : UpstreamTarget)
  | rememberUdpClientTransactionFinalResponse (key : String) (response : Packet)
  | removeUdpClientTransaction (key : String)
  | lookupInviteTransaction (key : String)
  | rememberInviteTransaction (key : String) (route : InviteTransactionRoute)
  | rememberLocalInviteRejection (key : String)
  | consumeLocalInviteRejection (key : String)
  | rememberPendingRegister (branch : String) (pending : PendingRegister)
  | takePendingRegister (branch : String)
  | peekContact (aor : String)
  | evictContact (aor : String)
  | lookupAffinityKey (key : AffinityKey)
  | rememberAffinityKeys (keys : List AffinityKey) (target : AffinityTarget)
  | rememberAffinityKey (key : AffinityKey) (target : AffinityTarget) (ttl : Nat)
  | readClock
  | submit (command : ClusterCommand)

@[reducible] def Op.Reply {Packet : Type} : Op Packet → Type
  | .checkPacket .. => SecurityDecision
  | .checkSipRequest .. => Option String
  | .selectUpstream .. => SocketAddr
  | .isHealthy .. => Bool
  | .advertisedSipAddr .. => String
  | .sendToClient .. => Bool
  | .sendToUpstream .. => Bool
  | .writeToStream .. => Bool
  | .sendRequest .. => Except String (List Packet)
  | .uniqueId => Nat
  | .lookupUdpBranch .. => Option UdpBranchRoute
  | .lookupUdpClientTransaction .. => Option (UdpClientTransactionRoute Packet)
  | .lookupInviteTransaction .. => Option InviteTransactionRoute
  | .consumeLocalInviteRejection .. => Bool
  | .takePendingRegister .. => Option PendingRegister
  | .peekContact .. => Option ContactBinding
  | .lookupAffinityKey .. => Option AffinityTarget
  | .readClock => Nat
  | _ => Unit

-- The answer of the surroundings to one call, whichever it is.
structure Choice (Packet : Type) where
  decision : SecurityDecision
  rejection : Option String
  addr : SocketAddr
  flag : Bool
  text : String
  responses : Except String (List Packet)

section Maps
variable {Packet : Type}

def pruneUdpBranches (now : Nat) : Table String (Stamped UdpBranchRoute) → Table String (Stamped UdpBranchRoute) :=
  Expiring.prune udpBranchTtl now

def pruneUdpClientTransactions (now : Nat) :
    Table String (Stamped (UdpClientTransactionRoute Packet)) → Table String (Stamped (UdpClientTransactionRoute Packet)) :=
  Expiring.prune udpBranchTtl now

def pruneInviteTransactions (now : Nat) :
    Table String (Stamped InviteTransactionRoute) → Table String (Stamped InviteTransactionRoute) :=
  Expiring.prune inviteTransactionTtl now

def pruneLocalInviteRejections (now : Nat) : Table String (Stamped Unit) → Table String (Stamped Unit) :=
  Expiring.prune localInviteRejectionTtl now

def prunePendingRegisters (now : Nat) : Table String (Stamped PendingRegister) → Table String (Stamped PendingRegister) :=
  Expiring.prune pendingRegisterTtl now

-- A shard over its limit loses its oldest entries. `fuel` is the number of
-- entries, and each pass removes one.
def enforceUdpClientTransactionShardLimit (settings : Settings) (shard fuel : Nat)
    (transactions : Table String (Stamped (UdpClientTransactionRoute Packet))) :
    Table String (Stamped (UdpClientTransactionRoute Packet)) :=
  match fuel with
  | 0 => transactions
  | fuel + 1 =>
    let held := transactions.entries.filter fun entry => settings.shardIndex entry.1 == shard
    if held.length ≤ settings.udpClientTransactionShardLimit then transactions
    else
      match held.minOn? fun entry => entry.2.createdAt with
      | none => transactions
      | some oldest => enforceUdpClientTransactionShardLimit settings shard fuel (transactions.erase oldest.1)

end Maps

-- Reading the clock and taking the lock are one step here.
def perform {Packet : Type} (settings : Settings) :
    (op : Op Packet) → Choice Packet → World Packet → op.Reply × World Packet
  | .checkPacket ..,choice,w => (choice.decision,w)
  | .checkSipRequest ..,choice,w => (choice.rejection,w)
  | .selectUpstream ..,choice,w => (choice.addr,w)
  | .isHealthy ..,choice,w => (choice.flag,w)
  | .advertisedSipAddr ..,choice,w => (choice.text,w)
  | .sendToClient ..,choice,w => (choice.flag,w)
  | .sendToUpstream ..,choice,w => (choice.flag,w)
  | .writeToStream ..,choice,w => (choice.flag,w)
  | .sendRequest ..,choice,w => (choice.responses,w)
  | .uniqueId,_,w => (w.nextId,{w with nextId:=w.nextId + 1})
  | .lookupUdpBranch branch,_,w =>
    let branches := pruneUdpBranches w.now w.udpBranches
    ((branches.lookup branch).map Stamped.content,{w with udpBranches:=branches})
  | .insertUdpBranch branch route,_,w =>
    let branches := pruneUdpBranches w.now w.udpBranches
    ((),{w with udpBranches:=branches.insert branch ⟨route,w.now⟩})
  | .removeUdpBranch branch,_,w => ((),{w with udpBranches:=w.udpBranches.erase branch})
  | .lookupUdpClientTransaction key,_,w =>
    let transactions := pruneUdpClientTransactions w.now w.udpClientTransactions
    ((transactions.lookup key).map Stamped.content,{w with udpClientTransactions:=transactions})
  | .rememberUdpClientTransaction key target,_,w =>
    let transactions := (pruneUdpClientTransactions w.now w.udpClientTransactions).insert key ⟨⟨target,none⟩,w.now⟩
    let enforced := enforceUdpClientTransactionShardLimit settings (settings.shardIndex key)
      transactions.entries.length transactions
    ((),{w with udpClientTransactions:=enforced})
  | .rememberUdpClientTransactionFinalResponse key response,_,w =>
    let transactions := pruneUdpClientTransactions w.now w.udpClientTransactions
    match transactions.lookup key with
    | some entry =>
      let answered := {entry.content with finalResponse:=some response}
      ((),{w with udpClientTransactions:=transactions.insert key ⟨answered,w.now⟩})
    | none => ((),{w with udpClientTransactions:=transactions})
  | .removeUdpClientTransaction key,_,w => ((),{w with udpClientTransactions:=w.udpClientTransactions.erase key})
  | .lookupInviteTransaction key,_,w =>
    let transactions := pruneInviteTransactions w.now w.inviteTransactions
    ((transactions.lookup key).map Stamped.content,{w with inviteTransactions:=transactions})
  | .rememberInviteTransaction key route,_,w =>
    let transactions := pruneInviteTransactions w.now w.inviteTransactions
    ((),{w with inviteTransactions:=transactions.insert key ⟨route,w.now⟩})
  | .rememberLocalInviteRejection key,_,w =>
    let rejections := pruneLocalInviteRejections w.now w.localInviteRejections
    ((),{w with localInviteRejections:=rejections.insert key ⟨(),w.now⟩})
  | .consumeLocalInviteRejection key,_,w =>
    let rejections := pruneLocalInviteRejections w.now w.localInviteRejections
    ((rejections.lookup key).isSome,{w with localInviteRejections:=rejections.erase key})
  | .rememberPendingRegister branch pending,_,w =>
    let registers := prunePendingRegisters w.now w.pendingRegisters
    ((),{w with pendingRegisters:=registers.insert branch ⟨pending,w.now⟩})
  | .takePendingRegister branch,_,w =>
    let registers := prunePendingRegisters w.now w.pendingRegisters
    ((registers.lookup branch).map Stamped.content,{w with pendingRegisters:=registers.erase branch})
  | .peekContact aor,_,w => (w.state.peek aor,w)
  | .evictContact aor,_,w => ((),{w with state:=w.state.evict aor})
  | .lookupAffinityKey key,_,w =>
    let (target,affinity) := w.affinity.lookupKey w.now key
    (target,{w with affinity:=affinity})
  | .rememberAffinityKeys keys target,_,w => ((),{w with affinity:=(w.affinity.rememberKeys w.now keys target).2})
  | .rememberAffinityKey key target ttl,_,w => ((),{w with affinity:=(w.affinity.rememberKey w.now key target ttl).2})
  | .readClock,_,w => (w.now,w)
  -- The replicator may refuse: not the leader, or a required write failed.
  | .submit command,choice,w => ((),if choice.flag then {w with state:=w.state.apply command} else w)

-- What moves without a handler: time, and the state that replication installs.
inductive Change where
  | elapse (duration : Nat)
  | replicate (state : SharedState) (affinity : AffinityTable)

def World.change {Packet : Type} : Change → World Packet → World Packet
  | .elapse duration,w => {w with now:=w.now + duration}
  | .replicate state affinity,w => {w with state:=state,affinity:=affinity}

abbrev Task (Packet : Type) := Program (@Op.Reply Packet)

abbrev ask {Packet : Type} (op : Op Packet) : Task Packet op.Reply := Program.perform op

end Sigproxy.Proxy
