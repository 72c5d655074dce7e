import Sigproxy.Config
import Sigproxy.Upstream.Hysteresis

namespace Sigproxy.Upstream.Routing
open Library Net Config
open Proxy (UpstreamTarget)
open Security (withContext)

section Table

structure SelectedRoute where
  name : String
  upstreamGroup : String
  deriving DecidableEq, Repr

structure RouteEntry where
  name : String
  listener : Option String
  domain : Option String
  uriPrefix : Option String
  upstreamGroup : String
  deriving DecidableEq, Repr

structure RouteTable where
  routes : List RouteEntry
  deriving DecidableEq, Repr

def listenerAliases (listener : ProxyListener) : List (String × List String) :=
  let concreteKeys := listener.concreteListeners.map ProxyListener.key
  (listener.key,concreteKeys) :: concreteKeys.map fun key => (key,[key])

def listenerRouteAliases (config : ProxyConfig) : Table String (List String) := Table.collect (config.listeners.flatMap listenerAliases)

namespace RouteEntry

def tryFromWithListener (value : RouteConfig) (listener : Option String) : Except String RouteEntry :=
  .ok ⟨value.name,listener,value.domain,value.uriPrefix,value.upstreamGroup⟩

def specificity (route : RouteEntry) : Nat := route.listener.isSome.toNat + route.domain.isSome.toNat + route.uriPrefix.isSome.toNat

end RouteEntry

def expandRouteListeners (route : RouteConfig) (known : Table String (List String)) : List (Except String RouteEntry) :=
  match route.listener with
  | some listener => ((known.lookup listener).getD [listener]).map fun listener =>
    RouteEntry.tryFromWithListener route (some listener)
  | none => [RouteEntry.tryFromWithListener route none]

variable (parsers : Parsers)

def uriHostMatches (uri domain : String) : Bool :=
  match parsers.uri uri with
  | .error _ => false
  | .ok uri => eqIgnoreAsciiCase uri.host domain

def RouteEntry.matches (route : RouteEntry) (listenerKey uri : String) : Bool :=
  (route.listener.all fun listener => listener == listenerKey) && (route.domain.all fun domain => uriHostMatches parsers uri domain) &&
    route.uriPrefix.all fun start => Proxy.startsWith uri start

namespace RouteTable

def new (config : ProxyConfig) : Except String RouteTable := do
  let known := listenerRouteAliases config
  let routes ← (config.routes.flatMap fun route => expandRouteListeners route known).mapM id
  return ⟨routes⟩

-- Of several routes that are equally specific the last one is taken.
def select (table : RouteTable) (listenerKey uri : String) : Option SelectedRoute :=
  ((table.routes.filter fun route => route.matches parsers listenerKey uri).reverse.maxOn? RouteEntry.specificity).map fun route =>
    ⟨route.name,route.upstreamGroup⟩

end RouteTable
end Table

section Server
variable (parsers : Parsers) (toSocketAddrs : String → Except String (List SocketAddr))

def resolveUpstreamServer (group server : String) : Except String SocketAddr :=
  match parsers.socketAddr server with
  | .ok addr => .ok addr
  | .error _ => do
    let addrs ← withContext ("failed to resolve upstream '" ++ server ++ "' in group '" ++ group ++ "'") (toSocketAddrs server)
    match addrs.head? with
    | some addr => return addr
    | none => .error ("upstream '" ++ server ++ "' in group '" ++ group ++ "' did not resolve to any address")

-- Of the server, what a request that has no other target is routed with.
structure ProxyServer where
  routes : RouteTable
  upstreams : UpstreamGroups

namespace ProxyServer

-- `others` stands for what else is built from the configuration and may fail.
def new (others : Config → UpstreamGroups → Except String Unit) (config : Config) : Except String ProxyServer := do
  let routes ← withContext "failed to build proxy route table" (RouteTable.new config.proxy)
  let upstreams ← withContext "failed to build upstream groups"
    (UpstreamGroups.new (resolveUpstreamServer parsers toSocketAddrs) config.proxy.upstreamGroups)
  others config upstreams
  return ⟨routes,upstreams⟩

-- An error here is a panic of the caller.
def selectUpstream (server : ProxyServer) (uri : String) (listener : ProxyListener) : Except String UpstreamTarget × ProxyServer :=
  let group := ((server.routes.select parsers listener.key uri).map SelectedRoute.upstreamGroup).getD listener.upstreamGroup
  let (selected,upstreams) := server.upstreams.select group
  let target := withContext "configuration should validate upstream group references" selected
  (target.map fun addr => ⟨addr,listener.transport⟩,{server with upstreams:=upstreams})

end ProxyServer
end Server

section Purpose
variable (parsers : Parsers)

-- What a route asks of a request that came in on a listener: the listener itself or
-- the configured one that it was made from, the host, and how the address begins.
def Applies (route : RouteConfig) (configured listener : ProxyListener) (uri : String) : Prop :=
  (∀ key ∈ route.listener, key = listener.key ∨ key = configured.key) ∧
  (∀ domain ∈ route.domain, ∃ parsed, parsers.uri uri = .ok parsed ∧ eqIgnoreAsciiCase parsed.host domain = true) ∧
  ∀ start ∈ route.uriPrefix, start.toList <+: uri.toList

def criteria (route : RouteConfig) : Nat := route.listener.toList.length + route.domain.toList.length + route.uriPrefix.toList.length

end Purpose

section Keys

theorem key_eq (listener : ProxyListener) : listener.key = listener.transport.asStr ++ "/" ++ listener.bind := rfl

-- A key tells the transport and the address.
theorem key_injective {first second : ProxyListener} (same : first.key = second.key) :
    first.transport = second.transport ∧ first.bind = second.bind := by
  have chars := congrArg String.toList same
  simp only [key_eq,String.toList_append] at chars
  cases one : first.transport <;> cases two : second.transport <;> rw [one,two] at chars <;> simp [SipTransport.asStr] at chars
  all_goals exact ⟨rfl,String.toList_inj.mp chars⟩

theorem mem_concreteListeners {listener configured : ProxyListener} (member : listener ∈ configured.concreteListeners) :
    listener.bind = configured.bind ∧ listener.transport ∈ concreteTransports configured.transport ∧
    listener.upstreamGroup = configured.upstreamGroup := by
  obtain ⟨transport,listed,rfl⟩ := List.mem_map.mp member
  exact ⟨rfl,listed,rfl⟩

-- A listener of one transport stands for itself.
theorem concrete_key {listener configured other : ProxyListener} (member : listener ∈ configured.concreteListeners)
    (same : other.transport = listener.transport) (bound : other.bind = listener.bind) :
    other.concreteListeners.map ProxyListener.key = [listener.key] := by
  obtain ⟨-,transport,-⟩ := mem_concreteListeners member
  have single : concreteTransports listener.transport = [listener.transport] := by
    cases whole : configured.transport <;> rw [whole] at transport <;> simp [concreteTransports] at transport
    · rw [transport]; rfl
    · rw [transport]; rfl
    · obtain udp | tcp := transport
      · rw [udp]; rfl
      · rw [tcp]; rfl
  rw [ProxyListener.concreteListeners,same,single]
  simp only [List.map_cons,List.map_nil,ProxyListener.withTransport,key_eq,bound]

theorem concreteKeys_congr {first second : ProxyListener} (same : first.key = second.key) :
    first.concreteListeners.map ProxyListener.key = second.concreteListeners.map ProxyListener.key := by
  obtain ⟨transport,bind⟩ := key_injective same
  simp only [ProxyListener.concreteListeners,transport,List.map_map]
  exact List.map_congr_left fun _ _ => by simp [ProxyListener.withTransport,key_eq,bind]

end Keys

section Aliases
variable {config : ProxyConfig}

theorem alias_pairs (found : (listenerRouteAliases config).lookup key = some keys) : ∃ other ∈ config.listeners,
    (key = other.key ∧ keys = other.concreteListeners.map ProxyListener.key) ∨
    ∃ concrete ∈ other.concreteListeners, key = concrete.key ∧ keys = [concrete.key] := by
  rw [listenerRouteAliases,Table.lookup_collect] at found
  obtain ⟨pair,last,rfl⟩ := Option.map_eq_some_iff.mp found
  obtain ⟨same,member⟩ := lastFor_some last
  obtain ⟨other,listed,made⟩ := List.mem_flatMap.mp member
  rw [← of_decide_eq_true same]
  refine ⟨other,listed,?_⟩
  obtain rfl | made := List.mem_cons.mp made
  · exact .inl ⟨rfl,rfl⟩
  · obtain ⟨_,concreteKey,rfl⟩ := List.mem_map.mp made
    obtain ⟨concrete,standing,rfl⟩ := List.mem_map.mp concreteKey
    exact .inr ⟨concrete,standing,rfl,rfl⟩

theorem alias_known (listed : other ∈ config.listeners) : (listenerRouteAliases config).lookup other.key ≠ none := by
  rw [listenerRouteAliases,Table.lookup_collect,ne_eq,Option.map_eq_none_iff,lastFor,List.find?_eq_none]
  intro none
  have member : (other.key,other.concreteListeners.map ProxyListener.key) ∈ config.listeners.flatMap listenerAliases :=
    List.mem_flatMap.mpr ⟨other,listed,List.mem_cons_self⟩
  exact none _ (List.mem_reverse.mpr member) (decide_eq_true rfl)

-- No two configured listeners share a concrete one.
theorem concrete_apart (distinct : ((config.listeners.flatMap ProxyListener.concreteListeners).map ProxyListener.key).Nodup)
    (first : configured ∈ config.listeners) (second : other ∈ config.listeners) (own : listener ∈ configured.concreteListeners)
    (theirs : concrete ∈ other.concreteListeners) (same : listener.key = concrete.key) : configured = other := by
  by_contra differ
  rw [List.map_flatMap,List.nodup_flatMap] at distinct
  have symmetric : Std.Symm (Function.onFun List.Disjoint fun other : ProxyListener => other.concreteListeners.map ProxyListener.key) :=
    ⟨fun _ _ disjoint => disjoint.symm⟩
  have apart := distinct.2.forall first second differ
  exact apart (List.mem_map_of_mem own) (same ▸ List.mem_map_of_mem theirs)

-- The keys that a route's listener stands for are those that the listener itself or
-- its configured one answers to.
theorem alias_iff (distinct : ((config.listeners.flatMap ProxyListener.concreteListeners).map ProxyListener.key).Nodup)
    (listed : configured ∈ config.listeners) (own : listener ∈ configured.concreteListeners) (key : String) :
    listener.key ∈ ((listenerRouteAliases config).lookup key).getD [key] ↔ key = listener.key ∨ key = configured.key := by
  obtain ⟨bind,-,-⟩ := mem_concreteListeners own
  cases found : (listenerRouteAliases config).lookup key with
  | none =>
      rw [Option.getD_none,List.mem_singleton]
      constructor
      · exact fun same => .inl same.symm
      · intro either
        rcases either with same | rfl
        · exact same.symm
        · exact absurd found (alias_known listed)
  | some keys =>
      obtain ⟨other,standing,⟨rfl,rfl⟩ | ⟨concrete,theirs,rfl,rfl⟩⟩ := alias_pairs found
      · rw [Option.getD_some]
        constructor
        · intro member
          obtain ⟨concrete,theirs,same⟩ := List.mem_map.mp member
          exact .inr (congrArg _ (concrete_apart distinct listed standing own theirs same.symm).symm)
        · intro either
          rcases either with same | same
          · obtain ⟨transport,bound⟩ := key_injective same
            rw [concrete_key own transport bound]
            exact List.mem_singleton_self _
          · rw [concreteKeys_congr same]
            exact List.mem_map_of_mem own
      · rw [Option.getD_some,List.mem_singleton]
        constructor
        · exact fun same => .inl same.symm
        · intro either
          rcases either with same | same
          · exact same.symm
          · obtain ⟨transport,bound⟩ := key_injective same.symm
            have single := concrete_key theirs transport bound
            have member : listener.key ∈ configured.concreteListeners.map ProxyListener.key := List.mem_map_of_mem own
            rw [single] at member
            exact List.mem_singleton.mp member

end Aliases

section Routes
variable {parsers : Parsers} {config : ProxyConfig}

theorem mem_routes (built : RouteTable.new config = .ok table) : entry ∈ table.routes ↔
    ∃ route ∈ config.routes, .ok entry ∈ expandRouteListeners route (listenerRouteAliases config) := by
  obtain ⟨routes,collected,done⟩ := bind_ok.mp built
  cases done
  have same : (config.routes.flatMap fun route => expandRouteListeners route (listenerRouteAliases config)) = routes.map .ok := by
    rw [← List.forall₂_eq_eq_eq,List.forall₂_map_right_iff]
    exact mapM_ok.mp collected
  rw [← List.mem_flatMap,same]
  simp

theorem mem_expanded : .ok entry ∈ expandRouteListeners route known ↔ entry.name = route.name ∧ entry.domain = route.domain ∧
    entry.uriPrefix = route.uriPrefix ∧ entry.upstreamGroup = route.upstreamGroup ∧
    match route.listener with
    | none => entry.listener = none
    | some key => ∃ concrete ∈ (known.lookup key).getD [key], entry.listener = some concrete := by
  obtain ⟨name,listener,domain,start,group⟩ := entry
  cases named : route.listener with
  | none =>
      simp only [expandRouteListeners,named,RouteEntry.tryFromWithListener,List.mem_singleton,Except.ok.injEq,RouteEntry.mk.injEq]
      tauto
  | some key =>
      simp only [expandRouteListeners,named,RouteEntry.tryFromWithListener,List.mem_map,Except.ok.injEq,RouteEntry.mk.injEq]
      constructor
      · intro given
        rcases given with ⟨concrete,member,rfl,rfl,rfl,rfl,rfl⟩
        exact ⟨rfl,rfl,rfl,rfl,concrete,member,rfl⟩
      · intro given
        rcases given with ⟨rfl,rfl,rfl,rfl,concrete,member,rfl⟩
        exact ⟨concrete,member,rfl,rfl,rfl,rfl,rfl⟩

theorem specificity_expanded (expanded : .ok entry ∈ expandRouteListeners route known) : entry.specificity = criteria route := by
  obtain ⟨-,domain,start,-,listener⟩ := mem_expanded.mp expanded
  have isSome : entry.listener.isSome = route.listener.isSome := by
    cases named : route.listener with
    | none =>
        rw [named] at listener
        rw [listener]
    | some key =>
        rw [named] at listener
        obtain ⟨concrete,-,same⟩ := listener
        rw [same]
        rfl
  rw [RouteEntry.specificity,isSome,domain,start,criteria]
  cases route.listener <;> cases route.domain <;> cases route.uriPrefix <;> rfl

theorem uriHostMatches_iff : uriHostMatches parsers uri domain = true ↔
    ∃ parsed, parsers.uri uri = .ok parsed ∧ eqIgnoreAsciiCase parsed.host domain = true := by
  unfold uriHostMatches
  cases parsers.uri uri <;> simp

theorem matches_iff (entry : RouteEntry) : entry.matches parsers listenerKey uri = true ↔ (∀ key ∈ entry.listener, key = listenerKey) ∧
    (∀ domain ∈ entry.domain, ∃ parsed, parsers.uri uri = .ok parsed ∧ eqIgnoreAsciiCase parsed.host domain = true) ∧
    ∀ start ∈ entry.uriPrefix, start.toList <+: uri.toList := by
  simp only [RouteEntry.matches,Bool.and_eq_true,Option.all_eq_true,beq_iff_eq,uriHostMatches_iff,Proxy.startsWith,
    List.isPrefixOf_iff_prefix,and_assoc,Option.mem_def]

variable {configured listener : ProxyListener}

-- A route applies exactly where one of the entries that it is expanded to matches.
theorem applies_iff (distinct : ((config.listeners.flatMap ProxyListener.concreteListeners).map ProxyListener.key).Nodup)
    (listed : configured ∈ config.listeners) (own : listener ∈ configured.concreteListeners) (route : RouteConfig) :
    Applies parsers route configured listener uri ↔ ∃ entry, .ok entry ∈ expandRouteListeners route (listenerRouteAliases config) ∧
      entry.matches parsers listener.key uri = true := by
  constructor
  · intro ⟨listens,hosts,starts⟩
    cases named : route.listener with
    | none =>
        refine ⟨⟨route.name,none,route.domain,route.uriPrefix,route.upstreamGroup⟩,mem_expanded.mpr ?_,(matches_iff _).mpr ⟨nofun,hosts,starts⟩⟩
        rw [named]
        exact ⟨rfl,rfl,rfl,rfl,rfl⟩
    | some key =>
        have stands := (alias_iff distinct listed own key).mpr (listens key named)
        refine ⟨⟨route.name,some listener.key,route.domain,route.uriPrefix,route.upstreamGroup⟩,mem_expanded.mpr ?_,
          (matches_iff _).mpr ⟨fun _ same => (Option.some.inj same).symm,hosts,starts⟩⟩
        rw [named]
        exact ⟨rfl,rfl,rfl,rfl,_,stands,rfl⟩
  · intro given
    rcases given with ⟨entry,expanded,matched⟩
    obtain ⟨listens,hosts,starts⟩ := (matches_iff entry).mp matched
    obtain ⟨-,domain,start,-,from'⟩ := mem_expanded.mp expanded
    rw [domain] at hosts
    rw [start] at starts
    refine ⟨fun key named => ?_,hosts,starts⟩
    rw [Option.mem_def.mp named] at from'
    obtain ⟨concrete,member,same⟩ := from'
    rw [listens concrete same] at member
    exact (alias_iff distinct listed own key).mp member

-- What is selected is a route that applies, and none that applies asks more.
theorem select_some (built : RouteTable.new config = .ok table)
    (distinct : ((config.listeners.flatMap ProxyListener.concreteListeners).map ProxyListener.key).Nodup)
    (listed : configured ∈ config.listeners) (own : listener ∈ configured.concreteListeners)
    (selected : table.select parsers listener.key uri = some choice) :
    ∃ route ∈ config.routes, choice = ⟨route.name,route.upstreamGroup⟩ ∧ Applies parsers route configured listener uri ∧
      ∀ other ∈ config.routes, Applies parsers other configured listener uri → criteria other ≤ criteria route := by
  obtain ⟨best,most,rfl⟩ := Option.map_eq_some_iff.mp selected
  have member := List.mem_filter.mp (List.mem_reverse.mp (List.maxOn?_mem most))
  obtain ⟨route,routed,expanded⟩ := (mem_routes built).mp member.1
  obtain ⟨name,-,-,group,-⟩ := mem_expanded.mp expanded
  refine ⟨route,routed,by rw [name,group],(applies_iff distinct listed own route).mpr ⟨best,expanded,member.2⟩,fun other routed' applies => ?_⟩
  obtain ⟨entry,expanded',matched⟩ := (applies_iff distinct listed own other).mp applies
  have inside : entry ∈ (table.routes.filter fun route => route.matches parsers listener.key uri).reverse :=
    List.mem_reverse.mpr (List.mem_filter.mpr ⟨(mem_routes built).mpr ⟨other,routed',expanded'⟩,matched⟩)
  rw [← specificity_expanded expanded,← specificity_expanded expanded']
  have atMost := List.le_apply_get_maxOn?_of_mem (f := RouteEntry.specificity) inside
  simpa only [most,Option.get_some] using atMost

theorem select_none (built : RouteTable.new config = .ok table)
    (distinct : ((config.listeners.flatMap ProxyListener.concreteListeners).map ProxyListener.key).Nodup)
    (listed : configured ∈ config.listeners) (own : listener ∈ configured.concreteListeners)
    (selected : table.select parsers listener.key uri = none) :
    ∀ route ∈ config.routes, ¬Applies parsers route configured listener uri := by
  intro route routed applies
  obtain ⟨entry,expanded,matched⟩ := (applies_iff distinct listed own route).mp applies
  have inside : entry ∈ (table.routes.filter fun route => route.matches parsers listener.key uri).reverse :=
    List.mem_reverse.mpr (List.mem_filter.mpr ⟨(mem_routes built).mpr ⟨route,routed,expanded⟩,matched⟩)
  have found := List.isSome_maxOn?_of_mem (f := RouteEntry.specificity) inside
  rw [Option.map_eq_none_iff.mp selected] at found
  cases found

end Routes

section Members

-- What changes in a group is its counter and the health of its servers.
def SameServers (upstreams later : UpstreamGroups) : Prop :=
  ∀ name, (later.groups.lookup name).map UpstreamGroupRuntime.servers = (upstreams.groups.lookup name).map UpstreamGroupRuntime.servers

theorem select_keeps (upstreams : UpstreamGroups) (name : String) : SameServers upstreams (upstreams.select name).2 := by
  intro other
  cases found : upstreams.groups.lookup name with
  | none => simp only [UpstreamGroups.select,found]
  | some group =>
      simp only [UpstreamGroups.select,found,Table.lookup_insert_eq]
      split
      · rename_i same
        rw [same,found]
        exact congrArg some group.select_servers
      · rfl

theorem feed_keeps (upstreams : UpstreamGroups) (event : Hysteresis.Feedback) : SameServers upstreams (Hysteresis.feed upstreams event) := by
  intro name
  cases found : upstreams.groups.lookup name with
  | some group =>
      rw [Hysteresis.lookup_feed upstreams event found]
      exact congrArg some (Hysteresis.takeIn_constant name group event).1
  | none => rw [Hysteresis.lookup_feed_none upstreams event found]

-- An address is a member of a configured group if one of its servers resolves to it.
def Member (resolve : String → String → Except String SocketAddr) (config : Config) (name : String) (addr : SocketAddr) : Prop :=
  ∃ group ∈ config.proxy.upstreamGroups, group.name = name ∧ ∃ server ∈ group.servers, resolve name server = .ok addr

theorem select_member {config : Config} (accepted : Config.Accepted config) (created : UpstreamGroups.new resolve config.proxy.upstreamGroups = .ok upstreams)
    (same : SameServers upstreams later) (known : ∃ group ∈ config.proxy.upstreamGroups, group.name = name) :
    ∃ addr, (later.select name).1 = .ok addr ∧ Member resolve config name addr := by
  obtain ⟨group,listed,rfl⟩ := known
  obtain ⟨first,found⟩ := UpstreamGroups.new_finds created listed
  have kept := same group.name
  rw [found,Option.map_some] at kept
  obtain ⟨runtime,present,servers⟩ := Option.map_eq_some_iff.mp kept
  obtain ⟨own,standing,named,made⟩ := UpstreamGroups.new_found created found
  obtain ⟨addrs,resolved,built⟩ := bind_ok.mp made
  cases built
  have paired := mapM_ok.mp resolved
  change runtime.servers = addrs at servers
  have nonempty : runtime.servers ≠ [] := by
    intro empty
    rw [← servers,empty,List.forall₂_nil_right_iff] at paired
    exact accepted.served own standing paired
  obtain ⟨addr,member,selected⟩ := runtime.select_mem nonempty
  rw [servers] at member
  obtain ⟨server,configured,resolves⟩ := forall₂_mem paired.flip member
  refine ⟨addr,by rw [UpstreamGroups.select,present]; exact selected,own,standing,named,server,configured,?_⟩
  rw [← named]
  exact resolves

end Members

section Totality
variable {parsers : Parsers} {config : Config}

theorem withContext_ok (succeeded : withContext context outcome = .ok result) : outcome = .ok result := by
  cases outcome with
  | ok value => exact succeeded
  | error => cases succeeded

theorem new_ok (built : ProxyServer.new parsers toSocketAddrs others config = .ok server) :
    RouteTable.new config.proxy = .ok server.routes ∧
    UpstreamGroups.new (resolveUpstreamServer parsers toSocketAddrs) config.proxy.upstreamGroups = .ok server.upstreams := by
  obtain ⟨routes,tabled,built⟩ := bind_ok.mp built
  obtain ⟨upstreams,created,built⟩ := bind_ok.mp built
  obtain ⟨_,_,done⟩ := bind_ok.mp built
  cases done
  exact ⟨withContext_ok tabled,withContext_ok created⟩

theorem selectUpstream_ok {server : ProxyServer} {listener : ProxyListener}
    (chosen : ((server.routes.select parsers listener.key uri).map SelectedRoute.upstreamGroup).getD listener.upstreamGroup = group)
    (selected : (server.upstreams.select group).1 = .ok addr) :
    (server.selectUpstream parsers uri listener).1 = .ok ⟨addr,listener.transport⟩ := by
  simp only [ProxyServer.selectUpstream,chosen,selected]
  rfl

-- A listener of a validated configuration always has an upstream: that of the route
-- that applies and asks most, and its own where none applies.
theorem select_upstream_total (valid : config.validate parsers = .ok ())
    (built : ProxyServer.new parsers toSocketAddrs others config = .ok server)
    (listed : configured ∈ config.proxy.listeners) (own : listener ∈ configured.concreteListeners)
    (same : SameServers server.upstreams later) (uri : String) :
    ∃ addr, (ProxyServer.selectUpstream parsers ⟨server.routes,later⟩ uri listener).1 = .ok ⟨addr,listener.transport⟩ ∧
      match server.routes.select parsers listener.key uri with
      | some choice => Member (resolveUpstreamServer parsers toSocketAddrs) config choice.upstreamGroup addr ∧
        ∃ route ∈ config.proxy.routes, choice = ⟨route.name,route.upstreamGroup⟩ ∧ Applies parsers route configured listener uri ∧
          ∀ other ∈ config.proxy.routes, Applies parsers other configured listener uri → criteria other ≤ criteria route
      | none => Member (resolveUpstreamServer parsers toSocketAddrs) config listener.upstreamGroup addr ∧
        ∀ route ∈ config.proxy.routes, ¬Applies parsers route configured listener uri := by
  have accepted := Config.validate_accepted valid
  obtain ⟨tabled,created⟩ := new_ok built
  cases selected : server.routes.select parsers listener.key uri with
  | some choice =>
      obtain ⟨route,routed,rfl,applies,most⟩ := select_some tabled accepted.distinct listed own selected
      obtain ⟨addr,found,member⟩ := select_member accepted created same (accepted.routed route routed)
      exact ⟨addr,selectUpstream_ok (by rw [selected]; rfl) found,member,route,routed,rfl,applies,most⟩
  | none =>
      obtain ⟨-,-,group⟩ := mem_concreteListeners own
      obtain ⟨addr,found,member⟩ := select_member accepted created same (accepted.listens configured listed)
      rw [← group] at found member
      exact ⟨addr,selectUpstream_ok (by rw [selected]; rfl) found,member,select_none tabled accepted.distinct listed own selected⟩

section Tenants

def tenantParsers : Parsers where
  socketAddr text :=
    if text = "127.0.0.1:5060" then .ok ⟨.v4 0x7f000001,5060⟩
    else if text = "10.0.0.1:5060" then .ok ⟨.v4 0x0a000001,5060⟩
    else if text = "10.0.0.2:5060" then .ok ⟨.v4 0x0a000002,5060⟩
    else if text = "8.8.8.8:53" then .ok ⟨.v4 0x08080808,53⟩
    else .error "invalid socket address syntax"
  ip _ := .error "invalid IP address syntax"
  u16 _ := .error "invalid digit found in string"
  uri text := if text = "sip:100@tenant-a.example.com" then .ok ⟨some .sip,"tenant-a.example.com"⟩ else .error "invalid URI"

def tenantListener : ProxyListener := ⟨⟨"127.0.0.1:5060",.tcpUdp,"default"⟩,none⟩

def tenantRoute : RouteConfig := ⟨"tenant-a",some "tcp_udp/127.0.0.1:5060",some "tenant-a.example.com",none,"tenant-a"⟩

def tenantConfig : Config where
  node := ⟨1⟩
  sip := ⟨none,none,none,none,"8.8.8.8:53",65535⟩
  proxy := {
    registerRouting := none
    rewriteRegisterContact := false
    udpClientTransactionCacheEntries := 65536
    socket := ⟨false,1,1024,none,none⟩
    metrics := ⟨false,"127.0.0.1:9100"⟩
    affinity := ⟨true,3600⟩
    security := .unset
    listeners := [tenantListener]
    upstreamSourceCidrs := []
    upstreamGroups := [⟨"default",.default,["10.0.0.1:5060"]⟩,⟨"tenant-a",.default,["10.0.0.2:5060"]⟩]
    routes := [tenantRoute] }
  persistence := ⟨false,"/var/lib/sigproxy-rs/ha/state.db",3600,60000⟩
  ha := ⟨false,1000,"127.0.0.1:7900",none,1000,5000,"127.0.0.1:7901",none,10000,2000⟩

def tenantServer : ProxyServer where
  routes := ⟨[⟨"tenant-a",some "udp/127.0.0.1:5060",some "tenant-a.example.com",none,"tenant-a"⟩,
    ⟨"tenant-a",some "tcp/127.0.0.1:5060",some "tenant-a.example.com",none,"tenant-a"⟩]⟩
  upstreams := ⟨Table.collect [("default",⟨"default",[⟨.v4 0x0a000001,5060⟩],fun _ => .initial,0,.default⟩),
    ("tenant-a",⟨"tenant-a",[⟨.v4 0x0a000002,5060⟩],fun _ => .initial,0,.default⟩)]⟩

-- The route of the listener for both transports serves what came in over UDP.
theorem tenant_routed : tenantServer.routes.select tenantParsers (tenantListener.withTransport .udp).key "sip:100@tenant-a.example.com" =
      some ⟨"tenant-a","tenant-a"⟩ ∧
    ∃ addr, (tenantServer.selectUpstream tenantParsers "sip:100@tenant-a.example.com" (tenantListener.withTransport .udp)).1 = .ok ⟨addr,.udp⟩ ∧
      Member (resolveUpstreamServer tenantParsers fun _ => .error "no such name") tenantConfig "tenant-a" addr := by
  have valid : tenantConfig.validate tenantParsers = .ok () := by decide +kernel
  have built : ProxyServer.new tenantParsers (fun _ => .error "no such name") (fun _ _ => .ok ()) tenantConfig = .ok tenantServer := rfl
  have selected : tenantServer.routes.select tenantParsers (tenantListener.withTransport .udp).key "sip:100@tenant-a.example.com" =
      some ⟨"tenant-a","tenant-a"⟩ := by decide +kernel
  have own : tenantListener.withTransport .udp ∈ tenantListener.concreteListeners := List.mem_cons_self
  obtain ⟨addr,found,member⟩ := select_upstream_total valid built (List.mem_singleton_self tenantListener) own (fun _ => rfl)
    "sip:100@tenant-a.example.com"
  rw [selected] at member
  exact ⟨selected,addr,found,member.1⟩

end Tenants
end Totality
end Sigproxy.Upstream.Routing
