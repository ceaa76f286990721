import LittleBaby.MemoTable
import LittleBaby.RouteBindings
import LittleBaby.TieredSearch

/-!
# Resolving the agent of a route

A call looks its route up in the cache of its config, else searches the indexed
bindings of its channel and account in tiers.
-/

namespace LittleBaby.Routing

open JsString MemoTable TieredSearch

def MAX_EVALUATED_BINDINGS_CACHE_KEYS : ℕ := 2000

def MAX_RESOLVED_ROUTE_CACHE_KEYS : ℕ := 4000

structure Heap (Ref : Type*) where
  bindings : Ref → List AgentBinding
  agents : Ref → List AgentEntry
  session : Ref → SessionConfig

structure LittleBabyConfig (Ref : Type*) where
  bindings : Option Ref
  agents : Option Ref
  session : Option Ref
deriving DecidableEq

structure ResolveAgentRouteInput where
  channel : Option JsString
  accountId : Option JsString
  peer : Option RoutePeer
  parentPeer : Option RoutePeer
  guildId : Option JsString
  teamId : Option JsString
  memberRoleIds : Option (List JsString)

inductive MatchedBy where
  | bindingPeer
  | bindingPeerParent
  | bindingPeerWildcard
  | bindingGuildRoles
  | bindingGuild
  | bindingTeam
  | bindingAccount
  | bindingChannel
  | default
deriving DecidableEq

inductive LastRoutePolicy where
  | main
  | session

structure ResolvedAgentRoute where
  agentId : JsString
  channel : JsString
  accountId : JsString
  sessionKey : JsString
  mainSessionKey : JsString
  lastRoutePolicy : LastRoutePolicy
  matchedBy : MatchedBy

structure RouteScope where
  channel : JsString
  accountId : JsString
  peer : Option RoutePeer
  parentPeer : Option RoutePeer
  guildId : JsString
  teamId : JsString
  memberRoleIds : List JsString
deriving DecidableEq

def deriveLastRoutePolicy (sessionKey mainSessionKey : JsString) :
    LastRoutePolicy :=
  if sessionKey = mainSessionKey then .main else .session

def formatRouteCachePeer (peer : Option RoutePeer) : JsString :=
  match peer with
  | none => js "-"
  | some peer =>
    if peer.id = [] then js "-" else peer.kind ++ js ":" ++ peer.id

def formatRoleIdsCacheKey (roleIds : List JsString) : JsString :=
  match roleIds with
  | [] => js "-"
  | [role] => role
  | [first, second] =>
    if first ≤ second then first ++ js "," ++ second
    else second ++ js "," ++ first
  | roleIds => join (js ",") (roleIds.mergeSort fun left right =>
    decide (left ≤ right))

variable (scope : RouteScope)

def buildResolvedRouteCacheKey (dmScope : DmScope) : JsString :=
  join (js "\t") [scope.channel, scope.accountId,
    formatRouteCachePeer scope.peer, formatRouteCachePeer scope.parentPeer,
    orText scope.guildId (js "-"), orText scope.teamId (js "-"),
    formatRoleIdsCacheKey scope.memberRoleIds, dmScope.text]

structure AgentLookup where
  byNormalizedId : List (JsString × JsString)
  fallbackDefaultAgentId : JsString

structure AgentLookupCache (Ref : Type*) where
  agentsRef : Option Ref
  lookup : AgentLookup

structure EvaluatedBindingsCache (Ref : Type*) where
  bindingsRef : Option Ref
  byChannel : List (JsString × EvaluatedBindingsByChannel)
  byChannelAccount : List (JsString × List EvaluatedBinding)
  byChannelAccountIndex : List (JsString × EvaluatedBindingsIndex)

structure ResolvedRouteCache (Ref Route : Type*) where
  config : LittleBabyConfig Ref
  byKey : List (JsString × Route)

structure RoutingCaches (Ref : Type*) where
  agents : Option (AgentLookupCache Ref)
  evaluated : Option (EvaluatedBindingsCache Ref)
  routes : Option (ResolvedRouteCache Ref ResolvedAgentRoute)

def RoutingCaches.empty {Ref : Type*} : RoutingCaches Ref where
  agents := none
  evaluated := none
  routes := none

variable {Ref Route : Type*} [DecidableEq Ref]

def resolveRouteCacheForConfig (config : LittleBabyConfig Ref)
    (existing : Option (ResolvedRouteCache Ref Route)) :
    ResolvedRouteCache Ref Route :=
  match existing with
  | some cache => if cache.config = config then cache else ⟨config, []⟩
  | none => ⟨config, []⟩

def channelAccountKey (channel accountId : JsString) : JsString := channel ++ js "\t" ++ accountId

def RouteScope.withPeer (peer : Option RoutePeer) : BindingScope where
  peer
  guildId := scope.guildId
  teamId := scope.teamId
  memberRoleIds := scope.memberRoleIds

def RouteScope.inheritedPeer : Option RoutePeer := scope.parentPeer.filter fun peer => peer.id ≠ []

section

variable (index : EvaluatedBindingsIndex) (scope : RouteScope)

def peerTier : Tier MatchedBy EvaluatedBinding where
  label := .bindingPeer
  enabled := scope.peer.isSome
  candidates := collectPeerIndexedBindings index scope.peer
  accepts candidate := candidate.match'.peer.isValid &&
    matchesBindingScope candidate.match' (scope.withPeer scope.peer)

def parentPeerTier : Tier MatchedBy EvaluatedBinding where
  label := .bindingPeerParent
  enabled := scope.inheritedPeer.isSome
  candidates := collectPeerIndexedBindings index scope.parentPeer
  accepts candidate := candidate.match'.peer.isValid &&
    matchesBindingScope candidate.match' (scope.withPeer scope.inheritedPeer)

def peerWildcardTier : Tier MatchedBy EvaluatedBinding where
  label := .bindingPeerWildcard
  enabled := scope.peer.isSome
  candidates := index.byPeerWildcard
  accepts candidate := candidate.match'.peer.isWildcardKind &&
    matchesBindingScope candidate.match' (scope.withPeer scope.peer)

def guildRolesTier : Tier MatchedBy EvaluatedBinding where
  label := .bindingGuildRoles
  enabled := scope.guildId ≠ [] && 0 < scope.memberRoleIds.length
  candidates :=
    if scope.guildId = [] then []
    else (index.byGuildWithRoles.lookup scope.guildId).getD []
  accepts candidate := hasGuildConstraint candidate.match' && hasRolesConstraint candidate.match' &&
    matchesBindingScope candidate.match' (scope.withPeer scope.peer)

def guildTier : Tier MatchedBy EvaluatedBinding where
  label := .bindingGuild
  enabled := scope.guildId ≠ []
  candidates :=
    if scope.guildId = [] then []
    else (index.byGuild.lookup scope.guildId).getD []
  accepts candidate := hasGuildConstraint candidate.match' &&
    !hasRolesConstraint candidate.match' &&
    matchesBindingScope candidate.match' (scope.withPeer scope.peer)

def teamTier : Tier MatchedBy EvaluatedBinding where
  label := .bindingTeam
  enabled := scope.teamId ≠ []
  candidates :=
    if scope.teamId = [] then []
    else (index.byTeam.lookup scope.teamId).getD []
  accepts candidate := hasTeamConstraint candidate.match' &&
    matchesBindingScope candidate.match' (scope.withPeer scope.peer)

def accountTier : Tier MatchedBy EvaluatedBinding where
  label := .bindingAccount
  enabled := true
  candidates := index.byAccount
  accepts candidate := !isWildcardPattern candidate.match'.accountPattern &&
    matchesBindingScope candidate.match' (scope.withPeer scope.peer)

def channelTier : Tier MatchedBy EvaluatedBinding where
  label := .bindingChannel
  enabled := true
  candidates := index.byChannel
  accepts candidate := isWildcardPattern candidate.match'.accountPattern &&
    matchesBindingScope candidate.match' (scope.withPeer scope.peer)

def routeTiers : List (Tier MatchedBy EvaluatedBinding) :=
  [peerTier index scope, parentPeerTier index scope,
    peerWildcardTier index scope, guildRolesTier index scope,
    guildTier index scope, teamTier index scope, accountTier index scope,
    channelTier index scope]

end

namespace Casing

variable (casing : Casing)

variable (agents : Option (List AgentEntry))

def resolveDefaultAgentId : JsString :=
  match agents.getD [] with
  | [] => DEFAULT_AGENT_ID
  | first :: rest =>
    let chosen := ((first :: rest).find? AgentEntry.isDefault).getD first
    casing.normalizeAgentId (some (orText (trim (orEmpty chosen.id)) DEFAULT_AGENT_ID))

def buildAgentLookup : AgentLookup where
  byNormalizedId :=
    (agents.getD []).foldl (fun byNormalizedId agent =>
      match nonBlank (orEmpty agent.id) with
      | none => byNormalizedId
      | some rawId =>
        Entries.set (casing.normalizeAgentId (some rawId))
          (casing.sanitizeAgentId (some rawId)) byNormalizedId) []
  fallbackDefaultAgentId := casing.sanitizeAgentId (some (casing.resolveDefaultAgentId agents))

def pickFromLookup (lookup : AgentLookup) (agentId : Option JsString) :
    JsString :=
  let trimmed := trim (orEmpty agentId)
  if trimmed = [] then lookup.fallbackDefaultAgentId
  else if lookup.byNormalizedId = [] then casing.sanitizeAgentId (some trimmed)
  else
    match lookup.byNormalizedId.lookup (casing.normalizeAgentId (some trimmed)) with
    | some (unit :: rest) => unit :: rest
    | _ => lookup.fallbackDefaultAgentId

variable (heap : Heap Ref) (config : LittleBabyConfig Ref)

def resolveAgentLookupCache (existing : Option (AgentLookupCache Ref)) : AgentLookupCache Ref :=
  let next : AgentLookupCache Ref :=
    { agentsRef := config.agents
      lookup := casing.buildAgentLookup (config.agents.map heap.agents) }
  match existing with
  | some cache => if cache.agentsRef = config.agents then cache else next
  | none => next

def evaluateBindings (byChannel : List (JsString × EvaluatedBindingsByChannel))
    (channel accountId : JsString) : List EvaluatedBinding :=
  let channelBindings := byChannel.lookup channel
  mergeEvaluatedBindingsInSourceOrder
    ((channelBindings.bind fun bucket => bucket.byAccount.lookup accountId).getD [])
    ((channelBindings.map EvaluatedBindingsByChannel.byAnyAccount).getD [])

def evaluatedBindingsCache (existing : Option (EvaluatedBindingsCache Ref)) :
    EvaluatedBindingsCache Ref :=
  let next : EvaluatedBindingsCache Ref :=
    { bindingsRef := config.bindings
      byChannel := casing.buildEvaluatedBindingsByChannel (config.bindings.map heap.bindings)
      byChannelAccount := []
      byChannelAccountIndex := [] }
  match existing with
  | some cache => if cache.bindingsRef = config.bindings then cache else next
  | none => next

def keepEvaluated (cacheKey : JsString) (evaluated : List EvaluatedBinding)
    (cache : EvaluatedBindingsCache Ref) : EvaluatedBindingsCache Ref :=
  let byChannelAccount := Entries.set cacheKey evaluated cache.byChannelAccount
  if byChannelAccount.length > MAX_EVALUATED_BINDINGS_CACHE_KEYS then
    { cache with
      byChannelAccount := [(cacheKey, evaluated)]
      byChannelAccountIndex := [(cacheKey, buildEvaluatedBindingsIndex evaluated)] }
  else
    { cache with
      byChannelAccount
      byChannelAccountIndex := Entries.set cacheKey
        (buildEvaluatedBindingsIndex evaluated) cache.byChannelAccountIndex }

def getEvaluatedBindingsForChannelAccount (existing : Option (EvaluatedBindingsCache Ref))
    (channel accountId : JsString) :
    List EvaluatedBinding × EvaluatedBindingsCache Ref :=
  let cache := casing.evaluatedBindingsCache heap config existing
  let cacheKey := channelAccountKey channel accountId
  match cache.byChannelAccount.lookup cacheKey with
  | some hit => (hit, cache)
  | none =>
    let evaluated := evaluateBindings cache.byChannel channel accountId
    (evaluated, keepEvaluated cacheKey evaluated cache)

def getEvaluatedBindingIndexForChannelAccount (existing : Option (EvaluatedBindingsCache Ref))
    (channel accountId : JsString) :
    EvaluatedBindingsIndex × EvaluatedBindingsCache Ref :=
  let (bindings, cache) := casing.getEvaluatedBindingsForChannelAccount heap
    config existing channel accountId
  let cacheKey := channelAccountKey channel accountId
  match cache.byChannelAccountIndex.lookup cacheKey with
  | some indexed => (indexed, cache)
  | none =>
    let built := buildEvaluatedBindingsIndex bindings
    (built, { cache with
      byChannelAccountIndex := Entries.set cacheKey built cache.byChannelAccountIndex })

def normalizePeer (peer : RoutePeer) : RoutePeer where
  kind := ((casing.normalizeChatType (some peer.kind)).map ChatType.text).getD peer.kind
  id := normalizeId (some peer.id)

def normalizeInput (input : ResolveAgentRouteInput) : RouteScope where
  channel := casing.normalizeToken input.channel
  accountId := casing.normalizeAccountId input.accountId
  peer := input.peer.map casing.normalizePeer
  parentPeer := input.parentPeer.map casing.normalizePeer
  guildId := normalizeId input.guildId
  teamId := normalizeId input.teamId
  memberRoleIds := input.memberRoleIds.getD []

def buildAgentSessionKey (agentId : JsString) (scope : RouteScope) (dmScope : DmScope)
    (identityLinks : Option (List (JsString × List JsString))) : JsString :=
  casing.buildAgentPeerSessionKey
    { agentId
      mainKey := some DEFAULT_MAIN_KEY
      channel := orText (casing.normalizeToken (some scope.channel)) (js "unknown")
      accountId := some scope.accountId
      peerKind := (scope.peer.map RoutePeer.kind).getD ChatType.direct.text
      peerId := scope.peer.map fun peer =>
        orText (normalizeId (some peer.id)) (js "unknown")
      dmScope
      identityLinks }

def sessionDmScope (session : Option SessionConfig) : DmScope :=
  (session.bind SessionConfig.dmScope).getD .main

def sessionIdentityLinks (session : Option SessionConfig) :
    Option (List (JsString × List JsString)) :=
  session.bind SessionConfig.identityLinks

def routeTo (session : Option SessionConfig) (scope : RouteScope)
    (agentId : JsString) (matchedBy : MatchedBy) : ResolvedAgentRoute :=
  let sessionKey := casing.normalizeLowercaseStringOrEmpty
    (some (casing.buildAgentSessionKey agentId scope (sessionDmScope session)
      (sessionIdentityLinks session)))
  let mainSessionKey := casing.normalizeLowercaseStringOrEmpty
    (some (casing.buildAgentMainSessionKey agentId (some DEFAULT_MAIN_KEY)))
  { agentId
    channel := scope.channel
    accountId := scope.accountId
    sessionKey
    mainSessionKey
    lastRoutePolicy := deriveLastRoutePolicy sessionKey mainSessionKey
    matchedBy }

def chosenAgent (found : Option (MatchedBy × EvaluatedBinding)) : Option JsString × MatchedBy :=
  match found with
  | some (matchedBy, matched) => (matched.binding.agentId, matchedBy)
  | none => (some (casing.resolveDefaultAgentId agents), .default)

/-- `resolveAgentRoute`, with the caches of the config before and after. -/
def resolveAgentRoute (heap : Heap Ref) (config : LittleBabyConfig Ref)
    (shouldLogVerbose : Bool) (input : ResolveAgentRouteInput)
    (caches : RoutingCaches Ref) : ResolvedAgentRoute × RoutingCaches Ref :=
  let scope := casing.normalizeInput input
  let session := config.session.map heap.session
  let routeCache :=
    if !shouldLogVerbose && (sessionIdentityLinks session).isNone then
      some (resolveRouteCacheForConfig config caches.routes)
    else none
  let routeCacheKey := buildResolvedRouteCacheKey scope (sessionDmScope session)
  match routeCache.bind fun cache => cache.byKey.lookup routeCacheKey with
  | some cachedRoute =>
    (cachedRoute, { caches with routes := routeCache.or caches.routes })
  | none =>
    let (_, evaluated) := casing.getEvaluatedBindingsForChannelAccount heap
      config caches.evaluated scope.channel scope.accountId
    let (index, evaluated) := casing.getEvaluatedBindingIndexForChannelAccount
      heap config (some evaluated) scope.channel scope.accountId
    let (agentId, matchedBy) := casing.chosenAgent
      (config.agents.map heap.agents) (search (routeTiers index scope))
    let agents := casing.resolveAgentLookupCache heap config caches.agents
    let route := casing.routeTo session scope
      (casing.pickFromLookup agents.lookup agentId) matchedBy
    let routes := routeCache.map fun cache =>
      { cache with
        byKey := remember MAX_RESOLVED_ROUTE_CACHE_KEYS routeCacheKey route cache.byKey }
    (route,
      { agents := some agents
        evaluated := some evaluated
        routes := routes.or caches.routes })

end Casing

end LittleBaby.Routing
