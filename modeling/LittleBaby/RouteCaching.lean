import LittleBaby.RouteTiers

/-!
# Cached routing

The caches of a config hold evaluated bindings under a key that tells channels
and accounts apart, and routes under a key that does not tell all scopes apart.
-/

namespace LittleBaby.Routing

open JsString MemoTable TieredSearch Casing

variable {Ref Cfg : Type*} [DecidableEq Ref] [DecidableEq Cfg]

/-- Scopes that no binding tells apart: the roles count as a set, and a parent
peer without an id counts as none. -/
structure SameScope (left right : RouteScope) : Prop where
  channel : left.channel = right.channel
  accountId : left.accountId = right.accountId
  peer : left.peer = right.peer
  inheritedPeer : left.inheritedPeer = right.inheritedPeer
  guildId : left.guildId = right.guildId
  teamId : left.teamId = right.teamId
  roles : ∀ role, role ∈ left.memberRoleIds ↔ role ∈ right.memberRoleIds

theorem SameScope.refl (scope : RouteScope) : SameScope scope scope where
  channel := rfl
  accountId := rfl
  peer := rfl
  inheritedPeer := rfl
  guildId := rfl
  teamId := rfl
  roles _ := Iff.rfl

variable {left right : RouteScope}

theorem matchesBindingScope_congr
    (hguild : left.guildId = right.guildId) (hteam : left.teamId = right.teamId)
    (hroles : ∀ role, role ∈ left.memberRoleIds ↔ role ∈ right.memberRoleIds)
    (peer : Option RoutePeer) (limits : NormalizedBindingMatch) :
    matchesBindingScope limits (left.withPeer peer) =
      matchesBindingScope limits (right.withPeer peer) := by
  have hany (roles : List JsString) : hasAnyRouteBindingRole roles left.memberRoleIds =
        hasAnyRouteBindingRole roles right.memberRoleIds := by
    unfold hasAnyRouteBindingRole
    congr 1
    funext role
    rw [decide_eq_decide]
    exact hroles role
  have hscope : routeBindingScopeMatches limits (left.withPeer peer) =
      routeBindingScopeMatches limits (right.withPeer peer) := by
    simp only [routeBindingScopeMatches, RouteScope.withPeer, hguild, hteam, hany]
    rfl
  unfold matchesBindingScope
  rw [hscope]
  rfl

theorem routeRules_congr (hsame : SameScope left right) : routeRules left = routeRules right := by
  have hmatches := matchesBindingScope_congr hsame.guildId hsame.teamId hsame.roles
  have hlength : decide (0 < left.memberRoleIds.length) =
      decide (0 < right.memberRoleIds.length) := by
    rw [decide_eq_decide, List.length_pos_iff_exists_mem, List.length_pos_iff_exists_mem]
    exact exists_congr hsame.roles
  simp only [routeRules, hmatches, hsame.peer, hsame.inheritedPeer,
    hsame.guildId, hsame.teamId, hlength]

theorem Casing.specifiedRoute_congr (casing : Casing)
    (hsame : SameScope left right) (bindings : Option (List AgentBinding))
    (agents : Option (List AgentEntry)) (session : Option SessionConfig) :
    casing.specifiedRoute bindings agents session left =
      casing.specifiedRoute bindings agents session right := by
  have hmatch : casing.plainMatch bindings left = casing.plainMatch bindings right := by
    simp only [plainMatch, routeRules_congr hsame, hsame.channel, hsame.accountId]
  have hroute (agentId : JsString) (matchedBy : MatchedBy) :
      casing.routeTo session left agentId matchedBy =
        casing.routeTo session right agentId matchedBy := by
    simp only [routeTo, buildAgentSessionKey, hsame.channel, hsame.accountId, hsame.peer]
  simp only [specifiedRoute, hmatch, hroute]

theorem channelAccountKey_inj {channel other accountId otherId : JsString}
    (htab : 0x09 ∉ accountId) (hotherTab : 0x09 ∉ otherId)
    (hkey : channelAccountKey channel accountId = channelAccountKey other otherId) :
    channel = other ∧ accountId = otherId := by
  have htext : js "\t" = [0x09] := by decide
  simp only [channelAccountKey, htext, List.append_assoc, List.singleton_append] at hkey
  have htail {left right rest : JsString} (hleft : 0x09 ∉ left)
      (heq : 0x09 :: left = rest ++ 0x09 :: right) :
      rest = [] ∧ left = right := by
    cases rest with
    | nil => exact ⟨rfl, (List.cons.inj heq).2⟩
    | cons first others =>
      rw [(List.cons.inj heq).2] at hleft
      exact absurd (List.mem_append_right _ List.mem_cons_self) hleft
  rcases List.append_eq_append_iff.mp hkey with ⟨rest, hrest, heq⟩ | ⟨rest, hrest, heq⟩
  · rcases htail htab heq with ⟨rfl, haccount⟩
    exact ⟨by simpa using hrest.symm, haccount⟩
  · rcases htail hotherTab heq with ⟨rfl, haccount⟩
    exact ⟨by simpa using hrest, haccount.symm⟩

section

variable (casing : Casing) (heap : Heap Ref)

variable (config : LittleBabyConfig Ref)

def Casing.specifiedFor (scope : RouteScope) : ResolvedAgentRoute :=
  casing.specifiedRoute (config.bindings.map heap.bindings)
    (config.agents.map heap.agents) (config.session.map heap.session) scope

def keptBindings (byChannel : List (JsString × EvaluatedBindingsByChannel))
    (pair : JsString × JsString) : List EvaluatedBinding :=
  evaluateBindings byChannel pair.1 pair.2

structure EvaluatedFaithful (cache : EvaluatedBindingsCache Ref)
    (sources : List (JsString × (JsString × JsString))) : Prop where
  byChannel : cache.byChannel = casing.buildEvaluatedBindingsByChannel
    (cache.bindingsRef.map heap.bindings)
  keyed : Keyed (fun pair => channelAccountKey pair.1 pair.2) sources
  tabs : ∀ source ∈ sources, 0x09 ∉ source.2.2
  kept : cache.byChannelAccount = image (keptBindings cache.byChannel) sources
  index : cache.byChannelAccountIndex = image (fun pair =>
    buildEvaluatedBindingsIndex (keptBindings cache.byChannel pair)) sources

theorem evaluatedFaithful_cache (config : LittleBabyConfig Ref)
    {existing : Option (EvaluatedBindingsCache Ref)}
    (hexisting : ∀ cache, existing = some cache →
      ∃ sources, EvaluatedFaithful casing heap cache sources) :
    (casing.evaluatedBindingsCache heap config existing).bindingsRef = config.bindings ∧
      ∃ sources, EvaluatedFaithful casing heap
        (casing.evaluatedBindingsCache heap config existing) sources := by
  have hfresh : EvaluatedFaithful casing heap
      ({ bindingsRef := config.bindings
         byChannel := casing.buildEvaluatedBindingsByChannel (config.bindings.map heap.bindings)
         byChannelAccount := []
         byChannelAccountIndex := [] } : EvaluatedBindingsCache Ref) [] := by
    constructor
    · rfl
    · exact keyed_nil
    · intro source hsource
      cases hsource
    · rfl
    · rfl
  unfold evaluatedBindingsCache
  split
  next cache =>
    split
    next href => exact ⟨href, hexisting cache rfl⟩
    next => exact ⟨rfl, [], hfresh⟩
  next => exact ⟨rfl, [], hfresh⟩

omit [DecidableEq Ref] in
theorem bindingsRef_keep (cacheKey : JsString)
    (evaluated : List EvaluatedBinding) (cache : EvaluatedBindingsCache Ref) :
    (keepEvaluated cacheKey evaluated cache).bindingsRef = cache.bindingsRef := by
  simp only [keepEvaluated]
  split <;> rfl

omit [DecidableEq Ref] in
theorem evaluatedFaithful_keep {cache : EvaluatedBindingsCache Ref}
    {sources : List (JsString × (JsString × JsString))}
    (hfaithful : EvaluatedFaithful casing heap cache sources)
    (channel : JsString) {accountId : JsString} (htab : 0x09 ∉ accountId) :
    EvaluatedFaithful casing heap (keepEvaluated (channelAccountKey channel accountId)
        (keptBindings cache.byChannel (channel, accountId)) cache)
      (remember MAX_EVALUATED_BINDINGS_CACHE_KEYS
        (channelAccountKey channel accountId) (channel, accountId) sources) := by
  have hkept := @remember_image _ _ _ _ (keptBindings cache.byChannel) sources
    MAX_EVALUATED_BINDINGS_CACHE_KEYS (channelAccountKey channel accountId)
    (channel, accountId)
  have hindex := @remember_image _ _ _ _ (fun pair =>
      buildEvaluatedBindingsIndex (keptBindings cache.byChannel pair)) sources
    MAX_EVALUATED_BINDINGS_CACHE_KEYS (channelAccountKey channel accountId)
    (channel, accountId)
  have hkeyed : Keyed (fun pair => channelAccountKey pair.1 pair.2)
      (remember MAX_EVALUATED_BINDINGS_CACHE_KEYS
        (channelAccountKey channel accountId) (channel, accountId) sources) :=
    @keyed_remember _ _ _ sources MAX_EVALUATED_BINDINGS_CACHE_KEYS
      (channel, accountId) _ _ hfaithful.keyed
  have htabs : ∀ source ∈ remember MAX_EVALUATED_BINDINGS_CACHE_KEYS
      (channelAccountKey channel accountId) (channel, accountId) sources,
      0x09 ∉ source.2.2 := by
    intro source hsource
    rcases mem_remember hsource with rfl | hsource
    · exact htab
    · exact hfaithful.tabs source hsource
  have hsize : (Entries.set (channelAccountKey channel accountId)
        (keptBindings cache.byChannel (channel, accountId))
        cache.byChannelAccount).length =
      (Entries.set (channelAccountKey channel accountId) (buildEvaluatedBindingsIndex
          (keptBindings cache.byChannel (channel, accountId)))
        cache.byChannelAccountIndex).length := by
    rw [hfaithful.kept, hfaithful.index, set_image,
      @set_image _ _ _ _ (fun pair => buildEvaluatedBindingsIndex
        (keptBindings cache.byChannel pair)), length_image, length_image]
  rw [← hfaithful.kept] at hkept
  rw [← hfaithful.index] at hindex
  unfold remember at hkept hindex
  unfold keepEvaluated
  simp only
  split
  next hover =>
    rw [if_pos hover] at hkept
    rw [if_pos (hsize ▸ hover)] at hindex
    exact ⟨hfaithful.byChannel, hkeyed, htabs, hkept, hindex⟩
  next hunder =>
    rw [if_neg hunder] at hkept
    rw [if_neg (hsize ▸ hunder)] at hindex
    exact ⟨hfaithful.byChannel, hkeyed, htabs, hkept, hindex⟩

section

variable (config : LittleBabyConfig Ref) {existing : Option (EvaluatedBindingsCache Ref)}
  (hexisting : ∀ cache, existing = some cache → ∃ sources, EvaluatedFaithful casing heap cache
  sources) (channel : JsString) {accountId : JsString} (htab : 0x09 ∉ accountId)

include hexisting htab

theorem getEvaluatedBindings_spec : ∃ sources, EvaluatedFaithful casing heap
        (casing.getEvaluatedBindingsForChannelAccount heap config existing
          channel accountId).2 sources ∧
      (casing.getEvaluatedBindingsForChannelAccount heap config existing
          channel accountId).2.bindingsRef = config.bindings ∧
      sources.lookup (channelAccountKey channel accountId) = some (channel, accountId) := by
  rcases evaluatedFaithful_cache casing heap config hexisting with
    ⟨href, sources, hfaithful⟩
  have hlookup := @lookup_image _ _ _ _
    (keptBindings (casing.evaluatedBindingsCache heap config existing).byChannel)
    sources (channelAccountKey channel accountId)
  rw [← hfaithful.kept] at hlookup
  unfold getEvaluatedBindingsForChannelAccount
  simp only
  cases hsource : sources.lookup (channelAccountKey channel accountId) with
  | some source =>
    have hkey := keyOf_of_lookup hfaithful.keyed hsource
    have hmem := Entries.mem_of_lookup hsource
    have hinj := channelAccountKey_inj (hfaithful.tabs _ hmem) htab hkey
    rw [hsource] at hlookup
    rw [hlookup]
    have hpair : source = (channel, accountId) := Prod.ext hinj.1 hinj.2
    rw [hpair] at hsource
    exact ⟨sources, hfaithful, href, hsource⟩
  | none =>
    rw [hsource] at hlookup
    rw [hlookup]
    refine ⟨_, evaluatedFaithful_keep casing heap hfaithful channel htab, ?_, lookup_remember⟩
    exact (bindingsRef_keep _ _ _).trans href

theorem getEvaluatedIndex_spec :
    (casing.getEvaluatedBindingIndexForChannelAccount heap config existing channel accountId).1 =
      buildEvaluatedBindingsIndex (evaluateBindings (casing.buildEvaluatedBindingsByChannel
          (config.bindings.map heap.bindings)) channel accountId) ∧
    ∃ sources, EvaluatedFaithful casing heap
      (casing.getEvaluatedBindingIndexForChannelAccount heap config existing
        channel accountId).2 sources := by
  rcases getEvaluatedBindings_spec casing heap config hexisting channel htab with
    ⟨sources, hfaithful, href, hsource⟩
  have hlookup := @lookup_image _ _ _ _ (fun pair => buildEvaluatedBindingsIndex
    (keptBindings (casing.getEvaluatedBindingsForChannelAccount heap config
      existing channel accountId).2.byChannel pair)) sources
    (channelAccountKey channel accountId)
  rw [← hfaithful.index, hsource] at hlookup
  unfold getEvaluatedBindingIndexForChannelAccount
  simp only [hlookup, Option.map_some]
  constructor
  · rw [hfaithful.byChannel, href]
    rfl
  · exact ⟨sources, hfaithful⟩

end

/-- The call's slot, with the scopes that filled the slots instead of their
routes: the scope that filled the slot of this call, and the slots after it. -/
def fillRoutes (shouldLogVerbose : Bool)
    (scope : RouteScope) (fills : Option (ResolvedRouteCache Ref RouteScope)) :
    RouteScope × Option (ResolvedRouteCache Ref RouteScope) :=
  let session := config.session.map heap.session
  if !shouldLogVerbose && (sessionIdentityLinks session).isNone then
    let cache := resolveRouteCacheForConfig config fills
    let (source, byKey) := answer MAX_RESOLVED_ROUTE_CACHE_KEYS
      (buildResolvedRouteCacheKey scope (sessionDmScope session)) scope
      cache.byKey
    (source, some { cache with byKey })
  else (scope, fills)

def routesOf (cache : ResolvedRouteCache Ref RouteScope) :
    ResolvedRouteCache Ref ResolvedAgentRoute where
  config := cache.config
  byKey := image (casing.specifiedFor heap cache.config) cache.byKey

structure CachesFaithful (fills : Option (ResolvedRouteCache Ref RouteScope))
    (caches : RoutingCaches Ref) : Prop where
  agents : ∀ cache, caches.agents = some cache →
    cache.lookup = casing.buildAgentLookup (cache.agentsRef.map heap.agents)
  evaluated : ∀ cache, caches.evaluated = some cache →
    ∃ sources, EvaluatedFaithful casing heap cache sources
  routes : caches.routes = fills.map (routesOf casing heap)

omit [DecidableEq Ref] in
theorem cachesFaithful_empty :
    CachesFaithful casing heap none (RoutingCaches.empty : RoutingCaches Ref) := by
  constructor
  · intro cache hcache
    cases hcache
  · intro cache hcache
    cases hcache
  · rfl

theorem routesOf_resolve (fills : Option (ResolvedRouteCache Ref RouteScope)) :
    resolveRouteCacheForConfig config (fills.map (routesOf casing heap)) =
      routesOf casing heap (resolveRouteCacheForConfig config fills) := by
  unfold resolveRouteCacheForConfig
  cases fills with
  | none => rfl
  | some cache =>
    by_cases hconfig : cache.config = config
    · simp [routesOf, hconfig]
    · simp [routesOf, hconfig, image]

theorem config_resolve {Route : Type*} (fills : Option (ResolvedRouteCache Ref Route)) :
    (resolveRouteCacheForConfig config fills).config = config := by
  unfold resolveRouteCacheForConfig
  split
  next cache =>
    split
    next hconfig => exact hconfig
    next => rfl
  next => rfl

theorem agentLookup_spec {existing : Option (AgentLookupCache Ref)}
    (hexisting : ∀ cache, existing = some cache →
      cache.lookup = casing.buildAgentLookup (cache.agentsRef.map heap.agents)) :
    (casing.resolveAgentLookupCache heap config existing).lookup =
        casing.buildAgentLookup (config.agents.map heap.agents) ∧
      (casing.resolveAgentLookupCache heap config existing).agentsRef =
        config.agents := by
  unfold resolveAgentLookupCache
  split
  next cache =>
    split
    next href =>
      have hlookup := hexisting cache rfl
      rw [href] at hlookup
      exact ⟨hlookup, href⟩
    next => exact ⟨rfl, rfl⟩
  next => exact ⟨rfl, rfl⟩

omit [DecidableEq Ref] in
theorem routeTo_found (input : ResolveAgentRouteInput) {index : EvaluatedBindingsIndex}
    (hindex : index = buildEvaluatedBindingsIndex (evaluateBindings
      (casing.buildEvaluatedBindingsByChannel (config.bindings.map heap.bindings))
      (casing.normalizeInput input).channel
      (casing.normalizeInput input).accountId)) :
    casing.routeTo (config.session.map heap.session) (casing.normalizeInput input)
        (casing.pickFromLookup (casing.buildAgentLookup (config.agents.map heap.agents))
          (casing.chosenAgent (config.agents.map heap.agents)
            (search (routeTiers index (casing.normalizeInput input)))).1)
        (casing.chosenAgent (config.agents.map heap.agents)
          (search (routeTiers index (casing.normalizeInput input)))).2 =
      casing.specifiedFor heap config (casing.normalizeInput input) := by
  have htrim (value : Option JsString) :
      normalizeId (some (normalizeId value)) = normalizeId value := by
    exact trim_trim _
  have hsearch := @search_indexed casing (config.bindings.map heap.bindings)
    (casing.normalizeInput input) (htrim input.guildId) (htrim input.teamId)
  rw [← hindex] at hsearch
  unfold specifiedFor specifiedRoute
  rw [← hsearch]
  cases search (routeTiers index (casing.normalizeInput input)) with
  | none => rfl
  | some found => rfl

theorem computed_spec (input : ResolveAgentRouteInput)
    {fills : Option (ResolvedRouteCache Ref RouteScope)}
    {caches : RoutingCaches Ref}
    (hfaithful : CachesFaithful casing heap fills caches) :
    let scope := casing.normalizeInput input
    let bindings := casing.getEvaluatedBindingsForChannelAccount heap config
      caches.evaluated scope.channel scope.accountId
    let index := casing.getEvaluatedBindingIndexForChannelAccount heap config
      (some bindings.2) scope.channel scope.accountId
    let chosen := casing.chosenAgent (config.agents.map heap.agents)
      (search (routeTiers index.1 scope))
    let agents := casing.resolveAgentLookupCache heap config caches.agents
    casing.routeTo (config.session.map heap.session) scope
        (casing.pickFromLookup agents.lookup chosen.1) chosen.2 =
      casing.specifiedFor heap config scope ∧
    (∃ sources, EvaluatedFaithful casing heap index.2 sources) ∧
    agents.lookup = casing.buildAgentLookup (agents.agentsRef.map heap.agents) := by
  have htab := @tab_notMem_normalizeAccountId casing input.accountId
  rcases getEvaluatedBindings_spec casing heap config hfaithful.evaluated
    (casing.normalizeInput input).channel htab with ⟨sources, hbindings, -, -⟩
  have hindex := getEvaluatedIndex_spec casing heap config
    (fun cache hcache => ⟨sources, Option.some.inj hcache ▸ hbindings⟩)
    (casing.normalizeInput input).channel htab
  have hagents := agentLookup_spec casing heap config hfaithful.agents
  refine ⟨?_, hindex.2, ?_⟩
  · rw [hagents.1]
    exact routeTo_found casing heap config input hindex.1
  · rw [hagents.1, hagents.2]

theorem resolveAgentRoute_spec (shouldLogVerbose : Bool) (input : ResolveAgentRouteInput)
    {fills : Option (ResolvedRouteCache Ref RouteScope)}
    {caches : RoutingCaches Ref}
    (hfaithful : CachesFaithful casing heap fills caches) :
    (casing.resolveAgentRoute heap config shouldLogVerbose input caches).1 =
        casing.specifiedFor heap config
          (fillRoutes heap config shouldLogVerbose (casing.normalizeInput input) fills).1 ∧
      CachesFaithful casing heap
        (fillRoutes heap config shouldLogVerbose (casing.normalizeInput input) fills).2
        (casing.resolveAgentRoute heap config shouldLogVerbose input caches).2 := by
  have hcomputed := computed_spec casing heap config input hfaithful
  rcases hcomputed with ⟨hroute, hevaluated, hagents⟩
  unfold resolveAgentRoute fillRoutes
  by_cases hcached : (!shouldLogVerbose &&
      (sessionIdentityLinks (config.session.map heap.session)).isNone) = true
  · simp only [hcached, if_true, Option.bind_some, Option.map_some, Option.some_or]
    have hcache := routesOf_resolve casing heap config fills
    rw [← hfaithful.routes] at hcache
    have hconfig := config_resolve config fills
    have hlookup := @lookup_image _ _ _ _ (casing.specifiedFor heap config)
      (resolveRouteCacheForConfig config fills).byKey
      (buildResolvedRouteCacheKey (casing.normalizeInput input)
        (sessionDmScope (config.session.map heap.session)))
    have hbyKey : (resolveRouteCacheForConfig config caches.routes).byKey =
        image (casing.specifiedFor heap config)
          (resolveRouteCacheForConfig config fills).byKey := by
      rw [hcache, routesOf, hconfig]
    rw [hbyKey, hlookup]
    unfold answer
    cases hsource : (resolveRouteCacheForConfig config fills).byKey.lookup
        (buildResolvedRouteCacheKey (casing.normalizeInput input)
          (sessionDmScope (config.session.map heap.session))) with
    | some source =>
      refine ⟨rfl, ?_, ?_, ?_⟩
      · exact hfaithful.agents
      · exact hfaithful.evaluated
      · simp [hcache]
    | none =>
      refine ⟨hroute, ?_, ?_, ?_⟩
      · intro cache heq
        cases heq
        exact hagents
      · intro cache heq
        cases heq
        exact hevaluated
      · simp [hroute, remember_image, hcache, routesOf, hconfig]
  · simp only [hcached, Bool.false_eq_true, if_false, Option.bind_none,
      Option.map_none, Option.none_or]
    refine ⟨hroute, ?_, ?_, ?_⟩
    · intro cache heq
      cases heq
      exact hagents
    · intro cache heq
      cases heq
      exact hevaluated
    · exact hfaithful.routes

end

/-- A call on a config, which refers to the given objects at the time. -/
structure RouteCall (Cfg Ref : Type*) where
  cfg : Cfg
  config : LittleBabyConfig Ref
  shouldLogVerbose : Bool
  input : ResolveAgentRouteInput

section

variable (casing : Casing) (heap : Heap Ref)

def Casing.resolveCall (caches : Cfg → RoutingCaches Ref) (call : RouteCall Cfg Ref) :
    ResolvedAgentRoute × (Cfg → RoutingCaches Ref) :=
  let (route, next) := casing.resolveAgentRoute heap call.config
    call.shouldLogVerbose call.input (caches call.cfg)
  (route, Function.update caches call.cfg next)

variable (calls : List (RouteCall Cfg Ref))

def Casing.cachesAfter : Cfg → RoutingCaches Ref :=
  calls.foldl (fun caches call => (casing.resolveCall heap caches call).2)
    fun _ => RoutingCaches.empty

def Casing.fillCall (fills : Cfg → Option (ResolvedRouteCache Ref RouteScope))
    (call : RouteCall Cfg Ref) :
    RouteScope × (Cfg → Option (ResolvedRouteCache Ref RouteScope)) :=
  let (source, next) := fillRoutes heap call.config call.shouldLogVerbose
    (casing.normalizeInput call.input) (fills call.cfg)
  (source, Function.update fills call.cfg next)

def Casing.fillsAfter : Cfg → Option (ResolvedRouteCache Ref RouteScope) :=
  calls.foldl (fun fills call => (casing.fillCall heap fills call).2) fun _ => none

theorem cachesFaithful_after (cfg : Cfg) :
    CachesFaithful casing heap (casing.fillsAfter heap calls cfg)
      (casing.cachesAfter heap calls cfg) := by
  induction calls using List.reverseRecOn generalizing cfg with
  | nil => exact cachesFaithful_empty casing heap
  | append_singleton calls call ih =>
    have hstep := (resolveAgentRoute_spec casing heap call.config
      call.shouldLogVerbose call.input (ih call.cfg)).2
    have hfills : casing.fillsAfter heap (calls ++ [call]) =
        (casing.fillCall heap (casing.fillsAfter heap calls) call).2 := by
      simp [fillsAfter]
    have hcaches : casing.cachesAfter heap (calls ++ [call]) =
        (casing.resolveCall heap (casing.cachesAfter heap calls) call).2 := by
      simp [cachesAfter]
    rw [hfills, hcaches]
    simp only [fillCall, resolveCall]
    by_cases hcfg : cfg = call.cfg
    · subst hcfg
      rw [Function.update_self, Function.update_self]
      exact hstep
    · rw [Function.update_of_ne hcfg, Function.update_of_ne hcfg]
      exact ih cfg

/-- Every call of a run is answered as specified, when no call is answered from
the slot of another scope: a slot holds the route of the call that filled it,
until the objects of the config are replaced or the cache is emptied. -/
theorem routes_as_specified (calls : List (RouteCall Cfg Ref))
    (hslots : ∀ before call after, calls = before ++ call :: after →
      SameScope (casing.fillCall heap (casing.fillsAfter heap before) call).1
        (casing.normalizeInput call.input)) :
    ∀ before call after, calls = before ++ call :: after →
      (casing.resolveCall heap (casing.cachesAfter heap before) call).1 =
        casing.specifiedFor heap call.config (casing.normalizeInput call.input) := by
  intro before call after hcalls
  have hfaithful := cachesFaithful_after casing heap before call.cfg
  have hspec := (resolveAgentRoute_spec casing heap call.config
    call.shouldLogVerbose call.input hfaithful).1
  have hsame := specifiedRoute_congr casing (hslots before call after hcalls)
    (call.config.bindings.map heap.bindings)
    (call.config.agents.map heap.agents) (call.config.session.map heap.session)
  exact hspec.trans hsame

end

def asciiCasing : Casing where
  toLowerCase text := text.map asciiLower
  ascii := map_asciiLower_of_ascii

def supportHeap : Heap Unit where
  bindings _ :=
    [{ type := none
       agentId := some (js "support")
       bindingMatch :=
         { channel := some (js "chat")
           accountId := none
           peer := some { kind := some (js "direct"), id := some (js "*") }
           guildId := none
           teamId := none
           roles := none } }]
  agents _ := []
  session _ := { dmScope := none, identityLinks := none }

def chatCall (peer : Option RoutePeer) : RouteCall Unit Unit where
  cfg := ()
  config := { bindings := some (), agents := none, session := none }
  shouldLogVerbose := false
  input :=
    { channel := some (js "chat")
      accountId := none
      peer
      parentPeer := none
      guildId := none
      teamId := none
      memberRoleIds := none }

theorem routes_as_specified_peers :
    let ada := chatCall (some ⟨js "direct", js "ada"⟩)
    let bob := chatCall (some ⟨js "direct", js "bob"⟩)
    (asciiCasing.resolveCall supportHeap (asciiCasing.cachesAfter supportHeap [ada]) bob).1 =
      asciiCasing.specifiedFor supportHeap bob.config (asciiCasing.normalizeInput bob.input) := by
  intro ada bob
  apply routes_as_specified asciiCasing supportHeap [ada, bob] _ [ada] bob [] rfl
  intro before call after hcalls
  have hsource : (asciiCasing.fillCall supportHeap
      (asciiCasing.fillsAfter supportHeap before) call).1 =
      asciiCasing.normalizeInput call.input := by
    cases before with
    | nil =>
      have hcall : ada = call := (List.cons.inj hcalls).1
      subst hcall
      decide
    | cons first others =>
      rcases List.cons.inj hcalls with ⟨hfirst, hrest⟩
      subst hfirst
      cases others with
      | nil =>
        have hcall : bob = call := (List.cons.inj hrest).1
        subst hcall
        decide
      | cons second rest =>
        have hnil := (List.cons.inj hrest).2
        exact absurd hnil.symm (by simp)
  rw [hsource]
  exact SameScope.refl _

/-- A peer without an id shares the slot of no peer, and a wildcard binding tells
the two apart. -/
theorem empty_peer_id_misrouted :
    let calls := [chatCall none]
    let call := chatCall (some ⟨js "direct", []⟩)
    let answered := (asciiCasing.resolveCall supportHeap
      (asciiCasing.cachesAfter supportHeap calls) call).1
    let specified := asciiCasing.specifiedFor supportHeap call.config
      (asciiCasing.normalizeInput call.input)
    answered.agentId = js "main" ∧ answered.matchedBy = .default ∧
      specified.agentId = js "support" ∧
      specified.matchedBy = .bindingPeerWildcard := by
  decide +kernel

end LittleBaby.Routing
