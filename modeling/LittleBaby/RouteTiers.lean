import LittleBaby.RouteIndexing

/-!
# The indexed search is the plain search

The uncached route: the bindings of the channel that cover the account, tried
tier by tier in the order of the config.
-/

namespace LittleBaby.Routing

open JsString TieredSearch Casing

def Normal (binding : EvaluatedBinding) : Prop := binding.match'.roles ≠ some []

theorem scopeIdMatches_exact {limit exact : JsString}
    (hmatches : scopeIdMatches (some limit) exact (normalizeId none) = true)
    (hne : limit ≠ []) : limit = exact := by
  have hspace : normalizeId none = [] := by
    simp [normalizeId, orEmpty]
  simp only [scopeIdMatches, hspace, hne, Bool.or_eq_true, decide_eq_true_eq,
    false_or, or_false] at hmatches
  exact hmatches

section

variable {limits : NormalizedBindingMatch} {scope : BindingScope} (hmatches : matchesBindingScope
  limits scope = true)

include hmatches

theorem routeBindingScopeMatches_of_matches : routeBindingScopeMatches limits scope = true := by
  unfold matchesBindingScope at hmatches
  split at hmatches
  next => cases hmatches
  next => cases hmatches
  next =>
    split at hmatches
    next => cases hmatches
    next => exact hmatches
  next => cases hmatches
  next =>
    split at hmatches
    next => cases hmatches
    next => exact hmatches
  next => exact hmatches

theorem matches_cases : scopeIdMatches limits.guildId (normalizeId (some scope.guildId))
        (normalizeId none) = true ∧
      scopeIdMatches limits.teamId (normalizeId (some scope.teamId)) (normalizeId none) = true ∧
      ∀ roles, normalizeRouteBindingRoles limits.roles = some roles →
        hasAnyRouteBindingRole roles scope.memberRoleIds = true := by
  have hscope := routeBindingScopeMatches_of_matches hmatches
  simp only [routeBindingScopeMatches] at hscope
  split at hscope
  next => cases hscope
  next hguild =>
    split at hscope
    next => cases hscope
    next hteam =>
      refine ⟨by simpa using hguild, by simpa using hteam, ?_⟩
      intro roles hroles
      rw [hroles] at hscope
      exact hscope

theorem guildId_of_matches (hguild : hasGuildConstraint limits = true) :
    limits.guildId = some (normalizeId (some scope.guildId)) ∧
      normalizeId (some scope.guildId) ≠ [] := by
  have hid := (matches_cases hmatches).1
  unfold hasGuildConstraint at hguild
  cases hcase : limits.guildId with
  | none => simp [hcase] at hguild
  | some guildId =>
    rw [hcase] at hguild hid
    have hne : guildId ≠ [] := by simpa using hguild
    have hexact := scopeIdMatches_exact hid hne
    subst hexact
    exact ⟨rfl, hne⟩

theorem teamId_of_matches (hteam : hasTeamConstraint limits = true) :
    limits.teamId = some (normalizeId (some scope.teamId)) ∧
      normalizeId (some scope.teamId) ≠ [] := by
  have hid := (matches_cases hmatches).2.1
  unfold hasTeamConstraint at hteam
  cases hcase : limits.teamId with
  | none => simp [hcase] at hteam
  | some teamId =>
    rw [hcase] at hteam hid
    have hne : teamId ≠ [] := by simpa using hteam
    have hexact := scopeIdMatches_exact hid hne
    subst hexact
    exact ⟨rfl, hne⟩

end

variable {binding : EvaluatedBinding}

theorem memberRoleIds_of_matches {scope : BindingScope} (hnormal : Normal binding)
    (hmatches : matchesBindingScope binding.match' scope = true)
    (hroles : hasRolesConstraint binding.match' = true) :
    0 < scope.memberRoleIds.length := by
  have hmember := (matches_cases hmatches).2.2
  unfold hasRolesConstraint at hroles
  cases hcase : binding.match'.roles with
  | none => simp [hcase] at hroles
  | some roles =>
    cases roles with
    | nil => exact absurd hcase hnormal
    | cons role rest =>
      have hany := hmember (role :: rest) (by simp [normalizeRouteBindingRoles, hcase])
      simp only [hasAnyRouteBindingRole, List.any_eq_true, decide_eq_true_eq] at hany
      rcases hany with ⟨found, -, hfound⟩
      exact List.length_pos_of_mem hfound

theorem peer_of_matches {limits : NormalizedBindingMatch} {scope : BindingScope}
    (hmatches : matchesBindingScope limits scope = true)
    (hpeer : limits.peer.isValid = true ∨ limits.peer.isWildcardKind = true) :
    scope.peer.isSome = true := by
  unfold matchesBindingScope at hmatches
  split at hmatches
  next => cases hmatches
  next => cases hmatches
  next => simp [*]
  next => cases hmatches
  next => simp [*]
  next hnone =>
    rw [hnone] at hpeer
    rcases hpeer with hpeer | hpeer
    · cases hpeer
    · cases hpeer

section

variable {bindings : List EvaluatedBinding} {index : EvaluatedBindingsIndex}
  {scope : RouteScope} {earlier : List (Tier MatchedBy EvaluatedBinding)}

theorem underPeer_of_accepts {peer : RoutePeer} (hvalid : binding.match'.peer.isValid = true)
    (hmatches : matchesBindingScope binding.match' (scope.withPeer (some peer)) = true) :
    underPeer peer binding = true := by
  cases hcase : binding.match'.peer with
  | none | invalid | wildcardKind kind =>
    simp [hcase, NormalizedPeerConstraint.isValid] at hvalid
  | valid kind id =>
    simp only [matchesBindingScope, hcase, RouteScope.withPeer] at hmatches
    split at hmatches
    next => cases hmatches
    next hpeer =>
      simp only [Bool.or_eq_true, Bool.not_eq_true', decide_eq_true_eq, not_or,
        Bool.not_eq_false, not_not] at hpeer
      exact underPeer_of_matches hcase hpeer.1 hpeer.2

section

variable (hindexed : Indexed bindings index)
include hindexed

theorem peerTier_covers (hincreasing : InOrder bindings) (henabled : scope.peer.isSome = true) :
    (peerTier index scope).Covers bindings earlier := by
  rcases Option.isSome_iff_exists.mp henabled with ⟨peer, hpeer⟩
  refine ⟨underPeer peer, ?_, ?_⟩
  · simp only [peerTier, hpeer]
    exact collect_eq hindexed hincreasing peer
  · intro binding _ haccepts hnarrow
    simp only [peerTier, hpeer, Bool.and_eq_true] at haccepts
    rw [underPeer_of_accepts haccepts.1 haccepts.2] at hnarrow
    cases hnarrow

theorem parentPeerTier_covers (hincreasing : InOrder bindings)
    (henabled : scope.inheritedPeer.isSome = true) :
    (parentPeerTier index scope).Covers bindings earlier := by
  rcases Option.isSome_iff_exists.mp henabled with ⟨peer, hpeer⟩
  have hparent : scope.parentPeer = some peer := by
    exact (Option.filter_eq_some_iff.mp hpeer).1
  refine ⟨underPeer peer, ?_, ?_⟩
  · simp only [parentPeerTier, hparent]
    exact collect_eq hindexed hincreasing peer
  · intro binding _ haccepts hnarrow
    simp only [parentPeerTier, hpeer, Bool.and_eq_true] at haccepts
    rw [underPeer_of_accepts haccepts.1 haccepts.2] at hnarrow
    cases hnarrow

theorem peerWildcardTier_covers : (peerWildcardTier index scope).Covers bindings earlier := by
  refine ⟨fun binding => binding.match'.peer.isWildcardKind, ?_, ?_⟩
  · exact hindexed.wildcard
  · intro binding _ haccepts hnarrow
    simp only [peerWildcardTier, hnarrow, Bool.false_and] at haccepts
    cases haccepts

end

theorem accepted_by_peer (hmatches : matchesBindingScope binding.match'
      (scope.withPeer scope.peer) = true)
    (hpeer : withoutPeer binding = false)
    (hpeerTier : peerTier index scope ∈ earlier)
    (hwildcardTier : peerWildcardTier index scope ∈ earlier) :
    ∃ other ∈ earlier, other.enabled = true ∧ other.accepts binding = true := by
  cases hvalid : binding.match'.peer.isValid with
  | true =>
    have hsome := peer_of_matches hmatches (.inl hvalid)
    exact ⟨peerTier index scope, hpeerTier, hsome, by
      simp [peerTier, hvalid, hmatches]⟩
  | false =>
    have hwildcard : binding.match'.peer.isWildcardKind = true := by
      simpa [withoutPeer, hvalid] using hpeer
    have hsome := peer_of_matches hmatches (.inr hwildcard)
    exact ⟨peerWildcardTier index scope, hwildcardTier, hsome, by
      simp [peerWildcardTier, hwildcard, hmatches]⟩

theorem accepted_by_guild (hnormal : Normal binding)
    (hscope : normalizeId (some scope.guildId) = scope.guildId)
    (hmatches : matchesBindingScope binding.match' (scope.withPeer scope.peer) = true)
    (hguild : hasGuildConstraint binding.match' = true)
    (hrolesTier : guildRolesTier index scope ∈ earlier)
    (hguildTier : guildTier index scope ∈ earlier) :
    ∃ other ∈ earlier, other.enabled = true ∧ other.accepts binding = true := by
  have hid := (guildId_of_matches hmatches hguild).2
  have hne : scope.guildId ≠ [] := by
    rw [← hscope]
    exact hid
  cases hroles : hasRolesConstraint binding.match' with
  | true =>
    have hmembers := memberRoleIds_of_matches hnormal hmatches hroles
    have hlength : 0 < scope.memberRoleIds.length := hmembers
    exact ⟨guildRolesTier index scope, hrolesTier, by
      simp [guildRolesTier, hne, hlength], by
      simp [guildRolesTier, hguild, hroles, hmatches]⟩
  | false =>
    exact ⟨guildTier index scope, hguildTier, by simp [guildTier, hne], by
      simp [guildTier, hguild, hroles, hmatches]⟩

theorem accepted_by_team (hscope : normalizeId (some scope.teamId) = scope.teamId)
    (hmatches : matchesBindingScope binding.match' (scope.withPeer scope.peer) = true)
    (hteam : hasTeamConstraint binding.match' = true)
    (hteamTier : teamTier index scope ∈ earlier) :
    ∃ other ∈ earlier, other.enabled = true ∧ other.accepts binding = true := by
  have hid := (teamId_of_matches hmatches hteam).2
  have hne : scope.teamId ≠ [] := by
    rw [← hscope]
    exact hid
  exact ⟨teamTier index scope, hteamTier, by simp [teamTier, hne], by
    simp [teamTier, hteam, hmatches]⟩

section

variable (hindexed : Indexed bindings index) (hscope : normalizeId (some scope.guildId) =
  scope.guildId) (hne : scope.guildId ≠ []) (hpeerTier : peerTier index scope ∈ earlier)
  (hwildcardTier : peerWildcardTier index scope ∈ earlier)

include hindexed hscope hne hpeerTier hwildcardTier

theorem guildRolesTier_covers : (guildRolesTier index scope).Covers bindings earlier := by
  have hcandidates : (guildRolesTier index scope).candidates =
      groupOf index.byGuildWithRoles scope.guildId := if_neg hne
  refine ⟨_, hcandidates.trans (hindexed.guildRoles scope.guildId hne), ?_⟩
  · intro binding _ haccepts hnarrow
    simp only [guildRolesTier, Bool.and_eq_true] at haccepts
    rcases haccepts with ⟨⟨hguild, hroles⟩, hmatches⟩
    have hid := (guildId_of_matches hmatches hguild).1
    apply accepted_by_peer hmatches _ hpeerTier hwildcardTier
    simpa [hroles, hid, RouteScope.withPeer, hscope] using hnarrow

theorem guildTier_covers : (guildTier index scope).Covers bindings earlier := by
  have hcandidates : (guildTier index scope).candidates =
      groupOf index.byGuild scope.guildId := if_neg hne
  refine ⟨_, hcandidates.trans (hindexed.guild scope.guildId hne), ?_⟩
  · intro binding _ haccepts hnarrow
    simp only [guildTier, Bool.and_eq_true, Bool.not_eq_true'] at haccepts
    rcases haccepts with ⟨⟨hguild, hroles⟩, hmatches⟩
    have hid := (guildId_of_matches hmatches hguild).1
    apply accepted_by_peer hmatches _ hpeerTier hwildcardTier
    simpa [hroles, hid, RouteScope.withPeer, hscope] using hnarrow

end

structure ScopeTiers (index : EvaluatedBindingsIndex) (scope : RouteScope)
    (earlier : List (Tier MatchedBy EvaluatedBinding)) : Prop where
  peer : peerTier index scope ∈ earlier
  wildcard : peerWildcardTier index scope ∈ earlier
  guildRoles : guildRolesTier index scope ∈ earlier
  guild : guildTier index scope ∈ earlier
  scopeGuild : normalizeId (some scope.guildId) = scope.guildId
  scopeTeam : normalizeId (some scope.teamId) = scope.teamId

theorem teamTier_covers (hindexed : Indexed bindings index)
    (hnormal : ∀ binding ∈ bindings, Normal binding)
    (htiers : ScopeTiers index scope earlier) (hne : scope.teamId ≠ []) :
    (teamTier index scope).Covers bindings earlier := by
  have hcandidates : (teamTier index scope).candidates =
      groupOf index.byTeam scope.teamId := if_neg hne
  refine ⟨_, hcandidates.trans (hindexed.team scope.teamId hne), ?_⟩
  · intro binding hmem haccepts hnarrow
    simp only [teamTier, Bool.and_eq_true] at haccepts
    rcases haccepts with ⟨hteam, hmatches⟩
    have hid := (teamId_of_matches hmatches hteam).1
    cases hguild : hasGuildConstraint binding.match' with
    | true =>
      exact accepted_by_guild (hnormal binding hmem) htiers.scopeGuild hmatches
        hguild htiers.guildRoles htiers.guild
    | false =>
      apply accepted_by_peer hmatches _ htiers.peer htiers.wildcard
      simpa [hguild, hid, RouteScope.withPeer, htiers.scopeTeam] using hnarrow

theorem accepted_before (hnormal : Normal binding) (htiers : ScopeTiers index scope earlier)
    (hteamTier : teamTier index scope ∈ earlier)
    (hmatches : matchesBindingScope binding.match' (scope.withPeer scope.peer) = true)
    (hout : (withoutPeer binding && !hasGuildConstraint binding.match' &&
      !hasTeamConstraint binding.match') = false) :
    ∃ other ∈ earlier, other.enabled = true ∧ other.accepts binding = true := by
  cases hpeer : withoutPeer binding with
  | false => exact accepted_by_peer hmatches hpeer htiers.peer htiers.wildcard
  | true =>
    cases hguild : hasGuildConstraint binding.match' with
    | true =>
      exact accepted_by_guild hnormal htiers.scopeGuild hmatches hguild
        htiers.guildRoles htiers.guild
    | false =>
      have hteam : hasTeamConstraint binding.match' = true := by
        simpa [hpeer, hguild] using hout
      exact accepted_by_team htiers.scopeTeam hmatches hteam hteamTier

section

variable (hindexed : Indexed bindings index) (hnormal : ∀ binding ∈ bindings, Normal binding)
  (htiers : ScopeTiers index scope earlier) (hteamTier : teamTier index scope ∈ earlier)

include hindexed hnormal htiers hteamTier

theorem accountTier_covers : (accountTier index scope).Covers bindings earlier := by
  refine ⟨_, hindexed.account, ?_⟩
  intro binding hmem haccepts hnarrow
  simp only [accountTier, Bool.and_eq_true, Bool.not_eq_true'] at haccepts
  rcases haccepts with ⟨hpattern, hmatches⟩
  apply accepted_before (hnormal binding hmem) htiers hteamTier hmatches
  simpa [forAnyAccount, hpattern] using hnarrow

theorem channelTier_covers : (channelTier index scope).Covers bindings earlier := by
  refine ⟨_, hindexed.channel, ?_⟩
  intro binding hmem haccepts hnarrow
  simp only [channelTier, Bool.and_eq_true] at haccepts
  rcases haccepts with ⟨hpattern, hmatches⟩
  apply accepted_before (hnormal binding hmem) htiers hteamTier hmatches
  simpa [forAnyAccount, hpattern] using hnarrow

end

end

theorem search_routeTiers {bindings : List EvaluatedBinding}
    {index : EvaluatedBindingsIndex} {scope : RouteScope}
    (hindexed : Indexed bindings index) (hincreasing : InOrder bindings)
    (hnormal : ∀ binding ∈ bindings, Normal binding)
    (hguild : normalizeId (some scope.guildId) = scope.guildId)
    (hteam : normalizeId (some scope.teamId) = scope.teamId) :
    search (routeTiers index scope) =
      search ((routeTiers index scope).map (Tier.over bindings)) := by
  apply search_eq
  have htiers (earlier : List (Tier MatchedBy EvaluatedBinding)) :
      ScopeTiers index scope (earlier ++ [guildTier index scope,
        guildRolesTier index scope, peerWildcardTier index scope,
        parentPeerTier index scope, peerTier index scope]) := by
    constructor
    · simp
    · simp
    · simp
    · simp
    · exact hguild
    · exact hteam
  refine ⟨?_, ?_, ?_, ?_, ?_, ?_, ?_, ?_, trivial⟩
  · exact peerTier_covers hindexed hincreasing
  · exact parentPeerTier_covers hindexed hincreasing
  · intro _
    exact peerWildcardTier_covers hindexed
  · intro henabled
    have hne : scope.guildId ≠ [] := by
      simp only [guildRolesTier, Bool.and_eq_true, decide_eq_true_eq] at henabled
      exact henabled.1
    apply guildRolesTier_covers hindexed hguild hne
    · simp
    · simp
  · intro henabled
    have hne : scope.guildId ≠ [] := by
      simpa [guildTier] using henabled
    apply guildTier_covers hindexed hguild hne
    · simp
    · simp
  · intro henabled
    have hne : scope.teamId ≠ [] := by
      simpa [teamTier] using henabled
    exact teamTier_covers hindexed hnormal (htiers []) hne
  · intro _
    apply accountTier_covers hindexed hnormal (htiers [teamTier index scope])
    simp
  · intro _
    apply channelTier_covers hindexed hnormal
      (htiers [accountTier index scope, teamTier index scope])
    simp

structure RouteRule where
  label : MatchedBy
  enabled : Bool
  accepts : NormalizedBindingMatch → Bool

def routeRules (scope : RouteScope) : List RouteRule :=
  let rule (label : MatchedBy) (enabled : Bool) (peer : Option RoutePeer)
      (predicate : NormalizedBindingMatch → Bool) : RouteRule :=
    { label
      enabled
      accepts limits := predicate limits && matchesBindingScope limits (scope.withPeer peer) }
  [rule .bindingPeer scope.peer.isSome scope.peer fun limits =>
      limits.peer.isValid,
    rule .bindingPeerParent scope.inheritedPeer.isSome scope.inheritedPeer
      fun limits => limits.peer.isValid,
    rule .bindingPeerWildcard scope.peer.isSome scope.peer fun limits =>
      limits.peer.isWildcardKind,
    rule .bindingGuildRoles (scope.guildId ≠ [] && 0 < scope.memberRoleIds.length) scope.peer
      fun limits => hasGuildConstraint limits && hasRolesConstraint limits,
    rule .bindingGuild (scope.guildId ≠ []) scope.peer fun limits =>
      hasGuildConstraint limits && !hasRolesConstraint limits,
    rule .bindingTeam (scope.teamId ≠ []) scope.peer hasTeamConstraint,
    rule .bindingAccount true scope.peer fun limits =>
      !isWildcardPattern limits.accountPattern,
    rule .bindingChannel true scope.peer fun limits =>
      isWildcardPattern limits.accountPattern]

namespace Casing

variable (casing : Casing)

/-- The bindings of a channel whose account pattern is `*` or normalises to the
account. -/
def plainBindings (bindings : Option (List AgentBinding))
    (channel accountId : JsString) : List AgentBinding :=
  (listBindings bindings).filter fun binding =>
    casing.bindingChannel binding ≠ [] && casing.bindingChannel binding = channel &&
      let accountPattern := (casing.normalizeBindingMatch binding.bindingMatch).accountPattern
      isWildcardPattern accountPattern || casing.resolveAccountPatternKey accountPattern = accountId

def plainMatch (bindings : Option (List AgentBinding)) (scope : RouteScope) :
    Option (MatchedBy × AgentBinding) :=
  search ((routeRules scope).map fun rule =>
    { label := rule.label
      enabled := rule.enabled
      candidates := casing.plainBindings bindings scope.channel scope.accountId
      accepts binding := rule.accepts (casing.normalizeBindingMatch binding.bindingMatch) })

def specifiedRoute (bindings : Option (List AgentBinding))
    (agents : Option (List AgentEntry)) (session : Option SessionConfig)
    (scope : RouteScope) : ResolvedAgentRoute :=
  let lookup := casing.buildAgentLookup agents
  match casing.plainMatch bindings scope with
  | some (matchedBy, binding) =>
    casing.routeTo session scope (casing.pickFromLookup lookup binding.agentId) matchedBy
  | none =>
    casing.routeTo session scope (casing.pickFromLookup lookup
        (some (casing.resolveDefaultAgentId agents))) .default

theorem numberFrom_spec (bindings : List AgentBinding) (order : ℕ) :
    ∀ evaluated ∈ casing.numberFrom order bindings, evaluated.match' =
        casing.normalizeBindingMatch evaluated.binding.bindingMatch := by
  induction bindings generalizing order with
  | nil =>
    intro evaluated hmem
    cases hmem
  | cons first rest ih =>
    intro evaluated hmem
    rw [numberFrom] at hmem
    split at hmem
    next => exact ih order evaluated hmem
    next =>
      rcases List.mem_cons.mp hmem with rfl | hmem
      · rfl
      · exact ih (order + 1) evaluated hmem

theorem normal_numberFrom (bindings : List AgentBinding) (order : ℕ) :
    ∀ evaluated ∈ casing.numberFrom order bindings, Normal evaluated := by
  intro evaluated hmem
  unfold Normal
  rw [numberFrom_spec casing bindings order evaluated hmem]
  simp only [normalizeBindingMatch, normalizeRouteBindingRoles]
  split
  next => simp
  next => simp

theorem evaluateBindings_build (bindings : Option (List AgentBinding))
    (channel accountId : JsString) :
    evaluateBindings (casing.buildEvaluatedBindingsByChannel bindings) channel accountId =
      (casing.numberFrom 0 (listBindings bindings)).filter (casing.concerns channel accountId) := by
  have hbucketed := bucketed_build casing bindings
  have hmerge := @merge_filter (casing.numberFrom 0 (listBindings bindings))
    (fun binding => casing.inChannel channel binding && !forAnyAccount binding &&
      casing.forAccount accountId binding)
    (fun binding => casing.inChannel channel binding && forAnyAccount binding)
    (increasing_numberFrom casing _ 0) (by
      intro binding _ hleft
      simp only [Bool.and_eq_true, Bool.not_eq_true'] at hleft
      simp [hleft.1.2])
  rw [← hbucketed.forOne, ← hbucketed.any] at hmerge
  rw [evaluateBindings]
  simp only [accountScopedOf, anyAccountOf] at hmerge
  rw [hmerge]
  congr 1
  funext binding
  unfold concerns
  cases forAnyAccount binding <;> simp

theorem map_numberFrom (bindings : List AgentBinding) (order : ℕ) (channel accountId : JsString) :
    ((casing.numberFrom order bindings).filter
        (casing.concerns channel accountId)).map EvaluatedBinding.binding =
      bindings.filter fun binding =>
        casing.bindingChannel binding ≠ [] && casing.bindingChannel binding = channel &&
          let accountPattern := (casing.normalizeBindingMatch binding.bindingMatch).accountPattern
          isWildcardPattern accountPattern ||
            casing.resolveAccountPatternKey accountPattern = accountId := by
  induction bindings generalizing order with
  | nil => rfl
  | cons first rest ih =>
    rw [numberFrom]
    split
    next hempty =>
      rw [ih order, List.filter_cons_of_neg (by simp [hempty])]
    next hnamed =>
      have hconcerns : casing.concerns channel accountId
          { binding := first
            match' := casing.normalizeBindingMatch first.bindingMatch
            order } =
        (decide (casing.bindingChannel first ≠ []) &&
          decide (casing.bindingChannel first = channel) &&
          (isWildcardPattern (casing.normalizeBindingMatch first.bindingMatch).accountPattern ||
            decide (casing.resolveAccountPatternKey
              (casing.normalizeBindingMatch first.bindingMatch).accountPattern = accountId))) := by
        simp [concerns, inChannel, forAnyAccount, forAccount, hnamed]
      rw [List.filter_cons, List.filter_cons, hconcerns]
      split
      next => rw [List.map_cons, ih (order + 1)]
      next => exact ih (order + 1)

theorem search_indexed (bindings : Option (List AgentBinding)) {scope : RouteScope}
    (hguild : normalizeId (some scope.guildId) = scope.guildId)
    (hteam : normalizeId (some scope.teamId) = scope.teamId) :
    (search (routeTiers (buildEvaluatedBindingsIndex (evaluateBindings
        (casing.buildEvaluatedBindingsByChannel bindings) scope.channel
          scope.accountId)) scope)).map (Prod.map id EvaluatedBinding.binding) =
      casing.plainMatch bindings scope := by
  rw [evaluateBindings_build]
  have hmem : ∀ evaluated ∈ (casing.numberFrom 0 (listBindings bindings)).filter
      (casing.concerns scope.channel scope.accountId),
      evaluated ∈ casing.numberFrom 0 (listBindings bindings) :=
    fun evaluated => List.mem_of_mem_filter
  rw [search_routeTiers (indexed_build _) ((increasing_numberFrom casing _ 0).filter _)
    (fun evaluated hevaluated =>
      normal_numberFrom casing _ 0 evaluated (hmem evaluated hevaluated))
    hguild hteam]
  have himage := @search_image MatchedBy EvaluatedBinding RouteRule AgentBinding
    (routeRules scope) RouteRule.label RouteRule.enabled
    (fun rule evaluated => rule.accepts evaluated.match')
    (fun rule binding =>
      rule.accepts (casing.normalizeBindingMatch binding.bindingMatch))
    EvaluatedBinding.binding
    ((casing.numberFrom 0 (listBindings bindings)).filter
      (casing.concerns scope.channel scope.accountId))
    (by
      intro rule _ evaluated hevaluated
      rw [numberFrom_spec casing _ 0 evaluated (hmem evaluated hevaluated)])
  rw [map_numberFrom] at himage
  exact himage

end Casing

end LittleBaby.Routing
