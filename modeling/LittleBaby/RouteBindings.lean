import LittleBaby.Entries
import LittleBaby.RouteKeys

/-!
# The bindings of a config, evaluated

The bindings of a channel are kept by account, merged back into the order of the
config for one account, and indexed by what each tier of the search looks up.
-/

namespace LittleBaby.Routing

open JsString

structure BindingPeer where
  kind : Option JsString
  id : Option JsString

structure AgentBindingMatch where
  channel : Option JsString
  accountId : Option JsString
  peer : Option BindingPeer
  guildId : Option JsString
  teamId : Option JsString
  roles : Option (List JsString)

structure AgentBinding where
  type : Option JsString
  agentId : Option JsString
  bindingMatch : AgentBindingMatch

structure AgentEntry where
  id : Option JsString
  isDefault : Bool

structure SessionConfig where
  dmScope : Option DmScope
  identityLinks : Option (List (JsString × List JsString))

def isRouteBinding (binding : AgentBinding) : Bool := binding.type ≠ some (js "acp")

def listBindings (bindings : Option (List AgentBinding)) : List AgentBinding :=
  (bindings.getD []).filter isRouteBinding

inductive NormalizedPeerConstraint where
  | none
  | invalid
  | wildcardKind (kind : ChatType)
  | valid (kind : ChatType) (id : JsString)

structure NormalizedBindingMatch where
  accountPattern : JsString
  peer : NormalizedPeerConstraint
  guildId : Option JsString
  teamId : Option JsString
  roles : Option (List JsString)

structure EvaluatedBinding where
  binding : AgentBinding
  match' : NormalizedBindingMatch
  order : ℕ

structure RoutePeer where
  kind : JsString
  id : JsString
deriving DecidableEq

structure BindingScope where
  peer : Option RoutePeer
  guildId : JsString
  teamId : JsString
  memberRoleIds : List JsString

def isWildcardPattern (accountPattern : JsString) : Bool := accountPattern = js "*"

def NormalizedPeerConstraint.isValid : NormalizedPeerConstraint → Bool
  | .valid _ _ => true
  | _ => false

def NormalizedPeerConstraint.isWildcardKind : NormalizedPeerConstraint → Bool
  | .wildcardKind _ => true
  | _ => false

/-- `value || null`. -/
def orNull (value : JsString) : Option JsString :=
  if value = [] then none else some value

def normalizeRouteBindingRoles (value : Option (List JsString)) : Option (List JsString) :=
  match value with
  | some (role :: roles) => some (role :: roles)
  | _ => none

def peerKindMatches (bindingKind : ChatType) (scopeKind : JsString) : Bool :=
  bindingKind.text = scopeKind || (bindingKind = .group && scopeKind = ChatType.channel.text) ||
    (bindingKind = .channel && scopeKind = ChatType.group.text)

def scopeIdMatches (limit : Option JsString) (exact groupSpace : JsString) :
    Bool :=
  match limit with
  | none => true
  | some limit => limit = [] || limit = exact || limit = groupSpace

def hasAnyRouteBindingRole (roles memberRoleIds : List JsString) : Bool :=
  roles.any (· ∈ memberRoleIds)

variable (limits : NormalizedBindingMatch)

def routeBindingScopeMatches (scope : BindingScope) : Bool :=
  let guildId := normalizeId (some scope.guildId)
  let teamId := normalizeId (some scope.teamId)
  let groupSpace := normalizeId none
  if !scopeIdMatches limits.guildId guildId groupSpace then false
  else if !scopeIdMatches limits.teamId teamId groupSpace then false
  else
    match normalizeRouteBindingRoles limits.roles with
    | none => true
    | some roles => hasAnyRouteBindingRole roles scope.memberRoleIds

def matchesBindingScope (scope : BindingScope) : Bool :=
  match limits.peer, scope.peer with
  | .invalid, _ => false
  | .valid _ _, none => false
  | .valid kind id, some peer =>
    if !peerKindMatches kind peer.kind || peer.id ≠ id then false
    else routeBindingScopeMatches limits scope
  | .wildcardKind _, none => false
  | .wildcardKind kind, some peer =>
    if !peerKindMatches kind peer.kind then false
    else routeBindingScopeMatches limits scope
  | .none, _ => routeBindingScopeMatches limits scope

def hasGuildConstraint : Bool := limits.guildId.any (· ≠ [])

def hasTeamConstraint : Bool := limits.teamId.any (· ≠ [])

def hasRolesConstraint : Bool := limits.roles.isSome

structure EvaluatedBindingsByChannel where
  byAccount : List (JsString × List EvaluatedBinding)
  byAnyAccount : List EvaluatedBinding

namespace Casing

variable (casing : Casing)

def normalizePeerConstraint (peer : Option BindingPeer) :
    NormalizedPeerConstraint :=
  match peer with
  | none => .none
  | some peer =>
    match casing.normalizeChatType peer.kind with
    | none => .invalid
    | some kind =>
      if normalizeId peer.id = [] then .invalid
      else if normalizeId peer.id = js "*" then .wildcardKind kind
      else .valid kind (normalizeId peer.id)

def normalizeBindingMatch (bindingMatch : AgentBindingMatch) : NormalizedBindingMatch where
  accountPattern := trim (orEmpty bindingMatch.accountId)
  peer := casing.normalizePeerConstraint bindingMatch.peer
  guildId := orNull (normalizeId bindingMatch.guildId)
  teamId := orNull (normalizeId bindingMatch.teamId)
  roles := normalizeRouteBindingRoles bindingMatch.roles

def resolveAccountPatternKey (accountPattern : JsString) : JsString :=
  if trim accountPattern = [] then DEFAULT_ACCOUNT_ID
  else casing.normalizeAccountId (some accountPattern)

def bindingChannel (binding : AgentBinding) : JsString :=
  casing.normalizeToken binding.bindingMatch.channel

def addToBucket (evaluated : EvaluatedBinding)
    (bucket : EvaluatedBindingsByChannel) : EvaluatedBindingsByChannel :=
  if isWildcardPattern evaluated.match'.accountPattern then
    { bucket with byAnyAccount := bucket.byAnyAccount ++ [evaluated] }
  else
    let accountKey := casing.resolveAccountPatternKey evaluated.match'.accountPattern
    match bucket.byAccount.lookup accountKey with
    | some existing =>
      { bucket with
        byAccount := Entries.set accountKey (existing ++ [evaluated]) bucket.byAccount }
    | none =>
      { bucket with
        byAccount := Entries.set accountKey [evaluated] bucket.byAccount }

def buildFrom (order : ℕ) (byChannel : List (JsString × EvaluatedBindingsByChannel)) :
    List AgentBinding → List (JsString × EvaluatedBindingsByChannel)
  | [] => byChannel
  | binding :: rest =>
    let channel := casing.bindingChannel binding
    if channel = [] then buildFrom order byChannel rest
    else
      let evaluated : EvaluatedBinding :=
        { binding, match' := casing.normalizeBindingMatch binding.bindingMatch, order }
      let bucket := (byChannel.lookup channel).getD { byAccount := [], byAnyAccount := [] }
      buildFrom (order + 1) (Entries.set channel (casing.addToBucket evaluated bucket) byChannel)
        rest

def buildEvaluatedBindingsByChannel (bindings : Option (List AgentBinding)) :
    List (JsString × EvaluatedBindingsByChannel) :=
  casing.buildFrom 0 [] (listBindings bindings)

end Casing

def mergeEvaluatedBindingsInSourceOrder :
    List EvaluatedBinding → List EvaluatedBinding → List EvaluatedBinding
  | [], anyAccount => anyAccount
  | accountScoped, [] => accountScoped
  | accountBinding :: accountScoped, anyBinding :: anyAccount =>
    if accountBinding.order ≤ anyBinding.order then
      accountBinding :: mergeEvaluatedBindingsInSourceOrder accountScoped (anyBinding :: anyAccount)
    else
      anyBinding :: mergeEvaluatedBindingsInSourceOrder (accountBinding :: accountScoped) anyAccount
termination_by accountScoped anyAccount =>
  accountScoped.length + anyAccount.length

structure EvaluatedBindingsIndex where
  byPeer : List (JsString × List EvaluatedBinding)
  byPeerWildcard : List EvaluatedBinding
  byGuildWithRoles : List (JsString × List EvaluatedBinding)
  byGuild : List (JsString × List EvaluatedBinding)
  byTeam : List (JsString × List EvaluatedBinding)
  byAccount : List EvaluatedBinding
  byChannel : List EvaluatedBinding

def pushToIndexMap (map : List (JsString × List EvaluatedBinding))
    (key : Option JsString) (binding : EvaluatedBinding) :
    List (JsString × List EvaluatedBinding) :=
  match key with
  | none => map
  | some [] => map
  | some (unit :: rest) =>
    match map.lookup (unit :: rest) with
    | some existing => Entries.set (unit :: rest) (existing ++ [binding]) map
    | none => Entries.set (unit :: rest) [binding] map

def peerLookupKeys (kind id : JsString) : List JsString :=
  if kind = ChatType.group.text then
    [js "group:" ++ id, js "channel:" ++ id]
  else if kind = ChatType.channel.text then
    [js "channel:" ++ id, js "group:" ++ id]
  else [kind ++ js ":" ++ id]

def collectPeerIndexedBindings (index : EvaluatedBindingsIndex)
    (peer : Option RoutePeer) : List EvaluatedBinding :=
  match peer with
  | none => []
  | some peer =>
    ((peerLookupKeys peer.kind peer.id).flatMap fun key =>
      (index.byPeer.lookup key).getD []).foldl (fun out found =>
          if out.any fun seen => seen.order = found.order then out
          else out ++ [found]) []

def addToIndex (index : EvaluatedBindingsIndex) (binding : EvaluatedBinding) :
    EvaluatedBindingsIndex :=
  match binding.match'.peer with
  | .valid kind id =>
    { index with
      byPeer := (peerLookupKeys kind.text id).foldl (fun map key =>
        pushToIndexMap map (some key) binding) index.byPeer }
  | .wildcardKind _ =>
    { index with byPeerWildcard := index.byPeerWildcard ++ [binding] }
  | _ =>
    if hasGuildConstraint binding.match' && hasRolesConstraint binding.match' then
      { index with
        byGuildWithRoles := pushToIndexMap index.byGuildWithRoles binding.match'.guildId binding }
    else if hasGuildConstraint binding.match' && !hasRolesConstraint binding.match' then
      { index with
        byGuild := pushToIndexMap index.byGuild binding.match'.guildId binding }
    else if hasTeamConstraint binding.match' then
      { index with
        byTeam := pushToIndexMap index.byTeam binding.match'.teamId binding }
    else if !isWildcardPattern binding.match'.accountPattern then
      { index with byAccount := index.byAccount ++ [binding] }
    else { index with byChannel := index.byChannel ++ [binding] }

def buildEvaluatedBindingsIndex (bindings : List EvaluatedBinding) :
    EvaluatedBindingsIndex :=
  bindings.foldl addToIndex
    { byPeer := [], byPeerWildcard := [], byGuildWithRoles := [], byGuild := [],
      byTeam := [], byAccount := [], byChannel := [] }

end LittleBaby.Routing
