import LittleBaby.RouteMerging
import LittleBaby.RouteResolve

/-!
# The index finds what the tiers accept

The lists of the index are the bindings of its classes in the order of the
config, and a binding that a tier accepts is in the list the tier looks up,
unless a tier in front of it accepts the binding as well.
-/

namespace LittleBaby.Routing

open JsString TieredSearch Casing

def underKey (key : JsString) (binding : EvaluatedBinding) : Bool :=
  match binding.match'.peer with
  | .valid kind id => key ∈ peerLookupKeys kind.text id
  | _ => false

def withoutPeer (binding : EvaluatedBinding) : Bool :=
  !binding.match'.peer.isValid && !binding.match'.peer.isWildcardKind

structure Indexed (bindings : List EvaluatedBinding)
    (index : EvaluatedBindingsIndex) : Prop where
  peer : ∀ key, key ≠ [] → groupOf index.byPeer key = bindings.filter (underKey key)
  wildcard : index.byPeerWildcard = bindings.filter fun binding =>
    binding.match'.peer.isWildcardKind
  guildRoles : ∀ guildId, guildId ≠ [] →
    groupOf index.byGuildWithRoles guildId = bindings.filter fun binding =>
      withoutPeer binding && hasRolesConstraint binding.match' &&
        decide (binding.match'.guildId = some guildId)
  guild : ∀ guildId, guildId ≠ [] → groupOf index.byGuild guildId = bindings.filter fun binding =>
      withoutPeer binding && !hasRolesConstraint binding.match' &&
        decide (binding.match'.guildId = some guildId)
  team : ∀ teamId, teamId ≠ [] → groupOf index.byTeam teamId = bindings.filter fun binding =>
      withoutPeer binding && !hasGuildConstraint binding.match' &&
        decide (binding.match'.teamId = some teamId)
  account : index.byAccount = bindings.filter fun binding =>
    withoutPeer binding && !hasGuildConstraint binding.match' &&
      !hasTeamConstraint binding.match' && !forAnyAccount binding
  channel : index.byChannel = bindings.filter fun binding =>
    withoutPeer binding && !hasGuildConstraint binding.match' &&
      !hasTeamConstraint binding.match' && forAnyAccount binding

theorem groupOf_push (map : List (JsString × List EvaluatedBinding))
    (key : Option JsString) (binding : EvaluatedBinding) {other : JsString}
    (hother : other ≠ []) :
    groupOf (pushToIndexMap map key binding) other =
      groupOf map other ++ if key = some other then [binding] else [] := by
  unfold pushToIndexMap
  split
  next => simp
  next =>
    have hne : some [] ≠ some other := fun heq => hother (Option.some.inj heq).symm
    simp [hne]
  next unit rest =>
    have happend := groupOf_append map (unit :: rest) other binding
    simp only [Option.some.injEq]
    rw [← happend]
    split
    next existing hlookup => simp [groupOf, hlookup]
    next hlookup => simp [groupOf, hlookup]

theorem groupOf_pushAll (keys : List JsString) (hnodup : keys.Nodup)
    (map : List (JsString × List EvaluatedBinding)) (binding : EvaluatedBinding)
    {other : JsString} (hother : other ≠ []) :
    groupOf (keys.foldl (fun map key => pushToIndexMap map (some key) binding) map) other =
      groupOf map other ++ if other ∈ keys then [binding] else [] := by
  induction keys generalizing map with
  | nil => simp
  | cons key rest ih =>
    rw [List.nodup_cons] at hnodup
    rw [List.foldl_cons, ih hnodup.2, groupOf_push map _ _ hother, List.append_assoc]
    congr 1
    by_cases hsame : key = other
    · subst hsame
      simp [hnodup.1]
    · have hne : other ≠ key := fun heq => hsame heq.symm
      simp [hsame, hne]

theorem nodup_peerLookupKeys (kind : ChatType) (id : JsString) :
    (peerLookupKeys kind.text id).Nodup := by
  cases kind with
  | direct | group | channel =>
    simp [peerLookupKeys, ChatType.text, js, encode]

theorem indexed_nil : Indexed [] (buildEvaluatedBindingsIndex []) := by
  constructor <;> simp [buildEvaluatedBindingsIndex, groupOf]

theorem guildId_of_hasGuild {limits : NormalizedBindingMatch}
    {guildId : JsString} (hne : guildId ≠ [])
    (hguild : limits.guildId = some guildId) :
    hasGuildConstraint limits = true := by
  simp [hasGuildConstraint, hguild, hne]

theorem teamId_of_hasTeam {limits : NormalizedBindingMatch} {teamId : JsString}
    (hne : teamId ≠ []) (hteam : limits.teamId = some teamId) :
    hasTeamConstraint limits = true := by
  simp [hasTeamConstraint, hteam, hne]

variable {bindings : List EvaluatedBinding} {index : EvaluatedBindingsIndex}
  {binding : EvaluatedBinding}

theorem indexed_add_peer (hindexed : Indexed bindings index) (hpeer : withoutPeer binding = false) :
    Indexed (bindings ++ [binding]) (addToIndex index binding) := by
  unfold addToIndex
  cases hcase : binding.match'.peer with
  | none | invalid =>
    simp [withoutPeer, hcase, NormalizedPeerConstraint.isValid,
      NormalizedPeerConstraint.isWildcardKind] at hpeer
  | wildcardKind kind | valid kind id =>
    constructor
    case peer =>
      intro key hkey
      rw [List.filter_append, ← hindexed.peer key hkey]
      simp [underKey, hcase, groupOf_pushAll, nodup_peerLookupKeys, hkey, List.filter_cons]
    case wildcard =>
      rw [List.filter_append, ← hindexed.wildcard]
      simp [hcase, NormalizedPeerConstraint.isWildcardKind]
    case guildRoles | guild | team =>
      intro id hid
      simp [hindexed.guildRoles, hindexed.guild, hindexed.team, hid, hpeer]
    case account | channel => simp [hindexed.account, hindexed.channel, hpeer]

theorem addToIndex_scope (index : EvaluatedBindingsIndex) (hpeer : withoutPeer binding = true) :
    addToIndex index binding = if hasGuildConstraint binding.match' then
        if hasRolesConstraint binding.match' then
          { index with
            byGuildWithRoles := pushToIndexMap index.byGuildWithRoles
              binding.match'.guildId binding }
        else
          { index with
            byGuild := pushToIndexMap index.byGuild binding.match'.guildId binding }
      else if hasTeamConstraint binding.match' then
        { index with
          byTeam := pushToIndexMap index.byTeam binding.match'.teamId binding }
      else if forAnyAccount binding then
        { index with byChannel := index.byChannel ++ [binding] }
      else { index with byAccount := index.byAccount ++ [binding] } := by
  simp only [withoutPeer, Bool.and_eq_true, Bool.not_eq_true'] at hpeer
  unfold addToIndex forAnyAccount
  split
  next kind id hcase =>
    simp [hcase, NormalizedPeerConstraint.isValid] at hpeer
  next kind hcase =>
    simp [hcase, NormalizedPeerConstraint.isWildcardKind] at hpeer
  next =>
    cases hasGuildConstraint binding.match' <;>
    cases hasRolesConstraint binding.match' <;>
    cases isWildcardPattern binding.match'.accountPattern <;> simp

theorem underKey_of_withoutPeer (hpeer : withoutPeer binding = true) (key : JsString) :
    underKey key binding = false := by
  simp only [withoutPeer, Bool.and_eq_true, Bool.not_eq_true'] at hpeer
  unfold underKey
  split
  next kind id hcase =>
    simp [hcase, NormalizedPeerConstraint.isValid] at hpeer
  next => rfl

theorem isWildcardKind_of_withoutPeer (hpeer : withoutPeer binding = true) :
    binding.match'.peer.isWildcardKind = false := by
  simp only [withoutPeer, Bool.and_eq_true, Bool.not_eq_true'] at hpeer
  exact hpeer.2

theorem indexed_add_scope (hindexed : Indexed bindings index) (hpeer : withoutPeer binding = true) :
    Indexed (bindings ++ [binding]) (addToIndex index binding) := by
  have hunder := underKey_of_withoutPeer hpeer
  have hwildcard := isWildcardKind_of_withoutPeer hpeer
  have hnoGuild (hguild : hasGuildConstraint binding.match' = false)
      {guildId : JsString} (hguildId : guildId ≠ []) :
      binding.match'.guildId ≠ some guildId := by
    intro heq
    rw [guildId_of_hasGuild hguildId heq] at hguild
    cases hguild
  have hnoTeam (hteam : hasTeamConstraint binding.match' = false)
      {teamId : JsString} (hteamId : teamId ≠ []) :
      binding.match'.teamId ≠ some teamId := by
    intro heq
    rw [teamId_of_hasTeam hteamId heq] at hteam
    cases hteam
  rw [addToIndex_scope index hpeer]
  constructor
  case' peer =>
    intro key hkey
    rw [List.filter_append, ← hindexed.peer key hkey, List.filter_cons_of_neg (by simp [hunder])]
  case' wildcard =>
    rw [List.filter_append, ← hindexed.wildcard, List.filter_cons_of_neg (by simp [hwildcard])]
  case peer | wildcard =>
    rw [List.filter_nil, List.append_nil]
    split
    next => split <;> rfl
    next => split <;> (try split) <;> rfl
  case guildRoles | guild =>
    intro guildId hguildId
    have hbefore := And.intro (hindexed.guildRoles guildId hguildId)
      (hindexed.guild guildId hguildId)
    rw [List.filter_append]
    first | rw [← hbefore.1] | rw [← hbefore.2]
    cases hguild : hasGuildConstraint binding.match' with
    | false =>
      have hne := hnoGuild hguild hguildId
      simp only [Bool.false_eq_true, if_false]
      split <;> (try split) <;> simp [hne]
    | true =>
      cases hroles : hasRolesConstraint binding.match' <;>
        simp [groupOf_push _ _ _ hguildId, hpeer, hroles, List.filter_cons]
  case team =>
    intro teamId hteamId
    rw [List.filter_append, ← hindexed.team teamId hteamId]
    cases hguild : hasGuildConstraint binding.match' with
    | true =>
      simp only [if_true]
      split <;> simp [hguild]
    | false =>
      cases hteam : hasTeamConstraint binding.match' with
      | false =>
        have hne := hnoTeam hteam hteamId
        simp only [Bool.false_eq_true, if_false]
        split <;> simp [hne]
      | true =>
        simp [groupOf_push _ _ _ hteamId, hpeer, hguild, List.filter_cons]
  case account | channel =>
    rw [List.filter_append]
    first | rw [← hindexed.account] | rw [← hindexed.channel]
    cases hguild : hasGuildConstraint binding.match' with
    | true =>
      simp only [if_true]
      split <;> simp [hguild]
    | false =>
      cases hteam : hasTeamConstraint binding.match' <;>
      cases hwild : forAnyAccount binding <;> simp [hwild, hpeer, hguild, hteam]

theorem indexed_build (bindings : List EvaluatedBinding) :
    Indexed bindings (buildEvaluatedBindingsIndex bindings) := by
  induction bindings using List.reverseRecOn with
  | nil => exact indexed_nil
  | append_singleton bindings binding ih =>
    have hbuild : buildEvaluatedBindingsIndex (bindings ++ [binding]) =
        addToIndex (buildEvaluatedBindingsIndex bindings) binding := by
      simp [buildEvaluatedBindingsIndex]
    rw [hbuild]
    cases hpeer : withoutPeer binding with
    | false => exact indexed_add_peer ih hpeer
    | true => exact indexed_add_scope ih hpeer

def underPeer (peer : RoutePeer) (binding : EvaluatedBinding) : Bool :=
  (peerLookupKeys peer.kind peer.id).any fun key => underKey key binding

theorem underKey_group (id : JsString) (binding : EvaluatedBinding) :
    underKey (js "group:" ++ id) binding = underKey (js "channel:" ++ id) binding := by
  unfold underKey
  split
  next kind other hcase =>
    cases kind <;> simp [peerLookupKeys, ChatType.text, js, encode]
  next => rfl

theorem collect_new {found out : List EvaluatedBinding} (hdistinct : InOrder (out ++ found)) :
    found.foldl (fun out found =>
        if out.any fun seen => seen.order = found.order then out
        else out ++ [found]) out = out ++ found := by
  induction found generalizing out with
  | nil => simp
  | cons first rest ih =>
    have hnew : (out.any fun seen => seen.order = first.order) = false := by
      rw [List.any_eq_false]
      intro seen hseen
      have hlt := (List.pairwise_append.mp hdistinct).2.2 seen hseen first List.mem_cons_self
      simp only [decide_eq_true_eq]
      omega
    rw [List.foldl_cons, hnew]
    rw [List.append_cons] at hdistinct
    simpa using ih hdistinct

theorem collect_seen {found out : List EvaluatedBinding}
    (hseen : ∀ binding ∈ found, binding ∈ out) :
    found.foldl (fun out found =>
        if out.any fun seen => seen.order = found.order then out
        else out ++ [found]) out = out := by
  induction found with
  | nil => rfl
  | cons first rest ih =>
    have hheld : (out.any fun seen => seen.order = first.order) = true := by
      rw [List.any_eq_true]
      have hmem := hseen first List.mem_cons_self
      exact ⟨first, hmem, by simp⟩
    rw [List.foldl_cons, hheld]
    exact ih fun binding hbinding => hseen binding (List.mem_cons_of_mem _ hbinding)

theorem collect_eq (hindexed : Indexed bindings index)
    (hincreasing : InOrder bindings) (peer : RoutePeer) :
    collectPeerIndexedBindings index (some peer) = bindings.filter (underPeer peer) := by
  have hpart (key : JsString) : InOrder ([] ++ bindings.filter (underKey key)) := by
    rw [List.nil_append]
    exact hincreasing.filter _
  have hgroup : js "group:" ++ peer.id ≠ [] := by simp [js, encode]
  have hchannel : js "channel:" ++ peer.id ≠ [] := by simp [js, encode]
  have hother : peer.kind ++ js ":" ++ peer.id ≠ [] := by simp [js, encode]
  have hsame : underKey (js "group:" ++ peer.id) = underKey (js "channel:" ++ peer.id) := by
    funext binding
    exact underKey_group peer.id binding
  have hlookup {key : JsString} (hkey : key ≠ []) :
      (index.byPeer.lookup key).getD [] = bindings.filter (underKey key) :=
    hindexed.peer key hkey
  unfold collectPeerIndexedBindings underPeer peerLookupKeys
  simp only
  split_ifs
  case neg =>
    simp only [List.flatMap_cons, List.flatMap_nil, List.append_nil,
      hlookup hother, List.any_cons, List.any_nil, Bool.or_false]
    rw [collect_new (hpart _), List.nil_append]
  all_goals
    simp only [List.flatMap_cons, List.flatMap_nil, List.append_nil,
      hlookup hgroup, hlookup hchannel, hsame, List.foldl_append,
      List.any_cons, List.any_nil, Bool.or_false, Bool.or_self]
    rw [collect_new (hpart _), List.nil_append, collect_seen]
    exact fun binding hbinding => hbinding

theorem underPeer_of_matches {peer : RoutePeer} {kind : ChatType} {id : JsString}
    (hpeer : binding.match'.peer = .valid kind id)
    (hkind : peerKindMatches kind peer.kind = true) (hid : peer.id = id) :
    underPeer peer binding = true := by
  subst hid
  unfold underPeer underKey
  simp only [hpeer, List.any_eq_true, decide_eq_true_eq]
  simp [peerKindMatches] at hkind
  rcases hkind with (hkind | ⟨rfl, hkind⟩) | ⟨rfl, hkind⟩
  · rw [← hkind]
    cases kind <;> simp [peerLookupKeys, ChatType.text, js, encode]
  · rw [hkind]
    simp [peerLookupKeys, ChatType.text, js, encode]
  · rw [hkind]
    simp [peerLookupKeys, ChatType.text, js, encode]

end LittleBaby.Routing
