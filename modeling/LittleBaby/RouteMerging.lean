import LittleBaby.RouteBindings

/-!
# Buckets and merging keep the order of the config

The numbered bindings of a config, put in buckets by channel and account and
merged back for one account, are the bindings that concern this account, in the
order of the config.
-/

namespace LittleBaby.Routing

open JsString Entries

abbrev InOrder (bindings : List EvaluatedBinding) : Prop :=
  bindings.Pairwise fun first second => first.order < second.order

namespace Casing

variable (casing : Casing)

def numberFrom (order : ℕ) : List AgentBinding → List EvaluatedBinding
  | [] => []
  | binding :: rest =>
    if casing.bindingChannel binding = [] then numberFrom order rest
    else
      { binding
        match' := casing.normalizeBindingMatch binding.bindingMatch
        order } :: numberFrom (order + 1) rest

def inChannel (channel : JsString) (evaluated : EvaluatedBinding) : Bool :=
  casing.bindingChannel evaluated.binding = channel

variable (map : List (JsString × List EvaluatedBinding))
  (evaluated : EvaluatedBinding)

def forAnyAccount : Bool := isWildcardPattern evaluated.match'.accountPattern

def forAccount (accountId : JsString) (evaluated : EvaluatedBinding) : Bool :=
  casing.resolveAccountPatternKey evaluated.match'.accountPattern = accountId

def concerns (channel accountId : JsString) (evaluated : EvaluatedBinding) :
    Bool :=
  casing.inChannel channel evaluated &&
    (forAnyAccount evaluated || casing.forAccount accountId evaluated)

def anyAccountOf (byChannel : List (JsString × EvaluatedBindingsByChannel))
    (channel : JsString) : List EvaluatedBinding :=
  ((byChannel.lookup channel).map EvaluatedBindingsByChannel.byAnyAccount).getD []

def accountScopedOf (byChannel : List (JsString × EvaluatedBindingsByChannel))
    (channel accountId : JsString) : List EvaluatedBinding :=
  ((byChannel.lookup channel).bind fun bucket =>
    bucket.byAccount.lookup accountId).getD []

variable (key : JsString)

def groupOf : List EvaluatedBinding := (map.lookup key).getD []

structure Bucketed (evaluated : List EvaluatedBinding)
    (byChannel : List (JsString × EvaluatedBindingsByChannel)) : Prop where
  any : ∀ channel, anyAccountOf byChannel channel = evaluated.filter fun binding =>
      casing.inChannel channel binding && forAnyAccount binding
  forOne : ∀ channel accountId, accountScopedOf byChannel channel accountId =
    evaluated.filter fun binding =>
      casing.inChannel channel binding && !forAnyAccount binding &&
        casing.forAccount accountId binding

theorem bucketed_nil : casing.Bucketed [] [] where
  any channel := by simp [anyAccountOf]
  forOne channel accountId := by simp [accountScopedOf]

theorem groupOf_set (other : JsString) (group : List EvaluatedBinding) :
    groupOf (set key group map) other =
      if key = other then group else groupOf map other := by
  unfold groupOf
  by_cases hsame : key = other
  · subst hsame
    simp
  · have hne : other ≠ key := fun heq => hsame heq.symm
    rw [lookup_set_of_ne hne, if_neg hsame]

theorem groupOf_append (other : JsString) (binding : EvaluatedBinding) :
    groupOf (set key (groupOf map key ++ [binding]) map) other =
      groupOf map other ++ if key = other then [binding] else [] := by
  rw [groupOf_set]
  split
  next hsame => rw [hsame]
  next => simp

theorem addToBucket_any (bucket : EvaluatedBindingsByChannel) :
    (casing.addToBucket evaluated bucket).byAnyAccount =
      bucket.byAnyAccount ++ if forAnyAccount evaluated then [evaluated] else [] := by
  unfold addToBucket forAnyAccount
  split
  next => rfl
  next =>
    simp only [List.append_nil]
    split <;> rfl

theorem addToBucket_scoped (bucket : EvaluatedBindingsByChannel) (accountId : JsString) :
    groupOf (casing.addToBucket evaluated bucket).byAccount accountId =
      groupOf bucket.byAccount accountId ++
        if !forAnyAccount evaluated && casing.forAccount accountId evaluated then
          [evaluated] else [] := by
  unfold addToBucket forAnyAccount forAccount
  split
  next hwild => simp [hwild]
  next hwild =>
    have happend := groupOf_append bucket.byAccount
      (casing.resolveAccountPatternKey evaluated.match'.accountPattern) accountId
      evaluated
    simp only [hwild, Bool.not_false, Bool.true_and, decide_eq_true_eq]
    rw [← happend]
    split
    next existing hlookup => simp [groupOf, hlookup]
    next hlookup => simp [groupOf, hlookup]

theorem bucketed_add {evaluated : List EvaluatedBinding}
    {byChannel : List (JsString × EvaluatedBindingsByChannel)}
    (hbucketed : casing.Bucketed evaluated byChannel)
    (binding : EvaluatedBinding) :
    casing.Bucketed (evaluated ++ [binding])
      (set (casing.bindingChannel binding.binding) (casing.addToBucket binding
          ((byChannel.lookup (casing.bindingChannel binding.binding)).getD
            { byAccount := [], byAnyAccount := [] })) byChannel) := by
  constructor
  · intro channel
    rw [List.filter_append, ← hbucketed.any]
    unfold anyAccountOf
    by_cases hsame : casing.bindingChannel binding.binding = channel
    · subst hsame
      rw [lookup_set_self, Option.map_some, Option.getD_some, addToBucket_any]
      congr 1
      · cases byChannel.lookup (casing.bindingChannel binding.binding) <;> rfl
      · simp [inChannel, List.filter_cons]
    · have hne : channel ≠ casing.bindingChannel binding.binding := fun heq =>
        hsame heq.symm
      rw [lookup_set_of_ne hne]
      simp [inChannel, hsame]
  · intro channel accountId
    rw [List.filter_append, ← hbucketed.forOne]
    unfold accountScopedOf
    by_cases hsame : casing.bindingChannel binding.binding = channel
    · subst hsame
      rw [lookup_set_self, Option.bind_some]
      have hadded := addToBucket_scoped casing binding
        ((byChannel.lookup (casing.bindingChannel binding.binding)).getD
          { byAccount := [], byAnyAccount := [] }) accountId
      unfold groupOf at hadded
      rw [hadded]
      congr 1
      · cases byChannel.lookup (casing.bindingChannel binding.binding) <;> rfl
      · simp [inChannel, List.filter_cons]
    · have hne : channel ≠ casing.bindingChannel binding.binding := fun heq =>
        hsame heq.symm
      rw [lookup_set_of_ne hne]
      simp [inChannel, hsame]

theorem bucketed_buildFrom {evaluated : List EvaluatedBinding}
    {byChannel : List (JsString × EvaluatedBindingsByChannel)}
    (hbucketed : casing.Bucketed evaluated byChannel)
    (bindings : List AgentBinding) (order : ℕ) :
    casing.Bucketed (evaluated ++ casing.numberFrom order bindings)
      (casing.buildFrom order byChannel bindings) := by
  induction bindings generalizing evaluated byChannel order with
  | nil => simpa [numberFrom, buildFrom] using hbucketed
  | cons binding rest ih =>
    rw [numberFrom, buildFrom]
    split
    next => exact ih hbucketed order
    next =>
      rw [List.append_cons]
      exact ih (bucketed_add casing hbucketed
        { binding
          match' := casing.normalizeBindingMatch binding.bindingMatch
          order }) (order + 1)

theorem bucketed_build (bindings : Option (List AgentBinding)) :
    casing.Bucketed (casing.numberFrom 0 (listBindings bindings))
      (casing.buildEvaluatedBindingsByChannel bindings) := by
  have hbuilt := bucketed_buildFrom casing (bucketed_nil casing) (listBindings bindings) 0
  rw [List.nil_append] at hbuilt
  exact hbuilt

theorem order_numberFrom (bindings : List AgentBinding) (order : ℕ) :
    ∀ binding ∈ casing.numberFrom order bindings, order ≤ binding.order := by
  induction bindings generalizing order with
  | nil =>
    intro binding hbinding
    cases hbinding
  | cons first rest ih =>
    intro binding hbinding
    rw [numberFrom] at hbinding
    split at hbinding
    next => exact ih order binding hbinding
    next =>
      rcases List.mem_cons.mp hbinding with rfl | hbinding
      · exact le_refl _
      · have hlater := ih (order + 1) binding hbinding
        omega

theorem increasing_numberFrom (bindings : List AgentBinding) (order : ℕ) :
    InOrder (casing.numberFrom order bindings) := by
  induction bindings generalizing order with
  | nil => exact List.Pairwise.nil
  | cons first rest ih =>
    rw [numberFrom]
    split
    next => exact ih order
    next =>
      apply List.Pairwise.cons
      · intro binding hbinding
        have hlater := order_numberFrom casing rest (order + 1) binding hbinding
        exact hlater
      · exact ih (order + 1)

end Casing

theorem merge_nil (accountScoped : List EvaluatedBinding) :
    mergeEvaluatedBindingsInSourceOrder accountScoped [] = accountScoped := by
  cases accountScoped with
  | nil => rw [mergeEvaluatedBindingsInSourceOrder]
  | cons first rest =>
    rw [mergeEvaluatedBindingsInSourceOrder]
    intro heq
    cases heq

theorem nil_merge (anyAccount : List EvaluatedBinding) :
    mergeEvaluatedBindingsInSourceOrder [] anyAccount = anyAccount := by
  rw [mergeEvaluatedBindingsInSourceOrder]

theorem merge_cons_left {first : EvaluatedBinding}
    {accountScoped anyAccount : List EvaluatedBinding}
    (hfirst : ∀ binding ∈ anyAccount, first.order < binding.order) :
    mergeEvaluatedBindingsInSourceOrder (first :: accountScoped) anyAccount =
      first :: mergeEvaluatedBindingsInSourceOrder accountScoped anyAccount := by
  cases anyAccount with
  | nil => rw [merge_nil, merge_nil]
  | cons other rest =>
    have hle := hfirst other List.mem_cons_self
    rw [mergeEvaluatedBindingsInSourceOrder, if_pos hle.le]

theorem merge_cons_right {first : EvaluatedBinding}
    {accountScoped anyAccount : List EvaluatedBinding}
    (hfirst : ∀ binding ∈ accountScoped, first.order < binding.order) :
    mergeEvaluatedBindingsInSourceOrder accountScoped (first :: anyAccount) =
      first :: mergeEvaluatedBindingsInSourceOrder accountScoped anyAccount := by
  cases accountScoped with
  | nil => rw [nil_merge, nil_merge]
  | cons other rest =>
    have hlt := hfirst other List.mem_cons_self
    rw [mergeEvaluatedBindingsInSourceOrder, if_neg (by omega)]

theorem merge_filter {bindings : List EvaluatedBinding} {left right : EvaluatedBinding → Bool}
    (hincreasing : InOrder bindings)
    (hdisjoint : ∀ binding ∈ bindings, left binding = true → right binding = false) :
    mergeEvaluatedBindingsInSourceOrder (bindings.filter left) (bindings.filter right) =
      bindings.filter fun binding => left binding || right binding := by
  induction bindings with
  | nil => rw [List.filter_nil, List.filter_nil, nil_merge, List.filter_nil]
  | cons first rest ih =>
    rw [InOrder, List.pairwise_cons] at hincreasing
    have hrest := ih hincreasing.2 fun binding hbinding =>
      hdisjoint binding (List.mem_cons_of_mem _ hbinding)
    have hafter (part : EvaluatedBinding → Bool) :
        ∀ binding ∈ rest.filter part, first.order < binding.order := by
      intro binding hbinding
      exact hincreasing.1 binding (List.mem_of_mem_filter hbinding)
    cases hleft : left first with
    | true =>
      have hright := hdisjoint first List.mem_cons_self hleft
      rw [List.filter_cons_of_pos hleft, List.filter_cons_of_neg (by simp [hright]),
        merge_cons_left (hafter right), hrest,
        List.filter_cons_of_pos (by simp [hleft])]
    | false =>
      cases hright : right first with
      | true =>
        rw [List.filter_cons_of_neg (by simp [hleft]),
          List.filter_cons_of_pos hright, merge_cons_right (hafter left), hrest,
          List.filter_cons_of_pos (by simp [hright])]
      | false =>
        rw [List.filter_cons_of_neg (by simp [hleft]),
          List.filter_cons_of_neg (by simp [hright]), hrest,
          List.filter_cons_of_neg (by simp [hleft, hright])]

end LittleBaby.Routing
