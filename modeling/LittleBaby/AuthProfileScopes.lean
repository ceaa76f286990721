import LittleBaby.AuthProfileUsage

/-!
# The model scope of a cooldown

The stored scope summarises the failures since the cooldown opened: a model is
kept only as long as each of them was a rate limit of that model.
-/

namespace LittleBaby.AuthProfiles

open JsString AuthProfiles

/-- A store and, for one profile, the failures of the cooldown lane since its
cooldown opened. -/
structure Ledger where
  store : AuthProfileStore
  failures : List (AuthProfileFailureReason × Option JsString)

section

variable (normalizeProviderId : JsString → JsString) (profileId : JsString)

def nextFailures (ledger : Ledger) : Action → List (AuthProfileFailureReason × Option JsString)
  | .failure other failure _ =>
    if other = profileId ∧ skipsFailure normalizeProviderId ledger.store other = false ∧
        failure.reason.disabledFailureReason = none then
      let entry := (failure.reason, failure.modelId)
      if existingCooldownActive (statsOf profileId ledger.store) failure then
        ledger.failures ++ [entry]
      else [entry]
    else ledger.failures
  | _ => ledger.failures

def ledgerStep (ledger : Ledger) (action : Action) : Ledger where
  store := step normalizeProviderId ledger.store action
  failures := nextFailures normalizeProviderId profileId ledger action

/-- A history from a store in which the profile has not been used. -/
def history (profiles : JsString → Option JsString)
    (usageStats : JsString → Option ProfileUsageStats) (actions : List Action) :
    Ledger :=
  actions.foldl (ledgerStep normalizeProviderId profileId)
    ⟨⟨profiles, Function.update usageStats profileId none⟩, []⟩

end

structure Summarises (stats : ProfileUsageStats)
    (failures : List (AuthProfileFailureReason × Option JsString)) : Prop where
  scope : ∀ model, stats.cooldownModel = some model → model ≠ [] →
    ∀ failure ∈ failures, failure = (.rate_limit, some model)
  opened : ∀ until', stats.cooldownUntil = some until' →
    failures ≠ [] ∧ ∃ value, until' = .finite value

variable {stats next existing : ProfileUsageStats}
  {failures : List (AuthProfileFailureReason × Option JsString)}

theorem Summarises.kept (hsummary : Summarises stats failures) (hmodel : next.cooldownModel = none ∨
      next.cooldownModel = stats.cooldownModel)
    (huntil : next.cooldownUntil = none ∨
      next.cooldownUntil = stats.cooldownUntil) : Summarises next failures := by
  constructor
  · rcases hmodel with hmodel | hmodel
    · simp [hmodel]
    · rw [hmodel]
      exact hsummary.scope
  · rcases huntil with huntil | huntil
    · simp [huntil]
    · rw [huntil]
      exact hsummary.opened

theorem keepActiveWindowOrRecompute_finite (existingUntil : Option JsNumber)
    (now recomputedUntil : ℚ) :
    ∃ value, keepActiveWindowOrRecompute existingUntil now recomputedUntil = .finite value := by
  unfold keepActiveWindowOrRecompute
  split
  next => split_ifs <;> exact ⟨_, rfl⟩
  next => exact ⟨_, rfl⟩

theorem nextCooldownModel_eq_some {failure : Failure} {model : JsString}
    (hmodel : nextCooldownModel existing failure = some model)
    (hne : model ≠ []) :
    (failure.reason, failure.modelId) = (.rate_limit, some model) ∧
      (existingCooldownActive existing failure = true → existing.cooldownModel = some model) := by
  unfold nextCooldownModel at hmodel
  split_ifs at hmodel with hactive hother hunknown hreason hlimit
  · push Not at hreason
    have hknown : truthy existing.cooldownModel := by
      simp [truthy, hmodel, hne]
    have hmodelId : truthy failure.modelId := by
      by_contra hmissing
      exact hunknown ⟨hreason, hmissing, hknown⟩
    have hsame : existing.cooldownModel = failure.modelId := by
      by_contra hdiffer
      exact hother ⟨hknown, hmodelId, hdiffer⟩
    exact ⟨by rw [hreason, ← hsame, hmodel], fun _ => hmodel⟩
  · exact ⟨by rw [hlimit, hmodel], fun htrue => absurd htrue hactive⟩

theorem Summarises.compute (hsummary : Summarises existing failures) {failure : Failure}
    (hlane : failure.reason.disabledFailureReason = none) :
    Summarises (computeNextProfileUsageStats existing failure)
      (if existingCooldownActive existing failure then
        failures ++ [(failure.reason, failure.modelId)]
      else [(failure.reason, failure.modelId)]) := by
  have hnext : (computeNextProfileUsageStats existing failure).cooldownModel =
      nextCooldownModel existing failure ∧
      ∃ recomputedUntil, (computeNextProfileUsageStats existing failure).cooldownUntil =
        some (keepActiveWindowOrRecompute existing.cooldownUntil failure.now recomputedUntil) := by
    simp [computeNextProfileUsageStats, hlane]
  obtain ⟨hscope, recomputedUntil, huntil⟩ := hnext
  constructor
  · intro model hmodel hne entry hentry
    obtain ⟨hlast, hbefore⟩ := nextCooldownModel_eq_some (hscope ▸ hmodel) hne
    split_ifs at hentry with hactive
    · rcases List.mem_append.mp hentry with hold | hnew
      · exact hsummary.scope model (hbefore hactive) hne entry hold
      · exact (List.mem_singleton.mp hnew).trans hlast
    · exact (List.mem_singleton.mp hentry).trans hlast
  · intro until' huntil'
    rw [huntil] at huntil'
    cases huntil'
    exact ⟨by split_ifs <;> simp, keepActiveWindowOrRecompute_finite ..⟩

theorem Summarises.wham (hsummary : Summarises next failures)
    (hopened : failures ≠ []) (now cooldownMs : ℕ) :
    Summarises (applyWhamCooldownResult existing next now cooldownMs) failures := by
  constructor
  · exact hsummary.scope
  · rintro until' ⟨⟩
    exact ⟨hopened, _, rfl⟩

theorem clearExpiredStats_kept (now : ℚ) (stats : ProfileUsageStats) :
    ((clearExpiredStats now stats).cooldownModel = none ∨
        (clearExpiredStats now stats).cooldownModel = stats.cooldownModel) ∧
      ((clearExpiredStats now stats).cooldownUntil = none ∨
        (clearExpiredStats now stats).cooldownUntil = stats.cooldownUntil) := by
  unfold clearExpiredStats
  simp only
  split_ifs <;> simp

section

variable {normalizeProviderId : JsString → JsString} {profileId : JsString}

theorem statsOf_update_of_ne {other : JsString} (hne : profileId ≠ other) (store : AuthProfileStore)
    (updater : Option ProfileUsageStats → ProfileUsageStats) :
    statsOf profileId (updateUsageStatsEntry store other updater) = statsOf profileId store := by
  unfold statsOf updateUsageStatsEntry
  simp only
  rw [Function.update_of_ne hne]

theorem statsOf_update_self (store : AuthProfileStore)
    (updater : Option ProfileUsageStats → ProfileUsageStats) :
    statsOf profileId (updateUsageStatsEntry store profileId updater) =
      updater (store.usageStats profileId) := by
  simp [statsOf, updateUsageStatsEntry]

theorem Summarises.nextStats {store : AuthProfileStore} {failure : Failure}
    (hsummary : Summarises existing failures) (probed : Option ℕ) :
    Summarises (nextStats normalizeProviderId store profileId existing failure probed)
      (if failure.reason.disabledFailureReason = none then
        if existingCooldownActive existing failure then
          failures ++ [(failure.reason, failure.modelId)]
        else [(failure.reason, failure.modelId)]
      else failures) := by
  unfold AuthProfiles.nextStats
  simp only
  cases hlane : failure.reason.disabledFailureReason with
  | none =>
    simp only [if_true]
    have hcomputed := hsummary.compute hlane
    split
    next => exact hcomputed
    next cooldownMs =>
      split
      next =>
        exact hcomputed.wham (by split_ifs <;> simp) failure.now cooldownMs
      next => exact hcomputed
  | some reason =>
    have hprobe : shouldProbeWhamForFailure normalizeProviderId
        (store.profiles profileId) failure.reason = false := by
      cases hreason : failure.reason <;>
        simp_all [AuthProfileFailureReason.disabledFailureReason, shouldProbeWhamForFailure]
    have hcomputed : Summarises (computeNextProfileUsageStats existing failure) failures := by
      apply hsummary.kept <;> exact Or.inr (by simp [computeNextProfileUsageStats, hlane])
    simp only [reduceCtorEq, if_false, hprobe, Bool.false_eq_true]
    split <;> exact hcomputed

theorem Summarises.failure {ledger : Ledger}
    (hsummary : Summarises (statsOf profileId ledger.store) ledger.failures)
    (other : JsString) (failure : Failure) (probed : Option ℕ) :
    Summarises (statsOf profileId (markAuthProfileFailure normalizeProviderId
        ledger.store other failure probed))
      (nextFailures normalizeProviderId profileId ledger (.failure other failure probed)) := by
  unfold markAuthProfileFailure nextFailures
  by_cases hskips : skipsFailure normalizeProviderId ledger.store other = true
  · simpa [hskips] using hsummary
  · by_cases hother : profileId = other
    · subst hother
      have hrecorded : skipsFailure normalizeProviderId ledger.store profileId =
          false := by
        simpa using hskips
      rw [if_neg hskips, statsOf_update_self]
      simp only [hrecorded, true_and]
      exact hsummary.nextStats probed
    · simpa [hskips, statsOf_update_of_ne hother, Ne.symm hother] using hsummary

theorem Summarises.update {ledger : Ledger}
    (hsummary : Summarises (statsOf profileId ledger.store) ledger.failures)
    (other : JsString)
    (updater : Option ProfileUsageStats → ProfileUsageStats)
    (hmodel : ∀ existing, (updater existing).cooldownModel = none)
    (huntil : ∀ existing, (updater existing).cooldownUntil = none) :
    Summarises (statsOf profileId (updateUsageStatsEntry ledger.store other
      updater)) ledger.failures := by
  by_cases hother : profileId = other
  · subst hother
    rw [statsOf_update_self]
    exact hsummary.kept (.inl (hmodel _)) (.inl (huntil _))
  · rw [statsOf_update_of_ne hother]
    exact hsummary

theorem Summarises.ledgerStep {ledger : Ledger}
    (hsummary : Summarises (statsOf profileId ledger.store) ledger.failures)
    (action : Action) :
    let next := ledgerStep normalizeProviderId profileId ledger action
    Summarises (statsOf profileId next.store) next.failures := by
  cases action with
  | failure other failure probed => exact hsummary.failure other failure probed
  | used other now =>
    simp only [AuthProfiles.ledgerStep, step, markAuthProfileUsed, nextFailures]
    split
    next => exact hsummary
    next => exact hsummary.update other _ (fun _ => rfl) fun _ => rfl
  | clear other =>
    simp only [AuthProfiles.ledgerStep, step, clearAuthProfileCooldown, nextFailures]
    split
    next => exact hsummary
    next => exact hsummary.update other _ (fun _ => rfl) fun _ => rfl
  | clearExpired now =>
    simp only [AuthProfiles.ledgerStep, step, clearExpiredCooldowns, nextFailures]
    cases hstats : ledger.store.usageStats profileId with
    | none =>
      simp only [statsOf, hstats, Option.map_none, Option.getD_none] at hsummary ⊢
      exact hsummary
    | some stats =>
      simp only [statsOf, hstats, Option.map_some, Option.getD_some] at hsummary ⊢
      obtain ⟨hmodel, huntil⟩ := clearExpiredStats_kept now stats
      exact hsummary.kept hmodel huntil

theorem summarises_history (profiles : JsString → Option JsString)
    (usageStats : JsString → Option ProfileUsageStats) (actions : List Action) :
    let ledger := history normalizeProviderId profileId profiles usageStats actions
    Summarises (statsOf profileId ledger.store) ledger.failures := by
  have hkeep : ∀ (ledger : Ledger), Summarises (statsOf profileId ledger.store) ledger.failures →
        let final := actions.foldl (ledgerStep normalizeProviderId profileId) ledger
        Summarises (statsOf profileId final.store) final.failures := by
    induction actions with
    | nil => exact fun _ hsummary => hsummary
    | cons action rest ih =>
      exact fun ledger hsummary => ih _ (hsummary.ledgerStep action)
  apply hkeep
  constructor <;> simp [statsOf, noStats]

end

theorem bypasses_of_free {normalizeProviderId : JsString → JsString}
    {profileId : JsString} {store : AuthProfileStore} {now value : ℚ}
    (hnow : 0 ≤ now) (hafter : now < value)
    (huntil : (statsOf profileId store).cooldownUntil = some (.finite value))
    (hprovider : isAuthCooldownBypassedForProvider normalizeProviderId
      (store.profiles profileId) = false) {forModel : Option JsString}
    (hfree : isProfileInCooldown normalizeProviderId store profileId now forModel = false) :
    shouldBypassModelScopedCooldown (statsOf profileId store) now forModel =
      true := by
  unfold isProfileInCooldown at hfree
  rw [if_neg (by simp [hprovider])] at hfree
  cases hstats : store.usageStats profileId with
  | none => simp [statsOf, hstats, noStats] at huntil
  | some stats =>
    simp only [statsOf, hstats, Option.getD_some] at huntil hfree ⊢
    by_contra hblocked
    rw [if_neg hblocked] at hfree
    have husable : usableUntil stats.cooldownUntil = some value := by
      simp [huntil, usableUntil, hnow.trans_lt hafter]
    cases hdisabled : usableUntil stats.disabledUntil with
    | none =>
      simp only [resolveProfileUnusableUntil, husable, hdisabled, decide_eq_false_iff_not] at hfree
      exact hfree hafter
    | some disabledUntil =>
      simp only [resolveProfileUnusableUntil, husable, hdisabled, decide_eq_false_iff_not] at hfree
      exact hfree (lt_max_of_lt_left hafter)

/-- In every history, if the cooldown of a profile is not over and yet a model
may use it, then each failure since the cooldown opened was a rate limit of one
other model, and the profile is not disabled. -/
theorem model_scope_sound {normalizeProviderId : JsString → JsString}
    {profileId : JsString} {profiles : JsString → Option JsString}
    {usageStats : JsString → Option ProfileUsageStats} {actions : List Action}
    {ledger : Ledger}
    (hhistory : history normalizeProviderId profileId profiles usageStats
      actions = ledger) {now : ℚ} (hnow : 0 ≤ now) {until' : JsNumber}
    (huntil : (statsOf profileId ledger.store).cooldownUntil = some until')
    (hafter : JsNumber.lt (.finite now) until' = true)
    (hprovider : isAuthCooldownBypassedForProvider normalizeProviderId
      (ledger.store.profiles profileId) = false) {model : JsString}
    (hfree : isProfileInCooldown normalizeProviderId ledger.store profileId now
      (some model) = false) :
    (∃ other, other ≠ model ∧ other ≠ [] ∧ ledger.failures ≠ [] ∧
      ∀ failure ∈ ledger.failures, failure = (.rate_limit, some other)) ∧
    isActiveUnusableWindow (statsOf profileId ledger.store).disabledUntil now =
      false := by
  have hsummary : Summarises (statsOf profileId ledger.store)
      ledger.failures := by
    rw [← hhistory]
    exact summarises_history profiles usageStats actions
  obtain ⟨hne, value, rfl⟩ := hsummary.opened until' huntil
  have hbypass := bypasses_of_free hnow (by simpa [JsNumber.lt] using hafter) huntil hprovider hfree
  simp only [shouldBypassModelScopedCooldown, Bool.and_eq_true,
    decide_eq_true_eq, Bool.not_eq_true'] at hbypass
  obtain ⟨⟨⟨-, hscope⟩, hdiffer⟩, hdisabled⟩ := hbypass
  refine ⟨?_, hdisabled⟩
  cases hmodel : (statsOf profileId ledger.store).cooldownModel with
  | none => simp [truthy, hmodel] at hscope
  | some other =>
    have hother : other ≠ [] := by simpa [truthy, hmodel] using hscope
    refine ⟨other, ?_, hother, hne, hsummary.scope other hmodel hother⟩
    rintro rfl
    exact hdiffer hmodel

def limitedOnce : List Action :=
  [.failure (js "p") ⟨1, .rate_limit, some (js "a"), 0, 0, 0, 0, 0⟩ none]

def limitedLedger : Ledger :=
  history id (js "p") (fun _ => some (js "openai")) (fun _ => none) limitedOnce

theorem model_scope_sound_once :
    ∃ other, other ≠ js "b" ∧ other ≠ [] ∧ limitedLedger.failures ≠ [] ∧
      ∀ failure ∈ limitedLedger.failures, failure = (.rate_limit, some other) :=
  (@model_scope_sound id (js "p") _ _ limitedOnce limitedLedger rfl 0 le_rfl
    (.finite 30001) (by decide +kernel) (by decide +kernel) (by decide)
    (js "b") (by decide +kernel)).1

end LittleBaby.AuthProfiles
