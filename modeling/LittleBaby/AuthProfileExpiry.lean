import LittleBaby.AuthProfileWindows

/-!
# Clearing expired windows ahead of time

A store that `clearExpiredCooldowns` has gone over and one that still carries
its expired windows give the same answers from then on: a failure resets of
itself the counters that the clearing has reset.
-/

namespace LittleBaby.AuthProfiles

open JsString

variable {start now : ℚ} {until' : Option JsNumber}

def unexpired (start : ℚ) (until' : Option JsNumber) : Option JsNumber :=
  if windowExpired until' start then none else until'

theorem windowExpired_eq_true (hexpired : windowExpired until' now = true) :
    ∃ value, until' = some (.finite value) ∧ 0 < value ∧ value ≤ now := by
  unfold windowExpired usableUntil at hexpired
  split at hexpired
  next value =>
    by_cases hpositive : 0 < value
    · simp only [hpositive, if_true, Option.any_some, decide_eq_true_eq] at hexpired
      exact ⟨value, rfl, hpositive, hexpired⟩
    · simp [hpositive] at hexpired
  next => simp at hexpired

theorem windowExpired_mono (hnow : start ≤ now) (hexpired : windowExpired until' start = true) :
    windowExpired until' now = true := by
  obtain ⟨value, rfl, hpositive, hover⟩ := windowExpired_eq_true hexpired
  simp [windowExpired, usableUntil, hpositive, hover.trans hnow]

theorem usableUntil_unexpired (start : ℚ) (until' : Option JsNumber) :
    usableUntil (unexpired start until') = (usableUntil until').filter (start < ·) := by
  unfold unexpired windowExpired
  cases husable : usableUntil until' with
  | none => simp [husable]
  | some value =>
    by_cases hover : value ≤ start
    · simp [usableUntil, hover, Option.filter]
    · simp [husable, hover, Option.filter]

theorem windowExpired_unexpired : windowExpired (unexpired start until') now =
    (windowExpired until' now && !windowExpired until' start) := by
  unfold unexpired
  cases windowExpired until' start with
  | false => simp
  | true => simp [windowExpired, usableUntil]

theorem read_unexpired {β : Type} {read : Option JsNumber → β}
    (hread : ∀ value, 0 < value → value ≤ start → read (some (.finite value)) = read none) :
    read (unexpired start until') = read until' := by
  unfold unexpired
  cases hexpired : windowExpired until' start with
  | false => simp
  | true =>
    obtain ⟨value, rfl, hpositive, hover⟩ := windowExpired_eq_true hexpired
    simp [hread value hpositive hover]

def isOver (now : ℚ) (stats : ProfileUsageStats) : Bool :=
  (resolveProfileUnusableUntil stats).any (· ≤ now)

variable (start) (stats : ProfileUsageStats)

theorem resolve_eq_none : resolveProfileUnusableUntil stats = none ↔
    usableUntil stats.cooldownUntil = none ∧ usableUntil stats.disabledUntil = none := by
  unfold resolveProfileUnusableUntil
  cases usableUntil stats.cooldownUntil <;> cases usableUntil stats.disabledUntil <;> simp

theorem isOver_eq : isOver start stats =
    ((windowExpired stats.cooldownUntil start || windowExpired stats.disabledUntil start) &&
      (usableUntil (unexpired start stats.cooldownUntil)).isNone &&
        (usableUntil (unexpired start stats.disabledUntil)).isNone) := by
  rw [usableUntil_unexpired, usableUntil_unexpired]
  unfold isOver windowExpired resolveProfileUnusableUntil
  cases usableUntil stats.cooldownUntil <;> cases usableUntil stats.disabledUntil <;>
  grind

theorem clearExpiredStats_eq : clearExpiredStats start stats =
      let cooldownExpired := windowExpired stats.cooldownUntil start
      let disabledExpired := windowExpired stats.disabledUntil start
      { lastUsed := stats.lastUsed
        cooldownUntil := unexpired start stats.cooldownUntil
        cooldownReason := if cooldownExpired then none else stats.cooldownReason
        cooldownModel := if cooldownExpired then none else stats.cooldownModel
        disabledUntil := unexpired start stats.disabledUntil
        disabledReason := if disabledExpired then none else stats.disabledReason
        errorCount := if isOver start stats then some 0 else stats.errorCount
        failureCounts := if isOver start stats then none else stats.failureCounts
        lastFailureAt := stats.lastFailureAt } := by
  have hnone : usableUntil none = none := rfl
  cases hcooldown : windowExpired stats.cooldownUntil start <;>
    cases hdisabled : windowExpired stats.disabledUntil start <;>
    simp [clearExpiredStats, isOver_eq, unexpired, hcooldown, hdisabled, hnone, resolve_eq_none]
  all_goals split_ifs <;> rfl

theorem isOver_clearExpiredStats : isOver now (clearExpiredStats start stats) =
    (isOver now stats && !isOver start stats) := by
  rw [clearExpiredStats_eq]
  unfold isOver resolveProfileUnusableUntil
  simp only [usableUntil_unexpired]
  generalize usableUntil stats.cooldownUntil = cooldown
  generalize usableUntil stats.disabledUntil = disabled
  cases cooldown <;> cases disabled <;> simp [Option.filter]
  all_goals grind

theorem isOver_mono (hnow : start ≤ now) (hover : isOver start stats = true) :
    isOver now stats = true := by
  unfold isOver at *
  cases hresolve : resolveProfileUnusableUntil stats with
  | none => simp [hresolve] at hover
  | some unusableUntil =>
    simp only [hresolve, Option.any_some, decide_eq_true_eq] at hover ⊢
    exact hover.trans hnow

theorem clear_clearExpiredStats (hnow : start ≤ now) :
    clearExpiredStats now (clearExpiredStats start stats) = clearExpiredStats now stats := by
  have hcooldown := @windowExpired_mono _ _ stats.cooldownUntil hnow
  have hdisabled := @windowExpired_mono _ _ stats.disabledUntil hnow
  have hover := isOver_mono start stats hnow
  have hwindow (until' : Option JsNumber) :
      unexpired now (unexpired start until') = unexpired now until' :=
    read_unexpired fun value hpositive hover => by
      simp [unexpired, windowExpired, usableUntil, hpositive, hover.trans hnow]
  rw [clearExpiredStats_eq now (clearExpiredStats start stats), isOver_clearExpiredStats,
    clearExpiredStats_eq now stats, clearExpiredStats_eq start stats]
  simp only [hwindow, windowExpired_unexpired]
  cases hcooling : windowExpired stats.cooldownUntil start <;>
    cases hdisabling : windowExpired stats.disabledUntil start <;>
    cases hstart : isOver start stats <;> simp_all

variable {start stats} {failure : Failure} (hnow : start ≤ failure.now)
include hnow

theorem counters_clearExpiredStats :
    nextErrorCount (clearExpiredStats start stats) failure = nextErrorCount stats failure ∧
      nextFailureCounts (clearExpiredStats start stats) failure =
        nextFailureCounts stats failure := by
  have hover := @isOver_clearExpiredStats start failure.now stats
  have hmono := isOver_mono start stats hnow
  unfold isOver at hover hmono
  unfold nextErrorCount nextFailureCounts shouldResetCounters
  rw [hover, clearExpiredStats_eq]
  cases hstart : (resolveProfileUnusableUntil stats).any (· ≤ start) with
  | false => simp [isOver, hstart]
  | true => simp [isOver, hstart, hmono hstart]

omit hnow in
def lapseOther (failure : Failure) (start : ℚ) (stats : ProfileUsageStats) : ProfileUsageStats :=
  match failure.reason.disabledFailureReason with
  | none =>
    if windowExpired stats.disabledUntil start then
      { stats with disabledUntil := none, disabledReason := none }
    else stats
  | some _ =>
    if windowExpired stats.cooldownUntil start then
      { stats with cooldownUntil := none, cooldownReason := none, cooldownModel := none }
    else stats

/-- The window that a failure computes. -/
def computedUntil (failure : Failure) (next : ProfileUsageStats) : Option JsNumber :=
  if failure.reason.disabledFailureReason.isSome then next.disabledUntil
  else next.cooldownUntil

theorem keepActive_unexpired (recomputedUntil : ℚ) :
    keepActiveWindowOrRecompute (unexpired start until') failure.now recomputedUntil =
      keepActiveWindowOrRecompute until' failure.now recomputedUntil :=
  @read_unexpired start until' _ (fun until' => keepActiveWindowOrRecompute until' _ _)
    fun value _ hover => by
      simp [keepActiveWindowOrRecompute, not_lt.mpr (hover.trans hnow)]

theorem compute_clearExpiredStats :
    computeNextProfileUsageStats (clearExpiredStats start stats) failure =
      lapseOther failure start (computeNextProfileUsageStats stats failure) := by
  obtain ⟨herrors, hcounts⟩ := @counters_clearExpiredStats start stats failure hnow
  have hactive : existingCooldownActive (clearExpiredStats start stats) failure =
      existingCooldownActive stats failure := by
    rw [clearExpiredStats_eq]
    exact @read_unexpired start stats.cooldownUntil _ (fun until' =>
      until'.any (JsNumber.lt (.finite failure.now))) fun value _ hover => by
        simp [JsNumber.lt, hover.trans hnow]
  have hmodel : nextCooldownModel (clearExpiredStats start stats) failure =
      nextCooldownModel stats failure := by
    unfold nextCooldownModel
    rw [hactive]
    cases hexpired : windowExpired stats.cooldownUntil start with
    | false => simp [clearExpiredStats_eq, hexpired]
    | true =>
      obtain ⟨value, hvalue, -, hover⟩ := windowExpired_eq_true hexpired
      simp [existingCooldownActive, hvalue, JsNumber.lt, not_lt.mpr (hover.trans hnow)]
  unfold lapseOther computeNextProfileUsageStats
  simp only [herrors, hcounts, hmodel]
  rw [clearExpiredStats_eq]
  simp only [keepActive_unexpired hnow]
  unfold unexpired
  cases failure.reason.disabledFailureReason with
  | none => cases windowExpired stats.disabledUntil start <;> simp
  | some reason => cases windowExpired stats.cooldownUntil start <;> simp

omit hnow in
theorem lane_of_probes {normalizeProviderId : JsString → JsString} {provider : Option JsString}
    {reason : AuthProfileFailureReason}
    (hprobes : shouldProbeWhamForFailure normalizeProviderId provider reason = true) :
    reason.disabledFailureReason = none := by
  simp only [shouldProbeWhamForFailure, Bool.and_eq_true, Bool.or_eq_true, decide_eq_true_eq]
    at hprobes
  rcases hprobes.2 with rfl | rfl <;> rfl

variable (normalizeProviderId : JsString → JsString) (store : AuthProfileStore)
  (profileId : JsString) (probed : Option ℕ)

theorem nextStats_clearExpiredStats :
    nextStats normalizeProviderId store profileId (clearExpiredStats start stats) failure probed =
      lapseOther failure start
        (nextStats normalizeProviderId store profileId stats failure probed) := by
  unfold nextStats
  rw [compute_clearExpiredStats hnow]
  cases probed with
  | none => rfl
  | some cooldownMs =>
    simp only
    split
    next hprobes =>
      have hexisting (computed : ProfileUsageStats) :
          applyWhamCooldownResult (clearExpiredStats start stats) computed failure.now cooldownMs =
            applyWhamCooldownResult stats computed failure.now cooldownMs := by
        rw [clearExpiredStats_eq]
        exact @read_unexpired start stats.cooldownUntil _ (fun until' =>
          applyWhamCooldownResult { stats with cooldownUntil := until' } computed _ _)
          fun value _ hover => by simp [applyWhamCooldownResult, not_lt.mpr (hover.trans hnow)]
      rw [hexisting]
      unfold lapseOther applyWhamCooldownResult
      rw [lane_of_probes hprobes]
      split_ifs <;> rfl
    next => rfl

omit hnow in
theorem clear_lapseOther {value : ℚ} (hvalue : start ≤ value)
    (huntil : computedUntil failure stats = some (.finite value)) :
    clearExpiredStats start (lapseOther failure start stats) = clearExpiredStats start stats := by
  unfold computedUntil at huntil
  unfold lapseOther
  cases hlane : failure.reason.disabledFailureReason with
  | none | some reason =>
    simp only [hlane] at huntil ⊢
    split_ifs with hexpired
    · obtain ⟨other, hother, hpositive, hover⟩ := windowExpired_eq_true hexpired
      have hlast := hover.trans hvalue
      simp_all [clearExpiredStats_eq, unexpired, isOver, resolveProfileUnusableUntil, usableUntil,
        hpositive.trans_le hlast]
    · rfl

omit hnow in
theorem computedUntil_nextStats : ∃ value,
    computedUntil failure (nextStats normalizeProviderId store profileId stats failure probed) =
      some (.finite value) ∧ failure.now ≤ value := by
  have hkept (existingUntil : Option JsNumber) {backoffMs : ℚ} (hbackoff : 0 < backoffMs) :
      ∃ value, keepActiveWindowOrRecompute existingUntil failure.now
        (failure.now + backoffMs) = .finite value ∧ failure.now ≤ value := by
    unfold keepActiveWindowOrRecompute
    split
    · split_ifs with hactive
      · exact ⟨_, rfl, hactive.le⟩
      · exact ⟨_, rfl, by linarith⟩
    · exact ⟨_, rfl, by linarith⟩
  have hcomputed : ∃ value, computedUntil failure (computeNextProfileUsageStats stats failure) =
      some (.finite value) ∧ failure.now ≤ value := by
    unfold computedUntil computeNextProfileUsageStats
    cases hlane : failure.reason.disabledFailureReason with
    | none => simpa using hkept _ (calculateAuthProfileCooldownMs_bounds _).1
    | some reason =>
      simpa [resolveDisabledFailureBackoffMs] using
        hkept _ (calculateDisabledLaneBackoffMs_bounds _ _ _).1
  unfold nextStats
  cases probed with
  | none => exact hcomputed
  | some cooldownMs =>
    simp only
    split
    next hprobes =>
      simp [computedUntil, lane_of_probes hprobes, applyWhamCooldownResult]
    next => exact hcomputed

theorem clear_nextStats : clearExpiredStats start (nextStats normalizeProviderId store profileId
        (clearExpiredStats start stats) failure probed) =
      clearExpiredStats start
        (nextStats normalizeProviderId store profileId stats failure probed) := by
  obtain ⟨value, huntil, hvalue⟩ := @computedUntil_nextStats stats failure
    normalizeProviderId store profileId probed
  rw [nextStats_clearExpiredStats hnow]
  exact clear_lapseOther (hnow.trans hvalue) huntil

omit hnow

def coolingDown (now : ℚ) (forModel : Option JsString) (stats : ProfileUsageStats) : Bool :=
  !shouldBypassModelScopedCooldown stats now forModel &&
    (resolveProfileUnusableUntil stats).any (now < ·)

theorem isProfileInCooldown_eq (now : ℚ) (forModel : Option JsString) :
    isProfileInCooldown normalizeProviderId store profileId now forModel =
      (!isAuthCooldownBypassedForProvider normalizeProviderId (store.profiles profileId) &&
        (store.usageStats profileId).any (coolingDown now forModel)) := by
  unfold isProfileInCooldown
  cases isAuthCooldownBypassedForProvider normalizeProviderId (store.profiles profileId) with
  | true => rfl
  | false =>
    cases store.usageStats profileId with
    | none => rfl
    | some stats =>
      cases hbypass : shouldBypassModelScopedCooldown stats now forModel <;>
        cases hresolve : resolveProfileUnusableUntil stats <;>
        simp [coolingDown, hbypass, hresolve]

theorem coolingDown_clearExpiredStats (hnow : start ≤ now) (forModel : Option JsString) :
    coolingDown now forModel (clearExpiredStats start stats) = coolingDown now forModel stats := by
  have hresolve (stats : ProfileUsageStats) : (resolveProfileUnusableUntil stats).any (now < ·) =
        (isActiveUnusableWindow stats.cooldownUntil now ||
          isActiveUnusableWindow stats.disabledUntil now) := by
    unfold resolveProfileUnusableUntil isActiveUnusableWindow
    cases usableUntil stats.cooldownUntil <;> cases usableUntil stats.disabledUntil <;> simp
  have hactive (until' : Option JsNumber) : isActiveUnusableWindow (unexpired start until') now =
      isActiveUnusableWindow until' now :=
    @read_unexpired start until' _ (isActiveUnusableWindow · now) fun value hpositive hover => by
      simp [isActiveUnusableWindow, usableUntil, hpositive, hover.trans hnow]
  unfold coolingDown
  rw [hresolve, hresolve, clearExpiredStats_eq]
  simp only [hactive, shouldBypassModelScopedCooldown]
  cases hexpired : windowExpired stats.cooldownUntil start with
  | false => simp
  | true =>
    have hinactive : isActiveUnusableWindow stats.cooldownUntil now = false := by
      rw [← hactive]
      simp [unexpired, hexpired, isActiveUnusableWindow, usableUntil]
    cases isActiveUnusableWindow stats.disabledUntil now <;> simp [hinactive]

theorem statsOf_clear : statsOf profileId (clearExpiredCooldowns start store) =
    clearExpiredStats start (statsOf profileId store) := by
  cases hstats : store.usageStats profileId with
  | none =>
    simp [statsOf, clearExpiredCooldowns, hstats, noStats, clearExpiredStats, windowExpired,
      usableUntil]
  | some stats => simp [statsOf, clearExpiredCooldowns, hstats]

theorem clear_clearExpiredCooldowns (hnow : start ≤ now) :
    clearExpiredCooldowns now (clearExpiredCooldowns start store) =
      clearExpiredCooldowns now store := by
  simp [clearExpiredCooldowns, Function.comp_def, clear_clearExpiredStats _ _ hnow]

theorem clear_updateUsageStatsEntry {updater : Option ProfileUsageStats → ProfileUsageStats}
    (hrespects : ∀ existing, clearExpiredStats start
      (updater (existing.map (clearExpiredStats start))) =
        clearExpiredStats start (updater existing)) :
    clearExpiredCooldowns start
        (updateUsageStatsEntry (clearExpiredCooldowns start store) profileId updater) =
      clearExpiredCooldowns start (updateUsageStatsEntry store profileId updater) := by
  unfold clearExpiredCooldowns updateUsageStatsEntry
  congr
  funext other
  by_cases hother : other = profileId
  · subst hother
    simp [hrespects]
  · simp [Function.update_of_ne hother, Function.comp_def, clear_clearExpiredStats]

theorem resetUsageStats_clearExpiredStats (existing : Option ProfileUsageStats) :
    resetUsageStats (existing.map (clearExpiredStats start)) = resetUsageStats existing := by
  cases existing with
  | none => rfl
  | some stats => simp [resetUsageStats, clearExpiredStats_eq]

def Action.NotBefore (start : ℚ) : Action → Prop
  | .failure _ failure _ => start ≤ failure.now
  | .used _ now => start ≤ now
  | .clear _ => True
  | .clearExpired now => start ≤ now

theorem clear_step {action : Action} (hlater : action.NotBefore start) : clearExpiredCooldowns start
        (step normalizeProviderId (clearExpiredCooldowns start store) action) =
      clearExpiredCooldowns start (step normalizeProviderId store action) := by
  have hsame := clear_clearExpiredCooldowns store (le_refl start)
  cases action with
  | failure profileId failure probed =>
    simp only [step, markAuthProfileFailure]
    by_cases hskips : skipsFailure normalizeProviderId store profileId
    · rw [if_pos hskips, if_pos (by exact hskips), hsame]
    · rw [if_neg hskips, if_neg (by exact hskips)]
      apply clear_updateUsageStatsEntry
      intro existing
      cases existing with
      | none => rfl
      | some stats => exact clear_nextStats hlater normalizeProviderId store profileId probed
  | used profileId now =>
    simp only [step, markAuthProfileUsed]
    by_cases hunknown : (store.profiles profileId).isNone
    · rw [if_pos hunknown, if_pos (by exact hunknown), hsame]
    · rw [if_neg hunknown, if_neg (by exact hunknown)]
      apply clear_updateUsageStatsEntry
      simp [resetUsageStats_clearExpiredStats]
  | clear profileId =>
    have hunused : ((clearExpiredCooldowns start store).usageStats profileId).isNone =
        (store.usageStats profileId).isNone := by
      simp [clearExpiredCooldowns]
    simp only [step, clearAuthProfileCooldown, hunused]
    split
    · exact hsame
    · apply clear_updateUsageStatsEntry
      simp [resetUsageStats_clearExpiredStats]
  | clearExpired now =>
    simp only [step]
    rw [clear_clearExpiredCooldowns store hlater]

theorem clear_run {actions : List Action}
    (hlater : ∀ action ∈ actions, action.NotBefore start) {cleared kept : AuthProfileStore}
    (hsame : clearExpiredCooldowns start cleared = clearExpiredCooldowns start kept) :
    clearExpiredCooldowns start (actions.foldl (step normalizeProviderId) cleared) =
      clearExpiredCooldowns start (actions.foldl (step normalizeProviderId) kept) := by
  induction actions generalizing cleared kept with
  | nil => exact hsame
  | cons action actions ih =>
    have hfirst := hlater action List.mem_cons_self
    apply ih fun other hother => hlater other (List.mem_cons_of_mem _ hother)
    rw [← clear_step _ _ hfirst, hsame, clear_step _ _ hfirst]

def failedStats (failure : Failure) (store : AuthProfileStore) : ProfileUsageStats :=
  nextStats normalizeProviderId store profileId (statsOf profileId store) failure probed

theorem failedStats_clear (hnow : start ≤ failure.now) :
    failedStats normalizeProviderId profileId probed failure (clearExpiredCooldowns start store) =
      lapseOther failure start (failedStats normalizeProviderId profileId probed failure store) := by
  unfold failedStats
  rw [statsOf_clear]
  exact nextStats_clearExpiredStats hnow normalizeProviderId store profileId probed

/-- Clearing the expired windows first changes nothing that is seen later. -/
theorem clearing_unobservable {actions : List Action}
    (hlater : ∀ action ∈ actions, action.NotBefore start) :
    let cleared := actions.foldl (step normalizeProviderId) (clearExpiredCooldowns start store)
    let kept := actions.foldl (step normalizeProviderId) store
    (∀ profileId now forModel, start ≤ now →
      isProfileInCooldown normalizeProviderId cleared profileId now forModel =
        isProfileInCooldown normalizeProviderId kept profileId now forModel) ∧
    ∀ profileId failure probed, start ≤ failure.now →
      let next := failedStats normalizeProviderId profileId probed failure
      (next cleared).errorCount = (next kept).errorCount ∧
        computedUntil failure (next cleared) = computedUntil failure (next kept) := by
  intro cleared kept
  have hsame : clearExpiredCooldowns start cleared = clearExpiredCooldowns start kept :=
    clear_run normalizeProviderId hlater (clear_clearExpiredCooldowns store le_rfl)
  constructor
  · intro profileId now forModel hnow
    have hanswer (store : AuthProfileStore) :
        isProfileInCooldown normalizeProviderId (clearExpiredCooldowns start store) profileId now
            forModel =
          isProfileInCooldown normalizeProviderId store profileId now forModel := by
      simp [isProfileInCooldown_eq, clearExpiredCooldowns, Option.any_map,
        coolingDown_clearExpiredStats hnow]
    rw [← hanswer cleared, hsame, hanswer]
  · intro profileId failure probed hnow next
    have hnext (store : AuthProfileStore) :
        (next (clearExpiredCooldowns start store)).errorCount = (next store).errorCount ∧
          computedUntil failure (next (clearExpiredCooldowns start store)) =
            computedUntil failure (next store) := by
      simp only [next, failedStats_clear normalizeProviderId store profileId probed hnow]
      unfold lapseOther computedUntil
      cases failure.reason.disabledFailureReason <;> simp <;> split <;> simp
    have hcleared := hnext cleared
    rw [hsame] at hcleared
    have hkept := hnext kept
    exact ⟨hcleared.1.symm.trans hkept.1, hcleared.2.symm.trans hkept.2⟩

/-- A profile whose rate limit is over fails again. -/
theorem clearing_unobservable_once : let stats := { noStats with
      cooldownUntil := some (.finite 30000)
      cooldownReason := some .rate_limit
      errorCount := some 2 }
    let store : AuthProfileStore := ⟨fun _ => some (js "openai"), fun _ => some stats⟩
    let failed : Action := .failure (js "main") ⟨60000, .timeout, none, ⟨0, 0, 0, 0, 0⟩⟩ none
    isProfileInCooldown id (step id (clearExpiredCooldowns 40000 store) failed) (js "main")
        70000 none =
      isProfileInCooldown id (step id store failed) (js "main") 70000 none := by
  intro stats store failed
  have hlater : ∀ action ∈ [failed], action.NotBefore 40000 := by
    simp [failed, Action.NotBefore]
  exact (clearing_unobservable id store hlater).1 (js "main") 70000 none (by norm_num)

end LittleBaby.AuthProfiles
