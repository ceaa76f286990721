import LittleBaby.AuthProfileUsage

/-!
# Retries do not extend a window

A failure leaves a window that is still open as it is, and the windows that
failures open are bounded.
-/

namespace LittleBaby.AuthProfiles

theorem calculateAuthProfileCooldownMs_bounds (errorCount : ℕ) :
    0 < calculateAuthProfileCooldownMs errorCount ∧
      calculateAuthProfileCooldownMs errorCount ≤ 5 * 60000 := by
  unfold calculateAuthProfileCooldownMs
  simp only
  split_ifs <;> norm_num

theorem calculateDisabledLaneBackoffMs_bounds (errorCount : ℕ) (baseMs maxMs : ℚ) :
    0 < calculateDisabledLaneBackoffMs errorCount baseMs maxMs ∧
      calculateDisabledLaneBackoffMs errorCount baseMs maxMs ≤ max 60000 (max baseMs maxMs) := by
  have hbase : 0 < max 60000 baseMs := lt_max_of_lt_left (by norm_num)
  have hmax : max (max 60000 baseMs) maxMs = max 60000 (max baseMs maxMs) := max_assoc ..
  unfold calculateDisabledLaneBackoffMs
  simp only
  constructor
  · apply lt_min
    · exact lt_max_of_lt_left hbase
    · positivity
  · exact (min_le_left _ _).trans hmax.le

variable {value : ℚ}

theorem keepActiveWindowOrRecompute_active {now : ℚ} (hactive : now < value) (recomputedUntil : ℚ) :
    keepActiveWindowOrRecompute (some (.finite value)) now recomputedUntil = .finite value := by
  simp [keepActiveWindowOrRecompute, hactive]

theorem keepActiveWindowOrRecompute_cases (existingUntil : Option JsNumber)
    (now recomputedUntil : ℚ) :
    some (keepActiveWindowOrRecompute existingUntil now recomputedUntil) = existingUntil ∨
      keepActiveWindowOrRecompute existingUntil now recomputedUntil = .finite recomputedUntil := by
  unfold keepActiveWindowOrRecompute
  split
  next =>
    split_ifs
    · exact .inl rfl
    · exact .inr rfl
  next => exact .inr rfl

/-- A window that is open stays, and one that is set lasts at most `limit`. -/
structure WindowKept (before after : Option JsNumber) (now : ℕ) (limit : ℚ) :
    Prop where
  active : ∀ value, before = some (.finite value) → now < value → after = before
  opened : after = before ∨
    ∃ value, after = some (.finite value) ∧ now < value ∧ value ≤ now + limit

theorem WindowKept.same (until' : Option JsNumber) (now : ℕ) (limit : ℚ) :
    WindowKept until' until' now limit :=
  ⟨fun _ _ _ => rfl, .inl rfl⟩

theorem WindowKept.keep (existingUntil : Option JsNumber) (now : ℕ)
    {backoffMs limit : ℚ} (hbackoff : 0 < backoffMs ∧ backoffMs ≤ limit) :
    WindowKept existingUntil (some (keepActiveWindowOrRecompute existingUntil now
      (now + backoffMs))) now limit := by
  constructor
  · rintro value rfl hactive
    rw [keepActiveWindowOrRecompute_active hactive]
  · rcases keepActiveWindowOrRecompute_cases existingUntil now (now + backoffMs)
      with hsame | hopened
    · exact .inl hsame
    · refine .inr ⟨now + backoffMs, congrArg some hopened, ?_, ?_⟩
      · linarith [hbackoff.1]
      · linarith [hbackoff.2]

def Failure.disableLimit (failure : Failure) : ℚ :=
  match failure.reason.disabledFailureReason with
  | none => 0
  | some reason =>
    max 60000 (max (failure.cfgResolved.baseMs reason) (failure.cfgResolved.maxMs reason))

theorem compute_cooldown_kept (existing : ProfileUsageStats) (failure : Failure) :
    WindowKept existing.cooldownUntil
      (computeNextProfileUsageStats existing failure).cooldownUntil failure.now
      (5 * 60000) := by
  unfold computeNextProfileUsageStats
  simp only
  split
  next => exact .same _ _ _
  next => exact .keep _ _ (calculateAuthProfileCooldownMs_bounds _)

theorem compute_disabled_kept (existing : ProfileUsageStats) (failure : Failure) :
    WindowKept existing.disabledUntil
      (computeNextProfileUsageStats existing failure).disabledUntil failure.now
      failure.disableLimit := by
  unfold computeNextProfileUsageStats Failure.disableLimit
  cases failure.reason.disabledFailureReason with
  | none => exact .same _ _ _
  | some reason =>
    exact .keep _ _ (calculateDisabledLaneBackoffMs_bounds _ _ _)

section

variable (normalizeProviderId : JsString → JsString) (profileId : JsString)

def recordFailures (store : AuthProfileStore) (failures : List Failure) :
    AuthProfileStore :=
  failures.foldl (fun store failure =>
    markAuthProfileFailure normalizeProviderId store profileId failure none) store

section

variable (store : AuthProfileStore) (failure : Failure)
include store failure

theorem statsOf_markAuthProfileFailure :
    let next := markAuthProfileFailure normalizeProviderId store profileId failure none
    next = store ∨ statsOf profileId next =
      computeNextProfileUsageStats (statsOf profileId store) failure := by
  unfold markAuthProfileFailure
  split
  next => exact .inl rfl
  next => exact .inr (by simp [statsOf, updateUsageStatsEntry, nextStats])

theorem cooldown_kept : WindowKept (statsOf profileId store).cooldownUntil
      (statsOf profileId (markAuthProfileFailure normalizeProviderId store
        profileId failure none)).cooldownUntil failure.now (5 * 60000) := by
  rcases statsOf_markAuthProfileFailure normalizeProviderId profileId store failure
    with hsame | hnext
  · rw [hsame]
    exact .same _ _ _
  · rw [hnext]
    exact compute_cooldown_kept _ failure

theorem disabled_kept : WindowKept (statsOf profileId store).disabledUntil
      (statsOf profileId (markAuthProfileFailure normalizeProviderId store
        profileId failure none)).disabledUntil failure.now
      failure.disableLimit := by
  rcases statsOf_markAuthProfileFailure normalizeProviderId profileId store failure
    with hsame | hnext
  · rw [hsame]
    exact .same _ _ _
  · rw [hnext]
    exact compute_disabled_kept _ failure

end

theorem window_stays {window : AuthProfileStore → Option JsNumber} {limit : Failure → ℚ}
    (hkept : ∀ store failure, WindowKept (window store) (window
      (markAuthProfileFailure normalizeProviderId store profileId failure none))
      failure.now (limit failure)) {later : List Failure}
    (hlater : ∀ failure ∈ later, failure.now < value) {store : AuthProfileStore}
    (hwindow : window store = some (.finite value)) :
    window (recordFailures normalizeProviderId profileId store later) = some (.finite value) := by
  induction later generalizing store with
  | nil => exact hwindow
  | cons failure rest ih =>
    obtain ⟨hfirst, hrest⟩ := List.forall_mem_cons.mp hlater
    apply ih hrest
    rw [(hkept store failure).active value hwindow hfirst, hwindow]

end

theorem usableUntil_finite {until' : Option JsNumber}
    (husable : usableUntil until' = some value) : until' = some (.finite value) := by
  unfold usableUntil at husable
  split at husable
  next =>
    split_ifs at husable
    cases husable
    rfl
  next => contradiction

theorem usable_of_over {normalizeProviderId : JsString → JsString}
    {profileId : JsString} {store : AuthProfileStore} {now : ℚ}
    (hcooldown : ∀ value, (statsOf profileId store).cooldownUntil =
      some (.finite value) → value ≤ now)
    (hdisabled : ∀ value, (statsOf profileId store).disabledUntil =
      some (.finite value) → value ≤ now) (forModel : Option JsString) :
    isProfileInCooldown normalizeProviderId store profileId now forModel =
      false := by
  unfold isProfileInCooldown
  split_ifs
  · rfl
  · cases hstats : store.usageStats profileId with
    | none => rfl
    | some stats =>
      simp only
      split_ifs
      · rfl
      · simp only [statsOf, hstats, Option.getD_some] at hcooldown hdisabled
        have hover : ∀ value, resolveProfileUnusableUntil stats = some value → value ≤ now := by
          intro value hvalue
          unfold resolveProfileUnusableUntil at hvalue
          split at hvalue
          next => exact hdisabled value (usableUntil_finite hvalue)
          next => exact hcooldown value (usableUntil_finite hvalue)
          next hfirst hsecond =>
            cases hvalue
            exact max_le (hcooldown _ (usableUntil_finite hfirst))
              (hdisabled _ (usableUntil_finite hsecond))
        split
        next => rfl
        next value hvalue => simpa using hover value hvalue

/-- In every sequence of failures each failure leaves the windows that are open
and opens only bounded ones; so each window ends when it was to end, and a
profile whose windows are over is usable. -/
theorem retries_keep_windows (normalizeProviderId : JsString → JsString)
    (profileId : JsString) (start : AuthProfileStore)
    (before : List Failure) :
    let store := recordFailures normalizeProviderId profileId start before
    (∀ failure, let next := recordFailures normalizeProviderId profileId start (before ++ [failure])
      WindowKept (statsOf profileId store).cooldownUntil
        (statsOf profileId next).cooldownUntil failure.now (5 * 60000) ∧
      WindowKept (statsOf profileId store).disabledUntil
        (statsOf profileId next).disabledUntil failure.now failure.disableLimit) ∧
    (∀ later value, (∀ failure ∈ later, failure.now < value) →
      let last := recordFailures normalizeProviderId profileId start (before ++ later)
      ((statsOf profileId store).cooldownUntil = some (.finite value) →
        (statsOf profileId last).cooldownUntil = some (.finite value)) ∧
      ((statsOf profileId store).disabledUntil = some (.finite value) →
        (statsOf profileId last).disabledUntil = some (.finite value))) ∧
    ∀ now forModel, (∀ value, (statsOf profileId store).cooldownUntil = some (.finite value) →
        value ≤ now) →
      (∀ value, (statsOf profileId store).disabledUntil = some (.finite value) → value ≤ now) →
      isProfileInCooldown normalizeProviderId store profileId now forModel =
        false := by
  have happend : ∀ later, recordFailures normalizeProviderId profileId start
      (before ++ later) = recordFailures normalizeProviderId profileId
        (recordFailures normalizeProviderId profileId start before) later :=
    fun later => List.foldl_append ..
  refine ⟨fun failure => ?_, fun later value hlater => ?_,
    fun now forModel hcooldown hdisabled => usable_of_over hcooldown hdisabled _⟩
  · simp only [happend]
    exact ⟨cooldown_kept .., disabled_kept ..⟩
  · simp only [happend]
    exact ⟨window_stays _ _ (cooldown_kept _ _) hlater, window_stays _ _ (disabled_kept _ _) hlater⟩

/-- A stored infinite time is replaced by the next failure. -/
theorem infinite_window_replaced :
    JsNumber.lt (.finite 0) .posInfinity = true ∧ (computeNextProfileUsageStats
        { noStats with cooldownUntil := some .posInfinity }
        ⟨0, .timeout, none, 0, 0, 0, 0, 0⟩).cooldownUntil =
      some (.finite 30000) := by
  decide +kernel

end LittleBaby.AuthProfiles
