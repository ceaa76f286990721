import Mathlib.Algebra.Order.Field.Rat
import LittleBaby.JsNumber
import LittleBaby.JsString

/-!
# Usage statistics of auth profiles

A failure opens a window in one of two lanes: a disable window for billing and
permanent auth failures, a cooldown window, possibly scoped to a model, for the
others.  A clock reading is a whole number; a stored time is any number.
-/

namespace LittleBaby.AuthProfiles

open JsString

inductive AuthProfileFailureReason
  | auth
  | auth_permanent
  | format
  | overloaded
  | rate_limit
  | billing
  | timeout
  | model_not_found
  | session_expired
  | unknown
  deriving DecidableEq

structure ProfileUsageStats where
  lastUsed : Option JsNumber
  cooldownUntil : Option JsNumber
  cooldownReason : Option AuthProfileFailureReason
  cooldownModel : Option JsString
  disabledUntil : Option JsNumber
  disabledReason : Option AuthProfileFailureReason
  errorCount : Option ℕ
  failureCounts : Option (AuthProfileFailureReason → Option ℕ)
  lastFailureAt : Option JsNumber

/-- `{}` -/
def noStats : ProfileUsageStats := ⟨none, none, none, none, none, none, none, none, none⟩

structure AuthProfileStore where
  /-- the provider of each profile -/
  profiles : JsString → Option JsString
  usageStats : JsString → Option ProfileUsageStats

def statsOf (profileId : JsString) (store : AuthProfileStore) :
    ProfileUsageStats :=
  (store.usageStats profileId).getD noStats

def usableUntil : Option JsNumber → Option ℚ
  | some (.finite value) => if 0 < value then some value else none
  | _ => none

def resolveProfileUnusableUntil (stats : ProfileUsageStats) : Option ℚ :=
  match usableUntil stats.cooldownUntil, usableUntil stats.disabledUntil with
  | none, disabledUntil => disabledUntil
  | cooldownUntil, none => cooldownUntil
  | some cooldownUntil, some disabledUntil =>
    some (max cooldownUntil disabledUntil)

def isActiveUnusableWindow (until' : Option JsNumber) (now : ℚ) : Bool :=
  (usableUntil until').any fun value => now < value

def truthy (text : Option JsString) : Bool := text.any fun text => text ≠ []

def shouldBypassModelScopedCooldown (stats : ProfileUsageStats) (now : ℚ)
    (forModel : Option JsString) : Bool :=
  truthy forModel && stats.cooldownReason = some .rate_limit &&
    truthy stats.cooldownModel && stats.cooldownModel ≠ forModel &&
    !isActiveUnusableWindow stats.disabledUntil now

section Provider

variable (normalizeProviderId : JsString → JsString)

def isAuthCooldownBypassedForProvider (provider : Option JsString) : Bool :=
  let normalized := normalizeProviderId (provider.getD [])
  normalized = js "openrouter" || normalized = js "kilocode"

def isProfileInCooldown (store : AuthProfileStore) (profileId : JsString)
    (now : ℚ) (forModel : Option JsString) : Bool :=
  if isAuthCooldownBypassedForProvider normalizeProviderId (store.profiles profileId) then
    false
  else
    match store.usageStats profileId with
    | none => false
    | some stats =>
      if shouldBypassModelScopedCooldown stats now forModel then false
      else
        match resolveProfileUnusableUntil stats with
        | none => false
        | some unusableUntil => now < unusableUntil

end Provider

structure ResolvedAuthCooldownConfig where
  billingBackoffMs : ℚ
  billingMaxMs : ℚ
  authPermanentBackoffMs : ℚ
  authPermanentMaxMs : ℚ
  failureWindowMs : ℚ

def calculateAuthProfileCooldownMs (errorCount : ℕ) : ℚ :=
  let normalized := max 1 errorCount
  if normalized ≤ 1 then 30000
  else if normalized ≤ 2 then 60000
  else 5 * 60000

def calculateDisabledLaneBackoffMs (errorCount : ℕ) (baseMs maxMs : ℚ) : ℚ :=
  let normalized := max 1 errorCount
  let baseMs := max 60000 baseMs
  let maxMs := max baseMs maxMs
  let exponent := min (normalized - 1) 10
  let raw := baseMs * 2 ^ exponent
  min maxMs raw

inductive DisabledFailureReason
  | billing
  | auth_permanent

def DisabledFailureReason.toReason : DisabledFailureReason → AuthProfileFailureReason
  | .billing => .billing
  | .auth_permanent => .auth_permanent

def AuthProfileFailureReason.disabledFailureReason :
    AuthProfileFailureReason → Option DisabledFailureReason
  | .billing => some .billing
  | .auth_permanent => some .auth_permanent
  | _ => none

/-- `DISABLED_FAILURE_BACKOFF_POLICIES` -/
def ResolvedAuthCooldownConfig.baseMs (cfg : ResolvedAuthCooldownConfig) : DisabledFailureReason → ℚ
  | .billing => cfg.billingBackoffMs
  | .auth_permanent => cfg.authPermanentBackoffMs

def ResolvedAuthCooldownConfig.maxMs (cfg : ResolvedAuthCooldownConfig) : DisabledFailureReason → ℚ
  | .billing => cfg.billingMaxMs
  | .auth_permanent => cfg.authPermanentMaxMs

def resolveDisabledFailureBackoffMs (reason : DisabledFailureReason)
    (errorCount : ℕ) (cfgResolved : ResolvedAuthCooldownConfig) : ℚ :=
  calculateDisabledLaneBackoffMs errorCount (cfgResolved.baseMs reason) (cfgResolved.maxMs reason)

def keepActiveWindowOrRecompute (existingUntil : Option JsNumber) (now : ℚ)
    (recomputedUntil : ℚ) : JsNumber :=
  match existingUntil with
  | some (.finite until') =>
    if now < until' then .finite until' else .finite recomputedUntil
  | _ => .finite recomputedUntil

/-- What a failure is recorded with. -/
structure Failure where
  now : ℕ
  reason : AuthProfileFailureReason
  modelId : Option JsString
  cfgResolved : ResolvedAuthCooldownConfig

section Next

variable (existing : ProfileUsageStats) (failure : Failure)

def shouldResetCounters : Bool :=
  let windowExpired :=
    match existing.lastFailureAt with
    | some (.finite lastFailureAt) =>
      0 < lastFailureAt && failure.cfgResolved.failureWindowMs < failure.now - lastFailureAt
    | _ => false
  let previousCooldownExpired :=
    (resolveProfileUnusableUntil existing).any fun unusableUntil =>
      unusableUntil ≤ (failure.now : ℚ)
  windowExpired || previousCooldownExpired

def nextErrorCount : ℕ :=
  (if shouldResetCounters existing failure then 0
    else existing.errorCount.getD 0) + 1

def nextFailureCounts : AuthProfileFailureReason → Option ℕ :=
  let failureCounts :=
    if shouldResetCounters existing failure then fun _ => none
    else existing.failureCounts.getD fun _ => none
  Function.update failureCounts failure.reason (some ((failureCounts failure.reason).getD 0 + 1))

def existingCooldownActive : Bool :=
  existing.cooldownUntil.any fun until' =>
    JsNumber.lt (.finite failure.now) until'

def nextCooldownModel : Option JsString :=
  if existingCooldownActive existing failure then
    if truthy existing.cooldownModel ∧ truthy failure.modelId ∧
        existing.cooldownModel ≠ failure.modelId then
      none
    else if failure.reason = .rate_limit ∧ ¬ truthy failure.modelId ∧
        truthy existing.cooldownModel then
      none
    else if failure.reason ≠ .rate_limit then none
    else existing.cooldownModel
  else if failure.reason = .rate_limit then failure.modelId
  else none

def computeNextProfileUsageStats : ProfileUsageStats :=
  let updatedStats :=
    { existing with
      errorCount := some (nextErrorCount existing failure)
      failureCounts := some (nextFailureCounts existing failure)
      lastFailureAt := some (.finite failure.now) }
  match failure.reason.disabledFailureReason with
  | some reason =>
    let disableCount := (nextFailureCounts existing failure reason.toReason).getD 1
    let backoffMs := resolveDisabledFailureBackoffMs reason disableCount failure.cfgResolved
    { updatedStats with
      disabledUntil := some (keepActiveWindowOrRecompute existing.disabledUntil
        failure.now (failure.now + backoffMs))
      disabledReason := some reason.toReason }
  | none =>
    let backoffMs :=
      calculateAuthProfileCooldownMs (nextErrorCount existing failure)
    { updatedStats with
      cooldownUntil := some (keepActiveWindowOrRecompute existing.cooldownUntil
        failure.now (failure.now + backoffMs))
      cooldownReason := some failure.reason
      cooldownModel := nextCooldownModel existing failure }

/-- A probe gives a whole number of milliseconds. -/
def applyWhamCooldownResult (computed : ProfileUsageStats) (now cooldownMs : ℕ) :
    ProfileUsageStats :=
  let existingActiveCooldownUntil : ℚ :=
    match existing.cooldownUntil with
    | some (.finite until') => if now < until' then until' else 0
    | _ => 0
  { computed with
    cooldownUntil := some (.finite (max existingActiveCooldownUntil (now + cooldownMs))) }

end Next

def resetUsageStats (existing : Option ProfileUsageStats) : ProfileUsageStats :=
  { existing.getD noStats with
    errorCount := some 0
    cooldownUntil := none
    cooldownReason := none
    cooldownModel := none
    disabledUntil := none
    disabledReason := none
    failureCounts := none }

section Store

variable (normalizeProviderId : JsString → JsString)
  (store : AuthProfileStore) (profileId : JsString)

def shouldProbeWhamForFailure (provider : Option JsString)
    (reason : AuthProfileFailureReason) : Bool :=
  normalizeProviderId (provider.getD []) = js "openai-codex" &&
    (reason = .rate_limit || reason = .unknown)

def updateUsageStatsEntry (updater : Option ProfileUsageStats → ProfileUsageStats) :
    AuthProfileStore :=
  { store with
    usageStats := Function.update store.usageStats profileId
      (some (updater (store.usageStats profileId))) }

/-- `probed` is what `probeWhamForCooldown` gives, if it is asked. -/
def nextStats (existing : ProfileUsageStats) (failure : Failure)
    (probed : Option ℕ) : ProfileUsageStats :=
  let computed := computeNextProfileUsageStats existing failure
  match probed with
  | none => computed
  | some cooldownMs =>
    if shouldProbeWhamForFailure normalizeProviderId (store.profiles profileId) failure.reason then
      applyWhamCooldownResult existing computed failure.now cooldownMs
    else computed

def skipsFailure : Bool :=
  (store.profiles profileId).isNone ||
    isAuthCooldownBypassedForProvider normalizeProviderId (store.profiles profileId)

def markAuthProfileFailure (failure : Failure) (probed : Option ℕ) :
    AuthProfileStore :=
  if skipsFailure normalizeProviderId store profileId then store
  else
    updateUsageStatsEntry store profileId fun previousStats =>
      nextStats normalizeProviderId store profileId (previousStats.getD noStats) failure probed

def markAuthProfileUsed (now : ℕ) : AuthProfileStore :=
  if (store.profiles profileId).isNone then store
  else
    updateUsageStatsEntry store profileId fun existing =>
      { resetUsageStats existing with lastUsed := some (.finite now) }

def clearAuthProfileCooldown : AuthProfileStore :=
  if (store.usageStats profileId).isNone then store
  else updateUsageStatsEntry store profileId resetUsageStats

end Store

/-- `until` is over, where it is a positive number. -/
def windowExpired (until' : Option JsNumber) (now : ℚ) : Bool :=
  (usableUntil until').any fun value => value ≤ now

def clearExpiredStats (now : ℚ) (stats : ProfileUsageStats) :
    ProfileUsageStats :=
  let cooldownExpired := windowExpired stats.cooldownUntil now
  let disabledExpired := windowExpired stats.disabledUntil now
  let uncooled :=
    if cooldownExpired then
      { stats with
        cooldownUntil := none
        cooldownReason := none
        cooldownModel := none }
    else stats
  let cleared :=
    if disabledExpired then
      { uncooled with disabledUntil := none, disabledReason := none }
    else uncooled
  if (cooldownExpired || disabledExpired) && (resolveProfileUnusableUntil cleared).isNone then
    { cleared with errorCount := some 0, failureCounts := none }
  else cleared

def clearExpiredCooldowns (now : ℚ) (store : AuthProfileStore) :
    AuthProfileStore :=
  { store with
    usageStats := fun profileId =>
      (store.usageStats profileId).map (clearExpiredStats now) }

/-- What a process does to the store. -/
inductive Action
  | failure (profileId : JsString) (failure : Failure) (probed : Option ℕ)
  | used (profileId : JsString) (now : ℕ)
  | clear (profileId : JsString)
  | clearExpired (now : ℕ)

def step (normalizeProviderId : JsString → JsString)
    (store : AuthProfileStore) : Action → AuthProfileStore
  | .failure profileId failure probed =>
    markAuthProfileFailure normalizeProviderId store profileId failure probed
  | .used profileId now => markAuthProfileUsed store profileId now
  | .clear profileId => clearAuthProfileCooldown store profileId
  | .clearExpired now => clearExpiredCooldowns now store

end LittleBaby.AuthProfiles
