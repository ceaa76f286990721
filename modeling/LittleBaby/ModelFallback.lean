import LittleBaby.Entries
import LittleBaby.FoldUntil
import LittleBaby.RouteKeys

/-!
# Running a model with fallbacks

The requested model and its fallbacks are tried in order. A candidate whose auth
profiles are all in cooldown is skipped or probed.
-/

namespace LittleBaby.ModelFallback

open JsString FoldUntil
open Routing (Casing orText orEmpty)

/-! ## Reasons and errors -/

inductive FailoverReason where
  | auth
  | authPermanent
  | format
  | rateLimit
  | overloaded
  | billing
  | timeout
  | modelNotFound
  | sessionExpired
  | unknown
deriving DecidableEq

def FailoverReason.text : FailoverReason → JsString
  | .auth => js "auth"
  | .authPermanent => js "auth_permanent"
  | .format => js "format"
  | .rateLimit => js "rate_limit"
  | .overloaded => js "overloaded"
  | .billing => js "billing"
  | .timeout => js "timeout"
  | .modelNotFound => js "model_not_found"
  | .sessionExpired => js "session_expired"
  | .unknown => js "unknown"

def resolveFailoverStatus : FailoverReason → Option ℕ
  | .billing => some 402
  | .rateLimit => some 429
  | .overloaded => some 503
  | .auth => some 401
  | .authPermanent => some 403
  | .timeout => some 408
  | .format => some 400
  | .modelNotFound => some 404
  | .sessionExpired => some 410
  | .unknown => none

def shouldAllowCooldownProbeForReason (reason : FailoverReason) : Bool :=
  reason ∈ [.rateLimit, .overloaded, .billing, .unknown, .timeout]

def shouldUseTransientCooldownProbeSlot (reason : FailoverReason) : Bool :=
  reason ∈ [.rateLimit, .overloaded, .unknown, .timeout]

def shouldPreserveTransientCooldownProbeSlot (reason : Option FailoverReason) :
    Bool :=
  match reason with
  | none => false
  | some reason =>
    reason ∈ [.modelNotFound, .format, .auth, .authPermanent, .sessionExpired]

structure FailoverError (Raw : Type*) where
  message : JsString
  reason : FailoverReason
  provider : Option JsString
  model : Option JsString
  status : Option ℕ
  code : Option JsString
  cause : Option Raw
deriving DecidableEq

inductive Thrown (Raw : Type*) where
  | raw (error : Raw)
  | failover (error : FailoverError Raw)
deriving DecidableEq

structure FailoverSignal where
  status : Option ℕ
  code : Option JsString
  message : Option JsString

structure ErrorReader (Raw : Type*) where
  /-- `String(err.name)`, empty for what is no object. -/
  errorName : Raw → JsString
  isTruthy : Raw → Bool
  isError : Raw → Bool
  isTimeoutError : Raw → Bool
  resolveFailoverReasonFromError : Raw → Option FailoverReason
  normalizeErrorSignal : Raw → FailoverSignal
  asString : Raw → JsString
  /-- The message of a `LiveSessionModelSwitchError`. -/
  liveSwitchMessage : Raw → Option JsString
  formatErrorMessage : Thrown Raw → JsString
  isLikelyContextOverflowError : JsString → Bool

/-! ## Candidates -/

structure ModelCandidate where
  provider : JsString
  model : JsString
deriving DecidableEq

structure FallbackAttempt where
  provider : JsString
  model : JsString
  error : JsString
  reason : Option FailoverReason
  status : Option ℕ
  code : Option JsString
deriving DecidableEq

def FallbackAttempt.candidate (attempt : FallbackAttempt) : ModelCandidate where
  provider := attempt.provider
  model := attempt.model

structure ModelConfig where
  /-- `resolveConfiguredModelRef(cfg)`, for a config that is given. -/
  configuredModelRef : Option ModelCandidate
  normalizeModelRef : JsString → JsString → ModelCandidate
  resolveModelRefFromString : JsString → JsString → Option ModelCandidate
  configuredFallbacks : List JsString
  allowlist : Option (List JsString)

def DEFAULT_PROVIDER : JsString := js "openai"

def DEFAULT_MODEL : JsString := js "gpt-5.4"

def modelKey (casing : Casing) (provider model : JsString) : JsString :=
  let providerId := trim provider
  let modelId := trim model
  if providerId = [] then modelId
  else if modelId = [] then providerId
  else if startsWith (casing.normalizeLowercaseStringOrEmpty (some modelId))
      (casing.normalizeLowercaseStringOrEmpty (some providerId) ++ js "/") then
    modelId
  else providerId ++ js "/" ++ modelId

structure Collector where
  seen : List JsString
  candidates : List ModelCandidate

def addCandidate (casing : Casing) (allowlist : Option (List JsString))
    (enforceAllowlist : Bool) (collector : Collector)
    (candidate : ModelCandidate) : Collector :=
  if candidate.provider = [] ∨ candidate.model = [] then collector
  else
    let key := modelKey casing candidate.provider candidate.model
    if key ∈ collector.seen then collector
    else if enforceAllowlist && (allowlist.any fun keys => key ∉ keys) then
      collector
    else
      { seen := collector.seen ++ [key]
        candidates := collector.candidates ++ [candidate] }

structure FallbackRequest where
  provider : JsString
  model : JsString
  agentDir : Option JsString
  fallbacksOverride : Option (List JsString)

section

variable (casing : Casing) (config : ModelConfig) (request : FallbackRequest)

def defaultProvider : JsString :=
  (config.configuredModelRef.map ModelCandidate.provider).getD DEFAULT_PROVIDER

def defaultModel : JsString :=
  (config.configuredModelRef.map ModelCandidate.model).getD DEFAULT_MODEL

def normalizedPrimary : ModelCandidate :=
  config.normalizeModelRef (JsString.orElse (nonBlank request.provider)
      (some (defaultProvider config)) |>.getD [])
    (JsString.orElse (nonBlank request.model) (some (defaultModel config)) |>.getD [])

def modelFallbacks : List JsString :=
  match request.fallbacksOverride with
  | some fallbacks => fallbacks
  | none =>
    let configuredPrimary := config.normalizeModelRef (defaultProvider config) (defaultModel config)
    if (normalizedPrimary config request).provider ≠ configuredPrimary.provider then
      let isConfiguredFallback := config.configuredFallbacks.any fun raw =>
        config.resolveModelRefFromString (defaultProvider config) raw =
          some (normalizedPrimary config request)
      if isConfiguredFallback then config.configuredFallbacks else []
    else config.configuredFallbacks

def fallbackReferences : List ModelCandidate :=
  (modelFallbacks config request).filterMap
      (config.resolveModelRefFromString (defaultProvider config)) ++
    match request.fallbacksOverride, config.configuredModelRef with
    | none, some primary => [primary]
    | _, _ => []

def resolveFallbackCandidates : List ModelCandidate :=
  ((normalizedPrimary config request :: fallbackReferences config request).foldl
      (addCandidate casing config.allowlist false) ⟨[], []⟩).candidates

end

/-! ## Probe throttling -/

/-- `lastProbeAttempt`, in the order of its keys. -/
abbrev ProbeState := List (JsString × ℤ)

def MIN_PROBE_INTERVAL_MS : ℤ := 30000

def PROBE_MARGIN_MS : ℤ := 2 * 60 * 1000

def PROBE_STATE_TTL_MS : ℤ := 24 * 60 * 60 * 1000

def MAX_PROBE_KEYS : ℕ := 256

def resolveProbeThrottleKey (provider : JsString) (agentDir : Option JsString) :
    JsString :=
  match nonBlank (orEmpty agentDir) with
  | some dir => dir ++ js "::" ++ provider
  | none => provider

variable (now : ℤ) (probes : ProbeState)

def pruneProbeState : ProbeState :=
  probes.filter fun probe =>
    !(decide (probe.2 ≤ 0) || decide (now - probe.2 > PROBE_STATE_TTL_MS))

def oldestKey : ProbeState → Option (JsString × ℤ)
  | [] => none
  | probe :: rest =>
    match oldestKey rest with
    | none => some probe
    | some older => if older.2 < probe.2 then some older else some probe

def dropOldest : ProbeState :=
  match oldestKey probes with
  | some (unit :: key, _) => Entries.erase (unit :: key) probes
  | _ => probes

def enforceProbeStateCap : ProbeState := dropOldest^[probes.length - MAX_PROBE_KEYS] probes

def isProbeThrottleOpen (throttleKey : JsString) (probes : ProbeState) : Bool × ProbeState :=
  let probes := pruneProbeState now probes
  (decide (now - (probes.lookup throttleKey).getD 0 ≥ MIN_PROBE_INTERVAL_MS), probes)

def markProbeAttempt (throttleKey : JsString) (probes : ProbeState) :
    ProbeState :=
  enforceProbeStateCap (Entries.set throttleKey now (pruneProbeState now probes))

structure AuthView where
  profileIds : List JsString
  isProfileInCooldown : JsString → Bool
  resolveProfilesUnavailableReason : Option FailoverReason
  getSoonestCooldownExpiry : Option ℤ
  now : ℤ

inductive CooldownDecision where
  | skip (reason : FailoverReason) (error : JsString)
  | attempt (reason : FailoverReason) (markProbe : Bool)

def shouldProbePrimaryDuringCooldown (isPrimary hasFallbackCandidates : Bool)
    (throttleKey : JsString) (view : AuthView) (probes : ProbeState) :
    Bool × ProbeState :=
  if !isPrimary || !hasFallbackCandidates then (false, probes)
  else
    let (isOpen, probes) := isProbeThrottleOpen view.now throttleKey probes
    if !isOpen then (false, probes)
    else
      match view.getSoonestCooldownExpiry with
      | none => (true, probes)
      | some soonest => (decide (view.now ≥ soonest - PROBE_MARGIN_MS), probes)

def resolveCooldownDecision (candidate : ModelCandidate)
    (isPrimary requestedModel hasFallbackCandidates : Bool)
    (throttleKey : JsString) (view : AuthView) (probes : ProbeState) :
    CooldownDecision × ProbeState :=
  let (shouldProbe, probes) := shouldProbePrimaryDuringCooldown isPrimary
    hasFallbackCandidates throttleKey view probes
  let inferredReason := view.resolveProfilesUnavailableReason.getD .unknown
  let skipAll := CooldownDecision.skip inferredReason
    (js "Provider " ++ candidate.provider ++ js " has " ++ inferredReason.text ++
      js " issue (skipping all models)")
  if inferredReason = .auth ∨ inferredReason = .authPermanent then
    (skipAll, probes)
  else if inferredReason = .billing then
    let (shouldProbeSingleProviderBilling, probes) :=
      if isPrimary && !hasFallbackCandidates then
        isProbeThrottleOpen view.now throttleKey probes
      else (false, probes)
    if isPrimary && (shouldProbe || shouldProbeSingleProviderBilling) then
      (.attempt inferredReason true, probes)
    else (skipAll, probes)
  else
    let shouldAttemptDespiteCooldown :=
      (isPrimary && (!requestedModel || shouldProbe)) ||
        (!isPrimary && shouldUseTransientCooldownProbeSlot inferredReason)
    if !shouldAttemptDespiteCooldown then
      (.skip inferredReason (js "Provider " ++ candidate.provider ++
        js " is in cooldown (all profiles unavailable)"), probes)
    else (.attempt inferredReason (isPrimary && shouldProbe), probes)

/-! ## The search -/

inductive RunOutcome (Raw Result : Type*) where
  | ok (result : Result)
  | threw (error : Thrown Raw)

inductive CandidateUse (Raw Result : Type*) where
  | skipped
  /-- A run, whether it was allowed to probe and whether it took the slot of its
  provider, and how it ended. -/
  | ran (allowTransientCooldownProbe transientProbe : Bool) (outcome : RunOutcome Raw Result)

structure FallbackStep (Raw Result : Type*) where
  candidate : ModelCandidate
  use : CandidateUse Raw Result

inductive FallbackOutcome (Raw Result : Type*) where
  | returned (result : Result) (candidate : ModelCandidate) (attempts : List FallbackAttempt)
  | threw (error : Thrown Raw)
  | threwSummary (message : JsString) (attempts : List FallbackAttempt)
      (soonestCooldownExpiry : Option ℤ) (cause : Option (Thrown Raw))
deriving DecidableEq

/-- One call, with everything it meets: the auth state each candidate finds (it
may change with time and by runs), what other calls do to the throttle map while
it waits, and how each run ends. -/
structure FallbackCall (Raw Result : Type*) where
  errors : ErrorReader Raw
  casing : Casing
  config : ModelConfig
  request : FallbackRequest
  /-- `none` without a config or without an auth store. -/
  auth : Option (ℕ → AuthView)
  interference : ℕ → ProbeState → ProbeState
  probesAtStart : ProbeState
  run : ℕ → RunOutcome Raw Result
  refreshedCooldownExpiry : ModelCandidate → Option ℤ

structure SearchState (Raw Result : Type*) where
  attempts : List FallbackAttempt
  lastError : Option (Thrown Raw)
  cooldownProbeUsedProviders : List JsString
  probes : ProbeState
  /-- The candidates that came up, in order. -/
  steps : List (FallbackStep Raw Result)
  outcome : Option (FallbackOutcome Raw Result)

namespace ErrorReader

variable {Raw : Type*} (errors : ErrorReader Raw)

variable (error : Thrown Raw)

def isFallbackAbortError : Bool :=
  match error with
  | .failover _ => false
  | .raw error => errors.errorName error = js "AbortError"

def isTimeout : Bool :=
  match error with
  | .failover _ => false
  | .raw error => errors.isTimeoutError error

def shouldRethrowAbort : Bool := errors.isFallbackAbortError error && !errors.isTimeout error

def coerceToFailoverError (error : Thrown Raw) (candidate : ModelCandidate) :
    Option (FailoverError Raw) :=
  match error with
  | .failover error => some error
  | .raw error =>
    match errors.resolveFailoverReasonFromError error with
    | none => none
    | some reason =>
      let signal := errors.normalizeErrorSignal error
      some
        { message := signal.message.getD (errors.asString error)
          reason
          provider := some candidate.provider
          model := some candidate.model
          status := signal.status.or (resolveFailoverStatus reason)
          code := signal.code
          cause := if errors.isError error then some error else none }

/-- `coerceToFailoverError(err) ?? err`. -/
def normalized (error : Thrown Raw) (candidate : ModelCandidate) : Thrown Raw :=
  ((errors.coerceToFailoverError error candidate).map Thrown.failover).getD error

def describedMessage : JsString :=
  match error with
  | .failover error => error.message
  | .raw error =>
    (errors.normalizeErrorSignal error).message.getD (errors.asString error)

def describedReason : Option FailoverReason :=
  match error with
  | .failover error => some error.reason
  | .raw error => errors.resolveFailoverReasonFromError error

def describedStatus : Option ℕ :=
  match error with
  | .failover error => error.status
  | .raw error => (errors.normalizeErrorSignal error).status

def describedCode : Option JsString :=
  match error with
  | .failover error => error.code
  | .raw error => (errors.normalizeErrorSignal error).code

def failedAttempt (candidate : ModelCandidate) (error : Thrown Raw) : FallbackAttempt where
  provider := candidate.provider
  model := candidate.model
  error := errors.describedMessage error
  reason := some ((errors.describedReason error).getD .unknown)
  status := errors.describedStatus error
  code := errors.describedCode error

/-- `err instanceof LiveSessionModelSwitchError`, with its message. -/
def liveSwitch : Option JsString :=
  match error with
  | .failover _ => none
  | .raw error => errors.liveSwitchMessage error

def switchError (message : JsString) (candidate : ModelCandidate) : FailoverError Raw where
  message
  reason := .overloaded
  provider := some candidate.provider
  model := some candidate.model
  status := none
  code := none
  cause := none

def isGenuineAbort (error : Thrown Raw) (candidate : ModelCandidate) : Bool :=
  errors.shouldRethrowAbort error && (errors.coerceToFailoverError error candidate).isNone

def isContextOverflow : Bool :=
  errors.isLikelyContextOverflowError (errors.formatErrorMessage error)

def truthy : Bool :=
  match error with
  | .failover _ => true
  | .raw error => errors.isTruthy error

def instanceOfError : Bool :=
  match error with
  | .failover _ => true
  | .raw error => errors.isError error

end ErrorReader

def Thrown.isFailover {Raw : Type*} : Thrown Raw → Bool
  | .failover _ => true
  | .raw _ => false

namespace FallbackCall

variable {Raw Result : Type*} (call : FallbackCall Raw Result)

def candidates : List ModelCandidate :=
  resolveFallbackCandidates call.casing call.config call.request

def skip (candidate : ModelCandidate) (reason : FailoverReason)
    (error : JsString) (state : SearchState Raw Result) :
    SearchState Raw Result :=
  { state with
    attempts := state.attempts ++
      [{ provider := candidate.provider
         model := candidate.model
         error
         reason := some reason
         status := none
         code := none }]
    steps := state.steps ++ [⟨candidate, .skipped⟩] }

def record (candidate : ModelCandidate) (described lastError : Thrown Raw)
    (state : SearchState Raw Result) : SearchState Raw Result :=
  { state with
    attempts := state.attempts ++ [call.errors.failedAttempt candidate described]
    lastError := some lastError }

def spendSlot (candidate : ModelCandidate) (transientProbe : Bool)
    (error : Thrown Raw) (state : SearchState Raw Result) :
    SearchState Raw Result :=
  if transientProbe && !shouldPreserveTransientCooldownProbeSlot
      (call.errors.describedReason error) then
    { state with
      cooldownProbeUsedProviders := state.cooldownProbeUsedProviders ++ [candidate.provider] }
  else state

def settleError (candidate : ModelCandidate) (transientProbe : Bool)
    (thrown : Thrown Raw) (isLast : Bool) (state : SearchState Raw Result) :
    SearchState Raw Result :=
  if call.errors.isGenuineAbort thrown candidate then
    { state with outcome := some (.threw thrown) }
  else
    let error := call.errors.normalized thrown candidate
    let state := call.spendSlot candidate transientProbe error state
    if call.errors.isContextOverflow error then
      { state with outcome := some (.threw error) }
    else
      match call.errors.liveSwitch error with
      | some message =>
        let switched := Thrown.failover (ErrorReader.switchError message candidate)
        call.record candidate switched switched state
      | none =>
        let normalized := call.errors.normalized error candidate
        if !normalized.isFailover && isLast then
          { state with outcome := some (.threw error) }
        else
          call.record candidate normalized
            (if normalized.isFailover then normalized else error) state

/-- `runFallbackAttempt` and what follows it. -/
def attempt (candidate : ModelCandidate) (allowTransientCooldownProbe transientProbe : Bool)
    (state : SearchState Raw Result) : SearchState Raw Result :=
  let index := state.steps.length
  let ran : SearchState Raw Result :=
    { state with
      steps := state.steps ++ [⟨candidate, .ran allowTransientCooldownProbe transientProbe
          (call.run index)⟩] }
  match call.run index with
  | .ok result =>
    { ran with outcome := some (.returned result candidate state.attempts) }
  | .threw thrown =>
    call.settleError candidate transientProbe thrown (index == call.candidates.length - 1) ran

def visitInCooldown (candidate : ModelCandidate) (view : AuthView)
    (state : SearchState Raw Result) : SearchState Raw Result :=
  let isPrimary := state.steps.length == 0
  let requestedModel := decide (call.request.provider = candidate.provider) &&
    decide (call.request.model = candidate.model)
  let throttleKey := resolveProbeThrottleKey candidate.provider call.request.agentDir
  let (decision, probes) := resolveCooldownDecision candidate isPrimary
    requestedModel (decide (call.candidates.length > 1)) throttleKey view
    (call.interference state.steps.length state.probes)
  match decision with
  | .skip reason error => skip candidate reason error { state with probes }
  | .attempt reason markProbe =>
    let state := { state with
      probes :=
        if markProbe then markProbeAttempt view.now throttleKey probes
        else probes }
    if shouldAllowCooldownProbeForReason reason then
      let isTransientCooldownReason := shouldUseTransientCooldownProbeSlot reason
      if isTransientCooldownReason &&
          state.cooldownProbeUsedProviders.contains candidate.provider then
        skip candidate reason (js "Provider " ++ candidate.provider ++
          js " is in cooldown (probe already attempted this run)") state
      else call.attempt candidate true isTransientCooldownReason state
    else call.attempt candidate false false state

def visit (state : SearchState Raw Result) (candidate : ModelCandidate) : SearchState Raw Result :=
  match call.auth with
  | none => call.attempt candidate false false state
  | some views =>
    let view := views state.steps.length
    let isAnyProfileAvailable := view.profileIds.any fun id =>
      !view.isProfileInCooldown id
    if 0 < view.profileIds.length && !isAnyProfileAvailable then
      call.visitInCooldown candidate view state
    else call.attempt candidate false false state

def start : SearchState Raw Result where
  attempts := []
  lastError := none
  cooldownProbeUsedProviders := []
  probes := call.probesAtStart
  steps := []
  outcome := none

def search : SearchState Raw Result :=
  foldUntil (fun state => state.outcome.isSome) call.visit call.candidates call.start

def resolveFallbackSoonestCooldownExpiry : Option ℤ :=
  call.auth.bind fun _ =>
    call.candidates.foldl (fun soonest candidate =>
      match call.refreshedCooldownExpiry candidate, soonest with
      | none, soonest => soonest
      | some expiry, none => some expiry
      | some expiry, some soonest =>
        if expiry < soonest then some expiry else some soonest) none

def formatAttempt (attempt : FallbackAttempt) : JsString :=
  attempt.provider ++ js "/" ++ attempt.model ++ js ": " ++ attempt.error ++
    match attempt.reason with
    | none => []
    | some reason => js " (" ++ reason.text ++ js ")"

def failureSummary (attempts : List FallbackAttempt)
    (lastError : Option (Thrown Raw)) : FallbackOutcome Raw Result :=
  let count :=
    if attempts.length = 0 then call.candidates.length else attempts.length
  let listed :=
    if attempts = [] then js "unknown"
    else join (js " | ") (attempts.map formatAttempt)
  .threwSummary (js "All models failed (" ++ js (toString count) ++ js "): " ++ listed)
    attempts call.resolveFallbackSoonestCooldownExpiry
    (lastError.filter call.errors.instanceOfError)

def throwFallbackFailureSummary (attempts : List FallbackAttempt)
    (lastError : Option (Thrown Raw)) : FallbackOutcome Raw Result :=
  match lastError with
  | none => call.failureSummary attempts none
  | some error =>
    if attempts.length ≤ 1 ∧ call.errors.truthy error then .threw error
    else call.failureSummary attempts (some error)

/-- `runWithModelFallback`: how the call ends. -/
def runWithModelFallback : FallbackOutcome Raw Result :=
  match call.search.outcome with
  | some outcome => outcome
  | none =>
    call.throwFallbackFailureSummary call.search.attempts call.search.lastError

end FallbackCall

end LittleBaby.ModelFallback
