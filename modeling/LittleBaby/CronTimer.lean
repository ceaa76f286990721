import LittleBaby.CronJob

/-!
# Picking a job and recording its result

`isRunnableJob` decides whether the timer or the startup catch-up may start a
job, and `applyJobResult` writes the result of an execution into the job.
-/

namespace LittleBaby.Cron

open JsString

def minRefireGapMs : ℤ := 2000

def lowerUnit (unit : UInt16) : UInt16 :=
  if 65 ≤ unit && unit ≤ 90 then unit + 32 else unit

def isWordUnit (unit : UInt16) : Bool :=
  isDigit unit || (97 ≤ lowerUnit unit && lowerUnit unit ≤ 122) || unit == 95

/-- `/\b…\b/` for a pattern of word characters, one test for each; `before` is
the code unit in front of the text. -/
def containsWord (pattern : List (UInt16 → Bool)) : Option UInt16 → JsString → Bool
  | _, [] => false
  | before, unit :: rest =>
    let text := unit :: rest
    (!before.any isWordUnit && pattern.length ≤ text.length &&
        (pattern.zip text).all (fun entry => entry.1 entry.2) &&
        !(text.drop pattern.length).head?.any isWordUnit) ||
      containsWord pattern (some unit) rest

def literalWord (word : String) : List (UInt16 → Bool) := (js word).map fun unit => (· == unit)

/-- The entries of `TRANSIENT_PATTERNS`, on a text in lower case. -/
def transientPattern (error : JsString) : CronRetryOn → Bool
  | .rate_limit =>
    ["rate_limit", "rate limit", "too many requests", "429",
      "resource has been exhausted", "cloudflare", "tokens per day"].any
      fun part => includes error (js part)
  | .overloaded =>
    ["529", "overloaded", "overloaded_error"].any
        (fun word => containsWord (literalWord word) none error) ||
      ["high demand", "temporarily overloaded", "temporary overloaded",
        "capacity exceeded"].any fun part => includes error (js part)
  | .network =>
    ["network", "econnreset", "econnrefused", "fetch failed", "socket"].any
      fun part => includes error (js part)
  | .timeout =>
    ["timeout", "etimedout"].any fun part => includes error (js part)
  | .server_error =>
    containsWord [(· == 53), isDigit, isDigit] none error

def isTransientCronError (error : Option JsString) (retryOn : Option (List CronRetryOn)) : Bool :=
  match error with
  | none | some [] => false
  | some text =>
    (retryOn.getD [.rate_limit, .overloaded, .network, .timeout, .server_error]).any
      (transientPattern (text.map lowerUnit))

def CronRetryConfig.resolvedMaxAttempts (retry : CronRetryConfig) : ℕ := retry.maxAttempts.getD 3

def CronRetryConfig.resolvedBackoffMs (retry : CronRetryConfig) : List ℤ :=
  (retry.backoffMs.filter (· ≠ [])).getD (defaultErrorBackoffScheduleMs.take 3)

def CronRetryConfig.resolvedRetryOn (retry : CronRetryConfig) : Option (List CronRetryOn) :=
  retry.retryOn.filter (· ≠ [])

/-- What `applyJobResult` reads of the outcome of an execution. -/
structure CronRunOutcome where
  status : CronRunStatus
  error : Option JsString
  startedAt : ℤ
  endedAt : ℤ
deriving DecidableEq

variable (deps : CronServiceDeps) (job : CronJob) (result : CronRunOutcome)

def consecutiveErrorsAfter : ℕ :=
  if result.status = .error then job.state.consecutiveErrors.getD 0 + 1 else 0

def retriesOneShot : Bool :=
  result.status = .error && isTransientCronError result.error deps.retry.resolvedRetryOn &&
    consecutiveErrorsAfter job result ≤ deps.retry.resolvedMaxAttempts

/-- The part of `applyJobResult` that every outcome goes through. -/
def recordResult : CronJob :=
  { job with
    state := { job.state with
      runningAtMs := none
      lastRunAtMs := some result.startedAt
      lastStatus := some result.status
      consecutiveErrors := some (consecutiveErrorsAfter job result) } }

def CronJob.withNextRun (next : Option ℤ) : CronJob :=
  { job with state := { job.state with nextRunAtMs := next } }

def CronJob.disabled : CronJob :=
  { job with enabled := false, state := { job.state with nextRunAtMs := none } }

/-- The job that the next run is computed of: with `preserveSchedule` an
interval counts from the run before. -/
def countedJob (preserveSchedule : Bool) (prevLastRunAtMs : Option ℤ) (job : CronJob) : CronJob :=
  if preserveSchedule && job.schedule.isEvery then
    { job with state := { job.state with lastRunAtMs := prevLastRunAtMs } }
  else job

/-- The natural next run of a recurring job after a run, with the job as the
computation leaves it: an error of the schedule is recorded and yields none. -/
def naturalNextRun (preserveSchedule : Bool)
    (prevLastRunAtMs : Option ℤ) (job : CronJob) (endedAt : ℤ) :
    CronJob × Option ℤ :=
  match computeJobNextRunAtMs deps (countedJob preserveSchedule prevLastRunAtMs job) endedAt with
  | .ok next => (job, next)
  | .error _ => (recordScheduleComputeError job, none)

def nextRunAfter (naturalNext : Option ℤ) : Option ℤ :=
  if result.status = .error then
    let backoffNext := result.endedAt +
      errorBackoffMs (job.state.consecutiveErrors.getD 1) defaultErrorBackoffScheduleMs
    let next := naturalNext.map (max · backoffNext)
    if job.schedule.isCron then next else some (next.getD backoffNext)
  else if job.schedule.isCron then
    naturalNext.map (max · (result.endedAt + minRefireGapMs))
  else naturalNext

def scheduleAfterRun (preserveSchedule : Bool)
    (prevLastRunAtMs : Option ℤ) (job : CronJob) (result : CronRunOutcome) :
    CronJob :=
  if !job.enabled then job.withNextRun none
  else
    let natural := naturalNextRun deps preserveSchedule prevLastRunAtMs job result.endedAt
    natural.1.withNextRun (nextRunAfter job result natural.2)

def finishOneShot (retry : Bool) : CronJob :=
  if retry then
    job.withNextRun (some (result.endedAt +
      errorBackoffMs (job.state.consecutiveErrors.getD 1) deps.retry.resolvedBackoffMs))
  else job.disabled

def deletesAfterRun : Bool :=
  job.schedule.isAt && job.deleteAfterRun == some true && result.status = .ok

/-- `applyJobResult`; the job is missing when it should be deleted. -/
def applyJobResult (preserveSchedule : Bool)
    (result : CronRunOutcome) (job : CronJob) : Option CronJob :=
  let recorded := recordResult job result
  if deletesAfterRun job result then none
  else if job.schedule.isAt then
    some (finishOneShot deps recorded result (retriesOneShot deps job result))
  else
    some (scheduleAfterRun deps preserveSchedule job.state.lastRunAtMs recorded result)

def isErrorBackoffPending (nowMs : ℤ) : Bool :=
  !job.schedule.isAt && job.state.lastStatus == some .error &&
    job.state.lastRunAtMs.any fun lastRunAtMs =>
      nowMs < lastRunAtMs + errorBackoffMs (max 1 (job.state.consecutiveErrors.getD 1))
        defaultErrorBackoffScheduleMs

/-- The options that a picker gives to `collectRunnableJobs`. -/
structure PickOptions where
  skipJobIds : List String := []
  skipAtIfAlreadyRan : Bool := false
  allowCronMissedRunByLastRun : Bool := false

def oneShotRetryHasCome (nowMs : ℤ) : Bool :=
  job.state.lastStatus == some .error && job.state.nextRunAtMs.any fun next =>
      job.state.lastRunAtMs.any (· < next) && next ≤ nowMs

def missedCronSlot (nowMs : ℤ) : Bool :=
  match computeJobPreviousRunAtMs deps job nowMs with
  | .ok (some previousRunAtMs) =>
    job.state.lastRunAtMs.any (· < previousRunAtMs)
  | _ => false

def isRunnableJob (options : PickOptions) (nowMs : ℤ) (job : CronJob) : Bool :=
  if !job.enabled || options.skipJobIds.contains job.id || job.state.runningAtMs.isSome then false
  else if options.skipAtIfAlreadyRan && job.schedule.isAt && job.state.lastStatus.isSome then
    oneShotRetryHasCome job nowMs
  else if nextRunHasCome job.state.nextRunAtMs nowMs then true
  else if hasScheduledNextRunAtMs job.state.nextRunAtMs &&
      isErrorBackoffPending job nowMs then false
  else
    options.allowCronMissedRunByLastRun && job.schedule.isCron && missedCronSlot deps job nowMs

def collectRunnableJobs (options : PickOptions) (nowMs : ℤ) (jobs : List CronJob) : List CronJob :=
  jobs.filter (isRunnableJob deps options nowMs)

def CronJob.mark (nowMs : ℤ) (job : CronJob) : CronJob :=
  { job with state := { job.state with runningAtMs := some nowMs } }

def CronJob.unmark : CronJob := { job with state := { job.state with runningAtMs := none } }

end LittleBaby.Cron
