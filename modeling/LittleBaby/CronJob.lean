import LittleBaby.CronSchedule

/-!
# Cron jobs

A stored job with its state, and what the service computes for one job: its
next run, the clean-up of its state on every pass over the store, and the two
policies for recomputing the next run, the full one and the one for
maintenance.
-/

namespace LittleBaby.Cron

open JsString

inductive CronRunStatus
  | ok
  | error
  | skipped
deriving DecidableEq

inductive CronPayloadKind
  | systemEvent
  | agentTurn
deriving DecidableEq

structure CronJobState where
  nextRunAtMs : Option ℤ := none
  runningAtMs : Option ℤ := none
  lastRunAtMs : Option ℤ := none
  lastStatus : Option CronRunStatus := none
  consecutiveErrors : Option ℕ := none
  scheduleErrorCount : Option ℕ := none
deriving DecidableEq

structure CronJob where
  id : String
  enabled : Bool := true
  deleteAfterRun : Option Bool := none
  createdAtMs : ℤ
  schedule : CronSchedule
  sessionTarget : JsString
  payloadKind : CronPayloadKind
  state : CronJobState := {}
deriving DecidableEq

inductive CronRetryOn
  | rate_limit
  | overloaded
  | network
  | timeout
  | server_error

structure CronRetryConfig where
  maxAttempts : Option ℕ := none
  backoffMs : Option (List ℤ) := none
  retryOn : Option (List CronRetryOn) := none

structure CronServiceDeps extends ScheduleDeps where
  cronEnabled : Bool := true
  retry : CronRetryConfig := {}
  maxConcurrentRuns : Option ℤ := none
  missedJobStaggerMs : Option ℤ := none
  maxMissedJobsPerRestart : Option ℤ := none

def stuckRunMs : ℤ := 2 * 60 * 60 * 1000

def defaultErrorBackoffScheduleMs : List ℤ := [30000, 60000, 5 * 60000, 15 * 60000, 60 * 60000]

def hasScheduledNextRunAtMs : Option ℤ → Bool
  | some value => 0 < value
  | none => false

/-- Whether a scheduled time has come: `nowMs >= nextRunAtMs`. -/
def nextRunHasCome (next : Option ℤ) (nowMs : ℤ) : Bool :=
  hasScheduledNextRunAtMs next && next.any (· ≤ nowMs)

def errorBackoffMs (consecutiveErrors : ℕ) (scheduleMs : List ℤ) : ℤ :=
  (scheduleMs[min (consecutiveErrors - 1) (scheduleMs.length - 1)]?).getD 30000

def isIsolatedLike (sessionTarget : JsString) : Bool :=
  sessionTarget == js "isolated" || sessionTarget == js "current" ||
    (js "session:").isPrefixOf sessionTarget

def safeCronSessionTargetId (sessionId : JsString) : Bool :=
  trim sessionId ≠ [] && !(trim sessionId).contains 47 &&
    !(trim sessionId).contains 92 && !(trim sessionId).contains 0

def supportedJobSpec (sessionTarget : JsString) (payloadKind : CronPayloadKind) :
    Bool :=
  ((js "session:").isPrefixOf sessionTarget → safeCronSessionTargetId (sessionTarget.drop 8)) &&
    (sessionTarget = js "main" → payloadKind = .systemEvent) &&
    (isIsolatedLike sessionTarget → payloadKind = .agentTurn)

def resolveEveryAnchorMs (anchorMs : Option ℤ) (fallbackAnchorMs : ℤ) : ℤ :=
  max 0 (anchorMs.getD fallbackAnchorMs)

/-- One of the at most four attempts of `computeStaggeredCronNextRunAtMs`. -/
def staggeredNextFrom (deps : CronServiceDeps) (schedule : CronSchedule)
    (offsetMs nowMs : ℤ) : ℕ → ℤ → Except JsString (Option ℤ)
  | 0, _ => .ok none
  | attempts + 1, cursorMs => do
      match ← computeNextRunAtMs deps.toScheduleDeps schedule cursorMs with
      | none => return none
      | some baseNext =>
        if nowMs < baseNext + offsetMs then return some (baseNext + offsetMs)
        staggeredNextFrom deps schedule offsetMs nowMs attempts
          (max (cursorMs + 1) (baseNext + 1000))

def computeStaggeredCronNextRunAtMs (deps : CronServiceDeps) (job : CronJob)
    (nowMs : ℤ) : Except JsString (Option ℤ) :=
  match job.schedule with
  | .cron expr _ staggerMs =>
    let offsetMs := resolveStableCronOffsetMs deps.toScheduleDeps job.id
      (resolveCronStaggerMs expr staggerMs)
    if offsetMs ≤ 0 then
      computeNextRunAtMs deps.toScheduleDeps job.schedule nowMs
    else
      staggeredNextFrom deps job.schedule offsetMs nowMs 4 (max 0 (nowMs - offsetMs))
  | schedule => computeNextRunAtMs deps.toScheduleDeps schedule nowMs

/-- One of the at most four attempts of
`computeStaggeredCronPreviousRunAtMs`. -/
def staggeredPreviousFrom (deps : CronServiceDeps) (schedule : CronSchedule)
    (offsetMs nowMs : ℤ) : ℕ → ℤ → Except JsString (Option ℤ)
  | 0, _ => .ok none
  | attempts + 1, cursorMs => do
      match ← computePreviousRunAtMs deps.toScheduleDeps schedule cursorMs with
      | none => return none
      | some basePrevious =>
        if basePrevious + offsetMs ≤ nowMs then
          return some (basePrevious + offsetMs)
        staggeredPreviousFrom deps schedule offsetMs nowMs attempts (max 0 (basePrevious - 1000))

def computeStaggeredCronPreviousRunAtMs (deps : CronServiceDeps)
    (job : CronJob) (nowMs : ℤ) : Except JsString (Option ℤ) :=
  match job.schedule with
  | .cron expr _ staggerMs =>
    let offsetMs := resolveStableCronOffsetMs deps.toScheduleDeps job.id
      (resolveCronStaggerMs expr staggerMs)
    if offsetMs ≤ 0 then
      computePreviousRunAtMs deps.toScheduleDeps job.schedule nowMs
    else
      staggeredPreviousFrom deps job.schedule offsetMs nowMs 4 (max 0 (nowMs - offsetMs))
  | _ => .ok none

/-- The last run that a finished one-shot must not repeat:
`lastStatus === "ok" && lastRunAtMs`. -/
def CronJobState.okRunAtMs (state : CronJobState) : Option ℤ :=
  if state.lastStatus = some .ok then state.lastRunAtMs.filter (· ≠ 0) else none

def computeJobNextRunAtMs (deps : CronServiceDeps) (job : CronJob)
    (nowMs : ℤ) : Except JsString (Option ℤ) :=
  if !job.enabled then .ok none
  else
    match job.schedule with
    | .every everyMs anchorMs =>
      let nextFromLastRun := (job.state.lastRunAtMs.map (· + max 1 everyMs)).filter (nowMs < ·)
      if nextFromLastRun.isSome then .ok nextFromLastRun
      else
        computeNextRunAtMs deps.toScheduleDeps (.every (max 1 everyMs)
            (some (resolveEveryAnchorMs anchorMs job.createdAtMs))) nowMs
    | .atTime at_ =>
      let atMs := parseAbsoluteTimeMs deps.toScheduleDeps at_
      match job.state.okRunAtMs with
      -- Done, unless the schedule was moved behind the last run.
      | some lastRunAtMs => .ok (atMs.filter (lastRunAtMs < ·))
      | none => .ok atMs
    | .cron .. => do
        let next ← computeStaggeredCronNextRunAtMs deps job nowMs
        if next = none then
          computeStaggeredCronNextRunAtMs deps job (nextSecondMs nowMs)
        else return next

def computeJobPreviousRunAtMs (deps : CronServiceDeps) (job : CronJob)
    (nowMs : ℤ) : Except JsString (Option ℤ) :=
  if !job.enabled || !job.schedule.isCron then .ok none
  else computeStaggeredCronPreviousRunAtMs deps job nowMs

def maxScheduleErrors : ℕ := 3

def recordScheduleComputeError (job : CronJob) : CronJob :=
  let errorCount := job.state.scheduleErrorCount.getD 0 + 1
  { job with
    enabled := job.enabled && decide (errorCount < maxScheduleErrors)
    state := { job.state with
      scheduleErrorCount := some errorCount
      nextRunAtMs := none } }

def CronJob.anchoredSchedule (job : CronJob) : CronSchedule :=
  match job.schedule with
  | .every everyMs anchorMs =>
    .every everyMs (some (resolveEveryAnchorMs anchorMs job.createdAtMs))
  | schedule => schedule

def CronJob.idled (job : CronJob) : CronJob :=
  { job with
    schedule := job.anchoredSchedule
    state := { job.state with nextRunAtMs := none, runningAtMs := none } }

def CronJob.tidied (nowMs : ℤ) (job : CronJob) : CronJob :=
  { job with
    schedule := job.anchoredSchedule
    state := { job.state with
      nextRunAtMs := job.state.nextRunAtMs.filter (0 < ·)
      runningAtMs := job.state.runningAtMs.filter (nowMs - · ≤ stuckRunMs) } }

/-- The clean-up of a job's state that every pass over the store begins with,
and whether the pass skips the job. -/
def normalizeJobTickState (job : CronJob) (nowMs : ℤ) : CronJob × Bool :=
  if !job.enabled then (job.idled, true) else (job.tidied nowMs, false)

def backoffFloorMs (deps : CronServiceDeps) (job : CronJob) : Option ℤ :=
  if job.schedule.isAt || job.state.lastStatus ≠ some .error then none
  else
    job.state.lastRunAtMs.map fun lastRunAtMs =>
      lastRunAtMs + errorBackoffMs (max 1 (job.state.consecutiveErrors.getD 1))
        (deps.retry.backoffMs.getD defaultErrorBackoffScheduleMs)

def recomputeJobNextRunAtMs (deps : CronServiceDeps) (nowMs : ℤ) (job : CronJob) : CronJob :=
  match computeJobNextRunAtMs deps job nowMs with
  | .error _ => recordScheduleComputeError job
  | .ok newNext =>
    { job with
      state := { job.state with
        nextRunAtMs := match backoffFloorMs deps job with
          | some backoffFloor => newNext.map (max · backoffFloor)
          | none => newNext
        scheduleErrorCount := job.state.scheduleErrorCount.filter (· = 0) } }

/-- What `recomputeNextRuns` does to a job that its pass does not skip. -/
def recomputeIfDueOrMissing (deps : CronServiceDeps) (nowMs : ℤ) (job : CronJob) : CronJob :=
  if !hasScheduledNextRunAtMs job.state.nextRunAtMs ||
      nextRunHasCome job.state.nextRunAtMs nowMs then
    recomputeJobNextRunAtMs deps nowMs job
  else job

def executedExpiredSlot (job : CronJob) (nowMs : ℤ) : Bool :=
  nextRunHasCome job.state.nextRunAtMs nowMs && job.state.runningAtMs.isNone &&
    job.state.lastRunAtMs.any (nextRunHasCome job.state.nextRunAtMs)

/-- What `recomputeNextRunsForMaintenance` does to a job that its pass does not
skip. -/
def recomputeForMaintenance (deps : CronServiceDeps) (recomputeExpired : Bool)
    (nowMs : ℤ) (job : CronJob) : CronJob :=
  if !hasScheduledNextRunAtMs job.state.nextRunAtMs then
    recomputeJobNextRunAtMs deps nowMs job
  else if recomputeExpired && executedExpiredSlot job nowMs then
    recomputeJobNextRunAtMs deps nowMs job
  else job

inductive Pass
  | full
  | maintenance (recomputeExpired : Bool)
deriving DecidableEq

def Pass.recompute (deps : CronServiceDeps) : Pass → ℤ → CronJob → CronJob
  | .full => recomputeIfDueOrMissing deps
  | .maintenance recomputeExpired =>
    recomputeForMaintenance deps recomputeExpired

def Pass.job (deps : CronServiceDeps) (pass : Pass) (nowMs : ℤ) (job : CronJob) : CronJob :=
  match normalizeJobTickState job nowMs with
  | (normalized, true) => normalized
  | (normalized, false) => pass.recompute deps nowMs normalized

def walkSchedulableJobs (deps : CronServiceDeps) (pass : Pass) (nowMs : ℤ)
    (jobs : List CronJob) : List CronJob :=
  jobs.map (pass.job deps nowMs)

def recomputeNextRuns (deps : CronServiceDeps) (nowMs : ℤ) (jobs : List CronJob) : List CronJob :=
  walkSchedulableJobs deps .full nowMs jobs

def recomputeNextRunsForMaintenance (deps : CronServiceDeps)
    (recomputeExpired : Bool) (nowMs : ℤ) (jobs : List CronJob) :
    List CronJob :=
  walkSchedulableJobs deps (.maintenance recomputeExpired) nowMs jobs

def isJobDue (job : CronJob) (nowMs : ℤ) (forced : Bool) : Bool :=
  job.state.runningAtMs.isNone &&
    (forced || (job.enabled && nextRunHasCome job.state.nextRunAtMs nowMs))

end LittleBaby.Cron
