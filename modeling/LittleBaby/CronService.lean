import LittleBaby.Arena
import LittleBaby.CronTimer
import LittleBaby.LabelledMachine

/-!
# The cron service

The service keeps its jobs in memory and in a file.  Every locked section is
one step: it trusts the jobs in memory or reloads the file, and mostly writes
the file back.  A run is a job picked by a timer tick, by the catch-up at the
start or by hand; one section writes its marker, a later one its result.
-/

namespace LittleBaby.Cron

open JsString

inductive RunOrigin
  | tick (load : ℕ)
  | catchup
  | manual (forced : Bool)
deriving DecidableEq

inductive RunPhase
  | admitted (now : ℤ)
  | reserved
  | executing (startedAt : ℤ)
  | completed (result : CronRunOutcome)
  | closed
deriving DecidableEq

structure Run where
  jobId : String
  origin : RunOrigin
  phase : RunPhase
deriving DecidableEq

inductive Startup
  | idle
  | cleared (interruptedOneShotIds : List String)
  | catchingUp (deferredJobIds : List String)
  | caughtUp
  | started
deriving DecidableEq

/-- The jobs in memory, how often they were loaded, the file, whether a tick is
under way, the progress of `start` and the runs of this process; then the
history: every execution begun, with its start, and every result recorded. -/
structure State where
  store : Option (List CronJob) := none
  loads : ℕ := 0
  disk : List CronJob
  running : Bool := false
  startup : Startup := .idle
  runs : Arena Run := Arena.empty
  executions : List (String × ℤ) := []
  results : List (String × CronRunOutcome) := []

def State.boot (disk : List CronJob) : State := { disk }

def findJob (jobs : List CronJob) (id : String) : Option CronJob := jobs.find? (·.id = id)

def modifyJob (id : String) (change : CronJob → CronJob) : List CronJob → List CronJob
  | [] => []
  | job :: rest =>
    if job.id = id then change job :: rest
    else job :: modifyJob id change rest

variable (deps : CronServiceDeps) (state : State) (id : String)

def removeJob (jobs : List CronJob) : List CronJob := jobs.filter (·.id ≠ id)

/-- `state.store?.jobs ?? []`. -/
def State.jobs : List CronJob := state.store.getD []

/-- `ensureLoaded(state, { forceReload: true, skipRecompute: true })`. -/
def State.reload : State := { state with store := some state.disk, loads := state.loads + 1 }

/-- `ensureLoaded(state, { skipRecompute: true })`. -/
def State.load : State :=
  if state.store.isNone then state.reload else state

def State.keep (jobs : List CronJob) : State := { state with store := some jobs }

def State.persist (jobs : List CronJob) : State := { state with store := some jobs, disk := jobs }

/-- `ensureLoaded(state)`: a first load recomputes the next runs. -/
def State.ensureLoaded (nowMs : ℤ) : State :=
  if state.store.isNone then
    state.reload.keep (recomputeNextRuns deps nowMs state.disk)
  else state

def State.persistIfChanged (jobs : List CronJob) : State :=
  if jobs = state.jobs then state else state.persist jobs

def State.setPhase (index : ℕ) (run : Run) (phase : RunPhase) : State :=
  { state with runs := state.runs.put index { run with phase } }

/-- `ensureLoadedForRead`, the effect of `status`, `list` and `listPage`. -/
def ensureLoadedForRead (nowMs : ℤ) : State :=
  state.load.persistIfChanged (recomputeNextRunsForMaintenance deps false nowMs state.load.jobs)

structure CronJobStatePatch where
  nextRunAtMs : Option (Option ℤ) := none
  runningAtMs : Option (Option ℤ) := none
  lastRunAtMs : Option (Option ℤ) := none
  lastStatus : Option (Option CronRunStatus) := none
  consecutiveErrors : Option (Option ℕ) := none
  scheduleErrorCount : Option (Option ℕ) := none

def CronJobStatePatch.apply (patch : CronJobStatePatch) (state : CronJobState) : CronJobState where
  nextRunAtMs := patch.nextRunAtMs.getD state.nextRunAtMs
  runningAtMs := patch.runningAtMs.getD state.runningAtMs
  lastRunAtMs := patch.lastRunAtMs.getD state.lastRunAtMs
  lastStatus := patch.lastStatus.getD state.lastStatus
  consecutiveErrors := patch.consecutiveErrors.getD state.consecutiveErrors
  scheduleErrorCount := patch.scheduleErrorCount.getD state.scheduleErrorCount

/-- The input of `add`.  `rejected` is the verdict of the checks on the name,
the agent and the delivery. -/
structure CronJobCreate where
  schedule : CronSchedule
  enabled : Option Bool := none
  deleteAfterRun : Option Bool := none
  sessionTarget : JsString
  payloadKind : CronPayloadKind
  state : CronJobStatePatch := {}
  rejected : Bool := false

def createdSchedule (schedule : CronSchedule) (nowMs : ℤ) : CronSchedule :=
  match schedule with
  | .every everyMs anchorMs =>
    .every everyMs (some (resolveEveryAnchorMs anchorMs nowMs))
  | .cron expr tz staggerMs =>
    .cron expr tz ((normalizeCronStaggerMs staggerMs).or (resolveDefaultCronStaggerMs expr))
  | schedule => schedule

/-- `createJob`; missing when it throws. -/
def createJob (deps : CronServiceDeps) (id : String) (input : CronJobCreate)
    (nowMs : ℤ) : Option CronJob :=
  let schedule := createdSchedule input.schedule nowMs
  let job : CronJob :=
    { id
      enabled := input.enabled.getD true
      deleteAfterRun := input.deleteAfterRun.or (if schedule.isAt then some true else none)
      createdAtMs := nowMs
      schedule
      sessionTarget := input.sessionTarget
      payloadKind := input.payloadKind
      state := input.state.apply {} }
  if input.rejected || !supportedJobSpec job.sessionTarget job.payloadKind then
    none
  else
    match computeJobNextRunAtMs deps job nowMs with
    | .ok next => some (job.withNextRun next)
    | .error _ => none

def add (deps : CronServiceDeps) (state : State) (id : String)
    (input : CronJobCreate) (loadNow createNow recomputeNow : ℤ) : State :=
  let state := state.ensureLoaded deps loadNow
  match createJob deps id input createNow with
  | none => state
  | some job =>
    state.persist (recomputeNextRuns deps recomputeNow (state.jobs ++ [job]))

/-- The input of `update`.  `rejected` is the verdict of the checks on the
fields left out; a patch that is refused half-way is one with the fields
applied until then. -/
structure CronJobPatch where
  enabled : Option Bool := none
  deleteAfterRun : Option Bool := none
  schedule : Option CronSchedule := none
  sessionTarget : Option JsString := none
  payloadKind : Option CronPayloadKind := none
  state : CronJobStatePatch := {}
  rejected : Bool := false

def patchedSchedule (current : CronSchedule) : CronSchedule → CronSchedule
  | .cron expr tz staggerMs =>
    match normalizeCronStaggerMs staggerMs, current with
    | some explicit, _ => .cron expr tz (some explicit)
    | none, .cron _ _ previous => .cron expr tz previous
    | none, _ => .cron expr tz (resolveDefaultCronStaggerMs expr)
  | schedule => schedule

def applyJobPatch (patch : CronJobPatch) (job : CronJob) : CronJob :=
  { job with
    enabled := patch.enabled.getD job.enabled
    deleteAfterRun := patch.deleteAfterRun.or job.deleteAfterRun
    schedule := (patch.schedule.map (patchedSchedule job.schedule)).getD job.schedule
    sessionTarget := (patch.sessionTarget.filter (· ≠ [])).getD job.sessionTarget
    payloadKind := patch.payloadKind.getD job.payloadKind
    state := patch.state.apply job.state }

/-- The anchor that `update` gives an interval without one. -/
def anchorUpdated (patch : CronJobPatch) (job : CronJob) (nowMs : ℤ) :
    CronJob :=
  match job.schedule with
  | .every everyMs none =>
    let fallback :=
      if patch.schedule.any (·.isEvery) then nowMs else job.createdAtMs
    { job with schedule := .every everyMs (some (max 0 fallback)) }
  | _ => job

/-- The updated job and whether `update` gets as far as writing the file. -/
def updateJob (patch : CronJobPatch) (nowMs : ℤ) (job : CronJob) : CronJob × Bool :=
  let patched := applyJobPatch patch job
  if patch.rejected || !supportedJobSpec patched.sessionTarget patched.payloadKind then
    (patched, false)
  else
    let anchored := anchorUpdated patch patched nowMs
    if patch.schedule.isSome || patch.enabled.isSome then
      if !anchored.enabled then ((anchored.withNextRun none).unmark, true)
      else
        match computeJobNextRunAtMs deps anchored nowMs with
        | .ok next => (anchored.withNextRun next, true)
        | .error _ => (anchored, false)
    else if anchored.enabled && !hasScheduledNextRunAtMs anchored.state.nextRunAtMs then
      match computeJobNextRunAtMs deps anchored nowMs with
      | .ok next => (anchored.withNextRun next, true)
      | .error _ => (anchored, false)
    else (anchored, true)

def update (patch : CronJobPatch) (nowMs : ℤ) : State :=
  let state := state.load
  match findJob state.jobs id with
  | none => state
  | some job =>
    let updated := updateJob deps patch nowMs job
    let jobs := modifyJob id (fun _ => updated.1) state.jobs
    if updated.2 then state.persist jobs else state.keep jobs

def remove (loadNow : ℤ) : State :=
  let state := state.ensureLoaded deps loadNow
  state.persist (removeJob id state.jobs)

def applyOutcomeToStoredJob (preserveSchedule : Bool)
    (jobs : List CronJob) (entry : String × CronRunOutcome) : List CronJob :=
  match findJob jobs entry.1 with
  | none => jobs
  | some job =>
    match applyJobResult deps preserveSchedule entry.2 job with
    | none => removeJob entry.1 jobs
    | some after => modifyJob entry.1 (fun _ => after) jobs

def applyOutcomes (jobs : List CronJob) (entries : List (String × CronRunOutcome)) : List CronJob :=
  entries.foldl (applyOutcomeToStoredJob deps false) jobs

def Run.isTick (run : Run) : Bool :=
  match run.origin with
  | .tick _ => true
  | _ => false

def Run.isCatchup (run : Run) : Bool := run.origin = .catchup

def Run.isReserved (run : Run) : Bool := run.phase = .reserved

def Run.isExecuting (run : Run) : Bool :=
  match run.phase with
  | .executing _ => true
  | _ => false

def Run.outcome (run : Run) : Option (String × CronRunOutcome) :=
  match run.phase with
  | .completed result => some (run.jobId, result)
  | _ => none

def Run.close (run : Run) : Run := { run with phase := .closed }

def resolveRunConcurrency : ℕ := (max 1 (deps.maxConcurrentRuns.getD 1)).toNat

/-- The first section of `onTimer`: collect the due jobs and mark them. -/
def collectDueJobs (dueCheckNow now : ℤ) : State :=
  let loaded := state.reload
  let runnable := isRunnableJob deps {} dueCheckNow
  let due := collectRunnableJobs deps {} dueCheckNow state.disk
  if due = [] then
    loaded.persist (recomputeNextRunsForMaintenance deps true dueCheckNow state.disk)
  else
    { loaded.persist (state.disk.map fun job => if runnable job then job.mark now else job)
      with
      running := true
      runs := ⟨state.runs.cells ++ due.map fun job =>
        ⟨job.id, .tick loaded.loads, .reserved⟩⟩ }

def mayStart (inGroup : Run → Bool) (workers : ℕ) (state : State) (index : ℕ) : Bool :=
  !((state.runs.cells.take index).any fun run => inGroup run && run.isReserved) &&
    state.runs.cells.countP (fun run => inGroup run && run.isExecuting) < workers

def State.begin (index : ℕ) (run : Run) (startedAt : ℤ) : State :=
  { state.setPhase index run (.executing startedAt) with
    executions := state.executions ++ [(run.jobId, startedAt)] }

/-- `runDueJob` up to the execution: the marker is set on the job object that
was collected, which is in the store only until the next load. -/
def runDueJob (index : ℕ) (run : Run) (load : ℕ) (startedAt : ℤ) : State :=
  let started := state.begin index run startedAt
  if state.loads = load then
    { started with
      store := state.store.map (modifyJob run.jobId (·.mark startedAt)) }
  else started

def State.outcomesOf (inGroup : Run → Bool) : List (String × CronRunOutcome) :=
  (state.runs.cells.filter inGroup).filterMap Run.outcome

def State.closeGroup (inGroup : Run → Bool) : State :=
  { state with
    runs := ⟨state.runs.cells.map fun run =>
      if inGroup run then run.close else run⟩ }

def State.groupDone (inGroup : Run → Bool) : Bool :=
  state.runs.cells.all fun run =>
    !inGroup run || run.outcome.isSome || run.phase = .closed

/-- The last section of `onTimer`. -/
def applyDueResults (nowMs : ℤ) : State :=
  let entries := state.outcomesOf Run.isTick
  let jobs := recomputeNextRunsForMaintenance deps false nowMs
    (applyOutcomes deps state.disk entries)
  { (state.reload.persist jobs).closeGroup Run.isTick with
    running := false
    results := state.results ++ entries }

inductive ManualRunPreflight
  | unknownJob
  | invalidSpec
  | alreadyRunning
  | notDue
  | runnable

def skipInvalidPersistedManualRun (forced : Bool) (endedAt nowMs : ℤ) : State :=
  let result : CronRunOutcome := ⟨.skipped, none, endedAt, endedAt⟩
  { state.persist (recomputeNextRunsForMaintenance deps true nowMs
      (applyOutcomeToStoredJob deps forced state.jobs (id, result))) with
    results := state.results ++ [(id, result)] }

/-- `inspectManualRunPreflight`: the pass over the store stays in memory. -/
def inspectManualRunPreflight (forced : Bool) (passNow now skipNow : ℤ) :
    State × ManualRunPreflight :=
  let passed := state.load.keep (recomputeNextRunsForMaintenance deps false passNow state.load.jobs)
  match findJob passed.jobs id with
  | none => (passed, .unknownJob)
  | some job =>
    if !supportedJobSpec job.sessionTarget job.payloadKind then
      (skipInvalidPersistedManualRun deps passed id forced now skipNow, .invalidSpec)
    else if job.state.runningAtMs.isSome then (passed, .alreadyRunning)
    else if isJobDue job now forced then (passed, .runnable)
    else (passed, .notDue)

/-- The first section of `prepareManualRun`. -/
def admitManualRun (forced : Bool) (passNow now skipNow : ℤ) : State :=
  match inspectManualRunPreflight deps state id forced passNow now skipNow with
  | (after, .runnable) =>
    { after with
      runs := after.runs.push ⟨id, .manual forced, .admitted now⟩ }
  | (after, _) => after

/-- The second section of `prepareManualRun`: reserve the run and begin it. -/
def reserveManualRun (index : ℕ) (run : Run) (now : ℤ) : State :=
  match findJob state.jobs run.jobId with
  | none => state.setPhase index run .closed
  | some job =>
    if job.state.runningAtMs.isSome then state.setPhase index run .closed
    else
      (state.begin index run now).persist (modifyJob run.jobId (·.mark now) state.jobs)

def CronJob.restore (snapshot reloaded : CronJob) : CronJob :=
  { reloaded with enabled := snapshot.enabled, state := snapshot.state }

def mergeManualRunSnapshotAfterReload
    (snapshot : Option CronJob) (jobs : List CronJob) : List CronJob :=
  match snapshot with
  | none => removeJob id jobs
  | some job => modifyJob id job.restore jobs

/-- The last section of `finishPreparedManualRun`. -/
def finishManualRun (index : ℕ) (run : Run) (forced : Bool) (result : CronRunOutcome) (nowMs : ℤ) :
    State :=
  let closed := state.load.setPhase index run .closed
  match findJob state.load.jobs run.jobId with
  | none => closed
  | some job =>
    let snapshot := applyJobResult deps forced result job
    { closed.reload.persist (recomputeNextRunsForMaintenance deps true nowMs
        (mergeManualRunSnapshotAfterReload run.jobId snapshot state.disk))
      with results := state.results ++ [(run.jobId, result)] }

/-- The first section of `start`. -/
def clearMarkers : State :=
  let jobs := state.load.jobs
  { state.load.persistIfChanged (jobs.map (·.unmark)) with
    startup := .cleared ((jobs.filter fun job =>
      job.state.runningAtMs.isSome && job.schedule.isAt).map (·.id)) }

def catchupOptions (skipJobIds : List String) : PickOptions where
  skipJobIds := skipJobIds
  skipAtIfAlreadyRan := true
  allowCronMissedRunByLastRun := true

def planStartupCatchup (skipJobIds : List String) (now : ℤ) : State :=
  let loaded := state.load
  let missed := collectRunnableJobs deps (catchupOptions skipJobIds) now loaded.jobs
  if missed = [] then { loaded with startup := .caughtUp }
  else
    let sorted := missed.mergeSort fun a b =>
      a.state.nextRunAtMs.getD 0 ≤ b.state.nextRunAtMs.getD 0
    let maxImmediate := (deps.maxMissedJobsPerRestart.getD 5).toNat
    let candidates : List String := (sorted.take maxImmediate).map (·.id)
    let deferred : List String := (sorted.drop maxImmediate).map (·.id)
    { loaded.persist (loaded.jobs.map fun job =>
        if candidates.contains job.id then job.mark now else job) with
      startup := .catchingUp deferred
      runs := ⟨loaded.runs.cells ++ candidates.map fun id =>
        ⟨id, .catchup, .reserved⟩⟩ }

def deferMissedJobs (baseNow staggerMs : ℤ) : List String → ℤ → List CronJob → List CronJob
  | [], _, jobs => jobs
  | id :: rest, offset, jobs =>
    if (findJob jobs id).any (·.enabled) then
      deferMissedJobs baseNow staggerMs rest (offset + staggerMs)
        (modifyJob id (·.withNextRun (some (baseNow + offset))) jobs)
    else deferMissedJobs baseNow staggerMs rest offset jobs

def applyStartupCatchupOutcomes (deferred : List String) (baseNow nowMs : ℤ) : State :=
  let loaded := state.load
  let staggerMs := max 0 (deps.missedJobStaggerMs.getD 5000)
  let entries := state.outcomesOf Run.isCatchup
  let applied := applyOutcomes deps loaded.jobs entries
  let jobs := recomputeNextRunsForMaintenance deps false nowMs
    (deferMissedJobs baseNow staggerMs deferred staggerMs applied)
  { (loaded.persist jobs).closeGroup Run.isCatchup with
    startup := .caughtUp
    results := state.results ++ entries }

/-- The last section of `start`. -/
def finishStart (nowMs : ℤ) : State :=
  { state.load.persistIfChanged (recomputeNextRuns deps nowMs state.load.jobs) with
    startup := .started }

def crash : State :=
  { State.boot state.disk with
    executions := state.executions
    results := state.results }

/-- What the service does in one step, with every reading of the clock.
`inspectManualRunDisposition` is the part of `enqueueRun` that comes before the
run is queued; the queued run is an `admitManualRun` like any other. -/
inductive Action
  | read (now : ℤ)
  | add (id : String) (input : CronJobCreate) (loadNow createNow recomputeNow : ℤ)
  | update (id : String) (patch : CronJobPatch) (now : ℤ)
  | remove (id : String) (loadNow : ℤ)
  | collectDueJobs (dueCheckNow now : ℤ)
  | runDueJob (index : ℕ) (startedAt : ℤ)
  | executed (index : ℕ) (status : CronRunStatus) (error : Option JsString) (endedAt : ℤ)
  | applyDueResults (now : ℤ)
  | inspectManualRunDisposition (id : String) (forced : Bool) (passNow now skipNow : ℤ)
  | admitManualRun (id : String) (forced : Bool) (passNow now skipNow : ℤ)
  | reserveManualRun (index : ℕ)
  | finishManualRun (index : ℕ) (now : ℤ)
  | clearMarkers
  | planStartupCatchup (now : ℤ)
  | runStartupCatchupCandidate (index : ℕ) (startedAt : ℤ)
  | applyStartupCatchupOutcomes (baseNow now : ℤ)
  | finishStart (now : ℤ)
  | crash

def step (deps : CronServiceDeps) (state : State) : Action → Option State
  | .read now => some (ensureLoadedForRead deps state now)
  | .add id input loadNow createNow recomputeNow =>
    -- `crypto.randomUUID` names a new job like no job before it.
    if id ∈ (state.load.jobs.map (·.id)) then none
    else some (add deps state id input loadNow createNow recomputeNow)
  | .update id patch now => some (update deps state id patch now)
  | .remove id loadNow => some (remove deps state id loadNow)
  | .collectDueJobs dueCheckNow now =>
    if state.running || !deps.cronEnabled then none
    else some (collectDueJobs deps state dueCheckNow now)
  | .runDueJob index startedAt =>
    match state.runs.get? index with
    | some ⟨jobId, .tick load, .reserved⟩ =>
      if mayStart Run.isTick (resolveRunConcurrency deps) state index then
        some (runDueJob state index ⟨jobId, .tick load, .reserved⟩ load startedAt)
      else none
    | _ => none
  | .executed index status error endedAt =>
    match state.runs.get? index with
    | some ⟨jobId, origin, .executing startedAt⟩ =>
      some (state.setPhase index ⟨jobId, origin, .executing startedAt⟩
        (.completed ⟨status, error, startedAt, endedAt⟩))
    | _ => none
  | .applyDueResults now =>
    if state.running && state.groupDone Run.isTick then
      some (applyDueResults deps state now)
    else none
  | .inspectManualRunDisposition id forced passNow now skipNow =>
    some (inspectManualRunPreflight deps state id forced passNow now skipNow).1
  | .admitManualRun id forced passNow now skipNow =>
    some (admitManualRun deps state id forced passNow now skipNow)
  | .reserveManualRun index =>
    match state.runs.get? index with
    | some ⟨jobId, origin, .admitted now⟩ =>
      some (reserveManualRun state index ⟨jobId, origin, .admitted now⟩ now)
    | _ => none
  | .finishManualRun index now =>
    match state.runs.get? index with
    | some ⟨jobId, .manual forced, .completed result⟩ =>
      some (finishManualRun deps state index
        ⟨jobId, .manual forced, .completed result⟩ forced result now)
    | _ => none
  | .clearMarkers =>
    if deps.cronEnabled && state.startup = .idle then
      some (clearMarkers state)
    else none
  | .planStartupCatchup now =>
    match state.startup with
    | .cleared skipJobIds =>
      some (planStartupCatchup deps state skipJobIds now)
    | _ => none
  | .runStartupCatchupCandidate index startedAt =>
    match state.runs.get? index with
    | some ⟨jobId, .catchup, .reserved⟩ =>
      if mayStart Run.isCatchup 1 state index then
        some (state.begin index ⟨jobId, .catchup, .reserved⟩ startedAt)
      else none
    | _ => none
  | .applyStartupCatchupOutcomes baseNow now =>
    match state.startup with
    | .catchingUp deferred =>
      if state.groupDone Run.isCatchup then
        some (applyStartupCatchupOutcomes deps state deferred baseNow now)
      else none
    | _ => none
  | .finishStart now =>
    if state.startup = .caughtUp then some (finishStart deps state now)
    else none
  | .crash => some (crash state)

def plainDeps : CronServiceDeps where
  dateParse := fun _ => none
  cronNextRun := fun _ _ _ => .ok none
  cronPreviousRun := fun _ _ _ => .ok none
  localTimeZone := []
  digest := fun _ => 0

def everySecond : CronJob where
  id
  createdAtMs := 0
  schedule := .every 1000 none
  sessionTarget := js "main"
  payloadKind := .systemEvent
  state := { nextRunAtMs := some 1000 }

end LittleBaby.Cron
