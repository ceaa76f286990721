import LittleBaby.CronStore
import Mathlib.Data.Multiset.Filter

/-!
# What the service does to one job

The view of one job is its copy in memory, its copy in the file, its runs that
are under way, and its history; `JobStep` lists how a step changes it.
-/

namespace LittleBaby.Cron

variable {deps : CronServiceDeps}

/-! ## Passes in a row -/

def runPasses (deps : CronServiceDeps) (passes : List (Pass × ℤ)) (job : CronJob) : CronJob :=
  passes.foldl (fun job pass => pass.1.job deps pass.2 job) job

@[simp] theorem runPasses_nil : runPasses deps [] = id := rfl

@[simp] theorem runPasses_cons (pass : Pass × ℤ) (rest : List (Pass × ℤ)) (job : CronJob) :
    runPasses deps (pass :: rest) job = runPasses deps rest (pass.1.job deps pass.2 job) := rfl

def alongPasses (deps : CronServiceDeps) (test : Pass → ℤ → CronJob → Bool) :
    List (Pass × ℤ) → CronJob → Bool
  | [], _ => true
  | pass :: rest, job =>
    test pass.1 pass.2 job && alongPasses deps test rest (pass.1.job deps pass.2 job)

structure Passed (job after : CronJob) : Prop where
  target : after.sessionTarget = job.sessionTarget
  payload : after.payloadKind = job.payloadKind
  isAt : after.schedule.isAt = job.schedule.isAt
  lastRun : after.state.lastRunAtMs = job.state.lastRunAtMs
  errors : after.state.consecutiveErrors = job.state.consecutiveErrors
  enabled : after.enabled → job.enabled

variable (state : State) (id : String) (job : CronJob)

theorem Passed.refl : Passed job job := ⟨rfl, rfl, rfl, rfl, rfl, fun hon => hon⟩

theorem Passed.trans {first second third : CronJob}
    (hfirst : Passed first second) (hsecond : Passed second third) :
    Passed first third :=
  ⟨hsecond.target.trans hfirst.target, hsecond.payload.trans hfirst.payload,
    hsecond.isAt.trans hfirst.isAt, hsecond.lastRun.trans hfirst.lastRun,
    hsecond.errors.trans hfirst.errors,
    fun hon => hfirst.enabled (hsecond.enabled hon)⟩

theorem anchoredSchedule_isAt : job.anchoredSchedule.isAt = job.schedule.isAt := by
  unfold CronJob.anchoredSchedule
  cases job.schedule <;> rfl

theorem passed_idled : Passed job job.idled :=
  ⟨rfl, rfl, anchoredSchedule_isAt job, rfl, rfl, fun hon => hon⟩

theorem passed_tidied (nowMs : ℤ) (job : CronJob) : Passed job (job.tidied nowMs) :=
  ⟨rfl, rfl, anchoredSchedule_isAt job, rfl, rfl, fun hon => hon⟩

theorem passed_recomputeJobNextRunAtMs (nowMs : ℤ) (job : CronJob) :
    Passed job (recomputeJobNextRunAtMs deps nowMs job) := by
  unfold recomputeJobNextRunAtMs
  split
  · refine ⟨rfl, rfl, rfl, rfl, rfl, ?_⟩
    intro hon
    exact (Bool.and_eq_true _ _ ▸ hon : _ ∧ _).1
  · exact ⟨rfl, rfl, rfl, rfl, rfl, fun hon => hon⟩

theorem Pass.recompute_cases (pass : Pass) (nowMs : ℤ) (job : CronJob) :
    pass.recompute deps nowMs job = recomputeJobNextRunAtMs deps nowMs job ∨
      pass.recompute deps nowMs job = job := by
  cases pass with
  | full =>
    simp only [Pass.recompute, recomputeIfDueOrMissing]
    split
    · exact .inl rfl
    · exact .inr rfl
  | maintenance recomputeExpired =>
    simp only [Pass.recompute, recomputeForMaintenance]
    split
    · exact .inl rfl
    · split
      · exact .inl rfl
      · exact .inr rfl

theorem Pass.passed (pass : Pass) (nowMs : ℤ) (job : CronJob) :
    Passed job (pass.job deps nowMs job) := by
  cases hon : job.enabled with
  | false =>
    rw [pass.job_of_disabled nowMs hon]
    exact passed_idled job
  | true =>
    rw [pass.job_of_enabled nowMs hon]
    apply (passed_tidied nowMs job).trans
    rcases pass.recompute_cases nowMs (job.tidied nowMs) with heq | heq
    · rw [heq]
      exact passed_recomputeJobNextRunAtMs nowMs _
    · rw [heq]
      exact Passed.refl _

theorem passed_runPasses (passes : List (Pass × ℤ)) (job : CronJob) :
    Passed job (runPasses deps passes job) := by
  induction passes generalizing job with
  | nil => exact Passed.refl job
  | cons pass rest ih => exact (pass.1.passed pass.2 job).trans (ih _)

/-! ## The view -/

def Run.isOpen (run : Run) : Bool :=
  match run.phase with
  | .reserved | .executing _ | .completed _ => true
  | _ => false

def Run.result (run : Run) : Option CronRunOutcome :=
  match run.phase with
  | .completed result => some result
  | _ => none

@[ext] structure JobView where
  current : Option CronJob
  disk : Option CronJob
  runs : Multiset Run
  starts : List ℤ
  results : List CronRunOutcome

/-- The copy of a job that a section finds which trusts the memory. -/
def State.current : Option CronJob := findJob state.load.jobs id

def State.onDisk : Option CronJob := findJob state.disk id

def Run.isOpenFor (run : Run) : Bool := run.isOpen && run.jobId = id

def State.openRuns : Multiset Run := ↑(state.runs.cells.filter (Run.isOpenFor id))

def State.starts : List ℤ := (state.executions.filter (·.1 = id)).map (·.2)

def State.view : JobView where
  current := state.current id
  disk := state.onDisk id
  runs := state.openRuns id
  starts := state.starts id
  results := resultsOf id state.results

/-! ## The passes of a step -/

def State.completedManualRun (index : ℕ) : Option String :=
  match state.runs.get? index with
  | some ⟨jobId, .manual _, .completed _⟩ =>
    if (state.current jobId).isSome then some jobId else none
  | _ => none

def State.invalidSpec : Bool :=
  (state.current id).any fun job =>
    !supportedJobSpec job.sessionTarget job.payloadKind

def Action.passes (deps : CronServiceDeps) (state : State) : Action → List (Pass × ℤ)
  | .read now => [(.maintenance false, now)]
  | .add id input loadNow createNow recomputeNow =>
    (if state.store.isNone then [(.full, loadNow)] else []) ++
      if (createJob deps id input createNow).isSome then
        [(.full, recomputeNow)]
      else []
  | .remove _ loadNow => if state.store.isNone then [(.full, loadNow)] else []
  | .collectDueJobs dueCheckNow _ =>
    if collectRunnableJobs deps {} dueCheckNow state.disk = [] then
      [(.maintenance true, dueCheckNow)]
    else []
  | .applyDueResults now => [(.maintenance false, now)]
  | .inspectManualRunDisposition id _ passNow _ skipNow
  | .admitManualRun id _ passNow _ skipNow =>
    (.maintenance false, passNow) ::
      if state.invalidSpec id then [(.maintenance true, skipNow)] else []
  | .finishManualRun index now =>
    if (state.completedManualRun index).isSome then
      [(.maintenance true, now)]
    else []
  | .applyStartupCatchupOutcomes _ now => [(.maintenance false, now)]
  | .finishStart now => [(.full, now)]
  | _ => []

def Action.reloads : Action → Bool
  | .collectDueJobs _ _ | .applyDueResults _ => true
  | .finishManualRun index _ => (state.completedManualRun index).isSome
  | _ => false

def Action.unsaved (deps : CronServiceDeps) (state : State) : Action → Bool
  | .add id input _ createNow _ => (createJob deps id input createNow).isNone
  | .inspectManualRunDisposition id _ _ _ _ | .admitManualRun id _ _ _ _ =>
    !state.invalidSpec id
  | _ => false

def Action.edits : Action → Option String
  | .add id _ _ _ _ | .update id _ _ | .remove id _ => some id
  | _ => none

def Action.manualRunOf : Action → Option String
  | .inspectManualRunDisposition id _ _ _ _ | .admitManualRun id _ _ _ _ =>
    some id
  | .reserveManualRun index | .finishManualRun index _ =>
    (state.runs.get? index).map (·.jobId)
  | _ => none

def Action.startsRun : Action → Option (String × ℤ)
  | .runDueJob index startedAt =>
    (state.runs.get? index).map fun run => (run.jobId, startedAt)
  | _ => none

def Action.records (state : State) : Action → Prop
  | .applyDueResults _ => ∃ run ∈ state.openRuns id, run.isTick
  | .applyStartupCatchupOutcomes _ _ =>
    ∃ run ∈ state.openRuns id, run.isCatchup
  | .finishManualRun index _ => ∃ run ∈ state.runs.get? index, run.jobId = id
  | _ => False

instance (id : String) (state : State) (action : Action) : Decidable (action.records id state) :=
  match action with
  | .applyDueResults _ | .applyStartupCatchupOutcomes _ _ =>
    Multiset.decidableExistsMultiset
  | .finishManualRun index _ =>
    inferInstanceAs (Decidable (∃ run ∈ state.runs.get? index, run.jobId = id))
  | .read _ | .add .. | .update .. | .remove .. | .collectDueJobs .. |
    .runDueJob .. | .executed .. | .inspectManualRunDisposition .. |
    .admitManualRun .. | .reserveManualRun .. | .clearMarkers |
    .planStartupCatchup .. | .runStartupCatchupCandidate .. | .finishStart .. |
    .crash => isFalse fun hrecords => hrecords

def afterManualRun (deps : CronServiceDeps) (forced : Bool)
    (result : CronRunOutcome) (job : CronJob) (disk : Option CronJob) :
    Option CronJob :=
  (applyJobResult deps forced result job).bind fun snapshot =>
    disk.map snapshot.restore

inductive JobStep (deps : CronServiceDeps) (state : State) (id : String) :
    Action → JobView → JobView → Prop
  | upkeep {action : Action} {before : JobView} {current disk : Option CronJob}
      (hquiet : ¬ action.records id state)
      (hcurrent : current = (if action.reloads state then before.disk else before.current).map
          (runPasses deps (action.passes deps state)))
      (hdisk : disk = current ∨ disk = before.disk ∧ action.reloads state = false ∧
          (current = before.current ∨ action.unsaved deps state)) :
      JobStep deps state id action before { before with current, disk }
  | collected {before : JobView} {job : CronJob} {dueCheckNow now : ℤ}
      {load : ℕ} (hidle : state.running = false)
      (hdisk : before.disk = some job)
      (hrunnable : isRunnableJob deps {} dueCheckNow job) :
      JobStep deps state id (.collectDueJobs dueCheckNow now) before { before with
          current := some (job.mark now)
          disk := some (job.mark now)
          runs := ⟨id, .tick load, .reserved⟩ ::ₘ before.runs }
  | begun {before : JobView} {current : Option CronJob} {index load : ℕ}
      {startedAt : ℤ} {rest : Multiset Run}
      (hmine : Action.startsRun state (.runDueJob index startedAt) = some (id, startedAt))
      (hruns : before.runs = ⟨id, .tick load, .reserved⟩ ::ₘ rest)
      (hcurrent : current = before.current ∨ current = before.current.map (·.mark startedAt)) :
      JobStep deps state id (.runDueJob index startedAt) before { before with
          current
          runs := ⟨id, .tick load, .executing startedAt⟩ ::ₘ rest
          starts := before.starts ++ [startedAt] }
  | executed {before : JobView} {index : ℕ} {status : CronRunStatus}
      {error : Option JsString} {startedAt endedAt : ℤ} {origin : RunOrigin}
      {rest : Multiset Run}
      (hruns : before.runs = ⟨id, origin, .executing startedAt⟩ ::ₘ rest) :
      JobStep deps state id (.executed index status error endedAt) before { before with
          runs := ⟨id, origin, .completed ⟨status, error, startedAt, endedAt⟩⟩ ::ₘ rest }
  | tickDone {before : JobView} {current : Option CronJob} {now : ℤ} {results : List CronRunOutcome}
      (hdone : ∀ run ∈ before.runs, run.isTick → run.result.isSome)
      (hresults : (results : Multiset CronRunOutcome) =
        (before.runs.filter (·.isTick)).filterMap Run.result)
      (hcurrent : current = (applyResults deps results before.disk).map
        (Pass.job deps (.maintenance false) now)) :
      JobStep deps state id (.applyDueResults now) before { before with
          current
          disk := current
          runs := before.runs.filter (!·.isTick)
          results := before.results ++ results }
  | reserved {before : JobView} {job : CronJob} {index : ℕ} {now : ℤ} {origin : RunOrigin}
      (hmine : Action.manualRunOf state (.reserveManualRun index) = some id)
      (hcurrent : before.current = some job)
      (hmarker : job.state.runningAtMs = none) :
      JobStep deps state id (.reserveManualRun index) before { before with
          current := some (job.mark now)
          disk := some (job.mark now)
          runs := ⟨id, origin, .executing now⟩ ::ₘ before.runs
          starts := before.starts ++ [now] }
  | manualDone {before : JobView} {job : CronJob} {current : Option CronJob}
      {index : ℕ} {now : ℤ} {forced : Bool} {result : CronRunOutcome}
      {rest : Multiset Run}
      (hmine : Action.manualRunOf state (.finishManualRun index now) = some id)
      (hruns : before.runs = ⟨id, .manual forced, .completed result⟩ ::ₘ rest)
      (hjob : before.current = some job)
      (hcurrent : current = (afterManualRun deps forced result job
        before.disk).map (Pass.job deps (.maintenance true) now)) :
      JobStep deps state id (.finishManualRun index now) before { before with
          current
          disk := current
          runs := rest
          results := before.results ++ [result] }
  | dropped {before : JobView} {index : ℕ} {now : ℤ} {forced : Bool}
      {result : CronRunOutcome} {rest : Multiset Run}
      (hmine : Action.manualRunOf state (.finishManualRun index now) = some id)
      (hruns : before.runs = ⟨id, .manual forced, .completed result⟩ ::ₘ rest)
      (hjob : before.current = none) :
      JobStep deps state id (.finishManualRun index now) before { before with runs := rest }
  | skipped {action : Action} {before : JobView} {job : CronJob}
      {current : Option CronJob} {forced : Bool} {passNow now skipNow : ℤ}
      (haction : action = .inspectManualRunDisposition id forced passNow now skipNow ∨
          action = .admitManualRun id forced passNow now skipNow)
      (hjob : before.current = some job)
      (hinvalid : state.invalidSpec id)
      (hcurrent : current = (applyJobResult deps forced ⟨.skipped, none, now, now⟩
          (Pass.job deps (.maintenance false) passNow job)).map
        (Pass.job deps (.maintenance true) skipNow)) :
      JobStep deps state id action before { before with
          current
          disk := current
          results := before.results ++ [⟨.skipped, none, now, now⟩] }
  | cleared {before : JobView} {disk : Option CronJob}
      (hdisk : disk = before.current.map (·.unmark) ∨
        disk = before.disk ∧ before.current.map (·.unmark) = before.current) :
      JobStep deps state id .clearMarkers before
        { before with current := before.current.map (·.unmark), disk }
  | planned {before : JobView} {job : CronJob} {skipJobIds : List String}
      {now : ℤ} (hstartup : state.startup = .cleared skipJobIds)
      (hcurrent : before.current = some job)
      (hrunnable : isRunnableJob deps (catchupOptions skipJobIds) now job) :
      JobStep deps state id (.planStartupCatchup now) before { before with
          current := some (job.mark now)
          disk := some (job.mark now)
          runs := ⟨id, .catchup, .reserved⟩ ::ₘ before.runs }
  | candidateBegun {before : JobView} {index : ℕ} {startedAt : ℤ} {rest : Multiset Run}
      (hruns : before.runs = ⟨id, .catchup, .reserved⟩ ::ₘ rest) :
      JobStep deps state id (.runStartupCatchupCandidate index startedAt) before { before with
          runs := ⟨id, .catchup, .executing startedAt⟩ ::ₘ rest
          starts := before.starts ++ [startedAt] }
  | catchupDone {before : JobView} {current : Option CronJob} {baseNow now : ℤ}
      {results : List CronRunOutcome} {next : CronJob → Option ℤ}
      (hdone : ∀ run ∈ before.runs, run.isCatchup → run.result.isSome)
      (hresults : (results : Multiset CronRunOutcome) =
        (before.runs.filter (·.isCatchup)).filterMap Run.result)
      (hcurrent : current = ((applyResults deps results before.current).map fun job =>
          job.withNextRun (next job)).map (Pass.job deps (.maintenance false) now)) :
      JobStep deps state id (.applyStartupCatchupOutcomes baseNow now) before { before with
          current
          disk := current
          runs := before.runs.filter (!·.isCatchup)
          results := before.results ++ results }
  | crashed {before : JobView} : JobStep deps state id .crash before
        { before with current := before.disk, runs := 0 }

end LittleBaby.Cron
