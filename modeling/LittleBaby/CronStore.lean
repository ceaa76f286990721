import LittleBaby.CronService
import Mathlib.Data.List.Nodup
import Mathlib.Data.List.Sort

/-!
# The jobs of a store

What the operations on a list of jobs do to the job with one id, and that they
add no id: the ids of a store stay distinct over every step of the service.
-/

namespace LittleBaby.Cron

open State

variable {deps : CronServiceDeps}

/-! ## Operations on one job keep its id -/

@[simp] theorem recomputeJobNextRunAtMs_id (nowMs : ℤ) (job : CronJob) :
    (recomputeJobNextRunAtMs deps nowMs job).id = job.id := by
  unfold recomputeJobNextRunAtMs
  split <;> rfl

variable (state : State) (pass : Pass)

@[simp] theorem Pass.recompute_id (nowMs : ℤ) (job : CronJob) :
    (pass.recompute deps nowMs job).id = job.id := by
  cases pass with
  | full =>
    simp only [Pass.recompute, recomputeIfDueOrMissing]
    split <;> simp
  | maintenance recomputeExpired =>
    simp only [Pass.recompute, recomputeForMaintenance]
    split
    · simp
    · split <;> simp

variable {job : CronJob}

theorem Pass.job_of_disabled (nowMs : ℤ) (hoff : job.enabled = false) :
    pass.job deps nowMs job = job.idled := by
  simp [Pass.job, normalizeJobTickState, hoff]

theorem Pass.job_of_enabled (nowMs : ℤ) (hon : job.enabled = true) :
    pass.job deps nowMs job = pass.recompute deps nowMs (job.tidied nowMs) := by
  simp [Pass.job, normalizeJobTickState, hon]

@[simp] theorem Pass.job_id (nowMs : ℤ) (job : CronJob) :
    (pass.job deps nowMs job).id = job.id := by
  cases hon : job.enabled with
  | false =>
    rw [pass.job_of_disabled nowMs hon]
    rfl
  | true =>
    rw [pass.job_of_enabled nowMs hon]
    exact pass.recompute_id nowMs _

@[simp] theorem CronJob.mark_id (nowMs : ℤ) (job : CronJob) : (job.mark nowMs).id = job.id := rfl

@[simp] theorem CronJob.unmark_id (job : CronJob) : job.unmark.id = job.id := rfl

@[simp] theorem CronJob.withNextRun_id (job : CronJob) (next : Option ℤ) :
    (job.withNextRun next).id = job.id := rfl

structure Recorded (result : CronRunOutcome) (job after : CronJob) : Prop where
  id : after.id = job.id
  schedule : after.schedule = job.schedule
  marker : after.state.runningAtMs = none
  lastRun : after.state.lastRunAtMs = some result.startedAt
  errors : after.state.consecutiveErrors = some (consecutiveErrorsAfter job result)

theorem recorded_recordResult (result : CronRunOutcome) (job : CronJob) :
    Recorded result job (recordResult job result) :=
  ⟨rfl, rfl, rfl, rfl, rfl⟩

variable {result : CronRunOutcome} {after : CronJob}

theorem Recorded.withNextRun (hrecorded : Recorded result job after) (next : Option ℤ) :
    Recorded result job (after.withNextRun next) :=
  ⟨hrecorded.id, hrecorded.schedule, hrecorded.marker, hrecorded.lastRun, hrecorded.errors⟩

theorem Recorded.naturalNextRun (hrecorded : Recorded result job after) (preserveSchedule : Bool)
    (prev : Option ℤ) (endedAt : ℤ) :
    Recorded result job (naturalNextRun deps preserveSchedule prev after endedAt).1 := by
  unfold Cron.naturalNextRun
  split
  · exact hrecorded
  · exact ⟨hrecorded.id, hrecorded.schedule, hrecorded.marker, hrecorded.lastRun, hrecorded.errors⟩

theorem applyJobResult_recorded {preserveSchedule : Bool}
    (happly : applyJobResult deps preserveSchedule result job = some after) :
    Recorded result job after := by
  have hrecorded := recorded_recordResult result job
  unfold applyJobResult at happly
  split at happly
  · cases happly
  · split at happly
    · cases happly
      unfold finishOneShot
      split
      · exact hrecorded.withNextRun _
      · exact ⟨rfl, rfl, rfl, rfl, rfl⟩
    · cases happly
      unfold scheduleAfterRun
      split
      · exact hrecorded.withNextRun none
      · exact (hrecorded.naturalNextRun preserveSchedule _ _).withNextRun _

/-! ## The job with one id -/

variable {jobs : List CronJob} {id key : String}

theorem findJob_id (hfind : findJob jobs id = some job) : job.id = id := by
  simpa using List.find?_some hfind

theorem mem_of_findJob (hfind : findJob jobs id = some job) : job ∈ jobs :=
  List.mem_of_find?_eq_some hfind

variable {change : CronJob → CronJob}

theorem findJob_map (hid : ∀ job, (change job).id = job.id) :
    findJob (jobs.map change) id = (findJob jobs id).map change := by
  unfold findJob
  rw [List.find?_map]
  simp only [Function.comp_def, hid]

theorem findJob_modifyJob (hid : ∀ job, job.id = key → (change job).id = key) :
    findJob (modifyJob key change jobs) id =
      if key = id then (findJob jobs id).map change else findJob jobs id := by
  induction jobs with
  | nil => simp [modifyJob, findJob]
  | cons job rest ih =>
    unfold findJob at ih ⊢
    by_cases hjob : job.id = key
    · have hchanged := hid job hjob
      by_cases hkey : key = id
      · simp [modifyJob, hjob, hchanged, hkey]
      · simp [modifyJob, hjob, hchanged, hkey]
    · by_cases hmine : job.id = id
      · have hkey : ¬ key = id := fun heq => hjob (hmine.trans heq.symm)
        simp [modifyJob, hmine, hkey, Ne.symm hkey]
      · simp [modifyJob, hjob, hmine, ih]

theorem findJob_removeJob : findJob (removeJob key jobs) id =
      if key = id then none else findJob jobs id := by
  unfold findJob removeJob
  rw [List.find?_filter]
  by_cases hkey : key = id
  · subst hkey
    rw [if_pos rfl, List.find?_eq_none]
    intro job _
    simp
  · rw [if_neg hkey]
    congr 1
    funext job
    by_cases hjob : job.id = id
    · have : ¬ job.id = key := fun heq => hkey (heq.symm.trans hjob)
      simp [hjob, Ne.symm hkey]
    · simp [hjob]

theorem findJob_append_singleton (hne : job.id ≠ id) :
    findJob (jobs ++ [job]) id = findJob jobs id := by
  unfold findJob
  simp [hne]

@[simp] theorem findJob_walkSchedulableJobs (nowMs : ℤ) :
    findJob (walkSchedulableJobs deps pass nowMs jobs) id =
      (findJob jobs id).map (pass.job deps nowMs) :=
  findJob_map (pass.job_id nowMs)

theorem findJob_applyOutcomeToStoredJob (preserveSchedule : Bool)
    (entry : String × CronRunOutcome) :
    findJob (applyOutcomeToStoredJob deps preserveSchedule jobs entry) id =
      if entry.1 = id then
        (findJob jobs id).bind (applyJobResult deps preserveSchedule entry.2)
      else findJob jobs id := by
  unfold applyOutcomeToStoredJob
  cases hfind : findJob jobs entry.1 with
  | none =>
    by_cases hentry : entry.1 = id
    · simp [← hentry, hfind]
    · simp [hentry]
  | some job =>
    cases happly : applyJobResult deps preserveSchedule entry.2 job with
    | none =>
      simp only [findJob_removeJob, happly]
      by_cases hentry : entry.1 = id
      · simp [← hentry, hfind, happly]
      · simp [hentry]
    | some after =>
      have hid : after.id = entry.1 := (applyJobResult_recorded happly).id.trans (findJob_id hfind)
      simp only [happly]
      rw [findJob_modifyJob fun _ _ => hid]
      by_cases hentry : entry.1 = id
      · simp [← hentry, hfind, happly]
      · simp [hentry]

def resultsOf (id : String) (entries : List (String × CronRunOutcome)) : List CronRunOutcome :=
  (entries.filter (·.1 = id)).map (·.2)

def applyResults (deps : CronServiceDeps) (results : List CronRunOutcome)
    (job : Option CronJob) : Option CronJob :=
  results.foldl (fun job result => job.bind (applyJobResult deps false result)) job

theorem findJob_applyOutcomes (entries : List (String × CronRunOutcome)) :
    findJob (applyOutcomes deps jobs entries) id =
      applyResults deps (resultsOf id entries) (findJob jobs id) := by
  unfold applyOutcomes
  induction entries generalizing jobs with
  | nil => rfl
  | cons entry rest ih =>
    rw [List.foldl_cons, ih, findJob_applyOutcomeToStoredJob]
    by_cases hentry : entry.1 = id
    · simp [resultsOf, applyResults, hentry]
    · simp [resultsOf, applyResults, hentry]

theorem findJob_mergeManualRunSnapshot (snapshot : Option CronJob) :
    findJob (mergeManualRunSnapshotAfterReload key snapshot jobs) id =
      if key = id then
        snapshot.bind fun snapshot => (findJob jobs id).map snapshot.restore
      else findJob jobs id := by
  unfold mergeManualRunSnapshotAfterReload
  cases snapshot with
  | none =>
    rw [findJob_removeJob]
    rfl
  | some job =>
    have hid : ∀ reloaded : CronJob, reloaded.id = key →
        (job.restore reloaded).id = key := fun _ hreloaded => hreloaded
    rw [findJob_modifyJob hid]
    rfl

theorem findJob_deferMissedJobs (baseNow staggerMs : ℤ) (deferred : List String) (offset : ℤ) :
    ∃ next : CronJob → Option ℤ,
      findJob (deferMissedJobs baseNow staggerMs deferred offset jobs) id =
        (findJob jobs id).map fun job => job.withNextRun (next job) := by
  induction deferred generalizing offset jobs with
  | nil =>
    exact ⟨fun job => job.state.nextRunAtMs, by
      simp [deferMissedJobs, CronJob.withNextRun]⟩
  | cons key rest ih =>
    unfold deferMissedJobs
    split
    · obtain ⟨next, hnext⟩ := @ih (modifyJob key (·.withNextRun (some (baseNow + offset))) jobs)
        (offset + staggerMs)
      rw [hnext, findJob_modifyJob fun job hjob => by simpa using hjob]
      by_cases hkey : key = id
      · refine ⟨fun job =>
          next (job.withNextRun (some (baseNow + offset))), ?_⟩
        simp [hkey, Option.map_map, Function.comp_def, CronJob.withNextRun]
      · exact ⟨next, by rw [if_neg hkey]⟩
    · exact ih offset

/-! ## Distinct ids -/

abbrev ids (jobs : List CronJob) : List String := jobs.map (·.id)

theorem ids_map (hid : ∀ job, (change job).id = job.id) : ids (jobs.map change) = ids jobs := by
  simp [ids, Function.comp_def, hid]

@[simp] theorem ids_walkSchedulableJobs (nowMs : ℤ) :
    ids (walkSchedulableJobs deps pass nowMs jobs) = ids jobs :=
  ids_map (pass.job_id nowMs)

theorem ids_modifyJob (hid : ∀ job, job.id = key → (change job).id = key) :
    ids (modifyJob key change jobs) = ids jobs := by
  induction jobs with
  | nil => rfl
  | cons job rest ih =>
    unfold modifyJob
    split
    · rename_i hjob
      simp [ids, hid job hjob, hjob]
    · simp only [ids, List.map_cons] at ih ⊢
      rw [ih]

theorem ids_removeJob_sublist : (ids (removeJob key jobs)).Sublist (ids jobs) :=
  List.filter_sublist.map _

theorem ids_applyOutcomeToStoredJob_sublist (preserveSchedule : Bool)
    (entry : String × CronRunOutcome) :
    (ids (applyOutcomeToStoredJob deps preserveSchedule jobs entry)).Sublist (ids jobs) := by
  unfold applyOutcomeToStoredJob
  split
  · exact List.Sublist.refl _
  · rename_i job hfind
    split
    · exact ids_removeJob_sublist
    · rename_i after happly
      rw [ids_modifyJob fun _ _ =>
        (applyJobResult_recorded happly).id.trans (findJob_id hfind)]

theorem ids_applyOutcomes_sublist (entries : List (String × CronRunOutcome)) :
    (ids (applyOutcomes deps jobs entries)).Sublist (ids jobs) := by
  induction entries generalizing jobs with
  | nil => exact List.Sublist.refl _
  | cons entry rest ih =>
    exact ih.trans (ids_applyOutcomeToStoredJob_sublist false entry)

@[simp] theorem ids_deferMissedJobs (baseNow staggerMs : ℤ) (deferred : List String) (offset : ℤ) :
    ids (deferMissedJobs baseNow staggerMs deferred offset jobs) = ids jobs := by
  induction deferred generalizing offset jobs with
  | nil => rfl
  | cons key rest ih =>
    unfold deferMissedJobs
    split
    · rw [ih, ids_modifyJob fun job hjob => by simpa using hjob]
    · exact ih offset

theorem ids_mergeManualRunSnapshot_sublist (snapshot : Option CronJob) :
    (ids (mergeManualRunSnapshotAfterReload key snapshot jobs)).Sublist (ids jobs) := by
  unfold mergeManualRunSnapshotAfterReload
  split
  · exact ids_removeJob_sublist
  · rename_i job
    have hid : ∀ reloaded : CronJob, reloaded.id = key →
        (job.restore reloaded).id = key := fun _ hreloaded => hreloaded
    rw [ids_modifyJob hid]

theorem filter_id_eq {p : CronJob → Bool} (hnodup : (ids jobs).Nodup) :
    jobs.filter (fun job => p job && job.id = id) = ((findJob jobs id).filter p).toList := by
  induction jobs with
  | nil => rfl
  | cons job rest ih =>
    have hrest := ih (List.nodup_cons.mp hnodup).2
    by_cases hjob : job.id = id
    · have hnone : findJob rest id = none := by
        have hmem := (List.nodup_cons.mp hnodup).1
        unfold findJob
        rw [List.find?_eq_none]
        intro other hother
        simp only [decide_eq_true_eq]
        intro heq
        exact hmem (List.mem_map.mpr ⟨other, hother, heq.trans hjob.symm⟩)
      rw [hnone] at hrest
      have hfind : findJob (job :: rest) id = some job := by
        simp [findJob, hjob]
      rw [hfind, List.filter_cons, hrest]
      cases hp : p job <;> simp [hjob, hp, Option.filter]
    · have hfind : findJob (job :: rest) id = findJob rest id := by
        simp [findJob, hjob]
      rw [hfind, List.filter_cons, hrest]
      simp [hjob]

/-! ## The store in memory and the file -/

@[simp] theorem State.load_jobs : state.load.jobs = state.store.getD state.disk := by
  unfold load jobs
  cases hstore : state.store <;> simp [reload, hstore]

@[simp] theorem State.load_disk : state.load.disk = state.disk := by
  unfold load
  split <;> rfl

@[simp] theorem State.load_runs : state.load.runs = state.runs := by
  unfold load
  split <;> rfl

@[simp] theorem State.load_executions : state.load.executions = state.executions := by
  unfold load
  split <;> rfl

@[simp] theorem State.load_results : state.load.results = state.results := by
  unfold load
  split <;> rfl

/-- Only the jobs, the load count and the progress of the service's start
and tick differ. -/
structure SameHistory (before after : State) : Prop where
  runs : after.runs = before.runs
  executions : after.executions = before.executions
  results : after.results = before.results

theorem SameHistory.load : SameHistory state state.load :=
  ⟨state.load_runs, state.load_executions, state.load_results⟩

theorem SameHistory.ensureLoaded (nowMs : ℤ) :
    SameHistory state (state.ensureLoaded deps nowMs) := by
  unfold State.ensureLoaded
  split <;> exact ⟨rfl, rfl, rfl⟩

theorem State.ensureLoaded_jobs (nowMs : ℤ) : (state.ensureLoaded deps nowMs).jobs =
      if state.store.isNone then recomputeNextRuns deps nowMs state.disk
      else state.jobs := by
  unfold ensureLoaded
  split <;> rfl

@[simp] theorem State.ensureLoaded_disk (nowMs : ℤ) :
    (state.ensureLoaded deps nowMs).disk = state.disk := by
  unfold ensureLoaded
  split <;> rfl

@[simp] theorem State.ensureLoaded_store (nowMs : ℤ) : (state.ensureLoaded deps nowMs).store =
      some (state.ensureLoaded deps nowMs).jobs := by
  unfold ensureLoaded
  cases hstore : state.store <;> simp [hstore, keep, jobs]

@[simp] theorem State.load_store : state.load.store = some (state.store.getD state.disk) := by
  unfold load
  cases hstore : state.store <;> simp [reload, hstore]

/-! ## Distinct ids are kept -/

structure State.WellFormed (state : State) : Prop where
  disk : (ids state.disk).Nodup
  loaded : (ids (state.store.getD state.disk)).Nodup

theorem State.WellFormed.boot {disk : List CronJob} (hdisk : (ids disk).Nodup) :
    (boot disk).WellFormed :=
  ⟨hdisk, hdisk⟩

variable {id : String} {nowMs : ℤ}

theorem createJob_id {input : CronJobCreate} (hcreate : createJob deps id input nowMs = some job) :
    job.id = id := by
  unfold createJob at hcreate
  dsimp only at hcreate
  split at hcreate
  · cases hcreate
  · split at hcreate
    · cases hcreate
      rfl
    · cases hcreate

theorem anchorUpdated_id (patch : CronJobPatch) (job : CronJob) (nowMs : ℤ) :
    (anchorUpdated patch job nowMs).id = job.id := by
  unfold anchorUpdated
  split <;> rfl

theorem updateJob_id (patch : CronJobPatch) (nowMs : ℤ) (job : CronJob) :
    (updateJob deps patch nowMs job).1.id = job.id := by
  have hanchored := anchorUpdated_id patch (applyJobPatch patch job) nowMs
  unfold updateJob
  dsimp only
  split
  · rfl
  · split
    · split
      · exact hanchored
      · split <;> exact hanchored
    · split
      · split <;> exact hanchored
      · exact hanchored

section WellFormed

variable {state next : State} (hwf : state.WellFormed)

include hwf

theorem State.WellFormed.load : state.load.WellFormed := by
  refine ⟨by simpa using hwf.disk, ?_⟩
  rw [state.load_store, Option.getD_some]
  exact hwf.loaded

theorem State.WellFormed.persistIfChanged {jobs : List CronJob} (hjobs : (ids jobs).Nodup) :
    (state.load.persistIfChanged jobs).WellFormed := by
  unfold State.persistIfChanged
  split
  · exact hwf.load
  · exact ⟨hjobs, hjobs⟩

theorem State.WellFormed.ensureLoaded_jobs (nowMs : ℤ) :
    (ids (state.ensureLoaded deps nowMs).jobs).Nodup := by
  rw [State.ensureLoaded_jobs]
  cases hstore : state.store with
  | none => simpa [recomputeNextRuns] using hwf.disk
  | some jobs => simpa [State.jobs, hstore] using hwf.loaded

theorem State.WellFormed.ensureLoaded (nowMs : ℤ) : (state.ensureLoaded deps nowMs).WellFormed := by
  refine ⟨by simpa using hwf.disk, ?_⟩
  rw [ensureLoaded_store, Option.getD_some]
  exact hwf.ensureLoaded_jobs nowMs

theorem wellFormed_add {input : CronJobCreate} {loadNow createNow recomputeNow : ℤ}
    (hfresh : id ∉ ids (state.store.getD state.disk)) :
    (add deps state id input loadNow createNow recomputeNow).WellFormed := by
  have hnodup := @State.WellFormed.ensureLoaded_jobs deps _ hwf loadNow
  have hids : ids (state.ensureLoaded deps loadNow).jobs = ids (state.store.getD state.disk) := by
    rw [ensureLoaded_jobs]
    cases hstore : state.store <;> simp [recomputeNextRuns, jobs, hstore]
  unfold add
  split
  · exact hwf.ensureLoaded loadNow
  · rename_i job hcreate
    have hid : job.id = id := createJob_id hcreate
    have hall : (ids (recomputeNextRuns deps recomputeNow
        ((state.ensureLoaded deps loadNow).jobs ++ [job]))).Nodup := by
      rw [recomputeNextRuns, ids_walkSchedulableJobs, ids, List.map_append,
        List.map_singleton, hid, List.nodup_append]
      refine ⟨hnodup, List.nodup_singleton _, ?_⟩
      intro other hother fresh hmem
      rw [List.mem_singleton] at hmem
      rw [hmem]
      rintro rfl
      exact hfresh (hids ▸ hother)
    exact ⟨hall, hall⟩

theorem wellFormed_update {patch : CronJobPatch} :
    (update deps state id patch nowMs).WellFormed := by
  unfold update
  dsimp only
  split
  · exact hwf.load
  · rename_i job hfind
    have hid : (updateJob deps patch nowMs job).1.id = id := by
      rw [← findJob_id hfind]
      exact updateJob_id ..
    have hjobs : (ids (modifyJob id
        (fun _ => (updateJob deps patch nowMs job).1) state.load.jobs)).Nodup := by
      rw [ids_modifyJob fun _ _ => hid]
      simpa using hwf.loaded
    split
    · exact ⟨hjobs, hjobs⟩
    · exact ⟨by simpa [keep] using hwf.disk, hjobs⟩

theorem wellFormed_remove {loadNow : ℤ} : (remove deps state id loadNow).WellFormed := by
  have hjobs := (@State.WellFormed.ensureLoaded_jobs deps _ hwf loadNow).sublist
    (@ids_removeJob_sublist _ id)
  exact ⟨hjobs, hjobs⟩

theorem wellFormed_collectDueJobs {dueCheckNow now : ℤ} :
    (collectDueJobs deps state dueCheckNow now).WellFormed := by
  unfold collectDueJobs
  dsimp only
  split
  · have hjobs : (ids (recomputeNextRunsForMaintenance deps true dueCheckNow
        state.disk)).Nodup := by
      simpa [recomputeNextRunsForMaintenance] using hwf.disk
    exact ⟨hjobs, hjobs⟩
  · have hjobs : (ids (state.disk.map fun job =>
        if isRunnableJob deps {} dueCheckNow job then job.mark now
        else job)).Nodup := by
      rw [ids_map fun job => by split <;> rfl]
      exact hwf.disk
    exact ⟨hjobs, hjobs⟩

variable {index : ℕ} {run : Run}

theorem wellFormed_runDueJob {load : ℕ} {startedAt : ℤ} :
    (runDueJob state index run load startedAt).WellFormed := by
  unfold runDueJob
  split
  · refine ⟨hwf.disk, ?_⟩
    have hloaded := hwf.loaded
    cases hstore : state.store with
    | none => simpa [begin, setPhase, hstore] using hwf.disk
    | some jobs =>
      simp only [hstore, Option.getD_some, Option.map_some] at hloaded ⊢
      rw [ids_modifyJob fun job hjob => by simpa using hjob]
      exact hloaded
  · exact ⟨hwf.disk, hwf.loaded⟩

theorem wellFormed_applyDueResults : (applyDueResults deps state nowMs).WellFormed := by
  have hjobs : (ids (recomputeNextRunsForMaintenance deps false nowMs
      (applyOutcomes deps state.disk (state.outcomesOf Run.isTick)))).Nodup := by
    rw [recomputeNextRunsForMaintenance, ids_walkSchedulableJobs]
    exact hwf.disk.sublist (ids_applyOutcomes_sublist _)
  exact ⟨hjobs, hjobs⟩

theorem wellFormed_inspectManualRunPreflight {id : String} {forced : Bool}
    {passNow now skipNow : ℤ} :
    (inspectManualRunPreflight deps state id forced passNow now skipNow).1.WellFormed := by
  have hpassed : (ids (recomputeNextRunsForMaintenance deps false passNow
      state.load.jobs)).Nodup := by
    simpa [recomputeNextRunsForMaintenance] using hwf.loaded
  have hkept : (state.load.keep (recomputeNextRunsForMaintenance deps false
      passNow state.load.jobs)).WellFormed :=
    ⟨by simpa [keep] using hwf.disk, hpassed⟩
  unfold inspectManualRunPreflight
  dsimp only
  split
  · exact hkept
  · split
    · have hjobs : (ids (recomputeNextRunsForMaintenance deps true skipNow
          (applyOutcomeToStoredJob deps forced
            (state.load.keep (recomputeNextRunsForMaintenance deps false
              passNow state.load.jobs)).jobs
            (id, ⟨.skipped, none, now, now⟩)))).Nodup := by
        rw [recomputeNextRunsForMaintenance, ids_walkSchedulableJobs]
        exact hpassed.sublist (ids_applyOutcomeToStoredJob_sublist forced _)
      exact ⟨hjobs, hjobs⟩
    · split
      · exact hkept
      · split <;> exact hkept

theorem wellFormed_admitManualRun {id : String} {forced : Bool} {passNow now skipNow : ℤ} :
    (admitManualRun deps state id forced passNow now skipNow).WellFormed := by
  have hafter := @wellFormed_inspectManualRunPreflight deps _ hwf id forced passNow now skipNow
  unfold admitManualRun
  split
  · rename_i after heq
    rw [heq] at hafter
    exact ⟨hafter.disk, hafter.loaded⟩
  · rename_i after preflight hne heq
    rw [heq] at hafter
    exact hafter

theorem wellFormed_reserveManualRun {now : ℤ} :
    (reserveManualRun state index run now).WellFormed := by
  unfold reserveManualRun
  split
  · exact ⟨hwf.disk, hwf.loaded⟩
  · rename_i job hfind
    split
    · exact ⟨hwf.disk, hwf.loaded⟩
    · have hjobs : (ids (modifyJob run.jobId (·.mark now) state.jobs)).Nodup := by
        rw [ids_modifyJob fun job hjob => by simpa using hjob]
        have hloaded := hwf.loaded
        cases hstore : state.store with
        | none => simp [State.jobs, hstore]
        | some jobs => simpa [State.jobs, hstore] using hloaded
      exact ⟨hjobs, hjobs⟩

theorem wellFormed_finishManualRun {forced : Bool} :
    (finishManualRun deps state index run forced result nowMs).WellFormed := by
  unfold finishManualRun
  split
  · exact ⟨hwf.load.disk, hwf.load.loaded⟩
  · rename_i job hfind
    have hjobs : (ids (recomputeNextRunsForMaintenance deps true nowMs
        (mergeManualRunSnapshotAfterReload run.jobId
          (applyJobResult deps forced result job) state.disk))).Nodup := by
      rw [recomputeNextRunsForMaintenance, ids_walkSchedulableJobs]
      exact hwf.disk.sublist (ids_mergeManualRunSnapshot_sublist _)
    exact ⟨hjobs, hjobs⟩

theorem wellFormed_clearMarkers : (clearMarkers state).WellFormed := by
  have hjobs : (ids (state.load.jobs.map (·.unmark))).Nodup := by
    rw [ids_map CronJob.unmark_id]
    simpa using hwf.loaded
  have hcleared := hwf.persistIfChanged hjobs
  exact ⟨hcleared.disk, hcleared.loaded⟩

theorem wellFormed_planStartupCatchup {skipJobIds : List String} {now : ℤ} :
    (planStartupCatchup deps state skipJobIds now).WellFormed := by
  unfold planStartupCatchup
  dsimp only
  split
  · exact ⟨hwf.load.disk, hwf.load.loaded⟩
  · refine ⟨?_, ?_⟩
    all_goals
      simp only [persist, Option.getD_some]
      rw [ids_map fun job => by split <;> rfl]
      simpa using hwf.loaded

theorem wellFormed_applyStartupCatchupOutcomes {deferred : List String} {baseNow : ℤ} :
    (applyStartupCatchupOutcomes deps state deferred baseNow nowMs).WellFormed := by
  have hloaded : (ids state.load.jobs).Nodup := by simpa using hwf.loaded
  refine ⟨?_, ?_⟩
  all_goals
    simp only [applyStartupCatchupOutcomes, closeGroup, persist, Option.getD_some]
    rw [recomputeNextRunsForMaintenance, ids_walkSchedulableJobs, ids_deferMissedJobs]
    exact hloaded.sublist (ids_applyOutcomes_sublist _)

theorem wellFormed_finishStart : (finishStart deps state nowMs).WellFormed := by
  have hjobs : (ids (recomputeNextRuns deps nowMs state.load.jobs)).Nodup := by
    rw [recomputeNextRuns, ids_walkSchedulableJobs]
    simpa using hwf.loaded
  have hstarted := hwf.persistIfChanged hjobs
  exact ⟨hstarted.disk, hstarted.loaded⟩

theorem wellFormed_step {action : Action}
    (hstep : step deps state action = some next) : next.WellFormed := by
  cases action with
  | read now =>
    cases hstep
    apply hwf.persistIfChanged
    simpa [recomputeNextRunsForMaintenance] using hwf.loaded
  | add id input loadNow createNow recomputeNow =>
    simp only [step] at hstep
    split at hstep
    · cases hstep
    · rename_i hfresh
      cases hstep
      exact wellFormed_add hwf (by simpa using hfresh)
  | update id patch now =>
    cases hstep
    exact wellFormed_update hwf
  | remove id loadNow =>
    cases hstep
    exact wellFormed_remove hwf
  | collectDueJobs dueCheckNow now =>
    simp only [step] at hstep
    split at hstep
    · cases hstep
    · cases hstep
      exact wellFormed_collectDueJobs hwf
  | runDueJob index startedAt =>
    simp only [step] at hstep
    split at hstep
    · split at hstep
      · cases hstep
        exact wellFormed_runDueJob hwf
      · cases hstep
    · cases hstep
  | executed index status error endedAt =>
    simp only [step] at hstep
    split at hstep
    · cases hstep
      exact ⟨hwf.disk, hwf.loaded⟩
    · cases hstep
  | applyDueResults now =>
    simp only [step] at hstep
    split at hstep
    · cases hstep
      exact wellFormed_applyDueResults hwf
    · cases hstep
  | inspectManualRunDisposition id forced passNow now skipNow =>
    cases hstep
    exact wellFormed_inspectManualRunPreflight hwf
  | admitManualRun id forced passNow now skipNow =>
    cases hstep
    exact wellFormed_admitManualRun hwf
  | reserveManualRun index =>
    simp only [step] at hstep
    split at hstep
    · cases hstep
      exact wellFormed_reserveManualRun hwf
    · cases hstep
  | finishManualRun index now =>
    simp only [step] at hstep
    split at hstep
    · cases hstep
      exact wellFormed_finishManualRun hwf
    · cases hstep
  | clearMarkers =>
    simp only [step] at hstep
    split at hstep
    · cases hstep
      exact wellFormed_clearMarkers hwf
    · cases hstep
  | planStartupCatchup now =>
    simp only [step] at hstep
    split at hstep
    · cases hstep
      exact wellFormed_planStartupCatchup hwf
    · cases hstep
  | runStartupCatchupCandidate index startedAt =>
    simp only [step] at hstep
    split at hstep
    · split at hstep
      · cases hstep
        exact ⟨hwf.disk, hwf.loaded⟩
      · cases hstep
    · cases hstep
  | applyStartupCatchupOutcomes baseNow now =>
    simp only [step] at hstep
    split at hstep
    · split at hstep
      · cases hstep
        exact wellFormed_applyStartupCatchupOutcomes hwf
      · cases hstep
    · cases hstep
  | finishStart now =>
    simp only [step] at hstep
    split at hstep
    · cases hstep
      exact wellFormed_finishStart hwf
    · cases hstep
  | crash =>
    cases hstep
    exact ⟨hwf.disk, hwf.disk⟩

end WellFormed

end LittleBaby.Cron
