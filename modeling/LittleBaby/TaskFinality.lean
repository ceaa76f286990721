import LittleBaby.TaskIdentities

/-!
# The end of a task

A task that has ended keeps its status, the time of its end and its outcome.
The listener for agent events and the cancellation look at the status first;
the updates by run id and the marks do not, and the cancellation writes after
it has waited.
-/

namespace LittleBaby.TaskRegistry

open JsString Call TaskRecord LabelledMachine

variable {env : TaskEnv} {world : World} {taskId : JsString}
  {current : TaskRecord} {patch : TaskPatch}

def keepsEnd (patch : TaskPatch) (current : TaskRecord) : Bool :=
  patch.status.all (fun status => status = current.status) &&
    patch.endedAt.all (fun endedAt => endedAt = current.endedAt) &&
    patch.terminalOutcome.all fun outcome => outcome = current.terminalOutcome

structure SameEnd (ended task : TaskRecord) : Prop where
  status : task.status = ended.status
  endedAt : task.endedAt = ended.endedAt
  terminalOutcome : task.terminalOutcome = ended.terminalOutcome

theorem SameEnd.apply {ended : TaskRecord} (hsame : SameEnd ended current)
    (hkeeps : keepsEnd patch ended = true) (cleanupAfter : Option ℤ) :
    SameEnd ended { current.apply patch with cleanupAfter := cleanupAfter } := by
  simp only [keepsEnd, Bool.and_eq_true, Option.all_eq_true, decide_eq_true_eq] at hkeeps
  obtain ⟨⟨hstatus, hended⟩, houtcome⟩ := hkeeps
  constructor
  · cases hpatch : patch.status with
    | none => simp [TaskRecord.apply, hpatch, hsame.status]
    | some status => simp [TaskRecord.apply, hpatch, hstatus status hpatch]
  · cases hpatch : patch.endedAt with
    | none => simp [TaskRecord.apply, hpatch, hsame.endedAt]
    | some endedAt => simp [TaskRecord.apply, hpatch, hended endedAt hpatch]
  · cases hpatch : patch.terminalOutcome with
    | none => simp [TaskRecord.apply, hpatch, hsame.terminalOutcome]
    | some outcome => simp [TaskRecord.apply, hpatch, houtcome outcome hpatch]

structure Ended (env : TaskEnv) (taskId : JsString) (ended : TaskRecord)
    (world : World) : Prop extends Tracked env world where
  terminal : isTerminalTaskStatus ended.status = true
  same : ∀ task, world.tasks.lookup taskId = some task → SameEnd ended task
  gone : ∀ index, world.uuids ≤ index → env.randomUUID index ≠ taskId

variable {ended : TaskRecord}

theorem ended_insensitive : Insensitive (Ended env taskId ended) := by
  intro world next hsame hended
  refine ⟨tracked_insensitive world next hsame hended.toTracked, hended.terminal, ?_, ?_⟩
  · rw [hsame.tasks]
    exact hended.same
  · exact fun index hle => hended.gone index (Nat.le_trans hsame.uuids hle)

theorem ended_blind : Blind (Ended env taskId ended) :=
  ⟨ended_insensitive, fun world flows hended =>
    ⟨tracked_blind.flows world flows hended.toTracked, hended.terminal, hended.same, hended.gone⟩⟩

theorem ended_updateTask {updated : JsString}
    (hkeeps : updated = taskId → keepsEnd patch ended = true) :
    Keeps (Ended env taskId ended) (updateTask env updated patch) := by
  apply ended_blind.followed.updateTask
  intro world current cleanupAfter hended hlookup
  have htracked : Tracked env (world.replaceTask updated patch current
      { current.apply patch with cleanupAfter := cleanupAfter }) := by
    apply hended.toTracked.replaceTask hlookup
    rfl
  refine ⟨htracked, hended.terminal, fun task htask => ?_, hended.gone⟩
  rw [World.replaceTask_tasks] at htask
  by_cases hsame : taskId = updated
  · subst hsame
    rw [Entries.lookup_set_self, Option.some.injEq] at htask
    subst htask
    exact (hended.same current hlookup).apply (hkeeps rfl) cleanupAfter
  · rw [Entries.lookup_set_of_ne hsame] at htask
    exact hended.same task htask

theorem Ended.ne_of_active (hended : Ended env taskId ended world)
    {searched : JsString} (hlookup : world.tasks.lookup searched = some current)
    (hactive : isTerminalTaskStatus current.status = false) :
    searched ≠ taskId := by
  rintro rfl
  have hterminal := hended.terminal
  rw [← (hended.same current hlookup).status, hactive] at hterminal
  contradiction

theorem ended_cancellable : Cancellable env (Ended env taskId ended) where
  insensitive := ended_insensitive
  delivery := fun _ _ _ => ended_updateTask fun _ => rfl
  touch := fun _ _ => ended_updateTask fun _ => rfl
  cancel := by
    intro searched task endedAt lastEventAt hactive
    have hne : ∀ world, Ended env taskId ended world ∧
        world.tasks.lookup searched = some task → task.taskId ≠ taskId := by
      rintro world ⟨hended, hlookup⟩
      rw [hended.named searched task hlookup]
      exact hended.ne_of_active hlookup hactive
    by_cases hsame : task.taskId = taskId
    · exact fun world hworld => absurd hsame (hne world hworld)
    · exact (ended_updateTask fun heq => absurd heq hsame).consequence
        (fun _ => And.left) (fun _ _ => id) fun _ => id

theorem ended_whole : Whole env (Ended env taskId ended) :=
  ended_cancellable.whole ended_blind fun _ _ => ended_updateTask fun _ => rfl

section

variable (hended : Ended env taskId ended world)
include hended

theorem Ended.withoutTask (removed : JsString) :
    Ended env taskId ended (world.withoutTask removed current) := by
  refine ⟨hended.toTracked.withoutTask, hended.terminal, fun task htask => ?_, hended.gone⟩
  rw [World.withoutTask_tasks] at htask
  by_cases hsame : taskId = removed
  · subst hsame
    simp at htask
  · rw [Entries.lookup_erase_of_ne hsame] at htask
    exact hended.same task htask

theorem Ended.withNewTask (params : TaskCreateParams) :
    Ended env taskId ended (world.withNewTask env params) := by
  refine ⟨hended.toTracked.withNewTask params, hended.terminal,
    fun task htask => ?_, fun index hle => hended.gone index (Nat.le_of_lt hle)⟩
  have hne := hended.gone world.uuids (Nat.le_refl _)
  simp only [World.withNewTask] at htask
  rw [Entries.lookup_set_of_ne hne.symm] at htask
  exact hended.same task htask

theorem Ended.addIndexes (added : JsString) (record : TaskRecord) :
    Ended env taskId ended (world.addIndexes added record) :=
  ⟨hended.toTracked.addIndexes added record, hended.terminal, hended.same, hended.gone⟩

end

def respectsEnd (env : TaskEnv) (world : World) (taskId : JsString)
    (ended : TaskRecord) : Operation → Bool
  | .updateTask updated patch => updated ≠ taskId || keepsEnd patch ended
  | .updateTaskStateByRunId params =>
    (world.getTasksByRunScope params.runId params.runtime params.sessionKey).all fun current =>
        current.taskId ≠ taskId || keepsEnd (params.patch current) ended
  | .setTaskTimingById updated _ endedAt _ =>
    updated ≠ taskId || endedAt.all fun endedAt => some endedAt = ended.endedAt
  | .markTaskTerminalById updated params =>
    updated ≠ taskId || keepsEnd params.patch ended
  | .markTaskLostById updated endedAt lastEventAt error cleanupAfter =>
    updated ≠ taskId || keepsEnd (taskLostPatch endedAt lastEventAt error cleanupAfter) ended
  | .cancelSettles index true =>
    (world.cancels.get? index).all fun cancel =>
      cancel.taskId ≠ taskId || keepsEnd (cancelledPatch (env.now world.readings)
          (env.now (world.readings + 1))) ended
  | _ => true

theorem mergePatch_keepsEnd (existing : TaskRecord) (params : TaskCreateParams) :
    keepsEnd (mergePatch existing params) ended = true := rfl

theorem updates_keepEnd {operation : Operation} (hended : Ended env taskId ended world)
    (hguard : respectsEnd env world taskId ended operation = true)
    (hupdates : Updates env world taskId patch operation) :
    keepsEnd patch ended = true := by
  cases operation with
  | createTaskRecord params =>
    obtain ⟨existing, -, -, rfl⟩ := hupdates
    exact mergePatch_keepsEnd existing params
  | createQueuedTaskRun params | createRunningTaskRun params =>
    obtain ⟨existing, -, -, rfl⟩ := hupdates
    exact mergePatch_keepsEnd existing _
  | updateTaskStateByRunId params =>
    obtain ⟨current, hmem, rfl, rfl⟩ := hupdates
    have hall := List.all_eq_true.mp hguard current hmem
    simpa using hall
  | agentEvent event =>
    obtain ⟨current, hmem, hactive, rfl, now, rfl⟩ := hupdates
    have hlookup := hended.lookup_of_mem_tasksAt (mem_of_mem_getTasksByRunScope hmem)
    exact absurd rfl (hended.ne_of_active hlookup hactive)
  | updateTaskNotifyPolicyById =>
    obtain ⟨now, rfl⟩ := hupdates
    rfl
  | setTaskTimingById updated startedAt endedAt lastEventAt =>
    obtain ⟨rfl, rfl⟩ := hupdates
    simpa [respectsEnd, keepsEnd, Option.all_map, Function.comp_def] using hguard
  | markTaskTerminalById updated params
  | markTaskLostById updated endedAt lastEventAt error cleanupAfter =>
    obtain ⟨rfl, rfl⟩ := hupdates
    simpa [respectsEnd] using hguard
  | cancelSettles index killed =>
    cases killed with
    | false => exact hupdates.elim
    | true =>
      obtain ⟨cancel, hcancel, rfl, rfl⟩ := hupdates
      simpa [respectsEnd, hcancel] using hguard
  | setTaskProgressById | setTaskCleanupAfterById
  | setTaskRunDeliveryStatusByRunId =>
    rw [show patch = _ from hupdates]
    rfl
  | _ => exact hupdates.elim

theorem ended_step {next : World} {operation : Operation}
    (hguard : respectsEnd env world taskId ended operation = true)
    (hended : Ended env taskId ended world)
    (hstep : step env world operation = some next) :
    Ended env taskId ended next := by
  apply ended_whole.step_keeps hended _ _ _ _ _ hstep
  · rintro updated patch hupdates
    apply ended_updateTask
    rintro rfl
    exact updates_keepEnd hended hguard hupdates
  · rintro updated patch rfl
    apply EndsIn.of_keeps _ hended
    apply ended_updateTask
    rintro rfl
    simpa [respectsEnd] using hguard
  · intro params _ _
    apply ended_whole.addTaskRecord
    · exact (hended.withNewTask params).addIndexes _ _
    · exact fun _ _ => hended.withNewTask params
  · intro removed _
    apply EndsIn.of_keeps _ hended
    exact ended_blind.followed.deleteTaskRecordById fun _ _ hworld _ => hworld.withoutTask removed
  · exact fun flowId revision _ patch _ =>
      ended_blind.writesFlow flowId revision patch

/-- A task that has ended stays as it is in every run whose steps all meet the
condition. -/
theorem task_end_is_final {snapshot : Snapshot env}
    {before later : List Operation} {middle final : World} {task : TaskRecord}
    (hbefore : run (step env) (World.restore snapshot) before = some middle)
    (htask : middle.tasks.lookup taskId = some task)
    (hterminal : isTerminalTaskStatus task.status = true)
    (hguarded : LabelledMachine.Guarded (step env)
      (fun world operation => respectsEnd env world taskId task operation = true)
      middle later)
    (hlater : run (step env) middle later = some final)
    {last : TaskRecord} (hlast : final.tasks.lookup taskId = some last) :
    last.status = task.status ∧ last.endedAt = task.endedAt ∧
      last.terminalOutcome = task.terminalOutcome := by
  have htracked := tracked_run hbefore
  have hmiddle : Ended env taskId task middle := by
    refine ⟨htracked, hterminal, fun other hother => ?_, fun index hle heq => ?_⟩
    · rw [htask, Option.some.injEq] at hother
      subst hother
      exact ⟨rfl, rfl, rfl⟩
    · apply htracked.fresh index hle
      rw [heq]
      exact Entries.mem_keys_iff.mpr ⟨task, htask⟩
  have hfinal : Ended env taskId task final :=
    run_guarded_invariant (Ended env taskId task)
      (fun hworld hguard hstep => ended_step hguard hworld hstep)
      hmiddle hguarded hlater
  have hsame := hfinal.same last hlast
  exact ⟨hsame.status, hsame.endedAt, hsame.terminalOutcome⟩

def endedWord : List Operation :=
  [.createTaskRecord (sessionTask none), .markTaskTerminalById (plainUUID 0)
      { status := .succeeded
        endedAt := 5 }]

def lateWord : List Operation :=
  [.agentEvent
      { runId := js "run"
        sessionKey := none
        ts := 6
        stream := .lifecycle ⟨.error, none, some 6, false, none⟩ },
    .cancelTaskById (plainUUID 0),
    .updateTaskStateByRunId
      { runId := js "run"
        progressSummary := some (some (js "done")) }]

theorem ended_runs : (run (step calmEnv) (World.restore (emptySnapshot calmEnv))
      endedWord).isSome = true := by
  decide

def endedWorld : World := Option.get _ ended_runs

theorem late_runs : (run (step calmEnv) endedWorld lateWord).isSome = true := by
  decide

def lateWorld : World := Option.get _ late_runs

theorem ended_found : (endedWorld.tasks.lookup (plainUUID 0)).isSome = true := by
  decide

theorem late_found : (lateWorld.tasks.lookup (plainUUID 0)).isSome = true := by
  decide

theorem late_steps_respect_end : (Option.get _ late_found).status = .succeeded ∧
      (Option.get _ late_found).progressSummary = some (js "done") ∧
      (Option.get _ late_found).endedAt = (Option.get _ ended_found).endedAt := by
  have hguarded : LabelledMachine.Guarded (step calmEnv)
      (fun world operation => respectsEnd calmEnv world (plainUUID 0)
        (Option.get _ ended_found) operation = true) endedWorld lateWord := by
    decide
  have hsame := task_end_is_final (Option.eq_some_of_isSome ended_runs)
    (Option.eq_some_of_isSome ended_found) (by decide) hguarded
    (Option.eq_some_of_isSome late_runs) (Option.eq_some_of_isSome late_found)
  refine ⟨?_, by decide, hsame.2.1⟩
  rw [hsame.1]
  decide

theorem ended_task_fails :
    ¬ ∀ (env : TaskEnv) (snapshot : Snapshot env) (before later : List Operation)
      (middle final : World) (taskId : JsString) (task last : TaskRecord),
      run (step env) (World.restore snapshot) before = some middle →
      middle.tasks.lookup taskId = some task →
      isTerminalTaskStatus task.status = true →
      run (step env) middle later = some final →
      final.tasks.lookup taskId = some last → last.status = task.status := by
  intro hall
  have hstatus := hall calmEnv (emptySnapshot calmEnv) endedWord [.updateTaskStateByRunId
      { runId := js "run"
        status := some .failed }]
    _ _ (plainUUID 0) _ _ rfl rfl rfl rfl rfl
  revert hstatus
  decide

end LittleBaby.TaskRegistry
