import LittleBaby.TaskSteps

/-!
# The identifiers of tasks

A task is stored under its own identifier, and no identifier is given to a
second task, not even after the first one was deleted.
-/

namespace LittleBaby.TaskRegistry

open JsString Call Entries

variable {env : TaskEnv} {world : World} {taskId : JsString} {current next : TaskRecord}

theorem indexKeys_of_trim {old new : Option JsString}
    (htrim : old.map trim = new.map trim) : indexKeys old = indexKeys new := by
  have hkeys : ∀ value : Option JsString, indexKeys value =
      ((value.map trim).filter fun key => key ≠ []).toList := by
    intro value
    cases value with
    | none => rfl
    | some text =>
      simp only [indexKeys, normalizeOptionalString, Option.bind_some, nonBlank, Option.map_some]
      split_ifs with hblank
      · simp [hblank]
      · simp [Option.filter, hblank]
  rw [hkeys, hkeys, htrim]

structure Tracked (env : TaskEnv) (world : World) : Prop where
  nodup : (keys world.tasks).Nodup
  named : ∀ taskId task, world.tasks.lookup taskId = some task → task.taskId = taskId
  fresh : ∀ index, world.uuids ≤ index → env.randomUUID index ∉ keys world.tasks

theorem tracked_insensitive : Insensitive (Tracked env) := by
  intro world next hsame htracked
  constructor
  · rw [hsame.tasks]
    exact htracked.nodup
  · rw [hsame.tasks]
    exact htracked.named
  · intro index hle
    rw [hsame.tasks]
    exact htracked.fresh index (Nat.le_trans hsame.uuids hle)

theorem tracked_restore (snapshot : Snapshot env) : Tracked env (World.restore snapshot) :=
  ⟨snapshot.tasks_nodup, snapshot.tasks_named, fun index _ => snapshot.tasks_fresh index⟩

namespace Tracked

section

variable (htracked : Tracked env world)

include htracked

theorem lookup_fresh : world.tasks.lookup (env.randomUUID world.uuids) = none :=
  lookup_eq_none.mpr (htracked.fresh world.uuids (Nat.le_refl _))

theorem replaceTask (hlookup : world.tasks.lookup taskId = some current)
    (hnamed : next.taskId = current.taskId) (patch : TaskPatch) :
    Tracked env (world.replaceTask taskId patch current next) := by
  have hkeys : keys (set taskId next world.tasks) = keys world.tasks := keys_set_of_lookup hlookup
  constructor
  · rw [World.replaceTask_tasks, hkeys]
    exact htracked.nodup
  · intro searched task hfound
    rw [World.replaceTask_tasks] at hfound
    by_cases hsame : searched = taskId
    · subst hsame
      rw [lookup_set_self, Option.some.injEq] at hfound
      rw [← hfound, hnamed]
      exact htracked.named searched current hlookup
    · rw [lookup_set_of_ne hsame] at hfound
      exact htracked.named searched task hfound
  · intro index hle
    rw [World.replaceTask_tasks, hkeys]
    exact htracked.fresh index hle

theorem withoutTask : Tracked env (world.withoutTask taskId current) := by
  constructor
  · exact nodup_keys_erase htracked.nodup
  · intro searched task hfound
    apply htracked.named
    rw [World.withoutTask_tasks] at hfound
    by_cases hsame : searched = taskId
    · subst hsame
      simp at hfound
    · rwa [lookup_erase_of_ne hsame] at hfound
  · intro index hle hmem
    exact htracked.fresh index hle (mem_keys_of_mem_erase hmem)

theorem withNewTask (params : TaskCreateParams) : Tracked env (world.withNewTask env params) := by
  constructor
  · exact nodup_keys_set htracked.nodup
  · intro searched task hfound
    simp only [World.withNewTask] at hfound
    by_cases hsame : searched = env.randomUUID world.uuids
    · subst hsame
      rw [lookup_set_self, Option.some.injEq] at hfound
      rw [← hfound]
      rfl
    · rw [lookup_set_of_ne hsame] at hfound
      exact htracked.named searched task hfound
  · intro index hle hmem
    have hlt : world.uuids < index := hle
    rcases mem_keys_set.mp hmem with hsame | hold
    · have heq := env.randomUUID_injective hsame
      omega
    · exact htracked.fresh index (Nat.le_of_lt hlt) hold

theorem addIndexes (taskId : JsString)
    (record : TaskRecord) : Tracked env (world.addIndexes taskId record) :=
  ⟨htracked.nodup, htracked.named, htracked.fresh⟩

theorem lookup_of_mem_tasksAt {ids : Option (List JsString)} (hmem : current ∈ world.tasksAt ids) :
    world.tasks.lookup current.taskId = some current := by
  obtain ⟨searched, -, hlookup⟩ := List.mem_filterMap.mp hmem
  rwa [htracked.named searched current hlookup]

end

end Tracked

theorem mem_of_pickPreferredRunIdTask {found : List TaskRecord}
    (hpick : pickPreferredRunIdTask found = some current) : current ∈ found :=
  (List.perm_insertionSort preferredOrder found).mem_iff.mp (List.mem_of_mem_head? hpick)

variable {params : TaskCreateParams}

theorem findExistingTaskForCreate_some {ownerKey : JsString} {scopeKind : TaskScopeKind}
    (hfind : world.findExistingTaskForCreate params ownerKey scopeKind = some current) :
    (∃ runId, current ∈ world.getTasksByRunId runId) ∧
      orEmpty current.parentFlowId = orEmpty params.parentFlowId := by
  obtain ⟨runId, -, hfound⟩ := Option.bind_eq_some_iff.mp hfind
  have hmem : current ∈ (world.getTasksByRunId runId).filter fun task =>
      task.runtime = params.runtime && task.scopeKind = scopeKind &&
        orEmpty (some task.ownerKey) = orEmpty (some ownerKey) &&
        orEmpty task.childSessionKey = orEmpty params.childSessionKey &&
        orEmpty task.parentFlowId = orEmpty params.parentFlowId := by
    rcases Option.or_eq_some_iff.mp hfound with hexact | ⟨-, hpreferred⟩
    · exact List.mem_of_find?_eq_some hexact
    · split_ifs at hpreferred
      exact mem_of_pickPreferredRunIdTask hpreferred
  obtain ⟨hrun, hscope⟩ := List.mem_filter.mp hmem
  simp only [Bool.and_eq_true, decide_eq_true_eq] at hscope
  exact ⟨⟨runId, hrun⟩, hscope.2⟩

theorem Tracked.lookup_of_findExistingTaskForCreate (htracked : Tracked env world)
    {ownerKey : JsString} {scopeKind : TaskScopeKind}
    (hfind : world.findExistingTaskForCreate params ownerKey scopeKind = some current) :
    world.tasks.lookup current.taskId = some current := by
  obtain ⟨⟨runId, hrun⟩, -⟩ := findExistingTaskForCreate_some hfind
  exact htracked.lookup_of_mem_tasksAt hrun

theorem fillIn_of_same {value old : Option JsString}
    (hsame : orEmpty old = orEmpty value) : fillIn value old = none := by
  unfold fillIn
  split
  · next text hvalue hold =>
      obtain ⟨_, -, htext⟩ := Option.bind_eq_some_iff.mp hvalue
      rw [orEmpty, orEmpty, hvalue, hold] at hsame
      exact absurd hsame.symm (nonBlank_eq_some.mp htext).1
  · rfl

structure KeepsPlace (patch : TaskPatch) : Prop where
  runId : patch.runId = none
  parentFlowId : patch.parentFlowId = none

theorem World.Merges.keepsPlace {patch : TaskPatch}
    (hmerges : world.Merges params taskId patch) : KeepsPlace patch := by
  obtain ⟨existing, hfind, -, rfl⟩ := hmerges
  exact ⟨rfl, fillIn_of_same (findExistingTaskForCreate_some hfind).2⟩

theorem AgentEvent.patch_keepsPlace (event : AgentEvent) (now : ℤ)
    (current : TaskRecord) : KeepsPlace (event.patch now current) := by
  unfold AgentEvent.patch
  split
  · simp only
    split <;> exact ⟨rfl, rfl⟩
  · exact ⟨rfl, rfl⟩
  · exact ⟨rfl, rfl⟩

theorem updates_keepPlace {patch : TaskPatch} {operation : Operation}
    (hupdates : Updates env world taskId patch operation) : KeepsPlace patch := by
  cases operation with
  | createTaskRecord | createQueuedTaskRun | createRunningTaskRun =>
    exact World.Merges.keepsPlace hupdates
  | updateTaskStateByRunId params =>
    obtain ⟨current, -, -, rfl⟩ := hupdates
    exact ⟨rfl, rfl⟩
  | agentEvent event =>
    obtain ⟨current, -, -, -, now, rfl⟩ := hupdates
    exact event.patch_keepsPlace now current
  | updateTaskNotifyPolicyById =>
    obtain ⟨now, rfl⟩ := hupdates
    exact ⟨rfl, rfl⟩
  | setTaskTimingById | markTaskTerminalById | markTaskLostById =>
    obtain ⟨-, rfl⟩ := hupdates
    exact ⟨rfl, rfl⟩
  | cancelSettles index killed =>
    cases killed with
    | false => exact hupdates.elim
    | true =>
      obtain ⟨cancel, -, -, rfl⟩ := hupdates
      exact ⟨rfl, rfl⟩
  | setTaskProgressById | setTaskCleanupAfterById
  | setTaskRunDeliveryStatusByRunId =>
    rw [show patch = _ from hupdates]
    exact ⟨rfl, rfl⟩
  | _ => exact hupdates.elim

theorem mem_of_mem_getTasksByRunScope {runId : JsString}
    {runtime : Option TaskRuntime} {sessionKey : Option JsString}
    (hmem : current ∈ world.getTasksByRunScope runId runtime sessionKey) :
    current ∈ world.getTasksByRunId runId := by
  unfold World.getTasksByRunScope at hmem
  simp only at hmem
  split at hmem
  · split_ifs at hmem
    · exact List.mem_of_mem_filter (List.mem_of_mem_filter hmem)
    · exact List.mem_of_mem_filter (List.mem_of_mem_filter hmem)
  · split_ifs at hmem
    · exact List.mem_of_mem_filter hmem
    · contradiction

theorem tracked_blind : Blind (Tracked env) :=
  ⟨tracked_insensitive, fun _ _ htracked => ⟨htracked.nodup, htracked.named, htracked.fresh⟩⟩

theorem tracked_updateTask (taskId : JsString) (patch : TaskPatch) :
    Keeps (Tracked env) (updateTask env taskId patch) := by
  apply tracked_blind.followed.updateTask
  intro world current cleanupAfter htracked hlookup
  apply htracked.replaceTask hlookup
  rfl

theorem tracked_whole : Whole env (Tracked env) := by
  have hcancellable : Cancellable env (Tracked env) :=
    Cancellable.of_patches tracked_insensitive
      (fun taskId patch (_ : True) => tracked_updateTask taskId patch)
      (fun _ _ => trivial) (fun _ => trivial) fun _ _ => trivial
  exact hcancellable.whole tracked_blind fun _ _ => tracked_updateTask _ _

theorem tracked_step {next : World} {operation : Operation} (htracked : Tracked env world)
    (hstep : step env world operation = some next) : Tracked env next := by
  apply tracked_whole.step_keeps htracked _ _ _ _ _ hstep
  · exact fun taskId patch _ => tracked_updateTask taskId patch
  · exact fun taskId patch _ =>
      EndsIn.of_keeps (tracked_updateTask taskId patch) htracked
  · intro params _ _
    apply tracked_whole.addTaskRecord
    · exact (htracked.withNewTask params).addIndexes _ _
    · exact fun _ _ => htracked.withNewTask params
  · intro taskId _
    apply EndsIn.of_keeps _ htracked
    exact tracked_blind.followed.deleteTaskRecordById fun _ _ hworld _ => hworld.withoutTask
  · exact fun flowId revision _ patch _ =>
      tracked_blind.writesFlow flowId revision patch

theorem tracked_run {snapshot : Snapshot env} {operations : List Operation} {final : World}
    (hrun : LabelledMachine.run (step env) (World.restore snapshot) operations =
      some final) : Tracked env final :=
  LabelledMachine.run_invariant (Tracked env) tracked_step (tracked_restore snapshot) hrun

end LittleBaby.TaskRegistry
