import LittleBaby.TaskIdentities
import Mathlib.Data.List.Dedup

/-!
# The lookup indexes of the task registry

Every operation moves the four indexes along with the records, with two
exceptions: the write of a delivery state may throw before a new task is indexed,
and a patch that clears a run id does not rebuild the run ids.
-/

namespace LittleBaby.TaskRegistry

open JsString Call World InvertedIndex TaskRegistry

variable {env : TaskEnv} {world : World} {taskId : JsString}

structure Indexed (env : TaskEnv) (world : World) : Prop
    extends Tracked env world where
  runIds : InvertedIndex.Exact runIdKeys world.tasks world.taskIdsByRunId
  ownerKeys : InvertedIndex.Exact ownerKeys world.tasks world.taskIdsByOwnerKey
  parentFlowIds : InvertedIndex.Exact parentFlowIdKeys world.tasks world.taskIdsByParentFlowId
  sessionKeys : InvertedIndex.Exact getTaskRelatedSessionIndexKeys world.tasks
    world.taskIdsByRelatedSessionKey

theorem indexed_insensitive : Insensitive (Indexed env) := by
  intro world next hsame hindexed
  refine ⟨tracked_insensitive world next hsame hindexed.toTracked, ?_, ?_, ?_, ?_⟩
  · rw [hsame.tasks, hsame.runIds]
    exact hindexed.runIds
  · rw [hsame.tasks, hsame.ownerKeys]
    exact hindexed.ownerKeys
  · rw [hsame.tasks, hsame.parentFlowIds]
    exact hindexed.parentFlowIds
  · rw [hsame.tasks, hsame.sessionKeys]
    exact hindexed.sessionKeys

theorem indexed_flows (world : World) (flows : List (JsString × TaskFlowRecord))
    (hindexed : Indexed env world) : Indexed env { world with flows := flows } :=
  ⟨tracked_blind.flows world flows hindexed.toTracked, hindexed.runIds,
    hindexed.ownerKeys, hindexed.parentFlowIds, hindexed.sessionKeys⟩

theorem indexed_blind : Blind (Indexed env) := ⟨indexed_insensitive, indexed_flows⟩

theorem indexed_restore (snapshot : Snapshot env) : Indexed env (restore snapshot) where
  toTracked := tracked_restore snapshot
  runIds := exact_rebuild runIdKeys snapshot.tasks_nodup
  ownerKeys := exact_rebuild ownerKeys snapshot.tasks_nodup
  parentFlowIds := exact_rebuild parentFlowIdKeys snapshot.tasks_nodup
  sessionKeys := exact_rebuild getTaskRelatedSessionIndexKeys snapshot.tasks_nodup

def keepsRunId (patch : TaskPatch) (current : TaskRecord) : Bool :=
  match patch.runId with
  | none => true
  | some runId =>
    (orElse runId none).isSome || (normalizeOptionalString current.runId).isNone

variable {current next : TaskRecord} {patch : TaskPatch}

theorem runIdKeys_of_unchanged (hchange : changesRunId patch current = false)
    (hkeeps : keepsRunId patch current = true) (cleanupAfter : Option ℤ) :
    runIdKeys { current.apply patch with cleanupAfter := cleanupAfter } =
      runIdKeys current := by
  simp only [runIdKeys, TaskRecord.apply, indexKeys]
  rcases hrun : patch.runId with - | - | - | ⟨unit, rest⟩
  · rfl
  · simp only [keepsRunId, hrun, orElse, Option.isSome_none, Bool.false_or,
      Option.isNone_iff_eq_none] at hkeeps
    rw [hkeeps]
    rfl
  · simp only [keepsRunId, hrun, orElse, Option.isSome_none, Bool.false_or,
      Option.isNone_iff_eq_none] at hkeeps
    rw [hkeeps]
    rfl
  · simp only [changesRunId, hrun, decide_eq_false_iff_not, not_not] at hchange
    rw [← hchange]
    rfl

theorem keys_of_sameSessions (hsame : sessionIndexChanged current next = false) :
    ownerKeys next = ownerKeys current ∧ getTaskRelatedSessionIndexKeys next =
        getTaskRelatedSessionIndexKeys current := by
  simp only [sessionIndexChanged, Bool.or_eq_false_iff, decide_eq_false_iff_not, not_not] at hsame
  constructor
  · rw [ownerKeys, ownerKeys, indexKeys, indexKeys, hsame.1]
  · rw [getTaskRelatedSessionIndexKeys, getTaskRelatedSessionIndexKeys, indexKeys,
      indexKeys, indexKeys, indexKeys, hsame.1, hsame.2]

theorem Indexed.replaceTask (hindexed : Indexed env world)
    (hlookup : world.tasks.lookup taskId = some current)
    (hkeeps : keepsRunId patch current = true) (cleanupAfter : Option ℤ) :
    Indexed env (world.replaceTask taskId patch current
      { current.apply patch with cleanupAfter := cleanupAfter }) := by
  have htracked : Tracked env (world.replaceTask taskId patch current
      { current.apply patch with cleanupAfter := cleanupAfter }) := by
    apply hindexed.toTracked.replaceTask hlookup
    rfl
  refine ⟨htracked, ?_, ?_, ?_, ?_⟩
  · simp only [World.replaceTask]
    split_ifs with hchange
    · exact InvertedIndex.exact_rebuild runIdKeys htracked.nodup
    · apply hindexed.runIds.keep hlookup
      intro key
      rw [runIdKeys_of_unchanged (by simpa using hchange) hkeeps]
  · simp only [World.replaceTask]
    split_ifs with hchange
    · exact hindexed.ownerKeys.update hlookup _
    · have hsame := keys_of_sameSessions (by simpa using hchange)
      apply hindexed.ownerKeys.keep hlookup
      intro key
      rw [hsame.1]
  · simp only [World.replaceTask]
    split_ifs with hchange
    · exact hindexed.parentFlowIds.update hlookup _
    · simp only [parentFlowIndexChanged, decide_eq_true_eq, not_not] at hchange
      apply hindexed.parentFlowIds.keep hlookup
      intro key
      rw [parentFlowIdKeys, parentFlowIdKeys, indexKeys_of_trim hchange]
  · simp only [World.replaceTask]
    split_ifs with hchange
    · exact hindexed.sessionKeys.update hlookup _
    · have hsame := keys_of_sameSessions (by simpa using hchange)
      apply hindexed.sessionKeys.keep hlookup
      intro key
      rw [hsame.2]

theorem indexed_updateTask (hnone : patch.runId = none) :
    Keeps (Indexed env) (updateTask env taskId patch) := by
  apply indexed_blind.followed.updateTask
  intro world current cleanupAfter hindexed hlookup
  apply hindexed.replaceTask hlookup
  rw [keepsRunId, hnone]

theorem indexed_whole : Whole env (Indexed env) := by
  have hcancellable : Cancellable env (Indexed env) :=
    Cancellable.of_patches indexed_insensitive
      (fun _ _ hnone => indexed_updateTask hnone) (fun _ _ => rfl)
      (fun _ => rfl) fun _ _ => rfl
  exact hcancellable.whole indexed_blind fun _ _ => indexed_updateTask rfl

theorem Indexed.withoutTask (hindexed : Indexed env world)
    (hlookup : world.tasks.lookup taskId = some current) :
    Indexed env (world.withoutTask taskId current) where
  toTracked := hindexed.toTracked.withoutTask
  runIds := exact_rebuild runIdKeys hindexed.toTracked.withoutTask.nodup
  ownerKeys := hindexed.ownerKeys.delete hlookup
  parentFlowIds := hindexed.parentFlowIds.delete hlookup
  sessionKeys := hindexed.sessionKeys.delete hlookup

theorem Indexed.withNewTask (hindexed : Indexed env world) (params : TaskCreateParams) :
    Indexed env ((world.withNewTask env params).addIndexes
      (env.randomUUID world.uuids) (world.newRecord env params)) where
  toTracked := (hindexed.toTracked.withNewTask params).addIndexes _ _
  runIds := hindexed.runIds.insert hindexed.lookup_fresh _
  ownerKeys := hindexed.ownerKeys.insert hindexed.lookup_fresh _
  parentFlowIds := hindexed.parentFlowIds.insert hindexed.lookup_fresh _
  sessionKeys := hindexed.sessionKeys.insert hindexed.lookup_fresh _

def isUnindexed (task : TaskRecord) : Bool :=
  runIdKeys task = [] && ownerKeys task = [] && parentFlowIdKeys task = [] &&
    getTaskRelatedSessionIndexKeys task = []

theorem addIndexes_of_isUnindexed {record : TaskRecord}
    (hrecord : isUnindexed record = true) (taskId : JsString) (world : World) :
    world.addIndexes taskId record = world := by
  simp only [isUnindexed, Bool.and_eq_true, decide_eq_true_eq] at hrecord
  obtain ⟨⟨⟨hrun, howner⟩, hparent⟩, hsession⟩ := hrecord
  simp [addIndexes, hrun, howner, hparent, hsession, addAll]

variable (env) in
def World.storesNewTask (world : World) (params : TaskCreateParams) : Bool :=
  !env.storeThrows world.writes || !world.writesDeliveryState env (env.randomUUID world.uuids)
      (params.requesterOrigin.bind env.normalizeDeliveryContext) none ||
    isUnindexed (world.newRecord env params)

theorem Indexed.addTaskRecord (hindexed : Indexed env world) {params : TaskCreateParams}
    (hstores : world.storesNewTask env params = true) :
    EndsIn (Indexed env) (addTaskRecord env params) world := by
  have hadded := hindexed.withNewTask params
  apply indexed_whole.addTaskRecord hadded
  intro hwrites hthrows
  have hunindexed : isUnindexed (world.newRecord env params) = true := by
    simp only [storesNewTask, Bool.or_eq_true,
      Bool.not_eq_eq_eq_not, Bool.not_true] at hstores
    rcases hstores with (hstored | hskipped) | hunindexed
    · exact absurd (hstored.symm.trans hthrows) Bool.false_ne_true
    · exact absurd (hskipped.symm.trans hwrites) Bool.false_ne_true
    · exact hunindexed
  rwa [addIndexes_of_isUnindexed hunindexed] at hadded

/-- The condition on an operation under which the indexes stay exact. -/
def keepsIndexes (env : TaskEnv) (world : World) (operation : Operation) : Bool :=
  match operation with
  | .updateTask taskId patch =>
    (world.tasks.lookup taskId).all fun current => keepsRunId patch current
  | operation =>
    operation.created.all fun params =>
      !world.addsTask params || world.storesNewTask env params

theorem indexed_step {next : World} {operation : Operation}
    (hguard : keepsIndexes env world operation = true)
    (hindexed : Indexed env world)
    (hstep : step env world operation = some next) : Indexed env next := by
  apply indexed_whole.step_keeps hindexed _ _ _ _ _ hstep
  · intro taskId patch hupdates
    exact indexed_updateTask (updates_keepPlace hupdates).runId
  · rintro taskId patch rfl
    have hmeets : Meets (fun state => Indexed env state ∧
          state.tasks.lookup taskId = world.tasks.lookup taskId)
        (updateTask env taskId patch) (fun _ => Indexed env) (Indexed env) := by
      apply indexed_blind.followed.updateTask_of
      · rintro state later hsame ⟨hstate, hlookup⟩
        exact ⟨indexed_insensitive state later hsame hstate, hsame.tasks ▸ hlookup⟩
      · exact fun state hstate => hstate.1
      · rintro state current cleanupAfter ⟨hstate, hlookup⟩ hcurrent
        apply hstate.replaceTask hcurrent
        simpa [keepsIndexes, ← hlookup, hcurrent] using hguard
    exact hmeets.endsIn ⟨hindexed, rfl⟩
  · intro params hcreated hadds
    apply hindexed.addTaskRecord
    unfold keepsIndexes at hguard
    split at hguard
    · contradiction
    · simpa [hcreated, hadds] using hguard
  · intro taskId _
    apply EndsIn.of_keeps _ hindexed
    exact indexed_blind.followed.deleteTaskRecordById
      fun _ _ hworld hlookup => hworld.withoutTask hlookup
  · exact fun flowId revision _ patch _ =>
      indexed_blind.writesFlow flowId revision patch

def World.tasksWithKey (world : World) (keysOf : TaskRecord → List JsString)
    (key : JsString) : List TaskRecord :=
  (world.tasks.map Prod.snd).filter fun task => key ∈ keysOf task

def FindsIn (found : Option TaskRecord) (matching : List TaskRecord) : Prop :=
  (∀ task, found = some task → task ∈ matching) ∧ (found = none → matching = [])

structure ExactLookups (world : World) : Prop where
  runIds : InvertedIndex.Exact runIdKeys world.tasks world.taskIdsByRunId
  ownerKeys : InvertedIndex.Exact ownerKeys world.tasks world.taskIdsByOwnerKey
  parentFlowIds : InvertedIndex.Exact parentFlowIdKeys world.tasks world.taskIdsByParentFlowId
  sessionKeys : InvertedIndex.Exact getTaskRelatedSessionIndexKeys world.tasks
    world.taskIdsByRelatedSessionKey
  getTasksByRunId : ∀ runId, (world.getTasksByRunId runId).Perm
    (world.tasksWithKey runIdKeys (trim runId))
  findTaskByRunId : ∀ runId, FindsIn (world.findTaskByRunId runId)
    (world.tasksWithKey runIdKeys (trim runId))
  listTasksForOwnerKey : ∀ ownerKey, (world.listTasksForOwnerKey ownerKey).Perm
    (world.tasksWithKey TaskRegistry.ownerKeys (trim ownerKey))
  findLatestTaskForOwnerKey : ∀ ownerKey, FindsIn (world.findLatestTaskForOwnerKey ownerKey)
      (world.tasksWithKey TaskRegistry.ownerKeys (trim ownerKey))
  listTasksForFlowId : ∀ flowId, (world.listTasksForFlowId flowId).Perm
    (world.tasksWithKey parentFlowIdKeys (trim flowId))
  findLatestTaskForFlowId : ∀ flowId, FindsIn (world.findLatestTaskForFlowId flowId)
      (world.tasksWithKey parentFlowIdKeys (trim flowId))
  listTasksForSessionKey : ∀ sessionKey, (world.listTasksForSessionKey sessionKey).Perm
      (world.tasksWithKey getTaskRelatedSessionIndexKeys (trim sessionKey))
  findLatestTaskForSessionKey : ∀ sessionKey, FindsIn (world.findLatestTaskForSessionKey sessionKey)
      (world.tasksWithKey getTaskRelatedSessionIndexKeys (trim sessionKey))

theorem findsIn_head {found matching : List TaskRecord}
    (hperm : found.Perm matching) : FindsIn found.head? matching := by
  constructor
  · intro task hhead
    exact hperm.mem_iff.mp (List.mem_of_mem_head? hhead)
  · intro hnone
    rw [List.head?_eq_none_iff] at hnone
    subst hnone
    exact hperm.symm.eq_nil

theorem nil_not_mem_indexKeys (value : Option JsString) : [] ∉ indexKeys value := by
  intro hmem
  rw [indexKeys, Option.mem_toList] at hmem
  obtain ⟨text, -, htext⟩ := Option.bind_eq_some_iff.mp hmem
  exact (nonBlank_eq_some.mp htext).1 rfl

theorem listTasksFromIndex_perm {keysOf : TaskRecord → List JsString}
    {index : KeyIndex} (hindexed : Indexed env world)
    (hexact : InvertedIndex.Exact keysOf world.tasks index)
    (hkeys : ∀ task, [] ∉ keysOf task) (key : JsString) :
    (world.listTasksFromIndex index (nonBlank key)).Perm
      (world.tasksWithKey keysOf (trim key)) := by
  have hfound : ∀ ids : List JsString, (ids.zipIdx.filterMap fun entry =>
        (world.tasks.lookup entry.1).map fun task => (task, entry.2)).map Prod.fst =
          ids.filterMap fun taskId => world.tasks.lookup taskId := by
    intro ids
    conv_rhs => rw [← List.zipIdx_map_fst 0 ids, List.filterMap_map]
    rw [List.map_filterMap]
    simp [Function.comp_def]
  refine ((List.perm_insertionSort _ _).map Prod.fst).trans ?_
  rw [hfound]
  by_cases hblank : trim key = []
  · have hnone : nonBlank key = none := by
      simp [nonBlank, hblank]
    have hempty : world.tasksWithKey keysOf (trim key) = [] := by
      rw [tasksWithKey, List.filter_eq_nil_iff]
      intro task _
      simp [hblank, hkeys task]
    simp [hnone, hempty]
  · have hsome : nonBlank key = some (trim key) := by
      simp [nonBlank, hblank]
    rw [hsome]
    exact hexact.lookup_perm hindexed.nodup (trim key)

theorem Indexed.exactLookups (hindexed : Indexed env world) :
    ExactLookups world := by
  have hruns : ∀ runId, (world.getTasksByRunId runId).Perm
      (world.tasksWithKey runIdKeys (trim runId)) :=
    fun runId => hindexed.runIds.lookup_perm hindexed.nodup (trim runId)
  have howners : ∀ ownerKey, (world.listTasksForOwnerKey ownerKey).Perm
      (world.tasksWithKey TaskRegistry.ownerKeys (trim ownerKey)) :=
    listTasksFromIndex_perm hindexed hindexed.ownerKeys fun _ => nil_not_mem_indexKeys _
  have hflows : ∀ flowId, (world.listTasksForFlowId flowId).Perm
      (world.tasksWithKey parentFlowIdKeys (trim flowId)) :=
    listTasksFromIndex_perm hindexed hindexed.parentFlowIds fun _ => nil_not_mem_indexKeys _
  have hsessions : ∀ sessionKey, (world.listTasksForSessionKey sessionKey).Perm
      (world.tasksWithKey getTaskRelatedSessionIndexKeys (trim sessionKey)) := by
    apply listTasksFromIndex_perm hindexed hindexed.sessionKeys
    intro task hmem
    rw [getTaskRelatedSessionIndexKeys, List.mem_dedup, List.mem_append] at hmem
    exact hmem.elim (nil_not_mem_indexKeys _) (nil_not_mem_indexKeys _)
  have hpreferred : ∀ runId, FindsIn (world.findTaskByRunId runId)
      (world.tasksWithKey runIdKeys (trim runId)) :=
    fun runId => findsIn_head ((List.perm_insertionSort preferredOrder _).trans (hruns runId))
  exact
    { runIds := hindexed.runIds
      ownerKeys := hindexed.ownerKeys
      parentFlowIds := hindexed.parentFlowIds
      sessionKeys := hindexed.sessionKeys
      getTasksByRunId := hruns
      findTaskByRunId := hpreferred
      listTasksForOwnerKey := howners
      findLatestTaskForOwnerKey := fun key => findsIn_head (howners key)
      listTasksForFlowId := hflows
      findLatestTaskForFlowId := fun key => findsIn_head (hflows key)
      listTasksForSessionKey := hsessions
      findLatestTaskForSessionKey := fun key => findsIn_head (hsessions key) }

/-- The indexes are exact in every run whose steps all meet the condition. -/
theorem indexes_exact {snapshot : Snapshot env} {operations : List Operation} {final : World}
    (hguarded : LabelledMachine.Guarded (step env)
      (fun world operation => keepsIndexes env world operation = true)
      (restore snapshot) operations)
    (hrun : LabelledMachine.run (step env) (restore snapshot) operations =
      some final) : ExactLookups final := by
  have hindexed : Indexed env final :=
    LabelledMachine.run_guarded_invariant (Indexed env)
      (fun hworld hguard hstep => indexed_step hguard hworld hstep)
      (indexed_restore snapshot) hguarded hrun
  exact hindexed.exactLookups

def linkedWord : List Operation :=
  [.createTaskRecord (sessionTask (some directOrigin)), .createTaskRecord (sessionTask none),
    .createFlowRecord
      { syncMode := some .taskMirrored
        ownerKey := js "main"
        goal := js "goal" },
    .linkTaskToFlowById (plainUUID 0) (plainUUID 1),
    .updateTask (plainUUID 0) { runId := some (some (js "other")) }]

theorem linked_runs : (LabelledMachine.run (step calmEnv) (restore (emptySnapshot calmEnv))
      linkedWord).isSome = true := by
  decide

def linkedEnd : World := Option.get _ linked_runs

theorem linked_indexes_exact : linkedEnd.taskIdsByRunId = [(js "other", [plainUUID 0])] ∧
      ExactLookups linkedEnd := by
  have hguarded : LabelledMachine.Guarded (step calmEnv)
      (fun world operation => keepsIndexes calmEnv world operation = true)
      (restore (emptySnapshot calmEnv)) linkedWord := by
    decide
  constructor
  · decide
  · exact indexes_exact hguarded (Option.eq_some_of_isSome linked_runs)

/-- The first write of the store throws: the new task is in the table and in
no index. -/
theorem unindexed_task : ¬ ∀ (env : TaskEnv) (snapshot : Snapshot env) (operations : List Operation)
      (final : World),
      LabelledMachine.run (step env) (World.restore snapshot) operations =
        some final → ExactLookups final := by
  intro hall
  have hlookups := hall (plainEnv fun write => write = 0) (emptySnapshot _)
    [.createTaskRecord (sessionTask (some directOrigin))] _ rfl
  have hlength := (hlookups.listTasksForOwnerKey (js "main")).length_eq
  revert hlength
  decide

end LittleBaby.TaskRegistry
