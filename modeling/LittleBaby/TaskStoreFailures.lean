import LittleBaby.TaskSteps

/-!
# Writes that the store refuses

Every operation changes the memory first and writes to the store then.  A
write that throws ends the operation, and nothing takes the change back.
-/

namespace LittleBaby.TaskRegistry

open JsString Call

inductive RegistryWrite
  | createTask (params : TaskCreateParams)
  | updateTask (taskId : JsString) (patch : TaskPatch)
  | deleteTask (taskId : JsString)
  | createFlow (params : CreateFlowRecordParams)
  | updateFlow (flowId : JsString) (expectedRevision : ℕ) (patch : FlowRecordPatch)
  | deleteFlow (flowId : JsString)

variable (env : TaskEnv)

def RegistryWrite.call : RegistryWrite → RegistryCall Unit
  | .createTask params => do let _ ← createTaskRecord env params
  | .updateTask taskId patch => do
      let _ ← TaskRegistry.updateTask env taskId patch
  | .deleteTask taskId => deleteTaskRecordById env taskId
  | .createFlow params => do let _ ← createFlowRecord env params
  | .updateFlow flowId expectedRevision patch => do
      let _ ← updateFlowRecordByIdExpectedRevision env flowId expectedRevision patch
  | .deleteFlow flowId => deleteTaskFlowRecordById env flowId

/-- The maps of both registries. -/
structure Memory where
  tasks : List (JsString × TaskRecord)
  taskDeliveryStates : List (JsString × TaskDeliveryState)
  indexes : List KeyIndex
  flows : List (JsString × TaskFlowRecord)

def World.memory (world : World) : Memory where
  tasks := world.tasks
  taskDeliveryStates := world.taskDeliveryStates
  indexes := [world.taskIdsByRunId, world.taskIdsByOwnerKey,
    world.taskIdsByParentFlowId, world.taskIdsByRelatedSessionKey]
  flows := world.flows

/-- The origin of a repeated `create` is remembered. -/
def World.remembering (world : World) (existing : TaskRecord) (params : TaskCreateParams) : World :=
  let current := world.taskDeliveryStates.lookup existing.taskId
  let requesterOrigin := params.requesterOrigin.bind env.normalizeDeliveryContext
  if requesterOrigin.isSome && (current.bind TaskDeliveryState.requesterOrigin).isNone then
    world.withDeliveryState env existing.taskId requesterOrigin
      (current.bind TaskDeliveryState.lastNotifiedEventAt)
  else world

def World.Updated (world : World) (taskId : JsString) (patch : TaskPatch) (after : World) : Prop :=
  ∃ current next, world.tasks.lookup taskId = some current ∧
    (withRetention env (current.apply patch) world).1 = .ok next ∧
    after.memory = (world.replaceTask taskId patch current next).memory

structure World.Added (world : World) (params : TaskCreateParams)
    (added after : World) : Prop where
  tasks : after.tasks = (world.withNewTask env params).tasks
  taskDeliveryStates : after.taskDeliveryStates = added.taskDeliveryStates
  flows : after.flows = world.flows
  indexed : ¬(world.writesDeliveryState env (env.randomUUID world.uuids)
      (params.requesterOrigin.bind env.normalizeDeliveryContext) none = true ∧
        env.storeThrows world.writes = true) →
    after.memory = (added.addIndexes (env.randomUUID world.uuids)
      (world.newRecord env params)).memory

def RegistryWrite.LeftInMemory (world after : World) : RegistryWrite → Prop
  | .createTask params =>
    (∃ existing, world.findExistingTaskForCreate params
        (resolveTaskOwnerKey params) (resolveTaskScopeKind params) = some existing ∧
      (after.memory = (world.remembering env existing params).memory ∨
        (world.remembering env existing params).Updated env existing.taskId
          (mergePatch existing params) after)) ∨
    world.Added env params ((world.withNewTask env params).withDeliveryState
      env (env.randomUUID world.uuids)
      (params.requesterOrigin.bind env.normalizeDeliveryContext) none) after
  | .updateTask taskId patch => world.Updated env taskId patch after
  | .deleteTask taskId => ∃ current, world.tasks.lookup taskId = some current ∧
      after.memory = (world.withoutTask taskId current).memory
  | .createFlow params => ∃ controllerId ownerKey now,
      after.memory = { world.memory with
        flows := Entries.set (env.randomUUID world.uuids)
          (buildFlowRecord params controllerId (env.randomUUID world.uuids)
            ownerKey now) world.flows }
  | .updateFlow flowId expectedRevision patch =>
    ∃ current next, world.flows.lookup flowId = some current ∧ current.revision = expectedRevision ∧
      (applyFlowPatch env current patch world).1 = .ok next ∧
      after.memory = { world.memory with
        flows := Entries.set next.flowId next world.flows }
  | .deleteFlow flowId => (world.flows.lookup flowId).isSome = true ∧
      after.memory = { world.memory with
        flows := Entries.erase flowId world.flows }

variable {env} {world after : World}

theorem memory_of_persist (hcall : persist env world = (.error .store, after)) :
    after.memory = world.memory := by
  rw [persist_eq] at hcall
  cases (Prod.mk.inj hcall).2
  rfl

def Quiet {Value : Type} (call : RegistryCall Value) : Prop :=
  ∀ world, (call world).1 ≠ .error .store ∧
    ∃ readings, (call world).2 = { world with readings := readings }

namespace Quiet

variable {Value Result : Type} {call : RegistryCall Value}
  {continuation : Value → RegistryCall Result}

theorem pure (value : Value) : Quiet (Pure.pure value : RegistryCall Value) :=
  fun world => ⟨by simp [Pure.pure], world.readings, rfl⟩

theorem fail {failure : TaskFailure} (hfailure : failure ≠ .store) :
    Quiet (Call.fail failure : RegistryCall Value) :=
  fun world => ⟨by simpa [Call.fail] using hfailure, world.readings, rfl⟩

theorem bind (hcall : Quiet call) (hcontinuation : ∀ value,
    Quiet (continuation value)) : Quiet (call >>= continuation) := by
  intro world
  obtain ⟨hstore, readings, hsame⟩ := hcall world
  rcases hcalled : call world with ⟨failure | value, middle⟩
  · rw [hcalled] at hstore hsame
    simp only [Bind.bind, hcalled]
    exact ⟨by simpa using hstore, readings, hsame⟩
  · rw [hcalled] at hsame
    cases hsame
    simp only [Bind.bind, hcalled]
    exact hcontinuation value _

theorem orNow (first : Option ℤ) : Quiet (orNow env first) := by
  cases first with
  | some time => exact Quiet.pure time
  | none =>
    intro world
    exact ⟨by simp [TaskRegistry.orNow, dateNow, Bind.bind, Call.read, Call.change, Pure.pure],
      world.readings + 1, rfl⟩

theorem withRetention (task : TaskRecord) : Quiet (withRetention env task) := by
  unfold TaskRegistry.withRetention
  split_ifs
  · exact (Quiet.orNow _).bind fun _ => Quiet.pure _
  · exact Quiet.pure _

theorem resolveControllerId (syncMode : TaskFlowSyncMode) (controllerId : Option JsString) :
    Quiet (resolveControllerId syncMode controllerId) := by
  cases syncMode with
  | taskMirrored => exact Quiet.pure _
  | managed =>
    apply Quiet.bind _ fun _ => Quiet.pure _
    unfold assertControllerId
    split
    · exact Quiet.fail (by simp)
    · exact Quiet.pure _

theorem assertFlowOwnerKey (ownerKey : JsString) : Quiet (assertFlowOwnerKey ownerKey) := by
  unfold TaskRegistry.assertFlowOwnerKey
  split
  · exact Quiet.fail (by simp)
  · exact Quiet.pure _

theorem applyFlowPatch (current : TaskFlowRecord) (patch : FlowRecordPatch) :
    Quiet (applyFlowPatch env current patch) := by
  apply (Quiet.resolveControllerId _ _).bind
  exact fun _ => (Quiet.orNow _).bind fun _ => Quiet.pure _

theorem rest_fails (hcall : Quiet call)
    (hfails : (call >>= continuation) world = (.error .store, after)) :
    ∃ value readings, call world = (.ok value, { world with readings := readings }) ∧
      continuation value { world with readings := readings } = (.error .store, after) := by
  obtain ⟨hstore, readings, hsame⟩ := hcall world
  rcases bind_eq_error hfails with hcalled | ⟨value, middle, hcalled, hrest⟩
  · rw [hcalled] at hstore
    exact absurd rfl hstore
  · rw [hcalled] at hsame
    cases hsame
    exact ⟨value, readings, hcalled, hrest⟩

end Quiet

theorem error_of_bind_pure {Value Result : Type} {call : RegistryCall Value}
    {result : Value → Result} {failure : TaskFailure}
    (hcall : (call >>= fun value => pure (result value)) world =
      (.error failure, after)) : call world = (.error failure, after) := by
  rcases bind_eq_error hcall with hcall | ⟨_, _, _, hreturn⟩
  · exact hcall
  · cases hreturn

theorem writeFlowRecord_error {next : TaskFlowRecord}
    (hcall : writeFlowRecord env next world = (.error .store, after)) :
    after.memory = { world.memory with
      flows := Entries.set next.flowId next world.flows } := by
  rcases bind_eq_error hcall with hchange | ⟨_, _, hchange, hwrite⟩
  · cases hchange
  · cases hchange
    exact memory_of_persist (error_of_bind_pure hwrite)

theorem createFlow_left {params : CreateFlowRecordParams}
    (hcall : createFlowRecord env params world = (.error .store, after)) :
    (RegistryWrite.createFlow params).LeftInMemory env world after := by
  obtain ⟨now, _, -, hcall⟩ := (Quiet.orNow _).rest_fails hcall
  obtain ⟨controllerId, _, -, hcall⟩ := (Quiet.resolveControllerId _ _).rest_fails hcall
  rcases bind_eq_error hcall with huuid | ⟨flowId, _, huuid, hcall⟩
  · cases huuid
  · cases huuid
    obtain ⟨ownerKey, _, -, hcall⟩ := (Quiet.assertFlowOwnerKey _).rest_fails hcall
    exact ⟨controllerId, ownerKey, now, writeFlowRecord_error hcall⟩

theorem updateFlow_left {flowId : JsString} {expectedRevision : ℕ} {patch : FlowRecordPatch}
    (hcall : updateFlowRecordByIdExpectedRevision env flowId expectedRevision
      patch world = (.error .store, after)) :
    (RegistryWrite.updateFlow flowId expectedRevision patch).LeftInMemory env world after := by
  simp only [updateFlowRecordByIdExpectedRevision, read_bind_eq] at hcall
  cases hfound : world.getTaskFlowById flowId with
  | none =>
    simp only [hfound] at hcall
    cases hcall
  | some current =>
    simp only [hfound] at hcall
    split_ifs at hcall with hrevision
    · cases hcall
    · obtain ⟨next, readings, hnext, hcall⟩ := (Quiet.applyFlowPatch current patch).rest_fails hcall
      have hmemory := writeFlowRecord_error (error_of_bind_pure hcall)
      exact ⟨current, next, hfound, not_not.mp hrevision, congrArg Prod.fst hnext, hmemory⟩

theorem deleteFlow_left {flowId : JsString}
    (hcall : deleteTaskFlowRecordById env flowId world = (.error .store, after)) :
    (RegistryWrite.deleteFlow flowId).LeftInMemory env world after := by
  simp only [deleteTaskFlowRecordById, read_bind_eq] at hcall
  cases hfound : world.getTaskFlowById flowId with
  | none =>
    simp only [hfound] at hcall
    cases hcall
  | some current =>
    simp only [hfound, change_bind_eq] at hcall
    exact ⟨Option.isSome_iff_exists.mpr ⟨current, hfound⟩, memory_of_persist hcall⟩

theorem withRetention_writes (task : TaskRecord) (world : World) (writes : ℕ) :
    (withRetention env task { world with writes := writes }).1 =
      (withRetention env task world).1 := by
  unfold withRetention
  split_ifs
  · cases task.endedAt.or task.lastEventAt <;> rfl
  · rfl

variable {taskId : JsString}

theorem updateTask_left {patch : TaskPatch}
    (hcall : updateTask env taskId patch world = (.error .store, after)) :
    world.Updated env taskId patch after := by
  simp only [updateTask, read_bind_eq] at hcall
  cases hfound : world.tasks.lookup taskId with
  | none =>
    simp only [hfound] at hcall
    cases hcall
  | some current =>
    simp only [hfound] at hcall
    obtain ⟨next, readings, hnext, hcall⟩ := (Quiet.withRetention _).rest_fails hcall
    rw [change_bind_eq] at hcall
    refine ⟨current, next, hfound, congrArg Prod.fst hnext, ?_⟩
    rcases bind_eq_error hcall with hpersist | ⟨_, _, _, hcall⟩
    · have hmemory := memory_of_persist hpersist
      exact hmemory
    rcases bind_eq_error hcall with hsync | ⟨_, _, _, hcall⟩
    · exact absurd hsync attempt_ne_error
    · exact absurd (error_of_bind_pure hcall) attempt_ne_error

theorem deleteTask_left (hcall : deleteTaskRecordById env taskId world = (.error .store, after)) :
    (RegistryWrite.deleteTask taskId).LeftInMemory env world after := by
  simp only [deleteTaskRecordById, read_bind_eq] at hcall
  cases hfound : world.tasks.lookup taskId with
  | none =>
    simp only [hfound] at hcall
    cases hcall
  | some current =>
    simp only [hfound, change_bind_eq] at hcall
    refine ⟨current, hfound, ?_⟩
    rcases bind_eq_error hcall with hpersist | ⟨_, middle, hpersist, hcall⟩
    · exact memory_of_persist hpersist
    · rw [persist_eq] at hpersist
      cases (Prod.mk.inj hpersist).2
      have hmemory := memory_of_persist hcall
      exact hmemory

section

variable (taskId : JsString) (requesterOrigin : Option DeliveryContext)
  (lastNotifiedEventAt : Option ℤ)

theorem withDeliveryState_tasks : (world.withDeliveryState env taskId
    requesterOrigin lastNotifiedEventAt).tasks = world.tasks := by
  unfold World.withDeliveryState
  split_ifs <;> rfl

theorem withDeliveryState_flows : (world.withDeliveryState env taskId
    requesterOrigin lastNotifiedEventAt).flows = world.flows := by
  unfold World.withDeliveryState
  split_ifs <;> rfl

theorem withDeliveryState_writes : (world.withDeliveryState env taskId
    requesterOrigin lastNotifiedEventAt).writes = world.writes := by
  unfold World.withDeliveryState
  split_ifs <;> rfl

end

theorem upsertTaskDeliveryState_leaves
    {requesterOrigin : Option DeliveryContext} {lastNotifiedEventAt : Option ℤ}
    {result : Except TaskFailure Unit}
    (hcall : upsertTaskDeliveryState env taskId requesterOrigin
      lastNotifiedEventAt world = (result, after)) :
    (∃ writes, after = { world.withDeliveryState env taskId requesterOrigin
        lastNotifiedEventAt with writes := writes }) ∧
      (result = .error .store → world.writesDeliveryState env taskId
        requesterOrigin lastNotifiedEventAt = true ∧ env.storeThrows world.writes = true) := by
  rw [upsertTaskDeliveryState_eq] at hcall
  split_ifs at hcall with hwrites
  · rw [persist_eq, withDeliveryState_writes] at hcall
    cases hcall
    refine ⟨⟨_, rfl⟩, fun hresult => ⟨hwrites, ?_⟩⟩
    by_contra hthrows
    rw [if_neg hthrows] at hresult
    cases hresult
  · cases hcall
    refine ⟨⟨world.writes, ?_⟩, fun hresult => nomatch hresult⟩
    rw [World.withDeliveryState, if_neg hwrites]

variable {params : TaskCreateParams}

theorem addTask_left (hcall : addTaskRecord env params world = (.error .store, after)) :
    world.Added env params ((world.withNewTask env params).withDeliveryState
      env (env.randomUUID world.uuids)
      (params.requesterOrigin.bind env.normalizeDeliveryContext) none) after := by
  change (upsertTaskDeliveryState env (env.randomUUID world.uuids)
    (params.requesterOrigin.bind env.normalizeDeliveryContext) none >>= _)
      (world.withNewTask env params) = _ at hcall
  rcases bind_eq_error hcall with hupsert | ⟨_, middle, hupsert, hcall⟩
  · obtain ⟨⟨writes, rfl⟩, hthrows⟩ := upsertTaskDeliveryState_leaves hupsert
    constructor
    case tasks => exact withDeliveryState_tasks _ _ _
    case taskDeliveryStates => rfl
    case flows => exact withDeliveryState_flows _ _ _
    case indexed => exact fun hwritten => absurd (hthrows rfl) hwritten
  · obtain ⟨⟨writes, rfl⟩, -⟩ := upsertTaskDeliveryState_leaves hupsert
    rw [change_bind_eq] at hcall
    have hmemory : after.memory = (((world.withNewTask env params).withDeliveryState
        env (env.randomUUID world.uuids)
        (params.requesterOrigin.bind env.normalizeDeliveryContext)
          none).addIndexes (env.randomUUID world.uuids) (world.newRecord env params)).memory := by
      rcases bind_eq_error hcall with hpersist | ⟨_, _, _, hcall⟩
      · have hmemory := memory_of_persist hpersist
        exact hmemory
      rcases bind_eq_error hcall with hsync | ⟨_, _, _, hcall⟩
      · exact absurd hsync attempt_ne_error
      have hdeliver := error_of_bind_pure hcall
      unfold deliverIfTerminal at hdeliver
      split_ifs at hdeliver
      · exact absurd hdeliver attempt_ne_error
      · cases hdeliver
    constructor
    case tasks =>
      have htasks := congrArg Memory.tasks hmemory
      exact htasks.trans (withDeliveryState_tasks _ _ _)
    case taskDeliveryStates => exact congrArg Memory.taskDeliveryStates hmemory
    case flows =>
      have hflows := congrArg Memory.flows hmemory
      exact hflows.trans (withDeliveryState_flows _ _ _)
    case indexed => exact fun _ => hmemory

theorem rememberRequesterOrigin_leaves {existing : TaskRecord} {result : Except TaskFailure Unit}
    (hcall : rememberRequesterOrigin env existing.taskId
      (params.requesterOrigin.bind env.normalizeDeliveryContext) world = (result, after)) :
    ∃ writes, after = { world.remembering env existing params with writes := writes } := by
  simp only [rememberRequesterOrigin, read_bind_eq] at hcall
  simp only [World.remembering]
  split_ifs at hcall ⊢
  · exact (upsertTaskDeliveryState_leaves hcall).1
  · cases hcall
    exact ⟨world.writes, rfl⟩

theorem mergeTask_left {existing : TaskRecord}
    (hcall : mergeExistingTaskForCreate env existing params world = (.error .store, after)) :
    after.memory = (world.remembering env existing params).memory ∨
      (world.remembering env existing params).Updated env existing.taskId
        (mergePatch existing params) after := by
  rcases bind_eq_error hcall with hremember | ⟨_, middle, hremember, hcall⟩
  · obtain ⟨writes, rfl⟩ := rememberRequesterOrigin_leaves hremember
    exact .inl rfl
  · obtain ⟨writes, rfl⟩ := rememberRequesterOrigin_leaves hremember
    right
    cases hlink : World.parentFlowLinkError { world.remembering env existing
        params with writes := writes } existing.ownerKey existing.scopeKind
        (fillIn params.parentFlowId existing.parentFlowId).join with
    | some code =>
      rcases bind_eq_error hcall with hrefused | ⟨_, _, hallowed, -⟩
      · rw [assertParentFlowLinkAllowed_of_some hlink] at hrefused
        cases hrefused
      · rw [assertParentFlowLinkAllowed_of_some hlink] at hallowed
        cases hallowed
    | none =>
      rcases bind_eq_error hcall with hrefused | ⟨_, _, hallowed, hcall⟩
      · rw [assertParentFlowLinkAllowed_of_none hlink] at hrefused
        cases hrefused
      · rw [assertParentFlowLinkAllowed_of_none hlink] at hallowed
        cases hallowed
        split_ifs at hcall
        · cases hcall
        · obtain ⟨current, next, hcurrent, hnext, hmemory⟩ :=
            updateTask_left (error_of_bind_pure hcall)
          rw [withRetention_writes] at hnext
          exact ⟨current, next, hcurrent, hnext, hmemory⟩

theorem failed_write_stays (env : TaskEnv) (world after : World) (write : RegistryWrite)
    (hcall : write.call env world = (.error .store, after)) :
    write.LeftInMemory env world after := by
  cases write with
  | createTask params =>
    have hcreate := error_of_bind_pure hcall
    rcases createTaskRecord_cases env params world with
      ⟨failure, hstore, hfails⟩ | ⟨existing, hfound, hmerge⟩ | ⟨-, hadd⟩
    · rw [hfails] at hcreate
      cases hcreate
      exact absurd rfl hstore
    · rw [hmerge] at hcreate
      exact .inl ⟨existing, hfound, mergeTask_left hcreate⟩
    · rw [hadd] at hcreate
      exact .inr (addTask_left hcreate)
  | updateTask taskId patch => exact updateTask_left (error_of_bind_pure hcall)
  | deleteTask taskId => exact deleteTask_left hcall
  | createFlow params => exact createFlow_left (error_of_bind_pure hcall)
  | updateFlow flowId expectedRevision patch =>
    exact updateFlow_left (error_of_bind_pure hcall)
  | deleteFlow flowId => exact deleteFlow_left hcall

def refusingEnv : TaskEnv := plainEnv fun _ => true

def emptyWorld : World := World.restore (emptySnapshot refusingEnv)

theorem failed_write_stays_session : ∃ after,
    (RegistryWrite.createTask (sessionTask none)).call refusingEnv emptyWorld =
        (.error .store, after) ∧
      (RegistryWrite.createTask (sessionTask none)).LeftInMemory refusingEnv emptyWorld after :=
  ⟨_, rfl, failed_write_stays _ _ _ _ rfl⟩

theorem refused_task_stays : ¬ ∀ env world after (write : RegistryWrite),
    write.call env world = (.error .store, after) → after.memory = world.memory := by
  intro hatomic
  have hmemory := hatomic refusingEnv emptyWorld _ (.createTask (sessionTask none)) rfl
  have hlength := congrArg (fun memory => memory.tasks.length) hmemory
  exact absurd hlength (by decide)

end LittleBaby.TaskRegistry
