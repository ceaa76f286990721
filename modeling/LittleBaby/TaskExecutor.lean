import LittleBaby.LabelledMachine
import LittleBaby.TaskRegistry

/-!
# The task executor

Runs of one task get a flow that mirrors the task, and the cancellation of a
flow cancels its tasks one after the other.  The machine takes one operation
at a time up to its first `await`; what is awaited settles in a later step.
-/

namespace LittleBaby.TaskRegistry

open JsString Call

variable (env : TaskEnv)

def isOneTaskFlowEligible (task : TaskRecord) : Bool :=
  (normalizeOptionalString task.parentFlowId).isNone &&
    task.scopeKind = .session && task.deliveryStatus ≠ .notApplicable &&
    (task.runtime = .acp || task.runtime = .subagent)

def ensureSingleTaskFlow (task : TaskRecord)
    (requesterOrigin : Option DeliveryContext) : RegistryCall Unit :=
  if !isOneTaskFlowEligible task then return ()
  else
    attempt do
      let flow ← createTaskFlowForTask env task requesterOrigin
      match ← linkTaskToFlowById env task.taskId flow.flowId with
      | none => deleteTaskFlowRecordById env flow.flowId
      | some linked =>
        if linked.parentFlowId ≠ some flow.flowId then
          deleteTaskFlowRecordById env flow.flowId
        else return ()

variable (params : TaskCreateParams)

def createTaskRun (status : TaskStatus) : RegistryCall Unit := do
  let task ← createTaskRecord env { params with status := some status }
  ensureSingleTaskFlow env task params.requesterOrigin

def createQueuedTaskRun : RegistryCall Unit := createTaskRun env params .queued

def createRunningTaskRun : RegistryCall Unit := createTaskRun env params .running

/-- `registered`: a runtime for detached tasks is registered. -/
def cancelDetachedTaskRunById (taskId : JsString) (registered : Bool) :
    RegistryCall FlowCancelWait := do
  let task ← read fun world => world.tasks.lookup (trim taskId)
  if task.isSome && registered then return .runtime taskId
  else return .task (← cancelTaskById env taskId)

def settleCancelledFlow (flowId : JsString) : RegistryCall Unit := do
  if ← read fun world => world.hasActiveTask flowId then return ()
  else do
    let now ← dateNow env
    match ← read fun world => world.getTaskFlowById flowId with
    | none => return ()
    | some flow =>
      if isTerminalFlowStatus flow.status then return ()
      else do
        let _ ← updateFlowRecordByIdExpectedRevision env flowId flow.revision
          (cancelledFlowPatch now)

def cancelNextTask (flowId : JsString) (registered : Bool) : List JsString → RegistryCall FlowCancel
  | [] => do
      settleCancelledFlow env flowId
      return ⟨flowId, [], none⟩
  | taskId :: rest => do
      let waits ← cancelDetachedTaskRunById env taskId registered
      return ⟨flowId, rest, some waits⟩

def markFlowCancelRequested (flow : TaskFlowRecord) : RegistryCall Bool := do
  if flow.cancelRequestedAt.isSome then return true
  else
    match ← requestFlowCancel env flow.flowId flow.revision none none with
    | .applied _ => return true
    | .notFound => return false
    | .revisionConflict _ => return false

def cancelFlowById (flowId : JsString) (registered : Bool) :
    RegistryCall Unit := do
  match ← read fun world => world.getTaskFlowById flowId with
  | none => return ()
  | some flow =>
    if isTerminalFlowStatus flow.status then return ()
    else if ← markFlowCancelRequested env flow then do
      let active ← read fun world =>
        ((world.listTasksForFlowId flow.flowId).filter fun task =>
          isActiveTaskStatus task.status).map TaskRecord.taskId
      let cancel ← cancelNextTask env flow.flowId registered active
      change fun world =>
        { world with flowCancels := world.flowCancels.push cancel }
    else return ()

variable (index : ℕ) (cancel : FlowCancel)

def putFlowCancel : RegistryCall Unit :=
  change fun world =>
    { world with flowCancels := world.flowCancels.put index cancel }

def resumeFlowCancel (registered : Bool) : RegistryCall Unit := do
  putFlowCancel index { cancel with waits := none }
  let next ← cancelNextTask env cancel.flowId registered cancel.rest
  putFlowCancel index next

def detachedRuntimeSettles (taskId : JsString) (found registered : Bool) : RegistryCall Unit := do
  if found then resumeFlowCancel env index cancel registered
  else do
    let waits ← cancelTaskById env taskId
    putFlowCancel index { cancel with waits := some (.task waits) }

def World.cancelHasSettled (world : World) : FlowCancelWait → Bool
  | .runtime _ => false
  | .task none => true
  | .task (some index) =>
    (world.cancels.get? index).all fun cancel => !cancel.waiting

inductive Operation
  | createTaskRecord (params : TaskCreateParams)
  | createQueuedTaskRun (params : TaskCreateParams)
  | createRunningTaskRun (params : TaskCreateParams)
  | updateTask (taskId : JsString) (patch : TaskPatch)
  | linkTaskToFlowById (taskId flowId : JsString)
  | deleteTaskRecordById (taskId : JsString)
  | updateTaskStateByRunId (params : TaskStateUpdate)
  | setTaskRunDeliveryStatusByRunId (runId : JsString)
      (runtime : Option TaskRuntime) (sessionKey : Option JsString)
      (deliveryStatus : TaskDeliveryStatus)
  | agentEvent (event : AgentEvent)
  | setTaskProgressById (taskId : JsString)
      (progressSummary : Option (Option JsString)) (lastEventAt : Option ℤ)
  | setTaskTimingById (taskId : JsString) (startedAt endedAt lastEventAt : Option ℤ)
  | setTaskCleanupAfterById (taskId : JsString) (cleanupAfter : ℤ)
  | updateTaskNotifyPolicyById (taskId : JsString) (notifyPolicy : TaskNotifyPolicy)
  | markTaskTerminalById (taskId : JsString) (params : TaskTerminalMark)
  | markTaskLostById (taskId : JsString) (endedAt : ℤ)
      (lastEventAt : Option ℤ) (error : Option JsString)
      (cleanupAfter : Option ℤ)
  | maybeDeliverTaskTerminalUpdate (taskId : JsString)
  | deliveryRuntimeLoads (index : ℕ) (loaded : Bool)
  | sendMessageSettles (index : ℕ) (sent : Bool)
  | stateChangeDeliveryAdvances (index : ℕ) (succeeds : Bool)
  | cancelTaskById (taskId : JsString)
  | cancelSettles (index : ℕ) (killed : Bool)
  | createFlowRecord (params : CreateFlowRecordParams)
  | deleteTaskFlowRecordById (flowId : JsString)
  | setFlowWaiting (flowId : JsString) (expectedRevision : ℕ)
      (currentStep : Option (Option JsString))
      (stateJson waitJson : Option JsString)
      (blockedTaskId blockedSummary : Option (Option JsString))
      (updatedAt : Option ℤ)
  | resumeFlow (flowId : JsString) (expectedRevision : ℕ) (running : Bool)
      (currentStep : Option (Option JsString)) (stateJson : Option JsString)
      (updatedAt : Option ℤ)
  | finishFlow (flowId : JsString) (expectedRevision : ℕ)
      (currentStep : Option (Option JsString)) (stateJson : Option JsString)
      (updatedAt endedAt : Option ℤ)
  | failFlow (flowId : JsString) (expectedRevision : ℕ)
      (currentStep : Option (Option JsString)) (stateJson : Option JsString)
      (blockedTaskId blockedSummary : Option (Option JsString))
      (updatedAt endedAt : Option ℤ)
  | requestFlowCancel (flowId : JsString) (expectedRevision : ℕ)
      (cancelRequestedAt updatedAt : Option ℤ)
  | cancelFlowById (flowId : JsString) (registered : Bool)
  | resumeFlowCancel (index : ℕ) (registered : Bool)
  | detachedRuntimeSettles (index : ℕ) (found registered : Bool)

def step (world : World) : Operation → Option World
  | .createTaskRecord params =>
    some ((createTaskRecord env params).leaves world)
  | .createQueuedTaskRun params =>
    some ((createQueuedTaskRun env params).leaves world)
  | .createRunningTaskRun params =>
    some ((createRunningTaskRun env params).leaves world)
  | .updateTask taskId patch => some ((updateTask env taskId patch).leaves world)
  | .linkTaskToFlowById taskId flowId =>
    some ((linkTaskToFlowById env taskId flowId).leaves world)
  | .deleteTaskRecordById taskId =>
    some ((deleteTaskRecordById env taskId).leaves world)
  | .updateTaskStateByRunId params =>
    some ((updateTaskStateByRunId env params).leaves world)
  | .setTaskRunDeliveryStatusByRunId runId runtime sessionKey deliveryStatus =>
    some ((setTaskRunDeliveryStatusByRunId env runId runtime sessionKey
      deliveryStatus).leaves world)
  | .agentEvent event => some ((handleAgentEvent env event).leaves world)
  | .setTaskProgressById taskId progressSummary lastEventAt =>
    some ((setTaskProgressById env taskId progressSummary lastEventAt).leaves world)
  | .setTaskTimingById taskId startedAt endedAt lastEventAt =>
    some ((setTaskTimingById env taskId startedAt endedAt lastEventAt).leaves world)
  | .setTaskCleanupAfterById taskId cleanupAfter =>
    some ((setTaskCleanupAfterById env taskId cleanupAfter).leaves world)
  | .updateTaskNotifyPolicyById taskId notifyPolicy =>
    some ((updateTaskNotifyPolicyById env taskId notifyPolicy).leaves world)
  | .markTaskTerminalById taskId params =>
    some ((markTaskTerminalById env taskId params).leaves world)
  | .markTaskLostById taskId endedAt lastEventAt error cleanupAfter =>
    some ((markTaskLostById env taskId endedAt lastEventAt error cleanupAfter).leaves world)
  | .maybeDeliverTaskTerminalUpdate taskId =>
    some ((maybeDeliverTaskTerminalUpdate env taskId).leaves world)
  | .deliveryRuntimeLoads index loaded =>
    (world.terminalDeliveries.get? index).bind fun delivery =>
      if delivery.phase = .loading then
        some ((deliveryRuntimeLoads env index delivery.latest loaded).leaves world)
      else none
  | .sendMessageSettles index sent =>
    (world.terminalDeliveries.get? index).bind fun delivery =>
      if delivery.phase = .sending then
        some ((sendMessageSettles env index delivery.latest sent).leaves world)
      else none
  | .stateChangeDeliveryAdvances index succeeds =>
    (world.stateChangeDeliveries.get? index).bind fun delivery =>
      if delivery.phase = .loading || delivery.phase = .sending then
        some ((stateChangeDeliveryAdvances env index delivery succeeds).leaves world)
      else none
  | .cancelTaskById taskId => some ((cancelTaskById env taskId).leaves world)
  | .cancelSettles index killed =>
    (world.cancels.get? index).bind fun cancel =>
      if cancel.waiting then
        some ((cancelSettles env index cancel killed).leaves world)
      else none
  | .createFlowRecord params => some ((createFlowRecord env params).leaves world)
  | .deleteTaskFlowRecordById flowId =>
    some ((deleteTaskFlowRecordById env flowId).leaves world)
  | .setFlowWaiting flowId expectedRevision currentStep stateJson waitJson
      blockedTaskId blockedSummary updatedAt =>
      some ((setFlowWaiting env flowId expectedRevision currentStep stateJson
        waitJson blockedTaskId blockedSummary updatedAt).leaves world)
  | .resumeFlow flowId expectedRevision running currentStep stateJson updatedAt =>
    some ((resumeFlow env flowId expectedRevision running currentStep stateJson
      updatedAt).leaves world)
  | .finishFlow flowId expectedRevision currentStep stateJson updatedAt endedAt =>
    some ((finishFlow env flowId expectedRevision currentStep stateJson
      updatedAt endedAt).leaves world)
  | .failFlow flowId expectedRevision currentStep stateJson blockedTaskId
      blockedSummary updatedAt endedAt =>
      some ((failFlow env flowId expectedRevision currentStep stateJson
        blockedTaskId blockedSummary updatedAt endedAt).leaves world)
  | .requestFlowCancel flowId expectedRevision cancelRequestedAt updatedAt =>
    some ((requestFlowCancel env flowId expectedRevision cancelRequestedAt updatedAt).leaves world)
  | .cancelFlowById flowId registered =>
    some ((cancelFlowById env flowId registered).leaves world)
  | .resumeFlowCancel index registered =>
    (world.flowCancels.get? index).bind fun cancel =>
      cancel.waits.bind fun waits =>
        if world.cancelHasSettled waits then
          some ((resumeFlowCancel env index cancel registered).leaves world)
        else none
  | .detachedRuntimeSettles index found registered =>
    (world.flowCancels.get? index).bind fun cancel =>
      match cancel.waits with
      | some (.runtime taskId) =>
        some ((detachedRuntimeSettles env index cancel taskId found registered).leaves world)
      | _ => none

structure Snapshot where
  tasks : List (JsString × TaskRecord)
  deliveryStates : List (JsString × TaskDeliveryState)
  flows : List (JsString × TaskFlowRecord)
  tasks_nodup : (Entries.keys tasks).Nodup
  tasks_named : ∀ taskId task, tasks.lookup taskId = some task → task.taskId = taskId
  flows_nodup : (Entries.keys flows).Nodup
  flows_named : ∀ flowId flow, flows.lookup flowId = some flow → flow.flowId = flowId
  /-- a managed flow without a controller gets one when it is restored -/
  flows_controlled : ∀ flowId flow, flows.lookup flowId = some flow →
    flow.syncMode = .managed → (normalizeOptionalString flow.controllerId).isSome = true
  /-- no identifier of the stores is made again -/
  tasks_fresh : ∀ index, env.randomUUID index ∉ Entries.keys tasks
  flows_fresh : ∀ index, env.randomUUID index ∉ Entries.keys flows
  parents_fresh : ∀ index taskId task, tasks.lookup taskId = some task →
    normalizeOptionalString task.parentFlowId ≠ some (env.randomUUID index)

variable {env}

def World.restore (snapshot : Snapshot env) : World :=
  World.rebuildIndexes
    { tasks := snapshot.tasks
      taskDeliveryStates := snapshot.deliveryStates
      taskIdsByRunId := []
      taskIdsByOwnerKey := []
      taskIdsByParentFlowId := []
      taskIdsByRelatedSessionKey := []
      tasksWithPendingDelivery := []
      flows := snapshot.flows
      systemEvents := []
      terminalDeliveries := Arena.empty
      stateChangeDeliveries := Arena.empty
      cancels := Arena.empty
      flowCancels := Arena.empty
      readings := 0
      uuids := 0
      writes := 0 }

def plainUUID : JsString := List.replicate (index + 1) 0x61

theorem plainUUID_injective : Function.Injective plainUUID := by
  intro first second heq
  have hlength := congrArg List.length heq
  simpa [plainUUID] using hlength

theorem plainUUID_plain : nonBlank (plainUUID index) = some (plainUUID index) := by
  rw [nonBlank_eq_some]
  constructor
  · simp [plainUUID]
  · apply trim_eq_self
    intro unit hmem
    rw [List.eq_of_mem_replicate hmem]
    rfl

/-- The clock ticks with every reading and every channel is deliverable. -/
def plainEnv (storeThrows : ℕ → Bool) : TaskEnv where
  now := fun reading => reading
  randomUUID := plainUUID
  randomUUID_injective := plainUUID_injective
  randomUUID_plain := plainUUID_plain
  storeThrows := storeThrows
  normalizeDeliveryContext := some
  isDeliverableMessageChannel := fun _ => true
  sanitizeTaskStatusText := fun summary => summary.getD []

def emptySnapshot (env : TaskEnv) : Snapshot env where
  tasks := []
  deliveryStates := []
  flows := []
  tasks_nodup := List.nodup_nil
  tasks_named := fun _ _ hlookup => nomatch hlookup
  flows_nodup := List.nodup_nil
  flows_named := fun _ _ hlookup => nomatch hlookup
  flows_controlled := fun _ _ hlookup => nomatch hlookup
  tasks_fresh := fun _ => List.not_mem_nil
  flows_fresh := fun _ => List.not_mem_nil
  parents_fresh := fun _ _ _ hlookup => nomatch hlookup

def calmEnv : TaskEnv := plainEnv fun _ => false

def sessionTask (requesterOrigin : Option DeliveryContext) : TaskCreateParams where
  runtime := .acp
  ownerKey := some (js "main")
  requesterSessionKey := some (js "main")
  childSessionKey := some (js "child")
  requesterOrigin := requesterOrigin
  runId := some (js " run ")
  task := js "work"

def directOrigin : DeliveryContext where
  channel := some (js "chat")
  «to» := some (js "me")
  accountId := none
  threadId := none

end LittleBaby.TaskRegistry
