import LittleBaby.Arena
import LittleBaby.Calls
import LittleBaby.InvertedIndex
import LittleBaby.TaskRecords
import Mathlib.Data.List.Sort

/-!
# The task registry and the task flow registry

The tables in memory, the four lookup indexes and the operations that run
without waiting.  Every write of a store may throw; what an operation has changed
in memory by then stays changed.
-/

namespace LittleBaby.TaskRegistry

open JsString Call InvertedIndex Entries TaskDeliveryState

structure TaskEnv where
  now : ℕ → ℤ
  randomUUID : ℕ → JsString
  randomUUID_injective : Function.Injective randomUUID
  randomUUID_plain : ∀ index, nonBlank (randomUUID index) = some (randomUUID index)
  storeThrows : ℕ → Bool
  normalizeDeliveryContext : DeliveryContext → Option DeliveryContext
  isDeliverableMessageChannel : JsString → Bool
  sanitizeTaskStatusText : Option JsString → JsString

inductive ParentFlowLinkErrorCode
  | scopeKindNotSession
  | parentFlowNotFound
  | ownerKeyMismatch
  | cancelRequested
  | terminal

inductive TaskFailure
  | taskOwnerKeyRequired
  | parentFlowLink (code : ParentFlowLinkErrorCode)
  | flowOwnerKeyRequired
  | controllerIdRequired
  | store

structure TaskDeliveryOwner where
  sessionKey : Option JsString
  requesterOrigin : Option DeliveryContext
  flowId : Option JsString

inductive DeliveryPhase
  /-- the delivery runtime is being loaded -/
  | loading
  /-- `sendMessage` has been called -/
  | sending
  | sent
  | failed
  deriving DecidableEq

/-- A call of `maybeDeliverTaskTerminalUpdate` that sends a message. -/
structure TerminalDelivery where
  latest : TaskRecord
  phase : DeliveryPhase

/-- A call of `maybeDeliverTaskStateChangeUpdate` that sends a message. -/
structure StateChangeDelivery where
  taskId : JsString
  eventAt : ℤ
  requesterOrigin : Option DeliveryContext
  phase : DeliveryPhase

/-- A call of `cancelTaskById` that waits for the child session to be killed. -/
structure TaskCancel where
  taskId : JsString
  runtime : TaskRuntime
  waiting : Bool

inductive FlowCancelWait
  /-- the registered runtime for detached tasks -/
  | runtime (taskId : JsString)
  /-- a call of `cancelTaskById`, which may have ended at once -/
  | task (cancel : Option ℕ)

structure FlowCancel where
  flowId : JsString
  /-- the active tasks that are not cancelled yet -/
  rest : List JsString
  waits : Option FlowCancelWait

inductive TaskEventText
  | terminal
  | blockedFollowup
  | stateChange

structure TaskSystemEvent where
  taskId : JsString
  sessionKey : JsString
  text : TaskEventText

abbrev KeyIndex := List (JsString × List JsString)

structure World where
  tasks : List (JsString × TaskRecord)
  taskDeliveryStates : List (JsString × TaskDeliveryState)
  taskIdsByRunId : KeyIndex
  taskIdsByOwnerKey : KeyIndex
  taskIdsByParentFlowId : KeyIndex
  taskIdsByRelatedSessionKey : KeyIndex
  tasksWithPendingDelivery : List JsString
  flows : List (JsString × TaskFlowRecord)
  systemEvents : List TaskSystemEvent
  terminalDeliveries : Arena TerminalDelivery
  stateChangeDeliveries : Arena StateChangeDelivery
  cancels : Arena TaskCancel
  flowCancels : Arena FlowCancel
  /-- how often the clock was read, an identifier made, a store written -/
  readings : ℕ
  uuids : ℕ
  writes : ℕ

abbrev RegistryCall := Call World TaskFailure

variable (env : TaskEnv)

def dateNow : RegistryCall ℤ := do
  let reading ← read World.readings
  change fun world => { world with readings := world.readings + 1 }
  return env.now reading

def newUUID : RegistryCall JsString := do
  let index ← read World.uuids
  change fun world => { world with uuids := world.uuids + 1 }
  return env.randomUUID index

def persist : RegistryCall Unit := do
  let write ← read World.writes
  change fun world => { world with writes := world.writes + 1 }
  if env.storeThrows write then fail .store else return ()

/-! ## The indexes -/

def indexKeys (value : Option JsString) : List JsString := (normalizeOptionalString value).toList

variable (task : TaskRecord)

def runIdKeys : List JsString := indexKeys task.runId

def ownerKeys : List JsString := indexKeys (some task.ownerKey)

def parentFlowIdKeys : List JsString := indexKeys task.parentFlowId

def getTaskRelatedSessionIndexKeys : List JsString :=
  (indexKeys (some task.ownerKey) ++ indexKeys task.childSessionKey).dedup

def World.rebuildRunIdIndex (world : World) : World :=
  { world with
    taskIdsByRunId := rebuild runIdKeys world.tasks }

def World.rebuildIndexes (world : World) : World :=
  { world with
    taskIdsByRunId := rebuild runIdKeys world.tasks
    taskIdsByOwnerKey := rebuild ownerKeys world.tasks
    taskIdsByParentFlowId := rebuild parentFlowIdKeys world.tasks
    taskIdsByRelatedSessionKey := rebuild getTaskRelatedSessionIndexKeys world.tasks }

def World.addIndexes (taskId : JsString) (task : TaskRecord) (world : World) :
    World :=
  { world with
    taskIdsByRunId := addAll world.taskIdsByRunId (runIdKeys task) taskId
    taskIdsByOwnerKey := addAll world.taskIdsByOwnerKey (ownerKeys task) taskId
    taskIdsByParentFlowId :=
      addAll world.taskIdsByParentFlowId (parentFlowIdKeys task) taskId
    taskIdsByRelatedSessionKey :=
      addAll world.taskIdsByRelatedSessionKey
        (getTaskRelatedSessionIndexKeys task) taskId }

/-- `patch.runId && patch.runId !== current.runId`. -/
def changesRunId (patch : TaskPatch) (current : TaskRecord) : Bool :=
  match patch.runId with
  | some (some (unit :: rest)) => some (unit :: rest) ≠ current.runId
  | _ => false

def sessionIndexChanged (current next : TaskRecord) : Bool :=
  normalizeOptionalString current.ownerKey ≠ normalizeOptionalString next.ownerKey ||
    normalizeOptionalString current.childSessionKey ≠ normalizeOptionalString next.childSessionKey

def parentFlowIndexChanged (current next : TaskRecord) : Bool :=
  current.parentFlowId.map trim ≠ next.parentFlowId.map trim

def moveIndexedKeys (keysOf : TaskRecord → List JsString) (taskId : JsString)
    (current next : TaskRecord) (index : KeyIndex) : KeyIndex :=
  addAll (removeAll index (keysOf current) taskId) (keysOf next) taskId

def World.replaceTask (taskId : JsString) (patch : TaskPatch)
    (current next : TaskRecord) (world : World) : World :=
  let tasks := set taskId next world.tasks
  let sessions := sessionIndexChanged current next
  { world with
    tasks := tasks
    taskIdsByRunId :=
      if changesRunId patch current then rebuild runIdKeys tasks
      else world.taskIdsByRunId
    taskIdsByOwnerKey :=
      if sessions then
        moveIndexedKeys ownerKeys taskId current next world.taskIdsByOwnerKey
      else world.taskIdsByOwnerKey
    taskIdsByRelatedSessionKey :=
      if sessions then
        moveIndexedKeys getTaskRelatedSessionIndexKeys taskId current next
          world.taskIdsByRelatedSessionKey
      else world.taskIdsByRelatedSessionKey
    taskIdsByParentFlowId :=
      if parentFlowIndexChanged current next then
        moveIndexedKeys parentFlowIdKeys taskId current next world.taskIdsByParentFlowId
      else world.taskIdsByParentFlowId }

variable {world : World} {taskId : JsString} {current : TaskRecord}

@[simp] theorem World.replaceTask_tasks {patch : TaskPatch} {next : TaskRecord} :
    (world.replaceTask taskId patch current next).tasks = set taskId next world.tasks := rfl

def World.tasksAt (world : World) (ids : Option (List JsString)) :
    List TaskRecord :=
  (ids.getD []).filterMap fun taskId => world.tasks.lookup taskId

def World.getTasksByRunId (world : World) (runId : JsString) : List TaskRecord :=
  world.tasksAt (world.taskIdsByRunId.lookup (trim runId))

def compareTasksNewestFirst (left right : TaskRecord × ℕ) : Prop :=
  right.1.createdAt < left.1.createdAt ∨ right.1.createdAt = left.1.createdAt ∧ right.2 ≤ left.2

instance : DecidableRel compareTasksNewestFirst := fun left right => by
  unfold compareTasksNewestFirst
  infer_instance

def World.listTasksFromIndex (world : World) (index : KeyIndex)
    (key : Option JsString) : List TaskRecord :=
  let found := ((key.bind fun key => index.lookup key).getD []).zipIdx.filterMap
    fun entry => (world.tasks.lookup entry.1).map fun task => (task, entry.2)
  (found.insertionSort compareTasksNewestFirst).map Prod.fst

def World.listTasksForSessionKey (world : World) (sessionKey : JsString) :
    List TaskRecord :=
  world.listTasksFromIndex world.taskIdsByRelatedSessionKey (nonBlank sessionKey)

def World.listTasksForOwnerKey (world : World) (ownerKey : JsString) :
    List TaskRecord :=
  world.listTasksFromIndex world.taskIdsByOwnerKey (nonBlank ownerKey)

def World.listTasksForFlowId (world : World) (flowId : JsString) :
    List TaskRecord :=
  world.listTasksFromIndex world.taskIdsByParentFlowId (nonBlank flowId)

def World.findLatestTaskForSessionKey (world : World) (sessionKey : JsString) :
    Option TaskRecord :=
  (world.listTasksForSessionKey sessionKey).head?

def World.findLatestTaskForOwnerKey (world : World) (ownerKey : JsString) :
    Option TaskRecord :=
  (world.listTasksForOwnerKey ownerKey).head?

def World.findLatestTaskForFlowId (world : World) (flowId : JsString) :
    Option TaskRecord :=
  (world.listTasksForFlowId flowId).head?

def taskLookupPriority : ℕ :=
  if task.runtime = .cli then 1 else 0

def preferredOrder (left right : TaskRecord) : Prop :=
  taskLookupPriority left < taskLookupPriority right ∨
    taskLookupPriority left = taskLookupPriority right ∧ left.createdAt ≤ right.createdAt

instance : DecidableRel preferredOrder := fun left right => by
  unfold preferredOrder
  infer_instance

def pickPreferredRunIdTask (found : List TaskRecord) : Option TaskRecord :=
  (found.insertionSort preferredOrder).head?

def World.findTaskByRunId (world : World) (runId : JsString) :
    Option TaskRecord :=
  pickPreferredRunIdTask (world.getTasksByRunId runId)

/-! ## Task flows -/

/-- A JSON `null` is a value and not a missing one. -/
structure FlowRecordPatch where
  status : Option TaskFlowStatus := none
  notifyPolicy : Option TaskNotifyPolicy := none
  goal : Option JsString := none
  currentStep : Option (Option JsString) := none
  blockedTaskId : Option (Option JsString) := none
  blockedSummary : Option (Option JsString) := none
  controllerId : Option (Option JsString) := none
  stateJson : Option JsString := none
  waitJson : Option JsString := none
  cancelRequestedAt : Option (Option ℤ) := none
  updatedAt : Option ℤ := none
  endedAt : Option (Option ℤ) := none

structure CreateFlowRecordParams where
  syncMode : Option TaskFlowSyncMode := none
  ownerKey : JsString
  requesterOrigin : Option DeliveryContext := none
  controllerId : Option JsString := none
  revision : Option ℕ := none
  status : Option TaskFlowStatus := none
  notifyPolicy : Option TaskNotifyPolicy := none
  goal : JsString
  currentStep : Option JsString := none
  blockedTaskId : Option JsString := none
  blockedSummary : Option JsString := none
  stateJson : Option JsString := none
  waitJson : Option JsString := none
  cancelRequestedAt : Option ℤ := none
  createdAt : Option ℤ := none
  updatedAt : Option ℤ := none
  endedAt : Option ℤ := none

inductive TaskFlowUpdateResult
  | applied (flow : TaskFlowRecord)
  | notFound
  | revisionConflict (current : TaskFlowRecord)

def jsonNull : JsString := js "null"

/-- `first ?? Date.now()`. -/
def orNow (first : Option ℤ) : RegistryCall ℤ :=
  match first with
  | some time => return time
  | none => dateNow env

def writeFlowRecord (next : TaskFlowRecord) : RegistryCall TaskFlowRecord := do
  change fun world => { world with flows := set next.flowId next world.flows }
  persist env
  return next

def assertFlowOwnerKey (ownerKey : JsString) : RegistryCall JsString :=
  match nonBlank ownerKey with
  | none => fail .flowOwnerKeyRequired
  | some normalized => return normalized

def assertControllerId (controllerId : Option JsString) : RegistryCall JsString :=
  match normalizeOptionalString controllerId with
  | none => fail .controllerIdRequired
  | some normalized => return normalized

def resolveControllerId (syncMode : TaskFlowSyncMode)
    (controllerId : Option JsString) : RegistryCall (Option JsString) :=
  match syncMode with
  | .taskMirrored => return none
  | .managed => do
      let controllerId ← assertControllerId controllerId
      return some controllerId

def buildFlowRecord (params : CreateFlowRecordParams)
    (controllerId : Option JsString) (flowId ownerKey : JsString) (now : ℤ) :
    TaskFlowRecord where
  flowId := flowId
  syncMode := params.syncMode.getD .managed
  ownerKey := ownerKey
  requesterOrigin := params.requesterOrigin
  controllerId := controllerId
  revision := params.revision.getD 0
  status := params.status.getD .queued
  notifyPolicy := params.notifyPolicy.getD .doneOnly
  goal := params.goal
  currentStep := normalizeOptionalString params.currentStep
  blockedTaskId := normalizeOptionalString params.blockedTaskId
  blockedSummary := normalizeOptionalString params.blockedSummary
  stateJson := params.stateJson
  waitJson := params.waitJson
  cancelRequestedAt := params.cancelRequestedAt
  createdAt := now
  updatedAt := params.updatedAt.getD now
  endedAt := params.endedAt

def createFlowRecord (params : CreateFlowRecordParams) :
    RegistryCall TaskFlowRecord := do
  let now ← orNow env params.createdAt
  let controllerId ←
    resolveControllerId (params.syncMode.getD .managed) params.controllerId
  let flowId ← newUUID env
  let ownerKey ← assertFlowOwnerKey params.ownerKey
  writeFlowRecord env (buildFlowRecord params controllerId flowId ownerKey now)

def TaskFlowRecord.apply (current : TaskFlowRecord) (patch : FlowRecordPatch)
    (controllerId : Option JsString) (updatedAt : ℤ) : TaskFlowRecord where
  flowId := current.flowId
  syncMode := current.syncMode
  ownerKey := current.ownerKey
  requesterOrigin := current.requesterOrigin
  controllerId := controllerId
  revision := current.revision + 1
  status := patch.status.getD current.status
  notifyPolicy := patch.notifyPolicy.getD current.notifyPolicy
  goal := (orElse patch.goal none).getD current.goal
  currentStep := (patch.currentStep.map normalizeOptionalString).getD current.currentStep
  blockedTaskId := (patch.blockedTaskId.map normalizeOptionalString).getD current.blockedTaskId
  blockedSummary := (patch.blockedSummary.map normalizeOptionalString).getD current.blockedSummary
  stateJson := patch.stateJson.or current.stateJson
  waitJson := patch.waitJson.or current.waitJson
  cancelRequestedAt := patch.cancelRequestedAt.getD current.cancelRequestedAt
  createdAt := current.createdAt
  updatedAt := updatedAt
  endedAt := patch.endedAt.getD current.endedAt

def applyFlowPatch (current : TaskFlowRecord) (patch : FlowRecordPatch) :
    RegistryCall TaskFlowRecord := do
  let controllerId := (patch.controllerId.map normalizeOptionalString).getD current.controllerId
  let _ ← resolveControllerId current.syncMode controllerId
  let updatedAt ← orNow env patch.updatedAt
  return current.apply patch controllerId updatedAt

def World.getTaskFlowById (world : World) (flowId : JsString) :
    Option TaskFlowRecord :=
  world.flows.lookup flowId

variable (flowId : JsString)

def updateFlowRecordByIdUnchecked (patch : FlowRecordPatch) :
    RegistryCall Unit := do
  match ← read fun world => world.getTaskFlowById flowId with
  | none => return ()
  | some current => do
      let next ← applyFlowPatch env current patch
      let _ ← writeFlowRecord env next

def updateFlowRecordByIdExpectedRevision (expectedRevision : ℕ) (patch : FlowRecordPatch) :
    RegistryCall TaskFlowUpdateResult := do
  match ← read fun world => world.getTaskFlowById flowId with
  | none => return .notFound
  | some current =>
    if current.revision ≠ expectedRevision then
      return .revisionConflict current
    else do
      let next ← applyFlowPatch env current patch
      return .applied (← writeFlowRecord env next)

def setFlowWaiting (expectedRevision : ℕ)
    (currentStep : Option (Option JsString)) (stateJson waitJson : Option JsString)
    (blockedTaskId blockedSummary : Option (Option JsString))
    (updatedAt : Option ℤ) : RegistryCall TaskFlowUpdateResult :=
  updateFlowRecordByIdExpectedRevision env flowId expectedRevision
    { status := some (if (normalizeOptionalString blockedTaskId.join).isSome ||
          (normalizeOptionalString blockedSummary.join).isSome then .blocked
        else .waiting)
      currentStep := currentStep
      stateJson := stateJson
      waitJson := waitJson
      blockedTaskId := blockedTaskId
      blockedSummary := blockedSummary
      endedAt := some none
      updatedAt := updatedAt }

def resumeFlow (expectedRevision : ℕ) (running : Bool)
    (currentStep : Option (Option JsString)) (stateJson : Option JsString)
    (updatedAt : Option ℤ) : RegistryCall TaskFlowUpdateResult :=
  updateFlowRecordByIdExpectedRevision env flowId expectedRevision
    { status := some (if running then .running else .queued)
      currentStep := currentStep
      stateJson := stateJson
      waitJson := some jsonNull
      blockedTaskId := some none
      blockedSummary := some none
      endedAt := some none
      updatedAt := updatedAt }

def finishFlow (flowId : JsString) (expectedRevision : ℕ)
    (currentStep : Option (Option JsString)) (stateJson : Option JsString)
    (updatedAt endedAt : Option ℤ) : RegistryCall TaskFlowUpdateResult := do
  let endedAt ← orNow env (endedAt.or updatedAt)
  updateFlowRecordByIdExpectedRevision env flowId expectedRevision
    { status := some .succeeded
      currentStep := currentStep
      stateJson := stateJson
      waitJson := some jsonNull
      blockedTaskId := some none
      blockedSummary := some none
      endedAt := some (some endedAt)
      updatedAt := some (updatedAt.getD endedAt) }

def failFlow (flowId : JsString) (expectedRevision : ℕ)
    (currentStep : Option (Option JsString)) (stateJson : Option JsString)
    (blockedTaskId blockedSummary : Option (Option JsString))
    (updatedAt endedAt : Option ℤ) : RegistryCall TaskFlowUpdateResult := do
  let endedAt ← orNow env (endedAt.or updatedAt)
  updateFlowRecordByIdExpectedRevision env flowId expectedRevision
    { status := some .failed
      currentStep := currentStep
      stateJson := stateJson
      waitJson := some jsonNull
      blockedTaskId := blockedTaskId
      blockedSummary := blockedSummary
      endedAt := some (some endedAt)
      updatedAt := some (updatedAt.getD endedAt) }

def requestFlowCancel (flowId : JsString) (expectedRevision : ℕ)
    (cancelRequestedAt updatedAt : Option ℤ) :
    RegistryCall TaskFlowUpdateResult := do
  let requestedAt ← orNow env (cancelRequestedAt.or updatedAt)
  updateFlowRecordByIdExpectedRevision env flowId expectedRevision
    { cancelRequestedAt := some (some requestedAt)
      updatedAt := updatedAt }

def deleteTaskFlowRecordById : RegistryCall Unit := do
  match ← read fun world => world.getTaskFlowById flowId with
  | none => return ()
  | some _ => do
      change fun world => { world with flows := erase flowId world.flows }
      persist env

/-! ## Flows that mirror or settle with a task -/

def resolveFlowBlockedSummary : Option JsString :=
  if task.status ≠ .succeeded ∨ task.terminalOutcome ≠ some .blocked then none
  else (normalizeOptionalString task.terminalSummary).or
    (normalizeOptionalString task.progressSummary)

def isEndedFlowStatus (status : TaskFlowStatus) : Bool :=
  isTerminalFlowStatus status || status = .blocked

/-- `normalizeOptionalString(task.label) ?? (task.task.trim() || …)`. -/
def flowGoal : JsString :=
  (normalizeOptionalString task.label).getD ((nonBlank task.task).getD (js "Background task"))

def createTaskFlowForTask (task : TaskRecord)
    (requesterOrigin : Option DeliveryContext) : RegistryCall TaskFlowRecord :=
  let status := deriveTaskFlowStatusFromTask task
  createFlowRecord env
    { syncMode := some .taskMirrored
      ownerKey := task.ownerKey
      requesterOrigin := requesterOrigin
      status := some status
      notifyPolicy := some task.notifyPolicy
      goal := flowGoal task
      blockedTaskId := if status = .blocked then nonBlank task.taskId else none
      blockedSummary := resolveFlowBlockedSummary task
      createdAt := some task.createdAt
      updatedAt := some (task.lastEventAt.getD task.createdAt)
      endedAt :=
        if isEndedFlowStatus status then
          some ((task.endedAt.or task.lastEventAt).getD task.createdAt)
        else none }

def flowEndedAt : RegistryCall (Option ℤ) :=
  if isEndedFlowStatus (deriveTaskFlowStatusFromTask task) then do
    let endedAt ← orNow env (task.endedAt.or task.lastEventAt)
    return some endedAt
  else return none

def mirrorPatch (task : TaskRecord) (updatedAt : ℤ) (endedAt : Option ℤ) :
    FlowRecordPatch :=
  let status := deriveTaskFlowStatusFromTask task
  { status := some status
    notifyPolicy := some task.notifyPolicy
    goal := some (flowGoal task)
    blockedTaskId := some (if status = .blocked then nonBlank task.taskId else none)
    blockedSummary := some (if status = .blocked then resolveFlowBlockedSummary task else none)
    waitJson := some jsonNull
    updatedAt := some updatedAt
    endedAt := some endedAt }

def syncFlowFromTask : RegistryCall Unit := do
  match normalizeOptionalString task.parentFlowId with
  | none => return ()
  | some flowId => do
      match ← read fun world => world.getTaskFlowById flowId with
      | none => return ()
      | some flow =>
        if flow.syncMode ≠ .taskMirrored then return ()
        else do
          let updatedAt ← orNow env task.lastEventAt
          let endedAt ← flowEndedAt env task
          updateFlowRecordByIdUnchecked env flowId (mirrorPatch task updatedAt endedAt)

def awaitsCancellation (flow : TaskFlowRecord) : Bool :=
  flow.syncMode = .managed && flow.cancelRequestedAt.isSome && !isTerminalFlowStatus flow.status

def cancelledFlowPatch (endedAt : ℤ) : FlowRecordPatch where
  status := some .cancelled
  blockedTaskId := some none
  blockedSummary := some none
  waitJson := some jsonNull
  endedAt := some (some endedAt)
  updatedAt := some endedAt

def World.hasActiveTask (world : World) (flowId : JsString) : Bool :=
  (world.listTasksForFlowId flowId).any fun task => isActiveTaskStatus task.status

def settleManagedFlow (flowId : JsString) (endedAt : ℤ) : ℕ → TaskFlowRecord → RegistryCall Unit
  | 0, _ => return ()
  | attempts + 1, flow => do
      match ← updateFlowRecordByIdExpectedRevision env flowId flow.revision
          (cancelledFlowPatch endedAt) with
      | .applied _ => return ()
      | .notFound => return ()
      | .revisionConflict current =>
        if !awaitsCancellation current then return ()
        else if ← read fun world => world.hasActiveTask flowId then return ()
        else settleManagedFlow flowId endedAt attempts current

def syncManagedFlowCancellationFromTask : RegistryCall Unit := do
  match normalizeOptionalString task.parentFlowId with
  | none => return ()
  | some flowId => do
      match ← read fun world => world.getTaskFlowById flowId with
      | none => return ()
      | some flow =>
        if !awaitsCancellation flow then return ()
        else if ← read fun world => world.hasActiveTask flowId then return ()
        else do
          let endedAt ← orNow env (task.endedAt.or task.lastEventAt)
          settleManagedFlow env flowId endedAt 2 flow

def DEFAULT_TASK_RETENTION_MS : ℤ := 7 * 24 * 60 * 60000

def withRetention : RegistryCall TaskRecord :=
  if isTerminalTaskStatus task.status && task.cleanupAfter.isNone then do
    let terminalAt ← orNow env (task.endedAt.or task.lastEventAt)
    return { task with
      cleanupAfter := some (terminalAt + DEFAULT_TASK_RETENTION_MS) }
  else return task

def finishUpdate (next : TaskRecord) : RegistryCall (Option TaskRecord) := do
  persist env
  attempt (syncFlowFromTask env next)
  attempt (syncManagedFlowCancellationFromTask env next)
  return some next

def updateTask (taskId : JsString) (patch : TaskPatch) : RegistryCall (Option TaskRecord) := do
  match ← read fun world => world.tasks.lookup taskId with
  | none => return none
  | some current => do
      let next ← withRetention env (current.apply patch)
      change (World.replaceTask taskId patch current next)
      finishUpdate env next

def upsertTaskDeliveryState (taskId : JsString)
    (requesterOrigin : Option DeliveryContext) (lastNotifiedEventAt : Option ℤ) :
    RegistryCall Unit := do
  let current ← read fun world => world.taskDeliveryStates.lookup taskId
  let next : TaskDeliveryState :=
    { taskId := taskId
      requesterOrigin := requesterOrigin.bind env.normalizeDeliveryContext
      lastNotifiedEventAt := lastNotifiedEventAt }
  if next.requesterOrigin.isNone && next.lastNotifiedEventAt.isNone && current.isNone then
    return ()
  else do
    change fun world =>
      { world with
        taskDeliveryStates := set taskId next world.taskDeliveryStates }
    persist env

def World.withoutTask (taskId : JsString) (current : TaskRecord) (world : World) :
    World :=
  { world with
    taskIdsByOwnerKey := removeAll world.taskIdsByOwnerKey (ownerKeys current) taskId
    taskIdsByParentFlowId :=
      removeAll world.taskIdsByParentFlowId (parentFlowIdKeys current) taskId
    taskIdsByRelatedSessionKey :=
      removeAll world.taskIdsByRelatedSessionKey
        (getTaskRelatedSessionIndexKeys current) taskId
    tasks := erase taskId world.tasks
    taskDeliveryStates := erase taskId world.taskDeliveryStates
  }.rebuildRunIdIndex

@[simp] theorem World.withoutTask_tasks : (world.withoutTask taskId current).tasks =
      erase taskId world.tasks := rfl

def deleteTaskRecordById (taskId : JsString) : RegistryCall Unit := do
  match ← read fun world => world.tasks.lookup taskId with
  | none => return ()
  | some current => do
      change (World.withoutTask taskId current)
      persist env
      persist env

/-! ## Delivery -/

def shouldAutoDeliverTaskTerminalUpdate : Bool :=
  task.notifyPolicy ≠ .silent && !(task.runtime = .subagent && task.status ≠ .cancelled) &&
    isTerminalTaskStatus task.status && task.deliveryStatus = .pending

def shouldAutoDeliverTaskStateChange : Bool :=
  task.notifyPolicy = .stateChanges && task.deliveryStatus = .pending &&
    !isTerminalTaskStatus task.status

def shouldSuppressDuplicateTerminalDelivery (preferred : Option TaskRecord) : Bool :=
  if task.runtime ≠ .acp || (normalizeOptionalString task.runId).isNone then false
  else
    match preferred with
    | none => false
    | some preferred => preferred.taskId ≠ task.taskId

def isPeerTask (candidate : TaskRecord) : Bool :=
  candidate.runtime = task.runtime && candidate.scopeKind = task.scopeKind &&
    orEmpty (some candidate.ownerKey) = orEmpty (some task.ownerKey) &&
    orEmpty candidate.childSessionKey = orEmpty task.childSessionKey

def World.getPeerTasksForDelivery (world : World) (task : TaskRecord) :
    List TaskRecord :=
  match normalizeOptionalString task.runId with
  | none => []
  | some runId => (world.getTasksByRunId runId).filter (isPeerTask task)

def World.getLinkedFlowForDelivery (world : World) (task : TaskRecord) :
    Option TaskFlowRecord :=
  if task.scopeKind ≠ .session then none
  else
    (normalizeOptionalString task.parentFlowId).bind fun flowId =>
      (world.getTaskFlowById flowId).filter fun flow =>
        nonBlank flow.ownerKey = nonBlank task.ownerKey

def World.resolveTaskDeliveryOwner (world : World) (task : TaskRecord) :
    TaskDeliveryOwner :=
  let ownOrigin :=
    (world.taskDeliveryStates.lookup task.taskId).bind requesterOrigin
  match world.getLinkedFlowForDelivery task with
  | some flow =>
    { sessionKey := some (trim flow.ownerKey)
      requesterOrigin := (flow.requesterOrigin.or ownOrigin).bind env.normalizeDeliveryContext
      flowId := some flow.flowId }
  | none =>
    if task.scopeKind ≠ .session then
      { sessionKey := none
        requesterOrigin := none
        flowId := none }
    else
      { sessionKey := some (trim task.ownerKey)
        requesterOrigin := ownOrigin.bind env.normalizeDeliveryContext
        flowId := none }

def World.canDeliverTaskToRequesterOrigin (world : World) (task : TaskRecord) :
    Bool :=
  match (world.resolveTaskDeliveryOwner env task).requesterOrigin with
  | none => false
  | some origin =>
    match normalizeOptionalString origin.channel, normalizeOptionalString origin.to with
    | some channel, some _ => env.isDeliverableMessageChannel channel
    | _, _ => false

def resolveMissingOwnerDeliveryStatus : TaskDeliveryStatus :=
  if task.scopeKind = .system then .notApplicable else .parentMissing

/-- `enqueueSystemEvent` for the owner's session, if there is one. -/
def queueTaskSystemEvent (text : TaskEventText) : RegistryCall Unit :=
  change fun world =>
    match normalizeOptionalString (world.resolveTaskDeliveryOwner env task).sessionKey with
    | none => world
    | some sessionKey =>
      { world with
        systemEvents := world.systemEvents ++ [⟨task.taskId, sessionKey, text⟩] }

def queueBlockedTaskFollowup : RegistryCall Unit :=
  if task.terminalOutcome = some .blocked && task.status = .succeeded then
    queueTaskSystemEvent env task .blockedFollowup
  else return ()

def setDeliveryStatus (taskId : JsString) (deliveryStatus : TaskDeliveryStatus) :
    RegistryCall Unit := do
  let now ← dateNow env
  let _ ← updateTask env taskId
    { deliveryStatus := some deliveryStatus
      lastEventAt := some (some now) }

def dropPendingDelivery (taskId : JsString) : RegistryCall Unit :=
  change fun world =>
    { world with
      tasksWithPendingDelivery :=
        world.tasksWithPendingDelivery.filter fun other => other ≠ taskId }

def deliverTaskTerminalUpdate (latest : TaskRecord) : RegistryCall Bool := do
  let preferred ← read fun world =>
    if (orElse latest.runId none).isSome then
      pickPreferredRunIdTask (world.getPeerTasksForDelivery latest)
    else none
  if shouldSuppressDuplicateTerminalDelivery latest preferred then do
    setDeliveryStatus env latest.taskId .notApplicable
    return false
  else do
    let owner ← read fun world => world.resolveTaskDeliveryOwner env latest
    match normalizeOptionalString owner.sessionKey with
    | none => do
        setDeliveryStatus env latest.taskId (resolveMissingOwnerDeliveryStatus latest)
        return false
    | some _ =>
      if ← read fun world => world.canDeliverTaskToRequesterOrigin env latest then do
        change fun world =>
          { world with
            terminalDeliveries := world.terminalDeliveries.push ⟨latest, .loading⟩ }
        return true
      else do
        rescue (do
            queueTaskSystemEvent env latest .terminal
            queueBlockedTaskFollowup env latest
            setDeliveryStatus env latest.taskId .sessionQueued)
          fun _ => setDeliveryStatus env latest.taskId .failed
        return false

def maybeDeliverTaskTerminalUpdate (taskId : JsString) : RegistryCall Unit := do
  match ← read fun world => world.tasks.lookup taskId with
  | none => return ()
  | some current =>
    if !shouldAutoDeliverTaskTerminalUpdate current then return ()
    else if taskId ∈ (← read World.tasksWithPendingDelivery) then return ()
    else do
      change fun world =>
        { world with
          tasksWithPendingDelivery := world.tasksWithPendingDelivery ++ [taskId] }
      let waits ← rescue (deliverTaskTerminalUpdate env current) fun failure => do
        dropPendingDelivery taskId
        fail failure
      if waits then return () else dropPendingDelivery taskId

def putTerminalDelivery (index : ℕ) (delivery : TerminalDelivery) :
    RegistryCall Unit :=
  change fun world =>
    { world with
      terminalDeliveries := world.terminalDeliveries.put index delivery }

/-- What is done instead when the runtime or `sendMessage` has failed. -/
def fallBackToSessionDelivery (latest : TaskRecord) : RegistryCall Unit := do
  queueTaskSystemEvent env latest .terminal
  queueBlockedTaskFollowup env latest
  setDeliveryStatus env latest.taskId .failed

def finallyDropPending (taskId : JsString) (body : RegistryCall Unit) :
    RegistryCall Unit := do
  rescue body fun failure => do
    dropPendingDelivery taskId
    fail failure
  dropPendingDelivery taskId

def deliveryRuntimeLoads (index : ℕ) (latest : TaskRecord) (loaded : Bool) :
    RegistryCall Unit :=
  if loaded then putTerminalDelivery index ⟨latest, .sending⟩
  else do
    putTerminalDelivery index ⟨latest, .failed⟩
    finallyDropPending latest.taskId (fallBackToSessionDelivery env latest)

def sendMessageSettles (index : ℕ) (latest : TaskRecord) (sent : Bool) :
    RegistryCall Unit := do
  putTerminalDelivery index ⟨latest, if sent then .sent else .failed⟩
  finallyDropPending latest.taskId (if sent then
      rescue (do
          queueBlockedTaskFollowup env latest
          setDeliveryStatus env latest.taskId .delivered)
        fun _ => fallBackToSessionDelivery env latest
    else fallBackToSessionDelivery env latest)

inductive TaskEventKind
  | status (status : TaskStatus)
  | progress

structure TaskEventRecord where
  eventAt : ℤ
  kind : TaskEventKind
  summary : Option JsString

/-- Whether `formatTaskStateChangeMessage` has a text for the event. -/
def hasStateChangeMessage (event : TaskEventRecord) : Bool :=
  match event.kind with
  | .status status => status = .running
  | .progress => env.sanitizeTaskStatusText event.summary ≠ []

def touchTask (taskId : JsString) : RegistryCall Unit := do
  let now ← dateNow env
  let _ ← updateTask env taskId { lastEventAt := some (some now) }

/-- From the call up to the first `await`; failures are logged. -/
def maybeDeliverTaskStateChangeUpdate (taskId : JsString)
    (latestEvent : Option TaskEventRecord) : RegistryCall Unit := do
  match ← read fun world => world.tasks.lookup taskId with
  | none => return ()
  | some current =>
    if !shouldAutoDeliverTaskStateChange current then return ()
    else do
      let deliveryState ← read fun world => world.taskDeliveryStates.lookup taskId
      match latestEvent with
      | none => return ()
      | some latestEvent =>
        if latestEvent.eventAt ≤
            ((deliveryState.bind lastNotifiedEventAt).getD 0) ||
            !hasStateChangeMessage env latestEvent then return ()
        else attempt do
          let owner ← read fun world =>
            world.resolveTaskDeliveryOwner env current
          let origin := deliveryState.bind requesterOrigin
          match normalizeOptionalString owner.sessionKey with
          | none =>
            setDeliveryStatus env taskId (resolveMissingOwnerDeliveryStatus current)
          | some _ =>
            if ← read fun world =>
                world.canDeliverTaskToRequesterOrigin env current then
              change fun world =>
                { world with
                  stateChangeDeliveries := world.stateChangeDeliveries.push
                    ⟨taskId, latestEvent.eventAt, origin, .loading⟩ }
            else do
              queueTaskSystemEvent env current .stateChange
              upsertTaskDeliveryState env taskId origin (some latestEvent.eventAt)
              touchTask env taskId

def stateChangeDeliveryAdvances (index : ℕ) (delivery : StateChangeDelivery)
    (succeeds : Bool) : RegistryCall Unit :=
  let put := fun phase => change fun world : World =>
    { world with
      stateChangeDeliveries :=
        world.stateChangeDeliveries.put index { delivery with phase := phase } }
  if !succeeds then put .failed
  else
    match delivery.phase with
    | .loading => put .sending
    | .sending => do
        put .sent
        attempt do
          upsertTaskDeliveryState env delivery.taskId delivery.requesterOrigin
            (some delivery.eventAt)
          touchTask env delivery.taskId
    | .sent => return ()
    | .failed => return ()

/-! ## Creating tasks -/

structure TaskCreateParams where
  runtime : TaskRuntime
  taskKind : Option JsString := none
  sourceId : Option JsString := none
  requesterSessionKey : Option JsString := none
  ownerKey : Option JsString := none
  scopeKind : Option TaskScopeKind := none
  requesterOrigin : Option DeliveryContext := none
  childSessionKey : Option JsString := none
  parentFlowId : Option JsString := none
  parentTaskId : Option JsString := none
  agentId : Option JsString := none
  runId : Option JsString := none
  label : Option JsString := none
  task : JsString
  preferMetadata : Bool := false
  status : Option TaskStatus := none
  deliveryStatus : Option TaskDeliveryStatus := none
  notifyPolicy : Option TaskNotifyPolicy := none
  startedAt : Option ℤ := none
  lastEventAt : Option ℤ := none
  cleanupAfter : Option ℤ := none
  progressSummary : Option JsString := none
  terminalSummary : Option JsString := none
  terminalOutcome : Option TaskTerminalOutcome := none

variable (params : TaskCreateParams)

def resolveTaskRequesterSessionKey : JsString :=
  match normalizeOptionalString params.requesterSessionKey with
  | some requesterSessionKey => requesterSessionKey
  | none =>
    if params.scopeKind = some .system then [] else orEmpty params.ownerKey

def resolveTaskScopeKind : TaskScopeKind :=
  params.scopeKind.getD (if (nonBlank (resolveTaskRequesterSessionKey params)).isSome then .session
    else .system)

def resolveTaskOwnerKey : JsString :=
  (normalizeOptionalString params.ownerKey).getD (trim (resolveTaskRequesterSessionKey params))

def ensureDeliveryStatus (ownerKey : JsString) (scopeKind : TaskScopeKind) :
    TaskDeliveryStatus :=
  if scopeKind = .system then .notApplicable
  else if (nonBlank ownerKey).isSome then .pending
  else .parentMissing

def ensureNotifyPolicy (notifyPolicy : Option TaskNotifyPolicy)
    (deliveryStatus : Option TaskDeliveryStatus) (ownerKey : JsString)
    (scopeKind : TaskScopeKind) : TaskNotifyPolicy :=
  notifyPolicy.getD (if deliveryStatus.getD (ensureDeliveryStatus ownerKey scopeKind) =
        .notApplicable then .silent
    else .doneOnly)

/-- `value.replace(/\s+/g, " ")`. -/
def collapseSpaces : JsString → JsString
  | [] => []
  | [unit] => [if isSpace unit then 0x20 else unit]
  | unit :: next :: rest =>
    if isSpace unit && isSpace next then collapseSpaces (next :: rest)
    else (if isSpace unit then 0x20 else unit) :: collapseSpaces (next :: rest)

def normalizeTaskSummary (value : Option JsString) : Option JsString :=
  value.bind fun text => nonBlank (collapseSpaces text)

def resolveTaskTerminalOutcome (status : TaskStatus)
    (terminalOutcome : Option TaskTerminalOutcome) : Option TaskTerminalOutcome :=
  terminalOutcome.or (if status = .succeeded then some .succeeded else none)

def World.parentFlowLinkError (world : World) (ownerKey : JsString)
    (scopeKind : TaskScopeKind) (parentFlowId : Option JsString) :
    Option ParentFlowLinkErrorCode :=
  match normalizeOptionalString parentFlowId with
  | none => none
  | some flowId =>
    if scopeKind ≠ .session then some .scopeKindNotSession
    else
      match world.getTaskFlowById flowId with
      | none => some .parentFlowNotFound
      | some flow =>
        if nonBlank flow.ownerKey ≠ nonBlank ownerKey then
          some .ownerKeyMismatch
        else if flow.cancelRequestedAt.isSome then some .cancelRequested
        else if isTerminalFlowStatus flow.status then some .terminal
        else none

def assertParentFlowLinkAllowed (ownerKey : JsString) (scopeKind : TaskScopeKind)
    (parentFlowId : Option JsString) : RegistryCall Unit := do
  match ← read fun world =>
      world.parentFlowLinkError ownerKey scopeKind parentFlowId with
  | some code => fail (.parentFlowLink code)
  | none => return ()

def World.findExistingTaskForCreate (world : World) (params : TaskCreateParams)
    (ownerKey : JsString) (scopeKind : TaskScopeKind) : Option TaskRecord :=
  (normalizeOptionalString params.runId).bind fun runId =>
    let runScopeMatches := (world.getTasksByRunId runId).filter fun task =>
      task.runtime = params.runtime && task.scopeKind = scopeKind &&
        orEmpty (some task.ownerKey) = orEmpty (some ownerKey) &&
        orEmpty task.childSessionKey = orEmpty params.childSessionKey &&
        orEmpty task.parentFlowId = orEmpty params.parentFlowId
    let exact := runScopeMatches.find? fun task =>
      orEmpty task.label = orEmpty params.label &&
        orEmpty (some task.task) = orEmpty (some params.task)
    exact.or (if params.runtime = .acp then pickPreferredRunIdTask runScopeMatches
      else none)

def fillIn (value old : Option JsString) : Option (Option JsString) :=
  match normalizeOptionalString value, normalizeOptionalString old with
  | some value, none => some (some value)
  | _, _ => none

/-- What a repeated `create` changes in the task that exists. -/
def mergePatch (existing : TaskRecord) (params : TaskCreateParams) : TaskPatch :=
  let notifyPolicy := ensureNotifyPolicy params.notifyPolicy
    params.deliveryStatus existing.ownerKey existing.scopeKind
  { sourceId := fillIn params.sourceId existing.sourceId
    taskKind := fillIn params.taskKind existing.taskKind
    parentFlowId := fillIn params.parentFlowId existing.parentFlowId
    parentTaskId := fillIn params.parentTaskId existing.parentTaskId
    agentId := fillIn params.agentId existing.agentId
    label :=
      if params.preferMetadata then
        match normalizeOptionalString params.label with
        | none => none
        | some label =>
          if orEmpty existing.label = label then none else some (some label)
      else fillIn params.label existing.label
    task :=
      if params.preferMetadata then
        match nonBlank params.task with
        | none => none
        | some task =>
          if orEmpty (some existing.task) = task then none else some task
      else none
    deliveryStatus :=
      if params.deliveryStatus = some .pending &&
          existing.deliveryStatus ≠ .delivered then some .pending
      else none
    notifyPolicy :=
      if notifyPolicy ≠ existing.notifyPolicy &&
          existing.notifyPolicy = .silent then some notifyPolicy
      else none }

/-- The origin of a repeated `create` counts if none is known. -/
def rememberRequesterOrigin (taskId : JsString)
    (requesterOrigin : Option DeliveryContext) : RegistryCall Unit := do
  let current ← read fun world => world.taskDeliveryStates.lookup taskId
  if requesterOrigin.isSome && (current.bind TaskDeliveryState.requesterOrigin).isNone then
    upsertTaskDeliveryState env taskId requesterOrigin
      (current.bind TaskDeliveryState.lastNotifiedEventAt)
  else return ()

def mergeExistingTaskForCreate (existing : TaskRecord)
    (params : TaskCreateParams) : RegistryCall TaskRecord := do
  rememberRequesterOrigin env existing.taskId
    (params.requesterOrigin.bind env.normalizeDeliveryContext)
  assertParentFlowLinkAllowed existing.ownerKey existing.scopeKind
    (fillIn params.parentFlowId existing.parentFlowId).join
  if mergePatch existing params = {} then return existing
  else do
    let updated ← updateTask env existing.taskId (mergePatch existing params)
    return updated.getD existing

def buildTaskRecord (params : TaskCreateParams) (taskId : JsString) (now : ℤ) :
    TaskRecord :=
  let requesterSessionKey := resolveTaskRequesterSessionKey params
  let scopeKind := resolveTaskScopeKind params
  let ownerKey := resolveTaskOwnerKey params
  let status := params.status.getD .queued
  let deliveryStatus := params.deliveryStatus.getD (ensureDeliveryStatus ownerKey scopeKind)
  let lastEventAt := (params.lastEventAt.or params.startedAt).getD now
  { taskId := taskId
    runtime := params.runtime
    taskKind := normalizeOptionalString params.taskKind
    sourceId := normalizeOptionalString params.sourceId
    requesterSessionKey := requesterSessionKey
    ownerKey := ownerKey
    scopeKind := scopeKind
    childSessionKey := params.childSessionKey
    parentFlowId := normalizeOptionalString params.parentFlowId
    parentTaskId := normalizeOptionalString params.parentTaskId
    agentId := normalizeOptionalString params.agentId
    runId := normalizeOptionalString params.runId
    label := normalizeOptionalString params.label
    task := params.task
    status := status
    deliveryStatus := deliveryStatus
    notifyPolicy := ensureNotifyPolicy params.notifyPolicy (some deliveryStatus) ownerKey scopeKind
    createdAt := now
    startedAt := params.startedAt
    endedAt := none
    lastEventAt := some lastEventAt
    cleanupAfter :=
      params.cleanupAfter.or (if isTerminalTaskStatus status then
          some (lastEventAt + DEFAULT_TASK_RETENTION_MS)
        else none)
    error := none
    progressSummary := normalizeTaskSummary params.progressSummary
    terminalSummary := normalizeTaskSummary params.terminalSummary
    terminalOutcome := resolveTaskTerminalOutcome status params.terminalOutcome }

def deliverIfTerminal (record : TaskRecord) : RegistryCall Unit :=
  if isTerminalTaskStatus record.status then
    attempt (maybeDeliverTaskTerminalUpdate env record.taskId)
  else return ()

def addTaskRecord : RegistryCall TaskRecord := do
  let now ← dateNow env
  let taskId ← newUUID env
  let record := buildTaskRecord params taskId now
  change fun world =>
    { world with tasks := set taskId record world.tasks }
  upsertTaskDeliveryState env taskId (params.requesterOrigin.bind env.normalizeDeliveryContext) none
  change (World.addIndexes taskId record)
  persist env
  attempt (syncFlowFromTask env record)
  deliverIfTerminal env record
  return record

def assertTaskOwner (ownerKey : JsString) (scopeKind : TaskScopeKind) :
    RegistryCall Unit :=
  if (nonBlank ownerKey).isNone && scopeKind ≠ .system then
    fail .taskOwnerKeyRequired
  else return ()

def createTaskRecord : RegistryCall TaskRecord := do
  let scopeKind := resolveTaskScopeKind params
  let ownerKey := resolveTaskOwnerKey params
  assertTaskOwner ownerKey scopeKind
  assertParentFlowLinkAllowed ownerKey scopeKind params.parentFlowId
  match ← read fun world =>
      world.findExistingTaskForCreate params ownerKey scopeKind with
  | some existing => mergeExistingTaskForCreate env existing params
  | none => addTaskRecord env params

/-! ## Updating tasks -/

def taskRunScopeKey : TaskRuntime × TaskScopeKind × JsString × JsString :=
  (task.runtime, task.scopeKind, orEmpty (some task.ownerKey), orEmpty task.childSessionKey)

def World.getTasksByRunScope (world : World) (runId : JsString)
    (runtime : Option TaskRuntime) (sessionKey : Option JsString) :
    List TaskRecord :=
  let found := (world.getTasksByRunId runId).filter fun task =>
    runtime.all fun runtime => task.runtime = runtime
  match normalizeOptionalString sessionKey with
  | some sessionKey =>
    let childMatches := found.filter fun task =>
      normalizeOptionalString task.childSessionKey = some sessionKey
    if childMatches ≠ [] then childMatches
    else
      found.filter fun task =>
        task.scopeKind = .session && nonBlank task.ownerKey = some sessionKey
  | none => if (found.map taskRunScopeKey).dedup.length ≤ 1 then found else []

structure TaskStateUpdate where
  runId : JsString
  runtime : Option TaskRuntime := none
  sessionKey : Option JsString := none
  status : Option TaskStatus := none
  startedAt : Option ℤ := none
  endedAt : Option ℤ := none
  lastEventAt : Option ℤ := none
  error : Option JsString := none
  progressSummary : Option (Option JsString) := none
  terminalSummary : Option (Option JsString) := none
  terminalOutcome : Option (Option TaskTerminalOutcome) := none
  eventSummary : Option JsString := none

def TaskStateUpdate.patch (params : TaskStateUpdate) (current : TaskRecord) : TaskPatch where
  status := params.status
  startedAt := params.startedAt.map some
  endedAt := params.endedAt.map some
  lastEventAt := params.lastEventAt.map some
  error := params.error.map some
  progressSummary := params.progressSummary.map normalizeTaskSummary
  terminalSummary := params.terminalSummary.map normalizeTaskSummary
  terminalOutcome := params.terminalOutcome.map fun terminalOutcome =>
    resolveTaskTerminalOutcome (params.status.getD current.status) terminalOutcome

def TaskStateUpdate.event (params : TaskStateUpdate) (current : TaskRecord)
    (eventAt : ℤ) : Option TaskEventRecord :=
  let nextStatus := params.status.getD current.status
  let summary := (normalizeTaskSummary params.eventSummary).or (match nextStatus with
    | .failed => normalizeTaskSummary (params.error.or current.error)
    | .succeeded =>
      normalizeTaskSummary (params.terminalSummary.join.or current.terminalSummary)
    | _ => none)
  let changes := nextStatus ≠ current.status
  if changes || (normalizeTaskSummary params.eventSummary).isSome then
    some
      { eventAt := eventAt
        kind := if changes then .status nextStatus else .progress
        summary := normalizeTaskSummary summary }
  else none

def updateTaskStateByRunId (params : TaskStateUpdate) : RegistryCall Unit := do
  let found ← read fun world =>
    world.getTasksByRunScope params.runId params.runtime params.sessionKey
  forEach (fun current => do
      let eventAt ← orNow env (params.lastEventAt.or params.endedAt)
      match ← updateTask env current.taskId (params.patch current) with
      | none => return ()
      | some _ => do
          attempt (maybeDeliverTaskStateChangeUpdate env current.taskId
            (params.event current eventAt))
          attempt (maybeDeliverTaskTerminalUpdate env current.taskId))
    found

def setTaskRunDeliveryStatusByRunId (runId : JsString)
    (runtime : Option TaskRuntime) (sessionKey : Option JsString)
    (deliveryStatus : TaskDeliveryStatus) : RegistryCall Unit := do
  let found ← read fun world => world.getTasksByRunScope runId runtime sessionKey
  forEach (fun current => do
      let _ ← updateTask env current.taskId { deliveryStatus := some deliveryStatus })
    found

inductive AgentPhase
  | start
  | finish
  | error
  | other

structure AgentLifecycle where
  phase : AgentPhase
  startedAt : Option ℤ
  endedAt : Option ℤ
  aborted : Bool
  error : Option JsString

inductive AgentStream
  | lifecycle (data : AgentLifecycle)
  | error (error : Option JsString)
  | other

structure AgentEvent where
  runId : JsString
  sessionKey : Option JsString
  ts : ℤ
  stream : AgentStream

def AgentEvent.patch (event : AgentEvent) (now : ℤ) (current : TaskRecord) :
    TaskPatch :=
  match event.stream with
  | .lifecycle data =>
    let startedAt := (data.startedAt.or current.startedAt).filter (· ≠ 0)
    let timed : TaskPatch :=
      { lastEventAt := some (some now)
        startedAt := startedAt.map some }
    match data.phase with
    | .start => { timed with status := some .running }
    | .finish =>
      { timed with
        status := some (if data.aborted then .timedOut else .succeeded)
        endedAt := some (some (data.endedAt.getD now)) }
    | .error =>
      { timed with
        status := some .failed
        endedAt := some (some (data.endedAt.getD now))
        error := some (data.error.or current.error) }
    | .other => timed
  | .error error =>
    { lastEventAt := some (some now)
      error := some (error.or current.error) }
  | .other => { lastEventAt := some (some now) }

def AgentEvent.stateChange (patch : TaskPatch) (now : ℤ) (current : TaskRecord) :
    Option TaskEventRecord :=
  match patch.status with
  | none => none
  | some status =>
    if status = current.status then none
    else
      some
        { eventAt := now
          kind := .status status
          summary := normalizeTaskSummary (match status with
            | .failed => patch.error.join.or current.error
            | .succeeded => current.terminalSummary
            | _ => none) }

def handleAgentEvent (event : AgentEvent) : RegistryCall Unit := do
  let scopedTasks ← read fun world =>
    world.getTasksByRunScope event.runId none event.sessionKey
  if scopedTasks = [] then return ()
  else do
    let now ← orNow env (if event.ts = 0 then none else some event.ts)
    forEach (fun current => do
        if isTerminalTaskStatus current.status then return ()
        else do
          let patch := event.patch now current
          match ← updateTask env current.taskId patch with
          | none => return ()
          | some _ => do
              attempt (maybeDeliverTaskStateChangeUpdate env current.taskId
                (AgentEvent.stateChange patch now current))
              attempt (maybeDeliverTaskTerminalUpdate env current.taskId))
      scopedTasks

def setTaskProgressById (taskId : JsString)
    (progressSummary : Option (Option JsString)) (lastEventAt : Option ℤ) :
    RegistryCall Unit := do
  let _ ← updateTask env taskId
    { progressSummary := progressSummary.map normalizeTaskSummary
      lastEventAt := lastEventAt.map some }

def setTaskTimingById (taskId : JsString)
    (startedAt endedAt lastEventAt : Option ℤ) : RegistryCall Unit := do
  let _ ← updateTask env taskId
    { startedAt := startedAt.map some
      endedAt := endedAt.map some
      lastEventAt := lastEventAt.map some }

def setTaskCleanupAfterById (taskId : JsString) (cleanupAfter : ℤ) :
    RegistryCall Unit := do
  let _ ← updateTask env taskId { cleanupAfter := some (some cleanupAfter) }

def updateTaskNotifyPolicyById (taskId : JsString)
    (notifyPolicy : TaskNotifyPolicy) : RegistryCall Unit := do
  let now ← dateNow env
  let _ ← updateTask env taskId
    { notifyPolicy := some notifyPolicy
      lastEventAt := some (some now) }

structure TaskTerminalMark where
  status : TaskStatus
  endedAt : ℤ
  lastEventAt : Option ℤ := none
  error : Option JsString := none
  terminalSummary : Option (Option JsString) := none
  terminalOutcome : Option (Option TaskTerminalOutcome) := none

def TaskTerminalMark.patch (params : TaskTerminalMark) : TaskPatch where
  status := some params.status
  endedAt := some (some params.endedAt)
  lastEventAt := some (some (params.lastEventAt.getD params.endedAt))
  error := params.error.map some
  terminalSummary := params.terminalSummary.map normalizeTaskSummary
  terminalOutcome := params.terminalOutcome.map (resolveTaskTerminalOutcome params.status)

def markTaskTerminalById (taskId : JsString) (params : TaskTerminalMark) :
    RegistryCall Unit := do
  let _ ← updateTask env taskId params.patch

def taskLostPatch (endedAt : ℤ) (lastEventAt : Option ℤ)
    (error : Option JsString) (cleanupAfter : Option ℤ) : TaskPatch where
  status := some .lost
  endedAt := some (some endedAt)
  lastEventAt := some (some (lastEventAt.getD endedAt))
  error := error.map some
  cleanupAfter := cleanupAfter.map some

def markTaskLostById (taskId : JsString) (endedAt : ℤ)
    (lastEventAt : Option ℤ) (error : Option JsString)
    (cleanupAfter : Option ℤ) : RegistryCall Unit := do
  let _ ← updateTask env taskId (taskLostPatch endedAt lastEventAt error cleanupAfter)

def linkPatch : TaskPatch where
  parentFlowId := some (some flowId)

def linkTaskToFlowById (taskId flowId : JsString) : RegistryCall (Option TaskRecord) := do
  match nonBlank flowId with
  | none => return none
  | some flowId => do
      match ← read fun world => world.tasks.lookup taskId with
      | none => return none
      | some current =>
        if (normalizeOptionalString current.parentFlowId).isSome then
          return some current
        else do
          assertParentFlowLinkAllowed current.ownerKey current.scopeKind (some flowId)
          updateTask env taskId (linkPatch flowId)

def cancelledPatch (endedAt lastEventAt : ℤ) : TaskPatch where
  status := some .cancelled
  endedAt := some (some endedAt)
  lastEventAt := some (some lastEventAt)
  error := some (some (js "Cancelled by operator."))

def markCancelled (taskId : JsString) : RegistryCall Unit :=
  attempt do
    let endedAt ← dateNow env
    let lastEventAt ← dateNow env
    match ← updateTask env taskId (cancelledPatch endedAt lastEventAt) with
    | none => return ()
    | some updated => attempt (maybeDeliverTaskTerminalUpdate env updated.taskId)

def waitForChildSession : RegistryCall (Option ℕ) :=
  if (normalizeOptionalString task.childSessionKey).isNone then return none
  else do
    let index ← read fun world => world.cancels.size
    change fun world =>
      { world with
        cancels := world.cancels.push ⟨task.taskId, task.runtime, true⟩ }
    return some index

/-- From the call up to the first `await`; the call that waits, if it does. -/
def cancelTaskById (taskId : JsString) : RegistryCall (Option ℕ) := do
  match ← read fun world => world.tasks.lookup (trim taskId) with
  | none => return none
  | some task =>
    if isTerminalTaskStatus task.status then return none
    else
      match task.runtime with
      | .cli => do
          markCancelled env task.taskId
          return none
      | .cron => return none
      | .acp | .subagent => waitForChildSession task

def cancelSettles (index : ℕ) (cancel : TaskCancel) (killed : Bool) :
    RegistryCall Unit := do
  change fun world =>
    { world with
      cancels := world.cancels.put index { cancel with waiting := false } }
  if killed then markCancelled env cancel.taskId else return ()

end LittleBaby.TaskRegistry
