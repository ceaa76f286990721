import LittleBaby.Entries
import LittleBaby.JsString
import Mathlib.Data.Int.Notation

/-!
# Task records and task flow records

The records of the two registries and the pure functions on them.  Times are
whole numbers of milliseconds.  A patch is a partial record: a field that is
present replaces the old one, also by `undefined` where the field may be
missing.
-/

namespace LittleBaby.TaskRegistry

open JsString

inductive TaskRuntime
  | subagent
  | acp
  | cli
  | cron
  deriving DecidableEq

inductive TaskStatus
  | queued
  | running
  | succeeded
  | failed
  | timedOut
  | cancelled
  | lost
  deriving DecidableEq

inductive TaskDeliveryStatus
  | pending
  | delivered
  | sessionQueued
  | failed
  | parentMissing
  | notApplicable
  deriving DecidableEq

inductive TaskNotifyPolicy
  | doneOnly
  | stateChanges
  | silent
  deriving DecidableEq

inductive TaskTerminalOutcome
  | succeeded
  | blocked
  deriving DecidableEq

inductive TaskScopeKind
  | session
  | system
  deriving DecidableEq

structure DeliveryContext where
  channel : Option JsString
  «to» : Option JsString
  accountId : Option JsString
  threadId : Option JsString

structure TaskDeliveryState where
  taskId : JsString
  requesterOrigin : Option DeliveryContext
  lastNotifiedEventAt : Option ℤ

structure TaskRecord where
  taskId : JsString
  runtime : TaskRuntime
  taskKind : Option JsString
  sourceId : Option JsString
  requesterSessionKey : JsString
  ownerKey : JsString
  scopeKind : TaskScopeKind
  childSessionKey : Option JsString
  parentFlowId : Option JsString
  parentTaskId : Option JsString
  agentId : Option JsString
  runId : Option JsString
  label : Option JsString
  task : JsString
  status : TaskStatus
  deliveryStatus : TaskDeliveryStatus
  notifyPolicy : TaskNotifyPolicy
  createdAt : ℤ
  startedAt : Option ℤ
  endedAt : Option ℤ
  lastEventAt : Option ℤ
  cleanupAfter : Option ℤ
  error : Option JsString
  progressSummary : Option JsString
  terminalSummary : Option JsString
  terminalOutcome : Option TaskTerminalOutcome

/-- `Partial<TaskRecord>`, but for the identifier. -/
structure TaskPatch where
  runtime : Option TaskRuntime := none
  taskKind : Option (Option JsString) := none
  sourceId : Option (Option JsString) := none
  requesterSessionKey : Option JsString := none
  ownerKey : Option JsString := none
  scopeKind : Option TaskScopeKind := none
  childSessionKey : Option (Option JsString) := none
  parentFlowId : Option (Option JsString) := none
  parentTaskId : Option (Option JsString) := none
  agentId : Option (Option JsString) := none
  runId : Option (Option JsString) := none
  label : Option (Option JsString) := none
  task : Option JsString := none
  status : Option TaskStatus := none
  deliveryStatus : Option TaskDeliveryStatus := none
  notifyPolicy : Option TaskNotifyPolicy := none
  createdAt : Option ℤ := none
  startedAt : Option (Option ℤ) := none
  endedAt : Option (Option ℤ) := none
  lastEventAt : Option (Option ℤ) := none
  cleanupAfter : Option (Option ℤ) := none
  error : Option (Option JsString) := none
  progressSummary : Option (Option JsString) := none
  terminalSummary : Option (Option JsString) := none
  terminalOutcome : Option (Option TaskTerminalOutcome) := none
  deriving DecidableEq

/-- `{ ...current, ...patch }`. -/
def TaskRecord.apply (current : TaskRecord) (patch : TaskPatch) : TaskRecord where
  taskId := current.taskId
  runtime := patch.runtime.getD current.runtime
  taskKind := patch.taskKind.getD current.taskKind
  sourceId := patch.sourceId.getD current.sourceId
  requesterSessionKey := patch.requesterSessionKey.getD current.requesterSessionKey
  ownerKey := patch.ownerKey.getD current.ownerKey
  scopeKind := patch.scopeKind.getD current.scopeKind
  childSessionKey := patch.childSessionKey.getD current.childSessionKey
  parentFlowId := patch.parentFlowId.getD current.parentFlowId
  parentTaskId := patch.parentTaskId.getD current.parentTaskId
  agentId := patch.agentId.getD current.agentId
  runId := patch.runId.getD current.runId
  label := patch.label.getD current.label
  task := patch.task.getD current.task
  status := patch.status.getD current.status
  deliveryStatus := patch.deliveryStatus.getD current.deliveryStatus
  notifyPolicy := patch.notifyPolicy.getD current.notifyPolicy
  createdAt := patch.createdAt.getD current.createdAt
  startedAt := patch.startedAt.getD current.startedAt
  endedAt := patch.endedAt.getD current.endedAt
  lastEventAt := patch.lastEventAt.getD current.lastEventAt
  cleanupAfter := patch.cleanupAfter.getD current.cleanupAfter
  error := patch.error.getD current.error
  progressSummary := patch.progressSummary.getD current.progressSummary
  terminalSummary := patch.terminalSummary.getD current.terminalSummary
  terminalOutcome := patch.terminalOutcome.getD current.terminalOutcome

def normalizeOptionalString (value : Option JsString) : Option JsString := value.bind nonBlank

/-- `normalizeOptionalString(value) ?? ""`. -/
def orEmpty (value : Option JsString) : JsString := (normalizeOptionalString value).getD []

def isTerminalTaskStatus : TaskStatus → Bool
  | .succeeded => true
  | .failed => true
  | .timedOut => true
  | .cancelled => true
  | .lost => true
  | .queued => false
  | .running => false

def isActiveTaskStatus : TaskStatus → Bool
  | .queued => true
  | .running => true
  | _ => false

inductive TaskFlowSyncMode
  | taskMirrored
  | managed
  deriving DecidableEq

inductive TaskFlowStatus
  | queued
  | running
  | waiting
  | blocked
  | succeeded
  | failed
  | cancelled
  | lost
  deriving DecidableEq

structure TaskFlowRecord where
  flowId : JsString
  syncMode : TaskFlowSyncMode
  ownerKey : JsString
  requesterOrigin : Option DeliveryContext
  controllerId : Option JsString
  revision : ℕ
  status : TaskFlowStatus
  notifyPolicy : TaskNotifyPolicy
  goal : JsString
  currentStep : Option JsString
  blockedTaskId : Option JsString
  blockedSummary : Option JsString
  stateJson : Option JsString
  waitJson : Option JsString
  cancelRequestedAt : Option ℤ
  createdAt : ℤ
  updatedAt : ℤ
  endedAt : Option ℤ

def isTerminalFlowStatus : TaskFlowStatus → Bool
  | .succeeded => true
  | .failed => true
  | .cancelled => true
  | .lost => true
  | _ => false

def deriveTaskFlowStatusFromTask (task : TaskRecord) : TaskFlowStatus :=
  match task.status with
  | .queued => .queued
  | .running => .running
  | .succeeded =>
    if task.terminalOutcome = some .blocked then .blocked else .succeeded
  | .cancelled => .cancelled
  | .lost => .lost
  | .failed => .failed
  | .timedOut => .failed

end LittleBaby.TaskRegistry
