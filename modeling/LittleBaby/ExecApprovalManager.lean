import LittleBaby.Arena
import LittleBaby.Entries
import LittleBaby.JsString
import LittleBaby.LabelledMachine
import Mathlib.Data.Int.Notation

/-!
# The approval manager

Records, entries and promises are objects that outlive the map they are found
in.  An entry stays in the map for a grace period after it was resolved or has
expired, and its timers fire at any time after they were set.
-/

namespace LittleBaby.ExecApprovals

open JsString

inductive ExecApprovalDecision
  | allowOnce
  | allowAlways
  | deny
  deriving DecidableEq

structure ExecApprovalRecord (TPayload : Type) where
  id : JsString
  request : TPayload
  createdAtMs : ℤ
  expiresAtMs : ℤ
  resolvedAtMs : Option ℤ
  decision : Option ExecApprovalDecision
  resolvedBy : Option JsString

structure PendingEntry where
  record : ℕ
  timer : Bool
  /-- what the promise of the entry has settled with -/
  promise : Option (Option ExecApprovalDecision)

structure ExecApprovalManager (TPayload : Type) where
  records : Arena (ExecApprovalRecord TPayload)
  entries : Arena PendingEntry
  pending : List (JsString × ℕ)
  /-- the timers that remove resolved entries -/
  graceTimers : List (JsString × ℕ)

variable {TPayload : Type}

def ExecApprovalManager.empty : ExecApprovalManager TPayload where
  records := Arena.empty
  entries := Arena.empty
  pending := []
  graceTimers := []

inductive RegisterError
  | unknownRecord
  | alreadyResolved

namespace ExecApprovalManager

variable (manager : ExecApprovalManager TPayload)

def recordOf (index : ℕ) : Option (ExecApprovalRecord TPayload) :=
  (manager.entries.get? index).bind fun entry => manager.records.get? entry.record

variable (recordId : JsString)

def find : Option (ℕ × PendingEntry × ExecApprovalRecord TPayload) :=
  (manager.pending.lookup recordId).bind fun index =>
    (manager.entries.get? index).bind fun entry =>
      (manager.records.get? entry.record).map fun record => (index, entry, record)

def create (request : TPayload) (timeoutMs : ℤ) (id : Option JsString) (now : ℤ)
    (randomUUID : JsString) : ExecApprovalManager TPayload :=
  { manager with
    records := manager.records.push
      { id := (id.bind nonBlank).getD randomUUID
        request := request
        createdAtMs := now
        expiresAtMs := now + timeoutMs
        resolvedAtMs := none
        decision := none
        resolvedBy := none } }

def register (recordIndex : ℕ) : ExecApprovalManager TPayload × Except RegisterError ℕ :=
  match manager.records.get? recordIndex with
  | none => (manager, .error .unknownRecord)
  | some record =>
    match manager.find record.id with
    | some (index, _, existing) =>
      if existing.resolvedAtMs.isNone then (manager, .ok index)
      else (manager, .error .alreadyResolved)
    | none =>
      ({ manager with
          entries := manager.entries.push ⟨recordIndex, true, none⟩
          pending := Entries.set record.id manager.entries.size manager.pending },
        .ok manager.entries.size)

/-- The record is marked as resolved and the promise settles, if it has not. -/
def settle (index : ℕ) (entry : PendingEntry)
    (record : ExecApprovalRecord TPayload) (decision : Option ExecApprovalDecision)
    (resolvedBy : Option JsString) (now : ℤ) : ExecApprovalManager TPayload :=
  { manager with
    records := manager.records.put entry.record { record with
        resolvedAtMs := some now
        decision := decision
        resolvedBy := resolvedBy }
    entries := manager.entries.put index { entry with
        timer := false
        promise := entry.promise.or (some decision) }
    graceTimers := manager.graceTimers ++ [(recordId, index)] }

/-- `resolve` has a decision, `expire` has none. -/
def finish (decision : Option ExecApprovalDecision) (resolvedBy : Option JsString) (now : ℤ) :
    ExecApprovalManager TPayload × Bool :=
  match manager.find recordId with
  | none => (manager, false)
  | some (index, entry, record) =>
    if record.resolvedAtMs.isSome then (manager, false)
    else (manager.settle recordId index entry record decision resolvedBy now, true)

def resolve (decision : ExecApprovalDecision) (resolvedBy : Option JsString) (now : ℤ) :
    ExecApprovalManager TPayload × Bool :=
  manager.finish recordId (some decision) resolvedBy now

def expire (resolvedBy : Option JsString) (now : ℤ) : ExecApprovalManager TPayload × Bool :=
  manager.finish recordId none resolvedBy now

def consumeAllowOnce : ExecApprovalManager TPayload × Bool :=
  match manager.find recordId with
  | none => (manager, false)
  | some (_, entry, record) =>
    if record.decision ≠ some .allowOnce then (manager, false)
    else
      ({ manager with
          records := manager.records.put entry.record { record with decision := none } }, true)

def awaitDecision : Option ℕ := manager.pending.lookup recordId

end ExecApprovalManager

inductive Action (TPayload : Type)
  | create (request : TPayload) (timeoutMs : ℤ) (id : Option JsString) (now : ℤ)
      (randomUUID : JsString)
  | register (record : ℕ)
  | resolve (recordId : JsString) (decision : ExecApprovalDecision)
      (resolvedBy : Option JsString) (now : ℤ)
  | expire (recordId : JsString) (resolvedBy : Option JsString) (now : ℤ)
  /-- the timer of an entry -/
  | timerFires (entry : ℕ) (now : ℤ)
  | graceTimerFires (timer : ℕ)
  | awaitDecision (recordId : JsString)
  | consumeAllowOnce (recordId : JsString)

def disarm (manager : ExecApprovalManager TPayload) (index : ℕ) :
    Option (ExecApprovalManager TPayload × JsString) :=
  (manager.entries.get? index).bind fun entry =>
    if entry.timer then
      (manager.records.get? entry.record).map fun record =>
        ({ manager with
          entries := manager.entries.put index { entry with timer := false } },
          record.id)
    else none

def step (manager : ExecApprovalManager TPayload) :
    Action TPayload → Option (ExecApprovalManager TPayload)
  | .create request timeoutMs id now randomUUID =>
    some (manager.create request timeoutMs id now randomUUID)
  | .register record => some (manager.register record).1
  | .resolve recordId decision resolvedBy now =>
    some (manager.resolve recordId decision resolvedBy now).1
  | .expire recordId resolvedBy now =>
    some (manager.expire recordId resolvedBy now).1
  | .timerFires index now =>
    (disarm manager index).map fun (disarmed, recordId) =>
      (disarmed.expire recordId none now).1
  | .graceTimerFires timer =>
    manager.graceTimers[timer]?.map fun (recordId, index) =>
      { manager with
        graceTimers := manager.graceTimers.eraseIdx timer
        pending :=
          if manager.pending.lookup recordId = some index then
            Entries.erase recordId manager.pending
          else manager.pending }
  | .awaitDecision _ => some manager
  | .consumeAllowOnce recordId => some (manager.consumeAllowOnce recordId).1

end LittleBaby.ExecApprovals
