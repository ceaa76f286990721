import LittleBaby.Arena
import LittleBaby.Entries
import LittleBaby.JsString
import LittleBaby.LabelledMachine

/-!
# The registry of reply runs

A reply operation is registered under its session key until it is cleared.  The
registry keeps the session ids of the active keys, the keys of the active session
ids and of those of the past, and the waiters.  An abort is three steps, since the
listeners and the backend it calls may call back.
-/

namespace LittleBaby.ReplyRuns

open JsString Entries

inductive ReplyOperationPhase
  | queued
  | preflight_compacting
  | memory_flushing
  | running
  | completed
  | failed
  | aborted
  deriving DecidableEq

inductive SettablePhase
  | queued
  | preflight_compacting
  | memory_flushing
  | running

def SettablePhase.toPhase : SettablePhase → ReplyOperationPhase
  | .queued => .queued
  | .preflight_compacting => .preflight_compacting
  | .memory_flushing => .memory_flushing
  | .running => .running

inductive ReplyOperationFailureCode
  | gateway_draining
  | command_lane_cleared
  | session_corruption_reset
  | run_failed
  deriving DecidableEq

inductive ReplyOperationAbortCode
  | aborted_by_user
  | aborted_for_restart
  deriving DecidableEq

inductive ReplyOperationResult
  | completed
  | failed (code : ReplyOperationFailureCode)
  | aborted (code : ReplyOperationAbortCode)
  deriving DecidableEq

inductive ReplyBackendCancelReason
  | user_abort
  | restart
  | superseded

structure ReplyOperation where
  key : JsString
  currentSessionId : JsString
  phase : ReplyOperationPhase
  result : Option ReplyOperationResult
  stateCleared : Bool
  /-- `controller.signal.aborted` -/
  signalAborted : Bool
  /-- the handle in `attachedBackendByOperation` -/
  backend : Option ℕ
  deriving DecidableEq

structure AbortCall where
  operation : ℕ
  phaseBeforeAbort : ReplyOperationPhase
  reason : ReplyBackendCancelReason
  /-- what `getAttachedBackend` gave, once the abort has come so far -/
  attached : Option (Option ℕ)

structure ReplyRunState where
  operations : Arena ReplyOperation
  activeRunsByKey : List (JsString × ℕ)
  activeSessionIdsByKey : List (JsString × JsString)
  activeKeysBySessionId : List (JsString × JsString)
  waitKeysBySessionId : List (JsString × JsString)
  waitersByKey : List (JsString × List ℕ)
  nextWaiter : ℕ
  /-- how the waiters were resolved -/
  waiterResults : List (ℕ × Bool)
  /-- innermost first -/
  abortCalls : List AbortCall
  cancels : List (ℕ × ReplyBackendCancelReason)

def replyRunState : ReplyRunState where
  operations := Arena.empty
  activeRunsByKey := []
  activeSessionIdsByKey := []
  activeKeysBySessionId := []
  waitKeysBySessionId := []
  waitersByKey := []
  nextWaiter := 0
  waiterResults := []
  abortCalls := []
  cancels := []

inductive ReplyRunError
  | missingSessionKey
  | missingSessionId
  | alreadyActive (sessionKey : JsString)
  | cannotRebind (sessionKey sessionId : JsString)

def ReplyRunError.message : ReplyRunError → JsString
  | .missingSessionKey => js "Reply operations require a canonical sessionKey"
  | .missingSessionId => js "Reply operations require a sessionId"
  | .alreadyActive sessionKey =>
    js "Reply run already active for " ++ sessionKey
  | .cannotRebind sessionKey sessionId =>
    js "Cannot rebind reply operation " ++ sessionKey ++ js " to active session " ++ sessionId

variable (sessionKey : JsString) (state : ReplyRunState) (sessionId : JsString)

def registerWaitSessionId (state : ReplyRunState) : ReplyRunState :=
  { state with
    waitKeysBySessionId := set sessionId sessionKey state.waitKeysBySessionId }

def clearWaitSessionIds : ReplyRunState :=
  { state with
    waitKeysBySessionId := state.waitKeysBySessionId.filter fun entry => entry.2 ≠ sessionKey }

def notifyReplyRunEnded : ReplyRunState :=
  match state.waitersByKey.lookup sessionKey with
  | none => state
  | some waiters =>
    { state with
      waitersByKey := erase sessionKey state.waitersByKey
      waiterResults := state.waiterResults ++ waiters.map fun waiter => (waiter, true) }

def resolveReplyRunForCurrentSessionId (state : ReplyRunState) : Option ℕ :=
  (nonBlank sessionId).bind fun normalizedSessionId =>
    (state.activeKeysBySessionId.lookup normalizedSessionId).bind fun sessionKey =>
      state.activeRunsByKey.lookup sessionKey

def resolveReplyRunWaitKey (state : ReplyRunState) : Option JsString :=
  (nonBlank sessionId).bind fun normalizedSessionId =>
    (state.activeKeysBySessionId.lookup normalizedSessionId).or
      (state.waitKeysBySessionId.lookup normalizedSessionId)

def clearReplyRunState (state : ReplyRunState) : ReplyRunState :=
  let cleared :=
    { state with
      activeRunsByKey := erase sessionKey state.activeRunsByKey
      activeSessionIdsByKey := erase sessionKey state.activeSessionIdsByKey
      activeKeysBySessionId :=
        if state.activeKeysBySessionId.lookup sessionId = some sessionKey then
          erase sessionId state.activeKeysBySessionId
        else state.activeKeysBySessionId }
  notifyReplyRunEnded sessionKey (clearWaitSessionIds sessionKey cleared)

def createReplyOperation (sessionKey sessionId : JsString)
    (upstreamAborted : Bool) (state : ReplyRunState) :
    Except ReplyRunError ReplyRunState :=
  match nonBlank sessionKey with
  | none => .error .missingSessionKey
  | some sessionKey =>
    match nonBlank sessionId with
    | none => .error .missingSessionId
    | some sessionId =>
      if (state.activeRunsByKey.lookup sessionKey).isSome then
        .error (.alreadyActive sessionKey)
      else
        .ok (registerWaitSessionId sessionKey sessionId { state with
            operations := state.operations.push
              { key := sessionKey
                currentSessionId := sessionId
                phase := .queued
                result := none
                stateCleared := false
                signalAborted := upstreamAborted
                backend := none }
            activeRunsByKey := set sessionKey state.operations.size state.activeRunsByKey
            activeSessionIdsByKey := set sessionKey sessionId state.activeSessionIdsByKey
            activeKeysBySessionId := set sessionId sessionKey state.activeKeysBySessionId })

section Methods

variable (index : ℕ) (operation : ReplyOperation) (state : ReplyRunState)

def putOperation : ReplyRunState :=
  { state with operations := state.operations.put index operation }

def clearState : ReplyRunState :=
  if operation.stateCleared then putOperation index operation state
  else
    clearReplyRunState operation.key operation.currentSessionId
      (putOperation index { operation with stateCleared := true } state)

def setPhase (next : SettablePhase) : ReplyRunState :=
  if operation.result.isSome then state
  else putOperation index { operation with phase := next.toPhase } state

def updateSessionId (nextSessionId : JsString) : Except ReplyRunError ReplyRunState :=
  if operation.result.isSome then .ok state
  else
    match nonBlank nextSessionId with
    | none => .ok state
    | some normalizedNextSessionId =>
      if normalizedNextSessionId = operation.currentSessionId then .ok state
      else if (state.activeKeysBySessionId.lookup normalizedNextSessionId).isSome ∧
            state.activeKeysBySessionId.lookup normalizedNextSessionId ≠ some operation.key then
        .error (.cannotRebind operation.key normalizedNextSessionId)
      else
        let released := registerWaitSessionId operation.key operation.currentSessionId { state with
            activeKeysBySessionId := erase operation.currentSessionId
              state.activeKeysBySessionId }
        .ok (registerWaitSessionId operation.key normalizedNextSessionId (putOperation index
            { operation with currentSessionId := normalizedNextSessionId }
            { released with
              activeSessionIdsByKey := set operation.key
                normalizedNextSessionId released.activeSessionIdsByKey
              activeKeysBySessionId := set normalizedNextSessionId
                operation.key released.activeKeysBySessionId }))

variable (handle : ℕ)

def cancelHandle (reason : ReplyBackendCancelReason) : ReplyRunState :=
  { state with cancels := state.cancels ++ [(handle, reason)] }

def ReplyOperationResult.cancelReason : ReplyOperationResult → ReplyBackendCancelReason
  | .aborted .aborted_for_restart => .restart
  | .aborted .aborted_by_user => .user_abort
  | .completed => .superseded
  | .failed _ => .superseded

def attachBackend : ReplyRunState :=
  match operation.result with
  | some result => cancelHandle state handle result.cancelReason
  | none =>
    let attached := putOperation index { operation with backend := some handle } state
    if operation.signalAborted then cancelHandle attached handle .superseded
    else attached

def detachBackend : ReplyRunState :=
  if operation.backend = some handle then
    putOperation index { operation with backend := none } state
  else state

def complete : ReplyRunState :=
  let completed :=
    if operation.result.isSome then operation
    else { operation with result := some .completed, phase := .completed }
  clearState index completed state

def fail (code : ReplyOperationFailureCode) : ReplyRunState :=
  let failed :=
    if operation.result.isSome then operation
    else { operation with result := some (.failed code), phase := .failed }
  clearState index failed state

/-- `abortWithReason`, up to the listeners of the signal. -/
def abortWithReason (reason : ReplyBackendCancelReason)
    (abortedCode : ReplyOperationAbortCode) : ReplyRunState :=
  let aborted :=
    putOperation index { operation with
        result := operation.result.or (some (.aborted abortedCode))
        phase := .aborted
        signalAborted := true }
      state
  { aborted with
    abortCalls := ⟨index, operation.phase, reason, none⟩ :: state.abortCalls }

def abortByUser : ReplyRunState :=
  abortWithReason index operation state .user_abort .aborted_by_user

def abortForRestart : ReplyRunState :=
  abortWithReason index operation state .restart .aborted_for_restart

end Methods

/-- The end of `abortWithReason`. -/
def cancelBackend (call : AbortCall) (rest : List AbortCall)
    (operation : ReplyOperation) (state : ReplyRunState) : ReplyRunState :=
  let called :=
    { state with
      abortCalls := { call with attached := some operation.backend } :: rest }
  match operation.backend with
  | none => called
  | some handle => cancelHandle called handle call.reason

/-- The rest of an abort: an operation that was queued is cleared unless the
backend threw. -/
def returnAbort (call : AbortCall) (attached : Option ℕ)
    (operation : ReplyOperation) (threw : Bool) (state : ReplyRunState) :
    ReplyRunState :=
  if attached.isSome && threw then state
  else if call.phaseBeforeAbort = .queued then
    clearState call.operation operation state
  else state

def upstreamAbort (index : ℕ) (operation : ReplyOperation)
    (state : ReplyRunState) : ReplyRunState :=
  putOperation index { operation with signalAborted := true } state

def waitForIdle : ReplyRunState :=
  let immediate :=
    { state with
      nextWaiter := state.nextWaiter + 1
      waiterResults := state.waiterResults ++ [(state.nextWaiter, true)] }
  match nonBlank sessionKey with
  | none => immediate
  | some sessionKey =>
    if (state.activeRunsByKey.lookup sessionKey).isSome then
      let waiters := (state.waitersByKey.lookup sessionKey).getD []
      { state with
        nextWaiter := state.nextWaiter + 1
        waitersByKey := set sessionKey (waiters ++ [state.nextWaiter]) state.waitersByKey }
    else immediate

def waitTimeout (waiter : ℕ) (state : ReplyRunState) : Option ReplyRunState :=
  (state.waitersByKey.lookup sessionKey).bind fun waiters =>
    if waiter ∈ waiters then
      let others := waiters.filter fun other => other ≠ waiter
      some { state with
          waitersByKey :=
            if others = [] then erase sessionKey state.waitersByKey
            else set sessionKey others state.waitersByKey
          waiterResults := state.waiterResults ++ [(waiter, false)] }
    else none

inductive Action
  | begin (sessionKey sessionId : JsString) (upstreamAborted : Bool)
  | setPhase (index : ℕ) (next : SettablePhase)
  | updateSessionId (index : ℕ) (nextSessionId : JsString)
  | attachBackend (index handle : ℕ)
  | detachBackend (index handle : ℕ)
  | complete (index : ℕ)
  | fail (index : ℕ) (code : ReplyOperationFailureCode)
  | abortByUser (index : ℕ)
  | abortForRestart (index : ℕ)
  | cancelBackend
  | returnAbort (threw : Bool)
  | upstreamAbort (index : ℕ)
  | waitForIdle (sessionKey : JsString)
  | waitTimeout (sessionKey : JsString) (waiter : ℕ)

def keepOnError : Except ReplyRunError ReplyRunState → ReplyRunState
  | .error _ => state
  | .ok next => next

def step : Action → Option ReplyRunState
  | .begin sessionKey sessionId upstreamAborted =>
    some (keepOnError state (createReplyOperation sessionKey sessionId upstreamAborted state))
  | .setPhase index next =>
    (state.operations.get? index).map fun operation =>
      setPhase index operation state next
  | .updateSessionId index nextSessionId =>
    (state.operations.get? index).map fun operation =>
      keepOnError state (updateSessionId index operation state nextSessionId)
  | .attachBackend index handle =>
    (state.operations.get? index).map fun operation =>
      attachBackend index operation state handle
  | .detachBackend index handle =>
    (state.operations.get? index).map fun operation =>
      detachBackend index operation state handle
  | .complete index =>
    (state.operations.get? index).map fun operation =>
      complete index operation state
  | .fail index code =>
    (state.operations.get? index).map fun operation =>
      fail index operation state code
  | .abortByUser index =>
    (state.operations.get? index).map fun operation =>
      abortByUser index operation state
  | .abortForRestart index =>
    (state.operations.get? index).map fun operation =>
      abortForRestart index operation state
  | .cancelBackend =>
    match state.abortCalls with
    | [] => none
    | call :: rest =>
      if call.attached.isSome then none
      else
        (state.operations.get? call.operation).map fun operation =>
          cancelBackend call rest operation state
  | .returnAbort threw =>
    match state.abortCalls with
    | [] => none
    | call :: rest =>
      call.attached.bind fun attached =>
        (state.operations.get? call.operation).map fun operation =>
          returnAbort call attached operation threw { state with abortCalls := rest }
  | .upstreamAbort index =>
    (state.operations.get? index).map fun operation =>
      upstreamAbort index operation state
  | .waitForIdle sessionKey => some (waitForIdle sessionKey state)
  | .waitTimeout sessionKey waiter => waitTimeout sessionKey waiter state

/-- The action completes or fails the operation, or ends an abort of the
operation that found it queued. -/
def EndsOperation (index : ℕ) (state : ReplyRunState) : Action → Prop
  | .complete other => other = index
  | .fail other _ => other = index
  | .returnAbort _ =>
    ∃ call ∈ state.abortCalls.head?, call.operation = index ∧ call.phaseBeforeAbort = .queued
  | _ => False

def Registered (index : ℕ) : Prop :=
  ∃ operation, state.operations.get? index = some operation ∧
    state.activeRunsByKey.lookup operation.key = some index

/-- The registered operation of an index can be found by its session id. -/
structure Found (state : ReplyRunState) (index : ℕ)
    (operation : ReplyOperation) : Prop where
  sessionId : state.activeSessionIdsByKey.lookup operation.key = some operation.currentSessionId
  key : state.activeKeysBySessionId.lookup operation.currentSessionId = some operation.key
  run : resolveReplyRunForCurrentSessionId operation.currentSessionId state = some index
  wait : resolveReplyRunWaitKey operation.currentSessionId state = some operation.key

/-- No run begins with the session id of a run under another key, and no
backend throws out of the abort of a queued operation. -/
def Separate : Action → Prop
  | .begin sessionKey sessionId _ =>
    ∀ key ∈ nonBlank sessionKey, ∀ id ∈ nonBlank sessionId,
      state.activeRunsByKey.lookup key = none →
        ∀ other ∈ state.activeKeysBySessionId.lookup id, other = key
  | .returnAbort threw =>
    threw = true → ∀ call ∈ state.abortCalls.head?, call.phaseBeforeAbort ≠ .queued
  | _ => True

end LittleBaby.ReplyRuns
