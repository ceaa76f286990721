import LittleBaby.LabelledMachine
import Mathlib.Data.Int.Notation

/-!
# The reply dispatcher

Every accepted payload of a run adds a link to a chain of promises: a callback
that may sleep and then calls `deliver`, a `catch` that calls `onError`, and a
`finally` that counts the payload down.  The count starts with a reservation that
is released once the run is marked complete and no payload is left.
-/

namespace LittleBaby.ReplyDispatcher

inductive ReplyDispatchKind
  | tool
  | block
  | final
  deriving DecidableEq

inductive HumanDelayMode
  | off
  | natural
  | custom
  deriving DecidableEq

structure HumanDelayConfig where
  mode : Option HumanDelayMode
  minMs : Option ℤ
  maxMs : Option ℤ

def DEFAULT_HUMAN_DELAY_MIN_MS : ℤ := 800

def DEFAULT_HUMAN_DELAY_MAX_MS : ℤ := 2500

/-- `generateSecureInt` draws a number below its argument. -/
def getHumanDelay (config : Option HumanDelayConfig) (generateSecureInt : ℤ → ℤ) : ℤ :=
  let mode := (config.bind HumanDelayConfig.mode).getD .off
  if mode = .off then 0
  else
    let min := if mode = .custom then
        (config.bind HumanDelayConfig.minMs).getD DEFAULT_HUMAN_DELAY_MIN_MS
      else DEFAULT_HUMAN_DELAY_MIN_MS
    let max := if mode = .custom then
        (config.bind HumanDelayConfig.maxMs).getD DEFAULT_HUMAN_DELAY_MAX_MS
      else DEFAULT_HUMAN_DELAY_MAX_MS
    if max ≤ min then min
    else min + generateSecureInt (max - min + 1)

inductive DeliverOutcome
  | resolves
  | rejects
  | throws
  deriving DecidableEq

/-- The callbacks of a dispatcher.  Those that belong to one payload are given
by the place of the payload among the accepted ones. -/
structure ReplyDispatcherOptions where
  deliver : ℕ → DeliverOutcome
  onErrorThrows : ℕ → Bool
  onIdleThrows : Bool
  humanDelay : Option HumanDelayConfig
  generateSecureInt : ℕ → ℤ → ℤ

structure Link (Payload : Type*) where
  kind : ReplyDispatchKind
  normalized : Payload
  shouldDelay : Bool

inductive LinkPhase
  /-- the links before it have not been seen to settle -/
  | waiting
  | sleeping
  | delivering
  /-- the promise of its first callback is rejected -/
  | failed
  /-- `onError` is running -/
  | reporting
  /-- its `catch` has settled -/
  | caught (rejected : Bool)
  deriving DecidableEq

inductive Event (Payload : Type*)
  | deliverStarted (index : ℕ) (kind : ReplyDispatchKind) (payload : Payload)
  | deliverSettled (index : ℕ)
  | markedComplete
  | idle
  deriving DecidableEq

def Event.isDelivery {Payload : Type*} : Event Payload → Bool
  | .deliverStarted _ _ _ => true
  | .deliverSettled _ => true
  | .markedComplete => false
  | .idle => false

structure Counts where
  tool : ℕ
  block : ℕ
  final : ℕ

def Counts.bump (counts : Counts) : ReplyDispatchKind → Counts
  | .tool => { counts with tool := counts.tool + 1 }
  | .block => { counts with block := counts.block + 1 }
  | .final => { counts with final := counts.final + 1 }

structure Dispatcher (Payload : Type*) where
  /-- the links of `sendChain`, in the order they were appended -/
  links : List (Link Payload)
  /-- how many of them have run their `finally` -/
  settledLinks : ℕ
  phase : LinkPhase
  /-- whether the last settled link left its promise rejected -/
  chainRejected : Bool
  pending : ℤ
  completeCalled : Bool
  /-- the microtask of `markComplete` has not run yet -/
  checkQueued : Bool
  sentFirstBlock : Bool
  queuedCounts : Counts
  failedCounts : Counts
  /-- in the global set of active dispatchers -/
  registered : Bool
  log : List (Event Payload)

variable {Payload : Type*}

def createReplyDispatcher : Dispatcher Payload where
  links := []
  settledLinks := 0
  phase := .waiting
  chainRejected := false
  pending := 1
  completeCalled := false
  checkQueued := false
  sentFirstBlock := false
  queuedCounts := ⟨0, 0, 0⟩
  failedCounts := ⟨0, 0, 0⟩
  registered := true
  log := []

/-- `enqueue`, given the outcome of the normalization of the payload: `none`
when it is dropped or when a normalization callback throws. -/
def enqueue (kind : ReplyDispatchKind) (normalized : Option Payload)
    (state : Dispatcher Payload) : Dispatcher Payload :=
  match normalized with
  | none => state
  | some payload =>
    { state with
      queuedCounts := state.queuedCounts.bump kind
      pending := state.pending + 1
      sentFirstBlock := state.sentFirstBlock || kind = .block
      links := state.links ++ [⟨kind, payload, kind = .block && state.sentFirstBlock⟩] }

variable (state : Dispatcher Payload)

/-- `unregister(); options.onIdle?.()`. -/
def goIdle : Dispatcher Payload := { state with registered := false, log := state.log ++ [.idle] }

def markComplete : Dispatcher Payload :=
  if state.completeCalled then state
  else
    { state with
      completeCalled := true
      checkQueued := true
      log := state.log ++ [.markedComplete] }

def completeCheck : Dispatcher Payload :=
  let checked := { state with checkQueued := false }
  if state.pending = 1 && state.completeCalled then
    goIdle { checked with pending := state.pending - 1 }
  else checked

section Links

variable (options : ReplyDispatcherOptions)

variable (index : ℕ) (link : Link Payload) (state : Dispatcher Payload)

def startDelivery : Dispatcher Payload :=
  { state with
    phase := .delivering
    log := state.log ++ [.deliverStarted index link.kind link.normalized] }

def startLink : Dispatcher Payload :=
  if state.chainRejected then { state with phase := .failed }
  else if link.shouldDelay &&
      0 < getHumanDelay options.humanDelay (options.generateSecureInt index) then
    { state with phase := .sleeping }
  else startDelivery index link state

def settleDelivery : Dispatcher Payload :=
  { state with
    phase := if options.deliver index = .resolves then .caught false else .failed
    log := state.log ++ [.deliverSettled index] }

def catchError : Dispatcher Payload :=
  { state with
    phase := .reporting
    failedCounts := state.failedCounts.bump link.kind }

def finishCatch : Dispatcher Payload :=
  { state with phase := .caught (options.onErrorThrows index) }

def runFinally (rejected : Bool) (state : Dispatcher Payload) : Dispatcher Payload :=
  let pending := state.pending - 1
  -- only the reservation is left and nothing more will be enqueued
  let released := if pending = 1 && state.completeCalled then pending - 1
    else pending
  let settled :=
    { state with
      pending := released
      settledLinks := state.settledLinks + 1
      phase := .waiting
      chainRejected := rejected }
  if released = 0 then
    goIdle { settled with chainRejected := rejected || options.onIdleThrows }
  else settled

def advanceLink : Dispatcher Payload :=
  match state.phase with
  | .waiting => startLink options index link state
  | .sleeping => startDelivery index link state
  | .delivering => settleDelivery options index state
  | .failed => catchError link state
  | .reporting => finishCatch options index state
  | .caught rejected => runFinally options rejected state

end Links

inductive Action (Payload : Type*)
  | send (kind : ReplyDispatchKind) (normalized : Option Payload)
  | markComplete
  | completeCheck
  | advance

/-- `sendToolResult`, `sendBlockReply` and `sendFinalReply`. -/
def Action.isSend : Action Payload → Bool
  | .send _ _ => true
  | _ => false

def Action.isInternal : Action Payload → Bool
  | .completeCheck => true
  | .advance => true
  | _ => false

def step (options : ReplyDispatcherOptions) (state : Dispatcher Payload) :
    Action Payload → Option (Dispatcher Payload)
  | .send kind normalized => some (enqueue kind normalized state)
  | .markComplete => some (markComplete state)
  | .completeCheck =>
    if state.checkQueued then some (completeCheck state) else none
  | .advance =>
    state.links[state.settledLinks]?.map fun link =>
      advanceLink options state.settledLinks link state

def SendsFirst (action : Action Payload) : Prop :=
  action.isSend = true → state.completeCalled = false

instance (state : Dispatcher Payload) (action : Action Payload) :
    Decidable (SendsFirst state action) :=
  inferInstanceAs (Decidable (_ → _))

/-- The run is complete and no promise of the dispatcher is left to react. -/
def Quiescent (options : ReplyDispatcherOptions) (state : Dispatcher Payload) :
    Prop :=
  state.completeCalled = true ∧
    ∀ action, action.isInternal = true → step options state action = none

/-- Every payload is delivered once, in call order and after the one before it
has settled, and the dispatcher goes idle once, at the very end. -/
structure Served (state : Dispatcher Payload) : Prop where
  inOrder : state.log.filter Event.isDelivery = state.links.zipIdx.flatMap fun entry =>
      [.deliverStarted entry.2 entry.1.kind entry.1.normalized, .deliverSettled entry.2]
  idleLast : ∃ before, state.log = before ++ [.idle] ∧ .idle ∉ before ∧ .markedComplete ∈ before

end LittleBaby.ReplyDispatcher
