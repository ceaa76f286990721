import LittleBaby.InsertionOrder
import LittleBaby.JsNumber
import LittleBaby.JsString
import LittleBaby.LabelledMachine
import Mathlib.Data.Finset.Card

/-!
# The in-process command queue

The lanes of `process/command-queue.ts` as a machine with an explicit call
stack.  A task runs synchronously up to its first `await`, so while it starts
it may start the pump of a lane again on top of the pump that is starting it;
every continuation behind an `await` runs on the empty stack.
-/

namespace LittleBaby.CommandQueue

open JsString

/-- `CommandLane.Main`. -/
def mainLane : JsString := js "main"

/-- `lane.trim() || CommandLane.Main`. -/
def normalizeLane (lane : JsString) : JsString :=
  if trim lane = [] then mainLane else trim lane

inductive RejectReason where
  | commandLaneCleared (lane : JsString)
  | gatewayDraining
  | thrown (error : JsString)

inductive Settlement where
  | resolved (value : JsString)
  | rejected (reason : RejectReason)

/-- What the promise returned by a task comes to. -/
inductive Outcome where
  | fulfilled (value : JsString)
  | failed (error : JsString)

def Outcome.settlement : Outcome → Settlement
  | .fulfilled value => .resolved value
  | .failed error => .rejected (.thrown error)

/-- One lane.  A queue entry is named by the number of its enqueue call, to
which its `task`, `resolve` and `reject` belong. -/
structure LaneState where
  queue : List ℕ
  activeTaskIds : Finset ℕ
  maxConcurrent : JsNumber
  draining : Bool
  generation : ℕ

def LaneState.created : LaneState where
  queue := []
  activeTaskIds := ∅
  maxConcurrent := .ofNat 1
  draining := false
  generation := 0

/-- The condition of the loop in `pump`, apart from the non-empty queue. -/
def LaneState.hasRoom (state : LaneState) : Bool :=
  JsNumber.lt (.ofNat state.activeTaskIds.card) state.maxConcurrent

structure Task where
  entry : ℕ
  lane : JsString
  taskId : ℕ
  taskGeneration : ℕ
  deriving DecidableEq

/-- A call that has not returned. -/
inductive Frame where
  /-- `pump`, before it tests its loop condition -/
  | pump (lane : JsString)
  /-- the synchronous part of `entry.task()` -/
  | task (task : Task)
  /-- `entry.resolve` or `entry.reject`, which follows the pump of a completion -/
  | settle (lane : JsString) (entry : ℕ) (settlement : Settlement)
  /-- the last loop of `resetAllLanes` -/
  | drainEach (lanes : List JsString)

inductive Observation where
  | enqueued (lane : JsString) (entry : ℕ)
  | started (lane : JsString) (entry : ℕ)
  | completed (lane : JsString) (entry : ℕ) (outcome : Outcome)
  | cleared (lane : JsString) (entry : ℕ)
  | settled (lane : JsString) (entry : ℕ) (settlement : Settlement)

structure Process where
  gatewayDraining : Bool
  lanes : InsertionMap JsString LaneState
  nextTaskId : ℕ
  nextEntry : ℕ
  stack : List Frame
  /-- the tasks that have reached their first `await` and have not ended -/
  running : List Task
  transcript : List Observation

def Process.initial : Process where
  gatewayDraining := false
  lanes := .empty
  nextTaskId := 1
  nextEntry := 0
  stack := []
  running := []
  transcript := []

/-- `getLaneState`. -/
def Process.lane (process : Process) (name : JsString) : LaneState :=
  (process.lanes.get? name).getD .created

variable (process : Process)

def Process.setLane (name : JsString) (state : LaneState) : Process :=
  { process with lanes := process.lanes.set name state }

def Process.observe (observations : List Observation) : Process :=
  { process with transcript := process.transcript ++ observations }

def Process.withStack (stack : List Frame) : Process := { process with stack := stack }

/-- `drainLane`: a lane that is being drained is left to the drain in
progress. -/
def Process.drainLane (process : Process) (name : JsString) : Process :=
  let state := process.lane name
  if state.draining then process
  else
    (process.setLane name { state with draining := true }).withStack (.pump name :: process.stack)

/-- `state.queue.push` inside the promise of `enqueueCommandInLane`. -/
def Process.pushEntry (process : Process) (name : JsString) : Process :=
  let state := process.lane name
  let entry := process.nextEntry
  { process.setLane name { state with queue := state.queue ++ [entry] } with
    nextEntry := entry + 1 }.observe [.enqueued name entry]

def Process.enqueueCommandInLane (process : Process) (lane : JsString) :
    Process :=
  if process.gatewayDraining then process
  else
    (process.pushEntry (normalizeLane lane)).drainLane (normalizeLane lane)

def Process.setMaxConcurrent (process : Process) (name : JsString)
    (maxConcurrent : JsNumber) : Process :=
  process.setLane name { process.lane name with
      maxConcurrent := JsNumber.max (.ofNat 1) (JsNumber.floor maxConcurrent) }

def Process.setCommandLaneConcurrency (process : Process) (lane : JsString)
    (maxConcurrent : JsNumber) : Process :=
  (process.setMaxConcurrent (normalizeLane lane) maxConcurrent).drainLane (normalizeLane lane)

/-- `state.queue.splice(0)` and the rejections of `clearCommandLane`. -/
def Process.clearQueue (process : Process) (name : JsString) : Process :=
  let state := process.lane name
  (process.setLane name { state with queue := [] }).observe (state.queue.flatMap fun entry =>
      [.cleared name entry, .settled name entry (.rejected (.commandLaneCleared name))])

/-- `clearCommandLane`: every queued entry is rejected at once. -/
def Process.clearCommandLane (lane : JsString) : Process :=
  if process.lanes.has (normalizeLane lane) then
    process.clearQueue (normalizeLane lane)
  else process

def LaneState.reset (state : LaneState) : LaneState :=
  { state with
    generation := state.generation + 1
    activeTaskIds := ∅
    draining := false }

/-- `resetAllLanes`: the lanes that still have entries are drained once all
lanes have been reset. -/
def Process.resetAllLanes (process : Process) : Process :=
  let lanesToDrain := process.lanes.keys.filter fun name =>
    !(process.lane name).queue.isEmpty
  { process with
    gatewayDraining := false
    lanes := process.lanes.mapValues LaneState.reset
    stack := .drainEach lanesToDrain :: process.stack }

inductive Call where
  | enqueue (lane : JsString)
  | setConcurrency (lane : JsString) (maxConcurrent : JsNumber)
  | clear (lane : JsString)
  | resetAll
  | markGatewayDraining

def Process.call (process : Process) : Call → Process
  | .enqueue lane => process.enqueueCommandInLane lane
  | .setConcurrency lane maxConcurrent =>
    process.setCommandLaneConcurrency lane maxConcurrent
  | .clear lane => process.clearCommandLane lane
  | .resetAll => process.resetAllLanes
  | .markGatewayDraining => { process with gatewayDraining := true }

/-- The body of the loop in `pump`, up to the call of `entry.task()`. -/
def Process.startHead (process : Process) (name : JsString) (entry : ℕ)
    (queue : List ℕ) (rest : List Frame) : Process :=
  let state := process.lane name
  let task : Task := ⟨entry, name, process.nextTaskId, state.generation⟩
  let shifted := process.setLane name { state with
      queue := queue
      activeTaskIds := insert process.nextTaskId state.activeTaskIds }
  ({ shifted with nextTaskId := process.nextTaskId + 1 }.observe
    [.started name entry]).withStack (.task task :: .pump name :: rest)

def Process.leavePump (process : Process) (name : JsString) (rest : List Frame) : Process :=
  (process.setLane name { process.lane name with draining := false }).withStack rest

def Process.pumpOnce (process : Process) (name : JsString) (rest : List Frame) : Process :=
  match (process.lane name).queue, (process.lane name).hasRoom with
  | entry :: queue, true => process.startHead name entry queue rest
  | _, _ => process.leavePump name rest

/-- The continuation after `await entry.task()`: `completeTask`, then, for a
task of the current generation, the pump, then the settlement. -/
def Process.finishTask (process : Process) (task : Task) (outcome : Outcome)
    (rest : List Frame) : Process :=
  let state := process.lane task.lane
  let settle : Frame := .settle task.lane task.entry outcome.settlement
  let observed := process.observe [.completed task.lane task.entry outcome]
  if task.taskGeneration = state.generation then
    (observed.setLane task.lane { state with
        activeTaskIds := state.activeTaskIds.erase task.taskId }).withStack
      (.pump task.lane :: settle :: rest)
  else
    observed.withStack (settle :: rest)

inductive Action where
  /-- code outside the queue calls one of its functions -/
  | call (call : Call)
  /-- the starting task returns its promise -/
  | suspend
  /-- the starting task throws before it has returned a promise -/
  | throwSync (error : JsString)
  /-- the promise of a running task is settled and its continuation runs -/
  | complete (task : Task) (outcome : Outcome)
  /-- the queue's own code goes on -/
  | advance

def Process.callerInControl : Bool :=
  match process.stack with
  | [] => true
  | .task _ :: _ => true
  | _ => false

def step (process : Process) : Action → Option Process
  | .call call =>
    if process.callerInControl then some (process.call call) else none
  | .suspend =>
    match process.stack with
    | .task task :: rest =>
      some ({ process with
        running := process.running ++ [task] }.withStack rest)
    | _ => none
  | .throwSync error =>
    match process.stack with
    | .task task :: rest =>
      some (process.finishTask task (.failed error) rest)
    | _ => none
  | .complete task outcome =>
    match process.stack with
    | [] =>
      if task ∈ process.running then
        some ({ process with
          running := process.running.erase task }.finishTask task outcome [])
      else none
    | _ => none
  | .advance =>
    match process.stack with
    | .pump name :: rest => some (process.pumpOnce name rest)
    | .settle lane entry settlement :: rest =>
      some ((process.withStack rest).observe [.settled lane entry settlement])
    | .drainEach (name :: names) :: rest =>
      some ((process.withStack (.drainEach names :: rest)).drainLane name)
    | .drainEach [] :: rest => some (process.withStack rest)
    | _ => none

inductive Transition : Process → Process → Prop
  | flag (process : Process) (gatewayDraining : Bool) :
      Transition process { process with gatewayDraining := gatewayDraining }
  | enqueue (process : Process) (name : JsString) :
      Transition process ((process.pushEntry name).drainLane name)
  | setConcurrency (process : Process) (name : JsString) (maxConcurrent : JsNumber) :
      Transition process ((process.setMaxConcurrent name maxConcurrent).drainLane name)
  | clear (process : Process) (name : JsString) : Transition process (process.clearQueue name)
  | resetAll (process : Process) : Transition process process.resetAllLanes
  | suspend (process : Process) (task : Task) (rest : List Frame)
      (hstack : process.stack = .task task :: rest) :
      Transition process ({ process with running := process.running ++ [task] }.withStack rest)
  | throwSync (process : Process) (task : Task) (error : JsString)
      (rest : List Frame) (hstack : process.stack = .task task :: rest) :
      Transition process (process.finishTask task (.failed error) rest)
  | complete (process : Process) (task : Task) (outcome : Outcome)
      (hstack : process.stack = []) (hrunning : task ∈ process.running) :
      Transition process ({ process with running := process.running.erase task }.finishTask
          task outcome [])
  | start (process : Process) (name : JsString) (entry : ℕ) (queue : List ℕ)
      (rest : List Frame) (hstack : process.stack = .pump name :: rest)
      (hqueue : (process.lane name).queue = entry :: queue)
      (hroom : (process.lane name).hasRoom = true) :
      Transition process (process.startHead name entry queue rest)
  | leave (process : Process) (name : JsString) (rest : List Frame)
      (hstack : process.stack = .pump name :: rest)
      (hdone : (process.lane name).queue = [] ∨ (process.lane name).hasRoom = false) :
      Transition process (process.leavePump name rest)
  | settle (process : Process) (name : JsString) (entry : ℕ)
      (settlement : Settlement) (rest : List Frame)
      (hstack : process.stack = .settle name entry settlement :: rest) :
      Transition process ((process.withStack rest).observe [.settled name entry settlement])
  | drainNext (process : Process) (name : JsString) (names : List JsString) (rest : List Frame)
      (hstack : process.stack = .drainEach (name :: names) :: rest) :
      Transition process ((process.withStack (.drainEach names :: rest)).drainLane name)
  | drainDone (process : Process) (rest : List Frame)
      (hstack : process.stack = .drainEach [] :: rest) :
      Transition process (process.withStack rest)

theorem transition_call (process : Process) (call : Call) :
    Transition process (process.call call) := by
  cases call with
  | enqueue lane =>
    simp only [Process.call, Process.enqueueCommandInLane]
    split_ifs
    · exact Transition.flag process process.gatewayDraining
    · exact Transition.enqueue process _
  | setConcurrency lane maxConcurrent =>
    exact Transition.setConcurrency process _ _
  | clear lane =>
    simp only [Process.call, Process.clearCommandLane]
    split_ifs
    · exact Transition.clear process _
    · exact Transition.flag process process.gatewayDraining
  | resetAll => exact Transition.resetAll process
  | markGatewayDraining => exact Transition.flag process true

theorem transition_pumpOnce {process : Process} {name : JsString}
    {rest : List Frame} (hstack : process.stack = .pump name :: rest) :
    Transition process (process.pumpOnce name rest) := by
  unfold Process.pumpOnce
  cases hqueue : (process.lane name).queue with
  | nil => exact Transition.leave process name rest hstack (.inl hqueue)
  | cons entry queue =>
    cases hroom : (process.lane name).hasRoom with
    | true =>
      exact Transition.start process name entry queue rest hstack hqueue hroom
    | false =>
      exact Transition.leave process name rest hstack (.inr hroom)

theorem transition_of_step {process next : Process} {action : Action}
    (hstep : step process action = some next) : Transition process next := by
  cases action with
  | call call =>
    simp only [step, Option.ite_none_right_eq_some, Option.some.injEq] at hstep
    rw [← hstep.2]
    exact transition_call process call
  | suspend =>
    simp only [step] at hstep
    split at hstep
    case h_1 task rest hstack =>
      rw [← Option.some.inj hstep]
      exact Transition.suspend process task rest hstack
    case h_2 => simp at hstep
  | throwSync error =>
    simp only [step] at hstep
    split at hstep
    case h_1 task rest hstack =>
      rw [← Option.some.inj hstep]
      exact Transition.throwSync process task error rest hstack
    case h_2 => simp at hstep
  | complete task outcome =>
    simp only [step] at hstep
    split at hstep
    case h_1 hstack =>
      simp only [Option.ite_none_right_eq_some, Option.some.injEq] at hstep
      rw [← hstep.2]
      exact Transition.complete process task outcome hstack hstep.1
    case h_2 => simp at hstep
  | advance =>
    simp only [step] at hstep
    split at hstep
    case h_1 name rest hstack =>
      rw [← Option.some.inj hstep]
      exact transition_pumpOnce hstack
    case h_2 name entry settlement rest hstack =>
      rw [← Option.some.inj hstep]
      exact Transition.settle process name entry settlement rest hstack
    case h_3 name names rest hstack =>
      rw [← Option.some.inj hstep]
      exact Transition.drainNext process name names rest hstack
    case h_4 rest hstack =>
      rw [← Option.some.inj hstep]
      exact Transition.drainDone process rest hstack
    case h_5 => simp at hstep

end LittleBaby.CommandQueue
