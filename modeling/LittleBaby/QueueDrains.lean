import LittleBaby.Arena
import LittleBaby.LabelledMachine
import LittleBaby.QueueHelpers

/-!
# Draining a queue

One key of a queue registry: the queue objects that were ever stored under it,
and which one is stored now.  A drain runs without interruption from one await
to the next, and keeps the object it began with.
-/

namespace LittleBaby.Queues

variable {Item Run : Type*}

/-- What a drain passes to its callback. -/
inductive Call (Item Run : Type*) where
  | item (entry : Queued Item)
  | collect (group : List (Queued Item)) (summary : Option (QueueSummary Item))
  | overflow (head : Queued Item) (run : Run) (summary : QueueSummary Item)
  | summaryOnly (run : Run) (summary : QueueSummary Item)
  deriving DecidableEq

namespace Call

def executed : Call Item Run → List (Queued Item)
  | .item entry => [entry]
  | .collect group _ => group
  | .overflow _ _ _ => []
  | .summaryOnly _ _ => []

def summary : Call Item Run → Option (QueueSummary Item)
  | .item _ => none
  | .collect _ summary => summary
  | .overflow _ _ summary => some summary
  | .summaryOnly _ summary => some summary

def summarized (call : Call Item Run) : List (Queued Item) :=
  (call.summary.map QueueSummary.dropped).getD []

end Call

/-- Where a drain waits; `forceIndividualCollect` is the `force` of its loop. -/
inductive Phase (Item Run : Type*) where
  | idle
  | debouncing (force : Bool)
  -- `drainCollectQueueStep` answered "skipped" or "empty"
  | skipped (force : Bool)
  | empty (force : Bool)
  -- `drainNextQueueItem` answered false
  | foundNothing
  | running (force : Bool) (call : Call Item Run) (groups : List (List (Queued Item)))
  -- the head was shifted; `clears` when the summary state is cleared next
  | shifted (force clears : Bool)

def drainNextQueueItem (items : List (Queued Item)) (force : Bool)
    (call : Queued Item → Call Item Run) (missing : Phase Item Run) :
    Phase Item Run :=
  match items with
  | [] => missing
  | next :: _ => .running force (call next) []

def drainCollectQueueStep (force isCrossChannel : Bool)
    (items : List (Queued Item)) : Phase Item Run :=
  if !force && !isCrossChannel then .skipped force
  else drainNextQueueItem items true .item (.empty true)

/-- What a loop body may do after the debounce. -/
inductive Looks (queue : QueueState Item Run) : Phase Item Run → Prop
  | skipped (force : Bool) (hmode : queue.mode = .collect) : Looks queue (.skipped force)
  | empty (force : Bool) (hmode : queue.mode = .collect)
      (hitems : queue.items = []) : Looks queue (.empty force)
  | foundNothing (hmode : queue.mode ≠ .collect) (hitems : queue.items = []) :
      Looks queue .foundNothing
  | item (force : Bool) (next : Queued Item) (rest : List (Queued Item))
      (hitems : queue.items = next :: rest) :
      Looks queue (.running force (.item next) [])
  | overflow (force : Bool) (head : Queued Item) (rest : List (Queued Item))
      (run : Run) (summary : QueueSummary Item)
      (hmode : queue.mode ≠ .collect)
      (hsummary : queue.previewQueueSummaryPrompt = some summary)
      (hitems : queue.items = head :: rest) :
      Looks queue (.running force (.overflow head run summary) [])

inductive Collects (queue : QueueState Item Run) : Phase Item Run → Prop
  | collect (force : Bool) (group : List (Queued Item)) (groups : List (List (Queued Item)))
      (hgroup : group ≠ []) (hitems : group ++ groups.flatten = queue.items) :
      Collects queue (.running force (.collect group queue.previewQueueSummaryPrompt) groups)
  | summaryOnly (force : Bool) (run : Run) (summary : QueueSummary Item)
      (hsummary : queue.previewQueueSummaryPrompt = some summary) :
      Collects queue (.running force (.summaryOnly run summary) [])

/-- The body of a drain loop, cut at its awaits; `none` breaks out of the loop.
`deliverable` says when the summary can go out without an entry. -/
structure DrainLoop (Item Run : Type*) where
  run : Item → Run
  dedupes : Bool
  kicks : Bool → Bool → Bool
  deliverable : QueueState Item Run → Bool
  debounced : Bool → QueueState Item Run → Option (Phase Item Run)
  skipped : Bool → QueueState Item Run → Option (Phase Item Run)
  empty : Bool → QueueState Item Run → Option (Phase Item Run)
  debounced_looks : ∀ force queue phase, debounced force queue = some phase → Looks queue phase
  debounced_eq_none : ∀ force queue,
    debounced force queue = none → queue.dropped ≠ [] ∧ queue.lastRun = none
  skipped_collects : ∀ force queue phase, skipped force queue = some phase → Collects queue phase
  skipped_eq_none : ∀ force queue,
    skipped force queue = none → queue.items = [] ∧ deliverable queue = false
  empty_collects : ∀ force queue phase, empty force queue = some phase → Collects queue phase
  empty_eq_none : ∀ force queue, empty force queue = none → deliverable queue = false

structure Drain (Item Run : Type*) where
  queue : QueueState Item Run
  phase : Phase Item Run
  weight : ℕ
  invoked : Bool

/-- One pass of a drain loop: the weight it began and ended with, whether it
called out, and whether the queue is stored or drained any further. -/
structure Pass where
  weight : ℕ
  invoked : Bool
  left : ℕ
  stays : Bool
  deriving DecidableEq

structure Registry (Item Run : Type*) where
  drains : Arena (Drain Item Run)
  current : Option ℕ
  accepted : List (Queued Item)
  discarded : List (Queued Item)
  started : List (Call Item Run)
  completed : List (Call Item Run)
  passes : List Pass

def Phase.isIdle : Phase Item Run → Bool
  | .idle => true
  | _ => false

def Phase.call? : Phase Item Run → Option (Call Item Run)
  | .running _ call _ => some call
  | _ => none

namespace Drain

variable (drain : Drain Item Run)

def nextPass (force : Bool) : Drain Item Run :=
  { drain with
    phase := .debouncing force
    weight := drain.queue.weight
    invoked := false }

def stop : Drain Item Run := { drain with phase := .idle }

def enter (phase : Phase Item Run) : Drain Item Run :=
  { drain with
    phase := phase
    invoked := drain.invoked || phase.call?.isSome }

end Drain

namespace Registry

def empty : Registry Item Run := ⟨.empty, none, [], [], [], [], []⟩

variable (registry : Registry Item Run) (index : ℕ) (drain : Drain Item Run)

def put : Registry Item Run := { registry with drains := registry.drains.put index drain }

/-- `beginQueueDrain`, and the loop up to its first await. -/
def schedule : Registry Item Run :=
  match registry.current with
  | none => registry
  | some index =>
    match registry.drains.get? index with
    | none => registry
    | some drain =>
      if !drain.phase.isIdle then registry
      else if drain.queue.weight = 0 then { registry with current := none }
      else registry.put index (drain.nextPass false)

def holds : Bool :=
  decide (registry.current = some index) || (registry.drains.get? index).any (!·.phase.isIdle)

def endPass : Registry Item Run :=
  { registry with
    passes := ⟨drain.weight, drain.invoked, drain.queue.weight,
      registry.holds index⟩ :: registry.passes }

/-- The finally block.  It removes by key, whichever queue is stored there. -/
def finish : Registry Item Run :=
  let stopped := registry.put index drain.stop
  if drain.queue.weight = 0 then { stopped with current := none }
  else stopped.schedule

def continueLoop (force : Bool) (drain : Drain Item Run) : Registry Item Run :=
  (if drain.queue.weight = 0 then registry.finish index drain
    else registry.put index (drain.nextPass force)).endPass index drain

def leave : Registry Item Run := (registry.finish index drain).endPass index drain

def enter (phase : Phase Item Run) : Registry Item Run :=
  { registry.put index (drain.enter phase) with
    started := registry.started ++ phase.call?.toList }

def resume : Option (Phase Item Run) → Registry Item Run
  | none => registry.leave index drain
  | some phase => registry.enter index drain phase

def settle (force : Bool) (groups : List (List (Queued Item))) : Call Item Run → Registry Item Run
  | .item _ =>
    registry.put index { drain with
        queue := { drain.queue with items := drain.queue.items.tail }
        phase := .shifted force false }
  | .overflow _ _ _ =>
    registry.put index { drain with
        queue := { drain.queue with items := drain.queue.items.tail }
        phase := .shifted force true }
  | .summaryOnly _ _ =>
    registry.continueLoop index force { drain with queue := drain.queue.clearQueueSummaryState }
  | .collect group summary =>
    let spliced := { drain.queue with items := drain.queue.items.drop group.length }
    let next := { drain with
      queue := if summary.isSome then spliced.clearQueueSummaryState
        else spliced }
    match groups with
    | [] => registry.continueLoop index force next
    | group :: groups =>
      registry.enter index next (.running force (.collect group none) groups)

end Registry

/-- An `enqueue` knows whether the dedupe cache or the items hold the run
already, and whether it may restart an idle drain. -/
inductive QueueAction (Item : Type*) where
  | enqueue (item : Item) (settings : QueueSettings) (duplicate restart : Bool)
  | schedule
  | advance (index : ℕ)
  | complete (index : ℕ)
  | fail (index : ℕ)
  | clear

namespace Registry

def getQueue (registry : Registry Item Run) (settings : QueueSettings) :
    ℕ × Drain Item Run × Registry Item Run :=
  match registry.current.bind fun index =>
      (registry.drains.get? index).map fun drain => (index, drain) with
  | some (index, drain) =>
    let applied := { drain with
      queue := drain.queue.applyQueueRuntimeSettings settings }
    (index, applied, registry.put index applied)
  | none =>
    let created := ⟨createQueue settings, .idle, 0, false⟩
    (registry.drains.size, created, { registry with
        drains := registry.drains.push created
        current := some registry.drains.size })

variable (loop : DrainLoop Item Run)

variable (registry : Registry Item Run)

def kick (kicks : Bool) : Registry Item Run :=
  if kicks then registry.schedule else registry

variable (index : ℕ)

/-- The run becomes the last entry of what the policy kept of the queue. -/
def file (drain : Drain Item Run) (kept : QueueState Item Run) (item : Item)
    (discarded : List (Queued Item)) : Registry Item Run :=
  let entry := ⟨registry.accepted.length, item⟩
  { registry.put index { drain with queue := { kept with items := kept.items ++ [entry] } } with
    accepted := registry.accepted ++ [entry]
    discarded := registry.discarded ++ discarded }

/-- The run is filed in the queue at `index`, unless the policy refuses it. -/
def accept (drain : Drain Item Run) (item : Item) (restart : Bool) : Registry Item Run :=
  let touched := { drain.queue with lastRun := some (loop.run item) }
  match touched.applyQueueDropPolicy with
  | none =>
    (registry.put index { drain with queue := touched }).kick (loop.kicks false restart)
  | some kept =>
    (registry.file index drain kept item
      (if touched.dropPolicy = .summarize then [] else touched.overCap)).kick
      (loop.kicks true restart)

def enqueue (item : Item) (settings : QueueSettings) (duplicate restart : Bool) :
    Registry Item Run :=
  let (index, drain, found) := registry.getQueue settings
  if loop.dedupes && duplicate then found
  else found.accept loop index drain item restart

def advance : Option (Registry Item Run) :=
  (registry.drains.get? index).bind fun drain =>
    match drain.phase with
    | .debouncing force =>
      some (registry.resume index drain (loop.debounced force drain.queue))
    | .skipped force =>
      some (registry.resume index drain (loop.skipped force drain.queue))
    | .empty force =>
      some (registry.resume index drain (loop.empty force drain.queue))
    | .foundNothing => some (registry.leave index drain)
    | .shifted force clears =>
      some (registry.continueLoop index force { drain with
        queue := if clears then drain.queue.clearQueueSummaryState
          else drain.queue })
    | .idle => none
    | .running _ _ _ => none

def returned (call : Call Item Run) : Registry Item Run :=
  { registry with completed := registry.completed ++ [call] }

def complete : Option (Registry Item Run) :=
  (registry.drains.get? index).bind fun drain =>
    match drain.phase with
    | .running force call groups =>
      some ((registry.returned call).settle index drain force groups call)
    | _ => none

def fail : Option (Registry Item Run) :=
  (registry.drains.get? index).bind fun drain =>
    match drain.phase with
    | .running _ _ _ => some (registry.leave index drain)
    | _ => none

def clear : Option (Registry Item Run) :=
  registry.current.bind fun index =>
    (registry.drains.get? index).map fun drain =>
      { registry.put index { drain with
          queue := { drain.queue with
            items := []
            dropped := []
            summaryLines := []
            lastRun := none } } with current := none }

def step : QueueAction Item → Option (Registry Item Run)
  | .enqueue item settings duplicate restart =>
    some (registry.enqueue loop item settings duplicate restart)
  | .schedule => some registry.schedule
  | .advance index => registry.advance loop index
  | .complete index => registry.complete index
  | .fail index => registry.fail index
  | .clear => registry.clear

end Registry

end LittleBaby.Queues
