import LittleBaby.JsString
import LittleBaby.KeyedChains
import LittleBaby.LabelledMachine
import Mathlib.Data.Int.Order.Basic

/-!
# The inbound debouncer

Messages of one key that arrive within the debounce time are buffered and passed
to `onFlush` together.  A buffer reserves the next slot in the chain of its key
when its first message arrives.  A message that is not debounced is passed on at
once: behind the pending buffer, behind the chain of its key, or directly.
-/

namespace LittleBaby.InboundDebounce

open JsString KeyedChains

/-- Numbers are whole; `none` stands for a missing or not finite one. -/
structure InboundDebounceCreateParams (Item : Type*) where
  debounceMs : ℤ
  maxTrackedKeys : Option ℤ
  buildKey : Item → Option JsString
  shouldDebounce : Option (Item → Bool)
  resolveDebounceMs : Option (Item → Option ℤ)

def DEFAULT_MAX_TRACKED_KEYS : ℤ := 2048

namespace InboundDebounceCreateParams

variable {Item : Type*} (params : InboundDebounceCreateParams Item)

def trackedKeys : ℤ := max 1 (params.maxTrackedKeys.getD DEFAULT_MAX_TRACKED_KEYS)

variable (item : Item)

def debounceMsOf : ℤ :=
  match params.resolveDebounceMs.bind fun resolve => resolve item with
  | none => max 0 params.debounceMs
  | some resolved => max 0 resolved

def canDebounce : Bool :=
  0 < params.debounceMsOf item &&
    (params.shouldDebounce.elim true fun shouldDebounce => shouldDebounce item)

def keyOf : Option JsString := orElse (params.buildKey item) none

end InboundDebounceCreateParams

structure DebounceBuffer where
  items : List ℕ
  /-- whether the timer is set -/
  timeout : Bool
  debounceMs : ℤ

inductive FlushSource
  | item (index : ℕ)
  | buffer (buffer : DebounceBuffer)

def FlushSource.items : FlushSource → List ℕ
  | .item index => [index]
  | .buffer pending => pending.items

structure SlotTask where
  source : FlushSource
  /-- the task waits for its release before it flushes -/
  reserved : Bool
  released : Bool
  /-- the slot after which `enqueue` goes on to release this one -/
  releaseAfter : Option ℕ
  /-- `onFlush` has been called, or there was nothing to pass -/
  passed : Bool
  call : Option ℕ

structure FlushCall where
  key : Option JsString
  items : List ℕ
  /-- the slot that has made the call, or none for a direct call -/
  slot : Option ℕ
  inProgress : Bool

structure Debouncer (Item : Type*) where
  /-- everything that was enqueued -/
  items : List Item
  /-- the slot of the pending buffer of a key -/
  buffers : List (JsString × ℕ)
  keyChains : KeyedChains JsString SlotTask
  calls : Arena FlushCall

variable {Item : Type*}

def createInboundDebouncer : Debouncer Item where
  items := []
  buffers := []
  keyChains := KeyedChains.empty
  calls := Arena.empty

def enqueueKeyTask (key : JsString) (item : ℕ) (state : Debouncer Item) : Debouncer Item :=
  { state with
    keyChains := state.keyChains.append key
      { source := .item item
        reserved := false
        released := false
        releaseAfter := none
        passed := false
        call := none } }

def enqueueReservedKeyTask (key : JsString) (source : FlushSource)
    (releaseAfter : Option ℕ) (state : Debouncer Item) : Debouncer Item :=
  { state with
    keyChains := state.keyChains.append key
      { source := source
        reserved := true
        released := false
        releaseAfter := releaseAfter
        passed := false
        call := none } }

abbrev Slot := KeyedChains.Link JsString SlotTask

def putTask (index : ℕ) (slot : Slot) (task : SlotTask) (state : Debouncer Item) : Debouncer Item :=
  { state with keyChains := state.keyChains.put index { slot with task := task } }

def runFlush (key : Option JsString) (item : ℕ) (state : Debouncer Item) : Debouncer Item :=
  { state with
    calls := state.calls.push { key := key, items := [item], slot := none, inProgress := true } }

variable (params : InboundDebounceCreateParams Item) (key : JsString)

def flushBuffer (index : ℕ) (slot : Slot)
    (buffer : DebounceBuffer) (state : Debouncer Item) : Debouncer Item :=
  putTask index slot { slot.task with
      source := .buffer { buffer with timeout := false }
      released := true }
    { state with
      buffers :=
        if state.buffers.lookup key = some index then
          Entries.erase key state.buffers
        else state.buffers }

def bufferAt (index : ℕ) (state : Debouncer Item) : Option (Slot × DebounceBuffer) :=
  (state.keyChains.links.get? index).bind fun slot =>
    match slot.task.source with
    | .item _ => none
    | .buffer buffer => some (slot, buffer)

variable (state : Debouncer Item)

def flushKey : Debouncer Item :=
  match state.buffers.lookup key with
  | none => state
  | some index =>
    match bufferAt index state with
    | none => state
    | some (slot, buffer) => flushBuffer key index slot buffer state

def canTrackKey : Bool :=
  (state.buffers.lookup key).isSome || (state.keyChains.tails.lookup key).isSome ||
    (((Entries.keys state.buffers ++ Entries.keys state.keyChains.tails).dedup.length
      : ℕ) : ℤ) < params.trackedKeys

def enqueueImmediate (item : ℕ) (state : Debouncer Item) : Debouncer Item :=
  match state.buffers.lookup key with
  | some buffered =>
    flushKey key (enqueueReservedKeyTask key (.item item) (some buffered) state)
  | none =>
    if (state.keyChains.tails.lookup key).isSome then
      enqueueKeyTask key item state
    else runFlush (some key) item state

def enqueueDebounced (params : InboundDebounceCreateParams Item)
    (key : JsString) (item : ℕ) (debounceMs : ℤ) (state : Debouncer Item) :
    Debouncer Item :=
  match state.buffers.lookup key with
  | some index =>
    match bufferAt index state with
    | none => state
    | some (slot, buffer) =>
      putTask index slot { slot.task with
          source := .buffer
            { items := buffer.items ++ [item]
              timeout := true
              debounceMs := debounceMs } }
        state
  | none =>
    if canTrackKey params key state then
      let reserved := enqueueReservedKeyTask key
        (.buffer { items := [item], timeout := true, debounceMs := debounceMs })
        none state
      { reserved with
        buffers := Entries.set key state.keyChains.links.size state.buffers }
    else enqueueKeyTask key item state

def enqueue (params : InboundDebounceCreateParams Item) (item : Item)
    (state : Debouncer Item) : Debouncer Item :=
  let index := state.items.length
  let received := { state with items := state.items ++ [item] }
  match params.keyOf item with
  | none => runFlush none index received
  | some key =>
    if params.canDebounce item then
      enqueueDebounced params key index (params.debounceMsOf item) received
    else enqueueImmediate key index received

def startTask (index : ℕ) (slot : Slot) (state : Debouncer Item) : Option (Debouncer Item) :=
  if slot.phase = .waiting && state.keyChains.isFree slot then
    some { state with
        keyChains := state.keyChains.put index { slot with phase := .running } }
  else none

def passTask (index : ℕ) (slot : Slot) (state : Debouncer Item) : Option (Debouncer Item) :=
  if slot.phase = .running && !slot.task.passed && (!slot.task.reserved || slot.task.released) then
    if slot.task.source.items = [] then
      some (putTask index slot { slot.task with passed := true } state)
    else
      some (putTask index slot { slot.task with passed := true, call := some state.calls.size }
        { state with
          calls := state.calls.push
            { key := some slot.key
              items := slot.task.source.items
              slot := some index
              inProgress := true } })
  else none

def callEnded (task : SlotTask) (state : Debouncer Item) : Bool :=
  match task.call.bind fun index => state.calls.get? index with
  | none => true
  | some call => !call.inProgress

def settleTask (index : ℕ) (slot : Slot) (state : Debouncer Item) : Option (Debouncer Item) :=
  if slot.phase = .running && slot.task.passed && callEnded slot.task state then
    some { state with
        keyChains := state.keyChains.put index { slot with phase := .settled } }
  else none

def cleanup (index : ℕ) (slot : Slot) (state : Debouncer Item) : Option (Debouncer Item) :=
  if slot.phase = .settled then
    some { state with keyChains := state.keyChains.cleanUp index slot }
  else none

/-- `enqueue` goes on after the buffer that it has forced out. -/
def releaseTask (index : ℕ) (slot : Slot) (state : Debouncer Item) : Option (Debouncer Item) :=
  slot.task.releaseAfter.bind fun after =>
    if state.keyChains.isSettled after then
      some (putTask index slot { slot.task with released := true, releaseAfter := none } state)
    else none

inductive Action (Item : Type*)
  | enqueue (item : Item)
  | flushKey (key : JsString)
  | timerFires (index : ℕ)
  | startTask (index : ℕ)
  | passTask (index : ℕ)
  | settleTask (index : ℕ)
  | cleanup (index : ℕ)
  | releaseTask (index : ℕ)
  /-- `onFlush` has resolved, or it has failed and `onError` was called -/
  | flushSettles (call : ℕ)

/-- The steps that need neither a caller, a timer nor `onFlush`. -/
def Action.isInternal : Action Item → Bool
  | .startTask _ => true
  | .passTask _ => true
  | .settleTask _ => true
  | .cleanup _ => true
  | .releaseTask _ => true
  | _ => false

def step : Action Item → Option (Debouncer Item)
  | .enqueue item => some (enqueue params item state)
  | .flushKey key => some (flushKey key state)
  | .timerFires index =>
    (bufferAt index state).bind fun found =>
      if found.2.timeout then
        some (flushBuffer found.1.key index found.1 found.2 state)
      else none
  | .startTask index =>
    (state.keyChains.links.get? index).bind fun slot =>
      startTask index slot state
  | .passTask index =>
    (state.keyChains.links.get? index).bind fun slot =>
      passTask index slot state
  | .settleTask index =>
    (state.keyChains.links.get? index).bind fun slot =>
      settleTask index slot state
  | .cleanup index =>
    (state.keyChains.links.get? index).bind fun slot =>
      cleanup index slot state
  | .releaseTask index =>
    (state.keyChains.links.get? index).bind fun slot =>
      releaseTask index slot state
  | .flushSettles index =>
    (state.calls.get? index).bind fun call =>
      if call.inProgress then
        some { state with
            calls := state.calls.put index { call with inProgress := false } }
      else none

def enqueued (key : Option JsString) (items : List Item) : List ℕ :=
  items.zipIdx.flatMap fun entry =>
    if params.keyOf entry.1 = key then [entry.2] else []

/-- The items of a key in the order they were passed to `onFlush`. -/
def flushed (key : Option JsString) (state : Debouncer Item) : List ℕ :=
  state.calls.cells.flatMap fun call =>
    if call.key = key then call.items else []

def holding (slot : Slot) : List ℕ :=
  if slot.task.passed then [] else slot.task.source.items

/-- The items of a key that were not passed to `onFlush` yet. -/
def waiting : Option JsString → List ℕ
  | none => []
  | some key => held holding key state.keyChains

def buffered : List ℕ :=
  match (state.buffers.lookup key).bind fun index => bufferAt index state with
  | none => []
  | some (_, buffer) => if buffer.timeout then buffer.items else []

/-- No slot can move on and no call of `onFlush` is in progress. -/
def Quiescent : Prop :=
  (∀ action, action.isInternal = true → step params state action = none) ∧
    ∀ index call, state.calls.get? index = some call → call.inProgress = false

end LittleBaby.InboundDebounce
