import LittleBaby.FeishuEvent
import LittleBaby.InsertionOrder

/-!
# The message aggregator

`MessageAggregator`: messages of one sender are buffered until a timer, an
immediate message, the message count or the age of the window flushes them.
A flush hands the buffered batch to `onSubmit`; here it is returned.
-/

namespace LittleBaby.Feishu

open InsertionMap

def aggregateWindowMs : ℕ := 3000

def aggregateImageExtraWindowMs : ℕ := 2000

def aggregateMaxMessages : ℕ := 5

def aggregateMaxWindowMs : ℕ := 10000

structure DbMessageRef where
  sessionId : ℕ
  messageId : ℕ
  deriving DecidableEq

/-- An item also names the call of `handleMessage` it comes from. -/
structure AggregatedMessageItem where
  delivery : ℕ
  event : FeishuMessageEvent
  text : JsString
  images : List ImageData
  imagePaths : List JsString
  ts : ℕ
  mentioned : Bool
  dbRef : Option DbMessageRef
  deriving DecidableEq

structure AggregatedMessage where
  items : List AggregatedMessageItem
  nonempty : items ≠ []
  sessionKey : JsString
  senderId : JsString
  senderName : JsString
  chatId : JsString
  chatType : ChatType
  accountId : JsString

/-- `aggregated.items[0]`. -/
def AggregatedMessage.firstItem (aggregated : AggregatedMessage) :
    AggregatedMessageItem :=
  aggregated.items.head aggregated.nonempty

/-- `existing.items.push(item)`. -/
def AggregatedMessage.add (aggregated : AggregatedMessage)
    (item : AggregatedMessageItem) : AggregatedMessage :=
  { aggregated with
    items := aggregated.items ++ [item]
    nonempty := by simp }

def AggregatedMessage.single (env : ServiceEnv)
    (item : AggregatedMessageItem) : AggregatedMessage where
  items := [item]
  nonempty := List.cons_ne_nil _ _
  sessionKey := sessionKeyFor item.event env.account.accountId
  senderId := senderKey item.event
  senderName := senderLabel item.event
  chatId := item.event.chatId
  chatType := item.event.chatType
  accountId := env.account.accountId

structure MessageAggregator where
  /-- the time at which the timer of a key is due -/
  timers : InsertionMap JsString ℕ
  buffers : InsertionMap JsString AggregatedMessage
  windowStarts : InsertionMap JsString ℕ

namespace MessageAggregator

def empty : MessageAggregator := ⟨.empty, .empty, .empty⟩

def flush (aggregator : MessageAggregator) (key : JsString) :
    MessageAggregator × Option AggregatedMessage :=
  ({ timers := aggregator.timers.delete key
     buffers := aggregator.buffers.delete key
     windowStarts := aggregator.windowStarts.delete key },
    aggregator.buffers.get? key)

def resetTimer (aggregator : MessageAggregator) (key : JsString) (due : ℕ) : MessageAggregator :=
  { aggregator with timers := aggregator.timers.set key due }

def due (now : ℕ) (item : AggregatedMessageItem) : ℕ :=
  now + aggregateWindowMs + if item.images.length > 0 then aggregateImageExtraWindowMs else 0

/-- `push` with the parameters that `handleMessage` passes for an item; an
existing buffer keeps its own session key. -/
def push (env : ServiceEnv) (now : ℕ) (aggregator : MessageAggregator)
    (item : AggregatedMessageItem) :
    MessageAggregator × Option AggregatedMessage :=
  let key := senderKey item.event
  match aggregator.buffers.get? key with
  | some existing =>
    let added := existing.add item
    let aggregator := { aggregator with buffers := aggregator.buffers.set key added }
    let windowStart := (aggregator.windowStarts.get? key).getD now
    if item.mentioned ∨ added.items.length ≥ aggregateMaxMessages ∨
        now - windowStart ≥ aggregateMaxWindowMs then
      aggregator.flush key
    else (aggregator.resetTimer key (due now item), none)
  | none =>
    let aggregator :=
      { aggregator with
        buffers := aggregator.buffers.set key (.single env item)
        windowStarts := aggregator.windowStarts.set key now }
    if item.mentioned then aggregator.flush key
    else (aggregator.resetTimer key (due now item), none)

def batch (env : ServiceEnv) (aggregator : MessageAggregator)
    (item : AggregatedMessageItem) : AggregatedMessage :=
  match aggregator.buffers.get? (senderKey item.event) with
  | some existing => existing.add item
  | none => .single env item

section Changes

variable {env : ServiceEnv} {aggregator : MessageAggregator}

theorem buffers_flush (key other : JsString) : (aggregator.flush key).1.buffers.get? other =
      if other = key then none else aggregator.buffers.get? other := by
  simp [flush, get?_delete]

theorem timers_flush (key other : JsString) : (aggregator.flush key).1.timers.get? other =
      if other = key then none else aggregator.timers.get? other := by
  simp [flush, get?_delete]

theorem push_eq (env : ServiceEnv) (now : ℕ)
    (aggregator : MessageAggregator) (item : AggregatedMessageItem) :
    ∃ filled : MessageAggregator, (∀ key, filled.buffers.get? key =
        if key = senderKey item.event then some (aggregator.batch env item)
        else aggregator.buffers.get? key) ∧
      filled.timers = aggregator.timers ∧
      (push env now aggregator item = filled.flush (senderKey item.event) ∨
        push env now aggregator item =
          (filled.resetTimer (senderKey item.event) (due now item), none)) := by
  cases hbuffer : aggregator.buffers.get? (senderKey item.event) with
  | none =>
    refine ⟨{ aggregator with
      buffers := aggregator.buffers.set (senderKey item.event) (.single env item)
      windowStarts := aggregator.windowStarts.set (senderKey item.event)
        now }, fun key => ?_, rfl, ?_⟩
    · simp [batch, hbuffer, get?_set]
    · simp only [push, hbuffer]
      split_ifs
      · exact .inl rfl
      · exact .inr rfl
  | some existing =>
    refine ⟨{ aggregator with
      buffers := aggregator.buffers.set (senderKey item.event)
        (existing.add item) }, fun key => ?_, rfl, ?_⟩
    · simp [batch, hbuffer, get?_set]
    · simp only [push, hbuffer]
      split_ifs
      · exact .inl rfl
      · exact .inr rfl

theorem push_cases (env : ServiceEnv) (now : ℕ)
    (aggregator : MessageAggregator) (item : AggregatedMessageItem) :
    ((push env now aggregator item).2 = some (aggregator.batch env item) ∧
        (∀ key, (push env now aggregator item).1.buffers.get? key =
          if key = senderKey item.event then none
          else aggregator.buffers.get? key) ∧
        ∀ key, (push env now aggregator item).1.timers.get? key =
          if key = senderKey item.event then none
          else aggregator.timers.get? key) ∨
      (push env now aggregator item).2 = none ∧
        (∀ key, (push env now aggregator item).1.buffers.get? key =
          if key = senderKey item.event then
            some (aggregator.batch env item)
          else aggregator.buffers.get? key) ∧
        ∀ key, (push env now aggregator item).1.timers.get? key =
          if key = senderKey item.event then some (due now item)
          else aggregator.timers.get? key := by
  obtain ⟨filled, hbuffers, htimers, heq | heq⟩ := push_eq env now aggregator item
  · left
    rw [heq]
    refine ⟨?_, fun key => ?_, fun key => ?_⟩
    · simp [flush, hbuffers]
    · rw [buffers_flush, hbuffers]
      split_ifs <;> rfl
    · rw [timers_flush, htimers]
  · right
    rw [heq]
    refine ⟨rfl, hbuffers, fun key => ?_⟩
    simp [resetTimer, get?_set, htimers]

theorem mem_items_batch {item other : AggregatedMessageItem} :
    other ∈ (aggregator.batch env item).items ↔ other = item ∨ ∃ existing,
        aggregator.buffers.get? (senderKey item.event) = some existing ∧
          other ∈ existing.items := by
  unfold batch
  split
  case h_1 existing hbuffer =>
      simp [AggregatedMessage.add, or_comm, hbuffer]
  case h_2 hbuffer => simp [AggregatedMessage.single, hbuffer]

end Changes

structure WellFormed (aggregator : MessageAggregator) : Prop where
  senderId : ∀ key aggregated,
    aggregator.buffers.get? key = some aggregated → aggregated.senderId = key
  sender : ∀ key aggregated, aggregator.buffers.get? key = some aggregated →
      ∀ item ∈ aggregated.items, senderKey item.event = key
  armed : ∀ key, (aggregator.timers.get? key).isSome = (aggregator.buffers.get? key).isSome

theorem empty_wellFormed : empty.WellFormed where
  senderId := by simp [empty]
  sender := by simp [empty]
  armed := by simp [empty]

namespace WellFormed

variable {env : ServiceEnv} {now : ℕ} {aggregator : MessageAggregator}
  (hwell : aggregator.WellFormed)

include hwell

variable (item : AggregatedMessageItem)

theorem batch_senderId : (aggregator.batch env item).senderId = senderKey item.event := by
  unfold batch
  split
  case h_1 existing hbuffer => exact hwell.senderId _ existing hbuffer
  case h_2 => rfl

theorem batch_sender : ∀ other ∈ (aggregator.batch env item).items,
      senderKey other.event = senderKey item.event := by
  intro other hmem
  rcases mem_items_batch.mp hmem with rfl | ⟨existing, hbuffer, hmem⟩
  · rfl
  · exact hwell.sender _ existing hbuffer other hmem

theorem push : (MessageAggregator.push env now aggregator item).1.WellFormed := by
  rcases push_cases env now aggregator item with
    ⟨-, hbuffers, htimers⟩ | ⟨-, hbuffers, htimers⟩
  · refine ⟨fun key aggregated hget => ?_, fun key aggregated hget => ?_, fun key => ?_⟩
    · rw [hbuffers] at hget
      split_ifs at hget
      exact hwell.senderId key aggregated hget
    · rw [hbuffers] at hget
      split_ifs at hget
      exact hwell.sender key aggregated hget
    · rw [hbuffers, htimers]
      split_ifs
      · rfl
      · exact hwell.armed key
  · refine ⟨fun key aggregated hget => ?_, fun key aggregated hget => ?_, fun key => ?_⟩
    · rw [hbuffers] at hget
      split_ifs at hget with hkey
      · rw [← Option.some.inj hget, hkey]
        exact hwell.batch_senderId item
      · exact hwell.senderId key aggregated hget
    · rw [hbuffers] at hget
      split_ifs at hget with hkey
      · rw [← Option.some.inj hget, hkey]
        exact hwell.batch_sender item
      · exact hwell.sender key aggregated hget
    · rw [hbuffers, htimers]
      split_ifs
      · rfl
      · exact hwell.armed key

theorem flush (key : JsString) : (aggregator.flush key).1.WellFormed := by
  refine ⟨fun other aggregated hget => ?_, fun other aggregated hget => ?_, fun other => ?_⟩
  · rw [buffers_flush] at hget
    split_ifs at hget
    exact hwell.senderId other aggregated hget
  · rw [buffers_flush] at hget
    split_ifs at hget
    exact hwell.sender other aggregated hget
  · rw [buffers_flush, timers_flush]
    split_ifs
    · rfl
    · exact hwell.armed other

end WellFormed

end MessageAggregator

end LittleBaby.Feishu
