import LittleBaby.Arena
import LittleBaby.FeishuAggregator

/-!
# Session contexts

`SessionManager` maps a sender to the context registered for it.  A context is
an object that a pipeline goes on using after it has been cleared from the
map, so the contexts live in an arena and the map holds their indices.
-/

namespace LittleBaby.Feishu

inductive SessionState where
  | idle
  | aggregating
  | routing
  | acking
  | processing
  | validating
  | sending
  | chatting
  | degraded
  deriving DecidableEq

inductive Tone where
  | concise
  | casual
  | detailed
  deriving DecidableEq

structure SessionContext where
  state : SessionState
  senderId : JsString
  senderName : JsString
  sessionKey : JsString
  chatId : JsString
  chatType : ChatType
  accountId : JsString
  retryCount : ℕ
  pendingItems : List AggregatedMessageItem
  lastActivityAt : ℕ
  tone : Tone

def SessionState.active : SessionState → Bool
  | .routing | .acking | .processing | .validating | .sending | .chatting =>
    true
  | _ => false

structure SessionManager where
  contexts : Arena SessionContext
  sessions : InsertionMap JsString ℕ

namespace SessionManager

def empty : SessionManager := ⟨.empty, .empty⟩

variable (manager : SessionManager) (senderId : JsString)

def get : Option SessionContext := (manager.sessions.get? senderId).bind manager.contexts.get?

def modify (index : ℕ) (change : SessionContext → SessionContext) : SessionManager :=
  match manager.contexts.get? index with
  | some context =>
    { manager with contexts := manager.contexts.put index (change context) }
  | none => manager

def created (aggregated : AggregatedMessage) (now : ℕ) : SessionContext where
  state := .idle
  senderId := aggregated.senderId
  senderName := aggregated.senderName
  sessionKey := aggregated.sessionKey
  chatId := aggregated.chatId
  chatType := aggregated.chatType
  accountId := aggregated.accountId
  retryCount := 0
  pendingItems := []
  lastActivityAt := now
  tone := .casual

def getOrCreate (aggregated : AggregatedMessage) (now : ℕ) : SessionManager × ℕ :=
  match manager.sessions.get? aggregated.senderId with
  | some index => (manager, index)
  | none =>
    ({ contexts := manager.contexts.push (created aggregated now)
       sessions := manager.sessions.set aggregated.senderId manager.contexts.size },
      manager.contexts.size)

def transition (newState : SessionState) (now : ℕ) : SessionManager :=
  match manager.sessions.get? senderId with
  | some index =>
    manager.modify index fun context =>
      { context with state := newState, lastActivityAt := now }
  | none => manager

def isActive : Bool := (manager.get senderId).any fun context => context.state.active

def appendItem (item : AggregatedMessageItem) (now : ℕ) : SessionManager :=
  match manager.sessions.get? senderId with
  | some index =>
    manager.modify index fun context =>
      { context with
        pendingItems := context.pendingItems ++ [item]
        lastActivityAt := now }
  | none => manager

def clear : SessionManager := { manager with sessions := manager.sessions.delete senderId }

/-- The condition under which `cleanupIdle` drops a context. -/
def idleFor (now index : ℕ) : Bool :=
  (manager.contexts.get? index).any fun context =>
    context.state == .idle && decide (now - context.lastActivityAt > 120000)

def cleanupIdle (now : ℕ) : SessionManager :=
  { manager with
    sessions := manager.sessions.filter fun _ index =>
      !manager.idleFor now index }

section Changes

variable (manager : SessionManager)

@[simp] theorem sessions_modify (index : ℕ) (change : SessionContext → SessionContext) :
    (manager.modify index change).sessions = manager.sessions := by
  unfold modify
  split <;> rfl

theorem contexts_modify (index other : ℕ) (change : SessionContext → SessionContext) :
    (manager.modify index change).contexts.get? other =
      if other = index then (manager.contexts.get? index).map change
      else manager.contexts.get? other := by
  unfold modify
  split
  case h_1 context hget =>
      rw [Arena.get?_put hget, hget]
      rfl
  case h_2 hget =>
      split_ifs with hother
      · rw [hother, hget]
        rfl
      · rfl

variable (senderId : JsString)

@[simp] theorem sessions_transition (newState : SessionState) (now : ℕ) :
    (manager.transition senderId newState now).sessions = manager.sessions := by
  unfold transition
  split
  · simp
  · rfl

@[simp] theorem sessions_appendItem (item : AggregatedMessageItem) (now : ℕ) :
    (manager.appendItem senderId item now).sessions = manager.sessions := by
  unfold appendItem
  split
  · simp
  · rfl

@[simp] theorem contexts_clear : (manager.clear senderId).contexts = manager.contexts := rfl

theorem contexts_transition (newState : SessionState) (now other : ℕ) :
    (manager.transition senderId newState now).contexts.get? other =
      if manager.sessions.get? senderId = some other then
        (manager.contexts.get? other).map fun context =>
          { context with state := newState, lastActivityAt := now }
      else manager.contexts.get? other := by
  unfold transition
  cases hsession : manager.sessions.get? senderId with
  | none => simp
  | some index =>
    simp only [contexts_modify, Option.some.injEq]
    by_cases hother : other = index
    · simp [hother]
    · simp [hother, Ne.symm hother]

theorem contexts_appendItem (item : AggregatedMessageItem) (now other : ℕ) :
    (manager.appendItem senderId item now).contexts.get? other =
      if manager.sessions.get? senderId = some other then
        (manager.contexts.get? other).map fun context =>
          { context with
            pendingItems := context.pendingItems ++ [item]
            lastActivityAt := now }
      else manager.contexts.get? other := by
  unfold appendItem
  cases hsession : manager.sessions.get? senderId with
  | none => simp
  | some index =>
    simp only [contexts_modify, Option.some.injEq]
    by_cases hother : other = index
    · simp [hother]
    · simp [hother, Ne.symm hother]

end Changes

end SessionManager

end LittleBaby.Feishu
