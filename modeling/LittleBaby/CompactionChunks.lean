import Mathlib.Algebra.Order.Field.Rat
import LittleBaby.JsNumber
import LittleBaby.TranscriptMessages

/-!
# Chunks of a history

A history is cut into chunks for summaries, by shares of its tokens or by a
limit.
-/

namespace LittleBaby.Compaction

open JsString JsValue Transcript

/-- The estimated tokens of a message without the details of tool results. -/
abbrev Estimate := JsValue → ℚ

variable (tokens : Estimate)

def estimateMessagesTokens (messages : List JsValue) : ℚ :=
  messages.foldl (fun sum message => sum + tokens message) 0

def normalizeParts (parts : JsNumber) (messageCount : ℕ) : ℕ :=
  match parts with
  | .finite parts => if parts ≤ 1 then 1 else min (max 1 ⌊parts⌋₊) (max 1 messageCount)
  | _ => 1

/-- `new Set(toolCalls.map((t) => t.id))` as far as the message keeps calls pending. -/
def pendingOf (message : JsValue) : List JsString :=
  if isErrored message then [] else (extractToolCallsFromAssistant message).map (·.id)

structure SplitState where
  chunks : List (List JsValue) := []
  current : List JsValue := []
  currentTokens : ℚ := 0
  pendingToolCallIds : List JsString := []
  pendingChunkStartIndex : Option ℕ := none

variable (normalizedParts : ℕ) (targetTokens : ℚ)

variable (state : SplitState)

def splitCurrentAtPendingBoundary : SplitState :=
  match state.pendingChunkStartIndex with
  | none => state
  | some index =>
    if index = 0 ∨ normalizedParts - 1 ≤ state.chunks.length then state
    else
      { state with
        chunks := state.chunks ++ [state.current.take index]
        current := state.current.drop index
        currentTokens := estimateMessagesTokens tokens (state.current.drop index)
        pendingChunkStartIndex := some 0 }

variable (message : JsValue)

def cutBefore : SplitState :=
  if state.pendingToolCallIds = [] ∧ state.chunks.length < normalizedParts - 1 ∧
      state.current ≠ [] ∧ targetTokens < state.currentTokens + tokens message then
    { state with
      chunks := state.chunks ++ [state.current]
      current := []
      currentTokens := 0
      pendingChunkStartIndex := none }
  else state

/-- The pending calls behind a tool result; a result without an id ends the turn. -/
def answer : SplitState :=
  match extractToolResultId message with
  | none => { state with pendingToolCallIds := [], pendingChunkStartIndex := none }
  | some resultId =>
    { state with pendingToolCallIds := state.pendingToolCallIds.filter (· ≠ resultId) }

def cutAnswered : SplitState :=
  if state.pendingToolCallIds = [] ∧ state.chunks.length < normalizedParts - 1 ∧
      targetTokens < state.currentTokens then
    { splitCurrentAtPendingBoundary tokens normalizedParts state with
      pendingChunkStartIndex := none }
  else state

def splitStep : SplitState :=
  let state := cutBefore tokens normalizedParts targetTokens state message
  let state :=
    { state with
      current := state.current ++ [message]
      currentTokens := state.currentTokens + tokens message }
  if isAssistant message then
    { state with
      pendingToolCallIds := pendingOf message
      pendingChunkStartIndex :=
        if pendingOf message = [] then none else some (state.current.length - 1) }
  else if isToolResult message ∧ state.pendingToolCallIds ≠ [] then
    cutAnswered tokens normalizedParts targetTokens (answer state message)
  else state

def finishSplit : List (List JsValue) :=
  let state :=
    if state.pendingToolCallIds ≠ [] ∧ targetTokens < state.currentTokens then
      splitCurrentAtPendingBoundary tokens normalizedParts state
    else state
  if state.current = [] then state.chunks else state.chunks ++ [state.current]

def splitMessagesByTokenShare (messages : List JsValue) (parts : JsNumber) : List (List JsValue) :=
  let normalizedParts := normalizeParts parts messages.length
  if messages = [] then []
  else if normalizedParts ≤ 1 then [messages]
  else
    let targetTokens := estimateMessagesTokens tokens messages / normalizedParts
    finishSplit tokens normalizedParts targetTokens
      (messages.foldl (splitStep tokens normalizedParts targetTokens) {})

/-- `Math.max(1, Math.floor(maxTokens / SAFETY_MARGIN))`. -/
def effectiveMax : JsNumber → JsNumber
  | .finite maxTokens => JsNumber.max (.finite 1) (.floor (.finite (maxTokens / (6 / 5))))
  | other => JsNumber.max (.finite 1) other

structure ChunkState where
  chunks : List (List JsValue) := []
  currentChunk : List JsValue := []
  currentTokens : ℚ := 0

def isOver (limit : JsNumber) (count : ℚ) : Bool := JsNumber.lt limit (.finite count)

def chunkStep (limit : JsNumber) (state : ChunkState) (message : JsValue) : ChunkState :=
  let state :=
    if state.currentChunk ≠ [] ∧ isOver limit (state.currentTokens + tokens message) then
      { chunks := state.chunks ++ [state.currentChunk] }
    else state
  let state :=
    { state with
      currentChunk := state.currentChunk ++ [message]
      currentTokens := state.currentTokens + tokens message }
  if isOver limit (tokens message) then { chunks := state.chunks ++ [state.currentChunk] }
  else state

def chunkMessagesByMaxTokens (messages : List JsValue) (maxTokens : JsNumber) :
    List (List JsValue) :=
  let final := messages.foldl (chunkStep tokens (effectiveMax maxTokens)) {}
  if final.currentChunk = [] then final.chunks else final.chunks ++ [final.currentChunk]

end LittleBaby.Compaction
