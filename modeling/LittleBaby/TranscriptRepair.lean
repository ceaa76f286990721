import LittleBaby.TranscriptMessages

/-!
# Tool-result pairing repair

`repairToolUseResultPairing` takes a transcript apart at its assistant messages.
Within a span it collects the results of the assistant's tool calls; a set of the
ids already answered runs through the whole transcript.
-/

namespace LittleBaby.Transcript

open JsString JsValue

structure Turn where
  assistant : JsValue
  span : List JsValue

/-- The messages before the first assistant message, and the turns. -/
def turns : List JsValue → List JsValue × List Turn
  | [] => ([], [])
  | message :: rest =>
    let (span, later) := turns rest
    if isAssistant message then ([], ⟨message, span⟩ :: later)
    else (message :: span, later)

structure RepairState where
  out : List JsValue
  added : List JsValue
  seenToolResultIds : List JsString
  droppedDuplicateCount : ℕ
  droppedOrphanCount : ℕ
  moved : Bool
  changed : Bool

namespace RepairState

def initial : RepairState := ⟨[], [], [], 0, 0, false, false⟩

variable (state : RepairState)

def push (messages : List JsValue) : RepairState := { state with out := state.out ++ messages }

def pushToolResult (message : JsValue) : RepairState :=
  match extractToolResultId message with
  | some id =>
    if id ∈ state.seenToolResultIds then
      { state with
        droppedDuplicateCount := state.droppedDuplicateCount + 1
        changed := true }
    else
      { state with
        seenToolResultIds := state.seenToolResultIds ++ [id]
        out := state.out ++ [message] }
  | none => state.push [message]

def dropOrphan : RepairState :=
  { state with
    droppedOrphanCount := state.droppedOrphanCount + 1
    changed := true }

def visitOther (message : JsValue) : RepairState :=
  if isToolResult message then state.dropOrphan else state.push [message]

end RepairState

structure SpanScan where
  spanResultsById : List (JsString × JsValue)
  remainder : List JsValue
  droppedDuplicateCount : ℕ
  droppedOrphanCount : ℕ
  changed : Bool

def toolCallNamesById (toolCalls : List ToolCallLike) : List (JsString × Option JsString) :=
  (toolCalls.map fun call => (call.id, call.name)).reverse

namespace SpanScan

def initial : SpanScan := ⟨[], [], 0, 0, false⟩

def keep (scan : SpanScan) (toolCalls : List ToolCallLike) (id : JsString)
    (message : JsValue) : SpanScan :=
  let name := ((toolCallNamesById toolCalls).lookup id).getD none
  { scan with
    spanResultsById :=
      if (scan.spanResultsById.lookup id).isSome then scan.spanResultsById
      else scan.spanResultsById ++ [(id, normalizeToolResultName message name)]
    changed := scan.changed || (normalizedToolName message name).isSome }

def visit (toolCalls : List ToolCallLike) (seen : List JsString)
    (scan : SpanScan) (message : JsValue) : SpanScan :=
  if isToolResult message then
    match extractToolResultId message with
    | some id =>
      if id ∈ toolCalls.map ToolCallLike.id then
        if id ∈ seen then
          { scan with
            droppedDuplicateCount := scan.droppedDuplicateCount + 1
            changed := true }
        else scan.keep toolCalls id message
      else
        { scan with
          droppedOrphanCount := scan.droppedOrphanCount + 1
          changed := true }
    | none =>
      { scan with
        droppedOrphanCount := scan.droppedOrphanCount + 1
        changed := true }
  else { scan with remainder := scan.remainder ++ [message] }

end SpanScan

namespace RepairState

def pushPreserved (scan : SpanScan) (state : RepairState) (toolCall : ToolCallLike) : RepairState :=
  match scan.spanResultsById.lookup toolCall.id with
  | some result => state.pushToolResult result
  | none => state

def pushAnswer (now : JsNumber) (scan : SpanScan) (state : RepairState)
    (toolCall : ToolCallLike) : RepairState :=
  match scan.spanResultsById.lookup toolCall.id with
  | some result => state.pushToolResult result
  | none =>
    let missing := makeMissingToolResult now toolCall
    { state with
      added := state.added ++ [missing]
      changed := true }.pushToolResult missing

def absorb (state : RepairState) (scan : SpanScan) : RepairState :=
  { state with
    droppedDuplicateCount := state.droppedDuplicateCount + scan.droppedDuplicateCount
    droppedOrphanCount := state.droppedOrphanCount + scan.droppedOrphanCount
    changed := state.changed || scan.changed }

def answerErrored (policy : ErroredAssistantResultPolicy) (scan : SpanScan)
    (toolCalls : List ToolCallLike) (state : RepairState) : RepairState :=
  match policy with
  | .preserve => toolCalls.foldl (pushPreserved scan) state
  | .drop =>
    { state with
      changed := state.changed || !scan.spanResultsById.isEmpty }

def answerAll (now : JsNumber) (scan : SpanScan)
    (toolCalls : List ToolCallLike) (state : RepairState) : RepairState :=
  let shifted := !scan.spanResultsById.isEmpty && !scan.remainder.isEmpty
  toolCalls.foldl (pushAnswer now scan) { state with
      moved := state.moved || shifted
      changed := state.changed || shifted }

def visitTurn (policy : ErroredAssistantResultPolicy) (now : JsNumber)
    (state : RepairState) (turn : Turn) : RepairState :=
  let toolCalls := extractToolCallsFromAssistant turn.assistant
  if toolCalls = [] then
    turn.span.foldl visitOther (state.push [turn.assistant])
  else
    let scan := turn.span.foldl (SpanScan.visit toolCalls state.seenToolResultIds) .initial
    let entered := (state.absorb scan).push [turn.assistant]
    let answered :=
      if isErrored turn.assistant then
        entered.answerErrored policy scan toolCalls
      else entered.answerAll now scan toolCalls
    answered.push scan.remainder

end RepairState

structure ToolUseRepairReport where
  messages : List JsValue
  added : List JsValue
  droppedDuplicateCount : ℕ
  droppedOrphanCount : ℕ
  moved : Bool

def repairLoop (policy : ErroredAssistantResultPolicy) (now : JsNumber)
    (messages : List JsValue) : RepairState :=
  let (leading, later) := turns messages
  later.foldl (RepairState.visitTurn policy now) (leading.foldl RepairState.visitOther .initial)

def repairToolUseResultPairing (policy : ErroredAssistantResultPolicy)
    (now : JsNumber) (messages : List JsValue) : ToolUseRepairReport :=
  let final := repairLoop policy now messages
  let changedOrMoved := final.changed || final.moved
  { messages := if changedOrMoved then final.out else messages
    added := final.added
    droppedDuplicateCount := final.droppedDuplicateCount
    droppedOrphanCount := final.droppedOrphanCount
    moved := changedOrMoved }

end LittleBaby.Transcript
