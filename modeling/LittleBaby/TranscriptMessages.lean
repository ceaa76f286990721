import LittleBaby.JsValue

/-!
# Messages of a session transcript

Messages come from session files and are read field by field; nothing about
their shape is taken for granted.
-/

namespace LittleBaby.Transcript

open JsString JsValue

/-- `message && typeof message === "object"`. -/
def isObjectLike : JsValue → Bool
  | .array _ | .object _ => true
  | _ => false

def field (key : JsString) : JsValue → JsValue
  | .object entries => readKey key entries
  | _ => .undefined

def stringField (key : JsString) (value : JsValue) : Option JsString :=
  match field key value with
  | .string text => some text
  | _ => none

def hasRole (role : JsString) (message : JsValue) : Bool :=
  decide (stringField (js "role") message = some role)

variable (message : JsValue)

def isAssistant : Bool := hasRole (js "assistant") message

def isToolResult : Bool := hasRole (js "toolResult") message

structure ToolCallLike where
  id : JsString
  name : Option JsString

def toolCallTypes : List JsString := [js "toolCall", js "toolUse", js "functionCall"]

def toolCallOf (block : JsValue) : Option ToolCallLike :=
  match stringField (js "id") block with
  | some (unit :: rest) =>
    if (stringField (js "type") block).any (fun type =>
        decide (type ∈ toolCallTypes)) then
      some ⟨unit :: rest, stringField (js "name") block⟩
    else none
  | _ => none

def extractToolCallsFromAssistant : List ToolCallLike :=
  match field (js "content") message with
  | .array content => content.filterMap toolCallOf
  | _ => []

def extractToolResultId : Option JsString :=
  orElse (stringField (js "toolCallId") message)
    (orElse (stringField (js "toolUseId") message) none)

def normalizeOptionalString (value : Option JsString) : Option JsString :=
  value.bind fun text => orElse (some (trim text)) none

/-- `{ ...message, toolName }`. -/
def withToolName (toolName : JsString) : JsValue → JsValue
  | .object entries =>
    .object (Entries.set (js "toolName") (.string toolName) entries)
  | other => other

def normalizedToolName (fallbackName : Option JsString) : Option JsString :=
  let rawToolName := stringField (js "toolName") message
  match normalizeOptionalString rawToolName with
  | some normalized =>
    if rawToolName = some normalized then none else some normalized
  | none =>
    match normalizeOptionalString fallbackName with
    | some normalized => some normalized
    | none => if rawToolName.isSome then some (js "unknown") else none

def normalizeToolResultName (fallbackName : Option JsString) : JsValue :=
  match normalizedToolName message fallbackName with
  | some toolName => withToolName toolName message
  | none => message

def missingToolResultText : JsString :=
  js "[littlebaby] missing tool result in session history; inserted " ++
    js "synthetic error result for transcript repair."

def makeMissingToolResult (now : JsNumber) (toolCall : ToolCallLike) : JsValue :=
  .object [(js "role", .string (js "toolResult")), (js "toolCallId", .string toolCall.id),
      (js "toolName", .string (toolCall.name.getD (js "unknown"))),
      (js "content", .array [.object [(js "type", .string (js "text")),
          (js "text", .string missingToolResultText)]]),
      (js "isError", .bool true),
      (js "timestamp", .number now)]

inductive ErroredAssistantResultPolicy where
  | preserve
  | drop
  deriving DecidableEq

def isErrored (assistant : JsValue) : Bool :=
  let stopReason := stringField (js "stopReason") assistant
  decide (stopReason = some (js "error") ∨ stopReason = some (js "aborted"))

section Fields

variable {key toolName : JsString} {message : JsValue}

theorem field_withToolName (hkey : key ≠ js "toolName") :
    field key (withToolName toolName message) = field key message := by
  cases message with
  | object entries =>
    have hlookup : (Entries.set (js "toolName") (.string toolName)
        entries).lookup key = entries.lookup key :=
      Entries.lookup_set_of_ne hkey
    simp [withToolName, field, readKey, hlookup]
  | _ => rfl

theorem stringField_normalize (hkey : key ≠ js "toolName") (fallbackName : Option JsString) :
    stringField key (normalizeToolResultName message fallbackName) = stringField key message := by
  unfold normalizeToolResultName
  cases normalizedToolName message fallbackName with
  | none => rfl
  | some name => rw [stringField, field_withToolName hkey, stringField]

@[simp] theorem isToolResult_normalize (fallbackName : Option JsString) :
    isToolResult (normalizeToolResultName message fallbackName) = isToolResult message := by
  rw [isToolResult, hasRole, stringField_normalize (by decide)]
  rfl

@[simp] theorem extractToolResultId_normalize (fallbackName : Option JsString) :
    extractToolResultId (normalizeToolResultName message fallbackName) =
      extractToolResultId message := by
  rw [extractToolResultId, stringField_normalize (by decide), stringField_normalize (by decide)]
  rfl

theorem isAssistant_eq_false_of_isToolResult
    (hresult : isToolResult message = true) : isAssistant message = false := by
  simp only [isToolResult, hasRole, decide_eq_true_eq] at hresult
  simp [isAssistant, hasRole, hresult]
  decide

theorem id_ne_nil_of_mem {toolCall : ToolCallLike}
    (hmem : toolCall ∈ extractToolCallsFromAssistant message) :
    toolCall.id ≠ [] := by
  unfold extractToolCallsFromAssistant at hmem
  split at hmem
  · obtain ⟨block, -, hblock⟩ := List.mem_filterMap.mp hmem
    unfold toolCallOf at hblock
    split at hblock
    · split_ifs at hblock
      rw [← Option.some.inj hblock]
      exact List.cons_ne_nil _ _
    · simp at hblock
  · simp at hmem

end Fields

section Missing

variable (now : JsNumber) (toolCall : ToolCallLike)

@[simp] theorem isToolResult_makeMissing :
    isToolResult (makeMissingToolResult now toolCall) = true := rfl

theorem extractToolResultId_makeMissing (hid : toolCall.id ≠ []) :
    extractToolResultId (makeMissingToolResult now toolCall) = some toolCall.id := by
  have hfield : stringField (js "toolCallId")
      (makeMissingToolResult now toolCall) = some toolCall.id := rfl
  rw [extractToolResultId, hfield]
  cases hcase : toolCall.id with
  | nil => exact absurd hcase hid
  | cons unit rest => rfl

theorem toolName_makeMissing : stringField (js "toolName") (makeMissingToolResult now toolCall) =
      some (toolCall.name.getD (js "unknown")) := rfl

end Missing

end LittleBaby.Transcript
