import LittleBaby.InsertionOrder
import LittleBaby.TranscriptMessages

/-!
# The guard in front of a transcript

Every message of a session is appended through the guard.  It drops the tool
calls that no provider would accept, remembers the calls that have no result yet,
and appends a synthetic result for each before anything else comes.
-/

namespace LittleBaby.Transcript

open JsString JsValue

/-! ## Tool calls of an assistant message -/

variable (block : JsValue) (key : JsString)

/-- `"input" in block ? block.input !== undefined && block.input !== null : false`. -/
def hasInput : JsValue → Bool
  | .object entries =>
    hasKey key entries && match readKey key entries with
      | .undefined | .null => false
      | _ => true
  | _ => false

def isRawToolCallBlock : Bool :=
  (stringField (js "type") block).any fun type => decide (type ∈ toolCallTypes)

def hasToolCallInput : Bool := hasInput (js "input") block || hasInput (js "arguments") block

def hasToolCallId : Bool := (stringField (js "id") block).any fun id => trim id ≠ []

def toolCallNameMaxChars : ℕ := 64

/-- `/[A-Za-z0-9_:.-]/`. -/
def isToolCallNameUnit (unit : UInt16) : Bool :=
  (0x41 ≤ unit && unit ≤ 0x5A) || (0x61 ≤ unit && unit ≤ 0x7A) ||
    (0x30 ≤ unit && unit ≤ 0x39) || unit ∈ ([0x5F, 0x3A, 0x2E, 0x2D] : List UInt16)

structure ToolResultMeta where
  toolCallId : Option JsString
  toolName : Option JsString
  isSynthetic : Bool

/-- `before_message_write` asks to drop the message, or gives another one. -/
structure BeforeMessageWriteResult where
  block : Bool
  message : Option JsValue

/-- The options of the guard; `truncateContent` cuts the content of a tool result
that is over the limit, and `toLowerCase` is that of the language. -/
structure GuardOptions where
  transformMessageForPersistence : JsValue → JsValue
  transformToolResultForPersistence : JsValue → ToolResultMeta → JsValue
  allowSyntheticToolResults : Bool
  allowedToolNames : Option (List JsString)
  beforeMessageWriteHook : JsValue → Option BeforeMessageWriteResult
  truncateContent : List JsValue → Option (List JsValue)
  toLowerCase : JsString → JsString

namespace GuardOptions

variable (options : GuardOptions)

def normalizeLowercaseStringOrEmpty (text : JsString) : JsString := options.toLowerCase (trim text)

/-- `normalizeAllowedToolNames`; a list without names allows all. -/
def normalizedAllowedToolNames : Option (List JsString) :=
  options.allowedToolNames.bind fun names =>
    match (names.filterMap nonBlank).map options.normalizeLowercaseStringOrEmpty with
    | [] => none
    | normalized => some normalized

def isAllowedToolCallName (name : Option JsString) : Bool :=
  match name.bind nonBlank with
  | none => false
  | some trimmed =>
    trimmed.length ≤ toolCallNameMaxChars && trimmed.all isToolCallNameUnit &&
      options.normalizedAllowedToolNames.all fun allowed =>
        decide (options.normalizeLowercaseStringOrEmpty trimmed ∈ allowed)

end GuardOptions

/-! ## Attachments of a spawned session -/

def redactedSessionsSpawnAttachmentContent : JsString := js "__LITTLEBABY_REDACTED__"

def sessionsSpawnAttachmentMetadataKeys : List JsString := [js "name", js "encoding", js "mimeType"]

def isNonBlankString : JsValue → Bool
  | .string text => trim text ≠ []
  | _ => false

def isRedactedSessionsSpawnAttachment : JsValue → Bool
  | .object entries =>
    (match readKey (js "content") entries with
      | .string text => text == redactedSessionsSpawnAttachmentContent
      | _ => false) &&
      entries.all fun (key, value) =>
        key == js "content" || (decide (key ∈ sessionsSpawnAttachmentMetadataKeys) &&
            isNonBlankString value)
  | _ => false

def redactSessionsSpawnAttachment (item : JsValue) : JsValue :=
  .object ((js "content", .string redactedSessionsSpawnAttachmentContent) ::
    sessionsSpawnAttachmentMetadataKeys.filterMap fun key =>
      let value := field key item
      if isNonBlankString value then some (key, value) else none)

/-- The arguments with redacted attachments; `none` when nothing changes. -/
def redactSessionsSpawnAttachmentsArgs (value : JsValue) : Option JsValue :=
  match value, field (js "attachments") value with
  | .object entries, .array raw =>
    if raw.all isRedactedSessionsSpawnAttachment then none
    else
      some (.object (Entries.set (js "attachments") (.array (raw.map fun item =>
          if isRedactedSessionsSpawnAttachment item then item
          else redactSessionsSpawnAttachment item)) entries))
  | _, _ => none

/-- `{ ...value, [key]: next }`. -/
def withField (next : JsValue) : JsValue → JsValue
  | .object entries => .object (Entries.set key next entries)
  | other => other

def withRedactedArgs (block : JsValue) : JsValue :=
  match redactSessionsSpawnAttachmentsArgs (field key block) with
  | some next => withField key next block
  | none => block

namespace GuardOptions

variable (options : GuardOptions)

def sanitizeToolCallBlock (block : JsValue) : JsValue :=
  let rawName := stringField (js "name") block
  match rawName.bind nonBlank with
  | none => block
  | some trimmedName =>
    let renamed :=
      if rawName = some trimmedName then block
      else withField (js "name") (.string trimmedName) block
    if options.normalizeLowercaseStringOrEmpty trimmedName = js "sessions_spawn" then
      withRedactedArgs (js "input") (withRedactedArgs (js "arguments") renamed)
    else renamed

def sanitizeBlock (block : JsValue) : Option JsValue :=
  if !isRawToolCallBlock block then some block
  else if !hasToolCallInput block || !hasToolCallId block ||
      !options.isAllowedToolCallName (stringField (js "name") block) then none
  else some (options.sanitizeToolCallBlock block)

variable (message : JsValue)

/-- `sanitizeToolCallInputs` of one assistant message, which is dropped when
nothing is left of its content. -/
def sanitizeToolCallInputs : Option JsValue :=
  match field (js "content") message with
  | .array content =>
    let nextContent := content.filterMap options.sanitizeBlock
    if nextContent.length < content.length ∧ nextContent = [] then none
    else some (withField (js "content") (.array nextContent) message)
  | _ => some message

/-! ## Appending -/

def normalizePersistedToolResultName (fallbackName : Option JsString) : JsValue :=
  if isToolResult message then normalizeToolResultName message fallbackName
  else message

def capToolResultSize : JsValue :=
  if !isToolResult message then message
  else
    match field (js "content") message with
    | .array content =>
      match options.truncateContent content with
      | some newContent =>
        withField (js "content") (.array newContent) message
      | none => message
    | _ => message

def applyBeforeWriteHook : Option JsValue :=
  match options.beforeMessageWriteHook message with
  | none => some message
  | some result =>
    if result.block then none else some (result.message.getD message)

end GuardOptions

/-- The calls without a result, with their names, and the messages that were
appended behind the guard. -/
structure GuardState where
  pending : InsertionMap JsString (Option JsString)
  persisted : List JsValue

namespace GuardState

def start : GuardState := ⟨.empty, []⟩

variable (options : GuardOptions)

variable (state : GuardState) (message : JsValue)

def append : GuardState := { state with persisted := state.persisted ++ [message] }

def persistedToolResult (resultMeta : ToolResultMeta) : Option JsValue :=
  (options.applyBeforeWriteHook (options.transformToolResultForPersistence message resultMeta)).map
      options.capToolResultSize

def syntheticResult (now : JsNumber) (id : JsString) : Option JsValue :=
  let name := (state.pending.get? id).join
  persistedToolResult options
    (options.transformMessageForPersistence (makeMissingToolResult now ⟨id, name⟩))
    ⟨some id, name, true⟩

def flushPendingToolResults (state : GuardState) (now : JsNumber) : GuardState :=
  { pending := .empty
    persisted := state.persisted ++ if options.allowSyntheticToolResults then
        state.pending.keys.filterMap (state.syntheticResult options now)
      else [] }

def trackToolCalls (calls : List ToolCallLike) : GuardState :=
  { state with
    pending := calls.foldl (fun pending call => pending.set call.id call.name) state.pending }

def appendToolResult : GuardState :=
  let id := extractToolResultId message
  let toolName := (id.bind state.pending.get?).join
  let next := match id with
    | some id => { state with pending := state.pending.delete id }
    | none => state
  let normalized := GuardOptions.normalizePersistedToolResultName message toolName
  let capped := options.capToolResultSize (options.transformMessageForPersistence normalized)
  match persistedToolResult options capped ⟨id, toolName, false⟩ with
  | some persisted => next.append persisted
  | none => next

def trackedCalls : List ToolCallLike :=
  if isAssistant message && !isErrored message then
    extractToolCallsFromAssistant message
  else []

def appendOther (state : GuardState) (now : JsNumber) (message : JsValue) :
    GuardState :=
  let toolCalls := trackedCalls message
  let cleared :=
    if state.pending.keys ≠ [] ∧ (toolCalls = [] ∨ isAssistant message = false) then
      state.flushPendingToolResults options now
    else state
  let flushed :=
    if cleared.pending.keys ≠ [] ∧ toolCalls ≠ [] then
      cleared.flushPendingToolResults options now
    else cleared
  match options.applyBeforeWriteHook (options.transformMessageForPersistence message) with
  | none => flushed
  | some finalMessage => (flushed.append finalMessage).trackToolCalls toolCalls

def guardedAppend (state : GuardState) (now : JsNumber) (message : JsValue) :
    GuardState :=
  let sanitized :=
    if isAssistant message then options.sanitizeToolCallInputs message
    else some message
  match sanitized with
  | none => state.flushPendingToolResults options now
  | some nextMessage =>
    if isToolResult nextMessage then state.appendToolResult options nextMessage
    else state.appendOther options now nextMessage

end GuardState

/-- The transcript of messages that are appended one by one, each with the time,
and a flush at the end. -/
def guardedTranscript (options : GuardOptions)
    (messages : List (JsNumber × JsValue)) (endNow : JsNumber) : List JsValue :=
  ((messages.foldl (fun state entry =>
    state.guardedAppend options entry.1 entry.2)
      GuardState.start).flushPendingToolResults options endNow).persisted

end LittleBaby.Transcript
