import LittleBaby.TranscriptGuardPairing

/-!
# New ids of tool calls

The ids of the calls of a transcript are rewritten for providers that accept
only short alphanumeric ids.
-/

namespace LittleBaby.ToolCallIds

open JsString JsValue Transcript

inductive ToolCallIdMode
  | strict
  | strict9

def strict9Len : ℕ := 9

/-! ## Ids -/

/-- `[a-zA-Z0-9]`. -/
def isAlphanumeric (unit : UInt16) : Bool :=
  (97 ≤ unit && unit ≤ 122) || (65 ≤ unit && unit ≤ 90) || (48 ≤ unit && unit ≤ 57)

/-- `[0-9a-f]`. -/
def isHexDigit (unit : UInt16) : Bool := (48 ≤ unit && unit ≤ 57) || (97 ≤ unit && unit ≤ 102)

structure Sha256 where
  hex : JsString → JsString
  length_hex : ∀ text, (hex text).length = 64
  isHexDigit_of_mem : ∀ text, ∀ unit ∈ hex text, isHexDigit unit = true

variable (sha256 : Sha256)

def shortHash (text : JsString) (length : ℕ) : JsString := (sha256.hex text).take length

variable (id : JsString)

/-- `id.replace(/[^a-zA-Z0-9]/g, "")`. -/
def alphanumericOnly : JsString := id.filter isAlphanumeric

def sanitizeToolCallId (mode : ToolCallIdMode) : JsString :=
  if id = [] then
    match mode with
    | .strict9 => js "defaultid"
    | .strict => js "defaulttoolid"
  else
    match mode with
    | .strict9 =>
      if strict9Len ≤ (alphanumericOnly id).length then
        (alphanumericOnly id).take strict9Len
      else if 0 < (alphanumericOnly id).length then
        shortHash sha256 (alphanumericOnly id) strict9Len
      else shortHash sha256 (js "sanitized") strict9Len
    | .strict =>
      if 0 < (alphanumericOnly id).length then alphanumericOnly id
      else js "sanitizedtoolid"

def isValidCloudCodeAssistToolId (mode : ToolCallIdMode) : Bool :=
  match mode with
  | .strict9 => id.length = strict9Len && id.all isAlphanumeric
  | .strict => id ≠ [] && id.all isAlphanumeric

/-- `/^toolu_[A-Za-z0-9_]+$/`. -/
def isNativeAnthropicToolUseId : Bool :=
  let mark := js "toolu_"
  mark.isPrefixOf id && id.drop mark.length ≠ [] &&
    (id.drop mark.length).all fun unit => isAlphanumeric unit || unit = 95

def decimal (count : ℕ) : JsString := js (toString count)

/-- `${params.id}:${i}`, hashed. -/
def hashedId (index : ℕ) : JsString := shortHash sha256 (id ++ js ":" ++ decimal index) strict9Len

def maxLen : ℕ := 40

def hashCandidate : JsString :=
  let base := (sanitizeToolCallId sha256 id .strict).take maxLen
  let hash := shortHash sha256 id 8
  base.take (maxLen - hash.length) ++ hash

def numberedId (candidate : JsString) (index : ℕ) : JsString :=
  let suffix := js "x" ++ decimal index
  candidate.take (maxLen - suffix.length) ++ suffix

/-- `dateNow` is the clock at the time of the call. -/
def makeUniqueToolId (dateNow : ℕ) (id : JsString) (used : List JsString)
    (mode : ToolCallIdMode) : JsString :=
  match mode with
  | .strict9 =>
    let base := sanitizeToolCallId sha256 id .strict9
    let candidate := if strict9Len ≤ base.length then base.take strict9Len else []
    if candidate ≠ [] ∧ candidate ∉ used then candidate
    else
      match ((List.range 1000).map (hashedId sha256 id)).find? (· ∉ used) with
      | some hashed => hashed
      | none => shortHash sha256 (id ++ js ":" ++ decimal dateNow) strict9Len
  | .strict =>
    let base := (sanitizeToolCallId sha256 id .strict).take maxLen
    if base ∉ used then base
    else
      let candidate := hashCandidate sha256 id
      if candidate ∉ used then candidate
      else
        match ((List.range' 2 998).map (numberedId candidate)).find? (· ∉ used) with
        | some next => next
        | none =>
          let ts := js "t" ++ decimal dateNow
          candidate.take (maxLen - ts.length) ++ ts

/-! ## The resolver -/

structure ResolverOptions where
  preserveNativeAnthropicToolUseIds : Bool := false
  reservedIds : List JsString := []

structure Resolver where
  used : List JsString := []
  assistantOccurrences : List (JsString × ℕ) := []
  orphanToolResultOccurrences : List (JsString × ℕ) := []
  pendingByRawId : List (JsString × List JsString) := []

/-- `${id}:${occurrence}` from the second occurrence on. -/
def occurrenceSeed (occurrence : ℕ) : JsString :=
  if occurrence = 1 then id else id ++ js ":" ++ decimal occurrence

def orphanSeed (occurrence : ℕ) : JsString := id ++ js ":tool_result:" ++ decimal occurrence

def Resolver.pending (resolver : Resolver) (id : JsString) : List JsString :=
  (resolver.pendingByRawId.lookup id).getD []

section Resolving

variable (clock : ℕ → ℕ) (mode : ToolCallIdMode) (options : ResolverOptions)

def createOccurrenceAwareResolver : Resolver := { used := options.reservedIds }

variable (resolver : Resolver)

def allocate (seed : JsString) : JsString × Resolver :=
  let next := makeUniqueToolId sha256 (clock resolver.used.length) seed resolver.used mode
  (next, { resolver with used := resolver.used ++ [next] })

variable (id : JsString)

def allocatePreserving (seed : JsString) (occurrence : ℕ) : JsString × Resolver :=
  if options.preserveNativeAnthropicToolUseIds && isNativeAnthropicToolUseId id &&
      occurrence = 1 && id ∉ resolver.used then
    (id, { resolver with used := resolver.used ++ [id] })
  else allocate sha256 clock mode resolver seed

/-- `pending.push(next)`. -/
def Resolver.addPending (next : JsString) : Resolver :=
  { resolver with
    pendingByRawId := Entries.set id (resolver.pending id ++ [next]) resolver.pendingByRawId }

def resolveAssistantId : JsString × Resolver :=
  let occurrence := (resolver.assistantOccurrences.lookup id).getD 0 + 1
  let counted :=
    { resolver with
      assistantOccurrences := Entries.set id occurrence resolver.assistantOccurrences }
  let (next, allocated) := allocatePreserving sha256 clock mode options counted id
    (occurrenceSeed id occurrence) occurrence
  (next, allocated.addPending id next)

def resolveToolResultId : JsString × Resolver :=
  match resolver.pending id with
  | next :: rest =>
    let pendingByRawId :=
      if rest = [] then Entries.erase id resolver.pendingByRawId
      else Entries.set id rest resolver.pendingByRawId
    (next, { resolver with pendingByRawId := pendingByRawId })
  | [] =>
    let occurrence := (resolver.orphanToolResultOccurrences.lookup id).getD 0 + 1
    let counted :=
      { resolver with
        orphanToolResultOccurrences :=
          Entries.set id occurrence resolver.orphanToolResultOccurrences }
    allocatePreserving sha256 clock mode options counted id (orphanSeed id occurrence) occurrence

def preserveAssistantId : Resolver :=
  ({ resolver with used := resolver.used ++ [id] } : Resolver).addPending id id

/-! ## Messages -/

def rewriteBlock (block : JsValue) : JsValue × Resolver :=
  match toolCallOf block with
  | none => (block, resolver)
  | some toolCall =>
    let (nextId, resolver) := resolveAssistantId sha256 clock mode options resolver toolCall.id
    if nextId = toolCall.id then (block, resolver)
    else (withField (js "id") (.string nextId) block, resolver)

def rewriteBlocks (resolver : Resolver) : List JsValue → List JsValue × Resolver
  | [] => ([], resolver)
  | block :: rest =>
    let (next, resolver) := rewriteBlock sha256 clock mode options resolver block
    let (later, resolver) := rewriteBlocks resolver rest
    (next :: later, resolver)

def rewriteAssistantToolCallIds (message : JsValue) : JsValue × Resolver :=
  match field (js "content") message with
  | .array content =>
    let (next, resolver) := rewriteBlocks sha256 clock mode options resolver content
    (withField (js "content") (.array next) message, resolver)
  | _ => (message, resolver)

def nonEmptyField (key : JsString) (message : JsValue) : Option JsString :=
  (stringField key message).filter (· ≠ [])

def withIdField (key : JsString) (id : Option JsString) (message : JsValue) : JsValue :=
  match id with
  | some id => withField key (.string id) message
  | none => message

def rewriteToolResultIds (message : JsValue) : JsValue × Resolver :=
  let resolve := resolveToolResultId sha256 clock mode options
  match nonEmptyField (js "toolCallId") message, nonEmptyField (js "toolUseId") message with
  | none, none => (message, resolver)
  | some toolCallId, none =>
    let (next, resolver) := resolve resolver toolCallId
    (withIdField (js "toolCallId") (some next) message, resolver)
  | none, some toolUseId =>
    let (next, resolver) := resolve resolver toolUseId
    (withIdField (js "toolUseId") (some next) message, resolver)
  | some toolCallId, some toolUseId =>
    if toolCallId = toolUseId then
      let (next, resolver) := resolve resolver toolCallId
      (withIdField (js "toolUseId") (some next)
        (withIdField (js "toolCallId") (some next) message), resolver)
    else
      let (nextToolCallId, resolver) := resolve resolver toolCallId
      let (nextToolUseId, resolver) := resolve resolver toolUseId
      (withIdField (js "toolUseId") (some nextToolUseId)
        (withIdField (js "toolCallId") (some nextToolCallId) message), resolver)

structure ReplaySafeThinking where
  reservedIds : List JsString := []
  preservedIndexes : List ℕ := []

variable (replaySafeThinking : Option ReplaySafeThinking)

def sanitizeMessage (resolver : Resolver) (index : ℕ) (message : JsValue) : JsValue × Resolver :=
  if isAssistant message then
    if replaySafeThinking.any (index ∈ ·.preservedIndexes) then
      (message, (callIds message).foldl preserveAssistantId resolver)
    else rewriteAssistantToolCallIds sha256 clock mode options resolver message
  else if isToolResult message then
    rewriteToolResultIds sha256 clock mode options resolver message
  else (message, resolver)

def sanitizeFrom (resolver : Resolver) (index : ℕ) : List JsValue → List JsValue × Resolver
  | [] => ([], resolver)
  | message :: rest =>
    let (next, resolver) :=
      sanitizeMessage sha256 clock mode options replaySafeThinking resolver index message
    let (later, resolver) := sanitizeFrom resolver (index + 1) rest
    (next :: later, resolver)

end Resolving

/-- `preserveNativeAnthropicToolUseIds` is the option of that name; the second is there
when `preserveReplaySafeThinkingToolCallIds` is set. -/
def sanitizeToolCallIdsForCloudCodeAssist (clock : ℕ → ℕ) (messages : List JsValue)
    (mode : ToolCallIdMode) (preserveNativeAnthropicToolUseIds : Bool := false)
    (replaySafeThinking : Option ReplaySafeThinking := none) : List JsValue :=
  let options : ResolverOptions :=
    { preserveNativeAnthropicToolUseIds := preserveNativeAnthropicToolUseIds
      reservedIds := (replaySafeThinking.map ReplaySafeThinking.reservedIds).getD [] }
  (sanitizeFrom sha256 clock mode options replaySafeThinking
    (createOccurrenceAwareResolver options) 0 messages).1

end LittleBaby.ToolCallIds
