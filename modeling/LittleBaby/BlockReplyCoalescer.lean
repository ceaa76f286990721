import LittleBaby.Batches
import LittleBaby.JsNumber
import LittleBaby.JsString
import LittleBaby.LabelledMachine

/-!
# Block replies that are coalesced

Texts that arrive one after the other are joined until the buffer is full, is
idle for long enough, or the next text may not be joined to it.
-/

namespace LittleBaby.BlockReplies

open JsString

/-- A payload; `others` are the fields that the coalescer never reads. -/
structure ReplyPayload (TOthers : Type) where
  text : Option JsString := none
  mediaUrl : Option JsString := none
  mediaUrls : Option (List JsString) := none
  replyToId : Option JsString := none
  audioAsVoice : Option Bool := none
  isReasoning : Option Bool := none
  isCompactionNotice : Option Bool := none
  others : Option TOthers := none

structure BlockStreamingCoalescing where
  minChars : JsNumber
  maxChars : JsNumber
  idleMs : JsNumber
  joiner : Option JsString
  flushOnEnqueue : Option Bool

variable {TOthers : Type}

def resolveOutboundMediaUrls (payload : ReplyPayload TOthers) : List JsString :=
  match payload.mediaUrls with
  | some (url :: urls) => url :: urls
  | _ =>
    match payload.mediaUrl with
    | some (unit :: rest) => [unit :: rest]
    | _ => []

structure SendableOutboundReplyParts where
  text : JsString
  hasText : Bool
  hasMedia : Bool

def resolveSendableOutboundReplyParts (payload : ReplyPayload TOthers) :
    SendableOutboundReplyParts :=
  let text := payload.text.getD []
  let mediaUrls := ((resolveOutboundMediaUrls payload).map trim).filter (· ≠ [])
  { text := text
    hasText := trim text ≠ []
    hasMedia := 0 < mediaUrls.length }

namespace BlockStreamingCoalescing

variable (config : BlockStreamingCoalescing)

def effectiveMinChars : JsNumber := .max (.ofNat 1) config.minChars.floor

def effectiveMaxChars : JsNumber := .max config.effectiveMinChars config.maxChars.floor

def effectiveIdleMs : JsNumber := .max (.ofNat 0) config.idleMs.floor

def effectiveJoiner : JsString := config.joiner.getD []

def flushesOnEnqueue : Bool := config.flushOnEnqueue == some true

end BlockStreamingCoalescing

/-- The variables of the closure, whether an idle timer is set, and the payloads
that `onFlush` was called with. -/
structure BlockReplyCoalescer (TOthers : Type) where
  bufferText : JsString := []
  bufferReplyToId : Option JsString := none
  bufferAudioAsVoice : Option Bool := none
  bufferIsReasoning : Option Bool := none
  bufferIsCompactionNotice : Option Bool := none
  idleTimer : Bool := false
  flushed : List (ReplyPayload TOthers) := []

namespace BlockReplyCoalescer

variable (config : BlockStreamingCoalescing) (shouldAbort : Bool)

variable (payload : ReplyPayload TOthers) (state : BlockReplyCoalescer TOthers)

def clearIdleTimer : BlockReplyCoalescer TOthers := { state with idleTimer := false }

def resetBuffer : BlockReplyCoalescer TOthers :=
  { state with
    bufferText := []
    bufferReplyToId := none
    bufferAudioAsVoice := none
    bufferIsReasoning := none
    bufferIsCompactionNotice := none }

def onFlush : BlockReplyCoalescer TOthers := { state with flushed := state.flushed ++ [payload] }

def scheduleIdleFlush : BlockReplyCoalescer TOthers :=
  if JsNumber.le config.effectiveIdleMs (.ofNat 0) then state
  else { state with idleTimer := true }

def bufferPayload (state : BlockReplyCoalescer TOthers) : ReplyPayload TOthers :=
  { text := some state.bufferText
    replyToId := state.bufferReplyToId
    audioAsVoice := state.bufferAudioAsVoice
    isReasoning := state.bufferIsReasoning
    isCompactionNotice := state.bufferIsCompactionNotice }

def flush (force : Bool) (state : BlockReplyCoalescer TOthers) : BlockReplyCoalescer TOthers :=
  let state := clearIdleTimer state
  if shouldAbort then resetBuffer state
  else if state.bufferText = [] then state
  else if !force && !config.flushesOnEnqueue &&
      JsNumber.lt (.ofNat state.bufferText.length) config.effectiveMinChars then
    scheduleIdleFlush config state
  else onFlush state.bufferPayload (resetBuffer state)

def describe : BlockReplyCoalescer TOthers :=
  { state with
    bufferReplyToId := payload.replyToId
    bufferAudioAsVoice := payload.audioAsVoice
    bufferIsReasoning := payload.isReasoning
    bufferIsCompactionNotice := payload.isCompactionNotice }

def replyToConflict : Bool :=
  (payload.replyToId.any (· ≠ [])) &&
    (!state.bufferReplyToId.any (· ≠ []) || state.bufferReplyToId != payload.replyToId)

def visibilityConflict : Bool :=
  state.bufferIsReasoning != payload.isReasoning ||
    state.bufferIsCompactionNotice != payload.isCompactionNotice

/-- The first half of `enqueue`: a buffer that the payload may not join goes
out. -/
def settleConflict : BlockReplyCoalescer TOthers :=
  if state.bufferText ≠ [] ∧ (replyToConflict payload state ||
      state.bufferAudioAsVoice != payload.audioAsVoice ||
      visibilityConflict payload state) then
    flush config shouldAbort true state
  else state

/-- The second half of `enqueue`: the text goes into the buffer, or out. -/
def appendText (text : JsString)
    (state : BlockReplyCoalescer TOthers) : BlockReplyCoalescer TOthers :=
  let state := if state.bufferText = [] then describe payload state else state
  let nextText :=
    if state.bufferText ≠ [] then state.bufferText ++ config.effectiveJoiner ++ text
    else text
  if JsNumber.lt config.effectiveMaxChars (.ofNat nextText.length) then
    if state.bufferText ≠ [] then
      let state := describe payload (flush config shouldAbort true state)
      if JsNumber.le config.effectiveMaxChars (.ofNat text.length) then
        onFlush payload state
      else scheduleIdleFlush config { state with bufferText := text }
    else onFlush payload state
  else
    let state := { state with bufferText := nextText }
    if JsNumber.le config.effectiveMaxChars (.ofNat state.bufferText.length) then
      flush config shouldAbort true state
    else scheduleIdleFlush config state

def enqueue : BlockReplyCoalescer TOthers :=
  if shouldAbort then state
  else
    let reply := resolveSendableOutboundReplyParts payload
    if reply.hasMedia then
      onFlush payload (flush config shouldAbort true state)
    else if !reply.hasText then state
    else if config.flushesOnEnqueue then
      let state :=
        if state.bufferText ≠ [] then flush config shouldAbort true state else state
      flush config shouldAbort true { describe payload state with bufferText := reply.text }
    else
      appendText config shouldAbort payload reply.text
        (settleConflict config shouldAbort payload state)

end BlockReplyCoalescer

/-- The calls of the interface and the idle timer, each with what `shouldAbort`
answers during it. -/
inductive Action (TOthers : Type)
  | enqueue (payload : ReplyPayload TOthers) (shouldAbort : Bool)
  | idleTimerFires (shouldAbort : Bool)
  | flush (force : Option Bool) (shouldAbort : Bool)
  | stop

def Action.shouldAbort : Action TOthers → Bool
  | .enqueue _ shouldAbort => shouldAbort
  | .idleTimerFires shouldAbort => shouldAbort
  | .flush _ shouldAbort => shouldAbort
  | .stop => false

def step (config : BlockStreamingCoalescing) (state : BlockReplyCoalescer TOthers) :
    Action TOthers → Option (BlockReplyCoalescer TOthers)
  | .enqueue payload shouldAbort => some (state.enqueue config shouldAbort payload)
  | .idleTimerFires shouldAbort =>
    if state.idleTimer then some (state.flush config shouldAbort false) else none
  | .flush force shouldAbort =>
    some (state.flush config shouldAbort (force == some true))
  | .stop => some state.clearIdleTimer

def hasTextOrMedia (payload : ReplyPayload TOthers) : Bool :=
  (resolveSendableOutboundReplyParts payload).hasText ||
    (resolveSendableOutboundReplyParts payload).hasMedia

def Action.enqueued : Action TOthers → Option (ReplyPayload TOthers)
  | .enqueue payload _ => if hasTextOrMedia payload then some payload else none
  | _ => none

end LittleBaby.BlockReplies
