import LittleBaby.FeishuSession

/-!
# The body of a pipeline

The body of `processAggregatedMessage` is an automaton: its states are the
promises it awaits, a settled promise resumes it up to its next `await`, and what
it does on the way is a list of events, which the service carries out in order.
-/

namespace LittleBaby.Feishu

open JsString

inductive Intent where
  | chat
  | tool
  | question
  | vision
  deriving DecidableEq

structure RoutingDecision where
  shouldReply : Bool
  intent : Intent
  tone : Tone
  deriving DecidableEq

/-- `generateReply` never returns a blank text. -/
structure GenerateReplyResult where
  text : JsString
  toolRounds : ℕ
  nonblank : trim text ≠ []
  deriving DecidableEq

/-- A thrown value: whether it is an `Error`, and its message. -/
structure Thrown where
  isError : Bool
  message : JsString
  deriving DecidableEq

/-- The condition for the `timed out` branch of the `catch` block. -/
def Thrown.silent (thrown : Thrown) : Bool :=
  !(thrown.isError && !includes thrown.message (js "timed out"))

inductive TurnStatus where
  | success
  | failed
  deriving DecidableEq

inductive ReplyPath where
  | chat
  | deep
  deriving DecidableEq

inductive Body where
  /-- `agentD` -/
  | deciding
  /-- `agentA` -/
  | chatting
  /-- `memory?.startAiTurn` -/
  | startingTurn
  /-- the first `generateReply` -/
  | generating (turn : Option ℕ)
  /-- `memory?.finishAiTurn` after it returned -/
  | finishing (turn : Option ℕ) (reply : GenerateReplyResult)
  /-- `memory?.finishAiTurn` after it threw -/
  | failing (turn : Option ℕ) (error : Thrown)
  /-- the second `generateReply` -/
  | regenerating (turn : Option ℕ) (reply : GenerateReplyResult)
  | refinishing (turn : Option ℕ) (reply : GenerateReplyResult)
  | refailing (turn : Option ℕ) (reply : GenerateReplyResult)
  /-- `sendFeishuReply` for a chunk, with the chunks after it -/
  | sending (path : ReplyPath) (text : JsString) (chunk : JsString) (rest : List JsString)
  /-- the `sleep` after a chunk -/
  | sleeping (path : ReplyPath) (text : JsString) (rest : List JsString)
  /-- `memory?.recordAssistantMessage`, before its row is written -/
  | recordingAssistant (text : JsString)
  /-- `memory?.recordAssistantMessage`, after its row is written -/
  | recordedAssistant (text : JsString)
  | returned
  | threw (error : Thrown)
  deriving DecidableEq

def Body.ended : Body → Bool
  | .returned | .threw _ => true
  | _ => false

/-- How an awaited promise settles. -/
inductive Answer where
  | decided (decision : RoutingDecision)
  | chatAnswered (outcome : Except Thrown JsString)
  | turnStarted (turn : Option ℕ)
  | generated (outcome : Except Thrown GenerateReplyResult)
  /-- with whether the write took effect -/
  | turnFinished (written : Bool)
  | chunkSent (outcome : Except Thrown Unit)
  | slept
  /-- the row of the assistant message is written -/
  | assistantInserted
  | assistantRecorded
  deriving DecidableEq

inductive PipelineEvent where
  /-- `sessionManager.transition(aggregated.senderId, state)` -/
  | transition (state : SessionState)
  /-- `sessionManager.clear(aggregated.senderId)` -/
  | clear
  | setTone (tone : Tone)
  /-- `session.retryCount++` and `session.pendingItems.splice(0)` -/
  | takePending
  /-- a call of `generateReply`, with the items of its `extraContext` -/
  | callGenerateReply (extraMessages : List AggregatedMessageItem)
  | generated (outcome : Except Thrown GenerateReplyResult)
  | turnStarted (turn : ℕ)
  | turnFinished (turn : ℕ) (status : TurnStatus) (toolRounds : ℕ)
  /-- the reply whose text goes out is settled -/
  | sendReply (reply : GenerateReplyResult)
  /-- a call of `sendFeishuReply` -/
  | sendChunk (text : JsString) (useReply : Bool)
  | chunkSent (text : JsString)
  | sendFailed (error : Thrown)
  | insertAssistant (content : JsString)
  | addHistory (content : JsString)
  deriving DecidableEq

namespace Body

/-- `memory?.finishAiTurn`, which writes nothing without a turn id. -/
def finishAiTurn (turn : Option ℕ) (written : Bool) (status : TurnStatus)
    (toolRounds : ℕ) : List PipelineEvent :=
  match turn, written with
  | some turn, true => [.turnFinished turn status toolRounds]
  | _, _ => []

def afterChunks (path : ReplyPath) (text : JsString) : Body × List PipelineEvent :=
  match path with
  | .chat => (.returned, [.addHistory text, .transition .idle, .clear])
  | .deep => (.recordingAssistant text, [])

variable (env : ServiceEnv)

/-- The loop over the chunks of a text, up to its first `await`. -/
def sendChunks (path : ReplyPath) (text : JsString) : Option (Body × List PipelineEvent) :=
  (chunkReply text env.account.config).map fun chunks =>
    match chunks with
    | [] => afterChunks path text
    | chunk :: rest => (.sending path text chunk rest, [.sendChunk chunk true])

def sendReply (reply : GenerateReplyResult)
    (before : List PipelineEvent) : Option (Body × List PipelineEvent) :=
  (sendChunks env .deep reply.text).map fun (body, events) =>
    (body, before ++ [.transition .sending, .sendReply reply] ++ events)

/-- `generateReply` for the first time. -/
def generate (turn : Option ℕ) (before : List PipelineEvent) : Body × List PipelineEvent :=
  (.generating turn, before ++ [.callGenerateReply []])

def route (aggregated : AggregatedMessage) (decision : RoutingDecision) :
    Body × List PipelineEvent :=
  if !decision.shouldReply then (.returned, [.transition .idle, .clear])
  else if decision.intent = .chat then
    (.chatting, [.setTone decision.tone, .transition .chatting])
  else if aggregated.firstItem.dbRef.isSome then
    (.startingTurn, [.setTone decision.tone, .transition .processing])
  else
    generate none [.setTone decision.tone, .transition .processing]

def validate (context : SessionContext) (turn : Option ℕ) (reply : GenerateReplyResult)
    (before : List PipelineEvent) : Option (Body × List PipelineEvent) :=
  if context.pendingItems ≠ [] ∧ context.retryCount < 1 then
    some (.regenerating turn reply, before ++ [.transition .validating, .takePending,
        .transition .processing, .callGenerateReply context.pendingItems])
  else sendReply env reply (before ++ [.transition .validating])

def complete (text : JsString) : Body × List PipelineEvent :=
  (.returned, [.addHistory text, .transition .idle, .clear])

def resume (aggregated : AggregatedMessage) (context : SessionContext) :
    Body → Answer → Option (Body × List PipelineEvent)
  | .deciding, .decided decision => some (route aggregated decision)
  | .chatting, .chatAnswered (.ok text) => sendChunks env .chat text
  | .chatting, .chatAnswered (.error error) => some (.threw error, [])
  | .startingTurn, .turnStarted turn =>
    -- `Number(result.insertId) || undefined`
    if turn = some 0 then none
    else some (generate turn (turn.toList.map .turnStarted))
  | .generating turn, .generated (.ok reply) =>
    some (.finishing turn reply, [.generated (.ok reply)])
  | .generating turn, .generated (.error error) =>
    some (.failing turn error, [.generated (.error error)])
  | .finishing turn reply, .turnFinished written =>
    validate env context turn reply (finishAiTurn turn written .success reply.toolRounds)
  | .failing turn error, .turnFinished written =>
    some (.threw error, finishAiTurn turn written .failed 0)
  | .regenerating turn _, .generated (.ok reply) =>
    some (.refinishing turn reply, [.generated (.ok reply)])
  | .regenerating turn reply, .generated (.error error) =>
    some (.refailing turn reply, [.generated (.error error)])
  | .refinishing turn reply, .turnFinished written =>
    sendReply env reply (finishAiTurn turn written .success reply.toolRounds)
  | .refailing turn reply, .turnFinished written =>
    sendReply env reply (finishAiTurn turn written .failed 0)
  | .sending path text chunk rest, .chunkSent (.ok ()) =>
    some (.sleeping path text rest, [.chunkSent chunk])
  | .sending _ _ _ _, .chunkSent (.error error) =>
    some (.threw error, [.sendFailed error])
  | .sleeping path text (chunk :: rest), .slept =>
    some (.sending path text chunk rest, [.sendChunk chunk false])
  | .sleeping path text [], .slept => some (afterChunks path text)
  | .recordingAssistant text, .assistantInserted =>
    if env.memory then
      some (.recordedAssistant text, [.insertAssistant text])
    else none
  | .recordingAssistant text, .assistantRecorded => some (complete text)
  | .recordedAssistant text, .assistantRecorded => some (complete text)
  | _, _ => none

end Body

def SessionContext.perform (now : ℕ) (context : SessionContext) : PipelineEvent → SessionContext
  | .transition state => { context with state := state, lastActivityAt := now }
  | .setTone tone => { context with tone := tone }
  | .takePending =>
    { context with
      retryCount := context.retryCount + 1
      pendingItems := [] }
  | _ => context

def SessionContext.performOrphan (context : SessionContext) : PipelineEvent → SessionContext
  | .setTone tone => { context with tone := tone }
  | .takePending =>
    { context with
      retryCount := context.retryCount + 1
      pendingItems := [] }
  | _ => context

end LittleBaby.Feishu
