import LittleBaby.FeishuService
import LittleBaby.JsValue

/-!
# The tool loop of a reply

`generateReply` asks the model until it answers without tool calls, and carries
out the calls of each answer in order. The model and the tool servers may answer
anything.
-/

namespace LittleBaby.Feishu
namespace ToolLoop

open JsString JsValue

def MCP_TOOL_MAX_ATTEMPTS : ℕ := 4

def MAX_TOOL_ROUNDS : ℕ := 4

structure ToolFunction where
  name : Option JsString
  arguments : Option JsString

structure ToolCall where
  id : Option JsString
  type : Option JsString
  function : Option ToolFunction

variable (call : ToolCall)

def ToolCall.name : JsString := (call.function.bind ToolFunction.name).getD []

def ToolCall.argsText : JsString := (call.function.bind ToolFunction.arguments).getD (js "\x7b\x7d")

inductive ChatMessage where
  | system (content : JsString)
  | user (content : JsString)
  | assistant (content : Option JsString) (toolCalls : Option (List ToolCall))
  | tool (toolCallId content : JsString)

structure ChatResponse where
  content : JsString
  toolCalls : List ToolCall

/-! ## Tools -/

/-- `JSON`; the texts of `undefined` and of functions are missing. -/
structure Json where
  parse : JsString → Option JsValue
  stringify : JsValue → Option JsString
  stringifyIndented : JsValue → Option JsString

def safeJsonParse (json : Json) (text : JsString) : JsValue :=
  match json.parse text with
  | some (.object entries) => .object entries
  | _ => .object []

def isText (text : JsString) : JsValue → Bool
  | .string other => decide (other = text)
  | _ => false

def contentPart (json : Json) : JsValue → Option JsString
  | .object item =>
    let type := readKey (js "type") item
    match isText (js "text") type, readKey (js "text") item,
        isText (js "resource") type, readKey (js "resource") item with
    | true, .string text, _, _ => some text
    | _, _, true, .object resource =>
      match readKey (js "text") resource with
      | .string text => some text
      | _ => some ((json.stringify (.object resource)).getD [])
    | _, _, _, _ => some ((json.stringify (.object item)).getD [])
  | _ => none

def formatMcpToolResult (json : Json) : JsValue → JsString
  | .object result =>
    let content :=
      match readKey (js "content") result with
      | .array items => items.filterMap (contentPart json)
      | _ => []
    let structured :=
      match readKey (js "structuredContent") result with
      | .object entries => [(json.stringifyIndented (.object entries)).getD []]
      | _ => []
    let text := trim (join (js "\n\n") (content ++ structured))
    if text = [] then (json.stringify (.object result)).getD [] else text
  | .string text => text
  | other => (json.stringify other).getD (js "undefined")

structure McpToolBinding where
  serverName : JsString
  toolName : JsString

/-- `Math.floor` of a number that is finite and positive. -/
def readPositiveInteger : JsNumber → Option ℕ
  | .finite value => if value ≤ 0 then none else some ⌊value⌋.toNat
  | _ => none

/-- The tools by the names that the model sees, and for each connected server
the number that its configuration gives for `toolAttempts`. -/
structure McpHub where
  bindings : List (JsString × McpToolBinding)
  clients : List (JsString × JsNumber)

/-- What the code does not decide: the answer to each request to the model and
to each attempt of a tool call, both counted from the start. -/
structure Outside where
  json : Json
  callZaiChat : ℕ → List ChatMessage → Except Thrown ChatResponse
  /-- a failed attempt gives the text of `redactError` -/
  callTool : ℕ → McpToolBinding → JsValue → Except JsString JsValue

/-- The remaining attempts of a call, the number of attempts made before them
and the last error.  Returns the text of the result, or the last error. -/
def attemptTool (outside : Outside) (binding : McpToolBinding)
    (args : JsValue) : ℕ → ℕ → JsString → Except JsString JsString × ℕ
  | 0, made, lastError => (.error lastError, made)
  | remaining + 1, made, _ =>
    match outside.callTool made binding args with
    | .ok result => (.ok (formatMcpToolResult outside.json result), made + 1)
    | .error lastError =>
      attemptTool outside binding args remaining (made + 1) lastError

def callOpenAiTool (outside : Outside) (hub : McpHub) (openAiName : JsString)
    (args : JsValue) (made : ℕ) : JsString × ℕ :=
  match hub.bindings.lookup openAiName with
  | none => (js "Tool " ++ openAiName ++ js " is not available.", made)
  | some binding =>
    match hub.clients.lookup binding.serverName with
    | none =>
      (js "MCP server " ++ binding.serverName ++ js " is not connected.", made)
    | some toolAttempts =>
      let maxAttempts := (readPositiveInteger toolAttempts).getD MCP_TOOL_MAX_ATTEMPTS
      match attemptTool outside binding args maxAttempts made (js "undefined") with
      | (.ok text, after) => (text, after)
      | (.error lastError, after) =>
        (js "MCP tool " ++ openAiName ++ js " failed after " ++
          js (toString maxAttempts) ++ js " attempt(s): " ++ lastError,
          after)

def answerCalls (outside : Outside) (hub : McpHub) : List ToolCall → ℕ → List ChatMessage × ℕ
  | [], made => ([], made)
  | call :: rest, made =>
    let (result, after) := callOpenAiTool outside hub call.name
      (safeJsonParse outside.json call.argsText) made
    let (later, final) := answerCalls outside hub rest after
    (.tool (call.id.getD call.name) result :: later, final)

/-! ## The loop -/

structure ReplyState where
  messages : List ChatMessage
  toolRounds : ℕ
  /-- the attempts of tool calls made so far -/
  attempts : ℕ
  /-- the messages of each request to the model -/
  requests : List (List ChatMessage)

structure ReplyRun where
  outcome : Except Thrown GenerateReplyResult
  messages : List ChatMessage
  requests : List (List ChatMessage)

/-- `text || fallback` of texts that are not blank. -/
def replyText (text fallback : JsString) (hfallback : trim fallback ≠ [])
    (toolRounds : ℕ) : GenerateReplyResult :=
  if htext : trim text = [] then ⟨fallback, toolRounds, hfallback⟩
  else ⟨trim text, toolRounds, by rwa [trim_trim]⟩

def noReplyText : JsString := js "我这边没有生成有效回复。"

def tooManyRoundsText : JsString := js "MCP 工具调用超过 4 轮，我先停在这里。"

def noApiKeyText : JsString := js "ZAI API Key 没有配置，暂时无法回复。"

def replyLoop (outside : Outside) (hub : McpHub) (state : ReplyState) :
    ReplyRun :=
  let requests := state.requests ++ [state.messages]
  match outside.callZaiChat state.requests.length state.messages with
  | .error thrown => ⟨.error thrown, state.messages, requests⟩
  | .ok response =>
    if response.toolCalls.isEmpty then
      ⟨.ok (replyText response.content noReplyText (by decide)
        state.toolRounds), state.messages, requests⟩
    else if MAX_TOOL_ROUNDS ≤ state.toolRounds then
      ⟨.ok ⟨tooManyRoundsText, state.toolRounds, by decide⟩,
        state.messages, requests⟩
    else
      let (answers, attempts) := answerCalls outside hub response.toolCalls state.attempts
      replyLoop outside hub
        { messages := state.messages ++ .assistant (orElse (some response.content) none)
              (some response.toolCalls) :: answers
          toolRounds := state.toolRounds + 1
          attempts := attempts
          requests := requests }
  termination_by MAX_TOOL_ROUNDS - state.toolRounds

structure ConversationEntry where
  role : Role
  name : Option JsString
  content : JsString

/-- The arguments of `generateReply`, with what it reads from the
configuration, the documents and the history. -/
structure ReplyParams where
  apiKey : Option JsString
  systemPrompt : JsString
  history : List ConversationEntry
  sender : JsString
  text : JsString
  imagePaths : List JsString
  extraContext : Option JsString

def senderDisplayName (openId : JsString) : JsString :=
  if js "ou_" <+: openId then js "用户" ++ openId.rtake 4 else openId

def historyMessage (entry : ConversationEntry) : ChatMessage :=
  match entry.role with
  | .assistant => .assistant (some entry.content) none
  | .user =>
    match orElse entry.name none with
    | some name => .user (senderDisplayName name ++ js ": " ++ entry.content)
    | none => .user entry.content

def imagePromptSuffix (imagePaths : List JsString) : JsString :=
  if imagePaths = [] then []
  else
    js "\n\n[系统提示：用户发送了 " ++ js (toString imagePaths.length) ++
      js " 张图片，图片已保存到 " ++ join (js ", ") imagePaths ++
      js "。请使用 zai-mcp-server 的视觉工具（如 analyze_image）来查看图片内容，" ++
      js "不要说自己看不到。]"

def initialMessages (params : ReplyParams) : List ChatMessage :=
  .system params.systemPrompt :: (params.history.map historyMessage ++
      .user (params.sender ++ js ": " ++ params.text ++ imagePromptSuffix params.imagePaths) ::
      match orElse params.extraContext none with
      | some extraContext => [.user extraContext]
      | none => [])

def generateReply (outside : Outside) (hub : McpHub) (params : ReplyParams) :
    ReplyRun :=
  match orElse params.apiKey none with
  | none => ⟨.ok ⟨noApiKeyText, 0, by decide⟩, [], []⟩
  | some _ =>
    replyLoop outside hub
      { messages := initialMessages params
        toolRounds := 0
        attempts := 0
        requests := [] }

/-! ## The protocol of tool calls -/

def ChatMessage.isPlain : ChatMessage → Bool
  | .assistant _ (some _) => false
  | .tool _ _ => false
  | _ => true

def ChatMessage.callsTools : ChatMessage → Bool
  | .assistant _ (some _) => true
  | _ => false

/-- A message is the answer to a call, which is known by `key`. -/
def Answers (key : ToolCall → Option JsString) (call : ToolCall) (message : ChatMessage) : Prop :=
  ∃ id content, message = .tool id content ∧ key call = some id

inductive AnswersCalls (key : ToolCall → Option JsString) :
    List ChatMessage → Prop where
  | nil : AnswersCalls key []
  | plain {message rest} (hplain : message.isPlain = true)
      (hrest : AnswersCalls key rest) : AnswersCalls key (message :: rest)
  | calls {content toolCalls answers rest} (hanswers : List.Forall₂ (Answers key) toolCalls answers)
      (hrest : AnswersCalls key rest) :
      AnswersCalls key (.assistant content (some toolCalls) :: (answers ++ rest))

/-- What is asked of a run of `generateReply`. -/
structure KeepsProtocol (key : ToolCall → Option JsString) (run : ReplyRun) :
    Prop where
  requests : run.requests.length ≤ MAX_TOOL_ROUNDS + 1
  answered : ∀ messages ∈ run.requests, AnswersCalls key messages
  toolRounds : ∀ result, run.outcome = .ok result →
    result.toolRounds = run.messages.countP ChatMessage.callsTools

def ToolCall.answerId : Option JsString := some (call.id.getD call.name)

section Protocol

variable {key : ToolCall → Option JsString}

variable {messages : List ChatMessage}

theorem AnswersCalls.append {others : List ChatMessage} (hmessages : AnswersCalls key messages)
    (hothers : AnswersCalls key others) :
    AnswersCalls key (messages ++ others) := by
  induction hmessages with
  | nil => exact hothers
  | plain hplain _ ih => exact .plain hplain ih
  | calls hanswers _ ih =>
    rw [List.cons_append, List.append_assoc]
    exact .calls hanswers ih

theorem answersCalls_of_plain (hplain : ∀ message ∈ messages, message.isPlain = true) :
    AnswersCalls key messages := by
  induction messages with
  | nil => exact .nil
  | cons message rest ih =>
    apply AnswersCalls.plain (hplain message List.mem_cons_self)
    exact ih fun other hmem => hplain other (List.mem_cons_of_mem _ hmem)

theorem answers_answerCalls (outside : Outside) (hub : McpHub)
    (toolCalls : List ToolCall) (made : ℕ) :
    List.Forall₂ (Answers ToolCall.answerId) toolCalls
      (answerCalls outside hub toolCalls made).1 := by
  induction toolCalls generalizing made with
  | nil => exact .nil
  | cons call rest ih => exact .cons ⟨_, _, rfl, rfl⟩ (ih _)

variable {toolCalls : List ToolCall}

theorem forall_of_answers {answers : List ChatMessage}
    (hanswers : List.Forall₂ (Answers key) toolCalls answers) :
    (∀ call ∈ toolCalls, (key call).isSome = true) ∧
      ∀ message ∈ answers, message.callsTools = false := by
  induction hanswers with
  | nil => simp
  | cons hanswer _ ih =>
    obtain ⟨id, content, rfl, hkey⟩ := hanswer
    constructor
    · exact List.forall_mem_cons.mpr ⟨by simp [hkey], ih.1⟩
    · exact List.forall_mem_cons.mpr ⟨rfl, ih.2⟩

theorem countP_answers {answers : List ChatMessage}
    (hanswers : List.Forall₂ (Answers key) toolCalls answers) :
    answers.countP ChatMessage.callsTools = 0 := by
  apply List.countP_eq_zero.mpr
  intro message hmem
  simp [(forall_of_answers hanswers).2 message hmem]

theorem replyText_toolRounds (text fallback : JsString)
    (hfallback : trim fallback ≠ []) (toolRounds : ℕ) :
    (replyText text fallback hfallback toolRounds).toolRounds = toolRounds := by
  unfold replyText
  split_ifs <;> rfl

structure ReplyState.Valid (key : ToolCall → Option JsString)
    (state : ReplyState) : Prop where
  rounds : state.toolRounds ≤ MAX_TOOL_ROUNDS
  requests : state.requests.length = state.toolRounds
  answered : ∀ messages ∈ state.requests, AnswersCalls key messages
  messages : AnswersCalls key state.messages
  calls : state.messages.countP ChatMessage.callsTools = state.toolRounds

theorem ReplyState.Valid.ends {state : ReplyState}
    (hvalid : state.Valid key) {outcome : Except Thrown GenerateReplyResult}
    (houtcome : ∀ result, outcome = .ok result → result.toolRounds = state.toolRounds) :
    KeepsProtocol key ⟨outcome, state.messages, state.requests ++ [state.messages]⟩ := by
  have hrounds := hvalid.rounds
  have hrequests := hvalid.requests
  constructor
  · simp only [List.length_append, List.length_singleton]
    omega
  · intro messages hmem
    rcases List.mem_append.mp hmem with hbefore | hlast
    · exact hvalid.answered messages hbefore
    · rw [List.mem_singleton.mp hlast]
      exact hvalid.messages
  · intro result hresult
    exact (houtcome result hresult).trans hvalid.calls.symm

theorem replyLoop_keepsProtocol (outside : Outside) (hub : McpHub)
    (state : ReplyState) (hvalid : state.Valid ToolCall.answerId) :
    KeepsProtocol ToolCall.answerId (replyLoop outside hub state) := by
  fun_induction replyLoop outside hub state with
  | case1 state requests thrown hchat =>
    apply hvalid.ends
    simp
  | case2 state requests response hchat hdone =>
    apply hvalid.ends
    intro result hresult
    rw [← Except.ok.inj hresult]
    exact replyText_toolRounds _ _ _ _
  | case3 state requests response hchat hcalls hrounds =>
    apply hvalid.ends
    intro result hresult
    rw [← Except.ok.inj hresult]
  | case4 state requests response hchat hcalls hrounds answers attempts hanswered ih =>
      have hanswers : List.Forall₂ (Answers ToolCall.answerId)
          response.toolCalls answers := by
        have hall := answers_answerCalls outside hub response.toolCalls state.attempts
        rwa [hanswered] at hall
      apply ih
      constructor
      · simp only
        omega
      · simp only [requests, List.length_append, List.length_singleton]
        have hcount := hvalid.requests
        omega
      · intro messages hmem
        rcases List.mem_append.mp hmem with hbefore | hlast
        · exact hvalid.answered messages hbefore
        · rw [List.mem_singleton.mp hlast]
          exact hvalid.messages
      · apply hvalid.messages.append
        have hround := @AnswersCalls.calls _
          (orElse (some response.content) none) _ _ [] hanswers .nil
        rwa [List.append_nil] at hround
      · have hcount := hvalid.calls
        simp only [List.countP_append]
        rw [List.countP_cons_of_pos rfl, countP_answers hanswers]
        omega

theorem isPlain_initialMessages (params : ReplyParams) :
    ∀ message ∈ initialMessages params, message.isPlain = true := by
  have hhistory : ∀ entry, (historyMessage entry).isPlain = true := by
    intro entry
    unfold historyMessage
    cases entry.role with
    | assistant => rfl
    | user => cases orElse entry.name none <;> rfl
  intro message hmem
  rcases List.mem_cons.mp hmem with rfl | hrest
  · rfl
  · rcases List.mem_append.mp hrest with hpast | hnew
    · obtain ⟨entry, -, rfl⟩ := List.mem_map.mp hpast
      exact hhistory entry
    · cases hextra : orElse params.extraContext none with
      | none =>
        simp only [hextra, List.mem_singleton] at hnew
        subst hnew
        rfl
      | some extraContext =>
        simp only [hextra, List.mem_cons, List.not_mem_nil, or_false] at hnew
        rcases hnew with rfl | rfl <;> rfl

/-- Every run of `generateReply` keeps the protocol of tool calls. -/
theorem generateReply_keepsProtocol (outside : Outside) (hub : McpHub) (params : ReplyParams) :
    KeepsProtocol ToolCall.answerId (generateReply outside hub params) := by
  have hplain := isPlain_initialMessages params
  unfold generateReply
  split
  · constructor
    · simp
    · simp
    · intro result hresult
      rw [← Except.ok.inj hresult]
      rfl
  · apply replyLoop_keepsProtocol
    constructor
    · simp
    · rfl
    · simp
    · exact answersCalls_of_plain hplain
    · apply List.countP_eq_zero.mpr
      intro message hmem
      have hmessage := hplain message hmem
      cases message with
      | assistant content toolCalls =>
        cases toolCalls with
        | none => simp [ChatMessage.callsTools]
        | some calls => simp [ChatMessage.isPlain] at hmessage
      | _ => simp [ChatMessage.callsTools]

theorem AnswersCalls.isSome_key (hmessages : AnswersCalls key messages) {content : Option JsString}
    (hmem : .assistant content (some toolCalls) ∈ messages) :
    ∀ call ∈ toolCalls, (key call).isSome = true := by
  induction hmessages with
  | nil => simp at hmem
  | plain hplain _ ih =>
    rcases List.mem_cons.mp hmem with rfl | hrest
    · simp [ChatMessage.isPlain] at hplain
    · exact ih hrest
  | calls hanswers _ ih =>
    rcases List.mem_cons.mp hmem with hfirst | hrest
    · simp only [ChatMessage.assistant.injEq, Option.some.injEq] at hfirst
      rw [hfirst.2]
      exact (forall_of_answers hanswers).1
    · rcases List.mem_append.mp hrest with hanswer | hlater
      · have hnot := (forall_of_answers hanswers).2 _ hanswer
        simp [ChatMessage.callsTools] at hnot
      · exact ih hlater

end Protocol

theorem call_without_id_answered_by_name : ¬KeepsProtocol ToolCall.id (generateReply
        { json := ⟨fun _ => none, fun _ => none, fun _ => none⟩
          callZaiChat := fun request _ =>
            if request = 0 then
              .ok ⟨[], [⟨none, none, some ⟨some (js "read"), none⟩⟩]⟩
            else .ok ⟨js "done", []⟩
          callTool := fun _ _ _ => .error [] }
        ⟨[], []⟩
        { apiKey := some (js "key"), systemPrompt := [], history := []
          sender := js "ou_user", text := js "hi", imagePaths := []
          extraContext := none }) := by
  intro hkeeps
  have hanswered := hkeeps.answered
  simp [generateReply, orElse, js, encode, replyLoop, MAX_TOOL_ROUNDS] at hanswered
  have hcall := hanswered.2.isSome_key
    (List.mem_append_right _ List.mem_cons_self) _ List.mem_cons_self
  simp at hcall

end ToolLoop
end LittleBaby.Feishu
