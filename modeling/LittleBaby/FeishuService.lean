import LittleBaby.FeishuDedupe
import LittleBaby.FeishuDispatch

/-!
# The Feishu service

The calls of `handleMessage` with their `await`s, each with a cell of its own,
the state files, and the dispatch machine of the aggregator, the sessions and the
pipelines as one machine.
-/

namespace LittleBaby.Feishu

open LabelledMachine JsString Dispatch

/-- Where a recorded message goes. -/
inductive Route where
  /-- to the active session of its sender -/
  | append
  /-- nowhere but the history -/
  | storeOnly
  /-- to the aggregator -/
  | aggregate
  deriving DecidableEq

inductive HandlerState where
  /-- awaits `parseMessageWithImages` -/
  | parsing
  /-- awaits `memory?.recordUserMessage`, before its row is written -/
  | recording (route : Route) (message : ParsedMessage)
  /-- awaits `memory?.recordUserMessage`, after its row is written -/
  | recorded (route : Route) (message : ParsedMessage)
  | returned
  | threw
  deriving DecidableEq

/-- A call of `handleMessage` that got past the guard. -/
structure Delivery where
  event : FeishuMessageEvent
  messageId : JsString
  startedAt : ℕ
  progress : HandlerState

inductive Role where
  | user
  | assistant

/-- Who writes to the history and to the database. -/
inductive Writer where
  | handler (index : ℕ)
  | pipeline (index : ℕ)
  deriving DecidableEq

/-- An entry of `conversations`, or a row of `lb_chat_messages`. -/
structure Turn where
  writer : Writer
  sessionKey : JsString
  role : Role
  content : JsString

/-- What `addHistory` appended and what was inserted into `lb_chat_messages`,
for all sessions in the order of the writes. -/
structure Store where
  history : List Turn
  rows : List Turn

/-- How the `INSERT` of a user message ends: with a new row, or with the
update of the row that has its key. -/
inductive RowOutcome where
  | inserted
  | duplicate (row : ℕ)
  deriving DecidableEq

namespace Store

variable (store : Store) (turn : Turn)

def addHistory : Store := { store with history := store.history ++ [turn] }

def insertRow : Store := { store with rows := store.rows ++ [turn] }

def writeUserRow : RowOutcome → Store
  | .inserted => store.insertRow turn
  | .duplicate row =>
    { store with
      rows := store.rows.modify row fun old =>
        { old with content := turn.content } }

def perform (writer : Writer) (sessionKey : JsString) (store : Store) : PipelineEvent → Store
  | .insertAssistant content =>
    store.insertRow ⟨writer, sessionKey, .assistant, content⟩
  | .addHistory content =>
    store.addHistory ⟨writer, sessionKey, .assistant, content⟩
  | _ => store

def inSession (sessionKey : JsString) (turns : List Turn) : List Turn :=
  turns.filter fun turn => turn.sessionKey = sessionKey

end Store

structure Service where
  dispatch : Dispatch
  dedupe : Dedupe
  deliveries : Arena Delivery
  store : Store
  shutdownRequested : Bool

/-- The service after its start, with the ids that `loadStateFiles` read. -/
def Service.boot (processed : InsertionSet JsString) : Service where
  dispatch := .initial
  dedupe := ⟨.empty, processed, .empty⟩
  deliveries := .empty
  store := ⟨[], []⟩
  shutdownRequested := false

namespace Service

/-- The messages that `handleMessage` drops right after the guard. -/
def ignores (env : ServiceEnv) (event : FeishuMessageEvent) : Bool :=
  decide (event.senderType = some (js "app")) || decide (event.senderId.openId = env.botOpenId) ||
      !isSenderAllowed env.account.config event

/-- The ways out of the `try` of `handleMessage`, with its `finally`. -/
def leave (service : Service) (index : ℕ) (delivery : Delivery)
    (progress : HandlerState) : Service :=
  { service with
    dedupe := service.dedupe.leave delivery.messageId
    deliveries := service.deliveries.put index { delivery with progress := progress } }

/-- `processedMessages.add` and `return`. -/
def finish (service : Service) (index : ℕ) (delivery : Delivery) : Service :=
  { service with
    dedupe := service.dedupe.markProcessed delivery.messageId }.leave index delivery .returned

/-- `handleMessage` up to its first `await`. -/
def deliver (env : ServiceEnv) (service : Service) (event : FeishuMessageEvent) : Service :=
  let messageId := trim event.messageId
  if service.dedupe.guards messageId then service
  else
    let delivery : Delivery := ⟨event, messageId, service.dispatch.now, .parsing⟩
    let entered :=
      { service with
        dedupe := service.dedupe.enter messageId service.dispatch.now
        deliveries := service.deliveries.push delivery }
    if ignores env event then
      entered.finish service.deliveries.size delivery
    else entered

def route (env : ServiceEnv) (service : Service)
    (event : FeishuMessageEvent) (message : ParsedMessage) : Route :=
  if service.dispatch.sessions.isActive (senderKey event) then .append
  else
    match rulePreFilter event message.text (isBotMentioned env event) with
    | .aggregate => .aggregate
    | .storeOnly => .storeOnly

/-- `handleMessage` from the parsed message to `recordUserMessage`. -/
def parsed (env : ServiceEnv) (service : Service) (index : ℕ)
    (delivery : Delivery) (message : ParsedMessage) : Service :=
  if trim message.text = [] ∧ message.images.length = 0 then
    service.finish index delivery
  else
    { service with
      deliveries := service.deliveries.put index { delivery with
          progress := .recording (service.route env delivery.event message) message } }

def userTurn (env : ServiceEnv) (index : ℕ) (event : FeishuMessageEvent)
    (content : JsString) : Turn :=
  ⟨.handler index, sessionKeyFor event env.account.accountId, .user, content⟩

/-- The item that `handleMessage` hands over. -/
def item (env : ServiceEnv) (service : Service) (index : ℕ)
    (event : FeishuMessageEvent) (message : ParsedMessage)
    (ref : Option DbMessageRef) : AggregatedMessageItem where
  delivery := index
  event := event
  text := message.text
  images := message.images
  imagePaths := message.imagePaths
  ts := service.dispatch.now
  mentioned := isBotMentioned env event
  dbRef := ref

/-- What `handleMessage` does to the dispatch machine with a recorded
message. -/
def handover (env : ServiceEnv) (service : Service) (index : ℕ)
    (event : FeishuMessageEvent) (route : Route) (message : ParsedMessage)
    (ref : Option DbMessageRef) : Option Dispatch.Action :=
  match route with
  | .append => some (.append (service.item env index event message ref))
  | .aggregate => some (.push (service.item env index event message ref))
  | .storeOnly => none

/-- `handleMessage` after `recordUserMessage`. -/
def userRecorded (env : ServiceEnv) (service : Service) (index : ℕ)
    (delivery : Delivery) (route : Route) (message : ParsedMessage)
    (ref : Option DbMessageRef) : Option Service :=
  let dispatched :=
    match service.handover env index delivery.event route message ref with
    | some action => step env service.dispatch action
    | none => some service.dispatch
  dispatched.map fun dispatch =>
    { service with
      dispatch := dispatch
      store := service.store.addHistory (userTurn env index delivery.event
          (historyContent message)) }.finish index delivery

inductive Action where
  | tick (ms : ℕ)
  /-- an `im.message.receive_v1` event -/
  | deliver (event : FeishuMessageEvent)
  /-- `parseMessageWithImages` returned, with these images downloaded -/
  | parsed (index : ℕ) (downloads : List ImageData)
  | parseFailed (index : ℕ)
  /-- the `INSERT` of `recordUserMessage` took effect -/
  | userRowWritten (index : ℕ) (outcome : RowOutcome)
  /-- `recordUserMessage` returned -/
  | userRecorded (index : ℕ) (ref : Option DbMessageRef)
  | timerFired (key : JsString)
  /-- `close`, up to its first `await` -/
  | shutdown
  | cleanupIdle
  | saveStateFiles
  | resume (index : ℕ) (answer : Answer)
  | timeOut (index : ℕ)
  | settle (index : ℕ)
  | apologised (index : ℕ)

def onDispatch (env : ServiceEnv) (service : Service) (action : Dispatch.Action) : Option Service :=
  (step env service.dispatch action).map fun dispatch =>
    { service with dispatch := dispatch }

def step (env : ServiceEnv) (service : Service) : Action → Option Service
  | .tick ms => service.onDispatch env (.tick ms)
  | .deliver event =>
    if service.shutdownRequested then none
    else some (service.deliver env event)
  | .parsed index downloads =>
    match service.deliveries.get? index with
    | some delivery =>
      if delivery.progress = .parsing then
        some (service.parsed env index delivery
          (parseMessageWithImages env delivery.event downloads))
      else none
    | none => none
  | .parseFailed index =>
    match service.deliveries.get? index with
    | some delivery =>
      if delivery.progress = .parsing then
        some (service.leave index delivery .threw)
      else none
    | none => none
  | .userRowWritten index outcome =>
    match service.deliveries.get? index with
    | some delivery =>
      match delivery.progress, env.memory with
      | .recording route message, true =>
        some { service with
          store := service.store.writeUserRow
            (userTurn env index delivery.event message.text) outcome
          deliveries := service.deliveries.put index
            { delivery with progress := .recorded route message } }
      | _, _ => none
    | none => none
  | .userRecorded index ref =>
    match service.deliveries.get? index with
    | some delivery =>
      match delivery.progress, ref with
      | .recording route message, none =>
        service.userRecorded env index delivery route message none
      | .recorded route message, ref =>
        service.userRecorded env index delivery route message ref
      | _, _ => none
    | none => none
  | .timerFired key => service.onDispatch env (.timerFired key)
  | .shutdown =>
    if service.shutdownRequested then none
    else
      (service.onDispatch env .flushAll).map fun flushed =>
        { flushed with shutdownRequested := true }
  | .cleanupIdle => service.onDispatch env .cleanupIdle
  | .saveStateFiles =>
    some { service with dedupe := service.dedupe.saveStateFiles }
  | .resume index answer =>
    (service.dispatch.resumed env index answer).map fun (pipeline, events) =>
      { service with
        dispatch := service.dispatch.carryOut index pipeline events
        store := events.foldl (Store.perform (.pipeline index)
          pipeline.aggregated.sessionKey) service.store }
  | .timeOut index => service.onDispatch env (.timeOut index)
  | .settle index => service.onDispatch env (.settle index)
  | .apologised index => service.onDispatch env (.apologised index)

def dispatchAction (env : ServiceEnv) (service : Service) : Action → Option Dispatch.Action
  | .tick ms => some (.tick ms)
  | .userRecorded index ref =>
    match service.deliveries.get? index with
    | some delivery =>
      match delivery.progress with
      | .recording route message | .recorded route message =>
        service.handover env index delivery.event route message ref
      | _ => none
    | none => none
  | .timerFired key => some (.timerFired key)
  | .shutdown => some .flushAll
  | .cleanupIdle => some .cleanupIdle
  | .resume index answer => some (.resume index answer)
  | .timeOut index => some (.timeOut index)
  | .settle index => some (.settle index)
  | .apologised index => some (.apologised index)
  | .deliver _ | .parsed _ _ | .parseFailed _ | .userRowWritten _ _
    | .saveStateFiles => none

variable {env : ServiceEnv} {service next : Service}

variable (index : ℕ) (delivery : Delivery)

@[simp] theorem dispatch_finish : (service.finish index delivery).dispatch = service.dispatch := rfl

@[simp] theorem dispatch_deliver (event : FeishuMessageEvent) :
    (service.deliver env event).dispatch = service.dispatch := by
  unfold deliver
  simp only
  split_ifs <;> rfl

@[simp] theorem dispatch_parsed (message : ParsedMessage) :
    (service.parsed env index delivery message).dispatch =
      service.dispatch := by
  unfold parsed
  split_ifs <;> rfl

theorem onDispatch_eq_some {action : Dispatch.Action}
    (hstep : service.onDispatch env action = some next) :
    ∃ dispatch, Dispatch.step env service.dispatch action = some dispatch ∧
      next = { service with dispatch := dispatch } := by
  simp only [onDispatch, Option.map_eq_some_iff] at hstep
  obtain ⟨dispatch, hdispatch, rfl⟩ := hstep
  exact ⟨dispatch, hdispatch, rfl⟩

theorem userRecorded_eq_some {index : ℕ} {delivery : Delivery}
    {route : Route} {message : ParsedMessage} {ref : Option DbMessageRef}
    (hstep : service.userRecorded env index delivery route message ref = some next) :
    ∃ dispatch, (service.handover env index delivery.event route message ref = none ∧
          dispatch = service.dispatch ∨
        ∃ action, service.handover env index delivery.event route message ref = some action ∧
          Dispatch.step env service.dispatch action = some dispatch) ∧
      next = { service with
        dispatch := dispatch
        store := service.store.addHistory (userTurn env index delivery.event
            (historyContent message)) }.finish index delivery := by
  simp only [userRecorded, Option.map_eq_some_iff] at hstep
  obtain ⟨dispatch, hdispatch, rfl⟩ := hstep
  refine ⟨dispatch, ?_, rfl⟩
  split at hdispatch
  case h_1 action haction => exact Or.inr ⟨action, haction, hdispatch⟩
  case h_2 hnone => exact Or.inl ⟨hnone, (Option.some.inj hdispatch).symm⟩

theorem projects (env : ServiceEnv) :
    Projects (step env) (Dispatch.step env) dispatch (dispatchAction env) := by
  intro service next action hstep
  cases action with
  | tick ms | timerFired key | cleanupIdle | timeOut index | settle index
    | apologised index =>
      obtain ⟨dispatch, hdispatch, rfl⟩ := onDispatch_eq_some hstep
      exact hdispatch
  | deliver event =>
    simp only [step] at hstep
    split_ifs at hstep
    rw [← Option.some.inj hstep]
    exact dispatch_deliver event
  | parsed index downloads =>
    simp only [step] at hstep
    split at hstep
    · split_ifs at hstep
      rw [← Option.some.inj hstep]
      exact dispatch_parsed _ _ _
    · simp at hstep
  | parseFailed index =>
    simp only [step] at hstep
    split at hstep
    · split_ifs at hstep
      rw [← Option.some.inj hstep]
      rfl
    · simp at hstep
  | userRowWritten index outcome =>
    simp only [step] at hstep
    split at hstep
    · split at hstep
      · rw [← Option.some.inj hstep]
        rfl
      · simp at hstep
    · simp at hstep
  | userRecorded index ref =>
    simp only [step] at hstep
    split at hstep
    case h_2 => simp at hstep
    case h_1 delivery hdelivery =>
        split at hstep
        case h_3 => simp at hstep
        all_goals
          rename_i hprogress
          obtain ⟨dispatch, ⟨hnone, rfl⟩ | ⟨action, haction, hdispatch⟩,
            rfl⟩ := userRecorded_eq_some hstep
          · simp only [dispatchAction, hdelivery, hprogress, hnone, dispatch_finish]
          · simp only [dispatchAction, hdelivery, hprogress, haction, hdispatch, dispatch_finish]
  | shutdown =>
    simp only [step, Option.ite_none_left_eq_some, Option.map_eq_some_iff] at hstep
    obtain ⟨-, flushed, hflushed, rfl⟩ := hstep
    obtain ⟨dispatch, hdispatch, rfl⟩ := onDispatch_eq_some hflushed
    exact hdispatch
  | saveStateFiles =>
    rw [← Option.some.inj hstep]
    rfl
  | resume index answer =>
    simp only [step, Option.map_eq_some_iff, Prod.exists] at hstep
    obtain ⟨pipeline, events, hresumed, rfl⟩ := hstep
    simp [dispatchAction, Dispatch.step, Dispatch.resume, hresumed]

/-- A guard of the dispatch machine, on the step that the service takes. -/
def Through (env : ServiceEnv) (guard : Dispatch → Dispatch.Action → Prop)
    (service : Service) (action : Action) : Prop :=
  ∀ event ∈ service.dispatchAction env action, guard service.dispatch event

instance (guard : Dispatch → Dispatch.Action → Prop)
    [∀ dispatch event, Decidable (guard dispatch event)] (action : Action) :
    Decidable (service.Through env guard action) :=
  inferInstanceAs (Decidable (∀ event ∈ service.dispatchAction env action,
    guard service.dispatch event))

end Service

/-- An account without restrictions, whose messages carry plain text. -/
def plainEnv (memory : Bool) : ServiceEnv where
  account :=
    { accountId := js "main"
      config := ⟨none, [], [], none⟩ }
  botOpenId := none
  botName := none
  memory := memory
  parseMessageText := fun event => event.content

/-- A text message from the user `ou_user`. -/
def textMessage (messageId chatId : JsString) (chatType : ChatType)
    (content : JsString) : FeishuMessageEvent where
  senderId := ⟨some (js "ou_user"), none, none⟩
  senderType := some (js "user")
  messageId := messageId
  chatId := chatId
  chatType := chatType
  messageType := js "text"
  content := content
  rootId := none
  parentId := none
  threadId := none
  mentions := []

def plainReply (toolRounds : ℕ) : GenerateReplyResult where
  text := js "ok"
  toolRounds := toolRounds
  nonblank := by decide

end LittleBaby.Feishu
