import LittleBaby.FeishuService
import LittleBaby.FeishuPipelineRuns

/-!
# History and memory

A turn is written first as a row of `lb_chat_messages` and then to the history
in the process.
-/

namespace LittleBaby.Feishu

open LabelledMachine JsString Pipeline

/-! ## Writers -/

/-- Where a writer is on its way from the database to the history. -/
inductive Stage where
  /-- has written nothing that is still to be appended -/
  | before
  | between (turn : Turn)
  | after

structure Ledger where
  stage : Writer → Stage
  store : Store

namespace Store

def unappended (store : Store) (sessionKey : JsString) : List Turn :=
  (inSession sessionKey store.rows).filter fun row =>
    row.writer ∉ store.history.map Turn.writer

def isNext (store : Store) (sessionKey : JsString) (writer : Writer) : Bool :=
  decide ((store.unappended sessionKey).head?.map Turn.writer = some writer)

theorem inSession_append_of_eq {sessionKey : JsString} (turns : List Turn)
    {turn : Turn} (hkey : turn.sessionKey = sessionKey) :
    inSession sessionKey (turns ++ [turn]) = inSession sessionKey turns ++ [turn] := by
  simp [inSession, hkey]

theorem inSession_append_of_ne {sessionKey : JsString} (turns : List Turn)
    {turn : Turn} (hkey : turn.sessionKey ≠ sessionKey) :
    inSession sessionKey (turns ++ [turn]) = inSession sessionKey turns := by
  simp [inSession, hkey]

end Store

namespace Ledger

open Store

inductive Step (ledger : Ledger) : Ledger → Prop where
  | wait {stage : Writer → Stage} (hbetween : ∀ writer turn, ledger.stage writer = .between turn →
        stage writer = .between turn)
      (hafter : ∀ writer, ledger.stage writer = .after → stage writer = .after) :
      Step ledger { ledger with stage := stage }
  | insert (turn : Turn) {stage : Writer → Stage} (hbefore : ledger.stage turn.writer = .before)
      (hbetween : stage turn.writer = .between turn)
      (hothers : ∀ writer, writer ≠ turn.writer → stage writer = ledger.stage writer) :
      Step ledger ⟨stage, ledger.store.insertRow turn⟩
  | append (turn : Turn) {stage : Writer → Stage}
      (hnext : ledger.store.isNext turn.sessionKey turn.writer = true)
      (hbetween : ledger.stage turn.writer = .between turn)
      (hafter : stage turn.writer = .after)
      (hothers : ∀ writer, writer ≠ turn.writer → stage writer = ledger.stage writer) :
      Step ledger ⟨stage, ledger.store.addHistory turn⟩

structure Agrees (ledger : Ledger) : Prop where
  split : ∀ sessionKey, ∃ pending, inSession sessionKey ledger.store.rows =
        inSession sessionKey ledger.store.history ++ pending ∧
      (pending.map Turn.writer).Nodup ∧
      ∀ turn ∈ pending, ledger.stage turn.writer = .between turn
  appended : ∀ turn ∈ ledger.store.history, ledger.stage turn.writer = .after

namespace Agrees

variable {ledger : Ledger} (hagrees : ledger.Agrees)

include hagrees

theorem unappended_eq {sessionKey : JsString} {pending : List Turn}
    (hsplit : inSession sessionKey ledger.store.rows =
      inSession sessionKey ledger.store.history ++ pending)
    (hbetween : ∀ turn ∈ pending, ledger.stage turn.writer = .between turn) :
    ledger.store.unappended sessionKey = pending := by
  have hold : (inSession sessionKey ledger.store.history).filter (fun row =>
      row.writer ∉ ledger.store.history.map Turn.writer) = [] := by
    apply List.filter_eq_nil_iff.mpr
    intro turn hmem
    have hhistory : turn ∈ ledger.store.history := List.mem_of_mem_filter hmem
    simpa using ⟨turn, hhistory, rfl⟩
  have hnew : pending.filter (fun row =>
      row.writer ∉ ledger.store.history.map Turn.writer) = pending := by
    apply List.filter_eq_self.mpr
    intro turn hmem
    simp only [decide_eq_true_eq]
    intro hwriter
    obtain ⟨other, hother, hsame⟩ := List.mem_map.mp hwriter
    have hafter := hagrees.appended other hother
    rw [hsame, hbetween turn hmem] at hafter
    simp at hafter
  rw [unappended, hsplit, List.filter_append, hold, hnew, List.nil_append]

theorem insert {turn : Turn} {stage : Writer → Stage} (hbefore : ledger.stage turn.writer = .before)
    (hbetween : stage turn.writer = .between turn)
    (hothers : ∀ writer, writer ≠ turn.writer → stage writer = ledger.stage writer) :
    Agrees ⟨stage, ledger.store.insertRow turn⟩ := by
  have hne : ∀ {other : Turn}, ledger.stage other.writer ≠ .before →
      other.writer ≠ turn.writer := by
    intro other hstage hsame
    exact hstage (hsame ▸ hbefore)
  constructor
  · intro sessionKey
    obtain ⟨pending, hsplit, hnodup, hpending⟩ := hagrees.split sessionKey
    have hkeep : ∀ other ∈ pending, stage other.writer = .between other := by
      intro other hmem
      have hstage := hpending other hmem
      rw [hothers other.writer (hne (by simp [hstage]))]
      exact hstage
    by_cases hkey : turn.sessionKey = sessionKey
    · refine ⟨pending ++ [turn], ?_, ?_, ?_⟩
      · simp only [insertRow]
        rw [inSession_append_of_eq _ hkey, hsplit, List.append_assoc]
      · rw [List.map_append, List.map_singleton, List.nodup_append]
        refine ⟨hnodup, List.nodup_singleton _, ?_⟩
        intro writer hwriter other hother
        obtain ⟨row, hrow, rfl⟩ := List.mem_map.mp hwriter
        rw [List.mem_singleton.mp hother]
        exact hne (by simp [hpending row hrow])
      · intro other hmem
        rcases List.mem_append.mp hmem with hold | hlast
        · exact hkeep other hold
        · rw [List.mem_singleton.mp hlast]
          exact hbetween
    · refine ⟨pending, ?_, hnodup, hkeep⟩
      simp only [insertRow]
      rw [inSession_append_of_ne _ hkey, hsplit]
  · intro other hmem
    have hstage := hagrees.appended other hmem
    simp only
    rw [hothers other.writer (hne (by simp [hstage]))]
    exact hstage

theorem append {turn : Turn} {stage : Writer → Stage}
    (hnext : ledger.store.isNext turn.sessionKey turn.writer = true)
    (hbetween : ledger.stage turn.writer = .between turn)
    (hafter : stage turn.writer = .after)
    (hothers : ∀ writer, writer ≠ turn.writer → stage writer = ledger.stage writer) :
    Agrees ⟨stage, ledger.store.addHistory turn⟩ := by
  constructor
  · intro sessionKey
    obtain ⟨pending, hsplit, hnodup, hpending⟩ := hagrees.split sessionKey
    by_cases hkey : turn.sessionKey = sessionKey
    · subst hkey
      have hunappended := hagrees.unappended_eq hsplit hpending
      rw [isNext, hunappended, decide_eq_true_eq] at hnext
      cases pending with
      | nil => simp at hnext
      | cons first rest =>
        have hfirst : first = turn := by
          have hstage := hpending first List.mem_cons_self
          rw [List.head?_cons, Option.map_some, Option.some.injEq] at hnext
          rw [hnext, hbetween, Stage.between.injEq] at hstage
          exact hstage.symm
        subst hfirst
        rw [List.map_cons, List.nodup_cons] at hnodup
        refine ⟨rest, ?_, hnodup.2, ?_⟩
        · simp only [addHistory]
          rw [inSession_append_of_eq _ rfl, hsplit, List.append_assoc, List.singleton_append]
        · intro other hmem
          have hne : other.writer ≠ first.writer := by
            intro hsame
            exact hnodup.1 (hsame ▸ List.mem_map_of_mem hmem)
          simp only
          rw [hothers other.writer hne]
          exact hpending other (List.mem_cons_of_mem _ hmem)
    · refine ⟨pending, ?_, hnodup, ?_⟩
      · simp only [addHistory]
        rw [inSession_append_of_ne _ hkey, hsplit]
      · intro other hmem
        have hstage := hpending other hmem
        have hne : other.writer ≠ turn.writer := by
          intro hsame
          rw [hsame, hbetween, Stage.between.injEq] at hstage
          have hrow : other ∈ inSession sessionKey ledger.store.rows := by
            rw [hsplit]
            exact List.mem_append_right _ hmem
          have hother : other.sessionKey = sessionKey := by
            simpa [inSession] using (List.mem_filter.mp hrow).2
          exact hkey (hstage ▸ hother)
        simp only
        rw [hothers other.writer hne]
        exact hstage
  · intro other hmem
    rcases List.mem_append.mp hmem with hold | hlast
    · have hstage := hagrees.appended other hold
      have hne : other.writer ≠ turn.writer := by
        intro hsame
        rw [hsame, hbetween] at hstage
        simp at hstage
      simp only
      rw [hothers other.writer hne]
      exact hstage
    · rw [List.mem_singleton.mp hlast]
      exact hafter

theorem step {next : Ledger} (hstep : ledger.Step next) : next.Agrees := by
  cases hstep with
  | wait hbetween hafter =>
    constructor
    · intro sessionKey
      obtain ⟨pending, hsplit, hnodup, hpending⟩ := hagrees.split sessionKey
      exact ⟨pending, hsplit, hnodup, fun turn hmem =>
        hbetween turn.writer turn (hpending turn hmem)⟩
    · intro turn hmem
      exact hafter turn.writer (hagrees.appended turn hmem)
  | insert turn hbefore hbetween hothers =>
    exact hagrees.insert hbefore hbetween hothers
  | append turn hnext hbetween hafter hothers =>
    exact hagrees.append hnext hbetween hafter hothers

end Agrees

end Ledger

/-! ## The writers of the service -/

def Delivery.stage (env : ServiceEnv) (index : ℕ) (delivery : Delivery) : Stage :=
  match delivery.progress with
  | .recorded _ message =>
    .between (Service.userTurn env index delivery.event message.text)
  | .returned => .after
  | _ => .before

def Pipeline.stage (index : ℕ) (pipeline : Pipeline) : Stage :=
  match pipeline.body with
  | .recordedAssistant text =>
    .between ⟨.pipeline index, pipeline.aggregated.sessionKey, .assistant, text⟩
  | .returned => .after
  | _ => .before

def stageOf (env : ServiceEnv) (deliveries : Arena Delivery)
    (pipelines : Arena Pipeline) : Writer → Stage
  | .handler index =>
    ((deliveries.get? index).map (Delivery.stage env index)).getD .before
  | .pipeline index =>
    ((pipelines.get? index).map (stage index)).getD .before

def PipelineEvent.appends : PipelineEvent → Bool
  | .addHistory _ => true
  | _ => false

def PipelineEvent.isSilent : PipelineEvent → Bool
  | .addHistory _ | .insertAssistant _ => false
  | _ => true

variable {events : List PipelineEvent}

theorem Store.foldl_perform_of_silent (writer : Writer) (sessionKey : JsString)
    (hsilent : ∀ event ∈ events, event.isSilent = true) (store : Store) :
    events.foldl (Store.perform writer sessionKey) store = store := by
  induction events generalizing store with
  | nil => rfl
  | cons event rest ih =>
    have hevent := hsilent event List.mem_cons_self
    have hstore : store.perform writer sessionKey event = store := by
      cases event <;> simp_all [PipelineEvent.isSilent, Store.perform]
    rw [List.foldl_cons, hstore]
    exact ih (fun other hmem => hsilent other (List.mem_cons_of_mem _ hmem)) store

theorem Body.Step.writes {env : ServiceEnv} {aggregated : AggregatedMessage}
    {context : SessionContext} {body next : Body} {answer : Answer}
    (hstep : Body.Step env aggregated context body answer next events) :
    ((∀ event ∈ events, event.isSilent = true) ∧
        (∀ text, body ≠ .recordedAssistant text) ∧ body ≠ .returned) ∨
      (∃ text, body = .recordingAssistant text ∧
        next = .recordedAssistant text ∧ events = [.insertAssistant text]) ∨
      ∃ text, next = .returned ∧ events = [.addHistory text, .transition .idle, .clear] ∧
        ∀ other, body = .recordedAssistant other → other = text := by
  have hfinish : ∀ (turn : Option ℕ) (written : Bool) (status : TurnStatus)
      (toolRounds : ℕ), ∀ event ∈ Body.finishAiTurn turn written status
        toolRounds, event.isSilent = true := by
    intro turn written status toolRounds event hmem
    cases turn with
    | none => simp [Body.finishAiTurn] at hmem
    | some turn =>
      cases written with
      | false => simp [Body.finishAiTurn] at hmem
      | true =>
        rw [List.mem_singleton.mp hmem]
        rfl
  cases hstep with
  | inserted text hmemory => exact .inr (.inl ⟨text, rfl, rfl, rfl⟩)
  | chatEmpty text | chatSent text | notInserted text | recorded text =>
    exact .inr (.inr ⟨text, rfl, rfl, by simp⟩)
  | reply reply before chunk rest hsource hchunks =>
    left
    have hbefore : ∀ event ∈ before, event.isSilent = true := by
      cases hsource with
      | first turn reply written hpending =>
        rw [List.forall_mem_append]
        exact ⟨hfinish _ _ _ _, by simp [PipelineEvent.isSilent]⟩
      | second | fallback => exact hfinish _ _ _ _
    constructor
    · rw [List.forall_mem_append]
      refine ⟨?_, by simp [PipelineEvent.isSilent]⟩
      rw [List.forall_mem_append]
      exact ⟨hbefore, by simp [PipelineEvent.isSilent]⟩
    · cases hsource <;> simp
  | retry =>
    left
    constructor
    · rw [List.forall_mem_append]
      exact ⟨hfinish _ _ _ _, by simp [PipelineEvent.isSilent]⟩
    · simp
  | failed =>
    left
    exact ⟨hfinish _ _ _ _, by simp⟩
  | turnStarted turn hturn =>
    left
    constructor
    · rw [List.forall_mem_append]
      exact ⟨by cases turn <;> simp [PipelineEvent.isSilent], by simp [PipelineEvent.isSilent]⟩
    · simp
  | noReply | chat | startTurn | skipTurn | chatFailed | chatSending
    | generated | generateFailed | regenerated | regenerateFailed
    | chunkSent | sendFailed | nextChunk | deepSent =>
      left
      simp [PipelineEvent.isSilent]

section Stages

variable {env : ServiceEnv} {deliveries : Arena Delivery} {pipelines : Arena Pipeline}

theorem stageOf_put {index : ℕ} {old new : Delivery} (hget : deliveries.get? index = some old) :
    stageOf env (deliveries.put index new) pipelines (.handler index) = new.stage env index ∧
      ∀ writer, writer ≠ .handler index → stageOf env (deliveries.put index new) pipelines writer =
          stageOf env deliveries pipelines writer := by
  constructor
  · simp [stageOf, Arena.get?_put hget]
  · intro writer hne
    cases writer with
    | handler other =>
      have hother : other ≠ index := fun hsame => hne (hsame ▸ rfl)
      simp [stageOf, Arena.get?_put hget, hother]
    | pipeline other => rfl

theorem stageOf_putPipeline {index : ℕ} {old new : Pipeline}
    (hget : pipelines.get? index = some old) :
    stageOf env deliveries (pipelines.put index new) (.pipeline index) = new.stage index ∧
      ∀ writer, writer ≠ .pipeline index → stageOf env deliveries (pipelines.put index new) writer =
          stageOf env deliveries pipelines writer := by
  constructor
  · simp [stageOf, Arena.get?_put hget]
  · intro writer hne
    cases writer with
    | pipeline other =>
      have hother : other ≠ index := fun hsame => hne (hsame ▸ rfl)
      simp [stageOf, Arena.get?_put hget, hother]
    | handler other => rfl

theorem stage_step {dispatch next : Dispatch} {action : Dispatch.Action}
    (hstep : Dispatch.step env dispatch action = some next)
    (haction : ∀ index answer, action ≠ .resume index answer) :
    stageOf env deliveries next.pipelines = stageOf env deliveries dispatch.pipelines := by
  funext writer
  cases writer with
  | handler index => rfl
  | pipeline index =>
    cases hget : next.pipelines.get? index with
    | none =>
      have hold : dispatch.pipelines.get? index = none := by
        cases hsome : dispatch.pipelines.get? index with
        | none => rfl
        | some old =>
          obtain ⟨after, hafter, -⟩ := Dispatch.get?_step hstep hsome
          simp [hget] at hafter
      simp [stageOf, hget, hold]
    | some pipeline =>
      rcases Dispatch.succeeds_step hstep hget with
        (hold | ⟨hnone, aggregated, session, target, rfl⟩) |
        ⟨before, change, hbefore, hon, hchange⟩
      · simp [stageOf, hget, hold]
      · simp [stageOf, hget, hnone, stage, started]
      · obtain ⟨context, changed, events, settles, log, hadvance, -, rfl⟩ := hchange
        cases hadvance with
        | resume own answer body events hcontext hbody =>
          cases action with
          | resume other found => exact absurd rfl (haction other found)
          | _ => simp [Dispatch.Action.onPipeline] at hon
        | timeOut | returned | excuse | degrade =>
          simp [stageOf, hget, hbefore, stage]

end Stages

namespace Service

def ledger (env : ServiceEnv) (service : Service) : Ledger :=
  ⟨stageOf env service.deliveries service.dispatch.pipelines, service.store⟩

def appendsRecorded (service : Service) (index : ℕ) (pipeline : Pipeline) : Bool :=
  match pipeline.body with
  | .recordedAssistant _ =>
    service.store.isNext pipeline.aggregated.sessionKey (.pipeline index)
  | _ => false

/-- A step that keeps history and memory together: a user message is inserted
as a new row, and only what was recorded without saved images is appended, in
the order of the rows. -/
def keepsTogether (env : ServiceEnv) (service : Service) : Action → Bool
  | .userRowWritten _ outcome => decide (outcome = .inserted)
  | .userRecorded index _ =>
    (service.deliveries.get? index).all fun delivery =>
      match delivery.progress with
      | .recorded _ message =>
        message.imagePaths.isEmpty && service.store.isNext
          (sessionKeyFor delivery.event env.account.accountId)
          (.handler index)
      | _ => false
  | .resume index answer =>
    (service.dispatch.pipelines.get? index).all fun pipeline =>
      (service.dispatch.resumed env index answer).all fun (_, events) =>
        !events.any PipelineEvent.appends || service.appendsRecorded index pipeline
  | _ => true

def Together (env : ServiceEnv) (service : Service) (action : Action) : Prop :=
  service.keepsTogether env action = true

instance (env : ServiceEnv) (service : Service) (action : Action) :
    Decidable (service.Together env action) :=
  inferInstanceAs (Decidable (service.keepsTogether env action = true))

variable {env : ServiceEnv} {service next : Service}

theorem ledger_onDispatch {action : Dispatch.Action}
    (haction : ∀ index answer, action ≠ .resume index answer)
    (hstep : service.onDispatch env action = some next) :
    next.ledger env = service.ledger env := by
  obtain ⟨dispatch, hdispatch, rfl⟩ := onDispatch_eq_some hstep
  simp only [ledger]
  rw [stage_step hdispatch haction]

variable {index : ℕ}

theorem ledger_put {old new : Delivery} (hget : service.deliveries.get? index = some old)
    (hold : old.stage env index = .before) :
    (service.ledger env).Step ⟨stageOf env (service.deliveries.put index new)
        service.dispatch.pipelines, service.store⟩ := by
  obtain ⟨hself, hothers⟩ := @stageOf_put env _ service.dispatch.pipelines _ _ new hget
  have hbefore : (service.ledger env).stage (.handler index) = .before := by
    simp [ledger, stageOf, hget, hold]
  have hkeep : ∀ writer, (service.ledger env).stage writer ≠ .before →
      stageOf env (service.deliveries.put index new) service.dispatch.pipelines writer =
        (service.ledger env).stage writer := by
    intro writer hstage
    apply hothers
    rintro rfl
    exact hstage hbefore
  apply Ledger.Step.wait
  · intro writer turn hturn
    rw [hkeep writer (by simp [hturn]), hturn]
  · intro writer hafter
    rw [hkeep writer (by simp [hafter]), hafter]

theorem ledger_deliver (event : FeishuMessageEvent) :
    (service.ledger env).Step ((service.deliver env event).ledger env) := by
  let opened : Delivery := ⟨event, trim event.messageId, service.dispatch.now, .parsing⟩
  have hsame : ∀ deliveries : Arena Delivery,
      (∀ index delivery, service.deliveries.get? index = some delivery →
        deliveries.get? index = some delivery) →
      (service.ledger env).Step
        ⟨stageOf env deliveries service.dispatch.pipelines, service.store⟩ := by
    intro deliveries hkeep
    have hstage : ∀ writer, (service.ledger env).stage writer ≠ .before →
        stageOf env deliveries service.dispatch.pipelines writer =
          (service.ledger env).stage writer := by
      intro writer hne
      cases writer with
      | pipeline index => rfl
      | handler index =>
        cases hget : service.deliveries.get? index with
        | none => simp [ledger, stageOf, hget] at hne
        | some delivery =>
          simp [ledger, stageOf, hget, hkeep index delivery hget]
    apply Ledger.Step.wait
    · intro writer turn hturn
      rw [hstage writer (by simp [hturn]), hturn]
    · intro writer hafter
      rw [hstage writer (by simp [hafter]), hafter]
  unfold deliver
  simp only
  split_ifs with hguard hignores
  · exact hsame service.deliveries fun _ _ hget => hget
  · apply hsame
    intro index delivery hget
    have hne : index ≠ service.deliveries.size := Nat.ne_of_lt (Arena.lt_size_of_get? hget)
    change ((service.deliveries.push opened).put service.deliveries.size
      { opened with progress := .returned }).get? index = some delivery
    rw [Arena.get?_put (Arena.get?_push_size opened), if_neg hne]
    exact Arena.get?_push_of_get? opened hget
  · apply hsame
    intro index delivery hget
    exact Arena.get?_push_of_get? opened hget

theorem ledger_userRowWritten {delivery : Delivery} {route : Route} {message : ParsedMessage}
    (hget : service.deliveries.get? index = some delivery)
    (hprogress : delivery.progress = .recording route message) :
    (service.ledger env).Step ⟨stageOf env (service.deliveries.put index
          { delivery with progress := .recorded route message })
          service.dispatch.pipelines,
        service.store.insertRow (userTurn env index delivery.event message.text)⟩ := by
  obtain ⟨hself, hothers⟩ := @stageOf_put env _ service.dispatch.pipelines _ _
    { delivery with progress := .recorded route message } hget
  apply Ledger.Step.insert (userTurn env index delivery.event message.text)
  · simp [ledger, stageOf, userTurn, hget, Delivery.stage, hprogress]
  · exact hself
  · exact hothers

theorem ledger_userRecorded {delivery : Delivery}
    {route : Route} {message : ParsedMessage} {ref : Option DbMessageRef}
    (hget : service.deliveries.get? index = some delivery)
    (hprogress : delivery.progress = .recorded route message)
    (hpaths : message.imagePaths = [])
    (hnext : service.store.isNext (sessionKeyFor delivery.event env.account.accountId)
      (.handler index) = true)
    (hstep : service.userRecorded env index delivery route message ref = some next) :
    (service.ledger env).Step (next.ledger env) := by
  obtain ⟨dispatch, hdispatch, rfl⟩ := userRecorded_eq_some hstep
  have hpipelines : stageOf env service.deliveries dispatch.pipelines =
      stageOf env service.deliveries service.dispatch.pipelines := by
    rcases hdispatch with ⟨-, rfl⟩ | ⟨action, haction, hdispatch⟩
    · rfl
    · apply stage_step hdispatch
      rintro other answer rfl
      cases route <;> simp [handover] at haction
  obtain ⟨hself, hothers⟩ := @stageOf_put env _ dispatch.pipelines _ _
    { delivery with progress := .returned } hget
  rw [historyContent_of_no_images hpaths]
  apply Ledger.Step.append (userTurn env index delivery.event message.text)
  · exact hnext
  · simp [ledger, stageOf, userTurn, hget, Delivery.stage, hprogress]
  · exact hself
  · intro writer hne
    rw [show (service.ledger env).stage writer =
      stageOf env service.deliveries service.dispatch.pipelines writer
      from rfl, ← hpipelines]
    exact hothers writer hne

theorem ledger_resume {answer : Answer} {changed : Pipeline}
    (hresumed : service.dispatch.resumed env index answer = some (changed, events))
    (htogether : service.Together env (.resume index answer)) :
    (service.ledger env).Step (ledger env { service with
        dispatch := service.dispatch.carryOut index changed events
        store := events.foldl (Store.perform (.pipeline index)
          changed.aggregated.sessionKey) service.store }) := by
  obtain ⟨pipeline, context, body, hget, hcontext, hstep, rfl⟩ := Dispatch.resumed_eq_some hresumed
  have hstages : stageOf env service.deliveries
        (service.dispatch.carryOut index { pipeline with body := body }
          events).pipelines (.pipeline index) =
        stage index { pipeline with body := body } ∧
      ∀ writer, writer ≠ .pipeline index → stageOf env service.deliveries
          (service.dispatch.carryOut index { pipeline with body := body } events).pipelines writer =
          (service.ledger env).stage writer :=
    stageOf_putPipeline hget
  obtain ⟨hself, hothers⟩ := hstages
  have hold : (service.ledger env).stage (.pipeline index) = pipeline.stage index := by
    simp [ledger, stageOf, hget]
  have hkeeps : events.any PipelineEvent.appends = true →
      service.appendsRecorded index pipeline = true := by
    intro happends
    have hall := htogether
    simp only [Together, keepsTogether, hget, hresumed, Option.all_some, happends] at hall
    simpa using hall
  rcases hstep.writes with ⟨hsilent, hrecorded, hreturned⟩ |
    ⟨text, hbody, rfl, rfl⟩ | ⟨text, rfl, rfl, hsame⟩
  · have hbefore : (service.ledger env).stage (.pipeline index) = .before := by
      rw [hold]
      cases hcase : pipeline.body with
      | recordedAssistant text => exact absurd hcase (hrecorded text)
      | returned => exact absurd hcase hreturned
      | _ => simp [stage, hcase]
    have hkeep : ∀ writer, (service.ledger env).stage writer ≠ .before →
        stageOf env service.deliveries
          (service.dispatch.carryOut index { pipeline with body := body }
            events).pipelines writer = (service.ledger env).stage writer := by
      intro writer hstage
      apply hothers
      rintro rfl
      exact hstage hbefore
    rw [Store.foldl_perform_of_silent _ _ hsilent]
    apply Ledger.Step.wait
    · intro writer turn hturn
      rw [hkeep writer (by simp [hturn]), hturn]
    · intro writer hafter
      rw [hkeep writer (by simp [hafter]), hafter]
  · apply Ledger.Step.insert ⟨.pipeline index, pipeline.aggregated.sessionKey, .assistant, text⟩
    · rw [hold]
      simp [stage, hbody]
    · exact hself
    · exact hothers
  · have hrecorded := hkeeps rfl
    unfold appendsRecorded at hrecorded
    split at hrecorded
    case h_2 => simp at hrecorded
    case h_1 other hbody =>
        obtain rfl := hsame other hbody
        apply Ledger.Step.append
          ⟨.pipeline index, pipeline.aggregated.sessionKey, .assistant, other⟩
        · exact hrecorded
        · rw [hold]
          simp [stage, hbody]
        · exact hself
        · exact hothers

theorem ledger_step {action : Action} (htogether : service.Together env action)
    (hstep : step env service action = some next) :
    (service.ledger env).Step (next.ledger env) := by
  have hwait : (service.ledger env).Step (service.ledger env) :=
    Ledger.Step.wait (fun _ _ hturn => hturn) (fun _ hafter => hafter)
  cases action with
  | tick ms | timerFired key | cleanupIdle | timeOut index | settle index
    | apologised index =>
      rw [ledger_onDispatch (by simp) hstep]
      exact hwait
  | deliver event =>
    simp only [step] at hstep
    split_ifs at hstep
    rw [← Option.some.inj hstep]
    exact ledger_deliver event
  | parsed index downloads =>
    simp only [step] at hstep
    split at hstep
    case h_2 => simp at hstep
    case h_1 delivery hget =>
        split_ifs at hstep with hparsing
        have hbefore : delivery.stage env index = .before := by
          simp [Delivery.stage, hparsing]
        rw [← Option.some.inj hstep]
        unfold parsed
        split_ifs <;> exact ledger_put hget hbefore
  | parseFailed index =>
    simp only [step] at hstep
    split at hstep
    case h_2 => simp at hstep
    case h_1 delivery hget =>
        split_ifs at hstep with hparsing
        have hbefore : delivery.stage env index = .before := by
          simp [Delivery.stage, hparsing]
        rw [← Option.some.inj hstep]
        exact ledger_put hget hbefore
  | userRowWritten index outcome =>
    have hinserted : outcome = .inserted := by
      simpa [Together, keepsTogether] using htogether
    subst hinserted
    simp only [step] at hstep
    split at hstep
    case h_2 => simp at hstep
    case h_1 delivery hget =>
        split at hstep
        case h_2 => simp at hstep
        case h_1 route message hrecording hmemory =>
            rw [← Option.some.inj hstep]
            exact ledger_userRowWritten hget hrecording
  | userRecorded index ref =>
    simp only [step] at hstep
    split at hstep
    case h_2 => simp at hstep
    case h_1 delivery hget =>
        simp only [Together, keepsTogether, hget, Option.all_some] at htogether
        split at hstep
        case h_3 => simp at hstep
        case h_1 route message hprogress =>
            simp [hprogress] at htogether
        case h_2 route message hprogress =>
            simp [hprogress] at htogether
            exact ledger_userRecorded hget hprogress htogether.1 htogether.2 hstep
  | shutdown =>
    simp only [step, Option.ite_none_left_eq_some, Option.map_eq_some_iff] at hstep
    obtain ⟨-, flushed, hflushed, rfl⟩ := hstep
    have hflush : (service.ledger env).Step (flushed.ledger env) := by
      rw [ledger_onDispatch (by simp) hflushed]
      exact hwait
    exact hflush
  | saveStateFiles =>
    rw [← Option.some.inj hstep]
    change (service.ledger env).Step
      ⟨stageOf env service.deliveries service.dispatch.pipelines, service.store⟩
    exact hwait
  | resume index answer =>
    simp only [step, Option.map_eq_some_iff, Prod.exists] at hstep
    obtain ⟨changed, events, hresumed, rfl⟩ := hstep
    exact ledger_resume hresumed htogether

/-! ## Whole runs -/

theorem boot_agrees (env : ServiceEnv) (processed : InsertionSet JsString) :
    ((boot processed).ledger env).Agrees := by
  constructor
  · intro sessionKey
    exact ⟨[], rfl, List.nodup_nil, by simp⟩
  · intro turn hmem
    simp [ledger, boot] at hmem

theorem ledger_agrees {processed : InsertionSet JsString} {actions : List Action} {final : Service}
    (htogether : Guarded (step env) (Together env) (boot processed) actions)
    (hrun : run (step env) (boot processed) actions = some final) :
    (final.ledger env).Agrees :=
  run_guarded_invariant (fun service => (service.ledger env).Agrees)
    (fun hagrees hguard hstep => hagrees.step (ledger_step hguard hstep))
    (boot_agrees env processed) htogether hrun

/-- No writer of a session is between the database and the history. -/
def SettledIn (env : ServiceEnv) (sessionKey : JsString) (service : Service) : Prop :=
  ∀ turn, turn.sessionKey = sessionKey → (service.ledger env).stage turn.writer ≠ .between turn

def said (sessionKey : JsString) (turns : List Turn) : List (Role × JsString) :=
  (Store.inSession sessionKey turns).map fun turn => (turn.role, turn.content)

/-- What `restoreRecentConversations` puts into `conversations` for a session:
the last rows, without the blank ones. -/
def restoreRecentConversations (restoreRecentLimit : ℕ) (sessionKey : JsString)
    (rows : List Turn) : List (Role × JsString) :=
  ((said sessionKey rows).rtake restoreRecentLimit).filter fun entry =>
    trim entry.2 ≠ []

/-- In a run that keeps history and memory together, the history of a session
is what its rows say up to the rows in between, and once there are none, a
restart restores the end of the history. -/
theorem history_agrees {processed : InsertionSet JsString} {actions : List Action} {final : Service}
    (htogether : Guarded (step env) (Together env) (boot processed) actions)
    (hrun : run (step env) (boot processed) actions = some final)
    (sessionKey : JsString) :
    said sessionKey final.store.history <+: said sessionKey final.store.rows ∧
      (final.SettledIn env sessionKey → said sessionKey final.store.history =
            said sessionKey final.store.rows ∧
          ∀ restoreRecentLimit, restoreRecentConversations restoreRecentLimit sessionKey
                final.store.rows =
              ((said sessionKey final.store.history).rtake restoreRecentLimit).filter fun entry =>
                  trim entry.2 ≠ []) := by
  obtain ⟨pending, hsplit, -, hpending⟩ := (ledger_agrees htogether hrun).split sessionKey
  have hrows : said sessionKey final.store.rows = said sessionKey final.store.history ++
        pending.map fun turn => (turn.role, turn.content) := by
    rw [said, said, ← List.map_append]
    exact congrArg _ hsplit
  constructor
  · rw [hrows]
    exact List.prefix_append _ _
  · intro hsettled
    have hnone : pending = [] := by
      cases pending with
      | nil => rfl
      | cons turn rest =>
        have hrow : turn ∈ Store.inSession sessionKey final.store.rows := by
          have hmem : turn ∈ Store.inSession sessionKey (final.ledger env).store.rows := by
            rw [hsplit]
            exact List.mem_append_right _ List.mem_cons_self
          exact hmem
        have hkey : turn.sessionKey = sessionKey := by
          simpa [Store.inSession] using (List.mem_filter.mp hrow).2
        exact absurd (hpending turn List.mem_cons_self) (hsettled turn hkey)
    rw [hnone, List.map_nil, List.append_nil] at hrows
    constructor
    · exact hrows.symm
    · intro restoreRecentLimit
      rw [restoreRecentConversations, hrows]

def directMessage : List Action :=
  [.deliver (textMessage (js "m1") (js "oc_direct") .p2p (js "hi")),
    .parsed 0 [], .userRowWritten 0 .inserted, .userRecorded 0 (some ⟨1, 1⟩)]

def answerDeeply : List Action :=
  [.resume 0 (.decided ⟨true, .question, .casual⟩), .resume 0 (.turnStarted (some 7)),
    .resume 0 (.generated (.ok (plainReply 0))),
    .resume 0 (.turnFinished true), .resume 0 (.chunkSent (.ok ())),
    .resume 0 .slept, .resume 0 .assistantInserted,
    .resume 0 .assistantRecorded]

theorem history_agrees_answered : ∃ final, run (step (plainEnv true)) (boot .empty)
        (directMessage ++ answerDeeply) = some final ∧
      final.store.history.length = 2 ∧
      said (js "feishu:main:dm:ou_user") final.store.history <+:
        said (js "feishu:main:dm:ou_user") final.store.rows := by
  apply exists_of_view (by rfl : Option.map (·.store.history.length) _ = some 2)
  intro final hlength hrun
  exact ⟨hlength, (history_agrees (by decide) hrun _).1⟩

def answerInChat : List Action :=
  [.resume 0 (.decided ⟨true, .chat, .casual⟩), .resume 0 (.chatAnswered (.ok (js "hello"))),
    .resume 0 (.chunkSent (.ok ())), .resume 0 .slept]

theorem chat_answer_not_recorded : ∃ final, run (step (plainEnv true)) (boot .empty)
        (directMessage ++ answerInChat) = some final ∧
      said (js "feishu:main:dm:ou_user") final.store.history =
        [(.user, js "hi"), (.assistant, js "hello")] ∧
      said (js "feishu:main:dm:ou_user") final.store.rows = [(.user, js "hi")] := by
  apply exists_of_view (by rfl : Option.map (fun final =>
      (said (js "feishu:main:dm:ou_user") final.store.history,
        said (js "feishu:main:dm:ou_user") final.store.rows)) _ =
    some ([(.user, js "hi"), (.assistant, js "hello")], [(.user, js "hi")]))
  intro final hsaid _
  exact Prod.mk.inj hsaid

end Service

end LittleBaby.Feishu
