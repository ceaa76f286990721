import LittleBaby.FeishuPipelineSteps
import LittleBaby.LabelledMachine

/-!
# The dispatch machine

The aggregator, the session manager and the pipelines of the service, with the
steps that can interleave; everything between two `await`s is one step.
-/

namespace LittleBaby.Feishu

open JsString SessionContext SessionManager

def pipelineTimeoutMs : ℕ := 60000

/-- An event that was carried out, and the context that was registered for
the sender of the pipeline at that moment. -/
structure Performed where
  event : PipelineEvent
  target : Option ℕ

/-- The part of `processAggregatedMessage` around its body. -/
inductive Wrapper where
  /-- awaits `withTimeout` -/
  | racing
  /-- awaits `sendFeishuReply` for the apology -/
  | apologising
  /-- past its `finally` -/
  | settled
  deriving DecidableEq

structure Pipeline where
  aggregated : AggregatedMessage
  /-- the context obtained from `getOrCreate` -/
  session : ℕ
  startedAt : ℕ
  body : Body
  wrapper : Wrapper
  /-- the length of the transcript when the timeout had fired -/
  timedOutAfter : Option ℕ
  transcript : List Performed

def Pipeline.senderId (pipeline : Pipeline) : JsString := pipeline.aggregated.senderId

/-- A pipeline at the first `await` of its body, after the transition of its
session to `ROUTING`. -/
def Pipeline.started (aggregated : AggregatedMessage) (session now : ℕ)
    (target : Option ℕ) : Pipeline where
  aggregated := aggregated
  session := session
  startedAt := now
  body := .deciding
  wrapper := .racing
  timedOutAfter := none
  transcript := [⟨.transition .routing, target⟩]

namespace SessionManager

/-- Carry out one event of the pipeline that obtained the context `session`. -/
def perform (manager : SessionManager) (senderId : JsString) (session now : ℕ) :
    PipelineEvent → SessionManager
  | .transition state => manager.transition senderId state now
  | .clear => manager.clear senderId
  | .setTone tone =>
    manager.modify session fun context => { context with tone := tone }
  | .takePending =>
    manager.modify session fun context =>
      { context with
        retryCount := context.retryCount + 1
        pendingItems := [] }
  | _ => manager

def performAll (manager : SessionManager) (senderId : JsString)
    (session now : ℕ) : List PipelineEvent → SessionManager × List Performed
  | [] => (manager, [])
  | event :: rest =>
    let later := (manager.perform senderId session now event).performAll senderId session now rest
    (later.1, ⟨event, manager.sessions.get? senderId⟩ :: later.2)

end SessionManager

namespace SessionManager

variable {manager : SessionManager} {senderId : JsString} {session now : ℕ}

variable {events : List PipelineEvent}

theorem performAll_invariant (invariant : SessionManager → Prop)
    (hkeep : ∀ (before : SessionManager), ∀ event ∈ events, invariant before →
        invariant (before.perform senderId session now event))
    (hstart : invariant manager) :
    invariant (manager.performAll senderId session now events).1 := by
  induction events generalizing manager with
  | nil => exact hstart
  | cons event rest ih =>
    refine ih (fun before other hmem => ?_) (hkeep manager event List.mem_cons_self hstart)
    exact hkeep before other (List.mem_cons_of_mem _ hmem)

theorem performAll_events (manager : SessionManager) (senderId : JsString)
    (session now : ℕ) (events : List PipelineEvent) :
    (manager.performAll senderId session now events).2.map Performed.event = events := by
  induction events generalizing manager with
  | nil => rfl
  | cons event rest ih =>
    rw [performAll, List.map_cons, ih]

theorem event_mem_of_mem_performAll {entry : Performed}
    (hmem : entry ∈ (manager.performAll senderId session now events).2) :
    entry.event ∈ events := by
  have hmap := List.mem_map_of_mem (f := Performed.event) hmem
  rwa [performAll_events] at hmap

theorem sessions_perform (event : PipelineEvent) (other : JsString) :
    (manager.perform senderId session now event).sessions.get? other =
      if event = .clear ∧ other = senderId then none
      else manager.sessions.get? other := by
  cases event with
  | clear =>
    simp [perform, clear, InsertionMap.get?_delete]
  | transition | setTone | takePending => simp [perform]
  | callGenerateReply | generated | turnStarted | turnFinished | sendReply
    | sendChunk | chunkSent | sendFailed | insertAssistant | addHistory =>
      simp [perform]

variable {context : SessionContext}

theorem contexts_perform_own (hsession : manager.sessions.get? senderId = some session)
    (hcontext : manager.contexts.get? session = some context)
    (event : PipelineEvent) (other : ℕ) :
    (manager.perform senderId session now event).contexts.get? other =
      if other = session then some (context.perform now event)
      else manager.contexts.get? other := by
  cases event with
  | transition state =>
    simp only [perform, contexts_transition, hsession, Option.some.injEq]
    by_cases hother : other = session
    · simp [hother, hcontext, SessionContext.perform]
    · simp [hother, Ne.symm hother]
  | setTone | takePending =>
    simp [perform, contexts_modify, hcontext, SessionContext.perform]
  | clear | callGenerateReply | generated | turnStarted | turnFinished
    | sendReply | sendChunk | chunkSent | sendFailed | insertAssistant
    | addHistory =>
      by_cases hother : other = session <;> simp [perform, hother, hcontext, SessionContext.perform]

theorem contexts_perform_orphan (hsession : manager.sessions.get? senderId = none)
    (hcontext : manager.contexts.get? session = some context)
    (event : PipelineEvent) (other : ℕ) :
    (manager.perform senderId session now event).contexts.get? other =
      if other = session then some (context.performOrphan event)
      else manager.contexts.get? other := by
  cases event with
  | setTone | takePending =>
    simp [perform, contexts_modify, hcontext, performOrphan]
  | transition | clear | callGenerateReply | generated | turnStarted
    | turnFinished | sendReply | sendChunk | chunkSent | sendFailed
    | insertAssistant | addHistory =>
      by_cases hother : other = session <;>
        simp [perform, transition, hsession, hother, hcontext, performOrphan]

theorem performAll_spec {register : Option ℕ} {now : ℕ}
    {effect : SessionContext → PipelineEvent → SessionContext}
    (heffect : ∀ {manager : SessionManager} {context : SessionContext},
      manager.sessions.get? senderId = register →
      manager.contexts.get? session = some context → ∀ event other,
        (manager.perform senderId session now event).contexts.get? other =
          if other = session then some (effect context event) else manager.contexts.get? other)
    (hsession : manager.sessions.get? senderId = register)
    (hcontext : manager.contexts.get? session = some context)
    (hclears : register ≠ none → ClearsLast events) :
    (∀ other, (manager.performAll senderId session now events).1.contexts.get? other =
      if other = session then some (events.foldl effect context)
      else manager.contexts.get? other) ∧
    (∀ other, (manager.performAll senderId session now events).1.sessions.get? other =
      if .clear ∈ events ∧ other = senderId then none
      else manager.sessions.get? other) ∧
    ∀ entry ∈ (manager.performAll senderId session now events).2, entry.target = register := by
  induction events generalizing manager context with
  | nil =>
    refine ⟨fun other => ?_, fun other => by simp [performAll], by simp [performAll]⟩
    by_cases hother : other = session <;> simp [performAll, hother, hcontext]
  | cons event rest ih =>
    have hcontext' : (manager.perform senderId session now event).contexts.get? session =
        some (effect context event) := by
      simp [heffect hsession hcontext]
    by_cases hlast : event = .clear ∧ register ≠ none
    · have hnil := (hclears hlast.2).1 hlast.1
      subst hnil
      refine ⟨fun other => ?_, fun other => ?_, ?_⟩
      · simpa [performAll] using heffect hsession hcontext event other
      · rw [performAll, performAll, sessions_perform, hlast.1]
        simp
      · simp [performAll, hsession]
    · have hsession' : (manager.perform senderId session now event).sessions.get? senderId =
          register := by
        rw [sessions_perform, hsession]
        simp_all
      obtain ⟨hcontexts, hsessions, htargets⟩ :=
        ih hsession' hcontext' fun hsome => (hclears hsome).2
      refine ⟨fun other => ?_, fun other => ?_, ?_⟩
      · rw [performAll, hcontexts, heffect hsession hcontext]
        by_cases hother : other = session <;> simp [hother]
      · rw [performAll, hsessions, sessions_perform]
        split_ifs <;> simp_all
      · intro entry hmem
        rw [performAll, List.mem_cons] at hmem
        rcases hmem with rfl | hmem
        · exact hsession
        · exact htargets entry hmem

structure Shrinks (before after : SessionManager) : Prop where
  sessions : ∀ senderId session, after.sessions.get? senderId = some session →
      before.sessions.get? senderId = some session
  contexts : ∀ session context, after.contexts.get? session = some context →
      ∃ old, before.contexts.get? session = some old ∧ context.sessionKey = old.sessionKey ∧
        context.pendingItems ⊆ old.pendingItems
  kept : ∀ session context, before.contexts.get? session = some context →
      ∃ changed, after.contexts.get? session = some changed ∧
        changed.sessionKey = context.sessionKey

namespace Shrinks

theorem refl (manager : SessionManager) : Shrinks manager manager where
  sessions := fun _ _ hget => hget
  contexts := fun _ context hget =>
    ⟨context, hget, rfl, List.Subset.refl _⟩
  kept := fun _ context hget => ⟨context, hget, rfl⟩

theorem trans {first second third : SessionManager}
    (hfirst : Shrinks first second) (hsecond : Shrinks second third) :
    Shrinks first third where
  sessions := fun senderId session hget =>
    hfirst.sessions senderId session (hsecond.sessions senderId session hget)
  contexts := by
    intro session context hget
    obtain ⟨middle, hmiddle, hkey, hsub⟩ := hsecond.contexts session context hget
    obtain ⟨old, hold, hkey', hsub'⟩ := hfirst.contexts session middle hmiddle
    exact ⟨old, hold, hkey.trans hkey', List.Subset.trans hsub hsub'⟩
  kept := by
    intro session context hget
    obtain ⟨middle, hmiddle, hkey⟩ := hfirst.kept session context hget
    obtain ⟨changed, hchanged, hkey'⟩ := hsecond.kept session middle hmiddle
    exact ⟨changed, hchanged, hkey'.trans hkey⟩

theorem modify (manager : SessionManager) (index : ℕ) (change : SessionContext → SessionContext)
    (hkey : ∀ context, (change context).sessionKey = context.sessionKey)
    (hsub : ∀ context, (change context).pendingItems ⊆ context.pendingItems) :
    Shrinks manager (manager.modify index change) where
  sessions := by simp
  contexts := by
    intro session context hget
    rw [contexts_modify] at hget
    split_ifs at hget with hsession
    · obtain ⟨old, hold, rfl⟩ := Option.map_eq_some_iff.mp hget
      exact ⟨old, hsession ▸ hold, hkey old, hsub old⟩
    · exact ⟨context, hget, rfl, List.Subset.refl _⟩
  kept := by
    intro session context hget
    rw [contexts_modify]
    split_ifs with hsession
    · subst session
      exact ⟨change context, by rw [hget]; rfl, hkey context⟩
    · exact ⟨context, hget, rfl⟩

theorem transition (manager : SessionManager) (senderId : JsString)
    (newState : SessionState) (now : ℕ) :
    Shrinks manager (manager.transition senderId newState now) := by
  unfold SessionManager.transition
  split
  · exact modify manager _ _ (fun _ => rfl) fun _ => List.Subset.refl _
  · exact refl manager

theorem perform (manager : SessionManager) (senderId : JsString)
    (session now : ℕ) (event : PipelineEvent) :
    Shrinks manager (manager.perform senderId session now event) := by
  cases event with
  | transition state => exact transition manager senderId state now
  | clear =>
    refine ⟨fun other found hget => ?_, (refl manager).contexts, (refl manager).kept⟩
    rw [sessions_perform] at hget
    split_ifs at hget
    exact hget
  | setTone tone =>
    exact modify manager _ _ (fun _ => rfl) fun _ => List.Subset.refl _
  | takePending =>
    exact modify manager _ _ (fun _ => rfl) fun _ => List.nil_subset _
  | callGenerateReply | generated | turnStarted | turnFinished | sendReply
    | sendChunk | chunkSent | sendFailed | insertAssistant | addHistory =>
      exact refl manager

theorem performAll (manager : SessionManager) (senderId : JsString)
    (session now : ℕ) (events : List PipelineEvent) :
    Shrinks manager (manager.performAll senderId session now events).1 :=
  performAll_invariant (Shrinks manager) (fun before event _ hbefore =>
      hbefore.trans (perform before senderId session now event))
    (refl manager)

theorem cleanupIdle (manager : SessionManager) (now : ℕ) :
    Shrinks manager (manager.cleanupIdle now) where
  sessions := by
    intro senderId session hget
    simp only [SessionManager.cleanupIdle, InsertionMap.get?_filter,
      Option.filter_eq_some_iff] at hget
    exact hget.1
  contexts := (refl manager).contexts
  kept := (refl manager).kept

end Shrinks

end SessionManager

structure Dispatch where
  now : ℕ
  aggregator : MessageAggregator
  sessions : SessionManager
  pipelines : Arena Pipeline
  inFlightRequests : ℕ
  /-- the items that were pushed or appended -/
  accepted : List AggregatedMessageItem

namespace Dispatch

def initial : Dispatch where
  now := 0
  aggregator := .empty
  sessions := .empty
  pipelines := .empty
  inFlightRequests := 0
  accepted := []

/-- `processAggregatedMessage` up to the first `await` of its body. -/
def submit (dispatch : Dispatch) (aggregated : AggregatedMessage) : Dispatch :=
  let obtained := dispatch.sessions.getOrCreate aggregated dispatch.now
  { dispatch with
    sessions :=
      obtained.1.transition aggregated.senderId .routing dispatch.now
    inFlightRequests := dispatch.inFlightRequests + 1
    pipelines := dispatch.pipelines.push (.started aggregated obtained.2 dispatch.now
        (obtained.1.sessions.get? aggregated.senderId)) }

/-- What an aggregator call leaves, with its batch submitted if there is one. -/
def deliver (dispatch : Dispatch)
    (result : MessageAggregator × Option AggregatedMessage) : Dispatch :=
  match result.2 with
  | some aggregated =>
    { dispatch with aggregator := result.1 }.submit aggregated
  | none => { dispatch with aggregator := result.1 }

variable (env : ServiceEnv)

/-- `aggregator.push` for a message of `handleMessage`. -/
def push (dispatch : Dispatch) (item : AggregatedMessageItem) : Dispatch :=
  { dispatch with accepted := dispatch.accepted ++ [item] }.deliver
    (dispatch.aggregator.push env dispatch.now item)

def flush (dispatch : Dispatch) (key : JsString) : Dispatch :=
  dispatch.deliver (dispatch.aggregator.flush key)

def flushAll (dispatch : Dispatch) : Dispatch :=
  dispatch.aggregator.buffers.keys.foldl flush dispatch

/-- `sessionManager.appendItem` for a message of `handleMessage`. -/
def append (dispatch : Dispatch) (item : AggregatedMessageItem) : Dispatch :=
  { dispatch with
    sessions := dispatch.sessions.appendItem (senderKey item.event) item dispatch.now
    accepted := dispatch.accepted ++ [item] }

def carryOut (dispatch : Dispatch) (index : ℕ) (pipeline : Pipeline)
    (events : List PipelineEvent) : Dispatch :=
  let performed := dispatch.sessions.performAll pipeline.senderId
    pipeline.session dispatch.now events
  { dispatch with
    sessions := performed.1
    pipelines := dispatch.pipelines.put index
      { pipeline with transcript := pipeline.transcript ++ performed.2 } }

def resumed (dispatch : Dispatch) (index : ℕ)
    (answer : Answer) : Option (Pipeline × List PipelineEvent) :=
  match dispatch.pipelines.get? index with
  | some pipeline =>
    match dispatch.sessions.contexts.get? pipeline.session with
    | some context =>
      (Body.resume env pipeline.aggregated context pipeline.body answer).map fun (body, events) =>
          ({ pipeline with body := body }, events)
    | none => none
  | none => none

def resume (dispatch : Dispatch) (index : ℕ) (answer : Answer) : Option Dispatch :=
  (dispatch.resumed env index answer).map fun (pipeline, events) =>
    dispatch.carryOut index pipeline events

def settled (dispatch : Dispatch) : Dispatch :=
  { dispatch with inFlightRequests := dispatch.inFlightRequests - 1 }

/-- The end of the `catch` of `processAggregatedMessage`, with its `finally`. -/
def degrade (dispatch : Dispatch) (index : ℕ) (pipeline : Pipeline) : Dispatch :=
  (dispatch.carryOut index { pipeline with wrapper := .settled }
    [.transition .degraded, .clear]).settled

def timeOut (dispatch : Dispatch) (index : ℕ) : Option Dispatch :=
  match dispatch.pipelines.get? index with
  | some pipeline =>
    if pipeline.wrapper = .racing ∧ pipeline.body.ended = false ∧
        pipeline.startedAt + pipelineTimeoutMs ≤ dispatch.now then
      some (dispatch.degrade index { pipeline with
          timedOutAfter := some (pipeline.transcript.length + 2) })
    else none
  | none => none

def apology : JsString := js "出了点问题，稍后再试一下？"

/-- `await withTimeout` goes on after the body has ended. -/
def settle (dispatch : Dispatch) (index : ℕ) : Option Dispatch :=
  match dispatch.pipelines.get? index with
  | some pipeline =>
    if pipeline.wrapper = .racing then
      match pipeline.body with
      | .returned =>
        some (dispatch.carryOut index { pipeline with wrapper := .settled } []).settled
      | .threw error =>
        if error.silent then some (dispatch.degrade index pipeline)
        else
          some (dispatch.carryOut index { pipeline with wrapper := .apologising }
            [.sendChunk apology true])
      | _ => none
    else none
  | none => none

def apologised (dispatch : Dispatch) (index : ℕ) : Option Dispatch :=
  match dispatch.pipelines.get? index with
  | some pipeline =>
    if pipeline.wrapper = .apologising then
      some (dispatch.degrade index pipeline)
    else none
  | none => none

inductive Action where
  | tick (ms : ℕ)
  | push (item : AggregatedMessageItem)
  | append (item : AggregatedMessageItem)
  | timerFired (key : JsString)
  | flushAll
  | cleanupIdle
  | resume (index : ℕ) (answer : Answer)
  | timeOut (index : ℕ)
  | settle (index : ℕ)
  | apologised (index : ℕ)

def step (dispatch : Dispatch) : Action → Option Dispatch
  | .tick ms => some { dispatch with now := dispatch.now + ms }
  | .push item => some (dispatch.push env item)
  | .append item => some (dispatch.append item)
  | .timerFired key =>
    if (dispatch.aggregator.timers.get? key).any (fun due => decide (due ≤ dispatch.now)) then
      some (dispatch.flush key)
    else none
  | .flushAll => some dispatch.flushAll
  | .cleanupIdle =>
    some { dispatch with
      sessions := dispatch.sessions.cleanupIdle dispatch.now }
  | .resume index answer => dispatch.resume env index answer
  | .timeOut index => dispatch.timeOut index
  | .settle index => dispatch.settle index
  | .apologised index => dispatch.apologised index

variable {dispatch : Dispatch} {index : ℕ}

theorem resumed_eq_some {env : ServiceEnv}
    {answer : Answer} {changed : Pipeline} {events : List PipelineEvent}
    (hresumed : dispatch.resumed env index answer = some (changed, events)) :
    ∃ pipeline context body, dispatch.pipelines.get? index = some pipeline ∧
        dispatch.sessions.contexts.get? pipeline.session = some context ∧
        Body.Step env pipeline.aggregated context pipeline.body answer body events ∧
        changed = { pipeline with body := body } := by
  unfold resumed at hresumed
  split at hresumed
  case h_2 => simp at hresumed
  case h_1 pipeline hget =>
      split at hresumed
      case h_2 => simp at hresumed
      case h_1 context hcontext =>
          simp only [Option.map_eq_some_iff, Prod.exists, Prod.mk.injEq] at hresumed
          obtain ⟨body, events', hbody, rfl, rfl⟩ := hresumed
          exact ⟨pipeline, context, body, hget, hcontext, Body.step_of_resume hbody, rfl⟩

theorem resume_eq_some {env : ServiceEnv} {next : Dispatch} {answer : Answer}
    (hresume : dispatch.resume env index answer = some next) :
    ∃ pipeline context body events, dispatch.pipelines.get? index = some pipeline ∧
        dispatch.sessions.contexts.get? pipeline.session = some context ∧
        Body.Step env pipeline.aggregated context pipeline.body answer body events ∧
        next = dispatch.carryOut index { pipeline with body := body } events := by
  simp only [resume, Option.map_eq_some_iff, Prod.exists] at hresume
  obtain ⟨changed, events, hresumed, rfl⟩ := hresume
  obtain ⟨pipeline, context, body, hget, hcontext, hstep, rfl⟩ := resumed_eq_some hresumed
  exact ⟨pipeline, context, body, events, hget, hcontext, hstep, rfl⟩

theorem timeOut_eq_some {next : Dispatch} (htimeOut : dispatch.timeOut index = some next) :
    ∃ pipeline, dispatch.pipelines.get? index = some pipeline ∧
      pipeline.wrapper = .racing ∧ pipeline.body.ended = false ∧
      pipeline.startedAt + pipelineTimeoutMs ≤ dispatch.now ∧
      next = dispatch.degrade index { pipeline with
          timedOutAfter := some (pipeline.transcript.length + 2) } := by
  unfold timeOut at htimeOut
  split at htimeOut
  case h_2 => simp at htimeOut
  case h_1 pipeline hget =>
      split_ifs at htimeOut with hdue
      exact ⟨pipeline, hget, hdue.1, hdue.2.1, hdue.2.2, (Option.some.inj htimeOut).symm⟩

section Fresh

variable {dispatch : Dispatch} {aggregated : AggregatedMessage}

section

variable (hnone : dispatch.sessions.sessions.get? aggregated.senderId = none)
include hnone

theorem getOrCreate_of_none : dispatch.sessions.getOrCreate aggregated dispatch.now =
      ({ contexts := dispatch.sessions.contexts.push (created aggregated dispatch.now)
         sessions := dispatch.sessions.sessions.set aggregated.senderId
          dispatch.sessions.contexts.size },
        dispatch.sessions.contexts.size) := by
  simp [getOrCreate, hnone]

theorem sessions_submit_of_none (senderId : JsString) :
    (dispatch.submit aggregated).sessions.sessions.get? senderId =
      if senderId = aggregated.senderId then
        some dispatch.sessions.contexts.size
      else dispatch.sessions.sessions.get? senderId := by
  simp [submit, getOrCreate_of_none hnone, InsertionMap.get?_set]

end

def opened (dispatch : Dispatch) (aggregated : AggregatedMessage) : SessionContext :=
  { created aggregated dispatch.now with state := .routing }

section

variable (hnone : dispatch.sessions.sessions.get? aggregated.senderId = none)
include hnone

theorem contexts_submit_of_none (session : ℕ) :
    (dispatch.submit aggregated).sessions.contexts.get? session =
      if session = dispatch.sessions.contexts.size then
        some (dispatch.opened aggregated)
      else dispatch.sessions.contexts.get? session := by
  simp only [submit, getOrCreate_of_none hnone, contexts_transition, InsertionMap.get?_set_self,
    Option.some.injEq, Arena.get?_push]
  by_cases hsession : session = dispatch.sessions.contexts.size
  · simp [hsession, opened, created]
  · simp [hsession, Ne.symm hsession]

theorem pipelines_submit_of_none : (dispatch.submit aggregated).pipelines = dispatch.pipelines.push
      (.started aggregated dispatch.sessions.contexts.size dispatch.now
        (some dispatch.sessions.contexts.size)) := by
  simp [submit, getOrCreate_of_none hnone]

end

end Fresh

end Dispatch

end LittleBaby.Feishu
