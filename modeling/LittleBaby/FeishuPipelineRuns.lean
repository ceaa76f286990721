import LittleBaby.FeishuDispatch

/-!
# The life of a pipeline

Whatever the dispatch machine does, a pipeline is only ever started, resumed,
timed out, settled or excused.
-/

namespace LittleBaby.Feishu

open LabelledMachine Arena SessionManager

inductive PipelineAction where
  | resume (answer : Answer)
  | timeOut
  | settle
  | apologised
  deriving DecidableEq

def Dispatch.Action.onPipeline : Action → Option (ℕ × PipelineAction)
  | .resume index answer => some (index, .resume answer)
  | .timeOut index => some (index, .timeOut)
  | .settle index => some (index, .settle)
  | .apologised index => some (index, .apologised)
  | .tick _ | .push _ | .append _ | .timerFired _ | .flushAll
    | .cleanupIdle => none

/-- One change of a pipeline, given the context it obtained: the changed
pipeline without its new transcript, the events to carry out, and whether the
pipeline has come past its `finally`. -/
inductive Pipeline.Advance (env : ServiceEnv) (now : ℕ)
    (context : Option SessionContext) (pipeline : Pipeline) :
    PipelineAction → Pipeline → List PipelineEvent → Bool → Prop
  | resume (own : SessionContext) (answer : Answer) (body : Body)
      (events : List PipelineEvent) (hcontext : context = some own)
      (hstep : Body.Step env pipeline.aggregated own pipeline.body answer body events) :
      Advance env now context pipeline (.resume answer) { pipeline with body := body } events false
  | timeOut (hwrapper : pipeline.wrapper = .racing) (hbody : pipeline.body.ended = false)
      (hdue : pipeline.startedAt + pipelineTimeoutMs ≤ now) :
      Advance env now context pipeline .timeOut { pipeline with
          wrapper := .settled
          timedOutAfter := some (pipeline.transcript.length + 2) }
        [.transition .degraded, .clear] true
  | returned (hwrapper : pipeline.wrapper = .racing) (hbody : pipeline.body = .returned) :
      Advance env now context pipeline .settle { pipeline with wrapper := .settled } [] true
  | excuse (error : Thrown) (hwrapper : pipeline.wrapper = .racing)
      (hbody : pipeline.body = .threw error)
      (hsilent : error.silent = false) :
      Advance env now context pipeline .settle { pipeline with wrapper := .apologising }
        [.sendChunk Dispatch.apology true] false
  | degrade (action : PipelineAction) (haction : action = .settle ∨ action = .apologised)
      (hwrapper : pipeline.wrapper = .apologising ∨
        pipeline.wrapper = .racing ∧ ∃ error, pipeline.body = .threw error) :
      Advance env now context pipeline action { pipeline with wrapper := .settled }
        [.transition .degraded, .clear] true

def Pipeline.Step (env : ServiceEnv) (now : ℕ) (action : PipelineAction)
    (before after : Pipeline) : Prop :=
  ∃ context changed events settles log,
    before.Advance env now context action changed events settles ∧
      log.map Performed.event = events ∧
      after = { changed with transcript := changed.transcript ++ log }

variable {pipeline : Pipeline}

theorem Pipeline.Advance.kept {env : ServiceEnv} {now : ℕ}
    {context : Option SessionContext} {action : PipelineAction}
    {changed : Pipeline} {events : List PipelineEvent}
    {settles : Bool}
    (hadvance : pipeline.Advance env now context action changed events settles) :
    changed.aggregated = pipeline.aggregated ∧ changed.session = pipeline.session ∧
      changed.transcript = pipeline.transcript := by
  cases hadvance <;> exact ⟨rfl, rfl, rfl⟩

namespace Dispatch

variable {env : ServiceEnv} {dispatch next : Dispatch}

def Grows (dispatch : Dispatch) (index : ℕ) (pipeline : Pipeline) : Prop :=
  dispatch.pipelines.get? index = some pipeline ∨
    dispatch.pipelines.get? index = none ∧ ∃ aggregated session target,
        pipeline = .started aggregated session dispatch.now target

variable {index : ℕ}

theorem grows_submit {aggregated : AggregatedMessage}
    (hget : (dispatch.submit aggregated).pipelines.get? index =
      some pipeline) : dispatch.Grows index pipeline := by
  rcases get?_push_eq_some.mp hget with ⟨hindex, rfl⟩ | hold
  · refine .inr ⟨?_, aggregated, _, _, rfl⟩
    rw [hindex]
    cases hsome : dispatch.pipelines.get? dispatch.pipelines.size with
    | none => rfl
    | some old => exact absurd (lt_size_of_get? hsome) (lt_irrefl _)
  · exact .inl hold

theorem grows_deliver {result : MessageAggregator × Option AggregatedMessage}
    (hget : (dispatch.deliver result).pipelines.get? index =
      some pipeline) : dispatch.Grows index pipeline := by
  unfold deliver at hget
  split at hget
  · exact grows_submit hget
  · exact .inl hget

variable (result : MessageAggregator × Option AggregatedMessage)

theorem now_deliver : (dispatch.deliver result).now = dispatch.now := by
  unfold deliver
  split <;> rfl

theorem get?_deliver (hget : dispatch.pipelines.get? index = some pipeline) :
    (dispatch.deliver result).pipelines.get? index = some pipeline := by
  unfold deliver
  split
  · exact get?_push_of_get? _ hget
  · exact hget

theorem grows_flushAll (hget : dispatch.flushAll.pipelines.get? index = some pipeline) :
    dispatch.Grows index pipeline := by
  unfold flushAll at hget
  generalize dispatch.aggregator.buffers.keys = keys at hget
  induction keys generalizing dispatch with
  | nil => exact .inl hget
  | cons key rest ih =>
    rcases ih hget with hold | ⟨hnone, hstarted⟩
    · exact grows_deliver hold
    · refine .inr ⟨?_, ?_⟩
      · cases hsome : dispatch.pipelines.get? index with
        | none => rfl
        | some old =>
          rw [flush, get?_deliver _ hsome] at hnone
          exact absurd hnone (by simp)
      · rw [flush, now_deliver] at hstarted
        exact hstarted

def advanced (dispatch : Dispatch) (index : ℕ) (changed : Pipeline)
    (events : List PipelineEvent) (settles : Bool) : Dispatch :=
  if settles then (dispatch.carryOut index changed events).settled
  else dispatch.carryOut index changed events

variable {action : Action}

theorem advance_of_step {change : PipelineAction}
    (haction : action.onPipeline = some (index, change))
    (hstep : step env dispatch action = some next) :
    ∃ pipeline changed events settles, dispatch.pipelines.get? index = some pipeline ∧
        pipeline.Advance env dispatch.now
          (dispatch.sessions.contexts.get? pipeline.session) change changed
          events settles ∧
        next = dispatch.advanced index changed events settles := by
  cases action with
  | tick | push | append | timerFired | flushAll | cleanupIdle =>
    simp [Action.onPipeline] at haction
  | resume other answer =>
    cases haction
    obtain ⟨pipeline, context, body, events, hget, hcontext, hbody, rfl⟩ := resume_eq_some hstep
    exact ⟨pipeline, _, events, false, hget,
      Pipeline.Advance.resume context answer body events hcontext hbody,
      rfl⟩
  | timeOut other =>
    cases haction
    obtain ⟨pipeline, hget, hwrapper, hbody, hdue, rfl⟩ := timeOut_eq_some hstep
    exact ⟨pipeline, _, _, true, hget, Pipeline.Advance.timeOut hwrapper hbody hdue, rfl⟩
  | settle other =>
    cases haction
    simp only [step, settle] at hstep
    split at hstep
    case h_2 => simp at hstep
    case h_1 pipeline hget =>
        split_ifs at hstep with hracing
        split at hstep
        case h_1 hbody =>
            exact ⟨pipeline, _, _, true, hget, Pipeline.Advance.returned hracing hbody,
              (Option.some.inj hstep).symm⟩
        case h_2 error hbody =>
            split_ifs at hstep with hsilent
            · exact ⟨pipeline, _, _, true, hget, Pipeline.Advance.degrade .settle (.inl rfl)
                  (.inr ⟨hracing, error, hbody⟩),
                (Option.some.inj hstep).symm⟩
            · exact ⟨pipeline, _, _, false, hget, Pipeline.Advance.excuse error hracing hbody
                  (Bool.eq_false_iff.mpr hsilent),
                (Option.some.inj hstep).symm⟩
        case h_3 => simp at hstep
  | apologised other =>
    cases haction
    simp only [step, apologised] at hstep
    split at hstep
    case h_2 => simp at hstep
    case h_1 pipeline hget =>
        split_ifs at hstep with hwrapper
        exact ⟨pipeline, _, _, true, hget,
          Pipeline.Advance.degrade .apologised (.inr rfl) (.inl hwrapper),
          (Option.some.inj hstep).symm⟩

@[simp] theorem pipelines_advanced (index : ℕ) (changed : Pipeline)
    (events : List PipelineEvent) (settles : Bool) :
    (dispatch.advanced index changed events settles).pipelines =
      (dispatch.carryOut index changed events).pipelines := by
  cases settles <;> rfl

theorem grows_of_step (haction : action.onPipeline = none)
    (hstep : step env dispatch action = some next)
    (hget : next.pipelines.get? index = some pipeline) :
    dispatch.Grows index pipeline := by
  cases action with
  | resume | timeOut | settle | apologised =>
    simp [Action.onPipeline] at haction
  | tick ms | cleanupIdle | append item =>
    cases hstep
    exact .inl hget
  | push item =>
    cases hstep
    have hgrows := grows_deliver hget
    exact hgrows
  | timerFired key =>
    simp only [step, Option.ite_none_right_eq_some, Option.some.injEq] at hstep
    rw [← hstep.2] at hget
    exact grows_deliver hget
  | flushAll =>
    cases hstep
    exact grows_flushAll hget

theorem succeeds_step (hstep : step env dispatch action = some next)
    (hget : next.pipelines.get? index = some pipeline) :
    dispatch.Grows index pipeline ∨ ∃ before change, dispatch.pipelines.get? index = some before ∧
        action.onPipeline = some (index, change) ∧
        Pipeline.Step env dispatch.now change before pipeline := by
  cases haction : action.onPipeline with
  | none => exact .inl (grows_of_step haction hstep hget)
  | some target =>
    obtain ⟨other, change⟩ := target
    obtain ⟨before, changed, events, settles, hbefore, hadvance, rfl⟩ :=
      advance_of_step haction hstep
    rw [pipelines_advanced] at hget
    rcases (get?_put_eq_some hbefore).mp hget with
      ⟨rfl, rfl⟩ | ⟨-, hold⟩
    · exact .inr ⟨before, change, hbefore, rfl, _, changed, events,
        settles, _, hadvance, performAll_events _ _ _ _ events, rfl⟩
    · exact .inl (.inl hold)

def Allows (allowed : PipelineAction → Prop) (_ : Dispatch) (action : Action) : Prop :=
  ∀ target ∈ action.onPipeline, allowed target.2

instance (allowed : PipelineAction → Prop) [DecidablePred allowed]
    (dispatch : Dispatch) (action : Action) :
    Decidable (dispatch.Allows allowed action) :=
  inferInstanceAs (Decidable (∀ target ∈ action.onPipeline, allowed target.2))

section

variable (invariant : Pipeline → Prop)
  (hstarted : ∀ aggregated session now target, invariant (.started aggregated session now target))
include invariant hstarted

theorem pipelines_guarded_invariant {allowed : PipelineAction → Prop}
    (hkeep : ∀ {now change before after}, invariant before →
      allowed change → Pipeline.Step env now change before after → invariant after)
    (hinv : ∀ index pipeline, dispatch.pipelines.get? index = some pipeline → invariant pipeline)
    (hallowed : dispatch.Allows allowed action)
    (hstep : step env dispatch action = some next) :
    ∀ index pipeline, next.pipelines.get? index = some pipeline → invariant pipeline := by
  intro index pipeline hget
  rcases succeeds_step hstep hget with
    (hold | ⟨-, aggregated, session, target, rfl⟩) | ⟨before, change, hbefore, haction, hchange⟩
  · exact hinv index pipeline hold
  · exact hstarted aggregated session _ target
  · exact hkeep (hinv index before hbefore) (hallowed _ haction) hchange

theorem pipelines_invariant (hkeep : ∀ {now change before after}, invariant before →
      Pipeline.Step env now change before after → invariant after)
    (hinv : ∀ index pipeline, dispatch.pipelines.get? index = some pipeline → invariant pipeline)
    (hstep : step env dispatch action = some next) :
    ∀ index pipeline, next.pipelines.get? index = some pipeline → invariant pipeline :=
  pipelines_guarded_invariant invariant hstarted
    (fun hold (_ : True) hchange => hkeep hold hchange) hinv
    (fun _ _ => trivial) hstep

end

theorem size_deliver : dispatch.pipelines.size ≤ (dispatch.deliver result).pipelines.size := by
  unfold deliver
  split
  · simp [submit]
  · exact le_rfl

theorem size_flushAll : dispatch.pipelines.size ≤ dispatch.flushAll.pipelines.size :=
  List.foldlRecOn (motive := fun after : Dispatch => dispatch.pipelines.size ≤ after.pipelines.size) _ _ le_rfl
    fun _ hbefore _ _ => hbefore.trans (size_deliver _)

theorem now_flushAll : dispatch.flushAll.now = dispatch.now :=
  List.foldlRecOn (motive := fun after : Dispatch => after.now = dispatch.now) _ _ rfl
    fun _ hbefore _ _ => (now_deliver _).trans hbefore

@[simp] theorem size_carryOut (index : ℕ) (pipeline : Pipeline) (events : List PipelineEvent) :
    (dispatch.carryOut index pipeline events).pipelines.size =
      dispatch.pipelines.size := by
  simp [carryOut]

section

variable (hstep : step env dispatch action = some next)
include hstep

theorem size_step : dispatch.pipelines.size ≤ next.pipelines.size := by
  cases action with
  | tick ms | cleanupIdle | append item =>
    cases hstep
    exact le_rfl
  | push item =>
    have hsize : { dispatch with
        accepted := dispatch.accepted ++ [item] }.pipelines.size ≤
          (dispatch.push env item).pipelines.size := size_deliver _
    rw [← Option.some.inj hstep]
    exact hsize
  | timerFired key =>
    simp only [step, Option.ite_none_right_eq_some, Option.some.injEq] at hstep
    rw [← hstep.2]
    exact size_deliver _
  | flushAll =>
    rw [← Option.some.inj hstep]
    exact size_flushAll
  | resume other | timeOut other | settle other | apologised other =>
    obtain ⟨before, changed, events, settles, -, -, rfl⟩ := advance_of_step rfl hstep
    simp

theorem now_step : ∃ ms, next.now = dispatch.now + ms := by
  cases action with
  | tick ms =>
    cases hstep
    exact ⟨ms, rfl⟩
  | cleanupIdle | append item =>
    cases hstep
    exact ⟨0, rfl⟩
  | push item =>
    cases hstep
    exact ⟨0, now_deliver _⟩
  | timerFired key =>
    simp only [step, Option.ite_none_right_eq_some, Option.some.injEq] at hstep
    rw [← hstep.2]
    exact ⟨0, now_deliver _⟩
  | flushAll =>
    cases hstep
    exact ⟨0, now_flushAll⟩
  | resume other | timeOut other | settle other | apologised other =>
    obtain ⟨before, changed, events, settles, -, -, rfl⟩ := advance_of_step rfl hstep
    cases settles <;> exact ⟨0, rfl⟩

theorem get?_step {before : Pipeline} (hget : dispatch.pipelines.get? index = some before) :
    ∃ after, next.pipelines.get? index = some after ∧ (after = before ∨ ∃ change,
        Pipeline.Step env dispatch.now change before after) := by
  obtain ⟨after, hafter⟩ := get?_of_lt_size ((lt_size_of_get? hget).trans_le (size_step hstep))
  refine ⟨after, hafter, ?_⟩
  rcases succeeds_step hstep hafter with
    (hold | ⟨hnone, -⟩) | ⟨old, change, hold, -, hchange⟩
  · rw [hget] at hold
    exact .inl (Option.some.inj hold).symm
  · rw [hget] at hnone
    exact absurd hnone (by simp)
  · rw [hget] at hold
    cases hold
    exact .inr ⟨change, hchange⟩

end

end Dispatch

structure Pipeline.Wrapped (pipeline : Pipeline) : Prop where
  apologising : pipeline.wrapper = .apologising → ∃ error, pipeline.body = .threw error
  settled : pipeline.wrapper = .settled → pipeline.timedOutAfter = none → pipeline.body.ended = true
  timedOut : pipeline.timedOutAfter.isSome = true → pipeline.wrapper = .settled

theorem Pipeline.started_wrapped (aggregated : AggregatedMessage)
    (session now : ℕ) (target : Option ℕ) :
    (Pipeline.started aggregated session now target).Wrapped where
  apologising := by simp [Pipeline.started]
  settled := by simp [Pipeline.started]
  timedOut := by simp [Pipeline.started]

theorem Pipeline.Wrapped.step {env : ServiceEnv} {now : ℕ}
    {change : PipelineAction} {before after : Pipeline}
    (hwrapped : before.Wrapped)
    (hstep : Pipeline.Step env now change before after) : after.Wrapped := by
  obtain ⟨context, changed, events, settles, log, hadvance, -, rfl⟩ := hstep
  cases hadvance with
  | resume own answer body events hcontext hstep =>
    have hended := hstep.not_ended
    refine ⟨fun hwrapper => ?_, fun hwrapper hnone => ?_, hwrapped.timedOut⟩
    · obtain ⟨error, hbody⟩ := hwrapped.apologising hwrapper
      simp [hbody, Body.ended] at hended
    · rw [hwrapped.settled hwrapper hnone] at hended
      exact absurd hended (by simp)
  | timeOut hwrapper hbody hdue =>
    exact ⟨by simp, by simp, fun _ => rfl⟩
  | returned hwrapper hbody =>
    exact ⟨by simp, fun _ _ => by simp [hbody, Body.ended], fun _ => rfl⟩
  | excuse error hwrapper hbody hsilent =>
    refine ⟨fun _ => ⟨error, hbody⟩, by simp, fun hsome => ?_⟩
    rw [hwrapped.timedOut hsome] at hwrapper
    exact absurd hwrapper (by simp)
  | degrade change haction hwrapper =>
    refine ⟨by simp, fun _ _ => ?_, fun _ => rfl⟩
    have hthrew : ∃ error, before.body = .threw error :=
      hwrapper.elim hwrapped.apologising And.right
    obtain ⟨error, hbody⟩ := hthrew
    simp [hbody, Body.ended]

namespace Dispatch

variable {env : ServiceEnv} {dispatch next : Dispatch}

def Wrapped (dispatch : Dispatch) : Prop :=
  ∀ index pipeline, dispatch.pipelines.get? index = some pipeline → pipeline.Wrapped

theorem initial_wrapped : initial.Wrapped := by simp [Wrapped, initial]

theorem wrapped_step {action : Action} (hwrapped : dispatch.Wrapped)
    (hstep : step env dispatch action = some next) : next.Wrapped :=
  pipelines_invariant Pipeline.Wrapped Pipeline.started_wrapped Pipeline.Wrapped.step hwrapped hstep

end Dispatch

namespace SessionManager

variable (manager : SessionManager)

theorem size_modify (index : ℕ) (change : SessionContext → SessionContext) :
    (manager.modify index change).contexts.size = manager.contexts.size := by
  unfold modify
  split
  · exact size_put _ _ _
  · rfl

variable (senderId : JsString)

theorem size_transition (state : SessionState) (now : ℕ) :
    (manager.transition senderId state now).contexts.size =
      manager.contexts.size := by
  unfold transition
  split
  · exact size_modify _ _ _
  · rfl

theorem size_appendItem (item : AggregatedMessageItem) (now : ℕ) :
    (manager.appendItem senderId item now).contexts.size =
      manager.contexts.size := by
  unfold appendItem
  split
  · exact size_modify _ _ _
  · rfl

theorem size_performAll (session now : ℕ) (events : List PipelineEvent) :
    (manager.performAll senderId session now events).1.contexts.size =
      manager.contexts.size := by
  refine performAll_invariant (fun after => after.contexts.size = manager.contexts.size)
    (fun before event _ hsize => ?_) rfl
  rw [← hsize]
  cases event with
  | transition state => exact size_transition before senderId state now
  | setTone | takePending => exact size_modify before _ _
  | clear | callGenerateReply | generated | turnStarted | turnFinished
    | sendReply | sendChunk | chunkSent | sendFailed | insertAssistant
    | addHistory => rfl

end SessionManager

namespace Dispatch

variable {env : ServiceEnv} {dispatch next : Dispatch}

structure Backed (dispatch : Dispatch) : Prop where
  registered : ∀ senderId session, dispatch.sessions.sessions.get? senderId = some session →
      session < dispatch.sessions.contexts.size
  obtained : ∀ index pipeline, dispatch.pipelines.get? index = some pipeline →
      pipeline.session < dispatch.sessions.contexts.size

theorem initial_backed : initial.Backed where
  registered := by simp [initial, SessionManager.empty]
  obtained := by simp [initial]

namespace Backed

section

variable (hbacked : dispatch.Backed)
include hbacked

theorem submit (aggregated : AggregatedMessage) : (dispatch.submit aggregated).Backed := by
  cases hsession : dispatch.sessions.sessions.get? aggregated.senderId with
  | some session =>
    have hobtained : dispatch.sessions.getOrCreate aggregated dispatch.now =
        (dispatch.sessions, session) := by
      simp [getOrCreate, hsession]
    refine ⟨fun senderId other hget => ?_, fun index pipeline hget => ?_⟩
    · simp only [Dispatch.submit, hobtained, sessions_transition, size_transition] at hget ⊢
      exact hbacked.registered senderId other hget
    · simp only [Dispatch.submit, hobtained, size_transition] at hget ⊢
      rcases get?_push_eq_some.mp hget with ⟨-, rfl⟩ | hold
      · exact hbacked.registered _ session hsession
      · exact hbacked.obtained index pipeline hold
  | none =>
    refine ⟨fun senderId other hget => ?_, fun index pipeline hget => ?_⟩
    · rw [sessions_submit_of_none hsession] at hget
      simp only [Dispatch.submit, getOrCreate_of_none hsession, size_transition, size_push]
      split_ifs at hget
      · rw [← Option.some.inj hget]
        omega
      · exact Nat.lt_succ_of_lt (hbacked.registered senderId other hget)
    · rw [pipelines_submit_of_none hsession] at hget
      simp only [Dispatch.submit, getOrCreate_of_none hsession, size_transition, size_push]
      rcases get?_push_eq_some.mp hget with ⟨-, rfl⟩ | hold
      · exact Nat.lt_succ_self _
      · exact Nat.lt_succ_of_lt (hbacked.obtained index pipeline hold)

theorem deliver (result : MessageAggregator × Option AggregatedMessage) :
    (dispatch.deliver result).Backed := by
  have hset : { dispatch with aggregator := result.1 }.Backed :=
    ⟨hbacked.registered, hbacked.obtained⟩
  unfold Dispatch.deliver
  split
  · exact hset.submit _
  · exact hset

theorem advance {index : ℕ} {changed : Pipeline} {events : List PipelineEvent} {settles : Bool}
    (hget : dispatch.pipelines.get? index = some pipeline)
    (hsession : changed.session = pipeline.session) :
    (dispatch.advanced index changed events settles).Backed := by
  have hcarried : (dispatch.carryOut index changed events).Backed := by
    have hshrinks := SessionManager.Shrinks.performAll dispatch.sessions
      changed.senderId changed.session dispatch.now events
    refine ⟨fun senderId session hsome => ?_, fun other found hfound => ?_⟩
    · simp only [carryOut, size_performAll]
      exact hbacked.registered senderId session (hshrinks.sessions senderId session hsome)
    · simp only [carryOut, size_performAll]
      rcases (get?_put_eq_some hget).mp hfound with
        ⟨-, rfl⟩ | ⟨-, hold⟩
      · simp only [hsession]
        exact hbacked.obtained index pipeline hget
      · exact hbacked.obtained other found hold
  cases settles with
  | false => exact hcarried
  | true => exact ⟨hcarried.registered, hcarried.obtained⟩

theorem step {action : Action} (hstep : Dispatch.step env dispatch action = some next) :
    next.Backed := by
  cases action with
  | tick ms =>
    obtain rfl := Option.some.inj hstep
    exact ⟨hbacked.registered, hbacked.obtained⟩
  | push item =>
    obtain rfl := Option.some.inj hstep
    have haccepted : { dispatch with
        accepted := dispatch.accepted ++ [item] }.Backed :=
      ⟨hbacked.registered, hbacked.obtained⟩
    exact haccepted.deliver _
  | append item =>
    obtain rfl := Option.some.inj hstep
    refine ⟨fun senderId session hget => ?_, fun index pipeline hget => ?_⟩
    · simp only [Dispatch.append, sessions_appendItem, size_appendItem] at hget ⊢
      exact hbacked.registered senderId session hget
    · simp only [Dispatch.append, size_appendItem]
      exact hbacked.obtained index pipeline hget
  | timerFired key =>
    simp only [Dispatch.step, Option.ite_none_right_eq_some, Option.some.injEq] at hstep
    rw [← hstep.2]
    exact hbacked.deliver _
  | flushAll =>
    obtain rfl := Option.some.inj hstep
    exact List.foldlRecOn _ _ hbacked fun _ hbefore _ _ => hbefore.deliver _
  | cleanupIdle =>
    obtain rfl := Option.some.inj hstep
    have hshrinks := SessionManager.Shrinks.cleanupIdle dispatch.sessions dispatch.now
    exact ⟨fun senderId session hget => hbacked.registered senderId session
      (hshrinks.sessions senderId session hget), hbacked.obtained⟩
  | resume index | timeOut index | settle index | apologised index =>
    obtain ⟨pipeline, changed, events, settles, hget, hadvance, rfl⟩ := advance_of_step rfl hstep
    exact hbacked.advance hget hadvance.kept.2.1

end

end Backed

end Dispatch

end LittleBaby.Feishu
