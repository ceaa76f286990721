import LittleBaby.FeishuOwnership

/-!
# No accepted message is lost

A message that is handed over waits in a buffer, in the batch of a pipeline, or
among the pending items of a session, which only the validation of the first
reply looks at.
-/

namespace LittleBaby.Feishu

open LabelledMachine JsString SessionContext Arena Dispatch MessageAggregator AggregatedMessageItem

/-- The pipeline that owns the context has yet to look at its pending items. -/
def SessionContext.Accepting (context : SessionContext) : Prop :=
  context.retryCount = 0 ∧ (context.state = .routing ∨ context.state = .processing)

instance (context : SessionContext) : Decidable context.Accepting :=
  inferInstanceAs (Decidable (context.retryCount = 0 ∧
    (context.state = .routing ∨ context.state = .processing)))

def Pipeline.Smooth (pipeline : Pipeline) : Prop :=
  (∀ error, pipeline.body ≠ .threw error) ∧ pipeline.timedOutAfter = none

theorem Pipeline.Smooth.of_step {env : ServiceEnv} {now : ℕ}
    {change : PipelineAction} {before after : Pipeline}
    (hsmooth : after.Smooth)
    (hstep : Pipeline.Step env now change before after) : before.Smooth := by
  obtain ⟨context, changed, events, settles, log, hadvance, -, rfl⟩ := hstep
  cases hadvance with
  | resume own answer body events hcontext hstep =>
    refine ⟨fun error hbody => ?_, hsmooth.2⟩
    have hended := hstep.not_ended
    simp [hbody, Body.ended] at hended
  | timeOut => exact absurd hsmooth.2 (by simp)
  | returned | excuse | degrade => exact hsmooth

def Answer.dismisses : Answer → Bool
  | .decided decision =>
    !decision.shouldReply || decide (decision.intent = .chat)
  | _ => false

namespace Body

def early : Body → Bool
  | .deciding | .startingTurn | .generating _ | .finishing _ _
    | .failing _ _ => true
  | _ => false

def Stage (body : Body) (context : SessionContext) : Prop :=
  if body.early then context.retryCount = 0
  else context.pendingItems = [] ∧ ¬ context.Accepting

section Steps

variable {env : ServiceEnv} {aggregated : AggregatedMessage}
  {context : SessionContext} {body next : Body} {answer : Answer}
  {events : List PipelineEvent}

structure Carries (now : ℕ) (context : SessionContext) (next : Body)
    (events : List PipelineEvent) : Prop where
  stage : next ≠ .returned → next.Stage (events.foldl (perform now) context)
  returned : next = .returned → (events.foldl (perform now) context).pendingItems = []
  items : ∀ item ∈ context.pendingItems, item ∈ (events.foldl (perform now) context).pendingItems ∨
      ∃ extra, .callGenerateReply extra ∈ events ∧ item ∈ extra

variable (now : ℕ)

theorem foldl_finishAiTurn (turn : Option ℕ) (written : Bool)
    (status : TurnStatus) (toolRounds : ℕ) (context : SessionContext) :
    (finishAiTurn turn written status toolRounds).foldl (perform now) context = context :=
  foldl_perform_detached now context finishAiTurn_detached

theorem ReplySource.stage {reply : GenerateReplyResult}
    (hsource : ReplySource context body answer reply events)
    (hstage : body.Stage context) :
    context.pendingItems = [] ∧ (events.foldl (perform now) context).pendingItems = [] := by
  cases hsource with
  | first turn _ written hpending =>
    have hzero : context.retryCount = 0 := hstage
    have hnil : context.pendingItems = [] := by
      by_contra hne
      exact hpending ⟨hne, by omega⟩
    rw [List.foldl_append, foldl_finishAiTurn]
    exact ⟨hnil, hnil⟩
  | second | fallback =>
    rw [foldl_finishAiTurn]
    exact ⟨hstage.1, hstage.1⟩

theorem Step.carries (hstep : Step env aggregated context body answer next events)
    (hstage : body.Stage context)
    (hdismisses : answer.dismisses = true → context.pendingItems = [])
    (hthrew : ∀ error, next ≠ .threw error) :
    Carries now context next events := by
  cases hstep with
  | noReply decision hreply =>
    have hnil := hdismisses (by simp [Answer.dismisses, hreply])
    exact ⟨by simp, fun _ => hnil, by simp [hnil]⟩
  | chat decision hreply hintent =>
    have hnil := hdismisses (by simp [Answer.dismisses, hintent])
    refine ⟨fun _ => ⟨hnil, ?_⟩, by simp, by simp [hnil]⟩
    simp [perform, SessionContext.Accepting]
  | startTurn | skipTurn =>
    exact ⟨fun _ => hstage, by simp, fun item hmem => .inl hmem⟩
  | turnStarted turn hturn =>
    cases turn <;> exact ⟨fun _ => hstage, by simp, fun item hmem => .inl hmem⟩
  | generated | generateFailed | regenerated | regenerateFailed
    | chatSending | chunkSent | nextChunk | deepSent | inserted =>
      exact ⟨fun _ => hstage, by simp, fun item hmem => .inl hmem⟩
  | retry turn reply written hpending hretry =>
    have hfold : ∀ later, (finishAiTurn turn written .success reply.toolRounds ++
          later).foldl (perform now) context = later.foldl (perform now) context := by
      intro later
      rw [List.foldl_append, foldl_finishAiTurn]
    refine ⟨fun _ => ?_, by simp, fun item hmem => ?_⟩
    · rw [hfold]
      refine ⟨rfl, ?_⟩
      simp [perform, SessionContext.Accepting]
    · exact .inr ⟨context.pendingItems, by simp, hmem⟩
  | reply reply before chunk rest hsource hchunks =>
    obtain ⟨hnil, hafter⟩ := hsource.stage now hstage
    refine ⟨fun _ => ?_, by simp, by simp [hnil]⟩
    rw [List.append_assoc, List.foldl_append]
    refine ⟨hafter, ?_⟩
    simp [perform, SessionContext.Accepting]
  | chatFailed | failed | sendFailed => exact absurd rfl (hthrew _)
  | chatEmpty | chatSent | notInserted | recorded =>
    exact ⟨by simp, fun _ => hstage.1, fun item hmem => .inl hmem⟩

end Steps

end Body

/-- The items of the `extraContext` of a `generateReply` call. -/
def PipelineEvent.extraMessages : PipelineEvent → List AggregatedMessageItem
  | .callGenerateReply extra => extra
  | _ => []

/-- What a pipeline was given, in its batch or in an `extraContext`. -/
def Pipeline.given (pipeline : Pipeline) : List AggregatedMessageItem :=
  pipeline.aggregated.items ++ pipeline.transcript.flatMap fun entry => entry.event.extraMessages

namespace Dispatch

variable {env : ServiceEnv} {dispatch next : Dispatch}

def Delivered (dispatch : Dispatch) (item : AggregatedMessageItem) : Prop :=
  ∃ index pipeline, dispatch.pipelines.get? index = some pipeline ∧ item ∈ pipeline.given

inductive Accounted (dispatch : Dispatch) (item : AggregatedMessageItem) :
    Prop
  | buffered (key : JsString) (aggregated : AggregatedMessage)
      (hbuffer : dispatch.aggregator.buffers.get? key = some aggregated)
      (hitem : item ∈ aggregated.items)
  | delivered (hdelivered : dispatch.Delivered item)
  | pending (senderId : JsString) (session : ℕ) (context : SessionContext)
      (hsession : dispatch.sessions.sessions.get? senderId = some session)
      (hcontext : dispatch.sessions.contexts.get? session = some context)
      (hitem : item ∈ context.pendingItems)

structure Tended (dispatch : Dispatch) : Prop where
  staged : ∀ index pipeline context,
    dispatch.pipelines.get? index = some pipeline → pipeline.Running →
      dispatch.sessions.contexts.get? pipeline.session = some context → pipeline.body.Stage context
  cleared : ∀ session context, dispatch.sessions.contexts.get? session = some context → (∀ senderId,
        dispatch.sessions.sessions.get? senderId ≠ some session) → context.pendingItems = []

structure Kept (dispatch : Dispatch) : Prop extends Tended dispatch where
  accounted : ∀ item ∈ dispatch.accepted, dispatch.Accounted item

theorem initial_kept : initial.Kept where
  staged := by simp [initial]
  cleared := by simp [initial, SessionManager.empty]
  accounted := by simp [initial]

variable {aggregated : AggregatedMessage}

theorem Tended.submit (htended : dispatch.Tended) (hbacked : dispatch.Backed)
    (hnone : dispatch.sessions.sessions.get? aggregated.senderId = none) :
    (dispatch.submit aggregated).Tended := by
  have hsessions := sessions_submit_of_none hnone
  have hcontexts := contexts_submit_of_none hnone
  have hpipelines := pipelines_submit_of_none hnone
  refine ⟨?_, ?_⟩
  · intro index pipeline context hget hrunning hcontext
    rw [hpipelines] at hget
    rw [hcontexts] at hcontext
    rcases get?_push_eq_some.mp hget with ⟨-, rfl⟩ | hold
    · simp only [Pipeline.started, if_true, Option.some.injEq] at hcontext
      rw [← hcontext]
      rfl
    · rw [if_neg (hbacked.obtained index pipeline hold).ne] at hcontext
      exact htended.staged index pipeline context hold hrunning hcontext
  · intro session context hcontext hunregistered
    rw [hcontexts] at hcontext
    split_ifs at hcontext with hsession
    · rw [← Option.some.inj hcontext]
      rfl
    · refine htended.cleared session context hcontext fun senderId hold => ?_
      refine hunregistered senderId ?_
      rw [hsessions, if_neg]
      · exact hold
      · rintro rfl
        rw [hnone] at hold
        exact absurd hold (by simp)

variable {item : AggregatedMessageItem}

theorem Delivered.submit (hnone : dispatch.sessions.sessions.get? aggregated.senderId = none)
    (hitem : item ∈ aggregated.items) :
    (dispatch.submit aggregated).Delivered item := by
  refine ⟨dispatch.pipelines.size, .started aggregated dispatch.sessions.contexts.size dispatch.now
      (some dispatch.sessions.contexts.size), ?_,
    List.mem_append_left _ hitem⟩
  rw [pipelines_submit_of_none hnone]
  exact get?_push_size _

theorem Accounted.congr (haccounted : dispatch.Accounted item)
    (haggregator : next.aggregator = dispatch.aggregator)
    (hpipelines : next.pipelines = dispatch.pipelines)
    (hsessions : next.sessions = dispatch.sessions) :
    next.Accounted item := by
  cases haccounted with
  | buffered key aggregated hbuffer hitem =>
    exact Accounted.buffered key aggregated (haggregator ▸ hbuffer) hitem
  | delivered hdelivered =>
    obtain ⟨index, pipeline, hget, hitem⟩ := hdelivered
    exact Accounted.delivered ⟨index, pipeline, hpipelines ▸ hget, hitem⟩
  | pending senderId session context hsession hcontext hitem =>
    exact Accounted.pending senderId session context
      (hsessions ▸ hsession) (hsessions ▸ hcontext) hitem

theorem Kept.congr (hkept : dispatch.Kept) (haggregator : next.aggregator = dispatch.aggregator)
    (hpipelines : next.pipelines = dispatch.pipelines)
    (hsessions : next.sessions = dispatch.sessions)
    (haccepted : next.accepted = dispatch.accepted) : next.Kept where
  staged := by
    rw [hpipelines, hsessions]
    exact hkept.staged
  cleared := by
    rw [hsessions]
    exact hkept.cleared
  accounted := fun item hmem =>
    (hkept.accounted item (haccepted ▸ hmem)).congr haggregator hpipelines hsessions

variable {index : ℕ} {pipeline : Pipeline} {events : List PipelineEvent}

theorem Delivered.carryOut {changed : Pipeline} (hdelivered : dispatch.Delivered item)
    (hget : dispatch.pipelines.get? index = some pipeline)
    (haggregated : changed.aggregated = pipeline.aggregated)
    (htranscript : changed.transcript = pipeline.transcript) :
    (dispatch.carryOut index changed events).Delivered item := by
  obtain ⟨other, found, hfound, hitem⟩ := hdelivered
  by_cases hsame : other = index
  · subst other
    rw [hget] at hfound
    cases hfound
    refine ⟨index, _, (get?_put_eq_some hget).mpr (.inl ⟨rfl, rfl⟩), ?_⟩
    simp only [Pipeline.given, haggregated, htranscript, List.flatMap_append, ← List.append_assoc]
    exact List.mem_append_left _ hitem
  · exact ⟨other, found, (get?_put_eq_some hget).mpr (.inr ⟨hsame, hfound⟩), hitem⟩

theorem Delivered.of_called {extra : List AggregatedMessageItem}
    (hget : dispatch.pipelines.get? index = some pipeline)
    (changed : Pipeline) (hcall : .callGenerateReply extra ∈ events)
    (hitem : item ∈ extra) :
    (dispatch.carryOut index changed events).Delivered item := by
  have hevents := SessionManager.performAll_events
    dispatch.sessions changed.senderId changed.session dispatch.now events
  rw [← hevents] at hcall
  obtain ⟨entry, hentry, hevent⟩ := List.mem_map.mp hcall
  refine ⟨index, _, (get?_put_eq_some hget).mpr (.inl ⟨rfl, rfl⟩),
    List.mem_append_right _ (List.mem_flatMap.mpr ⟨entry, List.mem_append_right _ hentry, ?_⟩)⟩
  rw [hevent]
  exact hitem

theorem Accounted.submit (hnone : dispatch.sessions.sessions.get? aggregated.senderId = none)
    (haccounted : dispatch.Accounted item) :
    (dispatch.submit aggregated).Accounted item := by
  cases haccounted with
  | buffered key buffered hbuffer hitem =>
    exact Accounted.buffered key buffered hbuffer hitem
  | delivered hdelivered =>
    obtain ⟨index, pipeline, hget, hitem⟩ := hdelivered
    refine Accounted.delivered ⟨index, pipeline, ?_, hitem⟩
    exact get?_push_of_get? _ hget
  | pending senderId session context hsession hcontext hitem =>
    refine Accounted.pending senderId session context ?_ ?_ hitem
    · rw [sessions_submit_of_none hnone, if_neg]
      · exact hsession
      · rintro rfl
        rw [hnone] at hsession
        exact absurd hsession (by simp)
    · rw [contexts_submit_of_none hnone, if_neg (lt_size_of_get? hcontext).ne]
      exact hcontext

theorem Kept.deliver (htended : dispatch.Tended) (hbacked : dispatch.Backed)
    (key : JsString) {result : MessageAggregator × Option AggregatedMessage}
    (hothers : ∀ other, other ≠ key → result.1.buffers.get? other =
      dispatch.aggregator.buffers.get? other)
    (hnone : ∀ aggregated, result.2 = some aggregated →
      dispatch.sessions.sessions.get? aggregated.senderId = none)
    (hitems : ∀ item ∈ dispatch.accepted, (dispatch.Accounted item ∧ ∀ aggregated,
        dispatch.aggregator.buffers.get? key = some aggregated → item ∉ aggregated.items) ∨
      ∃ batch, (result.1.buffers.get? key = some batch ∨
        result.2 = some batch) ∧ item ∈ batch.items) :
    (dispatch.deliver result).Kept := by
  have hset : { dispatch with aggregator := result.1 }.Tended := ⟨htended.staged, htended.cleared⟩
  have hsetBacked : { dispatch with aggregator := result.1 }.Backed :=
    ⟨hbacked.registered, hbacked.obtained⟩
  have haccounted : ∀ item ∈ dispatch.accepted,
      { dispatch with aggregator := result.1 }.Accounted item ∨
        ∃ batch, result.2 = some batch ∧ item ∈ batch.items := by
    intro item hmem
    rcases hitems item hmem with ⟨hold, hnot⟩ | ⟨batch, hbuffer | hsome, hitem⟩
    · left
      cases hold with
      | buffered other aggregated hbuffer hitem =>
        have hother : other ≠ key := by
          rintro rfl
          exact hnot aggregated hbuffer hitem
        refine Accounted.buffered other aggregated ?_ hitem
        rw [← hbuffer]
        exact hothers other hother
      | delivered hdelivered => exact Accounted.delivered hdelivered
      | pending senderId session context hsession hcontext hitem =>
        exact Accounted.pending senderId session context hsession hcontext hitem
    · exact Or.inl (Accounted.buffered key batch hbuffer hitem)
    · exact Or.inr ⟨batch, hsome, hitem⟩
  unfold Dispatch.deliver
  cases hresult : result.2 with
  | none =>
    refine ⟨hset, fun item hmem => ?_⟩
    refine (haccounted item hmem).resolve_right ?_
    rintro ⟨batch, hsome, -⟩
    rw [hresult] at hsome
    exact absurd hsome (by simp)
  | some aggregated =>
    have hfree : { dispatch with
        aggregator := result.1 }.sessions.sessions.get?
          aggregated.senderId = none := hnone aggregated hresult
    refine ⟨hset.submit hsetBacked hfree, fun item hmem => ?_⟩
    rcases haccounted item hmem with hold | ⟨batch, hsome, hitem⟩
    · exact hold.submit hfree
    · rw [hresult] at hsome
      cases hsome
      exact Accounted.delivered (Delivered.submit hfree hitem)

theorem Owned.backed (howned : dispatch.Owned) : dispatch.Backed where
  registered := by
    intro senderId session hsession
    obtain ⟨index, pipeline, hget, hrunning, rfl⟩ := howned.owner _ _ hsession
    rw [howned.registered index pipeline hget hrunning] at hsession
    obtain ⟨context, hcontext, -⟩ := howned.context index pipeline hget
    rw [← Option.some.inj hsession]
    exact lt_size_of_get? hcontext
  obtained := by
    intro index pipeline hget
    obtain ⟨context, hcontext, -⟩ := howned.context index pipeline hget
    exact lt_size_of_get? hcontext

/-- A message is pushed only while its sender has no engaged pipeline, and
appended only while the pipeline of its sender has yet to look at the pending
items; and no routing decision gives up on pending items. -/
def Timely (dispatch : Dispatch) : Action → Prop
  | .push item => dispatch.Undisturbed (.push item)
  | .append item =>
    ∃ context ∈ dispatch.sessions.get (senderKey item.event), context.Accepting
  | .resume index answer => answer.dismisses = true → ∀ pipeline ∈ dispatch.pipelines.get? index,
        ∀ context ∈ dispatch.sessions.contexts.get? pipeline.session, context.pendingItems = []
  | _ => True

variable {action : Action}

theorem Timely.undisturbed (htimely : dispatch.Timely action) : dispatch.Undisturbed action := by
  cases action with
  | push item => exact htimely
  | append | tick | timerFired | flushAll | cleanupIdle | resume | timeOut
    | settle | apologised => simp [Undisturbed]

namespace Kept

section

variable (hkept : dispatch.Kept)

include hkept

theorem push (hsound : dispatch.Sound) (hfree : ∀ index pipeline,
      dispatch.pipelines.get? index = some pipeline → pipeline.Engaged →
        pipeline.senderId ≠ senderKey item.event) :
    (dispatch.push env item).Kept := by
  have htended : { dispatch with
      accepted := dispatch.accepted ++ [item] }.Tended :=
    ⟨hkept.staged, hkept.cleared⟩
  have hbacked : { dispatch with
      accepted := dispatch.accepted ++ [item] }.Backed :=
    ⟨hsound.1.backed.registered, hsound.1.backed.obtained⟩
  have hbatch : ∀ other, other ∈ (dispatch.aggregator.batch env item).items → ∃ batch,
          ((dispatch.aggregator.push env dispatch.now item).1.buffers.get?
              (senderKey item.event) = some batch ∨
            (dispatch.aggregator.push env dispatch.now item).2 = some batch) ∧
          other ∈ batch.items := by
    intro other hmem
    rcases push_cases env dispatch.now dispatch.aggregator item with ⟨hsome, -⟩ | ⟨-, hbuffers, -⟩
    · exact ⟨_, .inr hsome, hmem⟩
    · exact ⟨_, .inl (by rw [hbuffers, if_pos rfl]), hmem⟩
  refine Kept.deliver htended hbacked (senderKey item.event) ?_ ?_ ?_
  · intro other hother
    rcases push_cases env dispatch.now dispatch.aggregator
      item with ⟨-, hbuffers, -⟩ | ⟨-, hbuffers, -⟩
    · rw [hbuffers, if_neg hother]
    · rw [hbuffers, if_neg hother]
  · intro aggregated hsome
    rcases push_cases env dispatch.now dispatch.aggregator item with ⟨hpushed, -⟩ | ⟨hnone, -⟩
    · rw [hpushed] at hsome
      rw [← Option.some.inj hsome, hsound.2.batch_senderId]
      exact hsound.1.unregistered_of_free hfree
    · rw [hnone] at hsome
      exact absurd hsome (by simp)
  · intro other hmem
    by_cases hbuffered : ∃ aggregated, dispatch.aggregator.buffers.get? (senderKey item.event) =
            some aggregated ∧ other ∈ aggregated.items
    · exact .inr (hbatch other (mem_items_batch.mpr (.inr hbuffered)))
    · rcases List.mem_append.mp hmem with hold | hnew
      · exact .inl ⟨(hkept.accounted other hold).congr rfl rfl rfl, fun aggregated hbuffer hitem =>
            hbuffered ⟨aggregated, hbuffer, hitem⟩⟩
      · rw [List.mem_singleton] at hnew
        exact .inr (hbatch other (mem_items_batch.mpr (.inl hnew)))

theorem flush (hsound : dispatch.Sound) (key : JsString) : (dispatch.flush key).Kept := by
  refine Kept.deliver hkept.toTended hsound.1.backed key ?_ ?_ ?_
  · intro other hother
    rw [buffers_flush, if_neg hother]
  · intro aggregated hbuffer
    rw [hsound.2.senderId key aggregated hbuffer]
    exact hsound.1.unregistered_of_free fun index pipeline =>
      hsound.1.free_of_buffered hbuffer
  · intro item hmem
    by_cases hbuffered : ∃ aggregated,
        dispatch.aggregator.buffers.get? key = some aggregated ∧ item ∈ aggregated.items
    · obtain ⟨aggregated, hbuffer, hitem⟩ := hbuffered
      exact .inr ⟨aggregated, .inr hbuffer, hitem⟩
    · exact .inl ⟨hkept.accounted item hmem, fun aggregated hbuffer hitem =>
        hbuffered ⟨aggregated, hbuffer, hitem⟩⟩

theorem flushAll (hsound : dispatch.Sound) : dispatch.flushAll.Kept :=
  (List.foldlRecOn (motive := fun after : Dispatch => after.Kept ∧ after.Sound) _ _
    ⟨hkept, hsound⟩ fun _ hboth key _ => ⟨hboth.1.flush hboth.2 key, hboth.2.flush key⟩).1

theorem append (htimely : dispatch.Timely (.append item)) : (dispatch.append item).Kept := by
  obtain ⟨accepting, hget, haccepting⟩ := htimely
  obtain ⟨own, hown, haccept⟩ := Option.bind_eq_some_iff.mp hget
  have hcontexts : ∀ session, (dispatch.append item).sessions.contexts.get? session =
        if dispatch.sessions.sessions.get? (senderKey item.event) = some session then
          (dispatch.sessions.contexts.get? session).map fun context =>
            { context with
              pendingItems := context.pendingItems ++ [item]
              lastActivityAt := dispatch.now }
        else dispatch.sessions.contexts.get? session :=
    fun session => SessionManager.contexts_appendItem _ _ _ _ _
  have hsessions : (dispatch.append item).sessions.sessions =
      dispatch.sessions.sessions :=
    SessionManager.sessions_appendItem _ _ _ _
  refine ⟨⟨?_, ?_⟩, ?_⟩
  · intro index pipeline context hpipeline hrunning hcontext
    rw [hcontexts] at hcontext
    split_ifs at hcontext with hsession
    · rw [hown] at hsession
      cases hsession
      rw [haccept] at hcontext
      rw [← Option.some.inj hcontext]
      have hstage := hkept.staged index pipeline accepting hpipeline hrunning haccept
      unfold Body.Stage at hstage ⊢
      split_ifs at hstage ⊢
      · exact hstage
      · exact absurd haccepting hstage.2
    · exact hkept.staged index pipeline context hpipeline hrunning hcontext
  · intro session context hcontext hunregistered
    rw [hsessions] at hunregistered
    rw [hcontexts, if_neg (hunregistered _)] at hcontext
    exact hkept.cleared session context hcontext hunregistered
  · intro other hmem
    rcases List.mem_append.mp hmem with hold | hnew
    · cases hkept.accounted other hold with
      | buffered key aggregated hbuffer hitem =>
        exact Accounted.buffered key aggregated hbuffer hitem
      | delivered hdelivered => exact Accounted.delivered hdelivered
      | pending senderId session context hsession hcontext hitem =>
        rw [← hsessions] at hsession
        by_cases hsame : dispatch.sessions.sessions.get? (senderKey item.event) = some session
        · refine Accounted.pending senderId session { context with
              pendingItems := context.pendingItems ++ [item]
              lastActivityAt := dispatch.now } hsession ?_
            (List.mem_append_left _ hitem)
          rw [hcontexts, if_pos hsame, hcontext]
          rfl
        · refine Accounted.pending senderId session context hsession ?_ hitem
          rw [hcontexts, if_neg hsame]
          exact hcontext
    · refine Accounted.pending (senderKey item.event) own { accepting with
          pendingItems := accepting.pendingItems ++ [item]
          lastActivityAt := dispatch.now } ?_ ?_
        (List.mem_append_right _ hnew)
      · rw [hsessions]
        exact hown
      · rw [hcontexts, if_pos hown, haccept]
        rfl

theorem cleanupIdle (hsound : dispatch.Sound) : { dispatch with
      sessions := dispatch.sessions.cleanupIdle dispatch.now }.Kept := by
  have hsessions := hsound.1.get?_cleanupIdle
  refine ⟨⟨hkept.staged, fun session context hcontext hunregistered => ?_⟩, fun item hmem => ?_⟩
  · refine hkept.cleared session context hcontext fun senderId => ?_
    rw [← hsessions]
    exact hunregistered senderId
  · cases hkept.accounted item hmem with
    | buffered key aggregated hbuffer hitem =>
      exact Accounted.buffered key aggregated hbuffer hitem
    | delivered hdelivered => exact Accounted.delivered hdelivered
    | pending senderId session context hsession hcontext hitem =>
      rw [← hsessions] at hsession
      exact Accounted.pending senderId session context hsession hcontext hitem

theorem settle (hget : dispatch.pipelines.get? index = some pipeline) :
    (dispatch.carryOut index { pipeline with wrapper := .settled } []).Kept := by
  refine ⟨⟨fun other found context hfound hrunning hcontext => ?_,
    hkept.cleared⟩, fun item hmem => ?_⟩
  · rcases (get?_put_eq_some hget).mp hfound with ⟨-, rfl⟩ | ⟨-, hold⟩
    · exact absurd rfl hrunning.1
    · exact hkept.staged other found context hold hrunning hcontext
  · cases hkept.accounted item hmem with
    | buffered key aggregated hbuffer hitem =>
      exact Accounted.buffered key aggregated hbuffer hitem
    | delivered hdelivered =>
      exact Accounted.delivered (hdelivered.carryOut hget rfl rfl)
    | pending senderId session context hsession hcontext hitem =>
      exact Accounted.pending senderId session context hsession hcontext hitem

theorem resume (hsound : dispatch.Sound) {context : SessionContext} {answer : Answer} {body : Body}
    (hget : dispatch.pipelines.get? index = some pipeline)
    (hrunning : pipeline.Running)
    (hcontext : dispatch.sessions.contexts.get? pipeline.session = some context)
    (hstep : Body.Step env pipeline.aggregated context pipeline.body answer body events)
    (hcarries : Body.Carries dispatch.now context body events) :
    (dispatch.carryOut index { pipeline with body := body } events).Kept := by
  have hregistered := hsound.1.registered index pipeline hget hrunning
  obtain ⟨hcontexts, hsessions, -⟩ := SessionManager.performAll_spec
    SessionManager.contexts_perform_own hregistered hcontext fun _ => hstep.clearsLast
  have hother : ∀ senderId session, dispatch.sessions.sessions.get? senderId = some session →
        session ≠ pipeline.session → senderId ≠ pipeline.senderId := by
    rintro senderId session hsession hne rfl
    rw [hregistered] at hsession
    exact hne (Option.some.inj hsession).symm
  refine ⟨⟨?_, ?_⟩, ?_⟩
  · intro other found own hfound hfoundRunning hown
    change (dispatch.sessions.performAll pipeline.senderId pipeline.session
      dispatch.now events).1.contexts.get? found.session = _ at hown
    rw [hcontexts] at hown
    rcases (get?_put_eq_some hget).mp hfound with ⟨-, rfl⟩ | ⟨hne, hold⟩
    · rw [if_pos rfl] at hown
      rw [← Option.some.inj hown]
      exact hcarries.stage hfoundRunning.2
    · rw [if_neg fun hsame => hne (hsound.1.exclusive other index found
        pipeline hold hget hsame)] at hown
      exact hkept.staged other found own hold hfoundRunning hown
  · intro session found hfound hunregistered
    change (dispatch.sessions.performAll pipeline.senderId pipeline.session
      dispatch.now events).1.contexts.get? session = _ at hfound
    change ∀ senderId, (dispatch.sessions.performAll pipeline.senderId
      pipeline.session dispatch.now events).1.sessions.get? senderId ≠ _ at hunregistered
    rw [hcontexts] at hfound
    split_ifs at hfound with hsession
    · subst session
      rw [← Option.some.inj hfound]
      refine hcarries.returned (hstep.clear_mem_iff.mp ?_)
      by_contra hclear
      refine hunregistered pipeline.senderId ?_
      rw [hsessions, if_neg fun hboth => hclear hboth.1]
      exact hregistered
    · refine hkept.cleared session found hfound fun senderId hold => ?_
      refine hunregistered senderId ?_
      rw [hsessions, if_neg fun hboth =>
        hother senderId session hold hsession hboth.2]
      exact hold
  · intro item hmem
    cases hkept.accounted item hmem with
    | buffered key aggregated hbuffer hitem =>
      exact Accounted.buffered key aggregated hbuffer hitem
    | delivered hdelivered =>
      exact Accounted.delivered (hdelivered.carryOut hget rfl rfl)
    | pending senderId session found hsession hfound hitem =>
      by_cases hsame : session = pipeline.session
      · subst session
        rw [hcontext] at hfound
        cases hfound
        rcases hcarries.items item hitem with hstays | ⟨extra, hcall, hin⟩
        · have hclear : .clear ∉ events := by
            intro hclear
            rw [hcarries.returned (hstep.clear_mem_iff.mp hclear)] at hstays
            simp at hstays
          refine Accounted.pending pipeline.senderId pipeline.session _ ?_ ?_ hstays
          · change (dispatch.sessions.performAll pipeline.senderId
              pipeline.session dispatch.now events).1.sessions.get? _ = _
            rw [hsessions, if_neg fun hboth => hclear hboth.1]
            exact hregistered
          · change (dispatch.sessions.performAll pipeline.senderId
              pipeline.session dispatch.now events).1.contexts.get? _ = _
            rw [hcontexts, if_pos rfl]
        · exact Accounted.delivered
            (Delivered.of_called hget { pipeline with body := body } hcall hin)
      · refine Accounted.pending senderId session found ?_ ?_ hitem
        · change (dispatch.sessions.performAll pipeline.senderId
            pipeline.session dispatch.now events).1.sessions.get? _ = _
          rw [hsessions, if_neg fun hboth =>
            hother senderId session hsession hsame hboth.2]
          exact hsession
        · change (dispatch.sessions.performAll pipeline.senderId
            pipeline.session dispatch.now events).1.contexts.get? _ = _
          rw [hcontexts, if_neg hsame]
          exact hfound

theorem advance (hsound : dispatch.Sound) (hwrapped : dispatch.Wrapped) {change : PipelineAction}
    {changed : Pipeline}
    {settles : Bool}
    (hget : dispatch.pipelines.get? index = some pipeline)
    (hadvance : pipeline.Advance env dispatch.now
      (dispatch.sessions.contexts.get? pipeline.session) change changed events
      settles)
    (hdismisses : ∀ answer, change = .resume answer → answer.dismisses = true →
        ∀ context ∈ dispatch.sessions.contexts.get? pipeline.session, context.pendingItems = [])
    (hsmooth : changed.Smooth) :
    (dispatch.advanced index changed events settles).Kept := by
  cases hadvance with
  | resume context answer body events hcontext hstep =>
    have hended := hstep.not_ended
    have hrunning : pipeline.Running := by
      refine ⟨fun hsettled => ?_, fun hreturned => ?_⟩
      · rw [(hwrapped index pipeline hget).settled hsettled hsmooth.2] at hended
        exact absurd hended (by simp)
      · simp [hreturned, Body.ended] at hended
    exact hkept.resume hsound hget hrunning hcontext hstep (hstep.carries dispatch.now
        (hkept.staged index pipeline context hget hrunning hcontext)
        (fun hanswer => hdismisses answer rfl hanswer context hcontext)
        hsmooth.1)
  | timeOut => exact absurd hsmooth.2 (by simp)
  | returned hwrapper hbody =>
    exact (hkept.settle hget).congr rfl rfl rfl rfl
  | excuse error hwrapper hbody => exact absurd hbody (hsmooth.1 error)
  | degrade change haction hwrapper =>
    obtain ⟨error, hbody⟩ : ∃ error, pipeline.body = .threw error :=
      hwrapper.elim (hwrapped index pipeline hget).apologising And.right
    exact absurd hbody (hsmooth.1 error)

end

end Kept

def Smooth (dispatch : Dispatch) : Prop :=
  ∀ index pipeline, dispatch.pipelines.get? index = some pipeline → pipeline.Smooth

theorem smooth_of_step (hsmooth : next.Smooth)
    (hstep : step env dispatch action = some next) : dispatch.Smooth := by
  intro index pipeline hget
  obtain ⟨after, hafter, rfl | ⟨change, hchange⟩⟩ := get?_step hstep hget
  · exact hsmooth index after hafter
  · exact (hsmooth index after hafter).of_step hchange

theorem Kept.step (hkept : dispatch.Kept) (hsound : dispatch.Sound)
    (hwrapped : dispatch.Wrapped) {action : Action}
    (htimely : dispatch.Timely action) (hsmooth : next.Smooth)
    (hstep : Dispatch.step env dispatch action = some next) :
    next.Kept := by
  have hadvance : ∀ {index : ℕ} {change : PipelineAction},
      action.onPipeline = some (index, change) → next.Kept := by
    intro index change haction
    obtain ⟨pipeline, changed, events, settles, hget, hadvance, rfl⟩ :=
      advance_of_step haction hstep
    refine hkept.advance hsound hwrapped hget hadvance ?_ ?_
    · rintro answer rfl hdismisses context hcontext
      cases action with
      | resume other found =>
        obtain ⟨rfl, hanswer⟩ := Prod.mk.inj (Option.some.inj haction)
        cases hanswer
        exact htimely hdismisses pipeline hget context hcontext
      | tick | push | append | timerFired | flushAll | cleanupIdle
        | timeOut | settle | apologised => simp [Action.onPipeline] at haction
    · refine hsmooth index { changed with
        transcript := changed.transcript ++
          (dispatch.sessions.performAll changed.senderId changed.session dispatch.now events).2 } ?_
      rw [pipelines_advanced]
      exact (Arena.get?_put_eq_some hget).mpr (Or.inl ⟨rfl, rfl⟩)
  cases action with
  | tick ms =>
    cases hstep
    exact hkept.congr rfl rfl rfl rfl
  | push item =>
    cases hstep
    exact hkept.push hsound (htimely item rfl)
  | append item =>
    cases hstep
    exact hkept.append htimely
  | timerFired key =>
    simp only [Dispatch.step, Option.ite_none_right_eq_some, Option.some.injEq] at hstep
    rw [← hstep.2]
    exact hkept.flush hsound key
  | flushAll =>
    cases hstep
    exact hkept.flushAll hsound
  | cleanupIdle =>
    cases hstep
    exact hkept.cleanupIdle hsound
  | resume index | timeOut index | settle index | apologised index =>
    exact hadvance rfl

/-- No accepted item is lost: it always waits somewhere, it is not left behind
in a cleared context, and it has been given to a pipeline once no timer is
armed and no pipeline is running. -/
structure Conserved (dispatch : Dispatch) : Prop where
  accounted : ∀ item ∈ dispatch.accepted, dispatch.Accounted item
  cleared : ∀ session context, dispatch.sessions.contexts.get? session = some context → (∀ senderId,
        dispatch.sessions.sessions.get? senderId ≠ some session) → context.pendingItems = []
  delivered : (∀ key, dispatch.aggregator.timers.get? key = none) →
    (∀ index pipeline, dispatch.pipelines.get? index = some pipeline →
      ¬ pipeline.Running) → ∀ item ∈ dispatch.accepted, dispatch.Delivered item

theorem Kept.conserved (hkept : dispatch.Kept) (hsound : dispatch.Sound) : dispatch.Conserved where
  accounted := hkept.accounted
  cleared := hkept.cleared
  delivered := by
    intro htimers hidle item hmem
    cases hkept.accounted item hmem with
    | buffered key aggregated hbuffer hitem =>
      have harmed := hsound.2.armed key
      simp [htimers key, hbuffer] at harmed
    | delivered hdelivered => exact hdelivered
    | pending senderId session context hsession hcontext hitem =>
      obtain ⟨index, pipeline, hget, hrunning, -⟩ := hsound.1.owner senderId session hsession
      exact absurd hrunning (hidle index pipeline hget)

instance (dispatch : Dispatch) : ∀ action, Decidable (dispatch.Timely action)
  | .push item => inferInstanceAs (Decidable (dispatch.Undisturbed (.push item)))
  | .append item =>
    inferInstanceAs (Decidable (∃ context ∈ dispatch.sessions.get (senderKey item.event),
        context.Accepting))
  | .resume index answer =>
    inferInstanceAs (Decidable (answer.dismisses = true →
      ∀ pipeline ∈ dispatch.pipelines.get? index,
        ∀ context ∈ dispatch.sessions.contexts.get? pipeline.session, context.pendingItems = []))
  | .tick _ | .timerFired _ | .flushAll | .cleanupIdle | .timeOut _
    | .settle _ | .apologised _ => isTrue trivial

theorem smooth_of_cells (hcells : ∀ pipeline ∈ dispatch.pipelines.cells,
      pipeline.body = .returned ∧ pipeline.timedOutAfter = none) :
    dispatch.Smooth := by
  intro index pipeline hget
  obtain ⟨hbody, htimedOut⟩ := forall_mem_cells.mp hcells index pipeline hget
  exact ⟨by simp [hbody], htimedOut⟩

end Dispatch

namespace Service

/-- In a run that hands messages over in time, and in which no pipeline throws
or times out, no accepted message is lost. -/
theorem messages_conserved {env : ServiceEnv}
    {processed : InsertionSet JsString} {actions : List Action}
    {final : Service}
    (htimely : Guarded (step env) (Through env Dispatch.Timely) (boot processed) actions)
    (hrun : run (step env) (boot processed) actions = some final)
    (hsmooth : final.dispatch.Smooth) : final.dispatch.Conserved := by
  have hinv : final.dispatch.Wrapped ∧ final.dispatch.Sound ∧
      (final.dispatch.Smooth → final.dispatch.Kept) := by
    refine (projects env).run_guarded_invariant (fun dispatch => dispatch.Wrapped ∧ dispatch.Sound ∧
        (dispatch.Smooth → dispatch.Kept)) ?_
      ⟨initial_wrapped, initial_sound, fun _ => initial_kept⟩ htimely hrun
    rintro before after event ⟨hwrapped, hsound, hkept⟩ hguard hstep
    exact ⟨wrapped_step hwrapped hstep, hsound.step hwrapped hguard.undisturbed hstep, fun hafter =>
        (hkept (smooth_of_step hafter hstep)).step hsound hwrapped hguard hafter hstep⟩
  exact (hinv.2.2 hsmooth).conserved hinv.2.1

def answeredTogether : List Action :=
  [.deliver (textMessage (js "m1") (js "oc_direct") .p2p (js "hi")),
    .parsed 0 [], .userRecorded 0 none,
    .resume 0 (.decided ⟨true, .question, .casual⟩),
    .deliver (textMessage (js "m2") (js "oc_direct") .p2p (js "and?")),
    .parsed 1 [], .userRecorded 1 none,
    .resume 0 (.generated (.ok (plainReply 0))),
    .resume 0 (.turnFinished true),
    .resume 0 (.generated (.ok (plainReply 0))),
    .resume 0 (.turnFinished true), .resume 0 (.chunkSent (.ok ())),
    .resume 0 .slept, .resume 0 .assistantRecorded, .settle 0]

theorem messages_conserved_together : ∃ final,
    run (step (plainEnv false)) (boot .empty) answeredTogether =
        some final ∧ final.dispatch.Conserved := by
  apply exists_of_view (by rfl : Option.map (fun final =>
      final.dispatch.pipelines.cells.map fun pipeline =>
        (pipeline.body, pipeline.timedOutAfter)) _ = some [(.returned, none)])
  intro final hcells hrun
  apply messages_conserved (by decide) hrun
  apply smooth_of_cells
  intro pipeline hmem
  have hpair := List.mem_map_of_mem
    (f := fun pipeline : Pipeline => (pipeline.body, pipeline.timedOutAfter))
    hmem
  rw [hcells] at hpair
  simpa using hpair

/-- A message that arrives during a chat reply is appended to a session whose
pipeline never looks at it. -/
theorem message_lost_while_chatting : ∃ final, run (step (plainEnv false)) (boot .empty)
        [.deliver (textMessage (js "m1") (js "oc_direct") .p2p (js "hi")),
          .parsed 0 [], .userRecorded 0 none,
          .resume 0 (.decided ⟨true, .chat, .casual⟩),
          .deliver (textMessage (js "m2") (js "oc_direct") .p2p (js "?")),
          .parsed 1 [], .userRecorded 1 none,
          .resume 0 (.chatAnswered (.ok (js "hello"))),
          .resume 0 (.chunkSent (.ok ())), .resume 0 .slept, .settle 0] =
        some final ∧
      final.dispatch.Smooth ∧ ¬ final.dispatch.Conserved := by
  apply exists_of_view (by rfl : Option.map (fun final =>
      (final.dispatch.aggregator.timers.keys, final.dispatch.accepted.map delivery,
        final.dispatch.pipelines.cells.map fun pipeline =>
          (pipeline.body, pipeline.timedOutAfter, pipeline.given.map delivery))) _ =
    some ([], [0, 1], [(.returned, none, [0])]))
  intro final hview _
  simp only [Prod.mk.injEq] at hview
  obtain ⟨htimers, haccepted, hcells⟩ := hview
  have hcell : ∀ pipeline ∈ final.dispatch.pipelines.cells,
      pipeline.body = .returned ∧ pipeline.timedOutAfter = none ∧
        pipeline.given.map delivery = [0] := by
    intro pipeline hmem
    have htriple := List.mem_map_of_mem (f := fun pipeline : Pipeline =>
        (pipeline.body, pipeline.timedOutAfter, pipeline.given.map delivery)) hmem
    rw [hcells] at htriple
    simpa using htriple
  refine ⟨smooth_of_cells fun pipeline hmem =>
    ⟨(hcell pipeline hmem).1, (hcell pipeline hmem).2.1⟩, fun hconserved => ?_⟩
  obtain ⟨item, hitem, hdelivery⟩ : ∃ item ∈ final.dispatch.accepted, item.delivery = 1 := by
    have hmem : 1 ∈ final.dispatch.accepted.map delivery := by
      simp [haccepted]
    exact List.mem_map.mp hmem
  obtain ⟨index, pipeline, hget, hgiven⟩ := hconserved.delivered
    (fun key => InsertionMap.get?_eq_none_iff.mpr (by simp [htimers]))
    (fun index pipeline hget hrunning => hrunning.2
      (hcell pipeline (List.mem_of_getElem? hget)).1) item hitem
  have hone : 1 ∈ pipeline.given.map delivery :=
    List.mem_map.mpr ⟨item, hgiven, hdelivery⟩
  rw [(hcell pipeline (List.mem_of_getElem? hget)).2.2] at hone
  simp at hone

end Service

end LittleBaby.Feishu
