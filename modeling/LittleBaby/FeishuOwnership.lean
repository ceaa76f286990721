import LittleBaby.FeishuPipelineRuns
import LittleBaby.FeishuService

/-!
# Ownership of session contexts

`getOrCreate`, `transition` and `clear` act on whatever context is registered
for a sender.
-/

namespace LittleBaby.Feishu

open LabelledMachine JsString SessionManager MessageAggregator Dispatch

def Pipeline.Running (pipeline : Pipeline) : Prop :=
  pipeline.wrapper ≠ .settled ∧ pipeline.body ≠ .returned

def Pipeline.Engaged (pipeline : Pipeline) : Prop := pipeline.Running ∨ pipeline.body.ended = false

namespace Dispatch

structure Owned (dispatch : Dispatch) : Prop where
  unique : ∀ index other pipeline rival, dispatch.pipelines.get? index = some pipeline →
      dispatch.pipelines.get? other = some rival → pipeline.Engaged → rival.Engaged →
          pipeline.senderId = rival.senderId → index = other
  exclusive : ∀ index other pipeline rival, dispatch.pipelines.get? index = some pipeline →
      dispatch.pipelines.get? other = some rival → pipeline.session = rival.session → index = other
  unbuffered : ∀ index pipeline, dispatch.pipelines.get? index = some pipeline → pipeline.Engaged →
      dispatch.aggregator.buffers.get? pipeline.senderId = none
  registered : ∀ index pipeline, dispatch.pipelines.get? index = some pipeline → pipeline.Running →
      dispatch.sessions.sessions.get? pipeline.senderId = some pipeline.session
  owner : ∀ senderId session, dispatch.sessions.sessions.get? senderId = some session →
      ∃ index pipeline, dispatch.pipelines.get? index = some pipeline ∧
        pipeline.Running ∧ pipeline.senderId = senderId
  context : ∀ index pipeline, dispatch.pipelines.get? index = some pipeline → ∃ context,
        dispatch.sessions.contexts.get? pipeline.session = some context ∧
          (pipeline.Running → context.state.active = true)
  targets : ∀ index pipeline, dispatch.pipelines.get? index = some pipeline →
      ∀ entry ∈ pipeline.transcript, entry.target = none ∨ entry.target = some pipeline.session

theorem initial_owned : initial.Owned where
  unique := by simp [initial]
  exclusive := by simp [initial]
  unbuffered := by simp [initial]
  registered := by simp [initial]
  owner := by simp [initial, SessionManager.empty]
  context := by simp [initial]
  targets := by simp [initial]

/-- No message is pushed while a pipeline of its sender is engaged. -/
def Undisturbed (dispatch : Dispatch) (action : Action) : Prop :=
  ∀ item, action = .push item → ∀ index pipeline,
    dispatch.pipelines.get? index = some pipeline → pipeline.Engaged →
      pipeline.senderId ≠ senderKey item.event

namespace Owned

variable {dispatch : Dispatch}

theorem setAggregator (howned : dispatch.Owned) {aggregator : MessageAggregator}
    (hbuffers : ∀ index pipeline, dispatch.pipelines.get? index = some pipeline → pipeline.Engaged →
        aggregator.buffers.get? pipeline.senderId = none) :
    { dispatch with aggregator := aggregator }.Owned :=
  { howned with unbuffered := hbuffers }

variable {index : ℕ} {pipeline : Pipeline}

section

variable (howned : dispatch.Owned)
include howned

theorem registered_of_engaged {session : ℕ} (hget : dispatch.pipelines.get? index = some pipeline)
    (hengaged : pipeline.Engaged)
    (hsession : dispatch.sessions.sessions.get? pipeline.senderId =
      some session) : pipeline.Running := by
  obtain ⟨other, rival, hrival, hrunning, hsender⟩ := howned.owner _ _ hsession
  have hsame : index = other :=
    howned.unique index other pipeline rival hget hrival hengaged (.inl hrunning) hsender.symm
  rw [← hsame, hget] at hrival
  rw [Option.some.inj hrival]
  exact hrunning

theorem unregistered_of_free {key : JsString} (hfree : ∀ index pipeline,
      dispatch.pipelines.get? index = some pipeline → pipeline.Engaged → pipeline.senderId ≠ key) :
    dispatch.sessions.sessions.get? key = none := by
  cases hsession : dispatch.sessions.sessions.get? key with
  | none => rfl
  | some session =>
    obtain ⟨index, pipeline, hget, hrunning, hsender⟩ := howned.owner _ _ hsession
    exact absurd hsender (hfree index pipeline hget (.inl hrunning))

theorem free_of_buffered {key : JsString} {aggregated : AggregatedMessage}
    (hbuffer : dispatch.aggregator.buffers.get? key = some aggregated)
    (hget : dispatch.pipelines.get? index = some pipeline)
    (hengaged : pipeline.Engaged) : pipeline.senderId ≠ key := by
  rintro rfl
  rw [howned.unbuffered index pipeline hget hengaged] at hbuffer
  exact absurd hbuffer (by simp)

theorem get?_cleanupIdle (senderId : JsString) :
    (dispatch.sessions.cleanupIdle dispatch.now).sessions.get? senderId =
      dispatch.sessions.sessions.get? senderId := by
  simp only [cleanupIdle, InsertionMap.get?_filter]
  cases hsession : dispatch.sessions.sessions.get? senderId with
  | none => rfl
  | some session =>
    obtain ⟨index, pipeline, hget, hrunning, rfl⟩ := howned.owner _ _ hsession
    obtain ⟨context, hcontext, hactive⟩ := howned.context index pipeline hget
    have hsame := howned.registered index pipeline hget hrunning
    rw [hsession] at hsame
    cases hsame
    have hidle : dispatch.sessions.idleFor dispatch.now pipeline.session = false := by
      cases hcase : context.state <;> simp_all [idleFor, SessionState.active]
    simp [hidle]

theorem submit {aggregated : AggregatedMessage} (hfree : ∀ index pipeline,
      dispatch.pipelines.get? index = some pipeline → pipeline.Engaged →
        pipeline.senderId ≠ aggregated.senderId)
    (hbuffer : dispatch.aggregator.buffers.get? aggregated.senderId = none) :
    (dispatch.submit aggregated).Owned := by
  have hnone := howned.unregistered_of_free hfree
  have hsessions := sessions_submit_of_none hnone
  have hcontexts := contexts_submit_of_none hnone
  have hpipelines := pipelines_submit_of_none hnone
  have hget : ∀ index pipeline, (dispatch.submit aggregated).pipelines.get? index = some pipeline →
        index = dispatch.pipelines.size ∧
            pipeline = .started aggregated dispatch.sessions.contexts.size
              dispatch.now (some dispatch.sessions.contexts.size) ∨
          dispatch.pipelines.get? index = some pipeline := by
    intro index pipeline hsome
    rw [hpipelines] at hsome
    rcases Arena.get?_push_eq_some.mp hsome with ⟨hindex, heq⟩ | hold
    · exact .inl ⟨hindex, heq.symm⟩
    · exact .inr hold
  refine ⟨?_, ?_, ?_, ?_, ?_, ?_, ?_⟩
  · intro index other pipeline rival hpipeline hrival hengaged hrivalEngaged hsender
    rcases hget index pipeline hpipeline with ⟨hindex, rfl⟩ | hpipeline <;>
      rcases hget other rival hrival with ⟨hother, rfl⟩ | hrival
    · exact hindex.trans hother.symm
    · exact absurd hsender.symm (hfree other rival hrival hrivalEngaged)
    · exact absurd hsender (hfree index pipeline hpipeline hengaged)
    · exact howned.unique index other pipeline rival hpipeline hrival hengaged hrivalEngaged hsender
  · have holder : ∀ index pipeline, dispatch.pipelines.get? index = some pipeline →
          pipeline.session ≠ dispatch.sessions.contexts.size := by
      intro index pipeline hpipeline
      obtain ⟨context, hcontext, -⟩ := howned.context index pipeline hpipeline
      exact (Arena.lt_size_of_get? hcontext).ne
    intro index other pipeline rival hpipeline hrival hsession
    rcases hget index pipeline hpipeline with ⟨hindex, rfl⟩ | hpipeline <;>
      rcases hget other rival hrival with ⟨hother, rfl⟩ | hrival
    · exact hindex.trans hother.symm
    · exact absurd hsession.symm (holder other rival hrival)
    · exact absurd hsession (holder index pipeline hpipeline)
    · exact howned.exclusive index other pipeline rival hpipeline hrival hsession
  · intro index pipeline hpipeline hengaged
    rcases hget index pipeline hpipeline with ⟨-, rfl⟩ | hpipeline
    · exact hbuffer
    · exact howned.unbuffered index pipeline hpipeline hengaged
  · intro index pipeline hpipeline hrunning
    rw [hsessions]
    rcases hget index pipeline hpipeline with ⟨-, rfl⟩ | hpipeline
    · exact if_pos rfl
    · rw [if_neg (hfree index pipeline hpipeline (.inl hrunning))]
      exact howned.registered index pipeline hpipeline hrunning
  · intro senderId session hsession
    rw [hsessions] at hsession
    split_ifs at hsession with hsender
    · have hnew : (dispatch.submit aggregated).pipelines.get?
          dispatch.pipelines.size = some (.started aggregated
            dispatch.sessions.contexts.size dispatch.now
              (some dispatch.sessions.contexts.size)) := by
        rw [hpipelines]
        exact Arena.get?_push_size _
      refine ⟨dispatch.pipelines.size, _, hnew, ?_, hsender.symm⟩
      simp [Pipeline.Running, Pipeline.started]
    · obtain ⟨index, pipeline, hpipeline, hrunning, hsame⟩ := howned.owner senderId session hsession
      exact ⟨index, pipeline, hpipelines ▸ Arena.get?_push_of_get? _ hpipeline, hrunning, hsame⟩
  · intro index pipeline hpipeline
    rcases hget index pipeline hpipeline with ⟨-, rfl⟩ | hpipeline
    · exact ⟨dispatch.opened aggregated, by rw [hcontexts]; exact if_pos rfl, fun _ => rfl⟩
    · obtain ⟨context, hcontext, hactive⟩ := howned.context index pipeline hpipeline
      refine ⟨context, ?_, hactive⟩
      rw [hcontexts, if_neg (Arena.lt_size_of_get? hcontext).ne]
      exact hcontext
  · intro index pipeline hpipeline entry hmem
    rcases hget index pipeline hpipeline with ⟨-, rfl⟩ | hpipeline
    · simp only [Pipeline.started, List.mem_singleton] at hmem
      rw [hmem]
      exact .inr rfl
    · exact howned.targets index pipeline hpipeline entry hmem

end

structure CarriedOut (dispatch : Dispatch) (pipeline : Pipeline)
    (events : List PipelineEvent) : Prop where
  sessions : ∀ senderId, (dispatch.sessions.performAll pipeline.senderId pipeline.session
        dispatch.now events).1.sessions.get? senderId =
      if .clear ∈ events ∧ senderId = pipeline.senderId then none
      else dispatch.sessions.sessions.get? senderId
  others : ∀ session, session ≠ pipeline.session →
    (dispatch.sessions.performAll pipeline.senderId pipeline.session
        dispatch.now events).1.contexts.get? session =
      dispatch.sessions.contexts.get? session
  own : ∀ context, dispatch.sessions.contexts.get? pipeline.session = some context →
      ∃ changed, (dispatch.sessions.performAll pipeline.senderId
          pipeline.session dispatch.now events).1.contexts.get? pipeline.session = some changed ∧
        (pipeline.Running → changed = events.foldl (SessionContext.perform dispatch.now) context)
  targets : ∀ entry ∈ (dispatch.sessions.performAll pipeline.senderId
      pipeline.session dispatch.now events).2,
    entry.target = none ∨ entry.target = some pipeline.session

theorem carriedOut (howned : dispatch.Owned) {events : List PipelineEvent}
    (hget : dispatch.pipelines.get? index = some pipeline)
    (hengaged : pipeline.Engaged) (hclears : ClearsLast events) :
    CarriedOut dispatch pipeline events := by
  obtain ⟨context, hcontext, -⟩ := howned.context index pipeline hget
  cases hsession : dispatch.sessions.sessions.get? pipeline.senderId with
  | some session =>
    have hrunning := howned.registered_of_engaged hget hengaged hsession
    have hown := howned.registered index pipeline hget hrunning
    obtain ⟨hcontexts, hsessions, htargets⟩ :=
      performAll_spec contexts_perform_own hown hcontext fun _ => hclears
    refine ⟨hsessions, fun session hne => ?_, fun found hfound => ?_,
      fun entry hmem => .inr (htargets entry hmem)⟩
    · rw [hcontexts, if_neg hne]
    · rw [hcontext] at hfound
      rw [← Option.some.inj hfound]
      exact ⟨_, by rw [hcontexts, if_pos rfl], fun _ => rfl⟩
  | none =>
    obtain ⟨hcontexts, hsessions, htargets⟩ :=
      performAll_spec contexts_perform_orphan hsession hcontext fun hsome => absurd rfl hsome
    refine ⟨hsessions, fun session hne => ?_, fun found hfound => ?_,
      fun entry hmem => .inl (htargets entry hmem)⟩
    · rw [hcontexts, if_neg hne]
    · refine ⟨_, by rw [hcontexts, if_pos rfl], fun hrunning => ?_⟩
      rw [howned.registered index pipeline hget hrunning] at hsession
      exact absurd hsession (by simp)

theorem carriedOut_nil (dispatch : Dispatch) (pipeline : Pipeline) :
    CarriedOut dispatch pipeline [] where
  sessions := by simp [performAll]
  others := fun _ _ => rfl
  own := fun context hcontext => ⟨context, hcontext, fun _ => rfl⟩
  targets := by simp [performAll]

theorem carryOut (howned : dispatch.Owned) {changed : Pipeline} {events : List PipelineEvent}
    (hget : dispatch.pipelines.get? index = some pipeline)
    (hcarried : CarriedOut dispatch pipeline events)
    (haggregated : changed.aggregated = pipeline.aggregated)
    (hsession : changed.session = pipeline.session)
    (htranscript : changed.transcript = pipeline.transcript)
    (hengaged : changed.Engaged → pipeline.Engaged)
    (hclear : .clear ∈ events → pipeline.Engaged)
    (hrunning : changed.Running ↔ pipeline.Running ∧ .clear ∉ events)
    (hactive : ∀ context : SessionContext, changed.Running → context.state.active = true →
        (events.foldl (SessionContext.perform dispatch.now) context).state.active = true) :
    (dispatch.carryOut index changed events).Owned := by
  have hsender : changed.senderId = pipeline.senderId :=
    congrArg AggregatedMessage.senderId haggregated
  obtain ⟨hsessions, hothers, hown, htargets⟩ := hcarried
  rw [← hsender, ← hsession] at hsessions htargets
  have hfound : ∀ other found,
      (dispatch.carryOut index changed events).pipelines.get? other = some found →
      (other = index ∧ found = { changed with
          transcript := changed.transcript ++
            (dispatch.sessions.performAll changed.senderId changed.session
              dispatch.now events).2 }) ∨
        other ≠ index ∧ dispatch.pipelines.get? other = some found := by
    intro other found hsome
    rcases (Arena.get?_put_eq_some hget).mp hsome with ⟨heq, rfl⟩ | hold
    · exact .inl ⟨heq, rfl⟩
    · exact .inr hold
  refine ⟨?_, ?_, ?_, ?_, ?_, ?_, ?_⟩
  · intro first second found rival hfirst hsecond hfirstEngaged hsecondEngaged hsame
    rcases hfound first found hfirst with ⟨heq, rfl⟩ | ⟨hne, hfirst⟩ <;>
      rcases hfound second rival hsecond with ⟨heq', rfl⟩ | ⟨hne', hsecond⟩
    · exact heq.trans heq'.symm
    · rw [heq]
      exact howned.unique index second pipeline rival hget hsecond
        (hengaged hfirstEngaged) hsecondEngaged (hsender.symm.trans hsame)
    · rw [heq']
      exact howned.unique first index found pipeline hfirst hget
        hfirstEngaged (hengaged hsecondEngaged) (hsame.trans hsender)
    · exact howned.unique first second found rival hfirst hsecond hfirstEngaged hsecondEngaged hsame
  · intro first second found rival hfirst hsecond hsame
    rcases hfound first found hfirst with ⟨heq, rfl⟩ | ⟨hne, hfirst⟩ <;>
      rcases hfound second rival hsecond with ⟨heq', rfl⟩ | ⟨hne', hsecond⟩
    · exact heq.trans heq'.symm
    · rw [heq]
      exact howned.exclusive index second pipeline rival hget hsecond (hsession.symm.trans hsame)
    · rw [heq']
      exact howned.exclusive first index found pipeline hfirst hget (hsame.trans hsession)
    · exact howned.exclusive first second found rival hfirst hsecond hsame
  · intro other found hother hfoundEngaged
    rcases hfound other found hother with ⟨heq, rfl⟩ | ⟨hne, hother⟩
    · change dispatch.aggregator.buffers.get? changed.senderId = none
      rw [hsender]
      exact howned.unbuffered index pipeline hget (hengaged hfoundEngaged)
    · exact howned.unbuffered other found hother hfoundEngaged
  · intro other found hother hfoundRunning
    change (dispatch.sessions.performAll changed.senderId changed.session
      dispatch.now events).1.sessions.get? found.senderId = _
    rw [hsessions]
    rcases hfound other found hother with ⟨heq, rfl⟩ | ⟨hne, hother⟩
    · have hold := hrunning.mp hfoundRunning
      rw [if_neg fun hclear => hold.2 hclear.1]
      change dispatch.sessions.sessions.get? changed.senderId = some changed.session
      rw [hsender, hsession]
      exact howned.registered index pipeline hget hold.1
    · have hregistered := howned.registered other found hother hfoundRunning
      rw [if_neg]
      · exact hregistered
      · rintro ⟨hmem, hsame⟩
        exact hne (howned.unique other index found pipeline hother hget
          (.inl hfoundRunning) (hclear hmem) (hsame.trans hsender))
  · intro senderId session hsome
    change (dispatch.sessions.performAll changed.senderId changed.session
      dispatch.now events).1.sessions.get? senderId = _ at hsome
    rw [hsessions] at hsome
    split_ifs at hsome with hcleared
    obtain ⟨other, found, hother, hfoundRunning, hsame⟩ := howned.owner senderId session hsome
    by_cases hother' : other = index
    · subst other
      rw [hget] at hother
      cases hother
      refine ⟨index, _, (Arena.get?_put_eq_some hget).mpr
        (.inl ⟨rfl, rfl⟩), ?_, hsender.trans hsame⟩
      refine hrunning.mpr ⟨hfoundRunning, fun hmem => hcleared ⟨hmem, ?_⟩⟩
      rw [hsender, hsame]
    · exact ⟨other, found, (Arena.get?_put_eq_some hget).mpr
        (.inr ⟨hother', hother⟩), hfoundRunning, hsame⟩
  · intro other found hother
    rcases hfound other found hother with ⟨-, rfl⟩ | ⟨hne, hother⟩
    · obtain ⟨context, hcontext, hcontextActive⟩ := howned.context index pipeline hget
      obtain ⟨after, hafter, heq⟩ := hown context hcontext
      rw [← hsender, ← hsession] at hafter
      refine ⟨after, hafter, fun hchanged => ?_⟩
      have hold := (hrunning.mp hchanged).1
      rw [heq hold]
      exact hactive context hchanged (hcontextActive hold)
    · obtain ⟨context, hcontext, hcontextActive⟩ := howned.context other found hother
      refine ⟨context, ?_, hcontextActive⟩
      have hapart : found.session ≠ pipeline.session := fun hsame =>
        hne (howned.exclusive other index found pipeline hother hget hsame)
      have hsame := hothers found.session hapart
      rw [← hsender, ← hsession] at hsame
      exact hsame.trans hcontext
  · intro other found hother entry hmem
    rcases hfound other found hother with ⟨-, rfl⟩ | ⟨-, hother⟩
    · rcases List.mem_append.mp hmem with hold | hnew
      · rw [htranscript] at hold
        rw [hsession]
        exact howned.targets index pipeline hget entry hold
      · exact htargets entry hnew
    · exact howned.targets other found hother entry hmem

end Owned

/-- The invariant of the dispatch machine while pushes are undisturbed, apart
from what holds of the code around the race in any case. -/
def Sound (dispatch : Dispatch) : Prop := dispatch.Owned ∧ dispatch.aggregator.WellFormed

theorem initial_sound : initial.Sound := ⟨initial_owned, empty_wellFormed⟩

namespace Sound

variable {env : ServiceEnv} {dispatch next : Dispatch}

section

variable (hsound : dispatch.Sound)

include hsound

theorem deliver (key : JsString) {result : MessageAggregator × Option AggregatedMessage}
    (hwell : result.1.WellFormed)
    (hfree : ∀ index pipeline, dispatch.pipelines.get? index = some pipeline → pipeline.Engaged →
        result.2.isSome = true ∨ result.1.buffers.get? key ≠ dispatch.aggregator.buffers.get? key →
          pipeline.senderId ≠ key)
    (hothers : ∀ other, other ≠ key → result.1.buffers.get? other =
      dispatch.aggregator.buffers.get? other)
    (hbatch : ∀ aggregated, result.2 = some aggregated →
      aggregated.senderId = key ∧ result.1.buffers.get? key = none) :
    (dispatch.deliver result).Sound := by
  have howned : { dispatch with aggregator := result.1 }.Owned := by
    refine hsound.1.setAggregator fun index pipeline hget hengaged => ?_
    have hold := hsound.1.unbuffered index pipeline hget hengaged
    by_cases hkey : pipeline.senderId = key
    · by_cases hsame : result.1.buffers.get? key = dispatch.aggregator.buffers.get? key
      · rw [hkey, hsame, ← hkey]
        exact hold
      · exact absurd hkey (hfree index pipeline hget hengaged (Or.inr hsame))
    · rw [hothers _ hkey]
      exact hold
  unfold Dispatch.deliver
  cases hresult : result.2 with
  | none => exact ⟨howned, hwell⟩
  | some aggregated =>
    obtain ⟨hsender, hnone⟩ := hbatch aggregated hresult
    refine ⟨howned.submit ?_ ?_, hwell⟩
    · intro index pipeline hget hengaged
      rw [hsender]
      exact hfree index pipeline hget hengaged (Or.inl (by simp [hresult]))
    · rw [hsender]
      exact hnone

theorem push (item : AggregatedMessageItem) (hfree : ∀ index pipeline,
      dispatch.pipelines.get? index = some pipeline → pipeline.Engaged →
        pipeline.senderId ≠ senderKey item.event) :
    (dispatch.push env item).Sound := by
  have hwell := hsound.2
  have hbefore : { dispatch with
      accepted := dispatch.accepted ++ [item] }.Sound :=
    ⟨⟨hsound.1.unique, hsound.1.exclusive, hsound.1.unbuffered,
      hsound.1.registered, hsound.1.owner, hsound.1.context,
      hsound.1.targets⟩, hwell⟩
  refine hbefore.deliver (senderKey item.event) (hwell.push item)
    (fun index pipeline hget hengaged _ => hfree index pipeline hget hengaged)
    ?_ ?_
  · intro other hother
    rcases push_cases env dispatch.now
      dispatch.aggregator item with ⟨-, hbuffers, -⟩ | ⟨-, hbuffers, -⟩
    · rw [hbuffers, if_neg hother]
    · rw [hbuffers, if_neg hother]
  · intro aggregated hsome
    rcases push_cases env dispatch.now
      dispatch.aggregator item with ⟨hbatch, hbuffers, -⟩ | ⟨hnone, -⟩
    · rw [hbatch] at hsome
      rw [← Option.some.inj hsome, hbuffers, if_pos rfl]
      exact ⟨hwell.batch_senderId item, rfl⟩
    · rw [hnone] at hsome
      exact absurd hsome (by simp)

theorem flush (key : JsString) : (dispatch.flush key).Sound := by
  refine hsound.deliver key (hsound.2.flush key) ?_ ?_ ?_
  · intro index pipeline hget hengaged hchanged hkey
    have hnone := hsound.1.unbuffered index pipeline hget hengaged
    rw [hkey] at hnone
    simp [MessageAggregator.flush, hnone] at hchanged
  · intro other hother
    rw [MessageAggregator.buffers_flush, if_neg hother]
  · intro aggregated hsome
    refine ⟨hsound.2.senderId key aggregated hsome, ?_⟩
    rw [MessageAggregator.buffers_flush, if_pos rfl]

theorem flushAll : dispatch.flushAll.Sound :=
  List.foldlRecOn _ _ hsound fun _ hbefore key _ => hbefore.flush key

theorem append (item : AggregatedMessageItem) : (dispatch.append item).Sound := by
  refine ⟨{ hsound.1 with
    registered := fun index pipeline hget hrunning => ?_
    owner := fun senderId session hsession => ?_
    context := fun index pipeline hget => ?_ }, hsound.2⟩
  · simpa [Dispatch.append] using hsound.1.registered index pipeline hget hrunning
  · simp only [Dispatch.append, SessionManager.sessions_appendItem] at hsession
    exact hsound.1.owner senderId session hsession
  · obtain ⟨context, hcontext, hactive⟩ := hsound.1.context index pipeline hget
    simp only [Dispatch.append, SessionManager.contexts_appendItem, hcontext]
    split_ifs
    · exact ⟨_, rfl, hactive⟩
    · exact ⟨context, rfl, hactive⟩

theorem cleanupIdle : { dispatch with
      sessions := dispatch.sessions.cleanupIdle dispatch.now }.Sound := by
  refine ⟨{ hsound.1 with
    registered := fun index pipeline hget hrunning => ?_
    owner := fun senderId session hsession => ?_ }, hsound.2⟩
  · rw [hsound.1.get?_cleanupIdle]
    exact hsound.1.registered index pipeline hget hrunning
  · rw [hsound.1.get?_cleanupIdle] at hsession
    exact hsound.1.owner senderId session hsession

theorem settled : dispatch.settled.Sound :=
  ⟨⟨hsound.1.unique, hsound.1.exclusive, hsound.1.unbuffered,
    hsound.1.registered, hsound.1.owner, hsound.1.context,
    hsound.1.targets⟩, hsound.2⟩

theorem advance (hwrapped : dispatch.Wrapped)
    {index : ℕ} {pipeline changed : Pipeline} {events : List PipelineEvent}
    {settles : Bool} {context : Option SessionContext}
    {change : PipelineAction}
    (hget : dispatch.pipelines.get? index = some pipeline)
    (hadvance : pipeline.Advance env dispatch.now context change changed events settles) :
    (dispatch.advanced index changed events settles).Sound := by
  have hsettled : (dispatch.carryOut index changed events).Owned →
      (dispatch.advanced index changed events settles).Sound := by
    intro howned
    cases settles with
    | false => exact ⟨howned, hsound.2⟩
    | true => exact settled ⟨howned, hsound.2⟩
  have hdegrade : changed.wrapper = .settled → pipeline.Running →
      events = [.transition .degraded, .clear] →
        (dispatch.carryOut index changed events).Owned := by
    rintro hwrapper hrunning rfl
    obtain ⟨haggregated, hsession, htranscript⟩ := hadvance.kept
    exact hsound.1.carryOut hget (hsound.1.carriedOut hget (.inl hrunning) (by simp [ClearsLast]))
      haggregated hsession htranscript (fun _ => .inl hrunning)
      (fun _ => .inl hrunning) (by simp [Pipeline.Running, hwrapper])
      (fun _ hchanged => absurd hwrapper hchanged.1)
  cases hadvance with
  | resume own answer body events hcontext hstep =>
    have hended := hstep.not_ended
    have hengaged : pipeline.Engaged := .inr hended
    refine hsettled (hsound.1.carryOut hget
      (hsound.1.carriedOut hget hengaged hstep.clearsLast) rfl rfl rfl
      (fun _ => hengaged) (fun _ => hengaged) ?_ ?_)
    · have hnot : pipeline.body ≠ .returned := by
        intro hreturned
        simp [hreturned, Body.ended] at hended
      simp [Pipeline.Running, hstep.clear_mem_iff, hnot]
    · exact fun _ hrunning hactive =>
        hstep.active dispatch.now hrunning.2 hactive
  | timeOut hwrapper hbody hdue =>
    refine hsettled (hdegrade rfl ⟨by simp [hwrapper], ?_⟩ rfl)
    intro hreturned
    simp [hreturned, Body.ended] at hbody
  | returned hwrapper hbody =>
    refine hsettled (hsound.1.carryOut hget
      (Owned.carriedOut_nil dispatch pipeline) rfl rfl rfl ?_ (by simp)
      ?_ ?_)
    · rintro (⟨hnot, -⟩ | hended)
      · exact absurd rfl hnot
      · simp [hbody, Body.ended] at hended
    · simp [Pipeline.Running, hbody]
    · rintro found ⟨hnot, -⟩
      exact absurd rfl hnot
  | excuse error hwrapper hbody hsilent =>
    have hrunning : pipeline.Running := by
      simp [Pipeline.Running, hwrapper, hbody]
    refine hsettled (hsound.1.carryOut hget
      (hsound.1.carriedOut hget (.inl hrunning) (by simp [ClearsLast]))
      rfl rfl rfl (fun _ => .inl hrunning) (by simp) ?_ ?_)
    · simp [Pipeline.Running, hbody, hwrapper]
    · intro found _ hactive
      exact hactive
  | degrade change haction hwrapper =>
    have hthrew : ∃ error, pipeline.body = .threw error :=
      hwrapper.elim (hwrapped index pipeline hget).apologising And.right
    obtain ⟨error, hbody⟩ := hthrew
    refine hsettled (hdegrade rfl ⟨?_, by simp [hbody]⟩ rfl)
    rcases hwrapper with hwrapper | ⟨hwrapper, -⟩ <;> simp [hwrapper]

theorem step (hwrapped : dispatch.Wrapped) {action : Action} (hfree : dispatch.Undisturbed action)
    (hstep : Dispatch.step env dispatch action = some next) :
    next.Sound := by
  cases action with
  | tick ms =>
    rw [← Option.some.inj hstep]
    exact ⟨⟨hsound.1.unique, hsound.1.exclusive, hsound.1.unbuffered,
      hsound.1.registered, hsound.1.owner, hsound.1.context,
      hsound.1.targets⟩, hsound.2⟩
  | push item =>
    rw [← Option.some.inj hstep]
    exact hsound.push item (hfree item rfl)
  | append item =>
    rw [← Option.some.inj hstep]
    exact hsound.append item
  | timerFired key =>
    simp only [Dispatch.step, Option.ite_none_right_eq_some, Option.some.injEq] at hstep
    rw [← hstep.2]
    exact hsound.flush key
  | flushAll =>
    rw [← Option.some.inj hstep]
    exact hsound.flushAll
  | cleanupIdle =>
    rw [← Option.some.inj hstep]
    exact hsound.cleanupIdle
  | resume index | timeOut index | settle index | apologised index =>
    obtain ⟨pipeline, changed, events, settles, hget, hadvance, rfl⟩ := advance_of_step rfl hstep
    exact hsound.advance hwrapped hget hadvance

end

end Sound

/-- One pipeline of a sender runs at a time, and what a pipeline does to the
session of its sender, it does to the context it obtained. -/
structure OwnsSessions (dispatch : Dispatch) : Prop where
  one_running : ∀ index other pipeline rival, dispatch.pipelines.get? index = some pipeline →
      dispatch.pipelines.get? other = some rival → pipeline.Running → rival.Running →
          pipeline.senderId = rival.senderId → index = other
  own_context : ∀ index pipeline, dispatch.pipelines.get? index = some pipeline →
      ∀ entry ∈ pipeline.transcript,
        (∃ state, entry.event = .transition state) ∨ entry.event = .clear →
          entry.target = none ∨ entry.target = some pipeline.session

theorem Owned.ownsSessions {dispatch : Dispatch} (howned : dispatch.Owned) :
    dispatch.OwnsSessions where
  one_running := fun index other pipeline rival hget hrival hrunning hrivalRunning =>
    howned.unique index other pipeline rival hget hrival (.inl hrunning) (.inl hrivalRunning)
  own_context := fun index pipeline hget entry hmem _ =>
    howned.targets index pipeline hget entry hmem

instance (pipeline : Pipeline) : Decidable pipeline.Running :=
  inferInstanceAs (Decidable (pipeline.wrapper ≠ .settled ∧ pipeline.body ≠ .returned))

instance (pipeline : Pipeline) : Decidable pipeline.Engaged :=
  inferInstanceAs (Decidable (pipeline.Running ∨ pipeline.body.ended = false))

instance (dispatch : Dispatch) : ∀ action, Decidable (dispatch.Undisturbed action)
  | .push item =>
    decidable_of_iff (∀ pipeline ∈ dispatch.pipelines.cells, pipeline.Engaged →
        pipeline.senderId ≠ senderKey item.event)
      (by simp [Undisturbed, Arena.forall_mem_cells])
  | .append _ | .tick _ | .timerFired _ | .flushAll | .cleanupIdle
    | .resume _ _ | .timeOut _ | .settle _ | .apologised _ =>
      isTrue (by simp [Undisturbed])

end Dispatch

namespace Service

theorem sound_of_undisturbed {env : ServiceEnv}
    {processed : InsertionSet JsString} {actions : List Action}
    {final : Service}
    (hfree : Guarded (step env) (Through env Dispatch.Undisturbed) (boot processed) actions)
    (hrun : run (step env) (boot processed) actions = some final) :
    final.dispatch.Wrapped ∧ final.dispatch.Sound :=
  (projects env).run_guarded_invariant (fun dispatch => dispatch.Wrapped ∧ dispatch.Sound)
    (fun hinv hguard hstep => ⟨wrapped_step hinv.1 hstep, hinv.2.step hinv.1 hguard hstep⟩)
    ⟨initial_wrapped, initial_sound⟩ hfree hrun

/-- In a run that pushes no message while a pipeline of its sender is engaged,
every pipeline owns its session. -/
theorem sessions_owned {env : ServiceEnv}
    {processed : InsertionSet JsString} {actions : List Action}
    {final : Service}
    (hfree : Guarded (step env) (Through env Dispatch.Undisturbed) (boot processed) actions)
    (hrun : run (step env) (boot processed) actions = some final) :
    final.dispatch.OwnsSessions :=
  (sound_of_undisturbed hfree hrun).2.1.ownsSessions

def lateAnswer : List Action :=
  [.deliver (textMessage (js "m1") (js "oc_direct") .p2p (js "hi")),
    .parsed 0 [], .userRecorded 0 none, .tick 60000, .timeOut 0,
    .resume 0 (.decided ⟨false, .chat, .casual⟩),
    .deliver (textMessage (js "m2") (js "oc_direct") .p2p (js "hello?")),
    .parsed 1 [], .userRecorded 1 none]

theorem sessions_owned_late_answer : ∃ final,
    run (step (plainEnv false)) (boot .empty) lateAnswer = some final ∧
      final.dispatch.OwnsSessions := by
  have hguarded : Guarded (step (plainEnv false))
      (Through (plainEnv false) Dispatch.Undisturbed) (boot .empty)
      lateAnswer := by decide
  refine Exists.imp (fun final hrun =>
    ⟨hrun, sessions_owned hguarded hrun⟩) (Option.isSome_iff_exists.mp ?_)
  rfl

/-- The next message arrives before the late pipeline has ended, which then
clears the context of the next pipeline. -/
theorem session_cleared_by_another : ∃ final, run (step (plainEnv false)) (boot .empty)
        [.deliver (textMessage (js "m1") (js "oc_direct") .p2p (js "hi")),
          .parsed 0 [], .userRecorded 0 none, .tick 60000, .timeOut 0,
          .deliver (textMessage (js "m2") (js "oc_direct") .p2p (js "?")),
          .parsed 1 [], .userRecorded 1 none,
          .resume 0 (.decided ⟨false, .chat, .casual⟩)] = some final ∧
      ¬ final.dispatch.OwnsSessions := by
  apply exists_of_view (by rfl : Option.map (fun final =>
      (final.dispatch.pipelines.get? 0).map fun pipeline =>
        (pipeline.session, pipeline.transcript.getLast?.map
          fun entry => (entry.event, entry.target))) _ = some (some (0, some (.clear, some 1))))
  intro final hview _ howns
  simp only [Option.map_eq_some_iff, Prod.mk.injEq] at hview
  obtain ⟨pipeline, hget, hsession, entry, hlast, hclear, htarget⟩ := hview
  have hown := howns.own_context 0 pipeline hget entry (List.mem_of_getLast? hlast) (.inr hclear)
  simp [htarget, hsession] at hown

end Service

end LittleBaby.Feishu
