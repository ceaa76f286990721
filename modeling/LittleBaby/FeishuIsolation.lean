import LittleBaby.FeishuPipelineRuns
import LittleBaby.FeishuService

/-!
# Isolation of conversations

Buffers and session contexts are filed under the sender alone, while replies,
history and database rows go to the session key of a message.
-/

namespace LittleBaby.Feishu

open LabelledMachine JsString MessageAggregator SessionManager Arena SessionManager.Shrinks Dispatch

def AggregatedMessageItem.conversation (env : ServiceEnv)
    (item : AggregatedMessageItem) : JsString :=
  sessionKeyFor item.event env.account.accountId

/-- Everything the pipeline was given comes from the conversation it answers
in: the items of its batch, and the items of every `extraContext`. -/
structure Pipeline.Isolated (env : ServiceEnv) (pipeline : Pipeline) :
    Prop where
  items : ∀ item ∈ pipeline.aggregated.items, item.conversation env = pipeline.aggregated.sessionKey
  extraMessages : ∀ entry ∈ pipeline.transcript, ∀ extra, entry.event = .callGenerateReply extra →
      ∀ item ∈ extra, item.conversation env = pipeline.aggregated.sessionKey

namespace Dispatch

variable (env : ServiceEnv)

def InSession (dispatch : Dispatch) (item : AggregatedMessageItem) : Prop :=
  ∀ session context, dispatch.sessions.sessions.get? (senderKey item.event) = some session →
      dispatch.sessions.contexts.get? session = some context →
        context.sessionKey = item.conversation env

/-- A message is handed over only in the conversation that its sender has a
buffered batch or a registered session of, if there is one. -/
def SameConversation (dispatch : Dispatch) : Action → Prop
  | .push item => dispatch.InSession env item ∧
      ∀ aggregated, dispatch.aggregator.buffers.get? (senderKey item.event) = some aggregated →
          aggregated.sessionKey = item.conversation env
  | .append item => dispatch.InSession env item
  | _ => True

structure Isolated (env : ServiceEnv) (dispatch : Dispatch) : Prop where
  wellFormed : dispatch.aggregator.WellFormed
  buffers : ∀ key aggregated, dispatch.aggregator.buffers.get? key = some aggregated →
      ∀ item ∈ aggregated.items, item.conversation env = aggregated.sessionKey
  contexts : ∀ session context, dispatch.sessions.contexts.get? session = some context →
      ∀ item ∈ context.pendingItems, item.conversation env = context.sessionKey
  registered : ∀ senderId session, dispatch.sessions.sessions.get? senderId = some session →
      ∃ context, dispatch.sessions.contexts.get? session = some context
  agree : ∀ key aggregated session context, dispatch.aggregator.buffers.get? key = some aggregated →
      dispatch.sessions.sessions.get? key = some session →
        dispatch.sessions.contexts.get? session = some context →
          context.sessionKey = aggregated.sessionKey
  sessions : ∀ index pipeline, dispatch.pipelines.get? index = some pipeline → ∃ context,
        dispatch.sessions.contexts.get? pipeline.session = some context ∧
          context.sessionKey = pipeline.aggregated.sessionKey
  pipelines : ∀ index pipeline,
    dispatch.pipelines.get? index = some pipeline → pipeline.Isolated env

theorem initial_isolated : initial.Isolated env where
  wellFormed := MessageAggregator.empty_wellFormed
  buffers := by simp [initial, MessageAggregator.empty]
  contexts := by simp [initial, SessionManager.empty]
  registered := by simp [initial, SessionManager.empty]
  agree := by simp [initial, MessageAggregator.empty]
  sessions := by simp [initial]
  pipelines := by simp [initial]

namespace Isolated

variable {env : ServiceEnv} {dispatch : Dispatch}

section

variable (hisolated : dispatch.Isolated env)

include hisolated

theorem shrink {sessions : SessionManager}
    (hshrinks : SessionManager.Shrinks dispatch.sessions sessions) :
    { dispatch with sessions := sessions }.Isolated env :=
  { hisolated with
    contexts := by
      intro session context hget item hmem
      obtain ⟨old, hold, hkey, hsub⟩ := hshrinks.contexts session context hget
      rw [hkey]
      exact hisolated.contexts session old hold item (hsub hmem)
    registered := by
      intro senderId session hget
      obtain ⟨context, hcontext⟩ := hisolated.registered senderId session
        (hshrinks.sessions senderId session hget)
      obtain ⟨changed, hchanged, -⟩ := hshrinks.kept session context hcontext
      exact ⟨changed, hchanged⟩
    agree := by
      intro key aggregated session context hbuffer hsession hcontext
      obtain ⟨old, hold, hkey, -⟩ := hshrinks.contexts session context hcontext
      rw [hkey]
      exact hisolated.agree key aggregated session old hbuffer
        (hshrinks.sessions key session hsession) hold
    sessions := by
      intro index pipeline hget
      obtain ⟨context, hcontext, hkey⟩ := hisolated.sessions index pipeline hget
      obtain ⟨changed, hchanged, hkey'⟩ := hshrinks.kept pipeline.session context hcontext
      exact ⟨changed, hchanged, hkey'.trans hkey⟩ }

variable {index : ℕ} {pipeline changed : Pipeline}

theorem put {index : ℕ} {pipeline changed : Pipeline}
    (hget : dispatch.pipelines.get? index = some pipeline)
    (haggregated : changed.aggregated = pipeline.aggregated)
    (hsession : changed.session = pipeline.session)
    (hchanged : changed.Isolated env) :
    { dispatch with
      pipelines := dispatch.pipelines.put index changed }.Isolated env :=
  { hisolated with
    sessions := by
      intro other found hfound
      rcases (get?_put_eq_some hget).mp hfound with
        ⟨-, rfl⟩ | ⟨-, hold⟩
      · rw [hsession, haggregated]
        exact hisolated.sessions index pipeline hget
      · exact hisolated.sessions other found hold
    pipelines := by
      intro other found hfound
      rcases (get?_put_eq_some hget).mp hfound with
        ⟨-, rfl⟩ | ⟨-, hold⟩
      · exact hchanged
      · exact hisolated.pipelines other found hold }

theorem carryOut {events : List PipelineEvent}
    (hget : dispatch.pipelines.get? index = some pipeline)
    (haggregated : changed.aggregated = pipeline.aggregated)
    (hsession : changed.session = pipeline.session)
    (htranscript : changed.transcript = pipeline.transcript)
    (hextra : ∀ extra, .callGenerateReply extra ∈ events → ∀ item ∈ extra,
        item.conversation env = pipeline.aggregated.sessionKey) :
    (dispatch.carryOut index changed events).Isolated env := by
  have hshrunk := hisolated.shrink (performAll
    dispatch.sessions changed.senderId changed.session dispatch.now events)
  have hold := hisolated.pipelines index pipeline hget
  refine hshrunk.put hget haggregated hsession ⟨?_, ?_⟩
  · rw [haggregated]
    exact hold.items
  · intro entry hmem extra hevent
    rw [haggregated]
    rcases List.mem_append.mp hmem with hmem | hmem
    · rw [htranscript] at hmem
      exact hold.extraMessages entry hmem extra hevent
    · refine hextra extra ?_
      rw [← hevent]
      exact event_mem_of_mem_performAll hmem

theorem settled : dispatch.settled.Isolated env := { hisolated with }

theorem start {aggregated : AggregatedMessage} {session : ℕ} {context : SessionContext}
    (target : Option ℕ)
    (hcontext : dispatch.sessions.contexts.get? session = some context)
    (hkey : context.sessionKey = aggregated.sessionKey)
    (hitems : ∀ item ∈ aggregated.items, item.conversation env = aggregated.sessionKey) :
    { dispatch with
      pipelines := dispatch.pipelines.push
        (.started aggregated session dispatch.now target) }.Isolated env :=
  { hisolated with
    sessions := by
      intro index pipeline hget
      rcases get?_push_eq_some.mp hget with ⟨-, rfl⟩ | hold
      · exact ⟨context, hcontext, hkey⟩
      · exact hisolated.sessions index pipeline hold
    pipelines := by
      intro index pipeline hget
      rcases get?_push_eq_some.mp hget with ⟨-, rfl⟩ | hold
      · refine ⟨hitems, fun entry hmem extra hevent => ?_⟩
        simp only [Pipeline.started, List.mem_singleton] at hmem
        simp [hmem] at hevent
      · exact hisolated.pipelines index pipeline hold }

theorem create (aggregated : AggregatedMessage)
    (hbuffer : dispatch.aggregator.buffers.get? aggregated.senderId = none) :
    { dispatch with
      sessions :=
        { contexts := dispatch.sessions.contexts.push (created aggregated dispatch.now)
          sessions := dispatch.sessions.sessions.set aggregated.senderId
            dispatch.sessions.contexts.size } }.Isolated env :=
  { hisolated with
    contexts := by
      intro session context hget
      rcases get?_push_eq_some.mp hget with ⟨-, rfl⟩ | hold
      · simp [created]
      · exact hisolated.contexts session context hold
    registered := by
      intro senderId session hget
      simp only [InsertionMap.get?_set] at hget
      split_ifs at hget with hsender
      · rw [← Option.some.inj hget]
        exact ⟨_, get?_push_size _⟩
      · obtain ⟨context, hcontext⟩ := hisolated.registered senderId session hget
        exact ⟨context, get?_push_of_get? _ hcontext⟩
    agree := by
      intro key buffered session context hbuffered hsession hcontext
      simp only [InsertionMap.get?_set] at hsession
      split_ifs at hsession with hsender
      · rw [hsender, hbuffer] at hbuffered
        exact absurd hbuffered (by simp)
      · obtain ⟨old, hold⟩ := hisolated.registered key session hsession
        have hsame := get?_push_of_get? (created aggregated dispatch.now) hold
        rw [hcontext] at hsame
        rw [Option.some.inj hsame]
        exact hisolated.agree key buffered session old hbuffered hsession hold
    sessions := by
      intro index pipeline hget
      obtain ⟨context, hcontext, hkey⟩ := hisolated.sessions index pipeline hget
      exact ⟨context, get?_push_of_get? _ hcontext, hkey⟩ }

theorem submit {aggregated : AggregatedMessage}
    (hbuffer : dispatch.aggregator.buffers.get? aggregated.senderId = none)
    (hitems : ∀ item ∈ aggregated.items, item.conversation env = aggregated.sessionKey)
    (hagree : ∀ session context,
      dispatch.sessions.sessions.get? aggregated.senderId = some session →
        dispatch.sessions.contexts.get? session = some context →
          context.sessionKey = aggregated.sessionKey) :
    (dispatch.submit aggregated).Isolated env := by
  cases hsession : dispatch.sessions.sessions.get? aggregated.senderId with
  | some session =>
    obtain ⟨context, hcontext⟩ := hisolated.registered _ _ hsession
    have hshrinks := SessionManager.Shrinks.transition dispatch.sessions
      aggregated.senderId .routing dispatch.now
    obtain ⟨changed, hchanged, hkey⟩ := hshrinks.kept session context hcontext
    have hstarted := (hisolated.shrink hshrinks).start (some session) hchanged
      (hkey.trans (hagree session context hsession hcontext)) hitems
    have hobtained : dispatch.sessions.getOrCreate aggregated dispatch.now =
        (dispatch.sessions, session) := by
      simp [SessionManager.getOrCreate, hsession]
    simp only [Dispatch.submit, hobtained, hsession]
    exact { hstarted with }
  | none =>
    have hcreated := hisolated.create aggregated hbuffer
    have hshrinks := SessionManager.Shrinks.transition
      { contexts := dispatch.sessions.contexts.push (SessionManager.created aggregated dispatch.now)
        sessions := dispatch.sessions.sessions.set aggregated.senderId
          dispatch.sessions.contexts.size }
      aggregated.senderId .routing dispatch.now
    obtain ⟨changed, hchanged, hkey⟩ := hshrinks.kept
      dispatch.sessions.contexts.size _ (Arena.get?_push_size _)
    have hstarted := (hcreated.shrink hshrinks).start
      (some dispatch.sessions.contexts.size) hchanged hkey hitems
    simp only [Dispatch.submit, getOrCreate_of_none hsession, InsertionMap.get?_set_self]
    exact { hstarted with }

theorem deliver (key : JsString) {result : MessageAggregator × Option AggregatedMessage}
    (hwell : result.1.WellFormed)
    (hothers : ∀ other, other ≠ key → result.1.buffers.get? other =
      dispatch.aggregator.buffers.get? other)
    (hkey : ∀ aggregated, result.1.buffers.get? key = some aggregated ∨ result.2 = some aggregated →
      (∀ item ∈ aggregated.items, item.conversation env = aggregated.sessionKey) ∧
        ∀ session context, dispatch.sessions.sessions.get? key = some session →
            dispatch.sessions.contexts.get? session = some context →
              context.sessionKey = aggregated.sessionKey)
    (hbatch : ∀ aggregated, result.2 = some aggregated →
      aggregated.senderId = key ∧ result.1.buffers.get? key = none) :
    (dispatch.deliver result).Isolated env := by
  have hset : { dispatch with aggregator := result.1 }.Isolated env :=
    { hisolated with
      wellFormed := hwell
      buffers := by
        intro other aggregated hget
        by_cases hother : other = key
        · subst other
          exact (hkey aggregated (Or.inl hget)).1
        · rw [hothers other hother] at hget
          exact hisolated.buffers other aggregated hget
      agree := by
        intro other aggregated session context hget
        by_cases hother : other = key
        · subst other
          exact (hkey aggregated (Or.inl hget)).2 session context
        · rw [hothers other hother] at hget
          exact hisolated.agree other aggregated session context hget }
  unfold Dispatch.deliver
  cases hresult : result.2 with
  | none => exact hset
  | some aggregated =>
    obtain ⟨hsender, hnone⟩ := hbatch aggregated hresult
    obtain ⟨hitems, hagree⟩ := hkey aggregated (Or.inr hresult)
    rw [← hsender] at hnone hagree
    exact hset.submit hnone hitems hagree

theorem flush (key : JsString) : (dispatch.flush key).Isolated env := by
  refine hisolated.deliver key (hisolated.wellFormed.flush key) ?_ ?_ ?_
  · intro other hother
    rw [buffers_flush, if_neg hother]
  · intro aggregated hget
    rw [buffers_flush, if_pos rfl] at hget
    have hbuffer : dispatch.aggregator.buffers.get? key = some aggregated :=
      hget.resolve_left (by simp)
    exact ⟨hisolated.buffers key aggregated hbuffer,
      fun session context => hisolated.agree key aggregated session context hbuffer⟩
  · intro aggregated hsome
    refine ⟨hisolated.wellFormed.senderId key aggregated hsome, ?_⟩
    rw [buffers_flush, if_pos rfl]

variable {item : AggregatedMessageItem}

theorem batch (hbuffered : ∀ aggregated,
      dispatch.aggregator.buffers.get? (senderKey item.event) = some aggregated →
        aggregated.sessionKey = item.conversation env) :
    (dispatch.aggregator.batch env item).sessionKey = item.conversation env ∧
      ∀ other ∈ (dispatch.aggregator.batch env item).items,
        other.conversation env = item.conversation env := by
  constructor
  · unfold MessageAggregator.batch
    split
    case h_1 existing hbuffer => exact hbuffered existing hbuffer
    case h_2 => rfl
  · intro other hmem
    rcases MessageAggregator.mem_items_batch.mp hmem with
      rfl | ⟨existing, hbuffer, hmem⟩
    · rfl
    · rw [hisolated.buffers _ existing hbuffer other hmem]
      exact hbuffered existing hbuffer

theorem push (hsame : dispatch.SameConversation env (.push item)) :
    (dispatch.push env item).Isolated env := by
  obtain ⟨hsession, hbuffered⟩ := hsame
  obtain ⟨hbatchKey, hbatchItems⟩ := hisolated.batch hbuffered
  have hwell := hisolated.wellFormed
  have hbefore : { dispatch with
      accepted := dispatch.accepted ++ [item] }.Isolated env :=
    { hisolated with }
  have hgood : ∀ aggregated, aggregated = dispatch.aggregator.batch env item →
        (∀ other ∈ aggregated.items, other.conversation env = aggregated.sessionKey) ∧
          ∀ session context, dispatch.sessions.sessions.get? (senderKey item.event) = some session →
              dispatch.sessions.contexts.get? session = some context →
                context.sessionKey = aggregated.sessionKey := by
    rintro aggregated rfl
    rw [hbatchKey]
    exact ⟨hbatchItems, hsession⟩
  rcases push_cases env dispatch.now dispatch.aggregator
      item with ⟨hsome, hbuffers, -⟩ | ⟨hnone, hbuffers, -⟩
  · refine hbefore.deliver (senderKey item.event) (hwell.push item) ?_ ?_ ?_
    · intro other hother
      rw [hbuffers, if_neg hother]
    · rintro aggregated (hget | hget)
      · rw [hbuffers, if_pos rfl] at hget
        exact absurd hget (by simp)
      · rw [hsome] at hget
        exact hgood aggregated (Option.some.inj hget).symm
    · intro aggregated hget
      rw [hsome] at hget
      rw [← Option.some.inj hget, hbuffers, if_pos rfl]
      exact ⟨hwell.batch_senderId item, rfl⟩
  · refine hbefore.deliver (senderKey item.event) (hwell.push item) ?_ ?_ ?_
    · intro other hother
      rw [hbuffers, if_neg hother]
    · rintro aggregated (hget | hget)
      · rw [hbuffers, if_pos rfl] at hget
        exact hgood aggregated (Option.some.inj hget).symm
      · rw [hnone] at hget
        exact absurd hget (by simp)
    · intro aggregated hget
      rw [hnone] at hget
      exact absurd hget (by simp)

theorem append (hsame : dispatch.InSession env item) : (dispatch.append item).Isolated env := by
  have hcontexts : ∀ session context,
      (dispatch.append item).sessions.contexts.get? session = some context →
      ∃ old, dispatch.sessions.contexts.get? session = some old ∧
        context.sessionKey = old.sessionKey ∧
        (context.pendingItems = old.pendingItems ∨
          context.pendingItems = old.pendingItems ++ [item] ∧
            old.sessionKey = item.conversation env) := by
    intro session context hget
    simp only [Dispatch.append, SessionManager.contexts_appendItem] at hget
    split_ifs at hget with hsession
    · obtain ⟨old, hold, rfl⟩ := Option.map_eq_some_iff.mp hget
      exact ⟨old, hold, rfl, Or.inr ⟨rfl, hsame session old hsession hold⟩⟩
    · exact ⟨context, hget, rfl, Or.inl rfl⟩
  have hkept : ∀ session context, dispatch.sessions.contexts.get? session = some context →
      ∃ changed, (dispatch.append item).sessions.contexts.get? session =
          some changed ∧ changed.sessionKey = context.sessionKey := by
    intro session context hget
    simp only [Dispatch.append, SessionManager.contexts_appendItem, hget]
    split_ifs
    · exact ⟨_, rfl, rfl⟩
    · exact ⟨context, rfl, rfl⟩
  have hsessions : (dispatch.append item).sessions.sessions =
      dispatch.sessions.sessions := by
    simp [Dispatch.append]
  exact { hisolated with
    contexts := by
      intro session context hget other hmem
      obtain ⟨old, hold, hkey, hpending | ⟨hpending, hnew⟩⟩ := hcontexts session context hget
      · rw [hpending] at hmem
        rw [hkey]
        exact hisolated.contexts session old hold other hmem
      · rw [hpending, List.mem_append, List.mem_singleton] at hmem
        rw [hkey]
        rcases hmem with hmem | rfl
        · exact hisolated.contexts session old hold other hmem
        · exact hnew.symm
    registered := by
      intro senderId session hget
      rw [hsessions] at hget
      obtain ⟨context, hcontext⟩ := hisolated.registered senderId session hget
      obtain ⟨changed, hchanged, -⟩ := hkept session context hcontext
      exact ⟨changed, hchanged⟩
    agree := by
      intro key aggregated session context hbuffer hsession hcontext
      rw [hsessions] at hsession
      obtain ⟨old, hold, hkey, -⟩ := hcontexts session context hcontext
      rw [hkey]
      exact hisolated.agree key aggregated session old hbuffer hsession hold
    sessions := by
      intro index pipeline hget
      obtain ⟨context, hcontext, hkey⟩ := hisolated.sessions index pipeline hget
      obtain ⟨changed, hchanged, hkey'⟩ := hkept pipeline.session context hcontext
      exact ⟨changed, hchanged, hkey'.trans hkey⟩ }

theorem advance {events : List PipelineEvent} {settles : Bool} {change : PipelineAction}
    (hget : dispatch.pipelines.get? index = some pipeline)
    (hadvance : pipeline.Advance env dispatch.now
      (dispatch.sessions.contexts.get? pipeline.session) change changed events
      settles) :
    (dispatch.advanced index changed events settles).Isolated env := by
  obtain ⟨haggregated, hsession, htranscript⟩ := hadvance.kept
  have hcarried : (dispatch.carryOut index changed events).Isolated env := by
    refine hisolated.carryOut hget haggregated hsession htranscript fun extra hmem item hitem => ?_
    cases hadvance with
    | resume context answer body events hcontext hbody =>
      rcases hbody.extraMessages hmem with rfl | rfl
      · simp at hitem
      · obtain ⟨found, hfound, hkey⟩ := hisolated.sessions index pipeline hget
        rw [hcontext] at hfound
        rw [← hkey, ← Option.some.inj hfound]
        exact hisolated.contexts pipeline.session context hcontext item hitem
    | timeOut | returned | excuse | degrade => simp at hmem
  cases settles with
  | false => exact hcarried
  | true => exact hcarried.settled

theorem step {action : Action} {next : Dispatch} (hsame : dispatch.SameConversation env action)
    (hstep : Dispatch.step env dispatch action = some next) :
    next.Isolated env := by
  cases action with
  | tick ms =>
    rw [← Option.some.inj hstep]
    exact { hisolated with }
  | push item =>
    rw [← Option.some.inj hstep]
    exact hisolated.push hsame
  | append item =>
    rw [← Option.some.inj hstep]
    exact hisolated.append hsame
  | timerFired key =>
    simp only [Dispatch.step, Option.ite_none_right_eq_some, Option.some.injEq] at hstep
    rw [← hstep.2]
    exact hisolated.flush key
  | flushAll =>
    rw [← Option.some.inj hstep]
    exact List.foldlRecOn _ _ hisolated fun _ hbefore key _ => hbefore.flush key
  | cleanupIdle =>
    rw [← Option.some.inj hstep]
    exact hisolated.shrink (SessionManager.Shrinks.cleanupIdle dispatch.sessions dispatch.now)
  | resume index | timeOut index | settle index | apologised index =>
    obtain ⟨pipeline, changed, events, settles, hget, hadvance, rfl⟩ := advance_of_step rfl hstep
    exact hisolated.advance hget hadvance

end

end Isolated

instance (env : ServiceEnv) (dispatch : Dispatch) (item : AggregatedMessageItem) :
    Decidable (dispatch.InSession env item) :=
  decidable_of_iff (∀ session ∈ dispatch.sessions.sessions.get? (senderKey item.event),
      ∀ context ∈ dispatch.sessions.contexts.get? session,
        context.sessionKey = item.conversation env)
    (forall_congr' fun _ => forall_comm)

instance (env : ServiceEnv) (dispatch : Dispatch) :
    ∀ action, Decidable (dispatch.SameConversation env action)
  | .push item =>
    inferInstanceAs (Decidable (dispatch.InSession env item ∧ ∀ aggregated ∈
          dispatch.aggregator.buffers.get? (senderKey item.event),
        aggregated.sessionKey = item.conversation env))
  | .append item => inferInstanceAs (Decidable (dispatch.InSession env item))
  | .tick _ | .timerFired _ | .flushAll | .cleanupIdle | .resume _ _
    | .timeOut _ | .settle _ | .apologised _ => isTrue trivial

end Dispatch

namespace Service

/-- In a run that hands messages over only in the conversation their sender
is engaged in, every pipeline is given messages of its own conversation. -/
theorem conversations_isolated {env : ServiceEnv}
    {processed : InsertionSet JsString} {actions : List Action}
    {final : Service}
    (hsame : Guarded (step env)
      (Through env (Dispatch.SameConversation env)) (boot processed) actions)
    (hrun : run (step env) (boot processed) actions = some final)
    {index : ℕ} {pipeline : Pipeline}
    (hget : final.dispatch.pipelines.get? index = some pipeline) :
    pipeline.Isolated env := by
  have hisolated : final.dispatch.Isolated env :=
    (projects env).run_guarded_invariant (Dispatch.Isolated env)
      (fun hinv hguard hstep => hinv.step hguard hstep)
      (initial_isolated env) hsame hrun
  exact hisolated.pipelines index pipeline hget

/-- A user addresses the bot in a group, and writes to some chat while the
answer is generated; the answer is then generated once more. -/
def followUp (chatId : JsString) (chatType : ChatType) : List Action :=
  [.deliver (textMessage (js "m1") (js "oc_group") .group (js "小橘?")),
    .parsed 0 [], .userRecorded 0 none,
    .resume 0 (.decided ⟨true, .question, .casual⟩),
    .deliver (textMessage (js "m2") chatId chatType (js "password")),
    .parsed 1 [], .userRecorded 1 none,
    .resume 0 (.generated (.ok (plainReply 0))),
    .resume 0 (.turnFinished false)]

theorem conversations_isolated_same_group : ∃ final pipeline,
    run (step (plainEnv false)) (boot .empty) (followUp (js "oc_group") .group) = some final ∧
      final.dispatch.pipelines.get? 0 = some pipeline ∧
      pipeline.Isolated (plainEnv false) := by
  have hguarded : Guarded (step (plainEnv false)) (Through (plainEnv false)
        (Dispatch.SameConversation (plainEnv false))) (boot .empty)
      (followUp (js "oc_group") .group) := by decide
  have hview : ((run (step (plainEnv false)) (boot .empty)
      (followUp (js "oc_group") .group)).bind fun final =>
        final.dispatch.pipelines.get? 0).isSome = true := by rfl
  obtain ⟨pipeline, hpipeline⟩ := Option.isSome_iff_exists.mp hview
  obtain ⟨final, hrun, hget⟩ := Option.bind_eq_some_iff.mp hpipeline
  exact ⟨final, pipeline, hrun, hget, conversations_isolated hguarded hrun hget⟩

theorem conversations_mixed : ∃ final pipeline, run (step (plainEnv false)) (boot .empty)
        (followUp (js "oc_direct") .p2p) = some final ∧
      final.dispatch.pipelines.get? 0 = some pipeline ∧
      ¬ pipeline.Isolated (plainEnv false) := by
  have hview : ((run (step (plainEnv false)) (boot .empty)
      (followUp (js "oc_direct") .p2p)).bind fun final =>
        final.dispatch.pipelines.get? 0).map (fun pipeline =>
          (pipeline.aggregated.sessionKey, pipeline.transcript.flatMap fun entry =>
              match entry.event with
              | .callGenerateReply extra =>
                extra.map (AggregatedMessageItem.conversation (plainEnv false))
              | _ => [])) =
      some (js "feishu:main:group:oc_group", [js "feishu:main:dm:ou_user"]) := by rfl
  simp only [Option.map_eq_some_iff, Option.bind_eq_some_iff, Prod.mk.injEq] at hview
  obtain ⟨pipeline, ⟨final, hrun, hget⟩, hkey, hextra⟩ := hview
  refine ⟨final, pipeline, hrun, hget, fun hisolated => ?_⟩
  have hmem : js "feishu:main:dm:ou_user" ∈ pipeline.transcript.flatMap fun entry =>
        match entry.event with
        | .callGenerateReply extra =>
          extra.map (AggregatedMessageItem.conversation (plainEnv false))
        | _ => [] := by simp [hextra]
  obtain ⟨entry, hentry, hconversation⟩ := List.mem_flatMap.mp hmem
  split at hconversation
  case h_1 extra hevent =>
      obtain ⟨item, hitem, hdirect⟩ := List.mem_map.mp hconversation
      have hsame := hisolated.extraMessages entry hentry extra hevent item hitem
      rw [hdirect, hkey] at hsame
      exact absurd hsame (by decide)
  case h_2 => simp at hconversation

end Service

end LittleBaby.Feishu
