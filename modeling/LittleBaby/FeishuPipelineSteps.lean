import LittleBaby.FeishuPipeline

/-!
# The steps of a pipeline body

The inversion of `Body.resume`: one constructor for each place at which the
body can be resumed, with the events it performs.
-/

namespace LittleBaby.Feishu

open SessionContext PipelineEvent

namespace Body

inductive ReplySource (context : SessionContext) :
    Body → Answer → GenerateReplyResult → List PipelineEvent → Prop
  | first (turn : Option ℕ) (reply : GenerateReplyResult) (written : Bool)
      (hpending : ¬ (context.pendingItems ≠ [] ∧ context.retryCount < 1)) :
      ReplySource context (.finishing turn reply) (.turnFinished written) reply
        (finishAiTurn turn written .success reply.toolRounds ++ [.transition .validating])
  | second (turn : Option ℕ) (reply : GenerateReplyResult) (written : Bool) :
      ReplySource context (.refinishing turn reply) (.turnFinished written)
        reply (finishAiTurn turn written .success reply.toolRounds)
  | fallback (turn : Option ℕ) (reply : GenerateReplyResult) (written : Bool) :
      ReplySource context (.refailing turn reply) (.turnFinished written)
        reply (finishAiTurn turn written .failed 0)

inductive Step (env : ServiceEnv) (aggregated : AggregatedMessage)
    (context : SessionContext) :
    Body → Answer → Body → List PipelineEvent → Prop
  | noReply (decision : RoutingDecision) (hreply : decision.shouldReply = false) :
      Step env aggregated context .deciding (.decided decision) .returned
        [.transition .idle, .clear]
  | chat (decision : RoutingDecision) (hreply : decision.shouldReply = true)
      (hintent : decision.intent = .chat) :
      Step env aggregated context .deciding (.decided decision) .chatting
        [.setTone decision.tone, .transition .chatting]
  | startTurn (decision : RoutingDecision) (hreply : decision.shouldReply = true)
      (hintent : decision.intent ≠ .chat)
      (href : aggregated.firstItem.dbRef.isSome = true) :
      Step env aggregated context .deciding (.decided decision) .startingTurn
        [.setTone decision.tone, .transition .processing]
  | skipTurn (decision : RoutingDecision) (hreply : decision.shouldReply = true)
      (hintent : decision.intent ≠ .chat)
      (href : aggregated.firstItem.dbRef.isSome = false) :
      Step env aggregated context .deciding (.decided decision) (.generating none)
        [.setTone decision.tone, .transition .processing, .callGenerateReply []]
  | chatFailed (error : Thrown) :
      Step env aggregated context .chatting (.chatAnswered (.error error)) (.threw error) []
  | chatSending (text chunk : JsString) (rest : List JsString)
      (hchunks : chunkReply text env.account.config = some (chunk :: rest)) :
      Step env aggregated context .chatting (.chatAnswered (.ok text))
        (.sending .chat text chunk rest) [.sendChunk chunk true]
  | chatEmpty (text : JsString) (hchunks : chunkReply text env.account.config = some []) :
      Step env aggregated context .chatting (.chatAnswered (.ok text))
        .returned [.addHistory text, .transition .idle, .clear]
  | turnStarted (turn : Option ℕ) (hturn : turn ≠ some 0) :
      Step env aggregated context .startingTurn (.turnStarted turn) (.generating turn)
        (turn.toList.map .turnStarted ++ [.callGenerateReply []])
  | generated (turn : Option ℕ) (reply : GenerateReplyResult) :
      Step env aggregated context (.generating turn) (.generated (.ok reply))
        (.finishing turn reply) [.generated (.ok reply)]
  | generateFailed (turn : Option ℕ) (error : Thrown) :
      Step env aggregated context (.generating turn)
        (.generated (.error error)) (.failing turn error)
        [.generated (.error error)]
  | retry (turn : Option ℕ) (reply : GenerateReplyResult) (written : Bool)
      (hpending : context.pendingItems ≠ [])
      (hretry : context.retryCount < 1) :
      Step env aggregated context (.finishing turn reply)
        (.turnFinished written) (.regenerating turn reply)
        (finishAiTurn turn written .success reply.toolRounds ++
          [.transition .validating, .takePending, .transition .processing,
            .callGenerateReply context.pendingItems])
  | failed (turn : Option ℕ) (error : Thrown) (written : Bool) :
      Step env aggregated context (.failing turn error) (.turnFinished written) (.threw error)
        (finishAiTurn turn written .failed 0)
  | regenerated (turn : Option ℕ) (first reply : GenerateReplyResult) :
      Step env aggregated context (.regenerating turn first)
        (.generated (.ok reply)) (.refinishing turn reply)
        [.generated (.ok reply)]
  | regenerateFailed (turn : Option ℕ) (reply : GenerateReplyResult) (error : Thrown) :
      Step env aggregated context (.regenerating turn reply)
        (.generated (.error error)) (.refailing turn reply)
        [.generated (.error error)]
  | reply {body : Body} {answer : Answer} (reply : GenerateReplyResult)
      (before : List PipelineEvent) (chunk : JsString) (rest : List JsString)
      (hsource : ReplySource context body answer reply before)
      (hchunks : chunkReply reply.text env.account.config = some (chunk :: rest)) :
      Step env aggregated context body answer (.sending .deep reply.text chunk rest)
        (before ++ [.transition .sending, .sendReply reply] ++ [.sendChunk chunk true])
  | chunkSent (path : ReplyPath) (text chunk : JsString) (rest : List JsString) :
      Step env aggregated context (.sending path text chunk rest)
        (.chunkSent (.ok ())) (.sleeping path text rest) [.chunkSent chunk]
  | sendFailed (path : ReplyPath) (text chunk : JsString) (rest : List JsString) (error : Thrown) :
      Step env aggregated context (.sending path text chunk rest)
        (.chunkSent (.error error)) (.threw error) [.sendFailed error]
  | nextChunk (path : ReplyPath) (text chunk : JsString) (rest : List JsString) :
      Step env aggregated context (.sleeping path text (chunk :: rest)) .slept
        (.sending path text chunk rest) [.sendChunk chunk false]
  | chatSent (text : JsString) :
      Step env aggregated context (.sleeping .chat text []) .slept .returned
        [.addHistory text, .transition .idle, .clear]
  | deepSent (text : JsString) : Step env aggregated context (.sleeping .deep text []) .slept
        (.recordingAssistant text) []
  | inserted (text : JsString) (hmemory : env.memory = true) :
      Step env aggregated context (.recordingAssistant text)
        .assistantInserted (.recordedAssistant text) [.insertAssistant text]
  | notInserted (text : JsString) : Step env aggregated context (.recordingAssistant text)
        .assistantRecorded .returned
        [.addHistory text, .transition .idle, .clear]
  | recorded (text : JsString) : Step env aggregated context (.recordedAssistant text)
        .assistantRecorded .returned
        [.addHistory text, .transition .idle, .clear]

section Inversion

variable {env : ServiceEnv} {aggregated : AggregatedMessage}
  {context : SessionContext} {body next : Body} {answer : Answer}
  {events : List PipelineEvent}

theorem sendChunks_eq_some {path : ReplyPath} {text : JsString}
    (hsend : sendChunks env path text = some (next, events)) :
    (∃ chunk rest, chunkReply text env.account.config = some (chunk :: rest) ∧
        next = .sending path text chunk rest ∧
        events = [.sendChunk chunk true]) ∨
      chunkReply text env.account.config = some [] ∧ (next, events) = afterChunks path text := by
  simp only [sendChunks, Option.map_eq_some_iff] at hsend
  obtain ⟨chunks, hchunks, heq⟩ := hsend
  cases chunks with
  | nil => exact .inr ⟨hchunks, heq.symm⟩
  | cons chunk rest =>
    simp at heq
    exact .inl ⟨chunk, rest, hchunks, heq.1.symm, heq.2.symm⟩

theorem sendReply_step {reply : GenerateReplyResult} {before : List PipelineEvent}
    (hsource : ReplySource context body answer reply before)
    (hsend : sendReply env reply before = some (next, events)) :
    Step env aggregated context body answer next events := by
  simp only [sendReply, Option.map_eq_some_iff] at hsend
  obtain ⟨⟨sent, sentEvents⟩, hchunks, heq⟩ := hsend
  obtain ⟨rfl, rfl⟩ := heq
  rcases sendChunks_eq_some hchunks with
    ⟨chunk, rest, hsome, rfl, rfl⟩ | ⟨hnone, -⟩
  · exact Step.reply reply before chunk rest hsource hsome
  · exact absurd rfl (chunkReply_ne_nil reply.nonblank hnone)

theorem route_step (env : ServiceEnv) (aggregated : AggregatedMessage)
    (context : SessionContext) (decision : RoutingDecision) :
    Step env aggregated context .deciding (.decided decision)
      (route aggregated decision).1 (route aggregated decision).2 := by
  unfold route
  cases hreply : decision.shouldReply with
  | false => exact Step.noReply decision hreply
  | true =>
    by_cases hintent : decision.intent = .chat
    · simpa [hintent] using Step.chat decision hreply hintent
    · cases href : aggregated.firstItem.dbRef.isSome with
      | true =>
        simpa [hintent] using Step.startTurn decision hreply hintent href
      | false =>
        simpa [hintent, generate] using Step.skipTurn decision hreply hintent href

theorem validate_step {turn : Option ℕ} {reply : GenerateReplyResult} {written : Bool}
    (hvalidate : validate env context turn reply
      (finishAiTurn turn written .success reply.toolRounds) = some (next, events)) :
    Step env aggregated context (.finishing turn reply) (.turnFinished written) next events := by
  unfold validate at hvalidate
  split_ifs at hvalidate with hpending
  · simp only [Option.some.injEq, Prod.mk.injEq] at hvalidate
    obtain ⟨rfl, rfl⟩ := hvalidate
    exact Step.retry turn reply written hpending.1 hpending.2
  · exact sendReply_step (ReplySource.first turn reply written hpending) hvalidate

theorem step_of_resume (hresume : resume env aggregated context body answer = some (next, events)) :
    Step env aggregated context body answer next events := by
  unfold resume at hresume
  split at hresume
  case h_1 decision =>
      rw [Option.some.injEq] at hresume
      simpa [hresume] using route_step env aggregated context decision
  case h_2 text =>
      rcases sendChunks_eq_some hresume with
        ⟨chunk, rest, hchunks, rfl, rfl⟩ | ⟨hchunks, heq⟩
      · exact Step.chatSending text chunk rest hchunks
      · simp only [afterChunks, Prod.mk.injEq] at heq
        obtain ⟨rfl, rfl⟩ := heq
        exact Step.chatEmpty text hchunks
  case h_4 turn =>
      split_ifs at hresume with hturn
      obtain ⟨rfl, rfl⟩ := hresume
      exact Step.turnStarted turn hturn
  case h_7 => exact validate_step hresume
  case h_11 turn reply written =>
      exact sendReply_step (ReplySource.second turn reply written) hresume
  case h_12 turn reply written =>
      exact sendReply_step (ReplySource.fallback turn reply written) hresume
  case h_16 path text =>
      simp only [Option.some.injEq] at hresume
      cases path <;> simp only [afterChunks, Prod.mk.injEq] at hresume <;>
        obtain ⟨rfl, rfl⟩ := hresume
      · exact Step.chatSent text
      · exact Step.deepSent text
  case h_17 text =>
      split_ifs at hresume with hmemory
      obtain ⟨rfl, rfl⟩ := hresume
      exact Step.inserted text hmemory
  all_goals
    simp only [complete, Option.some.injEq, Prod.mk.injEq, reduceCtorEq] at hresume
  all_goals
    obtain ⟨rfl, rfl⟩ := hresume
    constructor

end Inversion

end Body

def ClearsLast : List PipelineEvent → Prop
  | [] => True
  | event :: rest => (event = .clear → rest = []) ∧ ClearsLast rest

def PipelineEvent.detached : PipelineEvent → Bool
  | .transition _ | .clear | .setTone _ | .takePending => false
  | _ => true

theorem ClearsLast.append {before after : List PipelineEvent}
    (hbefore : ∀ event ∈ before, event ≠ .clear)
    (hafter : ClearsLast after) : ClearsLast (before ++ after) := by
  induction before with
  | nil => exact hafter
  | cons event rest ih =>
    refine ⟨fun hclear => ?_, ih fun other hmem => ?_⟩
    · exact absurd hclear (hbefore event List.mem_cons_self)
    · exact hbefore other (List.mem_cons_of_mem _ hmem)

theorem SessionContext.foldl_perform_detached (now : ℕ)
    (context : SessionContext) {events : List PipelineEvent}
    (hdetached : ∀ event ∈ events, event.detached = true) :
    events.foldl (perform now) context = context := by
  induction events with
  | nil => rfl
  | cons event rest ih =>
    have hsame : context.perform now event = context := by
      have hevent := hdetached event List.mem_cons_self
      cases event <;> first | rfl | simp [detached] at hevent
    rw [List.foldl_cons, hsame]
    exact ih fun other hmem => hdetached other (List.mem_cons_of_mem _ hmem)

theorem Body.finishAiTurn_detached {turn : Option ℕ} {written : Bool}
    {status : TurnStatus} {toolRounds : ℕ} :
    ∀ event ∈ Body.finishAiTurn turn written status toolRounds, event.detached = true := by
  unfold Body.finishAiTurn
  split <;> simp [detached]

theorem PipelineEvent.ne_clear_of_detached {event : PipelineEvent}
    (hdetached : event.detached = true) : event ≠ .clear := by
  rintro rfl
  simp [detached] at hdetached

namespace Body

variable {env : ServiceEnv} {aggregated : AggregatedMessage}
  {context : SessionContext} {body next : Body} {answer : Answer}
  {events : List PipelineEvent}

theorem Step.not_ended (hstep : Step env aggregated context body answer next events) :
    body.ended = false := by
  cases hstep with
  | reply reply before chunk rest hsource hchunks =>
    cases hsource <;> rfl
  | _ => rfl

theorem ReplySource.ne_clear {reply : GenerateReplyResult}
    (hsource : ReplySource context body answer reply events) :
    ∀ event ∈ events, event ≠ .clear := by
  intro event hmem
  cases hsource with
  | first turn written hpending =>
    rcases List.mem_append.mp hmem with hmem | hmem
    · exact ne_clear_of_detached (finishAiTurn_detached event hmem)
    · rw [List.mem_singleton.mp hmem]
      simp
  | second turn written | fallback turn written =>
    exact ne_clear_of_detached (finishAiTurn_detached event hmem)

theorem Step.clearsLast (hstep : Step env aggregated context body answer next events) :
    ClearsLast events := by
  have hwrites : ∀ turn written status rounds, ∀ event ∈
      finishAiTurn turn written status rounds, event ≠ .clear :=
    fun _ _ _ _ event hmem => ne_clear_of_detached (finishAiTurn_detached event hmem)
  cases hstep with
  | reply reply before chunk rest hsource hchunks =>
    rw [List.append_assoc]
    exact ClearsLast.append hsource.ne_clear (by simp [ClearsLast])
  | retry turn reply written hpending hretry =>
    exact ClearsLast.append (hwrites _ _ _ _) (by simp [ClearsLast])
  | failed turn error written =>
    rw [← List.append_nil (finishAiTurn turn written .failed 0)]
    exact ClearsLast.append (hwrites _ _ _ _) trivial
  | turnStarted turn hturn => cases turn <;> simp [ClearsLast]
  | _ => simp [ClearsLast]

theorem Step.clear_mem_iff (hstep : Step env aggregated context body answer next events) :
    .clear ∈ events ↔ next = .returned := by
  have hwrites : ∀ {turn written status rounds}, clear ∉
      finishAiTurn turn written status rounds := fun hmem =>
    ne_clear_of_detached (finishAiTurn_detached _ hmem) rfl
  cases hstep with
  | reply reply before chunk rest hsource hchunks =>
    have hbefore : clear ∉ before := fun hmem =>
      hsource.ne_clear _ hmem rfl
    simp [hbefore]
  | retry | failed => simp [hwrites]
  | turnStarted turn hturn => cases turn <;> simp
  | _ => simp

theorem Step.active (now : ℕ) (hstep : Step env aggregated context body answer next events)
    (hnext : next ≠ .returned) {own : SessionContext}
    (hactive : own.state.active = true) :
    (events.foldl (perform now) own).state.active = true := by
  have hwrites : ∀ turn written status rounds, (finishAiTurn turn written status rounds).foldl
        (perform now) own = own :=
    fun _ _ _ _ => foldl_perform_detached now own finishAiTurn_detached
  cases hstep with
  | noReply | chatEmpty | chatSent | notInserted | recorded =>
    exact absurd rfl hnext
  | reply reply before chunk rest hsource hchunks | retry turn reply written hpending hretry =>
    simp [List.foldl_append, perform, SessionState.active]
  | failed turn error written =>
    rw [hwrites]
    exact hactive
  | turnStarted turn hturn =>
    cases turn <;> simpa [perform] using hactive
  | chat | startTurn | skipTurn =>
    simp [perform, SessionState.active]
  | chatFailed | chatSending | generated | generateFailed | regenerated
    | regenerateFailed | chunkSent | sendFailed | nextChunk | deepSent
    | inserted => simpa [perform] using hactive

theorem Step.extraMessages (hstep : Step env aggregated context body answer next events)
    {extra : List AggregatedMessageItem}
    (hmem : .callGenerateReply extra ∈ events) :
    extra = [] ∨ extra = context.pendingItems := by
  have hwrites : ∀ turn written status rounds, callGenerateReply extra ∉
        finishAiTurn turn written status rounds := by
    intro turn written status rounds
    unfold finishAiTurn
    split <;> simp
  cases hstep with
  | skipTurn =>
    left
    simpa using hmem
  | turnStarted turn hturn =>
    left
    cases turn <;> simpa using hmem
  | retry turn reply written hpending hretry =>
    right
    simpa [hwrites] using hmem
  | failed turn error written => exact absurd hmem (hwrites _ _ _ _)
  | reply reply before chunk rest hsource hchunks =>
    cases hsource <;> simp [hwrites] at hmem
  | _ => simp at hmem

end Body

end LittleBaby.Feishu
