import LittleBaby.FeishuPipelineRuns
import LittleBaby.FeishuService

/-!
# Pipelines after their timeout

`withTimeout` rejects while the body of the pipeline goes on, and the count of
requests in flight does not follow the bodies.
-/

namespace LittleBaby.Feishu

open LabelledMachine JsString Performed Body Dispatch

/-- Whether others can see what was performed: a message, an entry of the
history, a row, or a change of a session. -/
def Performed.visible (entry : Performed) : Bool :=
  match entry.event with
  | .sendChunk _ _ | .addHistory _ | .insertAssistant _ | .setTone _
    | .takePending => true
  | .transition _ | .clear => entry.target.isSome
  | .callGenerateReply _ | .generated _ | .turnStarted _ | .turnFinished _ _ _
    | .sendReply _ | .chunkSent _ | .sendFailed _ => false

def Pipeline.Inert (pipeline : Pipeline) : Prop :=
  ∀ length, pipeline.timedOutAfter = some length →
    ∀ entry ∈ pipeline.transcript.drop length, entry.visible = false

def PipelineEvent.heard : PipelineEvent → Bool
  | .sendChunk _ _ | .addHistory _ => true
  | _ => false

theorem Performed.visible_of_heard {entry : Performed}
    (hheard : entry.event.heard = true) : entry.visible = true := by
  unfold visible
  cases hevent : entry.event <;> simp_all [PipelineEvent.heard]

theorem chunkReply_isSome {config : FeishuConfig}
    (hlimit : chunkLimit config ≠ 0) (text : JsString) :
    ∃ chunks, chunkReply text config = some chunks := by
  unfold chunkReply
  simp only [hlimit, if_false]
  split_ifs <;> exact ⟨_, rfl⟩

namespace Body

/-- The body waits for the write of a failed turn, after which it throws. -/
def isFailing : Body → Bool
  | .failing _ _ => true
  | _ => false

theorem Step.ended_of_failing {env : ServiceEnv}
    {aggregated : AggregatedMessage} {context : SessionContext}
    {body next : Body} {answer : Answer} {events : List PipelineEvent}
    (hstep : Step env aggregated context body answer next events)
    (hfailing : body.isFailing = true) : next.ended = true := by
  cases hstep with
  | failed => rfl
  | reply reply before chunk rest hsource =>
    cases hsource <;> simp [isFailing] at hfailing
  | _ => simp [isFailing] at hfailing

def distance : Body → ℕ
  | .startingTurn => 5
  | .generating _ => 4
  | .finishing _ _ => 3
  | .regenerating _ _ => 2
  | .sending _ _ _ _ => 2
  | .deciding | .refinishing _ _ | .refailing _ _ | .sleeping _ _ _ => 1
  | _ => 0

section Ahead

variable {env : ServiceEnv} (hlimit : chunkLimit env.account.config ≠ 0)

def Ahead (body next : Body) (events : List PipelineEvent) : Prop :=
  (∃ event ∈ events, event.heard = true) ∨
    next.ended = false ∧ next.isFailing = false ∧ next.distance < body.distance

include hlimit

theorem sendReply_ahead (reply : GenerateReplyResult) (before : List PipelineEvent) (body : Body) :
    ∃ next events, sendReply env reply before = some (next, events) ∧ body.Ahead next events := by
  obtain ⟨chunks, hchunks⟩ := chunkReply_isSome hlimit reply.text
  have hne := chunkReply_ne_nil reply.nonblank hchunks
  cases chunks with
  | nil => exact absurd rfl hne
  | cons chunk rest =>
    refine ⟨.sending .deep reply.text chunk rest,
      before ++ [.transition .sending, .sendReply reply] ++ [.sendChunk chunk true], ?_,
      .inl ⟨.sendChunk chunk true, by simp, rfl⟩⟩
    simp [sendReply, sendChunks, hchunks]

theorem exists_ahead (aggregated : AggregatedMessage)
    (context : SessionContext) {body : Body} (hended : body.ended = false)
    (hfailing : body.isFailing = false) :
    ∃ answer next events, resume env aggregated context body answer = some (next, events) ∧
        body.Ahead next events := by
  cases body with
  | returned | threw => simp [ended] at hended
  | failing => simp [isFailing] at hfailing
  | deciding =>
    refine ⟨.decided ⟨true, .chat, .casual⟩, _, _, rfl, .inr ?_⟩
    simp [ended, isFailing, distance]
  | chatting =>
    refine ⟨.chatAnswered (.ok []), .returned, [.addHistory [], .transition .idle, .clear], ?_,
      .inl ⟨.addHistory [], List.mem_cons_self, rfl⟩⟩
    simp [resume, sendChunks, chunkReply, afterChunks]
  | startingTurn =>
    refine ⟨.turnStarted none, _, _, rfl, .inr ?_⟩
    simp [ended, isFailing, distance]
  | generating turn =>
    refine ⟨.generated (.ok (plainReply 0)), _, _, rfl, .inr ?_⟩
    simp [ended, isFailing, distance]
  | finishing turn reply =>
    by_cases hretry : context.pendingItems ≠ [] ∧ context.retryCount < 1
    · refine ⟨.turnFinished true, .regenerating turn reply,
        finishAiTurn turn true .success reply.toolRounds ++
          [.transition .validating, .takePending, .transition .processing,
            .callGenerateReply context.pendingItems], ?_, .inr ?_⟩
      · simp only [resume, validate, if_pos hretry]
      · simp [ended, isFailing, distance]
    · obtain ⟨next, events, hsend, hahead⟩ := sendReply_ahead hlimit reply
        (finishAiTurn turn true .success reply.toolRounds ++
          [.transition .validating]) (.finishing turn reply)
      refine ⟨.turnFinished true, next, events, ?_, hahead⟩
      simp only [resume, validate, if_neg hretry]
      exact hsend
  | regenerating turn reply =>
    refine ⟨.generated (.ok reply), _, _, rfl, .inr ?_⟩
    simp [ended, isFailing, distance]
  | refinishing turn reply | refailing turn reply =>
    obtain ⟨next, events, hsend, hahead⟩ := sendReply_ahead hlimit reply _ _
    exact ⟨.turnFinished true, next, events, hsend, hahead⟩
  | sending path text chunk rest =>
    refine ⟨.chunkSent (.ok ()), _, _, rfl, .inr ?_⟩
    simp [ended, isFailing, distance]
  | sleeping path text rest =>
    cases rest with
    | cons chunk rest =>
      exact ⟨.slept, _, _, rfl, .inl ⟨.sendChunk chunk false, List.mem_cons_self, rfl⟩⟩
    | nil =>
      cases path with
      | chat =>
        exact ⟨.slept, _, _, rfl, .inl ⟨.addHistory text, List.mem_cons_self, rfl⟩⟩
      | deep =>
        refine ⟨.slept, _, _, rfl, .inr ?_⟩
        simp [ended, isFailing, distance]
  | recordingAssistant text | recordedAssistant text =>
    exact ⟨.assistantRecorded, _, _, rfl, .inl ⟨.addHistory text, List.mem_cons_self, rfl⟩⟩

end Ahead

end Body

variable {env : ServiceEnv} {events : List PipelineEvent}

theorem Performed.visible_of_failing {aggregated : AggregatedMessage} {context : SessionContext}
    {body next : Body} {answer : Answer}
    (hstep : Body.Step env aggregated context body answer next events)
    (hfailing : body.isFailing = true) {entry : Performed}
    (hmem : entry.event ∈ events) : entry.visible = false := by
  cases hstep with
  | failed turn error written =>
    unfold finishAiTurn at hmem
    split at hmem
    · simp [visible, List.mem_singleton.mp hmem]
    · simp at hmem
  | reply reply before chunk rest hsource =>
    cases hsource <;> simp [isFailing] at hfailing
  | _ => simp [isFailing] at hfailing

variable {change : PipelineAction} {pipeline : Pipeline}

theorem Pipeline.Advance.unsettled {now : ℕ} {context : Option SessionContext} {changed : Pipeline}
    {settles : Bool}
    (hadvance : pipeline.Advance env now context change changed events settles) :
    (if decide (pipeline.wrapper ≠ .settled) then 1 else 0) =
      (if decide (changed.wrapper ≠ .settled) then 1 else 0) + if settles then 1 else 0 := by
  cases hadvance with
  | resume => simp
  | timeOut hwrapper | returned hwrapper | excuse error hwrapper =>
    simp [hwrapper]
  | degrade change haction hwrapper =>
    rcases hwrapper with hwrapper | ⟨hwrapper, -⟩ <;> simp [hwrapper]

namespace Dispatch

variable {env : ServiceEnv} {dispatch next : Dispatch}

/-- `inFlightRequests` counts the pipelines that are not past `finally`. -/
def Counted (dispatch : Dispatch) : Prop :=
  dispatch.inFlightRequests = dispatch.pipelines.cells.countP fun pipeline =>
    decide (pipeline.wrapper ≠ .settled)

theorem initial_counted : initial.Counted := rfl

namespace Counted

section

variable (hcounted : dispatch.Counted)
include hcounted

theorem submit (aggregated : AggregatedMessage) : (dispatch.submit aggregated).Counted := by
  unfold Counted at hcounted ⊢
  simp [Dispatch.submit, Arena.push, hcounted, Pipeline.started]

theorem deliver (result : MessageAggregator × Option AggregatedMessage) :
    (dispatch.deliver result).Counted := by
  unfold Dispatch.deliver
  split
  · exact submit hcounted _
  · exact hcounted

theorem advance {index : ℕ} {changed : Pipeline} {settles : Bool} {context : Option SessionContext}
    (hget : dispatch.pipelines.get? index = some pipeline)
    (hadvance : pipeline.Advance env dispatch.now context change changed events settles) :
    (dispatch.advanced index changed events settles).Counted := by
  have hput := Arena.countP_put hget { changed with
      transcript := changed.transcript ++
        (dispatch.sessions.performAll changed.senderId changed.session dispatch.now events).2 }
    fun pipeline => decide (pipeline.wrapper ≠ .settled)
  dsimp only at hput
  have hunsettled := hadvance.unsettled
  unfold Counted at hcounted ⊢
  cases settles with
  | false =>
    change dispatch.inFlightRequests = _
    simp only [pipelines_advanced, carryOut]
    simp only [Bool.false_eq_true, if_false] at hunsettled
    omega
  | true =>
    change dispatch.inFlightRequests - 1 = _
    simp only [pipelines_advanced, carryOut]
    simp only [if_true] at hunsettled
    omega

theorem step {action : Action} (hstep : Dispatch.step env dispatch action = some next) :
    next.Counted := by
  cases action with
  | tick ms | append item | cleanupIdle =>
    obtain rfl := Option.some.inj hstep
    exact hcounted
  | push item =>
    obtain rfl := Option.some.inj hstep
    have haccepted : { dispatch with
        accepted := dispatch.accepted ++ [item] }.Counted := hcounted
    exact haccepted.deliver _
  | timerFired key =>
    simp only [Dispatch.step, Option.ite_none_right_eq_some, Option.some.injEq] at hstep
    rw [← hstep.2]
    exact hcounted.deliver _
  | flushAll =>
    obtain rfl := Option.some.inj hstep
    exact List.foldlRecOn _ _ hcounted fun _ hbefore _ _ => hbefore.deliver _
  | resume index | timeOut index | settle index | apologised index =>
    obtain ⟨pipeline, changed, events, settles, hget, hadvance, rfl⟩ := advance_of_step rfl hstep
    exact hcounted.advance hget hadvance

end

end Counted

theorem timedOut_of_not_ended (hcounted : dispatch.Counted)
    (hwrapped : dispatch.Wrapped) (hzero : dispatch.inFlightRequests = 0)
    {index : ℕ}
    (hget : dispatch.pipelines.get? index = some pipeline)
    (hended : pipeline.body.ended = false) :
    pipeline.timedOutAfter ≠ none := by
  intro hnone
  have hcount := hcounted.symm.trans hzero
  rw [List.countP_eq_zero] at hcount
  have hsettled := hcount pipeline (List.mem_of_getElem? hget)
  simp only [ne_eq, decide_not, Bool.not_eq_true', decide_eq_false_iff_not, not_not] at hsettled
  rw [(hwrapped index pipeline hget).settled hsettled hnone] at hended
  exact absurd hended (by simp)

def InertAt (dispatch : Dispatch) (index : ℕ) : Prop :=
  ∀ pipeline, dispatch.pipelines.get? index = some pipeline → pipeline.Inert

def CountsBodies (dispatch : Dispatch) : Prop :=
  dispatch.inFlightRequests = 0 → ∀ index pipeline,
    dispatch.pipelines.get? index = some pipeline → pipeline.body.ended = true

def NeverTimedOut (dispatch : Dispatch) : Prop :=
  ∀ index pipeline, dispatch.pipelines.get? index = some pipeline → pipeline.timedOutAfter = none

theorem initial_neverTimedOut : initial.NeverTimedOut := by
  simp [NeverTimedOut, initial]

theorem neverTimedOut_step {action : Action} (hnever : dispatch.NeverTimedOut)
    (hprompt : dispatch.Allows (· ≠ .timeOut) action)
    (hstep : step env dispatch action = some next) :
    next.NeverTimedOut := by
  refine pipelines_guarded_invariant
    (fun pipeline => pipeline.timedOutAfter = none) (fun _ _ _ _ => rfl) ?_
    hnever hprompt hstep
  rintro now change before after hnone hchange ⟨context, changed, events,
    settles, log, hadvance, -, rfl⟩
  cases hadvance with
  | timeOut => exact absurd rfl hchange
  | resume | returned | excuse | degrade => exact hnone

end Dispatch

structure Pipeline.Spent (length : ℕ) (pipeline : Pipeline) : Prop where
  timedOut : pipeline.timedOutAfter = some length
  settled : pipeline.wrapper = .settled
  body : pipeline.body.ended = true ∨ pipeline.body.isFailing = true
  bound : length ≤ pipeline.transcript.length
  quiet : ∀ entry ∈ pipeline.transcript.drop length, entry.visible = false

variable {length : ℕ}

theorem Pipeline.Spent.inert (hspent : pipeline.Spent length) : pipeline.Inert := by
  intro other hother entry hmem
  rw [hspent.timedOut] at hother
  rw [← Option.some.inj hother] at hmem
  exact hspent.quiet entry hmem

theorem Pipeline.Spent.step {env : ServiceEnv} {now length : ℕ}
    {change : PipelineAction} {before after : Pipeline}
    (hspent : before.Spent length)
    (hstep : Pipeline.Step env now change before after) : after.Spent length := by
  obtain ⟨context, changed, events, settles, log, hadvance, hlog, rfl⟩ := hstep
  have hwrapper := hspent.settled
  cases hadvance with
  | resume own answer body events hcontext hstep =>
    have hfailing : before.body.isFailing = true :=
      hspent.body.resolve_left (by simp [hstep.not_ended])
    have hquiet : ∀ entry ∈ log, entry.visible = false := by
      intro entry hmem
      have hevent : entry.event ∈ log.map event := List.mem_map_of_mem hmem
      rw [hlog] at hevent
      exact visible_of_failing hstep hfailing hevent
    refine ⟨hspent.timedOut, hwrapper, .inl (hstep.ended_of_failing hfailing), ?_, ?_⟩
    · rw [List.length_append]
      exact hspent.bound.trans (Nat.le_add_right _ _)
    · intro entry hmem
      rw [List.drop_append_of_le_length hspent.bound] at hmem
      rcases List.mem_append.mp hmem with hmem | hmem
      · exact hspent.quiet entry hmem
      · exact hquiet entry hmem
  | timeOut hracing | returned hracing | excuse error hracing =>
    rw [hwrapper] at hracing
    exact absurd hracing (by simp)
  | degrade change haction hracing =>
    rcases hracing with hracing | ⟨hracing, -⟩ <;>
      rw [hwrapper] at hracing <;> exact absurd hracing (by simp)

namespace Service

variable {env : ServiceEnv} {service next : Service}

variable {index : ℕ}

theorem spent_run {actions : List Action} (hrun : run (step env) service actions = some next)
    (hspent : ∃ pipeline, service.dispatch.pipelines.get? index = some pipeline ∧
        pipeline.Spent length) :
    ∃ pipeline, next.dispatch.pipelines.get? index = some pipeline ∧ pipeline.Spent length := by
  refine (projects env).run_invariant (fun dispatch => ∃ pipeline,
      dispatch.pipelines.get? index = some pipeline ∧ pipeline.Spent length)
    ?_ hspent hrun
  rintro before after event ⟨pipeline, hget, hold⟩ hstep
  obtain ⟨changed, hchanged, rfl | ⟨change, hchange⟩⟩ := get?_step hstep hget
  · exact ⟨changed, hchanged, hold⟩
  · exact ⟨changed, hchanged, hold.step hchange⟩

theorem exists_resume {context : SessionContext} {answer : Answer} {body : Body}
    (hget : service.dispatch.pipelines.get? index = some pipeline)
    (hcontext : service.dispatch.sessions.contexts.get? pipeline.session = some context)
    (hresume : resume env pipeline.aggregated context pipeline.body answer = some (body, events)) :
    ∃ next log, step env service (.resume index answer) = some next ∧ log.map event = events ∧
      next.dispatch.pipelines.get? index = some { pipeline with
          body := body
          transcript := pipeline.transcript ++ log } := by
  have hresumed : service.dispatch.resumed env index answer =
      some ({ pipeline with body := body }, events) := by
    simp [resumed, hget, hcontext, hresume]
  have hstep : step env service (.resume index answer) = some { service with
        dispatch := service.dispatch.carryOut index { pipeline with body := body } events
        store := events.foldl (Store.perform (.pipeline index)
          pipeline.aggregated.sessionKey) service.store } := by
    simp [step, hresumed]
  exact ⟨_, (service.dispatch.sessions.performAll pipeline.senderId
    pipeline.session service.dispatch.now events).2, hstep,
    SessionManager.performAll_events _ _ _ _ events,
    (Arena.get?_put_eq_some hget).mpr (.inl ⟨rfl, rfl⟩)⟩

theorem exists_heard (hlimit : chunkLimit env.account.config ≠ 0)
    (hbacked : service.dispatch.Backed)
    (hget : service.dispatch.pipelines.get? index = some pipeline)
    (hended : pipeline.body.ended = false)
    (hfailing : pipeline.body.isFailing = false) :
    ∃ later last changed log, run (step env) service later = some last ∧
      last.dispatch.pipelines.get? index = some changed ∧
      changed.timedOutAfter = pipeline.timedOutAfter ∧
      changed.transcript = pipeline.transcript ++ log ∧
      ∃ entry ∈ log, entry.visible = true := by
  induction hdistance : pipeline.body.distance using
    Nat.strong_induction_on generalizing service pipeline with
  | _ distance ih =>
    obtain ⟨context, hcontext⟩ := Arena.get?_of_lt_size (hbacked.obtained index pipeline hget)
    obtain ⟨answer, body, events, hresume, hahead⟩ :=
      exists_ahead hlimit pipeline.aggregated context hended hfailing
    obtain ⟨next, log, hstep, hlog, hnext⟩ := exists_resume hget hcontext hresume
    have hone : run (step env) service [.resume index answer] = some next := by simp [run, hstep]
    rcases hahead with ⟨event, hmem, hheard⟩ | ⟨hended', hfailing', hnear⟩
    · rw [← hlog] at hmem
      obtain ⟨entry, hentry, rfl⟩ := List.mem_map.mp hmem
      exact ⟨[.resume index answer], next, _, log, hone, hnext, rfl, rfl,
        entry, hentry, visible_of_heard hheard⟩
    · have hbacked' : next.dispatch.Backed :=
        (projects env).run_invariant Dispatch.Backed
          (fun hinv hstep => hinv.step hstep) hbacked hone
      obtain ⟨later, last, changed, rest, hrun, hchanged, htimedOut,
        htranscript, entry, hentry, hvisible⟩ :=
          ih body.distance (hdistance ▸ hnear) hbacked' hnext hended' hfailing' rfl
      refine ⟨.resume index answer :: later, last, changed, log ++ rest,
        run_cons_eq_some.mpr ⟨next, hstep, hrun⟩, hchanged, htimedOut,
        ?_, entry, List.mem_append_right _ hentry, hvisible⟩
      rw [htranscript, List.append_assoc]

theorem timeOut_get? (hstep : step env service (.timeOut index) = some next) :
    ∃ pipeline log, service.dispatch.pipelines.get? index = some pipeline ∧
        pipeline.body.ended = false ∧ log.length = 2 ∧
        next.dispatch.pipelines.get? index = some { pipeline with
            wrapper := .settled
            timedOutAfter := some (pipeline.transcript.length + 2)
            transcript := pipeline.transcript ++ log } := by
  obtain ⟨dispatch, hdispatch, rfl⟩ := onDispatch_eq_some hstep
  obtain ⟨pipeline, hget, -, hended, -, rfl⟩ := timeOut_eq_some hdispatch
  exact ⟨pipeline, (service.dispatch.sessions.performAll pipeline.senderId
    pipeline.session service.dispatch.now [.transition .degraded, .clear]).2, hget, hended, rfl,
    (Arena.get?_put_eq_some hget).mpr (.inl ⟨rfl, rfl⟩)⟩

theorem timeOut_inert_iff (hlimit : chunkLimit env.account.config ≠ 0)
    (hbacked : service.dispatch.Backed)
    (hstep : step env service (.timeOut index) = some next) :
    (∀ later last, run (step env) next later = some last → last.dispatch.InertAt index) ↔
      ∃ pipeline, service.dispatch.pipelines.get? index = some pipeline ∧
        pipeline.body.isFailing = true := by
  obtain ⟨pipeline, log, hget, hended, hlog, hnext⟩ := timeOut_get? hstep
  have hempty : (pipeline.transcript ++ log).drop (pipeline.transcript.length + 2) = [] := by
    simp [List.drop_eq_nil_iff, hlog]
  constructor
  · intro hinert
    refine ⟨pipeline, hget, ?_⟩
    by_contra hfailing
    have hbacked' : next.dispatch.Backed :=
      (projects env).run_invariant Dispatch.Backed (fun hinv hstep => hinv.step hstep) hbacked
        (by simp [run, hstep] : run (step env) service [.timeOut index] = some next)
    obtain ⟨later, last, changed, rest, hrun, hchanged, htimedOut,
      htranscript, entry, hentry, hvisible⟩ :=
        exists_heard hlimit hbacked' hnext hended (Bool.eq_false_iff.mpr hfailing)
    have hquiet := hinert later last hrun changed hchanged _ htimedOut entry
    rw [htranscript, List.drop_append_of_le_length (by simp [hlog]), hempty] at hquiet
    simp [hquiet hentry] at hvisible
  · rintro ⟨found, hfound, hfailing⟩ later last hrun changed hchanged
    rw [hget] at hfound
    cases hfound
    obtain ⟨spent, hspent, hlast⟩ := spent_run hrun ⟨_, hnext, rfl, rfl,
      .inr hfailing, by simp [hlog], by simp [hempty]⟩
    rw [hchanged] at hspent
    rw [Option.some.inj hspent]
    exact hlast.inert

/-- In a run without a timeout the count of requests in flight covers every
body that executes.  Any timeout of a body that does more than fail can be
followed by something visible of its pipeline. -/
theorem pipelines_inert {processed : InsertionSet JsString}
    {actions : List Action} {final : Service}
    (hrun : run (step env) (boot processed) actions = some final) :
    (Guarded (step env) (Through env (Dispatch.Allows (· ≠ .timeOut))) (boot processed) actions →
      (∀ index, final.dispatch.InertAt index) ∧ final.dispatch.CountsBodies) ∧
    (chunkLimit env.account.config ≠ 0 → ∀ index next, step env final (.timeOut index) = some next →
        ((∀ later last, run (step env) next later = some last → last.dispatch.InertAt index) ↔
          ∃ pipeline, final.dispatch.pipelines.get? index = some pipeline ∧
            pipeline.body.isFailing = true)) := by
  have hstate : final.dispatch.Wrapped ∧ final.dispatch.Counted ∧ final.dispatch.Backed :=
    (projects env).run_invariant (fun dispatch =>
        dispatch.Wrapped ∧ dispatch.Counted ∧ dispatch.Backed)
      (fun hinv hstep => ⟨wrapped_step hinv.1 hstep, hinv.2.1.step hstep, hinv.2.2.step hstep⟩)
      ⟨initial_wrapped, initial_counted, initial_backed⟩ hrun
  obtain ⟨hwrapped, hcounted, hbacked⟩ := hstate
  refine ⟨fun hprompt => ?_, fun hlimit index next hstep =>
    timeOut_inert_iff hlimit hbacked hstep⟩
  have hnever : final.dispatch.NeverTimedOut :=
    (projects env).run_guarded_invariant Dispatch.NeverTimedOut (fun hinv hguard hstep =>
        neverTimedOut_step hinv hguard hstep)
      initial_neverTimedOut hprompt hrun
  constructor
  · intro index pipeline hget length htimedOut
    rw [hnever index pipeline hget] at htimedOut
    exact absurd htimedOut (by simp)
  · intro hzero index pipeline hget
    by_contra hended
    exact timedOut_of_not_ended hcounted hwrapped hzero hget
      (Bool.eq_false_iff.mpr hended) (hnever index pipeline hget)

def asked : List Action :=
  [.deliver (textMessage (js "m1") (js "oc_direct") .p2p (js "hi")),
    .parsed 0 [], .userRecorded 0 none,
    .resume 0 (.decided ⟨true, .question, .casual⟩)]

theorem pipelines_inert_answered : ∃ final, run (step (plainEnv false)) (boot .empty)
        (asked ++ [.resume 0 (.generated (.ok (plainReply 0))),
          .resume 0 (.turnFinished true)]) = some final ∧
      final.dispatch.CountsBodies := by
  have hguarded : Guarded (step (plainEnv false))
      (Through (plainEnv false) (Dispatch.Allows (· ≠ .timeOut)))
      (boot .empty)
      (asked ++ [.resume 0 (.generated (.ok (plainReply 0))),
        .resume 0 (.turnFinished true)]) := by decide
  refine Exists.imp (fun final hrun =>
    ⟨hrun, ((pipelines_inert hrun).1 hguarded).2⟩)
    (Option.isSome_iff_exists.mp ?_)
  rfl

/-- The answer is generated after the timeout and sent all the same, with no
request in flight. -/
theorem pipeline_speaks_after_timeout : ∃ final, run (step (plainEnv false)) (boot .empty)
        (asked ++ [.tick 60000, .timeOut 0, .resume 0 (.generated (.ok (plainReply 0))),
          .resume 0 (.turnFinished true)]) = some final ∧
      ¬ final.dispatch.InertAt 0 ∧ ¬ final.dispatch.CountsBodies := by
  apply exists_of_view (by rfl : Option.map (fun final =>
      (final.dispatch.inFlightRequests, (final.dispatch.pipelines.get? 0).map fun pipeline =>
        (pipeline.body.ended, pipeline.timedOutAfter,
          ((pipeline.transcript.drop 6).map visible).contains true))) _ =
    some (0, some (false, some 6, true)))
  intro final hview _
  simp only [Option.map_eq_some_iff, Prod.mk.injEq, List.contains_iff_mem, List.mem_map] at hview
  obtain ⟨hzero, pipeline, hget, hended, htimedOut, entry, hentry, hvisible⟩ := hview
  refine ⟨fun hinert => ?_, fun hcounts => ?_⟩
  · simp [hinert pipeline hget 6 htimedOut entry hentry] at hvisible
  · simp [hcounts hzero 0 pipeline hget] at hended

end Service

end LittleBaby.Feishu
