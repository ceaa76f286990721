import LittleBaby.FeishuPipelineRuns
import LittleBaby.FeishuService

/-!
# The bookkeeping of an AI turn

A turn is finished up to two times, before its reply is sent: once for each
call of `generateReply`.
-/

namespace LittleBaby.Feishu

open LabelledMachine JsString

/-- What a transcript says about turns: the ids, the outcomes of
`generateReply`, the writes of `finishAiTurn`, the replies that were chosen,
and the failures to send. -/
structure TurnRecord where
  turns : List ℕ
  generations : List (Except Thrown GenerateReplyResult)
  writes : List (ℕ × TurnStatus × ℕ)
  replies : List GenerateReplyResult
  failures : List Thrown

namespace TurnRecord

def empty : TurnRecord := ⟨[], [], [], [], []⟩

variable (record : TurnRecord)

def note : PipelineEvent → TurnRecord
  | .turnStarted turn => { record with turns := record.turns ++ [turn] }
  | .generated outcome =>
    { record with generations := record.generations ++ [outcome] }
  | .turnFinished turn status toolRounds =>
    { record with
      writes := record.writes ++ [(turn, status, toolRounds)] }
  | .sendReply reply => { record with replies := record.replies ++ [reply] }
  | .sendFailed error => { record with failures := record.failures ++ [error] }
  | .transition _ | .clear | .setTone _ | .takePending | .callGenerateReply _
    | .sendChunk _ _ | .chunkSent _ | .insertAssistant _ | .addHistory _ =>
      record

def noteAll (events : List PipelineEvent) : TurnRecord := events.foldl note record

def sent : Option GenerateReplyResult :=
  if record.failures = [] then record.replies.getLast? else none

def lastWrite (turn : ℕ) : Option (TurnStatus × ℕ) :=
  ((record.writes.filter fun write => write.1 = turn).map Prod.snd).getLast?

def Truthful (turn : ℕ) : Prop :=
  match record.sent with
  | some reply => record.lastWrite turn = some (.success, reply.toolRounds)
  | none => ∃ toolRounds, record.lastWrite turn = some (.failed, toolRounds)

/-- The first generation failed; or sending failed exactly if the second
generation did. -/
def Straight : Prop :=
  (∃ error, record.generations[0]? = some (.error error)) ∨
    ((∃ error, record.generations[1]? = some (.error error)) ↔ record.failures ≠ [])

def turnWrites (turn : Option ℕ) (status : TurnStatus) (toolRounds : ℕ) :
    List (ℕ × TurnStatus × ℕ) :=
  turn.toList.map fun turn => (turn, status, toolRounds)

inductive Chosen (turn : Option ℕ) (reply : GenerateReplyResult) :
    TurnRecord → Prop
  | first : Chosen turn reply
        ⟨turn.toList, [.ok reply], turnWrites turn .success reply.toolRounds, [], []⟩
  | second (first : GenerateReplyResult) : Chosen turn reply ⟨turn.toList, [.ok first, .ok reply],
          turnWrites turn .success first.toolRounds ++
            turnWrites turn .success reply.toolRounds, [], []⟩
  | fallback (error : Thrown) : Chosen turn reply ⟨turn.toList, [.ok reply, .error error],
          turnWrites turn .success reply.toolRounds ++ turnWrites turn .failed 0,
          [], []⟩

def Sending : Prop :=
  ∃ turn reply before, Chosen turn reply before ∧ record = { before with replies := [reply] }

theorem Chosen.turns_eq {turn : Option ℕ} {reply : GenerateReplyResult}
    {record : TurnRecord} (hchosen : Chosen turn reply record) :
    record.turns = turn.toList := by
  cases hchosen <;> rfl

theorem noteAll_append (first second : List PipelineEvent) :
    record.noteAll (first ++ second) = (record.noteAll first).noteAll second := by
  simp [noteAll]

theorem noteAll_finishAiTurn (turn : Option ℕ) (status : TurnStatus) (toolRounds : ℕ) :
    record.noteAll (Body.finishAiTurn turn true status toolRounds) = { record with
        writes := record.writes ++ turnWrites turn status toolRounds } := by
  cases turn <;> simp [Body.finishAiTurn, noteAll, note, turnWrites]

end TurnRecord

namespace Body

open TurnRecord

def Fits (record : TurnRecord) : Body → Prop
  | .deciding | .chatting | .startingTurn => record = .empty
  | .generating turn => record = ⟨turn.toList, [], [], [], []⟩
  | .finishing turn reply => record = ⟨turn.toList, [.ok reply], [], [], []⟩
  | .failing turn error => record = ⟨turn.toList, [.error error], [], [], []⟩
  | .regenerating turn reply =>
    record = ⟨turn.toList, [.ok reply], turnWrites turn .success reply.toolRounds, [], []⟩
  | .refinishing turn reply =>
    ∃ first, record = ⟨turn.toList, [.ok first, .ok reply],
      turnWrites turn .success first.toolRounds, [], []⟩
  | .refailing turn reply =>
    ∃ error, record = ⟨turn.toList, [.ok reply, .error error],
      turnWrites turn .success reply.toolRounds, [], []⟩
  | .sending .chat _ _ _ | .sleeping .chat _ _ => record.turns = []
  | .sending .deep _ _ _ | .sleeping .deep _ _ | .recordingAssistant _
    | .recordedAssistant _ => record.Sending
  | .returned => record.turns = [] ∨ record.Sending
  | .threw _ =>
    record.turns = [] ∨ (∃ turn error, record = ⟨turn.toList, [.error error],
        turnWrites turn .failed 0, [], []⟩) ∨
      ∃ (before : TurnRecord) (error : Thrown), before.Sending ∧
        record = { before with failures := [error] }

variable {env : ServiceEnv} {aggregated : AggregatedMessage}
  {context : SessionContext} {body next : Body} {answer : Answer}
  {events : List PipelineEvent} {record : TurnRecord}

theorem ReplySource.chosen {reply : GenerateReplyResult}
    (hsource : ReplySource context body answer reply events)
    (hanswer : answer ≠ .turnFinished false) (hfits : body.Fits record) :
    ∃ turn, Chosen turn reply (record.noteAll events) := by
  cases hsource with
  | first turn _ written hpending =>
    have hwritten : written = true := by simpa using hanswer
    subst hwritten
    obtain rfl := hfits
    rw [noteAll_append, noteAll_finishAiTurn]
    exact ⟨turn, Chosen.first⟩
  | second turn _ written =>
    have hwritten : written = true := by simpa using hanswer
    subst hwritten
    obtain ⟨first, rfl⟩ := hfits
    rw [noteAll_finishAiTurn]
    exact ⟨turn, Chosen.second first⟩
  | fallback turn _ written =>
    have hwritten : written = true := by simpa using hanswer
    subst hwritten
    obtain ⟨error, rfl⟩ := hfits
    rw [noteAll_finishAiTurn]
    exact ⟨turn, Chosen.fallback error⟩

theorem Step.fits (hstep : Step env aggregated context body answer next events)
    (hanswer : answer ≠ .turnFinished false) (hfits : body.Fits record) :
    next.Fits (record.noteAll events) := by
  cases hstep with
  | noReply | chatFailed | chatEmpty =>
    exact .inl (congrArg turns hfits)
  | chat | startTurn => exact hfits
  | skipTurn => exact hfits
  | chatSending => exact congrArg turns hfits
  | turnStarted turn hturn =>
    obtain rfl := hfits
    cases turn <;> rfl
  | generated | generateFailed =>
    obtain rfl := hfits
    rfl
  | retry turn reply written hpending hretry =>
    have hwritten : written = true := by simpa using hanswer
    subst hwritten
    obtain rfl := hfits
    rw [noteAll_append, noteAll_finishAiTurn]
    rfl
  | failed turn error written =>
    have hwritten : written = true := by simpa using hanswer
    subst hwritten
    obtain rfl := hfits
    rw [noteAll_finishAiTurn]
    exact .inr (.inl ⟨turn, error, rfl⟩)
  | regenerated turn first reply =>
    obtain rfl := hfits
    exact ⟨first, rfl⟩
  | regenerateFailed turn reply error =>
    obtain rfl := hfits
    exact ⟨error, rfl⟩
  | reply reply before chunk rest hsource hchunks =>
    obtain ⟨turn, hchosen⟩ := hsource.chosen hanswer hfits
    rw [List.append_assoc, noteAll_append]
    generalize record.noteAll before = noted at hchosen ⊢
    refine ⟨turn, reply, noted, hchosen, ?_⟩
    cases hchosen <;> rfl
  | chunkSent path | nextChunk path => cases path <;> exact hfits
  | sendFailed path text chunk rest error =>
    cases path with
    | chat => exact .inl hfits
    | deep =>
      refine .inr (.inr ⟨record, error, hfits, ?_⟩)
      obtain ⟨turn, reply, before, hchosen, rfl⟩ := hfits
      cases hchosen <;> rfl
  | chatSent => exact .inl hfits
  | deepSent | inserted => exact hfits
  | notInserted | recorded => exact .inr hfits

end Body

namespace TurnRecord

@[simp] theorem lastWrite_turnWrites (turns : List ℕ)
    (generations : List (Except Thrown GenerateReplyResult))
    (before : List (ℕ × TurnStatus × ℕ)) (turn : ℕ) (status : TurnStatus)
    (toolRounds : ℕ) (replies : List GenerateReplyResult)
    (failures : List Thrown) :
    lastWrite ⟨turns, generations, before ++ turnWrites (some turn) status toolRounds, replies,
        failures⟩ turn = some (status, toolRounds) := by
  simp [lastWrite, turnWrites]

theorem Chosen.truthful_iff {turn : ℕ} {reply : GenerateReplyResult}
    {record : TurnRecord} (hchosen : Chosen (some turn) reply record) :
    { record with replies := [reply] }.Truthful turn ↔
      { record with replies := [reply] }.Straight := by
  cases hchosen with
  | first =>
    have hlast := lastWrite_turnWrites [turn] [.ok reply] [] turn .success
      reply.toolRounds [reply] []
    simpa [Truthful, Straight, sent] using hlast
  | second first | fallback error =>
    simp [Truthful, Straight, sent]

theorem Chosen.truthful_iff_of_unsent {turn : ℕ}
    {reply : GenerateReplyResult} {record : TurnRecord} (error : Thrown)
    (hchosen : Chosen (some turn) reply record) :
    { record with replies := [reply], failures := [error] }.Truthful turn ↔
      { record with replies := [reply], failures := [error] }.Straight := by
  cases hchosen with
  | first =>
    have hlast := lastWrite_turnWrites [turn] [.ok reply] [] turn .success
      reply.toolRounds [reply] [error]
    simp only [List.nil_append] at hlast
    simp [Truthful, Straight, sent, hlast]
  | second first | fallback error' =>
    simp [Truthful, Straight, sent]

end TurnRecord

namespace Body

open TurnRecord

theorem Fits.truthful_iff {body : Body} {record : TurnRecord}
    (hfits : body.Fits record) (hended : body.ended = true) {turn : ℕ}
    (hturn : turn ∈ record.turns) :
    record.Truthful turn ↔ record.Straight := by
  cases body with
  | returned =>
    rcases hfits with hnone | ⟨found, reply, before, hchosen, rfl⟩
    · simp [hnone] at hturn
    · have hfound : found = some turn := by
        simpa [hchosen.turns_eq] using hturn
      subst hfound
      exact hchosen.truthful_iff
  | threw thrown =>
    rcases hfits with hnone | ⟨found, error, rfl⟩ |
      ⟨before, error, ⟨found, reply, start, hchosen, rfl⟩, rfl⟩
    · simp [hnone] at hturn
    · have hfound : found = some turn := by simpa using hturn
      subst hfound
      have hlast := lastWrite_turnWrites [turn] [.error error] [] turn .failed 0 [] []
      simp only [List.nil_append] at hlast
      simp [Truthful, Straight, sent, hlast]
    · have hfound : found = some turn := by
        simpa [hchosen.turns_eq] using hturn
      subst hfound
      exact hchosen.truthful_iff_of_unsent error
  | deciding | chatting | startingTurn | generating | finishing | failing
    | regenerating | refinishing | refailing | sending | sleeping
    | recordingAssistant | recordedAssistant => simp [ended] at hended

end Body

def Pipeline.turnRecord (pipeline : Pipeline) : TurnRecord :=
  TurnRecord.empty.noteAll (pipeline.transcript.map Performed.event)

/-- Every write of `finishAiTurn` takes effect. -/
def PipelineAction.WritesTurn (action : PipelineAction) : Prop :=
  action ≠ .resume (.turnFinished false)

instance : DecidablePred PipelineAction.WritesTurn := fun action =>
  inferInstanceAs (Decidable (action ≠ .resume (.turnFinished false)))

theorem Pipeline.fits_step {env : ServiceEnv} {now : ℕ}
    {change : PipelineAction} {before after : Pipeline}
    (hfits : before.body.Fits before.turnRecord) (hwrites : change.WritesTurn)
    (hstep : Pipeline.Step env now change before after) :
    after.body.Fits after.turnRecord := by
  obtain ⟨context, changed, events, settles, log, hadvance, hlog, rfl⟩ := hstep
  have hrecord : Pipeline.turnRecord { changed with
      transcript := changed.transcript ++ log } = before.turnRecord.noteAll events := by
    rw [Pipeline.turnRecord, List.map_append, TurnRecord.noteAll_append, hlog, hadvance.kept.2.2]
    rfl
  rw [hrecord]
  cases hadvance with
  | resume own answer body events hcontext hstep =>
    refine hstep.fits ?_ hfits
    rintro rfl
    exact hwrites rfl
  | timeOut | returned | excuse | degrade => exact hfits

namespace Service

/-- In a run in which the writes of `finishAiTurn` take effect, the last write
for the turn of a pipeline that has ended is truthful exactly if the first
generation failed, or sending failed just when the second generation did. -/
theorem turn_truthful_iff {env : ServiceEnv}
    {processed : InsertionSet JsString} {actions : List Action}
    {final : Service}
    (hwrites : Guarded (step env) (Through env (Dispatch.Allows PipelineAction.WritesTurn))
      (boot processed) actions)
    (hrun : run (step env) (boot processed) actions = some final)
    {index turn : ℕ} {pipeline : Pipeline}
    (hget : final.dispatch.pipelines.get? index = some pipeline)
    (hended : pipeline.body.ended = true)
    (hturn : turn ∈ pipeline.turnRecord.turns) :
    pipeline.turnRecord.Truthful turn ↔ pipeline.turnRecord.Straight := by
  have hfits : ∀ index pipeline, final.dispatch.pipelines.get? index = some pipeline →
        pipeline.body.Fits pipeline.turnRecord := by
    refine (projects env).run_guarded_invariant (fun dispatch => ∀ index pipeline,
        dispatch.pipelines.get? index = some pipeline → pipeline.body.Fits pipeline.turnRecord)
      (fun hinv hguard hstep => Dispatch.pipelines_guarded_invariant
        (fun pipeline => pipeline.body.Fits pipeline.turnRecord)
        (fun _ _ _ _ => rfl) Pipeline.fits_step hinv hguard hstep)
      (by simp [boot, Dispatch.initial]) hwrites hrun
  exact (hfits index pipeline hget).truthful_iff hended hturn

def turnWithFollowUp : List Action :=
  [.deliver (textMessage (js "m1") (js "oc_direct") .p2p (js "hi")),
    .parsed 0 [], .userRowWritten 0 .inserted, .userRecorded 0 (some ⟨1, 1⟩),
    .resume 0 (.decided ⟨true, .question, .casual⟩),
    .resume 0 (.turnStarted (some 7)),
    .deliver (textMessage (js "m2") (js "oc_direct") .p2p (js "and?")),
    .parsed 1 [], .userRowWritten 1 .inserted, .userRecorded 1 (some ⟨1, 2⟩),
    .resume 0 (.generated (.ok (plainReply 2))),
    .resume 0 (.turnFinished true)]

def sendSecond : List Action :=
  [.resume 0 (.turnFinished true), .resume 0 (.chunkSent (.ok ())),
    .resume 0 .slept, .resume 0 .assistantInserted,
    .resume 0 .assistantRecorded]

theorem turn_truthful_iff_second : ∃ final pipeline,
    run (step (plainEnv true)) (boot .empty) (turnWithFollowUp ++
          .resume 0 (.generated (.ok (plainReply 1))) :: sendSecond) =
        some final ∧
      final.dispatch.pipelines.get? 0 = some pipeline ∧
      (pipeline.turnRecord.Truthful 7 ↔ pipeline.turnRecord.Straight) := by
  have hview : ((run (step (plainEnv true)) (boot .empty) (turnWithFollowUp ++
        .resume 0 (.generated (.ok (plainReply 1))) :: sendSecond)).bind
          fun final => final.dispatch.pipelines.get? 0).map (fun pipeline =>
            (pipeline.body.ended, pipeline.turnRecord.turns)) =
      some (true, [7]) := by rfl
  simp only [Option.map_eq_some_iff, Option.bind_eq_some_iff, Prod.mk.injEq] at hview
  obtain ⟨pipeline, ⟨final, hrun, hget⟩, hended, hturns⟩ := hview
  exact ⟨final, pipeline, hrun, hget,
    turn_truthful_iff (by decide) hrun hget hended (by simp [hturns])⟩

/-- The second generation fails and the first answer is sent, under a turn
that is recorded as failed. -/
theorem turn_failed_but_sent : ∃ final pipeline,
    run (step (plainEnv true)) (boot .empty) (turnWithFollowUp ++
          .resume 0 (.generated (.error ⟨true, js "503"⟩)) :: sendSecond) =
        some final ∧
      final.dispatch.pipelines.get? 0 = some pipeline ∧
      pipeline.body.ended = true ∧ 7 ∈ pipeline.turnRecord.turns ∧
      ¬ pipeline.turnRecord.Truthful 7 := by
  have hview : ((run (step (plainEnv true)) (boot .empty) (turnWithFollowUp ++
        .resume 0 (.generated (.error ⟨true, js "503"⟩)) :: sendSecond)).bind fun final =>
            final.dispatch.pipelines.get? 0).map (fun pipeline =>
              (pipeline.body.ended, pipeline.turnRecord.turns, pipeline.turnRecord.sent,
                pipeline.turnRecord.lastWrite 7)) =
      some (true, [7], some (plainReply 2), some (.failed, 0)) := by rfl
  simp only [Option.map_eq_some_iff, Option.bind_eq_some_iff, Prod.mk.injEq] at hview
  obtain ⟨pipeline, ⟨final, hrun, hget⟩, hended, hturns, hsent, hlast⟩ := hview
  refine ⟨final, pipeline, hrun, hget, hended, by simp [hturns], ?_⟩
  simp [TurnRecord.Truthful, hsent, hlast]

end Service

end LittleBaby.Feishu
