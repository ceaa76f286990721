import LittleBaby.AnswerLedger
import LittleBaby.TranscriptGuard
import LittleBaby.TranscriptTurns

/-!
# Results behind the guard

The guarded transcript is a ledger of turns and answers.
-/

namespace LittleBaby.Transcript

open JsString JsValue
  ToolCallLike GuardOptions GuardState AnswerLedger AnswerLedger.Entry AnswerLedger.Event

variable (options : GuardOptions)

/-! ## Messages as entries -/

def callIds (message : JsValue) : List JsString :=
  (extractToolCallsFromAssistant message).map ToolCallLike.id

def entryOf (message : JsValue) : AnswerLedger.Entry JsString :=
  if isToolResult message then .answer (extractToolResultId message)
  else if isAssistant message then .turn (callIds message) (!isErrored message)
  else .other

def finalMessage (message : JsValue) : JsValue :=
  (options.applyBeforeWriteHook (options.transformMessageForPersistence message)).getD message

/-- What a message is for the guard: its calls are tracked when it is not errored,
and shown when its final form is not. -/
def eventOf (message : JsValue) : AnswerLedger.Event JsString :=
  match if isAssistant message then options.sanitizeToolCallInputs message
    else some message with
  | none => .dropped
  | some next =>
    if isToolResult next then .answer (extractToolResultId next)
    else if isAssistant next then
      .turn (callIds next) (!isErrored next) (!isErrored (finalMessage options next))
    else .other

structure SameShape (message changed : JsValue) : Prop where
  role : stringField (js "role") changed = stringField (js "role") message
  resultId : extractToolResultId changed = extractToolResultId message
  callIds : callIds changed = callIds message

/-- The hook blocks no message, and it and the transforms keep roles and ids. -/
structure KeepsShape : Prop where
  message : ∀ message, SameShape message (options.transformMessageForPersistence message)
  toolResult : ∀ message resultMeta,
    SameShape message (options.transformToolResultForPersistence message resultMeta)
  hook : ∀ message result, options.beforeMessageWriteHook message = some result →
    result.block = false ∧ ∀ changed, result.message = some changed → SameShape message changed

namespace SameShape

variable {message changed final : JsValue}

theorem refl (message : JsValue) : SameShape message message := ⟨rfl, rfl, rfl⟩

theorem trans (hfirst : SameShape message changed)
    (hsecond : SameShape changed final) : SameShape message final :=
  ⟨hsecond.role.trans hfirst.role, hsecond.resultId.trans hfirst.resultId,
    hsecond.callIds.trans hfirst.callIds⟩

theorem isToolResult_eq (hsame : SameShape message changed) :
    isToolResult changed = isToolResult message := by
  simp only [isToolResult, hasRole, hsame.role]

theorem isAssistant_eq (hsame : SameShape message changed) :
    isAssistant changed = isAssistant message := by
  simp only [isAssistant, hasRole, hsame.role]

end SameShape

variable {next message : JsValue}

theorem field_withField {key other : JsString}
    (hne : other ≠ key) : field other (withField key next message) = field other message := by
  cases message with
  | object entries =>
    have hlookup : (Entries.set key next entries).lookup other =
        entries.lookup other := Entries.lookup_set_of_ne hne
    simp [withField, field, readKey, hlookup]
  | _ => rfl

theorem stringField_withField {key other : JsString}
    (hne : other ≠ key) : stringField other (withField key next message) =
      stringField other message := by
  rw [stringField, field_withField hne, stringField]

theorem entryOf_withContent (hresult : isToolResult message = true) :
    entryOf (withField (js "content") next message) = .answer (extractToolResultId message) := by
  have hrole : isToolResult (withField (js "content") next message) = true := by
    rw [isToolResult, hasRole, stringField_withField (by decide)]
    exact hresult
  have hid : extractToolResultId (withField (js "content") next message) =
      extractToolResultId message := by
    rw [extractToolResultId, stringField_withField (by decide), stringField_withField (by decide)]
    rfl
  rw [entryOf, if_pos hrole, hid]

theorem entryOf_capToolResultSize (hresult : isToolResult message = true) :
    entryOf (options.capToolResultSize message) = .answer (extractToolResultId message) := by
  have hself : entryOf message = .answer (extractToolResultId message) := by
    rw [entryOf, if_pos hresult]
  unfold capToolResultSize
  rw [hresult]
  simp only [Bool.not_true, Bool.false_eq_true, if_false]
  split
  next =>
      split
      next => exact entryOf_withContent hresult
      next => exact hself
  next => exact hself

theorem entryOf_eq_answer {id : Option JsString} : entryOf message = .answer id ↔
      isToolResult message = true ∧ extractToolResultId message = id := by
  unfold entryOf
  split_ifs with hresult hassistant
  · simp [hresult]
  · simp [hresult]
  · simp [hresult]

/-! ## One message behind the guard -/

section Steps

variable {options} (hkeeps : KeepsShape options)

include hkeeps

theorem KeepsShape.applyBeforeWriteHook (message : JsValue) :
    ∃ written, options.applyBeforeWriteHook message = some written ∧ SameShape message written := by
  unfold GuardOptions.applyBeforeWriteHook
  cases hhook : options.beforeMessageWriteHook message with
  | none => exact ⟨message, rfl, SameShape.refl message⟩
  | some result =>
    obtain ⟨hblock, hchanged⟩ := hkeeps.hook message result hhook
    dsimp only
    rw [hblock, if_neg (by simp)]
    refine ⟨_, rfl, ?_⟩
    cases hmessage : result.message with
    | none => exact SameShape.refl message
    | some changed => exact hchanged changed hmessage

theorem KeepsShape.persistedToolResult
    (hresult : isToolResult message = true) (resultMeta : ToolResultMeta) :
    ∃ written, GuardState.persistedToolResult options message resultMeta = some written ∧
      entryOf written = .answer (extractToolResultId message) := by
  have htransformed := hkeeps.toolResult message resultMeta
  obtain ⟨written, hwritten, hshape⟩ := hkeeps.applyBeforeWriteHook
    (options.transformToolResultForPersistence message resultMeta)
  have hsame := htransformed.trans hshape
  have hrole : isToolResult written = true := by
    rw [hsame.isToolResult_eq, hresult]
  refine ⟨options.capToolResultSize written, ?_, ?_⟩
  · rw [GuardState.persistedToolResult, hwritten]
    rfl
  · rw [entryOf_capToolResultSize options hrole, hsame.resultId]

theorem KeepsShape.syntheticResult (state : GuardState) (now : JsNumber)
    {id : JsString} (hid : id ≠ []) :
    ∃ written, state.syntheticResult options now id = some written ∧
      entryOf written = .answer (some id) := by
  have hshape := hkeeps.message (makeMissingToolResult now ⟨id, (state.pending.get? id).join⟩)
  have hresult : isToolResult (options.transformMessageForPersistence
      (makeMissingToolResult now ⟨id, (state.pending.get? id).join⟩)) = true := by
    rw [hshape.isToolResult_eq, isToolResult_makeMissing]
  obtain ⟨written, hwritten, hentry⟩ := hkeeps.persistedToolResult hresult
    ⟨some id, (state.pending.get? id).join, true⟩
  refine ⟨written, hwritten, ?_⟩
  rw [hentry, hshape.resultId, extractToolResultId_makeMissing now _ hid]

variable (hsynthetic : options.allowSyntheticToolResults = true)

include hsynthetic

theorem KeepsShape.flush {state : GuardState} (hids : [] ∉ state.pending.keys) (now : JsNumber) :
    (state.flushPendingToolResults options now).pending.keys = [] ∧
      (state.flushPendingToolResults options now).persisted.map entryOf =
        state.persisted.map entryOf ++ filed state.pending.keys := by
  refine ⟨rfl, ?_⟩
  have hall : ∀ ids : List JsString, [] ∉ ids →
      (ids.filterMap (state.syntheticResult options now)).map entryOf = filed ids := by
    intro ids hnot
    induction ids with
    | nil => rfl
    | cons id ids ih =>
      rw [List.mem_cons, not_or] at hnot
      obtain ⟨written, hwritten, hentry⟩ := hkeeps.syntheticResult state now (Ne.symm hnot.1)
      rw [List.filterMap_cons_some hwritten, List.map_cons, hentry, ih hnot.2]
      rfl
  rw [flushPendingToolResults, if_pos hsynthetic, List.map_append, hall _ hids]

omit hsynthetic in
theorem KeepsShape.appendToolResult (state : GuardState) (hresult : isToolResult message = true) :
    (state.appendToolResult options message).pending.keys = state.pending.keys.filter (fun other =>
          decide (some other ≠ extractToolResultId message)) ∧
      (state.appendToolResult options message).persisted.map entryOf =
        state.persisted.map entryOf ++ [.answer (extractToolResultId message)] := by
  have hnormal : ∀ name, isToolResult
        (GuardOptions.normalizePersistedToolResultName message name) = true ∧
      extractToolResultId (GuardOptions.normalizePersistedToolResultName message name) =
          extractToolResultId message := by
    intro name
    rw [GuardOptions.normalizePersistedToolResultName, if_pos hresult]
    exact ⟨by rw [isToolResult_normalize, hresult], extractToolResultId_normalize name⟩
  obtain ⟨hrole, hid⟩ := hnormal ((extractToolResultId message).bind state.pending.get?).join
  have hshape := hkeeps.message (GuardOptions.normalizePersistedToolResultName message
      ((extractToolResultId message).bind state.pending.get?).join)
  obtain ⟨hcapped, hcappedId⟩ := entryOf_eq_answer.mp
    (entryOf_capToolResultSize options (hshape.isToolResult_eq.trans hrole))
  obtain ⟨written, hwritten, hentry⟩ := hkeeps.persistedToolResult hcapped
    ⟨extractToolResultId message,
      ((extractToolResultId message).bind state.pending.get?).join, false⟩
  rw [hcappedId, hshape.resultId, hid] at hentry
  unfold GuardState.appendToolResult
  simp only [hwritten]
  cases hresultId : extractToolResultId message with
  | none =>
    rw [hresultId] at hentry
    constructor
    · simp [GuardState.append]
    · simp [GuardState.append, hentry]
  | some id =>
    rw [hresultId] at hentry
    constructor
    · simp [GuardState.append, InsertionMap.delete]
    · simp [GuardState.append, hentry]

end Steps

variable {state : GuardState}

theorem keys_trackToolCalls {calls : List ToolCallLike} (hempty : state.pending.keys = [])
    (hnodup : (calls.map ToolCallLike.id).Nodup) :
    (state.trackToolCalls calls).pending.keys = calls.map ToolCallLike.id := by
  have hall : ∀ (calls : List ToolCallLike) (pending : InsertionMap JsString (Option JsString)),
      (pending.keys ++ calls.map ToolCallLike.id).Nodup →
      (calls.foldl (fun pending call => pending.set call.id call.name)
        pending).keys = pending.keys ++ calls.map ToolCallLike.id := by
    intro calls
    induction calls with
    | nil => simp
    | cons call calls ih =>
      intro pending hnodup
      have hnew : call.id ∉ pending.keys := by
        intro hmem
        rw [List.nodup_append] at hnodup
        exact hnodup.2.2 call.id hmem call.id (by simp) rfl
      have hkeys : (pending.set call.id call.name).keys = pending.keys ++ [call.id] := by
        simp [InsertionMap.set, hnew]
      have hrest := ih (pending.set call.id call.name) (by
        rw [hkeys, List.append_assoc]
        exact hnodup)
      rw [List.foldl_cons, hrest, hkeys, List.append_assoc]
      rfl
  have hfold := hall calls state.pending (by simpa [hempty] using hnodup)
  rw [hempty, List.nil_append] at hfold
  exact hfold

theorem not_nil_mem_callIds (message : JsValue) : [] ∉ callIds message := by
  intro hmem
  obtain ⟨call, hcall, hid⟩ := List.mem_map.mp hmem
  exact id_ne_nil_of_mem hcall hid

theorem map_id_trackedCalls (hassistant : isAssistant message = true) :
    (GuardState.trackedCalls message).map ToolCallLike.id =
      AnswerLedger.outstanding (callIds message) (!isErrored message) := by
  rw [GuardState.trackedCalls, hassistant]
  cases isErrored message <;> rfl

section Run

variable {options} (hkeeps : KeepsShape options)
  (hsynthetic : options.allowSyntheticToolResults = true)

include hkeeps hsynthetic

theorem KeepsShape.appendOther (hids : [] ∉ state.pending.keys) (now : JsNumber)
    (hnodup : ((GuardState.trackedCalls message).map ToolCallLike.id).Nodup) :
    (state.appendOther options now message).pending.keys =
        (GuardState.trackedCalls message).map ToolCallLike.id ∧
      (state.appendOther options now message).persisted.map entryOf =
        state.persisted.map entryOf ++ AnswerLedger.filed state.pending.keys ++
          [entryOf (finalMessage options message)] := by
  obtain ⟨written, hwritten, -⟩ := hkeeps.applyBeforeWriteHook
    (options.transformMessageForPersistence message)
  have hfinal : finalMessage options message = written := by
    rw [finalMessage, hwritten]
    rfl
  have hassistant : GuardState.trackedCalls message ≠ [] → isAssistant message = true := by
    intro hcalls
    unfold GuardState.trackedCalls at hcalls
    by_contra hnot
    simp [hnot] at hcalls
  -- the two flushes come to one
  obtain ⟨flushed, hflushed, hempty, hpersisted⟩ : ∃ flushed,
      state.appendOther options now message = (GuardState.append flushed written).trackToolCalls
          (GuardState.trackedCalls message) ∧
      flushed.pending.keys = [] ∧
      flushed.persisted.map entryOf =
        state.persisted.map entryOf ++ AnswerLedger.filed state.pending.keys := by
    obtain ⟨hnone, hfiled⟩ := hkeeps.flush hsynthetic hids now
    unfold GuardState.appendOther
    simp only [hwritten]
    by_cases hpending : state.pending.keys = []
    · refine ⟨state, by simp [hpending], hpending, ?_⟩
      simp [hpending, AnswerLedger.filed]
    · refine ⟨state.flushPendingToolResults options now, ?_, hnone, hfiled⟩
      by_cases hcalls : GuardState.trackedCalls message = []
      · simp [hpending, hcalls]
      · simp [hpending, hcalls, hassistant hcalls]
  rw [hflushed, hfinal]
  constructor
  · exact keys_trackToolCalls hempty hnodup
  · simp [GuardState.trackToolCalls, GuardState.append, hpersisted]

omit hsynthetic in
theorem KeepsShape.finalMessage (message : JsValue) :
    SameShape message (finalMessage options message) := by
  obtain ⟨written, hwritten, hshape⟩ := hkeeps.applyBeforeWriteHook
    (options.transformMessageForPersistence message)
  rw [Transcript.finalMessage, hwritten]
  exact (hkeeps.message message).trans hshape

theorem KeepsShape.guardedAppend (hids : [] ∉ state.pending.keys) (now : JsNumber)
    (hnodup : (eventOf options message).ids.Nodup)
    (later : List (AnswerLedger.Event JsString)) :
    [] ∉ (state.guardedAppend options now message).pending.keys ∧
      state.persisted.map entryOf ++ AnswerLedger.entries state.pending.keys
          (eventOf options message :: later) =
        (state.guardedAppend options now message).persisted.map entryOf ++ AnswerLedger.entries
            (state.guardedAppend options now message).pending.keys later := by
  unfold GuardState.guardedAppend
  unfold eventOf at hnodup ⊢
  generalize (if isAssistant message then options.sanitizeToolCallInputs message
    else some message) = sanitized at hnodup ⊢
  cases sanitized with
  | none =>
    obtain ⟨hnone, hfiled⟩ := hkeeps.flush hsynthetic hids now
    rw [hnone, hfiled, AnswerLedger.entries]
    simp
  | some next =>
    dsimp only at hnodup ⊢
    by_cases hresult : isToolResult next = true
    · obtain ⟨hkeys, hentries⟩ := hkeeps.appendToolResult state hresult
      rw [if_pos hresult, if_pos hresult, hkeys, hentries, AnswerLedger.entries]
      constructor
      · intro hmem
        exact hids (List.mem_filter.mp hmem).1
      · simp
    · rw [if_neg hresult] at hnodup
      rw [if_neg hresult, if_neg hresult]
      have hshape := hkeeps.finalMessage next
      have hfinal : isToolResult (Transcript.finalMessage options next) = false := by
        rw [hshape.isToolResult_eq]
        simpa using hresult
      by_cases hassistant : isAssistant next = true
      · rw [if_pos hassistant] at hnodup
        have hcalls := map_id_trackedCalls hassistant
        have htracked : ((GuardState.trackedCalls next).map ToolCallLike.id).Nodup := by
          rw [hcalls, AnswerLedger.outstanding]
          split_ifs
          · exact hnodup
          · exact List.nodup_nil
        obtain ⟨hkeys, hentries⟩ := hkeeps.appendOther hsynthetic hids now htracked
        have hentry : entryOf (Transcript.finalMessage options next) =
            .turn (callIds next) (!isErrored (Transcript.finalMessage options next)) := by
          rw [entryOf, hfinal, hshape.isAssistant_eq, hassistant, hshape.callIds]
          rfl
        rw [if_pos hassistant, hkeys, hentries, hcalls, hentry, AnswerLedger.entries]
        constructor
        · rw [AnswerLedger.outstanding]
          split_ifs
          · exact not_nil_mem_callIds next
          · simp
        · simp
      · have hcalls : GuardState.trackedCalls next = [] := by
          simp [GuardState.trackedCalls, hassistant]
        have hnone : ((GuardState.trackedCalls next).map ToolCallLike.id).Nodup := by
          rw [hcalls]
          exact List.nodup_nil
        obtain ⟨hkeys, hentries⟩ := hkeeps.appendOther hsynthetic hids now hnone
        have hentry : entryOf (Transcript.finalMessage options next) = .other := by
          rw [entryOf, hfinal, hshape.isAssistant_eq]
          simp [hassistant]
        rw [if_neg hassistant, hkeys, hentries, hcalls, hentry, AnswerLedger.entries]
        simp

theorem map_entryOf_guarded {messages : List (JsNumber × JsValue)}
    (hnodup : ∀ entry ∈ messages, (eventOf options entry.2).ids.Nodup)
    {state : GuardState} (hids : [] ∉ state.pending.keys) (endNow : JsNumber) :
    ((messages.foldl (fun state entry =>
        state.guardedAppend options entry.1 entry.2)
          state).flushPendingToolResults options endNow).persisted.map entryOf =
      state.persisted.map entryOf ++ entries state.pending.keys
          (messages.map fun entry => eventOf options entry.2) := by
  induction messages generalizing state with
  | nil => exact (hkeeps.flush hsynthetic hids endNow).2
  | cons entry messages ih =>
    rw [List.forall_mem_cons] at hnodup
    obtain ⟨hnext, hentries⟩ := hkeeps.guardedAppend hsynthetic hids entry.1
      hnodup.1 (messages.map fun entry => eventOf options entry.2)
    rw [List.foldl_cons, ih hnodup.2 hnext, List.map_cons, hentries]

end Run

/-! ## The transcript -/

variable (messages : List JsValue)

/-- Every call of an assistant message that is not errored has one result among
the results right behind the message, and no other. -/
def IsPairedTranscript : Prop :=
  ∀ before assistant after, messages = before ++ assistant :: after →
    isAssistant assistant = true → isErrored assistant = false →
    ∀ id ∈ callIds assistant, (after.takeWhile isToolResult).countP (answers id) = 1 ∧
        messages.countP (answers id) = 1

theorem count_map_entryOf (id : JsString) :
    (messages.map entryOf).count (.answer (some id)) = messages.countP (answers id) := by
  rw [List.count, List.countP_map]
  apply List.countP_congr
  intro message _
  rw [Function.comp_apply, beq_iff_eq, entryOf_eq_answer, answers,
    Bool.and_eq_true, decide_eq_true_eq]

theorem map_takeWhile_isToolResult : (messages.map entryOf).takeWhile AnswerLedger.Entry.isAnswer =
      (messages.takeWhile isToolResult).map entryOf := by
  rw [List.takeWhile_map]
  congr 2
  funext message
  simp only [Function.comp_apply, entryOf]
  split_ifs with hresult hassistant
  · simp [AnswerLedger.Entry.isAnswer, hresult]
  · simp [AnswerLedger.Entry.isAnswer, hresult]
  · simp [AnswerLedger.Entry.isAnswer, hresult]

theorem isPaired_map_entryOf :
    AnswerLedger.IsPaired (messages.map entryOf) ↔ IsPairedTranscript messages := by
  constructor
  · intro hpaired before assistant after hsplit hassistant herrored id hid
    have hresult : isToolResult assistant = false := by
      by_contra hresult
      rw [Bool.not_eq_false] at hresult
      rw [isAssistant_eq_false_of_isToolResult hresult] at hassistant
      exact absurd hassistant (by simp)
    have hentry : entryOf assistant = .turn (callIds assistant) true := by
      rw [entryOf, hresult, hassistant, herrored]
      rfl
    have hmap : messages.map entryOf = before.map entryOf ++
        .turn (callIds assistant) true :: after.map entryOf := by
      rw [hsplit, List.map_append, List.map_cons, hentry]
    obtain ⟨hspan, hall⟩ := hpaired _ _ _ hmap id hid
    rw [map_takeWhile_isToolResult, count_map_entryOf] at hspan
    rw [count_map_entryOf] at hall
    exact ⟨hspan, hall⟩
  · intro hpaired before ids after hsplit id hid
    obtain ⟨early, late, rfl, rfl, hlate⟩ := List.map_eq_append_iff.mp hsplit
    obtain ⟨assistant, rest, rfl, hentry, rfl⟩ := List.map_eq_cons_iff.mp hlate
    unfold entryOf at hentry
    split_ifs at hentry with hresult hassistant
    obtain ⟨rfl, hshown⟩ := AnswerLedger.Entry.turn.inj hentry
    rw [map_takeWhile_isToolResult, count_map_entryOf, count_map_entryOf]
    exact hpaired early assistant rest rfl hassistant (by simpa using hshown) id hid

/-- The guarded transcript is paired exactly where no result of a tracked call
comes after something else than results, and where a turn that a transform clears
of its error has its results. -/
theorem guarded_transcript_paired_iff (options : GuardOptions) (hkeeps : KeepsShape options)
    (hsynthetic : options.allowSyntheticToolResults = true)
    (messages : List (JsNumber × JsValue)) (endNow : JsNumber)
    (hsession : AnswerLedger.IsSession (messages.map fun entry => eventOf options entry.2)) :
    IsPairedTranscript (guardedTranscript options messages endNow) ↔ AnswerLedger.IsPrompt
        (messages.map fun entry => eventOf options entry.2) := by
  have hnodup : ∀ entry ∈ messages, (eventOf options entry.2).ids.Nodup := by
    intro entry hentry
    have hdistinct := hsession.distinct
    rw [List.nodup_flatMap] at hdistinct
    exact hdistinct.1 _ (List.mem_map_of_mem hentry)
  have hledger := @map_entryOf_guarded options hkeeps hsynthetic messages hnodup
    start (by simp [start]) endNow
  rw [← isPaired_map_entryOf, ← isPaired_iff hsession, guardedTranscript, hledger]
  rfl

def plainGuard : GuardOptions where
  transformMessageForPersistence := id
  transformToolResultForPersistence := fun message _ => message
  allowSyntheticToolResults := true
  allowedToolNames := none
  beforeMessageWriteHook := fun _ => none
  truncateContent := fun _ => none
  toLowerCase := id

theorem keepsShape_plainGuard : KeepsShape plainGuard where
  message := SameShape.refl
  toolResult := fun message _ => SameShape.refl message
  hook := by
    intro message result hhook
    simp [plainGuard] at hhook

def lookCall : JsValue :=
  .object [(js "role", .string (js "assistant")), (js "content", .array [.object
        [(js "type", .string (js "toolCall")), (js "id", .string (js "c")),
          (js "name", .string (js "look")), (js "arguments", .object [])]])]

def lookResult : JsValue :=
  .object [(js "role", .string (js "toolResult")), (js "toolCallId", .string (js "c")),
      (js "toolName", .string (js "look")), (js "content", .array [])]

def userMessage : JsValue := .object [(js "role", .string (js "user")), (js "content", .array [])]

theorem isSession_look (between : List (AnswerLedger.Event JsString))
    (hbetween : ∀ event ∈ between, event = .other) :
    AnswerLedger.IsSession (.turn [js "c"] true true :: between ++ [.answer (some (js "c"))]) := by
  have hids : between.flatMap AnswerLedger.Event.ids = [] := by
    rw [List.flatMap_eq_nil_iff]
    intro event hevent
    rw [hbetween event hevent]
    rfl
  have hnone : ∀ id, AnswerLedger.Event.answer id ∉ between := by
    intro id hmem
    exact absurd (hbetween _ hmem) (by simp)
  constructor
  · simp [AnswerLedger.Event.ids, hids]
  · intro id hid
    rw [List.cons_append, List.count_cons_of_ne (by simp), List.count_append,
      List.count_eq_zero_of_not_mem (hnone _)]
    have hlast := @List.count_le_length _ _ (AnswerLedger.Event.answer (some id))
      [.answer (some (js "c"))]
    simpa using hlast
  · intro before event after hsplit id hid
    cases before with
    | nil => simp
    | cons first before =>
      rw [List.cons_append, List.cons_append] at hsplit
      obtain ⟨rfl, hrest⟩ := List.cons.inj hsplit
      have hmem : event ∈ between ++ [.answer (some (js "c"))] := by
        rw [hrest]
        simp
      rcases List.mem_append.mp hmem with hbefore | hlast
      · rw [hbetween event hbefore] at hid
        simp [AnswerLedger.Event.ids] at hid
      · rw [List.mem_singleton.mp hlast] at hid
        simp [AnswerLedger.Event.ids] at hid

def untimed : List (JsNumber × JsValue) := messages.map fun message => (.nan, message)

theorem guarded_transcript_paired_iff_look : IsPairedTranscript
        (guardedTranscript plainGuard (untimed [lookCall, lookResult]) .nan) ↔
      AnswerLedger.IsPrompt ((untimed [lookCall, lookResult]).map fun entry =>
          eventOf plainGuard entry.2) := by
  apply guarded_transcript_paired_iff plainGuard keepsShape_plainGuard rfl
  have hevents : ((untimed [lookCall, lookResult]).map fun entry =>
      eventOf plainGuard entry.2) = [.turn [js "c"] true true, .answer (some (js "c"))] := by
    decide
  exact isSession_look [] (by simp)

theorem late_result_persisted : ∃ messages : List (JsNumber × JsValue), KeepsShape plainGuard ∧
      plainGuard.allowSyntheticToolResults = true ∧
      AnswerLedger.IsSession (messages.map fun entry => eventOf plainGuard entry.2) ∧
      ¬ IsPairedTranscript (guardedTranscript plainGuard messages .nan) := by
  refine ⟨untimed [lookCall, userMessage, lookResult], keepsShape_plainGuard, rfl, ?_, ?_⟩
  · have hevents : ((untimed [lookCall, userMessage, lookResult]).map
        fun entry => eventOf plainGuard entry.2) =
          [.turn [js "c"] true true, .other, .answer (some (js "c"))] := by
      decide
    exact isSession_look [.other] (by simp)
  · have hentries : (guardedTranscript plainGuard
        (untimed [lookCall, userMessage, lookResult]) .nan).map entryOf =
          [.turn [js "c"] true, .answer (some (js "c")), .other, .answer (some (js "c"))] := by
      decide
    rw [← isPaired_map_entryOf, hentries]
    intro hpaired
    have hboth := hpaired [] [js "c"]
      [.answer (some (js "c")), .other, .answer (some (js "c"))] rfl (js "c")
      (by simp)
    exact absurd hboth.2 (by decide)

end LittleBaby.Transcript
