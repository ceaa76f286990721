import LittleBaby.TranscriptTurns

/-!
# When the repair pairs calls and results

The ids that the repair has answered before a turn depend on the turns before
it only: a turn answers the ids of all its calls, and an errored one, under
the policy `preserve`, those of its calls that its span holds a result for.
-/

namespace LittleBaby.Transcript

open JsString JsValue Turn

/-! ## The ids answered before a turn -/

def Turn.callIds (turn : Turn) : List JsString := turn.calls.map ToolCallLike.id

variable (policy : ErroredAssistantResultPolicy)

def Turn.answeredIds (turn : Turn) : List JsString :=
  if isErrored turn.assistant then
    match policy with
    | .preserve => turn.callIds.filter fun id => turn.span.any (answers id)
    | .drop => []
  else turn.callIds

def withSeen (policy : ErroredAssistantResultPolicy) (seen : List JsString) :
    List Turn → List (List JsString × Turn)
  | [] => []
  | turn :: rest =>
    (seen, turn) :: withSeen policy (seen ++ turn.answeredIds policy) rest

def visits (policy : ErroredAssistantResultPolicy) (messages : List JsValue) :
    List (List JsString × Turn) :=
  withSeen policy [] (turns messages).2

def SameIds (seen other : List JsString) : Prop := ∀ id, id ∈ seen ↔ id ∈ other

section Congruence

variable {seen other : List JsString} {policy : ErroredAssistantResultPolicy} {now : JsNumber}

section

variable (hsame : SameIds seen other)

include hsame

theorem SameIds.append (ids : List JsString) : SameIds (seen ++ ids) (other ++ ids) := by
  intro id
  simp [hsame id]

theorem allNew_congr (ids : List JsString) : allNew seen ids = allNew other ids := by
  induction ids generalizing seen other with
  | nil => rfl
  | cons id rest ih =>
    rw [allNew, allNew, ih (hsame.append [id])]
    simp [hsame id]

theorem keepNew_congr (results : List (JsString × JsValue)) :
    keepNew seen results = keepNew other results := by
  induction results generalizing seen other with
  | nil => rfl
  | cons entry rest ih =>
    obtain ⟨id, result⟩ := entry
    rw [keepNew, keepNew, ih hsame, ih (hsame.append [id])]
    simp [hsame id]

variable (turn : Turn)

theorem Turn.answer_congr : turn.answer seen = turn.answer other := by
  funext id
  simp only [answer, Transcript.answer, hsame id]

theorem isFaulty_congr (toolCalls : List ToolCallLike) :
    isFaulty toolCalls seen = isFaulty toolCalls other := by
  funext message
  unfold isFaulty
  cases extractToolResultId message with
  | none => rfl
  | some id => simp only [hsame id]

theorem Turn.results_congr : turn.results policy now seen = turn.results policy now other := by
  simp only [results, answer_congr hsame]

theorem Turn.kept_congr : turn.kept policy now seen = turn.kept policy now other := by
  rw [kept, kept, results_congr hsame, keepNew_congr hsame]

theorem Turn.repaired_congr : turn.repaired policy now seen = turn.repaired policy now other := by
  rw [repaired, repaired, kept_congr hsame]

theorem Turn.added_congr : turn.added now seen = turn.added now other := by
  simp only [added, answer_congr hsame]

theorem Turn.needsRepair_congr : turn.needsRepair policy seen = turn.needsRepair policy other := by
  simp only [needsRepair, isAnswered, resultIds,
    answer_congr hsame, isFaulty_congr hsame, allNew_congr hsame]

end

end Congruence

theorem mem_ids_keepNew {seen : List JsString}
    {results : List (JsString × JsValue)} {id : JsString} :
    id ∈ (keepNew seen results).map Prod.fst ↔ id ∈ results.map Prod.fst ∧ id ∉ seen := by
  induction results generalizing seen with
  | nil => simp [keepNew]
  | cons entry rest ih =>
    obtain ⟨first, result⟩ := entry
    by_cases hfirst : first ∈ seen
    · rw [keepNew, if_pos hfirst, ih]
      simp only [List.map_cons, List.mem_cons]
      constructor
      · rintro ⟨hmem, hid⟩
        exact ⟨.inr hmem, hid⟩
      · rintro ⟨rfl | hmem, hid⟩
        · exact absurd hfirst hid
        · exact ⟨hmem, hid⟩
    · rw [keepNew, if_neg hfirst, List.map_cons, List.mem_cons, ih]
      simp only [List.map_cons, List.mem_cons, List.mem_append, List.not_mem_nil, or_false, not_or]
      constructor
      · rintro (rfl | ⟨hmem, hid, hne⟩)
        · exact ⟨.inl rfl, hfirst⟩
        · exact ⟨.inr hmem, hid⟩
      · rintro ⟨rfl | hmem, hid⟩
        · exact .inl rfl
        · by_cases hne : id = first
          · exact .inl hne
          · exact .inr ⟨hmem, hid, hne⟩

theorem Turn.isSome_answer {turn : Turn} {seen : List JsString} {id : JsString} :
    (turn.answer seen id).isSome = true ↔
      id ∈ turn.callIds ∧ id ∉ seen ∧ turn.span.any (answers id) = true := by
  unfold answer Transcript.answer
  split_ifs with hid
  · rw [Option.isSome_map, List.find?_isSome, List.any_eq_true]
    exact ⟨fun hany => ⟨hid.1, hid.2, hany⟩, fun hall => hall.2.2⟩
  · constructor
    · simp
    · rintro ⟨hown, hseen, -⟩
      exact absurd ⟨hown, hseen⟩ hid

theorem Turn.sameIds_seenAfter (now : JsNumber) (seen : List JsString) (turn : Turn) :
    SameIds (turn.seenAfter policy now seen) (seen ++ turn.answeredIds policy) := by
  intro id
  rw [seenAfter, List.mem_append, kept, mem_ids_keepNew, results_ids, List.mem_append]
  by_cases hseen : id ∈ seen
  · simp [hseen]
  · simp only [hseen, not_false_eq_true, and_true, false_or]
    unfold resultIds answeredIds
    split_ifs
    · cases policy with
      | preserve =>
        simp only [List.mem_filter, isSome_answer, callIds]
        constructor
        · rintro ⟨hown, -, -, hany⟩
          exact ⟨hown, hany⟩
        · rintro ⟨hown, hany⟩
          exact ⟨hown, hown, hseen, hany⟩
      | drop => rfl
    · rfl

/-- Whether the repair notices something to change in a transcript. -/
def needsRepair (policy : ErroredAssistantResultPolicy) (messages : List JsValue) : Bool :=
  (turns messages).1.any isToolResult || (visits policy messages).any fun (seen, turn) =>
      turn.needsRepair policy seen

def repairedTurns (policy : ErroredAssistantResultPolicy) (now : JsNumber)
    (messages : List JsValue) : List Turn :=
  (visits policy messages).map fun (seen, turn) =>
    turn.repaired policy now seen

def repairedMessages (policy : ErroredAssistantResultPolicy) (now : JsNumber)
    (messages : List JsValue) : List JsValue :=
  join (others (turns messages).1) (repairedTurns policy now messages)

section Loop

variable (policy : ErroredAssistantResultPolicy) (now : JsNumber)

theorem foldl_visitTurn (later : List Turn) {seen : List JsString}
    (state : RepairState) (hsame : SameIds state.seenToolResultIds seen) :
    let after := later.foldl (RepairState.visitTurn policy now) state
    let walk := withSeen policy seen later
    after.out = state.out ++ (walk.map fun (seen, turn) =>
        turn.repaired policy now seen).flatMap messages ∧
      after.added = state.added ++ walk.flatMap (fun (seen, turn) => turn.added now seen) ∧
      after.changed = (state.changed || walk.any fun (seen, turn) => turn.needsRepair policy seen) ∧
      (after.moved = true → state.moved = true ∨ after.changed = true) := by
  induction later generalizing seen state with
  | nil => simpa [withSeen] using .inl
  | cons turn rest ih =>
    have hturn := visitTurn_spec policy now turn state
    have hafter : SameIds (state.visitTurn policy now turn).seenToolResultIds
        (seen ++ turn.answeredIds policy) := by
      intro id
      rw [hturn.seen, sameIds_seenAfter policy now _ turn id]
      exact hsame.append _ id
    obtain ⟨hout, hadded, hchanged, hmoved⟩ := ih _ hafter
    simp only [List.foldl_cons, withSeen, List.map_cons, List.flatMap_cons, List.any_cons]
    refine ⟨?_, ?_, ?_, fun hmovedAfter => ?_⟩
    · rw [hout, hturn.out, repaired_congr hsame, List.append_assoc]
    · rw [hadded, hturn.added, added_congr hsame, List.append_assoc]
    · rw [hchanged, hturn.changed, needsRepair_congr hsame, Bool.or_assoc]
    · rcases hmoved hmovedAfter with hmiddle | hdone
      · rcases hturn.moved hmiddle with hstate | hchangedNow
        · exact .inl hstate
        · right
          rw [hchanged, hchangedNow, Bool.true_or]
      · exact .inr hdone

theorem repair_spec (messages : List JsValue) :
    (repairToolUseResultPairing policy now messages).messages = (if needsRepair policy messages then
          repairedMessages policy now messages else messages) ∧
      (repairToolUseResultPairing policy now messages).added =
        (visits policy messages).flatMap fun (seen, turn) =>
          turn.added now seen := by
  obtain ⟨hout, hadded, hseen, hmoved, hchanged⟩ := foldl_visitOther (turns messages).1 .initial
  have hsame : SameIds ((turns messages).1.foldl RepairState.visitOther
      .initial).seenToolResultIds [] := by
    intro id
    rw [hseen]
    rfl
  obtain ⟨hout', hadded', hchanged', hmoved'⟩ :=
    foldl_visitTurn policy now (turns messages).2 _ hsame
  let final := repairLoop policy now messages
  have hfinalOut : final.out = repairedMessages policy now messages := by
    apply hout'.trans
    rw [hout]
    rfl
  have hfinalAdded : final.added = (visits policy messages).flatMap
      fun (seen, turn) => turn.added now seen := by
    apply hadded'.trans
    rw [hadded]
    rfl
  have hfinalChanged : final.changed = needsRepair policy messages := by
    apply hchanged'.trans
    rw [hchanged]
    rfl
  have hfinalMoved : final.moved = true → final.changed = true := by
    intro hfinal
    rcases hmoved' hfinal with hstart | hdone
    · rw [hmoved] at hstart
      simp [RepairState.initial] at hstart
    · exact hdone
  have hflag : (final.changed || final.moved) = needsRepair policy messages := by
    rw [← hfinalChanged]
    cases hmovedCase : final.moved with
    | false => simp
    | true => simp [hfinalMoved hmovedCase]
  constructor
  · change (if (final.changed || final.moved) = true then final.out
      else messages) = _
    rw [hflag, hfinalOut]
  · exact hfinalAdded

end Loop

/-! ## The results of a turn -/

theorem allNew_keepNew (seen : List JsString) (results : List (JsString × JsValue)) :
    allNew seen ((keepNew seen results).map Prod.fst) = true := by
  induction results generalizing seen with
  | nil => rfl
  | cons entry rest ih =>
    obtain ⟨id, result⟩ := entry
    by_cases hseen : id ∈ seen
    · rw [keepNew, if_pos hseen]
      exact ih seen
    · rw [keepNew, if_neg hseen]
      simpa [allNew, hseen] using ih (seen ++ [id])

theorem keepNew_subset {seen : List JsString} {results : List (JsString × JsValue)} :
    keepNew seen results ⊆ results := by
  induction results generalizing seen with
  | nil => exact List.Subset.refl _
  | cons entry rest ih =>
    obtain ⟨id, result⟩ := entry
    rw [keepNew]
    split_ifs
    · exact List.subset_cons_of_subset _ ih
    · exact List.cons_subset_cons _ ih

def Turn.Answers (turn : Turn) (entry : JsString × JsValue) : Prop :=
  entry.1 ∈ turn.callIds ∧ isToolResult entry.2 = true ∧ extractToolResultId entry.2 = some entry.1

section Results

variable {policy : ErroredAssistantResultPolicy} {now : JsNumber}
  {seen : List JsString} {turn : Turn}

theorem Turn.answers_of_answer {id : JsString} {result : JsValue}
    (hanswer : turn.answer seen id = some result) :
    turn.Answers (id, result) := by
  have hown : id ∈ turn.callIds := by
    have hsome : (turn.answer seen id).isSome = true := by
      rw [hanswer]
      rfl
    exact (isSome_answer.mp hsome).1
  unfold answer Transcript.answer at hanswer
  split_ifs at hanswer
  obtain ⟨message, hfind, rfl⟩ := Option.map_eq_some_iff.mp hanswer
  have hanswers := List.find?_some hfind
  simp only [answers, Bool.and_eq_true, decide_eq_true_eq] at hanswers
  constructor
  · exact hown
  · constructor
    · rw [isToolResult_normalize]
      exact hanswers.1
    · rw [extractToolResultId_normalize]
      exact hanswers.2

theorem Turn.answers_of_mem_results {entry : JsString × JsValue}
    (hmem : entry ∈ turn.results policy now seen) : turn.Answers entry := by
  unfold results at hmem
  split_ifs at hmem
  · cases policy with
    | preserve =>
      obtain ⟨call, hcall, hentry⟩ := List.mem_filterMap.mp hmem
      obtain ⟨result, hresult, rfl⟩ := Option.map_eq_some_iff.mp hentry
      exact answers_of_answer hresult
    | drop => simp at hmem
  · obtain ⟨call, hcall, rfl⟩ := List.mem_map.mp hmem
    cases hanswer : turn.answer seen call.id with
    | some result => exact answers_of_answer hanswer
    | none =>
      have hid : call.id ≠ [] := id_ne_nil_of_mem hcall
      exact ⟨List.mem_map_of_mem hcall, isToolResult_makeMissing now call,
        extractToolResultId_makeMissing now call hid⟩

theorem Turn.answers_of_mem_kept {entry : JsString × JsValue}
    (hmem : entry ∈ turn.kept policy now seen) : turn.Answers entry :=
  answers_of_mem_results (keepNew_subset hmem)

theorem Turn.isToolResult_of_mem_kept {message : JsValue}
    (hmem : message ∈ (turn.kept policy now seen).map Prod.snd) :
    isToolResult message = true := by
  obtain ⟨entry, hentry, rfl⟩ := List.mem_map.mp hmem
  exact (answers_of_mem_kept hentry).2.1

theorem Turn.ids_kept : ((turn.kept policy now seen).map Prod.snd).map extractToolResultId =
      ((turn.kept policy now seen).map Prod.fst).map some := by
  simp only [List.map_map]
  apply List.map_congr_left
  intro entry hentry
  exact (answers_of_mem_kept hentry).2.2

theorem mem_others {messages : List JsValue} {message : JsValue} :
    message ∈ others messages ↔ message ∈ messages ∧ isToolResult message = false := by
  simp [others]

theorem takeWhile_repaired : (turn.repaired policy now seen).span.takeWhile isToolResult =
      (turn.kept policy now seen).map Prod.snd := by
  have hothers : (others turn.span).takeWhile isToolResult = [] := by
    cases hcase : others turn.span with
    | nil => rfl
    | cons message rest =>
      have hmem : message ∈ others turn.span := by simp [hcase]
      rw [List.takeWhile_cons, (mem_others.mp hmem).2]
      rfl
  rw [repaired, List.takeWhile_append_of_pos
    (fun message hmem => isToolResult_of_mem_kept hmem), hothers,
    List.append_nil]

theorem dropWhile_repaired : (turn.repaired policy now seen).span.dropWhile isToolResult =
      others turn.span := by
  have hothers : (others turn.span).dropWhile isToolResult = others turn.span := by
    cases hcase : others turn.span with
    | nil => rfl
    | cons message rest =>
      have hmem : message ∈ others turn.span := by simp [hcase]
      rw [List.dropWhile_cons, (mem_others.mp hmem).2]
      rfl
  rw [repaired, List.dropWhile_append_of_pos
    (fun message hmem => isToolResult_of_mem_kept hmem), hothers]

end Results

theorem map_snd_withSeen (policy : ErroredAssistantResultPolicy)
    (seen : List JsString) (later : List Turn) :
    (withSeen policy seen later).map Prod.snd = later := by
  induction later generalizing seen with
  | nil => rfl
  | cons turn rest ih => rw [withSeen, List.map_cons, ih]

theorem mem_turns_of_mem_visits {policy : ErroredAssistantResultPolicy}
    {messages : List JsValue} {visit : List JsString × Turn}
    (hmem : visit ∈ visits policy messages) :
    visit.2 ∈ (turns messages).2 := by
  rw [← map_snd_withSeen policy [] (turns messages).2]
  exact List.mem_map_of_mem hmem

theorem exists_visit {policy : ErroredAssistantResultPolicy} {messages : List JsValue} {turn : Turn}
    (hmem : turn ∈ (turns messages).2) :
    ∃ seen, (seen, turn) ∈ visits policy messages := by
  rw [← map_snd_withSeen policy [] (turns messages).2] at hmem
  obtain ⟨visit, hvisit, rfl⟩ := List.mem_map.mp hmem
  exact ⟨visit.1, hvisit⟩

theorem turns_repairedMessages (policy : ErroredAssistantResultPolicy)
    (now : JsNumber) (messages : List JsValue) :
    turns (repairedMessages policy now messages) =
      (others (turns messages).1, repairedTurns policy now messages) := by
  have hcut := isCut_turns messages
  apply turns_join
  constructor
  · intro message hmem
    exact hcut.leading message (mem_others.mp hmem).1
  · intro turn hmem
    obtain ⟨⟨seen, before⟩, hvisit, rfl⟩ := List.mem_map.mp hmem
    exact hcut.assistants before (mem_turns_of_mem_visits hvisit)
  · intro turn hmem message hmessage
    obtain ⟨⟨seen, before⟩, hvisit, rfl⟩ := List.mem_map.mp hmem
    rcases List.mem_append.mp hmessage with hkept | hother
    · exact isAssistant_eq_false_of_isToolResult (isToolResult_of_mem_kept hkept)
    · exact hcut.spans before (mem_turns_of_mem_visits hvisit) message (mem_others.mp hother).1

/-- The results right behind an assistant message are those of its calls, in
the order of the calls where the turn did not fail, and there are no
others. -/
structure Turn.IsPaired (turn : Turn) : Prop where
  answered : isErrored turn.assistant = false →
    (turn.span.takeWhile isToolResult).map extractToolResultId = turn.callIds.map some
  own : ∀ message ∈ turn.span.takeWhile isToolResult,
    ∃ id ∈ turn.callIds, extractToolResultId message = some id
  elsewhere : ∀ message ∈ turn.span.dropWhile isToolResult, isToolResult message = false

structure IsPaired (messages : List JsValue) : Prop where
  leading : ∀ message ∈ (turns messages).1, isToolResult message = false
  later : ∀ turn ∈ (turns messages).2, turn.IsPaired

/-- No assistant message that did not fail repeats an id or uses one that was
answered before its turn. -/
def FreshCalls (policy : ErroredAssistantResultPolicy) (messages : List JsValue) : Prop :=
  ∀ visit ∈ visits policy messages, isErrored visit.2.assistant = false →
    visit.2.callIds.Nodup ∧ ∀ id ∈ visit.2.callIds, id ∉ visit.1

/-- The results behind an assistant message are in the order of its calls, and
those of a failed one precede the other messages of its span. -/
structure Turn.IsOrdered (turn : Turn) : Prop where
  answered : isErrored turn.assistant = false →
    (turn.span.filter isToolResult).map extractToolResultId = turn.callIds.map some
  errored : isErrored turn.assistant = true →
    ∀ message ∈ turn.span.dropWhile isToolResult, isToolResult message = false

theorem Turn.isPaired_repaired (now : JsNumber) (seen : List JsString) (turn : Turn) :
    (turn.repaired policy now seen).IsPaired ↔ (isErrored turn.assistant = false →
        turn.callIds.Nodup ∧ ∀ id ∈ turn.callIds, id ∉ seen) := by
  have hcalls : (turn.repaired policy now seen).callIds = turn.callIds := rfl
  constructor
  · intro hpaired herrored
    have hids := hpaired.answered herrored
    rw [takeWhile_repaired, ids_kept, hcalls] at hids
    have hkept : (turn.kept policy now seen).map Prod.fst = turn.callIds :=
      List.map_injective_iff.mpr (Option.some_injective _) hids
    apply allNew_iff.mp
    rw [← hkept]
    exact allNew_keepNew seen _
  · intro hfresh
    constructor
    · intro herrored
      rw [takeWhile_repaired, ids_kept, hcalls]
      have hresults : (turn.results policy now seen).map Prod.fst =
          turn.callIds := by
        rw [results_ids]
        have hfalse : isErrored turn.assistant = false := herrored
        simp [resultIds, hfalse, callIds]
      have hnew : allNew seen ((turn.results policy now seen).map Prod.fst) = true := by
        rw [hresults]
        exact allNew_iff.mpr (hfresh herrored)
      rw [kept, keepNew_of_allNew hnew, hresults]
    · intro message hmem
      rw [takeWhile_repaired] at hmem
      obtain ⟨entry, hentry, rfl⟩ := List.mem_map.mp hmem
      obtain ⟨hown, -, hid⟩ := answers_of_mem_kept hentry
      exact ⟨entry.1, hown, hid⟩
    · intro message hmem
      rw [dropWhile_repaired] at hmem
      exact (mem_others.mp hmem).2

theorem isPaired_repairedMessages (policy : ErroredAssistantResultPolicy)
    (now : JsNumber) (messages : List JsValue) :
    IsPaired (repairedMessages policy now messages) ↔ FreshCalls policy messages := by
  have hturns := turns_repairedMessages policy now messages
  constructor
  · intro hpaired visit hvisit
    apply (isPaired_repaired policy now visit.1 visit.2).mp
    apply hpaired.later
    rw [hturns]
    exact List.mem_map_of_mem (f := fun visit : List JsString × Turn =>
      visit.2.repaired policy now visit.1) hvisit
  · intro hfresh
    constructor
    · intro message hmem
      rw [hturns] at hmem
      exact (mem_others.mp hmem).2
    · intro turn hmem
      rw [hturns] at hmem
      obtain ⟨visit, hvisit, rfl⟩ := List.mem_map.mp hmem
      exact (isPaired_repaired policy now visit.1 visit.2).mpr (hfresh visit hvisit)

/-! ## Transcripts that are returned as they are -/

section Untouched

variable {policy : ErroredAssistantResultPolicy} {seen : List JsString} {turn : Turn}

theorem Turn.answered_of_any_eq_false (hnone : (turn.calls.any fun call =>
      !(turn.answer seen call.id).isSome) = false) :
    ∀ call ∈ turn.calls, (turn.answer seen call.id).isSome = true := by
  intro call hcall
  have hnot := List.any_eq_false.mp hnone call hcall
  rwa [Bool.not_eq_true', Bool.not_eq_false] at hnot

structure Turn.Untouched (policy : ErroredAssistantResultPolicy)
    (seen : List JsString) (turn : Turn) : Prop where
  own : ∀ message ∈ turn.span, isToolResult message = true →
    ∃ id ∈ turn.callIds, extractToolResultId message = some id ∧ id ∉ seen
  new : allNew seen (turn.resultIds policy seen) = true
  answered : isErrored turn.assistant = false →
    ∀ call ∈ turn.calls, (turn.answer seen call.id).isSome = true
  first : isErrored turn.assistant = false → turn.calls ≠ [] → others turn.span = []
  dropped : isErrored turn.assistant = true → policy = .drop → turn.isAnswered seen = false

theorem Turn.untouched_of_needsRepair (hnone : turn.needsRepair policy seen = false) :
    turn.Untouched policy seen := by
  unfold needsRepair at hnone
  simp only [Bool.or_eq_false_iff] at hnone
  obtain ⟨⟨hfaulty, hnew⟩, hrest⟩ := hnone
  have hfine : ∀ message ∈ turn.span, isFaulty turn.calls seen message = false := by
    simpa using hfaulty
  constructor
  · intro message hmem hresult
    have hmessage := hfine message hmem
    rw [isFaulty, hresult, Bool.true_and] at hmessage
    cases hid : extractToolResultId message with
    | none => simp [hid] at hmessage
    | some id =>
      simp only [hid, Bool.or_eq_false_iff, decide_eq_false_iff_not, not_not] at hmessage
      exact ⟨id, hmessage.1.1, rfl, hmessage.1.2⟩
  · simpa using hnew
  · intro herrored
    simp only [herrored, Bool.false_eq_true, if_false, Bool.or_eq_false_iff] at hrest
    exact answered_of_any_eq_false hrest.1
  · intro herrored hcalls
    simp only [herrored, Bool.false_eq_true, if_false, Bool.or_eq_false_iff] at hrest
    obtain ⟨hall, hshifted⟩ := hrest
    have hsome : turn.isAnswered seen = true := by
      obtain ⟨call, hcall⟩ := List.exists_mem_of_ne_nil _ hcalls
      apply List.any_eq_true.mpr
      exact ⟨call, hcall, answered_of_any_eq_false hall call hcall⟩
    simpa [hsome] using hshifted
  · intro herrored hpolicy
    simpa [herrored, hpolicy] using hrest

theorem filter_eq_takeWhile {messages : List JsValue}
    (helsewhere : ∀ message ∈ messages.dropWhile isToolResult, isToolResult message = false) :
    messages.filter isToolResult = messages.takeWhile isToolResult := by
  have hrest : (messages.dropWhile isToolResult).filter isToolResult = [] := by
    apply List.filter_eq_nil_iff.mpr
    intro message hmem
    simp [helsewhere message hmem]
  have hfront : (messages.takeWhile isToolResult).filter isToolResult =
      messages.takeWhile isToolResult := by
    apply List.filter_eq_self.mpr
    intro message hmem
    exact List.mem_takeWhile_imp hmem
  calc
    messages.filter isToolResult = (messages.takeWhile isToolResult ++
          messages.dropWhile isToolResult).filter isToolResult := by
          rw [List.takeWhile_append_dropWhile]
    _ = messages.takeWhile isToolResult := by
          rw [List.filter_append, hrest, hfront, List.append_nil]

theorem Turn.Untouched.elsewhere (huntouched : turn.Untouched policy seen)
    (herrored : isErrored turn.assistant = false) :
    ∀ message ∈ turn.span.dropWhile isToolResult, isToolResult message = false := by
  by_cases hcalls : turn.calls = []
  · -- Without calls there is no result that could be a call's own.
    intro message hmem
    by_contra hresult
    obtain ⟨id, hid, -⟩ := huntouched.own message
      ((List.dropWhile_sublist _).subset hmem) (by simpa using hresult)
    simp [callIds, hcalls] at hid
  · have hothers := huntouched.first herrored hcalls
    have hall : ∀ message ∈ turn.span, isToolResult message = true := by
      intro message hmem
      by_contra hresult
      have hother : message ∈ others turn.span := mem_others.mpr ⟨hmem, by simpa using hresult⟩
      simp [hothers] at hother
    intro message hmem
    rw [List.dropWhile_eq_nil_iff.mpr hall] at hmem
    simp at hmem

theorem Turn.Untouched.isPaired_iff (huntouched : turn.Untouched policy seen) :
    turn.IsPaired ↔ turn.IsOrdered := by
  constructor
  · intro hpaired
    constructor
    · intro herrored
      rw [filter_eq_takeWhile hpaired.elsewhere]
      exact hpaired.answered herrored
    · intro _
      exact hpaired.elsewhere
  · intro hordered
    have helsewhere : ∀ message ∈ turn.span.dropWhile isToolResult,
        isToolResult message = false := by
      cases herrored : isErrored turn.assistant with
      | false => exact huntouched.elsewhere herrored
      | true => exact hordered.errored herrored
    constructor
    · intro herrored
      rw [← filter_eq_takeWhile helsewhere]
      exact hordered.answered herrored
    · intro message hmem
      obtain ⟨id, hid, hextract, -⟩ := huntouched.own message
        ((List.takeWhile_sublist _).subset hmem) (List.mem_takeWhile_imp hmem)
      exact ⟨id, hid, hextract⟩
    · exact helsewhere

end Untouched

section Report

variable (policy : ErroredAssistantResultPolicy) (now : JsNumber) (messages : List JsValue)

def IsOrdered (messages : List JsValue) : Prop := ∀ turn ∈ (turns messages).2, turn.IsOrdered

theorem untouched_of_mem_visits {policy : ErroredAssistantResultPolicy} {messages : List JsValue}
    (hnone : needsRepair policy messages = false)
    {visit : List JsString × Turn} (hvisit : visit ∈ visits policy messages) :
    visit.2.Untouched policy visit.1 := by
  unfold needsRepair at hnone
  rw [Bool.or_eq_false_iff] at hnone
  apply untouched_of_needsRepair
  simpa using List.any_eq_false.mp hnone.2 visit hvisit

theorem freshCalls_of_untouched (hnone : needsRepair policy messages = false) :
    FreshCalls policy messages := by
  intro visit hvisit herrored
  have hnew := (untouched_of_mem_visits hnone hvisit).new
  rw [allNew_iff] at hnew
  simpa [resultIds, herrored, Turn.callIds] using hnew

theorem isPaired_iff_of_untouched (hnone : needsRepair policy messages = false) :
    IsPaired messages ↔ IsOrdered messages := by
  constructor
  · intro hpaired turn hmem
    obtain ⟨seen, hvisit⟩ := @exists_visit policy _ _ hmem
    exact (untouched_of_mem_visits hnone hvisit).isPaired_iff.mp (hpaired.later turn hmem)
  · intro hordered
    constructor
    · intro message hmem
      unfold needsRepair at hnone
      rw [Bool.or_eq_false_iff] at hnone
      simpa using List.any_eq_false.mp hnone.1 message hmem
    · intro turn hmem
      obtain ⟨seen, hvisit⟩ := @exists_visit policy _ _ hmem
      exact (untouched_of_mem_visits hnone hvisit).isPaired_iff.mpr (hordered turn hmem)

/-- The repair pairs calls and results exactly where no call of a turn that
did not fail reuses an id, and there is something the repair notices or
nothing out of order. -/
theorem isPaired_repairToolUseResultPairing :
    IsPaired (repairToolUseResultPairing policy now messages).messages ↔
      FreshCalls policy messages ∧ (needsRepair policy messages = true ∨ IsOrdered messages) := by
  rw [(repair_spec policy now messages).1]
  cases hneeds : needsRepair policy messages with
  | true =>
    rw [if_pos rfl, isPaired_repairedMessages]
    simp
  | false =>
    rw [if_neg (by simp), isPaired_iff_of_untouched policy messages hneeds]
    constructor
    · intro hordered
      exact ⟨freshCalls_of_untouched policy messages hneeds, .inr hordered⟩
    · rintro ⟨-, hmissing | hordered⟩
      · simp at hmissing
      · exact hordered

end Report

section Crossed

def callingMessage (ids : List JsString) : JsValue :=
  .object [(js "role", .string (js "assistant")), (js "content", .array (ids.map fun id => .object
        [(js "type", .string (js "toolCall")), (js "id", .string id),
          (js "name", .string (js "read"))]))]

def resultMessage (id : JsString) : JsValue :=
  .object [(js "role", .string (js "toolResult")), (js "toolCallId", .string id),
      (js "toolName", .string (js "read")), (js "content", .array [])]

theorem crossed_results_stay : ¬IsPaired (repairToolUseResultPairing .preserve (.finite 0)
      [callingMessage [js "a", js "b"], resultMessage (js "b"),
        resultMessage (js "a")]).messages := by
  intro hpaired
  have hturn := hpaired.later ⟨callingMessage [js "a", js "b"],
    [resultMessage (js "b"), resultMessage (js "a")]⟩ List.mem_cons_self
  have hids := hturn.answered rfl
  exact absurd hids (by decide)

end Crossed

end LittleBaby.Transcript
