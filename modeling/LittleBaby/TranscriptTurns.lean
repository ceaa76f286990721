import LittleBaby.TranscriptRepair

/-!
# What the repair does to each turn

The repair leaves the assistant messages and every other message of a span
where they are and replaces the tool results.
-/

namespace LittleBaby.Transcript

open JsString JsValue Turn SpanScan

def Turn.messages (turn : Turn) : List JsValue := turn.assistant :: turn.span

def join (leading : List JsValue) (later : List Turn) : List JsValue :=
  leading ++ later.flatMap messages

structure IsCut (leading : List JsValue) (later : List Turn) : Prop where
  leading : ∀ message ∈ leading, isAssistant message = false
  assistants : ∀ turn ∈ later, isAssistant turn.assistant = true
  spans : ∀ turn ∈ later, ∀ message ∈ turn.span, isAssistant message = false

variable (toolCalls : List ToolCallLike) (messages : List JsValue)

theorem join_turns : join (turns messages).1 (turns messages).2 = messages := by
  induction messages with
  | nil => rfl
  | cons message rest ih =>
    rw [turns]
    by_cases hassistant : isAssistant message = true
    · simp only [hassistant, if_true]
      have hrest : (turns rest).1 ++ (turns rest).2.flatMap Turn.messages = rest := ih
      simp [join, Turn.messages, hrest]
    · have hrest : (turns rest).1 ++ (turns rest).2.flatMap Turn.messages = rest := ih
      simp [hassistant, join, hrest]

theorem isCut_turns : IsCut (turns messages).1 (turns messages).2 := by
  induction messages with
  | nil =>
    constructor <;> simp [turns]
  | cons message rest ih =>
    rw [turns]
    by_cases hassistant : isAssistant message = true
    · simp only [hassistant, if_true]
      constructor
      · simp
      · intro turn hmem
        rcases List.mem_cons.mp hmem with rfl | hlater
        · exact hassistant
        · exact ih.assistants turn hlater
      · intro turn hmem
        rcases List.mem_cons.mp hmem with rfl | hlater
        · exact ih.leading
        · exact ih.spans turn hlater
    · have hnot : isAssistant message = false := by simpa using hassistant
      simp only [hnot, Bool.false_eq_true, if_false]
      constructor
      · intro other hmem
        rcases List.mem_cons.mp hmem with rfl | hleading
        · exact hnot
        · exact ih.leading other hleading
      · exact ih.assistants
      · exact ih.spans

theorem turns_append_of_not_assistant {leading : List JsValue}
    (hleading : ∀ message ∈ leading, isAssistant message = false)
    (messages : List JsValue) :
    turns (leading ++ messages) = (leading ++ (turns messages).1, (turns messages).2) := by
  induction leading with
  | nil => rfl
  | cons message rest ih =>
    have hmessage := hleading message List.mem_cons_self
    have hrest := ih fun other hmem =>
      hleading other (List.mem_cons_of_mem _ hmem)
    rw [List.cons_append, turns, hrest]
    simp [hmessage]

theorem turns_join {leading : List JsValue} {later : List Turn} (hcut : IsCut leading later) :
    turns (join leading later) = (leading, later) := by
  have hlater : turns (later.flatMap messages) = ([], later) := by
    have hassistants := hcut.assistants
    have hspans := hcut.spans
    clear hcut
    induction later with
    | nil => rfl
    | cons turn rest ih =>
      have hrest := ih (fun other hmem => hassistants other (List.mem_cons_of_mem _ hmem))
        (fun other hmem => hspans other (List.mem_cons_of_mem _ hmem))
      have hassistant := hassistants turn List.mem_cons_self
      have hspan := turns_append_of_not_assistant
        (hspans turn List.mem_cons_self) (rest.flatMap messages)
      rw [hrest, List.append_nil] at hspan
      rw [List.flatMap_cons, messages, List.cons_append, turns, hspan]
      simp [hassistant]
  rw [join, turns_append_of_not_assistant hcut.leading, hlater, List.append_nil]

/-! ## The loop over a span -/

def others : List JsValue := messages.filter fun message => !isToolResult message

def nameOf (id : JsString) : Option JsString := ((toolCallNamesById toolCalls).lookup id).getD none

def answers (id : JsString) (message : JsValue) : Bool :=
  isToolResult message && decide (extractToolResultId message = some id)

/-- The tool result that a span holds for an id, with its name put right. -/
def answer (seen : List JsString) (span : List JsValue) (id : JsString) : Option JsValue :=
  if id ∈ toolCalls.map ToolCallLike.id ∧ id ∉ seen then
    (span.find? (answers id)).map fun message =>
      normalizeToolResultName message (nameOf toolCalls id)
  else none

def isFaulty (seen : List JsString) (message : JsValue) : Bool :=
  isToolResult message && match extractToolResultId message with
    | some id =>
      decide (id ∉ toolCalls.map ToolCallLike.id) || decide (id ∈ seen) ||
        (normalizedToolName message (nameOf toolCalls id)).isSome
    | none => true

section Scan

variable (toolCalls : List ToolCallLike) (seen : List JsString)

variable (scan : SpanScan) (message : JsValue)

theorem answer_cons (rest : List JsValue) (id : JsString) :
    answer toolCalls seen (message :: rest) id = (answer toolCalls seen [message] id).or
        (answer toolCalls seen rest id) := by
  unfold answer
  split_ifs with hid
  · by_cases hmessage : answers id message = true
    · simp [hmessage]
    · simp [hmessage]
  · rfl

theorem answer_singleton_of_ne {message : JsValue} {id : JsString}
    (hid : extractToolResultId message ≠ some id) :
    answer toolCalls seen [message] id = none := by
  unfold answer
  split_ifs
  · simp [answers, hid]
  · rfl

theorem answer_singleton {message : JsValue} {id : JsString} (hresult : isToolResult message = true)
    (hid : extractToolResultId message = some id)
    (hown : id ∈ toolCalls.map ToolCallLike.id) (hseen : id ∉ seen) :
    answer toolCalls seen [message] id =
      some (normalizeToolResultName message (nameOf toolCalls id)) := by
  rw [answer, if_pos ⟨hown, hseen⟩]
  simp [answers, hresult, hid]

theorem visit_cases : (isToolResult message = false ∧ scan.visit toolCalls seen message =
        { scan with remainder := scan.remainder ++ [message] }) ∨
    (isToolResult message = true ∧ isFaulty toolCalls seen message = true ∧
      (∀ id, answer toolCalls seen [message] id = none) ∧
      ∃ duplicates orphans, scan.visit toolCalls seen message = { scan with
          droppedDuplicateCount := duplicates
          droppedOrphanCount := orphans
          changed := true }) ∨
    ∃ id, isToolResult message = true ∧ extractToolResultId message = some id ∧
      id ∈ toolCalls.map ToolCallLike.id ∧ id ∉ seen ∧
      scan.visit toolCalls seen message = scan.keep toolCalls id message := by
  by_cases hresult : isToolResult message = true
  · right
    cases hid : extractToolResultId message with
    | none =>
      left
      refine ⟨hresult, by simp [isFaulty, hresult, hid], fun id => ?_,
        scan.droppedDuplicateCount, scan.droppedOrphanCount + 1, ?_⟩
      · exact answer_singleton_of_ne toolCalls seen (by simp [hid])
      · simp [visit, hresult, hid]
    | some id =>
      by_cases hown : id ∈ toolCalls.map ToolCallLike.id
      · by_cases hseen : id ∈ seen
        · left
          refine ⟨hresult, by simp [isFaulty, hresult, hid, hseen],
            fun other => ?_, scan.droppedDuplicateCount + 1,
            scan.droppedOrphanCount, ?_⟩
          · unfold answer
            split_ifs with hother
            · have hne : id ≠ other := fun heq => hother.2 (heq ▸ hseen)
              simp [answers, hid, hne]
            · rfl
          · simp [visit, hresult, hid, hown, hseen]
        · right
          refine ⟨id, hresult, rfl, hown, hseen, ?_⟩
          simp [visit, hresult, hid, hown, hseen]
      · left
        refine ⟨hresult, ?_, fun other => ?_, scan.droppedDuplicateCount,
          scan.droppedOrphanCount + 1, ?_⟩
        · simp only [isFaulty, hresult, hid, hown]
          simp
        · unfold answer
          split_ifs with hother
          · have hne : id ≠ other := fun heq => hown (heq ▸ hother.1)
            simp [answers, hid, hne]
          · rfl
        · simp [visit, hresult, hid, hown]
  · left
    have hnot : isToolResult message = false := by simpa using hresult
    exact ⟨hnot, by simp [visit, hnot]⟩

theorem lookup_keep (id other : JsString) :
    (scan.keep toolCalls id message).spanResultsById.lookup other =
      (scan.spanResultsById.lookup other).or (if other = id then
          some (normalizeToolResultName message (nameOf toolCalls id))
        else none) := by
  unfold keep
  by_cases hfound : (scan.spanResultsById.lookup id).isSome = true
  · by_cases hother : other = id
    · obtain ⟨result, hresult⟩ := Option.isSome_iff_exists.mp hfound
      simp [hother, hresult]
    · simp [hfound, hother]
  · by_cases hother : other = id
    · simp [hfound, hother, List.lookup_append, nameOf]
    · have hne : (other == id) = false := by simpa using hother
      simp [hfound, hother, List.lookup_append, List.lookup_cons, hne]

theorem visit_spec : (scan.visit toolCalls seen message).remainder =
        scan.remainder ++ others [message] ∧
      (scan.visit toolCalls seen message).changed =
        (scan.changed || isFaulty toolCalls seen message) ∧
      ∀ id, (scan.visit toolCalls seen message).spanResultsById.lookup id =
        (scan.spanResultsById.lookup id).or (answer toolCalls seen [message] id) := by
  rcases visit_cases toolCalls seen scan message with
    ⟨hresult, hvisit⟩ | ⟨hresult, hfaulty, hnone, duplicates, orphans, hvisit⟩ |
    ⟨id, hresult, hid, hown, hseen, hvisit⟩
  · rw [hvisit]
    refine ⟨by simp [others, hresult], by simp [isFaulty, hresult], fun id => ?_⟩
    have hnone : answer toolCalls seen [message] id = none := by
      simp [answer, answers, hresult]
    rw [hnone, Option.or_none]
  · rw [hvisit]
    refine ⟨by simp [others, hresult], by simp [hfaulty], fun id => ?_⟩
    rw [hnone id, Option.or_none]
  · rw [hvisit]
    refine ⟨by simp [keep, others, hresult], ?_, fun other => ?_⟩
    · have hfaulty : isFaulty toolCalls seen message =
          (normalizedToolName message (nameOf toolCalls id)).isSome := by
        simp only [isFaulty, hresult, hid, hown, hseen]
        simp
      rw [hfaulty]
      rfl
    · rw [lookup_keep]
      by_cases hother : other = id
      · rw [hother, answer_singleton toolCalls seen hresult hid hown hseen, if_pos rfl]
      · rw [if_neg hother, answer_singleton_of_ne toolCalls seen
          (by simpa [hid] using Ne.symm hother)]

theorem scan_spec (span : List JsValue) (scan : SpanScan) :
    (span.foldl (visit toolCalls seen) scan).remainder = scan.remainder ++ others span ∧
      (span.foldl (visit toolCalls seen) scan).changed =
        (scan.changed || span.any (isFaulty toolCalls seen)) ∧
      ∀ id, (span.foldl (visit toolCalls seen) scan).spanResultsById.lookup id =
        (scan.spanResultsById.lookup id).or (answer toolCalls seen span id) := by
  induction span generalizing scan with
  | nil =>
    refine ⟨by simp [others], by simp, fun id => ?_⟩
    simp [answer]
  | cons message rest ih =>
    obtain ⟨hremainder, hchanged, hlookup⟩ := visit_spec toolCalls seen scan message
    obtain ⟨hremainder', hchanged', hlookup'⟩ := ih (scan.visit toolCalls seen message)
    rw [List.foldl_cons]
    refine ⟨?_, ?_, fun id => ?_⟩
    · rw [hremainder', hremainder, List.append_assoc]
      congr 1
      simp [others, List.filter_cons]
      split_ifs <;> rfl
    · rw [hchanged', hchanged, Bool.or_assoc, List.any_cons]
    · rw [hlookup', hlookup, Option.or_assoc, ← answer_cons]

end Scan

/-! ## The results that follow an assistant message -/

def keepNew (seen : List JsString) : List (JsString × JsValue) → List (JsString × JsValue)
  | [] => []
  | (id, result) :: rest =>
    if id ∈ seen then keepNew seen rest
    else (id, result) :: keepNew (seen ++ [id]) rest

def allNew (seen : List JsString) : List JsString → Bool
  | [] => true
  | id :: rest => decide (id ∉ seen) && allNew (seen ++ [id]) rest

theorem allNew_iff {seen ids : List JsString} :
    allNew seen ids = true ↔ ids.Nodup ∧ ∀ id ∈ ids, id ∉ seen := by
  induction ids generalizing seen with
  | nil => simp [allNew]
  | cons id rest ih =>
    simp only [allNew, Bool.and_eq_true, decide_eq_true_eq, ih,
      List.nodup_cons, List.forall_mem_cons, List.mem_append,
      List.mem_singleton, not_or]
    constructor
    · rintro ⟨hid, hnodup, hrest⟩
      have hnot : id ∉ rest := fun hmem => (hrest id hmem).2 rfl
      exact ⟨⟨hnot, hnodup⟩, hid, fun other hmem => (hrest other hmem).1⟩
    · rintro ⟨⟨hnot, hnodup⟩, hid, hrest⟩
      refine ⟨hid, hnodup, fun other hmem => ⟨hrest other hmem, ?_⟩⟩
      rintro rfl
      exact hnot hmem

theorem keepNew_of_allNew {seen : List JsString} {results : List (JsString × JsValue)}
    (hnew : allNew seen (results.map Prod.fst) = true) :
    keepNew seen results = results := by
  induction results generalizing seen with
  | nil => rfl
  | cons entry rest ih =>
    obtain ⟨id, result⟩ := entry
    simp only [List.map_cons, allNew, Bool.and_eq_true, decide_eq_true_eq] at hnew
    rw [keepNew, if_neg hnew.1, ih hnew.2]

structure Pushes (before : RepairState) (results : List (JsString × JsValue))
    (after : RepairState) : Prop where
  out : after.out = before.out ++ (keepNew before.seenToolResultIds results).map Prod.snd
  seen : after.seenToolResultIds = before.seenToolResultIds ++
    (keepNew before.seenToolResultIds results).map Prod.fst
  moved : after.moved = before.moved

section Push

variable {state : RepairState} {id : JsString} {message : JsValue}

theorem pushes_pushToolResult (state : RepairState) (hid : extractToolResultId message = some id) :
    Pushes state [(id, message)] (state.pushToolResult message) ∧
      (state.pushToolResult message).added = state.added ∧
      (state.pushToolResult message).changed =
        (state.changed || !allNew state.seenToolResultIds [id]) := by
  unfold RepairState.pushToolResult
  simp only [hid]
  by_cases hseen : id ∈ state.seenToolResultIds
  · refine ⟨⟨?_, ?_, ?_⟩, ?_, ?_⟩ <;> simp [hseen, keepNew, allNew]
  · refine ⟨⟨?_, ?_, ?_⟩, ?_, ?_⟩ <;> simp [hseen, keepNew, allNew]

theorem keepNew_cons (seen : List JsString) (entry : JsString × JsValue)
    (rest : List (JsString × JsValue)) :
    keepNew seen (entry :: rest) = keepNew seen [entry] ++
      keepNew (seen ++ (keepNew seen [entry]).map Prod.fst) rest := by
  obtain ⟨id, result⟩ := entry
  by_cases hseen : id ∈ seen <;> simp [keepNew, hseen]

theorem Pushes.trans {middle after : RepairState}
    {entry : JsString × JsValue} {rest : List (JsString × JsValue)}
    (hfirst : Pushes state [entry] middle) (hrest : Pushes middle rest after) :
    Pushes state (entry :: rest) after := by
  constructor
  · rw [hrest.out, hfirst.out, hfirst.seen, keepNew_cons _ entry rest]
    simp
  · rw [hrest.seen, hfirst.seen, keepNew_cons _ entry rest]
    simp
  · rw [hrest.moved, hfirst.moved]

theorem allNew_step (seen : List JsString) (entry : JsString × JsValue)
    (rest : List JsString) (changed : Bool) :
    (changed || !allNew seen [entry.1] ||
        !allNew (seen ++ (keepNew seen [entry]).map Prod.fst) rest) =
      (changed || !allNew seen (entry.1 :: rest)) := by
  obtain ⟨id, result⟩ := entry
  by_cases hseen : id ∈ seen <;> simp [keepNew, allNew, hseen]

end Push

section Calls

variable {scan : SpanScan}

def ScanIds (scan : SpanScan) : Prop :=
  ∀ id result, scan.spanResultsById.lookup id = some result → extractToolResultId result = some id

theorem pushes_preserved (hids : ScanIds scan)
    (toolCalls : List ToolCallLike) (state : RepairState) :
    let results := toolCalls.filterMap fun call =>
      (scan.spanResultsById.lookup call.id).map fun result =>
        (call.id, result)
    let after := toolCalls.foldl (RepairState.pushPreserved scan) state
    Pushes state results after ∧ after.added = state.added ∧ after.changed = (state.changed ||
        !allNew state.seenToolResultIds (results.map Prod.fst)) := by
  induction toolCalls generalizing state with
  | nil => exact ⟨⟨by simp [keepNew], by simp [keepNew], rfl⟩, rfl, by simp [allNew]⟩
  | cons call rest ih =>
    simp only [List.foldl_cons, RepairState.pushPreserved, List.filterMap_cons]
    cases hlookup : scan.spanResultsById.lookup call.id with
    | none => simpa using ih state
    | some result =>
      obtain ⟨hfirst, hadded, hchanged⟩ := pushes_pushToolResult state (hids call.id result hlookup)
      obtain ⟨hrest, hadded', hchanged'⟩ := ih (state.pushToolResult result)
      refine ⟨hfirst.trans hrest, hadded'.trans hadded, ?_⟩
      rw [hchanged', hchanged, hfirst.seen]
      exact allNew_step _ (call.id, result) _ _

theorem pushes_answers (hids : ScanIds scan) (now : JsNumber)
    {toolCalls : List ToolCallLike} (hcalls : ∀ call ∈ toolCalls, call.id ≠ []) (state : RepairState) :
    let results := toolCalls.map fun call =>
      (call.id, (scan.spanResultsById.lookup call.id).getD (makeMissingToolResult now call))
    let after := toolCalls.foldl (RepairState.pushAnswer now scan) state
    Pushes state results after ∧ after.added = state.added ++ (toolCalls.filter fun call =>
        !(scan.spanResultsById.lookup call.id).isSome).map (makeMissingToolResult now) ∧
      after.changed = (state.changed || (toolCalls.any fun call =>
        !(scan.spanResultsById.lookup call.id).isSome) ||
          !allNew state.seenToolResultIds (results.map Prod.fst)) := by
  induction toolCalls generalizing state with
  | nil => exact ⟨⟨by simp [keepNew], by simp [keepNew], rfl⟩, by simp, by simp [allNew]⟩
  | cons call rest ih =>
    have hrestCalls : ∀ other ∈ rest, other.id ≠ [] := fun other hmem =>
      hcalls other (List.mem_cons_of_mem _ hmem)
    simp only [List.foldl_cons, RepairState.pushAnswer, List.map_cons]
    cases hlookup : scan.spanResultsById.lookup call.id with
    | some result =>
      obtain ⟨hfirst, hadded, hchanged⟩ := pushes_pushToolResult state (hids call.id result hlookup)
      obtain ⟨hrest, hadded', hchanged'⟩ := ih hrestCalls (state.pushToolResult result)
      refine ⟨hfirst.trans hrest, ?_, ?_⟩
      · rw [hadded', hadded]
        simp [hlookup]
      · rw [hchanged', hchanged, hfirst.seen]
        simp [hlookup]
        apply Eq.trans _ (allNew_step _ (call.id, result) _ _)
        ac_rfl
    | none =>
      have hid := extractToolResultId_makeMissing now call (hcalls call List.mem_cons_self)
      obtain ⟨hfirst, hadded, hchanged⟩ :=
        pushes_pushToolResult { state with
          added := state.added ++ [makeMissingToolResult now call]
          changed := true } hid
      obtain ⟨hrest, hadded', hchanged'⟩ :=
        ih hrestCalls ({ state with
          added := state.added ++ [makeMissingToolResult now call]
          changed := true }.pushToolResult (makeMissingToolResult now call))
      have hstart : Pushes state [(call.id, makeMissingToolResult now call)] ({ state with
            added := state.added ++ [makeMissingToolResult now call]
            changed := true }.pushToolResult (makeMissingToolResult now call)) :=
        ⟨hfirst.out, hfirst.seen, hfirst.moved⟩
      refine ⟨hstart.trans hrest, ?_, ?_⟩
      · rw [hadded', hadded]
        simp [hlookup]
      · rw [hchanged', hchanged]
        simp [hlookup]

end Calls

/-! ## One turn -/

section Outcome

variable (policy : ErroredAssistantResultPolicy) (now : JsNumber)
  (seen : List JsString) (turn : Turn)

def Turn.calls : List ToolCallLike := extractToolCallsFromAssistant turn.assistant

def Turn.answer (id : JsString) : Option JsValue := Transcript.answer turn.calls seen turn.span id

/-- The results that are to follow the assistant message, by the ids of the
calls they answer. -/
def Turn.results : List (JsString × JsValue) :=
  if isErrored turn.assistant then
    match policy with
    | .preserve => turn.calls.filterMap fun call =>
      (turn.answer seen call.id).map fun result => (call.id, result)
    | .drop => []
  else
    turn.calls.map fun call =>
      (call.id, (turn.answer seen call.id).getD (makeMissingToolResult now call))

def Turn.resultIds : List JsString :=
  if isErrored turn.assistant then
    match policy with
    | .preserve => (turn.calls.map ToolCallLike.id).filter fun id =>
      (turn.answer seen id).isSome
    | .drop => []
  else turn.calls.map ToolCallLike.id

def Turn.kept : List (JsString × JsValue) := keepNew seen (turn.results policy now seen)

def Turn.repaired : Turn where
  assistant := turn.assistant
  span := (turn.kept policy now seen).map Prod.snd ++ others turn.span

def Turn.seenAfter : List JsString := seen ++ (turn.kept policy now seen).map Prod.fst

def Turn.added : List JsValue :=
  if isErrored turn.assistant then []
  else (turn.calls.filter fun call => !(turn.answer seen call.id).isSome).map
    (makeMissingToolResult now)

def Turn.isAnswered : Bool := turn.calls.any fun call => (turn.answer seen call.id).isSome

def Turn.needsRepair : Bool :=
  turn.span.any (isFaulty turn.calls seen) || !allNew seen (turn.resultIds policy seen) ||
    if isErrored turn.assistant then
      decide (policy = .drop) && turn.isAnswered seen
    else
      (turn.calls.any fun call => !(turn.answer seen call.id).isSome) ||
        (turn.isAnswered seen && !(others turn.span).isEmpty)

theorem Turn.results_ids : (turn.results policy now seen).map Prod.fst =
      turn.resultIds policy seen := by
  unfold results resultIds
  cases isErrored turn.assistant with
  | false => simp
  | true =>
    cases policy with
    | drop => simp
    | preserve =>
      induction turn.calls with
      | nil => rfl
      | cons call rest ih =>
        cases hanswer : turn.answer seen call.id with
        | none | some result =>
          simpa [hanswer] using ih

end Outcome

section Visit

variable {policy : ErroredAssistantResultPolicy} {now : JsNumber}

theorem foldl_visitOther (messages : List JsValue) (state : RepairState) :
    let after := messages.foldl RepairState.visitOther state
    after.out = state.out ++ others messages ∧ after.added = state.added ∧
      after.seenToolResultIds = state.seenToolResultIds ∧
      after.moved = state.moved ∧
      after.changed = (state.changed || messages.any isToolResult) := by
  induction messages generalizing state with
  | nil => simp [others]
  | cons message rest ih =>
    have hrest := ih (state.visitOther message)
    simp only [List.foldl_cons]
    by_cases hresult : isToolResult message = true
    · simp [RepairState.visitOther, hresult] at hrest ⊢
      simpa [RepairState.dropOrphan, others, hresult] using hrest
    · simp only [RepairState.visitOther, hresult] at hrest ⊢
      simpa [RepairState.push, others, hresult] using hrest

theorem scanIds_scan (toolCalls : List ToolCallLike) (seen : List JsString) (span : List JsValue) :
    ScanIds (span.foldl (visit toolCalls seen) .initial) := by
  intro id result hlookup
  obtain ⟨-, -, hscan⟩ := scan_spec toolCalls seen span .initial
  rw [hscan] at hlookup
  simp only [initial, List.lookup_nil, Option.none_or] at hlookup
  unfold answer at hlookup
  split_ifs at hlookup
  obtain ⟨message, hfind, rfl⟩ := Option.map_eq_some_iff.mp hlookup
  have hanswers := List.find?_some hfind
  simp [answers] at hanswers
  rw [extractToolResultId_normalize]
  exact hanswers.2

theorem answer_eq_none_of_not_mem {toolCalls : List ToolCallLike}
    {id : JsString} (hid : id ∉ toolCalls.map ToolCallLike.id)
    (seen : List JsString) (span : List JsValue) :
    answer toolCalls seen span id = none := by
  unfold answer
  rw [if_neg fun hboth => hid hboth.1]

theorem isEmpty_scan (toolCalls : List ToolCallLike) (seen : List JsString) (span : List JsValue) :
    (span.foldl (visit toolCalls seen) .initial).spanResultsById.isEmpty =
      !toolCalls.any fun call =>
        (answer toolCalls seen span call.id).isSome := by
  obtain ⟨-, -, hscan⟩ := scan_spec toolCalls seen span .initial
  generalize span.foldl (visit toolCalls seen) .initial = scan at hscan
  have hlookup : ∀ id, scan.spanResultsById.lookup id = answer toolCalls seen span id := by
    intro id
    rw [hscan]
    rfl
  cases hstored : scan.spanResultsById with
  | nil =>
    rw [hstored] at hlookup
    simp [← hlookup]
  | cons entry rest =>
    rw [hstored] at hlookup
    have hfirst : answer toolCalls seen span entry.1 = some entry.2 := by
      rw [← hlookup]
      exact List.lookup_cons_self
    have hown : entry.1 ∈ toolCalls.map ToolCallLike.id := by
      by_contra hnot
      rw [answer_eq_none_of_not_mem hnot] at hfirst
      simp at hfirst
    obtain ⟨call, hcall, hid⟩ := List.mem_map.mp hown
    have hany : (toolCalls.any fun call =>
        (answer toolCalls seen span call.id).isSome) = true := by
      apply List.any_eq_true.mpr
      refine ⟨call, hcall, ?_⟩
      rw [hid, hfirst]
      rfl
    rw [hany]
    rfl

structure Visited (policy : ErroredAssistantResultPolicy) (now : JsNumber)
    (state : RepairState) (turn : Turn) (after : RepairState) : Prop where
  out : after.out = state.out ++ (turn.repaired policy now state.seenToolResultIds).messages
  seen : after.seenToolResultIds = turn.seenAfter policy now state.seenToolResultIds
  added : after.added = state.added ++ turn.added now state.seenToolResultIds
  changed : after.changed = (state.changed || turn.needsRepair policy state.seenToolResultIds)
  moved : after.moved = true → state.moved = true ∨ after.changed = true

theorem visitTurn_of_no_calls {turn : Turn} (hcalls : turn.calls = []) (state : RepairState) :
    Visited policy now state turn (state.visitTurn policy now turn) := by
  have hafter : state.visitTurn policy now turn =
      turn.span.foldl RepairState.visitOther (state.push [turn.assistant]) :=
    if_pos hcalls
  obtain ⟨hout, hadded, hseen, hmoved, hchanged⟩ :=
    foldl_visitOther turn.span (state.push [turn.assistant])
  have hresults : ∀ seen, turn.results policy now seen = [] := by
    intro seen
    unfold results
    cases policy <;> simp [hcalls]
  have hids : ∀ seen, turn.resultIds policy seen = [] := by
    intro seen
    rw [← results_ids policy now, hresults]
    rfl
  have hfaulty : ∀ seen, isFaulty turn.calls seen = isToolResult := by
    intro seen
    funext message
    rw [hcalls, isFaulty]
    cases extractToolResultId message <;> simp
  rw [hafter]
  constructor
  · rw [hout]
    simp [RepairState.push, messages, repaired, kept, hresults, keepNew]
  · rw [hseen]
    simp [RepairState.push, seenAfter, kept, hresults, keepNew]
  · rw [hadded]
    simp [RepairState.push, added, hcalls]
  · rw [hchanged]
    simp [RepairState.push, needsRepair, hids, allNew, hcalls, isAnswered]
    rw [← hcalls, hfaulty]
  · rw [hmoved]
    exact .inl

theorem visitTurn_of_calls {turn : Turn} (hcalls : turn.calls ≠ []) (state : RepairState) :
    Visited policy now state turn (state.visitTurn policy now turn) := by
  let scan := turn.span.foldl (visit turn.calls state.seenToolResultIds) .initial
  let entered := (state.absorb scan).push [turn.assistant]
  have hafter : state.visitTurn policy now turn = (if isErrored turn.assistant then
        entered.answerErrored policy scan turn.calls
      else entered.answerAll now scan turn.calls).push scan.remainder :=
    if_neg hcalls
  obtain ⟨hremainder, hfaulty, hlookup⟩ :=
    scan_spec turn.calls state.seenToolResultIds turn.span .initial
  have hrest : scan.remainder = others turn.span := hremainder
  have hchangedScan : scan.changed =
      turn.span.any (isFaulty turn.calls state.seenToolResultIds) := hfaulty
  have hanswer : ∀ id, scan.spanResultsById.lookup id = turn.answer state.seenToolResultIds id := by
    intro id
    rw [hlookup]
    rfl
  have hstored : scan.spanResultsById.isEmpty = !turn.isAnswered state.seenToolResultIds :=
    isEmpty_scan turn.calls state.seenToolResultIds turn.span
  have hids : ScanIds scan := scanIds_scan turn.calls state.seenToolResultIds turn.span
  rw [hafter]
  cases herrored : isErrored turn.assistant with
  | true =>
    cases policy with
    | preserve =>
      have hpush := pushes_preserved hids turn.calls entered
      have hresults : (turn.calls.filterMap fun call =>
          (scan.spanResultsById.lookup call.id).map fun result =>
            (call.id, result)) =
          turn.results .preserve now state.seenToolResultIds := by
        simp [results, herrored, hanswer]
      rw [hresults] at hpush
      obtain ⟨hpushes, hadded, hchanged⟩ := hpush
      rw [results_ids] at hchanged
      simp only [if_true, RepairState.answerErrored]
      constructor
      · simp only [RepairState.push]
        rw [hpushes.out, hrest]
        simp [entered, RepairState.push, RepairState.absorb, messages, repaired, kept]
      · exact hpushes.seen
      · simp only [RepairState.push]
        rw [hadded]
        simp [entered, RepairState.push, RepairState.absorb, added, herrored]
      · simp only [RepairState.push]
        rw [hchanged]
        simp [entered, RepairState.push, RepairState.absorb,
          needsRepair, herrored, hchangedScan, Bool.or_assoc]
      · intro hmoved
        left
        exact hpushes.moved.symm.trans hmoved
    | drop =>
      have hresults : turn.results .drop now state.seenToolResultIds = [] := by
        simp [results, herrored]
      simp only [if_true, RepairState.answerErrored]
      constructor
      · simp [entered, RepairState.push, RepairState.absorb, hrest,
          messages, repaired, kept, hresults, keepNew]
      · simp [entered, RepairState.push, RepairState.absorb, seenAfter, kept, hresults, keepNew]
      · simp [entered, RepairState.push, RepairState.absorb, added, herrored]
      · simp [entered, RepairState.push, RepairState.absorb,
          needsRepair, herrored, hchangedScan, hstored,
          resultIds, allNew, Bool.or_assoc]
      · exact .inl
  | false =>
    let shifted := !scan.spanResultsById.isEmpty && !scan.remainder.isEmpty
    have hshifted : shifted = (turn.isAnswered state.seenToolResultIds &&
          !(others turn.span).isEmpty) := by
      simp [shifted, hstored, hrest]
    have hnonempty : ∀ call ∈ turn.calls, call.id ≠ [] := fun call hmem => id_ne_nil_of_mem hmem
    have hpush := pushes_answers hids now hnonempty { entered with
        moved := entered.moved || shifted
        changed := entered.changed || shifted }
    have hresults : (turn.calls.map fun call =>
        (call.id, (scan.spanResultsById.lookup call.id).getD (makeMissingToolResult now call))) =
        turn.results policy now state.seenToolResultIds := by
      simp [results, herrored, hanswer]
    rw [hresults] at hpush
    obtain ⟨hpushes, hadded, hchanged⟩ := hpush
    rw [results_ids] at hchanged
    have hstate : entered.answerAll now scan turn.calls =
        turn.calls.foldl (RepairState.pushAnswer now scan) { entered with
            moved := entered.moved || shifted
            changed := entered.changed || shifted } := rfl
    simp only [Bool.false_eq_true, if_false]
    constructor
    · simp only [RepairState.push]
      rw [hstate, hpushes.out, hrest]
      simp [entered, RepairState.push, RepairState.absorb, messages, repaired, kept]
    · exact hpushes.seen
    · simp only [RepairState.push]
      rw [hstate, hadded]
      simp [entered, RepairState.push, RepairState.absorb, added, herrored, hanswer]
    · simp only [RepairState.push]
      rw [hstate, hchanged]
      simp [entered, RepairState.push, RepairState.absorb, needsRepair, herrored, hchangedScan, hanswer, hshifted]
      ac_rfl
    · intro hmoved
      have hbefore : (state.moved || shifted) = true := hpushes.moved.symm.trans hmoved
      rcases Bool.or_eq_true_iff.mp hbefore with hstate' | hshift
      · exact .inl hstate'
      · right
        simp only [RepairState.push]
        rw [hstate, hchanged]
        simp [hshift]

theorem visitTurn_spec (policy : ErroredAssistantResultPolicy)
    (now : JsNumber) (turn : Turn) (state : RepairState) :
    Visited policy now state turn (state.visitTurn policy now turn) := by
  by_cases hcalls : turn.calls = []
  · exact visitTurn_of_no_calls hcalls state
  · exact visitTurn_of_calls hcalls state

end Visit

end LittleBaby.Transcript
