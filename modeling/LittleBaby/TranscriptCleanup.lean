import LittleBaby.TranscriptPairing

/-!
# Repairing a repaired transcript

A repair changes only tool results and keeps one for an id.
-/

namespace LittleBaby.Transcript

open JsString JsValue Turn

/-! ## Names of tools -/

def IsTrimmed (name : JsString) : Prop := normalizeOptionalString (some name) = some name

variable {name : JsString}

theorem isTrimmed_iff : IsTrimmed name ↔ trim name = name ∧ name ≠ [] := by
  unfold IsTrimmed normalizeOptionalString
  simp only [Option.bind_some]
  cases hname : trim name with
  | nil =>
    constructor
    · intro hnone
      simp [orElse] at hnone
    · rintro ⟨rfl, hne⟩
      exact absurd rfl hne
  | cons unit rest =>
    simp only [orElse, Option.some.injEq]
    constructor
    · intro hself
      exact ⟨hself, hself ▸ List.cons_ne_nil _ _⟩
    · exact And.left

theorem isTrimmed_of_normalize {value : Option JsString}
    (hname : normalizeOptionalString value = some name) : IsTrimmed name := by
  obtain ⟨text, -, htext⟩ := Option.bind_eq_some_iff.mp hname
  cases htrim : trim text with
  | nil => simp [htrim, orElse] at htext
  | cons unit rest =>
    rw [htrim] at htext
    have hrest : unit :: rest = name := by simpa [orElse] using htext
    rw [isTrimmed_iff, ← hrest, ← htrim]
    exact ⟨trim_trim text, htrim ▸ List.cons_ne_nil _ _⟩

theorem isTrimmed_unknown : IsTrimmed (js "unknown") := by
  unfold IsTrimmed
  decide

variable {message : JsValue}

theorem isTrimmed_of_normalizedToolName {fallbackName : Option JsString}
    (hname : normalizedToolName message fallbackName = some name) :
    IsTrimmed name ∧ stringField (js "toolName") message ≠ some name := by
  unfold normalizedToolName at hname
  cases hraw : normalizeOptionalString (stringField (js "toolName") message) with
  | some normalized =>
    simp only [hraw] at hname
    split_ifs at hname with hsame
    have hnormalized : normalized = name := by simpa using hname
    subst hnormalized
    exact ⟨isTrimmed_of_normalize hraw, hsame⟩
  | none =>
    have hne : ∀ other, IsTrimmed other → stringField (js "toolName") message ≠ some other := by
      intro other htrimmed hother
      rw [hother, htrimmed] at hraw
      simp at hraw
    simp only [hraw] at hname
    have htrimmed : IsTrimmed name := by
      cases hfallback : normalizeOptionalString fallbackName with
      | some other =>
        simp only [hfallback, Option.some.injEq] at hname
        subst hname
        exact isTrimmed_of_normalize hfallback
      | none =>
        simp only [hfallback] at hname
        split_ifs at hname
        have hunknown : js "unknown" = name := by simpa using hname
        rw [← hunknown]
        exact isTrimmed_unknown
    exact ⟨htrimmed, hne name htrimmed⟩

theorem normalizedToolName_of_isTrimmed (hraw : stringField (js "toolName") message = some name)
    (htrimmed : IsTrimmed name) (fallbackName : Option JsString) :
    normalizedToolName message fallbackName = none := by
  have hself : normalizeOptionalString (some name) = some name := htrimmed
  simp [normalizedToolName, hraw, hself]

theorem stringField_withToolName (name : JsString) (hresult : isToolResult message = true) :
    stringField (js "toolName") (withToolName name message) = some name := by
  cases message with
  | object entries =>
    simp [withToolName, stringField, field, readKey]
  | _ => simp [isToolResult, hasRole, stringField, field] at hresult

section Stable

variable {message : JsValue} {fallbackName : Option JsString}

theorem normalize_eq_self_iff (hresult : isToolResult message = true) :
    normalizeToolResultName message fallbackName = message ↔
      normalizedToolName message fallbackName = none := by
  unfold normalizeToolResultName
  cases hname : normalizedToolName message fallbackName with
  | none => simp
  | some name =>
    simp only [reduceCtorEq, iff_false]
    intro hself
    have hraw := stringField_withToolName name hresult
    rw [hself] at hraw
    exact (isTrimmed_of_normalizedToolName hname).2 hraw

theorem normalize_normalize (hresult : isToolResult message = true) :
    normalizeToolResultName (normalizeToolResultName message fallbackName) fallbackName =
      normalizeToolResultName message fallbackName := by
  rw [normalize_eq_self_iff (by rwa [isToolResult_normalize])]
  cases hname : normalizedToolName message fallbackName with
  | none =>
    rw [(normalize_eq_self_iff hresult).mpr hname]
    exact hname
  | some name =>
    have hnew : normalizeToolResultName message fallbackName = withToolName name message := by
      rw [normalizeToolResultName, hname]
    rw [hnew]
    exact normalizedToolName_of_isTrimmed (stringField_withToolName name hresult)
      (isTrimmed_of_normalizedToolName hname).1 fallbackName

theorem normalize_makeMissing_iff (now : JsNumber) (call : ToolCallLike)
    (fallbackName : Option JsString) :
    normalizeToolResultName (makeMissingToolResult now call) fallbackName =
        makeMissingToolResult now call ↔
      ∀ name, call.name = some name → IsTrimmed name := by
  rw [normalize_eq_self_iff (isToolResult_makeMissing now call)]
  have hraw := toolName_makeMissing now call
  constructor
  · intro hnone name hname
    rw [hname, Option.getD_some] at hraw
    by_contra hnot
    unfold normalizedToolName at hnone
    rw [hraw] at hnone
    cases hnormalized : normalizeOptionalString (some name) with
    | some other =>
      simp only [hnormalized] at hnone
      split_ifs at hnone with hsame
      exact hnot (hnormalized.trans hsame.symm)
    | none =>
      simp only [hnormalized] at hnone
      cases hfallback : normalizeOptionalString fallbackName <;> simp [hfallback] at hnone
  · intro hnames
    cases hname : call.name with
    | none =>
      rw [hname, Option.getD_none] at hraw
      exact normalizedToolName_of_isTrimmed hraw isTrimmed_unknown _
    | some name =>
      rw [hname, Option.getD_some] at hraw
      exact normalizedToolName_of_isTrimmed hraw (hnames name hname) _

end Stable

/-! ## Timestamps -/

def withoutTimestamp : JsValue → JsValue
  | .object entries => .object (Entries.erase (js "timestamp") entries)
  | other => other

def SameButTimestamps (messages others : List JsValue) : Prop :=
  messages.map withoutTimestamp = others.map withoutTimestamp

theorem stringField_withoutTimestamp {key : JsString}
    (hkey : key ≠ js "timestamp") (message : JsValue) :
    stringField key (withoutTimestamp message) = stringField key message := by
  cases message with
  | object entries =>
    have hlookup : (Entries.erase (js "timestamp") entries).lookup key =
        entries.lookup key := Entries.lookup_erase_of_ne hkey
    simp only [withoutTimestamp, stringField, field, readKey, hlookup]
  | _ => rfl

theorem isAssistant_withoutTimestamp (message : JsValue) :
    isAssistant (withoutTimestamp message) = isAssistant message := by
  rw [isAssistant, hasRole, stringField_withoutTimestamp (by decide)]
  rfl

theorem isToolResult_withoutTimestamp (message : JsValue) :
    isToolResult (withoutTimestamp message) = isToolResult message := by
  rw [isToolResult, hasRole, stringField_withoutTimestamp (by decide)]
  rfl

theorem answers_withoutTimestamp (id : JsString) (message : JsValue) :
    answers id (withoutTimestamp message) = answers id message := by
  rw [answers, isToolResult_withoutTimestamp, extractToolResultId,
    stringField_withoutTimestamp (by decide),
    stringField_withoutTimestamp (by decide)]
  rfl

theorem SameButTimestamps.takeWhile {messages others : List JsValue}
    (hsame : SameButTimestamps messages others) :
    SameButTimestamps (messages.takeWhile isToolResult) (others.takeWhile isToolResult) := by
  have hfront : ∀ list : List JsValue, (list.takeWhile isToolResult).map withoutTimestamp =
        (list.map withoutTimestamp).takeWhile isToolResult := by
    intro list
    have hcomp : isToolResult ∘ withoutTimestamp = isToolResult :=
      funext isToolResult_withoutTimestamp
    rw [List.takeWhile_map, hcomp]
  rw [SameButTimestamps, hfront, hfront, hsame]

theorem SameButTimestamps.find_answers {messages others : List JsValue}
    (hsame : SameButTimestamps messages others) (id : JsString) :
    (messages.find? (answers id)).map withoutTimestamp =
      (others.find? (answers id)).map withoutTimestamp := by
  have hfind : ∀ list : List JsValue, (list.find? (answers id)).map withoutTimestamp =
        (list.map withoutTimestamp).find? (answers id) := by
    intro list
    have hcomp : answers id ∘ withoutTimestamp = answers id := funext (answers_withoutTimestamp id)
    rw [List.find?_map, hcomp]
  rw [hfind, hfind, hsame]

theorem normalize_eq_self_of_timestamps
    {fallbackName : Option JsString} (hresult : isToolResult message = true)
    (hsame : withoutTimestamp (normalizeToolResultName message fallbackName) =
      withoutTimestamp message) :
    normalizeToolResultName message fallbackName = message := by
  rw [normalize_eq_self_iff hresult]
  cases hname : normalizedToolName message fallbackName with
  | none => rfl
  | some name =>
    have hnew : normalizeToolResultName message fallbackName = withToolName name message := by
      rw [normalizeToolResultName, hname]
    have htoolName := congrArg (stringField (js "toolName")) hsame
    rw [stringField_withoutTimestamp (by decide), stringField_withoutTimestamp (by decide), hnew,
      stringField_withToolName name hresult] at htoolName
    exact absurd htoolName.symm (isTrimmed_of_normalizedToolName hname).2

/-! ## Results by id -/

theorem keepNew_eq_of_lookup {seen : List JsString} {results others : List (JsString × JsValue)}
    (hids : results.map Prod.fst = others.map Prod.fst)
    (hlookup : ∀ entry ∈ results, entry.1 ∉ seen → others.lookup entry.1 = some entry.2) :
    keepNew seen results = keepNew seen others := by
  induction results generalizing seen others with
  | nil =>
    rw [List.map_nil, eq_comm, List.map_eq_nil_iff] at hids
    rw [hids]
  | cons entry rest ih =>
    cases others with
    | nil => simp at hids
    | cons other others =>
      obtain ⟨id, result⟩ := entry
      obtain ⟨id', result'⟩ := other
      simp only [List.map_cons, List.cons.injEq] at hids
      obtain ⟨rfl, hrest⟩ := hids
      have hbelow : ∀ {next : List JsString}, (∀ other ∉ next,
          other ∉ seen ∧ other ≠ id) → keepNew next rest = keepNew next others := by
        intro next hnext
        apply ih hrest
        intro entry hmem hnew
        obtain ⟨hseen, hne⟩ := hnext entry.1 hnew
        have hfound := hlookup entry (List.mem_cons_of_mem _ hmem) hseen
        rwa [List.lookup_cons, beq_false_of_ne hne] at hfound
      by_cases hseen : id ∈ seen
      · rw [keepNew, keepNew, if_pos hseen, if_pos hseen]
        apply hbelow
        intro other hother
        exact ⟨hother, fun heq => hother (heq ▸ hseen)⟩
      · have hfirst := hlookup (id, result) List.mem_cons_self hseen
        rw [List.lookup_cons_self, Option.some.injEq] at hfirst
        rw [keepNew, keepNew, if_neg hseen, if_neg hseen, hfirst]
        congr 1
        apply hbelow
        intro other hother
        simpa using hother

variable {id : JsString}

theorem lookup_keepNew {seen : List JsString}
    (hid : id ∉ seen) (results : List (JsString × JsValue)) :
    (keepNew seen results).lookup id = results.lookup id := by
  induction results generalizing seen with
  | nil => rfl
  | cons entry rest ih =>
    obtain ⟨first, result⟩ := entry
    by_cases hfirst : id = first
    · subst hfirst
      rw [keepNew, if_neg hid, List.lookup_cons_self, List.lookup_cons_self]
    · have hne : (id == first) = false := beq_false_of_ne hfirst
      rw [keepNew, List.lookup_cons, hne]
      split_ifs
      · exact ih hid
      · rw [List.lookup_cons, hne]
        exact ih (by simp [hid, hfirst])

theorem find_answers_kept {results : List (JsString × JsValue)}
    (hanswers : ∀ entry ∈ results, isToolResult entry.2 = true ∧
      extractToolResultId entry.2 = some entry.1) :
    (results.map Prod.snd).find? (answers id) = results.lookup id := by
  induction results with
  | nil => rfl
  | cons entry rest ih =>
    obtain ⟨first, result⟩ := entry
    have hrest := ih fun other hmem =>
      hanswers other (List.mem_cons_of_mem _ hmem)
    obtain ⟨hresult, hid⟩ := hanswers (first, result) List.mem_cons_self
    rw [List.map_cons, List.find?_cons, List.lookup_cons, hrest]
    by_cases hfirst : id = first
    · subst hfirst
      have hanswer : answers id result = true := by
        simp [answers, hresult, hid]
      simp [hanswer]
    · have hanswer : answers id result = false := by
        simp [answers, hid, Ne.symm hfirst]
      simp [hanswer, beq_false_of_ne hfirst]

def Turn.firstCall (turn : Turn) (id : JsString) : Option ToolCallLike :=
  turn.calls.find? fun call => decide (call.id = id)

section Again

variable {policy : ErroredAssistantResultPolicy} {now again : JsNumber}
  {seen : List JsString} {turn : Turn}

theorem others_repaired : others (turn.repaired policy now seen).span = others turn.span := by
  have hkept : others ((turn.kept policy now seen).map Prod.snd) = [] := by
    apply List.filter_eq_nil_iff.mpr
    intro message hmem
    simp [isToolResult_of_mem_kept hmem]
  rw [repaired, others, List.filter_append]
  change others _ ++ others (others turn.span) = _
  rw [hkept, List.nil_append, others, others, List.filter_filter]
  simp

theorem Turn.answer_repaired (hown : id ∈ turn.callIds) (hid : id ∉ seen) :
    (turn.repaired policy now seen).answer seen id =
      ((turn.results policy now seen).lookup id).map fun result =>
        normalizeToolResultName result (nameOf turn.calls id) := by
  have hcalls : (turn.repaired policy now seen).calls = turn.calls := rfl
  have hothers : (others turn.span).find? (answers id) = none := by
    apply List.find?_eq_none.mpr
    intro message hmem
    simp [answers, (mem_others.mp hmem).2]
  have hfind : (turn.repaired policy now seen).span.find? (answers id) =
      (turn.results policy now seen).lookup id := by
    rw [repaired, List.find?_append, hothers, Option.or_none, find_answers_kept fun entry hmem =>
        (answers_of_mem_kept hmem).2, kept, lookup_keepNew hid]
  rw [answer, Transcript.answer, hcalls, if_pos ⟨hown, hid⟩, hfind]

theorem lookup_filterMap_calls (toolCalls : List ToolCallLike) (found : JsString → Option JsValue)
    (hid : id ∈ toolCalls.map ToolCallLike.id) :
    (toolCalls.filterMap fun call =>
      (found call.id).map fun result => (call.id, result)).lookup id = found id := by
  induction toolCalls with
  | nil => simp at hid
  | cons call rest ih =>
    rw [List.filterMap_cons]
    by_cases hcall : id = call.id
    · subst hcall
      cases hfound : found call.id with
      | some result => simp
      | none =>
        rw [← hfound]
        by_cases hmem : call.id ∈ rest.map ToolCallLike.id
        · simpa [hfound] using ih hmem
        · rw [hfound]
          apply Entries.lookup_eq_none.mpr
          intro hkey
          obtain ⟨entry, hentry, hfst⟩ := List.mem_map.mp hkey
          obtain ⟨other, hother, hmap⟩ := List.mem_filterMap.mp hentry
          obtain ⟨result, hresult, rfl⟩ := Option.map_eq_some_iff.mp hmap
          exact hmem (hfst ▸ List.mem_map_of_mem hother)
    · have hmem : id ∈ rest.map ToolCallLike.id := by
        rcases List.mem_cons.mp hid with heq | hmem
        · exact absurd heq hcall
        · exact hmem
      cases hfound : found call.id with
      | some result =>
        simp only [Option.map_some]
        rw [List.lookup_cons, beq_false_of_ne hcall]
        exact ih hmem
      | none => exact ih hmem

theorem Turn.lookup_results_errored (herrored : isErrored turn.assistant = true)
    (hown : id ∈ turn.callIds) :
    (turn.results .preserve now seen).lookup id = turn.answer seen id := by
  have hresults : turn.results .preserve now seen = turn.calls.filterMap fun call =>
        (turn.answer seen call.id).map fun result => (call.id, result) := by
    rw [results, if_pos herrored]
  rw [hresults]
  exact lookup_filterMap_calls turn.calls (turn.answer seen) hown

theorem Turn.lookup_results_of_not_errored
    (herrored : isErrored turn.assistant = false) (id : JsString) :
    (turn.results policy now seen).lookup id = (turn.firstCall id).map fun call =>
        (turn.answer seen id).getD (makeMissingToolResult now call) := by
  have hresults : turn.results policy now seen = turn.calls.map fun call =>
      (call.id, (turn.answer seen call.id).getD (makeMissingToolResult now call)) := by
    simp [results, herrored]
  rw [hresults, firstCall]
  induction turn.calls with
  | nil => rfl
  | cons call rest ih =>
    rw [List.map_cons, List.lookup_cons, List.find?_cons]
    by_cases hid : id = call.id
    · simp [hid]
    · simp [beq_false_of_ne hid, Ne.symm hid, ih]

theorem Turn.firstCall_of_mem (hown : id ∈ turn.callIds) :
    ∃ call ∈ turn.calls, turn.firstCall id = some call ∧ call.id = id := by
  obtain ⟨own, hmem, hid⟩ := List.mem_map.mp hown
  cases hfirst : turn.firstCall id with
  | none =>
    have hnot := List.find?_eq_none.mp hfirst own hmem
    exact absurd hid (by simpa using hnot)
  | some call =>
    have hcall := List.find?_some hfirst
    exact ⟨call, List.mem_of_find?_eq_some hfirst, rfl, by simpa using hcall⟩

theorem Turn.answer_of_span (hspan : turn.span.any (answers id) = false) (seen : List JsString) :
    turn.answer seen id = none := by
  by_contra hsome
  have hany := (isSome_answer.mp (Option.isSome_iff_ne_none.mpr hsome)).2.2
  simp [hspan] at hany

theorem Turn.normalize_answer {result : JsValue} (hanswer : turn.answer seen id = some result) :
    normalizeToolResultName result (nameOf turn.calls id) = result := by
  unfold answer Transcript.answer at hanswer
  split_ifs at hanswer
  obtain ⟨message, hfind, rfl⟩ := Option.map_eq_some_iff.mp hanswer
  have hanswers := List.find?_some hfind
  simp only [answers, Bool.and_eq_true] at hanswers
  exact normalize_normalize hanswers.1

/-! ## A second repair of a turn -/

def Turn.KeepsNames (turn : Turn) : Prop :=
  ∀ call ∈ turn.calls, turn.firstCall call.id = some call →
    turn.span.any (answers call.id) = false → ∀ name, call.name = some name → IsTrimmed name

theorem Turn.repaired_eq_of_kept (hkept : (turn.repaired policy now seen).kept policy again seen =
      turn.kept policy now seen) :
    (turn.repaired policy now seen).repaired policy again seen = turn.repaired policy now seen := by
  have hspan : ((turn.repaired policy now seen).repaired policy again
      seen).span = (turn.repaired policy now seen).span := by
    change ((turn.repaired policy now seen).kept policy again seen).map
      Prod.snd ++ others (turn.repaired policy now seen).span = _
    rw [hkept, others_repaired]
    rfl
  calc
    (turn.repaired policy now seen).repaired policy again seen =
        ⟨turn.assistant, ((turn.repaired policy now seen).repaired policy again seen).span⟩ := rfl
    _ = ⟨turn.assistant, (turn.repaired policy now seen).span⟩ := by
          rw [hspan]
    _ = turn.repaired policy now seen := rfl

theorem Turn.answer_of_mem_seen (hid : id ∈ seen) : turn.answer seen id = none := by
  rw [answer, Transcript.answer, if_neg fun hboth => hboth.2 hid]

theorem Turn.answer_repaired_of_errored (herrored : isErrored turn.assistant = true)
    (hown : id ∈ turn.callIds) :
    (turn.repaired .preserve now seen).answer seen id = turn.answer seen id := by
  by_cases hid : id ∈ seen
  · rw [answer_of_mem_seen hid, answer_of_mem_seen hid]
  · rw [answer_repaired hown hid, lookup_results_errored herrored hown]
    cases hfound : turn.answer seen id with
    | none => rfl
    | some result => rw [Option.map_some, normalize_answer hfound]

theorem Turn.repaired_repaired_of_errored (herrored : isErrored turn.assistant = true) :
    (turn.repaired policy now seen).repaired policy again seen = turn.repaired policy now seen := by
  apply repaired_eq_of_kept
  have herrored' : isErrored (turn.repaired policy now seen).assistant = true := herrored
  have hcalls : (turn.repaired policy now seen).calls = turn.calls := rfl
  cases policy with
  | drop => simp [kept, results, herrored, herrored']
  | preserve =>
    have hresults : (turn.repaired .preserve now seen).results .preserve
        again seen = turn.results .preserve now seen := by
      rw [results, results, if_pos herrored, if_pos herrored', hcalls]
      apply List.filterMap_congr
      intro call hcall
      rw [answer_repaired_of_errored herrored (List.mem_map_of_mem hcall)]
    rw [kept, kept, hresults]

theorem Turn.sameIds_repaired : SameIds (seen ++ (turn.repaired policy now seen).answeredIds policy)
      (seen ++ turn.answeredIds policy) := by
  have hassistant : (turn.repaired policy now seen).assistant = turn.assistant := rfl
  have hcallIds : (turn.repaired policy now seen).callIds = turn.callIds := rfl
  intro id
  rw [List.mem_append, List.mem_append]
  by_cases hid : id ∈ seen
  · simp [hid]
  · simp only [hid, false_or]
    unfold answeredIds
    rw [hassistant, hcallIds]
    cases herrored : isErrored turn.assistant with
    | false => rfl
    | true =>
      cases policy with
      | drop => rfl
      | preserve =>
        simp only [if_true, List.mem_filter]
        have hiff : id ∈ turn.callIds → ((turn.repaired .preserve now seen).span.any (answers id) =
                true ↔ turn.span.any (answers id) = true) := by
          intro hown
          have hsome := @isSome_answer (turn.repaired .preserve now seen) seen id
          rw [answer_repaired_of_errored herrored hown, isSome_answer, hcallIds] at hsome
          simpa [hown, hid] using hsome.symm
        exact and_congr_right hiff

section NotErrored

variable (herrored : isErrored turn.assistant = false) (hnew : ∀ id ∈ turn.callIds, id ∉ seen)

include herrored hnew

theorem Turn.isSome_answer_repaired (hown : id ∈ turn.callIds) :
    ((turn.repaired policy now seen).answer seen id).isSome = true := by
  obtain ⟨call, -, hfirst, -⟩ := firstCall_of_mem hown
  rw [answer_repaired hown (hnew id hown), lookup_results_of_not_errored herrored, hfirst]
  rfl

theorem Turn.added_repaired : (turn.repaired policy now seen).added again seen = [] := by
  have herrored' : isErrored (turn.repaired policy now seen).assistant = false := herrored
  have hnone : ((turn.repaired policy now seen).calls.filter fun call =>
      !((turn.repaired policy now seen).answer seen call.id).isSome) = [] := by
    apply List.filter_eq_nil_iff.mpr
    intro call hcall
    have hown : call.id ∈ turn.callIds := List.mem_map_of_mem hcall
    simp [isSome_answer_repaired herrored hnew hown]
  rw [added, herrored', hnone]
  rfl

theorem Turn.answer_repaired_of_keepsNames (hnames : turn.KeepsNames) (hown : id ∈ turn.callIds) :
    (turn.repaired policy now seen).answer seen id = (turn.results policy now seen).lookup id := by
  obtain ⟨call, hcall, hfirst, rfl⟩ := firstCall_of_mem hown
  rw [answer_repaired hown (hnew call.id hown), lookup_results_of_not_errored herrored, hfirst]
  cases hanswer : turn.answer seen call.id with
  | some result =>
    simp [normalize_answer hanswer]
  | none =>
    have hspan : turn.span.any (answers call.id) = false := by
      by_contra hany
      have hsome : (turn.answer seen call.id).isSome = true :=
        isSome_answer.mpr ⟨hown, hnew call.id hown, by simpa using hany⟩
      simp [hanswer] at hsome
    simp only [Option.map_some, Option.getD_none, Option.some.injEq]
    rw [normalize_makeMissing_iff]
    exact hnames call hcall hfirst hspan

theorem Turn.repaired_repaired_of_keepsNames (hnames : turn.KeepsNames) :
    (turn.repaired policy now seen).repaired policy again seen = turn.repaired policy now seen := by
  apply repaired_eq_of_kept
  have herrored' : isErrored (turn.repaired policy now seen).assistant = false := herrored
  have hcalls : (turn.repaired policy now seen).calls = turn.calls := rfl
  apply keepNew_eq_of_lookup
  · rw [results_ids, results_ids]
    simp [resultIds, herrored, herrored', hcalls]
  · intro entry hmem _
    have hresults : (turn.repaired policy now seen).results policy again seen =
        turn.calls.map fun call => (call.id,
          ((turn.repaired policy now seen).answer seen call.id).getD
            (makeMissingToolResult again call)) := by
      simp [results, herrored', hcalls]
    rw [hresults] at hmem
    obtain ⟨call, hcall, rfl⟩ := List.mem_map.mp hmem
    have hown : call.id ∈ turn.callIds := List.mem_map_of_mem hcall
    have hsome : ((turn.repaired policy now seen).answer seen call.id).isSome = true :=
      isSome_answer_repaired herrored hnew hown
    rw [← answer_repaired_of_keepsNames herrored hnew hnames hown]
    obtain ⟨result, hresult⟩ := Option.isSome_iff_exists.mp hsome
    simp [hresult]

theorem Turn.keepsNames_of_sameButTimestamps (hsame : SameButTimestamps
      ((turn.repaired policy now seen).repaired policy again seen).span
      (turn.repaired policy now seen).span) : turn.KeepsNames := by
  intro call hcall hfirst hspan
  have hown : call.id ∈ turn.callIds := List.mem_map_of_mem hcall
  have hid := hnew call.id hown
  have hkept : SameButTimestamps
      (((turn.repaired policy now seen).kept policy again seen).map Prod.snd)
      ((turn.kept policy now seen).map Prod.snd) := by
    rw [← takeWhile_repaired, ← takeWhile_repaired]
    exact hsame.takeWhile
  have hlookup : (((turn.repaired policy now seen).results policy again
      seen).lookup call.id).map withoutTimestamp =
        ((turn.results policy now seen).lookup call.id).map withoutTimestamp := by
    have hfind := hkept.find_answers call.id
    rw [find_answers_kept fun entry hmem =>
        (answers_of_mem_kept hmem).2,
      find_answers_kept fun entry hmem => (answers_of_mem_kept hmem).2,
      kept, kept, lookup_keepNew hid, lookup_keepNew hid] at hfind
    exact hfind
  have hanswer := answer_of_span hspan seen
  have hfirst' : (turn.repaired policy now seen).firstCall call.id = some call := hfirst
  have herrored' : isErrored (turn.repaired policy now seen).assistant = false := herrored
  rw [lookup_results_of_not_errored herrored', hfirst',
    answer_repaired hown hid, lookup_results_of_not_errored herrored,
    hfirst, hanswer] at hlookup
  simp only [Option.map_some, Option.getD_some, Option.getD_none, Option.some.injEq] at hlookup
  rw [← normalize_makeMissing_iff now call]
  exact normalize_eq_self_of_timestamps (isToolResult_makeMissing now call) hlookup

theorem Turn.keepsNames_of_needsRepair
    (hnone : (turn.repaired policy now seen).needsRepair policy seen =
      false) : turn.KeepsNames := by
  intro call hcall hfirst hspan
  have hown : call.id ∈ turn.callIds := List.mem_map_of_mem hcall
  have hid := hnew call.id hown
  have hanswer := answer_of_span hspan seen
  have hlookup : (turn.kept policy now seen).lookup call.id =
      some (makeMissingToolResult now call) := by
    rw [kept, lookup_keepNew hid, lookup_results_of_not_errored herrored, hfirst, hanswer]
    rfl
  have hmem : makeMissingToolResult now call ∈ (turn.repaired policy now seen).span := by
    apply List.mem_append_left
    exact List.mem_map_of_mem (Entries.mem_of_lookup hlookup)
  unfold needsRepair at hnone
  simp only [Bool.or_eq_false_iff] at hnone
  have hfine := List.any_eq_false.mp hnone.1.1 _ hmem
  have hcallId : call.id ≠ [] := id_ne_nil_of_mem hcall
  rw [isFaulty, isToolResult_makeMissing, extractToolResultId_makeMissing now call hcallId] at hfine
  simp at hfine
  rw [← normalize_makeMissing_iff now call (nameOf turn.calls call.id),
    normalize_eq_self_iff (isToolResult_makeMissing now call)]
  have hcalls : (turn.repaired policy now seen).calls = turn.calls := rfl
  rw [hcalls] at hfine
  simpa using hfine.2

end NotErrored

end Again

end LittleBaby.Transcript
