import LittleBaby.TranscriptCleanup

/-!
# When the repair is a stable cleanup

The messages that are no tool results survive every repair. Whether an id
keeps at most one result and whether a second repair returns what the first
one returned depends on the transcript.
-/

namespace LittleBaby.Transcript

open JsString JsValue Turn

section

variable (policy : ErroredAssistantResultPolicy) (now again : JsNumber)

theorem map_withSeen_repaired {α : Type*} {f : List JsString → Turn → α}
    (hf : ∀ {seen other}, SameIds seen other → ∀ turn, f seen turn = f other turn)
    (later : List Turn) {seen other : List JsString}
    (hsame : SameIds other seen) :
    (withSeen policy other ((withSeen policy seen later).map fun visit =>
        visit.2.repaired policy now visit.1)).map
        (fun visit => f visit.1 visit.2) =
      (withSeen policy seen later).map fun visit =>
        f visit.1 (visit.2.repaired policy now visit.1) := by
  induction later generalizing seen other with
  | nil => rfl
  | cons turn rest ih =>
    have hnext : SameIds (other ++ (turn.repaired policy now seen).answeredIds policy)
        (seen ++ turn.answeredIds policy) := by
      intro id
      rw [(hsame.append _) id]
      exact sameIds_repaired id
    simp only [withSeen, List.map_cons]
    rw [hf hsame, ih hnext]

theorem map_visits_repaired {α : Type*} {f : List JsString → Turn → α}
    (hf : ∀ {seen other}, SameIds seen other → ∀ turn,
      f seen turn = f other turn) (messages : List JsValue) :
    (visits policy (repairedMessages policy now messages)).map (fun visit => f visit.1 visit.2) =
      (visits policy messages).map fun visit =>
        f visit.1 (visit.2.repaired policy now visit.1) := by
  rw [visits, turns_repairedMessages]
  exact map_withSeen_repaired policy now hf (turns messages).2 (fun id => Iff.rfl)

variable (messages : List JsValue)

theorem repairedTurns_again : repairedTurns policy again (repairedMessages policy now messages) =
      (visits policy messages).map fun visit =>
        (visit.2.repaired policy now visit.1).repaired policy again visit.1 :=
  map_visits_repaired policy now (f := fun seen turn => turn.repaired policy again seen)
    (fun hsame turn => repaired_congr hsame turn) messages

theorem repairedMessages_again :
    repairedMessages policy again (repairedMessages policy now messages) =
      join (others (turns messages).1) ((visits policy messages).map fun visit =>
          (visit.2.repaired policy now visit.1).repaired policy again visit.1) := by
  have hleading : others (others (turns messages).1) = others (turns messages).1 := by
    simp [others]
  rw [repairedMessages, repairedTurns_again, turns_repairedMessages, hleading]

theorem added_again : (repairToolUseResultPairing policy again
        (repairedMessages policy now messages)).added =
      (visits policy messages).flatMap fun visit =>
        (visit.2.repaired policy now visit.1).added again visit.1 := by
  rw [(repair_spec policy again _).2, List.flatMap_def, List.flatMap_def]
  congr 1
  exact map_visits_repaired policy now (f := fun seen turn => turn.added again seen)
    (fun hsame turn => added_congr hsame turn) messages

theorem needsRepair_again : needsRepair policy (repairedMessages policy now messages) =
      (visits policy messages).any fun visit =>
        (visit.2.repaired policy now visit.1).needsRepair policy visit.1 := by
  have hleading : (others (turns messages).1).any isToolResult = false := by
    apply List.any_eq_false.mpr
    intro message hmem
    simp [(mem_others.mp hmem).2]
  have hmap := map_visits_repaired policy now (f := fun seen turn => turn.needsRepair policy seen)
    (fun hsame turn => needsRepair_congr hsame turn) messages
  unfold needsRepair
  rw [turns_repairedMessages]
  simp only [hleading, Bool.false_or]
  have hany := congrArg (List.any · id) hmap
  simpa [List.any_map] using hany

end

section

variable (policy : ErroredAssistantResultPolicy) (now : JsNumber)

theorem others_append (left right : List JsValue) :
    others (left ++ right) = others left ++ others right :=
  List.filter_append _ _

theorem others_messages {turn : Turn} (hassistant : isAssistant turn.assistant = true) :
    others turn.messages = turn.assistant :: others turn.span := by
  have hresult : isToolResult turn.assistant = false := by
    by_contra hresult
    have hnot := @isAssistant_eq_false_of_isToolResult turn.assistant (by simpa using hresult)
    simp [hassistant] at hnot
  simp [messages, others, hresult]

theorem others_withSeen (later : List Turn) (seen : List JsString)
    (hassistants : ∀ turn ∈ later, isAssistant turn.assistant = true) :
    others (((withSeen policy seen later).map fun visit =>
        visit.2.repaired policy now visit.1).flatMap messages) =
      others (later.flatMap messages) := by
  induction later generalizing seen with
  | nil => rfl
  | cons turn rest ih =>
    have hturn : isAssistant turn.assistant = true := hassistants turn List.mem_cons_self
    have hrest := ih (seen ++ turn.answeredIds policy) fun other hmem =>
      hassistants other (List.mem_cons_of_mem _ hmem)
    simp only [withSeen, List.map_cons, List.flatMap_cons]
    rw [others_append, others_append, hrest, others_messages hturn,
      @others_messages (turn.repaired policy now seen) hturn,
      others_repaired]
    rfl

theorem others_repair (messages : List JsValue) :
    others (repairToolUseResultPairing policy now messages).messages = others messages := by
  rw [(repair_spec policy now messages).1]
  split_ifs
  · have hleading : others (others (turns messages).1) = others (turns messages).1 := by
      simp [others]
    calc
      others (repairedMessages policy now messages) = others (turns messages).1 ++
            others ((turns messages).2.flatMap Turn.messages) := by
            rw [repairedMessages, join, others_append, hleading]
            congr 1
            exact others_withSeen policy now _ [] (isCut_turns messages).assistants
      _ = others messages := by
            rw [← others_append]
            exact congrArg others (join_turns messages)
  · rfl

end

variable (messages : List JsValue)

def AtMostOnePerId : Prop := ∀ id, messages.countP (answers id) ≤ 1

section Unique

variable {policy : ErroredAssistantResultPolicy} {now : JsNumber}

theorem countP_withSeen {f : List JsString → Turn → List JsValue}
    {id : JsString} (later : List Turn) (seen : List JsString)
    (hturn : ∀ visit ∈ withSeen policy seen later, (f visit.1 visit.2).countP (answers id) ≤ 1 ∧
        (0 < (f visit.1 visit.2).countP (answers id) →
          id ∉ visit.1 ∧ id ∈ visit.2.answeredIds policy)) :
    ((withSeen policy seen later).flatMap fun visit =>
        f visit.1 visit.2).countP (answers id) ≤ 1 ∧
      (id ∈ seen → ((withSeen policy seen later).flatMap fun visit =>
        f visit.1 visit.2).countP (answers id) = 0) := by
  induction later generalizing seen with
  | nil => simp [withSeen]
  | cons turn rest ih =>
    obtain ⟨hone, hpositive⟩ := hturn (seen, turn) List.mem_cons_self
    obtain ⟨hrest, hzero⟩ := ih (seen ++ turn.answeredIds policy)
      fun visit hmem => hturn visit (List.mem_cons_of_mem _ hmem)
    simp only [withSeen, List.flatMap_cons, List.countP_append]
    simp only at hone hpositive
    constructor
    · by_cases hcount : 0 < (f seen turn).countP (answers id)
      · have hnone := hzero (List.mem_append_right _ (hpositive hcount).2)
        omega
      · omega
    · intro hseen
      have hnone := hzero (List.mem_append_left _ hseen)
      have hfirst : ¬0 < (f seen turn).countP (answers id) := by
        intro hcount
        exact (hpositive hcount).1 hseen
      omega

variable {turn : Turn}

theorem answers_assistant (id : JsString) (hassistant : isAssistant turn.assistant = true) :
    answers id turn.assistant = false := by
  by_contra hanswers
  simp only [answers, Bool.not_eq_false, Bool.and_eq_true] at hanswers
  have hnot := isAssistant_eq_false_of_isToolResult hanswers.1
  simp [hassistant] at hnot

variable (messages : List JsValue)

theorem countP_others (id : JsString) : (others messages).countP (answers id) = 0 := by
  apply List.countP_eq_zero.mpr
  intro message hmem
  simp [answers, (mem_others.mp hmem).2]

theorem countP_repaired (seen : List JsString) (id : JsString)
    (hassistant : isAssistant turn.assistant = true) :
    (turn.repaired policy now seen).messages.countP (answers id) =
      ((turn.kept policy now seen).map Prod.fst).count id := by
  have hkept : ((turn.kept policy now seen).map Prod.snd).countP
      (answers id) = ((turn.kept policy now seen).map Prod.fst).count id := by
    rw [List.count, List.countP_map, List.countP_map]
    apply List.countP_congr
    intro entry hmem
    obtain ⟨-, hresult, hid⟩ := answers_of_mem_kept hmem
    simp [answers, hresult, hid]
  rw [messages, List.countP_cons_of_neg (by
    simp [@answers_assistant (turn.repaired policy now seen) id hassistant]), repaired, List.countP_append, countP_others, hkept,
    Nat.add_zero]

theorem atMostOne_repairedMessages : AtMostOnePerId (repairedMessages policy now messages) := by
  intro id
  have hcut := isCut_turns messages
  have hlater := (@countP_withSeen policy
    (fun seen turn => (turn.repaired policy now seen).messages) id
    (turns messages).2 [] ?_).1
  · rw [repairedMessages, join, List.countP_append, countP_others, Nat.zero_add]
    simpa [repairedTurns, visits, List.flatMap_map] using hlater
  · intro visit hvisit
    have hassistant := hcut.assistants visit.2 (mem_turns_of_mem_visits hvisit)
    have hnew := allNew_iff.mp (allNew_keepNew visit.1 (visit.2.results policy now visit.1))
    rw [countP_repaired visit.1 id hassistant]
    constructor
    · exact List.nodup_iff_count_le_one.mp hnew.1 id
    · intro hcount
      have hmem := List.count_pos_iff.mp hcount
      have hseen : id ∉ visit.1 := hnew.2 id hmem
      constructor
      · exact hseen
      · have hafter := (sameIds_seenAfter policy now visit.1 visit.2
          id).mp (List.mem_append_right _ hmem)
        rcases List.mem_append.mp hafter with hbefore | hanswered
        · exact absurd hbefore hseen
        · exact hanswered

def OneResultPerTurn : Prop := ∀ turn ∈ (turns messages).2, ∀ id, turn.span.countP (answers id) ≤ 1

theorem Turn.Untouched.answered_of_countP
    {seen : List JsString} (huntouched : turn.Untouched policy seen)
    {id : JsString} (hcount : 0 < turn.span.countP (answers id)) :
    id ∉ seen ∧ id ∈ turn.answeredIds policy := by
  obtain ⟨message, hmem, hanswers⟩ := List.countP_pos_iff.mp hcount
  have hany : turn.span.any (answers id) = true := List.any_eq_true.mpr ⟨message, hmem, hanswers⟩
  simp only [answers, Bool.and_eq_true, decide_eq_true_eq] at hanswers
  obtain ⟨own, hown, hid, hseen⟩ := huntouched.own message hmem hanswers.1
  have hsame : own = id := Option.some.inj (hid.symm.trans hanswers.2)
  subst hsame
  constructor
  · exact hseen
  · unfold answeredIds
    split_ifs with herrored
    · cases policy with
      | preserve => exact List.mem_filter.mpr ⟨hown, hany⟩
      | drop =>
        have hnone := huntouched.dropped herrored rfl
        have hsome := isSome_answer.mpr ⟨hown, hseen, hany⟩
        obtain ⟨call, hcall, rfl⟩ := List.mem_map.mp hown
        have hnot := List.any_eq_false.mp hnone call hcall
        exact absurd hsome hnot
    · exact hown

theorem atMostOne_of_untouched {messages : List JsValue}
    (hnone : needsRepair policy messages = false) :
    AtMostOnePerId messages ↔ OneResultPerTurn messages := by
  have hcut := isCut_turns messages
  have hjoin := join_turns messages
  have hspan : ∀ turn ∈ (turns messages).2, ∀ id,
      turn.messages.countP (answers id) = turn.span.countP (answers id) := by
    intro turn hmem id
    rw [Turn.messages, List.countP_cons_of_neg (by
      simp [answers_assistant id (hcut.assistants turn hmem)])]
  constructor
  · intro hone turn hmem id
    have hsub : turn.messages.Sublist messages := by
      rw [← hjoin]
      apply List.Sublist.trans _ (List.sublist_append_right _ _)
      exact List.sublist_flatten_of_mem (List.mem_map_of_mem hmem)
    rw [← hspan turn hmem]
    exact (hsub.countP_le).trans (hone id)
  · intro hone id
    have hleading : (turns messages).1.countP (answers id) = 0 := by
      unfold needsRepair at hnone
      rw [Bool.or_eq_false_iff] at hnone
      apply List.countP_eq_zero.mpr
      intro message hmem
      have hresult := List.any_eq_false.mp hnone.1 message hmem
      simp [answers, hresult]
    have hlater := (@countP_withSeen policy (fun _ turn => turn.messages) id
      (turns messages).2 [] ?_).1
    · rw [← hjoin, join, List.countP_append, hleading, Nat.zero_add]
      have hsnd := map_snd_withSeen policy [] (turns messages).2
      rw [← hsnd, List.flatMap_map]
      simpa [hsnd] using hlater
    · intro visit hvisit
      have hmem := mem_turns_of_mem_visits hvisit
      simp only [hspan visit.2 hmem]
      exact ⟨hone visit.2 hmem id, (untouched_of_mem_visits hnone hvisit).answered_of_countP⟩

end Unique

def IsFrom (message : JsValue) : Prop :=
  ∃ before ∈ messages, message = before ∨
    ∃ fallbackName, message = normalizeToolResultName before fallbackName

section Origin

variable {policy : ErroredAssistantResultPolicy} {now : JsNumber}

theorem Turn.isFrom_answer {turn : Turn} {seen : List JsString} {id : JsString} {result : JsValue}
    (hanswer : turn.answer seen id = some result) :
    IsFrom turn.span result := by
  unfold answer Transcript.answer at hanswer
  split_ifs at hanswer
  obtain ⟨message, hfind, rfl⟩ := Option.map_eq_some_iff.mp hanswer
  exact ⟨message, List.mem_of_find?_eq_some hfind, .inr ⟨_, rfl⟩⟩

theorem Turn.origin_of_mem_kept {turn : Turn} {seen : List JsString} {message : JsValue}
    (hmem : message ∈ (turn.kept policy now seen).map Prod.snd) :
    message ∈ turn.added now seen ∨ IsFrom turn.span message := by
  obtain ⟨entry, hentry, rfl⟩ := List.mem_map.mp hmem
  have hresults := keepNew_subset hentry
  unfold results at hresults
  split_ifs at hresults with herrored
  · right
    cases policy with
    | preserve =>
      obtain ⟨call, -, hcall⟩ := List.mem_filterMap.mp hresults
      obtain ⟨result, hanswer, rfl⟩ := Option.map_eq_some_iff.mp hcall
      exact isFrom_answer hanswer
    | drop => simp at hresults
  · obtain ⟨call, hcall, rfl⟩ := List.mem_map.mp hresults
    cases hanswer : turn.answer seen call.id with
    | some result => exact .inr (isFrom_answer hanswer)
    | none =>
      left
      rw [added, if_neg herrored]
      apply List.mem_map.mpr
      refine ⟨call, List.mem_filter.mpr ⟨hcall, ?_⟩, rfl⟩
      simp [hanswer]

theorem origin_of_mem_repair {messages : List JsValue} {message : JsValue}
    (hmem : message ∈ (repairToolUseResultPairing policy now messages).messages)
    (hresult : isToolResult message = true) :
    message ∈ (repairToolUseResultPairing policy now messages).added ∨ IsFrom messages message := by
  rw [(repair_spec policy now messages).1] at hmem
  split_ifs at hmem
  · rcases List.mem_append.mp hmem with hleading | hlater
    · exact absurd (mem_others.mp hleading).2 (by simp [hresult])
    · obtain ⟨after, hafter, hmessage⟩ := List.mem_flatMap.mp hlater
      obtain ⟨visit, hvisit, rfl⟩ := List.mem_map.mp hafter
      have hturn := mem_turns_of_mem_visits hvisit
      rcases List.mem_cons.mp hmessage with rfl | hspan
      · have hassistant := (isCut_turns messages).assistants visit.2 hturn
        have hnot := isAssistant_eq_false_of_isToolResult hresult
        exact absurd hassistant (by simpa [repaired] using hnot)
      · rcases List.mem_append.mp hspan with hkept | hother
        · rcases origin_of_mem_kept hkept with hadded | hfrom
          · left
            rw [(repair_spec policy now messages).2]
            exact List.mem_flatMap.mpr ⟨visit, hvisit, hadded⟩
          · right
            obtain ⟨before, hbefore, hbecomes⟩ := hfrom
            refine ⟨before, ?_, hbecomes⟩
            rw [← join_turns messages]
            apply List.mem_append_right
            exact List.mem_flatMap.mpr ⟨visit.2, hturn, List.mem_cons_of_mem _ hbefore⟩
        · exact absurd (mem_others.mp hother).2 (by simp [hresult])
  · exact .inr ⟨message, hmem, .inl rfl⟩

end Origin

structure IsCleanup (policy : ErroredAssistantResultPolicy)
    (now again : JsNumber) (messages : List JsValue) : Prop where
  others : others (repairToolUseResultPairing policy now messages).messages = others messages
  unique : AtMostOnePerId (repairToolUseResultPairing policy now messages).messages
  introduced : ∀ message ∈ (repairToolUseResultPairing policy now messages).messages,
    isToolResult message = true → message ∈ (repairToolUseResultPairing policy now messages).added ∨
        IsFrom messages message
  stable : SameButTimestamps (repairToolUseResultPairing policy again
      (repairToolUseResultPairing policy now messages).messages).messages
    (repairToolUseResultPairing policy now messages).messages
  nothingAdded : (repairToolUseResultPairing policy again
    (repairToolUseResultPairing policy now messages).messages).added = []

/-- No turn that did not fail calls an id that was answered before it. -/
def CallsNewIds (policy : ErroredAssistantResultPolicy) (messages : List JsValue) : Prop :=
  ∀ visit ∈ visits policy messages, isErrored visit.2.assistant = false →
    ∀ id ∈ visit.2.callIds, id ∉ visit.1

/-- Every result that the repair invents has a name that needs no trimming. -/
def KeepsNames : Prop :=
  ∀ turn ∈ (turns messages).2, isErrored turn.assistant = false → turn.KeepsNames

section Twice

variable {policy : ErroredAssistantResultPolicy} {now again : JsNumber} {messages : List JsValue}

section

variable (hnone : needsRepair policy messages = false)
include hnone

theorem repair_of_untouched : (repairToolUseResultPairing policy now messages).messages = messages ∧
      (repairToolUseResultPairing policy now messages).added = [] := by
  obtain ⟨hmessages, hadded⟩ := repair_spec policy now messages
  constructor
  · rw [hmessages, hnone]
    rfl
  · rw [hadded, List.flatMap_eq_nil_iff]
    rintro ⟨seen, turn⟩ hvisit
    have huntouched := untouched_of_mem_visits hnone hvisit
    simp only [added]
    split_ifs with herrored
    · rfl
    · rw [List.map_eq_nil_iff, List.filter_eq_nil_iff]
      intro call hcall
      simp [huntouched.answered (by simpa using herrored) call hcall]

theorem callsNewIds_of_untouched : CallsNewIds policy messages := by
  intro visit hvisit herrored
  exact (freshCalls_of_untouched policy messages hnone visit hvisit herrored).2

theorem keepsNames_of_untouched : KeepsNames messages := by
  intro turn hturn herrored call hcall _ hspan
  obtain ⟨seen, hvisit⟩ := @exists_visit policy _ _ hturn
  have hanswered := (untouched_of_mem_visits hnone hvisit).answered herrored call hcall
  rw [answer_of_span hspan] at hanswered
  simp at hanswered

end

theorem stable_repairedMessages (hnew : CallsNewIds policy messages)
    (hnames : KeepsNames messages) :
    repairedMessages policy again (repairedMessages policy now messages) =
        repairedMessages policy now messages ∧
      (repairToolUseResultPairing policy again
        (repairedMessages policy now messages)).added = [] := by
  constructor
  · rw [repairedMessages_again]
    congr 1
    apply List.map_congr_left
    intro visit hvisit
    cases herrored : isErrored visit.2.assistant with
    | true => exact repaired_repaired_of_errored herrored
    | false =>
      exact repaired_repaired_of_keepsNames herrored (hnew visit hvisit herrored)
        (hnames visit.2 (mem_turns_of_mem_visits hvisit) herrored)
  · rw [added_again, List.flatMap_eq_nil_iff]
    intro visit hvisit
    cases herrored : isErrored visit.2.assistant with
    | true =>
      have herrored' : isErrored (visit.2.repaired policy now visit.1).assistant = true := herrored
      rw [added, if_pos herrored']
    | false =>
      exact added_repaired herrored (hnew visit hvisit herrored)

theorem callsNewIds_of_nothingAdded (hadded : (repairToolUseResultPairing policy again
      (repairedMessages policy now messages)).added = []) :
    CallsNewIds policy messages := by
  intro visit hvisit herrored id hid hseen
  rw [added_again, List.flatMap_eq_nil_iff] at hadded
  have hnone := hadded visit hvisit
  have herrored' : isErrored (visit.2.repaired policy now visit.1).assistant = false := herrored
  rw [added, herrored'] at hnone
  simp only [Bool.false_eq_true, if_false, List.map_eq_nil_iff, List.filter_eq_nil_iff] at hnone
  obtain ⟨call, hcall, rfl⟩ := List.mem_map.mp hid
  have hnot := hnone call hcall
  rw [answer_of_mem_seen hseen] at hnot
  simp at hnot

theorem turns_map_withoutTimestamp (messages : List JsValue) :
    turns (messages.map withoutTimestamp) = ((turns messages).1.map withoutTimestamp,
        (turns messages).2.map fun turn =>
          ⟨withoutTimestamp turn.assistant, turn.span.map withoutTimestamp⟩) := by
  induction messages with
  | nil => rfl
  | cons message rest ih =>
    rw [List.map_cons, turns, turns, ih, isAssistant_withoutTimestamp]
    by_cases hassistant : isAssistant message = true
    · simp [hassistant]
    · simp [hassistant]

theorem sameButTimestamps_span (hstable : SameButTimestamps
      (repairedMessages policy again (repairedMessages policy now messages))
      (repairedMessages policy now messages))
    {visit : List JsString × Turn} (hvisit : visit ∈ visits policy messages) :
    SameButTimestamps ((visit.2.repaired policy now visit.1).repaired policy again visit.1).span
      (visit.2.repaired policy now visit.1).span := by
  have hturns := congrArg (fun messages => (turns messages).2) hstable
  simp only [turns_map_withoutTimestamp] at hturns
  rw [turns_repairedMessages, turns_repairedMessages, repairedTurns_again] at hturns
  simp only [repairedTurns, List.map_map] at hturns
  have hvisitTurns := List.map_inj_left.mp hturns visit hvisit
  simp [Turn.mk.injEq] at hvisitTurns
  exact hvisitTurns.2

theorem isCleanup_of_needsRepair (hneeds : needsRepair policy messages = true) :
    IsCleanup policy now again messages ↔ CallsNewIds policy messages ∧ KeepsNames messages := by
  have hout : (repairToolUseResultPairing policy now messages).messages =
      repairedMessages policy now messages := by
    rw [(repair_spec policy now messages).1, if_pos hneeds]
  have hsecond := (repair_spec policy again (repairedMessages policy now messages)).1
  constructor
  · intro hcleanup
    have hstable := hcleanup.stable
    have hadded := hcleanup.nothingAdded
    rw [hout] at hstable hadded
    have hnew := callsNewIds_of_nothingAdded hadded
    constructor
    · exact hnew
    · intro turn hturn herrored
      obtain ⟨seen, hvisit⟩ := @exists_visit policy _ _ hturn
      have hids := hnew (seen, turn) hvisit herrored
      cases hneedsAgain : needsRepair policy (repairedMessages policy now messages) with
      | true =>
        rw [hsecond, if_pos hneedsAgain] at hstable
        exact keepsNames_of_sameButTimestamps herrored hids (sameButTimestamps_span hstable hvisit)
      | false =>
        rw [needsRepair_again] at hneedsAgain
        have hnone := List.any_eq_false.mp hneedsAgain (seen, turn) hvisit
        exact keepsNames_of_needsRepair herrored hids (by simpa using hnone)
  · rintro ⟨hnew, hnames⟩
    obtain ⟨hsame, hadded⟩ := @stable_repairedMessages _ now again _ hnew hnames
    constructor
    · exact others_repair policy now messages
    · rw [hout]
      exact atMostOne_repairedMessages messages
    · intro message hmem hresult
      exact origin_of_mem_repair hmem hresult
    · rw [hout, hsecond, hsame]
      split_ifs <;> rfl
    · rw [hout]
      exact hadded

/-- The repair is a cleanup exactly where it notices something or finds no id
with two results, no turn that did not fail calls an answered id, and no
invented result is renamed. -/
theorem isCleanup_repairToolUseResultPairing : IsCleanup policy now again messages ↔
      CallsNewIds policy messages ∧ KeepsNames messages ∧
        (needsRepair policy messages = true ∨ OneResultPerTurn messages) := by
  cases hneeds : needsRepair policy messages with
  | true => simp [isCleanup_of_needsRepair hneeds]
  | false =>
    obtain ⟨hout, hadded⟩ := @repair_of_untouched _ now _ hneeds
    obtain ⟨hagain, hnothing⟩ := @repair_of_untouched _ again _ hneeds
    have hunique := atMostOne_of_untouched hneeds
    constructor
    · intro hcleanup
      have hone := hcleanup.unique
      rw [hout] at hone
      exact ⟨callsNewIds_of_untouched hneeds,
        keepsNames_of_untouched hneeds, .inr (hunique.mp hone)⟩
    · rintro ⟨-, -, hmissing | hone⟩
      · simp at hmissing
      · constructor
        · rw [hout]
        · rw [hout]
          exact hunique.mpr hone
        · intro message hmem hresult
          exact origin_of_mem_repair hmem hresult
        · rw [hout, hagain]
          rfl
        · rw [hout]
          exact hnothing

end Twice

theorem repeated_result_stays : ¬IsCleanup .preserve (.finite 0) (.finite 1)
      [callingMessage [js "a"], resultMessage (js "a"), resultMessage (js "a")] := by
  intro hcleanup
  have hone := hcleanup.unique (js "a")
  exact absurd hone (by decide)

end LittleBaby.Transcript
