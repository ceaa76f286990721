import LittleBaby.ToolCallIdRewriting
import Mathlib.Tactic.IntervalCases

/-!
# Calls and results stay together

A result takes the front of the queue of its raw id.
-/

namespace LittleBaby.ToolCallIds

open JsString JsValue Transcript

variable (sha256 : Sha256) (clock : ℕ → ℕ) (mode : ToolCallIdMode)

/-! ## Transcripts -/

variable (messages : List JsValue)

def allCallIds : List JsString :=
  messages.flatMap fun message => if isAssistant message then callIds message else []

def resultIds : List JsString :=
  messages.flatMap fun message =>
    if isToolResult message then (extractToolResultId message).toList else []

/-- Every result follows, after other results, a turn with a call that has its id. -/
def Follows : Prop :=
  ∀ before result after, messages = before ++ result :: after → isToolResult result →
    OneId result ∧ ∃ id, extractToolResultId result = some id ∧
      ∃ earlier turn results, before = earlier ++ turn :: results ∧ isAssistant turn ∧
        (∀ message ∈ results, isToolResult message) ∧ id ∈ callIds turn

/-- Where a raw id is answered, the turn has as many calls with it, and all earlier
calls with it are answered. -/
def Answered : Prop :=
  ∀ before turn results after, messages = before ++ turn :: (results ++ after) →
    isAssistant turn → (∀ message ∈ results, isToolResult message) →
      ∀ id ∈ resultIds results, (resultIds results).count id ≤ (callIds turn).count id ∧
          (resultIds before).count id = (allCallIds before).count id

def resultAnswers (id : JsString) (results newResults : List JsValue) : List (Option JsString) :=
  ((results.zip newResults).filter fun pair => extractToolResultId pair.1 = some id).map
    fun pair => extractToolResultId pair.2

/-- Behind every turn the results with a raw id have the new ids of the first calls
with it, in their order. -/
def PairsKept (newMessages : List JsValue) : Prop :=
  ∀ before turn results after newBefore newTurn newResults newAfter,
    messages = before ++ turn :: (results ++ after) →
      newMessages = newBefore ++ newTurn :: (newResults ++ newAfter) →
        newBefore.length = before.length → newResults.length = results.length →
          isAssistant turn → (∀ message ∈ results, isToolResult message) →
            ∀ id, resultAnswers id results newResults <+:
              (answersTo id (callIds turn) (callIds newTurn)).map some

variable (resolver : Resolver)

def rewriteMessage (message : JsValue) : JsValue × Resolver :=
  if isAssistant message then
    rewriteAssistantToolCallIds sha256 clock mode {} resolver message
  else if isToolResult message then
    rewriteToolResultIds sha256 clock mode {} resolver message
  else (message, resolver)

abbrev rewriteMessages : List JsValue × Resolver :=
  resolveAll (rewriteMessage sha256 clock mode) {} messages

theorem sanitizeFrom_eq (index : ℕ) (messages : List JsValue) :
    sanitizeFrom sha256 clock mode {} none resolver index messages =
      resolveAll (rewriteMessage sha256 clock mode) resolver messages := by
  induction messages generalizing resolver index with
  | nil => rfl
  | cons message rest ih =>
    have hmessage : sanitizeMessage sha256 clock mode {} none resolver index message =
        rewriteMessage sha256 clock mode resolver message := by
      simp [sanitizeMessage, rewriteMessage]
    simp only [sanitizeFrom, resolveAll, hmessage, ih]

theorem sanitize_eq : sanitizeToolCallIdsForCloudCodeAssist sha256 clock messages mode =
      (rewriteMessages sha256 clock mode messages).1 := by
  exact congrArg Prod.fst (sanitizeFrom_eq sha256 clock mode {} 0 messages)

/-- Fewer than a thousand calls meet on the candidates of the next id of a call, and
the hashes among them differ. -/
def Roomy (id : JsString) : Prop :=
  collisions sha256 (nextSeed resolver id) resolver.used mode + 1 < 1000 ∧ (mode = .strict9 →
      ((List.range 1000).map (hashedId sha256 (nextSeed resolver id))).Nodup)

def FewCollide : Prop :=
  ∀ before turn after earlier id later, messages = before ++ turn :: after →
    isAssistant turn → callIds turn = earlier ++ id :: later → Roomy sha256 mode
        (resolveCalls sha256 clock mode (rewriteMessages sha256 clock mode before).2 earlier).2 id

section Counting

theorem allCallIds_append (first second : List JsValue) :
    allCallIds (first ++ second) = allCallIds first ++ allCallIds second :=
  List.flatMap_append

theorem resultIds_append (first second : List JsValue) :
    resultIds (first ++ second) = resultIds first ++ resultIds second :=
  List.flatMap_append

variable (message : JsValue)

theorem resultIds_cons (rest : List JsValue) : resultIds (message :: rest) =
      (if isToolResult message then (extractToolResultId message).toList else []) ++
        resultIds rest :=
  List.flatMap_cons

theorem allCallIds_singleton :
    allCallIds [message] = if isAssistant message then callIds message else [] := by
  simp [allCallIds]

theorem resultIds_singleton : resultIds [message] =
      if isToolResult message then (extractToolResultId message).toList else [] := by
  simp [resultIds]

theorem allCallIds_of_results {results : List JsValue}
    (hresults : ∀ message ∈ results, isToolResult message) : allCallIds results = [] := by
  apply List.flatMap_eq_nil_iff.mpr
  intro message hmem
  rw [isAssistant_eq_false_of_isToolResult (hresults message hmem)]
  rfl

end Counting

def NoSurplus : Prop :=
  ∀ before turn results after, messages = before ++ turn :: (results ++ after) →
    isAssistant turn → (∀ message ∈ results, isToolResult message) →
      ∀ id, (resultIds results).count id ≤ (callIds turn).count id

structure Balanced (messages : List JsValue) (rewritten : List JsValue × Resolver) :
    Prop where
  waiting : ∀ id, (rewritten.2.pending id).length + (resultIds messages).count id =
    (allCallIds messages).count id
  waitingUsed : ∀ id, ∀ next ∈ rewritten.2.pending id, next ∈ rewritten.2.used
  used : rewritten.2.used = allCallIds rewritten.1
  nodup : rewritten.2.used.Nodup
  valid : ∀ id ∈ rewritten.2.used, isValidCloudCodeAssistToolId id mode
  oneId : ∀ message ∈ rewritten.1, isToolResult message → OneId message

theorem nodup_resolveCalls {resolver : Resolver} {ids : List JsString}
    (hroomy : ∀ earlier id later, ids = earlier ++ id :: later →
      Roomy sha256 mode (resolveCalls sha256 clock mode resolver earlier).2 id)
    (hnodup : resolver.used.Nodup) :
    (resolveCalls sha256 clock mode resolver ids).2.used.Nodup := by
  induction ids generalizing resolver with
  | nil => exact hnodup
  | cons first rest ih =>
    have hfirst := hroomy [] first rest rfl
    have hfresh := makeUniqueToolId_not_mem sha256 hfirst.1 hfirst.2 (clock resolver.used.length)
    apply ih
    · intro earlier id later heq
      exact hroomy (first :: earlier) id later (by rw [heq, List.cons_append])
    · rw [used_resolveAssistantId, resolveAssistantId_fst]
      apply List.nodup_append.mpr
      refine ⟨hnodup, List.nodup_singleton _, fun one hone other hother => ?_⟩
      rw [List.mem_singleton.mp hother]
      rintro rfl
      exact hfresh hone

theorem isValid_resolveCalls (ids : List JsString) :
    ∀ id ∈ (resolveCalls sha256 clock mode resolver ids).1,
      isValidCloudCodeAssistToolId id mode := by
  induction ids generalizing resolver with
  | nil => exact fun _ hmem => absurd hmem List.not_mem_nil
  | cons first rest ih =>
    intro id hmem
    rcases List.mem_cons.mp hmem with rfl | hmem
    · exact isValid_resolveAssistantId sha256 clock mode resolver first
    · exact ih _ id hmem

section Steps

variable {messages : List JsValue} {rewritten : List JsValue × Resolver} {message : JsValue}

def extended (rewritten : List JsValue × Resolver) (message : JsValue) : List JsValue × Resolver :=
  (rewritten.1 ++ [(rewriteMessage sha256 clock mode rewritten.2 message).1],
    (rewriteMessage sha256 clock mode rewritten.2 message).2)

theorem rewriteMessages_concat (messages : List JsValue) (message : JsValue) :
    rewriteMessages sha256 clock mode (messages ++ [message]) =
      extended sha256 clock mode (rewriteMessages sha256 clock mode messages) message :=
  resolveAll_append _ _ _ _

section

variable (hbalanced : Balanced mode messages rewritten)
include hbalanced

theorem Balanced.turn (hassistant : isAssistant message = true)
    (hroomy : ∀ earlier id later, callIds message = earlier ++ id :: later →
      Roomy sha256 mode (resolveCalls sha256 clock mode rewritten.2 earlier).2 id) :
    Balanced mode (messages ++ [message]) (extended sha256 clock mode rewritten message) := by
  obtain ⟨hnew, hids, hresolver⟩ := rewriteAssistant_spec sha256 clock mode rewritten.2 hassistant
  have hlength := length_resolveAll (resolveAssistantId sha256 clock mode {}) rewritten.2
    (callIds message)
  have hnotResult : ∀ {other : JsValue}, isAssistant other = true → isToolResult other = false := by
    intro other hother
    by_contra hresult
    rw [isAssistant_eq_false_of_isToolResult (by simpa using hresult)] at hother
    cases hother
  simp only [extended, rewriteMessage, hassistant, if_true]
  constructor
  · intro id
    simp [allCallIds_append, allCallIds_singleton, hassistant, resultIds_append, resultIds_singleton, hnotResult hassistant]
    rw [hresolver, pending_resolveCalls, List.length_append, length_answersTo id hlength]
    have hwaiting := hbalanced.waiting id
    omega
  · intro id next hnext
    simp only [hresolver] at hnext ⊢
    rw [pending_resolveCalls] at hnext
    rw [used_resolveCalls]
    rcases List.mem_append.mp hnext with hnext | hnext
    · exact List.mem_append_left _ (hbalanced.waitingUsed id next hnext)
    · exact List.mem_append_right _ (mem_of_mem_answersTo hnext)
  · simp [hresolver, used_resolveCalls, allCallIds_append, allCallIds_singleton, hnew, hids, hbalanced.used]
  · simp only [hresolver]
    exact nodup_resolveCalls sha256 clock mode hroomy hbalanced.nodup
  · intro id hid
    simp only [hresolver, used_resolveCalls] at hid
    rcases List.mem_append.mp hid with hid | hid
    · exact hbalanced.valid id hid
    · exact isValid_resolveCalls sha256 clock mode _ _ id hid
  · intro other hother hresult
    rcases List.mem_append.mp hother with hother | hother
    · exact hbalanced.oneId other hother hresult
    · rw [List.mem_singleton.mp hother, hnotResult hnew] at hresult
      cases hresult

theorem Balanced.result
    (hresult : isToolResult message = true) (hone : OneId message) {id : JsString}
    (hid : extractToolResultId message = some id)
    (hwaits : (resultIds messages).count id < (allCallIds messages).count id) :
    Balanced mode (messages ++ [message]) (extended sha256 clock mode rewritten message) := by
  obtain ⟨next, rest, hqueue⟩ : ∃ next rest, rewritten.2.pending id = next :: rest := by
    apply List.exists_cons_of_length_pos
    have hwaiting := hbalanced.waiting id
    omega
  have hused := hbalanced.waitingUsed id next (by rw [hqueue]; exact List.mem_cons_self)
  obtain ⟨hnext, hkept, hpending⟩ := resolveToolResultId_of_pending sha256 clock mode hqueue
  have hne : next ≠ [] := ne_nil_of_isValid mode (hbalanced.valid next hused)
  obtain ⟨hnew, hnewOne, hnewId, hresolver⟩ := rewriteToolResult_spec sha256 clock mode
    rewritten.2 hresult hone hid (hnext ▸ hne)
  have hnotAssistant := isAssistant_eq_false_of_isToolResult hresult
  simp only [extended, rewriteMessage, hnotAssistant, Bool.false_eq_true, if_false, hresult,
    if_true]
  constructor
  · intro other
    simp [allCallIds_append, allCallIds_singleton, hnotAssistant, resultIds_append, resultIds_singleton, hresult, hid]
    have hwaiting := hbalanced.waiting other
    rw [hresolver, hpending]
    split_ifs with hsame
    · subst hsame
      rw [hqueue, List.length_cons] at hwaiting
      simp only [List.count_singleton_self]
      omega
    · rw [List.count_singleton, if_neg (by simpa using fun heq => hsame heq.symm)]
      omega
  · intro other waiting hmem
    simp only [hresolver] at hmem ⊢
    rw [hkept]
    rw [hpending] at hmem
    split_ifs at hmem with hsame
    · exact hbalanced.waitingUsed id waiting (by rw [hqueue]; exact List.mem_cons_of_mem _ hmem)
    · exact hbalanced.waitingUsed other waiting hmem
  · simp [hresolver, hkept, allCallIds_append, allCallIds_singleton, isAssistant_eq_false_of_isToolResult hnew, hbalanced.used]
  · simp only [hresolver, hkept]
    exact hbalanced.nodup
  · simp only [hresolver, hkept]
    exact hbalanced.valid
  · intro other hother hotherResult
    rcases List.mem_append.mp hother with hother | hother
    · exact hbalanced.oneId other hother hotherResult
    · rw [List.mem_singleton.mp hother]
      exact hnewOne

theorem Balanced.other
    (hassistant : isAssistant message = false) (hresult : isToolResult message = false) :
    Balanced mode (messages ++ [message]) (extended sha256 clock mode rewritten message) := by
  simp only [extended, rewriteMessage, hassistant, hresult, Bool.false_eq_true, if_false]
  constructor
  · intro id
    simp [allCallIds_append, allCallIds_singleton, hassistant, hresult, resultIds_append, resultIds_singleton]
    exact hbalanced.waiting id
  · exact hbalanced.waitingUsed
  · simp [allCallIds_append, allCallIds_singleton, hassistant, hbalanced.used]
  · exact hbalanced.nodup
  · exact hbalanced.valid
  · intro other hother hotherResult
    rcases List.mem_append.mp hother with hother | hother
    · exact hbalanced.oneId other hother hotherResult
    · rw [List.mem_singleton.mp hother, hresult] at hotherResult
      cases hotherResult

end

end Steps

/-! ## Whole transcripts -/

section Transcripts

variable {messages : List JsValue}

theorem balanced_of_noSurplus (hfollows : Follows messages)
    (hfew : FewCollide sha256 clock mode messages) (hsurplus : NoSurplus messages)
    {before after : List JsValue} (hsplit : messages = before ++ after) :
    Balanced mode before (rewriteMessages sha256 clock mode before) := by
  induction hsize : before.length using Nat.strong_induction_on generalizing before after with
  | _ size ih =>
    rcases List.eq_nil_or_concat before with rfl | ⟨past, message, rfl⟩
    · constructor
      · intro id; rfl
      · intro id next hmem; cases hmem
      · rfl
      · exact List.nodup_nil
      · intro id hmem; cases hmem
      · intro other hmem; cases hmem
    rw [List.concat_eq_append] at hsplit hsize ⊢
    rw [List.append_assoc, List.singleton_append] at hsplit
    rw [List.length_append, List.length_singleton] at hsize
    have hpast := ih past.length (by omega) hsplit rfl
    rw [rewriteMessages_concat]
    by_cases hassistant : isAssistant message = true
    · apply hpast.turn sha256 clock mode hassistant
      intro earlier id later hids
      exact hfew past message after earlier id later hsplit hassistant hids
    by_cases hresult : isToolResult message = true
    · obtain ⟨hone, id, hid, earlier, turn, results, hpastSplit, hturn, hresults, hmem⟩ :=
        hfollows past message after hsplit hresult
      apply hpast.result sha256 clock mode hresult hone hid
      -- the calls of the turn are more than the results read so far
      have hearlierSplit : messages = earlier ++ turn :: (results ++ message :: after) := by
        rw [hsplit, hpastSplit, List.append_assoc, List.cons_append]
      have hearlier := ih earlier.length (by
        rw [hpastSplit, List.length_append, List.length_cons] at hsize
        omega) hearlierSplit rfl
      have hroom := hsurplus earlier turn (results ++ [message]) after
        (by rw [hsplit, hpastSplit]; simp) hturn (by
          intro other hother
          rcases List.mem_append.mp hother with hother | hother
          · exact hresults other hother
          · rw [List.mem_singleton.mp hother]
            exact hresult) id
      have hturnResult : isToolResult turn = false := by
        by_contra hboth
        rw [isAssistant_eq_false_of_isToolResult (by simpa using hboth)] at hturn
        cases hturn
      have hwaiting := hearlier.waiting id
      rw [hpastSplit]
      simp only [resultIds_append, resultIds_singleton, hresult, if_true, hid,
        Option.toList_some, List.count_append, List.count_singleton_self] at hroom
      rw [← List.singleton_append, resultIds_append, allCallIds_append, resultIds_append,
        allCallIds_append, resultIds_singleton, allCallIds_singleton, hturn, hturnResult,
        allCallIds_of_results hresults]
      simp
      omega
    · exact hpast.other sha256 clock mode (by simpa using hassistant) (by simpa using hresult)

theorem rewriteMessages_split {before results after newBefore newResults newAfter : List JsValue}
    {turn newTurn : JsValue}
    (hsplit : messages = before ++ turn :: (results ++ after))
    (hnew : (rewriteMessages sha256 clock mode messages).1 =
      newBefore ++ newTurn :: (newResults ++ newAfter))
    (hbefore : newBefore.length = before.length)
    (hresults : newResults.length = results.length) :
    newTurn = (rewriteMessage sha256 clock mode
        (rewriteMessages sha256 clock mode before).2 turn).1 ∧
      newResults = (resolveAll (rewriteMessage sha256 clock mode) (rewriteMessage sha256 clock mode
          (rewriteMessages sha256 clock mode before).2 turn).2 results).1 := by
  rw [hsplit, rewriteMessages, resolveAll_append] at hnew
  obtain ⟨-, hrest⟩ := List.append_inj hnew ((length_resolveAll _ _ _).trans hbefore.symm)
  obtain ⟨hturn, hlater⟩ := List.cons.inj hrest
  rw [resolveAll_append] at hlater
  obtain ⟨hanswers, -⟩ := List.append_inj hlater ((length_resolveAll _ _ _).trans hresults.symm)
  exact ⟨hturn.symm, hanswers.symm⟩

theorem resultAnswers_cons (id : JsString) (message newMessage : JsValue)
    (results newResults : List JsValue) :
    resultAnswers id (message :: results) (newMessage :: newResults) =
      if extractToolResultId message = some id then
        extractToolResultId newMessage :: resultAnswers id results newResults
      else resultAnswers id results newResults := by
  unfold resultAnswers
  rw [List.zip_cons_cons, List.filter_cons]
  by_cases hid : extractToolResultId message = some id
  · simp [hid]
  · simp [hid]

theorem resultAnswers_eq {resolver : Resolver} {results : List JsValue}
    (hresults : ∀ message ∈ results, isToolResult message = true ∧ OneId message ∧
      (extractToolResultId message).isSome)
    (henough : ∀ id, (resultIds results).count id ≤ (resolver.pending id).length)
    (hwaiting : ∀ id, ∀ next ∈ resolver.pending id, next ≠ []) (id : JsString) :
    resultAnswers id results (resolveAll (rewriteMessage sha256 clock mode) resolver results).1 =
      ((resolver.pending id).take ((resultIds results).count id)).map some := by
  induction results generalizing resolver with
  | nil => rfl
  | cons message rest ih =>
    obtain ⟨hresult, hone, hsome⟩ := hresults message List.mem_cons_self
    obtain ⟨raw, hraw⟩ := Option.isSome_iff_exists.mp hsome
    have hids : resultIds (message :: rest) = raw :: resultIds rest := by
      rw [resultIds_cons, hresult, hraw]
      rfl
    rw [hids] at henough ⊢
    have hfirst := henough raw
    rw [List.count_cons_self] at hfirst
    obtain ⟨next, queue, hqueue⟩ : ∃ next queue, resolver.pending raw = next :: queue :=
      List.exists_cons_of_length_pos (by omega)
    obtain ⟨hnext, -, hpending⟩ := resolveToolResultId_of_pending sha256 clock mode hqueue
    have hne := hwaiting raw next (by rw [hqueue]; exact List.mem_cons_self)
    obtain ⟨-, -, hnewId, hresolver⟩ := rewriteToolResult_spec sha256 clock mode resolver
      hresult hone hraw (hnext ▸ hne)
    have hmessage : rewriteMessage sha256 clock mode resolver message =
        rewriteToolResultIds sha256 clock mode {} resolver message := by
      rw [rewriteMessage, isAssistant_eq_false_of_isToolResult hresult, hresult]
      rfl
    have hlater := @ih (rewriteMessage sha256 clock mode resolver message).2
      (fun other hmem => hresults other (List.mem_cons_of_mem _ hmem)) (by
        intro other
        have hother := henough other
        rw [hmessage, hresolver, hpending]
        split_ifs with hsame
        · subst hsame
          rw [List.count_cons_self, hqueue, List.length_cons] at hother
          omega
        · rwa [List.count_cons_of_ne (fun heq => hsame heq.symm)] at hother) (by
        intro other waiting hmem
        rw [hmessage, hresolver, hpending] at hmem
        split_ifs at hmem with hsame
        · exact hwaiting raw waiting (by rw [hqueue]; exact List.mem_cons_of_mem _ hmem)
        · exact hwaiting other waiting hmem)
    rw [resolveAll, resultAnswers_cons, hlater, hmessage, hnewId, hresolver, hpending, hnext, hraw]
    by_cases hsame : raw = id
    · subst hsame
      rw [if_pos rfl, if_pos rfl, List.count_cons_self, hqueue, List.take_succ_cons, List.map_cons]
    · rw [if_neg (fun heq => hsame (Option.some.inj heq)), if_neg (fun heq => hsame heq.symm),
        List.count_cons_of_ne hsame]

theorem Follows.results (hfollows : Follows messages)
    {before results after : List JsValue} {turn : JsValue}
    (hsplit : messages = before ++ turn :: (results ++ after))
    (hresults : ∀ message ∈ results, isToolResult message) :
    ∀ message ∈ results, isToolResult message = true ∧ OneId message ∧
      (extractToolResultId message).isSome := by
  intro message hmem
  obtain ⟨first, second, rfl⟩ := List.append_of_mem hmem
  obtain ⟨hone, id, hid, -⟩ := hfollows (before ++ turn :: first) message (second ++ after)
    (by rw [hsplit]; simp) (hresults message hmem)
  exact ⟨hresults message hmem, hone, by rw [hid]; rfl⟩

theorem length_resultAnswers (id : JsString) {results newResults : List JsValue}
    (hresults : ∀ message ∈ results, isToolResult message)
    (hlength : newResults.length = results.length) :
    (resultAnswers id results newResults).length = (resultIds results).count id := by
  induction results generalizing newResults with
  | nil => rfl
  | cons message rest ih =>
    cases newResults with
    | nil => cases hlength
    | cons newMessage later =>
      have hrest := ih (fun other hmem => hresults other (List.mem_cons_of_mem _ hmem))
        (Nat.succ_inj.mp hlength)
      rw [resultAnswers_cons, resultIds_cons, hresults message List.mem_cons_self,
        if_pos rfl, List.count_append]
      split_ifs with hid
      · rw [List.length_cons, hrest, hid, Option.toList_some, List.count_singleton_self]
        omega
      · rw [hrest]
        cases hraw : extractToolResultId message with
        | none => simp
        | some raw =>
          rw [hraw] at hid
          rw [Option.toList_some, List.count_singleton, if_neg]
          · omega
          · simpa using hid

theorem rewriteMessage_turn (resolver : Resolver) {turn : JsValue}
    (hturn : isAssistant turn = true) :
    callIds (rewriteMessage sha256 clock mode resolver turn).1 =
        (resolveCalls sha256 clock mode resolver (callIds turn)).1 ∧
      (rewriteMessage sha256 clock mode resolver turn).2 =
        (resolveCalls sha256 clock mode resolver (callIds turn)).2 ∧
      ∀ id, (answersTo id (callIds turn)
          (resolveCalls sha256 clock mode resolver (callIds turn)).1).length =
        (callIds turn).count id := by
  obtain ⟨-, hids, hnext⟩ := rewriteAssistant_spec sha256 clock mode resolver hturn
  rw [rewriteMessage, if_pos hturn]
  exact ⟨hids, hnext, fun id => length_answersTo id (length_resolveAll _ _ _)⟩

theorem turn_answers (hfollows : Follows messages)
    (hfew : FewCollide sha256 clock mode messages) (hsurplus : NoSurplus messages)
    {before results after newBefore newResults newAfter : List JsValue}
    {turn newTurn : JsValue}
    (hsplit : messages = before ++ turn :: (results ++ after))
    (hnew : (rewriteMessages sha256 clock mode messages).1 =
      newBefore ++ newTurn :: (newResults ++ newAfter))
    (hbefore : newBefore.length = before.length)
    (hlength : newResults.length = results.length)
    (hturn : isAssistant turn = true) (hresults : ∀ message ∈ results, isToolResult message)
    (id : JsString) :
    resultAnswers id results newResults =
        (((rewriteMessages sha256 clock mode before).2.pending id ++
            answersTo id (callIds turn) (callIds newTurn)).take
          ((resultIds results).count id)).map some ∧
      (answersTo id (callIds turn) (callIds newTurn)).length = (callIds turn).count id ∧
      List.Disjoint (rewriteMessages sha256 clock mode before).2.used (callIds newTurn) := by
  have hbalanced := balanced_of_noSurplus sha256 clock mode hfollows hfew hsurplus hsplit
  obtain ⟨rfl, rfl⟩ := rewriteMessages_split sha256 clock mode hsplit hnew hbefore hlength
  set resolver := (rewriteMessages sha256 clock mode before).2 with hresolver
  obtain ⟨hids, hnext, hcalls⟩ := rewriteMessage_turn sha256 clock mode resolver hturn
  rw [hids, hnext]
  refine ⟨?_, hcalls id, ?_⟩
  · rw [resultAnswers_eq sha256 clock mode (hfollows.results hsplit hresults), pending_resolveCalls]
    · intro other
      rw [pending_resolveCalls, List.length_append, hcalls]
      have hroom := hsurplus before turn results after hsplit hturn hresults other
      omega
    · intro other next hmem
      rw [pending_resolveCalls] at hmem
      rcases List.mem_append.mp hmem with hmem | hmem
      · exact ne_nil_of_isValid mode (hbalanced.valid next (hbalanced.waitingUsed other next hmem))
      · exact ne_nil_of_isValid mode
          (isValid_resolveCalls sha256 clock mode _ _ next (mem_of_mem_answersTo hmem))
  · have hnodup := nodup_resolveCalls sha256 clock mode (fun earlier other later heq =>
      hfew before turn (results ++ after) earlier other later hsplit hturn heq) hbalanced.nodup
    rw [used_resolveCalls] at hnodup
    exact List.disjoint_of_nodup_append hnodup

/-- The new ids are distinct and valid and every result has that of its call, exactly
where each answered raw id has no earlier unanswered call and no surplus result. -/
theorem ids_keep_pairs_iff (hfollows : Follows messages)
    (hfew : FewCollide sha256 clock mode messages) :
    ((allCallIds (sanitizeToolCallIdsForCloudCodeAssist sha256 clock messages mode)).Nodup ∧
        (∀ id ∈ allCallIds (sanitizeToolCallIdsForCloudCodeAssist sha256 clock messages mode),
          isValidCloudCodeAssistToolId id mode) ∧
        (∀ message ∈ sanitizeToolCallIdsForCloudCodeAssist sha256 clock messages mode,
          isToolResult message → OneId message) ∧
        PairsKept messages (sanitizeToolCallIdsForCloudCodeAssist sha256 clock messages mode)) ↔
      Answered messages := by
  rw [sanitize_eq]
  constructor
  · rintro ⟨-, -, -, hpairs⟩
    have hpieces : ∀ before turn results after, messages = before ++ turn :: (results ++ after) →
          ∃ newBefore newTurn newResults newAfter, (rewriteMessages sha256 clock mode messages).1 =
              newBefore ++ newTurn :: (newResults ++ newAfter) ∧
              newBefore.length = before.length ∧ newResults.length = results.length := by
      intro before turn results after hsplit
      rw [hsplit, rewriteMessages, resolveAll_append, resolveAll, resolveAll_append]
      exact ⟨_, _, _, _, rfl, length_resolveAll _ _ _, length_resolveAll _ _ _⟩
    have hsurplus : NoSurplus messages := by
      intro before turn results after hsplit hturn hresults id
      obtain ⟨newBefore, newTurn, newResults, newAfter, hnew, hbefore, hlength⟩ :=
        hpieces before turn results after hsplit
      have hle := (hpairs _ _ _ _ _ _ _ _ hsplit hnew hbefore hlength hturn hresults id).length_le
      rw [length_resultAnswers id hresults hlength, List.length_map] at hle
      obtain ⟨rfl, -⟩ := rewriteMessages_split sha256 clock mode hsplit hnew hbefore hlength
      obtain ⟨hids, -, hcalls⟩ := rewriteMessage_turn sha256 clock mode
        (rewriteMessages sha256 clock mode before).2 hturn
      rwa [hids, hcalls] at hle
    intro before turn results after hsplit hturn hresults id hid
    refine ⟨hsurplus before turn results after hsplit hturn hresults id, ?_⟩
    obtain ⟨newBefore, newTurn, newResults, newAfter, hnew, hbefore, hlength⟩ :=
      hpieces before turn results after hsplit
    obtain ⟨hanswers, -, hdisjoint⟩ := turn_answers sha256 clock mode hfollows hfew hsurplus
      hsplit hnew hbefore hlength hturn hresults id
    have hkept := hpairs _ _ _ _ _ _ _ _ hsplit hnew hbefore hlength hturn hresults id
    have hbalanced := balanced_of_noSurplus sha256 clock mode hfollows hfew hsurplus hsplit
    have hwaiting := hbalanced.waiting id
    -- an id that still waits would be the first answer
    cases hqueue : (rewriteMessages sha256 clock mode before).2.pending id with
    | nil =>
      rw [hqueue, List.length_nil, Nat.zero_add] at hwaiting
      exact hwaiting
    | cons next rest =>
      exfalso
      obtain ⟨count, hcount⟩ : ∃ count, (resultIds results).count id = count + 1 :=
        Nat.exists_eq_succ_of_ne_zero (Nat.ne_of_gt (List.count_pos_iff.mpr hid))
      rw [hanswers, hqueue, hcount, List.cons_append, List.take_succ_cons, List.map_cons] at hkept
      obtain ⟨other, hother, heq⟩ := List.mem_map.mp (hkept.subset List.mem_cons_self)
      obtain rfl := Option.some.inj heq
      exact hdisjoint (hbalanced.waitingUsed id other (by rw [hqueue]; exact List.mem_cons_self))
        (mem_of_mem_answersTo hother)
  · intro hanswered
    have hsurplus : NoSurplus messages := by
      intro before turn results after hsplit hturn hresults id
      by_cases hid : id ∈ resultIds results
      · exact (hanswered before turn results after hsplit hturn hresults id hid).1
      · rw [List.count_eq_zero_of_not_mem hid]
        exact Nat.zero_le _
    have hall := balanced_of_noSurplus sha256 clock mode hfollows hfew hsurplus
      (List.append_nil messages).symm
    refine ⟨hall.used ▸ hall.nodup, ?_, hall.oneId, ?_⟩
    · intro id hid
      exact hall.valid id (hall.used ▸ hid)
    intro before turn results after newBefore newTurn newResults newAfter hsplit hnew hbefore
      hlength hturn hresults id
    obtain ⟨hanswers, hcalls, -⟩ := turn_answers sha256 clock mode hfollows hfew hsurplus
      hsplit hnew hbefore hlength hturn hresults id
    rw [hanswers]
    by_cases hid : id ∈ resultIds results
    · obtain ⟨hroom, hsettled⟩ := hanswered before turn results after hsplit hturn hresults id hid
      have hwaiting := (balanced_of_noSurplus sha256 clock mode hfollows hfew hsurplus
        hsplit).waiting id
      have hnone : (rewriteMessages sha256 clock mode before).2.pending id = [] :=
        List.eq_nil_of_length_eq_zero (by omega)
      rw [hnone, List.nil_append, List.map_take]
      exact List.take_prefix _ _
    · rw [List.count_eq_zero_of_not_mem hid, List.take_zero]
      exact List.nil_prefix

end Transcripts

/-! ## A repeated raw id -/

theorem split_index {α : Type} {items before after : List α} {item : α}
    (hsplit : items = before ++ item :: after) :
    ∃ index < items.length, before = items.take index ∧ items[index]? = some item ∧
      after = items.drop (index + 1) := by
  subst hsplit
  refine ⟨before.length, by simp, by simp, by simp, by simp⟩

theorem roomy_of_short {resolver : Resolver} (hshort : resolver.used.length < 999)
    (id : JsString) : Roomy sha256 .strict resolver id := by
  constructor
  · have hle := List.length_filter_le
      (fun other => decide (other ∈ candidates sha256 (nextSeed resolver id) .strict))
      resolver.used
    unfold collisions
    omega
  · intro hstrict9
    cases hstrict9

def zeroHash : Sha256 where
  hex _ := List.replicate 64 48
  length_hex _ := List.length_replicate
  isHexDigit_of_mem _ unit hunit := by
    rw [List.eq_of_mem_replicate hunit]
    decide

def callMessage : JsValue :=
  .object [(js "role", .string (js "assistant")), (js "content", .array [.object
        [(js "type", .string (js "toolCall")), (js "id", .string (js "call_1"))]])]

def resultMessage : JsValue :=
  .object [(js "role", .string (js "toolResult")), (js "toolCallId", .string (js "call_1"))]

def answeredTwice : List JsValue := [callMessage, resultMessage, callMessage, resultMessage]

def answeredOnce : List JsValue := [callMessage, callMessage, resultMessage]

theorem fewCollide_of_callMessages {messages : List JsValue}
    (hmessages : ∀ message ∈ messages, isAssistant message = true → message = callMessage)
    (hshort : ∀ index < messages.length, (rewriteMessages zeroHash (fun _ => 0) .strict
      (messages.take index)).2.used.length < 999) :
    FewCollide zeroHash (fun _ => 0) .strict messages := by
  intro before turn after earlier id later hsplit hturn hids
  obtain ⟨index, hindex, rfl, hitem, -⟩ := split_index hsplit
  obtain rfl := hmessages turn (List.mem_of_getElem? hitem) hturn
  have hcall : callIds callMessage = [js "call_1"] := by decide
  rw [hcall] at hids
  rcases earlier with _ | ⟨first, rest⟩
  · exact roomy_of_short zeroHash (hshort index hindex) id
  · simp at hids

theorem oneId_resultMessage : OneId resultMessage := by
  have hnone : nonEmptyField (js "toolUseId") resultMessage = none := by decide
  intro first second _ hsecond
  cases hsecond

theorem extractToolResultId_resultMessage :
    extractToolResultId resultMessage = some (js "call_1") := by decide

theorem follows_of_pairs {messages : List JsValue}
    (hmessages : ∀ index < messages.length, messages[index]? = some callMessage ∨
      ∃ earlier, messages.take index = earlier ++ [callMessage] ∧
        messages[index]? = some resultMessage) : Follows messages := by
  intro before result after hsplit hresult
  obtain ⟨index, hindex, rfl, hitem, -⟩ := split_index hsplit
  rcases hmessages index hindex with hcall | ⟨earlier, hearlier, hfound⟩
  · cases hitem.symm.trans hcall
    exact absurd hresult (by decide)
  · cases hitem.symm.trans hfound
    refine ⟨oneId_resultMessage, js "call_1", extractToolResultId_resultMessage, earlier,
      callMessage, [], hearlier, by decide, fun _ hmem => ?_, by decide⟩
    cases hmem

theorem answeredTwice_answered : Answered answeredTwice := by
  intro before turn results after hsplit hturn hresults id hid
  obtain ⟨index, hindex, rfl, hitem, hafter⟩ := split_index hsplit
  have hcall : isToolResult callMessage = false := by decide
  have hnotTurn : isAssistant resultMessage = false := by decide
  have hresult : resultIds [resultMessage] = [js "call_1"] := by decide
  change index < 4 at hindex
  interval_cases index
  · cases hitem
    rcases results with _ | ⟨first, _ | ⟨second, rest⟩⟩
    · cases hid
    · obtain rfl := (List.cons.inj hafter).1
      rw [hresult, List.mem_singleton] at hid
      subst hid
      decide
    · obtain rfl := (List.cons.inj (List.cons.inj hafter).2).1
      have hfalse := hresults callMessage (by simp)
      cases hfalse
  · cases hitem
    cases hturn
  · cases hitem
    rcases results with _ | ⟨first, rest⟩
    · cases hid
    · obtain ⟨rfl, hrest⟩ := List.cons.inj hafter
      obtain ⟨rfl, -⟩ := List.append_eq_nil_iff.mp hrest
      rw [hresult, List.mem_singleton] at hid
      subst hid
      decide
  · cases hitem
    cases hturn

theorem answeredTwice_keeps_pairs :
    PairsKept answeredTwice (sanitizeToolCallIdsForCloudCodeAssist zeroHash (fun _ => 0)
      answeredTwice .strict) := by
  have hfollows : Follows answeredTwice := by
    apply follows_of_pairs
    intro index hindex
    change index < 4 at hindex
    interval_cases index
    · exact .inl rfl
    · exact .inr ⟨[], rfl, rfl⟩
    · exact .inl rfl
    · exact .inr ⟨[callMessage, resultMessage], rfl, rfl⟩
  have hfew : FewCollide zeroHash (fun _ => 0) .strict answeredTwice := by
    apply fewCollide_of_callMessages
    · intro message hmem hassistant
      simp only [answeredTwice, List.mem_cons, List.not_mem_nil, or_false] at hmem
      rcases hmem with rfl | rfl | rfl | rfl
      · rfl
      · exact absurd hassistant (by decide)
      · rfl
      · exact absurd hassistant (by decide)
    · decide
  exact ((ids_keep_pairs_iff zeroHash (fun _ => 0) .strict hfollows hfew).mpr
    answeredTwice_answered).2.2.2

theorem answeredOnce_mixes_pairs :
    Follows answeredOnce ∧ FewCollide zeroHash (fun _ => 0) .strict answeredOnce ∧
      ¬PairsKept answeredOnce (sanitizeToolCallIdsForCloudCodeAssist zeroHash (fun _ => 0)
        answeredOnce .strict) := by
  refine ⟨?_, ?_, ?_⟩
  · apply follows_of_pairs
    intro index hindex
    change index < 3 at hindex
    interval_cases index
    · exact .inl rfl
    · exact .inl rfl
    · exact .inr ⟨[callMessage], rfl, rfl⟩
  · apply fewCollide_of_callMessages
    · intro message hmem hassistant
      simp only [answeredOnce, List.mem_cons, List.not_mem_nil, or_false] at hmem
      rcases hmem with rfl | rfl | rfl
      · rfl
      · rfl
      · exact absurd hassistant (by decide)
    · decide
  · intro hpairs
    have hfirst := hpairs [callMessage] callMessage [resultMessage] []
      (rewriteMessages zeroHash (fun _ => 0) .strict [callMessage]).1
      (rewriteMessage zeroHash (fun _ => 0) .strict
        (rewriteMessages zeroHash (fun _ => 0) .strict [callMessage]).2 callMessage).1
      (resolveAll (rewriteMessage zeroHash (fun _ => 0) .strict)
        (rewriteMessages zeroHash (fun _ => 0) .strict [callMessage, callMessage]).2
        [resultMessage]).1 [] rfl (by rw [sanitize_eq]; rfl) rfl rfl (by decide)
      (by intro message hmem; rw [List.mem_singleton.mp hmem]; decide) (js "call_1")
    revert hfirst
    decide

end LittleBaby.ToolCallIds
