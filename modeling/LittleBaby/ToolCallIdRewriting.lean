import LittleBaby.ToolCallIdFreshness

/-!
# What rewriting does to calls and results

A message is rewritten by resolving its raw ids one after another. The new ids
of the calls with one raw id are put at the end of its queue.
-/

namespace LittleBaby.ToolCallIds

open JsString JsValue Transcript Entries ToolCallLike

variable (sha256 : Sha256) (clock : ℕ → ℕ) (mode : ToolCallIdMode)

/-! ## Ids resolved one after another -/

section Passes

def resolveAll {Item Answer : Type} (resolve : Resolver → Item → Answer × Resolver)
    (resolver : Resolver) : List Item → List Answer × Resolver
  | [] => ([], resolver)
  | item :: rest =>
    let next := resolve resolver item
    let later := resolveAll resolve next.2 rest
    (next.1 :: later.1, later.2)

abbrev resolveCalls := resolveAll (resolveAssistantId sha256 clock mode {})

abbrev resolveResults := resolveAll (resolveToolResultId sha256 clock mode {})

def answersTo (id : JsString) (rawIds newIds : List JsString) : List JsString :=
  ((rawIds.zip newIds).filter fun pair => pair.1 = id).map Prod.snd

theorem length_resolveAll {Item Answer : Type}
    (resolve : Resolver → Item → Answer × Resolver) (resolver : Resolver)
    (items : List Item) :
    (resolveAll resolve resolver items).1.length = items.length := by
  induction items generalizing resolver with
  | nil => rfl
  | cons item rest ih =>
    rw [resolveAll, List.length_cons, List.length_cons, ih]

theorem resolveAll_append {Item Answer : Type}
    (resolve : Resolver → Item → Answer × Resolver) (resolver : Resolver)
    (first second : List Item) :
    resolveAll resolve resolver (first ++ second) = ((resolveAll resolve resolver first).1 ++
          (resolveAll resolve (resolveAll resolve resolver first).2 second).1,
        (resolveAll resolve (resolveAll resolve resolver first).2 second).2) := by
  induction first generalizing resolver with
  | nil => rfl
  | cons item rest ih => rw [List.cons_append, resolveAll, ih]; rfl

theorem answersTo_cons (id raw new : JsString) (rawIds newIds : List JsString) :
    answersTo id (raw :: rawIds) (new :: newIds) =
      if raw = id then new :: answersTo id rawIds newIds else answersTo id rawIds newIds := by
  unfold answersTo
  rw [List.zip_cons_cons, List.filter_cons]
  by_cases hraw : raw = id
  · simp [hraw]
  · simp [hraw]

theorem length_answersTo (id : JsString) {rawIds newIds : List JsString}
    (hlength : newIds.length = rawIds.length) :
    (answersTo id rawIds newIds).length = rawIds.count id := by
  induction rawIds generalizing newIds with
  | nil => simp [answersTo]
  | cons raw rest ih =>
    cases newIds with
    | nil => cases hlength
    | cons new later =>
      rw [answersTo_cons, List.count_cons]
      have hrest := ih (Nat.succ_inj.mp hlength)
      by_cases hraw : raw = id
      · simp [hraw, hrest]
      · simp [hraw, beq_eq_false_iff_ne.mpr hraw, hrest]

theorem mem_of_mem_answersTo {id new : JsString} {rawIds newIds : List JsString}
    (hmem : new ∈ answersTo id rawIds newIds) : new ∈ newIds := by
  obtain ⟨pair, hpair, rfl⟩ := List.mem_map.mp hmem
  exact (List.of_mem_zip (List.mem_filter.mp hpair).1).2

end Passes

/-! ## Queues -/

variable (resolver : Resolver)

theorem pending_addPending (id next other : JsString) :
    (resolver.addPending id next).pending other =
      if other = id then resolver.pending id ++ [next] else resolver.pending other := by
  unfold Resolver.addPending Resolver.pending
  split_ifs with hother
  · subst hother
    simp [lookup_set_self]
  · simp only [lookup_set_of_ne hother]

def nextSeed (id : JsString) : JsString :=
  occurrenceSeed id ((resolver.assistantOccurrences.lookup id).getD 0 + 1)

theorem resolveAssistantId_eq (id : JsString) :
    ∃ allocated : Resolver, allocated.pendingByRawId = resolver.pendingByRawId ∧
        allocated.used = resolver.used ++
          [makeUniqueToolId sha256 (clock resolver.used.length) (nextSeed resolver id)
            resolver.used mode] ∧
        resolveAssistantId sha256 clock mode {} resolver id =
          (makeUniqueToolId sha256 (clock resolver.used.length) (nextSeed resolver id)
              resolver.used mode,
            allocated.addPending id
              (makeUniqueToolId sha256 (clock resolver.used.length) (nextSeed resolver id)
                resolver.used mode)) := by
  refine ⟨_, ?_, ?_, rfl⟩
  · rfl
  · rfl

theorem resolveAssistantId_fst (id : JsString) :
    (resolveAssistantId sha256 clock mode {} resolver id).1 =
      makeUniqueToolId sha256 (clock resolver.used.length) (nextSeed resolver id)
        resolver.used mode := by
  obtain ⟨allocated, -, -, heq⟩ := resolveAssistantId_eq sha256 clock mode resolver id
  rw [heq]

theorem used_resolveAssistantId (id : JsString) :
    (resolveAssistantId sha256 clock mode {} resolver id).2.used =
      resolver.used ++ [(resolveAssistantId sha256 clock mode {} resolver id).1] := by
  obtain ⟨allocated, -, hused, heq⟩ := resolveAssistantId_eq sha256 clock mode resolver id
  rw [heq]
  exact hused

theorem pending_resolveAssistantId (id other : JsString) :
    (resolveAssistantId sha256 clock mode {} resolver id).2.pending other = if other = id then
        resolver.pending id ++ [(resolveAssistantId sha256 clock mode {} resolver id).1]
      else resolver.pending other := by
  obtain ⟨allocated, hpending, -, heq⟩ := resolveAssistantId_eq sha256 clock mode resolver id
  rw [heq, pending_addPending]
  simp only [Resolver.pending, hpending]

variable {id : JsString}

theorem resolveToolResultId_of_pending {resolver : Resolver} {next : JsString}
    {rest : List JsString} (hpending : resolver.pending id = next :: rest) :
    (resolveToolResultId sha256 clock mode {} resolver id).1 = next ∧
      (resolveToolResultId sha256 clock mode {} resolver id).2.used = resolver.used ∧
      ∀ other, (resolveToolResultId sha256 clock mode {} resolver id).2.pending other =
        if other = id then rest else resolver.pending other := by
  unfold resolveToolResultId
  rw [hpending]
  refine ⟨rfl, rfl, fun other => ?_⟩
  simp only [Resolver.pending]
  split_ifs with hrest hother hother
  · subst hother
    rw [lookup_erase_self, hrest]
    rfl
  · rw [lookup_erase_of_ne hother]
  · subst hother
    rw [lookup_set_self]
    rfl
  · rw [lookup_set_of_ne hother]

theorem used_resolveCalls (ids : List JsString) :
    (resolveCalls sha256 clock mode resolver ids).2.used =
      resolver.used ++ (resolveCalls sha256 clock mode resolver ids).1 := by
  induction ids generalizing resolver with
  | nil => exact (List.append_nil _).symm
  | cons id rest ih =>
    simp only [resolveCalls, resolveAll] at ih ⊢
    rw [ih, used_resolveAssistantId, List.append_assoc, List.singleton_append]

theorem pending_resolveCalls (ids : List JsString) (id : JsString) :
    (resolveCalls sha256 clock mode resolver ids).2.pending id = resolver.pending id ++
        answersTo id ids (resolveCalls sha256 clock mode resolver ids).1 := by
  induction ids generalizing resolver with
  | nil => exact (List.append_nil _).symm
  | cons first rest ih =>
    simp only [resolveCalls, resolveAll] at ih ⊢
    rw [ih, answersTo_cons, pending_resolveAssistantId]
    split_ifs with hsame hother hother
    · rw [hsame, List.append_assoc, List.singleton_append]
    · exact absurd hsame.symm hother
    · exact absurd hother.symm hsame
    · rfl

/-! ## Blocks and messages -/

theorem isValid_resolveAssistantId (id : JsString) : isValidCloudCodeAssistToolId
      (resolveAssistantId sha256 clock mode {} resolver id).1 mode = true := by
  rw [resolveAssistantId_fst]
  exact isValid_makeUniqueToolId sha256 _ _ _ _

theorem ne_nil_of_isValid (hvalid : isValidCloudCodeAssistToolId id mode = true) : id ≠ [] := by
  rintro rfl
  cases mode <;> cases hvalid

variable {key text : JsString}

theorem stringField_withField_self {value : JsValue}
    (hobject : ∃ entries, value = .object entries) :
    stringField key (withField key (.string text) value) = some text := by
  obtain ⟨entries, rfl⟩ := hobject
  simp only [withField, stringField, field, readKey, lookup_set_self]

theorem object_of_stringField {value : JsValue}
    (hfield : stringField key value = some text) : ∃ entries, value = .object entries := by
  cases value with
  | object entries => exact ⟨entries, rfl⟩
  | _ => cases hfield

theorem toolCallOf_withId {block : JsValue} {toolCall : ToolCallLike}
    (hcall : toolCallOf block = some toolCall) (hid : id ≠ []) :
    (toolCallOf (withField (js "id") (.string id) block)).map ToolCallLike.id = some id := by
  unfold toolCallOf at hcall
  split at hcall
  · next unit rest hblock =>
      split_ifs at hcall with htype
      obtain ⟨unit, rest, rfl⟩ := List.exists_cons_of_ne_nil hid
      rw [toolCallOf, stringField_withField_self (object_of_stringField hblock),
        stringField_withField (by decide : js "type" ≠ js "id")]
      simp [htype]
  · cases hcall

theorem rewriteBlock_spec (block : JsValue) :
    ((toolCallOf (rewriteBlock sha256 clock mode {} resolver block).1).map ToolCallLike.id).toList =
        (resolveCalls sha256 clock mode resolver
          ((toolCallOf block).map ToolCallLike.id).toList).1 ∧
      (rewriteBlock sha256 clock mode {} resolver block).2 =
        (resolveCalls sha256 clock mode resolver
          ((toolCallOf block).map ToolCallLike.id).toList).2 := by
  unfold rewriteBlock
  cases hcall : toolCallOf block with
  | none =>
    simp only [hcall]
    exact ⟨rfl, rfl⟩
  | some toolCall =>
    have hid := ne_nil_of_isValid mode
      (isValid_resolveAssistantId sha256 clock mode resolver toolCall.id)
    simp only
    split_ifs with hsame
    · simp only [hcall, Option.map_some, Option.toList_some, resolveCalls, resolveAll, hsame]
      exact ⟨trivial, trivial⟩
    · simp only [toolCallOf_withId hcall hid]
      exact ⟨rfl, rfl⟩

theorem rewriteBlocks_spec (blocks : List JsValue) :
    ((rewriteBlocks sha256 clock mode {} resolver blocks).1.filterMap toolCallOf).map
        ToolCallLike.id =
        (resolveCalls sha256 clock mode resolver
          ((blocks.filterMap toolCallOf).map ToolCallLike.id)).1 ∧
      (rewriteBlocks sha256 clock mode {} resolver blocks).2 =
        (resolveCalls sha256 clock mode resolver
          ((blocks.filterMap toolCallOf).map ToolCallLike.id)).2 := by
  induction blocks generalizing resolver with
  | nil => exact ⟨rfl, rfl⟩
  | cons block rest ih =>
    have hids : ∀ (first : JsValue) (later : List JsValue),
        ((first :: later).filterMap toolCallOf).map ToolCallLike.id =
          ((toolCallOf first).map ToolCallLike.id).toList ++
            (later.filterMap toolCallOf).map ToolCallLike.id := by
      intro first later
      cases hfirst : toolCallOf first <;> simp [hfirst]
    obtain ⟨hblock, hresolver⟩ := rewriteBlock_spec sha256 clock mode resolver block
    obtain ⟨hlater, hfinal⟩ := ih (rewriteBlock sha256 clock mode {} resolver block).2
    simp only [rewriteBlocks]
    rw [hids, hids, hblock, hlater, hfinal, hresolver]
    simp [resolveCalls, resolveAll_append]

variable {next message : JsValue}

theorem hasRole_withField {role : JsString} (hkey : key ≠ js "role") :
    hasRole role (withField key next message) = hasRole role message := by
  rw [hasRole, stringField_withField hkey.symm, hasRole]

theorem rewriteAssistant_spec (hassistant : isAssistant message = true) :
    isAssistant (rewriteAssistantToolCallIds sha256 clock mode {} resolver message).1 = true ∧
      callIds (rewriteAssistantToolCallIds sha256 clock mode {} resolver message).1 =
        (resolveCalls sha256 clock mode resolver (callIds message)).1 ∧
      (rewriteAssistantToolCallIds sha256 clock mode {} resolver message).2 =
        (resolveCalls sha256 clock mode resolver (callIds message)).2 := by
  obtain ⟨entries, hentries⟩ : ∃ entries, message = .object entries := by
    simp only [isAssistant, hasRole, decide_eq_true_eq] at hassistant
    exact object_of_stringField hassistant
  unfold rewriteAssistantToolCallIds callIds extractToolCallsFromAssistant
  cases hcontent : field (js "content") message with
  | array content =>
    obtain ⟨hids, hresolver⟩ := rewriteBlocks_spec sha256 clock mode resolver content
    have hfield : ∀ next : List JsValue,
        field (js "content") (withField (js "content") (.array next) message) = .array next := by
      intro next
      rw [hentries]
      simp [withField, field, readKey]
    simp only [hfield]
    exact ⟨(hasRole_withField (by decide)).trans hassistant, hids, hresolver⟩
  | _ =>
    simp only [hcontent]
    exact ⟨hassistant, rfl, rfl⟩

def OneId (message : JsValue) : Prop :=
  ∀ first second, nonEmptyField (js "toolCallId") message = some first →
    nonEmptyField (js "toolUseId") message = some second → first = second

theorem extractToolResultId_eq (message : JsValue) :
    extractToolResultId message = (nonEmptyField (js "toolCallId") message).or
      (nonEmptyField (js "toolUseId") message) := by
  have horElse : ∀ first second : Option JsString,
      orElse first second = (first.filter (· ≠ [])).or second := by
    intro first second
    match first with
    | none => rfl
    | some [] => rfl
    | some (_ :: _) => rfl
  rw [extractToolResultId, horElse, horElse, Option.or_none]
  rfl

theorem nonEmptyField_withField_self
    (hobject : ∃ entries, message = .object entries) (htext : text ≠ []) :
    nonEmptyField key (withField key (.string text) message) = some text := by
  rw [nonEmptyField, stringField_withField_self hobject, Option.filter_some]
  simp [htext]

theorem nonEmptyField_withField {other : JsString} (hne : other ≠ key) :
    nonEmptyField other (withField key next message) = nonEmptyField other message := by
  rw [nonEmptyField, stringField_withField hne, nonEmptyField]

theorem object_withField (hobject : ∃ entries, message = .object entries) :
    ∃ entries, withField key next message = .object entries := by
  obtain ⟨entries, rfl⟩ := hobject
  exact ⟨_, rfl⟩

theorem rewriteToolResult_spec (hresult : isToolResult message = true) (hone : OneId message)
    (hid : extractToolResultId message = some id)
    (hne : (resolveToolResultId sha256 clock mode {} resolver id).1 ≠ []) :
    isToolResult (rewriteToolResultIds sha256 clock mode {} resolver message).1 = true ∧
      OneId (rewriteToolResultIds sha256 clock mode {} resolver message).1 ∧
      extractToolResultId (rewriteToolResultIds sha256 clock mode {} resolver message).1 =
        some (resolveToolResultId sha256 clock mode {} resolver id).1 ∧
      (rewriteToolResultIds sha256 clock mode {} resolver message).2 =
        (resolveToolResultId sha256 clock mode {} resolver id).2 := by
  have hobject : ∃ entries, message = .object entries := by
    simp only [isToolResult, hasRole, decide_eq_true_eq] at hresult
    exact object_of_stringField hresult
  have hcallRole : js "toolCallId" ≠ js "role" := by decide
  have huseRole : js "toolUseId" ≠ js "role" := by decide
  have huse : js "toolUseId" ≠ js "toolCallId" := by decide
  rw [extractToolResultId_eq] at hid
  unfold rewriteToolResultIds
  cases hfirst : nonEmptyField (js "toolCallId") message with
  | none =>
    rw [hfirst, Option.none_or] at hid
    simp only [hid, withIdField]
    refine ⟨(hasRole_withField huseRole).trans hresult, ?_, ?_, trivial⟩
    · intro first second hcall
      rw [nonEmptyField_withField huse.symm, hfirst] at hcall
      cases hcall
    · rw [extractToolResultId_eq, nonEmptyField_withField huse.symm, hfirst, Option.none_or,
        nonEmptyField_withField_self hobject hne]
  | some first =>
    rw [hfirst, Option.some_or] at hid
    obtain rfl := Option.some.inj hid
    cases hsecond : nonEmptyField (js "toolUseId") message with
    | none =>
      simp only [withIdField]
      refine ⟨(hasRole_withField hcallRole).trans hresult, ?_, ?_, trivial⟩
      · intro first second _ hother
        rw [nonEmptyField_withField huse, hsecond] at hother
        cases hother
      · rw [extractToolResultId_eq, nonEmptyField_withField_self hobject hne, Option.some_or]
    | some second =>
      obtain rfl := hone first second hfirst hsecond
      simp only [withIdField, if_true]
      have hcall : nonEmptyField (js "toolCallId") (withField (js "toolUseId")
          (.string (resolveToolResultId sha256 clock mode {} resolver first).1)
          (withField (js "toolCallId")
            (.string (resolveToolResultId sha256 clock mode {} resolver first).1)
            message)) =
          some (resolveToolResultId sha256 clock mode {} resolver first).1 := by
        rw [nonEmptyField_withField huse.symm, nonEmptyField_withField_self hobject hne]
      refine ⟨?_, ?_, ?_, trivial⟩
      · rw [isToolResult, hasRole_withField huseRole, hasRole_withField hcallRole]
        exact hresult
      · intro one other hone hother
        rw [hcall] at hone
        rw [nonEmptyField_withField_self (object_withField hobject) hne] at hother
        exact Option.some.inj (hone.symm.trans hother)
      · rw [extractToolResultId_eq, hcall, Option.some_or]

end LittleBaby.ToolCallIds
