import LittleBaby.RedactInverse

/-!
# Redacting a config and restoring it

The two walks over a config are one walk whose state says whether the lookup
still knows the path.
-/

namespace LittleBaby.Redact

open JsString JsValue Rules Walk

/-- The path of a value, and whether the walk goes by the lookup. -/
inductive Position
  | guessing (parent : JsString)
  | found (parent : JsString)

def guessedRules (hints : Option ConfigUiHints) (parent key : JsString) (objects : Bool) : Rules :=
  let path := memberPath parent key
  let hintPaths := [path, wildcardPath parent]
  { texts := guessedSensitive hints path hintPaths
    urls := isUrlPath hints path hintPaths
    primitives := false
    objects
    refs := false
    opens := shouldRestoreSensitiveGuessingPath path hintPaths hints
    opensRefs := shouldRestoreSensitiveGuessingPath path hintPaths hints
    path
    openedPath := path }

def foundRules (hints : Option ConfigUiHints) (parent key candidate : JsString) : Rules :=
  let path := memberPath parent key
  let hintPaths := [candidate, path, wildcardPath parent]
  let sensitive := hints.any (hintedSensitive · candidate)
  { texts := true
    urls := isUrlPath hints path hintPaths
    primitives := sensitive
    objects := sensitive
    refs := sensitive
    opens := sensitive || isUrlPath hints path hintPaths
    opensRefs := true
    path
    openedPath := candidate }

def hidesWholeObject (hints : Option ConfigUiHints) (parent key : JsString) :
    Bool :=
  let path := memberPath parent key
  guessedSensitive hints path [path, wildcardPath parent] && isWholeObjectSensitivePath path

def configRules (hints : Option ConfigUiHints) (lookup : List JsString) :
    Position → JsString → Rules
  | .guessing parent, key =>
    guessedRules hints parent key (hidesWholeObject hints parent key)
  | .found parent, key =>
    match candidate lookup parent key with
    | some candidate => foundRules hints parent key candidate
    | none => guessedRules hints parent key false

def configWalk (hints : Option ConfigUiHints) (lookup : List JsString) : Walk Position where
  rules := configRules hints lookup
  next
    | .guessing parent, key => .guessing (memberPath parent key)
    | .found parent, key =>
      match candidate lookup parent key with
      | some candidate => .found candidate
      | none => .guessing (memberPath parent key)
  itemTexts
    | .guessing parent =>
      guessedSensitive hints (itemPath parent) [itemPath parent]
    | .found parent =>
      lookup.contains (itemPath parent) ||
        guessedSensitive hints (itemPath parent) [itemPath parent]
  nextItem
    | .guessing parent => .guessing (itemPath parent)
    | .found parent =>
      if lookup.contains (itemPath parent) then .found (itemPath parent)
      else .guessing (itemPath parent)
  refs_opened := by
    intro position key hrefs
    unfold configRules at hrefs ⊢
    split at hrefs
    · cases hrefs
    · split at hrefs
      · rfl
      · cases hrefs

variable {urls : UrlLibrary} {hints : Option ConfigUiHints} {lookup : List JsString}

section Positions

variable {parent key : JsString}

theorem items_known (hpath : lookup.contains (itemPath parent) = true) :
    (configWalk hints lookup).itemTexts (.found parent) = true ∧
      (configWalk hints lookup).nextItem (.found parent) = .found (itemPath parent) := by
  simp only [configWalk, hpath, Bool.true_or, if_true, and_self]

theorem items_unknown (hpath : ¬ lookup.contains (itemPath parent) = true) :
    (configWalk hints lookup).itemTexts (.found parent) =
        (configWalk hints lookup).itemTexts (.guessing parent) ∧
      (configWalk hints lookup).nextItem (.found parent) =
        (configWalk hints lookup).nextItem (.guessing parent) := by
  simp only [configWalk, hpath, Bool.false_or, Bool.false_eq_true, if_false, and_self]

theorem member_known {found : JsString} (hcandidate : candidate lookup parent key = some found) :
    (configWalk hints lookup).rules (.found parent) key = foundRules hints parent key found ∧
      (configWalk hints lookup).next (.found parent) key = .found found := by
  simp [configWalk, configRules, hcandidate]

theorem member_unknown (hcandidate : candidate lookup parent key = none) :
    (configWalk hints lookup).rules (.found parent) key = guessedRules hints parent key false ∧
      (configWalk hints lookup).next (.found parent) key = .guessing (memberPath parent key) := by
  simp [configWalk, configRules, hcandidate]

end Positions

theorem redactUrl_string (text : JsString) : (redactUrl urls (.string text)).1 =
      if hasUrlSecret urls text then sentinel else .string text := by
  unfold redactUrl hasUrlSecret
  by_cases hsecret : redactSensitiveUrlLikeString urls text ≠ text
  · simp [hsecret]
  · simp [hsecret]

section Members

variable {parent key : JsString} {value : JsValue} {walked : JsValue × List JsString}

section

variable (hwalked : isObjectLike value = false → walked.1 = value)
include hwalked

theorem redactMember_guessing (whole : Bool) : (if guessedSensitive hints (memberPath parent key)
          [memberPath parent key, wildcardPath parent] &&
          isSecretString value then (sentinel, textOf value)
      else if guessedSensitive hints (memberPath parent key)
          [memberPath parent key, wildcardPath parent] &&
          whole && value.isRecord then (sentinel, collectSensitiveStrings value)
      else if isString value && isUrlPath hints (memberPath parent key)
          [memberPath parent key, wildcardPath parent] then
        redactUrl urls value
      else walked).1 =
      (guessedRules hints parent key (guessedSensitive hints (memberPath parent key)
        [memberPath parent key, wildcardPath parent] && whole)).redactMember urls value
        walked.1 := by
  unfold redactMember guessedRules
  cases value with
  | string text =>
    have hself := hwalked rfl
    by_cases hguess : guessedSensitive hints (memberPath parent key)
        [memberPath parent key, wildcardPath parent] = true <;>
      by_cases hplaceholder : isEnvVarPlaceholder text = true <;>
      by_cases hurl : isUrlPath hints (memberPath parent key)
        [memberPath parent key, wildcardPath parent] = true <;>
      by_cases hsecret : hasUrlSecret urls text = true <;>
      simp [hides, isSecretString, isString, isSecretRef, isRecord,
        redactUrl_string, hplaceholder, hsecret, hself, hguess, hurl]
  | object entries =>
    by_cases hguess : guessedSensitive hints (memberPath parent key)
        [memberPath parent key, wildcardPath parent] = true <;>
      cases whole <;> simp [hides, isSecretString, isString, isRecord, hguess]
  | undefined | null | bool | number | function | array =>
    simp [hides, isSecretString, isString, isRecord, isSecretRef]

theorem redactMember_unknown : (if guessedSensitive hints (memberPath parent key)
          [memberPath parent key, wildcardPath parent] &&
          isSecretString value then (sentinel, textOf value)
      else if isString value && isUrlPath hints (memberPath parent key)
          [memberPath parent key, wildcardPath parent] then
        redactUrl urls value
      else if isObjectLike value then walked
      else (value, [])).1 =
      (guessedRules hints parent key false).redactMember urls value walked.1 := by
  have hguessing := @redactMember_guessing urls hints parent key value walked hwalked false
  simp only [Bool.and_false, Bool.false_and, Bool.false_eq_true, if_false] at hguessing
  rw [← hguessing]
  cases hlike : isObjectLike value with
  | true => rfl
  | false => simp [apply_ite Prod.fst, hwalked hlike]

theorem redactMember_found {hints : ConfigUiHints} {candidate : JsString} :
    (if isSecretString value then (sentinel, textOf value)
      else if isObjectLike value then
        if hintedSensitive hints candidate && !isArray value then
          if isSecretRefShape (toObjectRecord value) then
            redactSecretRefId (toObjectRecord value)
          else (sentinel, collectSensitiveStrings value)
        else walked
      else if hintedSensitive hints candidate && isPresent value then
        (sentinel, [])
      else if isUrlPath (some hints) (memberPath parent key)
          [candidate, memberPath parent key, wildcardPath parent] then
        redactUrl urls value
      else (value, [])).1 =
      (foundRules (some hints) parent key candidate).redactMember urls value walked.1 := by
  unfold redactMember foundRules
  cases value with
  | string text =>
    have hself := hwalked rfl
    by_cases hhinted : hintedSensitive hints candidate = true <;>
      by_cases hplaceholder : isEnvVarPlaceholder text = true <;>
      by_cases hurl : isUrlPath (some hints) (memberPath parent key)
        [candidate, memberPath parent key, wildcardPath parent] = true <;>
      by_cases hsecret : hasUrlSecret urls text = true <;>
      simp [hides, isSecretString, isSecretRef, isObjectLike, isPresent,
        isArray, isRecord, redactUrl_string, hplaceholder, hsecret, hself,
        hhinted, hurl]
  | object entries =>
    by_cases hhinted : hintedSensitive hints candidate = true <;>
      by_cases hshape : isSecretRefShape entries = true <;>
      simp [hides, isSecretString, isSecretRef, isObjectLike, isArray, isRecord, hshape, hhinted]
  | undefined | null | bool | number | function =>
    have hself := hwalked rfl
    by_cases hhinted : hintedSensitive hints candidate = true <;>
      simp [hides, isSecretString, isObjectLike, isArray, isRecord,
        isSecretRef, isPresent, redactUrl, hself, hhinted]
  | array =>
    simp [hides, isSecretString, isObjectLike, isArray, isRecord, isSecretRef]

end

end Members

theorem redactObjectGuessing_of_not_objectLike {parent : JsString}
    {value : JsValue} (hvalue : isObjectLike value = false) :
    (redactObjectGuessing urls hints parent value).1 = value := by
  cases value with
  | array items => simp [isObjectLike, isArray] at hvalue
  | object entries => simp [isObjectLike, isRecord] at hvalue
  | undefined | null | bool | number | string | function => rfl

theorem redactObjectWithLookup_of_not_objectLike {hints : ConfigUiHints}
    {parent : JsString} {value : JsValue}
    (hvalue : isObjectLike value = false) :
    (redactObjectWithLookup urls lookup hints parent value).1 = value := by
  cases value with
  | array items => simp [isObjectLike, isArray] at hvalue
  | object entries => simp [isObjectLike, isRecord] at hvalue
  | undefined | null | bool | number | string | function => rfl

mutual

theorem redactObjectGuessing_eq (parent : JsString) : ∀ value,
    (redactObjectGuessing urls hints parent value).1 =
      (configWalk hints lookup).redact urls (.guessing parent) value
  | .array items => by
      exact congrArg JsValue.array (redactItemsGuessing_eq parent items)
  | .object entries => by
      exact congrArg JsValue.object (redactEntriesGuessing_eq parent entries)
  | .undefined | .null | .bool _ | .number _ | .string _ | .function => rfl

theorem redactItemsGuessing_eq (parent : JsString) : ∀ items,
    (redactItemsGuessing urls hints (itemPath parent) items).1 =
      (configWalk hints lookup).redactItems urls (.guessing parent) items
  | [] => by simp [redactItemsGuessing, redactItems]
  | item :: rest => by
      rw [redactItemsGuessing, redactItems, redactItemsGuessing_eq parent rest,
        apply_ite Prod.fst, redactObjectGuessing_eq (itemPath parent) item]
      rfl

theorem redactEntriesGuessing_eq (parent : JsString) : ∀ entries,
    (redactEntriesGuessing urls hints parent entries).1 =
      (configWalk hints lookup).redactEntries urls (.guessing parent) entries
  | [] => by simp [redactEntriesGuessing, redactEntries]
  | (key, value) :: rest => by
      rw [redactEntriesGuessing, redactEntries, redactEntriesGuessing_eq parent rest,
        redactMember_guessing redactObjectGuessing_of_not_objectLike _,
        redactObjectGuessing_eq (memberPath parent key) value]
      rfl

end

theorem redactItems_unknown {parent : JsString}
    (hpath : ¬ lookup.contains (itemPath parent) = true) (items : List JsValue) :
    (configWalk hints lookup).redactItems urls (.guessing parent) items =
      (configWalk hints lookup).redactItems urls (.found parent) items := by
  induction items with
  | nil => simp [redactItems]
  | cons item rest ih =>
    rw [redactItems, redactItems, ih, (items_unknown hpath).1, (items_unknown hpath).2]

mutual

theorem redactObjectWithLookup_eq {hints : ConfigUiHints} (parent : JsString) : ∀ value,
    (redactObjectWithLookup urls lookup hints parent value).1 =
      (configWalk (some hints) lookup).redact urls (.found parent) value
  | .array items => by
      rw [redactObjectWithLookup, redact]
      by_cases hpath : lookup.contains (itemPath parent) = true
      · rw [if_pos hpath]
        exact congrArg JsValue.array (redactItemsWithLookup_eq hpath items)
      · rw [if_neg hpath, redactObjectGuessing_eq, redact, redactItems_unknown hpath]
  | .object entries => by
      exact congrArg JsValue.object (redactEntriesWithLookup_eq parent entries)
  | .undefined | .null | .bool _ | .number _ | .string _ | .function => rfl

theorem redactItemsWithLookup_eq {hints : ConfigUiHints} {parent : JsString}
    (hpath : lookup.contains (itemPath parent) = true) : ∀ items,
    (redactItemsWithLookup urls lookup hints (itemPath parent) items).1 =
      (configWalk (some hints) lookup).redactItems urls (.found parent) items
  | [] => by simp [redactItemsWithLookup, redactItems]
  | item :: rest => by
      rw [redactItemsWithLookup, redactItems, redactItemsWithLookup_eq hpath rest,
        apply_ite Prod.fst, redactObjectWithLookup_eq (itemPath parent) item,
        (items_known hpath).1, (items_known hpath).2, Bool.true_and]

theorem redactEntriesWithLookup_eq {hints : ConfigUiHints} (parent : JsString) : ∀ entries,
    (redactEntriesWithLookup urls lookup hints parent entries).1 =
      (configWalk (some hints) lookup).redactEntries urls (.found parent) entries
  | [] => by simp [redactEntriesWithLookup, redactEntries]
  | (key, value) :: rest => by
      rw [redactEntriesWithLookup, redactEntries, redactEntriesWithLookup_eq parent rest]
      cases hcandidate : candidate lookup parent key with
      | some found =>
        rw [redactMember_found redactObjectWithLookup_of_not_objectLike,
          redactObjectWithLookup_eq found value, (member_known hcandidate).1,
          (member_known hcandidate).2]
      | none =>
        rw [redactMember_unknown redactObjectGuessing_of_not_objectLike,
          redactObjectGuessing_eq, (member_unknown hcandidate).1,
          (member_unknown hcandidate).2]

end

theorem restoreMember_guessing {parent key : JsString} {value : JsValue}
    {original : List (JsString × JsValue)}
    {walked : Except RedactionError JsValue} (objects : Bool) :
    restoreRedactedEntryGuessing hints parent key value original walked =
      (guessedRules hints parent key objects).restoreMember key value original
        walked := rfl

mutual

theorem restoreRedactedValuesGuessing_eq (parent : JsString) : ∀ incoming original,
    restoreRedactedValuesGuessing hints incoming original parent =
      (configWalk hints lookup).restore incoming original (.guessing parent)
  | .array items, original => by
      rw [restoreRedactedValuesGuessing, restore, restoreItemsGuessing_eq parent items]
  | .object entries, original => by
      rw [restoreRedactedValuesGuessing, restore, restoreEntriesGuessing_eq parent entries]
  | .undefined, _ | .null, _ | .bool _, _ | .number _, _ | .string _, _ | .function, _ => rfl

theorem restoreItemsGuessing_eq (parent : JsString) : ∀ items originals,
    restoreItemsGuessing hints items originals (itemPath parent) =
      (configWalk hints lookup).restoreItems items originals (.guessing parent)
  | [], originals => by simp [restoreItemsGuessing, restoreItems]
  | item :: rest, originals => by
      rw [restoreItemsGuessing, restoreItems, restoreItemsGuessing_eq parent rest,
        restoreRedactedValuesGuessing_eq (itemPath parent) item]
      rfl

theorem restoreEntriesGuessing_eq (parent : JsString) : ∀ entries original,
    restoreEntriesGuessing hints entries original parent =
      (configWalk hints lookup).restoreEntries entries original (.guessing parent)
  | [], original => by simp [restoreEntriesGuessing, restoreEntries]
  | (key, value) :: rest, original => by
      rw [restoreEntriesGuessing, restoreEntries, restoreEntriesGuessing_eq parent rest,
        restoreRedactedValuesGuessing_eq (memberPath parent key) value,
        restoreMember_guessing (hidesWholeObject hints parent key)]
      rfl

end

theorem restoreMember_found {hints : ConfigUiHints} {parent key found : JsString} {value : JsValue}
    {original : List (JsString × JsValue)}
    {walked : Except RedactionError JsValue} :
    restoreFoundEntry hints parent key found value original walked =
      (foundRules (some hints) parent key found).restoreMember key value original
        walked := rfl

theorem restoreItems_unknown {parent : JsString}
    (hpath : ¬ lookup.contains (itemPath parent) = true) (items originals : List JsValue) :
    (configWalk hints lookup).restoreItems items originals (.guessing parent) =
      (configWalk hints lookup).restoreItems items originals (.found parent) := by
  induction items generalizing originals with
  | nil => simp [restoreItems]
  | cons item rest ih =>
    rw [restoreItems, restoreItems, ih, (items_unknown hpath).1, (items_unknown hpath).2]

mutual

theorem restoreRedactedValuesWithLookup_eq {hints : ConfigUiHints} (parent : JsString) :
    ∀ incoming original,
    restoreRedactedValuesWithLookup lookup hints incoming original parent =
      (configWalk (some hints) lookup).restore incoming original (.found parent)
  | .array items, original => by
      rw [restoreRedactedValuesWithLookup, restore]
      by_cases hpath : lookup.contains (itemPath parent) = true
      · rw [if_pos hpath, restoreItemsWithLookup_eq hpath items]
      · rw [if_neg hpath, restoreRedactedValuesGuessing_eq, restore, restoreItems_unknown hpath]
  | .object entries, original => by
      rw [restoreRedactedValuesWithLookup, restore, restoreEntriesWithLookup_eq parent entries]
  | .undefined, _ | .null, _ | .bool _, _ | .number _, _ | .string _, _ | .function, _ => rfl

theorem restoreItemsWithLookup_eq {hints : ConfigUiHints} {parent : JsString}
    (hpath : lookup.contains (itemPath parent) = true) : ∀ items originals,
    restoreItemsWithLookup lookup hints items originals (itemPath parent) =
      (configWalk (some hints) lookup).restoreItems items originals (.found parent)
  | [], originals => by simp [restoreItemsWithLookup, restoreItems]
  | item :: rest, originals => by
      rw [restoreItemsWithLookup, restoreItems, restoreItemsWithLookup_eq hpath rest,
        restoreRedactedValuesWithLookup_eq (itemPath parent) item, (items_known hpath).1,
        (items_known hpath).2, Bool.true_and]

theorem restoreEntriesWithLookup_eq {hints : ConfigUiHints} (parent : JsString) :
    ∀ entries original,
    restoreEntriesWithLookup lookup hints entries original parent =
      (configWalk (some hints) lookup).restoreEntries entries original (.found parent)
  | [], original => by simp [restoreEntriesWithLookup, restoreEntries]
  | (key, value) :: rest, original => by
      rw [restoreEntriesWithLookup, restoreEntries, restoreEntriesWithLookup_eq parent rest]
      cases hcandidate : candidate lookup parent key with
      | some found =>
        dsimp only
        rw [restoreMember_found, restoreRedactedValuesWithLookup_eq found value,
          (member_known hcandidate).1, (member_known hcandidate).2]
      | none =>
        rw [restoreMember_guessing false, restoreRedactedValuesGuessing_eq,
          (member_unknown hcandidate).1, (member_unknown hcandidate).2]

end

def walkOf : Option ConfigUiHints → Walk Position
  | some hints => configWalk (some hints) (buildRedactionLookup hints)
  | none => configWalk none []

def startOf : Option ConfigUiHints → Position
  | some hints =>
    if (buildRedactionLookup hints).contains [] then .found []
    else .guessing []
  | none => .guessing []

theorem redactConfigObject_eq (config : JsValue) : redactConfigObject urls config hints =
      (walkOf hints).redact urls (startOf hints) config := by
  cases hints with
  | none => exact redactObjectGuessing_eq [] config
  | some hints =>
    unfold redactConfigObject redactObject walkOf startOf
    dsimp only
    split
    · exact redactObjectWithLookup_eq [] config
    · exact redactObjectGuessing_eq [] config

theorem restoreWalk_eq (incoming original : JsValue) : restoreWalk incoming original hints =
      (walkOf hints).restore incoming original (startOf hints) := by
  cases hints with
  | none => exact restoreRedactedValuesGuessing_eq [] incoming original
  | some hints =>
    unfold restoreWalk walkOf startOf
    dsimp only
    split
    · exact restoreRedactedValuesWithLookup_eq [] incoming original
    · exact restoreRedactedValuesGuessing_eq [] incoming original

mutual

theorem assertNoRedactedSentinel_of_clean (path : JsString) : ∀ {value : JsValue},
    everywhere (!isSentinel ·) value → assertNoRedactedSentinel value path = .ok ()
  | .string text, hvalue => by
      have hnot : text ≠ redactedSentinel := by
        simpa [everywhere, isSentinel] using hvalue
      rw [assertNoRedactedSentinel, if_neg hnot]
  | .array items, hvalue => by
      rw [everywhere_array] at hvalue
      exact assertNoSentinelInItems_of_clean path 0 hvalue.2
  | .object entries, hvalue => by
      rw [everywhere_object] at hvalue
      exact assertNoSentinelInEntries_of_clean path hvalue.2
  | .undefined, _ | .null, _ | .bool _, _ | .number _, _ | .function, _ => rfl

theorem assertNoSentinelInItems_of_clean (path : JsString) (index : ℕ) :
    ∀ {items : List JsValue}, (∀ item ∈ items, everywhere (!isSentinel ·) item) →
      assertNoSentinelInItems items path index = .ok ()
  | [], _ => rfl
  | item :: rest, hitems => by
      obtain ⟨hitem, hrest⟩ := List.forall_mem_cons.mp hitems
      rw [assertNoSentinelInItems, assertNoRedactedSentinel_of_clean _ hitem]
      exact assertNoSentinelInItems_of_clean path (index + 1) hrest

theorem assertNoSentinelInEntries_of_clean (path : JsString) :
    ∀ {entries : List (JsString × JsValue)},
      (∀ entry ∈ entries, everywhere (!isSentinel ·) entry.2) →
      assertNoSentinelInEntries entries path = .ok ()
  | [], _ => rfl
  | (key, value) :: rest, hentries => by
      obtain ⟨hvalue, hrest⟩ := List.forall_mem_cons.mp hentries
      rw [assertNoSentinelInEntries, assertNoRedactedSentinel_of_clean _ hvalue]
      exact assertNoSentinelInEntries_of_clean path hrest

end

/-- A config without sentinels comes back from its redaction exactly if it is
restorable for the walk of the hints. -/
theorem restoreRedactedValues_redactConfigObject
    {entries : List (JsString × JsValue)} (hclean : Clean (.object entries)) :
    restoreRedactedValues (redactConfigObject urls (.object entries) hints)
        (.object entries) hints = .ok (.object entries) ↔
      (walkOf hints).restorable urls (startOf hints) (.object entries) := by
  have hredacted : redactConfigObject urls (.object entries) hints =
      .object ((walkOf hints).redactEntries urls (startOf hints) entries) := by
    rw [redactConfigObject_eq, redact]
  have hback := @restore_redact _ urls (walkOf hints) (startOf hints) _ hclean
  rw [← redactConfigObject_eq] at hback
  rw [← hback, restoreRedactedValues, hredacted, restoreWalk_eq]
  have hpresent : ∀ members : List (JsString × JsValue), isPresent (.object members) = true ∧
        isObjectLike (.object members) = true := fun members => ⟨rfl, rfl⟩
  rw [(hpresent _).1, (hpresent _).2]
  simp only [Bool.not_true, Bool.false_eq_true, if_false]
  cases hwalk : (walkOf hints).restore
      (.object ((walkOf hints).redactEntries urls (startOf hints) entries))
      (.object entries) (startOf hints) with
  | error error => simp [bind, Except.bind]
  | ok restored =>
    simp [bind, Except.bind, pure, Except.pure]
    constructor
    · intro hresult
      split at hresult
      · rename_i value hvalue
        split at hvalue
        · cases hvalue
        · cases hvalue
          exact RedactionResult.ok.inj hresult
      · cases hresult
    · rintro rfl
      rw [assertNoRedactedSentinel_of_clean [] hclean.sentinels]

def noUrls : UrlLibrary where
  parse := fun _ => none
  toString := ParsedUrl.rest

def sensitiveHints (paths : List String) : ConfigUiHints :=
  paths.map fun path => (js path, { sensitive := some true })

theorem string_above_sensitive_path_refused : (restoreRedactedValues
      (redactConfigObject noUrls (.object [(js "proxy", .string (js "http://localhost"))])
        (some (sensitiveHints ["proxy.password"])))
      (.object [(js "proxy", .string (js "http://localhost"))])
      (some (sensitiveHints ["proxy.password"]))).refusal =
      some (js "Reserved redaction sentinel \"__LITTLEBABY_REDACTED__\" is not valid config data (proxy).") := by
  decide

def exampleConfig : List (JsString × JsValue) :=
  [(js "gateway", .object [(js "token", .string (js "s3cr3t")), (js "port", .string (js "18789"))]),
    (js "hooks", .object [(js "secret", .object [
      (js "source", .string (js "env")), (js "provider", .string (js "shell")),
      (js "id", .string (js "HOOK_SECRET"))])]),
    (js "models", .array [.object [(js "apiKey", .string (js "k1"))],
      .object [(js "apiKey", .string (js "${MODEL_KEY}"))]])]

theorem restoreRedactedValues_redactConfigObject_example : restoreRedactedValues
      (redactConfigObject noUrls (.object exampleConfig)
        (some (sensitiveHints ["gateway.token", "hooks.secret", "models[].apiKey"])))
      (.object exampleConfig)
      (some (sensitiveHints ["gateway.token", "hooks.secret",
        "models[].apiKey"])) = .ok (.object exampleConfig) := by
  have hclean : Clean (.object exampleConfig) := ⟨by decide, by decide, by decide⟩
  exact (restoreRedactedValues_redactConfigObject hclean).mpr (by decide)

end LittleBaby.Redact
