import LittleBaby.RedactPaths

/-!
# Redacting a config

One walk goes by a lookup that is built from the hints, the other one guesses by
the pattern of a path; the first hands over to the second where the lookup knows
nothing.
-/

namespace LittleBaby.Redact

open JsString JsValue

def redactedSentinel : JsString := js "__LITTLEBABY_REDACTED__"

def sentinel : JsValue := .string redactedSentinel

def isString : JsValue → Bool
  | .string _ => true
  | _ => false

def isArray : JsValue → Bool
  | .array _ => true
  | _ => false

/-- `typeof value === "object" && value !== null`. -/
def isObjectLike (value : JsValue) : Bool := value.isRecord || isArray value

/-- `value !== undefined && value !== null`. -/
def isPresent : JsValue → Bool
  | .undefined | .null => false
  | _ => true

def isSecretString : JsValue → Bool
  | .string text => !isEnvVarPlaceholder text
  | _ => false

def textOf : JsValue → List JsString
  | .string text => [text]
  | _ => []

def toObjectRecord : JsValue → List (JsString × JsValue)
  | .object entries => entries
  | _ => []

variable (entries : List (JsString × JsValue))

@[simp] theorem toObjectRecord_object : toObjectRecord (.object entries) = entries := rfl

def protoKey : JsString := js "__proto__"

/-- `result[key] = value` for a new key: an assignment to `__proto__` makes no
entry. -/
def assign (key : JsString) (value : JsValue)
    (entries : List (JsString × JsValue)) : List (JsString × JsValue) :=
  if key = protoKey then entries else (key, value) :: entries

def isSecretRefShape : Bool :=
  isString (readKey (js "source") entries) && isString (readKey (js "id") entries)

/-- `redactSecretRefId`, with the id that it collects. -/
def redactSecretRefId : JsValue × List JsString :=
  if isSecretString (readKey (js "id") entries) then
    (.object (Entries.set (js "id") sentinel entries), textOf (readKey (js "id") entries))
  else (.object entries, [])

mutual

def collectSensitiveStrings : JsValue → List JsString
  | .string text => if isEnvVarPlaceholder text then [] else [text]
  | .array items => collectFromItems items
  | .object entries =>
    if isSecretRefShape entries then
      if isSecretString (readKey (js "id") entries) then
        textOf (readKey (js "id") entries)
      else []
    else collectFromEntries entries
  | _ => []

def collectFromItems : List JsValue → List JsString
  | [] => []
  | item :: rest => collectSensitiveStrings item ++ collectFromItems rest

def collectFromEntries : List (JsString × JsValue) → List JsString
  | [] => []
  | (_, value) :: rest => collectSensitiveStrings value ++ collectFromEntries rest

end

def guessedSensitive (hints : Option ConfigUiHints) (path : JsString)
    (hintPaths : List JsString) : Bool :=
  !isExplicitlyNonSensitivePath hints hintPaths && isSensitivePath path

def isUrlPath (hints : Option ConfigUiHints) (path : JsString) (hintPaths : List JsString) : Bool :=
  hasSensitiveUrlHintPath hints hintPaths || isSensitiveUrlConfigPath path

variable (urls : UrlLibrary)

def redactUrl (value : JsValue) : JsValue × List JsString :=
  match value with
  | .string text =>
    if redactSensitiveUrlLikeString urls text ≠ text then (sentinel, [text])
    else (value, [])
  | _ => (value, [])

mutual

def redactObjectGuessing (urls : UrlLibrary) (hints : Option ConfigUiHints) :
    JsString → JsValue → JsValue × List JsString
  | parent, .array items =>
    let redacted := redactItemsGuessing urls hints (itemPath parent) items
    (.array redacted.1, redacted.2)
  | parent, .object entries =>
    let redacted := redactEntriesGuessing urls hints parent entries
    (.object redacted.1, redacted.2)
  | _, value => (value, [])

def redactItemsGuessing (urls : UrlLibrary) (hints : Option ConfigUiHints) :
    JsString → List JsValue → List JsValue × List JsString
  | _, [] => ([], [])
  | path, item :: rest =>
    let redacted :=
      if guessedSensitive hints path [path] && isSecretString item then
        (sentinel, textOf item)
      else redactObjectGuessing urls hints path item
    let others := redactItemsGuessing urls hints path rest
    (redacted.1 :: others.1, redacted.2 ++ others.2)

def redactEntriesGuessing (urls : UrlLibrary) (hints : Option ConfigUiHints) :
    JsString → List (JsString × JsValue) → List (JsString × JsValue) × List JsString
  | _, [] => ([], [])
  | parent, (key, value) :: rest =>
    let dotPath := memberPath parent key
    let hintPaths := [dotPath, wildcardPath parent]
    let redacted :=
      if guessedSensitive hints dotPath hintPaths && isSecretString value then
        (sentinel, textOf value)
      else if guessedSensitive hints dotPath hintPaths &&
          isWholeObjectSensitivePath dotPath && value.isRecord then
        (sentinel, collectSensitiveStrings value)
      else if isString value && isUrlPath hints dotPath hintPaths then
        redactUrl urls value
      else redactObjectGuessing urls hints dotPath value
    let others := redactEntriesGuessing urls hints parent rest
    (assign key redacted.1 others.1, redacted.2 ++ others.2)

end

mutual

def redactObjectWithLookup (urls : UrlLibrary) (lookup : List JsString)
    (hints : ConfigUiHints) : JsString → JsValue → JsValue × List JsString
  | parent, .array items =>
    let path := itemPath parent
    if lookup.contains path then
      let redacted := redactItemsWithLookup urls lookup hints path items
      (.array redacted.1, redacted.2)
    else redactObjectGuessing urls (some hints) parent (.array items)
  | parent, .object entries =>
    let redacted := redactEntriesWithLookup urls lookup hints parent entries
    (.object redacted.1, redacted.2)
  | _, value => (value, [])

def redactItemsWithLookup (urls : UrlLibrary) (lookup : List JsString) (hints : ConfigUiHints) :
    JsString → List JsValue → List JsValue × List JsString
  | _, [] => ([], [])
  | path, item :: rest =>
    let redacted :=
      if isSecretString item then (sentinel, textOf item)
      else redactObjectWithLookup urls lookup hints path item
    let others := redactItemsWithLookup urls lookup hints path rest
    (redacted.1 :: others.1, redacted.2 ++ others.2)

def redactEntriesWithLookup (urls : UrlLibrary) (lookup : List JsString)
    (hints : ConfigUiHints) : JsString → List (JsString × JsValue) →
      List (JsString × JsValue) × List JsString
  | _, [] => ([], [])
  | parent, (key, value) :: rest =>
    let path := memberPath parent key
    let hintPaths := [path, wildcardPath parent]
    let redacted :=
      match candidate lookup parent key with
      | some candidate =>
        if isSecretString value then (sentinel, textOf value)
        else if isObjectLike value then
          if hintedSensitive hints candidate && !isArray value then
            if isSecretRefShape (toObjectRecord value) then
              redactSecretRefId (toObjectRecord value)
            else (sentinel, collectSensitiveStrings value)
          else redactObjectWithLookup urls lookup hints candidate value
        else if hintedSensitive hints candidate && isPresent value then
          (sentinel, [])
        else if isUrlPath (some hints) path (candidate :: hintPaths) then
          redactUrl urls value
        else (value, [])
      | none =>
        if guessedSensitive (some hints) path hintPaths && isSecretString value then
          (sentinel, textOf value)
        else if isString value && isUrlPath (some hints) path hintPaths then
          redactUrl urls value
        else if isObjectLike value then
          redactObjectGuessing urls (some hints) path value
        else (value, [])
    let others := redactEntriesWithLookup urls lookup hints parent rest
    (assign key redacted.1 others.1, redacted.2 ++ others.2)

end

variable (config : JsValue)

/-- `redactObject` and `collectSensitiveValues`. -/
def redactObject : Option ConfigUiHints → JsValue × List JsString
  | some hints =>
    let lookup := buildRedactionLookup hints
    if lookup.contains [] then
      redactObjectWithLookup urls lookup hints [] config
    else redactObjectGuessing urls (some hints) [] config
  | none => redactObjectGuessing urls none [] config

def redactConfigObject (hints : Option ConfigUiHints) : JsValue :=
  (redactObject urls config hints).1

def collectSensitiveValues (hints : Option ConfigUiHints) : List JsString :=
  (redactObject urls config hints).2

end LittleBaby.Redact
