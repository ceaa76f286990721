import LittleBaby.RedactSnapshot

/-!
# Restoring a redacted config

`restoreRedactedValues` puts the values of the original config in the place of
the sentinels, by two walks that mirror those of the redaction, and refuses a
config in which a sentinel is left.
-/

namespace LittleBaby.Redact

open JsString JsValue

structure RedactionError where
  key : JsString
  humanReadableMessage : JsString

def sentinelInKey (key : JsString) : RedactionError where
  key
  humanReadableMessage :=
    js "Sentinel value \"" ++ redactedSentinel ++ js "\" in key " ++ key ++
      js " is not valid as real data"

inductive RedactionResult
  | ok (result : JsValue)
  | error (error : JsString)
  | refused (humanReadableMessage : JsString)

def RedactionResult.refusal : RedactionResult → Option JsString
  | .refused message => some message
  | _ => none

def isSentinel : JsValue → Bool
  | .string text => text = redactedSentinel
  | _ => false

def itemsOf : JsValue → List JsValue
  | .array items => items
  | _ => []

def restoreOriginalValueOrThrow (key path : JsString)
    (original : List (JsString × JsValue)) : Except RedactionError JsValue :=
  if hasKey key original then .ok (readKey key original)
  else .error (sentinelInKey path)

def isSecretRefWithProvider (entries : List (JsString × JsValue)) : Bool :=
  isSecretRefShape entries && isString (readKey (js "provider") entries)

/-- `first === second` for two strings. -/
def sameString : JsValue → JsValue → Bool
  | .string first, .string second => first = second
  | _, _ => false

variable (incoming : JsValue) (original : JsValue) (path : JsString)

def secretRefError (message : String) : RedactionError where
  key := path
  humanReadableMessage := js "SecretRef at " ++ path ++ js message

/-- `maybeRestoreSecretRefId`; nothing when it does not handle the value. -/
def maybeRestoreSecretRefId : Except RedactionError (Option JsValue) :=
  let incomingObj := toObjectRecord incoming
  let originalObj := toObjectRecord original
  if !isSecretRefShape incomingObj || !isSentinel (readKey (js "id") incomingObj) then .ok none
  else if !isSecretRefWithProvider originalObj then
    if isSecretRefShape originalObj then
      .error (secretRefError path " requires a provider field to restore the redacted id automatically (original ref lacks provider).")
    else
      .error (secretRefError path " contains a redacted id placeholder with no matching original value.")
  else if !isSecretRefWithProvider incomingObj then
    .error (secretRefError path " must include source, provider, and id when redacted placeholders are present.")
  else if !sameString (readKey (js "source") incomingObj) (readKey (js "source") originalObj) ||
      !sameString (readKey (js "provider") incomingObj) (readKey (js "provider") originalObj) then
    .error (secretRefError path " changed source/provider while id is redacted. Provide an explicit id when changing source/provider.")
  else
    .ok (some (.object (Entries.set (js "id") (readKey (js "id") originalObj) incomingObj)))

def restoreSecretRefOr (walked : Except RedactionError JsValue) :
    Except RedactionError JsValue := do
  match ← maybeRestoreSecretRefId incoming original path with
  | some restored => return restored
  | none => walked

def shouldRestoreSensitiveGuessingPath
    (hintPaths : List JsString) (hints : Option ConfigUiHints) : Bool :=
  !isExplicitlyNonSensitivePath hints hintPaths &&
    (isSensitivePath path || isUrlPath hints path hintPaths)

/-- `restoreRedactedEntryGuessing`, given what the walk makes of the value. -/
def restoreRedactedEntryGuessing (hints : Option ConfigUiHints)
    (parent key : JsString) (value : JsValue)
    (original : List (JsString × JsValue))
    (walked : Except RedactionError JsValue) : Except RedactionError JsValue :=
  let path := memberPath parent key
  let canRestoreSecretRef := shouldRestoreSensitiveGuessingPath path
    [path, wildcardPath parent] hints
  if isSentinel value && canRestoreSecretRef then
    restoreOriginalValueOrThrow key path original
  else if isObjectLike value then
    if canRestoreSecretRef then
      restoreSecretRefOr value (readKey key original) path walked
    else walked
  else .ok value

mutual

def restoreRedactedValuesGuessing (hints : Option ConfigUiHints) :
    JsValue → JsValue → JsString → Except RedactionError JsValue
  | .array items, original, parent => do
      return .array (← restoreItemsGuessing hints items (itemsOf original) (itemPath parent))
  | .object entries, original, parent => do
      return .object (← restoreEntriesGuessing hints entries (toObjectRecord original) parent)
  | incoming, _, _ => .ok incoming

def restoreItemsGuessing (hints : Option ConfigUiHints) :
    List JsValue → List JsValue → JsString → Except RedactionError (List JsValue)
  | [], _, _ => .ok []
  | item :: rest, originals, path => do
      let original := originals.headD .undefined
      let restored ← if guessedSensitive hints path [path] && isSentinel item then
          .ok original
        else restoreRedactedValuesGuessing hints item original path
      let others ← restoreItemsGuessing hints rest originals.tail path
      return restored :: others

def restoreEntriesGuessing (hints : Option ConfigUiHints) :
    List (JsString × JsValue) → List (JsString × JsValue) → JsString →
      Except RedactionError (List (JsString × JsValue))
  | [], _, _ => .ok []
  | (key, value) :: rest, original, parent => do
      let restored ← restoreRedactedEntryGuessing hints parent key value original
        (restoreRedactedValuesGuessing hints value (readKey key original) (memberPath parent key))
      let others ← restoreEntriesGuessing hints rest original parent
      return assign key restored others

end

def restoreFoundEntry (hints : ConfigUiHints) (parent key candidate : JsString)
    (value : JsValue) (original : List (JsString × JsValue))
    (walked : Except RedactionError JsValue) : Except RedactionError JsValue :=
  let path := memberPath parent key
  if isSentinel value && (hintedSensitive hints candidate ||
      isUrlPath (some hints) path [candidate, path, wildcardPath parent]) then
    restoreOriginalValueOrThrow key candidate original
  else if isObjectLike value then
    restoreSecretRefOr value (readKey key original) path walked
  else .ok value

mutual

def restoreRedactedValuesWithLookup (lookup : List JsString) (hints : ConfigUiHints) :
    JsValue → JsValue → JsString → Except RedactionError JsValue
  | .array items, original, parent =>
    let path := itemPath parent
    if lookup.contains path then do
      return .array (← restoreItemsWithLookup lookup hints items (itemsOf original) path)
    else
      restoreRedactedValuesGuessing (some hints) (.array items) original parent
  | .object entries, original, parent => do
      return .object (← restoreEntriesWithLookup lookup hints entries
        (toObjectRecord original) parent)
  | incoming, _, _ => .ok incoming

def restoreItemsWithLookup (lookup : List JsString) (hints : ConfigUiHints) :
    List JsValue → List JsValue → JsString → Except RedactionError (List JsValue)
  | [], _, _ => .ok []
  | item :: rest, originals, path => do
      let original := originals.headD .undefined
      let restored ← if isSentinel item then .ok original
        else restoreRedactedValuesWithLookup lookup hints item original path
      let others ← restoreItemsWithLookup lookup hints rest originals.tail path
      return restored :: others

def restoreEntriesWithLookup (lookup : List JsString) (hints : ConfigUiHints) :
    List (JsString × JsValue) → List (JsString × JsValue) → JsString →
      Except RedactionError (List (JsString × JsValue))
  | [], _, _ => .ok []
  | (key, value) :: rest, original, parent => do
      let restored ← match candidate lookup parent key with
        | some candidate =>
          restoreFoundEntry hints parent key candidate value original
            (restoreRedactedValuesWithLookup lookup hints value (readKey key original) candidate)
        | none =>
          restoreRedactedEntryGuessing (some hints) parent key value original
            (restoreRedactedValuesGuessing (some hints) value
              (readKey key original) (memberPath parent key))
      let others ← restoreEntriesWithLookup lookup hints rest original parent
      return assign key restored others

end

def leftSentinelError (path : JsString) : RedactionError :=
  let pathLabel := if path = [] then js "<root>" else path
  { key := pathLabel
    humanReadableMessage :=
      js "Reserved redaction sentinel \"" ++ redactedSentinel ++
        js "\" is not valid config data (" ++ pathLabel ++ js ")." }

mutual

def assertNoRedactedSentinel : JsValue → JsString → Except RedactionError Unit
  | .string text, path =>
    if text = redactedSentinel then .error (leftSentinelError path) else .ok ()
  | .array items, path => assertNoSentinelInItems items path 0
  | .object entries, path => assertNoSentinelInEntries entries path
  | _, _ => .ok ()

def assertNoSentinelInItems : List JsValue → JsString → ℕ → Except RedactionError Unit
  | [], _, _ => .ok ()
  | item :: rest, path, index => do
      assertNoRedactedSentinel item (path ++ js "[" ++ js (toString index) ++ js "]")
      assertNoSentinelInItems rest path (index + 1)

def assertNoSentinelInEntries : List (JsString × JsValue) → JsString → Except RedactionError Unit
  | [], _ => .ok ()
  | (key, value) :: rest, path => do
      assertNoRedactedSentinel value (memberPath path key)
      assertNoSentinelInEntries rest path

end

def restoreWalk : Option ConfigUiHints → Except RedactionError JsValue
  | some hints =>
    let lookup := buildRedactionLookup hints
    if lookup.contains [] then
      restoreRedactedValuesWithLookup lookup hints incoming original []
    else restoreRedactedValuesGuessing (some hints) incoming original []
  | none => restoreRedactedValuesGuessing none incoming original []

def restoreRedactedValues (hints : Option ConfigUiHints) : RedactionResult :=
  if !isPresent incoming then .error (js "no input")
  else if !isObjectLike incoming then .error (js "input not an object")
  else
    match (do
      let restored ← restoreWalk incoming original hints
      assertNoRedactedSentinel restored []
      return restored : Except RedactionError JsValue) with
    | .ok restored => .ok restored
    | .error error => .refused error.humanReadableMessage

end LittleBaby.Redact
