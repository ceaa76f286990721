import LittleBaby.RedactRestore

/-!
# Walks that redact and restore

A walk carries a state down a value; its rules depend on the state and the key
alone.
-/

namespace LittleBaby.Redact

open JsString JsValue

mutual

def everywhere (p : JsValue → Bool) : JsValue → Bool
  | .array items => p (.array items) && everywhereInItems p items
  | .object entries => p (.object entries) && everywhereInEntries p entries
  | value => p value

def everywhereInItems (p : JsValue → Bool) : List JsValue → Bool
  | [] => true
  | item :: rest => everywhere p item && everywhereInItems p rest

def everywhereInEntries (p : JsValue → Bool) : List (JsString × JsValue) → Bool
  | [] => true
  | (_, value) :: rest => everywhere p value && everywhereInEntries p rest

end

variable {p : JsValue → Bool}

theorem everywhereInItems_iff {items : List JsValue} :
    everywhereInItems p items ↔ ∀ item ∈ items, everywhere p item := by
  induction items with
  | nil => simp [everywhereInItems]
  | cons item rest ih => simp [everywhereInItems, ih]

theorem everywhereInEntries_iff {entries : List (JsString × JsValue)} :
    everywhereInEntries p entries ↔ ∀ entry ∈ entries, everywhere p entry.2 := by
  induction entries with
  | nil => simp [everywhereInEntries]
  | cons entry rest ih => simp [everywhereInEntries, ih]

theorem everywhere_array {items : List JsValue} : everywhere p (.array items) ↔
      p (.array items) ∧ ∀ item ∈ items, everywhere p item := by
  simp [everywhere, everywhereInItems_iff]

theorem everywhere_object {entries : List (JsString × JsValue)} : everywhere p (.object entries) ↔
      p (.object entries) ∧ ∀ entry ∈ entries, everywhere p entry.2 := by
  simp [everywhere, everywhereInEntries_iff]

theorem everywhere_self {value : JsValue} (hvalue : everywhere p value) : p value := by
  cases value with
  | array items => exact (everywhere_array.mp hvalue).1
  | object entries => exact (everywhere_object.mp hvalue).1
  | undefined | null | bool | number | string | function =>
    simpa [everywhere] using hvalue

def keysDistinct : JsValue → Bool
  | .object entries => (Entries.keys entries).Nodup
  | _ => true

def withoutProto : JsValue → Bool
  | .object entries => protoKey ∉ Entries.keys entries
  | _ => true

def refHasProvider : JsValue → Bool
  | .object entries =>
    !isSecretRefShape entries || isString (readKey (js "provider") entries)
  | _ => true

/-- Objects with distinct keys, no sentinel, and a provider in every secret
reference. -/
structure Clean (value : JsValue) : Prop where
  keys : everywhere keysDistinct value
  sentinels : everywhere (!isSentinel ·) value
  providers : everywhere refHasProvider value

/-- What a walk does with one member of an object: the kinds of values it hides
(strings that are no placeholders, strings with credentials in a URL, primitive
values, objects), whether it keeps all of a secret reference but the id, and
whether it opens a sentinel and a hidden id again; with the paths that stand in
errors. -/
structure Rules where
  texts : Bool
  urls : Bool
  primitives : Bool
  objects : Bool
  refs : Bool
  opens : Bool
  opensRefs : Bool
  path : JsString
  openedPath : JsString

structure Walk (State : Type) where
  rules : State → JsString → Rules
  next : State → JsString → State
  itemTexts : State → Bool
  nextItem : State → State
  refs_opened : ∀ state key, (rules state key).refs → (rules state key).opensRefs

def isSecretRef : JsValue → Bool
  | .object entries => isSecretRefShape entries
  | _ => false

variable {State : Type} (urls : UrlLibrary) (walk : Walk State)

def hasUrlSecret (text : JsString) : Bool := redactSensitiveUrlLikeString urls text ≠ text

variable (rules : Rules)

def Rules.hides : JsValue → Bool
  | .string text =>
    (rules.texts && !isEnvVarPlaceholder text) || rules.primitives ||
      (rules.urls && hasUrlSecret urls text)
  | .object entries =>
    rules.objects && !(rules.refs && isSecretRefShape entries)
  | .bool _ | .number _ | .function => rules.primitives
  | .array _ | .undefined | .null => false

def Rules.redactMember (value walked : JsValue) : JsValue :=
  if rules.hides urls value then sentinel
  else if rules.refs && isSecretRef value then
    (redactSecretRefId (toObjectRecord value)).1
  else walked

mutual

def Walk.redact : State → JsValue → JsValue
  | state, .array items => .array (Walk.redactItems state items)
  | state, .object entries => .object (Walk.redactEntries state entries)
  | _, value => value

def Walk.redactItems : State → List JsValue → List JsValue
  | _, [] => []
  | state, item :: rest =>
    (if walk.itemTexts state && isSecretString item then sentinel
      else Walk.redact (walk.nextItem state) item) ::
      Walk.redactItems state rest

def Walk.redactEntries : State → List (JsString × JsValue) → List (JsString × JsValue)
  | _, [] => []
  | state, (key, value) :: rest =>
    assign key ((walk.rules state key).redactMember urls value
        (Walk.redact (walk.next state key) value))
      (Walk.redactEntries state rest)

end

def Rules.restoreMember (key : JsString) (value : JsValue) (original : List (JsString × JsValue))
    (walked : Except RedactionError JsValue) : Except RedactionError JsValue :=
  if isSentinel value && rules.opens then
    restoreOriginalValueOrThrow key rules.openedPath original
  else if isObjectLike value then
    if rules.opensRefs then
      restoreSecretRefOr value (readKey key original) rules.path walked
    else walked
  else .ok value

mutual

def Walk.restore : JsValue → JsValue → State → Except RedactionError JsValue
  | .array items, original, state => do
      return .array (← Walk.restoreItems items (itemsOf original) state)
  | .object entries, original, state => do
      return .object (← Walk.restoreEntries entries (toObjectRecord original) state)
  | incoming, _, _ => .ok incoming

def Walk.restoreItems : List JsValue → List JsValue → State → Except RedactionError (List JsValue)
  | [], _, _ => .ok []
  | item :: rest, originals, state => do
      let original := originals.headD .undefined
      let restored ← if walk.itemTexts state && isSentinel item then .ok original
        else Walk.restore item original (walk.nextItem state)
      let others ← Walk.restoreItems rest originals.tail state
      return restored :: others

def Walk.restoreEntries : List (JsString × JsValue) → List (JsString × JsValue) → State →
      Except RedactionError (List (JsString × JsValue))
  | [], _, _ => .ok []
  | (key, value) :: rest, original, state => do
      let restored ← (walk.rules state key).restoreMember key value original
        (Walk.restore value (readKey key original) (walk.next state key))
      let others ← Walk.restoreEntries rest original state
      return assign key restored others

end

end LittleBaby.Redact
