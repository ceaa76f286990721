import LittleBaby.Entries
import LittleBaby.JsNumber
import LittleBaby.JsString

/-!
# Plain ECMAScript values

Values that are built from primitives, arrays and plain objects.  The entries
of an object are its own enumerable ones; `__proto__` cannot be written by an
assignment and is never an entry.
-/

open JsString

inductive JsValue where
  | undefined
  | null
  | bool (value : Bool)
  | number (value : JsNumber)
  | string (value : JsString)
  /-- a function, such as the ones that every object inherits -/
  | function
  | array (items : List JsValue)
  | object (entries : List (JsString × JsValue))

namespace JsValue

@[elab_as_elim]
theorem induction {motive : JsValue → Prop} (undefined : motive .undefined) (null : motive .null)
    (bool : ∀ value, motive (.bool value))
    (number : ∀ value, motive (.number value))
    (string : ∀ value, motive (.string value))
    (function : motive .function)
    (array : ∀ items, (∀ item ∈ items, motive item) → motive (.array items))
    (object : ∀ entries, (∀ entry ∈ entries, motive entry.2) → motive (.object entries))
    (value : JsValue) : motive value :=
  @JsValue.rec motive (fun items => ∀ item ∈ items, motive item)
    (fun entries => ∀ entry ∈ entries, motive entry.2)
    (fun entry => motive entry.2) undefined null bool number string function
    array object (List.forall_mem_nil _)
    (fun _ _ hitem hrest => List.forall_mem_cons.mpr ⟨hitem, hrest⟩)
    (List.forall_mem_nil _)
    (fun _ _ hentry hrest => List.forall_mem_cons.mpr ⟨hentry, hrest⟩)
    (fun _ _ hvalue => hvalue) value

@[elab_as_elim]
theorem mem_induction {α : Type*} {motive : List α → Prop} (items : List α) (nil : motive [])
    (cons : ∀ item ∈ items, ∀ rest, motive rest → motive (item :: rest)) : motive items := by
  have hrest : ∀ rest, rest ⊆ items → motive rest := by
    intro rest hsub
    induction rest with
    | nil => exact nil
    | cons item rest ih =>
      exact cons item (hsub List.mem_cons_self) rest
        (ih fun other hother => hsub (List.mem_cons_of_mem _ hother))
  exact hrest items (List.Subset.refl _)

/-- The properties of `Object.prototype` that hold functions. -/
def inheritedKeys : List JsString :=
  [js "constructor", js "__defineGetter__", js "__defineSetter__",
    js "hasOwnProperty", js "__lookupGetter__", js "__lookupSetter__",
    js "isPrototypeOf", js "propertyIsEnumerable", js "toString",
    js "valueOf", js "toLocaleString"]

/-- `key in object`. -/
def hasKey (key : JsString) (entries : List (JsString × JsValue)) : Bool :=
  (entries.lookup key).isSome || decide (key ∈ inheritedKeys)

/-- `object[key]`. -/
def readKey (key : JsString) (entries : List (JsString × JsValue)) : JsValue :=
  match entries.lookup key with
  | some value => value
  | none => if key ∈ inheritedKeys then .function else .undefined

/-- `isRecord` and `isPlainObject`, which agree on plain values. -/
def isRecord : JsValue → Bool
  | .object _ => true
  | _ => false

mutual

/-- `isDeepStrictEqual`, which does not look at the order of keys. -/
def deepEqual : JsValue → JsValue → Bool
  | .array items, .array others => deepEqualItems items others
  | .object entries, .object others =>
    decide (entries.length = others.length) && deepEqualEntries entries others
  | .undefined, .undefined | .null, .null | .function, .function => true
  | .bool left, .bool right => decide (left = right)
  | .number left, .number right => decide (left = right)
  | .string left, .string right => decide (left = right)
  | _, _ => false

def deepEqualItems : List JsValue → List JsValue → Bool
  | [], [] => true
  | item :: rest, other :: others =>
    deepEqual item other && deepEqualItems rest others
  | _, _ => false

def deepEqualEntries : List (JsString × JsValue) → List (JsString × JsValue) → Bool
  | [], _ => true
  | (key, value) :: rest, others =>
    (match others.lookup key with
      | some other => deepEqual value other
      | none => false) && deepEqualEntries rest others

end

mutual

def isData : JsValue → Bool
  | .function => false
  | .array items => itemsAreData items
  | .object entries => entriesAreData entries
  | _ => true

def itemsAreData : List JsValue → Bool
  | [] => true
  | item :: rest => isData item && itemsAreData rest

def entriesAreData : List (JsString × JsValue) → Bool
  | [] => true
  | (_, value) :: rest => isData value && entriesAreData rest

end

/-- `structuredClone`, which throws on a function. -/
def structuredClone (value : JsValue) : Option JsValue :=
  if value.isData then some value else none

def get? : JsValue → List JsString → Option JsValue
  | value, [] => some value
  | .object entries, key :: path =>
    match entries.lookup key with
    | some value => value.get? path
    | none => none
  | _, _ :: _ => none

section Reading

variable {key : JsString} {entries : List (JsString × JsValue)} {value other : JsValue}

theorem readKey_of_lookup (hlookup : entries.lookup key = some value) :
    readKey key entries = value := by
  simp [readKey, hlookup]

theorem isData_of_lookup (hdata : entriesAreData entries = true)
    (hlookup : entries.lookup key = some value) : value.isData = true := by
  induction entries with
  | nil => simp at hlookup
  | cons entry rest ih =>
    obtain ⟨first, old⟩ := entry
    simp only [entriesAreData, Bool.and_eq_true] at hdata
    rw [List.lookup_cons] at hlookup
    split at hlookup
    · rw [← Option.some.inj hlookup]
      exact hdata.1
    · exact ih hdata.2 hlookup

theorem get?_object_cons (path : List JsString) : (JsValue.object entries).get? (key :: path) =
      (entries.lookup key).bind fun value => value.get? path := by
  rw [get?]
  cases entries.lookup key <;> rfl

theorem member_of_get?_object {path : List JsString} {below : List (JsString × JsValue)}
    (hget : (JsValue.object entries).get? (key :: path) = some (.object below)) :
    ∃ member, entries.lookup key = some (.object member) ∧
      (JsValue.object member).get? path = some (.object below) := by
  rw [get?_object_cons, Option.bind_eq_some_iff] at hget
  obtain ⟨value, hlookup, hvalue⟩ := hget
  cases path with
  | nil =>
    rw [get?, Option.some.injEq] at hvalue
    subst hvalue
    exact ⟨below, hlookup, rfl⟩
  | cons next rest =>
    cases value with
    | object member => exact ⟨member, hlookup, hvalue⟩
    | _ => simp [get?] at hvalue

end Reading

end JsValue
