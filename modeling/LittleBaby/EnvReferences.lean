import LittleBaby.JsValue

/-!
# References to environment variables

A config is read with its references to environment variables resolved, and
`restoreEnvVarRefs` puts the references back when it is written.  The scans
work on what is left of a string; `skip` counts the units up to the end of a
token.
-/

namespace LittleBaby.Config

open JsString JsValue Entries

abbrev ProcessEnv := JsString → Option JsString

def isNameStart (unit : UInt16) : Bool := 0x41 ≤ unit && unit ≤ 0x5A || unit == 0x5F

def isEnvVarName : JsString → Bool
  | [] => false
  | first :: rest =>
    isNameStart first && rest.all fun unit => isNameStart unit || 0x30 ≤ unit && unit ≤ 0x39

/-- The text in front of the next closing brace, if that is the name of a variable. -/
def nameBeforeBrace (text : JsString) : Option JsString :=
  let name := text.takeWhile (· != 0x7D)
  if name.length < text.length && isEnvVarName name then some name else none

inductive EnvToken where
  | escaped (name : JsString)
  | substitution (name : JsString)

def parseEnvTokenAt : JsString → Option EnvToken
  | [] => none
  | unit :: rest =>
    if unit ≠ 0x24 then none
    else if (js "$\x7b").isPrefixOf rest then (nameBeforeBrace (rest.drop 2)).map .escaped
    else if rest.head? = some 0x7B then (nameBeforeBrace (rest.drop 1)).map .substitution
    else none

/-- `env[name]`, unless it is missing or empty. -/
def readEnv (env : ProcessEnv) (name : JsString) : Option JsString :=
  (env name).filter (· ≠ [])

def placeholder (name : JsString) : JsString := js "$\x7b" ++ name ++ js "\x7d"

/-- The loop of `substituteString`; a missing variable throws. -/
def substituteFrom (env : ProcessEnv) : ℕ → JsString → Option JsString
  | _, [] => some []
  | skip + 1, _ :: rest => substituteFrom env skip rest
  | 0, unit :: rest =>
    match parseEnvTokenAt (unit :: rest) with
    | some (.escaped name) => do
      return placeholder name ++ (← substituteFrom env (name.length + 3) rest)
    | some (.substitution name) => do
      let value ← readEnv env name
      return value ++ (← substituteFrom env (name.length + 2) rest)
    | none => do return unit :: (← substituteFrom env 0 rest)

def substituteString (env : ProcessEnv) (value : JsString) : Option JsString :=
  if 0x24 ∈ value then substituteFrom env 0 value else some value

/-- The loop of `tryResolveString`, which gives up at a missing variable. -/
def tryResolveFrom (env : ProcessEnv) : ℕ → JsString → Option JsString
  | _, [] => some []
  | skip + 1, _ :: rest => tryResolveFrom env skip rest
  | 0, unit :: rest =>
    match if unit = 0x24 ∧ (js "$\x7b").isPrefixOf rest then nameBeforeBrace (rest.drop 2)
      else none with
    | some name => do
      return placeholder name ++ (← tryResolveFrom env (name.length + 3) rest)
    | none =>
      match if unit = 0x24 ∧ rest.head? = some 0x7B then nameBeforeBrace (rest.drop 1)
        else none with
      | some name => do
        let value ← readEnv env name
        return value ++ (← tryResolveFrom env (name.length + 2) rest)
      | none => do return unit :: (← tryResolveFrom env 0 rest)

def tryResolveString (env : ProcessEnv) (template : JsString) : Option JsString :=
  tryResolveFrom env 0 template

/-- `ENV_VAR_PATTERN.test(value)` -/
def hasEnvVarRef : JsString → Bool
  | [] => false
  | unit :: rest =>
    (js "$\x7b").isPrefixOf (unit :: rest) && (nameBeforeBrace (rest.drop 1)).isSome ||
      hasEnvVarRef rest

/-- `result[key] = value` on a new object, where `__proto__` makes no entry. -/
def assign (key : JsString) (value : JsValue) (rest : List (JsString × JsValue)) :
    List (JsString × JsValue) :=
  if key = js "__proto__" then rest else (key, value) :: rest

mutual

def resolveConfigEnvVars (env : ProcessEnv) : JsValue → Option JsValue
  | .string text => (substituteString env text).map .string
  | .array items => (resolveItems env items).map .array
  | .object entries => (resolveEntries env entries).map .object
  | value => some value

def resolveItems (env : ProcessEnv) : List JsValue → Option (List JsValue)
  | [] => some []
  | item :: rest => do return (← resolveConfigEnvVars env item) :: (← resolveItems env rest)

def resolveEntries (env : ProcessEnv) :
    List (JsString × JsValue) → Option (List (JsString × JsValue))
  | [] => some []
  | (key, value) :: rest => do
    return assign key (← resolveConfigEnvVars env value) (← resolveEntries env rest)

end

mutual

def restoreEnvVarRefs (env : ProcessEnv) : JsValue → JsValue → JsValue
  | .string text, .string template =>
    if hasEnvVarRef template ∧ tryResolveString env template = some text then .string template
    else .string text
  | .array items, .array parsed => .array (restoreItems env items parsed)
  | .object entries, .object parsed => .object (restoreEntries env entries parsed)
  | incoming, _ => incoming

def restoreItems (env : ProcessEnv) : List JsValue → List JsValue → List JsValue
  | item :: rest, parsed :: others =>
    restoreEnvVarRefs env item parsed :: restoreItems env rest others
  | items, _ => items

def restoreEntries (env : ProcessEnv) :
    List (JsString × JsValue) → List (JsString × JsValue) → List (JsString × JsValue)
  | [], _ => []
  | (key, value) :: rest, parsed =>
    let restored := if hasKey key parsed then restoreEnvVarRefs env value (readKey key parsed)
      else value
    assign key restored (restoreEntries env rest parsed)

end

variable {env : ProcessEnv}

theorem tryResolveFrom_eq (env : ProcessEnv) (text : JsString) (skip : ℕ) :
    tryResolveFrom env skip text = substituteFrom env skip text := by
  induction text generalizing skip with
  | nil => simp [tryResolveFrom, substituteFrom]
  | cons unit rest ih =>
    cases skip with
    | succ skip => exact ih skip
    | zero =>
      rw [tryResolveFrom, substituteFrom, parseEnvTokenAt]
      simp only [ih]
      by_cases hunit : unit = 0x24
      · by_cases hescape : (js "$\x7b").isPrefixOf rest = true
        · have hhead : rest.head? = some 0x24 := by
            obtain ⟨more, rfl⟩ := List.isPrefixOf_iff_prefix.mp hescape
            rfl
          cases nameBeforeBrace (rest.drop 2) <;> simp [hunit, hescape, hhead]
        · by_cases hhead : rest.head? = some 0x7B
          · cases hname : nameBeforeBrace (rest.drop 1) <;> simp_all
          · simp [hunit, hescape, hhead]
      · simp [hunit]

theorem substituteFrom_of_plain {text : JsString} (hplain : hasEnvVarRef text = false) :
    substituteFrom env 0 text = some text := by
  induction text with
  | nil => simp [substituteFrom]
  | cons unit rest ih =>
    have hopen : js "$\x7b" = [0x24, 0x7B] := by decide
    rw [hasEnvVarRef, Bool.or_eq_false_iff] at hplain
    have hnone : parseEnvTokenAt (unit :: rest) = none := by
      rw [parseEnvTokenAt]
      split_ifs with hunit hescape hhead
      · rfl
      · obtain ⟨more, rfl⟩ := List.isPrefixOf_iff_prefix.mp hescape
        have hbelow := hplain.2
        simp_all [hasEnvVarRef]
      · obtain ⟨more, rfl⟩ := List.head?_eq_some_iff.mp hhead
        simp_all
      · rfl
    rw [substituteFrom, hnone, ih hplain.2]
    rfl

theorem hasEnvVarRef_of_no_dollar {text : JsString} (hdollar : 0x24 ∉ text) :
    hasEnvVarRef text = false := by
  have hopen : js "$\x7b" = [0x24, 0x7B] := by decide
  induction text with
  | nil => rfl
  | cons unit rest ih =>
    rw [List.mem_cons, not_or] at hdollar
    rw [hasEnvVarRef, hopen, ih hdollar.2]
    simp [hdollar.1]

theorem substituteString_eq (env : ProcessEnv) (value : JsString) :
    substituteString env value = substituteFrom env 0 value := by
  rw [substituteString]
  split_ifs with hdollar
  · rfl
  · rw [substituteFrom_of_plain (hasEnvVarRef_of_no_dollar hdollar)]

/-- The variables that the loop of `substituteString` reads. -/
def referencedFrom : ℕ → JsString → List JsString
  | _, [] => []
  | skip + 1, _ :: rest => referencedFrom skip rest
  | 0, unit :: rest =>
    match parseEnvTokenAt (unit :: rest) with
    | some (.escaped name) => referencedFrom (name.length + 3) rest
    | some (.substitution name) => name :: referencedFrom (name.length + 2) rest
    | none => referencedFrom 0 rest

theorem substituteFrom_total (text : JsString) (skip : ℕ)
    (hset : ∀ name ∈ referencedFrom skip text, (readEnv env name).isSome) :
    ∃ resolved, substituteFrom env skip text = some resolved := by
  induction text generalizing skip with
  | nil => exact ⟨[], by simp [substituteFrom]⟩
  | cons unit rest ih =>
    cases skip with
    | succ skip => exact ih skip hset
    | zero =>
      rw [referencedFrom] at hset
      rw [substituteFrom]
      cases htoken : parseEnvTokenAt (unit :: rest) with
      | none =>
        simp only [htoken] at hset
        obtain ⟨resolved, hresolved⟩ := ih _ hset
        simp [hresolved]
      | some token =>
        cases token with
        | escaped name =>
          simp only [htoken] at hset
          obtain ⟨resolved, hresolved⟩ := ih _ hset
          simp [hresolved]
        | substitution name =>
          simp only [htoken, List.forall_mem_cons] at hset
          obtain ⟨resolved, hresolved⟩ := ih _ hset.2
          obtain ⟨value, hvalue⟩ := Option.isSome_iff_exists.mp hset.1
          simp [hresolved, hvalue]

/-- A value with such strings only, whose objects have distinct keys other than `__proto__`. -/
inductive Holds (strings : JsString → Prop) : JsValue → Prop
  | string {text : JsString} (htext : strings text) : Holds strings (.string text)
  | array {items : List JsValue} (hitems : ∀ item ∈ items, Holds strings item) :
    Holds strings (.array items)
  | object {entries : List (JsString × JsValue)} (hnodup : (keys entries).Nodup)
      (hproto : js "__proto__" ∉ keys entries)
      (hmembers : ∀ entry ∈ entries, Holds strings entry.2) : Holds strings (.object entries)
  | undefined : Holds strings .undefined
  | null : Holds strings .null
  | bool (value : Bool) : Holds strings (.bool value)
  | number (value : JsNumber) : Holds strings (.number value)
  | function : Holds strings .function

variable {value : JsValue}

theorem assign_of_ne {key : JsString} (hkey : key ≠ js "__proto__")
    (rest : List (JsString × JsValue)) : assign key value rest = (key, value) :: rest :=
  if_neg hkey

theorem resolve_of_restored (hvalue : ∀ parsed,
      resolveConfigEnvVars env (restoreEnvVarRefs env value parsed) = some value) :
    resolveConfigEnvVars env value = some value := by
  have hnull : restoreEnvVarRefs env value .null = value := by cases value <;> rfl
  rw [← hnull, hvalue .null, hnull]

theorem resolve_restoreItems {items : List JsValue}
    (hitems : ∀ item ∈ items, ∀ parsed,
      resolveConfigEnvVars env (restoreEnvVarRefs env item parsed) = some item)
    (parsed : List JsValue) : resolveItems env (restoreItems env items parsed) = some items ∧
      resolveItems env items = some items := by
  induction items generalizing parsed with
  | nil => exact ⟨rfl, rfl⟩
  | cons item rest ih =>
    obtain ⟨hitem, hrest⟩ := List.forall_mem_cons.mp hitems
    have hbelow := ih hrest
    cases parsed with
    | nil => simp [restoreItems, resolveItems, resolve_of_restored hitem, hbelow []]
    | cons first others =>
      simp [restoreItems, resolveItems, hitem, resolve_of_restored hitem, hbelow others]

theorem resolve_restoreEntries {entries : List (JsString × JsValue)}
    (hproto : js "__proto__" ∉ keys entries) (hmembers : ∀ entry ∈ entries, ∀ parsed,
      resolveConfigEnvVars env (restoreEnvVarRefs env entry.2 parsed) = some entry.2)
    (parsed : List (JsString × JsValue)) :
    resolveEntries env (restoreEntries env entries parsed) = some entries ∧
      resolveEntries env entries = some entries := by
  induction entries with
  | nil => exact ⟨rfl, rfl⟩
  | cons entry rest ih =>
    obtain ⟨hmember, hrest⟩ := List.forall_mem_cons.mp hmembers
    rw [keys, List.map_cons, List.mem_cons, not_or] at hproto
    obtain ⟨hrestored, hbelow⟩ := ih hproto.2 hrest
    have hkey := fun value => @assign_of_ne value _ (Ne.symm hproto.1)
    rw [restoreEntries, hkey, resolveEntries, resolveEntries, hrestored, hbelow,
      resolve_of_restored hmember]
    split_ifs <;> simp [hkey, hmember, resolve_of_restored hmember]

theorem resolve_restore (hplain : Holds (hasEnvVarRef · = false) value) (parsed : JsValue) :
    resolveConfigEnvVars env (restoreEnvVarRefs env value parsed) = some value := by
  induction hplain generalizing parsed with
  | @string text htext =>
    have hresolve : resolveConfigEnvVars env (.string text) = some (.string text) := by
      rw [resolveConfigEnvVars, substituteString_eq, substituteFrom_of_plain htext]
      rfl
    cases parsed with
    | string template =>
      rw [restoreEnvVarRefs]
      split_ifs with hrestored
      · rw [resolveConfigEnvVars, substituteString_eq, ← tryResolveFrom_eq]
        exact congrArg _ hrestored.2
      · exact hresolve
    | _ => exact hresolve
  | array _ ih =>
    have hitems := resolve_restoreItems ih
    cases parsed with
    | array others => simp [restoreEnvVarRefs, resolveConfigEnvVars, (hitems others).1]
    | _ => simp [restoreEnvVarRefs, resolveConfigEnvVars, (hitems []).2]
  | object _ hproto _ ih =>
    have hentries := resolve_restoreEntries hproto ih
    cases parsed with
    | object others => simp [restoreEnvVarRefs, resolveConfigEnvVars, (hentries others).1]
    | _ => simp [restoreEnvVarRefs, resolveConfigEnvVars, (hentries []).2]
  | _ => cases parsed <;> rfl

theorem restore_resolve (hset : Holds (fun text => ∀ name ∈ referencedFrom 0 text,
      (readEnv env name).isSome) value) : ∃ resolved,
      resolveConfigEnvVars env value = some resolved ∧
        restoreEnvVarRefs env resolved value = value := by
  induction hset with
  | @string text htext =>
    obtain ⟨resolved, hresolved⟩ := substituteFrom_total text 0 htext
    refine ⟨.string resolved, by rw [resolveConfigEnvVars, substituteString_eq, hresolved]; rfl, ?_⟩
    rw [restoreEnvVarRefs, tryResolveString, tryResolveFrom_eq, hresolved]
    split_ifs with href
    · rfl
    · rw [substituteFrom_of_plain (by simpa using href)] at hresolved
      rw [Option.some.inj hresolved]
  | @array items hset ih =>
    have hitems : ∃ resolved, resolveItems env items = some resolved ∧
        restoreItems env resolved items = items := by
      clear hset
      induction items with
      | nil => exact ⟨[], rfl, rfl⟩
      | cons item rest hrest =>
        obtain ⟨⟨first, hfirst, hitem⟩, hbelow⟩ := List.forall_mem_cons.mp ih
        obtain ⟨resolved, hresolved, hrestored⟩ := hrest hbelow
        exact ⟨first :: resolved, by simp [resolveItems, hfirst, hresolved],
          by simp [restoreItems, hitem, hrestored]⟩
    obtain ⟨resolved, hresolved, hrestored⟩ := hitems
    exact ⟨.array resolved, by simp [resolveConfigEnvVars, hresolved], congrArg _ hrestored⟩
  | @object entries hnodup hproto _ ih =>
    have hentries : ∃ resolved, resolveEntries env entries = some resolved ∧
        restoreEntries env resolved entries = entries := by
      suffices hfront : ∀ front, front ⊆ entries → ∃ resolved,
          resolveEntries env front = some resolved ∧ restoreEntries env resolved entries = front from
        hfront entries (List.Subset.refl _)
      intro front hsub
      induction front with
      | nil => exact ⟨[], rfl, rfl⟩
      | cons entry rest hrest =>
        obtain ⟨hmem, hbelow⟩ := List.cons_subset.mp hsub
        obtain ⟨first, hfirst, hmember⟩ := ih entry hmem
        obtain ⟨resolved, hresolved, hrestored⟩ := hrest hbelow
        have hlookup := lookup_of_mem hnodup hmem
        have hkey := fun value => @assign_of_ne value entry.1 fun hsame =>
          hproto (hsame ▸ List.mem_map_of_mem hmem)
        refine ⟨(entry.1, first) :: resolved, by simp [resolveEntries, hfirst, hresolved, hkey], ?_⟩
        rw [restoreEntries, hkey, hasKey, hlookup, readKey_of_lookup hlookup, hrestored]
        simp [hmember]
    obtain ⟨resolved, hresolved, hrestored⟩ := hentries
    exact ⟨.object resolved, by simp [resolveConfigEnvVars, hresolved], congrArg _ hrestored⟩
  | _ => exact ⟨_, rfl, rfl⟩

/-- A config whose variables are set comes back from its resolution, and an edit
without references is what its restored form resolves to. -/
theorem envVarRefs_exact (env : ProcessEnv) :
    (∀ config, Holds (fun text => ∀ name ∈ referencedFrom 0 text, (readEnv env name).isSome) config →
      ∃ resolved, resolveConfigEnvVars env config = some resolved ∧
        restoreEnvVarRefs env resolved config = config) ∧
    ∀ edited config, Holds (hasEnvVarRef · = false) edited →
      resolveConfigEnvVars env (restoreEnvVarRefs env edited config) = some edited :=
  ⟨fun _ => restore_resolve, fun _ config hplain => resolve_restore hplain config⟩

theorem envVarRefs_exact_of_home :
    let env : ProcessEnv := fun name => if name = js "HOME" then some (js "/root") else none
    let config : JsValue := .object [(js "path", .string (js "$\x7bHOME\x7d/a$$\x7bB\x7d"))]
    ∃ resolved, resolveConfigEnvVars env config = some resolved ∧
      restoreEnvVarRefs env resolved config = config := by
  apply (envVarRefs_exact _).1
  exact .object (by decide) (by decide) (by simpa using .string (by decide))

theorem proto_member_is_lost :
    let config : JsValue := .object [(js "__proto__", .bool true)]
    resolveConfigEnvVars (fun _ => none) config = some (.object []) ∧
      restoreEnvVarRefs (fun _ => none) (.object []) config ≠ config := by
  refine ⟨rfl, ?_⟩
  simp [restoreEnvVarRefs, restoreEntries]

end LittleBaby.Config
