import LittleBaby.JsValue

/-!
# Merge patches

`applyMergePatch` as the config writer calls it, without options: entries of
the patch are written over those of the base, `null` deletes, and objects are
merged recursively.
-/

namespace LittleBaby.Config

open JsString JsValue Entries

def blockedObjectKeys : List JsString := [js "__proto__", js "prototype", js "constructor"]

def isBlockedObjectKey (key : JsString) : Bool := decide (key ∈ blockedObjectKeys)

/-- `{ ...base }` for a plain object, and `{}` for anything else. -/
def spread : JsValue → List (JsString × JsValue)
  | .object entries => entries
  | _ => []

def isNull : JsValue → Bool
  | .null => true
  | _ => false

mutual

def applyMergePatch : JsValue → JsValue → JsValue
  | base, .object patch => .object (applyEntries (spread base) patch)
  | _, patch => patch

def applyEntries (result : List (JsString × JsValue)) :
    List (JsString × JsValue) → List (JsString × JsValue)
  | [] => result
  | (key, value) :: rest =>
    if isBlockedObjectKey key then applyEntries result rest
    else if isNull value then applyEntries (erase key result) rest
    else if value.isRecord then
      let baseValue := readKey key result
      let base := if baseValue.isRecord then baseValue else .object []
      applyEntries (set key (applyMergePatch base value) result) rest
    else applyEntries (set key value result) rest

end

def patched (old value : JsValue) : Option JsValue :=
  if isNull value then none
  else if value.isRecord then
    some (applyMergePatch (if old.isRecord then old else .object []) value)
  else some value

variable {key : JsString} {result patch : List (JsString × JsValue)}

@[simp] theorem applyEntries_nil : applyEntries result [] = result := by
  rw [applyEntries]

theorem applyEntries_cons (value : JsValue) (rest : List (JsString × JsValue)) :
    applyEntries result ((key, value) :: rest) =
      if isBlockedObjectKey key then applyEntries result rest
      else
        match patched (readKey key result) value with
        | none => applyEntries (erase key result) rest
        | some merged => applyEntries (set key merged result) rest := by
  rw [applyEntries, patched]
  by_cases hblocked : isBlockedObjectKey key = true
  · simp [hblocked]
  · by_cases hnull : isNull value = true
    · simp [hblocked, hnull]
    · by_cases hrecord : value.isRecord = true
      · simp [hblocked, hnull, hrecord]
      · simp [hblocked, hnull, hrecord]

theorem readKey_congr {entries others : List (JsString × JsValue)}
    (hlookup : entries.lookup key = others.lookup key) :
    readKey key entries = readKey key others := by
  simp [readKey, hlookup]

theorem lookup_applyEntries_of_not_mem (hkey : key ∉ keys patch) :
    (applyEntries result patch).lookup key = result.lookup key := by
  induction patch generalizing result with
  | nil => simp
  | cons entry rest ih =>
    obtain ⟨other, value⟩ := entry
    simp only [keys, List.map_cons, List.mem_cons, not_or] at hkey
    obtain ⟨hne, hrest⟩ := hkey
    rw [applyEntries_cons]
    split_ifs with hblocked
    · exact ih hrest
    · cases patched (readKey other result) value with
      | none =>
        simp only
        rw [ih hrest]
        exact lookup_erase_of_ne hne
      | some merged =>
        simp only
        rw [ih hrest]
        exact lookup_set_of_ne hne

theorem lookup_applyEntries (hnodup : (keys patch).Nodup)
    (hblocked : isBlockedObjectKey key = false) :
    (applyEntries result patch).lookup key = match patch.lookup key with
      | none => result.lookup key
      | some value => patched (readKey key result) value := by
  induction patch generalizing result with
  | nil => simp
  | cons entry rest ih =>
    obtain ⟨other, value⟩ := entry
    obtain ⟨hother, hrest⟩ := List.nodup_cons.mp hnodup
    rw [applyEntries_cons]
    by_cases hkey : key = other
    · subst hkey
      simp only [hblocked, Bool.false_eq_true, if_false, List.lookup_cons_self]
      cases hpatched : patched (readKey key result) value with
      | none =>
        simp only
        rw [lookup_applyEntries_of_not_mem hother, lookup_erase_self]
      | some merged =>
        simp only
        rw [lookup_applyEntries_of_not_mem hother, lookup_set_self]
    · have hne : (key == other) = false := by simpa using hkey
      have hcons : ((other, value) :: rest).lookup key = rest.lookup key := by
        rw [List.lookup_cons, hne]
      rw [hcons]
      have hstep : ∀ next : List (JsString × JsValue), next.lookup key = result.lookup key →
            (applyEntries next rest).lookup key = match rest.lookup key with
              | none => result.lookup key
              | some value => patched (readKey key result) value := by
        intro next hnext
        rw [ih hrest, hnext, readKey_congr hnext]
      split_ifs with hother'
      · exact hstep result rfl
      · cases patched (readKey other result) value with
        | none => exact hstep _ (lookup_erase_of_ne hkey)
        | some merged => exact hstep _ (lookup_set_of_ne hkey)

end LittleBaby.Config
