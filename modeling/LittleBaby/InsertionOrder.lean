import Mathlib.Data.List.Nodup
import Mathlib.Data.List.TakeDrop
import Mathlib.Logic.Function.Basic

/-!
# Insertion-ordered maps and sets

A `Map` or `Set` keeps its keys in the order of their first insertion.  A map is
its list of keys with a table that is defined exactly on them, so that a key
without a value, or one listed twice, cannot be built.
-/

structure InsertionMap (Key Value : Type*) where
  keys : List Key
  get? : Key → Option Value
  nodup : keys.Nodup
  mem_keys : ∀ key, key ∈ keys ↔ (get? key).isSome

namespace InsertionMap

variable {Key Value Other : Type*}

def empty : InsertionMap Key Value where
  keys := []
  get? := fun _ => none
  nodup := List.nodup_nil
  mem_keys := by simp

def has (map : InsertionMap Key Value) (key : Key) : Bool := (map.get? key).isSome

/-- `Object.values(record)`. -/
def values (map : InsertionMap Key Value) : List Value := map.keys.filterMap map.get?

def mapValues (map : InsertionMap Key Value) (change : Value → Other) : InsertionMap Key Other where
  keys := map.keys
  get? := fun key => (map.get? key).map change
  nodup := map.nodup
  mem_keys := by
    intro key
    simp [map.mem_keys key]

def filter (map : InsertionMap Key Value) (keep : Key → Value → Bool) : InsertionMap Key Value where
  keys := map.keys.filter fun key => (map.get? key).any (keep key)
  get? := fun key => (map.get? key).filter (keep key)
  nodup := map.nodup.filter _
  mem_keys := by
    intro key
    have hmem := map.mem_keys key
    cases hget : map.get? key with
    | none => simp [hget]
    | some value => simp [hmem, hget, Option.isSome_filter]

@[simp] theorem keys_empty : (empty : InsertionMap Key Value).keys = [] := rfl

@[simp] theorem get?_empty (key : Key) : (empty : InsertionMap Key Value).get? key = none := rfl

@[simp] theorem get?_mapValues (map : InsertionMap Key Value) (change : Value → Other) (key : Key) :
    (map.mapValues change).get? key = (map.get? key).map change := rfl

@[simp] theorem get?_filter (map : InsertionMap Key Value) (keep : Key → Value → Bool) (key : Key) :
    (map.filter keep).get? key = (map.get? key).filter (keep key) := rfl

theorem mem_keys_of_get? {map : InsertionMap Key Value} {key : Key}
    {value : Value} (hget : map.get? key = some value) : key ∈ map.keys := by
  simp [map.mem_keys, hget]

theorem get?_eq_none_iff {map : InsertionMap Key Value} {key : Key} :
    map.get? key = none ↔ key ∉ map.keys := by
  simp [map.mem_keys]

theorem mem_values {map : InsertionMap Key Value} {value : Value} :
    value ∈ map.values ↔ ∃ key, map.get? key = some value := by
  simp only [values, List.mem_filterMap]
  constructor
  · rintro ⟨key, -, hget⟩
    exact ⟨key, hget⟩
  · rintro ⟨key, hget⟩
    exact ⟨key, mem_keys_of_get? hget, hget⟩

variable [DecidableEq Key]

/-- `map.set(key, value)`. -/
def set (map : InsertionMap Key Value) (key : Key) (value : Value) : InsertionMap Key Value where
  keys := if key ∈ map.keys then map.keys else map.keys ++ [key]
  get? := Function.update map.get? key (some value)
  nodup := by
    split_ifs with hkey
    · exact map.nodup
    · exact List.Nodup.append map.nodup (List.nodup_singleton key) (by simpa using hkey)
  mem_keys := by
    intro other
    by_cases heq : other = key
    · subst other
      split_ifs with hkey <;> simp [hkey]
    · have hmem := map.mem_keys other
      split_ifs <;> simp [Function.update, heq, hmem]

/-- `map.delete(key)`. -/
def delete (map : InsertionMap Key Value) (key : Key) : InsertionMap Key Value where
  keys := map.keys.filter fun other => decide (other ≠ key)
  get? := Function.update map.get? key none
  nodup := map.nodup.filter _
  mem_keys := by
    intro other
    by_cases heq : other = key
    · subst other
      simp
    · simp [Function.update, heq, map.mem_keys other]

section

variable (map : InsertionMap Key Value)

include map

theorem get?_set (key other : Key) (value : Value) : (map.set key value).get? other =
      if other = key then some value else map.get? other := by
  simp [set, Function.update_apply]

@[simp] theorem get?_set_self (key : Key)
    (value : Value) : (map.set key value).get? key = some value := by
  simp [get?_set]

@[simp] theorem get?_set_of_ne {key other : Key} (value : Value) (hne : other ≠ key) :
    (map.set key value).get? other = map.get? other := by
  simp [get?_set, hne]

theorem get?_delete (key other : Key) : (map.delete key).get? other =
      if other = key then none else map.get? other := by
  simp [delete, Function.update_apply]

@[simp] theorem get?_delete_self (key : Key) : (map.delete key).get? key = none := by
  simp [get?_delete]

@[simp] theorem get?_delete_of_ne {key other : Key} (hne : other ≠ key) :
    (map.delete key).get? other = map.get? other := by
  simp [get?_delete, hne]

end

def setAll (build : Key → Option Value → Value) (map : InsertionMap Key Value)
    (keys : List Key) : InsertionMap Key Value :=
  keys.foldl (fun map key => map.set key (build key (map.get? key))) map

theorem get?_setAll (build : Key → Option Value → Value)
    (map : InsertionMap Key Value) {keys : List Key} (hnodup : keys.Nodup)
    (key : Key) :
    (map.setAll build keys).get? key =
      if key ∈ keys then some (build key (map.get? key)) else map.get? key := by
  induction keys generalizing map with
  | nil => simp [setAll]
  | cons first rest ih =>
    have hfirst : first ∉ rest := (List.nodup_cons.mp hnodup).1
    have hrest := ih (map.set first (build first (map.get? first))) (List.nodup_cons.mp hnodup).2
    simp only [setAll, List.foldl_cons] at hrest ⊢
    rw [hrest]
    by_cases heq : key = first
    · subst key
      simp [hfirst]
    · simp [heq]

end InsertionMap

/-- A set whose elements are listed in the order of their insertion. -/
structure InsertionSet (Element : Type*) where
  elements : List Element
  nodup : elements.Nodup

namespace InsertionSet

variable {Element : Type*}

def empty : InsertionSet Element := ⟨[], List.nodup_nil⟩

def filter (set : InsertionSet Element) (keep : Element → Bool) : InsertionSet Element where
  elements := set.elements.filter keep
  nodup := set.nodup.filter _

/-- The set of `Array.from(set).slice(-count)`, for a positive count. -/
def keepLast (set : InsertionSet Element) (count : ℕ) : InsertionSet Element where
  elements := set.elements.drop (set.elements.length - count)
  nodup := set.nodup.sublist (List.drop_sublist _ _)

@[simp] theorem elements_empty : (empty : InsertionSet Element).elements = [] := rfl

@[simp] theorem mem_filter {set : InsertionSet Element}
    {keep : Element → Bool} {element : Element} :
    element ∈ (set.filter keep).elements ↔ element ∈ set.elements ∧ keep element = true := by
  simp [filter]

theorem mem_of_mem_keepLast {set : InsertionSet Element} {count : ℕ}
    {element : Element} (hmem : element ∈ (set.keepLast count).elements) :
    element ∈ set.elements :=
  List.mem_of_mem_drop hmem

variable [DecidableEq Element]

def has (set : InsertionSet Element) (element : Element) : Bool := decide (element ∈ set.elements)

/-- `set.add(element)`: a present element keeps its place. -/
def add (set : InsertionSet Element) (element : Element) : InsertionSet Element where
  elements :=
    if element ∈ set.elements then set.elements else set.elements ++ [element]
  nodup := by
    split_ifs with hmem
    · exact set.nodup
    · exact List.Nodup.append set.nodup (List.nodup_singleton element) (by simpa using hmem)

/-- `set.delete(element)`. -/
def delete (set : InsertionSet Element) (element : Element) : InsertionSet Element where
  elements := set.elements.filter fun other => decide (other ≠ element)
  nodup := set.nodup.filter _

@[simp] theorem has_eq_true {set : InsertionSet Element} {element : Element} :
    set.has element = true ↔ element ∈ set.elements := by
  simp [has]

@[simp] theorem has_eq_false {set : InsertionSet Element} {element : Element} :
    set.has element = false ↔ element ∉ set.elements := by
  simp [has]

theorem elements_add_of_not_mem {set : InsertionSet Element}
    {element : Element} (hmem : element ∉ set.elements) :
    (set.add element).elements = set.elements ++ [element] := by
  simp [add, hmem]

theorem elements_add_of_mem {set : InsertionSet Element}
    {element : Element} (hmem : element ∈ set.elements) :
    (set.add element).elements = set.elements := by
  simp [add, hmem]

@[simp] theorem mem_add {set : InsertionSet Element} {element other : Element} :
    other ∈ (set.add element).elements ↔ other ∈ set.elements ∨ other = element := by
  by_cases hmem : element ∈ set.elements
  · rw [elements_add_of_mem hmem]
    constructor
    · exact .inl
    · rintro (hother | rfl)
      · exact hother
      · exact hmem
  · simp [elements_add_of_not_mem hmem]

@[simp] theorem mem_delete {set : InsertionSet Element} {element other : Element} :
    other ∈ (set.delete element).elements ↔ other ∈ set.elements ∧ other ≠ element := by
  simp [delete]

def insertedAfter (set : InsertionSet Element) (element : Element) : List Element :=
  set.elements.drop (set.elements.idxOf element + 1)

theorem mem_keepLast_iff {set : InsertionSet Element} {count : ℕ} {element : Element} :
    element ∈ (set.keepLast count).elements ↔
      element ∈ set.elements ∧ (set.insertedAfter element).length < count := by
  constructor
  · intro hmem
    refine ⟨mem_of_mem_keepLast hmem, ?_⟩
    obtain ⟨index, hindex, hget⟩ := List.mem_iff_getElem.mp hmem
    simp only [keepLast, List.length_drop, List.getElem_drop] at hindex hget
    have hidx : set.elements.idxOf element = set.elements.length - count + index := by
      rw [← hget, set.nodup.idxOf_getElem]
    simp [insertedAfter, hidx]
    omega
  · rintro ⟨hmem, hfew⟩
    have hlt : set.elements.idxOf element < set.elements.length := List.idxOf_lt_length_of_mem hmem
    simp only [insertedAfter, List.length_drop] at hfew
    refine List.mem_iff_getElem.mpr
      ⟨set.elements.idxOf element - (set.elements.length - count), ?_, ?_⟩
    · simp [keepLast]
      omega
    · simp [keepLast]
      have hsum : set.elements.length - count +
          (set.elements.idxOf element - (set.elements.length - count)) =
            set.elements.idxOf element := by omega
      simp [hsum]

end InsertionSet
