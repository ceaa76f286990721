import Mathlib.Data.List.Nodup
import Mathlib.Data.List.Perm.Subperm

/-!
# The own entries of an object

The entries of an object, in the order of their insertion, as a list of pairs
that is read by `List.lookup`. A key occurs at most once in the entries of an
object.
-/

namespace Entries

abbrev keys {Key Value : Type*} (entries : List (Key × Value)) : List Key := entries.map Prod.fst

theorem mem_keys_of_length_eq {Key Value : Type*} {entries others : List (Key × Value)} {key : Key}
    (hnodup : (keys entries).Nodup) (hlength : entries.length = others.length)
    (hsub : keys entries ⊆ keys others) (hkey : key ∈ keys others) :
    key ∈ keys entries := by
  have hperm : (keys entries).Perm (keys others) := by
    apply (hnodup.subperm hsub).perm_of_length_le
    simp [keys, hlength]
  exact hperm.mem_iff.mpr hkey

variable {Key Value : Type*} [BEq Key]

/-- `object[key] = value`: a present key keeps its place. -/
def set (key : Key) (value : Value) : List (Key × Value) → List (Key × Value)
  | [] => [(key, value)]
  | (other, old) :: rest =>
    if key == other then (other, value) :: rest
    else (other, old) :: set key value rest

/-- `delete object[key]`. -/
def erase (key : Key) (entries : List (Key × Value)) : List (Key × Value) :=
  entries.filter fun entry => !(key == entry.1)

variable [LawfulBEq Key] {key other : Key} {value : Value} {entries : List (Key × Value)}

theorem mem_keys_iff : key ∈ keys entries ↔ ∃ value, entries.lookup key = some value := by
  rw [← Option.isSome_iff_exists, List.lookup_isSome_iff]
  simp [keys]

theorem lookup_eq_none : entries.lookup key = none ↔ key ∉ keys entries := by
  rw [mem_keys_iff, not_exists, Option.eq_none_iff_forall_ne_some]

theorem mem_of_lookup (hlookup : entries.lookup key = some value) : (key, value) ∈ entries := by
  obtain ⟨before, after, rfl, -⟩ := List.lookup_eq_some_iff.mp hlookup
  exact List.mem_append_right before List.mem_cons_self

theorem lookup_of_mem (hnodup : (keys entries).Nodup)
    (hmem : (key, value) ∈ entries) : entries.lookup key = some value := by
  obtain ⟨before, after, rfl⟩ := List.append_of_mem hmem
  apply List.lookup_eq_some_iff.mpr
  refine ⟨before, after, rfl, fun entry hentry => ?_⟩
  have hdisjoint : key ∉ keys before := by
    intro hkey
    simp only [keys, List.map_append, List.map_cons] at hnodup
    exact List.disjoint_of_nodup_append hnodup hkey List.mem_cons_self
  have hne : key ≠ entry.1 := fun heq =>
    hdisjoint (heq ▸ List.mem_map_of_mem hentry)
  simpa using hne

@[simp] theorem lookup_set_self : (set key value entries).lookup key = some value := by
  induction entries with
  | nil => simp [set]
  | cons entry rest ih =>
    obtain ⟨first, old⟩ := entry
    by_cases hfirst : key = first
    · simp [set, hfirst]
    · have hne : (key == first) = false := by simpa using hfirst
      simp only [set, hne, Bool.false_eq_true, if_false]
      rw [List.lookup_cons, hne]
      exact ih

theorem lookup_set_of_ne (hne : other ≠ key) :
    (set key value entries).lookup other = entries.lookup other := by
  induction entries with
  | nil => simp [set, hne]
  | cons entry rest ih =>
    obtain ⟨first, old⟩ := entry
    by_cases hfirst : key = first
    · subst hfirst
      have hother : (other == key) = false := by simpa using hne
      simp [set, List.lookup_cons, hother]
    · have hkey : (key == first) = false := by simpa using hfirst
      simp only [set, hkey, Bool.false_eq_true, if_false]
      rw [List.lookup_cons, List.lookup_cons, ih]

omit [LawfulBEq Key] in
theorem set_of_lookup_eq_none (hlookup : entries.lookup key = none) :
    set key value entries = entries ++ [(key, value)] := by
  induction entries with
  | nil => rfl
  | cons entry rest ih =>
    obtain ⟨first, old⟩ := entry
    rw [List.lookup_cons] at hlookup
    split at hlookup
    · simp at hlookup
    · rename_i hne
      simp [set, hne, ih hlookup]

theorem set_set {old : Value} : set key value (set key old entries) = set key value entries := by
  induction entries with
  | nil => simp [set]
  | cons entry rest ih =>
    obtain ⟨first, present⟩ := entry
    by_cases hfirst : key = first
    · simp [set, hfirst]
    · simp [set, hfirst, ih]

theorem set_eq_self (hlookup : entries.lookup key = some value) :
    set key value entries = entries := by
  induction entries with
  | nil => simp at hlookup
  | cons entry rest ih =>
    obtain ⟨first, present⟩ := entry
    by_cases hfirst : key = first
    · subst hfirst
      simp only [List.lookup_cons, beq_self_eq_true, Option.some.injEq] at hlookup
      simp [set, hlookup]
    · have hne : (key == first) = false := by simpa using hfirst
      rw [List.lookup_cons, hne] at hlookup
      simp [set, hne, ih hlookup]

@[simp] theorem lookup_erase_self : (erase key entries).lookup key = none := by
  rw [lookup_eq_none]
  simp [keys, erase]

theorem lookup_erase_of_ne (hne : other ≠ key) :
    (erase key entries).lookup other = entries.lookup other := by
  induction entries with
  | nil => rfl
  | cons entry rest ih =>
    obtain ⟨first, old⟩ := entry
    by_cases hfirst : key = first
    · subst hfirst
      have hkept : erase key ((key, old) :: rest) = erase key rest := by
        simp [erase]
      have hother : (other == key) = false := by simpa using hne
      rw [hkept, ih, List.lookup_cons, hother]
    · have hkept : erase key ((first, old) :: rest) = (first, old) :: erase key rest := by
        simp [erase, hfirst]
      rw [hkept, List.lookup_cons, List.lookup_cons, ih]

theorem keys_set_of_lookup {old : Value} (hlookup : entries.lookup key = some old) :
    keys (set key value entries) = keys entries := by
  induction entries with
  | nil => simp at hlookup
  | cons entry rest ih =>
    obtain ⟨first, present⟩ := entry
    by_cases hfirst : key = first
    · simp [set, keys, hfirst]
    · have hne : (key == first) = false := by simpa using hfirst
      rw [List.lookup_cons, hne] at hlookup
      simp only [set, hne, Bool.false_eq_true, if_false, keys,
        List.map_cons, List.cons.injEq, true_and]
      exact ih hlookup

theorem mem_keys_set : other ∈ keys (set key value entries) ↔
    other = key ∨ other ∈ keys entries := by
  by_cases hsame : other = key
  · subst hsame
    simp only [true_or, iff_true, mem_keys_iff]
    exact ⟨value, lookup_set_self⟩
  · rw [mem_keys_iff, lookup_set_of_ne hsame, ← mem_keys_iff]
    simp [hsame]

theorem nodup_keys_set (hnodup : (keys entries).Nodup) : (keys (set key value entries)).Nodup := by
  cases hlookup : entries.lookup key with
  | some old =>
    rw [keys_set_of_lookup hlookup]
    exact hnodup
  | none =>
    have habsent := lookup_eq_none.mp hlookup
    rw [set_of_lookup_eq_none hlookup, keys, List.map_append, List.nodup_append]
    refine ⟨hnodup, by simp, ?_⟩
    intro first hfirst second hsecond heq
    simp only [List.map_cons, List.map_nil, List.mem_singleton] at hsecond
    exact habsent (hsecond ▸ heq ▸ hfirst)

omit [LawfulBEq Key] in
theorem nodup_keys_erase (hnodup : (keys entries).Nodup) : (keys (erase key entries)).Nodup :=
  List.Nodup.sublist (List.filter_sublist.map Prod.fst) hnodup

omit [LawfulBEq Key] in
theorem mem_keys_of_mem_erase (hmem : other ∈ keys (erase key entries)) : other ∈ keys entries := by
  obtain ⟨entry, hentry, rfl⟩ := List.mem_map.mp hmem
  exact List.mem_map_of_mem (List.mem_of_mem_filter hentry)

end Entries
