import LittleBaby.Entries
import Mathlib.Data.List.Induction

/-!
# Inverted indexes

The index of a table maps each key to the set of the identifiers whose record
has the key, and is kept up to date or rebuilt.  `Exact` says that nothing is
missing, nothing is stale and no set is empty.
-/

namespace InvertedIndex

open Entries

variable {Key Id Record : Type*} [BEq Key] [LawfulBEq Key] [BEq Id] [LawfulBEq Id]

def insertId (id : Id) (ids : List Id) : List Id :=
  if id ∈ ids then ids else ids ++ [id]

def add (index : List (Key × List Id)) (key : Key) (id : Id) : List (Key × List Id) :=
  set key (insertId id ((index.lookup key).getD [])) index

def remove (index : List (Key × List Id)) (key : Key) (id : Id) : List (Key × List Id) :=
  match index.lookup key with
  | none => index
  | some ids =>
    if ids.erase id = [] then erase key index
    else set key (ids.erase id) index

def addAll (index : List (Key × List Id)) (keys : List Key) (id : Id) : List (Key × List Id) :=
  keys.foldl (fun index key => add index key id) index

def removeAll (index : List (Key × List Id)) (keys : List Key) (id : Id) : List (Key × List Id) :=
  keys.foldl (fun index key => remove index key id) index

def rebuild (keysOf : Record → List Key) (table : List (Id × Record)) : List (Key × List Id) :=
  table.foldl (fun index entry => addAll index (keysOf entry.2) entry.1) []

def Holds (index : List (Key × List Id)) (key : Key) (id : Id) : Prop :=
  ∃ ids, index.lookup key = some ids ∧ id ∈ ids

def Tidy (index : List (Key × List Id)) : Prop :=
  ∀ key ids, index.lookup key = some ids → ids ≠ [] ∧ ids.Nodup

structure Sound (keysOf : Record → List Key) (table : List (Id × Record))
    (index : List (Key × List Id)) : Prop where
  tidy : Tidy index
  holds : ∀ key id, Holds index key id →
    ∃ record, table.lookup id = some record ∧ key ∈ keysOf record

structure Exact (keysOf : Record → List Key) (table : List (Id × Record))
    (index : List (Key × List Id)) : Prop where
  tidy : Tidy index
  holds : ∀ key id, Holds index key id ↔
    ∃ record, table.lookup id = some record ∧ key ∈ keysOf record

variable {index : List (Key × List Id)} {key other : Key} {id : Id}

variable {found : Id}

theorem mem_insertId {ids : List Id} : found ∈ insertId id ids ↔ found ∈ ids ∨ found = id := by
  unfold insertId
  split_ifs with hmem
  · constructor
    · exact .inl
    · rintro (hfound | rfl)
      · exact hfound
      · exact hmem
  · simp

theorem nodup_insertId {ids : List Id} (hnodup : ids.Nodup) : (insertId id ids).Nodup := by
  unfold insertId
  split_ifs with hmem
  · exact hnodup
  · rw [List.nodup_append]
    refine ⟨hnodup, List.nodup_singleton id, ?_⟩
    intro first hfirst second hsecond heq
    rw [List.mem_singleton] at hsecond
    exact hmem (hsecond ▸ heq ▸ hfirst)

omit [LawfulBEq Key] [BEq Id] [LawfulBEq Id] in
theorem tidy_nil : Tidy ([] : List (Key × List Id)) := by
  intro key ids hlookup
  simp at hlookup

theorem Tidy.add (htidy : Tidy index) (key : Key) (id : Id) : Tidy (add index key id) := by
  intro searched ids hlookup
  unfold InvertedIndex.add at hlookup
  by_cases hsame : searched = key
  · subst hsame
    rw [lookup_set_self, Option.some.injEq] at hlookup
    subst hlookup
    constructor
    · exact List.ne_nil_of_mem (mem_insertId.mpr (.inr rfl))
    · apply nodup_insertId
      cases hfound : index.lookup searched with
      | none => simp
      | some ids => exact (htidy searched ids hfound).2
  · rw [lookup_set_of_ne hsame] at hlookup
    exact htidy searched ids hlookup

theorem holds_add : Holds (add index key id) other found ↔
      Holds index other found ∨ (other = key ∧ found = id) := by
  unfold Holds add
  by_cases hsame : other = key
  · subst hsame
    rw [lookup_set_self]
    simp only [Option.some.injEq, exists_eq_left', mem_insertId, true_and]
    cases index.lookup other with
    | none => simp
    | some ids => simp
  · rw [lookup_set_of_ne hsame]
    simp [hsame]

theorem Tidy.remove (htidy : Tidy index) (key : Key) (id : Id) : Tidy (remove index key id) := by
  intro searched ids hlookup
  unfold InvertedIndex.remove at hlookup
  cases hfound : index.lookup key with
  | none =>
    rw [hfound] at hlookup
    exact htidy searched ids hlookup
  | some old =>
    simp only [hfound] at hlookup
    by_cases hsame : searched = key
    · subst hsame
      split_ifs at hlookup with hempty
      · simp at hlookup
      · rw [lookup_set_self, Option.some.injEq] at hlookup
        subst hlookup
        exact ⟨hempty, (htidy searched old hfound).2.erase id⟩
    · split_ifs at hlookup
      · rw [lookup_erase_of_ne hsame] at hlookup
        exact htidy searched ids hlookup
      · rw [lookup_set_of_ne hsame] at hlookup
        exact htidy searched ids hlookup

theorem holds_remove (htidy : Tidy index) : Holds (remove index key id) other found ↔
      Holds index other found ∧ ¬(other = key ∧ found = id) := by
  unfold remove
  cases hfound : index.lookup key with
  | none =>
    constructor
    · intro hholds
      refine ⟨hholds, ?_⟩
      rintro ⟨rfl, -⟩
      obtain ⟨ids, hlookup, -⟩ := hholds
      rw [hfound] at hlookup
      contradiction
    · exact And.left
  | some old =>
    have hnodup := (htidy key old hfound).2
    simp only
    by_cases hsame : other = key
    · subst hsame
      have hold : Holds index other found ↔ found ∈ old := by
        unfold Holds
        simp [hfound]
      have hnew : Holds (if old.erase id = [] then erase other index
          else set other (old.erase id) index) other found ↔ found ∈ old.erase id := by
        unfold Holds
        split_ifs with hempty
        · simp [hempty]
        · rw [lookup_set_self]
          simp
      rw [hold, hnew, hnodup.mem_erase_iff]
      simp only [true_and]
      exact and_comm
    · have hkept : Holds (if old.erase id = [] then erase key index
          else set key (old.erase id) index) other found ↔ Holds index other found := by
        unfold Holds
        split_ifs
        · rw [lookup_erase_of_ne hsame]
        · rw [lookup_set_of_ne hsame]
      rw [hkept]
      simp [hsame]

theorem Tidy.addAll (htidy : Tidy index) (keys : List Key) (id : Id) :
    Tidy (addAll index keys id) :=
  List.foldlRecOn _ _ htidy fun _ hbefore key _ => hbefore.add key id

theorem holds_addAll {keys : List Key} : Holds (addAll index keys id) other found ↔
      Holds index other found ∨ (other ∈ keys ∧ found = id) := by
  induction keys generalizing index with
  | nil => simp [addAll]
  | cons key rest ih =>
    change Holds (addAll (add index key id) rest id) other found ↔ _
    rw [ih, holds_add, List.mem_cons]
    tauto

theorem Tidy.removeAll (htidy : Tidy index) (keys : List Key) (id : Id) :
    Tidy (removeAll index keys id) :=
  List.foldlRecOn _ _ htidy fun _ hbefore key _ => hbefore.remove key id

theorem holds_removeAll (htidy : Tidy index) {keys : List Key} :
    Holds (removeAll index keys id) other found ↔
      Holds index other found ∧ ¬(other ∈ keys ∧ found = id) := by
  induction keys generalizing index with
  | nil => simp [removeAll]
  | cons key rest ih =>
    change Holds (removeAll (remove index key id) rest id) other found ↔ _
    rw [ih (htidy.remove key id), holds_remove htidy, List.mem_cons]
    tauto

variable {keysOf : Record → List Key} {table : List (Id × Record)} {record : Record}

omit [LawfulBEq Key] [LawfulBEq Id] in
theorem exact_nil : Exact keysOf ([] : List (Id × Record)) [] := ⟨tidy_nil, by simp [Holds]⟩

omit [LawfulBEq Key] [LawfulBEq Id] in
theorem Exact.sound (hexact : Exact keysOf table index) : Sound keysOf table index :=
  ⟨hexact.tidy, fun key id => (hexact.holds key id).mp⟩

omit [LawfulBEq Key] in
theorem Sound.extend (hsound : Sound keysOf table index)
    (hfresh : table.lookup id = none) (record : Record) :
    Sound keysOf (set id record table) index := by
  refine ⟨hsound.tidy, fun key found hholds => ?_⟩
  rcases hsound.holds key found hholds with ⟨old, hlookup, hkey⟩
  have hne : found ≠ id := by
    rintro rfl
    rw [hfresh] at hlookup
    contradiction
  exact ⟨old, by rw [lookup_set_of_ne hne, hlookup], hkey⟩

section

variable (hsound : Sound keysOf table index) (hlookup : table.lookup id = some record)

include hsound hlookup

theorem Sound.addAll : Sound keysOf table (addAll index (keysOf record) id) := by
  refine ⟨hsound.tidy.addAll _ id, fun key found hholds => ?_⟩
  rcases holds_addAll.mp hholds with hold | ⟨hkey, rfl⟩
  · exact hsound.holds key found hold
  · exact ⟨record, hlookup, hkey⟩

theorem Sound.unindex (key : Key) : ¬ Holds (removeAll index (keysOf record) id) key id := by
  rw [holds_removeAll hsound.tidy]
  rintro ⟨hholds, hnot⟩
  rcases hsound.holds key id hholds with ⟨found, hfound, hkey⟩
  cases hlookup.symm.trans hfound
  exact hnot ⟨hkey, rfl⟩

theorem Sound.delete : Sound keysOf (erase id table) (removeAll index (keysOf record) id) := by
  refine ⟨hsound.tidy.removeAll _ id, fun key found hholds => ?_⟩
  have hne : found ≠ id := by
    rintro rfl
    exact hsound.unindex hlookup key hholds
  rw [lookup_erase_of_ne hne]
  exact hsound.holds key found ((holds_removeAll hsound.tidy).mp hholds).1

theorem Sound.update (next : Record) : Sound keysOf (set id next table)
      (InvertedIndex.addAll (removeAll index (keysOf record) id) (keysOf next) id) := by
  refine ⟨(hsound.tidy.removeAll _ id).addAll _ id, fun key found hholds => ?_⟩
  rcases holds_addAll.mp hholds with hold | ⟨hkey, rfl⟩
  · have hne : found ≠ id := by
      rintro rfl
      exact hsound.unindex hlookup key hold
    rw [lookup_set_of_ne hne]
    exact hsound.holds key found ((holds_removeAll hsound.tidy).mp hold).1
  · exact ⟨next, lookup_set_self, hkey⟩

end

omit [LawfulBEq Key] in
theorem Sound.keep (hsound : Sound keysOf table index)
    (hlookup : table.lookup id = some record) {next : Record}
    (hkeys : ∀ key ∈ keysOf record, key ∈ keysOf next) :
    Sound keysOf (set id next table) index := by
  refine ⟨hsound.tidy, fun key found hholds => ?_⟩
  rcases hsound.holds key found hholds with ⟨old, hold, hkey⟩
  by_cases hsame : found = id
  · subst hsame
    cases hlookup.symm.trans hold
    exact ⟨next, lookup_set_self, hkeys key hkey⟩
  · rw [lookup_set_of_ne hsame]
    exact ⟨old, hold, hkey⟩

section

variable (hexact : Exact keysOf table index)
include hexact

theorem Exact.insert (hfresh : table.lookup id = none) (record : Record) :
    Exact keysOf (set id record table) (addAll index (keysOf record) id) := by
  refine ⟨hexact.tidy.addAll _ id, fun key found => ?_⟩
  rw [holds_addAll, hexact.holds]
  by_cases hsame : found = id
  · subst hsame
    simp [hfresh]
  · rw [lookup_set_of_ne hsame]
    simp [hsame]

theorem Exact.delete (hlookup : table.lookup id = some record) :
    Exact keysOf (erase id table) (removeAll index (keysOf record) id) := by
  refine ⟨hexact.tidy.removeAll _ id, fun key found => ?_⟩
  rw [holds_removeAll hexact.tidy, hexact.holds]
  by_cases hsame : found = id
  · subst hsame
    rw [lookup_erase_self]
    simp [hlookup]
  · rw [lookup_erase_of_ne hsame]
    simp [hsame]

theorem Exact.update (hlookup : table.lookup id = some record) (next : Record) :
    Exact keysOf (set id next table)
      (addAll (removeAll index (keysOf record) id) (keysOf next) id) := by
  refine ⟨(hexact.tidy.removeAll _ id).addAll _ id, fun key found => ?_⟩
  rw [holds_addAll, holds_removeAll hexact.tidy, hexact.holds]
  by_cases hsame : found = id
  · subst hsame
    rw [lookup_set_self]
    simp [hlookup]
  · rw [lookup_set_of_ne hsame]
    simp [hsame]

end

omit [LawfulBEq Key] in
theorem Exact.keep (hexact : Exact keysOf table index)
    (hlookup : table.lookup id = some record) {next : Record}
    (hkeys : ∀ key, key ∈ keysOf next ↔ key ∈ keysOf record) :
    Exact keysOf (set id next table) index := by
  refine ⟨hexact.tidy, fun key found => ?_⟩
  rw [hexact.holds]
  by_cases hsame : found = id
  · subst hsame
    rw [lookup_set_self]
    simp [hlookup, hkeys]
  · rw [lookup_set_of_ne hsame]

theorem exact_rebuild (keysOf : Record → List Key)
    {table : List (Id × Record)} (hnodup : (keys table).Nodup) :
    Exact keysOf table (rebuild keysOf table) := by
  induction table using List.reverseRecOn with
  | nil => exact exact_nil
  | append_singleton table entry ih =>
    obtain ⟨id, record⟩ := entry
    have hsplit : (keys table).Nodup ∧ id ∉ keys table := by
      rw [keys, List.map_append, List.nodup_append] at hnodup
      refine ⟨hnodup.1, fun hmem => ?_⟩
      exact hnodup.2.2 id hmem id (by simp) rfl
    have hfresh : table.lookup id = none := lookup_eq_none.mpr hsplit.2
    have hset : set id record table = table ++ [(id, record)] :=
      set_of_lookup_eq_none hfresh
    rw [← hset]
    unfold rebuild
    rw [hset, List.foldl_concat]
    exact hset ▸ (ih hsplit.1).insert hfresh record

theorem Exact.lookup_perm (hexact : Exact keysOf table index)
    (hnodup : (keys table).Nodup) (key : Key) :
    (((index.lookup key).getD []).filterMap fun id => table.lookup id).Perm
      ((table.map Prod.snd).filter fun record => key ∈ keysOf record) := by
  let found := table.filter fun entry => key ∈ keysOf entry.2
  have hfound : (found.map Prod.fst).Nodup := (List.filter_sublist.map Prod.fst).nodup hnodup
  have hmem : ∀ id, id ∈ (index.lookup key).getD [] ↔ id ∈ found.map Prod.fst := by
    intro id
    have hholds := hexact.holds key id
    have hindex : Holds index key id ↔ id ∈ (index.lookup key).getD [] := by
      unfold Holds
      cases index.lookup key <;> simp
    rw [← hindex, hholds]
    constructor
    · rintro ⟨record, hlookup, hkey⟩
      apply List.mem_map_of_mem (a := (id, record))
      exact List.mem_filter.mpr ⟨mem_of_lookup hlookup, by simpa using hkey⟩
    · intro hid
      rcases List.mem_map.mp hid with ⟨⟨other, record⟩, hentry, rfl⟩
      rcases List.mem_filter.mp hentry with ⟨hentry, hkey⟩
      exact ⟨record, lookup_of_mem hnodup hentry, by simpa using hkey⟩
  have hids : ((index.lookup key).getD []).Nodup := by
    cases hlookup : index.lookup key with
    | none => exact List.nodup_nil
    | some ids => exact (hexact.tidy key ids hlookup).2
  have hperm : ((index.lookup key).getD []).Perm (found.map Prod.fst) :=
    (List.perm_ext_iff_of_nodup hids hfound).mpr hmem
  have hrecords : (found.map Prod.fst).filterMap (fun id => table.lookup id) =
      found.map Prod.snd := by
    rw [List.filterMap_map, List.filterMap_eq_map_iff_forall_eq_some]
    intro entry hentry
    exact lookup_of_mem hnodup (List.mem_of_mem_filter hentry)
  have htable : found.map Prod.snd =
      (table.map Prod.snd).filter fun record => key ∈ keysOf record := by
    rw [List.filter_map]
    rfl
  rw [← htable, ← hrecords]
  exact hperm.filterMap _

end InvertedIndex
