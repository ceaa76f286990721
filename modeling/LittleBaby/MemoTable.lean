import LittleBaby.Entries

/-!
# Bounded memo tables

A memo table keeps the values of a function and is emptied when it grows too
large.
-/

namespace MemoTable

open Entries

variable {Key Input Value : Type*} [BEq Key]

/-- `table.set(key, value)`; a table over its limit keeps this entry only. -/
def remember (limit : ℕ) (key : Key) (value : Value)
    (table : List (Key × Value)) : List (Key × Value) :=
  let next := set key value table
  if next.length > limit then [(key, value)] else next

def answer (limit : ℕ) (key : Key) (value : Value)
    (table : List (Key × Value)) : Value × List (Key × Value) :=
  match table.lookup key with
  | some held => (held, table)
  | none => (value, remember limit key value table)

def image (f : Input → Value) (sources : List (Key × Input)) : List (Key × Value) :=
  sources.map fun source => (source.1, f source.2)

variable {f : Input → Value} {sources : List (Key × Input)} {limit : ℕ} {key : Key} {input : Input}

theorem lookup_image : (image f sources).lookup key = (sources.lookup key).map f := by
  induction sources with
  | nil => simp [image]
  | cons source rest ih =>
    have hcons : image f (source :: rest) = (source.1, f source.2) :: image f rest := by
      simp [image]
    rw [hcons, List.lookup_cons, List.lookup_cons, ih]
    by_cases hkey : key == source.1
    · simp [hkey]
    · simp [hkey]

theorem set_image : Entries.set key (f input) (image f sources) =
      image f (Entries.set key input sources) := by
  induction sources with
  | nil => simp [image, Entries.set]
  | cons source rest ih =>
    have hcons : image f (source :: rest) = (source.1, f source.2) :: image f rest := by
      simp [image]
    rw [hcons, Entries.set, Entries.set, ih]
    by_cases hkey : key == source.1
    · simp [hkey, image]
    · simp [hkey, image]

omit [BEq Key] in
theorem length_image : (image f sources).length = sources.length := by
  simp [image]

theorem remember_image : remember limit key (f input) (image f sources) =
      image f (remember limit key input sources) := by
  simp only [remember, set_image, length_image]
  split
  next => simp [image]
  next => rfl

def Keyed (keyOf : Input → Key) (sources : List (Key × Input)) : Prop :=
  ∀ source ∈ sources, source.1 = keyOf source.2

variable {keyOf : Input → Key}

omit [BEq Key] in
theorem keyed_nil : Keyed keyOf ([] : List (Key × Input)) := by
  intro source hsource
  cases hsource

variable [LawfulBEq Key]

theorem keyed_set (hkeyed : Keyed keyOf sources) :
    Keyed keyOf (Entries.set (keyOf input) input sources) := by
  induction sources with
  | nil => simp [Keyed, Entries.set]
  | cons source rest ih =>
    have hrest : Keyed keyOf rest := fun other hother =>
      hkeyed other (List.mem_cons_of_mem _ hother)
    have hsource := hkeyed source List.mem_cons_self
    rw [Entries.set]
    split
    next hkey =>
      intro other hother
      rcases List.mem_cons.mp hother with rfl | hother
      · exact (eq_of_beq hkey).symm
      · exact hrest other hother
    next =>
      intro other hother
      rcases List.mem_cons.mp hother with rfl | hother
      · exact hsource
      · exact ih hrest other hother

theorem keyed_remember (hkeyed : Keyed keyOf sources) :
    Keyed keyOf (remember limit (keyOf input) input sources) := by
  unfold remember
  simp only
  split
  next => simp [Keyed]
  next => exact keyed_set hkeyed

theorem mem_remember {source : Key × Input} (hsource : source ∈ remember limit key input sources) :
    source = (key, input) ∨ source ∈ sources := by
  have hset : ∀ entry ∈ Entries.set key input sources, entry = (key, input) ∨ entry ∈ sources := by
    clear hsource
    induction sources with
    | nil =>
      intro entry hentry
      exact Or.inl (List.mem_singleton.mp hentry)
    | cons first rest ih =>
      intro entry hentry
      rw [Entries.set] at hentry
      split at hentry
      next hkey =>
        rcases List.mem_cons.mp hentry with rfl | hentry
        · rw [eq_of_beq hkey]
          exact Or.inl rfl
        · exact Or.inr (List.mem_cons_of_mem _ hentry)
      next =>
        rcases List.mem_cons.mp hentry with rfl | hentry
        · exact Or.inr List.mem_cons_self
        · rcases ih entry hentry with hnew | hold
          · exact Or.inl hnew
          · exact Or.inr (List.mem_cons_of_mem _ hold)
  unfold remember at hsource
  simp only at hsource
  split at hsource
  next => exact Or.inl (List.mem_singleton.mp hsource)
  next => exact hset source hsource

theorem lookup_remember : (remember limit key input sources).lookup key = some input := by
  unfold remember
  simp only
  split
  next => simp
  next => exact lookup_set_self

theorem keyOf_of_lookup {source : Input} (hkeyed : Keyed keyOf sources)
    (hlookup : sources.lookup key = some source) : keyOf source = key := by
  have hmem := mem_of_lookup hlookup
  exact (hkeyed _ hmem).symm

end MemoTable
