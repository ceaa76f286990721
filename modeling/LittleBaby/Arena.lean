import Mathlib.Data.List.Basic
import Mathlib.Data.List.Perm.Basic

/-!
# Arenas

An arena holds cells that are never removed: a new cell goes to the next free
index, and a cell may be overwritten.
-/

structure Arena (Cell : Type*) where
  cells : List Cell

namespace Arena

variable {Cell : Type*}

def empty : Arena Cell := ⟨[]⟩

def size (arena : Arena Cell) : ℕ := arena.cells.length

def get? (arena : Arena Cell) (index : ℕ) : Option Cell := arena.cells[index]?

def push (arena : Arena Cell) (cell : Cell) : Arena Cell := ⟨arena.cells ++ [cell]⟩

def put (arena : Arena Cell) (index : ℕ) (cell : Cell) : Arena Cell := ⟨arena.cells.set index cell⟩

def map (arena : Arena Cell) (change : Cell → Cell) : Arena Cell := ⟨arena.cells.map change⟩

variable (arena : Arena Cell)

@[simp] theorem get?_map (change : Cell → Cell) (index : ℕ) :
    (arena.map change).get? index = (arena.get? index).map change := by
  simp [map, get?]

@[simp] theorem get?_empty (index : ℕ) : (empty : Arena Cell).get? index = none := by
  simp [empty, get?]

@[simp] theorem size_push (cell : Cell) : (arena.push cell).size = arena.size + 1 := by
  simp [push, size]

@[simp] theorem size_put (index : ℕ) (cell : Cell) : (arena.put index cell).size = arena.size := by
  simp [put, size]

variable {arena}

variable {index : ℕ} {cell : Cell}

theorem lt_size_of_get? (hget : arena.get? index = some cell) : index < arena.size :=
  (List.getElem?_eq_some_iff.mp hget).1

theorem forall_mem_cells {property : Cell → Prop} : (∀ cell ∈ arena.cells, property cell) ↔
      ∀ index cell, arena.get? index = some cell → property cell := by
  simp only [List.mem_iff_getElem?, forall_exists_index]
  exact forall_comm

theorem get?_of_lt_size (hlt : index < arena.size) : ∃ cell, arena.get? index = some cell :=
  ⟨_, List.getElem?_eq_getElem hlt⟩

theorem get?_push (cell : Cell) (index : ℕ) : (arena.push cell).get? index =
      if index = arena.size then some cell else arena.get? index := by
  unfold get? push size
  rcases Nat.lt_trichotomy index arena.cells.length with hlt | heq | hgt
  · rw [List.getElem?_append_left hlt, if_neg (Nat.ne_of_lt hlt)]
  · simp [heq]
  · rw [if_neg (Nat.ne_of_gt hgt), List.getElem?_eq_none (by simp; omega),
      List.getElem?_eq_none (Nat.le_of_lt hgt)]

variable {old : Cell}

theorem get?_push_of_get? (cell : Cell) (hget : arena.get? index = some old) :
    (arena.push cell).get? index = some old := by
  rw [get?_push, if_neg (Nat.ne_of_lt (lt_size_of_get? hget)), hget]

theorem get?_push_size (cell : Cell) : (arena.push cell).get? arena.size = some cell := by
  simp [get?_push]

theorem get?_put (hget : arena.get? index = some old) (cell : Cell) (other : ℕ) :
    (arena.put index cell).get? other = if other = index then some cell else arena.get? other := by
  have hlt : index < arena.cells.length := lt_size_of_get? hget
  unfold get? put
  by_cases hother : other = index
  · subst other
    simp [hlt]
  · simp [hother, List.getElem?_set_ne (Ne.symm hother)]

theorem get?_push_eq_some {cell found : Cell} {index : ℕ} :
    (arena.push cell).get? index = some found ↔
      index = arena.size ∧ cell = found ∨ arena.get? index = some found := by
  rw [get?_push]
  split_ifs with hindex
  · constructor
    · intro hsome
      exact .inl ⟨hindex, Option.some.inj hsome⟩
    · rintro (⟨-, rfl⟩ | hget)
      · rfl
      · exact absurd (lt_size_of_get? hget) (by omega)
  · simp [hindex]

section

variable (hget : arena.get? index = some old)
include hget

theorem get?_put_eq_some {other : ℕ} {found : Cell} :
    (arena.put index cell).get? other = some found ↔ other = index ∧ cell = found ∨
        other ≠ index ∧ arena.get? other = some found := by
  rw [get?_put hget]
  split_ifs with hother <;> simp [hother]

theorem exists_perm_put : ∃ others : List Cell, arena.cells.Perm (old :: others) ∧
      ∀ cell, (arena.put index cell).cells.Perm (cell :: others) := by
  obtain ⟨hlt, hold⟩ := List.getElem?_eq_some_iff.mp hget
  refine ⟨arena.cells.eraseIdx index, ?_, fun cell => ?_⟩
  · rw [← hold]
    exact (List.getElem_cons_eraseIdx_perm hlt).symm
  · exact List.set_perm_cons_eraseIdx hlt cell

theorem countP_put (cell : Cell) (test : Cell → Bool) :
    (arena.put index cell).cells.countP test + (if test old then 1 else 0) =
      arena.cells.countP test + (if test cell then 1 else 0) := by
  obtain ⟨hlt, hold⟩ := List.getElem?_eq_some_iff.mp hget
  have hle : (if test old then 1 else 0) ≤ arena.cells.countP test := by
    split_ifs with htest
    · exact List.countP_pos_iff.mpr ⟨old, List.mem_of_getElem? hget, htest⟩
    · exact Nat.zero_le _
  simp only [put, List.countP_set hlt, hold]
  omega

end

end Arena
