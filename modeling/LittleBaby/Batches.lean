import Mathlib.Data.List.Forall2

/-!
# Batches

What has been taken in is either in a batch that was closed or in the open one.
Closing the open batch neither loses nor repeats an item.
-/

structure Batches (α : Type*) where
  closed : List (List α) := []
  held : List α := []

namespace Batches

variable {α : Type*}

variable (batches : Batches α)

def inputs : List α := batches.closed.flatten ++ batches.held

variable (item : α)

def hold : Batches α := { batches with held := batches.held ++ [item] }

def close : Batches α :=
  if batches.held = [] then batches
  else { closed := batches.closed ++ [batches.held], held := [] }

def alone : Batches α := (batches.close.hold item).close

@[simp] theorem inputs_hold : (batches.hold item).inputs = batches.inputs ++ [item] := by
  simp [inputs, hold]

@[simp] theorem inputs_close : batches.close.inputs = batches.inputs := by
  unfold close
  split_ifs with hnone
  · rfl
  · simp [inputs]

@[simp] theorem inputs_alone : (batches.alone item).inputs = batches.inputs ++ [item] := by
  simp [alone]

@[simp] theorem held_close : batches.close.held = [] := by
  unfold close
  split_ifs with hnone
  · exact hnone
  · rfl

theorem close_of_held {batches : Batches α} (hheld : batches.held ≠ []) :
    batches.close = ⟨batches.closed ++ [batches.held], []⟩ := by
  unfold close
  rw [if_neg hheld]

theorem close_of_empty {batches : Batches α} (hheld : batches.held = []) :
    batches.close = batches := by
  unfold close
  rw [if_pos hheld]

theorem closed_alone : (batches.alone item).closed = batches.close.closed ++ [[item]] := by
  unfold alone
  rw [close_of_held (by simp [hold])]
  simp [hold]

end Batches
