import LittleBaby.CommandQueueTasks

/-!
# Safety of the command lanes

The tasks of a lane start in the order of their enqueue calls, none is started
or settled twice or both run and cleared, and at most `maxConcurrent` tasks of
the current generation run.
-/

namespace LittleBaby.CommandQueue

open LabelledMachine JsString

theorem started_transition {process next : Process} (htransition : Transition process next) :
    (∀ lane, (next.ledger lane).started = (process.ledger lane).started) ∨
      ∃ name entry, (process.lane name).hasRoom = true ∧
        (process.lane name).queue.head? = some entry ∧
        ∀ lane, (next.ledger lane).started = (process.ledger lane).started ++
            if name = lane then [entry] else [] := by
  cases htransition with
  | start name entry queue rest hstack hqueue hroom =>
    refine Or.inr ⟨name, entry, hroom, by rw [hqueue]; rfl, fun lane => ?_⟩
    by_cases hlane : name = lane <;>
      simp [Process.startHead, Process.ledger, ledgerOf, List.filterMap_cons, hlane]
  | enqueue name =>
    refine Or.inl fun lane => ?_
    rw [Process.ledger_drainLane]
    simp [Process.pushEntry, Process.ledger, ledgerOf]
  | setConcurrency name maxConcurrent | drainNext name names rest hstack =>
    refine Or.inl fun lane => ?_
    rw [Process.ledger_drainLane]
    rfl
  | clear name =>
    refine Or.inl fun lane => ?_
    simp [Process.clearQueue, Process.ledger, ledgerOf, filterMap_clear]
  | flag | resetAll | suspend | leave | drainDone => exact Or.inl fun _ => rfl
  | throwSync | complete | settle =>
    exact Or.inl fun lane => by simp [Process.ledger, ledgerOf]

theorem Process.Reachable.room_of_started {process next : Process}
    {action : Action} {lane : JsString} {entry : ℕ}
    (hreach : process.Reachable) (hstep : step process action = some next)
    (hstarted : (next.ledger lane).started = (process.ledger lane).started ++ [entry]) :
    JsNumber.lt (.ofNat (process.active lane).length) (process.lane lane).maxConcurrent = true := by
  rcases started_transition (transition_of_step hstep) with
    hnone | ⟨name, head, hroom, -, hone⟩
  · rw [hnone lane] at hstarted
    simp at hstarted
  · rw [hone lane] at hstarted
    split_ifs at hstarted with hlane
    · rw [← hreach.hasRoom_eq, ← hlane]
      exact hroom
    · simp at hstarted

structure LaneSafe (process : Process) (lane : JsString) : Prop where
  started_in_order : ((process.ledger lane).started ++ (process.ledger lane).queue).Sublist
      (process.ledger lane).enqueued
  started_once : (process.ledger lane).started.Nodup
  /-- an accepted entry waits, has been started or has been cleared -/
  accounted : ∀ entry ∈ (process.ledger lane).enqueued,
    entry ∈ (process.ledger lane).queue ∨ entry ∈ (process.ledger lane).started ∨
        entry ∈ (process.ledger lane).cleared
  /-- an accepted entry belongs to no other lane -/
  own : ∀ other, ∀ entry ∈ (process.ledger lane).enqueued,
    entry ∈ (process.ledger other).enqueued → other = lane
  settled_once : ((process.ledger lane).settled.map Prod.fst).Nodup
  /-- an entry is settled with the outcome of its task, or as cleared -/
  settled_with : ∀ pair ∈ (process.ledger lane).settled, pair ∈ (process.ledger lane).completed ∨
      pair.1 ∈ (process.ledger lane).cleared ∧ pair.2 = laneCleared lane
  /-- between two events nothing that has ended is left unsettled -/
  settled_when_ended : process.stack = [] → ∀ pair : ℕ × Settlement,
    pair ∈ (process.ledger lane).completed ∨
        pair.1 ∈ (process.ledger lane).cleared ∧ pair.2 = laneCleared lane →
      pair ∈ (process.ledger lane).settled
  never_both : ∀ entry ∈ (process.ledger lane).started, entry ∉ (process.ledger lane).cleared ∧
      (entry, laneCleared lane) ∉ (process.ledger lane).settled
  within_capacity : ∀ action next entry, step process action = some next →
    (next.ledger lane).started = (process.ledger lane).started ++ [entry] →
      JsNumber.lt (.ofNat (process.active lane).length) (process.lane lane).maxConcurrent = true

theorem laneCleared_not_mem_completed (process : Process) (lane : JsString) (entry : ℕ) :
    (entry, laneCleared lane) ∉ (process.ledger lane).completed := by
  intro hmem
  obtain ⟨observation, -, hread⟩ := List.mem_filterMap.mp hmem
  cases observation with
  | completed name other outcome =>
    simp only [Observation.completedIn] at hread
    split_ifs at hread
    cases outcome <;> simp [Outcome.settlement] at hread
  | enqueued | started | cleared | settled => simp at hread

end LittleBaby.CommandQueue
