import LittleBaby.CommandQueueLedger
import Mathlib.Data.Finset.Dedup

/-!
# The active tasks of a command lane

`activeTaskIds` counts tasks by their numbers, and a reset empties it while
the tasks of the older generation go on.
-/

namespace LittleBaby.CommandQueue

open LabelledMachine Process

structure LaneCounted (state : LaneState) (unfinished : List Task)
    (nextTaskId : ℕ) : Prop where
  nodup : (unfinished.map Task.taskId).Nodup
  issued : ∀ task ∈ unfinished, task.taskId < nextTaskId
  generation_le : ∀ task ∈ unfinished, task.taskGeneration ≤ state.generation
  active : ∀ taskId, taskId ∈ state.activeTaskIds ↔
    ∃ task ∈ unfinished, task.taskGeneration = state.generation ∧ task.taskId = taskId

namespace LaneCounted

variable {state : LaneState} {unfinished : List Task} {nextTaskId : ℕ}

theorem created (nextTaskId : ℕ) : LaneCounted .created [] nextTaskId where
  nodup := List.nodup_nil
  issued := by simp
  generation_le := by simp
  active := by simp [LaneState.created]

section

variable (hcounted : LaneCounted state unfinished nextTaskId)

include hcounted

theorem mono {later : ℕ} (hle : nextTaskId ≤ later) : LaneCounted state unfinished later :=
  { hcounted with
    issued := fun task hmem => (hcounted.issued task hmem).trans_le hle }

theorem perm {other : List Task} (hperm : other.Perm unfinished) :
    LaneCounted state other nextTaskId where
  nodup := (hperm.map Task.taskId).nodup_iff.mpr hcounted.nodup
  issued := fun task hmem => hcounted.issued task (hperm.mem_iff.mp hmem)
  generation_le := fun task hmem =>
    hcounted.generation_le task (hperm.mem_iff.mp hmem)
  active := fun taskId => by
    simp only [hcounted.active, hperm.mem_iff]

theorem congr {other : LaneState} (hgeneration : other.generation = state.generation)
    (hactive : other.activeTaskIds = state.activeTaskIds) :
    LaneCounted other unfinished nextTaskId where
  nodup := hcounted.nodup
  issued := hcounted.issued
  generation_le := by
    rw [hgeneration]
    exact hcounted.generation_le
  active := by
    rw [hgeneration, hactive]
    exact hcounted.active

theorem reset : LaneCounted state.reset unfinished nextTaskId where
  nodup := hcounted.nodup
  issued := hcounted.issued
  generation_le := fun task hmem =>
    (hcounted.generation_le task hmem).trans (Nat.le_succ _)
  active := fun taskId => by
    simp only [LaneState.reset, Finset.notMem_empty, false_iff, not_exists, not_and]
    intro task hmem hgeneration
    have hle := hcounted.generation_le task hmem
    omega

theorem start {other : LaneState} {task : Task} (hid : task.taskId = nextTaskId)
    (htask : task.taskGeneration = state.generation)
    (hgeneration : other.generation = state.generation)
    (hactive : other.activeTaskIds = insert nextTaskId state.activeTaskIds) :
    LaneCounted other (task :: unfinished) (nextTaskId + 1) where
  nodup := by
    rw [List.map_cons, List.nodup_cons]
    refine ⟨fun hmem => ?_, hcounted.nodup⟩
    obtain ⟨older, holder, heq⟩ := List.mem_map.mp hmem
    have hlt := hcounted.issued older holder
    omega
  issued := by
    intro started hmem
    rcases List.mem_cons.mp hmem with rfl | hmem
    · omega
    · exact (hcounted.issued started hmem).trans (Nat.lt_succ_self _)
  generation_le := by
    intro started hmem
    rw [hgeneration]
    rcases List.mem_cons.mp hmem with rfl | hmem
    · exact htask.le
    · exact hcounted.generation_le started hmem
  active := by
    intro taskId
    rw [hgeneration, hactive, Finset.mem_insert, hcounted.active]
    simp only [List.mem_cons, exists_eq_or_imp, htask, hid, true_and]
    exact or_congr eq_comm Iff.rfl

end

theorem finishOld {task : Task} {rest : List Task}
    (hcounted : LaneCounted state (task :: rest) nextTaskId)
    (hold : task.taskGeneration ≠ state.generation) :
    LaneCounted state rest nextTaskId where
  nodup := (List.nodup_cons.mp hcounted.nodup).2
  issued := fun other hmem =>
    hcounted.issued other (List.mem_cons_of_mem task hmem)
  generation_le := fun other hmem =>
    hcounted.generation_le other (List.mem_cons_of_mem task hmem)
  active := fun taskId => by
    simp [hcounted.active, hold]

theorem finishCurrent {task : Task} {rest : List Task}
    (hcounted : LaneCounted state (task :: rest) nextTaskId)
    (hcurrent : task.taskGeneration = state.generation) :
    LaneCounted { state with activeTaskIds := state.activeTaskIds.erase task.taskId }
      rest nextTaskId where
  nodup := (List.nodup_cons.mp hcounted.nodup).2
  issued := fun other hmem =>
    hcounted.issued other (List.mem_cons_of_mem task hmem)
  generation_le := fun other hmem =>
    hcounted.generation_le other (List.mem_cons_of_mem task hmem)
  active := fun taskId => by
    have hfresh : ∀ other ∈ rest, other.taskId ≠ task.taskId := by
      intro other hmem heq
      exact (List.nodup_cons.mp hcounted.nodup).1 (heq ▸ List.mem_map_of_mem hmem)
    simp only [Finset.mem_erase, hcounted.active, List.mem_cons,
      exists_eq_or_imp, hcurrent, true_and]
    constructor
    · rintro ⟨hne, heq | hother⟩
      · exact absurd heq.symm hne
      · exact hother
    · rintro ⟨other, hmem, hgeneration, rfl⟩
      exact ⟨hfresh other hmem, .inr ⟨other, hmem, hgeneration, rfl⟩⟩

theorem card (hcounted : LaneCounted state unfinished nextTaskId) :
    state.activeTaskIds.card = (unfinished.filter fun task =>
        task.taskGeneration = state.generation).length := by
  have hset : state.activeTaskIds = ((unfinished.filter fun task =>
        task.taskGeneration = state.generation).map Task.taskId).toFinset := by
    ext taskId
    simp [hcounted.active, and_assoc]
  have hnodup : ((unfinished.filter fun task =>
      task.taskGeneration = state.generation).map Task.taskId).Nodup :=
    hcounted.nodup.sublist (List.filter_sublist.map _)
  rw [hset, List.toFinset_card_of_nodup hnodup, List.length_map]

end LaneCounted

def Process.TasksCounted (process : Process) : Prop :=
  ∀ lane, LaneCounted (process.lane lane) (process.unfinished lane) process.nextTaskId

variable {process : Process}

theorem Process.TasksCounted.congr {next : Process} (hcounted : process.TasksCounted)
    (hnextTaskId : next.nextTaskId = process.nextTaskId)
    (hunfinished : ∀ lane, (next.unfinished lane).Perm (process.unfinished lane))
    (hgeneration : ∀ lane, (next.lane lane).generation = (process.lane lane).generation)
    (hactive : ∀ lane, (next.lane lane).activeTaskIds =
      (process.lane lane).activeTaskIds) : next.TasksCounted := by
  intro lane
  rw [hnextTaskId]
  exact ((hcounted lane).congr (hgeneration lane) (hactive lane)).perm (hunfinished lane)

@[simp] theorem Process.unfinished_drainLane (process : Process) (name lane : JsString) :
    (process.drainLane name).unfinished lane = process.unfinished lane := by
  unfold unfinished
  rw [running_drainLane]
  rcases process.drainLane_cases name with ⟨-, heq⟩ | ⟨-, heq⟩
  · rw [heq]
  · rw [heq]
    rfl

theorem Process.TasksCounted.drainLane (hcounted : process.TasksCounted) (name : JsString) :
    (process.drainLane name).TasksCounted :=
  hcounted.congr (by simp) (fun lane => by simp) (fun lane => by simp)
    fun lane => by simp

theorem Process.TasksCounted.setLane {process : Process}
    (hcounted : process.TasksCounted) (name : JsString) {state : LaneState}
    (hgeneration : state.generation = (process.lane name).generation)
    (hactive : state.activeTaskIds = (process.lane name).activeTaskIds) :
    (process.setLane name state).TasksCounted := by
  refine hcounted.congr rfl (fun lane => List.Perm.refl _) ?_ ?_
  all_goals
    intro lane
    rw [lane_setLane]
    split_ifs with hlane
    · rw [hlane]
      assumption
    · rfl

theorem unfinishedOf_cons_none {frame : Frame} (rest : List Frame)
    (running : List Task) (lane : JsString) (htask : frame.task? = none) :
    unfinishedOf (frame :: rest) running lane = unfinishedOf rest running lane := by
  unfold unfinishedOf
  rw [List.filterMap_cons_none htask]

variable {rest : List Frame}

theorem Process.TasksCounted.withStack {frame : Frame} (hcounted : process.TasksCounted)
    (hstack : process.stack = frame :: rest) (htask : frame.task? = none) :
    (process.withStack rest).TasksCounted := by
  refine hcounted.congr rfl (fun lane => ?_) (fun lane => rfl) fun lane => rfl
  unfold unfinished
  rw [hstack, unfinishedOf_cons_none _ _ _ htask]
  exact List.Perm.refl _

theorem Process.TasksCounted.startHead {name : JsString}
    (hcounted : process.TasksCounted) (entry : ℕ)
    (queue : List ℕ) (hstack : process.stack = .pump name :: rest) :
    (process.startHead name entry queue rest).TasksCounted := by
  intro lane
  have hbefore := hcounted lane
  unfold Process.unfinished at hbefore
  rw [hstack, unfinishedOf_cons_none _ _ _ rfl] at hbefore
  by_cases hlane : name = lane
  · subst name
    have hunfinished : (process.startHead lane entry queue rest).unfinished
        lane = ⟨entry, lane, process.nextTaskId, (process.lane lane).generation⟩ ::
            unfinishedOf rest process.running lane := by
      simp [Process.unfinished, Process.startHead, unfinishedOf,
        List.filterMap_cons, Process.setLane, Process.observe]
    rw [hunfinished]
    refine hbefore.start rfl rfl ?_ ?_ <;>
      simp [Process.startHead, Process.lane, Process.setLane, Process.observe, Process.withStack]
  · have hunfinished : (process.startHead name entry queue rest).unfinished
        lane = unfinishedOf rest process.running lane := by
      simp [Process.unfinished, Process.startHead, unfinishedOf, hlane,
        List.filterMap_cons, Process.setLane, Process.observe]
    have hstate : (process.startHead name entry queue rest).lane lane = process.lane lane := by
      simp [Process.startHead, Process.lane, Process.setLane,
        Process.observe, Process.withStack, Ne.symm hlane]
    rw [hunfinished, hstate]
    exact hbefore.mono (Nat.le_succ _)

theorem Process.TasksCounted.finishTask {before : Process} {task : Task} (outcome : Outcome)
    (hcounted : before.TasksCounted)
    (hlanes : process.lanes = before.lanes)
    (hnextTaskId : process.nextTaskId = before.nextTaskId)
    (hunfinished : ∀ lane, (before.unfinished lane).Perm
      (unfinishedOf (.task task :: rest) process.running lane)) :
    (process.finishTask task outcome rest).TasksCounted := by
  intro lane
  have hlane : ∀ name, process.lane name = before.lane name := fun name => by
    unfold Process.lane
    rw [hlanes]
  have hbefore := (hcounted lane).perm (hunfinished lane).symm
  have hafter : (process.finishTask task outcome rest).unfinished lane =
      unfinishedOf rest process.running lane := by
    obtain ⟨pumps, hpumps, hstack⟩ := stack_finishTask task outcome rest process
    unfold Process.unfinished
    rw [hstack, running_finishTask]
    rcases hpumps with rfl | rfl <;> simp [unfinishedOf, List.filterMap_cons]
  have hnext : (process.finishTask task outcome rest).nextTaskId =
      before.nextTaskId := by
    rw [← hnextTaskId]
    simp only [Process.finishTask]
    split_ifs <;> rfl
  rw [hafter, hnext]
  by_cases htask : task.lane = lane
  · subst lane
    have hcons : unfinishedOf (.task task :: rest) process.running task.lane =
        task :: unfinishedOf rest process.running task.lane := by
      simp [unfinishedOf]
    rw [hcons, ← hlane] at hbefore
    simp only [Process.finishTask]
    split_ifs with hgeneration
    · simpa using hbefore.finishCurrent hgeneration
    · exact hbefore.finishOld hgeneration
  · have hcons : unfinishedOf (.task task :: rest) process.running lane =
        unfinishedOf rest process.running lane := by
      simp [unfinishedOf, htask]
    rw [hcons, ← hlane] at hbefore
    have hstate : (process.finishTask task outcome rest).lane lane = process.lane lane := by
      simp only [Process.finishTask]
      split_ifs
      · simp [Ne.symm htask]
      · rfl
    rw [hstate]
    exact hbefore

theorem tasksCounted_transition {next : Process} (hcounted : process.TasksCounted)
    (htransition : Transition process next) : next.TasksCounted := by
  cases htransition with
  | flag => exact hcounted
  | enqueue name | setConcurrency name maxConcurrent =>
    apply Process.TasksCounted.drainLane
    exact hcounted.setLane name rfl rfl
  | clear name => exact hcounted.setLane name rfl rfl
  | resetAll =>
    intro lane
    have hbefore := hcounted lane
    rcases process.lane_resetAllLanes lane with heq | ⟨hcreated, heq⟩
    · rw [heq]
      exact hbefore.reset
    · rw [heq, ← hcreated]
      exact hbefore
  | suspend task rest hstack =>
    refine hcounted.congr rfl (fun lane => ?_) (fun lane => rfl) fun lane => rfl
    have hperm := unfinishedOf_suspend lane task rest process.running
    rw [← hstack] at hperm
    exact hperm
  | throwSync task error rest hstack =>
    refine hcounted.finishTask _ rfl rfl fun lane => ?_
    rw [unfinished, hstack]
  | complete task outcome hstack hrunning =>
    refine hcounted.finishTask outcome rfl rfl fun lane => ?_
    rw [unfinished, hstack]
    exact (List.perm_cons_erase hrunning).filter _
  | start name entry queue rest hstack hqueue hroom =>
    exact hcounted.startHead entry queue hstack
  | leave name rest hstack hdone =>
    have hset : (process.setLane name { process.lane name with draining := false }).TasksCounted :=
      hcounted.setLane name rfl rfl
    exact hset.withStack hstack rfl
  | settle name entry settlement rest hstack | drainDone rest hstack =>
    exact hcounted.withStack hstack rfl
  | drainNext name names rest hstack =>
    apply Process.TasksCounted.drainLane
    refine hcounted.congr rfl (fun lane => ?_) (fun lane => rfl) fun lane => rfl
    unfold unfinished
    rw [hstack]
    exact List.Perm.refl _

theorem initial_tasksCounted : initial.TasksCounted :=
  fun _ => LaneCounted.created initial.nextTaskId

theorem Process.Reachable.tasksCounted (hreach : process.Reachable) : process.TasksCounted :=
  LabelledMachine.Reachable.invariant Process.TasksCounted (fun hcounted hstep =>
      tasksCounted_transition hcounted (transition_of_step hstep))
    initial_tasksCounted hreach

def Process.active (process : Process) (lane : JsString) : List Task :=
  (process.unfinished lane).filter fun task =>
    task.taskGeneration = (process.lane lane).generation

theorem Process.Reachable.card_activeTaskIds (hreach : process.Reachable) (lane : JsString) :
    (process.lane lane).activeTaskIds.card = (process.active lane).length :=
  (hreach.tasksCounted lane).card

theorem Process.Reachable.hasRoom_eq (hreach : process.Reachable) (lane : JsString) :
    (process.lane lane).hasRoom = JsNumber.lt (.ofNat (process.active lane).length)
        (process.lane lane).maxConcurrent := by
  rw [LaneState.hasRoom, hreach.card_activeTaskIds]

end LittleBaby.CommandQueue
