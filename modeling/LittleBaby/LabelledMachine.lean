import Mathlib.Data.List.GetD
import Mathlib.Order.Basic

/-!
# Labelled machines

`step state action` is the successor state, or `none` when the action is not
enabled.  Here are the induction rules for all runs and for guarded runs, a bound
on runs whose steps decrease a measure, projections, and infinite executions.
-/

namespace LabelledMachine

variable {State Action : Type*}

/-- Execute a word of actions; a disabled action makes the whole word fail. -/
def run (step : State → Action → Option State) : State → List Action → Option State
  | state, [] => some state
  | state, action :: rest =>
    (step state action).bind fun next => run step next rest

variable {step : State → Action → Option State}

@[simp] theorem run_nil (state : State) : run step state [] = some state := rfl

variable {state final : State} {action : Action}

theorem run_cons_eq_some {rest : List Action} : run step state (action :: rest) = some final ↔
      ∃ next, step state action = some next ∧ run step next rest = some final := by
  simp [run, Option.bind_eq_some_iff]

theorem run_append (state : State) (first second : List Action) : run step state (first ++ second) =
      (run step state first).bind fun middle => run step middle second := by
  induction first generalizing state with
  | nil => rfl
  | cons action rest ih =>
    cases hstep : step state action with
    | none => simp [run, hstep]
    | some next => simp [run, hstep, ih]

variable {actions : List Action}

theorem run_concat_eq_some : run step state (actions ++ [action]) = some final ↔
      ∃ middle, run step state actions = some middle ∧ step middle action = some final := by
  simp [run_append, run, Option.bind_eq_some_iff]

theorem exists_of_view {View : Type*} {result : Option State} {view : State → View} {seen : View}
    (hview : result.map view = some seen) {goal : State → Prop}
    (hgoal : ∀ final, view final = seen → result = some final → goal final) :
    ∃ final, result = some final ∧ goal final := by
  obtain ⟨final, hfinal, hseen⟩ := Option.map_eq_some_iff.mp hview
  exact ⟨final, hfinal, hgoal final hseen hfinal⟩

def Reachable (step : State → Action → Option State) (start state : State) :
    Prop :=
  ∃ actions, run step start actions = some state

theorem Reachable.refl (start : State) : Reachable step start start := ⟨[], rfl⟩

variable {start : State}

theorem Reachable.next {next : State} (hreach : Reachable step start state)
    (hstep : step state action = some next) : Reachable step start next := by
  obtain ⟨actions, hrun⟩ := hreach
  exact ⟨actions ++ [action], run_concat_eq_some.mpr ⟨state, hrun, hstep⟩⟩

theorem run_invariant (invariant : State → Prop) (hkeep : ∀ {state next : State} {action : Action},
      invariant state → step state action = some next → invariant next)
    (hstart : invariant start)
    (hrun : run step start actions = some final) : invariant final := by
  induction actions generalizing start with
  | nil =>
    simp only [run_nil, Option.some.injEq] at hrun
    exact hrun ▸ hstart
  | cons action rest ih =>
    obtain ⟨next, hstep, hrest⟩ := run_cons_eq_some.mp hrun
    exact ih (hkeep hstart hstep) hrest

theorem Reachable.invariant (invariant : State → Prop)
    (hkeep : ∀ {state next : State} {action : Action},
      invariant state → step state action = some next → invariant next)
    (hstart : invariant start)
    (hreach : Reachable step start state) : invariant state := by
  obtain ⟨actions, hrun⟩ := hreach
  exact run_invariant invariant hkeep hstart hrun

theorem length_le_of_decreasing (measure : State → ℕ) {kind : Action → Prop}
    (hdecrease : ∀ {state next : State} {action : Action},
      kind action → step state action = some next → measure next < measure state)
    (hkind : ∀ action ∈ actions, kind action)
    (hrun : run step start actions = some final) :
    actions.length ≤ measure start := by
  induction actions generalizing start with
  | nil => exact Nat.zero_le _
  | cons action rest ih =>
    obtain ⟨next, hstep, hrest⟩ := run_cons_eq_some.mp hrun
    have hlt := hdecrease (hkind action List.mem_cons_self) hstep
    have hle := ih (fun other hmem =>
      hkind other (List.mem_cons_of_mem _ hmem)) hrest
    rw [List.length_cons]
    exact Nat.lt_of_le_of_lt hle hlt

/-- Every step that the word takes from `state` meets the guard in the state
it is taken from. -/
def Guarded (step : State → Action → Option State)
    (guard : State → Action → Prop) : State → List Action → Prop
  | _, [] => True
  | state, action :: rest =>
    guard state action ∧ ∀ next, step state action = some next → Guarded step guard next rest

variable {guard : State → Action → Prop}

theorem Guarded.and {other : State → Action → Prop} (hguarded : Guarded step guard start actions)
    (hother : Guarded step other start actions) :
    Guarded step (fun state action => guard state action ∧ other state action) start actions := by
  induction actions generalizing start with
  | nil => trivial
  | cons action rest ih =>
    exact ⟨⟨hguarded.1, hother.1⟩, fun next hstep =>
      ih (hguarded.2 next hstep) (hother.2 next hstep)⟩

theorem guarded_of_forall (hall : ∀ state action, guard state action) (start : State)
    (actions : List Action) : Guarded step guard start actions := by
  induction actions generalizing start with
  | nil => trivial
  | cons action rest ih => exact ⟨hall _ _, fun next _ => ih next⟩

theorem guarded_append {middle : State} {first later : List Action}
    (hguarded : Guarded step guard start (first ++ later))
    (hrun : run step start first = some middle) :
    Guarded step guard start first ∧ Guarded step guard middle later := by
  induction first generalizing start with
  | nil =>
    simp only [run_nil, Option.some.injEq] at hrun
    subst hrun
    exact ⟨trivial, hguarded⟩
  | cons action rest ih =>
    obtain ⟨next, hstep, hrest⟩ := run_cons_eq_some.mp hrun
    obtain ⟨hbefore, hafter⟩ := ih (hguarded.2 next hstep) hrest
    refine ⟨⟨hguarded.1, fun other hother => ?_⟩, hafter⟩
    cases hstep.symm.trans hother
    exact hbefore

theorem guarded_of_actions {allowed : Action → Prop} (start : State)
    (hall : ∀ action ∈ actions, allowed action) :
    Guarded step (fun _ action => allowed action) start actions := by
  induction actions generalizing start with
  | nil => trivial
  | cons action rest ih =>
    exact ⟨hall action List.mem_cons_self, fun next _ =>
      ih next fun other hmem => hall other (List.mem_cons_of_mem _ hmem)⟩

/-- Whether a word is guarded can be computed along its run. -/
instance Guarded.decide {guard : State → Action → Prop}
    [∀ state action, Decidable (guard state action)] :
    ∀ state actions, Decidable (Guarded step guard state actions)
  | _, [] => isTrue trivial
  | state, action :: rest =>
    match hstep : step state action with
    | none =>
      decidable_of_iff (guard state action) (by simp [Guarded, hstep])
    | some next =>
      haveI : Decidable (Guarded step guard next rest) := Guarded.decide next rest
      decidable_of_iff (guard state action ∧ Guarded step guard next rest)
        (by simp [Guarded, hstep])

theorem run_guarded_invariant (invariant : State → Prop)
    (hkeep : ∀ {state next : State} {action : Action}, invariant state → guard state action →
        step state action = some next → invariant next)
    (hstart : invariant start)
    (hguarded : Guarded step guard start actions)
    (hrun : run step start actions = some final) : invariant final := by
  induction actions generalizing start with
  | nil =>
    simp only [run_nil, Option.some.injEq] at hrun
    exact hrun ▸ hstart
  | cons action rest ih =>
    obtain ⟨next, hstep, hrest⟩ := run_cons_eq_some.mp hrun
    exact ih (hkeep hstart hguarded.1 hstep) (hguarded.2 next hstep) hrest

/-- Some step that the word takes from `state` is an event. -/
def Occurs (step : State → Action → Option State)
    (event : State → Action → Prop) : State → List Action → Prop
  | _, [] => False
  | state, action :: rest =>
    event state action ∨ ∃ next, step state action = some next ∧ Occurs step event next rest

variable {Abstract Event : Type*}

/-- Through `view`, a step of the machine is the abstract step that `label`
names, or none. -/
def Projects (step : State → Action → Option State)
    (abstractStep : Abstract → Event → Option Abstract)
    (view : State → Abstract) (label : State → Action → Option Event) : Prop :=
  ∀ state next action, step state action = some next → match label state action with
    | some event => abstractStep (view state) event = some (view next)
    | none => view next = view state

section

variable {abstractStep : Abstract → Event → Option Abstract} {view : State → Abstract} {label :
  State → Action → Option Event} (hprojects : Projects step abstractStep view label) (invariant :
  Abstract → Prop)

include hprojects

theorem Projects.run_guarded_invariant {guard : Abstract → Event → Prop}
    (hkeep : ∀ {before after : Abstract} {event : Event}, invariant before → guard before event →
        abstractStep before event = some after → invariant after)
    (hstart : invariant (view start))
    (hguarded : Guarded step (fun state action =>
      ∀ event, label state action = some event → guard (view state) event)
      start actions)
    (hrun : run step start actions = some final) :
    invariant (view final) := by
  refine LabelledMachine.run_guarded_invariant
    (fun state => invariant (view state)) ?_ hstart hguarded hrun
  intro state next action hinv hguard hstep
  have hview := hprojects state next action hstep
  split at hview
  case h_1 event hlabel => exact hkeep hinv (hguard event hlabel) hview
  case h_2 =>
      rw [hview]
      exact hinv

theorem Projects.run_invariant (hkeep : ∀ {before after : Abstract} {event : Event},
      invariant before → abstractStep before event = some after → invariant after)
    (hstart : invariant (view start))
    (hrun : run step start actions = some final) :
    invariant (view final) :=
  hprojects.run_guarded_invariant invariant (fun hinv (_ : True) hstep => hkeep hinv hstep) hstart
    (guarded_of_forall (fun _ _ _ _ => trivial) start actions) hrun

end

structure Execution (step : State → Action → Option State) (start : State) where
  state : ℕ → State
  action : ℕ → Action
  initial : state 0 = start
  next : ∀ time, step (state time) (action time) = some (state (time + 1))

theorem Execution.invariant_at (execution : Execution step start) (invariant : State → Prop)
    (hkeep : ∀ {state next : State} {action : Action}, invariant state → guard state action →
        step state action = some next → invariant next)
    (hstart : invariant start)
    (hguard : ∀ time, guard (execution.state time) (execution.action time))
    (time : ℕ) : invariant (execution.state time) := by
  induction time with
  | zero =>
    rw [execution.initial]
    exact hstart
  | succ time ih => exact hkeep ih (hguard time) (execution.next time)

theorem Execution.reachable (execution : Execution step start) (time : ℕ) :
    Reachable step start (execution.state time) := by
  induction time with
  | zero =>
    rw [execution.initial]
    exact Reachable.refl start
  | succ time ih => exact ih.next (execution.next time)

def Execution.idleAfter {start final : State} {idle : Action}
    (actions : List Action) (hrun : run step start actions = some final)
    (hidle : step final idle = some final) : Execution step start where
  state := fun time => (run step start (actions.take time)).getD final
  action := fun time => actions.getD time idle
  initial := by simp
  next := by
    intro time
    rcases Nat.lt_or_ge time actions.length with hlt | hge
    · have hsplit : actions = actions.take (time + 1) ++ actions.drop (time + 1) :=
        (List.take_append_drop _ _).symm
      rw [hsplit, run_append, Option.bind_eq_some_iff] at hrun
      obtain ⟨next, hnext, -⟩ := hrun
      have htake : actions.take (time + 1) = actions.take time ++ [actions[time]] := by
        rw [List.take_append_getElem]
      have hboth := hnext
      rw [htake, run_concat_eq_some] at hboth
      obtain ⟨middle, hmiddle, hstep⟩ := hboth
      rw [hmiddle, hnext, List.getD_eq_getElem _ _ hlt]
      exact hstep
    · rw [List.take_of_length_le hge, List.take_of_length_le (by omega),
        hrun, List.getD_eq_default _ _ hge]
      exact hidle

theorem Execution.idleAfter_state {idle : Action} (hrun : run step start actions = some final)
    (hidle : step final idle = some final) {time : ℕ}
    (hle : actions.length ≤ time) :
    (Execution.idleAfter actions hrun hidle).state time = final := by
  simp [Execution.idleAfter, List.take_of_length_le hle, hrun]

end LabelledMachine
