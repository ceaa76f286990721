import LittleBaby.LabelledMachine

/-!
# The history of a run

The steps of a run in order, each with the state it is taken from, and the
induction rule for properties of a state and the history that led to it.
-/

namespace LabelledMachine

variable {State Action : Type*} {step : State → Action → Option State}

def history (step : State → Action → Option State) : State → List Action → List (State × Action)
  | _, [] => []
  | state, action :: rest =>
    (state, action) :: match step state action with
      | none => []
      | some next => history step next rest

theorem history_cons {state next : State} {action : Action} {rest : List Action}
    (hstep : step state action = some next) :
    history step state (action :: rest) = (state, action) :: history step next rest := by
  simp [history, hstep]

theorem history_invariant (invariant : List (State × Action) → State → Prop)
    {guard : State → Action → Prop}
    (hkeep : ∀ {past : List (State × Action)} {state next : State}
      {action : Action}, invariant past state → guard state action →
        step state action = some next → invariant (past ++ [(state, action)]) next)
    {start final : State} {actions : List Action} (hstart : invariant [] start)
    (hguarded : Guarded step guard start actions)
    (hrun : run step start actions = some final) :
    invariant (history step start actions) final := by
  have hpast : ∀ (actions : List Action) (past : List (State × Action))
      (state : State), invariant past state → Guarded step guard state actions →
        run step state actions = some final →
          invariant (past ++ history step state actions) final := by
    intro actions
    induction actions with
    | nil =>
      intro past state hstate _ hrun
      simp only [run_nil, Option.some.injEq] at hrun
      subst hrun
      simpa [history] using hstate
    | cons action rest ih =>
      intro past state hstate hguarded hrun
      obtain ⟨next, hstep, hrest⟩ := run_cons_eq_some.mp hrun
      have hnext := ih (past ++ [(state, action)]) next
        (hkeep hstate hguarded.1 hstep) (hguarded.2 next hstep) hrest
      rw [history_cons hstep]
      simpa using hnext
  simpa using hpast actions [] start hstart hguarded hrun

end LabelledMachine
