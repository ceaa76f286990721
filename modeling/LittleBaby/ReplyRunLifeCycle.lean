import LittleBaby.ReplyRunConsistency

/-!
# The life of a reply operation

The result of an operation is set once.
-/

namespace LittleBaby.ReplyRuns

open JsString LabelledMachine

variable {state next : ReplyRunState} {index : ℕ} {operation : ReplyOperation}

def ResultIs (index : ℕ) (result : ReplyOperationResult) (state : ReplyRunState) : Prop :=
  ∃ operation, state.operations.get? index = some operation ∧ operation.result = some result

variable {action : Action}

theorem ResultIs.step {result : ReplyOperationResult} (hresult : ResultIs index result state)
    (hstep : step state action = some next) : ResultIs index result next := by
  obtain ⟨operation, hget, hresult⟩ := hresult
  obtain ⟨changed, hchanged, heffect⟩ := (step_effects hstep index).old operation hget
  refine ⟨changed, hchanged, ?_⟩
  cases heffect with
  | ends _ _ _ _ _ hends =>
    rcases hends with ⟨hkept, -⟩ | ⟨hlive, -⟩
    · rw [hkept, hresult]
    · rw [hlive] at hresult
      contradiction
  | aborts _ code => simp [hresult]
  | _ => exact hresult

def Action.Aborts (index : ℕ) : Action → Bool
  | .abortByUser other => other = index
  | .abortForRestart other => other = index
  | _ => false

/-- The operation is not aborted once it has completed or failed. -/
def Timely (index : ℕ) (state : ReplyRunState) (action : Action) : Prop :=
  action.Aborts index = true →
    ∀ operation ∈ state.operations.get? index, ∀ result ∈ operation.result, result.phase = .aborted

instance (index : ℕ) (state : ReplyRunState) (action : Action) :
    Decidable (Timely index state action) :=
  inferInstanceAs (Decidable (_ → _))

def PhaseFits (index : ℕ) (state : ReplyRunState) : Prop :=
  ∀ operation, state.operations.get? index = some operation →
    ∀ result, operation.result = some result → operation.phase = result.phase

theorem PhaseFits.step (hfits : PhaseFits index state) (htimely : Timely index state action)
    (hstep : step state action = some next) : PhaseFits index next := by
  intro changed hchanged result hresult
  obtain ⟨hold, hnew⟩ := step_effects hstep index
  cases hget : state.operations.get? index with
  | none =>
    rw [((hnew hget).2 changed hchanged).2] at hresult
    contradiction
  | some operation =>
    obtain ⟨found, hfound, heffect⟩ := hold operation hget
    cases hchanged.symm.trans hfound
    have hbefore := hfits operation hget
    cases heffect with
    | setPhase phase hlive =>
      rw [hlive] at hresult
      contradiction
    | ends _ _ _ _ _ hends =>
      rcases hends with ⟨hkept, hphase⟩ | ⟨-, hset⟩
      · rw [hphase]
        exact hbefore result (hkept ▸ hresult)
      · exact hset result hresult
    | aborts _ code haction =>
      have haborts : action.Aborts index = true := by
        rcases haction with rfl | rfl <;> simp [Action.Aborts]
      rcases Option.or_eq_some_iff.mp hresult with hset | ⟨-, hset⟩
      · exact (htimely haborts operation hget result hset).symm
      · cases hset
        rfl
    | _ => exact hbefore result hresult

/-- The handle is not detached, and no other is attached while the operation
is live. -/
def Undisturbed (index handle : ℕ) (state : ReplyRunState) : Action → Prop
  | .detachBackend other removed => ¬ (other = index ∧ removed = handle)
  | .attachBackend other added =>
    other = index → ∀ operation, state.operations.get? index = some operation →
      operation.result = none → added = handle
  | _ => True

def Attached (index handle : ℕ) (state : ReplyRunState) : Prop :=
  ∃ operation, state.operations.get? index = some operation ∧ operation.backend = some handle

theorem Attached.step {handle : ℕ} (hattached : Attached index handle state)
    (hundisturbed : Undisturbed index handle state action)
    (hstep : step state action = some next) : Attached index handle next := by
  obtain ⟨operation, hget, hbackend⟩ := hattached
  obtain ⟨changed, hchanged, heffect⟩ := (step_effects hstep index).old operation hget
  refine ⟨changed, hchanged, ?_⟩
  cases heffect with
  | attachBackend added hlive =>
    exact congrArg some (hundisturbed rfl operation hget hlive)
  | detachBackend removed hremoved =>
    rw [hbackend] at hremoved
    exact absurd ⟨rfl, (Option.some.inj hremoved).symm⟩ hundisturbed
  | ends _ _ _ _ hkept => rw [hkept, hbackend]
  | _ => exact hbackend

theorem attached_of_step {handle : ℕ} (hget : state.operations.get? index = some operation)
    (hlive : operation.result = none)
    (hstep : step state (.attachBackend index handle) = some next) :
    Attached index handle next := by
  obtain ⟨found, hfound, hnext⟩ := Option.map_eq_some_iff.mp hstep
  cases hget.symm.trans hfound
  have hoperations : next.operations =
      state.operations.put index { operation with backend := some handle } := by
    rw [← hnext]
    simp only [attachBackend, hlive]
    split_ifs <;> rfl
  exact ⟨{ operation with backend := some handle },
    by rw [hoperations, Arena.get?_put hget, if_pos rfl], rfl⟩

def Called (state : ReplyRunState) : Prop :=
  ∀ call ∈ state.abortCalls, ∀ attached ∈ call.attached, ∀ handle ∈ attached,
    (handle, call.reason) ∈ state.cancels

theorem Called.mono (hcalled : Called state) (hcancels : state.cancels ⊆ next.cancels)
    (hcalls : ∀ call ∈ next.abortCalls,
      call ∈ state.abortCalls ∨ call.attached = none) : Called next := by
  intro call hcall attached hattached handle hhandle
  rcases hcalls call hcall with hbefore | hnone
  · exact hcancels (hcalled call hbefore attached hattached handle hhandle)
  · rw [hnone] at hattached
    contradiction

theorem Called.clearState (hcalled : Called state) (operation : ReplyOperation) :
    Called (clearState index operation state) := by
  have hkept : (ReplyRuns.clearState index operation state).cancels = state.cancels ∧
      (ReplyRuns.clearState index operation state).abortCalls =
        state.abortCalls := by
    unfold ReplyRuns.clearState
    split_ifs
    · exact ⟨rfl, rfl⟩
    · unfold clearReplyRunState notifyReplyRunEnded
      simp only
      split <;> exact ⟨rfl, rfl⟩
  apply hcalled.mono
  · exact hkept.1 ▸ List.Subset.refl _
  · exact fun call hcall => .inl (hkept.2 ▸ hcall)

theorem Called.abort (hcalled : Called state) (index : ℕ)
    (operation : ReplyOperation) (reason : ReplyBackendCancelReason)
    (abortedCode : ReplyOperationAbortCode) :
    Called (abortWithReason index operation state reason abortedCode) := by
  refine hcalled.mono (List.Subset.refl _) fun call hcall => ?_
  rcases List.mem_cons.mp hcall with rfl | hbefore
  · exact .inr rfl
  · exact .inl hbefore

theorem cancelBackend_cancels (call : AbortCall) (rest : List AbortCall)
    (operation : ReplyOperation) (state : ReplyRunState) :
    (cancelBackend call rest operation state).cancels = state.cancels ++
      operation.backend.toList.map fun handle => (handle, call.reason) := by
  unfold cancelBackend
  cases operation.backend with
  | none => simp
  | some handle => rfl

theorem Called.cancelBackend (hcalled : Called state) {call : AbortCall}
    {rest : List AbortCall} (hcalls : state.abortCalls = call :: rest)
    (operation : ReplyOperation) :
    Called (cancelBackend call rest operation state) := by
  have hnext : (ReplyRuns.cancelBackend call rest operation state).abortCalls =
      { call with attached := some operation.backend } :: rest := by
    unfold ReplyRuns.cancelBackend
    simp only
    split <;> rfl
  intro other hother attached hattached handle hhandle
  rw [cancelBackend_cancels]
  rw [hnext] at hother
  rcases List.mem_cons.mp hother with rfl | hrest
  · cases hattached
    have hsome : operation.backend = some handle := hhandle
    simp [hsome]
  · exact List.mem_append_left _ (hcalled other
      (hcalls ▸ List.mem_cons_of_mem call hrest) attached hattached handle hhandle)

theorem Called.step (hcalled : Called state)
    (hstep : step state action = some next) : Called next := by
  cases action with
  | begin sessionKey sessionId upstreamAborted =>
    cases hstep
    unfold createReplyOperation
    split
    next => exact hcalled
    next =>
      split
      next => exact hcalled
      next => split_ifs <;> exact hcalled
  | setPhase | detachBackend =>
    obtain ⟨operation, -, rfl⟩ := Option.map_eq_some_iff.mp hstep
    simp only [setPhase, detachBackend]
    split_ifs <;> exact hcalled
  | updateSessionId index nextSessionId =>
    obtain ⟨operation, -, rfl⟩ := Option.map_eq_some_iff.mp hstep
    unfold updateSessionId
    split_ifs
    · exact hcalled
    · split
      next => exact hcalled
      next => split_ifs <;> exact hcalled
  | attachBackend index handle =>
    obtain ⟨operation, -, rfl⟩ := Option.map_eq_some_iff.mp hstep
    have hadded : ∀ added : ReplyRunState, added.abortCalls = state.abortCalls →
          state.cancels ⊆ added.cancels → Called added :=
      fun added hcalls hcancels =>
        hcalled.mono hcancels fun _ hcall => .inl (hcalls ▸ hcall)
    unfold attachBackend
    split
    next => exact hadded _ rfl (List.subset_append_left _ _)
    next =>
      simp only
      split_ifs
      · exact hadded _ rfl (List.subset_append_left _ _)
      · exact hcalled

  | complete | fail =>
    obtain ⟨operation, -, rfl⟩ := Option.map_eq_some_iff.mp hstep
    exact hcalled.clearState _
  | abortByUser | abortForRestart =>
    obtain ⟨operation, -, rfl⟩ := Option.map_eq_some_iff.mp hstep
    exact hcalled.abort _ _ _ _
  | cancelBackend =>
    obtain ⟨call, rest, operation, hcalls, -, rfl⟩ := step_cancelBackend hstep
    exact hcalled.cancelBackend hcalls operation
  | returnAbort threw =>
    obtain ⟨call, rest, attached, operation, hcalls, -, -, rfl⟩ := step_returnAbort hstep
    have hpopped : Called { state with abortCalls := rest } :=
      hcalled.mono (List.Subset.refl _) fun _ hcall =>
        .inl (hcalls ▸ List.mem_cons_of_mem call hcall)
    unfold returnAbort
    split_ifs
    · exact hpopped
    · exact hpopped.clearState operation
    · exact hpopped
  | upstreamAbort index =>
    obtain ⟨operation, -, rfl⟩ := Option.map_eq_some_iff.mp hstep
    exact hcalled
  | waitForIdle sessionKey =>
    cases hstep
    unfold waitForIdle
    simp only
    split
    next => exact hcalled
    next => split_ifs <;> exact hcalled
  | waitTimeout sessionKey waiter =>
    obtain ⟨waiters, -, hstep⟩ := Option.bind_eq_some_iff.mp hstep
    simp only [Option.ite_none_right_eq_some, Option.some.injEq] at hstep
    obtain ⟨-, rfl⟩ := hstep
    exact hcalled

/-- In every run the result of an operation stays once it is set, with its
phase unless the operation is aborted after it completed or failed.  A handle
attached to a live operation is called by every abort that comes while it is
attached, and one attached later at once. -/
theorem reply_operation_life_cycle {actions : List Action}
    {state : ReplyRunState} (hrun : run step replyRunState actions = some state)
    {index : ℕ} {operation : ReplyOperation}
    (hget : state.operations.get? index = some operation) :
    (∀ result, operation.result = some result → (∀ later last, run step state later = some last →
        ∃ changed, last.operations.get? index = some changed ∧ changed.result = some result ∧
          (Guarded step (Timely index) replyRunState (actions ++ later) →
            changed.phase = result.phase)) ∧
      ∀ handle next, step state (.attachBackend index handle) = some next →
        next.cancels = state.cancels ++ [(handle, result.cancelReason)]) ∧
    (operation.result = none → (∀ handle attached between last,
        step state (.attachBackend index handle) = some attached →
        Guarded step (Undisturbed index handle) attached between →
        run step attached between = some last → ∀ call rest next, last.abortCalls = call :: rest →
            call.operation = index → step last .cancelBackend = some next →
              next.cancels = last.cancels ++ [(handle, call.reason)]) ∧
      (∀ next, step state (.abortByUser index) = some next → next.abortCalls =
          ⟨index, operation.phase, .user_abort, none⟩ :: state.abortCalls) ∧
      ∀ next, step state (.abortForRestart index) = some next →
        next.abortCalls = ⟨index, operation.phase, .restart, none⟩ :: state.abortCalls) ∧
    ∀ threw next, step state (.returnAbort threw) = some next →
      ∃ call attached, call ∈ state.abortCalls.head? ∧ call.attached = some attached ∧
        ∀ handle ∈ attached, (handle, call.reason) ∈ state.cancels := by
  refine ⟨fun result hresult => ⟨?_, ?_⟩, fun hlive => ⟨?_, ?_, ?_⟩, ?_⟩
  · intro later last hlater
    obtain ⟨changed, hchanged, hkept⟩ :=
      run_invariant (ResultIs index result) ResultIs.step ⟨operation, hget, hresult⟩ hlater
    refine ⟨changed, hchanged, hkept, fun htimely => ?_⟩
    have hall : run step replyRunState (actions ++ later) = some last := by
      rw [run_append, hrun]
      exact hlater
    have hstart : PhaseFits index replyRunState := by
      simp [PhaseFits, replyRunState]
    exact run_guarded_invariant (PhaseFits index) PhaseFits.step hstart htimely
      hall changed hchanged result hkept
  · intro handle next hstep
    simp only [step, hget, Option.map_some, attachBackend, hresult, Option.some.injEq] at hstep
    rw [← hstep]
    rfl
  · intro handle attached between last hattach hundisturbed hbetween call rest next
      hcalls hindex hstep
    obtain ⟨changed, hchanged, hbackend⟩ :=
      run_guarded_invariant (Attached index handle) Attached.step
        (attached_of_step hget hlive hattach) hundisturbed hbetween
    obtain ⟨head, tail, called, hhead, ⟨-, hcalled⟩, rfl⟩ := step_cancelBackend hstep
    cases hcalls.symm.trans hhead
    rw [hindex, hchanged] at hcalled
    cases hcalled
    rw [cancelBackend_cancels, hbackend]
    rfl
  · intro next hstep
    simp only [step, hget, Option.map_some, Option.some.injEq] at hstep
    rw [← hstep]
    rfl
  · intro next hstep
    simp only [step, hget, Option.map_some, Option.some.injEq] at hstep
    rw [← hstep]
    rfl
  · intro threw next hstep
    obtain ⟨call, rest, attached, -, hcalls, hattached, -⟩ := step_returnAbort hstep
    have hcalled : Called state := by
      refine run_invariant Called Called.step ?_ hrun
      simp [Called, replyRunState]
    exact ⟨call, attached, by simp [hcalls], hattached,
      hcalled call (by simp [hcalls]) attached hattached⟩

def abortedRun : List Action :=
  [.begin (js "main") (js "one") false, .attachBackend 0 7,
    .abortByUser 0, .cancelBackend, .returnAbort false]

theorem aborted_run_runs : (run step replyRunState abortedRun).isSome = true := by
  decide

def abortedRunEnd : ReplyRunState := Option.get _ aborted_run_runs

theorem late_attach_runs : (step abortedRunEnd (.attachBackend 0 8)).isSome = true := by
  decide

theorem late_handle_cancelled : (Option.get _ late_attach_runs).cancels =
      abortedRunEnd.cancels ++ [(8, .user_abort)] := by
  have hget : abortedRunEnd.operations.get? 0 = some ⟨js "main", js "one",
      .aborted, some (.aborted .aborted_by_user), true, true, some 7⟩ := by
    decide
  have hlife := reply_operation_life_cycle (Option.eq_some_of_isSome aborted_run_runs) hget
  exact (hlife.1 _ rfl).2 8 _ (Option.eq_some_of_isSome late_attach_runs)

def replacedRun : List Action :=
  [.begin (js "main") (js "one") false, .attachBackend 0 7, .attachBackend 0 8,
    .abortByUser 0, .cancelBackend, .returnAbort false]

def lateAbortRun : List Action := [.begin (js "main") (js "one") false, .complete 0, .abortByUser 0]

/-- The abort misses a handle that another has replaced, and an abort after the
end changes the phase and fires the signal. -/
theorem replaced_handle_not_cancelled : (run step replyRunState replacedRun).map
        (fun final => final.cancels.map Prod.fst) = some [8] ∧
      (run step replyRunState lateAbortRun).bind (fun final => final.operations.get? 0) =
          some ⟨js "main", js "one", .aborted, some .completed, true, true, none⟩ := by
  decide

end LittleBaby.ReplyRuns
