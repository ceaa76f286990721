import LittleBaby.ExecInlineFlags
import LittleBaby.ExecWrapperGrammar

/-!
# Trust plans of wrapped commands

A plan takes the wrappers off a command, one by one, and blocks the command when
it cannot follow them.
-/

namespace LittleBaby.ExecTrust

open JsString Exec

variable (host : Host)

structure DispatchWrapperTrustPlan where
  argv : Argv
  wrappers : List JsString
  policyBlocked : Bool
  blockedWrapper : Option JsString

def dispatchTrustLoop : ℕ → List JsString → Argv → DispatchWrapperTrustPlan
  | 0, wrappers, current => ⟨current, wrappers, false, none⟩
  | depth + 1, wrappers, current =>
    match unwrapKnownDispatchWrapperInvocation host current with
    | .notWrapper => ⟨current, wrappers, false, none⟩
    | .blocked wrapper => ⟨current, wrappers, true, some wrapper⟩
    | .unwrapped wrapper argv =>
      if argv = [] then ⟨current, wrappers, false, none⟩
      else if isSemanticDispatchWrapperUsage host wrapper current then
        ⟨current, wrappers ++ [wrapper], true, some wrapper⟩
      else dispatchTrustLoop depth (wrappers ++ [wrapper]) argv

def overflowWrapper : UnwrapResult → Option JsString
  | .notWrapper => none
  | .blocked wrapper => some wrapper
  | .unwrapped wrapper _ => some wrapper

variable (argv : Argv) (maxDepth : ℕ)

def resolveDispatchWrapperTrustPlan : DispatchWrapperTrustPlan :=
  let plan := dispatchTrustLoop host maxDepth [] argv
  if plan.policyBlocked then plan
  else if maxDepth ≤ plan.wrappers.length then
    match overflowWrapper (unwrapKnownDispatchWrapperInvocation host plan.argv) with
    | some wrapper => { plan with policyBlocked := true, blockedWrapper := some wrapper }
    | none => plan
  else plan

structure ExecWrapperTrustPlan where
  argv : Argv
  policyArgv : Argv
  wrapperChain : List JsString
  policyBlocked : Bool
  blockedWrapper : Option JsString
  shellWrapperExecutable : Bool
  shellInlineCommand : Option JsString

def blockedExecWrapperTrustPlan (policyArgv : Argv) (wrapperChain : List JsString)
    (blockedWrapper : JsString) : ExecWrapperTrustPlan where
  argv := argv
  policyArgv := policyArgv
  wrapperChain := wrapperChain
  policyBlocked := true
  blockedWrapper := some blockedWrapper
  shellWrapperExecutable := false
  shellInlineCommand := none

def finalizeExecWrapperTrustPlan (argv policyArgv : Argv) (wrapperChain : List JsString) :
    ExecWrapperTrustPlan :=
  let shellWrapperExecutable := (firstToken argv).any (isShellWrapperExecutable host)
  { argv := argv
    policyArgv := policyArgv
    wrapperChain := wrapperChain
    policyBlocked := false
    blockedWrapper := none
    shellWrapperExecutable := shellWrapperExecutable
    shellInlineCommand :=
      if shellWrapperExecutable then extractShellWrapperInlineCommand host argv else none }

def finishTrustPlan (current policyArgv : Argv) (wrapperChain : List JsString)
    (maxDepth : ℕ) : ExecWrapperTrustPlan :=
  if maxDepth ≤ wrapperChain.length then
    match overflowWrapper (unwrapKnownDispatchWrapperInvocation host current) with
    | some wrapper => blockedExecWrapperTrustPlan current policyArgv wrapperChain wrapper
    | none =>
      match overflowWrapper (unwrapKnownShellMultiplexerInvocation host current) with
      | some wrapper => blockedExecWrapperTrustPlan current policyArgv wrapperChain wrapper
      | none => finalizeExecWrapperTrustPlan host current policyArgv wrapperChain
  else finalizeExecWrapperTrustPlan host current policyArgv wrapperChain

def trustPlanLoop (maxDepth : ℕ) : ℕ → Argv → Argv → Bool → List JsString → ExecWrapperTrustPlan
  | 0, current, policyArgv, _, wrapperChain =>
    finishTrustPlan host current policyArgv wrapperChain maxDepth
  | depth + 1, current, policyArgv, sawShellMultiplexer, wrapperChain =>
    let dispatchPlan :=
      resolveDispatchWrapperTrustPlan host current (maxDepth - wrapperChain.length)
    if dispatchPlan.policyBlocked then
      blockedExecWrapperTrustPlan dispatchPlan.argv dispatchPlan.argv wrapperChain
        ((dispatchPlan.blockedWrapper.or current.head?).getD (js "unknown"))
    else if dispatchPlan.wrappers ≠ [] then
      let wrapperChain := wrapperChain ++ dispatchPlan.wrappers
      let current := dispatchPlan.argv
      let policyArgv := if sawShellMultiplexer then policyArgv else current
      if maxDepth ≤ wrapperChain.length then
        finishTrustPlan host current policyArgv wrapperChain maxDepth
      else trustPlanLoop maxDepth depth current policyArgv sawShellMultiplexer wrapperChain
    else
      match unwrapKnownShellMultiplexerInvocation host current with
      | .blocked wrapper =>
        blockedExecWrapperTrustPlan current policyArgv wrapperChain wrapper
      | .notWrapper => finishTrustPlan host current policyArgv wrapperChain maxDepth
      | .unwrapped wrapper argv =>
        let wrapperChain := wrapperChain ++ [wrapper]
        let policyArgv := if sawShellMultiplexer then policyArgv else current
        if maxDepth ≤ wrapperChain.length then
          finishTrustPlan host argv policyArgv wrapperChain maxDepth
        else trustPlanLoop maxDepth depth argv policyArgv true wrapperChain

def resolveExecWrapperTrustPlan : ExecWrapperTrustPlan :=
  trustPlanLoop host maxDepth maxDepth argv argv false []

def DispatchWrapperTrustPlan.forget (plan : DispatchWrapperTrustPlan) :
    Exec.DispatchWrapperTrustPlan :=
  ⟨plan.argv, plan.wrappers, plan.policyBlocked⟩

def ExecWrapperTrustPlan.forget (plan : ExecWrapperTrustPlan) : Exec.ExecWrapperTrustPlan :=
  ⟨plan.argv, plan.policyArgv, plan.policyBlocked⟩

theorem dispatchTrustLoop_forget (depth : ℕ) (wrappers : List JsString) (current : Argv) :
    (dispatchTrustLoop host depth wrappers current).forget =
      Exec.dispatchTrustLoop host depth wrappers current := by
  induction depth generalizing wrappers current with
  | zero => rfl
  | succ depth ih =>
    unfold dispatchTrustLoop Exec.dispatchTrustLoop
    cases unwrapKnownDispatchWrapperInvocation host current with
    | notWrapper => rfl
    | blocked wrapper => rfl
    | unwrapped wrapper argv =>
      simp only
      split_ifs
      · rfl
      · rfl
      · exact ih _ _

theorem overflowWrapper_eq_none {result : UnwrapResult} :
    overflowWrapper result = none ↔ result = .notWrapper := by
  cases result with
  | notWrapper | blocked wrapper | unwrapped wrapper argv =>
    simp [overflowWrapper]

theorem resolveDispatchWrapperTrustPlan_forget :
    (resolveDispatchWrapperTrustPlan host argv maxDepth).forget =
      Exec.resolveDispatchWrapperTrustPlan host argv maxDepth := by
  unfold resolveDispatchWrapperTrustPlan Exec.resolveDispatchWrapperTrustPlan
  rw [← dispatchTrustLoop_forget]
  cases hblocked : (dispatchTrustLoop host maxDepth [] argv).policyBlocked with
  | true => simp [DispatchWrapperTrustPlan.forget, hblocked]
  | false =>
    by_cases hfull : maxDepth ≤ (dispatchTrustLoop host maxDepth [] argv).wrappers.length
    · cases hunwrap : unwrapKnownDispatchWrapperInvocation host
        (dispatchTrustLoop host maxDepth [] argv).argv with
      | notWrapper | blocked wrapper | unwrapped wrapper rest =>
        simp [DispatchWrapperTrustPlan.forget, overflowWrapper, hblocked, hfull, hunwrap]
    · simp [DispatchWrapperTrustPlan.forget, hblocked, hfull]

theorem finishTrustPlan_forget (current policyArgv : Argv) (wrapperChain : List JsString)
    (maxDepth : ℕ) :
    (finishTrustPlan host current policyArgv wrapperChain maxDepth).forget =
      Exec.finishTrustPlan host current policyArgv wrapperChain.length maxDepth := by
  unfold finishTrustPlan Exec.finishTrustPlan
  by_cases hfull : maxDepth ≤ wrapperChain.length
  · cases hdispatch : overflowWrapper (unwrapKnownDispatchWrapperInvocation host current) with
    | some wrapper =>
      have hne : unwrapKnownDispatchWrapperInvocation host current ≠ .notWrapper := by
        intro hnot
        rw [overflowWrapper_eq_none.mpr hnot] at hdispatch
        cases hdispatch
      rw [if_pos hfull, if_pos ⟨hfull, Or.inl hne⟩]
      rfl
    | none =>
      cases hmultiplexer : overflowWrapper (unwrapKnownShellMultiplexerInvocation host current) with
      | some wrapper =>
        have hne : unwrapKnownShellMultiplexerInvocation host current ≠ .notWrapper := by
          intro hnot
          rw [overflowWrapper_eq_none.mpr hnot] at hmultiplexer
          cases hmultiplexer
        rw [if_pos hfull, if_pos ⟨hfull, Or.inr hne⟩]
        rfl
      | none =>
        have hnot : ¬(maxDepth ≤ wrapperChain.length ∧
            (unwrapKnownDispatchWrapperInvocation host current ≠ .notWrapper ∨
              unwrapKnownShellMultiplexerInvocation host current ≠ .notWrapper)) := by
          rw [overflowWrapper_eq_none.mp hdispatch, overflowWrapper_eq_none.mp hmultiplexer]
          simp
        rw [if_pos hfull, if_neg hnot]
        rfl
  · rw [if_neg hfull, if_neg (fun hover => hfull hover.1)]
    rfl

theorem trustPlanLoop_forget (maxDepth depth : ℕ) (current policyArgv : Argv) (saw : Bool)
    (wrapperChain : List JsString) :
    (trustPlanLoop host maxDepth depth current policyArgv saw wrapperChain).forget =
      Exec.trustPlanLoop host maxDepth depth current policyArgv saw wrapperChain.length := by
  induction depth generalizing current policyArgv saw wrapperChain with
  | zero => exact finishTrustPlan_forget host current policyArgv wrapperChain maxDepth
  | succ depth ih =>
    unfold trustPlanLoop Exec.trustPlanLoop
    rw [← resolveDispatchWrapperTrustPlan_forget]
    generalize resolveDispatchWrapperTrustPlan host current
      (maxDepth - wrapperChain.length) = dispatchPlan
    by_cases hblocked : dispatchPlan.policyBlocked = true
    · have hforget : dispatchPlan.forget.policyBlocked = true := hblocked
      simp only [if_pos hblocked, if_pos hforget]
      rfl
    · have hforget : ¬dispatchPlan.forget.policyBlocked = true := hblocked
      simp only [if_neg hblocked, if_neg hforget]
      by_cases hwrappers : dispatchPlan.wrappers ≠ []
      · have hnames : dispatchPlan.forget.wrappers ≠ [] := hwrappers
        have hlength : (wrapperChain ++ dispatchPlan.wrappers).length =
            wrapperChain.length + dispatchPlan.forget.wrappers.length := List.length_append
        simp only [if_pos hwrappers, if_pos hnames, ← hlength]
        by_cases hfull : maxDepth ≤ (wrapperChain ++ dispatchPlan.wrappers).length
        · simp only [if_pos hfull]
          exact finishTrustPlan_forget host _ _ _ maxDepth
        · simp only [if_neg hfull]
          exact ih _ _ _ _
      · have hnames : ¬dispatchPlan.forget.wrappers ≠ [] := hwrappers
        simp only [if_neg hwrappers, if_neg hnames]
        cases unwrapKnownShellMultiplexerInvocation host current with
        | blocked wrapper => rfl
        | notWrapper => exact finishTrustPlan_forget host _ _ _ maxDepth
        | unwrapped wrapper argv =>
          have hlength : (wrapperChain ++ [wrapper]).length = wrapperChain.length + 1 :=
            List.length_append
          simp only [← hlength]
          by_cases hfull : maxDepth ≤ (wrapperChain ++ [wrapper]).length
          · simp only [if_pos hfull]
            exact finishTrustPlan_forget host _ _ _ maxDepth
          · simp only [if_neg hfull]
            exact ih _ _ _ _

theorem resolveExecWrapperTrustPlan_forget :
    (resolveExecWrapperTrustPlan host argv maxDispatchWrapperDepth).forget =
      Exec.resolveExecWrapperTrustPlan host argv :=
  trustPlanLoop_forget host _ _ argv argv false []

end LittleBaby.ExecTrust
