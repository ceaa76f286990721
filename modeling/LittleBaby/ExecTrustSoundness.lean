import LittleBaby.ExecTrustPlan

/-!
# What a trust plan hides

A plan that is not blocked has taken off invocations of known wrappers only, in the
order in which it lists them, and what is left is wrapped no more.
-/

namespace LittleBaby.ExecTrust

open JsString Exec

variable (host : Host)

def isMultiplexerName (name : JsString) : Bool := isAnyOf name ["busybox", "toybox"]

def IsWrapped (argv : Argv) : Prop :=
  ∃ token, firstToken argv = some token ∧ (isDispatchWrapperExecutable host token = true ∨
      isMultiplexerName (normalizeExecutableToken host token) = true)

/-- One wrapper before the rest of a command.  Nothing is said about the options of an
`env` whose last argument is a lone dash. -/
structure DispatchStrip (wrapper : JsString) (argv rest : Argv) : Prop where
  named : CalledAs host wrapper argv
  proper : ∃ head stripped, argv = head :: (stripped ++ rest)
  invokes : (wrapper = js "env" → ∀ before dash, argv = before ++ dash :: rest →
    trim dash ≠ js "-") → Invokes host wrapper argv rest

structure MultiplexerStrip (wrapper : JsString) (argv rest : Argv) : Prop where
  named : CalledAs host wrapper argv
  multiplexer : isMultiplexerName wrapper = true
  proper : ∃ head separators, argv = head :: (separators ++ rest) ∧
    separators.map trim <+: [js "--"]
  shell : ∃ applet, firstToken rest = some applet ∧ isShellWrapperExecutable host applet = true

inductive Unwinds : Argv → List JsString → Argv → Prop
  | done (argv : Argv) : Unwinds argv [] argv
  | strip {wrapper : JsString} {argv rest last : Argv} {chain : List JsString}
      (hstrip : DispatchStrip host wrapper argv rest ∨ MultiplexerStrip host wrapper argv rest)
      (hlater : Unwinds rest chain last) : Unwinds argv (wrapper :: chain) last

inductive IsPolicyArgv (argv : Argv) (chain : List JsString) (policyArgv last : Argv) : Prop
  | direct (hnone : ∀ wrapper ∈ chain, isMultiplexerName wrapper = false)
      (hlast : policyArgv = last)
  | multiplexed {before after : List JsString} {multiplexer : JsString}
      (hchain : chain = before ++ multiplexer :: after)
      (hmultiplexer : isMultiplexerName multiplexer = true)
      (hnone : ∀ wrapper ∈ before, isMultiplexerName wrapper = false)
      (hbefore : Unwinds host argv before policyArgv)
      (hafter : Unwinds host policyArgv (multiplexer :: after) last)

/-- At least this many wrappers stand before one another. -/
inductive Nested : ℕ → Argv → Prop
  | none (argv : Argv) : Nested 0 argv
  | last {argv : Argv} (hwrapped : IsWrapped host argv) : Nested 1 argv
  | dispatch {n : ℕ} {wrapper : JsString} {argv rest : Argv}
      (hunwrap : unwrapKnownDispatchWrapperInvocation host argv = .unwrapped wrapper rest)
      (hrest : Nested n rest) : Nested (n + 1) argv
  | multiplexer {n : ℕ} {wrapper : JsString} {argv rest : Argv}
      (hunwrap : unwrapKnownShellMultiplexerInvocation host argv = .unwrapped wrapper rest)
      (hrest : Nested n rest) : Nested (n + 1) argv

variable {host}

variable {argv : Argv} {token : JsString}

theorem isDispatch_of_ne (hfirst : firstToken argv = some token) :
    unwrapKnownDispatchWrapperInvocation host argv ≠ .notWrapper ↔
      isDispatchWrapperExecutable host token = true := by
  unfold unwrapKnownDispatchWrapperInvocation isDispatchWrapperExecutable
  simp only [hfirst]
  cases hspec : dispatchWrapperSpec host (normalizeExecutableToken host token) with
  | none => simp
  | some spec =>
    simp only [Option.isSome_some, iff_true]
    split
    · simp
    · simp

def appletArgs (argv : Argv) : Argv :=
  if argv.tail.head?.map trim = some (js "--") then argv.tail.tail else argv.tail

theorem unwrapMultiplexer_eq (hfirst : firstToken argv = some token) :
    unwrapKnownShellMultiplexerInvocation host argv =
      if isMultiplexerName (normalizeExecutableToken host token) = true then
        if (firstToken (appletArgs argv)).any (isShellWrapperExecutable host) = true then
          .unwrapped (normalizeExecutableToken host token) (appletArgs argv)
        else .blocked (normalizeExecutableToken host token)
      else .notWrapper := by
  have happlets : (if argv.tail.head?.map trim = some (js "--") then argv.tail.tail
      else argv.tail) = appletArgs argv := rfl
  unfold unwrapKnownShellMultiplexerInvocation isMultiplexerName
  simp only [hfirst, happlets]
  cases hname : isAnyOf (normalizeExecutableToken host token) ["busybox", "toybox"] with
  | false => rfl
  | true =>
    simp only [Bool.not_true, Bool.false_eq_true, if_false, if_true]
    cases firstToken (appletArgs argv) with
    | none => rfl
    | some applet =>
      cases hshell : isShellWrapperExecutable host applet with
      | false => simp [hshell]
      | true => simp [hshell]

theorem isMultiplexer_of_ne (hfirst : firstToken argv = some token) :
    unwrapKnownShellMultiplexerInvocation host argv ≠ .notWrapper ↔
      isMultiplexerName (normalizeExecutableToken host token) = true := by
  rw [unwrapMultiplexer_eq hfirst]
  split_ifs with hname hshell
  · simp [hname]
  · simp [hname]
  · simp [hname]

theorem appletArgs_proper (head : JsString) (args : Argv) :
    ∃ separators, head :: args = head :: (separators ++ appletArgs (head :: args)) ∧
      separators.map trim <+: [js "--"] := by
  unfold appletArgs
  split_ifs with hseparator
  · cases args with
    | nil => cases hseparator
    | cons separator rest =>
      have htrim : trim separator = js "--" := Option.some.inj hseparator
      exact ⟨[separator], rfl, by simp [htrim]⟩
  · exact ⟨[], rfl, List.nil_prefix⟩

theorem not_isWrapped_iff :
    ¬IsWrapped host argv ↔ unwrapKnownDispatchWrapperInvocation host argv = .notWrapper ∧
      unwrapKnownShellMultiplexerInvocation host argv = .notWrapper := by
  cases hfirst : firstToken argv with
  | none =>
    have hdispatch : unwrapKnownDispatchWrapperInvocation host argv = .notWrapper := by
      unfold unwrapKnownDispatchWrapperInvocation
      rw [hfirst]
    have hmultiplexer : unwrapKnownShellMultiplexerInvocation host argv = .notWrapper := by
      unfold unwrapKnownShellMultiplexerInvocation
      rw [hfirst]
    constructor
    · intro _
      exact ⟨hdispatch, hmultiplexer⟩
    · rintro - ⟨token, htoken, -⟩
      rw [hfirst] at htoken
      cases htoken
  | some token =>
    have hwrapped : IsWrapped host argv ↔ isDispatchWrapperExecutable host token = true ∨
        isMultiplexerName (normalizeExecutableToken host token) = true := by
      unfold IsWrapped
      rw [hfirst]
      constructor
      · rintro ⟨other, hother, hname⟩
        rw [Option.some.inj hother]
        exact hname
      · intro hname
        exact ⟨token, rfl, hname⟩
    rw [hwrapped, ← isDispatch_of_ne hfirst, ← isMultiplexer_of_ne hfirst, not_or, not_not, not_not]

variable {wrapper : JsString} {rest : Argv}

theorem dispatchStrip_of_unwrap
    (hunwrap : unwrapKnownDispatchWrapperInvocation host argv = .unwrapped wrapper rest)
    (hplain : isSemanticDispatchWrapperUsage host wrapper argv = false) :
    DispatchStrip host wrapper argv rest := by
  have hcall := (unwrapDispatch_eq_unwrapped hunwrap).1
  rcases unwrapDispatch_invokes hunwrap hplain with hinvokes | ⟨henv, head, blanks, dash, rfl, hdash⟩
  · exact ⟨hcall, hinvokes.isSuffix, fun _ => hinvokes⟩
  · refine ⟨hcall, ⟨head, blanks ++ [dash], by simp⟩, fun hlone => ?_⟩
    exact absurd hdash (hlone henv (head :: blanks) dash rfl)

theorem multiplexerStrip_of_unwrap
    (hunwrap : unwrapKnownShellMultiplexerInvocation host argv = .unwrapped wrapper rest) :
    MultiplexerStrip host wrapper argv rest := by
  cases hfirst : firstToken argv with
  | none =>
    unfold unwrapKnownShellMultiplexerInvocation at hunwrap
    rw [hfirst] at hunwrap
    cases hunwrap
  | some token =>
    rw [unwrapMultiplexer_eq hfirst] at hunwrap
    split_ifs at hunwrap with hname hshell
    obtain ⟨rfl, rfl⟩ := UnwrapResult.unwrapped.inj hunwrap
    obtain ⟨head, args, rfl, -⟩ := firstToken_eq_some hfirst
    obtain ⟨applet, happlet, hposix⟩ := (Option.any_eq_true _ _).mp hshell
    obtain ⟨separators, hproper, hmarks⟩ := appletArgs_proper head args
    exact ⟨⟨token, hfirst, rfl⟩, hname, ⟨head, separators, hproper, hmarks⟩,
      applet, happlet, hposix⟩

theorem multiplexerName_of_dispatch
    (hunwrap : unwrapKnownDispatchWrapperInvocation host argv = .unwrapped wrapper rest) :
    isMultiplexerName wrapper = false := by
  have hnames : ∀ name ∈ (dispatchWrapperSpecs host).map DispatchWrapperSpec.name,
      isMultiplexerName (js name) = false := by
    have hlist : (dispatchWrapperSpecs host).map DispatchWrapperSpec.name =
        ["arch", "caffeinate", "chrt", "doas", "env", "ionice", "nice", "nohup",
          "sandbox-exec", "script", "setsid", "stdbuf", "sudo", "taskset", "time", "timeout",
          "xcrun"] := rfl
    rw [hlist]
    decide
  obtain ⟨-, spec, hmem, rfl, -⟩ := unwrapDispatch_eq_unwrapped hunwrap
  exact hnames spec.name (List.mem_map_of_mem hmem)

/-- What the loops have taken off so far. -/
inductive Peels (host : Host) : Argv → List JsString → Argv → Prop
  | done (argv : Argv) : Peels host argv [] argv
  | dispatch {wrapper : JsString} {argv rest last : Argv} {chain : List JsString}
      (hunwrap : unwrapKnownDispatchWrapperInvocation host argv = .unwrapped wrapper rest)
      (hplain : isSemanticDispatchWrapperUsage host wrapper argv = false)
      (hlater : Peels host rest chain last) : Peels host argv (wrapper :: chain) last
  | multiplexer {wrapper : JsString} {argv rest last : Argv} {chain : List JsString}
      (hnot : unwrapKnownDispatchWrapperInvocation host argv = .notWrapper)
      (hunwrap : unwrapKnownShellMultiplexerInvocation host argv = .unwrapped wrapper rest)
      (hlater : Peels host rest chain last) : Peels host argv (wrapper :: chain) last

variable {last : Argv}

theorem Peels.append {middle : Argv} {first second : List JsString}
    (hfirst : Peels host argv first middle) (hsecond : Peels host middle second last) :
    Peels host argv (first ++ second) last := by
  induction hfirst with
  | done => exact hsecond
  | dispatch hunwrap hplain _ ih => exact .dispatch hunwrap hplain (ih hsecond)
  | multiplexer hnot hunwrap _ ih => exact .multiplexer hnot hunwrap (ih hsecond)

theorem Peels.eq_of_nil (hpeels : Peels host argv [] last) : argv = last := by
  cases hpeels
  rfl

variable {chain : List JsString}

theorem Peels.unwinds (hpeels : Peels host argv chain last) : Unwinds host argv chain last := by
  induction hpeels with
  | done => exact .done _
  | dispatch hunwrap hplain _ ih =>
    exact .strip (.inl (dispatchStrip_of_unwrap hunwrap hplain)) ih
  | multiplexer hnot hunwrap _ ih =>
    exact .strip (.inr (multiplexerStrip_of_unwrap hunwrap)) ih

theorem unwrapMultiplexer_ne_nil
    (hunwrap : unwrapKnownShellMultiplexerInvocation host argv = .unwrapped wrapper rest) :
    rest ≠ [] := by
  obtain ⟨applet, hfirst, -⟩ := (multiplexerStrip_of_unwrap hunwrap).shell
  rintro rfl
  cases hfirst

theorem Peels.ne_nil (hpeels : Peels host argv chain last) (hne : argv ≠ []) : last ≠ [] := by
  induction hpeels with
  | done => exact hne
  | dispatch hunwrap _ _ ih => exact ih (unwrapDispatch_ne_nil hunwrap)
  | multiplexer _ hunwrap _ ih => exact ih (unwrapMultiplexer_ne_nil hunwrap)

theorem Peels.isSuffix (hpeels : Peels host argv chain last) : last <:+ argv := by
  induction hpeels with
  | done => exact List.suffix_rfl
  | dispatch hunwrap hplain _ ih =>
    obtain ⟨head, stripped, rfl⟩ := (dispatchStrip_of_unwrap hunwrap hplain).proper
    exact ih.trans ⟨head :: stripped, rfl⟩
  | multiplexer _ hunwrap _ ih =>
    obtain ⟨head, separators, rfl, -⟩ := (multiplexerStrip_of_unwrap hunwrap).proper
    exact ih.trans ⟨head :: separators, rfl⟩

theorem Nested.le_length {n : ℕ}
    (hnested : Nested host n argv) (hpeels : Peels host argv chain last)
    (hlast : ¬IsWrapped host last) : n ≤ chain.length := by
  induction hpeels generalizing n with
  | done argv =>
    obtain ⟨hdispatch, hmultiplexer⟩ := not_isWrapped_iff.mp hlast
    cases hnested with
    | none => exact Nat.zero_le _
    | last hwrapped => exact absurd hwrapped hlast
    | dispatch hunwrap _ =>
      rw [hdispatch] at hunwrap
      cases hunwrap
    | multiplexer hunwrap _ =>
      rw [hmultiplexer] at hunwrap
      cases hunwrap
  | dispatch hunwrap hplain _ ih =>
    rw [List.length_cons]
    cases hnested with
    | none => exact Nat.zero_le _
    | last => omega
    | dispatch hother hrest =>
      rw [hunwrap] at hother
      obtain ⟨-, rfl⟩ := UnwrapResult.unwrapped.inj hother
      have hle := ih hrest hlast
      omega
    | multiplexer hother hrest =>
      have hstrip := multiplexerStrip_of_unwrap hother
      have hname := multiplexerName_of_dispatch hunwrap
      rw [(unwrapDispatch_eq_unwrapped hunwrap).1.unique hstrip.named, hstrip.multiplexer] at hname
      cases hname
  | multiplexer hnot hunwrap _ ih =>
    rw [List.length_cons]
    cases hnested with
    | none => exact Nat.zero_le _
    | last => omega
    | dispatch hother hrest =>
      rw [hnot] at hother
      cases hother
    | multiplexer hother hrest =>
      rw [hunwrap] at hother
      obtain ⟨-, rfl⟩ := UnwrapResult.unwrapped.inj hother
      have hle := ih hrest hlast
      omega

variable {current : Argv}

theorem dispatchTrustLoop_open {depth : ℕ} {wrappers : List JsString}
    (hopen : (dispatchTrustLoop host depth wrappers current).policyBlocked = false) :
    ∃ more, (dispatchTrustLoop host depth wrappers current).wrappers = wrappers ++ more ∧
      Peels host current more (dispatchTrustLoop host depth wrappers current).argv ∧
      (∀ wrapper ∈ more, isMultiplexerName wrapper = false) ∧ more.length ≤ depth ∧
      (more.length < depth → unwrapKnownDispatchWrapperInvocation host
        (dispatchTrustLoop host depth wrappers current).argv = .notWrapper) := by
  induction depth generalizing wrappers current with
  | zero => exact ⟨[], by simp [dispatchTrustLoop], .done _, by simp, le_refl _, by simp⟩
  | succ depth ih =>
    unfold dispatchTrustLoop at hopen ⊢
    cases hunwrap : unwrapKnownDispatchWrapperInvocation host current with
    | notWrapper =>
      exact ⟨[], by simp, .done _, by simp, Nat.zero_le _, fun _ => hunwrap⟩
    | blocked wrapper =>
      simp only [hunwrap] at hopen
      cases hopen
    | unwrapped wrapper argv =>
      simp only [hunwrap, if_neg (unwrapDispatch_ne_nil hunwrap)] at hopen ⊢
      cases hsemantic : isSemanticDispatchWrapperUsage host wrapper current with
      | true =>
        rw [hsemantic] at hopen
        cases hopen
      | false =>
        rw [hsemantic] at hopen
        obtain ⟨more, hwrappers, hpeels, hnames, hlength, hnot⟩ := ih hopen
        refine ⟨wrapper :: more, ?_, .dispatch hunwrap hsemantic hpeels, ?_, ?_, ?_⟩
        · simp only [Bool.false_eq_true, if_false]
          rw [hwrappers, List.append_assoc]
          rfl
        · exact List.forall_mem_cons.mpr ⟨multiplexerName_of_dispatch hunwrap, hnames⟩
        · rw [List.length_cons]
          omega
        · intro hless
          rw [List.length_cons] at hless
          exact hnot (by omega)

variable {maxDepth : ℕ}

theorem resolveDispatch_open
    (hopen : (resolveDispatchWrapperTrustPlan host current maxDepth).policyBlocked = false) :
    Peels host current (resolveDispatchWrapperTrustPlan host current maxDepth).wrappers
        (resolveDispatchWrapperTrustPlan host current maxDepth).argv ∧
      (∀ wrapper ∈ (resolveDispatchWrapperTrustPlan host current maxDepth).wrappers,
        isMultiplexerName wrapper = false) ∧
      (resolveDispatchWrapperTrustPlan host current maxDepth).wrappers.length ≤ maxDepth ∧
      unwrapKnownDispatchWrapperInvocation host
        (resolveDispatchWrapperTrustPlan host current maxDepth).argv = .notWrapper := by
  unfold resolveDispatchWrapperTrustPlan at hopen ⊢
  cases hblocked : (dispatchTrustLoop host maxDepth [] current).policyBlocked with
  | true =>
    simp only [hblocked, if_true] at hopen
    cases hopen
  | false =>
    obtain ⟨more, hwrappers, hpeels, hnames, hlength, hnot⟩ := dispatchTrustLoop_open hblocked
    rw [List.nil_append] at hwrappers
    simp only [hblocked, Bool.false_eq_true, if_false] at hopen ⊢
    split_ifs at hopen ⊢ with hfull
    · cases hover : overflowWrapper (unwrapKnownDispatchWrapperInvocation host
          (dispatchTrustLoop host maxDepth [] current).argv) with
      | some wrapper =>
        rw [hover] at hopen
        cases hopen
      | none =>
        rw [hwrappers]
        exact ⟨hpeels, hnames, hlength, overflowWrapper_eq_none.mp hover⟩
    · rw [hwrappers] at hfull ⊢
      exact ⟨hpeels, hnames, hlength, hnot (by omega)⟩

structure Progress (host : Host) (argv current policyArgv : Argv)
    (sawShellMultiplexer : Bool) (chain : List JsString) : Prop where
  peels : Peels host argv chain current
  direct : sawShellMultiplexer = false →
    (∀ wrapper ∈ chain, isMultiplexerName wrapper = false) ∧ policyArgv = current
  multiplexed : sawShellMultiplexer = true → ∃ before multiplexer after,
    chain = before ++ multiplexer :: after ∧ isMultiplexerName multiplexer = true ∧
      (∀ wrapper ∈ before, isMultiplexerName wrapper = false) ∧
      Peels host argv before policyArgv ∧
      Peels host policyArgv (multiplexer :: after) current

variable {policyArgv : Argv} {saw : Bool}

section

variable (hprogress : Progress host argv current policyArgv saw chain)
include hprogress

theorem Progress.isPolicyArgv : IsPolicyArgv host argv chain policyArgv current := by
  cases saw with
  | false =>
    obtain ⟨hnone, hlast⟩ := hprogress.direct rfl
    exact .direct hnone hlast
  | true =>
    obtain ⟨before, multiplexer, after, hchain, hname, hnone, hbefore, hafter⟩ :=
      hprogress.multiplexed rfl
    exact .multiplexed hchain hname hnone hbefore.unwinds hafter.unwinds

theorem Progress.dispatch {next : Argv} {more : List JsString}
    (hpeels : Peels host current more next)
    (hnames : ∀ wrapper ∈ more, isMultiplexerName wrapper = false) :
    Progress host argv next (if saw then policyArgv else next) saw (chain ++ more) := by
  refine ⟨hprogress.peels.append hpeels, fun hsaw => ?_, fun hsaw => ?_⟩
  · rw [hsaw]
    exact ⟨List.forall_mem_append.mpr ⟨(hprogress.direct hsaw).1, hnames⟩, rfl⟩
  · obtain ⟨before, multiplexer, after, rfl, hname, hnone, hbefore, hafter⟩ :=
      hprogress.multiplexed hsaw
    rw [hsaw]
    exact ⟨before, multiplexer, after ++ more, by simp, hname, hnone, hbefore, hafter.append hpeels⟩

theorem Progress.multiplexer {next : Argv}
    (hnot : unwrapKnownDispatchWrapperInvocation host current = .notWrapper)
    (hunwrap : unwrapKnownShellMultiplexerInvocation host current = .unwrapped wrapper next) :
    Progress host argv next (if saw then policyArgv else current) true (chain ++ [wrapper]) := by
  have hstep : Peels host current [wrapper] next := .multiplexer hnot hunwrap (.done next)
  have hfalse : true = false → (∀ name ∈ chain ++ [wrapper],
      isMultiplexerName name = false) ∧ (if saw then policyArgv else current) = next := by
    intro hsaw
    cases hsaw
  refine ⟨hprogress.peels.append hstep, hfalse, fun _ => ?_⟩
  cases saw with
  | false =>
    obtain ⟨hnone, hlast⟩ := hprogress.direct rfl
    exact ⟨chain, wrapper, [], rfl, (multiplexerStrip_of_unwrap hunwrap).multiplexer, hnone,
      hprogress.peels, hstep⟩
  | true =>
    obtain ⟨before, multiplexer, after, rfl, hname, hnone, hbefore, hafter⟩ :=
      hprogress.multiplexed rfl
    exact ⟨before, multiplexer, after ++ [wrapper], by simp, hname, hnone, hbefore,
      hafter.append hstep⟩

end

structure OpenPlan (host : Host) (argv : Argv) (maxDepth : ℕ) (plan : ExecWrapperTrustPlan) :
    Prop where
  progress : ∃ saw, Progress host argv plan.argv plan.policyArgv saw plan.wrapperChain
  unwrapped : ¬IsWrapped host plan.argv
  bounded : plan.wrapperChain.length ≤ maxDepth

section

variable (hprogress : Progress host argv current policyArgv saw chain)
  (hbounded : chain.length ≤ maxDepth)
include hprogress hbounded

theorem finishTrustPlan_open (hleft : chain.length < maxDepth → ¬IsWrapped host current)
    (hopen : (finishTrustPlan host current policyArgv chain maxDepth).policyBlocked = false) :
    OpenPlan host argv maxDepth (finishTrustPlan host current policyArgv chain maxDepth) := by
  unfold finishTrustPlan at hopen ⊢
  split_ifs at hopen ⊢ with hfull
  · cases hdispatch : overflowWrapper (unwrapKnownDispatchWrapperInvocation host current) with
    | some wrapper =>
      rw [hdispatch] at hopen
      cases hopen
    | none =>
      cases hmultiplexer : overflowWrapper (unwrapKnownShellMultiplexerInvocation host current) with
      | some wrapper =>
        rw [hdispatch, hmultiplexer] at hopen
        cases hopen
      | none =>
        have hnot := not_isWrapped_iff.mpr
          ⟨overflowWrapper_eq_none.mp hdispatch, overflowWrapper_eq_none.mp hmultiplexer⟩
        exact ⟨⟨saw, hprogress⟩, hnot, hbounded⟩
  · exact ⟨⟨saw, hprogress⟩, hleft (by omega), hbounded⟩

theorem trustPlanLoop_open {depth : ℕ} (hroom : depth ≠ 0 → chain.length < maxDepth)
    (hdepth : maxDepth ≤ depth + chain.length)
    (hopen : (trustPlanLoop host maxDepth depth current policyArgv saw
      chain).policyBlocked = false) :
    OpenPlan host argv maxDepth
      (trustPlanLoop host maxDepth depth current policyArgv saw chain) := by
  induction depth generalizing current policyArgv saw chain with
  | zero =>
    exact finishTrustPlan_open hprogress hbounded (fun hless => by omega) hopen
  | succ depth ih =>
    have hless := hroom (Nat.succ_ne_zero depth)
    unfold trustPlanLoop at hopen ⊢
    cases hblocked : (resolveDispatchWrapperTrustPlan host current
        (maxDepth - chain.length)).policyBlocked with
    | true =>
      simp only [hblocked, if_true] at hopen
      cases hopen
    | false =>
      obtain ⟨hpeels, hnames, hlength, hnot⟩ := resolveDispatch_open hblocked
      simp only [hblocked, Bool.false_eq_true, if_false] at hopen ⊢
      have hnext := hprogress.dispatch hpeels hnames
      by_cases hwrappers : (resolveDispatchWrapperTrustPlan host current
          (maxDepth - chain.length)).wrappers = []
      · have hcurrent : unwrapKnownDispatchWrapperInvocation host current = .notWrapper := by
          rw [hwrappers] at hpeels
          rw [← hpeels.eq_of_nil] at hnot
          exact hnot
        simp only [hwrappers, ne_eq, not_true_eq_false, if_false] at hopen ⊢
        cases hmultiplexer : unwrapKnownShellMultiplexerInvocation host current with
        | blocked wrapper =>
          rw [hmultiplexer] at hopen
          cases hopen
        | notWrapper =>
          rw [hmultiplexer] at hopen
          exact finishTrustPlan_open hprogress hbounded
            (fun _ => not_isWrapped_iff.mpr ⟨hcurrent, hmultiplexer⟩) hopen
        | unwrapped wrapper next =>
          have hstep := hprogress.multiplexer hcurrent hmultiplexer
          have hlong : (chain ++ [wrapper]).length = chain.length + 1 := by simp
          simp only [hmultiplexer] at hopen ⊢
          by_cases hfull : maxDepth ≤ (chain ++ [wrapper]).length
          · rw [if_pos hfull] at hopen ⊢
            exact finishTrustPlan_open hstep (by omega) (fun hshort => by omega) hopen
          · rw [if_neg hfull] at hopen ⊢
            exact ih hstep (by omega) (fun _ => by omega) (by omega) hopen
      · have hpositive := List.length_pos_of_ne_nil hwrappers
        have hlong : ∀ wrappers : List JsString,
            (chain ++ wrappers).length = chain.length + wrappers.length :=
          fun wrappers => List.length_append
        specialize hlong (resolveDispatchWrapperTrustPlan host current
          (maxDepth - chain.length)).wrappers
        simp only [ne_eq, hwrappers, not_false_eq_true, if_true] at hopen ⊢
        by_cases hfull : maxDepth ≤ (chain ++ (resolveDispatchWrapperTrustPlan host
            current (maxDepth - chain.length)).wrappers).length
        · rw [if_pos hfull] at hopen ⊢
          exact finishTrustPlan_open hnext (by omega) (fun hshort => by omega) hopen
        · rw [if_neg hfull] at hopen ⊢
          exact ih hnext (by omega) (fun _ => by omega) (by omega) hopen

end

theorem resolveExecWrapperTrustPlan_open
    (hopen : (resolveExecWrapperTrustPlan host argv maxDepth).policyBlocked = false) :
    OpenPlan host argv maxDepth (resolveExecWrapperTrustPlan host argv maxDepth) := by
  have hstart : Progress host argv argv argv false [] := by
    refine ⟨.done argv, fun _ => ⟨?_, rfl⟩, fun hsaw => ?_⟩
    · intro wrapper hmem
      cases hmem
    · cases hsaw
  apply trustPlanLoop_open hstart (Nat.zero_le _) ?_ (le_refl _) hopen
  intro hdepth
  exact Nat.pos_of_ne_zero hdepth

structure HidesNothing (host : Host) (argv : Argv) (plan : ExecWrapperTrustPlan) : Prop where
  isSuffix : plan.argv <:+ argv
  filled : plan.argv ≠ []
  unwrapped : ¬IsWrapped host plan.argv
  unwinds : Unwinds host argv plan.wrapperChain plan.argv
  policy : IsPolicyArgv host argv plan.wrapperChain plan.policyArgv plan.argv

def linuxHost : Host where
  lowerTable := fun unit => [unit]
  platform := js "linux"
  cwd := js "/"
  processHome := none
  home := none
  pathEnv := js "/bin"
  isExecutableFile := fun _ => true

end LittleBaby.ExecTrust
