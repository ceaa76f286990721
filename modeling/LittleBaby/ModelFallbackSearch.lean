import LittleBaby.ModelFallback

/-!
# The fallback search

The candidates come up in order, each once, and the call ends with the first run
that succeeds, that the user aborted or whose context was too large.
-/

namespace LittleBaby.ModelFallback

open JsString FoldUntil FallbackStep FallbackAttempt

variable {Raw Result : Type*}

namespace FallbackStep

variable (errors : ErrorReader Raw) (step : FallbackStep Raw Result)

def Succeeded (result : Result) : Prop := ∃ allow slot, step.use = .ran allow slot (.ok result)

variable (error : Thrown Raw)

def Failed : Prop := ∃ allow slot, step.use = .ran allow slot (.threw error)

def Aborted : Prop := step.Failed error ∧ errors.isGenuineAbort error step.candidate = true

def Overflowed : Prop :=
  step.Failed error ∧ errors.isGenuineAbort error step.candidate = false ∧
    errors.isContextOverflow (errors.normalized error step.candidate) = true

def TransientProbe : Prop := ∃ allow outcome, step.use = .ran allow true outcome

def SpentProbe : Prop :=
  ∃ allow error, step.use = .ran allow true (.threw error) ∧
    shouldPreserveTransientCooldownProbeSlot
      (errors.describedReason (errors.normalized error step.candidate)) = false

def EndsSearch : Prop :=
  (∃ result, step.Succeeded result) ∨ (∃ error, step.Aborted errors error) ∨
    ∃ error, step.Overflowed errors error

variable {step}

theorem succeeded_unique {result other : Result}
    (hresult : step.Succeeded result) (hother : step.Succeeded other) :
    result = other := by
  rcases hresult with ⟨allow, slot, huse⟩
  rcases hother with ⟨allowed, took, hsame⟩
  rw [huse] at hsame
  cases hsame
  rfl

theorem failed_unique {error other : Thrown Raw} (herror : step.Failed error)
    (hother : step.Failed other) : error = other := by
  rcases herror with ⟨allow, slot, huse⟩
  rcases hother with ⟨allowed, took, hsame⟩
  rw [huse] at hsame
  cases hsame
  rfl

theorem not_succeeded {error : Thrown Raw} (herror : step.Failed error)
    {result : Result} : ¬ step.Succeeded result := by
  rintro ⟨allow, slot, huse⟩
  rcases herror with ⟨allowed, took, hsame⟩
  rw [huse] at hsame
  cases hsame

end FallbackStep

namespace FallbackCall

variable (call : FallbackCall Raw Result)

def Unavailable (index : ℕ) : Prop :=
  ∃ views, call.auth = some views ∧ (views index).profileIds ≠ [] ∧
    ∀ id ∈ (views index).profileIds, (views index).isProfileInCooldown id = true

structure OrderedSearch : Prop where
  distinct : call.candidates.Nodup
  requestedFirst : (normalizedPrimary call.config call.request).provider ≠ [] →
    (normalizedPrimary call.config call.request).model ≠ [] →
      call.candidates.head? = some (normalizedPrimary call.config call.request)
  inOrder : call.search.steps.map FallbackStep.candidate <+: call.candidates
  ownRun : ∀ index step, call.search.steps[index]? = some step →
    ∀ allow slot outcome, step.use = .ran allow slot outcome → outcome = call.run index
  returned : ∀ result candidate attempts,
    call.runWithModelFallback = .returned result candidate attempts →
      ∃ before last, call.search.steps = before ++ [last] ∧
        last.candidate = candidate ∧ last.Succeeded result ∧
        attempts.map FallbackAttempt.candidate = before.map FallbackStep.candidate ∧
        ∀ step ∈ before, ∀ result, ¬ step.Succeeded result
  success : ∀ step ∈ call.search.steps, ∀ result, step.Succeeded result → ∃ attempts,
      call.runWithModelFallback = .returned result step.candidate attempts
  aborted : ∀ step ∈ call.search.steps, ∀ error,
    step.Aborted call.errors error → call.search.steps.getLast? = some step ∧
        call.runWithModelFallback = .threw error
  overflowed : ∀ step ∈ call.search.steps, ∀ error,
    step.Overflowed call.errors error → call.search.steps.getLast? = some step ∧
        call.runWithModelFallback = .threw (call.errors.normalized error step.candidate)
  complete : call.search.steps.map FallbackStep.candidate ≠ call.candidates →
    ∃ step, call.search.steps.getLast? = some step ∧ step.EndsSearch call.errors
  available : ∀ index step, call.search.steps[index]? = some step →
    step.use = .skipped → call.Unavailable index
  probes : call.search.steps.Pairwise fun probe later =>
    probe.SpentProbe call.errors → later.candidate.provider = probe.candidate.provider →
        ¬ later.TransientProbe

end FallbackCall

section

variable (casing : Routing.Casing) (allowlist : Option (List JsString))

structure Collected (collector : Collector) : Prop where
  keys : collector.candidates.map (fun candidate =>
    modelKey casing candidate.provider candidate.model) = collector.seen
  distinct : collector.seen.Nodup

theorem collected_add {collector : Collector}
    (hcollected : Collected casing collector) (enforce : Bool)
    (candidate : ModelCandidate) :
    Collected casing (addCandidate casing allowlist enforce collector candidate) := by
  unfold addCandidate
  simp only
  split
  next => exact hcollected
  next =>
    split
    next => exact hcollected
    next hnew =>
      split
      next => exact hcollected
      next =>
        constructor
        · rw [List.map_append, hcollected.keys]
          rfl
        · exact List.nodup_append.mpr ⟨hcollected.distinct, by simp, by
            intro key hkey other hother heq
            rw [List.mem_singleton.mp hother] at heq
            exact hnew (heq ▸ hkey)⟩

theorem collected_fold {collector : Collector}
    (hcollected : Collected casing collector) (enforce : Bool)
    (offered : List ModelCandidate) :
    Collected casing (offered.foldl (addCandidate casing allowlist enforce) collector) := by
  induction offered generalizing collector with
  | nil => exact hcollected
  | cons candidate rest ih =>
    exact ih (collected_add casing allowlist hcollected enforce candidate)

theorem candidates_prefix (enforce : Bool) (offered : List ModelCandidate) (collector : Collector) :
    collector.candidates <+: (offered.foldl (addCandidate casing allowlist enforce)
        collector).candidates := by
  induction offered generalizing collector with
  | nil => exact List.prefix_refl _
  | cons candidate rest ih =>
    have hstep : collector.candidates <+:
        (addCandidate casing allowlist enforce collector candidate).candidates := by
      unfold addCandidate
      simp only
      split
      next => exact List.prefix_refl _
      next =>
        split
        next => exact List.prefix_refl _
        next =>
          split
          next => exact List.prefix_refl _
          next => exact List.prefix_append _ _
    exact hstep.trans (ih _)

end

namespace FallbackCall

variable (call : FallbackCall Raw Result)

theorem candidates_nodup : call.candidates.Nodup := by
  have hstart : Collected call.casing ⟨[], []⟩ := ⟨rfl, List.nodup_nil⟩
  have hcollected := collected_fold call.casing call.config.allowlist hstart
    false (normalizedPrimary call.config call.request ::
      fallbackReferences call.config call.request)
  have hkeys := hcollected.distinct
  rw [← hcollected.keys] at hkeys
  exact hkeys.of_map

theorem requested_first (hprovider : (normalizedPrimary call.config call.request).provider ≠ [])
    (hmodel : (normalizedPrimary call.config call.request).model ≠ []) :
    call.candidates.head? = some (normalizedPrimary call.config call.request) := by
  have hfirst : (addCandidate call.casing call.config.allowlist false ⟨[], []⟩
      (normalizedPrimary call.config call.request)).candidates =
      [normalizedPrimary call.config call.request] := by
    simp [addCandidate, hprovider, hmodel]
  have hprefix := candidates_prefix call.casing call.config.allowlist false
    (fallbackReferences call.config call.request)
    (addCandidate call.casing call.config.allowlist false ⟨[], []⟩
      (normalizedPrimary call.config call.request))
  rw [hfirst] at hprefix
  rcases hprefix with ⟨rest, hrest⟩
  unfold candidates resolveFallbackCandidates
  rw [List.foldl_cons, ← hrest]
  rfl

inductive Ends (before : List (FallbackStep Raw Result))
    (last : FallbackStep Raw Result) : FallbackOutcome Raw Result → Prop
  | returned (result : Result) (attempts : List FallbackAttempt)
      (hsucceeded : last.Succeeded result)
      (hattempts : attempts.map FallbackAttempt.candidate = before.map FallbackStep.candidate) :
      Ends before last (.returned result last.candidate attempts)
  | aborted (error : Thrown Raw) (haborted : last.Aborted call.errors error) :
      Ends before last (.threw error)
  | overflowed (error : Thrown Raw) (hoverflowed : last.Overflowed call.errors error) :
      Ends before last (.threw (call.errors.normalized error last.candidate))
  | unrecognised (error : Thrown Raw) (hfailed : last.Failed error)
      (hgenuine : call.errors.isGenuineAbort error last.candidate = false)
      (hlast : before.length + 1 = call.candidates.length) :
      Ends before last (.threw (call.errors.normalized error last.candidate))

structure SearchInv (done : List ModelCandidate)
    (state : SearchState Raw Result) : Prop where
  steps : state.steps.map FallbackStep.candidate = done
  attempts : state.outcome = none → state.attempts.map FallbackAttempt.candidate = done
  quiet : state.outcome = none → ∀ step ∈ state.steps, ¬ step.EndsSearch call.errors
  ended : ∀ outcome, state.outcome = some outcome → ∃ before last, state.steps = before ++ [last] ∧
      (∀ step ∈ before, ¬ step.EndsSearch call.errors) ∧ call.Ends before last outcome
  own : ∀ index step, state.steps[index]? = some step →
    (step.use = .skipped → call.Unavailable index) ∧
      ∀ allow slot outcome, step.use = .ran allow slot outcome → outcome = call.run index
  used : state.outcome = none → ∀ step ∈ state.steps, step.SpentProbe call.errors →
      step.candidate.provider ∈ state.cooldownProbeUsedProviders
  probes : state.steps.Pairwise fun probe later =>
    probe.SpentProbe call.errors → later.candidate.provider = probe.candidate.provider →
        ¬ later.TransientProbe

theorem visit_cases (state : SearchState Raw Result) (candidate : ModelCandidate) :
    (∃ reason error probes, call.visit state candidate =
        skip candidate reason error { state with probes } ∧
      call.Unavailable state.steps.length) ∨
    ∃ allow slot probes, call.visit state candidate =
        call.attempt candidate allow slot { state with probes } ∧
      (slot = true → candidate.provider ∉ state.cooldownProbeUsedProviders) := by
  unfold visit
  cases hauth : call.auth with
  | none => exact .inr ⟨false, false, state.probes, rfl, by simp⟩
  | some views =>
    simp only
    split
    next hcooldown =>
      have hunavailable : call.Unavailable state.steps.length := by
        simp only [Bool.and_eq_true, decide_eq_true_eq, Bool.not_eq_true',
          List.any_eq_false, Bool.not_eq_true', Bool.not_eq_false] at hcooldown
        exact ⟨views, hauth, List.length_pos_iff.mp hcooldown.1, hcooldown.2⟩
      unfold visitInCooldown
      simp only
      split
      next reason error hdecision => exact .inl ⟨_, _, _, rfl, hunavailable⟩
      next reason markProbe hdecision =>
        split
        next =>
          split
          next => exact .inl ⟨_, _, _, rfl, hunavailable⟩
          next hfree =>
            refine .inr ⟨_, _, _, rfl, ?_⟩
            intro hslot hused
            simp [hslot, hused] at hfree
        next => exact .inr ⟨_, _, _, rfl, by simp⟩
    next => exact .inr ⟨false, false, state.probes, rfl, by simp⟩

theorem spendSlot_cases (candidate : ModelCandidate) (slot : Bool)
    (error : Thrown Raw) (state : SearchState Raw Result) :
    let next := call.spendSlot candidate slot error state
    next.steps = state.steps ∧ next.outcome = state.outcome ∧
      next.attempts = state.attempts ∧
      state.cooldownProbeUsedProviders ⊆ next.cooldownProbeUsedProviders ∧
      (slot = true → shouldPreserveTransientCooldownProbeSlot
          (call.errors.describedReason error) = false →
            candidate.provider ∈ next.cooldownProbeUsedProviders) := by
  unfold spendSlot
  split
  next => simp
  next hkept =>
    refine ⟨rfl, rfl, rfl, List.Subset.refl _, ?_⟩
    intro hslot hreason
    simp [hslot, hreason] at hkept

theorem settleError_cases (candidate : ModelCandidate) (slot : Bool)
    (thrown : Thrown Raw) (isLast : Bool) (state : SearchState Raw Result)
    (hnone : state.outcome = none) :
    let next := call.settleError candidate slot thrown isLast state
    let error := call.errors.normalized thrown candidate
    next.steps = state.steps ∧
    ((next.outcome = some (.threw thrown) ∧ call.errors.isGenuineAbort thrown candidate = true) ∨
      (next.outcome = some (.threw error) ∧ call.errors.isGenuineAbort thrown candidate = false ∧
        (call.errors.isContextOverflow error = true ∨ isLast = true)) ∨
      (next.outcome = none ∧ call.errors.isGenuineAbort thrown candidate = false ∧
        call.errors.isContextOverflow error = false ∧
        next.attempts.map FallbackAttempt.candidate =
          state.attempts.map FallbackAttempt.candidate ++ [candidate] ∧
        (∀ provider ∈ state.cooldownProbeUsedProviders,
          provider ∈ next.cooldownProbeUsedProviders) ∧
        (slot = true → shouldPreserveTransientCooldownProbeSlot
            (call.errors.describedReason error) = false →
              candidate.provider ∈ next.cooldownProbeUsedProviders))) := by
  have hspent := call.spendSlot_cases candidate slot (call.errors.normalized thrown candidate) state
  rcases hspent with ⟨hsteps, houtcome, hattempts, hsubset, hused⟩
  unfold settleError
  simp only
  split
  next habort => exact ⟨rfl, Or.inl ⟨rfl, habort⟩⟩
  next habort =>
    rw [Bool.not_eq_true] at habort
    split
    next hoverflow =>
      exact ⟨hsteps, Or.inr (Or.inl ⟨rfl, habort, Or.inl hoverflow⟩)⟩
    next hoverflow =>
      rw [Bool.not_eq_true] at hoverflow
      have hrecorded (described lastError : Thrown Raw) :
          (call.record candidate described lastError (call.spendSlot candidate
            slot (call.errors.normalized thrown candidate) state)).attempts.map
              FallbackAttempt.candidate =
            state.attempts.map FallbackAttempt.candidate ++ [candidate] := by
        simp [record, hattempts, ErrorReader.failedAttempt, FallbackAttempt.candidate]
      split
      next message =>
        exact ⟨hsteps, Or.inr (Or.inr ⟨houtcome.trans hnone, habort, hoverflow,
          hrecorded _ _, hsubset, hused⟩)⟩
      next =>
        split
        next hlast =>
          have hisLast : isLast = true := by
            simp only [Bool.and_eq_true] at hlast
            exact hlast.2
          exact ⟨hsteps, Or.inr (Or.inl ⟨rfl, habort, Or.inr hisLast⟩)⟩
        next =>
          exact ⟨hsteps, Or.inr (Or.inr ⟨houtcome.trans hnone, habort,
            hoverflow, hrecorded _ _, hsubset, hused⟩)⟩

theorem searchInv_start : call.SearchInv [] call.start := by
  constructor
  · rfl
  · intro _
    rfl
  · intro _ step hstep
    cases hstep
  · intro outcome houtcome
    cases houtcome
  · intro index step hstep
    cases hstep
  · intro _ step hstep
    cases hstep
  · exact List.Pairwise.nil

theorem own_append {steps : List (FallbackStep Raw Result)} {step : FallbackStep Raw Result}
    (hown : ∀ index step, steps[index]? = some step →
      (step.use = .skipped → call.Unavailable index) ∧
        ∀ allow slot outcome, step.use = .ran allow slot outcome → outcome = call.run index)
    (hskipped : step.use = .skipped → call.Unavailable steps.length)
    (hran : ∀ allow slot outcome, step.use = .ran allow slot outcome →
      outcome = call.run steps.length) :
    ∀ index other, (steps ++ [step])[index]? = some other →
      (other.use = .skipped → call.Unavailable index) ∧
        ∀ allow slot outcome, other.use = .ran allow slot outcome → outcome = call.run index := by
  intro index other hindex
  by_cases hlt : index < steps.length
  · rw [List.getElem?_append_left hlt] at hindex
    exact hown index other hindex
  · rw [List.getElem?_append_right (by omega)] at hindex
    have hzero : index - steps.length = 0 := by
      by_contra hne
      rw [List.getElem?_eq_none (by simp; omega)] at hindex
      cases hindex
    have heq : index = steps.length := by omega
    subst heq
    have hother : step = other := by simpa using hindex
    subst hother
    exact ⟨hskipped, hran⟩

variable {done : List ModelCandidate}

theorem searchInv_skip {state : SearchState Raw Result} (hinv : call.SearchInv done state)
    (hnone : state.outcome = none) (candidate : ModelCandidate)
    (reason : FailoverReason) (error : JsString) (probes : ProbeState)
    (hunavailable : call.Unavailable state.steps.length) :
    call.SearchInv (done ++ [candidate]) (skip candidate reason error { state with probes }) := by
  have hnotEnds (step : FallbackStep Raw Result)
      (hskipped : step.use = .skipped) : ¬ step.EndsSearch call.errors := by
    intro hends
    rcases hends with ⟨result, allow, slot, huse⟩ |
      ⟨error, ⟨allow, slot, huse⟩, -⟩ | ⟨error, ⟨allow, slot, huse⟩, -⟩
    · rw [hskipped] at huse
      cases huse
    · rw [hskipped] at huse
      cases huse
    · rw [hskipped] at huse
      cases huse
  constructor
  · simp [skip, hinv.steps]
  · intro _
    simp [skip, hinv.attempts hnone, FallbackAttempt.candidate]
  · intro _ step hstep
    rcases List.mem_append.mp hstep with hstep | hstep
    · exact hinv.quiet hnone step hstep
    · rw [List.mem_singleton.mp hstep]
      exact hnotEnds _ rfl
  · intro outcome houtcome
    simp only [hnone] at houtcome
    cases houtcome
  · apply call.own_append hinv.own
    · intro _
      exact hunavailable
    · intro allow slot outcome huse
      cases huse
  · intro _ step hstep hspent
    rcases List.mem_append.mp hstep with hstep | hstep
    · exact hinv.used hnone step hstep hspent
    · rw [List.mem_singleton.mp hstep] at hspent
      rcases hspent with ⟨allow, error, huse, -⟩
      cases huse
  · apply List.pairwise_append.mpr
    refine ⟨hinv.probes, List.pairwise_singleton _ _, ?_⟩
    intro probe _ later hlater _ _ htransient
    rw [List.mem_singleton.mp hlater] at htransient
    rcases htransient with ⟨allow, outcome, huse⟩
    cases huse

theorem searchInv_ran {candidate : ModelCandidate} {state next : SearchState Raw Result}
    (hinv : call.SearchInv done state) (hnone : state.outcome = none)
    (allow slot : Bool)
    (hslot : slot = true → candidate.provider ∉ state.cooldownProbeUsedProviders)
    (hsteps : next.steps = state.steps ++
      [⟨candidate, .ran allow slot (call.run state.steps.length)⟩])
    (hended : ∀ outcome, next.outcome = some outcome → call.Ends state.steps
        ⟨candidate, .ran allow slot (call.run state.steps.length)⟩ outcome)
    (hgoes : next.outcome = none →
      next.attempts.map FallbackAttempt.candidate = done ++ [candidate] ∧
        ¬ FallbackStep.EndsSearch call.errors
          ⟨candidate, .ran allow slot (call.run state.steps.length)⟩ ∧
        (∀ provider ∈ state.cooldownProbeUsedProviders,
          provider ∈ next.cooldownProbeUsedProviders) ∧
        (FallbackStep.SpentProbe call.errors
            ⟨candidate, .ran allow slot (call.run state.steps.length)⟩ →
          candidate.provider ∈ next.cooldownProbeUsedProviders)) :
    call.SearchInv (done ++ [candidate]) next := by
  constructor
  · rw [hsteps, List.map_append, hinv.steps]
    rfl
  · intro hopen
    exact (hgoes hopen).1
  · intro hopen step hstep
    rw [hsteps] at hstep
    rcases List.mem_append.mp hstep with hstep | hstep
    · exact hinv.quiet hnone step hstep
    · rw [List.mem_singleton.mp hstep]
      exact (hgoes hopen).2.1
  · intro outcome houtcome
    exact ⟨_, _, hsteps, hinv.quiet hnone, hended outcome houtcome⟩
  · rw [hsteps]
    apply call.own_append hinv.own
    · intro huse
      cases huse
    · intro allow slot outcome huse
      cases huse
      rfl
  · intro hopen step hstep hspent
    rw [hsteps] at hstep
    rcases List.mem_append.mp hstep with hstep | hstep
    · exact (hgoes hopen).2.2.1 _ (hinv.used hnone step hstep hspent)
    · rw [List.mem_singleton.mp hstep] at hspent ⊢
      exact (hgoes hopen).2.2.2 hspent
  · rw [hsteps]
    apply List.pairwise_append.mpr
    refine ⟨hinv.probes, List.pairwise_singleton _ _, ?_⟩
    intro probe hprobe later hlater hspent hprovider htransient
    rw [List.mem_singleton.mp hlater] at hprovider htransient
    have hused := hinv.used hnone probe hprobe hspent
    rcases htransient with ⟨allowed, outcome, huse⟩
    have htook : slot = true := by
      cases huse
      rfl
    rw [← hprovider] at hused
    exact hslot htook hused

section

variable {done rest : List ModelCandidate} {candidate : ModelCandidate} {state : SearchState Raw
  Result} (hcandidates : call.candidates = done ++ candidate :: rest) (hinv : call.SearchInv done
  state) (hnone : state.outcome = none)

include hcandidates hinv hnone

theorem searchInv_attempt (allow slot : Bool) (probes : ProbeState) (hslot : slot = true →
      candidate.provider ∉ state.cooldownProbeUsedProviders) :
    call.SearchInv (done ++ [candidate])
      (call.attempt candidate allow slot { state with probes }) := by
  have hlength : state.steps.length = done.length := by
    rw [← hinv.steps, List.length_map]
  unfold attempt
  simp only
  cases hrun : call.run state.steps.length with
  | ok result =>
    apply call.searchInv_ran hinv hnone allow slot hslot
    · simp only [hrun]
    · intro outcome houtcome
      have heq := Option.some.inj houtcome
      rw [← heq, hrun]
      apply Ends.returned result state.attempts
      · exact ⟨allow, slot, rfl⟩
      · rw [hinv.attempts hnone, hinv.steps]
    · intro hopen
      cases hopen
  | threw thrown =>
    have hcases := call.settleError_cases candidate slot thrown
      (state.steps.length == call.candidates.length - 1)
      { state with
        probes
        steps := state.steps ++ [⟨candidate, .ran allow slot (.threw thrown)⟩] }
      hnone
    rcases hcases with ⟨hsteps, hcases⟩
    have hfailed : FallbackStep.Failed (⟨candidate, .ran allow slot (call.run state.steps.length)⟩ :
          FallbackStep Raw Result) thrown := ⟨allow, slot, by rw [hrun]⟩
    apply call.searchInv_ran hinv hnone allow slot hslot
    · rw [hsteps, hrun]
    · intro outcome houtcome
      rcases hcases with ⟨hsome, habort⟩ | ⟨hsome, habort, hoverflow | hlast⟩ | ⟨hopen, -⟩
      · have heq := Option.some.inj (hsome.symm.trans houtcome)
        rw [← heq]
        exact Ends.aborted thrown ⟨hfailed, habort⟩
      · have heq := Option.some.inj (hsome.symm.trans houtcome)
        rw [← heq]
        exact Ends.overflowed thrown ⟨hfailed, habort, hoverflow⟩
      · have heq := Option.some.inj (hsome.symm.trans houtcome)
        rw [← heq]
        apply Ends.unrecognised thrown hfailed habort
        have hall := congrArg List.length hcandidates
        simp only [List.length_append, List.length_cons] at hall
        rw [beq_iff_eq] at hlast
        omega
      · rw [hopen] at houtcome
        cases houtcome
    · intro hopen
      rcases hcases with ⟨hsome, -⟩ | ⟨hsome, -⟩ |
        ⟨-, habort, hoverflow, hattempts, hsubset, hspent⟩
      · rw [hsome] at hopen
        cases hopen
      · rw [hsome] at hopen
        cases hopen
      · refine ⟨?_, ?_, hsubset, ?_⟩
        · rw [hattempts, hinv.attempts hnone]
        · intro hends
          rw [hrun] at hends
          rcases hends with ⟨result, allowed, took, huse⟩ |
            ⟨error, ⟨allowed, took, huse⟩, hgenuine⟩ |
            ⟨error, ⟨allowed, took, huse⟩, -, hoverflowed⟩
          · cases huse
          · cases huse
            rw [habort] at hgenuine
            cases hgenuine
          · cases huse
            rw [hoverflow] at hoverflowed
            cases hoverflowed
        · intro hprobe
          rw [hrun] at hprobe
          rcases hprobe with ⟨allowed, error, huse, hreason⟩
          cases huse
          exact hspent rfl hreason

theorem searchInv_visit : call.SearchInv (done ++ [candidate]) (call.visit state candidate) := by
  rcases call.visit_cases state candidate with
    ⟨reason, error, probes, hvisit, hunavailable⟩ | ⟨allow, slot, probes, hvisit, hslot⟩
  · rw [hvisit]
    exact call.searchInv_skip hinv hnone candidate reason error probes hunavailable
  · rw [hvisit]
    exact call.searchInv_attempt hcandidates hinv hnone allow slot probes hslot

end

theorem searchInv_search : ∃ done rest, call.candidates = done ++ rest ∧
    call.SearchInv done call.search ∧ (rest = [] ∨ call.search.outcome.isSome = true) := by
  apply foldUntil_induct call.SearchInv call.searchInv_start
  intro done candidate rest state hcandidates hstop hinv
  have hnone : state.outcome = none := by
    simpa using hstop
  exact call.searchInv_visit hcandidates hinv hnone

theorem ends_of_mem (hinv : call.SearchInv done call.search) {step : FallbackStep Raw Result}
    (hstep : step ∈ call.search.steps) (hends : step.EndsSearch call.errors) :
    ∃ before outcome, call.search.steps = before ++ [step] ∧
      call.search.outcome = some outcome ∧ call.Ends before step outcome := by
  cases houtcome : call.search.outcome with
  | none => exact absurd hends (hinv.quiet houtcome step hstep)
  | some outcome =>
    rcases hinv.ended outcome houtcome with ⟨before, last, hsteps, hquiet, hlast⟩
    rw [hsteps] at hstep
    rcases List.mem_append.mp hstep with hstep | hstep
    · exact absurd hends (hquiet step hstep)
    · have heq := List.mem_singleton.mp hstep
      subst heq
      exact ⟨before, outcome, hsteps, rfl, hlast⟩

theorem run_of_outcome {outcome : FallbackOutcome Raw Result}
    (houtcome : call.search.outcome = some outcome) :
    call.runWithModelFallback = outcome := by
  rw [runWithModelFallback, houtcome]

theorem not_returned_of_none (houtcome : call.search.outcome = none)
    {result : Result} {candidate : ModelCandidate}
    {attempts : List FallbackAttempt} :
    call.runWithModelFallback ≠ .returned result candidate attempts := by
  intro hreturned
  rw [runWithModelFallback, houtcome] at hreturned
  simp only [throwFallbackFailureSummary] at hreturned
  split at hreturned
  next => cases hreturned
  next =>
    split at hreturned
    next => cases hreturned
    next => cases hreturned

/-- For every config, request and auth state, and whatever the runs end in, the
call is an ordered search for the first success. -/
theorem runWithModelFallback_ordered : call.OrderedSearch := by
  rcases call.searchInv_search with ⟨done, rest, hcandidates, hinv, hend⟩
  constructor
  · exact call.candidates_nodup
  · exact call.requested_first
  · rw [hinv.steps, hcandidates]
    exact List.prefix_append _ _
  · intro index step hstep
    exact (hinv.own index step hstep).2
  · intro result candidate attempts hreturned
    cases houtcome : call.search.outcome with
    | none => exact absurd hreturned (call.not_returned_of_none houtcome)
    | some outcome =>
      rcases hinv.ended outcome houtcome with
        ⟨before, last, hsteps, hquiet, hlast⟩
      rw [call.run_of_outcome houtcome] at hreturned
      subst hreturned
      cases hlast with
      | returned _ _ hsucceeded hattempts =>
        refine ⟨before, last, hsteps, rfl, hsucceeded, hattempts, ?_⟩
        intro step hstep other hother
        exact hquiet step hstep (Or.inl ⟨other, hother⟩)
  · intro step hstep result hsucceeded
    rcases call.ends_of_mem hinv hstep (Or.inl ⟨result, hsucceeded⟩) with
      ⟨before, outcome, -, houtcome, hends⟩
    rw [call.run_of_outcome houtcome]
    cases hends with
    | returned other attempts hother _ =>
      rw [succeeded_unique hother hsucceeded]
      exact ⟨attempts, rfl⟩
    | aborted error haborted =>
      exact absurd hsucceeded (not_succeeded haborted.1)
    | overflowed error hoverflowed =>
      exact absurd hsucceeded (not_succeeded hoverflowed.1)
    | unrecognised error hfailed _ _ =>
      exact absurd hsucceeded (not_succeeded hfailed)
  · intro step hstep error haborted
    rcases call.ends_of_mem hinv hstep (Or.inr (Or.inl ⟨error, haborted⟩)) with
      ⟨before, outcome, hsteps, houtcome, hends⟩
    refine ⟨by rw [hsteps, List.getLast?_concat], ?_⟩
    rw [call.run_of_outcome houtcome]
    cases hends with
    | returned result attempts hsucceeded _ =>
      exact absurd hsucceeded (not_succeeded haborted.1)
    | aborted other hother =>
      rw [failed_unique hother.1 haborted.1]
    | overflowed other hoverflowed =>
      have hsame := failed_unique hoverflowed.1 haborted.1
      have hnot := hoverflowed.2.1
      rw [hsame, haborted.2] at hnot
      cases hnot
    | unrecognised other hfailed hnot _ =>
      have hsame := failed_unique hfailed haborted.1
      rw [hsame, haborted.2] at hnot
      cases hnot
  · intro step hstep error hoverflowed
    rcases call.ends_of_mem hinv hstep (Or.inr (Or.inr ⟨error, hoverflowed⟩)) with
      ⟨before, outcome, hsteps, houtcome, hends⟩
    refine ⟨by rw [hsteps, List.getLast?_concat], ?_⟩
    rw [call.run_of_outcome houtcome]
    cases hends with
    | returned result attempts hsucceeded _ =>
      exact absurd hsucceeded (not_succeeded hoverflowed.1)
    | aborted other hother =>
      have hsame := failed_unique hother.1 hoverflowed.1
      have hnot := hoverflowed.2.1
      rw [← hsame, hother.2] at hnot
      cases hnot
    | overflowed other hother =>
      rw [failed_unique hother.1 hoverflowed.1]
    | unrecognised other hfailed _ _ =>
      rw [failed_unique hfailed hoverflowed.1]
  · intro hpartial
    rcases hend with hrest | hsome
    · rw [hinv.steps, hcandidates, hrest, List.append_nil] at hpartial
      exact absurd rfl hpartial
    · rcases Option.isSome_iff_exists.mp hsome with ⟨outcome, houtcome⟩
      rcases hinv.ended outcome houtcome with ⟨before, last, hsteps, -, hends⟩
      refine ⟨last, by rw [hsteps, List.getLast?_concat], ?_⟩
      cases hends with
      | returned result attempts hsucceeded _ => exact Or.inl ⟨result, hsucceeded⟩
      | aborted error haborted => exact Or.inr (Or.inl ⟨error, haborted⟩)
      | overflowed error hoverflowed =>
        exact Or.inr (Or.inr ⟨error, hoverflowed⟩)
      | unrecognised error hfailed _ hlast =>
        have hdone := congrArg List.length hinv.steps
        rw [hsteps] at hdone
        simp only [List.length_map, List.length_append, List.length_singleton] at hdone
        have hall := congrArg List.length hcandidates
        rw [List.length_append] at hall
        have hnil : rest = [] := List.length_eq_zero_iff.mp (by omega)
        rw [hinv.steps, hcandidates, hnil, List.append_nil] at hpartial
        exact absurd rfl hpartial
  · intro index step hstep
    exact (hinv.own index step hstep).1
  · exact hinv.probes

end FallbackCall

def overflowMessage : JsString := js "prompt is too long: 210000 tokens > 200000 maximum"

def overflowErrors : ErrorReader Unit where
  errorName _ := js "Error"
  isTruthy _ := true
  isError _ := true
  isTimeoutError _ := false
  resolveFailoverReasonFromError _ := some .timeout
  normalizeErrorSignal _ := { status := some 500, code := none, message := some overflowMessage }
  asString _ := js "Error: " ++ overflowMessage
  liveSwitchMessage _ := none
  formatErrorMessage error :=
    match error with
    | .raw _ => overflowMessage
    | .failover error =>
      match error.cause with
      | none => error.message
      | some _ => error.message ++ js " | " ++ overflowMessage
  isLikelyContextOverflowError text := includes text (js "prompt is too long")

def overflowCall : FallbackCall Unit Unit where
  errors := overflowErrors
  casing :=
    { toLowerCase := fun text => text.map Routing.asciiLower
      ascii := fun _ _ => rfl }
  config :=
    { configuredModelRef := none
      normalizeModelRef := fun provider model => ⟨provider, model⟩
      resolveModelRefFromString := fun provider model => some ⟨provider, model⟩
      configuredFallbacks := []
      allowlist := none }
  request :=
    { provider := js "anthropic"
      model := js "claude"
      agentDir := none
      fallbacksOverride := none }
  auth := none
  interference _ probes := probes
  probesAtStart := []
  run _ := .threw (.raw ())
  refreshedCooldownExpiry _ := none

/-- The error is a context overflow, and the call ends in another error that
wraps it. -/
theorem overflow_rewrapped : overflowErrors.isContextOverflow (.raw ()) = true ∧
      overflowCall.runWithModelFallback = .threw (.failover
          { message := overflowMessage
            reason := .timeout
            provider := some (js "anthropic")
            model := some (js "claude")
            status := some 500
            code := none
            cause := some () }) ∧
      overflowCall.runWithModelFallback ≠ .threw (.raw ()) := by
  decide

end LittleBaby.ModelFallback
