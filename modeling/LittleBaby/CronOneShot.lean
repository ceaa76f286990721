import LittleBaby.CronJobSteps

/-!
# One-shot jobs

A one-shot job is started once, and again after each transient error on record,
as long as no process ends before an execution is recorded and no picker takes
the job while one of its runs is under way.  Only the catch-up of the next start
looks at the marker of an interrupted run; the tick after it starts the job again.
-/

namespace LittleBaby.Cron

open LabelledMachine JsString State

variable {deps : CronServiceDeps} {id : String}

def CronRunOutcome.isTransientError (deps : CronServiceDeps) (result : CronRunOutcome) : Bool :=
  result.status = .error && isTransientCronError result.error deps.retry.resolvedRetryOn

def transientErrors (deps : CronServiceDeps) (results : List CronRunOutcome) : ℕ :=
  results.countP (·.isTransientError deps)

theorem applyJobResult_oneShot {preserveSchedule : Bool}
    {result : CronRunOutcome} {job after : CronJob}
    (hat : job.schedule.isAt)
    (happly : applyJobResult deps preserveSchedule result job = some after)
    (hon : after.enabled) :
    result.isTransientError deps ∧ after.state.consecutiveErrors =
        some (job.state.consecutiveErrors.getD 0 + 1) ∧
      job.state.consecutiveErrors.getD 0 + 1 ≤
        deps.retry.resolvedMaxAttempts := by
  have hretry : retriesOneShot deps job result := by
    by_contra hnot
    unfold applyJobResult at happly
    split at happly
    · cases happly
    · cases happly
      rw [finishOneShot, if_neg hnot] at hon
      cases hon
  simp only [retriesOneShot, Bool.and_eq_true, decide_eq_true_eq] at hretry
  have herrors : consecutiveErrorsAfter job result = job.state.consecutiveErrors.getD 0 + 1 := by
    rw [consecutiveErrorsAfter, if_pos hretry.1.1]
  refine ⟨?_, ?_, herrors ▸ hretry.2⟩
  · simp [CronRunOutcome.isTransientError, hretry.1.1, hretry.1.2]
  · rw [(applyJobResult_recorded happly).errors, herrors]

/-- The copy of a one-shot that has been retried this often, or will be: while
it may be started or is under way, its errors in a row account for the
retries. -/
structure OneShotCopy (retries : ℕ) (underWay : Prop) (copy : CronJob) :
    Prop where
  isAt : copy.schedule.isAt
  errors : copy.enabled ∨ underWay → retries ≤ copy.state.consecutiveErrors.getD 0

/-- A one-shot that was started at most once more than it had been given a
retry: while it is waiting to be started, not more often. -/
structure OneShot (deps : CronServiceDeps) (retries : ℕ) (view : JobView) :
    Prop where
  current : ∀ copy ∈ view.current, OneShotCopy retries (view.runs ≠ 0) copy
  disk : ∀ copy ∈ view.disk, OneShotCopy retries (view.runs ≠ 0) copy
  atMostOne : view.runs.card ≤ 1
  attempts : retries ≤ deps.retry.resolvedMaxAttempts
  transient : retries ≤ transientErrors deps view.results
  starts : view.starts.length ≤ retries + 1
  reserved : ∀ run ∈ view.runs, run.isReserved → view.starts.length ≤ retries
  armed : view.runs = 0 → (∃ copy, (copy ∈ view.current ∨ copy ∈ view.disk) ∧ copy.enabled) →
      view.starts.length ≤ retries

theorem OneShotCopy.of_passed {retries : ℕ} {before after : Prop}
    {copy passed : CronJob} (hcopy : OneShotCopy retries before copy)
    (hpassed : Passed copy passed) (hunderWay : after → before) :
    OneShotCopy retries after passed := by
  refine ⟨by rw [hpassed.isAt]; exact hcopy.isAt, fun hcase => ?_⟩
  rw [hpassed.errors]
  exact hcopy.errors (hcase.imp hpassed.enabled hunderWay)

section

variable {retries : ℕ} {before after : JobView}

include retries before after

section

variable (honce : OneShot deps retries before)
include honce

theorem OneShot.of_passed (hruns : after.runs = before.runs)
    (hstarts : after.starts = before.starts)
    (hresults : after.results = before.results)
    (hcopies : ∀ copy, (copy ∈ after.current ∨ copy ∈ after.disk) →
      ∃ old, (old ∈ before.current ∨ old ∈ before.disk) ∧ Passed old copy) :
    OneShot deps retries after := by
  have hcopy : ∀ copy, (copy ∈ after.current ∨ copy ∈ after.disk) →
      OneShotCopy retries (after.runs ≠ 0) copy := by
    intro copy hmem
    obtain ⟨old, hold, hpassed⟩ := hcopies copy hmem
    have hbefore : OneShotCopy retries (before.runs ≠ 0) old :=
      hold.elim (honce.current old) (honce.disk old)
    exact hbefore.of_passed hpassed (by rw [hruns]; exact fun hne => hne)
  refine ⟨fun copy hmem => hcopy copy (.inl hmem),
    fun copy hmem => hcopy copy (.inr hmem), ?_, honce.attempts, ?_, ?_, ?_, ?_⟩
  · rw [hruns]
    exact honce.atMostOne
  · rw [hresults]
    exact honce.transient
  · rw [hstarts]
    exact honce.starts
  · rw [hruns, hstarts]
    exact honce.reserved
  · rw [hruns, hstarts]
    rintro hnone ⟨copy, hmem, hon⟩
    obtain ⟨old, hold, hpassed⟩ := hcopies copy hmem
    exact honce.armed hnone ⟨old, hold, hpassed.enabled hon⟩

theorem OneShot.of_picked {run : Run} {job : CronJob} {now : ℤ}
    (hnone : before.runs = 0) (hruns : after.runs = run ::ₘ before.runs)
    (hjob : job ∈ before.current ∨ job ∈ before.disk) (hon : job.enabled)
    (hcurrent : after.current = some (job.mark now))
    (hdisk : after.disk = some (job.mark now))
    (hstarts : after.starts = before.starts)
    (hresults : after.results = before.results) :
    OneShot deps retries after := by
  have hold : OneShotCopy retries (before.runs ≠ 0) job :=
    hjob.elim (honce.current job) (honce.disk job)
  have hmarked : ∀ copy ∈ some (job.mark now), OneShotCopy retries (after.runs ≠ 0) copy := by
    intro copy hcopy
    cases hcopy
    exact ⟨hold.isAt, fun _ => hold.errors (.inl hon)⟩
  have hle : before.starts.length ≤ retries := honce.armed hnone ⟨job, hjob, hon⟩
  rw [hnone] at hruns
  refine ⟨by rw [hcurrent]; exact hmarked, by rw [hdisk]; exact hmarked, ?_,
    honce.attempts, ?_, ?_, ?_, ?_⟩
  · rw [hruns]
    simp
  · rw [hresults]
    exact honce.transient
  · rw [hstarts]
    omega
  · rw [hstarts]
    exact fun _ _ _ => hle
  · rw [hruns]
    exact fun hzero => absurd hzero Multiset.cons_ne_zero

theorem OneShot.of_underWay {old run : Run} {rest : Multiset Run}
    (hbefore : before.runs = old ::ₘ rest) (hafter : after.runs = run ::ₘ rest) (hrun : run.isReserved = false)
    (hcopies : ∀ copy, (copy ∈ after.current ∨ copy ∈ after.disk) →
      ∃ old, (old ∈ before.current ∨ old ∈ before.disk) ∧ Passed old copy)
    (hstarts : after.starts = before.starts ∨
      old.isReserved ∧ ∃ startedAt, after.starts = before.starts ++ [startedAt])
    (hresults : after.results = before.results) :
    OneShot deps retries after := by
  have hrest := eq_zero_of_cons_card_le_one honce.atMostOne hbefore
  have hcopy : ∀ copy, (copy ∈ after.current ∨ copy ∈ after.disk) →
      OneShotCopy retries (after.runs ≠ 0) copy := by
    intro copy hmem
    obtain ⟨old, hold, hpassed⟩ := hcopies copy hmem
    have hbefore' : OneShotCopy retries (before.runs ≠ 0) old :=
      hold.elim (honce.current old) (honce.disk old)
    apply hbefore'.of_passed hpassed
    intro _
    rw [hbefore]
    exact Multiset.cons_ne_zero
  refine ⟨fun copy hmem => hcopy copy (.inl hmem),
    fun copy hmem => hcopy copy (.inr hmem), ?_, honce.attempts, ?_, ?_, ?_, ?_⟩
  · rw [hafter, hrest]
    simp
  · rw [hresults]
    exact honce.transient
  · rcases hstarts with hsame | ⟨hreserved, startedAt, hmore⟩
    · rw [hsame]
      exact honce.starts
    · have hle := honce.reserved old (by rw [hbefore]; simp) hreserved
      rw [hmore, List.length_append, List.length_singleton]
      omega
  · rw [hafter, hrest]
    intro other hother hothers
    rw [Multiset.mem_cons, or_iff_left (Multiset.notMem_zero _)] at hother
    rw [hother, hrun] at hothers
    cases hothers
  · rw [hafter]
    exact fun hzero => absurd hzero Multiset.cons_ne_zero

theorem OneShot.of_recorded {result : CronRunOutcome} {job : Option CronJob} (hne : before.runs ≠ 0)
    (hjob : job = before.current ∨ job = before.disk)
    (hruns : after.runs = 0)
    (hcopies : ∀ copy, (copy ∈ after.current ∨ copy ∈ after.disk) →
      ∃ recorded ∈ job.bind (applyJobResult deps false result), Passed recorded copy)
    (hstarts : after.starts = before.starts)
    (hresults : after.results = before.results ++ [result]) :
    ∃ more, OneShot deps more after := by
  have hbound : retries ≤ transientErrors deps after.results := by
    rw [hresults, transientErrors, List.countP_append]
    exact honce.transient.trans (Nat.le_add_right _ _)
  have hrecorded : ∀ copy, (copy ∈ after.current ∨ copy ∈ after.disk) →
      ∃ old recorded, (old ∈ before.current ∨ old ∈ before.disk) ∧
        applyJobResult deps false result old = some recorded ∧ Passed recorded copy := by
    intro copy hmem
    obtain ⟨recorded, hbind, hpassed⟩ := hcopies copy hmem
    obtain ⟨old, hold, happly⟩ := Option.mem_bind_iff.mp hbind
    refine ⟨old, recorded, ?_, happly, hpassed⟩
    rcases hjob with rfl | rfl
    · exact .inl hold
    · exact .inr hold
  have hisAt : ∀ copy, (copy ∈ after.current ∨ copy ∈ after.disk) → copy.schedule.isAt := by
    intro copy hmem
    obtain ⟨old, recorded, hold, happly, hpassed⟩ := hrecorded copy hmem
    rw [hpassed.isAt, (applyJobResult_recorded happly).schedule]
    exact (hold.elim (honce.current old) (honce.disk old)).isAt
  by_cases harmed : ∃ copy, (copy ∈ after.current ∨ copy ∈ after.disk) ∧ copy.enabled
  · -- A copy that is still enabled has been given a retry.
    obtain ⟨copy, hmem, hon⟩ := harmed
    obtain ⟨old, recorded, hold, happly, hpassed⟩ := hrecorded copy hmem
    have holdCopy : OneShotCopy retries (before.runs ≠ 0) old :=
      hold.elim (honce.current old) (honce.disk old)
    obtain ⟨htransient, -, hattempts⟩ :=
      applyJobResult_oneShot holdCopy.isAt happly (hpassed.enabled hon)
    have hle := holdCopy.errors (.inr hne)
    have hcopy : ∀ copy, (copy ∈ after.current ∨ copy ∈ after.disk) →
        OneShotCopy (retries + 1) (after.runs ≠ 0) copy := by
      intro copy hmem
      refine ⟨hisAt copy hmem, fun hcase => ?_⟩
      have hon := hcase.resolve_right (by simp [hruns])
      obtain ⟨old, recorded, hold, happly, hpassed⟩ := hrecorded copy hmem
      have holdCopy : OneShotCopy retries (before.runs ≠ 0) old :=
        hold.elim (honce.current old) (honce.disk old)
      obtain ⟨-, herrors, -⟩ := applyJobResult_oneShot holdCopy.isAt happly (hpassed.enabled hon)
      have hle := holdCopy.errors (.inr hne)
      rw [hpassed.errors, herrors, Option.getD_some]
      omega
    refine ⟨retries + 1, fun copy hmem => hcopy copy (.inl hmem),
      fun copy hmem => hcopy copy (.inr hmem), ?_, ?_, ?_, ?_, ?_, ?_⟩
    · rw [hruns]
      simp
    · omega
    · have hcount := honce.transient
      rw [hresults, transientErrors, List.countP_append]
      rw [transientErrors] at hcount
      simp [htransient]
      omega
    · rw [hstarts]
      exact honce.starts.trans (Nat.le_succ _)
    · rw [hruns]
      simp
    · rw [hstarts]
      exact fun _ _ => honce.starts
  · have hcopy : ∀ copy, (copy ∈ after.current ∨ copy ∈ after.disk) →
        OneShotCopy retries (after.runs ≠ 0) copy := by
      intro copy hmem
      refine ⟨hisAt copy hmem, fun hcase => ?_⟩
      exact absurd ⟨copy, hmem, hcase.resolve_right (by simp [hruns])⟩ harmed
    refine ⟨retries, fun copy hmem => hcopy copy (.inl hmem),
      fun copy hmem => hcopy copy (.inr hmem), ?_, honce.attempts, hbound, ?_,
      ?_, ?_⟩
    · rw [hruns]
      simp
    · rw [hstarts]
      exact honce.starts
    · rw [hruns]
      simp
    · exact fun _ hsome => absurd hsome harmed

theorem OneShot.of_crashed (hreserved : ∀ run ∈ before.runs, run.isReserved)
    (hcurrent : after.current = before.disk) (hdisk : after.disk = before.disk)
    (hruns : after.runs = 0) (hstarts : after.starts = before.starts)
    (hresults : after.results = before.results) :
    OneShot deps retries after := by
  have hcopy : ∀ copy ∈ before.disk, OneShotCopy retries (after.runs ≠ 0) copy := by
    intro copy hmem
    have hold := honce.disk copy hmem
    exact ⟨hold.isAt, fun hcase =>
      hold.errors (.inl (hcase.resolve_right (by simp [hruns])))⟩
  refine ⟨by rw [hcurrent]; exact hcopy, by rw [hdisk]; exact hcopy, ?_,
    honce.attempts, ?_, ?_, ?_, ?_⟩
  · rw [hruns]
    simp
  · rw [hresults]
    exact honce.transient
  · rw [hstarts]
    exact honce.starts
  · rw [hruns]
    simp
  · rw [hstarts, hcurrent, hdisk]
    rintro - ⟨copy, hmem, hon⟩
    by_cases hnone : before.runs = 0
    · exact honce.armed hnone ⟨copy, .inr (hmem.elim id id), hon⟩
    · obtain ⟨run, hrun⟩ := Multiset.exists_mem_of_ne_zero hnone
      exact honce.reserved run hrun (hreserved run hrun)

end

end

def Action.picks (deps : CronServiceDeps) (state : State) : Action → CronJob → Bool
  | .collectDueJobs dueCheckNow _, job => isRunnableJob deps {} dueCheckNow job
  | .planStartupCatchup now, job =>
    match state.startup with
    | .cleared skipJobIds =>
      isRunnableJob deps (catchupOptions skipJobIds) now job
    | _ => false
  | _, _ => false

def Action.endsProcess : Action → Bool
  | .crash => true
  | _ => false

/-- A step that neither edits the job nor runs it by hand, takes it only when no
run of it is under way, and does not end the process during an execution. -/
structure StartsOnce (deps : CronServiceDeps) (id : String) (state : State)
    (action : Action) : Prop where
  edits : action.edits ≠ some id
  manual : action.manualRunOf state ≠ some id
  crash : action.endsProcess → ∀ run ∈ state.openRuns id, run.isReserved
  pick : state.openRuns id ≠ 0 → ∀ copy ∈ (if action.reloads state then state.onDisk id
      else state.current id), action.picks deps state copy = false

instance (deps : CronServiceDeps) (id : String) (state : State)
    (action : Action) : Decidable (StartsOnce deps id state action) :=
  decidable_of_iff (action.edits ≠ some id ∧ action.manualRunOf state ≠ some id ∧
      (action.endsProcess → ∀ run ∈ state.openRuns id, run.isReserved) ∧
      (state.openRuns id ≠ 0 → ∀ copy ∈ (if action.reloads state then state.onDisk id
          else state.current id), action.picks deps state copy = false))
    ⟨fun ⟨edits, manual, crash, pick⟩ => ⟨edits, manual, crash, pick⟩,
      fun ⟨edits, manual, crash, pick⟩ => ⟨edits, manual, crash, pick⟩⟩

theorem runnable_enabled {options : PickOptions} {nowMs : ℤ} {job : CronJob}
    (hrunnable : isRunnableJob deps options nowMs job) : job.enabled := by
  unfold isRunnableJob at hrunnable
  split at hrunnable
  · cases hrunnable
  · rename_i hnot
    simp only [Bool.or_eq_true, not_or, Bool.not_eq_true', Bool.not_eq_false] at hnot
    exact hnot.1.1

theorem passed_mark (nowMs : ℤ) (job : CronJob) : Passed job (job.mark nowMs) :=
  ⟨rfl, rfl, rfl, rfl, rfl, fun hon => hon⟩

theorem passed_unmark (job : CronJob) : Passed job job.unmark :=
  ⟨rfl, rfl, rfl, rfl, rfl, fun hon => hon⟩

theorem passed_withNextRun (job : CronJob) (next : Option ℤ) : Passed job (job.withNextRun next) :=
  ⟨rfl, rfl, rfl, rfl, rfl, fun hon => hon⟩

variable {state next : State} {action : Action}

theorem OneShot.of_group {retries : ℕ} {before after : JobView}
    {inGroup : Run → Bool} {results : List CronRunOutcome}
    {job : Option CronJob} {change : CronJob → CronJob}
    (honce : OneShot deps retries before)
    (hdone : ∀ run ∈ before.runs, inGroup run → run.result.isSome)
    (hresults : (results : Multiset CronRunOutcome) =
      (before.runs.filter (inGroup ·)).filterMap Run.result)
    (hjob : job = before.current ∨ job = before.disk)
    (hchange : ∀ job, Passed job (change job))
    (hruns : after.runs = before.runs.filter (!inGroup ·))
    (hcurrent : after.current = (applyResults deps results job).map change)
    (hdisk : after.disk = after.current)
    (hstarts : after.starts = before.starts)
    (hhistory : after.results = before.results ++ results) :
    ∃ more, OneShot deps more after := by
  have hcopies : ∀ copy, (copy ∈ after.current ∨ copy ∈ after.disk) →
      ∃ old ∈ applyResults deps results job, Passed old copy := by
    intro copy hmem
    rw [hdisk, or_self, hcurrent] at hmem
    obtain ⟨old, hold, rfl⟩ := Option.mem_map.mp hmem
    exact ⟨old, hold, hchange old⟩
  have hquiet : results = [] → after.runs = before.runs → ∃ more, OneShot deps more after := by
    rintro rfl hsame
    refine ⟨retries, honce.of_passed hsame hstarts (by simpa using hhistory) ?_⟩
    intro copy hmem
    obtain ⟨old, hold, hpassed⟩ := hcopies copy hmem
    refine ⟨old, ?_, hpassed⟩
    rcases hjob with rfl | rfl
    · exact .inl hold
    · exact .inr hold
  rcases group_cases honce.atMostOne hdone hresults with
    ⟨hnone, hempty⟩ | ⟨run, -, -, hempty, hsame⟩ |
    ⟨run, result, hrun, -, -, rfl, hzero⟩
  · exact hquiet hempty (by rw [hruns, hnone]; rfl)
  · exact hquiet hempty (hruns.trans hsame)
  · apply honce.of_recorded _ hjob (hruns.trans hzero) hcopies hstarts hhistory
    rw [hrun]
    exact Multiset.singleton_ne_zero run

theorem oneShot_step {retries : ℕ} (hwf : state.WellFormed)
    (honce : OneShot deps retries (state.view id))
    (hallowed : StartsOnce deps id state action)
    (hstep : step deps state action = some next) :
    ∃ more, OneShot deps more (next.view id) := by
  have hjob := jobStep_of_step hwf hallowed.edits hstep
  generalize next.view id = after at hjob
  cases hjob with
  | upkeep hquiet hcurrent hdisk =>
    rename_i current disk
    have hpassed : ∀ copy ∈ current,
        ∃ old, (old ∈ (state.view id).current ∨ old ∈ (state.view id).disk) ∧ Passed old copy := by
      intro copy hmem
      rw [hcurrent] at hmem
      obtain ⟨old, hold, rfl⟩ := Option.mem_map.mp hmem
      refine ⟨old, ?_, passed_runPasses _ old⟩
      split at hold
      · exact .inr hold
      · exact .inl hold
    refine ⟨retries, honce.of_passed rfl rfl rfl ?_⟩
    rintro copy (hmem | hmem)
    · exact hpassed copy hmem
    · rcases hdisk with rfl | ⟨rfl, -⟩
      · exact hpassed copy hmem
      · exact ⟨copy, .inr hmem, Passed.refl copy⟩
  | collected hidle hdisk hrunnable =>
    have hnone : state.openRuns id = 0 := by
      by_contra hne
      have hpick := hallowed.pick hne _ hdisk
      rw [Action.picks, hrunnable] at hpick
      cases hpick
    exact ⟨retries, honce.of_picked hnone rfl (.inr hdisk)
      (runnable_enabled hrunnable) rfl rfl rfl rfl⟩
  | begun hmine hruns hcurrent =>
    rename_i current index load startedAt rest
    refine ⟨retries, honce.of_underWay hruns rfl rfl ?_ (.inr ⟨rfl, _, rfl⟩) rfl⟩
    rintro copy (hmem | hmem)
    · rcases hcurrent with rfl | rfl
      · exact ⟨copy, .inl hmem, Passed.refl copy⟩
      · obtain ⟨old, hold, rfl⟩ := Option.mem_map.mp hmem
        exact ⟨old, .inl hold, passed_mark startedAt old⟩
    · exact ⟨copy, .inr hmem, Passed.refl copy⟩
  | executed hruns =>
    exact ⟨retries, honce.of_underWay hruns rfl rfl
      (fun copy hmem => ⟨copy, hmem, Passed.refl copy⟩) (.inl rfl) rfl⟩
  | tickDone hdone hresults hcurrent =>
    exact honce.of_group hdone hresults (.inr rfl) (Pass.passed _ _) rfl hcurrent rfl rfl rfl
  | reserved hmine hcurrent hmarker | manualDone hmine hruns hjob hcurrent
  | dropped hmine hruns hjob =>
    exact absurd hmine hallowed.manual
  | skipped haction hjob hinvalid hcurrent =>
    refine absurd ?_ hallowed.manual
    rcases haction with rfl | rfl <;> rfl
  | cleared hdisk =>
    rename_i disk
    have hpassed : ∀ copy ∈ (state.view id).current.map (·.unmark),
        ∃ old, (old ∈ (state.view id).current ∨ old ∈ (state.view id).disk) ∧ Passed old copy := by
      intro copy hmem
      obtain ⟨old, hold, rfl⟩ := Option.mem_map.mp hmem
      exact ⟨old, .inl hold, passed_unmark old⟩
    refine ⟨retries, honce.of_passed rfl rfl rfl ?_⟩
    rintro copy (hmem | hmem)
    · exact hpassed copy hmem
    · rcases hdisk with rfl | ⟨rfl, -⟩
      · exact hpassed copy hmem
      · exact ⟨copy, .inr hmem, Passed.refl copy⟩
  | planned hstartup hcurrent hrunnable =>
    have hnone : state.openRuns id = 0 := by
      by_contra hne
      have hpick := hallowed.pick hne _ hcurrent
      simp only [Action.picks, hstartup, hrunnable] at hpick
      cases hpick
    exact ⟨retries, honce.of_picked hnone rfl (.inl hcurrent)
      (runnable_enabled hrunnable) rfl rfl rfl rfl⟩
  | candidateBegun hruns =>
    refine ⟨retries, honce.of_underWay hruns rfl rfl ?_ (.inr ⟨rfl, _, rfl⟩) rfl⟩
    exact fun copy hmem => ⟨copy, hmem, Passed.refl copy⟩
  | catchupDone hdone hresults hcurrent =>
    rename_i current baseNow now results deferral
    rw [Option.map_map] at hcurrent
    exact honce.of_group hdone hresults (.inl rfl)
      (fun job => (passed_withNextRun job (deferral job)).trans
        (Pass.passed _ _ _)) rfl hcurrent rfl rfl rfl
  | crashed =>
    exact ⟨retries, honce.of_crashed (hallowed.crash rfl) rfl rfl rfl rfl rfl⟩

theorem oneShot_boot {disk : List CronJob} (hat : ∀ job ∈ disk, job.id = id → job.schedule.isAt) :
    OneShot deps 0 ((boot disk).view id) := by
  have hcopy : ∀ copy ∈ findJob disk id, OneShotCopy 0 (((boot disk).view id).runs ≠ 0) copy :=
    fun copy hmem =>
      ⟨hat copy (mem_of_findJob hmem) (findJob_id hmem), fun _ => Nat.zero_le _⟩
  refine ⟨?_, hcopy, by simp [view, openRuns, boot, Arena.empty],
    Nat.zero_le _, Nat.zero_le _, ?_, ?_, ?_⟩
  · intro copy hmem
    apply hcopy copy
    simpa [view, current_eq, boot] using hmem
  · simp [view, starts, boot]
  · simp [view, starts, boot]
  · simp [view, starts, boot]

/-- In a run of the service with crashes and restarts, no step of which takes a
one-shot job while a run of it is under way or ends the process during an
execution of it, the job is started at most once, and once more for each
transient error on record but at most `maxAttempts` times. -/
theorem one_shot_starts_once {disk : List CronJob} {actions : List Action} (hids : (ids disk).Nodup)
    (hat : ∀ job ∈ disk, job.id = id → job.schedule.isAt)
    (hguarded : Guarded (step deps) (StartsOnce deps id) (boot disk) actions)
    (hrun : run (step deps) (boot disk) actions = some state) :
    (state.starts id).length ≤ 1 + min deps.retry.resolvedMaxAttempts
        (transientErrors deps (resultsOf id state.results)) := by
  have hinvariant : state.WellFormed ∧ ∃ retries, OneShot deps retries (state.view id) := by
    refine run_guarded_invariant (fun state => state.WellFormed ∧
        ∃ retries, OneShot deps retries (state.view id)) ?_
      ⟨State.WellFormed.boot hids, 0, oneShot_boot hat⟩ hguarded hrun
    rintro state next action ⟨hwf, retries, honce⟩ hallowed hstep
    exact ⟨wellFormed_step hwf hstep, oneShot_step hwf honce hallowed hstep⟩
  obtain ⟨-, retries, honce⟩ := hinvariant
  have hstarts : (state.starts id).length ≤ retries + 1 := honce.starts
  have hattempts := honce.attempts
  have htransient : retries ≤ transientErrors deps (resultsOf id state.results) := honce.transient
  omega

def afterOneSecond (id : String) : CronJob where
  id
  createdAtMs := 0
  schedule := .atTime (js "1000")
  sessionTarget := js "main"
  payloadKind := .systemEvent
  state := { nextRunAtMs := some 1000 }

/-- A one-shot that a crash interrupts is set aside by the catch-up of the next
start, and started again by the first tick. -/
theorem interrupted_one_shot_starts_again : (run (step plainDeps) (boot [afterOneSecond "reminder"])
      [.clearMarkers, .planStartupCatchup 500, .finishStart 500,
        .collectDueJobs 1000 1000, .runDueJob 0 1001, .crash, .clearMarkers,
        .planStartupCatchup 3000, .finishStart 3001, .collectDueJobs 5000 5000,
        .runDueJob 0 5001]).map
      (fun state => (state.starts "reminder", state.results)) = some ([1001, 5001], []) := by
  decide

/-- A one-shot fails with a transient error and succeeds when it is retried
after a restart. -/
theorem one_shot_starts_once_retried :
    ∃ state, run (step plainDeps) (boot [afterOneSecond "reminder"])
        [.clearMarkers, .planStartupCatchup 1000, .runStartupCatchupCandidate 0 1001,
          .executed 0 .error (some (js "fetch failed")) 1002,
          .applyStartupCatchupOutcomes 1003 1003, .finishStart 1004, .crash,
          .clearMarkers, .planStartupCatchup 2000, .finishStart 2001,
          .collectDueJobs 40000 40000, .runDueJob 0 40001,
          .executed 0 .ok none 40002, .applyDueResults 40003] = some state ∧
      state.starts "reminder" = [1001, 40001] ∧
      (state.starts "reminder").length ≤ 1 + min plainDeps.retry.resolvedMaxAttempts
          (transientErrors plainDeps (resultsOf "reminder" state.results)) := by
  apply exists_of_view (by decide +kernel : Option.map (starts · "reminder") _ = some [1001, 40001])
  intro state htimes hrun
  exact ⟨htimes, one_shot_starts_once (by decide) (by decide +kernel) (by decide +kernel) hrun⟩

end LittleBaby.Cron
