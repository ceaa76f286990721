import LittleBaby.CronJobSteps

/-!
# At most one execution of a job

Only the marker of a job keeps its run from being doubled. A pass takes the
marker of a disabled job and one that is stuck, the skip of an invalid
specification and the start of the service take any.
-/

namespace LittleBaby.Cron

open LabelledMachine State

variable {deps : CronServiceDeps} {id : String}

theorem recomputeJobNextRunAtMs_marker (nowMs : ℤ) (job : CronJob) :
    (recomputeJobNextRunAtMs deps nowMs job).state.runningAtMs =
      job.state.runningAtMs := by
  unfold recomputeJobNextRunAtMs
  split <;> rfl

theorem Pass.recompute_marker (pass : Pass) (nowMs : ℤ) (job : CronJob) :
    (pass.recompute deps nowMs job).state.runningAtMs = job.state.runningAtMs := by
  rcases pass.recompute_cases nowMs job with heq | heq
  · rw [heq]
    exact recomputeJobNextRunAtMs_marker nowMs job
  · rw [heq]

variable {nowMs : ℤ} {job : CronJob}

theorem Pass.job_marker_none {pass : Pass} (hmarker : job.state.runningAtMs = none) :
    (pass.job deps nowMs job).state.runningAtMs = none := by
  cases hon : job.enabled with
  | false =>
    rw [pass.job_of_disabled nowMs hon]
    rfl
  | true =>
    rw [pass.job_of_enabled nowMs hon, pass.recompute_marker]
    simp [CronJob.tidied, hmarker]

def keepsMarker (nowMs : ℤ) (job : CronJob) : Bool :=
  job.enabled && job.state.runningAtMs.all (nowMs - · ≤ stuckRunMs)

def passesKeepMarker (deps : CronServiceDeps) : List (Pass × ℤ) → CronJob → Bool :=
  alongPasses deps fun _ => keepsMarker

theorem Pass.job_marker {pass : Pass} (hkeeps : keepsMarker nowMs job) :
    (pass.job deps nowMs job).state.runningAtMs = job.state.runningAtMs := by
  simp only [keepsMarker, Bool.and_eq_true] at hkeeps
  rw [pass.job_of_enabled nowMs hkeeps.1, pass.recompute_marker]
  cases hmarker : job.state.runningAtMs with
  | none => simp [CronJob.tidied, hmarker]
  | some marker =>
    have hfresh := hkeeps.2
    rw [hmarker] at hfresh
    have hkept : (some marker).filter (nowMs - · ≤ stuckRunMs) = some marker :=
      Option.filter_eq_some_iff.mpr ⟨rfl, hfresh⟩
    rw [CronJob.tidied, hmarker]
    exact hkept

theorem runPasses_marker {passes : List (Pass × ℤ)} (hkeep : passesKeepMarker deps passes job) :
    (runPasses deps passes job).state.runningAtMs = job.state.runningAtMs := by
  induction passes generalizing job with
  | nil => rfl
  | cons pass rest ih =>
    simp only [passesKeepMarker, alongPasses, Bool.and_eq_true] at hkeep
    rw [runPasses_cons, ih hkeep.2]
    exact Pass.job_marker hkeep.1

def Marked (job : Option CronJob) : Prop := ∀ copy ∈ job, copy.state.runningAtMs.isSome

def Unmarked (job : Option CronJob) : Prop := ∀ copy ∈ job, copy.state.runningAtMs = none

theorem Marked.passes {passes : List (Pass × ℤ)} {job : Option CronJob} (hmarked : Marked job)
    (hkeep : ∀ copy ∈ job, passesKeepMarker deps passes copy) :
    Marked (job.map (runPasses deps passes)) := by
  intro copy hcopy
  obtain ⟨old, hold, rfl⟩ := Option.mem_map.mp hcopy
  rw [runPasses_marker (hkeep old hold)]
  exact hmarked old hold

theorem marked_mark (nowMs : ℤ) (job : CronJob) : Marked (some (job.mark nowMs)) := by
  intro copy hcopy
  cases hcopy
  rfl

theorem Unmarked.pass {pass : Pass} {nowMs : ℤ} {job : Option CronJob}
    (hunmarked : Unmarked job) : Unmarked (job.map (pass.job deps nowMs)) := by
  intro copy hcopy
  obtain ⟨old, hold, rfl⟩ := Option.mem_map.mp hcopy
  exact Pass.job_marker_none (hunmarked old hold)

theorem unmarked_afterManualRun {forced : Bool} {result : CronRunOutcome} {disk : Option CronJob} :
    Unmarked (afterManualRun deps forced result job disk) := by
  intro copy hcopy
  obtain ⟨snapshot, hsnapshot, hrestored⟩ := Option.mem_bind_iff.mp hcopy
  obtain ⟨reloaded, -, rfl⟩ := Option.mem_map.mp hrestored
  exact (applyJobResult_recorded hsnapshot).marker

theorem unmarked_applyResults {results : List CronRunOutcome}
    {job : Option CronJob} (hne : results ≠ []) :
    Unmarked (applyResults deps results job) := by
  obtain ⟨init, last, rfl⟩ := List.eq_nil_or_concat results |>.resolve_left hne
  intro copy hcopy
  rw [applyResults, List.concat_eq_append, List.foldl_append,
    List.foldl_cons, List.foldl_nil] at hcopy
  obtain ⟨old, -, happly⟩ := Option.mem_bind_iff.mp hcopy
  exact (applyJobResult_recorded happly).marker

/-- A run of the job that is under way is the only one and has its marker, in
memory and in the file. -/
structure Exclusive (view : JobView) : Prop where
  present : view.current.isSome = view.disk.isSome
  atMostOne : view.runs.card ≤ 1
  current : view.runs ≠ 0 → Marked view.current
  disk : view.runs ≠ 0 → Marked view.disk

def Action.clearsMarkers : Action → Bool
  | .clearMarkers => true
  | _ => false

/-- The step leaves the marker of a job whose run is under way, unless it
records the result of that run. -/
structure LeavesMarker (deps : CronServiceDeps) (id : String) (state : State)
    (action : Action) : Prop where
  edits : action.edits ≠ some id
  start : state.openRuns id ≠ 0 → action.clearsMarkers = false
  skip : state.openRuns id ≠ 0 → action.manualRunOf state = some id → state.invalidSpec id = false
  passes : state.openRuns id ≠ 0 → ¬ action.records id state →
    ∀ copy ∈ (if action.reloads state then state.onDisk id
      else state.current id),
      passesKeepMarker deps (action.passes deps state) copy

instance (deps : CronServiceDeps) (id : String) (state : State)
    (action : Action) : Decidable (LeavesMarker deps id state action) :=
  decidable_of_iff (action.edits ≠ some id ∧
      (state.openRuns id ≠ 0 → action.clearsMarkers = false) ∧
      (state.openRuns id ≠ 0 → action.manualRunOf state = some id → state.invalidSpec id = false) ∧
      (state.openRuns id ≠ 0 → ¬ action.records id state →
        ∀ copy ∈ (if action.reloads state then state.onDisk id
          else state.current id),
          passesKeepMarker deps (action.passes deps state) copy))
    ⟨fun ⟨edits, start, skip, passes⟩ => ⟨edits, start, skip, passes⟩,
      fun ⟨edits, start, skip, passes⟩ => ⟨edits, start, skip, passes⟩⟩

variable {before after : JobView}

theorem Exclusive.of_cons {run old : Run} {rest : Multiset Run} (hexclusive : Exclusive before)
    (hbefore : before.runs = old ::ₘ rest) (hafter : after.runs = run ::ₘ rest)
    (hpresent : after.current.isSome = before.current.isSome)
    (hcurrent : Marked before.current → Marked after.current)
    (hdisk : after.disk = before.disk) : Exclusive after := by
  have hne : before.runs ≠ 0 := by
    rw [hbefore]
    exact Multiset.cons_ne_zero
  refine ⟨?_, ?_, fun _ => hcurrent (hexclusive.current hne), fun _ => ?_⟩
  · rw [hpresent, hdisk]
    exact hexclusive.present
  · have hle := hexclusive.atMostOne
    rw [hbefore, Multiset.card_cons] at hle
    rw [hafter, Multiset.card_cons]
    exact hle
  · rw [hdisk]
    exact hexclusive.disk hne

theorem Exclusive.no_runs_of_unmarked {view : JobView} (hexclusive : Exclusive view)
    (hjob : view.current = some job ∨ view.disk = some job)
    (hmarker : job.state.runningAtMs = none) : view.runs = 0 := by
  by_contra hne
  have hmarked : job.state.runningAtMs.isSome := by
    rcases hjob with hjob | hjob
    · exact hexclusive.current hne job hjob
    · exact hexclusive.disk hne job hjob
  rw [hmarker] at hmarked
  cases hmarked

theorem Exclusive.of_first {run : Run} (hbefore : before.runs = 0)
    (hafter : after.runs = run ::ₘ before.runs)
    (hcurrent : after.current = some job) (hdisk : after.disk = some job)
    (hmarked : Marked (some job)) : Exclusive after := by
  rw [hbefore] at hafter
  refine ⟨by rw [hcurrent, hdisk], by rw [hafter]; simp, fun _ => ?_, fun _ => ?_⟩
  · rw [hcurrent]
    exact hmarked
  · rw [hdisk]
    exact hmarked

theorem Exclusive.of_no_runs {view : JobView} (hpresent : view.current.isSome = view.disk.isSome)
    (hruns : view.runs = 0) : Exclusive view :=
  ⟨hpresent, by rw [hruns]; simp, fun hne => absurd hruns hne, fun hne => absurd hruns hne⟩

theorem runnable_unmarked {options : PickOptions}
    (hrunnable : isRunnableJob deps options nowMs job) :
    job.state.runningAtMs = none := by
  unfold isRunnableJob at hrunnable
  split at hrunnable
  · cases hrunnable
  · rename_i hnot
    simp only [Bool.or_eq_true, not_or, Bool.not_eq_true,
      Option.isSome_eq_false_iff, Option.isNone_iff_eq_none] at hnot
    exact hnot.2

theorem Exclusive.of_group {inGroup : Run → Bool}
    {results : List CronRunOutcome} (hexclusive : Exclusive before)
    (hdone : ∀ run ∈ before.runs, inGroup run → run.result.isSome)
    (hresults : (results : Multiset CronRunOutcome) =
      (before.runs.filter (inGroup ·)).filterMap Run.result)
    (hruns : after.runs = before.runs.filter (!inGroup ·))
    (hdisk : after.disk = after.current)
    (hpass : results = [] → (∀ run ∈ before.runs, inGroup run = false) →
      before.runs ≠ 0 → Marked after.current) : Exclusive after := by
  have hpresent : after.current.isSome = after.disk.isSome := by rw [hdisk]
  rcases group_cases hexclusive.atMostOne hdone hresults with
    ⟨hnone, -⟩ | ⟨run, hrun, hgroup, hempty, hsame⟩ |
    ⟨run, result, -, -, -, -, hzero⟩
  · apply Exclusive.of_no_runs hpresent
    rw [hruns, hnone]
    rfl
  · have hother : ∀ run ∈ before.runs, inGroup run = false := by
      rw [hrun]
      simpa using hgroup
    have hmarked : before.runs ≠ 0 → Marked after.current := hpass hempty hother
    refine ⟨hpresent, ?_, ?_, ?_⟩
    · rw [hruns, hsame]
      exact hexclusive.atMostOne
    · rw [hruns, hsame]
      exact hmarked
    · rw [hruns, hsame, hdisk]
      exact hmarked
  · apply Exclusive.of_no_runs hpresent
    rw [hruns, hzero]

theorem exclusive_boot (disk : List CronJob) (id : String) : Exclusive ((boot disk).view id) := by
  apply Exclusive.of_no_runs
  · simp [view, current_eq, onDisk, boot]
  · rfl

variable {state next : State} {action : Action}

theorem LeavesMarker.marked (hleaves : LeavesMarker deps id state action)
    (hexclusive : Exclusive (state.view id)) (hne : state.openRuns id ≠ 0)
    (hquiet : ¬ action.records id state) :
    Marked ((if action.reloads state then (state.view id).disk
      else (state.view id).current).map (runPasses deps (action.passes deps state))) := by
  apply Marked.passes _ (hleaves.passes hne hquiet)
  split
  · exact hexclusive.disk hne
  · exact hexclusive.current hne

theorem exclusive_step (hwf : state.WellFormed) (hexclusive : Exclusive (state.view id))
    (hleaves : LeavesMarker deps id state action)
    (hstep : step deps state action = some next) :
    Exclusive (next.view id) := by
  have hjob := jobStep_of_step hwf hleaves.edits hstep
  generalize next.view id = after at hjob
  cases hjob with
  | upkeep hquiet hcurrent hdisk =>
    rename_i current disk
    have hmarked : state.openRuns id ≠ 0 → Marked current := fun hne =>
      hcurrent ▸ hleaves.marked hexclusive hne hquiet
    rcases hdisk with rfl | ⟨rfl, hreloads, -⟩
    · exact ⟨rfl, hexclusive.atMostOne, hmarked, hmarked⟩
    · refine ⟨?_, hexclusive.atMostOne, hmarked, hexclusive.disk⟩
      rw [hcurrent, hreloads, Option.isSome_map]
      exact hexclusive.present
  | collected hidle hdisk hrunnable =>
    have hnone := hexclusive.no_runs_of_unmarked (.inr hdisk) (runnable_unmarked hrunnable)
    exact Exclusive.of_first hnone rfl rfl rfl (marked_mark _ _)
  | begun hmine hruns hcurrent =>
    rename_i current index load startedAt rest
    refine hexclusive.of_cons hruns rfl ?_ ?_ rfl
    · rcases hcurrent with rfl | rfl
      · rfl
      · exact Option.isSome_map
    · intro hmarked
      rcases hcurrent with rfl | rfl
      · exact hmarked
      · intro copy hcopy
        obtain ⟨old, -, rfl⟩ := Option.mem_map.mp hcopy
        rfl
  | executed hruns | candidateBegun hruns =>
    exact hexclusive.of_cons hruns rfl rfl (fun hmarked => hmarked) rfl
  | tickDone hdone hresults hcurrent =>
    rename_i current now results
    refine hexclusive.of_group hdone hresults rfl rfl ?_
    intro hempty hother hne
    have hquiet : ¬ (Action.applyDueResults now).records id state := by
      rintro ⟨run, hrun, htick⟩
      rw [hother run hrun] at htick
      cases htick
    rw [hcurrent, hempty]
    exact hleaves.marked hexclusive hne hquiet
  | reserved hmine hcurrent hmarker =>
    have hnone := hexclusive.no_runs_of_unmarked (.inl hcurrent) hmarker
    exact Exclusive.of_first hnone rfl rfl rfl (marked_mark _ _)
  | manualDone hmine hruns hjob hcurrent =>
    exact Exclusive.of_no_runs rfl (eq_zero_of_cons_card_le_one hexclusive.atMostOne hruns)
  | dropped hmine hruns hjob =>
    exact Exclusive.of_no_runs hexclusive.present
      (eq_zero_of_cons_card_le_one hexclusive.atMostOne hruns)
  | skipped haction hjob hinvalid hcurrent =>
    apply Exclusive.of_no_runs rfl
    by_contra hne
    have hvalid : state.invalidSpec id = false := by
      apply hleaves.skip hne
      rcases haction with rfl | rfl <;> rfl
    rw [hvalid] at hinvalid
    cases hinvalid
  | cleared hdisk =>
    rename_i disk
    apply Exclusive.of_no_runs
    · rcases hdisk with rfl | ⟨rfl, -⟩
      · rfl
      · rw [Option.isSome_map]
        exact hexclusive.present
    · by_contra hne
      exact absurd (hleaves.start hne) (by simp [Action.clearsMarkers])
  | planned hstartup hcurrent hrunnable =>
    have hnone := hexclusive.no_runs_of_unmarked (.inl hcurrent) (runnable_unmarked hrunnable)
    exact Exclusive.of_first hnone rfl rfl rfl (marked_mark _ _)
  | catchupDone hdone hresults hcurrent =>
    rename_i current baseNow now results next
    refine hexclusive.of_group hdone hresults rfl rfl ?_
    intro hempty hother hne
    have hquiet : ¬ (Action.applyStartupCatchupOutcomes baseNow now).records id
        state := by
      rintro ⟨run, hrun, hcatchup⟩
      rw [hother run hrun] at hcatchup
      cases hcatchup
    rw [hcurrent, hempty]
    intro copy hcopy
    obtain ⟨deferred, hdeferred, rfl⟩ := Option.mem_map.mp hcopy
    obtain ⟨old, hold, rfl⟩ := Option.mem_map.mp hdeferred
    have hkeep := hleaves.passes hne hquiet old hold
    simp only [Action.passes, passesKeepMarker, alongPasses, Bool.and_true] at hkeep
    have hdeferredKeep : keepsMarker now (old.withNextRun (next old)) := hkeep
    rw [Pass.job_marker hdeferredKeep]
    exact hexclusive.current hne old hold
  | crashed => exact Exclusive.of_no_runs rfl rfl

theorem cleared_of_records (hwf : state.WellFormed)
    (hexclusive : Exclusive (state.view id)) (hedits : action.edits ≠ some id)
    (hrecords : action.records id state)
    (hstep : step deps state action = some next) :
    next.openRuns id = 0 ∧ Unmarked (next.current id) ∧ Unmarked (next.onDisk id) := by
  have hjob := jobStep_of_step hwf hedits hstep
  have hview : next.openRuns id = (next.view id).runs ∧ next.current id = (next.view id).current ∧
      next.onDisk id = (next.view id).disk := ⟨rfl, rfl, rfl⟩
  rw [hview.1, hview.2.1, hview.2.2]
  generalize next.view id = after at hjob
  cases hjob with
  | upkeep hquiet hcurrent hdisk => exact absurd hrecords hquiet
  | collected hidle hdisk hrunnable => exact hrecords.elim
  | begun hmine hruns hcurrent => exact hrecords.elim
  | executed hruns => exact hrecords.elim
  | tickDone hdone hresults hcurrent =>
    obtain ⟨result, rfl, hzero⟩ := group_recorded hexclusive.atMostOne hdone hresults hrecords
    have hunmarked : Unmarked (applyResults deps [result]
        (state.view id).disk) := unmarked_applyResults (by simp)
    rw [hcurrent]
    exact ⟨hzero, hunmarked.pass, hunmarked.pass⟩
  | reserved hmine hcurrent hmarker => exact hrecords.elim
  | manualDone hmine hruns hjob hcurrent =>
    rw [hcurrent]
    exact ⟨eq_zero_of_cons_card_le_one hexclusive.atMostOne hruns,
      unmarked_afterManualRun.pass, unmarked_afterManualRun.pass⟩
  | dropped hmine hruns hjob =>
    have hgone : (state.view id).disk = none := by
      have hpresent := hexclusive.present
      rw [hjob] at hpresent
      exact Option.isNone_iff_eq_none.mp (by simpa using hpresent.symm)
    refine ⟨eq_zero_of_cons_card_le_one hexclusive.atMostOne hruns, ?_, ?_⟩
    · rw [hjob]
      exact fun copy hcopy => absurd hcopy (by simp)
    · rw [hgone]
      exact fun copy hcopy => absurd hcopy (by simp)
  | skipped haction hjob hinvalid hcurrent =>
    rcases haction with rfl | rfl <;> exact hrecords.elim
  | cleared hdisk => exact hrecords.elim
  | planned hstartup hcurrent hrunnable => exact hrecords.elim
  | candidateBegun hruns => exact hrecords.elim
  | catchupDone hdone hresults hcurrent =>
    rename_i current baseNow now results deferral
    obtain ⟨result, rfl, hzero⟩ := group_recorded hexclusive.atMostOne hdone hresults hrecords
    have hunmarked : Unmarked ((applyResults deps [result] (state.view id).current).map fun job =>
          job.withNextRun (deferral job)) := by
      intro copy hcopy
      obtain ⟨old, hold, rfl⟩ := Option.mem_map.mp hcopy
      exact unmarked_applyResults (by simp) old hold
    rw [hcurrent]
    exact ⟨hzero, hunmarked.pass, hunmarked.pass⟩
  | crashed => exact hrecords.elim

def State.inProgress (state : State) : List String :=
  (state.runs.cells.filter Run.isExecuting).map (·.jobId)

theorem count_inProgress_le (state : State) (id : String) :
    state.inProgress.count id ≤ (state.openRuns id).card := by
  unfold inProgress openRuns
  rw [Multiset.coe_card, List.count, List.countP_map, ← List.countP_eq_length_filter,
    List.countP_filter]
  apply List.countP_mono_left
  intro run _ hrun
  simp only [Function.comp_apply, Bool.and_eq_true, beq_iff_eq] at hrun
  have hopen : run.isOpen := by
    have hexecuting := hrun.2
    unfold Run.isExecuting at hexecuting
    unfold Run.isOpen
    split at hexecuting
    · rename_i heq
      rw [heq]
    · cases hexecuting
  simp [Run.isOpenFor, hopen, hrun.1]

theorem wellFormed_exclusive_run {disk : List CronJob} {actions : List Action}
    (hids : (ids disk).Nodup)
    (hguarded : Guarded (step deps) (LeavesMarker deps id) (boot disk) actions)
    (hrun : run (step deps) (boot disk) actions = some state) :
    state.WellFormed ∧ Exclusive (state.view id) := by
  refine run_guarded_invariant (fun state => state.WellFormed ∧ Exclusive (state.view id)) ?_
    ⟨State.WellFormed.boot hids, exclusive_boot disk id⟩ hguarded hrun
  rintro state next action ⟨hwf, hexclusive⟩ hleaves hstep
  exact ⟨wellFormed_step hwf hstep, exclusive_step hwf hexclusive hleaves hstep⟩

end LittleBaby.Cron
