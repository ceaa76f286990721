import LittleBaby.CronJobSteps

/-!
# A due slot is not skipped

The next run of an enabled recurring job stays what it is until a run of the job
that began at or after it is recorded.
-/

namespace LittleBaby.Cron

open JsString LabelledMachine State

variable {deps : CronServiceDeps} {id : String}

structure Scheduled (slot : ℤ) (job : CronJob) : Prop where
  enabled : job.enabled
  next : job.state.nextRunAtMs = some slot
  positive : 0 < slot

/-- A pass at a time leaves the slot of a job or the job is disabled: a full
pass does not find the slot past due.  Where a run is under way or the effect of
the pass is not saved, the job must be scheduled and its slot not be one that
has been executed. -/
def keepsSlot (strict : Bool) (pass : Pass) (nowMs : ℤ) (job : CronJob) :
    Bool :=
  !job.enabled || ((pass = .full → !nextRunHasCome job.state.nextRunAtMs nowMs) &&
      (strict → hasScheduledNextRunAtMs job.state.nextRunAtMs &&
        !(pass = .maintenance true && executedExpiredSlot (job.tidied nowMs) nowMs)))

variable {slot nowMs : ℤ} {job : CronJob}

theorem Scheduled.tidied (hslot : Scheduled slot job) : Scheduled slot (job.tidied nowMs) := by
  refine ⟨hslot.enabled, ?_, hslot.positive⟩
  simp [CronJob.tidied, hslot.next, hslot.positive]

theorem Scheduled.hasScheduled (hslot : Scheduled slot job) :
    hasScheduledNextRunAtMs job.state.nextRunAtMs := by
  rw [hslot.next]
  simpa [hasScheduledNextRunAtMs] using hslot.positive

theorem Scheduled.nextRunHasCome_iff (hslot : Scheduled slot job) :
    nextRunHasCome job.state.nextRunAtMs nowMs ↔ slot ≤ nowMs := by
  rw [nextRunHasCome, hslot.hasScheduled, Bool.true_and, hslot.next]
  simp

theorem Scheduled.pass {pass : Pass} (hslot : Scheduled slot job)
    (hfull : pass = .full → !nextRunHasCome job.state.nextRunAtMs nowMs) :
    Scheduled slot (pass.job deps nowMs job) ∨ pass = .maintenance true ∧
        executedExpiredSlot (job.tidied nowMs) nowMs := by
  have htidied := @Scheduled.tidied _ nowMs _ hslot
  rw [pass.job_of_enabled nowMs hslot.enabled]
  cases pass with
  | full =>
    left
    have hearly : nextRunHasCome (job.tidied nowMs).state.nextRunAtMs nowMs =
        false := by
      rw [htidied.next, ← hslot.next]
      simpa using hfull rfl
    rw [Pass.recompute, recomputeIfDueOrMissing, htidied.hasScheduled, hearly]
    exact htidied
  | maintenance recomputeExpired =>
    rw [Pass.recompute, recomputeForMaintenance, htidied.hasScheduled]
    simp only [Bool.not_true, Bool.false_eq_true, if_false]
    split
    · rename_i hexpired
      rw [Bool.and_eq_true] at hexpired
      exact .inr ⟨by rw [hexpired.1], hexpired.2⟩
    · exact .inl htidied

theorem Scheduled.pass_strict {pass : Pass}
    (hslot : Scheduled slot job) (hkeeps : keepsSlot true pass nowMs job) :
    Scheduled slot (pass.job deps nowMs job) := by
  simp only [keepsSlot, hslot.enabled, Bool.not_true, Bool.false_or,
    Bool.and_eq_true, decide_eq_true_eq] at hkeeps
  obtain ⟨hfull, hstrict⟩ := hkeeps
  rcases @Scheduled.pass deps _ _ _ _ hslot hfull with hkept | ⟨rfl, hexpired⟩
  · exact hkept
  · have hnot := (hstrict trivial).2
    simp [hexpired] at hnot

theorem Scheduled.executed {slot nowMs : ℤ} {job : CronJob} (hslot : Scheduled slot job)
    (hexpired : executedExpiredSlot (job.tidied nowMs) nowMs) :
    ∃ last ∈ job.state.lastRunAtMs, slot ≤ last := by
  have htidied := @Scheduled.tidied _ nowMs _ hslot
  simp only [executedExpiredSlot, Bool.and_eq_true] at hexpired
  obtain ⟨last, hlast, hcome⟩ := (Option.any_eq_true _ _).mp hexpired.2
  exact ⟨last, hlast, htidied.nextRunHasCome_iff.mp hcome⟩

variable {passes : List (Pass × ℤ)}

theorem Scheduled.runPasses_strict (hslot : Scheduled slot job)
    (hkeep : alongPasses deps (keepsSlot true) passes job) :
    Scheduled slot (runPasses deps passes job) := by
  induction passes generalizing job with
  | nil => exact hslot
  | cons pass rest ih =>
    simp only [alongPasses, Bool.and_eq_true] at hkeep
    exact ih (hslot.pass_strict hkeep.1) hkeep.2

theorem Scheduled.runPasses {strict : Bool} (hslot : Scheduled slot job)
    (hkeep : alongPasses deps (keepsSlot strict) passes job) :
    Scheduled slot (runPasses deps passes job) ∨ ∃ last ∈ job.state.lastRunAtMs, slot ≤ last := by
  induction passes generalizing job with
  | nil => exact .inl hslot
  | cons pass rest ih =>
    simp only [alongPasses, keepsSlot, hslot.enabled, Bool.and_eq_true,
      Bool.not_true, Bool.false_or, decide_eq_true_eq] at hkeep
    obtain ⟨⟨hfull, -⟩, hrest⟩ := hkeep
    rcases @Scheduled.pass deps _ _ _ _ hslot hfull with hkept | ⟨-, hexpired⟩
    · have hpassed := @Pass.passed deps pass.1 pass.2 job
      rw [← hpassed.lastRun]
      exact ih hkept hrest
    · exact .inr (hslot.executed hexpired)

theorem scheduled_of_runPasses_enabled (hkeep : alongPasses deps (keepsSlot true) passes job)
    (hon : (runPasses deps passes job).enabled) :
    (runPasses deps passes job).state.nextRunAtMs = job.state.nextRunAtMs := by
  have henabled := (@passed_runPasses deps passes job).enabled hon
  cases passes with
  | nil => rfl
  | cons pass rest =>
    have hfirst := hkeep
    simp only [alongPasses, keepsSlot, henabled, Bool.and_eq_true,
      Bool.not_true, Bool.false_or, decide_eq_true_eq] at hfirst
    have hscheduled := (hfirst.1.2 trivial).1
    cases hnext : job.state.nextRunAtMs with
    | none =>
      rw [hnext] at hscheduled
      cases hscheduled
    | some slot =>
      have hslot : Scheduled slot job := by
        refine ⟨henabled, hnext, ?_⟩
        rw [hnext] at hscheduled
        simpa [hasScheduledNextRunAtMs] using hscheduled
      exact (hslot.runPasses_strict hkeep).next

structure Recurring (starts : List ℤ) (job : CronJob) : Prop where
  isAt : job.schedule.isAt = false
  lastRun : ∀ last ∈ job.state.lastRunAtMs, last ∈ starts

variable {starts : List ℤ}

theorem Recurring.of_passed {after : CronJob}
    (hrecurring : Recurring starts job) (hpassed : Passed job after) :
    Recurring starts after := by
  refine ⟨hpassed.isAt.trans hrecurring.isAt, ?_⟩
  rw [hpassed.lastRun]
  exact hrecurring.lastRun

theorem Recurring.mono {more : List ℤ} (hrecurring : Recurring starts job) (hsub : starts ⊆ more) :
    Recurring more job :=
  ⟨hrecurring.isAt, fun last hlast => hsub (hrecurring.lastRun last hlast)⟩

theorem Recurring.applyResults {results : List CronRunOutcome}
    {job : Option CronJob} (hjob : ∀ copy ∈ job, Recurring starts copy)
    (hresults : ∀ result ∈ results, result.startedAt ∈ starts) :
    ∀ copy ∈ applyResults deps results job, Recurring starts copy := by
  induction results generalizing job with
  | nil => exact hjob
  | cons result rest ih =>
    apply ih
    · intro copy hcopy
      obtain ⟨old, hold, happly⟩ := Option.mem_bind_iff.mp hcopy
      have hrecorded := applyJobResult_recorded happly
      refine ⟨?_, ?_⟩
      · rw [hrecorded.schedule]
        exact (hjob old hold).isAt
      · rw [hrecorded.lastRun]
        intro last hlast
        cases hlast
        exact hresults result List.mem_cons_self
    · exact fun other hother => hresults other (List.mem_cons_of_mem _ hother)

def Run.startedAt (run : Run) : Option ℤ :=
  match run.phase with
  | .executing startedAt => some startedAt
  | .completed result => some result.startedAt
  | _ => none

structure Slotted (view : JobView) : Prop where
  recurring : ∀ copy, (copy ∈ view.current ∨ copy ∈ view.disk) → Recurring view.starts copy
  agrees : ∀ copy ∈ view.current, copy.enabled → ∃ stored ∈ view.disk,
    stored.enabled ∧ stored.state.nextRunAtMs = copy.state.nextRunAtMs
  ticks : ∀ run ∈ view.runs, run.isTick
  armed : view.runs ≠ 0 → ∀ copy, (copy ∈ view.current ∨ copy ∈ view.disk) →
    ∃ slot, Scheduled slot copy
  started : ∀ run ∈ view.runs, ∀ startedAt ∈ run.startedAt, startedAt ∈ view.starts ∧
      ∀ stored ∈ view.disk, stored.state.nextRunAtMs.all (· ≤ startedAt)

def Kept (slot : ℤ) (view : JobView) : Prop := ∃ copy ∈ view.current, Scheduled slot copy

def Served (slot : ℤ) (view : JobView) : Prop := ∃ startedAt ∈ view.starts, slot ≤ startedAt

theorem Slotted.stored {view : JobView} (hslotted : Slotted view)
    (hkept : Kept slot view) : ∃ stored ∈ view.disk, Scheduled slot stored := by
  obtain ⟨copy, hcopy, hslot⟩ := hkept
  obtain ⟨stored, hstored, hon, hnext⟩ := hslotted.agrees copy hcopy hslot.enabled
  exact ⟨stored, hstored, hon, hnext.trans hslot.next, hslot.positive⟩

section Upkeep

variable {before : JobView} {current disk : Option CronJob}
  {reloads unsaved : Bool} {passes : List (Pass × ℤ)}

theorem Slotted.of_upkeep (hslotted : Slotted before)
    (hkeep : ∀ copy ∈ (if reloads then before.disk else before.current),
      alongPasses deps (keepsSlot (before.runs ≠ 0 || unsaved)) passes copy)
    (hcurrent : current = (if reloads then before.disk else before.current).map
      (runPasses deps passes))
    (hdisk : disk = current ∨ disk = before.disk ∧ reloads = false ∧
      (current = before.current ∨ unsaved)) :
    Slotted { before with current, disk } := by
  have hsource : ∀ copy ∈ current, ∃ old, (old ∈ before.current ∨ old ∈ before.disk) ∧
        runPasses deps passes old = copy ∧
        alongPasses deps (keepsSlot (before.runs ≠ 0 || unsaved)) passes old := by
    intro copy hcopy
    rw [hcurrent] at hcopy
    obtain ⟨old, hold, hpasses⟩ := Option.mem_map.mp hcopy
    refine ⟨old, ?_, hpasses, hkeep old hold⟩
    split at hold
    · exact .inr hold
    · exact .inl hold
  have hfrom : ∀ copy ∈ disk, copy ∈ current ∨ copy ∈ before.disk := by
    intro copy hcopy
    rcases hdisk with rfl | ⟨rfl, -⟩
    · exact .inl hcopy
    · exact .inr hcopy
  have hslot : before.runs ≠ 0 → ∀ copy ∈ current, ∃ old slot,
      (old ∈ before.current ∨ old ∈ before.disk) ∧ Scheduled slot old ∧ Scheduled slot copy := by
    intro hne copy hcopy
    obtain ⟨old, hold, rfl, hpasses⟩ := hsource copy hcopy
    obtain ⟨slot, hslot⟩ := hslotted.armed hne old hold
    rw [decide_eq_true hne, Bool.true_or] at hpasses
    exact ⟨old, slot, hold, hslot, hslot.runPasses_strict hpasses⟩
  refine ⟨?_, ?_, hslotted.ticks, ?_, ?_⟩
  · have hnew : ∀ copy ∈ current, Recurring before.starts copy := by
      intro copy hcopy
      obtain ⟨old, hold, rfl, -⟩ := hsource copy hcopy
      exact (hslotted.recurring old hold).of_passed (passed_runPasses passes old)
    rintro copy (hcopy | hcopy)
    · exact hnew copy hcopy
    · rcases hfrom copy hcopy with hmem | hmem
      · exact hnew copy hmem
      · exact hslotted.recurring copy (.inr hmem)
  · intro copy hcopy hon
    rcases hdisk with rfl | ⟨rfl, hreloads, rfl | hunsaved⟩
    · exact ⟨copy, hcopy, hon, rfl⟩
    · exact hslotted.agrees copy hcopy hon
    · -- The file keeps what it has, and the passes leave the slot in memory.
      rw [hcurrent, hreloads, if_neg Bool.false_ne_true] at hcopy
      obtain ⟨old, hold, rfl⟩ := Option.mem_map.mp hcopy
      have hpasses := hkeep old (by rwa [hreloads, if_neg Bool.false_ne_true])
      rw [hunsaved, Bool.or_true] at hpasses
      rw [scheduled_of_runPasses_enabled hpasses hon]
      exact hslotted.agrees old hold ((passed_runPasses passes old).enabled hon)
  · rintro hne copy (hcopy | hcopy)
    · obtain ⟨old, slot, -, -, hnew⟩ := hslot hne copy hcopy
      exact ⟨slot, hnew⟩
    · rcases hfrom copy hcopy with hmem | hmem
      · obtain ⟨old, slot, -, -, hnew⟩ := hslot hne copy hmem
        exact ⟨slot, hnew⟩
      · exact hslotted.armed hne copy (.inr hmem)
  · intro run hrun startedAt hstarted
    obtain ⟨hstart, hbound⟩ := hslotted.started run hrun startedAt hstarted
    refine ⟨hstart, ?_⟩
    intro stored hstored
    rcases hfrom stored hstored with hmem | hmem
    · have hne : before.runs ≠ 0 := by
        rintro hzero
        rw [hzero] at hrun
        exact absurd hrun (Multiset.notMem_zero run)
      obtain ⟨old, slot, hold, holdSlot, hnew⟩ := hslot hne stored hmem
      rw [hnew.next]
      rcases hold with hold | hold
      · obtain ⟨kept, hkept, hkeptSlot⟩ := hslotted.stored ⟨old, hold, holdSlot⟩
        rw [← hkeptSlot.next]
        exact hbound kept hkept
      · rw [← holdSlot.next]
        exact hbound old hold
    · exact hbound stored hmem

theorem Slotted.kept_upkeep {strict : Bool} (hslotted : Slotted before)
    (hkeep : ∀ copy ∈ (if reloads then before.disk else before.current),
      alongPasses deps (keepsSlot strict) passes copy)
    (hcurrent : current = (if reloads then before.disk else before.current).map
      (runPasses deps passes))
    (hkept : Kept slot before) :
    Kept slot { before with current, disk } ∨ Served slot before := by
  have hsource : ∃ copy ∈ (if reloads then before.disk else before.current),
      Scheduled slot copy ∧ Recurring before.starts copy := by
    split
    · obtain ⟨stored, hstored, hslot⟩ := hslotted.stored hkept
      exact ⟨stored, hstored, hslot, hslotted.recurring stored (.inr hstored)⟩
    · obtain ⟨copy, hcopy, hslot⟩ := hkept
      exact ⟨copy, hcopy, hslot, hslotted.recurring copy (.inl hcopy)⟩
  obtain ⟨copy, hcopy, hslot, hrecurring⟩ := hsource
  rcases hslot.runPasses (hkeep copy hcopy) with hnew | ⟨last, hlast, hle⟩
  · left
    refine ⟨runPasses deps passes copy, ?_, hnew⟩
    rw [hcurrent]
    exact Option.mem_map_of_mem _ hcopy
  · exact .inr ⟨last, hrecurring.lastRun last hlast, hle⟩

end Upkeep

section TickDone

variable {before : JobView} {results : List CronRunOutcome}
  (hslotted : Slotted before)
  (hresults : (results : Multiset CronRunOutcome) =
    (before.runs.filter (·.isTick)).filterMap Run.result)

include hslotted hresults

theorem Slotted.result_started {result : CronRunOutcome} (hresult : result ∈ results) :
    result.startedAt ∈ before.starts ∧ ∀ stored ∈ before.disk,
        stored.state.nextRunAtMs.all (· ≤ result.startedAt) := by
  have hmem : result ∈ (results : Multiset CronRunOutcome) := hresult
  rw [hresults, Multiset.mem_filterMap] at hmem
  obtain ⟨run, hrun, hdone⟩ := hmem
  apply hslotted.started run (Multiset.mem_of_mem_filter hrun)
  unfold Run.result at hdone
  unfold Run.startedAt
  split at hdone
  · rename_i hphase
    cases hdone
    rw [hphase]
    rfl
  · cases hdone

theorem Slotted.of_tickDone {now : ℤ} {current : Option CronJob}
    (hcurrent : current = (applyResults deps results before.disk).map
      (Pass.job deps (.maintenance false) now)) :
    Slotted { before with
      current
      disk := current
      runs := before.runs.filter (!·.isTick)
      results := before.results ++ results } := by
  have hnone : before.runs.filter (!·.isTick) = 0 := by
    apply Multiset.filter_eq_nil.mpr
    intro run hrun
    simp [hslotted.ticks run hrun]
  have hrecurring : ∀ copy ∈ current, Recurring before.starts copy := by
    intro copy hcopy
    rw [hcurrent] at hcopy
    obtain ⟨old, hold, rfl⟩ := Option.mem_map.mp hcopy
    have hstored : ∀ copy ∈ before.disk, Recurring before.starts copy :=
      fun copy hcopy => hslotted.recurring copy (.inr hcopy)
    have hstarted : ∀ result ∈ results, result.startedAt ∈ before.starts :=
      fun result hresult => (hslotted.result_started hresults hresult).1
    exact (Recurring.applyResults hstored hstarted old hold).of_passed (Pass.passed _ now old)
  refine ⟨?_, ?_, ?_, ?_, ?_⟩
  · rintro copy (hcopy | hcopy) <;> exact hrecurring copy hcopy
  · exact fun copy hcopy hon => ⟨copy, hcopy, hon, rfl⟩
  · exact fun run hrun => absurd (hnone ▸ hrun) (Multiset.notMem_zero run)
  · exact fun hne => absurd hnone hne
  · exact fun run hrun => absurd (hnone ▸ hrun) (Multiset.notMem_zero run)

theorem Slotted.kept_tickDone {now : ℤ} {current : Option CronJob}
    (hcurrent : current = (applyResults deps results before.disk).map
      (Pass.job deps (.maintenance false) now))
    (hkept : Kept slot before) :
    (∃ copy ∈ current, Scheduled slot copy) ∨ Served slot before := by
  obtain ⟨stored, hstored, hslot⟩ := hslotted.stored hkept
  cases results with
  | nil =>
    left
    have hpass := @Scheduled.pass deps _ now _ (.maintenance false) hslot
      (fun hfull => by cases hfull)
    refine ⟨Pass.job deps (.maintenance false) now stored, ?_,
      hpass.resolve_right fun hexpired => by cases hexpired.1⟩
    rw [hcurrent]
    exact Option.mem_map_of_mem _ hstored
  | cons result rest =>
    right
    obtain ⟨hstart, hbound⟩ := hslotted.result_started hresults List.mem_cons_self
    refine ⟨result.startedAt, hstart, ?_⟩
    have hle := hbound stored hstored
    rw [hslot.next] at hle
    simpa using hle

end TickDone

theorem runnable_scheduled (hrunnable : isRunnableJob deps {} nowMs job) :
    ∃ slot, Scheduled slot job := by
  unfold isRunnableJob at hrunnable
  split at hrunnable
  · cases hrunnable
  · rename_i hnot
    simp only [Bool.or_eq_true, not_or, Bool.not_eq_true', Bool.not_eq_false] at hnot
    have hcome : nextRunHasCome job.state.nextRunAtMs nowMs := by
      simp only [Bool.false_and, Bool.false_eq_true, if_false] at hrunnable
      split at hrunnable
      · assumption
      · split at hrunnable <;> cases hrunnable
    rw [nextRunHasCome, Bool.and_eq_true] at hcome
    cases hnext : job.state.nextRunAtMs with
    | none =>
      rw [hnext] at hcome
      cases hcome.1
    | some slot =>
      rw [hnext] at hcome
      exact ⟨slot, hnot.1.1, hnext, by
        simpa [hasScheduledNextRunAtMs] using hcome.1⟩

theorem Scheduled.mark (hslot : Scheduled slot job) (nowMs : ℤ) : Scheduled slot (job.mark nowMs) :=
  ⟨hslot.enabled, hslot.next, hslot.positive⟩

theorem Recurring.mark (hrecurring : Recurring starts job) (nowMs : ℤ) :
    Recurring starts (job.mark nowMs) :=
  ⟨hrecurring.isAt, hrecurring.lastRun⟩

theorem Slotted.of_collected {before : JobView} {now : ℤ}
    {load : ℕ} (hslotted : Slotted before) (hdisk : before.disk = some job)
    (hslot : ∃ slot, Scheduled slot job) :
    Slotted { before with
      current := some (job.mark now)
      disk := some (job.mark now)
      runs := ⟨id, .tick load, .reserved⟩ ::ₘ before.runs } := by
  obtain ⟨slot, hslot⟩ := hslot
  refine ⟨?_, ?_, ?_, ?_, ?_⟩
  · rintro copy hcopy
    rw [or_self, Option.mem_some] at hcopy
    subst hcopy
    exact (hslotted.recurring job (.inr hdisk)).mark now
  · exact fun copy hcopy hon => ⟨copy, hcopy, hon, rfl⟩
  · intro run hrun
    rcases Multiset.mem_cons.mp hrun with rfl | hold
    · rfl
    · exact hslotted.ticks run hold
  · rintro - copy hcopy
    rw [or_self, Option.mem_some] at hcopy
    subst hcopy
    exact ⟨slot, hslot.mark now⟩
  · intro run hrun startedAt hstarted
    rcases Multiset.mem_cons.mp hrun with rfl | hold
    · cases hstarted
    · obtain ⟨hstart, hbound⟩ := hslotted.started run hold startedAt hstarted
      refine ⟨hstart, ?_⟩
      rintro stored hstored
      cases hstored
      exact hbound job hdisk

theorem Slotted.of_cons {before after : JobView} {old run : Run}
    {rest : Multiset Run} (hslotted : Slotted before)
    (hbefore : before.runs = old ::ₘ rest) (hafter : after.runs = run ::ₘ rest)
    (hcurrent : after.current = before.current ∨
      ∃ now, after.current = before.current.map (·.mark now))
    (hdisk : after.disk = before.disk) (hstarts : before.starts ⊆ after.starts)
    (htick : run.isTick)
    (hstarted : ∀ startedAt ∈ run.startedAt, startedAt ∈ after.starts ∧
      ∀ stored ∈ before.disk, stored.state.nextRunAtMs.all (· ≤ startedAt)) :
    Slotted after := by
  have hsource : ∀ copy ∈ after.current, ∃ old ∈ before.current,
      copy = old ∨ ∃ now, copy = old.mark now := by
    intro copy hcopy
    rcases hcurrent with heq | ⟨now, heq⟩
    · exact ⟨copy, heq ▸ hcopy, .inl rfl⟩
    · rw [heq] at hcopy
      obtain ⟨old, hold, rfl⟩ := Option.mem_map.mp hcopy
      exact ⟨old, hold, .inr ⟨now, rfl⟩⟩
  refine ⟨?_, ?_, ?_, ?_, ?_⟩
  · rintro copy (hcopy | hcopy)
    · obtain ⟨old, hold, rfl | ⟨now, rfl⟩⟩ := hsource copy hcopy
      · exact (hslotted.recurring copy (.inl hold)).mono hstarts
      · exact ((hslotted.recurring old (.inl hold)).mark now).mono hstarts
    · exact (hslotted.recurring copy (.inr (hdisk ▸ hcopy))).mono hstarts
  · intro copy hcopy hon
    rw [hdisk]
    obtain ⟨old, hold, rfl | ⟨now, rfl⟩⟩ := hsource copy hcopy
    · exact hslotted.agrees copy hold hon
    · exact hslotted.agrees old hold hon
  · intro other hother
    rw [hafter] at hother
    rcases Multiset.mem_cons.mp hother with rfl | hrest
    · exact htick
    · apply hslotted.ticks other
      rw [hbefore]
      exact Multiset.mem_cons_of_mem hrest
  · have hne : before.runs ≠ 0 := by
      rw [hbefore]
      exact Multiset.cons_ne_zero
    rintro - copy (hcopy | hcopy)
    · obtain ⟨old, hold, rfl | ⟨now, rfl⟩⟩ := hsource copy hcopy
      · exact hslotted.armed hne copy (.inl hold)
      · obtain ⟨slot, hslot⟩ := hslotted.armed hne old (.inl hold)
        exact ⟨slot, hslot.mark now⟩
    · exact hslotted.armed hne copy (.inr (hdisk ▸ hcopy))
  · intro other hother startedAt hstart
    rw [hdisk]
    rw [hafter] at hother
    rcases Multiset.mem_cons.mp hother with rfl | hrest
    · exact hstarted startedAt hstart
    · have hmem : other ∈ before.runs := by
        rw [hbefore]
        exact Multiset.mem_cons_of_mem hrest
      obtain ⟨hold, hbound⟩ := hslotted.started other hmem startedAt hstart
      exact ⟨hstarts hold, hbound⟩

def Action.isOperation : Action → Bool
  | .clearMarkers | .planStartupCatchup _ | .runStartupCatchupCandidate ..
  | .applyStartupCatchupOutcomes .. | .finishStart _ | .crash => false
  | _ => true

/-- An operation on other jobs or a part of a tick, whose passes keep the slot
of the job, and which does not start a run of the job before its slot. -/
structure KeepsSlots (deps : CronServiceDeps) (id : String) (state : State)
    (action : Action) : Prop where
  operation : action.isOperation
  edits : action.edits ≠ some id
  manual : action.manualRunOf state ≠ some id
  clock : ∀ start ∈ action.startsRun state, start.1 = id →
    ∀ stored ∈ state.onDisk id, stored.state.nextRunAtMs.all (· ≤ start.2)
  passes : ∀ copy ∈ (if action.reloads state then state.onDisk id
      else state.current id),
    alongPasses deps (keepsSlot (state.openRuns id ≠ 0 || action.unsaved deps state))
      (action.passes deps state) copy

instance (deps : CronServiceDeps) (id : String) (state : State)
    (action : Action) : Decidable (KeepsSlots deps id state action) :=
  decidable_of_iff (action.isOperation ∧ action.edits ≠ some id ∧
      action.manualRunOf state ≠ some id ∧
      (∀ start ∈ action.startsRun state, start.1 = id → ∀ stored ∈ state.onDisk id,
          stored.state.nextRunAtMs.all (· ≤ start.2)) ∧
      (∀ copy ∈ (if action.reloads state then state.onDisk id
          else state.current id),
        alongPasses deps (keepsSlot (state.openRuns id ≠ 0 || action.unsaved deps state))
          (action.passes deps state) copy))
    ⟨fun ⟨operation, edits, manual, clock, passes⟩ =>
        ⟨operation, edits, manual, clock, passes⟩,
      fun ⟨operation, edits, manual, clock, passes⟩ =>
        ⟨operation, edits, manual, clock, passes⟩⟩

variable {state next : State} {action : Action}

theorem slotted_step (hwf : state.WellFormed) (hslotted : Slotted (state.view id))
    (hkeeps : KeepsSlots deps id state action)
    (hstep : step deps state action = some next) :
    Slotted (next.view id) ∧ ∀ slot, Kept slot (state.view id) →
        Kept slot (next.view id) ∨ Served slot (state.view id) := by
  have hjob := jobStep_of_step hwf hkeeps.edits hstep
  generalize next.view id = after at hjob
  cases hjob with
  | upkeep hquiet hcurrent hdisk =>
    exact ⟨hslotted.of_upkeep hkeeps.passes hcurrent hdisk, fun slot hkept =>
      hslotted.kept_upkeep hkeeps.passes hcurrent hkept⟩
  | collected hidle hdisk hrunnable =>
    rename_i job dueCheckNow now load
    refine ⟨hslotted.of_collected hdisk (runnable_scheduled hrunnable), ?_⟩
    intro slot hkept
    obtain ⟨stored, hstored, hslot⟩ := hslotted.stored hkept
    have heq : stored = job := Option.mem_unique hstored hdisk
    subst heq
    exact .inl ⟨_, rfl, hslot.mark now⟩
  | begun hmine hruns hcurrent =>
    rename_i current index load startedAt rest
    have hbound := hkeeps.clock (id, startedAt) hmine rfl
    have hmarked : current = (state.view id).current ∨
        ∃ now, current = (state.view id).current.map (·.mark now) :=
      hcurrent.imp_right fun heq => ⟨startedAt, heq⟩
    refine ⟨hslotted.of_cons hruns rfl hmarked rfl (List.subset_append_left _ _) rfl ?_, ?_⟩
    · rintro _ ⟨rfl⟩
      exact ⟨by simp, hbound⟩
    · rintro slot ⟨copy, hcopy, hslot⟩
      left
      rcases hcurrent with rfl | rfl
      · exact ⟨copy, hcopy, hslot⟩
      · exact ⟨_, Option.mem_map_of_mem _ hcopy, hslot.mark startedAt⟩
  | executed hruns =>
    rename_i index status error startedAt endedAt origin rest
    have hrun : ⟨id, origin, .executing startedAt⟩ ∈ (state.view id).runs := by
      rw [hruns]
      exact Multiset.mem_cons_self _ _
    have htick := hslotted.ticks _ hrun
    have hstarted := hslotted.started _ hrun
    exact ⟨hslotted.of_cons hruns rfl (.inl rfl) rfl (List.Subset.refl _)
      htick hstarted, fun slot hkept => .inl hkept⟩
  | tickDone hdone hresults hcurrent =>
    exact ⟨hslotted.of_tickDone hresults hcurrent, fun slot hkept =>
      hslotted.kept_tickDone hresults hcurrent hkept⟩
  | reserved hmine hcurrent hmarker | manualDone hmine hruns hjob hcurrent
  | dropped hmine hruns hjob =>
    exact absurd hmine hkeeps.manual
  | skipped haction hjob hinvalid hcurrent =>
    refine absurd ?_ hkeeps.manual
    rcases haction with rfl | rfl <;> rfl
  | cleared hdisk | planned hstartup hcurrent hrunnable | candidateBegun hruns
  | catchupDone hdone hresults hcurrent | crashed =>
    exact absurd hkeeps.operation Bool.false_ne_true

theorem starts_subset_step (hwf : state.WellFormed) (hedits : action.edits ≠ some id)
    (hstep : step deps state action = some next) :
    state.starts id ⊆ next.starts id := by
  have hjob := jobStep_of_step hwf hedits hstep
  have hbefore : state.starts id = (state.view id).starts := rfl
  have hafter : next.starts id = (next.view id).starts := rfl
  rw [hbefore, hafter]
  generalize next.view id = after at hjob
  cases hjob with
  | begun | reserved | candidateBegun => exact List.subset_append_left _ _
  | upkeep | collected | executed | tickDone | manualDone | dropped | skipped
  | cleared | planned | catchupDone | crashed => exact List.Subset.refl _

/-- Memory and file agree on a recurring job no run of which is under way, and
whose last run is on record. -/
structure State.Settled (id : String) (state : State) : Prop where
  wellFormed : state.WellFormed
  agrees : state.current id = state.onDisk id
  runs : state.openRuns id = 0
  recurring : ∀ copy ∈ state.onDisk id, Recurring (state.starts id) copy

theorem State.Settled.slotted {state : State} (hsettled : state.Settled id) :
    Slotted (state.view id) := by
  have hcopy : ∀ copy ∈ state.current id, copy ∈ state.onDisk id :=
    fun copy hcopy => hsettled.agrees ▸ hcopy
  refine ⟨?_, ?_, ?_, fun hne => absurd hsettled.runs hne, ?_⟩
  · rintro copy (hmem | hmem)
    · exact hsettled.recurring copy (hcopy copy hmem)
    · exact hsettled.recurring copy hmem
  · exact fun copy hmem hon => ⟨copy, hcopy copy hmem, hon, rfl⟩
  · intro run hrun
    exact absurd (hsettled.runs ▸ hrun) (Multiset.notMem_zero run)
  · intro run hrun
    exact absurd (hsettled.runs ▸ hrun) (Multiset.notMem_zero run)

theorem settled_boot {disk : List CronJob} (hids : (ids disk).Nodup)
    (hrecurring : ∀ job ∈ disk, job.id = id → Recurring [] job) :
    (boot disk).Settled id where
  wellFormed := State.WellFormed.boot hids
  agrees := by simp [current_eq, onDisk, boot]
  runs := rfl
  recurring := fun copy hcopy =>
    hrecurring copy (mem_of_findJob hcopy) (findJob_id hcopy)

theorem wellFormed_slotted_run {start : State} {actions : List Action} (hsettled : start.Settled id)
    (hguarded : Guarded (step deps) (KeepsSlots deps id) start actions)
    (hrun : run (step deps) start actions = some state) :
    state.WellFormed ∧ Slotted (state.view id) := by
  refine run_guarded_invariant (fun state => state.WellFormed ∧ Slotted (state.view id)) ?_
    ⟨hsettled.wellFormed, hsettled.slotted⟩ hguarded hrun
  rintro state next action ⟨hwf, hslotted⟩ hkeeps hstep
  exact ⟨wellFormed_step hwf hstep, (slotted_step hwf hslotted hkeeps hstep).1⟩

/-- In a run of operations whose passes keep the slots of a recurring job and
whose clock is not set back, the job stays scheduled for a time until an
execution of it that began at or after that time is on record. -/
theorem slot_kept_or_served {start final : State} {earlier later : List Action}
    {job : CronJob} {slot : ℤ} (hsettled : start.Settled id)
    (hearlier : Guarded (step deps) (KeepsSlots deps id) start earlier)
    (hreached : run (step deps) start earlier = some state)
    (hjob : state.current id = some job) (hslot : Scheduled slot job)
    (hlater : Guarded (step deps) (KeepsSlots deps id) state later)
    (hrun : run (step deps) state later = some final) :
    (∃ after, final.current id = some after ∧ Scheduled slot after) ∨
      ∃ startedAt ∈ final.starts id, slot ≤ startedAt := by
  obtain ⟨hwf, hslotted⟩ := wellFormed_slotted_run hsettled hearlier hreached
  have hinvariant : final.WellFormed ∧ Slotted (final.view id) ∧
      (Kept slot (final.view id) ∨ Served slot (final.view id)) := by
    refine run_guarded_invariant (fun state => state.WellFormed ∧ Slotted (state.view id) ∧
        (Kept slot (state.view id) ∨ Served slot (state.view id))) ?_
      ⟨hwf, hslotted, .inl ⟨job, hjob, hslot⟩⟩ hlater hrun
    rintro state next action ⟨hwf, hslotted, hcase⟩ hkeeps hstep
    obtain ⟨hnext, hkept⟩ := slotted_step hwf hslotted hkeeps hstep
    refine ⟨wellFormed_step hwf hstep, hnext, ?_⟩
    have hserved : Served slot (state.view id) → Served slot (next.view id) := by
      rintro ⟨startedAt, hmem, hle⟩
      exact ⟨startedAt, starts_subset_step hwf hkeeps.edits hstep hmem, hle⟩
    rcases hcase with hold | hold
    · exact (hkept slot hold).imp_right hserved
    · exact .inr (hserved hold)
  exact hinvariant.2.2

/-- A job that is due but not picked yet loses its slot when another job is
added. -/
theorem add_skips_due_slot : (run (step plainDeps) (boot [everySecond "daily"])
      [.read 500, .add "weekly"
          { schedule := .every 5000 none
            sessionTarget := js "main"
            payloadKind := .systemEvent } 2500 2500 2500]).map
      (fun state => ((state.current "daily").map (·.state.nextRunAtMs),
        state.starts "daily")) = some (some (some 3000), []) := by
  decide

/-- A late tick executes the job and moves its slot, while another job is run by
hand. -/
theorem slot_kept_or_served_late_tick : ∃ final, run (step plainDeps)
        (boot [everySecond "daily", everySecond "weekly"])
        [.read 500, .admitManualRun "weekly" true 600 600 600,
          .reserveManualRun 0, .executed 0 .ok none 2400, .finishManualRun 0 2500,
          .collectDueJobs 2600 2600, .runDueJob 1 2601,
          .executed 1 .ok none 2602, .applyDueResults 2603] = some final ∧
      final.starts "daily" = [2601] ∧
      ((∃ after, final.current "daily" = some after ∧ Scheduled 1000 after) ∨
        ∃ startedAt ∈ final.starts "daily", 1000 ≤ startedAt) := by
  apply exists_of_view (by decide : Option.map (starts · "daily") _ = some [2601])
  intro final htimes hrun
  have hsettled : (boot [everySecond "daily", everySecond "weekly"]).Settled "daily" := by
    apply settled_boot (by decide)
    intro job hjob _
    rcases List.mem_pair.mp hjob with rfl | rfl
    · exact ⟨rfl, by simp [everySecond]⟩
    · exact ⟨rfl, by simp [everySecond]⟩
  have hnone : Guarded (step plainDeps) (KeepsSlots plainDeps "daily")
      (boot [everySecond "daily", everySecond "weekly"]) [] := by
    decide
  exact ⟨htimes, slot_kept_or_served hsettled hnone rfl rfl ⟨rfl, rfl, by decide⟩ (by decide) hrun⟩

end LittleBaby.Cron
