import LittleBaby.CronJobView

/-!
# Every step as a change of the view of a job

For each operation of the service, what it does to the view of one job.
-/

namespace LittleBaby.Cron

open Run State SameHistory JobStep Cron.Action

variable {deps : CronServiceDeps}

variable {state : State} {id : String}

variable {index : ℕ} {run : Run}

theorem openRuns_setPhase (hget : state.runs.get? index = some run) (phase : RunPhase) :
    ∃ rest : Multiset Run, state.openRuns id = (if run.isOpenFor id then run ::ₘ rest else rest) ∧
      (state.setPhase index run phase).openRuns id = if isOpenFor id { run with phase } then
          { run with phase } ::ₘ rest
        else rest := by
  obtain ⟨others, hold, hnew⟩ := Arena.exists_perm_put hget
  refine ⟨↑(others.filter (isOpenFor id)), ?_, ?_⟩
  · have hperm := Multiset.coe_eq_coe.mpr (hold.filter (isOpenFor id))
    rw [openRuns, hperm, List.filter_cons]
    split <;> rfl
  · have hperm := Multiset.coe_eq_coe.mpr ((hnew { run with phase }).filter (isOpenFor id))
    rw [openRuns]
    unfold setPhase
    rw [hperm, List.filter_cons]
    split <;> rfl

variable {phase : RunPhase}

theorem openRuns_setPhase_of_not (hget : state.runs.get? index = some run)
    (hold : run.isOpenFor id = false)
    (hnew : isOpenFor id { run with phase } = false) :
    (state.setPhase index run phase).openRuns id = state.openRuns id := by
  obtain ⟨rest, hbefore, hafter⟩ := @openRuns_setPhase _ id _ _ hget phase
  rw [hbefore, hafter]
  simp [hold, hnew]

theorem openRuns_setPhase_of (hget : state.runs.get? index = some run)
    (hold : run.isOpenFor id = true)
    (hnew : isOpenFor id { run with phase } = true) :
    ∃ rest : Multiset Run, state.openRuns id = run ::ₘ rest ∧
      (state.setPhase index run phase).openRuns id = { run with phase } ::ₘ rest := by
  obtain ⟨rest, hbefore, hafter⟩ := @openRuns_setPhase _ id _ _ hget phase
  rw [if_pos hold] at hbefore
  rw [if_pos hnew] at hafter
  exact ⟨rest, hbefore, hafter⟩

theorem isOpenFor_eq_false (hne : run.jobId ≠ id) : run.isOpenFor id = false := by
  simp [isOpenFor, hne]

theorem openRuns_closeGroup (inGroup : Run → Bool) :
    (state.closeGroup inGroup).openRuns id = (state.openRuns id).filter (!inGroup ·) := by
  unfold openRuns closeGroup
  rw [Multiset.filter_coe, Multiset.coe_eq_coe]
  apply List.Perm.of_eq
  induction state.runs.cells with
  | nil => rfl
  | cons run rest ih =>
    rw [List.map_cons, List.filter_cons, List.filter_cons, ih]
    cases hgroup : inGroup run with
    | true =>
      have hclosed : run.close.isOpenFor id = false := rfl
      cases run.isOpenFor id <;> simp [hclosed, hgroup]
    | false =>
      cases hopen : run.isOpenFor id <;> simp [hopen, hgroup]

theorem resultsOf_outcomesOf (inGroup : Run → Bool) :
    (resultsOf id (state.outcomesOf inGroup) : Multiset CronRunOutcome) =
      ((state.openRuns id).filter (inGroup ·)).filterMap result := by
  unfold openRuns outcomesOf resultsOf
  rw [Multiset.filter_coe, Multiset.filterMap_coe, Multiset.coe_eq_coe]
  apply List.Perm.of_eq
  induction state.runs.cells with
  | nil => rfl
  | cons run rest ih =>
    have hresult : run.outcome = run.result.map (run.jobId, ·) := by
      unfold outcome result
      cases run.phase <;> rfl
    have hopen : run.result.isSome → run.isOpen := by
      unfold isOpen result
      cases run.phase <;> simp
    cases hgroup : inGroup run <;> by_cases hid : run.jobId = id <;>
      cases hres : run.result <;> cases hopen' : run.isOpen <;>
      simp_all [isOpenFor]

theorem groupDone_openRuns {inGroup : Run → Bool} (hdone : state.groupDone inGroup) :
    ∀ run ∈ state.openRuns id, inGroup run → run.result.isSome := by
  intro run hrun hgroup
  have hmem := List.mem_filter.mp hrun
  have hrun := List.all_eq_true.mp hdone run hmem.1
  have hopen : run.isOpen := by
    have := hmem.2
    simp only [isOpenFor, Bool.and_eq_true] at this
    exact this.1
  unfold isOpen at hopen
  unfold outcome at hrun
  unfold result
  cases hphase : run.phase <;> simp_all

theorem coe_filter_append (p : Run → Bool) (runs extra : List Run) :
    (((runs ++ extra).filter p : List Run) : Multiset Run) =
      ↑(extra.filter p) + ↑(runs.filter p) := by
  rw [List.filter_append, ← Multiset.coe_add, Multiset.add_comm]

theorem resultsOf_append (first second : List (String × CronRunOutcome)) :
    resultsOf id (first ++ second) = resultsOf id first ++ resultsOf id second := by
  simp [resultsOf]

theorem State.current_eq (state : State) (id : String) :
    state.current id = findJob (state.store.getD state.disk) id := by
  rw [current, load_jobs]

theorem State.current_congr {first second : State}
    (hstore : first.store = second.store) (hdisk : first.disk = second.disk)
    (id : String) : first.current id = second.current id := by
  rw [current_eq, current_eq, hstore, hdisk]

structure SameHistoryFor (id : String) (before after : State) : Prop where
  runs : after.openRuns id = before.openRuns id
  starts : after.starts id = before.starts id
  results : resultsOf id after.results = resultsOf id before.results

theorem SameHistory.for {before after : State} (hsame : SameHistory before after)
    (id : String) : SameHistoryFor id before after :=
  ⟨by rw [openRuns, hsame.runs, openRuns], by rw [starts, hsame.executions, starts],
    by rw [hsame.results]⟩

variable {next : State} {action : Action}

theorem JobStep.of_passes (hquiet : ¬ action.records id state)
    (hsame : SameHistoryFor id state next)
    (hcurrent : next.current id =
      (if action.reloads state then state.onDisk id else state.current id).map
        (runPasses deps (action.passes deps state)))
    (hdisk : next.onDisk id = next.current id ∨
      next.onDisk id = state.onDisk id ∧ action.reloads state = false ∧
        (next.current id = state.current id ∨ action.unsaved deps state)) :
    JobStep deps state id action (state.view id) (next.view id) := by
  have hview : next.view id = { state.view id with
        current := next.current id, disk := next.onDisk id } := by
    ext1
    · rfl
    · rfl
    · exact hsame.runs
    · exact hsame.starts
    · exact hsame.results
  rw [hview]
  exact .upkeep hquiet hcurrent hdisk

theorem JobStep.of_persistIfChanged {pass : Pass} {nowMs : ℤ} (hquiet : ¬ action.records id state)
    (hpasses : action.passes deps state = [(pass, nowMs)])
    (hreloads : action.reloads state = false)
    {startup : Startup}
    (hnext : next = { state.load.persistIfChanged
      (walkSchedulableJobs deps pass nowMs state.load.jobs) with startup }) :
    JobStep deps state id action (state.view id) (next.view id) := by
  subst hnext
  have hone : runPasses deps [(pass, nowMs)] = pass.job deps nowMs := rfl
  have hhistory : SameHistoryFor id state { state.load.persistIfChanged
        (walkSchedulableJobs deps pass nowMs state.load.jobs) with startup } := by
    apply SameHistory.for
    unfold State.persistIfChanged
    split <;> exact ⟨state.load_runs, state.load_executions, state.load_results⟩
  apply JobStep.of_passes hquiet hhistory
  all_goals by_cases hsame : walkSchedulableJobs deps pass nowMs state.load.jobs = state.load.jobs
  · have hcurrent : (state.current id).map (pass.job deps nowMs) = state.current id := by
      rw [State.current, ← findJob_walkSchedulableJobs, hsame]
    rw [State.persistIfChanged, if_pos hsame, State.current_eq, hpasses, hreloads, hone]
    rw [if_neg Bool.false_ne_true, hcurrent, State.current_eq]
    simp
  · rw [State.persistIfChanged, if_neg hsame, State.current_eq, hpasses, hreloads, hone]
    simp [State.persist, State.current_eq]
  · right
    rw [State.persistIfChanged, if_pos hsame, State.current_eq]
    refine ⟨by simp [State.onDisk], hreloads, Or.inl ?_⟩
    simp [State.current_eq]
  · left
    rw [State.persistIfChanged, if_neg hsame, State.current_eq]
    rfl

variable {key : String}

theorem jobStep_add {input : CronJobCreate} {loadNow createNow recomputeNow : ℤ} (hne : key ≠ id) :
    JobStep deps state id (.add key input loadNow createNow recomputeNow) (state.view id)
      ((add deps state key input loadNow createNow recomputeNow).view id) := by
  have hloaded : findJob (state.ensureLoaded deps loadNow).jobs id =
      (state.current id).map (runPasses deps
        (if state.store.isNone then [(.full, loadNow)] else [])) := by
    rw [State.ensureLoaded_jobs, State.current_eq]
    cases hstore : state.store with
    | none =>
      simp only [Option.isNone_none, if_true, recomputeNextRuns,
        findJob_walkSchedulableJobs, Option.getD_none]
      rfl
    | some jobs => simp [State.jobs, hstore]
  have hsame := ((@SameHistory.ensureLoaded deps state loadNow).for id)
  unfold add
  split
  · rename_i hcreate
    have hcurrent : (state.ensureLoaded deps loadNow).current id =
        findJob (state.ensureLoaded deps loadNow).jobs id := by
      rw [State.current_eq, State.ensureLoaded_store, Option.getD_some]
    apply JobStep.of_passes
    · exact fun hrecords => hrecords
    · exact hsame
    · rw [hcurrent, hloaded]
      simp [Action.reloads, Action.passes, hcreate]
    · right
      refine ⟨by simp [State.onDisk], rfl, Or.inr ?_⟩
      simp [Action.unsaved, hcreate]
  · rename_i job hcreate
    have hid : job.id ≠ id := by
      rw [createJob_id hcreate]
      exact hne
    apply JobStep.of_passes
    · exact fun hrecords => hrecords
    · exact ⟨hsame.runs, hsame.starts, hsame.results⟩
    · rw [State.current_eq]
      simp only [State.persist, Option.getD_some, recomputeNextRuns,
        findJob_walkSchedulableJobs, findJob_append_singleton hid, hloaded]
      simp [Action.reloads, Action.passes, hcreate]
      congr 1
      funext old
      simp [runPasses]
    · left
      rfl

theorem jobStep_update {patch : CronJobPatch} {nowMs : ℤ} (hne : key ≠ id) :
    JobStep deps state id (.update key patch nowMs) (state.view id)
      ((update deps state key patch nowMs).view id) := by
  have hkept : ∀ job, findJob state.load.jobs key = some job →
      findJob (modifyJob key (fun _ => (updateJob deps patch nowMs job).1)
        state.load.jobs) id = state.current id := by
    intro job hfind
    rw [findJob_modifyJob fun _ _ => (updateJob_id patch nowMs job).trans
      (findJob_id hfind), if_neg hne]
    rfl
  have hhistory := SameHistory.for (SameHistory.load state) id
  unfold update
  dsimp only
  split
  · apply JobStep.of_passes
    · exact fun hrecords => hrecords
    · exact hhistory
    · rw [State.current_eq]
      simp [Action.reloads, Action.passes, State.current_eq]
    · right
      exact ⟨by simp [State.onDisk], rfl, Or.inl (by simp [State.current_eq])⟩
  · rename_i job hfind
    split
    · apply JobStep.of_passes
      · exact fun hrecords => hrecords
      · exact ⟨hhistory.runs, hhistory.starts, hhistory.results⟩
      · rw [State.current_eq]
        simpa [State.persist, Action.reloads, Action.passes] using hkept job hfind
      · left
        rfl
    · apply JobStep.of_passes
      · exact fun hrecords => hrecords
      · exact ⟨hhistory.runs, hhistory.starts, hhistory.results⟩
      · rw [State.current_eq]
        simpa [State.keep, Action.reloads, Action.passes] using hkept job hfind
      · right
        refine ⟨by simp [State.onDisk, State.keep], rfl, Or.inl ?_⟩
        rw [State.current_eq]
        simpa [State.keep] using hkept job hfind

theorem jobStep_remove {loadNow : ℤ} (hne : key ≠ id) :
    JobStep deps state id (.remove key loadNow) (state.view id)
      ((remove deps state key loadNow).view id) := by
  have hsame := ((@SameHistory.ensureLoaded deps state loadNow).for id)
  apply JobStep.of_passes
  · exact fun hrecords => hrecords
  · exact ⟨hsame.runs, hsame.starts, hsame.results⟩
  · rw [State.current_eq]
    simp only [remove, State.persist, Option.getD_some, findJob_removeJob,
      if_neg hne, State.ensureLoaded_jobs, State.current_eq]
    cases hstore : state.store with
    | none =>
      simp [recomputeNextRuns, findJob_walkSchedulableJobs, Action.passes, Action.reloads, hstore]
      rfl
    | some jobs => simp [State.jobs, hstore, Action.passes, Action.reloads]
  · left
    rfl

variable {now : ℤ}

theorem jobStep_collectDueJobs {dueCheckNow : ℤ} (hwf : state.WellFormed)
    (hidle : state.running = false) :
    JobStep deps state id (.collectDueJobs dueCheckNow now) (state.view id)
      ((collectDueJobs deps state dueCheckNow now).view id) := by
  unfold collectDueJobs
  dsimp only
  split
  · rename_i hnone
    apply of_passes
    · exact fun hrecords => hrecords
    · exact ⟨rfl, rfl, rfl⟩
    · rw [current_eq]
      simp only [persist, Option.getD_some, reloads, if_true,
        passes, hnone, recomputeNextRunsForMaintenance,
        findJob_walkSchedulableJobs]
      rfl
    · left
      rfl
  · rename_i hsome
    have hmap : findJob (state.disk.map fun job =>
        if isRunnableJob deps {} dueCheckNow job then job.mark now else job) id =
        (state.onDisk id).map fun job =>
          if isRunnableJob deps {} dueCheckNow job then job.mark now else job :=
      findJob_map fun job => by split <;> rfl
    have hruns : ((collectRunnableJobs deps {} dueCheckNow state.disk).map
        fun job => (⟨job.id, .tick state.reload.loads, .reserved⟩ : Run)).filter (isOpenFor id) =
        (((state.onDisk id).filter (isRunnableJob deps {} dueCheckNow)).toList).map
          fun job => ⟨job.id, .tick state.reload.loads, .reserved⟩ := by
      rw [List.filter_map, onDisk, ← filter_id_eq hwf.disk, collectRunnableJobs, List.filter_filter]
      simp [isOpenFor, isOpen, Bool.and_comm]
    cases hdisk : state.onDisk id with
    | none =>
      rw [hdisk] at hmap hruns
      apply of_passes
      · exact fun hrecords => hrecords
      · refine ⟨?_, rfl, rfl⟩
        rw [openRuns, coe_filter_append, hruns]
        simp [openRuns]
      · rw [current_eq]
        simpa [persist, reloads, hdisk] using hmap
      · left
        rfl
    | some job =>
      rw [hdisk] at hmap hruns
      by_cases hrunnable : isRunnableJob deps {} dueCheckNow job
      · have hcopy : findJob (state.disk.map fun job =>
            if isRunnableJob deps {} dueCheckNow job then job.mark now
            else job) id = some (job.mark now) := by
          rw [hmap, Option.map_some, if_pos hrunnable]
        have hstep := @collected deps state id (state.view id) _ _
          now state.reload.loads hidle hdisk hrunnable
        convert hstep using 1
        ext1
        · rw [view, current_eq]
          exact hcopy
        · exact hcopy
        · rw [view, openRuns, coe_filter_append, hruns]
          simp [Option.filter, hrunnable, findJob_id hdisk, view, openRuns]
        · rfl
        · rfl
      · apply of_passes
        · exact fun hrecords => hrecords
        · refine ⟨?_, rfl, rfl⟩
          rw [openRuns, coe_filter_append, hruns]
          simp [Option.filter, hrunnable, openRuns]
        · rw [current_eq]
          simp only [persist, Option.getD_some, hmap, reloads,
            if_true, hdisk, passes, if_neg hsome, Option.map_some,
            if_neg hrunnable]
          rfl
        · left
          rfl

theorem JobStep.of_setPhase_of_not {executions : List (String × ℤ)}
    (hget : state.runs.get? index = some run)
    (hold : run.isOpenFor id = false)
    (hnew : isOpenFor id { run with phase } = false)
    (hstarts : (executions.filter (·.1 = id)).map (·.2) = state.starts id)
    (hquiet : ¬ action.records id state)
    (hpasses : action.passes deps state = [])
    (hreloads : action.reloads state = false) :
    JobStep deps state id action (state.view id)
      (({ state.setPhase index run phase with executions }).view id) := by
  apply of_passes
  · exact hquiet
  · exact ⟨openRuns_setPhase_of_not hget hold hnew, hstarts, rfl⟩
  · rw [hpasses, hreloads]
    simp [current_eq, setPhase]
  · right
    refine ⟨rfl, hreloads, .inl ?_⟩
    simp [current_eq, setPhase]

variable {jobId : String} {startedAt : ℤ}

theorem starts_begin_of_ne (hne : jobId ≠ id) :
    ((state.executions ++ [(jobId, startedAt)]).filter (·.1 = id)).map (·.2) = state.starts id := by
  simp [starts, hne]

theorem jobStep_runDueJob {load : ℕ}
    (hget : state.runs.get? index = some ⟨jobId, .tick load, .reserved⟩) :
    JobStep deps state id (.runDueJob index startedAt) (state.view id)
      ((runDueJob state index ⟨jobId, .tick load, .reserved⟩ load startedAt).view id) := by
  set begun := state.begin index ⟨jobId, .tick load, .reserved⟩ startedAt with hbegun
  have hnext : ∃ store, runDueJob state index ⟨jobId, .tick load, .reserved⟩ load
      startedAt = { begun with store } ∧ (store = state.store ∨
          store = state.store.map (modifyJob jobId (·.mark startedAt))) := by
    unfold runDueJob
    split
    · exact ⟨_, rfl, Or.inr rfl⟩
    · exact ⟨state.store, rfl, Or.inl rfl⟩
  obtain ⟨store, hstate, hstore⟩ := hnext
  have hcurrent : findJob (store.getD state.disk) id = state.current id ∨
      jobId = id ∧ findJob (store.getD state.disk) id =
        (state.current id).map (·.mark startedAt) := by
    rw [State.current_eq]
    rcases hstore with rfl | rfl
    · exact Or.inl rfl
    · cases hmemory : state.store with
      | none => exact Or.inl rfl
      | some jobs =>
        simp only [Option.map_some, Option.getD_some]
        rw [findJob_modifyJob fun job hjob => by simpa using hjob]
        by_cases hid : jobId = id
        · exact Or.inr ⟨hid, by rw [if_pos hid]⟩
        · exact Or.inl (by rw [if_neg hid])
  rw [hstate]
  by_cases hid : jobId = id
  · subst hid
    obtain ⟨rest, hbefore, hafter⟩ := @openRuns_setPhase_of _ jobId _ _
      (.executing startedAt) hget (by simp [Run.isOpenFor, Run.isOpen])
      (by simp [Run.isOpenFor, Run.isOpen])
    have hmine : Action.startsRun state (.runDueJob index startedAt) = some (jobId, startedAt) := by
      rw [Action.startsRun, hget]
      rfl
    have hstep := @JobStep.begun deps state jobId (state.view jobId)
      (findJob (store.getD state.disk) jobId) index load startedAt rest hmine
      hbefore (hcurrent.imp_right And.right)
    convert hstep using 1
    ext1
    · exact State.current_eq _ _
    · rfl
    · exact hafter
    · simp [State.view, State.starts, hbegun, State.begin]
    · rfl
  · have hkept : findJob (store.getD state.disk) id = state.current id :=
      hcurrent.resolve_right fun hboth => hid hboth.1
    apply JobStep.of_passes
    · exact fun hrecords => hrecords
    · exact ⟨openRuns_setPhase_of_not hget (isOpenFor_eq_false hid)
        (isOpenFor_eq_false hid), starts_begin_of_ne hid, rfl⟩
    · rw [State.current_eq]
      exact hkept.trans (Option.map_id_apply).symm
    · right
      refine ⟨rfl, rfl, Or.inl ?_⟩
      rw [State.current_eq]
      exact hkept

theorem jobStep_executed {origin : RunOrigin}
    {status : CronRunStatus} {error : Option JsString} {endedAt : ℤ}
    (hget : state.runs.get? index = some ⟨jobId, origin, .executing startedAt⟩) :
    JobStep deps state id (.executed index status error endedAt) (state.view id)
      ((state.setPhase index ⟨jobId, origin, .executing startedAt⟩
        (.completed ⟨status, error, startedAt, endedAt⟩)).view id) := by
  by_cases hid : jobId = id
  · subst hid
    obtain ⟨rest, hbefore, hafter⟩ := @openRuns_setPhase_of _ jobId _ _
      (.completed ⟨status, error, startedAt, endedAt⟩) hget
      (by simp [isOpenFor, isOpen])
      (by simp [isOpenFor, isOpen])
    have hstep := @executed deps state jobId (state.view jobId) index
      status error startedAt endedAt origin rest hbefore
    convert hstep using 1
    ext1
    · show (state.setPhase _ _ _).current jobId = state.current jobId
      apply current_congr <;> rfl
    · rfl
    · exact hafter
    · rfl
    · rfl
  · exact @of_setPhase_of_not _ _ _ _ _ _ _ state.executions hget
      (isOpenFor_eq_false hid) (isOpenFor_eq_false hid) rfl
      (fun hrecords => hrecords) rfl rfl

theorem jobStep_applyDueResults (hdone : state.groupDone isTick) :
    JobStep deps state id (.applyDueResults now) (state.view id)
      ((applyDueResults deps state now).view id) := by
  have hstep := @tickDone deps state id (state.view id) _ now
    (resultsOf id (state.outcomesOf isTick)) (groupDone_openRuns hdone)
    (resultsOf_outcomesOf _) rfl
  convert hstep using 1
  ext1
  · rw [view, current_eq]
    simp only [applyDueResults, closeGroup, persist,
      Option.getD_some, recomputeNextRunsForMaintenance,
      findJob_walkSchedulableJobs, findJob_applyOutcomes]
    rfl
  · simp only [view, onDisk, applyDueResults, closeGroup, persist, recomputeNextRunsForMaintenance,
      findJob_walkSchedulableJobs, findJob_applyOutcomes]
  · exact openRuns_closeGroup _
  · rfl
  · exact resultsOf_append _ _

variable {key : String} {forced : Bool} {passNow now skipNow : ℤ}

theorem inspectManualRunPreflight_cases : (state.invalidSpec key = false ∧
      (inspectManualRunPreflight deps state key forced passNow now skipNow).1 =
        state.load.keep (recomputeNextRunsForMaintenance deps false passNow state.load.jobs)) ∨
    ((∃ job, state.current key = some job) ∧ state.invalidSpec key = true ∧
      (inspectManualRunPreflight deps state key forced passNow now skipNow) =
        (skipInvalidPersistedManualRun deps
          (state.load.keep (recomputeNextRunsForMaintenance deps false passNow
            state.load.jobs)) key forced now skipNow, .invalidSpec)) := by
  have hfind : findJob (state.load.keep (recomputeNextRunsForMaintenance deps
      false passNow state.load.jobs)).jobs key =
      (state.current key).map (Pass.job deps (.maintenance false) passNow) := by
    simp only [keep, jobs, Option.getD_some,
      recomputeNextRunsForMaintenance, findJob_walkSchedulableJobs]
    rfl
  unfold inspectManualRunPreflight
  dsimp only
  rw [hfind]
  cases hjob : state.current key with
  | none => exact .inl ⟨by simp [invalidSpec, hjob], rfl⟩
  | some job =>
    have hpassed := @Pass.passed deps (.maintenance false) passNow job
    simp only [Option.map_some, hpassed.target, hpassed.payload]
    cases hsupported : supportedJobSpec job.sessionTarget job.payloadKind with
    | false =>
      refine .inr ⟨⟨job, rfl⟩, by
        simp [invalidSpec, hjob, hsupported], ?_⟩
      simp
    | true =>
      refine .inl ⟨by simp [invalidSpec, hjob, hsupported], ?_⟩
      simp
      split
      · rfl
      · split <;> rfl

theorem jobStep_preflight
    (haction : action = .inspectManualRunDisposition key forced passNow now skipNow ∨
        action = .admitManualRun key forced passNow now skipNow) :
    JobStep deps state id action (state.view id)
      ((inspectManualRunPreflight deps state key forced passNow now skipNow).1.view id) := by
  have hreloads : action.reloads state = false := by
    rcases haction with rfl | rfl <;> rfl
  have hpasses : action.passes deps state = (.maintenance false, passNow) ::
      if state.invalidSpec key then [(.maintenance true, skipNow)] else [] := by
    rcases haction with rfl | rfl <;> rfl
  have hunsaved : action.unsaved deps state = !state.invalidSpec key := by
    rcases haction with rfl | rfl <;> rfl
  have hquiet : ¬ action.records id state := by
    rcases haction with rfl | rfl <;> exact fun hrecords => hrecords
  have hhistory := SameHistory.for (SameHistory.load state) id
  rcases @inspectManualRunPreflight_cases deps state key forced passNow now
    skipNow with ⟨hvalid, hafter⟩ | ⟨⟨job, hjob⟩, hinvalid, hafter⟩
  · rw [hafter]
    apply JobStep.of_passes
    · exact hquiet
    · exact ⟨hhistory.runs, hhistory.starts, hhistory.results⟩
    · rw [State.current_eq, hreloads, hpasses, hvalid]
      simp only [State.keep, Option.getD_some, recomputeNextRunsForMaintenance,
        findJob_walkSchedulableJobs]
      rfl
    · right
      refine ⟨?_, hreloads, Or.inr ?_⟩
      · simp [State.onDisk, State.keep]
      · rw [hunsaved, hvalid]
        rfl
  · rw [hafter]
    have hfound : findJob (state.load.keep (recomputeNextRunsForMaintenance deps
        false passNow state.load.jobs)).jobs id =
        (state.current id).map (Pass.job deps (.maintenance false) passNow) := by
      simp only [State.keep, State.jobs, Option.getD_some,
        recomputeNextRunsForMaintenance, findJob_walkSchedulableJobs]
      rfl
    have hjobs : findJob (recomputeNextRunsForMaintenance deps true skipNow
        (applyOutcomeToStoredJob deps forced
          (state.load.keep (recomputeNextRunsForMaintenance deps false passNow
            state.load.jobs)).jobs (key, ⟨.skipped, none, now, now⟩))) id =
        (if key = id then
          ((state.current id).map (Pass.job deps (.maintenance false) passNow)).bind
              (applyJobResult deps forced ⟨.skipped, none, now, now⟩)
        else (state.current id).map (Pass.job deps (.maintenance false) passNow)).map
            (Pass.job deps (.maintenance true) skipNow) := by
      rw [recomputeNextRunsForMaintenance, findJob_walkSchedulableJobs,
        findJob_applyOutcomeToStoredJob, hfound]
    by_cases hid : key = id
    · subst hid
      rw [if_pos rfl, hjob] at hjobs
      have hstep := @JobStep.skipped deps state key _ (state.view key) _ _ _ _
        _ _ haction hjob hinvalid rfl
      convert hstep using 1
      ext1
      · rw [State.view, State.current_eq]
        exact hjobs
      · exact hjobs
      · exact hhistory.runs
      · exact hhistory.starts
      · rw [State.view, skipInvalidPersistedManualRun, resultsOf_append]
        simp [State.keep, State.view, resultsOf]
    · rw [if_neg hid] at hjobs
      apply JobStep.of_passes
      · exact hquiet
      · refine ⟨hhistory.runs, hhistory.starts, ?_⟩
        rw [skipInvalidPersistedManualRun, resultsOf_append]
        simp [State.keep, resultsOf, hid]
      · rw [State.current_eq, hreloads, hpasses, hinvalid]
        exact hjobs.trans (Option.map_map ..)
      · left
        rfl

theorem jobStep_admitManualRun :
    JobStep deps state id (.admitManualRun key forced passNow now skipNow) (state.view id)
      ((admitManualRun deps state key forced passNow now skipNow).view id) := by
  have hstep := @jobStep_preflight deps state id _ key forced passNow now skipNow (.inr rfl)
  unfold admitManualRun
  split
  · rename_i after heq
    rw [heq] at hstep
    have hview : ({ after with
        runs := after.runs.push ⟨key, .manual forced, .admitted now⟩ } :
          State).view id = after.view id := by
      ext1
      · show current _ id = after.current id
        apply current_congr <;> rfl
      · rfl
      · have hclosed : isOpenFor id ⟨key, .manual forced, .admitted now⟩ = false := rfl
        simp [view, openRuns, Arena.push, hclosed]
      · rfl
      · rfl
    rw [hview]
    exact hstep
  · rename_i after preflight hne heq
    rw [heq] at hstep
    exact hstep

theorem JobStep.of_closed (hget : state.runs.get? index = some run)
    (hold : run.isOpenFor id = false)
    (hquiet : ¬ action.records id state)
    (hpasses : action.passes deps state = [])
    (hreloads : action.reloads state = false) :
    JobStep deps state id action (state.view id) ((state.setPhase index run .closed).view id) :=
  @of_setPhase_of_not _ _ _ _ _ _ _ state.executions hget hold rfl rfl hquiet hpasses hreloads

theorem jobStep_reserveManualRun {origin : RunOrigin}
    (hget : state.runs.get? index = some ⟨jobId, origin, .admitted now⟩) :
    JobStep deps state id (.reserveManualRun index) (state.view id)
      ((reserveManualRun state index ⟨jobId, origin, .admitted now⟩ now).view id) := by
  have hadmitted : Run.isOpenFor id ⟨jobId, origin, .admitted now⟩ = false := rfl
  unfold reserveManualRun
  split
  · exact JobStep.of_closed hget hadmitted (fun hrecords => hrecords) rfl rfl
  · rename_i job hfind
    split
    · exact JobStep.of_closed hget hadmitted (fun hrecords => hrecords) rfl rfl
    · rename_i hmarker
      cases hstore : state.store with
      | none => simp [State.jobs, hstore, findJob] at hfind
      | some jobs =>
        have hjobs : state.jobs = jobs := by simp [State.jobs, hstore]
        have hcurrent : findJob jobs id = state.current id := by
          rw [State.current_eq, hstore, Option.getD_some]
        have hmarked : findJob (modifyJob jobId (·.mark now) state.jobs) id =
            if jobId = id then (state.current id).map (·.mark now)
            else state.current id := by
          rw [findJob_modifyJob fun job hjob => by simpa using hjob, hjobs, hcurrent]
        rw [hjobs] at hfind
        by_cases hid : jobId = id
        · subst hid
          rw [hcurrent] at hfind
          rw [if_pos rfl, hfind, Option.map_some] at hmarked
          obtain ⟨rest, hbefore, hafter⟩ := @openRuns_setPhase _ jobId _ _ hget (.executing now)
          rw [if_pos (by simp [Run.isOpenFor, Run.isOpen])] at hafter
          have hstep := @JobStep.reserved deps state jobId (state.view jobId)
            _ index now origin (by simp [Action.manualRunOf, hget]) hfind
            (by simpa using hmarker)
          convert hstep using 1
          ext1
          · rw [State.view, State.current_eq]
            exact hmarked
          · exact hmarked
          · rw [State.view]
            simp only [State.view, hbefore]
            exact hafter
          · simp [State.view, State.starts, State.begin, State.persist]
          · rfl
        · rw [if_neg hid] at hmarked
          apply JobStep.of_passes
          · exact fun hrecords => hrecords
          · exact ⟨openRuns_setPhase_of_not hget hadmitted
              (isOpenFor_eq_false hid), starts_begin_of_ne hid, rfl⟩
          · rw [State.current_eq]
            exact hmarked.trans (Option.map_id_apply).symm
          · left
            rfl

theorem jobStep_finishManualRun {result : CronRunOutcome}
    (hget : state.runs.get? index = some ⟨jobId, .manual forced, .completed result⟩) :
    JobStep deps state id (.finishManualRun index now) (state.view id)
      ((finishManualRun deps state index
        ⟨jobId, .manual forced, .completed result⟩ forced result now).view id) := by
  have hloaded : state.load.runs.get? index = some ⟨jobId, .manual forced, .completed result⟩ := by
    rw [State.load_runs]
    exact hget
  have hcompleted : state.completedManualRun index =
      if (state.current jobId).isSome then some jobId else none := by
    simp [State.completedManualRun, hget]
  have hhistory := SameHistory.for (SameHistory.load state) id
  unfold finishManualRun
  by_cases hid : jobId = id
  · subst hid
    obtain ⟨rest, hbefore, hafter⟩ := @openRuns_setPhase _ jobId _ _ hloaded .closed
    rw [if_pos (by simp [Run.isOpenFor, Run.isOpen]), hhistory.runs] at hbefore
    split
    · rename_i hfind
      have hstep := @JobStep.dropped deps state jobId (state.view jobId) index
        now _ _ _ (by simp [Action.manualRunOf, hget]) hbefore hfind
      convert hstep using 1
      ext1
      · rw [State.view, State.current_eq]
        simp [State.setPhase, State.view, State.current_eq]
      · simp [State.view, State.onDisk, State.setPhase]
      · exact hafter
      · exact hhistory.starts
      · exact hhistory.results
    · rename_i job hfind
      have hjobs : findJob (recomputeNextRunsForMaintenance deps true now
          (mergeManualRunSnapshotAfterReload jobId
            (applyJobResult deps forced result job) state.disk)) jobId =
          (afterManualRun deps forced result job (state.onDisk jobId)).map
            (Pass.job deps (.maintenance true) now) := by
        rw [recomputeNextRunsForMaintenance, findJob_walkSchedulableJobs,
          findJob_mergeManualRunSnapshot, if_pos rfl]
        rfl
      have hstep := @JobStep.manualDone deps state jobId (state.view jobId) _ _
        index now _ _ _ (by simp [Action.manualRunOf, hget]) hbefore hfind rfl
      convert hstep using 1
      ext1
      · rw [State.view, State.current_eq]
        exact hjobs
      · exact hjobs
      · exact hafter
      · exact hhistory.starts
      · rw [State.view, resultsOf_append]
        simp [resultsOf, State.view]
  · have hquiet : ¬ (Action.finishManualRun index now).records id state := by
      simp [Action.records, hget, hid]
    have hruns := @openRuns_setPhase_of_not _ id _ _ .closed hloaded (isOpenFor_eq_false hid) rfl
    rw [hhistory.runs] at hruns
    split
    · rename_i hfind
      have hnone : state.completedManualRun index = none := by
        rw [hcompleted, State.current, hfind]
        rfl
      apply JobStep.of_passes
      · exact hquiet
      · exact ⟨hruns, hhistory.starts, hhistory.results⟩
      · rw [State.current_eq]
        simp [Action.reloads, Action.passes, hnone, State.setPhase, State.current_eq]
      · right
        refine ⟨by simp [State.onDisk, State.setPhase], by simp [Action.reloads, hnone], Or.inl ?_⟩
        simp [State.setPhase, State.current_eq]
    · rename_i job hfind
      have hsome : state.completedManualRun index = some jobId := by
        rw [hcompleted, State.current, hfind]
        rfl
      have hjobs : findJob (recomputeNextRunsForMaintenance deps true now
          (mergeManualRunSnapshotAfterReload jobId
            (applyJobResult deps forced result job) state.disk)) id =
          (state.onDisk id).map (Pass.job deps (.maintenance true) now) := by
        rw [recomputeNextRunsForMaintenance, findJob_walkSchedulableJobs,
          findJob_mergeManualRunSnapshot, if_neg hid]
        rfl
      apply JobStep.of_passes
      · exact hquiet
      · refine ⟨hruns, hhistory.starts, ?_⟩
        simp [resultsOf, hid]
      · rw [State.current_eq]
        simp only [Action.reloads, Action.passes, hsome, Option.isSome_some, if_true]
        exact hjobs
      · left
        rfl

theorem jobStep_clearMarkers : JobStep deps state id .clearMarkers (state.view id)
      ((clearMarkers state).view id) := by
  have hmapped : findJob (state.load.jobs.map (·.unmark)) id = (state.current id).map (·.unmark) :=
    findJob_map CronJob.unmark_id
  have hhistory := SameHistory.for (SameHistory.load state) id
  by_cases hsame : state.load.jobs.map (·.unmark) = state.load.jobs
  · have hkept : (state.current id).map (·.unmark) = state.current id := by
      rw [← hmapped, hsame]
      rfl
    have hstep := @JobStep.cleared deps state id (state.view id)
      (state.onDisk id) (Or.inr ⟨rfl, hkept⟩)
    convert hstep using 1
    unfold clearMarkers State.persistIfChanged
    dsimp only
    rw [if_pos hsame]
    ext1
    · show State.current _ id = (state.current id).map (·.unmark)
      rw [hkept, State.current_eq]
      simp [State.current_eq]
    · simp [State.view, State.onDisk]
    · exact hhistory.runs
    · exact hhistory.starts
    · exact hhistory.results
  · have hstep := @JobStep.cleared deps state id (state.view id)
      ((state.current id).map (·.unmark)) (Or.inl rfl)
    convert hstep using 1
    unfold clearMarkers State.persistIfChanged
    dsimp only
    rw [if_neg hsame]
    ext1
    · rw [State.view, State.current_eq]
      exact hmapped
    · exact hmapped
    · exact hhistory.runs
    · exact hhistory.starts
    · exact hhistory.results

theorem jobStep_planStartupCatchup {skipJobIds : List String}
    (hwf : state.WellFormed) (hstartup : state.startup = .cleared skipJobIds) :
    JobStep deps state id (.planStartupCatchup now) (state.view id)
      ((planStartupCatchup deps state skipJobIds now).view id) := by
  have hhistory := SameHistory.for (SameHistory.load state) id
  unfold planStartupCatchup
  dsimp only
  split
  · apply JobStep.of_passes
    · exact fun hrecords => hrecords
    · exact ⟨hhistory.runs, hhistory.starts, hhistory.results⟩
    · rw [State.current_eq]
      simp [Action.reloads, Action.passes, State.current_eq]
    · right
      refine ⟨by simp [State.onDisk], rfl, Or.inl ?_⟩
      simp [State.current_eq]
  · set missed := collectRunnableJobs deps (catchupOptions skipJobIds) now
      state.load.jobs with hmissed
    set sorted := missed.mergeSort fun a b =>
      a.state.nextRunAtMs.getD 0 ≤ b.state.nextRunAtMs.getD 0
    set maxImmediate := (deps.maxMissedJobsPerRestart.getD 5).toNat
    set candidates : List String := (sorted.take maxImmediate).map (·.id) with hcandidates
    have hsorted : sorted.Perm missed := List.mergeSort_perm _ _
    have hloaded : (ids state.load.jobs).Nodup := by simpa using hwf.loaded
    have hnodup : candidates.Nodup := by
      have hsub : candidates.Sublist (sorted.map (·.id)) := (List.take_sublist _ _).map _
      have hmissed' : (missed.map (·.id)).Nodup := hloaded.sublist (List.filter_sublist.map _)
      exact ((hsorted.map _).nodup_iff.mpr hmissed').sublist hsub
    have hruns : (candidates.map fun key =>
        (⟨key, .catchup, .reserved⟩ : Run)).filter (Run.isOpenFor id) =
        if candidates.contains id then [⟨id, .catchup, .reserved⟩] else [] := by
      have hfilter : candidates.filter (fun key => key = id) =
          if candidates.contains id then [id] else [] := by
        rw [List.filter_eq]
        split
        · rename_i hmem
          rw [List.count_eq_one_of_mem hnodup (by simpa using hmem)]
          rfl
        · rename_i hmem
          rw [List.count_eq_zero_of_not_mem (by simpa using hmem)]
          rfl
      rw [List.filter_map]
      have htest : (Run.isOpenFor id ∘ fun key =>
          (⟨key, .catchup, .reserved⟩ : Run)) = fun key => decide (key = id) := by
        funext key
        simp [Run.isOpenFor, Run.isOpen]
      rw [htest, hfilter]
      split <;> rfl
    have hmap : findJob (state.load.jobs.map fun job =>
        if candidates.contains job.id then job.mark now else job) id =
        (state.current id).map fun job =>
          if candidates.contains job.id then job.mark now else job :=
      findJob_map fun job => by split <;> rfl
    by_cases hmem : candidates.contains id
    · have hfound : ∃ job, state.current id = some job ∧
          isRunnableJob deps (catchupOptions skipJobIds) now job := by
        have hin : id ∈ candidates := by simpa using hmem
        obtain ⟨job, hjob, hid⟩ := List.mem_map.mp hin
        have hjob' := hsorted.mem_iff.mp (List.mem_of_mem_take hjob)
        have hpicked := List.mem_filter.mp hjob'
        refine ⟨job, ?_, hpicked.2⟩
        have hone := @filter_id_eq _ id (fun _ => true) hloaded
        have hin : job ∈ state.load.jobs.filter (fun job => true && decide (job.id = id)) :=
          List.mem_filter.mpr ⟨hpicked.1, by simpa using hid⟩
        rw [hone] at hin
        simpa [State.current] using hin
      obtain ⟨job, hjob, hrunnable⟩ := hfound
      have hcopy : findJob (state.load.jobs.map fun job =>
          if candidates.contains job.id then job.mark now else job) id =
          some (job.mark now) := by
        rw [hmap, hjob, Option.map_some, findJob_id hjob, if_pos hmem]
      have hstep := @JobStep.planned deps state id (state.view id) _ _ _ hstartup hjob hrunnable
      convert hstep using 1
      ext1
      · rw [State.view, State.current_eq]
        exact hcopy
      · exact hcopy
      · rw [State.view, State.openRuns, coe_filter_append, hruns, if_pos hmem]
        simp [State.view, State.openRuns]
      · exact hhistory.starts
      · exact hhistory.results
    · have hcopy : findJob (state.load.jobs.map fun job =>
          if candidates.contains job.id then job.mark now else job) id =
          state.current id := by
        rw [hmap]
        cases hjob : state.current id with
        | none => rfl
        | some job =>
          rw [Option.map_some, findJob_id hjob, if_neg hmem]
      apply JobStep.of_passes
      · exact fun hrecords => hrecords
      · refine ⟨?_, hhistory.starts, hhistory.results⟩
        rw [State.openRuns, coe_filter_append, hruns, if_neg hmem]
        simp [State.openRuns]
      · rw [State.current_eq]
        exact hcopy.trans (Option.map_id_apply).symm
      · left
        rfl

theorem jobStep_runStartupCatchupCandidate
    (hget : state.runs.get? index = some ⟨jobId, .catchup, .reserved⟩) :
    JobStep deps state id (.runStartupCatchupCandidate index startedAt) (state.view id)
      ((state.begin index ⟨jobId, .catchup, .reserved⟩ startedAt).view id) := by
  by_cases hid : jobId = id
  · subst hid
    obtain ⟨rest, hbefore, hafter⟩ := @openRuns_setPhase_of _ jobId _ _
      (.executing startedAt) hget (by simp [isOpenFor, isOpen])
      (by simp [isOpenFor, isOpen])
    have hstep := @candidateBegun deps state jobId (state.view jobId) index startedAt _ hbefore
    convert hstep using 1
    ext1
    · show (state.begin _ _ _).current jobId = state.current jobId
      apply current_congr <;> rfl
    · rfl
    · exact hafter
    · simp [view, starts, begin]
    · rfl
  · exact of_setPhase_of_not hget (isOpenFor_eq_false hid)
      (isOpenFor_eq_false hid) (starts_begin_of_ne hid)
      (fun hrecords => hrecords) rfl rfl

theorem jobStep_applyStartupCatchupOutcomes {deferred : List String}
    {baseNow : ℤ} (hdone : state.groupDone Run.isCatchup) :
    JobStep deps state id (.applyStartupCatchupOutcomes baseNow now) (state.view id)
      ((applyStartupCatchupOutcomes deps state deferred baseNow now).view id) := by
  have hhistory := SameHistory.for (SameHistory.load state) id
  obtain ⟨next, hnext⟩ := @findJob_deferMissedJobs (applyOutcomes deps state.load.jobs
      (state.outcomesOf Run.isCatchup)) id baseNow
    (max 0 (deps.missedJobStaggerMs.getD 5000)) deferred
    (max 0 (deps.missedJobStaggerMs.getD 5000))
  have hjobs : findJob (recomputeNextRunsForMaintenance deps false now
      (deferMissedJobs baseNow (max 0 (deps.missedJobStaggerMs.getD 5000))
        deferred (max 0 (deps.missedJobStaggerMs.getD 5000))
        (applyOutcomes deps state.load.jobs (state.outcomesOf Run.isCatchup)))) id =
      ((applyResults deps (resultsOf id (state.outcomesOf Run.isCatchup))
        (state.current id)).map fun job => job.withNextRun (next job)).map
          (Pass.job deps (.maintenance false) now) := by
    rw [recomputeNextRunsForMaintenance, findJob_walkSchedulableJobs, hnext, findJob_applyOutcomes]
    rfl
  have hstep := @JobStep.catchupDone deps state id (state.view id) _ baseNow
    now (resultsOf id (state.outcomesOf Run.isCatchup)) next
    (groupDone_openRuns hdone) (resultsOf_outcomesOf _) rfl
  convert hstep using 1
  ext1
  · rw [State.view, State.current_eq]
    exact hjobs
  · exact hjobs
  · have hclosed := @openRuns_closeGroup state.load id Run.isCatchup
    rw [hhistory.runs] at hclosed
    exact hclosed
  · exact hhistory.starts
  · exact resultsOf_append _ _

theorem eq_zero_of_cons_card_le_one {runs rest : Multiset Run}
    (hone : runs.card ≤ 1) (hruns : runs = run ::ₘ rest) : rest = 0 := by
  rw [hruns, Multiset.card_cons] at hone
  exact Multiset.card_eq_zero.mp (by omega)

section

variable {runs : Multiset Run} {inGroup : Run → Bool} {results : List CronRunOutcome} (hone :
  runs.card ≤ 1) (hdone : ∀ run ∈ runs, inGroup run → run.result.isSome) (hresults : (results :
  Multiset CronRunOutcome) = (runs.filter (inGroup ·)).filterMap result)

include hone hdone hresults

theorem group_cases : (runs = 0 ∧ results = []) ∨
      (∃ run, runs = {run} ∧ inGroup run = false ∧ results = [] ∧ runs.filter (!inGroup ·) = runs) ∨
      ∃ run result, runs = {run} ∧ inGroup run = true ∧
        run.result = some result ∧ results = [result] ∧ runs.filter (!inGroup ·) = 0 := by
  rcases Nat.le_one_iff_eq_zero_or_eq_one.mp hone with hzero | hcard
  · have hruns := Multiset.card_eq_zero.mp hzero
    refine .inl ⟨hruns, ?_⟩
    rw [hruns] at hresults
    simpa using hresults
  · obtain ⟨run, hrun⟩ := Multiset.card_eq_one.mp hcard
    subst hrun
    cases hgroup : inGroup run with
    | false =>
      refine .inr (.inl ⟨run, rfl, hgroup, ?_, by simp [hgroup]⟩)
      simpa [hgroup, Multiset.filter_singleton] using hresults
    | true =>
      have hsome := hdone run (Multiset.mem_singleton_self run) hgroup
      obtain ⟨result, hresult⟩ := Option.isSome_iff_exists.mp hsome
      refine .inr (.inr ⟨run, result, rfl, hgroup, hresult, ?_, by simp [hgroup]⟩)
      have hfilter : ({run} : Multiset Run).filter (inGroup ·) = ↑[run] := by
        simp [hgroup]
      rw [hfilter, Multiset.filterMap_coe] at hresults
      simpa [hresult] using hresults

theorem group_recorded (hmine : ∃ run ∈ runs, inGroup run) :
    ∃ result, results = [result] ∧ runs.filter (!inGroup ·) = 0 := by
  obtain ⟨mine, hmine, hgroup⟩ := hmine
  rcases group_cases hone hdone hresults with
    ⟨rfl, -⟩ | ⟨run, rfl, hother, -, -⟩ | ⟨run, result, -, -, -, hsome, hzero⟩
  · simp at hmine
  · rw [Multiset.mem_singleton.mp hmine, hother] at hgroup
    cases hgroup
  · exact ⟨result, hsome, hzero⟩

end

theorem jobStep_of_step (hwf : state.WellFormed) (hedits : action.edits ≠ some id)
    (hstep : step deps state action = some next) :
    JobStep deps state id action (state.view id) (next.view id) := by
  cases action with
  | read now =>
    cases hstep
    have hstartup : ensureLoadedForRead deps state now =
        { state.load.persistIfChanged (walkSchedulableJobs deps
          (.maintenance false) now state.load.jobs) with
          startup := (ensureLoadedForRead deps state now).startup } := rfl
    exact of_persistIfChanged (fun hrecords => hrecords) rfl rfl hstartup
  | add key input loadNow createNow recomputeNow =>
    simp only [step] at hstep
    split at hstep
    · cases hstep
    · cases hstep
      exact jobStep_add fun heq => hedits (congrArg some heq)
  | update key patch now =>
    cases hstep
    exact jobStep_update fun heq => hedits (congrArg some heq)
  | remove key loadNow =>
    cases hstep
    exact jobStep_remove fun heq => hedits (congrArg some heq)
  | collectDueJobs dueCheckNow now =>
    simp only [step] at hstep
    split at hstep
    · cases hstep
    · cases hstep
      rename_i hidle
      simp only [Bool.or_eq_true, not_or, Bool.not_eq_true] at hidle
      exact jobStep_collectDueJobs hwf hidle.1
  | runDueJob index startedAt =>
    simp only [step] at hstep
    split at hstep
    · rename_i jobId load hget
      split at hstep
      · cases hstep
        exact jobStep_runDueJob hget
      · cases hstep
    · cases hstep
  | executed index status error endedAt =>
    simp only [step] at hstep
    split at hstep
    · rename_i jobId origin startedAt hget
      cases hstep
      exact jobStep_executed hget
    · cases hstep
  | applyDueResults now =>
    simp only [step] at hstep
    split at hstep
    · rename_i hdone
      cases hstep
      simp only [Bool.and_eq_true] at hdone
      exact jobStep_applyDueResults hdone.2
    · cases hstep
  | inspectManualRunDisposition key forced passNow now skipNow =>
    cases hstep
    exact jobStep_preflight (.inl rfl)
  | admitManualRun key forced passNow now skipNow =>
    cases hstep
    exact jobStep_admitManualRun
  | reserveManualRun index =>
    simp only [step] at hstep
    split at hstep
    · rename_i jobId origin now hget
      cases hstep
      exact jobStep_reserveManualRun hget
    · cases hstep
  | finishManualRun index now =>
    simp only [step] at hstep
    split at hstep
    · rename_i jobId forced result hget
      cases hstep
      exact jobStep_finishManualRun hget
    · cases hstep
  | clearMarkers =>
    simp only [step] at hstep
    split at hstep
    · cases hstep
      exact jobStep_clearMarkers
    · cases hstep
  | planStartupCatchup now =>
    simp only [step] at hstep
    split at hstep
    · rename_i skipJobIds hstartup
      cases hstep
      exact jobStep_planStartupCatchup hwf hstartup
    · cases hstep
  | runStartupCatchupCandidate index startedAt =>
    simp only [step] at hstep
    split at hstep
    · rename_i jobId hget
      split at hstep
      · cases hstep
        exact jobStep_runStartupCatchupCandidate hget
      · cases hstep
    · cases hstep
  | applyStartupCatchupOutcomes baseNow now =>
    simp only [step] at hstep
    split at hstep
    · split at hstep
      · rename_i hdone
        cases hstep
        exact jobStep_applyStartupCatchupOutcomes hdone
      · cases hstep
    · cases hstep
  | finishStart now =>
    simp only [step] at hstep
    split at hstep
    · cases hstep
      exact of_persistIfChanged (fun hrecords => hrecords) rfl rfl rfl
    · cases hstep
  | crash =>
    cases hstep
    exact @crashed _ _ _ (state.view id)

end LittleBaby.Cron
