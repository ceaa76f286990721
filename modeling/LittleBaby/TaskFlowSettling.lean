import LittleBaby.TaskFlowFinality

/-!
# A flow settles with its last active task

The update that leaves a cancelled flow without an active task cancels the flow
in memory, unless the store throws before.
-/

namespace LittleBaby.TaskRegistry

open JsString Call LabelledMachine

variable {env : TaskEnv} {world : World} {taskId flowId : JsString}
  {current next : TaskRecord} {flow : TaskFlowRecord} {patch : TaskPatch}

def HasActive (flowId : JsString) (world : World) : Prop :=
  ∃ taskId task, world.tasks.lookup taskId = some task ∧ LinksTo task flowId ∧
    isActiveTaskStatus task.status = true

def AtEnd (flowId : JsString) (world : World) : Prop :=
  ∀ flow, world.flows.lookup flowId = some flow → isTerminalFlowStatus flow.status = true

variable (env) in
def StoreFailed (start : ℕ) (world : World) : Prop :=
  ∃ write, start ≤ write ∧ write < world.writes ∧ env.storeThrows write = true

/-- The flow has ended, or it is `busy` or has an active task. -/
structure Settling (env : TaskEnv) (flowId : JsString) (start : ℕ) (busy : Prop)
    (world : World) : Prop where
  started : start ≤ world.writes
  settled : busy ∨ StoreFailed env start world ∨ HasActive flowId world ∨ AtEnd flowId world

variable {start : ℕ} {busy : Prop}

theorem StoreFailed.mono {next : World} (hfailed : StoreFailed env start world)
    (hwrites : world.writes ≤ next.writes) : StoreFailed env start next := by
  obtain ⟨write, hstart, hlt, hthrows⟩ := hfailed
  exact ⟨write, hstart, hlt.trans_le hwrites, hthrows⟩

theorem settling_insensitive : Insensitive (Settling env flowId start busy) := by
  rintro world next hsame ⟨hstarted, hsettled⟩
  refine ⟨hstarted.trans hsame.writes, ?_⟩
  have hactive : HasActive flowId next ↔ HasActive flowId world := by
    rw [HasActive, hsame.tasks, HasActive]
  have hend : AtEnd flowId next ↔ AtEnd flowId world := by
    rw [AtEnd, hsame.flows, AtEnd]
  rw [hactive, hend]
  exact hsettled.imp_right (Or.imp_left fun hfailed =>
    hfailed.mono hsame.writes)

theorem Settling.ofFlows (hsettling : Settling env flowId start busy world)
    {next : World} (htasks : next.tasks = world.tasks)
    (hwrites : world.writes ≤ next.writes)
    (hend : AtEnd flowId world → AtEnd flowId next) :
    Settling env flowId start busy next := by
  refine ⟨hsettling.started.trans hwrites, ?_⟩
  rcases hsettling.settled with hbusy | hfailed | hactive | hended
  · exact .inl hbusy
  · exact .inr (.inl (hfailed.mono hwrites))
  · refine .inr (.inr (.inl ?_))
    unfold HasActive
    rw [htasks]
    exact hactive
  · exact .inr (.inr (.inr (hend hended)))

theorem OwnPatch.isTerminal {patch : FlowRecordPatch} (hown : OwnPatch flow patch)
    (hmanaged : flow.syncMode = .managed)
    (hterminal : isTerminalFlowStatus flow.status = true)
    (controllerId : Option JsString) (updatedAt : ℤ) :
    isTerminalFlowStatus (flow.apply patch controllerId updatedAt).status =
      true := by
  cases hown with
  | mirror task taskUpdatedAt endedAt hmode =>
    rw [hmanaged] at hmode
    contradiction
  | cancelled => rfl
  | request => exact hterminal

theorem settling_frame : FlowFrame env fun world =>
    Revoked env flowId world ∧ Settling env flowId start busy world := by
  apply revoked_frame.and settling_insensitive
  · intro world written flow patch controllerId updatedAt hrevoked hsettling hlookup hown
    apply hsettling.ofFlows (by rfl) (by rfl)
    intro hend found hfound
    rw [hrevoked.lookup_patchFlow hlookup] at hfound
    split_ifs at hfound with hsame
    · subst hsame
      rw [← Option.some.inj hfound]
      exact hown.isTerminal (hrevoked.managed flow hlookup) (hend flow hlookup) _ _
    · exact hend found hfound
  · intro world params controllerId ownerKey now hrevoked hsettling
    apply hsettling.ofFlows (by rfl) (by rfl)
    intro hend found hfound
    have hne := hrevoked.gone world.uuids (Nat.le_refl _)
    rw [lookup_withNewFlow, if_neg hne.symm] at hfound
    exact hend found hfound
  · intro world erased _ hsettling
    apply hsettling.ofFlows (by rfl) (by rfl)
    intro hend found hfound
    rw [lookup_eraseFlow] at hfound
    split_ifs at hfound
    exact hend found hfound

theorem Settling.replaceTask (hsettling : Settling env flowId start False world)
    (hlookup : world.tasks.lookup taskId = some current)
    (hlinks : LinksTo current flowId → LinksTo next flowId) (patch : TaskPatch) :
    Settling env flowId start (LinksTo next flowId)
      (world.replaceTask taskId patch current next) := by
  refine ⟨hsettling.started, ?_⟩
  rcases hsettling.settled with hbusy | hfailed | ⟨searched, task, htask, hlinked, hactive⟩ | hended
  · exact hbusy.elim
  · exact .inr (.inl hfailed)
  · by_cases hsame : searched = taskId
    · subst hsame
      cases hlookup.symm.trans htask
      exact .inl (hlinks hlinked)
    · refine .inr (.inr (.inl ⟨searched, task, ?_, hlinked, hactive⟩))
      rw [World.replaceTask_tasks, Entries.lookup_set_of_ne hsame]
      exact htask
  · exact .inr (.inr (.inr hended))

theorem meets_persist : Meets (fun world => Revoked env flowId world ∧
        Settling env flowId start busy world)
      (persist env)
      (fun _ world => Revoked env flowId world ∧ Settling env flowId start busy world)
      (fun world => Revoked env flowId world ∧ Settling env flowId start False world) := by
  rintro world ⟨hrevoked, hsettling⟩
  have hsame : SameRecords world { world with writes := world.writes + 1 } :=
    .of_eq rfl rfl rfl rfl rfl rfl rfl (Nat.le_succ world.writes)
  have hnext := revoked_insensitive world _ hsame hrevoked
  cases hthrows : env.storeThrows world.writes with
  | false =>
    simpa [persist, Bind.bind, Pure.pure, Call.read, Call.change, hthrows] using
      And.intro hnext (settling_insensitive world _ hsame hsettling)
  | true =>
    have hfailed : Settling env flowId start False { world with writes := world.writes + 1 } :=
      ⟨hsettling.started.trans hsame.writes, .inr (.inl
        ⟨world.writes, hsettling.started, Nat.lt_succ_self _, hthrows⟩)⟩
    simpa [persist, Bind.bind, Pure.pure, Call.read, Call.change, Call.fail,
      hthrows] using And.intro hnext hfailed

theorem Orderly.hasActive (horderly : Orderly env world)
    (hactive : world.hasActiveTask flowId = true)
    (hflow : nonBlank flowId = some flowId) : HasActive flowId world := by
  obtain ⟨task, hmem, hstatus⟩ := List.any_eq_true.mp hactive
  unfold World.listTasksForFlowId World.listTasksFromIndex at hmem
  rw [hflow] at hmem
  obtain ⟨entry, hentry, rfl⟩ := List.mem_map.mp hmem
  have hfound := (List.perm_insertionSort compareTasksNewestFirst _).mem_iff.mp hentry
  obtain ⟨listed, hlisted, htask⟩ := List.mem_filterMap.mp hfound
  obtain ⟨task, hlookup, rfl⟩ := Option.map_eq_some_iff.mp htask
  have hholds : InvertedIndex.Holds world.taskIdsByParentFlowId flowId listed.1 := by
    have hids := List.fst_mem_of_mem_zipIdx hlisted
    unfold InvertedIndex.Holds
    cases hindex : world.taskIdsByParentFlowId.lookup flowId with
    | none => simp [hindex] at hids
    | some ids => exact ⟨ids, rfl, by simpa [hindex] using hids⟩
  obtain ⟨record, hrecord, hkey⟩ := horderly.sound.holds flowId listed.1 hholds
  cases hlookup.symm.trans hrecord
  refine ⟨listed.1, task, hlookup, ?_, hstatus⟩
  simpa [LinksTo, parentFlowIdKeys, indexKeys] using hkey

theorem settle_open (hopen : isTerminalFlowStatus flow.status = false) (endedAt : ℤ) :
    Meets (fun world => (Revoked env flowId world ∧
        Settling env flowId start busy world) ∧ world.getTaskFlowById flowId = some flow)
      (settleManagedFlow env flowId endedAt 2 flow)
      (fun _ world => Revoked env flowId world ∧ Settling env flowId start False world)
      (fun world => Revoked env flowId world ∧ Settling env flowId start False world) := by
  have hbefore := (@settling_frame env flowId start busy).insensitive.andFlow flowId flow
  have hafter := (@settling_frame env flowId start False).insensitive
  have hthrown : ∀ world current,
      ((Revoked env flowId world ∧ Settling env flowId start busy world) ∧
        world.getTaskFlowById flowId = some flow) →
      world.flows.lookup flowId = some current →
      ¬ Controls current.syncMode (current.nextController (cancelledFlowPatch endedAt)) →
        Revoked env flowId world ∧ Settling env flowId start False world := by
    rintro world current ⟨⟨hrevoked, -⟩, -⟩ hlookup hnot
    exact absurd (hrevoked.controlled flowId current hlookup) hnot
  have hwrite : ∀ world current controllerId updatedAt,
      ((Revoked env flowId world ∧ Settling env flowId start busy world) ∧
        world.getTaskFlowById flowId = some flow) →
      world.flows.lookup flowId = some current →
      current.revision = flow.revision →
      Controls current.syncMode controllerId → Revoked env flowId (world.writeFlow
            (current.apply (cancelledFlowPatch endedAt) controllerId updatedAt)) ∧
          Settling env flowId start False (world.writeFlow
            (current.apply (cancelledFlowPatch endedAt) controllerId updatedAt)) := by
    rintro world current controllerId updatedAt ⟨⟨hrevoked, hsettling⟩, hflow⟩ hlookup - hcontrols
    cases hflow.symm.trans hlookup
    refine ⟨revoked_frame.patch world flowId flow _ controllerId updatedAt hrevoked
      hlookup (.cancelled endedAt hopen) hcontrols, hsettling.started,
      .inr (.inr (.inr fun found hfound => ?_))⟩
    rw [hrevoked.lookup_patchFlow hlookup, if_pos rfl] at hfound
    rw [← Option.some.inj hfound]
    rfl
  apply Meets.bind (meets_updateFlowRecordByIdExpectedRevision hbefore hafter hthrown hwrite)
  intro result
  cases result with
  | applied => exact Meets.pure fun _ => id
  | notFound =>
    rintro world ⟨⟨-, hflow⟩, hmissing⟩
    rw [World.getTaskFlowById, hmissing] at hflow
    contradiction
  | revisionConflict current =>
    rintro world ⟨⟨⟨-, hflow⟩, hlookup⟩, hconflict⟩
    cases hflow.symm.trans hlookup
    exact absurd rfl hconflict

theorem settle_revoked (hlinks : LinksTo next flowId) :
    Meets (fun world => Revoked env flowId world ∧ Settling env flowId start busy world)
      (syncManagedFlowCancellationFromTask env next)
      (fun _ world => Revoked env flowId world ∧ Settling env flowId start False world)
      (fun world => Revoked env flowId world ∧ Settling env flowId start False world) := by
  have hend : ∀ world, Revoked env flowId world →
      Settling env flowId start busy world → AtEnd flowId world →
        Revoked env flowId world ∧ Settling env flowId start False world :=
    fun world hrevoked hsettling hended =>
      ⟨hrevoked, hsettling.started, .inr (.inr (.inr hended))⟩
  have hinsensitive := (@settling_frame env flowId start busy).insensitive
  unfold syncManagedFlowCancellationFromTask
  simp only [show normalizeOptionalString next.parentFlowId = some flowId from hlinks]
  apply Meets.bind Meets.read
  intro found
  cases found with
  | none =>
    rintro world ⟨⟨hrevoked, hsettling⟩, hflow⟩
    apply hend world hrevoked hsettling
    intro flow hlookup
    rw [World.getTaskFlowById, hlookup] at hflow
    contradiction
  | some flow =>
    simp only
    split_ifs with hawaits
    · rintro world ⟨⟨hrevoked, hsettling⟩, hflow⟩
      apply hend world hrevoked hsettling
      intro found hfound
      cases hflow.symm.trans hfound
      simpa [awaitsCancellation, hrevoked.managed flow hflow,
        hrevoked.requested flow hflow] using hawaits
    · apply Meets.bind Meets.read
      intro active
      split_ifs with hactive
      · rintro world ⟨⟨⟨hrevoked, hsettling⟩, hflow⟩, hread⟩
        have hplain := (normalizeOptionalString_idem next.parentFlowId)
        rw [show normalizeOptionalString next.parentFlowId = some flowId from hlinks] at hplain
        exact ⟨hrevoked, hsettling.started, .inr (.inr (.inl
          (hrevoked.hasActive (hread.trans hactive) hplain)))⟩
      · have hbefore := hinsensitive.andFlow flowId flow
        apply Meets.bind ((hbefore.meets_orNow _).consequence
          (fun _ => And.left) (fun _ _ => id) fun _ => id)
        intro endedAt
        have hopen : isTerminalFlowStatus flow.status = false := by
          simp only [awaitsCancellation, Bool.not_eq_eq_eq_not, Bool.not_true,
            Bool.not_eq_false, Bool.and_eq_true] at hawaits
          simpa using hawaits.2
        exact settle_open hopen endedAt

theorem settling_finishUpdate : Meets (fun world => Revoked env flowId world ∧
        Settling env flowId start (LinksTo next flowId) world)
      (finishUpdate env next)
      (fun _ world => Revoked env flowId world ∧ Settling env flowId start False world)
      (fun world => Revoked env flowId world ∧ Settling env flowId start False world) := by
  have hframe := (@settling_frame env flowId start (LinksTo next flowId)).followed
  have hsettle : Meets (fun world => Revoked env flowId world ∧
        Settling env flowId start (LinksTo next flowId) world)
      (attempt (syncManagedFlowCancellationFromTask env next))
      (fun _ world => Revoked env flowId world ∧ Settling env flowId start False world)
      (fun world => Revoked env flowId world ∧ Settling env flowId start False world) := by
    by_cases hlinks : LinksTo next flowId
    · exact Meets.attempt (settle_revoked hlinks)
    · apply (Keeps.attempt (hframe.settle next)).consequence (fun _ => id)
      · rintro _ world ⟨hrevoked, hsettling⟩
        exact ⟨hrevoked, hsettling.started, hsettling.settled.imp_left fun hbusy => hlinks hbusy⟩
      · rintro world ⟨hrevoked, hsettling⟩
        exact ⟨hrevoked, hsettling.started, hsettling.settled.imp_left fun hbusy => hlinks hbusy⟩
  apply Meets.bind meets_persist
  intro _
  apply Meets.bind (Meets.attempt (hframe.sync next))
  intro _
  exact Meets.bind hsettle fun _ => Meets.pure fun _ => id

theorem settling_updateTask (hnone : patch.parentFlowId = none) :
    Keeps (fun world => Revoked env flowId world ∧ Settling env flowId start False world)
      (updateTask env taskId patch) := by
  apply meets_updateTask settling_frame.insensitive (fun _ hworld _ => hworld) _
    fun next => settling_finishUpdate
  rintro world current cleanupAfter ⟨hrevoked, hsettling⟩ hlookup
  exact ⟨hrevoked.replaceTask hlookup (by rfl) patch,
    hsettling.replaceTask hlookup (linksTo_apply hnone cleanupAfter).mpr patch⟩

theorem settling_whole : Whole env fun world =>
    Revoked env flowId world ∧ Settling env flowId start False world := by
  have hcancellable : Cancellable env fun world =>
      Revoked env flowId world ∧ Settling env flowId start False world :=
    Cancellable.of_patches settling_frame.insensitive
      (fun _ _ hnone => settling_updateTask hnone) (fun _ _ => rfl)
      (fun _ => rfl) fun _ _ => rfl
  apply settling_frame.whole hcancellable
  intro taskId task linked
  apply settling_frame.followed.updateTask_of
    (settling_frame.insensitive.andCanLink taskId task linked) fun _ => And.left
  rintro world current cleanupAfter ⟨⟨hrevoked, hsettling⟩, hlink⟩ hlookup
  cases hlink.lookup.symm.trans hlookup
  have hnext := hrevoked.not_linksTo hlink cleanupAfter
  have hcurrent : ¬ LinksTo task flowId := by
    simp [LinksTo, hlink.unlinked]
  have hreplaced : Settling env flowId start
      (LinksTo { task.apply (linkPatch linked) with
        cleanupAfter := cleanupAfter } flowId)
      (world.replaceTask taskId (linkPatch linked) task
        { task.apply (linkPatch linked) with cleanupAfter := cleanupAfter }) :=
    hsettling.replaceTask hlookup (fun hlinks => absurd hlinks hcurrent) _
  exact ⟨hrevoked.replaceTask hlookup (by rfl) _, hreplaced.started,
    hreplaced.settled.imp_left fun hbusy => hnext hbusy⟩

theorem Settling.withNewTask (hsettling : Settling env flowId start busy world)
    (hfresh : world.tasks.lookup (env.randomUUID world.uuids) = none)
    (params : TaskCreateParams) :
    Settling env flowId start busy (world.withNewTask env params) := by
  refine ⟨hsettling.started, ?_⟩
  rcases hsettling.settled with hbusy | hfailed | ⟨searched, task, htask, hlinked, hactive⟩ | hended
  · exact .inl hbusy
  · exact .inr (.inl hfailed)
  · have hne : searched ≠ env.randomUUID world.uuids := by
      rintro rfl
      rw [hfresh] at htask
      contradiction
    refine .inr (.inr (.inl ⟨searched, task, ?_, hlinked, hactive⟩))
    rw [World.withNewTask, Entries.lookup_set_of_ne hne]
    exact htask
  · exact .inr (.inr (.inr hended))

theorem settling_step {operation : Operation} {next : World} (hmoves : movesNoTask operation = true)
    (hdeletes : ∀ taskId, operation ≠ .deleteTaskRecordById taskId)
    (hrevoked : Revoked env flowId world) (hactive : HasActive flowId world)
    (hstep : step env world operation = some next) :
    Settling env flowId world.writes False next := by
  have hworld : Revoked env flowId world ∧ Settling env flowId world.writes False world :=
    ⟨hrevoked, le_rfl, .inr (.inr (.inl hactive))⟩
  apply And.right
  apply settling_whole.step_keeps hworld _ _ _ _ _ hstep
  · exact fun taskId patch hupdates =>
      settling_updateTask (updates_keepPlace hupdates).parentFlowId
  · rintro taskId patch rfl
    exact EndsIn.of_keeps (settling_updateTask (Option.isNone_iff_eq_none.mp hmoves)) hworld
  · intro params _ _
    have hadded := hrevoked.withNewTask params
    have hsettling := hworld.2.withNewTask hrevoked.lookup_fresh params
    apply settling_whole.addTaskRecord
    · exact ⟨hadded.addIndexes Entries.lookup_set_self, hsettling.started, hsettling.settled⟩
    · exact fun _ _ => ⟨hadded, hsettling⟩
  · exact fun taskId hdelete => absurd hdelete (hdeletes taskId)
  · intro written revision _ patch hpatch
    apply meets_writesFlow (settling_frame.insensitive.andSame world)
      settling_frame.insensitive fun _ => And.left
    rintro state flow controllerId updatedAt ⟨⟨hstate, hsettling⟩, hsame⟩ hlookup - hcontrols
    refine ⟨hstate.writeFlow hlookup (fun hsome => ?_) hcontrols,
      hsettling.started, .inr (.inr (.inl ?_))⟩
    · simpa [TaskFlowRecord.apply, hpatch] using hsome
    · have htasks : (state.writeFlow
          (flow.apply patch controllerId updatedAt)).tasks = world.tasks :=
        hsame.tasks
      unfold HasActive
      rw [htasks]
      exact hactive

/-- In every run that moves no task by a patch and sets no status of a flow
that is cancelled, a requested cancellation is final. -/
theorem flow_cancellation_is_final {snapshot : Snapshot env}
    {before later : List Operation} {middle final : World}
    (hbefore : run (step env) (World.restore snapshot) before = some middle)
    (hflow : middle.flows.lookup flowId = some flow)
    (hmanaged : flow.syncMode = .managed)
    (hrequested : flow.cancelRequestedAt.isSome = true)
    (hguarded : LabelledMachine.Guarded (step env)
      (fun world operation => movesNoTask operation = true ∧
        sparesCancelled world flowId operation = true) middle later)
    (hlater : run (step env) middle later = some final) :
    (∀ taskId task, final.tasks.lookup taskId = some task → LinksTo task flowId →
        ∃ old, middle.tasks.lookup taskId = some old ∧ LinksTo old flowId) ∧
      (flow.status = .cancelled → Cancelled flowId final) ∧
      (∀ operation next, movesNoTask operation = true →
        (∀ taskId, operation ≠ .deleteTaskRecordById taskId) →
        step env final operation = some next →
        HasActive flowId final → ¬ HasActive flowId next →
        (∀ write, final.writes ≤ write → write < next.writes →
          env.storeThrows write = false) → AtEnd flowId next) := by
  have horderly := orderly_run hbefore
  have hmiddle : Managed env flowId middle := by
    refine ⟨horderly, fun found hfound => ?_, fun index hle heq => ?_⟩
    · cases hflow.symm.trans hfound
      exact hmanaged
    · apply horderly.flowsFresh index hle
      rw [heq]
      exact Entries.mem_keys_iff.mpr ⟨flow, hflow⟩
  have hrevoked : Revoked env flowId middle := by
    refine ⟨hmiddle, fun found hfound => ?_⟩
    cases hflow.symm.trans hfound
    exact hrequested
  have hmembers : Members flowId ((middle.tasks.filter fun entry =>
      normalizeOptionalString entry.2.parentFlowId = some flowId).map Prod.fst)
      middle := by
    intro taskId task htask hlinks
    apply List.mem_map.mpr
    refine ⟨(taskId, task), List.mem_filter.mpr ⟨?_, decide_eq_true hlinks⟩, rfl⟩
    exact Entries.mem_of_lookup htask
  have hfinal := run_guarded_invariant
    (fun world => Revoked env flowId world ∧ Members flowId _ world)
    (fun hworld hguard hstep => members_step hguard.1 hworld hstep)
    ⟨hrevoked, hmembers⟩ hguarded hlater
  refine ⟨?_, ?_, ?_⟩
  · intro taskId task htask hlinks
    have hmem := hfinal.2 taskId task htask hlinks
    obtain ⟨⟨listed, old⟩, hold, rfl⟩ := List.mem_map.mp hmem
    obtain ⟨hold, hlinked⟩ := List.mem_filter.mp hold
    refine ⟨old, Entries.lookup_of_mem horderly.nodup hold, ?_⟩
    simpa [LinksTo] using hlinked
  · intro hcancelled
    have hstart : Managed env flowId middle ∧ Cancelled flowId middle := by
      refine ⟨hmiddle, fun found hfound => ?_⟩
      cases hflow.symm.trans hfound
      exact hcancelled
    exact (run_guarded_invariant
      (fun world => Managed env flowId world ∧ Cancelled flowId world)
      (fun hworld hguard hstep => cancelled_step hguard.2 hworld hstep)
      hstart hguarded hlater).2
  · intro operation next hmoves hdeletes hstep hactive hidle hwrites
    rcases (settling_step hmoves hdeletes hfinal.1 hactive hstep).settled with
      hbusy | ⟨write, hstart, hlt, hthrows⟩ | hstill | hended
    · exact hbusy.elim
    · rw [hwrites write hstart hlt] at hthrows
      contradiction
    · exact absurd hstill hidle
    · exact hended

def bossFlow : CreateFlowRecordParams where
  ownerKey := js "main"
  controllerId := some (js "boss")
  goal := js "work"

def requestedWord : List Operation :=
  [.createFlowRecord bossFlow, .createTaskRecord { sessionTask none with
        parentFlowId := some (plainUUID 0) },
    .requestFlowCancel (plainUUID 0) 0 none none]

def refusedWord : List Operation :=
  [.createTaskRecord { sessionTask none with
        runId := none
        parentFlowId := some (plainUUID 0) },
    .setFlowWaiting (plainUUID 0) 1 none none none none none none]

def lastTaskEnds : Operation :=
  .markTaskTerminalById (plainUUID 1)
    { status := .cancelled
      endedAt := 9 }

theorem requested_runs : (run (step calmEnv) (World.restore (emptySnapshot calmEnv))
      requestedWord).isSome = true := by
  decide

def requestedWorld : World := Option.get _ requested_runs

theorem refused_runs : (run (step calmEnv) requestedWorld refusedWord).isSome =
      true := by
  decide

def refusedWorld : World := Option.get _ refused_runs

theorem settled_runs : (step calmEnv refusedWorld lastTaskEnds).isSome = true := by
  decide

def settledWorld : World := Option.get _ settled_runs

theorem requested_flow_found : (requestedWorld.flows.lookup (plainUUID 0)).isSome = true := by
  decide

theorem settled_flow_found : (settledWorld.flows.lookup (plainUUID 0)).isSome = true := by
  decide

theorem flow_settles_with_last_task :
    isTerminalFlowStatus (Option.get _ settled_flow_found).status = true ∧
      refusedWorld.tasks.length = 1 := by
  have hguarded : LabelledMachine.Guarded (step calmEnv)
      (fun world operation => movesNoTask operation = true ∧
        sparesCancelled world (plainUUID 0) operation = true)
      requestedWorld refusedWord := by
    decide
  obtain ⟨-, -, hsettles⟩ := flow_cancellation_is_final (Option.eq_some_of_isSome requested_runs)
    (Option.eq_some_of_isSome requested_flow_found) (by decide)
    (by decide) hguarded (Option.eq_some_of_isSome refused_runs)
  have hactive : HasActive (plainUUID 0) refusedWorld := ⟨plainUUID 1, _, rfl, rfl, rfl⟩
  have hidle : ¬ HasActive (plainUUID 0) settledWorld := by
    rintro ⟨taskId, task, htask, -, hactive⟩
    have hall : settledWorld.tasks.all fun entry =>
        !isActiveTaskStatus entry.2.status := by
      decide
    have hnone := List.all_eq_true.mp hall _ (Entries.mem_of_lookup htask)
    simp [hactive] at hnone
  have hended := hsettles lastTaskEnds settledWorld rfl (fun _ => nofun)
    (Option.eq_some_of_isSome settled_runs) hactive hidle fun _ _ _ => rfl
  exact ⟨hended _ (Option.eq_some_of_isSome settled_flow_found),
    by decide⟩

theorem cancelled_flow_resumes :
    ¬ ∀ (env : TaskEnv) (snapshot : Snapshot env) (before later : List Operation)
      (middle final : World) (flowId : JsString) (flow last : TaskFlowRecord),
      run (step env) (World.restore snapshot) before = some middle →
      middle.flows.lookup flowId = some flow → flow.syncMode = .managed →
      flow.cancelRequestedAt.isSome = true → flow.status = .cancelled →
      run (step env) middle later = some final →
      final.flows.lookup flowId = some last → last.status = .cancelled := by
  intro hall
  have hstatus := hall calmEnv (emptySnapshot calmEnv)
    [.createFlowRecord bossFlow, .cancelFlowById (plainUUID 0) false]
    [.resumeFlow (plainUUID 0) 2 true none none none]
    _ _ (plainUUID 0) _ _ rfl rfl rfl rfl rfl rfl rfl
  revert hstatus
  decide

end LittleBaby.TaskRegistry
