import LittleBaby.TaskMirrors

/-!
# Runs with mirrored flows

The calls that create a run of one task and the updates of tasks, with a store
that never fails.  A flow that is created for a task that has already ended
cannot be linked to it any more.
-/

namespace LittleBaby.TaskRegistry

open JsString Call World LabelledMachine

variable {env : TaskEnv} {world : World} {taskId flowId : JsString}
  {current next task : TaskRecord} {flow : TaskFlowRecord} {patch : TaskPatch}
  {property before thrown : World → Prop}

def Stored (env : TaskEnv) (task : TaskRecord) (world : World) : Prop :=
  Mirrored env none none world ∧ world.tasks.lookup task.taskId = some task

theorem stored_insensitive : Insensitive (Stored env task) :=
  mirrored_insensitive.andTask task.taskId task

def Replaced (env : TaskEnv) (next : TaskRecord) (world : World) : Prop :=
  Mirrored env none (normalizeOptionalString next.parentFlowId) world ∧
    world.tasks.lookup next.taskId = some next

theorem replaced_insensitive : Insensitive (Replaced env next) :=
  mirrored_insensitive.andTask next.taskId next

theorem Stored.replaced (hstored : Stored env task world) : Replaced env task world := by
  refine ⟨⟨hstored.1.toOrderly, hstored.1.linking, ?_⟩, hstored.2⟩
  intro searched found linked flow hfound hlinks hflow hmode _
  exact hstored.1.mirroring searched found linked flow hfound hlinks hflow hmode (by simp)

theorem meets_persist_calm (hcalm : ∀ write, env.storeThrows write = false)
    (hproperty : Insensitive property) :
    Meets property (persist env) (fun _ => property) thrown := by
  intro world hworld
  have hnext : property { world with writes := world.writes + 1 } :=
    hproperty world _ (.of_eq rfl rfl rfl rfl rfl rfl rfl (Nat.le_succ world.writes)) hworld
  simpa [persist, Bind.bind, Pure.pure, Call.read, Call.change, hcalm world.writes] using hnext

theorem meets_flowEndedAt (hbefore : Insensitive before) (task : TaskRecord) :
    Meets before (flowEndedAt env task) (fun endedAt world => before world ∧ endedAt.isSome =
        isEndedFlowStatus (deriveTaskFlowStatusFromTask task)) thrown := by
  unfold flowEndedAt
  split_ifs with hended
  · apply Meets.bind (hbefore.meets_orNow _)
    exact fun endedAt => Meets.pure fun world hworld => ⟨hworld, by simp [hended]⟩
  · exact Meets.pure fun world hworld => ⟨hworld, by simpa using hended⟩

theorem meets_syncFlowFromTask (next : TaskRecord) :
    Meets (Replaced env next) (syncFlowFromTask env next)
      (fun _ => Stored env next) (Stored env next) := by
  unfold syncFlowFromTask
  split
  · next hparent =>
      apply Meets.pure
      rintro world ⟨hmirrored, hlookup⟩
      rw [hparent] at hmirrored
      exact ⟨hmirrored, hlookup⟩
  · next flowId hparent =>
      have hplain : ∀ world, Replaced env next world →
          (∀ flow, world.flows.lookup flowId = some flow →
            flow.syncMode ≠ .taskMirrored) → Stored env next world := by
        rintro world ⟨hmirrored, hlookup⟩ hmanaged
        refine ⟨⟨hmirrored.toOrderly, hmirrored.linking, ?_⟩, hlookup⟩
        intro searched found linked flow hfound hlinks hflow hmode _
        apply hmirrored.mirroring searched found linked flow hfound hlinks hflow hmode
        rw [hparent]
        rintro heq
        cases heq
        exact hmanaged flow hflow hmode
      apply Meets.bind Meets.read
      intro found
      cases found with
      | none =>
        rintro world ⟨hworld, hmissing⟩
        apply hplain world hworld
        intro flow hflow
        rw [getTaskFlowById, hflow] at hmissing
        contradiction
      | some flow =>
        simp only
        split_ifs with hmode
        · rintro world ⟨hworld, hfound⟩
          apply hplain world hworld
          intro flow hflow
          cases hfound.symm.trans hflow
          exact hmode
        · rw [not_not] at hmode
          have hbefore := (@replaced_insensitive env next).andFlow flowId flow
          apply Meets.bind (hbefore.meets_orNow _)
          intro updatedAt
          apply Meets.bind (meets_flowEndedAt hbefore next)
          intro endedAt
          by_cases hended : endedAt.isSome = isEndedFlowStatus (deriveTaskFlowStatusFromTask next)
          · apply (meets_updateFlowRecordByIdUnchecked hbefore
              stored_insensitive _ _ _).consequence (fun _ => And.left)
              (fun _ _ => id) fun _ => id
            · rintro world ⟨-, hfound⟩ hmissing
              rw [getTaskFlowById, hmissing] at hfound
              contradiction
            · rintro world current ⟨-, hfound⟩ hlookup hnot
              cases hfound.symm.trans hlookup
              rw [Controls, hmode] at hnot
              exact (hnot fun hmanaged => absurd hmanaged (by decide)).elim
            · rintro world current controllerId written
                ⟨⟨hmirrored, htask⟩, hfound⟩ hlookup hcontrols
              cases hfound.symm.trans hlookup
              rw [hparent] at hmirrored
              exact ⟨hmirrored.sync htask hparent hlookup hmode hended hcontrols, htask⟩
          · exact fun world hworld => absurd hworld.2 hended

theorem stored_settles : Settles (Stored env next) := by
  intro world flowId flow controllerId updatedAt endedAt hstored hlookup hawaits hcontrols
  exact ⟨Mirrored.settles world flowId flow controllerId updatedAt endedAt
    hstored.1 hlookup hawaits hcontrols, hstored.2⟩

theorem meets_finishUpdate (hcalm : ∀ write, env.storeThrows write = false) (next : TaskRecord) :
    Meets (Replaced env next) (finishUpdate env next)
      (fun result world => result = some next ∧ Stored env next world)
      thrown := by
  apply Meets.bind (meets_persist_calm hcalm replaced_insensitive)
  intro _
  apply Meets.bind (Meets.attempt (meets_syncFlowFromTask next))
  intro _
  apply Meets.bind (Meets.attempt
    (stored_settles.syncManagedFlowCancellationFromTask stored_insensitive next))
  intro _
  exact Meets.pure fun _ hworld => ⟨rfl, hworld⟩

theorem meets_updateTask_stored (hcalm : ∀ write, env.storeThrows write = false)
    (hnone : patch.parentFlowId = none) :
    Meets (Stored env current) (updateTask env current.taskId patch)
      (fun result world => ∃ cleanupAfter,
        result = some { current.apply patch with cleanupAfter := cleanupAfter } ∧
          Stored env { current.apply patch with cleanupAfter := cleanupAfter } world) thrown := by
  have hfinish : ∀ next, Meets (fun world => (∃ cleanupAfter, next =
        { current.apply patch with cleanupAfter := cleanupAfter }) ∧
          Replaced env next world) (finishUpdate env next)
      (fun result world => ∃ cleanupAfter,
        result = some { current.apply patch with cleanupAfter := cleanupAfter } ∧
          Stored env { current.apply patch with cleanupAfter := cleanupAfter } world) thrown := by
    rintro next world ⟨⟨cleanupAfter, rfl⟩, hreplaced⟩
    exact ((meets_finishUpdate hcalm _).consequence (fun _ => id)
      (fun result state hresult => ⟨cleanupAfter, hresult⟩) fun _ => id) world hreplaced
  apply meets_updateTask stored_insensitive _ _ hfinish
  · rintro world ⟨-, hlookup⟩ hmissing
    rw [hlookup] at hmissing
    contradiction
  · rintro world found cleanupAfter ⟨hmirrored, hlookup⟩ hfound
    cases hlookup.symm.trans hfound
    refine ⟨⟨cleanupAfter, rfl⟩, hmirrored.replaceTask hlookup (by rfl) ?_ patch,
      ?_⟩
    · simp [TaskRecord.apply, hnone]
    · exact Entries.lookup_set_self

theorem updateTask_of_missing (hlookup : world.tasks.lookup taskId = none) :
    updateTask env taskId patch world = (.ok none, world) := by
  simp [updateTask, Bind.bind, Pure.pure, Call.read, hlookup]

theorem mirrored_updateTask (hcalm : ∀ write, env.storeThrows write = false)
    (hnone : patch.parentFlowId = none) :
    Keeps (Mirrored env none none) (updateTask env taskId patch) := by
  intro world hmirrored
  cases hlookup : world.tasks.lookup taskId with
  | none =>
    rw [updateTask_of_missing hlookup]
    exact hmirrored
  | some current =>
    have hnamed := hmirrored.named taskId current hlookup
    subst hnamed
    apply ((meets_updateTask_stored hcalm hnone).consequence (fun _ => id) _
      fun _ => id) world ⟨hmirrored, hlookup⟩
    rintro result state ⟨cleanupAfter, -, hstored⟩
    exact hstored.1

theorem mirrored_cancellable (hcalm : ∀ write, env.storeThrows write = false) :
    Cancellable env (Mirrored env none none) :=
  Cancellable.of_patches mirrored_insensitive
    (fun _ _ hnone => mirrored_updateTask hcalm hnone) (fun _ _ => rfl)
    (fun _ => rfl) fun _ _ => rfl

structure Ready (env : TaskEnv) (task : TaskRecord) (flow : TaskFlowRecord)
    (world : World) : Prop where
  mirrored : Mirrored env (some flow.flowId) none world
  lookup : world.tasks.lookup task.taskId = some task
  found : world.flows.lookup flow.flowId = some flow
  plain : nonBlank flow.flowId = some flow.flowId
  owned : (nonBlank task.ownerKey).isSome = true
  ownerKey : nonBlank flow.ownerKey = nonBlank task.ownerKey
  wanted : flow.cancelRequestedAt = none
  status : flow.status = deriveTaskFlowStatusFromTask task

theorem ready_insensitive : Insensitive (Ready env task flow) := by
  rintro world next hsame hready
  refine ⟨mirrored_insensitive world next hsame hready.mirrored, ?_, ?_,
    hready.plain, hready.owned, hready.ownerKey, hready.wanted, hready.status⟩
  · rw [hsame.tasks]
    exact hready.lookup
  · rw [hsame.flows]
    exact hready.found

theorem meets_createTaskFlowForTask
    (hcalm : ∀ write, env.storeThrows write = false) (task : TaskRecord)
    (requesterOrigin : Option DeliveryContext) :
    Meets (Stored env task) (createTaskFlowForTask env task requesterOrigin)
      (fun flow => Ready env task flow) (Mirrored env none none) := by
  apply meets_createFlowRecord stored_insensitive (fun _ => And.left)
    fun _ => meets_persist_calm hcalm ready_insensitive
  rintro world controllerId ownerKey now ⟨hmirrored, hlookup⟩ hcontrols howner
  refine ⟨hmirrored.withNewFlow hcontrols ownerKey now, hlookup, ?_, ?_, ?_, ?_, rfl, rfl⟩
  · exact (lookup_withNewFlow ..).trans (if_pos rfl)
  · exact env.randomUUID_plain world.uuids
  · exact Option.isSome_of_mem howner
  · exact (nonBlank_of_nonBlank howner).trans howner.symm

theorem Ready.parentFlowLinkError (hready : Ready env task flow world)
    (hscope : task.scopeKind = .session)
    (hopen : isTerminalFlowStatus (deriveTaskFlowStatusFromTask task) = false) :
    world.parentFlowLinkError task.ownerKey task.scopeKind (some flow.flowId) =
      none := by
  have hfound : world.getTaskFlowById flow.flowId = some flow := hready.found
  simp [World.parentFlowLinkError, normalizeOptionalString, hready.plain, hscope,
    hfound, hready.ownerKey, hready.wanted, hready.status, hopen]

theorem meets_linkTaskToFlowById (hcalm : ∀ write, env.storeThrows write = false)
    (hunlinked : normalizeOptionalString task.parentFlowId = none)
    (hscope : task.scopeKind = .session)
    (hopen : isTerminalFlowStatus (deriveTaskFlowStatusFromTask task) = false) :
    Meets (Ready env task flow) (linkTaskToFlowById env task.taskId flow.flowId)
      (fun result world => (∃ next, result = some next ∧
        next.parentFlowId = some flow.flowId) ∧ Mirrored env none none world)
      thrown := by
  have hfinish : ∀ next, Meets (fun world => next.parentFlowId = some flow.flowId ∧
        Replaced env next world) (finishUpdate env next)
      (fun result world => (∃ next, result = some next ∧
        next.parentFlowId = some flow.flowId) ∧ Mirrored env none none world)
      thrown := by
    rintro next world ⟨hparent, hreplaced⟩
    exact ((meets_finishUpdate hcalm next).consequence (fun _ => id)
      (fun result state hresult => ⟨⟨next, hresult.1, hparent⟩, hresult.2.1⟩)
      fun _ => id) world hreplaced
  have hupdate : Meets (Ready env task flow) (updateTask env task.taskId (linkPatch flow.flowId))
      (fun result world => (∃ next, result = some next ∧
        next.parentFlowId = some flow.flowId) ∧ Mirrored env none none world)
      thrown := by
    apply meets_updateTask ready_insensitive _ _ hfinish
    · intro world hready hmissing
      rw [hready.lookup] at hmissing
      contradiction
    · intro world current cleanupAfter hready hlookup
      cases hready.lookup.symm.trans hlookup
      have hlinks : LinksTo { task.apply (linkPatch flow.flowId) with
          cleanupAfter := cleanupAfter } flow.flowId := hready.plain
      refine ⟨rfl, ?_, Entries.lookup_set_self⟩
      rw [show normalizeOptionalString _ = some flow.flowId from hlinks]
      apply hready.mirrored.link hready.lookup (by rfl) hunlinked hlinks
      intro index hle heq
      apply hready.mirrored.flowsFresh index hle
      rw [heq]
      exact Entries.mem_keys_iff.mpr ⟨flow, hready.found⟩
  intro world hready
  have hcall : linkTaskToFlowById env task.taskId flow.flowId world =
      updateTask env task.taskId (linkPatch flow.flowId) world := by
    simp [linkTaskToFlowById, hready.plain, Bind.bind, Call.read, hready.lookup,
      hunlinked, assertParentFlowLinkAllowed_of_none (hready.parentFlowLinkError hscope hopen)]
  rw [hcall]
  exact hupdate world hready

theorem meets_ensureSingleTaskFlow (hcalm : ∀ write, env.storeThrows write = false)
    (requesterOrigin : Option DeliveryContext)
    (hopen : isOneTaskFlowEligible task = true → (nonBlank task.ownerKey).isSome = true →
        isTerminalFlowStatus (deriveTaskFlowStatusFromTask task) = false) :
    Meets (Stored env task) (ensureSingleTaskFlow env task requesterOrigin)
      (fun _ => Mirrored env none none) thrown := by
  unfold ensureSingleTaskFlow
  split_ifs with heligible
  · exact Meets.pure fun _ => And.left
  · simp only [Bool.not_eq_eq_eq_not, Bool.not_true, Bool.not_eq_false] at heligible
    have hopen := hopen heligible
    simp [isOneTaskFlowEligible] at heligible
    obtain ⟨⟨⟨hunlinked, hscope⟩, -⟩, -⟩ := heligible
    apply Meets.attempt
    apply Meets.bind (meets_createTaskFlowForTask hcalm task requesterOrigin)
    intro flow world hready
    apply (Meets.bind (meets_linkTaskToFlowById hcalm hunlinked hscope
      (hopen hready.owned)) _) world hready
    rintro result state ⟨⟨next, rfl, hparent⟩, hmirrored⟩
    simpa [hparent, Pure.pure] using hmirrored

def Mirrorable (task : TaskRecord) : Prop :=
  isOneTaskFlowEligible task = true → (nonBlank task.ownerKey).isSome = true →
    isTerminalFlowStatus (deriveTaskFlowStatusFromTask task) = false

def World.namesMirrored (world : World) (params : TaskCreateParams) : Bool :=
  (normalizeOptionalString params.parentFlowId).any fun flowId =>
    (world.flows.lookup flowId).any fun flow => flow.syncMode = .taskMirrored

def World.revivesEnded (world : World) (params : TaskCreateParams) : Bool :=
  (world.findExistingTaskForCreate params (resolveTaskOwnerKey params)
    (resolveTaskScopeKind params)).any fun existing =>
      isOneTaskFlowEligible (existing.apply (mergePatch existing params)) &&
        (nonBlank existing.ownerKey).isSome &&
        isTerminalFlowStatus (deriveTaskFlowStatusFromTask existing)

def World.createsCleanly (world : World) (params : TaskCreateParams) : Bool :=
  !(world.addsTask params && world.namesMirrored params) && !world.revivesEnded params

variable {params : TaskCreateParams}

theorem mirrorable_merged (cleanupAfter : Option ℤ)
    (hmirrorable : Mirrorable (current.apply (mergePatch current params))) :
    Mirrorable { current.apply (mergePatch current params) with
      cleanupAfter := cleanupAfter } :=
  hmirrorable

theorem deriveTaskFlowStatus_merged (current : TaskRecord) (params : TaskCreateParams) :
    deriveTaskFlowStatusFromTask (current.apply (mergePatch current params)) =
      deriveTaskFlowStatusFromTask current := rfl

theorem meets_mergeExistingTaskForCreate (hcalm : ∀ write, env.storeThrows write = false)
    (hplace : KeepsPlace (mergePatch current params))
    (hmirrorable : Mirrorable (current.apply (mergePatch current params))) :
    Meets (Stored env current) (mergeExistingTaskForCreate env current params)
      (fun task world => Mirrorable task ∧ Stored env task world)
      (Mirrored env none none) := by
  have hremember : Keeps (Stored env current) (rememberRequesterOrigin env
      current.taskId (params.requesterOrigin.bind env.normalizeDeliveryContext)) := by
    apply Keeps.bind (Keeps.read _)
    intro state
    split_ifs
    · exact stored_insensitive.upsertTaskDeliveryState _ _ _
    · exact Keeps.pure _
  apply Meets.bind (hremember.consequence (fun _ => id) (fun _ _ => id) fun _ => And.left)
  intro _
  apply Meets.bind ((keeps_assertParentFlowLinkAllowed _ _ _).consequence
    (fun _ => id) (fun _ _ => id) fun _ => And.left)
  intro _
  split_ifs with hempty
  · apply Meets.pure
    intro world hstored
    rw [hempty] at hmirrorable
    exact ⟨hmirrorable, hstored⟩
  · apply Meets.bind (meets_updateTask_stored hcalm hplace.parentFlowId)
    intro result
    apply Meets.pure
    rintro world ⟨cleanupAfter, rfl, hstored⟩
    exact ⟨mirrorable_merged cleanupAfter hmirrorable, hstored⟩

theorem meets_addTaskRecord (hcalm : ∀ write, env.storeThrows write = false)
    (hactive : isTerminalTaskStatus (params.status.getD .queued) = false)
    (hparent : ∀ world linked, before world → LinksTo (world.newRecord env params) linked →
        ¬ world.HasMirrored linked ∧ linked ∈ Entries.keys world.flows)
    (hmirrored : ∀ world, before world → Mirrored env none none world) :
    Meets before (addTaskRecord env params)
      (fun task world => Mirrorable task ∧ Stored env task world)
      (Mirrored env none none) := by
  intro world hworld
  have hrecord : isTerminalTaskStatus (world.newRecord env params).status =
      false := hactive
  have hadded : Stored env (world.newRecord env params) (world.withNewTask env params) :=
    ⟨(hmirrored world hworld).withNewTask fun linked =>
      hparent world linked hworld, Entries.lookup_set_self⟩
  have hindexes : Meets (Stored env (world.newRecord env params))
      (Call.change (addIndexes (env.randomUUID world.uuids)
        (world.newRecord env params)) : RegistryCall Unit)
      (fun _ => Stored env (world.newRecord env params))
      (Mirrored env none none) := by
    apply Meets.change
    exact fun state hstate => ⟨hstate.1.addIndexes hstate.2, hstate.2⟩
  have hrest : Meets (Stored env (world.newRecord env params)) (do
        upsertTaskDeliveryState env (env.randomUUID world.uuids)
          (params.requesterOrigin.bind env.normalizeDeliveryContext) none
        change (addIndexes (env.randomUUID world.uuids) (world.newRecord env params))
        persist env
        attempt (syncFlowFromTask env (world.newRecord env params))
        deliverIfTerminal env (world.newRecord env params)
        return world.newRecord env params)
      (fun task state => Mirrorable task ∧ Stored env task state)
      (Mirrored env none none) := by
    apply Meets.bind ((stored_insensitive.upsertTaskDeliveryState _ _ _).consequence
      (fun _ => id) (fun _ _ => id) fun _ => And.left)
    intro _
    apply Meets.bind hindexes
    intro _
    apply Meets.bind (meets_persist_calm hcalm stored_insensitive)
    intro _
    apply Meets.bind (Meets.attempt ((meets_syncFlowFromTask _).consequence
      (fun _ => Stored.replaced) (fun _ _ => id) fun _ => id))
    intro _
    unfold deliverIfTerminal
    rw [if_neg (by simp [hrecord])]
    apply Meets.pure
    intro state hstate
    refine ⟨fun _ _ => ?_, hstate⟩
    unfold deriveTaskFlowStatusFromTask
    cases hstatus : (world.newRecord env params).status <;> first
      | rfl
      | simp [hstatus, isTerminalTaskStatus] at hrecord
  exact hrest _ hadded

theorem flow_of_addsTask (hadds : world.addsTask params = true)
    (hparent : normalizeOptionalString params.parentFlowId = some flowId) :
    ∃ flow, world.flows.lookup flowId = some flow := by
  simp only [addsTask, Bool.and_eq_true, Option.isNone_iff_eq_none,
    parentFlowLinkError, hparent] at hadds
  have hallowed := hadds.1.2
  split_ifs at hallowed
  split at hallowed
  · contradiction
  · next flow hflow => exact ⟨flow, hflow⟩

theorem meets_createTaskRecord (hcalm : ∀ write, env.storeThrows write = false)
    (hactive : isTerminalTaskStatus (params.status.getD .queued) = false)
    (hclean : world.createsCleanly params = true) :
    Meets (fun state => state = world ∧ Mirrored env none none state) (createTaskRecord env params)
      (fun task state => Mirrorable task ∧ Stored env task state)
      (Mirrored env none none) := by
  simp only [createsCleanly, Bool.and_eq_true, Bool.not_eq_eq_eq_not,
    Bool.not_true, Bool.and_eq_false_iff] at hclean
  obtain ⟨hnames, hrevives⟩ := hclean
  rintro world ⟨rfl, hmirrored⟩
  rcases createTaskRecord_cases env params world with ⟨failure, -, hcall⟩ |
    ⟨existing, hfind, hcall⟩ | ⟨hadds, hcall⟩
  · rw [hcall]
    exact hmirrored
  · rw [hcall]
    have hplace : KeepsPlace (mergePatch existing params) :=
      World.Merges.keepsPlace ⟨existing, hfind, rfl, rfl⟩
    have hlookup := hmirrored.lookup_of_findExistingTaskForCreate hfind
    have hmirrorable : Mirrorable (existing.apply (mergePatch existing params)) := by
      intro heligible howner
      simpa [revivesEnded, hfind, heligible,
        show (nonBlank existing.ownerKey).isSome = true from howner,
        deriveTaskFlowStatus_merged] using hrevives
    exact meets_mergeExistingTaskForCreate hcalm hplace hmirrorable world ⟨hmirrored, hlookup⟩
  · rw [hcall]
    have hmeets : Meets (fun state => state = world ∧ Mirrored env none none state)
        (addTaskRecord env params)
        (fun task state => Mirrorable task ∧ Stored env task state)
        (Mirrored env none none) := by
      apply meets_addTaskRecord hcalm hactive _ fun _ => And.right
      rintro state linked ⟨rfl, -⟩ hlinks
      rw [LinksTo, newRecord, buildTaskRecord, normalizeOptionalString_idem] at hlinks
      obtain ⟨flow, hflow⟩ := flow_of_addsTask hadds hlinks
      refine ⟨?_, Entries.mem_keys_iff.mpr ⟨flow, hflow⟩⟩
      rintro ⟨found, hfound, hmode⟩
      simp [hadds, namesMirrored, hlinks, hfound, hmode] at hnames
    exact hmeets world ⟨rfl, hmirrored⟩

def Operation.runsOrUpdates : Operation → Bool
  | .createQueuedTaskRun _ => true
  | .createRunningTaskRun _ => true
  | operation => operation.updatesTasks

/-- No flow is created for a task that has ended, no task is added to a flow
that mirrors another one, and none moves to another flow by a raw patch. -/
def keepsMirrors (world : World) (operation : Operation) : Bool :=
  operation.created.all world.createsCleanly && movesNoTask operation

theorem mirrored_createTaskRun (hcalm : ∀ write, env.storeThrows write = false)
    {status : TaskStatus}
    (hactive : isTerminalTaskStatus status = false)
    (hmirrored : Mirrored env none none world)
    (hclean : world.createsCleanly { params with status := some status } = true) :
    Mirrored env none none ((createTaskRun env params status).leaves world) := by
  have hmeets : Meets (fun state => state = world ∧ Mirrored env none none state)
      (createTaskRun env params status) (fun _ => Mirrored env none none)
      (Mirrored env none none) := by
    have hcreate : Meets (fun state => state = world ∧ Mirrored env none none state)
        (createTaskRecord env { params with status := some status })
        (fun task state => Mirrorable task ∧ Stored env task state)
        (Mirrored env none none) :=
      meets_createTaskRecord hcalm hactive hclean
    apply Meets.bind hcreate
    rintro task state ⟨hmirrorable, hstored⟩
    exact meets_ensureSingleTaskFlow hcalm params.requesterOrigin hmirrorable state hstored
  exact hmeets.endsIn ⟨rfl, hmirrored⟩

theorem mirrored_step (hcalm : ∀ write, env.storeThrows write = false)
    {operation : Operation} {next : World}
    (hkind : operation.runsOrUpdates = true)
    (hguard : keepsMirrors world operation = true)
    (hmirrored : Mirrored env none none world)
    (hstep : step env world operation = some next) :
    Mirrored env none none next := by
  simp only [keepsMirrors, Bool.and_eq_true] at hguard
  obtain ⟨hclean, hmoves⟩ := hguard
  by_cases hupdates : operation.updatesTasks = true
  · apply (mirrored_cancellable hcalm).update_step_keeps hupdates hmirrored _ _ hstep
    · exact fun taskId patch hpatch =>
        mirrored_updateTask hcalm (updates_keepPlace hpatch).parentFlowId
    · rintro taskId patch rfl
      exact EndsIn.of_keeps (mirrored_updateTask hcalm
        (Option.isNone_iff_eq_none.mp hmoves)) hmirrored
  · cases operation with
    | createQueuedTaskRun params | createRunningTaskRun params =>
      exact Option.some.inj hstep ▸ mirrored_createTaskRun hcalm rfl hmirrored hclean
    | _ => exact absurd hkind hupdates

/-- Every mirrored flow is linked from exactly one task and shows it. -/
def World.Tracks (world : World) : Prop :=
  ∀ flowId flow, world.flows.lookup flowId = some flow → flow.syncMode = .taskMirrored →
    ∃ taskId task, world.tasks.lookup taskId = some task ∧ LinksTo task flowId ∧ Mirrors task flow ∧
      ∀ other, world.Links other flowId → other = taskId

theorem Mirrored.tracks (hmirrored : Mirrored env none none world) :
    world.Tracks := by
  intro flowId flow hflow hmode
  obtain ⟨taskId, task, htask, hlinks⟩ :=
    hmirrored.linking.linked flowId ⟨flow, hflow, hmode⟩ (by simp)
  refine ⟨taskId, task, htask, hlinks,
    hmirrored.mirroring taskId task flowId flow htask hlinks hflow hmode (by simp), ?_⟩
  exact fun other hother => hmirrored.linking.alone flowId ⟨flow, hflow, hmode⟩
    other taskId hother ⟨task, htask, hlinks⟩

theorem mirrored_restore {snapshot : Snapshot env} (htracks : (restore snapshot).Tracks) :
    Mirrored env none none (restore snapshot) := by
  refine ⟨orderly_restore snapshot, ⟨?_, ?_, by simp, ?_⟩, ?_⟩
  · rintro flowId ⟨flow, hflow, hmode⟩ -
    obtain ⟨taskId, task, htask, hlinks, -⟩ := htracks flowId flow hflow hmode
    exact ⟨taskId, task, htask, hlinks⟩
  · rintro flowId ⟨flow, hflow, hmode⟩ first second hfirst hsecond
    obtain ⟨taskId, -, -, -, -, halone⟩ := htracks flowId flow hflow hmode
    exact (halone first hfirst).trans (halone second hsecond).symm
  · rintro index - taskId ⟨task, htask, hlinks⟩
    exact snapshot.parents_fresh index taskId task htask hlinks
  · intro taskId task flowId flow htask hlinks hflow hmode _
    obtain ⟨only, found, hfound, -, hmirrors, halone⟩ := htracks flowId flow hflow hmode
    obtain rfl := halone taskId ⟨task, htask, hlinks⟩
    cases htask.symm.trans hfound
    exact hmirrors

/-- In every run that creates runs of one task and updates tasks, with a store
that never fails, mirrored flows track their tasks if every step meets the
condition. -/
theorem mirrored_flows_track (hcalm : ∀ write, env.storeThrows write = false)
    {snapshot : Snapshot env} (hstart : (restore snapshot).Tracks)
    {operations : List Operation} {final : World}
    (hguarded : LabelledMachine.Guarded (step env)
      (fun world operation => operation.runsOrUpdates = true ∧ keepsMirrors world operation = true)
      (restore snapshot) operations)
    (hrun : run (step env) (restore snapshot) operations =
      some final) : final.Tracks := by
  have hmirrored := run_guarded_invariant (Mirrored env none none)
    (fun hworld hguard hstep =>
      mirrored_step hcalm hguard.1 hguard.2 hworld hstep)
    (mirrored_restore hstart) hguarded hrun
  exact hmirrored.tracks

theorem tracks_empty (env : TaskEnv) : (restore (emptySnapshot env)).Tracks := by
  intro flowId flow hflow
  cases hflow

def mirroredWord : List Operation :=
  [.createRunningTaskRun (sessionTask none),
    .setTaskProgressById (plainUUID 0) (some (some (js "half"))) none,
    .markTaskTerminalById (plainUUID 0)
      { status := .succeeded
        endedAt := 5 }]

theorem mirrored_runs : (run (step calmEnv) (restore (emptySnapshot calmEnv))
      mirroredWord).isSome = true := by
  decide

def mirroredWorld : World := Option.get _ mirrored_runs

theorem mirrored_flow_found : (mirroredWorld.flows.lookup (plainUUID 1)).isSome = true := by
  decide

theorem mirrored_flow_tracks : ∃ taskId task, mirroredWorld.tasks.lookup taskId = some task ∧
      LinksTo task (plainUUID 1) ∧
      Mirrors task (Option.get _ mirrored_flow_found) ∧
      (Option.get _ mirrored_flow_found).status = .succeeded := by
  have hguarded : LabelledMachine.Guarded (step calmEnv)
      (fun world operation => operation.runsOrUpdates = true ∧ keepsMirrors world operation = true)
      (restore (emptySnapshot calmEnv)) mirroredWord := by
    decide
  have htracks := mirrored_flows_track (fun _ => rfl)
    (tracks_empty calmEnv) hguarded (Option.eq_some_of_isSome mirrored_runs)
  obtain ⟨taskId, task, htask, hlinks, hmirrors, -⟩ := htracks _ _
    (Option.eq_some_of_isSome mirrored_flow_found) (by decide)
  exact ⟨taskId, task, htask, hlinks, hmirrors, by decide⟩

def orphanWord : List Operation :=
  [.createRunningTaskRun
      { sessionTask none with
        deliveryStatus := some .notApplicable },
    .markTaskTerminalById (plainUUID 0)
      { status := .succeeded
        endedAt := 5 },
    .createRunningTaskRun
      { sessionTask none with
        deliveryStatus := some .pending }]

theorem orphan_runs : (run (step calmEnv) (restore (emptySnapshot calmEnv))
      orphanWord).isSome = true := by
  decide

def orphanWorld : World := Option.get _ orphan_runs

theorem orphan_found : (orphanWorld.flows.lookup (plainUUID 1)).isSome = true := by
  decide

theorem revived_task_leaves_orphan :
    ¬ ∀ (env : TaskEnv) (operations : List Operation) (final : World),
      (∀ write, env.storeThrows write = false) →
      (∀ operation ∈ operations, operation.runsOrUpdates = true ∧ movesNoTask operation = true) →
      run (step env) (restore (emptySnapshot env))
        operations = some final → final.Tracks := by
  intro hall
  have htracks := hall calmEnv orphanWord orphanWorld (fun _ => rfl)
    (by decide) (Option.eq_some_of_isSome orphan_runs)
  obtain ⟨taskId, task, htask, hlinks, -⟩ := htracks (plainUUID 1) _
    (Option.eq_some_of_isSome orphan_found) (by decide)
  have hunlinked : orphanWorld.tasks.all fun entry =>
      (normalizeOptionalString entry.2.parentFlowId).isNone := by
    decide
  have hnone := List.all_eq_true.mp hunlinked _ (Entries.mem_of_lookup htask)
  simp [show normalizeOptionalString task.parentFlowId = _ from hlinks] at hnone

end LittleBaby.TaskRegistry
