import LittleBaby.TaskFlowIdentities

/-!
# The end of a managed flow

Once its cancellation is requested no task is linked to a managed flow any more,
and the update that ends its last active task ends the flow, too.
-/

namespace LittleBaby.TaskRegistry

open JsString Call

variable {env : TaskEnv} {world : World} {taskId flowId : JsString}
  {current next : TaskRecord} {flow : TaskFlowRecord} {patch : TaskPatch}

theorem normalizeOptionalString_idem (value : Option JsString) :
    normalizeOptionalString (normalizeOptionalString value) = normalizeOptionalString value := by
  cases hvalue : normalizeOptionalString value with
  | none => rfl
  | some text =>
    obtain ⟨_, -, htext⟩ := Option.bind_eq_some_iff.mp hvalue
    exact nonBlank_of_nonBlank htext

def LinksTo (task : TaskRecord) (flowId : JsString) : Prop :=
  normalizeOptionalString task.parentFlowId = some flowId

theorem linksTo_apply (hnone : patch.parentFlowId = none) (cleanupAfter : Option ℤ) :
    LinksTo { current.apply patch with cleanupAfter := cleanupAfter } flowId ↔
      LinksTo current flowId := by
  simp [LinksTo, TaskRecord.apply, hnone]

structure Managed (env : TaskEnv) (flowId : JsString) (world : World) : Prop
    extends Orderly env world where
  managed : ∀ flow, world.flows.lookup flowId = some flow → flow.syncMode = .managed
  gone : ∀ index, world.uuids ≤ index → env.randomUUID index ≠ flowId

theorem managed_insensitive : Insensitive (Managed env flowId) := by
  intro world next hsame hmanaged
  refine ⟨orderly_insensitive world next hsame hmanaged.toOrderly, ?_, ?_⟩
  · rw [hsame.flows]
    exact hmanaged.managed
  · exact fun index hle => hmanaged.gone index (Nat.le_trans hsame.uuids hle)

namespace Managed

section

variable (hmanaged : Managed env flowId world)

include hmanaged

theorem ofTasks {next : World} (horderly : Orderly env next) (hflows : next.flows = world.flows)
    (huuids : world.uuids ≤ next.uuids) : Managed env flowId next := by
  refine ⟨horderly, ?_, fun index hle => hmanaged.gone index (huuids.trans hle)⟩
  rw [hflows]
  exact hmanaged.managed

theorem replaceTask (hlookup : world.tasks.lookup taskId = some current)
    (hnamed : next.taskId = current.taskId) (patch : TaskPatch) :
    Managed env flowId (world.replaceTask taskId patch current next) :=
  hmanaged.ofTasks (hmanaged.toOrderly.replaceTask hlookup hnamed patch) rfl le_rfl

theorem withoutTask (hlookup : world.tasks.lookup taskId = some current) :
    Managed env flowId (world.withoutTask taskId current) :=
  hmanaged.ofTasks (hmanaged.toOrderly.withoutTask hlookup) rfl le_rfl

theorem withNewTask (params : TaskCreateParams) :
    Managed env flowId (world.withNewTask env params) :=
  hmanaged.ofTasks (hmanaged.toOrderly.withNewTask params) rfl (Nat.le_succ world.uuids)

theorem addIndexes (hlookup : world.tasks.lookup taskId = some current) :
    Managed env flowId (world.addIndexes taskId current) :=
  hmanaged.ofTasks (hmanaged.toOrderly.addIndexes hlookup) rfl le_rfl

theorem writeFlow {written : JsString}
    (hlookup : world.flows.lookup written = some flow) (patch : FlowRecordPatch)
    {controllerId : Option JsString} (hcontrols : Controls flow.syncMode controllerId)
    (updatedAt : ℤ) :
    Managed env flowId (world.writeFlow (flow.apply patch controllerId updatedAt)) := by
  refine ⟨hmanaged.toOrderly.writeFlow hlookup rfl hcontrols, ?_, hmanaged.gone⟩
  intro found hfound
  rw [hmanaged.lookup_patchFlow hlookup] at hfound
  split_ifs at hfound with hsame
  · rw [← Option.some.inj hfound]
    exact hmanaged.managed flow (hsame ▸ hlookup)
  · exact hmanaged.managed found hfound

end

end Managed

theorem managed_frame : FlowFrame env (Managed env flowId) where
  insensitive := managed_insensitive
  patch := by
    intro world written flow patch controllerId updatedAt hmanaged hlookup hown hcontrols
    exact hmanaged.writeFlow hlookup patch hcontrols updatedAt
  create := by
    intro world params controllerId ownerKey now hmanaged hcontrols
    refine ⟨hmanaged.toOrderly.withNewFlow hcontrols ownerKey now, ?_,
      fun index hle => hmanaged.gone index (Nat.le_of_lt hle)⟩
    intro found hfound
    have hne := hmanaged.gone world.uuids (Nat.le_refl _)
    rw [lookup_withNewFlow, if_neg hne.symm] at hfound
    exact hmanaged.managed found hfound
  erase := by
    intro world erased hmanaged
    refine ⟨hmanaged.toOrderly.eraseFlow erased, ?_, hmanaged.gone⟩
    intro found hfound
    rw [lookup_eraseFlow] at hfound
    split_ifs at hfound
    exact hmanaged.managed found hfound

def Cancelled (flowId : JsString) (world : World) : Prop :=
  ∀ flow, world.flows.lookup flowId = some flow → flow.status = .cancelled

theorem cancelled_insensitive : Insensitive (Cancelled flowId) := by
  intro world next hsame hcancelled
  unfold Cancelled
  rw [hsame.flows]
  exact hcancelled

theorem cancelled_frame : FlowFrame env fun world =>
    Managed env flowId world ∧ Cancelled flowId world := by
  apply managed_frame.and cancelled_insensitive
  · intro world written flow patch controllerId updatedAt hmanaged hcancelled
      hlookup hown found hfound
    rw [hmanaged.lookup_patchFlow hlookup] at hfound
    split_ifs at hfound with hsame
    · rw [← Option.some.inj hfound]
      have hstatus := hcancelled flow (hsame ▸ hlookup)
      cases hown with
      | mirror task taskUpdatedAt endedAt hmode =>
        have hmanagedFlow := hmanaged.managed flow (hsame ▸ hlookup)
        rw [hmanagedFlow] at hmode
        contradiction
      | cancelled endedAt hopen =>
        rw [hstatus] at hopen
        contradiction
      | request => exact hstatus
    · exact hcancelled found hfound
  · intro world params controllerId ownerKey now hmanaged hcancelled found hfound
    have hne := hmanaged.gone world.uuids (Nat.le_refl _)
    rw [lookup_withNewFlow, if_neg hne.symm] at hfound
    exact hcancelled found hfound
  · intro world erased hmanaged hcancelled found hfound
    rw [lookup_eraseFlow] at hfound
    split_ifs at hfound
    exact hcancelled found hfound

theorem cancelled_updateTask (taskId : JsString) (patch : TaskPatch) :
    Keeps (fun world => Managed env flowId world ∧ Cancelled flowId world)
      (updateTask env taskId patch) := by
  apply cancelled_frame.followed.updateTask
  rintro world current cleanupAfter ⟨hmanaged, hcancelled⟩ hlookup
  exact ⟨hmanaged.replaceTask hlookup (by rfl) patch, hcancelled⟩

theorem cancelled_whole : Whole env fun world =>
    Managed env flowId world ∧ Cancelled flowId world := by
  have hcancellable : Cancellable env fun world =>
      Managed env flowId world ∧ Cancelled flowId world :=
    Cancellable.of_patches cancelled_frame.insensitive
      (fun taskId patch (_ : True) => cancelled_updateTask taskId patch)
      (fun _ _ => trivial) (fun _ => trivial) fun _ _ => trivial
  apply cancelled_frame.whole hcancellable
  intro taskId task linked
  exact (cancelled_updateTask _ _).consequence (fun _ => And.left) (fun _ _ => id) fun _ => id

/-- The operation does not set the status of a flow that is cancelled. -/
def sparesCancelled (world : World) (flowId : JsString) (operation : Operation) :
    Bool :=
  operation.writesFlow.all fun write =>
    write.1 ≠ flowId || (world.flows.lookup flowId).all fun flow =>
      flow.status ≠ .cancelled || flow.revision ≠ write.2

theorem cancelled_step {next : World} {operation : Operation}
    (hguard : sparesCancelled world flowId operation = true)
    (hworld : Managed env flowId world ∧ Cancelled flowId world)
    (hstep : step env world operation = some next) :
    Managed env flowId next ∧ Cancelled flowId next := by
  apply cancelled_whole.step_keeps hworld _ _ _ _ _ hstep
  · exact fun taskId patch _ => cancelled_updateTask taskId patch
  · exact fun taskId patch _ =>
      EndsIn.of_keeps (cancelled_updateTask taskId patch) hworld
  · intro params _ _
    have hadded := hworld.1.withNewTask params
    apply cancelled_whole.addTaskRecord
    · exact ⟨hadded.addIndexes Entries.lookup_set_self, hworld.2⟩
    · exact fun _ _ => ⟨hadded, hworld.2⟩
  · intro taskId _
    have hdelete : Keeps (fun world =>
        Managed env flowId world ∧ Cancelled flowId world)
        (deleteTaskRecordById env taskId) :=
      cancelled_frame.followed.deleteTaskRecordById
        fun _ _ hstate hlookup => ⟨hstate.1.withoutTask hlookup, hstate.2⟩
    exact EndsIn.of_keeps hdelete hworld
  · intro written revision hwrites patch _
    apply meets_writesFlow (cancelled_frame.insensitive.andSame world)
      cancelled_frame.insensitive fun _ => And.left
    rintro state flow controllerId updatedAt ⟨⟨hmanaged, hcancelled⟩, hsame⟩
      hlookup hrevision hcontrols
    refine ⟨hmanaged.writeFlow hlookup patch hcontrols updatedAt, ?_⟩
    intro found hfound
    rw [hmanaged.lookup_patchFlow hlookup] at hfound
    split_ifs at hfound with hflow
    · subst hflow
      have hhere : world.flows.lookup flowId = some flow := hsame.flows ▸ hlookup
      have hstatus := hcancelled flow hlookup
      simp [sparesCancelled, hwrites, hhere, hstatus, hrevision] at hguard
    · exact hcancelled found hfound

structure Revoked (env : TaskEnv) (flowId : JsString) (world : World) : Prop
    extends Managed env flowId world where
  requested : ∀ flow, world.flows.lookup flowId = some flow → flow.cancelRequestedAt.isSome = true

theorem revoked_insensitive : Insensitive (Revoked env flowId) := by
  intro world next hsame hrevoked
  refine ⟨managed_insensitive world next hsame hrevoked.toManaged, ?_⟩
  rw [hsame.flows]
  exact hrevoked.requested

theorem OwnPatch.requested {patch : FlowRecordPatch} (hown : OwnPatch flow patch)
    (hsome : flow.cancelRequestedAt.isSome = true)
    (controllerId : Option JsString) (updatedAt : ℤ) :
    (flow.apply patch controllerId updatedAt).cancelRequestedAt.isSome = true := by
  cases hown with
  | mirror | cancelled => exact hsome
  | request => rfl

namespace Revoked

section

variable (hrevoked : Revoked env flowId world)

include hrevoked

theorem ofTasks {next : World}
    (hmanaged : Managed env flowId next) (hflows : next.flows = world.flows) :
    Revoked env flowId next := by
  refine ⟨hmanaged, ?_⟩
  rw [hflows]
  exact hrevoked.requested

theorem replaceTask (hlookup : world.tasks.lookup taskId = some current)
    (hnamed : next.taskId = current.taskId) (patch : TaskPatch) :
    Revoked env flowId (world.replaceTask taskId patch current next) :=
  hrevoked.ofTasks (hrevoked.toManaged.replaceTask hlookup hnamed patch) rfl

theorem withoutTask (hlookup : world.tasks.lookup taskId = some current) :
    Revoked env flowId (world.withoutTask taskId current) :=
  hrevoked.ofTasks (hrevoked.toManaged.withoutTask hlookup) rfl

theorem withNewTask (params : TaskCreateParams) :
    Revoked env flowId (world.withNewTask env params) :=
  hrevoked.ofTasks (hrevoked.toManaged.withNewTask params) rfl

theorem addIndexes (hlookup : world.tasks.lookup taskId = some current) :
    Revoked env flowId (world.addIndexes taskId current) :=
  hrevoked.ofTasks (hrevoked.toManaged.addIndexes hlookup) rfl

theorem writeFlow {written : JsString}
    (hlookup : world.flows.lookup written = some flow) {patch : FlowRecordPatch}
    {controllerId : Option JsString} {updatedAt : ℤ}
    (hrequested : flow.cancelRequestedAt.isSome = true →
      (flow.apply patch controllerId updatedAt).cancelRequestedAt.isSome = true)
    (hcontrols : Controls flow.syncMode controllerId) :
    Revoked env flowId (world.writeFlow (flow.apply patch controllerId updatedAt)) := by
  refine ⟨hrevoked.toManaged.writeFlow hlookup patch hcontrols updatedAt, ?_⟩
  intro found hfound
  rw [hrevoked.lookup_patchFlow hlookup] at hfound
  split_ifs at hfound with hsame
  · rw [← Option.some.inj hfound]
    exact hrequested (hrevoked.requested flow (hsame ▸ hlookup))
  · exact hrevoked.requested found hfound

theorem ne_of_allowed {ownerKey : JsString}
    {scopeKind : TaskScopeKind} {parentFlowId : Option JsString}
    (hallowed : world.parentFlowLinkError ownerKey scopeKind parentFlowId = none) :
    normalizeOptionalString parentFlowId ≠ some flowId := by
  intro hparent
  unfold World.parentFlowLinkError at hallowed
  simp only [hparent] at hallowed
  split_ifs at hallowed
  split at hallowed
  · contradiction
  · next flow hflow =>
      have hsome := hrevoked.requested flow hflow
      split_ifs at hallowed

theorem not_linksTo {task : TaskRecord}
    {linked : JsString} (hlink : world.CanLink taskId task linked)
    (cleanupAfter : Option ℤ) :
    ¬ LinksTo { task.apply (linkPatch linked) with
      cleanupAfter := cleanupAfter } flowId :=
  hrevoked.ne_of_allowed hlink.allowed

theorem not_linksTo_new {params : TaskCreateParams} (hadds : world.addsTask params = true) :
    ¬ LinksTo (world.newRecord env params) flowId := by
  simp only [World.addsTask, Bool.and_eq_true, Option.isNone_iff_eq_none] at hadds
  have hne := hrevoked.ne_of_allowed hadds.1.2
  rw [LinksTo, World.newRecord, buildTaskRecord, normalizeOptionalString_idem]
  exact hne

end

end Revoked

theorem revoked_frame : FlowFrame env (Revoked env flowId) where
  insensitive := revoked_insensitive
  patch := fun _ _ _ _ _ _ hrevoked hlookup hown hcontrols =>
    hrevoked.writeFlow hlookup (fun hsome => hown.requested hsome _ _) hcontrols
  create := by
    intro world params controllerId ownerKey now hrevoked hcontrols
    refine ⟨managed_frame.create world params controllerId ownerKey now
      hrevoked.toManaged hcontrols, fun found hfound => ?_⟩
    have hne := hrevoked.gone world.uuids (Nat.le_refl _)
    rw [lookup_withNewFlow, if_neg hne.symm] at hfound
    exact hrevoked.requested found hfound
  erase := by
    intro world erased hrevoked
    refine ⟨managed_frame.erase world erased hrevoked.toManaged, fun found hfound => ?_⟩
    rw [lookup_eraseFlow] at hfound
    split_ifs at hfound
    exact hrevoked.requested found hfound

def Members (flowId : JsString) (members : List JsString) (world : World) : Prop :=
  ∀ taskId task, world.tasks.lookup taskId = some task → LinksTo task flowId → taskId ∈ members

variable {members : List JsString}

theorem members_insensitive : Insensitive (Members flowId members) := by
  intro world next hsame hmembers
  unfold Members
  rw [hsame.tasks]
  exact hmembers

theorem members_frame : FlowFrame env fun world =>
    Revoked env flowId world ∧ Members flowId members world :=
  revoked_frame.and members_insensitive (fun _ _ _ _ _ _ _ hmembers _ _ => hmembers)
    (fun _ _ _ _ _ _ hmembers => hmembers) fun _ _ _ hmembers => hmembers

theorem Members.replaceTask (hmembers : Members flowId members world)
    (hlookup : world.tasks.lookup taskId = some current)
    (hlinks : LinksTo next flowId → LinksTo current flowId) (patch : TaskPatch) :
    Members flowId members (world.replaceTask taskId patch current next) := by
  intro searched task htask hlinked
  rw [World.replaceTask_tasks] at htask
  by_cases hsame : searched = taskId
  · subst hsame
    rw [Entries.lookup_set_self, Option.some.injEq] at htask
    exact hmembers searched current hlookup (hlinks (htask ▸ hlinked))
  · rw [Entries.lookup_set_of_ne hsame] at htask
    exact hmembers searched task htask hlinked

theorem members_updateTask (hnone : patch.parentFlowId = none) :
    Keeps (fun world => Revoked env flowId world ∧ Members flowId members world)
      (updateTask env taskId patch) := by
  apply members_frame.followed.updateTask
  rintro world current cleanupAfter ⟨hrevoked, hmembers⟩ hlookup
  exact ⟨hrevoked.replaceTask hlookup (by rfl) patch,
    hmembers.replaceTask hlookup (linksTo_apply hnone cleanupAfter).mp patch⟩

theorem members_whole : Whole env fun world =>
    Revoked env flowId world ∧ Members flowId members world := by
  have hcancellable : Cancellable env fun world =>
      Revoked env flowId world ∧ Members flowId members world :=
    Cancellable.of_patches members_frame.insensitive
      (fun _ _ hnone => members_updateTask hnone) (fun _ _ => rfl)
      (fun _ => rfl) fun _ _ => rfl
  apply members_frame.whole hcancellable
  intro taskId task linked
  apply members_frame.followed.updateTask_of
    (members_frame.insensitive.andCanLink taskId task linked) fun _ => And.left
  rintro world current cleanupAfter ⟨⟨hrevoked, hmembers⟩, hlink⟩ hlookup
  refine ⟨hrevoked.replaceTask hlookup (by rfl) _,
    hmembers.replaceTask hlookup (fun hlinks => ?_) _⟩
  exact absurd hlinks (hrevoked.not_linksTo hlink cleanupAfter)

def movesNoTask : Operation → Bool
  | .updateTask _ patch => patch.parentFlowId.isNone
  | _ => true

theorem members_step {next : World} {operation : Operation} (hguard : movesNoTask operation = true)
    (hworld : Revoked env flowId world ∧ Members flowId members world)
    (hstep : step env world operation = some next) :
    Revoked env flowId next ∧ Members flowId members next := by
  obtain ⟨hrevoked, hmembers⟩ := hworld
  apply members_whole.step_keeps ⟨hrevoked, hmembers⟩ _ _ _ _ _ hstep
  · exact fun taskId patch hupdates =>
      members_updateTask (updates_keepPlace hupdates).parentFlowId
  · rintro taskId patch rfl
    exact EndsIn.of_keeps (members_updateTask (Option.isNone_iff_eq_none.mp hguard))
      ⟨hrevoked, hmembers⟩
  · intro params _ hadds
    have hadded := hrevoked.withNewTask params
    have hnew : Members flowId members (world.withNewTask env params) := by
      intro searched task htask hlinked
      simp only [World.withNewTask] at htask
      by_cases hsame : searched = env.randomUUID world.uuids
      · subst hsame
        rw [Entries.lookup_set_self, Option.some.injEq] at htask
        exact absurd (htask ▸ hlinked) (hrevoked.not_linksTo_new hadds)
      · rw [Entries.lookup_set_of_ne hsame] at htask
        exact hmembers searched task htask hlinked
    apply members_whole.addTaskRecord
    · exact ⟨hadded.addIndexes Entries.lookup_set_self, hnew⟩
    · exact fun _ _ => ⟨hadded, hnew⟩
  · intro taskId _
    have hdelete : Keeps (fun world =>
        Revoked env flowId world ∧ Members flowId members world)
        (deleteTaskRecordById env taskId) := by
      apply members_frame.followed.deleteTaskRecordById
      rintro state current ⟨hstate, hmembers⟩ hlookup
      refine ⟨hstate.withoutTask hlookup, fun searched task htask => ?_⟩
      rw [World.withoutTask_tasks] at htask
      by_cases hsame : searched = taskId
      · subst hsame
        simp at htask
      · rw [Entries.lookup_erase_of_ne hsame] at htask
        exact hmembers searched task htask
    exact EndsIn.of_keeps hdelete ⟨hrevoked, hmembers⟩
  · intro written revision hwrites patch hpatch
    apply meets_writesFlow (members_frame.insensitive.andSame world)
      members_frame.insensitive fun _ => And.left
    rintro state flow controllerId updatedAt ⟨⟨hstate, hmembers⟩, -⟩ hlookup - hcontrols
    refine ⟨hstate.writeFlow hlookup (fun hsome => ?_) hcontrols, hmembers⟩
    simpa [TaskFlowRecord.apply, hpatch] using hsome

end LittleBaby.TaskRegistry
