import LittleBaby.TaskFrames

/-!
# What every operation keeps

The operations that create tasks, link them to flows and cancel flows are put
together from the updates of tasks and the writes of flows. `Whole` has what a
property has to survive.
-/

namespace LittleBaby.TaskRegistry

open JsString Call Keeps TaskRegistry

variable {env : TaskEnv} {property : World → Prop}

structure World.CanLink (world : World) (taskId : JsString) (task : TaskRecord)
    (flowId : JsString) : Prop where
  lookup : world.tasks.lookup taskId = some task
  unlinked : normalizeOptionalString task.parentFlowId = none
  allowed : world.parentFlowLinkError task.ownerKey task.scopeKind (some flowId) = none

variable {world next : World}

theorem parentFlowLinkError_of_flows (hflows : next.flows = world.flows) (ownerKey : JsString)
    (scopeKind : TaskScopeKind) (parentFlowId : Option JsString) :
    next.parentFlowLinkError ownerKey scopeKind parentFlowId =
      world.parentFlowLinkError ownerKey scopeKind parentFlowId := by
  unfold World.parentFlowLinkError World.getTaskFlowById
  rw [hflows]

theorem Insensitive.andCanLink (hproperty : Insensitive property)
    (taskId : JsString) (task : TaskRecord) (flowId : JsString) :
    Insensitive fun world => property world ∧ world.CanLink taskId task flowId := by
  rintro world next hsame ⟨hworld, hlink⟩
  refine ⟨hproperty world next hsame hworld, hsame.tasks ▸ hlink.lookup, hlink.unlinked, ?_⟩
  rw [parentFlowLinkError_of_flows hsame.flows]
  exact hlink.allowed

structure Whole (env : TaskEnv) (property : World → Prop) : Prop
    extends Cancellable env property, Followed env property where
  link : ∀ taskId task flowId,
    Meets (fun world => property world ∧ world.CanLink taskId task flowId)
      (updateTask env taskId (linkPatch flowId)) (fun _ => property) property
  createFlow : ∀ params, Keeps property (createFlowRecord env params)
  deleteFlow : ∀ flowId, Keeps property (deleteTaskFlowRecordById env flowId)
  settleCancelled : ∀ flowId, Keeps property (settleCancelledFlow env flowId)
  request : ∀ flowId expectedRevision cancelRequestedAt updatedAt,
    Keeps property (requestFlowCancel env flowId expectedRevision cancelRequestedAt updatedAt)

namespace Blind

variable (hblind : Blind property)

include hblind

theorem settleCancelledFlow (flowId : JsString) :
    Keeps property (settleCancelledFlow env flowId) := by
  apply Keeps.bind (read _)
  intro active
  split_ifs
  · exact Keeps.pure _
  · apply Keeps.bind hblind.insensitive.dateNow
    intro now
    apply Keeps.bind (read _)
    intro found
    cases found with
    | none => exact Keeps.pure _
    | some flow =>
      simp only
      split_ifs
      · exact Keeps.pure _
      · apply Keeps.bind (hblind.updateFlowRecordByIdExpectedRevision _ _ _)
        exact fun _ => Keeps.pure _

theorem requestFlowCancel (flowId : JsString) (expectedRevision : ℕ)
    (cancelRequestedAt updatedAt : Option ℤ) :
    Keeps property (requestFlowCancel env flowId expectedRevision cancelRequestedAt updatedAt) := by
  apply Keeps.bind (hblind.insensitive.orNow _)
  exact fun _ =>
    hblind.updateFlowRecordByIdExpectedRevision _ _ _

end Blind

theorem Cancellable.whole (hcancellable : Cancellable env property) (hblind : Blind property)
    (hlink : ∀ taskId flowId, Keeps property (updateTask env taskId (linkPatch flowId))) :
    Whole env property where
  toCancellable := hcancellable
  sync := hblind.syncFlowFromTask
  settle := hblind.syncManagedFlowCancellationFromTask
  link := fun taskId _ flowId => (hlink taskId flowId).consequence
    (fun _ => And.left) (fun _ _ => id) fun _ => id
  createFlow := hblind.createFlowRecord
  deleteFlow := hblind.deleteTaskFlowRecordById
  settleCancelled := hblind.settleCancelledFlow
  request := hblind.requestFlowCancel

theorem SameRecords.addIndexes (hsame : SameRecords world next)
    (taskId : JsString) (record : TaskRecord) :
    SameRecords (world.addIndexes taskId record) (next.addIndexes taskId record) := by
  unfold World.addIndexes
  rw [hsame.runIds, hsame.ownerKeys, hsame.parentFlowIds, hsame.sessionKeys]
  exact ⟨hsame.tasks, hsame.flows, rfl, rfl, rfl, rfl, hsame.uuids, hsame.writes⟩

variable (env) in
def World.writesDeliveryState (world : World) (taskId : JsString)
    (requesterOrigin : Option DeliveryContext) (lastNotifiedEventAt : Option ℤ) :
    Bool :=
  (requesterOrigin.bind env.normalizeDeliveryContext).isSome ||
    lastNotifiedEventAt.isSome || (world.taskDeliveryStates.lookup taskId).isSome

variable (env) in
def World.withDeliveryState (world : World) (taskId : JsString)
    (requesterOrigin : Option DeliveryContext)
    (lastNotifiedEventAt : Option ℤ) : World :=
  if world.writesDeliveryState env taskId requesterOrigin lastNotifiedEventAt then
    { world with
      taskDeliveryStates := Entries.set taskId
        { taskId := taskId
          requesterOrigin := requesterOrigin.bind env.normalizeDeliveryContext
          lastNotifiedEventAt := lastNotifiedEventAt }
        world.taskDeliveryStates }
  else world

theorem persist_eq (env : TaskEnv) (world : World) : persist env world =
      (if env.storeThrows world.writes then .error .store else .ok (),
        { world with writes := world.writes + 1 }) := by
  simp only [persist, Bind.bind, Call.read, Call.change]
  split_ifs <;> rfl

theorem upsertTaskDeliveryState_eq (taskId : JsString)
    (requesterOrigin : Option DeliveryContext) (lastNotifiedEventAt : Option ℤ)
    (world : World) :
    upsertTaskDeliveryState env taskId requesterOrigin lastNotifiedEventAt world =
      if world.writesDeliveryState env taskId requesterOrigin lastNotifiedEventAt then
        persist env (world.withDeliveryState env taskId requesterOrigin lastNotifiedEventAt)
      else (.ok (), world) := by
  have hskip : ((requesterOrigin.bind env.normalizeDeliveryContext).isNone &&
      lastNotifiedEventAt.isNone && (world.taskDeliveryStates.lookup taskId).isNone) =
      !world.writesDeliveryState env taskId requesterOrigin
        lastNotifiedEventAt := by
    simp [World.writesDeliveryState]
  simp only [upsertTaskDeliveryState, read_bind_eq, hskip, World.withDeliveryState]
  cases world.writesDeliveryState env taskId requesterOrigin lastNotifiedEventAt with
  | false => rfl
  | true => rfl

theorem upsertTaskDeliveryState_cases (taskId : JsString)
    (requesterOrigin : Option DeliveryContext) (lastNotifiedEventAt : Option ℤ)
    (world : World) :
    ∃ next, SameRecords world next ∧
      (upsertTaskDeliveryState env taskId requesterOrigin lastNotifiedEventAt
          world = (.ok (), next) ∨
        upsertTaskDeliveryState env taskId requesterOrigin lastNotifiedEventAt
            world = (.error .store, next) ∧
          world.writesDeliveryState env taskId requesterOrigin lastNotifiedEventAt = true ∧
          env.storeThrows world.writes = true) := by
  rw [upsertTaskDeliveryState_eq]
  split_ifs with hwrites
  · have hcount : (world.withDeliveryState env taskId requesterOrigin
        lastNotifiedEventAt).writes = world.writes := by
      rw [World.withDeliveryState, if_pos hwrites]
    rw [persist_eq, hcount]
    refine ⟨{ world.withDeliveryState env taskId requesterOrigin
      lastNotifiedEventAt with writes := world.writes + 1 }, ?_, ?_⟩
    · rw [World.withDeliveryState, if_pos hwrites]
      exact .of_eq rfl rfl rfl rfl rfl rfl rfl (Nat.le_succ world.writes)
    · cases hthrows : env.storeThrows world.writes with
      | false => exact .inl rfl
      | true => exact .inr ⟨rfl, hwrites, rfl⟩
  · exact ⟨world, .refl world, .inl rfl⟩

variable (env) in
def World.newRecord (world : World) (params : TaskCreateParams) : TaskRecord :=
  buildTaskRecord params (env.randomUUID world.uuids) (env.now world.readings)

variable (env) in
def World.withNewTask (world : World) (params : TaskCreateParams) : World :=
  { world with
    readings := world.readings + 1
    uuids := world.uuids + 1
    tasks := Entries.set (env.randomUUID world.uuids) (world.newRecord env params) world.tasks }

variable {params : TaskCreateParams}

theorem Whole.addTaskRecord (hwhole : Whole env property)
    (hadded : property ((world.withNewTask env params).addIndexes
      (env.randomUUID world.uuids) (world.newRecord env params)))
    (hthrown : world.writesDeliveryState env (env.randomUUID world.uuids)
        (params.requesterOrigin.bind env.normalizeDeliveryContext) none = true →
      env.storeThrows world.writes = true → property (world.withNewTask env params)) :
    EndsIn property (addTaskRecord env params) world := by
  apply EndsIn.bind_of_ok rfl
  apply EndsIn.bind_of_ok rfl
  apply EndsIn.change_bind
  obtain ⟨next, hsame, hcall | ⟨hcall, hwrites, hthrows⟩⟩ :=
    @upsertTaskDeliveryState_cases env (env.randomUUID world.uuids)
      (params.requesterOrigin.bind env.normalizeDeliveryContext) none
      (world.withNewTask env params)
  · apply EndsIn.bind_of_ok hcall
    apply EndsIn.change_bind
    apply EndsIn.of_keeps
    · apply Keeps.bind hwhole.insensitive.persist
      intro _
      apply Keeps.bind
      · exact attempt (hwhole.sync _)
      · intro _
        apply Keeps.bind _ fun _ => Keeps.pure _
        unfold deliverIfTerminal
        split_ifs
        · exact attempt (hwhole.maybeDeliverTaskTerminalUpdate _)
        · exact Keeps.pure _
    · exact hwhole.insensitive _ _ (hsame.addIndexes _ _) hadded
  · apply EndsIn.bind_of_error hcall
    exact hwhole.insensitive _ _ hsame (hthrown hwrites hthrows)

theorem assertParentFlowLinkAllowed_of_none {ownerKey : JsString} {scopeKind : TaskScopeKind}
    {parentFlowId : Option JsString}
    (hlink : world.parentFlowLinkError ownerKey scopeKind parentFlowId = none) :
    assertParentFlowLinkAllowed ownerKey scopeKind parentFlowId world = (.ok (), world) := by
  simp only [assertParentFlowLinkAllowed, Bind.bind, Call.read, hlink]
  rfl

theorem assertParentFlowLinkAllowed_of_some {ownerKey : JsString} {scopeKind : TaskScopeKind}
    {parentFlowId : Option JsString} {code : ParentFlowLinkErrorCode}
    (hlink : world.parentFlowLinkError ownerKey scopeKind parentFlowId = some code) :
    assertParentFlowLinkAllowed ownerKey scopeKind parentFlowId world =
      (.error (.parentFlowLink code), world) := by
  simp only [assertParentFlowLinkAllowed, Bind.bind, Call.read, hlink]
  rfl

theorem keeps_assertParentFlowLinkAllowed (ownerKey : JsString)
    (scopeKind : TaskScopeKind) (parentFlowId : Option JsString) :
    Keeps property (assertParentFlowLinkAllowed ownerKey scopeKind parentFlowId) := by
  apply Keeps.bind (read _)
  intro found
  cases found with
  | none => exact Keeps.pure _
  | some code => exact fail _

theorem Steady.mergeExistingTaskForCreate (hsteady : Steady env property) {existing : TaskRecord}
    (hupdate : Keeps property (updateTask env existing.taskId (mergePatch existing params))) :
    Keeps property (mergeExistingTaskForCreate env existing params) := by
  apply Keeps.bind
  · apply Keeps.bind (read _)
    intro current
    split_ifs
    · exact hsteady.insensitive.upsertTaskDeliveryState _ _ _
    · exact Keeps.pure _
  · intro _
    apply Keeps.bind (keeps_assertParentFlowLinkAllowed _ _ _)
    intro _
    split_ifs
    · exact Keeps.pure _
    · exact Keeps.bind hupdate fun _ => Keeps.pure _

theorem createTaskRecord_cases (env : TaskEnv) (params : TaskCreateParams) (world : World) :
    (∃ failure, failure ≠ .store ∧ createTaskRecord env params world = (.error failure, world)) ∨
      (∃ existing, world.findExistingTaskForCreate params
          (resolveTaskOwnerKey params) (resolveTaskScopeKind params) = some existing ∧
        createTaskRecord env params world = mergeExistingTaskForCreate env existing params world) ∨
      (world.addsTask params = true ∧
        createTaskRecord env params world = addTaskRecord env params world) := by
  cases howner : (nonBlank (resolveTaskOwnerKey params)).isNone &&
      decide (resolveTaskScopeKind params ≠ .system) with
  | true =>
    have hfails : assertTaskOwner (resolveTaskOwnerKey params)
        (resolveTaskScopeKind params) world = (.error .taskOwnerKeyRequired, world) := by
      rw [assertTaskOwner, if_pos howner]
      rfl
    exact .inl ⟨.taskOwnerKeyRequired, by simp, by simp only [createTaskRecord, Bind.bind, hfails]⟩
  | false =>
    have howned : assertTaskOwner (resolveTaskOwnerKey params)
        (resolveTaskScopeKind params) world = (.ok (), world) := by
      simp only [assertTaskOwner, howner, Bool.false_eq_true, if_false]
      rfl
    rcases hlink : world.parentFlowLinkError (resolveTaskOwnerKey params)
        (resolveTaskScopeKind params) params.parentFlowId with - | code
    · have hallowed := assertParentFlowLinkAllowed_of_none hlink
      refine .inr ?_
      cases hfind : world.findExistingTaskForCreate params
          (resolveTaskOwnerKey params) (resolveTaskScopeKind params) with
      | some existing =>
        refine .inl ⟨existing, rfl, ?_⟩
        simp only [createTaskRecord, Bind.bind, howned, hallowed, Call.read, hfind]
      | none =>
        refine .inr ⟨?_, ?_⟩
        · rw [Bool.and_eq_false_iff] at howner
          simp only [World.addsTask, hlink, hfind, Option.isNone_none,
            Bool.and_true, Bool.or_eq_true, decide_eq_true_eq]
          rcases howner with hsome | hsystem
          · exact .inl (by simpa [Option.isSome_iff_ne_none] using hsome)
          · exact .inr (by simpa using hsystem)
        · simp only [createTaskRecord, Bind.bind, howned, hallowed, Call.read,
          hfind]
    · have hrefused := assertParentFlowLinkAllowed_of_some hlink
      exact .inl ⟨.parentFlowLink code, by simp, by
        simp only [createTaskRecord, Bind.bind, howned, hrefused]⟩

theorem Steady.createTaskRecord (hsteady : Steady env property) (hworld : property world)
    (hmerge : ∀ taskId patch, world.Merges params taskId patch →
      Keeps property (updateTask env taskId patch))
    (hadd : world.addsTask params = true → EndsIn property (addTaskRecord env params) world) :
    EndsIn property (createTaskRecord env params) world := by
  unfold EndsIn Call.leaves
  rcases createTaskRecord_cases env params world with ⟨failure, -, hcall⟩ |
    ⟨existing, hfind, hcall⟩ | ⟨hadds, hcall⟩
  · rw [hcall]
    exact hworld
  · rw [hcall]
    exact EndsIn.of_keeps (hsteady.mergeExistingTaskForCreate
      (hmerge _ _ ⟨existing, hfind, rfl, rfl⟩)) hworld
  · rw [hcall]
    exact hadd hadds

def Operation.writesFlow : Operation → Option (JsString × ℕ)
  | .setFlowWaiting flowId expectedRevision _ _ _ _ _ _ =>
    some (flowId, expectedRevision)
  | .resumeFlow flowId expectedRevision _ _ _ _ => some (flowId, expectedRevision)
  | .finishFlow flowId expectedRevision _ _ _ _ => some (flowId, expectedRevision)
  | .failFlow flowId expectedRevision _ _ _ _ _ _ =>
    some (flowId, expectedRevision)
  | _ => none

namespace Whole

variable (hwhole : Whole env property)

include hwhole

theorem linkTaskToFlowById (taskId flowId : JsString) :
    Keeps property (linkTaskToFlowById env taskId flowId) := by
  unfold TaskRegistry.linkTaskToFlowById
  split
  · exact Keeps.pure _
  · next flowId _ =>
      apply Meets.bind Meets.read
      intro found
      cases found with
      | none => exact fun world hworld => hworld.1
      | some current =>
        simp only
        split_ifs with hlinked
        · exact fun world hworld => hworld.1
        · rintro world ⟨hworld, hlookup⟩
          rw [Option.not_isSome_iff_eq_none] at hlinked
          cases hlink : world.parentFlowLinkError current.ownerKey
              current.scopeKind (some flowId) with
          | none =>
            have hmeets := hwhole.link taskId current flowId world ⟨hworld, hlookup, hlinked, hlink⟩
            simpa only [Bind.bind, assertParentFlowLinkAllowed_of_none hlink] using hmeets
          | some code =>
            simpa only [Bind.bind, assertParentFlowLinkAllowed_of_some hlink] using hworld

theorem ensureSingleTaskFlow (task : TaskRecord) (requesterOrigin : Option DeliveryContext) :
    Keeps property (ensureSingleTaskFlow env task requesterOrigin) := by
  unfold TaskRegistry.ensureSingleTaskFlow
  split_ifs
  · exact Keeps.pure _
  · apply Keeps.attempt
    apply Keeps.bind (hwhole.createFlow _)
    intro flow
    apply Keeps.bind (hwhole.linkTaskToFlowById _ _)
    intro linked
    cases linked with
    | none => exact hwhole.deleteFlow _
    | some linked =>
      simp only
      split_ifs
      · exact hwhole.deleteFlow _
      · exact Keeps.pure _

theorem cancelNextTask (flowId : JsString) (registered : Bool) (rest : List JsString) :
    Keeps property (cancelNextTask env flowId registered rest) := by
  cases rest with
  | nil =>
    exact Keeps.bind (hwhole.settleCancelled flowId) fun _ =>
      Keeps.pure _
  | cons taskId rest =>
    apply Keeps.bind (hwhole.cancelDetachedTaskRunById taskId registered)
    exact fun _ => Keeps.pure _

theorem markFlowCancelRequested (flow : TaskFlowRecord) :
    Keeps property (markFlowCancelRequested env flow) := by
  unfold TaskRegistry.markFlowCancelRequested
  split_ifs
  · exact Keeps.pure _
  · apply Keeps.bind (hwhole.request _ _ _ _)
    intro result
    cases result <;> exact Keeps.pure _

variable (index : ℕ) (cancel : FlowCancel)

theorem putFlowCancel : Keeps property (putFlowCancel index cancel) :=
  hwhole.insensitive.change fun _ => .of_eq rfl rfl rfl rfl rfl rfl rfl le_rfl

theorem cancelFlowById (flowId : JsString) (registered : Bool) :
    Keeps property (cancelFlowById env flowId registered) := by
  apply Keeps.bind (read _)
  intro found
  cases found with
  | none => exact Keeps.pure _
  | some flow =>
    simp only
    split_ifs
    · exact Keeps.pure _
    · apply Keeps.bind (hwhole.markFlowCancelRequested flow)
      intro requested
      split_ifs
      · apply Keeps.bind (read _)
        intro active
        apply Keeps.bind (hwhole.cancelNextTask _ _ _)
        intro cancel
        exact hwhole.insensitive.change fun _ =>
          .of_eq rfl rfl rfl rfl rfl rfl rfl le_rfl
      · exact Keeps.pure _

theorem resumeFlowCancel (registered : Bool) :
    Keeps property (resumeFlowCancel env index cancel registered) := by
  apply Keeps.bind (hwhole.putFlowCancel _ _)
  intro _
  apply Keeps.bind (hwhole.cancelNextTask _ _ _)
  exact fun _ => hwhole.putFlowCancel _ _

theorem detachedRuntimeSettles (taskId : JsString) (found registered : Bool) :
    Keeps property (detachedRuntimeSettles env index cancel taskId found registered) := by
  unfold TaskRegistry.detachedRuntimeSettles
  split_ifs
  · exact hwhole.resumeFlowCancel _ _ _
  · apply Keeps.bind (hwhole.cancelTaskById _)
    exact fun _ => hwhole.putFlowCancel _ _

def Operation.writesFlow : Operation → Option (JsString × ℕ)
  | .setFlowWaiting flowId expectedRevision _ _ _ _ _ _ =>
    some (flowId, expectedRevision)
  | .resumeFlow flowId expectedRevision _ _ _ _ => some (flowId, expectedRevision)
  | .finishFlow flowId expectedRevision _ _ _ _ => some (flowId, expectedRevision)
  | .failFlow flowId expectedRevision _ _ _ _ _ _ =>
    some (flowId, expectedRevision)
  | _ => none

theorem step_keeps {operation : Operation} (hworld : property world)
    (hupdates : ∀ taskId patch, Updates env world taskId patch operation →
      Keeps property (updateTask env taskId patch))
    (hupdate : ∀ taskId patch, operation = .updateTask taskId patch →
      EndsIn property (updateTask env taskId patch) world)
    (hadd : ∀ params, operation.created = some params → world.addsTask params = true →
        EndsIn property (TaskRegistry.addTaskRecord env params) world)
    (hdelete : ∀ taskId, operation = .deleteTaskRecordById taskId →
      EndsIn property (deleteTaskRecordById env taskId) world)
    (hwrite : ∀ flowId revision, operation.writesFlow = some (flowId, revision) →
      ∀ patch, patch.cancelRequestedAt = none →
        Meets (fun state => property state ∧ SameRecords world state)
          (updateFlowRecordByIdExpectedRevision env flowId revision patch)
          (fun _ => property) property)
    (hstep : step env world operation = some next) : property next := by
  by_cases hkind : operation.updatesTasks = true
  · exact hwhole.update_step_keeps hkind hworld hupdates hupdate hstep
  have hrun : ∀ params status,
      (∀ taskId patch, world.Merges { params with status := some status } taskId
        patch → Keeps property (updateTask env taskId patch)) →
      (world.addsTask { params with status := some status } = true → EndsIn property
          (TaskRegistry.addTaskRecord env { params with status := some status })
          world) →
      EndsIn property (createTaskRun env params status) world := by
    intro params status hmerge hnew
    apply EndsIn.bind (hwhole.createTaskRecord hworld hmerge hnew)
    exact fun task => hwhole.ensureSingleTaskFlow task _
  have hkeeps : ∀ {Value : Type} {call : RegistryCall Value},
      Keeps property call → some (call.leaves world) = some next → property next := by
    intro Value call hcall hnext
    exact Option.some.inj hnext ▸ hcall.leaves hworld
  have hends : ∀ {Value : Type} {call : RegistryCall Value},
      EndsIn property call world → some (call.leaves world) = some next → property next := by
    intro Value call hcall hnext
    exact Option.some.inj hnext ▸ hcall
  have hbefore := hwhole.insensitive.andSame world
  have hnow : ∀ (first : Option ℤ) (patch : ℤ → FlowRecordPatch) flowId revision,
      operation.writesFlow = some (flowId, revision) →
      (∀ endedAt, (patch endedAt).cancelRequestedAt = none) → EndsIn property (do
          let endedAt ← orNow env first
          updateFlowRecordByIdExpectedRevision env flowId revision (patch endedAt)) world := by
    intro first patch flowId revision hflow hpatch
    have hmeets : Meets (fun state => property state ∧ SameRecords world state) (do
          let endedAt ← orNow env first
          updateFlowRecordByIdExpectedRevision env flowId revision
            (patch endedAt)) (fun _ => property) property := by
      apply Meets.bind ((hbefore.orNow first).consequence (fun _ => id)
        (fun _ _ => id) fun _ => And.left)
      exact fun endedAt => hwrite flowId revision hflow _ (hpatch endedAt)
    exact hmeets.endsIn ⟨hworld, SameRecords.refl world⟩
  cases operation with
  | createTaskRecord params =>
    exact hends (hwhole.createTaskRecord hworld
      (fun taskId patch hmerges => hupdates taskId patch hmerges)
      (hadd params rfl)) hstep
  | createQueuedTaskRun params =>
    exact hends (hrun params .queued (fun taskId patch hmerges => hupdates taskId patch hmerges)
      (hadd _ rfl)) hstep
  | createRunningTaskRun params =>
    exact hends (hrun params .running (fun taskId patch hmerges => hupdates taskId patch hmerges)
      (hadd _ rfl)) hstep
  | linkTaskToFlowById taskId flowId =>
    exact hkeeps (hwhole.linkTaskToFlowById taskId flowId) hstep
  | deleteTaskRecordById taskId => exact hends (hdelete taskId rfl) hstep
  | createFlowRecord params => exact hkeeps (hwhole.createFlow params) hstep
  | deleteTaskFlowRecordById flowId =>
    exact hkeeps (hwhole.deleteFlow flowId) hstep
  | setFlowWaiting | resumeFlow =>
    exact hends ((hwrite _ _ rfl _ rfl).endsIn ⟨hworld, SameRecords.refl world⟩) hstep
  | finishFlow | failFlow =>
    exact hends (hnow _ _ _ _ rfl fun _ => rfl) hstep
  | requestFlowCancel => exact hkeeps (hwhole.request _ _ _ _) hstep
  | cancelFlowById flowId registered =>
    exact hkeeps (hwhole.cancelFlowById flowId registered) hstep
  | resumeFlowCancel index registered =>
    obtain ⟨cancel, -, hstep⟩ := Option.bind_eq_some_iff.mp hstep
    obtain ⟨waits, -, hstep⟩ := Option.bind_eq_some_iff.mp hstep
    rw [Option.ite_none_right_eq_some] at hstep
    exact hkeeps (hwhole.resumeFlowCancel _ _ _) hstep.2
  | detachedRuntimeSettles index found registered =>
    obtain ⟨cancel, -, hstep⟩ := Option.bind_eq_some_iff.mp hstep
    split at hstep
    · exact hkeeps (hwhole.detachedRuntimeSettles _ _ _ _ _) hstep
    · contradiction
  | _ => exact absurd rfl hkind

end Whole

theorem Blind.writesFlow (hblind : Blind property) {before : World → Prop}
    (flowId : JsString) (revision : ℕ) (patch : FlowRecordPatch) :
    Meets (fun state => property state ∧ before state)
      (TaskRegistry.updateFlowRecordByIdExpectedRevision env flowId revision
        patch) (fun _ => property) property :=
  (hblind.updateFlowRecordByIdExpectedRevision _ _ _).consequence
    (fun _ => And.left) (fun _ _ => id) fun _ => id

end LittleBaby.TaskRegistry
