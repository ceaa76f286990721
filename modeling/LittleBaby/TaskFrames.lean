import LittleBaby.TaskExecutor

/-!
# What the operations of the registries keep

A property of the tables of tasks and flows that the two updates of a delivery
keep is kept by everything that delivers messages, and the operations that update
tasks keep it if their own patches do.
-/

namespace LittleBaby.TaskRegistry

open JsString Call Keeps TaskRegistry EndsIn

variable {env : TaskEnv} {property : World → Prop}

structure SameRecords (world next : World) : Prop where
  tasks : next.tasks = world.tasks
  flows : next.flows = world.flows
  runIds : next.taskIdsByRunId = world.taskIdsByRunId
  ownerKeys : next.taskIdsByOwnerKey = world.taskIdsByOwnerKey
  parentFlowIds : next.taskIdsByParentFlowId = world.taskIdsByParentFlowId
  sessionKeys :
    next.taskIdsByRelatedSessionKey = world.taskIdsByRelatedSessionKey
  uuids : world.uuids ≤ next.uuids
  writes : world.writes ≤ next.writes

variable {world next : World}

theorem SameRecords.of_eq (htasks : next.tasks = world.tasks) (hflows : next.flows = world.flows)
    (hruns : next.taskIdsByRunId = world.taskIdsByRunId)
    (howners : next.taskIdsByOwnerKey = world.taskIdsByOwnerKey)
    (hparents : next.taskIdsByParentFlowId = world.taskIdsByParentFlowId)
    (hsessions :
      next.taskIdsByRelatedSessionKey = world.taskIdsByRelatedSessionKey)
    (huuids : next.uuids = world.uuids) (hwrites : world.writes ≤ next.writes) :
    SameRecords world next :=
  ⟨htasks, hflows, hruns, howners, hparents, hsessions, Nat.le_of_eq huuids.symm, hwrites⟩

theorem SameRecords.refl (world : World) : SameRecords world world :=
  ⟨rfl, rfl, rfl, rfl, rfl, rfl, le_rfl, le_rfl⟩

theorem SameRecords.trans {last : World}
    (hfirst : SameRecords world next) (hsecond : SameRecords next last) :
    SameRecords world last :=
  ⟨hsecond.tasks.trans hfirst.tasks, hsecond.flows.trans hfirst.flows,
    hsecond.runIds.trans hfirst.runIds, hsecond.ownerKeys.trans hfirst.ownerKeys,
    hsecond.parentFlowIds.trans hfirst.parentFlowIds,
    hsecond.sessionKeys.trans hfirst.sessionKeys,
    hfirst.uuids.trans hsecond.uuids, hfirst.writes.trans hsecond.writes⟩

def Insensitive (property : World → Prop) : Prop :=
  ∀ world next, SameRecords world next → property world → property next

theorem Insensitive.andSame (hproperty : Insensitive property) (world : World) :
    Insensitive fun state => property state ∧ SameRecords world state := by
  rintro state later hsame ⟨hstate, hstart⟩
  exact ⟨hproperty state later hsame hstate, hstart.trans hsame⟩

namespace Insensitive

variable (hproperty : Insensitive property)

include hproperty

theorem change {update : World → World} (hsame : ∀ world, SameRecords world (update world)) :
    Keeps property (Call.change update : RegistryCall Unit) :=
  Keeps.change fun world => hproperty world _ (hsame world)

theorem dateNow : Keeps property (dateNow env) := by
  apply Keeps.bind (read _)
  intro reading
  apply Keeps.bind
  · exact hproperty.change fun _ => .of_eq rfl rfl rfl rfl rfl rfl rfl le_rfl
  · exact fun _ => Keeps.pure _

theorem meets_orNow {thrown : World → Prop} (first : Option ℤ) :
    Meets property (orNow env first) (fun _ => property) thrown := by
  cases first with
  | some time => exact Meets.pure fun _ => id
  | none =>
    intro world hworld
    exact hproperty world _ (.of_eq rfl rfl rfl rfl rfl rfl rfl le_rfl) hworld

theorem orNow (first : Option ℤ) : Keeps property (orNow env first) := hproperty.meets_orNow first

variable (task : TaskRecord)

theorem flowEndedAt : Keeps property (flowEndedAt env task) := by
  unfold TaskRegistry.flowEndedAt
  split_ifs
  · exact Keeps.bind (hproperty.orNow _) fun _ => Keeps.pure _
  · exact Keeps.pure _

theorem newUUID : Keeps property (newUUID env) := by
  apply Keeps.bind (read _)
  intro index
  apply Keeps.bind
  · exact hproperty.change fun world =>
      ⟨rfl, rfl, rfl, rfl, rfl, rfl, Nat.le_succ world.uuids, le_rfl⟩
  · exact fun _ => Keeps.pure _

theorem persist : Keeps property (persist env) := by
  apply Keeps.bind (read _)
  intro write
  apply Keeps.bind
  · exact hproperty.change fun world =>
      .of_eq rfl rfl rfl rfl rfl rfl rfl (Nat.le_succ world.writes)
  · intro _
    split_ifs
    · exact fail _
    · exact Keeps.pure _

theorem upsertTaskDeliveryState (taskId : JsString)
    (requesterOrigin : Option DeliveryContext) (lastNotifiedEventAt : Option ℤ) :
    Keeps property (upsertTaskDeliveryState env taskId requesterOrigin lastNotifiedEventAt) := by
  apply Keeps.bind (read _)
  intro current
  simp only
  split_ifs
  · exact Keeps.pure _
  · apply Keeps.bind
    · exact hproperty.change fun _ => .of_eq rfl rfl rfl rfl rfl rfl rfl le_rfl
    · exact fun _ => hproperty.persist

theorem queueTaskSystemEvent (text : TaskEventText) :
    Keeps property (queueTaskSystemEvent env task text) := by
  apply hproperty.change
  intro world
  split
  · exact .of_eq rfl rfl rfl rfl rfl rfl rfl le_rfl
  · exact .of_eq rfl rfl rfl rfl rfl rfl rfl le_rfl

theorem queueBlockedTaskFollowup : Keeps property (queueBlockedTaskFollowup env task) := by
  unfold TaskRegistry.queueBlockedTaskFollowup
  split_ifs
  · exact hproperty.queueTaskSystemEvent task .blockedFollowup
  · exact Keeps.pure _

theorem dropPendingDelivery (taskId : JsString) : Keeps property (dropPendingDelivery taskId) :=
  hproperty.change fun _ => .of_eq rfl rfl rfl rfl rfl rfl rfl le_rfl

theorem putTerminalDelivery (index : ℕ) (delivery : TerminalDelivery) :
    Keeps property (putTerminalDelivery index delivery) :=
  hproperty.change fun _ => .of_eq rfl rfl rfl rfl rfl rfl rfl le_rfl

theorem finallyDropPending (taskId : JsString) {body : RegistryCall Unit}
    (hbody : Keeps property body) :
    Keeps property (finallyDropPending taskId body) := by
  apply Keeps.bind
  · apply rescue hbody
    intro failure
    exact Keeps.bind (hproperty.dropPendingDelivery taskId) fun _ => fail _
  · exact fun _ => hproperty.dropPendingDelivery taskId

end Insensitive

/-! ## Delivery -/

structure Steady (env : TaskEnv) (property : World → Prop) : Prop where
  insensitive : Insensitive property
  delivery : ∀ taskId deliveryStatus now, Keeps property (updateTask env taskId
    { deliveryStatus := some deliveryStatus
      lastEventAt := some (some now) })
  touch : ∀ taskId now, Keeps property (updateTask env taskId { lastEventAt := some (some now) })

namespace Steady

variable (hsteady : Steady env property)

include hsteady

theorem setDeliveryStatus (taskId : JsString) (deliveryStatus : TaskDeliveryStatus) :
    Keeps property (setDeliveryStatus env taskId deliveryStatus) := by
  apply Keeps.bind hsteady.insensitive.dateNow
  intro now
  exact Keeps.bind (hsteady.delivery taskId deliveryStatus now) fun _ =>
    Keeps.pure _

theorem touchTask (taskId : JsString) : Keeps property (touchTask env taskId) := by
  apply Keeps.bind hsteady.insensitive.dateNow
  intro now
  exact Keeps.bind (hsteady.touch taskId now) fun _ => Keeps.pure _

variable (index : ℕ) (latest : TaskRecord)

theorem deliverTaskTerminalUpdate : Keeps property (deliverTaskTerminalUpdate env latest) := by
  apply Keeps.bind (Keeps.read _)
  intro preferred
  split_ifs
  · exact Keeps.bind (hsteady.setDeliveryStatus _ _) fun _ => Keeps.pure _
  · apply Keeps.bind (Keeps.read _)
    intro owner
    split
    · exact Keeps.bind (hsteady.setDeliveryStatus _ _) fun _ => Keeps.pure _
    · apply Keeps.bind (Keeps.read _)
      intro deliverable
      split_ifs
      · apply Keeps.bind
        · exact hsteady.insensitive.change fun _ =>
            .of_eq rfl rfl rfl rfl rfl rfl rfl le_rfl
        · exact fun _ => Keeps.pure _
      · apply Keeps.bind
        · apply Keeps.rescue
          · apply Keeps.bind (hsteady.insensitive.queueTaskSystemEvent _ _)
            intro _
            apply Keeps.bind (hsteady.insensitive.queueBlockedTaskFollowup _)
            exact fun _ => hsteady.setDeliveryStatus _ _
          · exact fun _ => hsteady.setDeliveryStatus _ _
        · exact fun _ => Keeps.pure _

theorem maybeDeliverTaskTerminalUpdate (taskId : JsString) :
    Keeps property (maybeDeliverTaskTerminalUpdate env taskId) := by
  apply Keeps.bind (read _)
  intro found
  cases found with
  | none => exact Keeps.pure _
  | some current =>
    simp only
    split_ifs
    · exact Keeps.pure _
    · apply Keeps.bind (read _)
      intro pending
      split_ifs
      · exact Keeps.pure _
      · apply Keeps.bind
        · exact hsteady.insensitive.change fun _ =>
            .of_eq rfl rfl rfl rfl rfl rfl rfl le_rfl
        · intro _
          apply Keeps.bind
          · apply rescue (hsteady.deliverTaskTerminalUpdate current)
            intro failure
            exact Keeps.bind (hsteady.insensitive.dropPendingDelivery taskId) fun _ => fail _
          · intro waits
            split_ifs
            · exact Keeps.pure _
            · exact hsteady.insensitive.dropPendingDelivery taskId

theorem fallBackToSessionDelivery : Keeps property (fallBackToSessionDelivery env latest) := by
  apply Keeps.bind (hsteady.insensitive.queueTaskSystemEvent _ _)
  intro _
  apply Keeps.bind (hsteady.insensitive.queueBlockedTaskFollowup _)
  exact fun _ => hsteady.setDeliveryStatus _ _

theorem deliveryRuntimeLoads (loaded : Bool) :
    Keeps property (deliveryRuntimeLoads env index latest loaded) := by
  unfold TaskRegistry.deliveryRuntimeLoads
  split_ifs
  · exact hsteady.insensitive.putTerminalDelivery _ _
  · apply Keeps.bind (hsteady.insensitive.putTerminalDelivery _ _)
    exact fun _ => hsteady.insensitive.finallyDropPending _
      (hsteady.fallBackToSessionDelivery latest)

theorem sendMessageSettles (sent : Bool) :
    Keeps property (sendMessageSettles env index latest sent) := by
  apply Keeps.bind (hsteady.insensitive.putTerminalDelivery _ _)
  intro _
  apply hsteady.insensitive.finallyDropPending
  split_ifs
  · apply Keeps.rescue
    · apply Keeps.bind (hsteady.insensitive.queueBlockedTaskFollowup _)
      exact fun _ => hsteady.setDeliveryStatus _ _
    · exact fun _ => hsteady.fallBackToSessionDelivery latest
  · exact hsteady.fallBackToSessionDelivery latest

theorem maybeDeliverTaskStateChangeUpdate (taskId : JsString)
    (latestEvent : Option TaskEventRecord) :
    Keeps property (maybeDeliverTaskStateChangeUpdate env taskId latestEvent) := by
  apply Keeps.bind (Keeps.read _)
  intro found
  cases found with
  | none => exact Keeps.pure _
  | some current =>
    simp only
    split_ifs
    · exact Keeps.pure _
    · apply Keeps.bind (Keeps.read _)
      intro deliveryState
      cases latestEvent with
      | none => exact Keeps.pure _
      | some event =>
        simp only
        split_ifs
        · exact Keeps.pure _
        · apply Keeps.attempt
          apply Keeps.bind (Keeps.read _)
          intro owner
          split
          · exact hsteady.setDeliveryStatus _ _
          · apply Keeps.bind (Keeps.read _)
            intro deliverable
            split_ifs
            · exact hsteady.insensitive.change fun _ =>
                .of_eq rfl rfl rfl rfl rfl rfl rfl le_rfl
            · apply Keeps.bind (hsteady.insensitive.queueTaskSystemEvent _ _)
              intro _
              apply Keeps.bind (hsteady.insensitive.upsertTaskDeliveryState _ _ _)
              exact fun _ => hsteady.touchTask taskId

theorem stateChangeDeliveryAdvances (delivery : StateChangeDelivery) (succeeds : Bool) :
    Keeps property (stateChangeDeliveryAdvances env index delivery succeeds) := by
  have hput : ∀ phase, Keeps property (Call.change fun world : World =>
      { world with
        stateChangeDeliveries := world.stateChangeDeliveries.put index
          { delivery with phase := phase } } : RegistryCall Unit) :=
    fun phase => hsteady.insensitive.change fun _ =>
      .of_eq rfl rfl rfl rfl rfl rfl rfl le_rfl
  unfold TaskRegistry.stateChangeDeliveryAdvances
  split_ifs
  · exact hput .failed
  · split
    · exact hput .sending
    · apply Keeps.bind (hput .sent)
      intro _
      apply Keeps.attempt
      apply Keeps.bind (hsteady.insensitive.upsertTaskDeliveryState _ _ _)
      exact fun _ => hsteady.touchTask _
    · exact Keeps.pure _
    · exact Keeps.pure _

theorem announce (taskId : JsString) (event : Option TaskEventRecord) : Keeps property (do
      attempt (TaskRegistry.maybeDeliverTaskStateChangeUpdate env taskId event)
      attempt (TaskRegistry.maybeDeliverTaskTerminalUpdate env taskId)) := by
  apply Keeps.bind
  · exact Keeps.attempt (hsteady.maybeDeliverTaskStateChangeUpdate taskId event)
  · exact fun _ => Keeps.attempt (hsteady.maybeDeliverTaskTerminalUpdate taskId)

end Steady

variable {before : World → Prop}

theorem Insensitive.andTask (hbefore : Insensitive before) (taskId : JsString) (task : TaskRecord) :
    Insensitive fun world =>
      before world ∧ world.tasks.lookup taskId = some task := by
  rintro world next hsame ⟨hworld, hlookup⟩
  exact ⟨hbefore world next hsame hworld, hsame.tasks ▸ hlookup⟩

variable {taskId : JsString} {patch : TaskPatch}

theorem meets_updateTask {thrown : World → Prop} {middle : TaskRecord → World → Prop}
    {returned : Option TaskRecord → World → Prop} (hbefore : Insensitive before)
    (hmissing : ∀ world, before world → world.tasks.lookup taskId = none →
      returned none world)
    (hreplace : ∀ world current cleanupAfter, before world →
      world.tasks.lookup taskId = some current →
        middle { current.apply patch with cleanupAfter := cleanupAfter }
          (world.replaceTask taskId patch current
            { current.apply patch with cleanupAfter := cleanupAfter }))
    (hfinish : ∀ next, Meets (middle next) (finishUpdate env next) returned thrown) :
    Meets before (updateTask env taskId patch) returned thrown := by
  apply Meets.bind Meets.read
  intro found
  cases found with
  | none => exact fun world hworld => hmissing world hworld.1 hworld.2
  | some current =>
    have hretention : Meets (fun world => before world ∧ world.tasks.lookup taskId = some current)
        (withRetention env (current.apply patch))
        (fun next world => (before world ∧
          world.tasks.lookup taskId = some current) ∧ ∃ cleanupAfter, next =
              { current.apply patch with cleanupAfter := cleanupAfter })
        thrown := by
      unfold withRetention
      split_ifs
      · apply Meets.bind ((hbefore.andTask taskId current).meets_orNow _)
        exact fun terminalAt => Meets.pure fun world hworld => ⟨hworld, _, rfl⟩
      · exact Meets.pure fun world hworld => ⟨hworld, _, rfl⟩
    apply Meets.bind hretention
    intro next
    have hchange : Meets (fun world => (before world ∧
          world.tasks.lookup taskId = some current) ∧ ∃ cleanupAfter, next =
              { current.apply patch with cleanupAfter := cleanupAfter })
        (Call.change (World.replaceTask taskId patch current next) : RegistryCall Unit)
        (fun _ => middle next) thrown := by
      apply Meets.change
      rintro world ⟨⟨hworld, hlookup⟩, cleanupAfter, rfl⟩
      exact hreplace world current cleanupAfter hworld hlookup
    exact Meets.bind hchange fun _ => hfinish next

structure Followed (env : TaskEnv) (property : World → Prop) : Prop where
  insensitive : Insensitive property
  sync : ∀ task, Keeps property (syncFlowFromTask env task)
  settle : ∀ task, Keeps property (syncManagedFlowCancellationFromTask env task)

namespace Followed

variable (hfollowed : Followed env property)

include hfollowed

theorem finishUpdate (next : TaskRecord) : Keeps property (finishUpdate env next) := by
  apply Keeps.bind hfollowed.insensitive.persist
  intro _
  apply Keeps.bind (attempt (hfollowed.sync next))
  intro _
  apply Keeps.bind (attempt (hfollowed.settle next))
  exact fun _ => Keeps.pure _

theorem updateTask_of (hbefore : Insensitive before)
    (hproperty : ∀ world, before world → property world)
    (hreplace : ∀ world current cleanupAfter, before world →
      world.tasks.lookup taskId = some current → property (world.replaceTask taskId patch current
          { current.apply patch with cleanupAfter := cleanupAfter })) :
    Meets before (updateTask env taskId patch) (fun _ => property) property :=
  meets_updateTask hbefore (fun world hworld _ => hproperty world hworld) hreplace
    hfollowed.finishUpdate

theorem updateTask (hreplace : ∀ world current cleanupAfter, property world →
      world.tasks.lookup taskId = some current → property (world.replaceTask taskId patch current
          { current.apply patch with cleanupAfter := cleanupAfter })) :
    Keeps property (updateTask env taskId patch) :=
  hfollowed.updateTask_of hfollowed.insensitive (fun _ => id) hreplace

theorem deleteTaskRecordById (herase : ∀ world current, property world →
      world.tasks.lookup taskId = some current → property (world.withoutTask taskId current)) :
    Keeps property (deleteTaskRecordById env taskId) := by
  apply Meets.bind Meets.read
  intro found
  cases found with
  | none => exact fun world hworld => hworld.1
  | some current =>
    have hpersist : Keeps property (do persist env; persist env) :=
      Keeps.bind hfollowed.insensitive.persist fun _ =>
        hfollowed.insensitive.persist
    rintro world ⟨hworld, hlookup⟩
    exact hpersist _ (herase world current hworld hlookup)

end Followed

/-! ## Properties of the tasks alone -/

structure Blind (property : World → Prop) : Prop where
  insensitive : Insensitive property
  flows : ∀ world flows, property world → property { world with flows := flows }

namespace Blind

variable (hblind : Blind property)

include hblind

theorem writeFlowRecord (next : TaskFlowRecord) : Keeps property (writeFlowRecord env next) := by
  apply Keeps.bind
  · exact change fun world => hblind.flows world _
  · exact fun _ => Keeps.bind hblind.insensitive.persist fun _ => Keeps.pure _

omit hblind in
theorem resolveControllerId (syncMode : TaskFlowSyncMode) (controllerId : Option JsString) :
    Keeps property (resolveControllerId syncMode controllerId) := by
  cases syncMode with
  | taskMirrored => exact Keeps.pure _
  | managed =>
    refine Keeps.bind ?_ fun _ => Keeps.pure _
    unfold assertControllerId
    split
    · exact fail _
    · exact Keeps.pure _

theorem createFlowRecord (params : CreateFlowRecordParams) :
    Keeps property (createFlowRecord env params) := by
  apply Keeps.bind (hblind.insensitive.orNow _)
  intro now
  apply Keeps.bind (resolveControllerId _ _)
  intro controllerId
  apply Keeps.bind hblind.insensitive.newUUID
  intro flowId
  apply Keeps.bind
  · unfold assertFlowOwnerKey
    split
    · exact fail _
    · exact Keeps.pure _
  · exact fun _ => hblind.writeFlowRecord _

theorem applyFlowPatch (current : TaskFlowRecord) (patch : FlowRecordPatch) :
    Keeps property (applyFlowPatch env current patch) := by
  apply Keeps.bind (resolveControllerId _ _)
  intro _
  exact Keeps.bind (hblind.insensitive.orNow _) fun _ => Keeps.pure _

variable (flowId : JsString)

theorem updateFlowRecordByIdUnchecked (patch : FlowRecordPatch) :
    Keeps property (updateFlowRecordByIdUnchecked env flowId patch) := by
  apply Keeps.bind (read _)
  intro found
  cases found with
  | none => exact Keeps.pure _
  | some current =>
    apply Keeps.bind (hblind.applyFlowPatch current patch)
    intro next
    exact Keeps.bind (hblind.writeFlowRecord next) fun _ => Keeps.pure _

theorem updateFlowRecordByIdExpectedRevision (expectedRevision : ℕ) (patch : FlowRecordPatch) :
    Keeps property (updateFlowRecordByIdExpectedRevision env flowId expectedRevision patch) := by
  apply Keeps.bind (read _)
  intro found
  cases found with
  | none => exact Keeps.pure _
  | some current =>
    simp only
    split_ifs
    · exact Keeps.pure _
    · apply Keeps.bind (hblind.applyFlowPatch current patch)
      intro next
      exact Keeps.bind (hblind.writeFlowRecord next) fun _ => Keeps.pure _

theorem deleteTaskFlowRecordById : Keeps property (deleteTaskFlowRecordById env flowId) := by
  apply Keeps.bind (read _)
  intro found
  cases found with
  | none => exact Keeps.pure _
  | some current =>
    apply Keeps.bind
    · exact change fun world => hblind.flows world _
    · exact fun _ => hblind.insensitive.persist

theorem syncFlowFromTask (task : TaskRecord) : Keeps property (syncFlowFromTask env task) := by
  unfold TaskRegistry.syncFlowFromTask
  split
  · exact Keeps.pure _
  · apply Keeps.bind (Keeps.read _)
    intro found
    cases found with
    | none => exact Keeps.pure _
    | some flow =>
      simp only
      split_ifs
      · exact Keeps.pure _
      · apply Keeps.bind (hblind.insensitive.orNow _)
        intro updatedAt
        apply Keeps.bind (hblind.insensitive.flowEndedAt task)
        exact fun _ => hblind.updateFlowRecordByIdUnchecked _ _

theorem settleManagedFlow (endedAt : ℤ) (attempts : ℕ) (flow : TaskFlowRecord) :
    Keeps property (settleManagedFlow env flowId endedAt attempts flow) := by
  induction attempts generalizing flow with
  | zero => exact Keeps.pure _
  | succ attempts ih =>
    apply Keeps.bind (hblind.updateFlowRecordByIdExpectedRevision _ _ _)
    intro result
    cases result with
    | applied | notFound => exact Keeps.pure _
    | revisionConflict current =>
      simp only
      split_ifs
      · exact Keeps.pure _
      · apply Keeps.bind (read _)
        intro active
        split_ifs
        · exact Keeps.pure _
        · exact ih current

theorem syncManagedFlowCancellationFromTask (task : TaskRecord) :
    Keeps property (syncManagedFlowCancellationFromTask env task) := by
  unfold TaskRegistry.syncManagedFlowCancellationFromTask
  split
  · exact Keeps.pure _
  · apply Keeps.bind (Keeps.read _)
    intro found
    cases found with
    | none => exact Keeps.pure _
    | some flow =>
      simp only
      split_ifs
      · exact Keeps.pure _
      · apply Keeps.bind (Keeps.read _)
        intro active
        split_ifs
        · exact Keeps.pure _
        · apply Keeps.bind (hblind.insensitive.orNow _)
          exact fun _ => hblind.settleManagedFlow _ _ _ _

theorem followed : Followed env property :=
  ⟨hblind.insensitive, hblind.syncFlowFromTask, hblind.syncManagedFlowCancellationFromTask⟩

end Blind

/-! ## Cancelling -/

structure Cancellable (env : TaskEnv) (property : World → Prop) : Prop
    extends Steady env property where
  cancel : ∀ taskId task endedAt lastEventAt, isTerminalTaskStatus task.status = false →
      Meets (fun world => property world ∧ world.tasks.lookup taskId = some task)
        (updateTask env task.taskId (cancelledPatch endedAt lastEventAt))
        (fun _ => property) property

theorem Cancellable.of_patches (hinsensitive : Insensitive property) {allowed : TaskPatch → Prop}
    (hupdate : ∀ taskId patch, allowed patch → Keeps property (updateTask env taskId patch))
    (hdelivery : ∀ deliveryStatus now, allowed
      { deliveryStatus := some deliveryStatus
        lastEventAt := some (some now) })
    (htouch : ∀ now, allowed { lastEventAt := some (some now) })
    (hcancel : ∀ endedAt lastEventAt, allowed (cancelledPatch endedAt lastEventAt)) :
    Cancellable env property where
  insensitive := hinsensitive
  delivery := fun taskId deliveryStatus now =>
    hupdate taskId _ (hdelivery deliveryStatus now)
  touch := fun taskId now => hupdate taskId _ (htouch now)
  cancel := fun _ task endedAt lastEventAt _ =>
    (hupdate task.taskId _ (hcancel endedAt lastEventAt)).consequence
      (fun _ => And.left) (fun _ _ => id) fun _ => id

theorem Steady.markCancelled_of (hsteady : Steady env property) (hbefore : Insensitive before)
    (hproperty : ∀ world, before world → property world)
    (hupdate : ∀ endedAt lastEventAt, Meets before
      (updateTask env taskId (cancelledPatch endedAt lastEventAt))
      (fun _ => property) property) :
    Meets before (markCancelled env taskId) (fun _ => property) property := by
  apply Meets.rescue
  · apply Meets.bind
    · apply Meets.bind (hbefore.dateNow.consequence (fun _ => id) (fun _ _ => id) hproperty)
      intro endedAt
      apply Meets.bind (hbefore.dateNow.consequence (fun _ => id) (fun _ _ => id) hproperty)
      intro lastEventAt
      apply Meets.bind (hupdate endedAt lastEventAt)
      intro updated
      cases updated with
      | none => exact Keeps.pure _
      | some updated =>
        exact attempt (hsteady.maybeDeliverTaskTerminalUpdate _)
    · exact fun _ => Keeps.pure _
  · exact fun _ => Keeps.pure _

namespace Cancellable

variable (hcancellable : Cancellable env property)

include hcancellable

theorem waitForChildSession (task : TaskRecord) : Keeps property (waitForChildSession task) := by
  unfold TaskRegistry.waitForChildSession
  split_ifs
  · exact Keeps.pure _
  · apply Keeps.bind (Keeps.read _)
    intro index
    apply Keeps.bind
    · exact hcancellable.insensitive.change fun _ =>
        .of_eq rfl rfl rfl rfl rfl rfl rfl le_rfl
    · exact fun _ => Keeps.pure _

theorem cancelTaskById (taskId : JsString) : Keeps property (cancelTaskById env taskId) := by
  apply Meets.bind Meets.read
  intro found
  cases found with
  | none => exact fun world hworld => hworld.1
  | some task =>
    have hbefore : Insensitive fun world =>
        property world ∧ world.tasks.lookup (trim taskId) = some task := by
      rintro world next hsame ⟨hworld, hlookup⟩
      exact ⟨hcancellable.insensitive world next hsame hworld, hsame.tasks ▸ hlookup⟩
    simp only
    split_ifs with hterminal
    · exact fun world hworld => hworld.1
    · have hactive : isTerminalTaskStatus task.status = false := by
        simpa using hterminal
      cases task.runtime with
      | acp | subagent =>
        exact (hcancellable.waitForChildSession task).consequence
          (fun _ => And.left) (fun _ _ => id) fun _ => id
      | cron => exact fun world hworld => hworld.1
      | cli =>
        apply Meets.bind (hcancellable.markCancelled_of hbefore
          (fun _ => And.left) fun endedAt lastEventAt =>
            hcancellable.cancel _ task endedAt lastEventAt hactive)
        exact fun _ => Keeps.pure _

theorem cancelDetachedTaskRunById (taskId : JsString) (registered : Bool) :
    Keeps property (cancelDetachedTaskRunById env taskId registered) := by
  apply Keeps.bind (read _)
  intro task
  split_ifs
  · exact Keeps.pure _
  · exact Keeps.bind (hcancellable.cancelTaskById taskId) fun _ => Keeps.pure _

theorem cancelSettles (hworld : property world) {index : ℕ} {cancel : TaskCancel} {killed : Bool}
    (hupdate : killed = true → Keeps property (updateTask env cancel.taskId
      (cancelledPatch (env.now world.readings) (env.now (world.readings + 1))))) :
    EndsIn property (cancelSettles env index cancel killed) world := by
  have hput : property { world with
      cancels := world.cancels.put index { cancel with waiting := false } } :=
    hcancellable.insensitive world _ (.of_eq rfl rfl rfl rfl rfl rfl rfl le_rfl) hworld
  apply EndsIn.change_bind
  cases killed with
  | false => exact hput
  | true =>
    apply EndsIn.attempt
    -- the two readings of the clock
    have hread : property { world with
        cancels := world.cancels.put index { cancel with waiting := false }
        readings := world.readings + 1 + 1 } :=
      hcancellable.insensitive world _ (.of_eq rfl rfl rfl rfl rfl rfl rfl le_rfl) hworld
    apply EndsIn.bind_of_ok rfl
    apply EndsIn.bind_of_ok rfl
    apply EndsIn.bind (EndsIn.of_keeps (hupdate rfl) hread)
    intro updated
    cases updated with
    | none => exact Keeps.pure _
    | some updated =>
      exact Keeps.attempt (hcancellable.maybeDeliverTaskTerminalUpdate _)

theorem updateTaskStateByRunId (hworld : property world) {params : TaskStateUpdate}
    (hupdate : ∀ current ∈ world.getTasksByRunScope params.runId params.runtime params.sessionKey,
        Keeps property (updateTask env current.taskId (params.patch current))) :
    EndsIn property (updateTaskStateByRunId env params) world := by
  apply EndsIn.read_bind
  apply EndsIn.of_keeps _ hworld
  apply Keeps.forEach
  intro current hmem
  apply Keeps.bind (hcancellable.insensitive.orNow _)
  intro eventAt
  apply Keeps.bind (hupdate current hmem)
  intro updated
  cases updated with
  | none => exact Keeps.pure _
  | some _ => exact hcancellable.announce _ _

theorem handleAgentEvent (hworld : property world) {event : AgentEvent}
    (hupdate : ∀ current ∈ world.getTasksByRunScope event.runId none event.sessionKey,
        isTerminalTaskStatus current.status = false → ∀ now, Keeps property
            (updateTask env current.taskId (event.patch now current))) :
    EndsIn property (handleAgentEvent env event) world := by
  apply EndsIn.read_bind
  apply EndsIn.of_keeps _ hworld
  split
  · exact Keeps.pure _
  · apply Keeps.bind (hcancellable.insensitive.orNow _)
    intro now
    apply Keeps.forEach
    intro current hmem
    split_ifs with hterminal
    · exact Keeps.pure _
    · apply Keeps.bind (hupdate current hmem (by simpa using hterminal) now)
      intro updated
      cases updated with
      | none => exact Keeps.pure _
      | some _ => exact hcancellable.announce _ _

end Cancellable

/-- `createTaskRecord` gets to the part that adds a record. -/
def World.addsTask (world : World) (params : TaskCreateParams) : Bool :=
  let scopeKind := resolveTaskScopeKind params
  let ownerKey := resolveTaskOwnerKey params
  ((nonBlank ownerKey).isSome || scopeKind = .system) &&
    (world.parentFlowLinkError ownerKey scopeKind params.parentFlowId).isNone &&
    (world.findExistingTaskForCreate params ownerKey scopeKind).isNone

def Operation.created : Operation → Option TaskCreateParams
  | .createTaskRecord params => some params
  | .createQueuedTaskRun params => some { params with status := some .queued }
  | .createRunningTaskRun params => some { params with status := some .running }
  | _ => none

/-- The task that a repeated `create` finds is merged with the parameters. -/
def World.Merges (world : World) (params : TaskCreateParams) (taskId : JsString)
    (patch : TaskPatch) : Prop :=
  ∃ existing, world.findExistingTaskForCreate params (resolveTaskOwnerKey params)
      (resolveTaskScopeKind params) = some existing ∧
    taskId = existing.taskId ∧ patch = mergePatch existing params

variable (env) in
/-- The updates that an operation may make, apart from those of a delivery,
of a link, the cancellation of a task that is still active and `updateTask`
itself. -/
def Updates (world : World) (taskId : JsString) (patch : TaskPatch) : Operation → Prop
  | .createTaskRecord params => world.Merges params taskId patch
  | .createQueuedTaskRun params =>
    world.Merges { params with status := some .queued } taskId patch
  | .createRunningTaskRun params =>
    world.Merges { params with status := some .running } taskId patch
  | .updateTaskStateByRunId params =>
    ∃ current ∈ world.getTasksByRunScope params.runId params.runtime params.sessionKey,
      taskId = current.taskId ∧ patch = params.patch current
  | .setTaskRunDeliveryStatusByRunId _ _ _ deliveryStatus =>
    patch = { deliveryStatus := some deliveryStatus }
  | .agentEvent event =>
    ∃ current ∈ world.getTasksByRunScope event.runId none event.sessionKey,
      isTerminalTaskStatus current.status = false ∧
        taskId = current.taskId ∧ ∃ now, patch = event.patch now current
  | .setTaskProgressById _ progressSummary lastEventAt =>
    patch =
      { progressSummary := progressSummary.map normalizeTaskSummary
        lastEventAt := lastEventAt.map some }
  | .setTaskTimingById updated startedAt endedAt lastEventAt =>
    taskId = updated ∧ patch =
        { startedAt := startedAt.map some
          endedAt := endedAt.map some
          lastEventAt := lastEventAt.map some }
  | .setTaskCleanupAfterById _ cleanupAfter =>
    patch = { cleanupAfter := some (some cleanupAfter) }
  | .updateTaskNotifyPolicyById _ notifyPolicy =>
    ∃ now, patch =
      { notifyPolicy := some notifyPolicy
        lastEventAt := some (some now) }
  | .markTaskTerminalById updated params =>
    taskId = updated ∧ patch = params.patch
  | .markTaskLostById updated endedAt lastEventAt error cleanupAfter =>
    taskId = updated ∧ patch = taskLostPatch endedAt lastEventAt error cleanupAfter
  | .cancelSettles index true =>
    ∃ cancel, world.cancels.get? index = some cancel ∧ taskId = cancel.taskId ∧
        patch = cancelledPatch (env.now world.readings) (env.now (world.readings + 1))
  | _ => False

def Operation.updatesTasks : Operation → Bool
  | .updateTask _ _ => true
  | .updateTaskStateByRunId _ => true
  | .setTaskRunDeliveryStatusByRunId _ _ _ _ => true
  | .agentEvent _ => true
  | .setTaskProgressById _ _ _ => true
  | .setTaskTimingById _ _ _ _ => true
  | .setTaskCleanupAfterById _ _ => true
  | .updateTaskNotifyPolicyById _ _ => true
  | .markTaskTerminalById _ _ => true
  | .markTaskLostById _ _ _ _ _ => true
  | .maybeDeliverTaskTerminalUpdate _ => true
  | .deliveryRuntimeLoads _ _ => true
  | .sendMessageSettles _ _ => true
  | .stateChangeDeliveryAdvances _ _ => true
  | .cancelTaskById _ => true
  | .cancelSettles _ _ => true
  | _ => false

theorem Cancellable.update_step_keeps (hcancellable : Cancellable env property)
    {operation : Operation}
    (hkind : operation.updatesTasks = true) (hworld : property world)
    (hupdates : ∀ taskId patch, Updates env world taskId patch operation →
      Keeps property (updateTask env taskId patch))
    (hupdate : ∀ taskId patch, operation = .updateTask taskId patch →
      EndsIn property (updateTask env taskId patch) world)
    (hstep : step env world operation = some next) : property next := by
  have hkeeps : ∀ {Value : Type} {call : RegistryCall Value},
      Keeps property call → some (call.leaves world) = some next →
        property next := by
    intro Value call hcall hnext
    exact Option.some.inj hnext ▸ hcall.leaves hworld
  have hends : ∀ {Value : Type} {call : RegistryCall Value},
      EndsIn property call world → some (call.leaves world) = some next →
        property next := by
    intro Value call hcall hnext
    exact Option.some.inj hnext ▸ hcall
  cases operation with
  | updateTask taskId patch =>
    exact hends (hupdate taskId patch rfl) hstep
  | updateTaskStateByRunId params =>
    exact hends (hcancellable.updateTaskStateByRunId hworld
      fun current hmem => hupdates _ _ ⟨current, hmem, rfl, rfl⟩) hstep
  | setTaskRunDeliveryStatusByRunId runId runtime sessionKey deliveryStatus =>
    refine hkeeps (Keeps.bind (read _) fun found =>
      forEach fun current _ => ?_) hstep
    exact Keeps.bind (hupdates _ _ rfl) fun _ => Keeps.pure _
  | agentEvent event =>
    exact hends (hcancellable.handleAgentEvent hworld fun current hmem hactive now =>
        hupdates _ _ ⟨current, hmem, hactive, rfl, now, rfl⟩) hstep
  | setTaskProgressById taskId progressSummary lastEventAt
  | setTaskCleanupAfterById taskId cleanupAfter =>
    exact hkeeps (Keeps.bind (hupdates _ _ rfl) fun _ => Keeps.pure _) hstep
  | setTaskTimingById taskId startedAt endedAt lastEventAt | markTaskTerminalById taskId params
  | markTaskLostById taskId endedAt lastEventAt error cleanupAfter =>
    exact hkeeps (Keeps.bind (hupdates _ _ ⟨rfl, rfl⟩) fun _ => Keeps.pure _) hstep
  | updateTaskNotifyPolicyById taskId notifyPolicy =>
    refine hkeeps (Keeps.bind hcancellable.insensitive.dateNow fun now => ?_) hstep
    exact Keeps.bind (hupdates _ _ ⟨now, rfl⟩) fun _ => Keeps.pure _
  | maybeDeliverTaskTerminalUpdate taskId =>
    exact hkeeps (hcancellable.maybeDeliverTaskTerminalUpdate taskId) hstep
  | deliveryRuntimeLoads index loaded =>
    obtain ⟨delivery, -, hstep⟩ := Option.bind_eq_some_iff.mp hstep
    rw [Option.ite_none_right_eq_some] at hstep
    exact hkeeps (hcancellable.deliveryRuntimeLoads _ _ _) hstep.2
  | sendMessageSettles index sent =>
    obtain ⟨delivery, -, hstep⟩ := Option.bind_eq_some_iff.mp hstep
    rw [Option.ite_none_right_eq_some] at hstep
    exact hkeeps (hcancellable.sendMessageSettles _ _ _) hstep.2
  | stateChangeDeliveryAdvances index succeeds =>
    obtain ⟨delivery, -, hstep⟩ := Option.bind_eq_some_iff.mp hstep
    rw [Option.ite_none_right_eq_some] at hstep
    exact hkeeps (hcancellable.stateChangeDeliveryAdvances _ _ _) hstep.2
  | cancelTaskById taskId =>
    exact hkeeps (hcancellable.cancelTaskById taskId) hstep
  | cancelSettles index killed =>
    obtain ⟨cancel, hcancel, hstep⟩ := Option.bind_eq_some_iff.mp hstep
    rw [Option.ite_none_right_eq_some] at hstep
    refine hends (hcancellable.cancelSettles hworld ?_) hstep.2
    rintro rfl
    exact hupdates _ _ ⟨cancel, hcancel, rfl, rfl⟩
  | _ => contradiction

end LittleBaby.TaskRegistry
