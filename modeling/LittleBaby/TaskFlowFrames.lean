import LittleBaby.TaskSteps

/-!
# What the writes of flows keep

A property of the flows is kept by everything the registries do on their own if
it survives new and removed flows and three kinds of patches: taking over from the
task, cancelling, and requesting a cancellation.
-/

namespace LittleBaby.TaskRegistry

open JsString Call

variable {env : TaskEnv} {property before : World → Prop}

def Controls (syncMode : TaskFlowSyncMode) (controllerId : Option JsString) : Prop :=
  syncMode = .managed → (normalizeOptionalString controllerId).isSome = true

def World.writeFlow (world : World) (next : TaskFlowRecord) : World :=
  { world with flows := Entries.set next.flowId next world.flows }

variable (env) in
def World.withNewFlow (world : World) (params : CreateFlowRecordParams)
    (controllerId : Option JsString) (ownerKey : JsString) (now : ℤ) : World :=
  { world with
    uuids := world.uuids + 1
    flows := Entries.set (env.randomUUID world.uuids)
      (buildFlowRecord params controllerId (env.randomUUID world.uuids) ownerKey now) world.flows }

theorem Insensitive.andFlow (hbefore : Insensitive before) (flowId : JsString)
    (current : TaskFlowRecord) :
    Insensitive fun world =>
      before world ∧ world.getTaskFlowById flowId = some current := by
  rintro world next hsame ⟨hworld, hlookup⟩
  refine ⟨hbefore world next hsame hworld, ?_⟩
  rw [World.getTaskFlowById, hsame.flows]
  exact hlookup

theorem meets_resolveControllerId (syncMode : TaskFlowSyncMode) (controllerId : Option JsString) :
    Meets before (resolveControllerId syncMode controllerId)
      (fun resolved world => before world ∧ Controls syncMode resolved ∧
        Controls syncMode controllerId)
      (fun world => before world ∧ ¬ Controls syncMode controllerId) := by
  cases syncMode with
  | taskMirrored =>
    apply Meets.pure
    exact fun world hworld => ⟨hworld, nofun, nofun⟩
  | managed =>
    have hassert : Meets before (assertControllerId controllerId)
        (fun normalized world => before world ∧ nonBlank normalized = some normalized ∧
            (normalizeOptionalString controllerId).isSome = true)
        (fun world => before world ∧ ¬ Controls .managed controllerId) := by
      unfold assertControllerId
      split
      · next hcontroller =>
          intro world hworld
          refine ⟨hworld, fun hcontrols => ?_⟩
          have hsome := hcontrols rfl
          rw [hcontroller] at hsome
          contradiction
      · next normalized hcontroller =>
          obtain ⟨text, -, htext⟩ := Option.bind_eq_some_iff.mp hcontroller
          apply Meets.pure
          intro world hworld
          exact ⟨hworld, nonBlank_of_nonBlank htext, by simp [hcontroller]⟩
    apply Meets.bind hassert
    intro normalized
    apply Meets.pure
    rintro world ⟨hworld, hnormalized, hsome⟩
    exact ⟨hworld, fun _ => by simp [normalizeOptionalString, hnormalized], fun _ => hsome⟩

def TaskFlowRecord.nextController (current : TaskFlowRecord)
    (patch : FlowRecordPatch) : Option JsString :=
  (patch.controllerId.map normalizeOptionalString).getD current.controllerId

theorem meets_applyFlowPatch (hbefore : Insensitive before)
    (current : TaskFlowRecord) (patch : FlowRecordPatch)
    (hthrown : ∀ world, before world →
      ¬ Controls current.syncMode (current.nextController patch) → property world)
    (hwrite : ∀ world controllerId updatedAt, before world →
      Controls current.syncMode controllerId →
        property (world.writeFlow (current.apply patch controllerId updatedAt))) :
    Meets before (applyFlowPatch env current patch)
      (fun next world => property (world.writeFlow next)) property := by
  apply Meets.bind ((meets_resolveControllerId _ _).consequence (fun _ => id)
    (fun _ _ => id) fun world hworld => hthrown world hworld.1 hworld.2)
  intro resolved
  by_cases hcontrols : Controls current.syncMode (current.nextController patch)
  · apply Meets.bind ((hbefore.meets_orNow patch.updatedAt).consequence
      (fun _ => And.left) (fun _ _ => id) fun _ => id)
    intro updatedAt
    apply Meets.pure
    exact fun world hworld => hwrite world _ updatedAt hworld hcontrols
  · exact fun world hworld => absurd hworld.2.2 hcontrols

theorem meets_writeFlowRecord_of {after thrown : World → Prop}
    (hpersist : Meets after (persist env) (fun _ => after) thrown)
    (next : TaskFlowRecord) :
    Meets (fun world => after (world.writeFlow next)) (writeFlowRecord env next)
      (fun written world => written = next ∧ after world) thrown := by
  have hchange : Meets (fun world => after (world.writeFlow next))
      (Call.change (fun world => world.writeFlow next) : RegistryCall Unit)
      (fun _ => after) thrown := Meets.change fun _ => id
  apply Meets.bind hchange
  intro _
  apply Meets.bind hpersist
  exact fun _ => Meets.pure fun _ hworld => ⟨rfl, hworld⟩

theorem meets_writeFlowRecord (hproperty : Insensitive property) (next : TaskFlowRecord) :
    Meets (fun world => property (world.writeFlow next))
      (writeFlowRecord env next) (fun _ => property) property :=
  (meets_writeFlowRecord_of hproperty.persist next).consequence (fun _ => id)
    (fun _ _ => And.right) fun _ => id

variable {flowId : JsString} {patch : FlowRecordPatch}

section

variable (hbefore : Insensitive before) (hproperty : Insensitive property)
include hbefore hproperty

theorem meets_updateFlowRecordByIdUnchecked
    (hmissing : ∀ world, before world → world.flows.lookup flowId = none → property world)
    (hthrown : ∀ world current, before world → world.flows.lookup flowId = some current →
      ¬ Controls current.syncMode (current.nextController patch) → property world)
    (hwrite : ∀ world current controllerId updatedAt, before world →
      world.flows.lookup flowId = some current →
      Controls current.syncMode controllerId →
        property (world.writeFlow (current.apply patch controllerId updatedAt))) :
    Meets before (updateFlowRecordByIdUnchecked env flowId patch) (fun _ => property) property := by
  apply Meets.bind Meets.read
  intro found
  cases found with
  | none => exact fun world hworld => hmissing world hworld.1 hworld.2
  | some current =>
    apply Meets.bind (meets_applyFlowPatch (hbefore.andFlow flowId current)
      current patch (fun world hworld => hthrown world current hworld.1 hworld.2)
      fun world controllerId updatedAt hworld =>
        hwrite world current controllerId updatedAt hworld.1 hworld.2)
    intro next
    apply Meets.bind (meets_writeFlowRecord hproperty next)
    exact fun _ => Keeps.pure _

theorem meets_updateFlowRecordByIdExpectedRevision {expectedRevision : ℕ}
    (hthrown : ∀ world current, before world → world.flows.lookup flowId = some current →
      ¬ Controls current.syncMode (current.nextController patch) → property world)
    (hwrite : ∀ world current controllerId updatedAt, before world →
      world.flows.lookup flowId = some current →
      current.revision = expectedRevision →
      Controls current.syncMode controllerId →
        property (world.writeFlow (current.apply patch controllerId updatedAt))) :
    Meets before (updateFlowRecordByIdExpectedRevision env flowId expectedRevision patch)
      (fun result world =>
        match result with
        | .applied _ => property world
        | .notFound => before world ∧ world.flows.lookup flowId = none
        | .revisionConflict current =>
          (before world ∧ world.flows.lookup flowId = some current) ∧
            current.revision ≠ expectedRevision) property := by
  apply Meets.bind Meets.read
  intro found
  cases found with
  | none => exact fun world hworld => hworld
  | some current =>
    simp only
    split_ifs with hconflict
    · exact fun world hworld => ⟨hworld, hconflict⟩
    · rw [not_not] at hconflict
      apply Meets.bind (meets_applyFlowPatch (hbefore.andFlow flowId current) current patch
        (fun world hworld => hthrown world current hworld.1 hworld.2)
        fun world controllerId updatedAt hworld =>
          hwrite world current controllerId updatedAt hworld.1 hworld.2 hconflict)
      intro next
      apply Meets.bind (meets_writeFlowRecord hproperty next)
      intro written
      exact Meets.pure fun _ => id

theorem meets_writesFlow (hthrown : ∀ world, before world → property world) {expectedRevision : ℕ}
    (hwrite : ∀ world current controllerId updatedAt, before world →
      world.flows.lookup flowId = some current →
      current.revision = expectedRevision →
      Controls current.syncMode controllerId →
        property (world.writeFlow (current.apply patch controllerId updatedAt))) :
    Meets before (updateFlowRecordByIdExpectedRevision env flowId expectedRevision patch)
      (fun _ => property) property := by
  apply (meets_updateFlowRecordByIdExpectedRevision hbefore hproperty
    (fun world _ hworld _ _ => hthrown world hworld) hwrite).consequence
    (fun _ => id) _ fun _ => id
  intro result world hresult
  cases result with
  | applied => exact hresult
  | notFound => exact hthrown world hresult.1
  | revisionConflict => exact hthrown world hresult.1.1

end

theorem meets_createFlowRecord (hbefore : Insensitive before)
    {after : TaskFlowRecord → World → Prop} {thrown : World → Prop}
    (hthrown : ∀ world, before world → thrown world)
    (hpersist : ∀ flow, Meets (after flow) (persist env) (fun _ => after flow) thrown)
    {params : CreateFlowRecordParams}
    (hcreate : ∀ world controllerId ownerKey now, before world →
      Controls (params.syncMode.getD .managed) controllerId →
      nonBlank params.ownerKey = some ownerKey →
        after (buildFlowRecord params controllerId (env.randomUUID world.uuids) ownerKey now)
          (world.withNewFlow env params controllerId ownerKey now)) :
    Meets before (createFlowRecord env params) after thrown := by
  apply Meets.bind ((hbefore.meets_orNow _).consequence (fun _ => id) (fun _ _ => id) hthrown)
  intro now
  apply Meets.bind ((meets_resolveControllerId _ _).consequence (fun _ => id)
    (fun _ _ => id) fun world hworld => hthrown world hworld.1)
  intro controllerId
  have hnew : Meets (fun world => before world ∧
        Controls (params.syncMode.getD .managed) controllerId ∧
          Controls (params.syncMode.getD .managed) params.controllerId)
      (newUUID env)
      (fun flowId world => before world ∧ ∀ ownerKey, nonBlank params.ownerKey = some ownerKey →
          after (buildFlowRecord params controllerId flowId ownerKey now) (world.writeFlow
              (buildFlowRecord params controllerId flowId ownerKey now)))
      thrown := by
    rintro world ⟨hworld, hcontrols, -⟩
    refine ⟨?_, fun ownerKey howner =>
      hcreate world controllerId ownerKey now hworld hcontrols howner⟩
    exact hbefore world _ ⟨rfl, rfl, rfl, rfl, rfl, rfl, Nat.le_succ world.uuids, le_rfl⟩ hworld
  apply Meets.bind hnew
  intro flowId
  have howner : Meets (fun world => before world ∧ ∀ ownerKey,
        nonBlank params.ownerKey = some ownerKey →
          after (buildFlowRecord params controllerId flowId ownerKey now) (world.writeFlow
              (buildFlowRecord params controllerId flowId ownerKey now)))
      (assertFlowOwnerKey params.ownerKey)
      (fun ownerKey world =>
        after (buildFlowRecord params controllerId flowId ownerKey now) (world.writeFlow
            (buildFlowRecord params controllerId flowId ownerKey now)))
      thrown := by
    unfold assertFlowOwnerKey
    split
    · exact fun world hworld => hthrown world hworld.1
    · next ownerKey hkey =>
        exact Meets.pure fun world hworld => hworld.2 ownerKey hkey
  apply Meets.bind howner
  intro ownerKey
  apply (meets_writeFlowRecord_of (hpersist _) _).consequence (fun _ => id) _ fun _ => id
  rintro written world ⟨rfl, hworld⟩
  exact hworld

variable {flow : TaskFlowRecord}

theorem isTerminalFlowStatus_of_awaits (hawaits : awaitsCancellation flow = true) :
    isTerminalFlowStatus flow.status = false := by
  simp only [awaitsCancellation, Bool.and_eq_true] at hawaits
  simpa using hawaits.2

theorem meets_cancelFlow (hproperty : Insensitive property) {endedAt : ℤ}
    (hwrite : ∀ world controllerId updatedAt, property world →
      world.flows.lookup flowId = some flow →
      Controls flow.syncMode controllerId → property (world.writeFlow
        (flow.apply (cancelledFlowPatch endedAt) controllerId updatedAt))) :
    Meets (fun world => property world ∧ world.getTaskFlowById flowId = some flow)
      (updateFlowRecordByIdExpectedRevision env flowId flow.revision (cancelledFlowPatch endedAt))
      (fun result world =>
        match result with
        | .applied _ => property world
        | .notFound => property world
        | .revisionConflict current =>
          property world ∧ world.getTaskFlowById flowId = some current)
      property := by
  apply (meets_updateFlowRecordByIdExpectedRevision (hproperty.andFlow flowId flow) hproperty
    (fun _ _ hworld _ _ => hworld.1) _).consequence (fun _ => id) _ fun _ => id
  · rintro world current controllerId written ⟨hworld, hflow⟩ hlookup -
    cases hflow.symm.trans hlookup
    exact hwrite world controllerId written hworld hlookup
  · intro result world hresult
    cases result with
    | applied => exact hresult
    | notFound => exact hresult.1.1
    | revisionConflict current => exact ⟨hresult.1.1.1, hresult.1.2⟩

def Settles (property : World → Prop) : Prop :=
  ∀ world flowId flow controllerId updatedAt endedAt, property world →
    world.flows.lookup flowId = some flow → awaitsCancellation flow = true →
    Controls flow.syncMode controllerId → property (world.writeFlow
      (flow.apply (cancelledFlowPatch endedAt) controllerId updatedAt))

theorem Settles.settleManagedFlow (hsettles : Settles property)
    (hproperty : Insensitive property) (flowId : JsString) (endedAt : ℤ)
    (attempts : ℕ)
    (hawaits : awaitsCancellation flow = true) :
    Meets (fun world => property world ∧ world.getTaskFlowById flowId = some flow)
      (settleManagedFlow env flowId endedAt attempts flow)
      (fun _ => property) property := by
  induction attempts generalizing flow with
  | zero => exact fun world hworld => hworld.1
  | succ attempts ih =>
    apply Meets.bind (meets_cancelFlow hproperty fun world controllerId updatedAt hworld hlookup =>
        hsettles world flowId flow controllerId updatedAt endedAt hworld hlookup hawaits)
    intro result
    cases result with
    | applied | notFound => exact fun world hworld => hworld
    | revisionConflict current =>
      simp only
      split_ifs with hstill
      · exact fun world hworld => hworld.1
      · apply Meets.bind Meets.read
        intro active
        split_ifs
        · exact fun world hworld => hworld.1.1
        · exact (ih (by simpa using hstill)).consequence (fun _ => And.left)
            (fun _ _ => id) fun _ => id

theorem Settles.syncManagedFlowCancellationFromTask (hsettles : Settles property)
    (hproperty : Insensitive property) (task : TaskRecord) :
    Keeps property (syncManagedFlowCancellationFromTask env task) := by
  unfold TaskRegistry.syncManagedFlowCancellationFromTask
  split
  · exact Keeps.pure _
  · next flowId _ =>
      apply Meets.bind Meets.read
      intro found
      cases found with
      | none => exact fun world hworld => hworld.1
      | some flow =>
        simp only
        split_ifs with hawaits
        · exact fun world hworld => hworld.1
        · have hbefore := hproperty.andFlow flowId flow
          apply Meets.bind Meets.read
          intro active
          split_ifs
          · exact fun world hworld => hworld.1.1
          · apply Meets.bind ((hbefore.orNow _).consequence (fun _ => And.left)
              (fun _ _ => id) fun _ => And.left)
            exact fun endedAt => hsettles.settleManagedFlow hproperty flowId
              endedAt 2 (by simpa using hawaits)

inductive OwnPatch (current : TaskFlowRecord) : FlowRecordPatch → Prop
  | mirror (task : TaskRecord) (updatedAt : ℤ) (endedAt : Option ℤ) :
      current.syncMode = .taskMirrored → OwnPatch current (mirrorPatch task updatedAt endedAt)
  | cancelled (endedAt : ℤ) : isTerminalFlowStatus current.status = false →
        OwnPatch current (cancelledFlowPatch endedAt)
  | request (requestedAt : ℤ) (updatedAt : Option ℤ) : OwnPatch current
        { cancelRequestedAt := some (some requestedAt)
          updatedAt := updatedAt }

structure FlowFrame (env : TaskEnv) (property : World → Prop) : Prop where
  insensitive : Insensitive property
  patch : ∀ world flowId current patch controllerId updatedAt, property world →
    world.flows.lookup flowId = some current → OwnPatch current patch →
    Controls current.syncMode controllerId →
      property (world.writeFlow (current.apply patch controllerId updatedAt))
  create : ∀ world params controllerId ownerKey now, property world →
    Controls (params.syncMode.getD .managed) controllerId →
      property (world.withNewFlow env params controllerId ownerKey now)
  erase : ∀ world flowId, property world →
    property { world with flows := Entries.erase flowId world.flows }

theorem FlowFrame.and (hframe : FlowFrame env property) {extra : World → Prop}
    (hinsensitive : Insensitive extra)
    (hpatch : ∀ world flowId current patch controllerId updatedAt,
      property world → extra world → world.flows.lookup flowId = some current →
      OwnPatch current patch → extra (world.writeFlow (current.apply patch controllerId updatedAt)))
    (hcreate : ∀ world params controllerId ownerKey now, property world → extra world →
        extra (world.withNewFlow env params controllerId ownerKey now))
    (herase : ∀ world flowId, property world → extra world →
      extra { world with flows := Entries.erase flowId world.flows }) :
    FlowFrame env fun world => property world ∧ extra world where
  insensitive := fun world next hsame hworld =>
    ⟨hframe.insensitive world next hsame hworld.1, hinsensitive world next hsame hworld.2⟩
  patch := fun world flowId current patch controllerId updatedAt hworld hlookup hown hcontrols =>
    ⟨hframe.patch world flowId current patch controllerId updatedAt hworld.1 hlookup hown hcontrols,
      hpatch world flowId current patch controllerId updatedAt hworld.1 hworld.2 hlookup hown⟩
  create := fun world params controllerId ownerKey now hworld hcontrols =>
    ⟨hframe.create world params controllerId ownerKey now hworld.1 hcontrols,
      hcreate world params controllerId ownerKey now hworld.1 hworld.2⟩
  erase := fun world flowId hworld =>
    ⟨hframe.erase world flowId hworld.1, herase world flowId hworld.1 hworld.2⟩

namespace FlowFrame

variable (hframe : FlowFrame env property)

include hframe

theorem createFlowRecord (params : CreateFlowRecordParams) :
    Keeps property (createFlowRecord env params) :=
  meets_createFlowRecord hframe.insensitive (fun _ => id) (fun _ => hframe.insensitive.persist)
    fun world controllerId ownerKey now hworld hcontrols _ =>
      hframe.create world params controllerId ownerKey now hworld hcontrols

theorem deleteTaskFlowRecordById (flowId : JsString) :
    Keeps property (deleteTaskFlowRecordById env flowId) := by
  apply Keeps.bind (Keeps.read _)
  intro found
  cases found with
  | none => exact Keeps.pure _
  | some current =>
    apply Keeps.bind
    · exact Keeps.change fun world => hframe.erase world flowId
    · exact fun _ => hframe.insensitive.persist

theorem syncFlowFromTask (task : TaskRecord) : Keeps property (syncFlowFromTask env task) := by
  unfold TaskRegistry.syncFlowFromTask
  split
  · exact Keeps.pure _
  · next flowId _ =>
      apply Meets.bind Meets.read
      intro found
      cases found with
      | none => exact fun world hworld => hworld.1
      | some flow =>
        simp only
        split_ifs with hmode
        · exact fun world hworld => hworld.1
        · rw [not_not] at hmode
          have hbefore := hframe.insensitive.andFlow flowId flow
          apply Meets.bind ((hbefore.orNow _).consequence (fun _ => id)
            (fun _ _ => id) fun _ => And.left)
          intro updatedAt
          apply Meets.bind ((hbefore.flowEndedAt task).consequence (fun _ => id)
            (fun _ _ => id) fun _ => And.left)
          intro endedAt
          apply meets_updateFlowRecordByIdUnchecked hbefore hframe.insensitive
            (fun _ hworld _ => hworld.1) fun _ _ hworld _ _ => hworld.1
          rintro world current controllerId written ⟨hworld, hflow⟩ hlookup
          cases hflow.symm.trans hlookup
          exact hframe.patch world flowId flow _ controllerId written hworld
            hlookup (.mirror task updatedAt endedAt hmode)

theorem settles : Settles property := by
  intro world flowId flow controllerId updatedAt endedAt hworld hlookup hawaits
  exact hframe.patch world flowId flow _ controllerId updatedAt hworld hlookup
    (.cancelled endedAt (isTerminalFlowStatus_of_awaits hawaits))

theorem settleCancelledFlow (flowId : JsString) :
    Keeps property (settleCancelledFlow env flowId) := by
  apply Keeps.bind (Keeps.read _)
  intro active
  split_ifs
  · exact Keeps.pure _
  · apply Keeps.bind hframe.insensitive.dateNow
    intro now
    apply Meets.bind Meets.read
    intro found
    cases found with
    | none => exact fun world hworld => hworld.1
    | some flow =>
      simp only
      split_ifs with hterminal
      · exact fun world hworld => hworld.1
      · apply Meets.bind (meets_cancelFlow hframe.insensitive
          fun world controllerId updatedAt hworld hlookup =>
            hframe.patch world flowId flow _ controllerId updatedAt hworld
              hlookup (.cancelled now (by simpa using hterminal)))
        intro result
        apply Meets.pure
        intro world hworld
        cases result with
        | applied | notFound => exact hworld
        | revisionConflict => exact hworld.1

theorem requestFlowCancel (flowId : JsString) (expectedRevision : ℕ)
    (cancelRequestedAt updatedAt : Option ℤ) :
    Keeps property (requestFlowCancel env flowId expectedRevision cancelRequestedAt updatedAt) := by
  apply Keeps.bind (hframe.insensitive.orNow _)
  intro requestedAt
  apply meets_writesFlow hframe.insensitive hframe.insensitive fun _ => id
  intro world current controllerId written hworld hlookup _
  exact hframe.patch world flowId current _ controllerId written hworld hlookup
    (.request requestedAt updatedAt)

theorem followed : Followed env property :=
  ⟨hframe.insensitive, hframe.syncFlowFromTask,
    hframe.settles.syncManagedFlowCancellationFromTask hframe.insensitive⟩

theorem whole (hcancellable : Cancellable env property) (hlink : ∀ taskId task flowId,
      Meets (fun world => property world ∧ world.CanLink taskId task flowId)
        (updateTask env taskId (linkPatch flowId)) (fun _ => property) property) :
    Whole env property where
  toCancellable := hcancellable
  sync := hframe.syncFlowFromTask
  settle := hframe.followed.settle
  link := hlink
  createFlow := hframe.createFlowRecord
  deleteFlow := hframe.deleteTaskFlowRecordById
  settleCancelled := hframe.settleCancelledFlow
  request := hframe.requestFlowCancel

end FlowFrame

end LittleBaby.TaskRegistry
