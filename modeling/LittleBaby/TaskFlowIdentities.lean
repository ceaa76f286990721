import LittleBaby.TaskFlowFrames
import LittleBaby.TaskIdentities

/-!
# The identifiers of flows

A flow is stored under its own identifier, which is never given again, and a
managed flow keeps its controller.
-/

namespace LittleBaby.TaskRegistry

open JsString Call Entries

variable {env : TaskEnv} {world : World} {taskId flowId : JsString}
  {current next : TaskRecord} {flow : TaskFlowRecord}

structure Orderly (env : TaskEnv) (world : World) : Prop
    extends Tracked env world where
  flowsNamed : ∀ flowId flow, world.flows.lookup flowId = some flow → flow.flowId = flowId
  flowsFresh : ∀ index, world.uuids ≤ index → env.randomUUID index ∉ keys world.flows
  controlled : ∀ flowId flow, world.flows.lookup flowId = some flow →
    Controls flow.syncMode flow.controllerId
  sound : InvertedIndex.Sound parentFlowIdKeys world.tasks world.taskIdsByParentFlowId

theorem orderly_insensitive : Insensitive (Orderly env) := by
  intro world next hsame horderly
  refine ⟨tracked_insensitive world next hsame horderly.toTracked, ?_, ?_, ?_, ?_⟩
  · rw [hsame.flows]
    exact horderly.flowsNamed
  · intro index hle
    rw [hsame.flows]
    exact horderly.flowsFresh index (Nat.le_trans hsame.uuids hle)
  · rw [hsame.flows]
    exact horderly.controlled
  · rw [hsame.tasks, hsame.parentFlowIds]
    exact horderly.sound

theorem orderly_restore (snapshot : Snapshot env) : Orderly env (World.restore snapshot) where
  toTracked := tracked_restore snapshot
  flowsNamed := snapshot.flows_named
  flowsFresh := fun index _ => snapshot.flows_fresh index
  controlled := snapshot.flows_controlled
  sound := (InvertedIndex.exact_rebuild parentFlowIdKeys snapshot.tasks_nodup).sound

theorem lookup_writeFlow (world : World) (next : TaskFlowRecord) (searched : JsString) :
    (world.writeFlow next).flows.lookup searched = if searched = next.flowId then some next
      else world.flows.lookup searched := by
  unfold World.writeFlow
  split_ifs with hsame
  · rw [hsame, lookup_set_self]
  · rw [lookup_set_of_ne hsame]

theorem lookup_withNewFlow (world : World) (params : CreateFlowRecordParams)
    (controllerId : Option JsString) (ownerKey : JsString) (now : ℤ)
    (searched : JsString) :
    (world.withNewFlow env params controllerId ownerKey now).flows.lookup searched =
      if searched = env.randomUUID world.uuids then
        some (buildFlowRecord params controllerId (env.randomUUID world.uuids) ownerKey now)
      else world.flows.lookup searched :=
  lookup_writeFlow world (buildFlowRecord params controllerId
    (env.randomUUID world.uuids) ownerKey now) searched

theorem lookup_eraseFlow (world : World) (erased searched : JsString) :
    (erase erased world.flows).lookup searched =
      if searched = erased then none else world.flows.lookup searched := by
  split_ifs with hsame
  · rw [hsame, lookup_erase_self]
  · rw [lookup_erase_of_ne hsame]

namespace Orderly

section

variable (horderly : Orderly env world)
include horderly

theorem writeFlow (hlookup : world.flows.lookup flowId = some flow) {next : TaskFlowRecord}
    (hnamed : next.flowId = flow.flowId)
    (hcontrols : Controls next.syncMode next.controllerId) :
    Orderly env (world.writeFlow next) := by
  have hid : next.flowId = flowId := hnamed.trans (horderly.flowsNamed flowId flow hlookup)
  have htracked : Tracked env (world.writeFlow next) :=
    ⟨horderly.nodup, horderly.named, horderly.fresh⟩
  refine ⟨htracked, ?_, ?_, ?_, horderly.sound⟩
  · intro searched found hfound
    rw [lookup_writeFlow] at hfound
    split_ifs at hfound with hsame
    · rw [← Option.some.inj hfound, hsame]
    · exact horderly.flowsNamed searched found hfound
  · intro index hle
    have hkeys : keys (world.writeFlow next).flows = keys world.flows :=
      keys_set_of_lookup (hid ▸ hlookup)
    rw [hkeys]
    exact horderly.flowsFresh index hle
  · intro searched found hfound
    rw [lookup_writeFlow] at hfound
    split_ifs at hfound
    · rw [← Option.some.inj hfound]
      exact hcontrols
    · exact horderly.controlled searched found hfound

theorem withNewFlow {params : CreateFlowRecordParams} {controllerId : Option JsString}
    (hcontrols : Controls (params.syncMode.getD .managed) controllerId)
    (ownerKey : JsString) (now : ℤ) :
    Orderly env (world.withNewFlow env params controllerId ownerKey now) := by
  have htracked : Tracked env (world.withNewFlow env params controllerId ownerKey now) :=
    ⟨horderly.nodup, horderly.named, fun index hle => horderly.fresh index (Nat.le_of_lt hle)⟩
  refine ⟨htracked, ?_, ?_, ?_, horderly.sound⟩
  · intro searched found hfound
    rw [lookup_withNewFlow] at hfound
    split_ifs at hfound with hsame
    · rw [← Option.some.inj hfound, hsame]
      rfl
    · exact horderly.flowsNamed searched found hfound
  · intro index hle hmem
    have hlt : world.uuids < index := hle
    rcases mem_keys_set.mp hmem with hsame | hold
    · have heq := env.randomUUID_injective hsame
      omega
    · exact horderly.flowsFresh index (Nat.le_of_lt hlt) hold
  · intro searched found hfound
    rw [lookup_withNewFlow] at hfound
    split_ifs at hfound
    · rw [← Option.some.inj hfound]
      exact hcontrols
    · exact horderly.controlled searched found hfound

theorem eraseFlow (erased : JsString) :
    Orderly env { world with flows := erase erased world.flows } := by
  have htracked : Tracked env { world with flows := erase erased world.flows } :=
    ⟨horderly.nodup, horderly.named, horderly.fresh⟩
  refine ⟨htracked, ?_, ?_, ?_, horderly.sound⟩
  · intro searched found hfound
    rw [lookup_eraseFlow] at hfound
    split_ifs at hfound
    exact horderly.flowsNamed searched found hfound
  · intro index hle hmem
    exact horderly.flowsFresh index hle (mem_keys_of_mem_erase hmem)
  · intro searched found hfound
    rw [lookup_eraseFlow] at hfound
    split_ifs at hfound
    exact horderly.controlled searched found hfound

theorem lookup_patchFlow (hlookup : world.flows.lookup flowId = some flow) (patch : FlowRecordPatch)
    (controllerId : Option JsString) (updatedAt : ℤ) (searched : JsString) :
    (world.writeFlow (flow.apply patch controllerId updatedAt)).flows.lookup searched =
      if searched = flowId then some (flow.apply patch controllerId updatedAt)
      else world.flows.lookup searched := by
  rw [lookup_writeFlow, show (flow.apply patch controllerId updatedAt).flowId =
    flowId from horderly.flowsNamed flowId flow hlookup]

end

section

variable (horderly : Orderly env world)
include horderly

theorem replaceTask (hlookup : world.tasks.lookup taskId = some current)
    (hnamed : next.taskId = current.taskId) (patch : TaskPatch) :
    Orderly env (world.replaceTask taskId patch current next) := by
  refine ⟨horderly.toTracked.replaceTask hlookup hnamed patch,
    horderly.flowsNamed, horderly.flowsFresh, horderly.controlled, ?_⟩
  simp only [World.replaceTask]
  split_ifs with hchange
  · exact horderly.sound.update hlookup next
  · simp only [parentFlowIndexChanged, decide_eq_true_eq, not_not] at hchange
    apply horderly.sound.keep hlookup
    intro key hkey
    rwa [parentFlowIdKeys, ← indexKeys_of_trim hchange]

theorem withoutTask (hlookup : world.tasks.lookup taskId = some current) :
    Orderly env (world.withoutTask taskId current) :=
  ⟨horderly.toTracked.withoutTask, horderly.flowsNamed, horderly.flowsFresh,
    horderly.controlled, horderly.sound.delete hlookup⟩

theorem withNewTask (params : TaskCreateParams) : Orderly env (world.withNewTask env params) :=
  ⟨horderly.toTracked.withNewTask params, horderly.flowsNamed,
    fun index hle => horderly.flowsFresh index (Nat.le_of_lt hle),
    horderly.controlled, horderly.sound.extend horderly.lookup_fresh _⟩

theorem addIndexes (hlookup : world.tasks.lookup taskId = some current) :
    Orderly env (world.addIndexes taskId current) :=
  ⟨horderly.toTracked.addIndexes taskId current, horderly.flowsNamed,
    horderly.flowsFresh, horderly.controlled, horderly.sound.addAll hlookup⟩

end

end Orderly

theorem orderly_frame : FlowFrame env (Orderly env) where
  insensitive := orderly_insensitive
  patch := fun _ _ _ _ _ _ horderly hlookup _ hcontrols =>
    horderly.writeFlow hlookup rfl hcontrols
  create := fun _ _ _ ownerKey now horderly hcontrols =>
    horderly.withNewFlow hcontrols ownerKey now
  erase := fun _ flowId horderly => horderly.eraseFlow flowId

theorem orderly_updateTask (taskId : JsString) (patch : TaskPatch) :
    Keeps (Orderly env) (updateTask env taskId patch) := by
  apply orderly_frame.followed.updateTask
  intro world current cleanupAfter horderly hlookup
  apply horderly.replaceTask hlookup
  rfl

theorem orderly_whole : Whole env (Orderly env) := by
  have hcancellable : Cancellable env (Orderly env) :=
    Cancellable.of_patches orderly_insensitive
      (fun taskId patch (_ : True) => orderly_updateTask taskId patch)
      (fun _ _ => trivial) (fun _ => trivial) fun _ _ => trivial
  apply orderly_frame.whole hcancellable
  intro taskId task flowId
  exact (orderly_updateTask _ _).consequence (fun _ => And.left) (fun _ _ => id) fun _ => id

theorem orderly_step {next : World} {operation : Operation} (horderly : Orderly env world)
    (hstep : step env world operation = some next) : Orderly env next := by
  apply orderly_whole.step_keeps horderly _ _ _ _ _ hstep
  · exact fun taskId patch _ => orderly_updateTask taskId patch
  · exact fun taskId patch _ =>
      EndsIn.of_keeps (orderly_updateTask taskId patch) horderly
  · intro params _ _
    have hadded := horderly.withNewTask params
    apply orderly_whole.addTaskRecord
    · exact hadded.addIndexes lookup_set_self
    · exact fun _ _ => hadded
  · intro taskId _
    apply EndsIn.of_keeps _ horderly
    exact orderly_frame.followed.deleteTaskRecordById
      fun _ _ hworld hlookup => hworld.withoutTask hlookup
  · intro flowId revision _ patch _
    apply meets_writesFlow (orderly_insensitive.andSame world) orderly_insensitive fun _ => And.left
    rintro state flow controllerId updatedAt ⟨hstate, -⟩ hlookup - hcontrols
    exact hstate.writeFlow hlookup rfl hcontrols

theorem orderly_run {snapshot : Snapshot env} {operations : List Operation} {final : World}
    (hrun : LabelledMachine.run (step env) (World.restore snapshot) operations =
      some final) : Orderly env final :=
  LabelledMachine.run_invariant (Orderly env) orderly_step (orderly_restore snapshot) hrun

end LittleBaby.TaskRegistry
