import LittleBaby.TaskFlowFinality

/-!
# Flows that mirror a task

A mirrored flow is linked from exactly one task and shows what that task is.
Between the replacement of a record and the write of its flow the flow is
stale, and between its creation and its link a flow is bare.
-/

namespace LittleBaby.TaskRegistry

open JsString Call Entries

variable {env : TaskEnv} {world : World} {taskId flowId : JsString}
  {current next task : TaskRecord} {flow : TaskFlowRecord} {patch : TaskPatch}

structure Mirrors (task : TaskRecord) (flow : TaskFlowRecord) : Prop where
  status : flow.status = deriveTaskFlowStatusFromTask task
  notifyPolicy : flow.notifyPolicy = task.notifyPolicy
  goal : flow.goal = flowGoal task
  endedAt : flow.endedAt.isSome = isEndedFlowStatus (deriveTaskFlowStatusFromTask task)

def World.Links (world : World) (taskId flowId : JsString) : Prop :=
  ∃ task, world.tasks.lookup taskId = some task ∧ LinksTo task flowId

def World.HasMirrored (world : World) (flowId : JsString) : Prop :=
  ∃ flow, world.flows.lookup flowId = some flow ∧ flow.syncMode = .taskMirrored

structure Linking (env : TaskEnv) (bare : Option JsString) (world : World) :
    Prop where
  linked : ∀ flowId, world.HasMirrored flowId → bare ≠ some flowId →
    ∃ taskId, world.Links taskId flowId
  alone : ∀ flowId, world.HasMirrored flowId → ∀ first second,
    world.Links first flowId → world.Links second flowId → first = second
  unlinked : ∀ flowId, bare = some flowId → ∀ taskId, ¬ world.Links taskId flowId
  fresh : ∀ index, world.uuids ≤ index → ∀ taskId, ¬ world.Links taskId (env.randomUUID index)

def Mirroring (stale : Option JsString) (world : World) : Prop :=
  ∀ taskId task flowId flow, world.tasks.lookup taskId = some task →
    LinksTo task flowId → world.flows.lookup flowId = some flow →
    flow.syncMode = .taskMirrored → stale ≠ some flowId → Mirrors task flow

structure Mirrored (env : TaskEnv) (bare stale : Option JsString) (world : World) :
    Prop extends Orderly env world where
  linking : Linking env bare world
  mirroring : Mirroring stale world

variable {bare stale : Option JsString}

theorem Linking.congr (hlinking : Linking env bare world) {next : World}
    (hlinks : ∀ taskId flowId, next.Links taskId flowId ↔ world.Links taskId flowId)
    (hmirrored : ∀ flowId, next.HasMirrored flowId ↔ world.HasMirrored flowId)
    (huuids : world.uuids ≤ next.uuids) : Linking env bare next where
  linked := by
    intro flowId hflow hbare
    obtain ⟨taskId, hlink⟩ := hlinking.linked flowId ((hmirrored _).mp hflow) hbare
    exact ⟨taskId, (hlinks _ _).mpr hlink⟩
  alone := fun flowId hflow first second hfirst hsecond =>
    hlinking.alone flowId ((hmirrored _).mp hflow) first second
      ((hlinks _ _).mp hfirst) ((hlinks _ _).mp hsecond)
  unlinked := fun flowId hbare taskId hlink =>
    hlinking.unlinked flowId hbare taskId ((hlinks _ _).mp hlink)
  fresh := fun index hle taskId hlink =>
    hlinking.fresh index (huuids.trans hle) taskId ((hlinks _ _).mp hlink)

theorem mirrored_insensitive : Insensitive (Mirrored env bare stale) := by
  intro world next hsame hmirrored
  refine ⟨orderly_insensitive world next hsame hmirrored.toOrderly,
    hmirrored.linking.congr (fun _ _ => ?_) (fun _ => ?_) hsame.uuids, ?_⟩
  · rw [World.Links, hsame.tasks, World.Links]
  · rw [World.HasMirrored, hsame.flows, World.HasMirrored]
  · rw [Mirroring, hsame.tasks, hsame.flows]
    exact hmirrored.mirroring

theorem flowGoal_ne_nil (task : TaskRecord) : flowGoal task ≠ [] := by
  unfold flowGoal normalizeOptionalString
  cases hlabel : task.label.bind nonBlank with
  | some label =>
    obtain ⟨text, -, htext⟩ := Option.bind_eq_some_iff.mp hlabel
    exact (nonBlank_eq_some.mp (nonBlank_of_nonBlank htext)).1
  | none =>
    cases htask : nonBlank task.task with
    | none =>
      change js "Background task" ≠ []
      decide
    | some text => exact (nonBlank_eq_some.mp (nonBlank_of_nonBlank htask)).1

variable {updatedAt : ℤ} {controllerId : Option JsString}

theorem mirrors_mirrorPatch {written : ℤ} {endedAt : Option ℤ} (hended : endedAt.isSome =
      isEndedFlowStatus (deriveTaskFlowStatusFromTask task)) :
    Mirrors task (flow.apply (mirrorPatch task updatedAt endedAt) controllerId written) where
  status := rfl
  notifyPolicy := rfl
  goal := by
    have hgoal : orElse (some (flowGoal task)) none = some (flowGoal task) := by
      cases hcase : flowGoal task with
      | nil => exact absurd hcase (flowGoal_ne_nil task)
      | cons unit rest => rfl
    simp [TaskFlowRecord.apply, mirrorPatch, hgoal]
  endedAt := hended

theorem links_iff_of_lookup (hlookup : world.tasks.lookup taskId = some current) :
    world.Links taskId flowId ↔ LinksTo current flowId := by
  constructor
  · rintro ⟨task, htask, hlinks⟩
    cases hlookup.symm.trans htask
    exact hlinks
  · exact fun hlinks => ⟨current, hlookup, hlinks⟩

theorem links_replaceTask (world : World) (taskId : JsString) (patch : TaskPatch)
    (current next : TaskRecord) (searched flowId : JsString) :
    (world.replaceTask taskId patch current next).Links searched flowId ↔
      if searched = taskId then LinksTo next flowId
      else world.Links searched flowId := by
  unfold World.Links
  rw [World.replaceTask_tasks]
  split_ifs with hsame
  · subst hsame
    simp [lookup_set_self]
  · rw [lookup_set_of_ne hsame]

namespace Mirrored

theorem replaceTask (hmirrored : Mirrored env bare none world)
    (hlookup : world.tasks.lookup taskId = some current)
    (hnamed : next.taskId = current.taskId)
    (hparent : next.parentFlowId = current.parentFlowId) (patch : TaskPatch) :
    Mirrored env bare (normalizeOptionalString next.parentFlowId)
      (world.replaceTask taskId patch current next) := by
  refine ⟨hmirrored.toOrderly.replaceTask hlookup hnamed patch,
    hmirrored.linking.congr (fun searched flowId => ?_) (fun _ => Iff.rfl) le_rfl,
    ?_⟩
  · rw [links_replaceTask]
    split_ifs with hsame
    · rw [hsame, links_iff_of_lookup hlookup, LinksTo, hparent, LinksTo]
    · rfl
  · intro searched task flowId flow htask hlinks hflow hmode hstale
    rw [World.replaceTask_tasks] at htask
    by_cases hsame : searched = taskId
    · subst hsame
      rw [lookup_set_self, Option.some.injEq] at htask
      exact absurd (htask ▸ hlinks) hstale
    · rw [lookup_set_of_ne hsame] at htask
      exact hmirrored.mirroring searched task flowId flow htask hlinks hflow hmode (by simp)

theorem link (hmirrored : Mirrored env (some flowId) none world)
    (hlookup : world.tasks.lookup taskId = some current)
    (hnamed : next.taskId = current.taskId)
    (hunlinked : normalizeOptionalString current.parentFlowId = none)
    (hlinks : LinksTo next flowId) (hused : ∀ index, world.uuids ≤ index →
      env.randomUUID index ≠ flowId) (patch : TaskPatch) :
    Mirrored env none (some flowId) (world.replaceTask taskId patch current next) := by
  have hnext : ∀ linked, LinksTo next linked ↔ linked = flowId := by
    intro linked
    rw [LinksTo, show normalizeOptionalString next.parentFlowId = some flowId
      from hlinks, Option.some.injEq, eq_comm]
  have hlinking := hmirrored.linking
  have hbare := hlinking.unlinked flowId rfl
  refine ⟨hmirrored.toOrderly.replaceTask hlookup hnamed patch, ⟨?_, ?_, by simp, ?_⟩, ?_⟩
  · intro linked hmode _
    by_cases hsame : linked = flowId
    · refine ⟨taskId, (links_replaceTask ..).mpr ?_⟩
      rw [if_pos rfl, hnext]
      exact hsame
    · obtain ⟨searched, hold⟩ := hlinking.linked linked hmode
        fun heq => hsame (Option.some.inj heq).symm
      have hne : searched ≠ taskId := by
        rintro rfl
        rw [links_iff_of_lookup hlookup, LinksTo, hunlinked] at hold
        contradiction
      refine ⟨searched, (links_replaceTask ..).mpr ?_⟩
      rw [if_neg hne]
      exact hold
  · intro linked hmode first second hfirst hsecond
    rw [links_replaceTask] at hfirst hsecond
    by_cases hsame : linked = flowId
    · subst hsame
      split_ifs at hfirst hsecond with h₁ h₂
      · exact h₁.trans h₂.symm
      · exact absurd hsecond (hbare second)
      · exact absurd hfirst (hbare first)
      · exact absurd hfirst (hbare first)
    · split_ifs at hfirst hsecond with h₁ h₂
      · exact h₁.trans h₂.symm
      · exact absurd ((hnext linked).mp hfirst) hsame
      · exact absurd ((hnext linked).mp hsecond) hsame
      · exact hlinking.alone linked hmode first second hfirst hsecond
  · intro index hle searched hlink
    rw [links_replaceTask] at hlink
    split_ifs at hlink
    · exact hused index hle ((hnext _).mp hlink)
    · exact hlinking.fresh index hle searched hlink
  · intro searched task linked flow htask htaskLinks hflow hmode hstale
    rw [World.replaceTask_tasks] at htask
    by_cases hsame : searched = taskId
    · subst hsame
      rw [lookup_set_self, Option.some.injEq] at htask
      subst htask
      rw [(hnext linked).mp htaskLinks] at hstale
      contradiction
    · rw [lookup_set_of_ne hsame] at htask
      exact hmirrored.mirroring searched task linked flow htask htaskLinks hflow hmode (by simp)

theorem withNewTask (hmirrored : Mirrored env none none world) {params : TaskCreateParams}
    (hparent : ∀ linked, LinksTo (world.newRecord env params) linked →
      ¬ world.HasMirrored linked ∧ linked ∈ keys world.flows) :
    Mirrored env none none (world.withNewTask env params) := by
  have hfresh := hmirrored.lookup_fresh
  have hlinks : ∀ searched linked, (world.withNewTask env params).Links searched linked ↔
        if searched = env.randomUUID world.uuids then
          LinksTo (world.newRecord env params) linked
        else world.Links searched linked := by
    intro searched linked
    unfold World.Links World.withNewTask
    simp only
    split_ifs with hsame
    · subst hsame
      simp [lookup_set_self]
    · rw [lookup_set_of_ne hsame]
  have hlinking := hmirrored.linking
  refine ⟨hmirrored.toOrderly.withNewTask params, ⟨?_, ?_, by simp, ?_⟩, ?_⟩
  · intro linked hmode _
    obtain ⟨searched, hold⟩ := hlinking.linked linked hmode (by simp)
    refine ⟨searched, (hlinks _ _).mpr ?_⟩
    rw [if_neg]
    · exact hold
    · rintro rfl
      obtain ⟨task, htask, -⟩ := hold
      rw [hfresh] at htask
      contradiction
  · intro linked hmode first second hfirst hsecond
    rw [hlinks] at hfirst hsecond
    split_ifs at hfirst hsecond with h₁ h₂
    · exact h₁.trans h₂.symm
    · exact absurd hmode (hparent linked hfirst).1
    · exact absurd hmode (hparent linked hsecond).1
    · exact hlinking.alone linked hmode first second hfirst hsecond
  · intro index hle searched hlink
    rw [hlinks] at hlink
    split_ifs at hlink
    · exact hmirrored.flowsFresh index (Nat.le_of_lt hle) (hparent _ hlink).2
    · exact hlinking.fresh index (Nat.le_of_lt hle) searched hlink
  · intro searched task linked flow htask htaskLinks hflow hmode _
    simp only [World.withNewTask] at htask
    by_cases hsame : searched = env.randomUUID world.uuids
    · subst hsame
      rw [lookup_set_self, Option.some.injEq] at htask
      subst htask
      exact absurd ⟨flow, hflow, hmode⟩ (hparent linked htaskLinks).1
    · rw [lookup_set_of_ne hsame] at htask
      exact hmirrored.mirroring searched task linked flow htask htaskLinks hflow hmode (by simp)

theorem addIndexes (hmirrored : Mirrored env bare stale world)
    (hlookup : world.tasks.lookup taskId = some current) :
    Mirrored env bare stale (world.addIndexes taskId current) :=
  ⟨hmirrored.toOrderly.addIndexes hlookup,
    hmirrored.linking.congr (fun _ _ => Iff.rfl) (fun _ => Iff.rfl) le_rfl,
    hmirrored.mirroring⟩

theorem hasMirrored_patchFlow (horderly : Orderly env world)
    (hlookup : world.flows.lookup flowId = some flow) {patch : FlowRecordPatch}
    (searched : JsString) :
    (world.writeFlow (flow.apply patch controllerId updatedAt)).HasMirrored
        searched ↔ world.HasMirrored searched := by
  unfold World.HasMirrored
  rw [horderly.lookup_patchFlow hlookup]
  split_ifs with hsame
  · subst hsame
    rw [hlookup]
    simp [TaskFlowRecord.apply]
  · rfl

theorem writeFlow (hmirrored : Mirrored env bare stale world)
    (hlookup : world.flows.lookup flowId = some flow) {patch : FlowRecordPatch}
    (hcontrols : Controls flow.syncMode controllerId)
    {later : Option JsString}
    (hother : ∀ linked, linked ≠ flowId → later ≠ some linked → stale ≠ some linked)
    (hmirrors : ∀ taskId task, world.tasks.lookup taskId = some task →
      LinksTo task flowId → flow.syncMode = .taskMirrored →
      later ≠ some flowId → Mirrors task (flow.apply patch controllerId updatedAt)) :
    Mirrored env bare later (world.writeFlow (flow.apply patch controllerId updatedAt)) := by
  refine ⟨hmirrored.toOrderly.writeFlow hlookup rfl hcontrols,
    hmirrored.linking.congr (fun _ _ => Iff.rfl)
      (hasMirrored_patchFlow hmirrored.toOrderly hlookup) le_rfl, ?_⟩
  intro searched task linked found htask hlinks hfound hmode hlater
  rw [hmirrored.lookup_patchFlow hlookup] at hfound
  split_ifs at hfound with hsame
  · subst hsame
    rw [Option.some.injEq] at hfound
    subst hfound
    exact hmirrors searched task htask hlinks hmode hlater
  · exact hmirrored.mirroring searched task linked found htask hlinks hfound hmode
      (hother linked hsame hlater)

theorem sync (hmirrored : Mirrored env bare (some flowId) world)
    (htask : world.tasks.lookup taskId = some task) (hlinks : LinksTo task flowId)
    (hlookup : world.flows.lookup flowId = some flow)
    (hmode : flow.syncMode = .taskMirrored) {written : ℤ}
    {endedAt : Option ℤ}
    (hended : endedAt.isSome = isEndedFlowStatus (deriveTaskFlowStatusFromTask task))
    (hcontrols : Controls flow.syncMode controllerId) :
    Mirrored env bare none (world.writeFlow
      (flow.apply (mirrorPatch task updatedAt endedAt) controllerId written)) := by
  apply hmirrored.writeFlow hlookup hcontrols
  · exact fun linked hne _ heq => hne (Option.some.inj heq).symm
  · intro searched found hfound hfoundLinks _ _
    have hsame := hmirrored.linking.alone flowId ⟨flow, hlookup, hmode⟩ searched
      taskId ⟨found, hfound, hfoundLinks⟩ ⟨task, htask, hlinks⟩
    subst hsame
    cases htask.symm.trans hfound
    exact mirrors_mirrorPatch hended

theorem settles : Settles (Mirrored env bare none) := by
  intro world flowId flow controllerId updatedAt endedAt hmirrored hlookup hawaits hcontrols
  apply hmirrored.writeFlow hlookup hcontrols
  · simp
  · intro _ _ _ _ hmode
    simp [awaitsCancellation, hmode] at hawaits

theorem withNewFlow (hmirrored : Mirrored env none none world) {params : CreateFlowRecordParams}
    (hcontrols : Controls (params.syncMode.getD .managed) controllerId)
    (ownerKey : JsString) (now : ℤ) :
    Mirrored env (some (env.randomUUID world.uuids)) none
      (world.withNewFlow env params controllerId ownerKey now) := by
  have hlinking := hmirrored.linking
  have hbare := hlinking.fresh world.uuids le_rfl
  have hold : ∀ linked, linked ≠ env.randomUUID world.uuids →
      (world.withNewFlow env params controllerId ownerKey now).flows.lookup
        linked = world.flows.lookup linked := by
    intro linked hne
    rw [lookup_withNewFlow, if_neg hne]
  refine ⟨hmirrored.toOrderly.withNewFlow hcontrols ownerKey now, ⟨?_, ?_, ?_, ?_⟩, ?_⟩
  · intro linked hmode hne
    rw [World.HasMirrored, hold linked fun heq => hne (heq ▸ rfl)] at hmode
    exact hlinking.linked linked hmode (by simp)
  · intro linked hmode first second hfirst hsecond
    by_cases hsame : linked = env.randomUUID world.uuids
    · subst hsame
      exact absurd hfirst (hbare first)
    · rw [World.HasMirrored, hold linked hsame] at hmode
      exact hlinking.alone linked hmode first second hfirst hsecond
  · intro linked heq taskId hlink
    cases heq
    exact hbare taskId hlink
  · exact fun index hle => hlinking.fresh index (Nat.le_of_lt hle)
  · intro searched task linked flow htask hlinks hflow hmode _
    have hne : linked ≠ env.randomUUID world.uuids := by
      rintro rfl
      exact hbare searched ⟨task, htask, hlinks⟩
    rw [hold linked hne] at hflow
    exact hmirrored.mirroring searched task linked flow htask hlinks hflow hmode (by simp)

end Mirrored

end LittleBaby.TaskRegistry
