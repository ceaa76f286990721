import LittleBaby.QueueInvariants
import LittleBaby.ReplyQueues

/-!
# Drains that spin

A drain goes on as long as items or dropped entries are left, but some bodies
leave the loop without taking any.
-/

namespace LittleBaby.Queues

open LabelledMachine JsString Registry Registry.All

variable {Item Run : Type*}

/-- The pass called out, made the queue smaller, or was the last one. -/
def Pass.Progresses (pass : Pass) : Prop :=
  pass.invoked = true ∨ pass.left < pass.weight ∨ pass.stays = false

def looksInVain (loop : DrainLoop Item Run) (drain : Drain Item Run) : Bool :=
  match drain.phase with
  | .debouncing _ =>
    drain.queue.items.isEmpty && (decide (drain.queue.mode ≠ .collect) ||
        !loop.deliverable drain.queue)
  | .skipped _ => drain.queue.items.isEmpty && !loop.deliverable drain.queue
  | .empty _ => !loop.deliverable drain.queue
  | _ => false

def FindsWork (loop : DrainLoop Item Run) (registry : Registry Item Run) : QueueAction Item → Prop
  | .advance index => registry.current = some index →
      (registry.drains.get? index).any (looksInVain loop) = false
  | _ => True

instance (loop : DrainLoop Item Run) (registry : Registry Item Run) :
    (action : QueueAction Item) → Decidable (FindsWork loop registry action)
  | .advance index => inferInstanceAs (Decidable (registry.current = some index →
      (registry.drains.get? index).any (looksInVain loop) = false))
  | .enqueue .. | .schedule | .complete _ | .fail _ | .clear =>
    inferInstanceAs (Decidable True)

def Arrived (queue : QueueState Item Run) : Phase Item Run → Prop
  | .debouncing _ | .skipped _ => queue.weight ≠ 0
  | .empty _ => queue.dropped ≠ []
  | .foundNothing => False
  | _ => True

def Phase.called : Phase Item Run → Bool
  | .running _ _ _ | .shifted _ _ => true
  | _ => false

structure Purposeful (stored : Bool) (drain : Drain Item Run) : Prop where
  lastRun : drain.queue.lastRun = none → drain.queue.items = [] ∧ drain.queue.dropped = []
  arrived : stored = true → Arrived drain.queue drain.phase
  invoked : drain.phase.called = true → drain.invoked = true

variable {drain : Drain Item Run}

theorem Purposeful.detached (hdrain : Purposeful true drain) : Purposeful false drain :=
  ⟨hdrain.lastRun, fun hstored => absurd hstored (by simp), hdrain.invoked⟩

section

variable (hlast : drain.queue.lastRun = none → drain.queue.items = [] ∧ drain.queue.dropped = [])
include hlast

theorem Purposeful.stop {stored : Bool} : Purposeful stored drain.stop where
  lastRun := hlast
  arrived := fun _ => trivial
  invoked := fun hcalled => absurd hcalled (by simp [Drain.stop, Phase.called])

theorem Purposeful.nextPass {stored : Bool} (hweight : drain.queue.weight ≠ 0) (force : Bool) :
    Purposeful stored (drain.nextPass force) where
  lastRun := hlast
  arrived := fun _ => hweight
  invoked := fun hcalled =>
    absurd hcalled (by simp [Drain.nextPass, Phase.called])

end

theorem purposeful_stable : Registry.Stable (Purposeful : Bool → Drain Item Run → Prop) where
  begun := by
    intro drain hdrain _ hweight
    exact .nextPass hdrain.lastRun hweight false
  removed := by
    intro drain hdrain _ _
    exact hdrain.detached

namespace Registry

variable {registry : Registry Item Run} {index : ℕ} {old drain : Drain Item Run}

theorem leave_passes : (registry.leave index drain).passes =
    ⟨drain.weight, drain.invoked, drain.queue.weight,
      (registry.finish index drain).holds index⟩ :: registry.passes := by
  unfold leave endPass
  simp only [finish_logs.2]

theorem continueLoop_passes (force : Bool) :
    ∃ stays, (registry.continueLoop index force drain).passes =
      ⟨drain.weight, drain.invoked, drain.queue.weight, stays⟩ ::
        registry.passes := by
  unfold continueLoop endPass
  split_ifs with hweight
  · refine ⟨(registry.finish index drain).holds index, ?_⟩
    simp only [finish_logs.2]
  · exact ⟨_, rfl⟩

theorem holds_eq_false (hget : registry.drains.get? index = some drain)
    (hcurrent : registry.current ≠ some index)
    (hidle : drain.phase.isIdle = true) : registry.holds index = false := by
  simp [holds, hget, hcurrent, hidle]

theorem finish_holds (hget : registry.drains.get? index = some old)
    (hcurrent : registry.current ≠ some index) :
    (registry.finish index drain).holds index = false := by
  have hstopped : (registry.put index drain.stop).drains.get? index = some drain.stop := by
    simp [put, Arena.get?_put hget]
  unfold finish
  simp only
  split_ifs with hweight
  · exact holds_eq_false hstopped (by simp) rfl
  · rcases schedule_cases (registry.put index drain.stop) with
      hsame | ⟨other, found, hother, hfound, -, hbegun⟩
    · rw [hsame]
      exact holds_eq_false hstopped hcurrent rfl
    · have hne : index ≠ other := by
        rintro rfl
        exact hcurrent hother
      rcases hbegun with ⟨-, hschedule⟩ | ⟨-, hschedule⟩
      · rw [hschedule]
        exact holds_eq_false hstopped (by simp) rfl
      · rw [hschedule]
        have hkept : ((registry.put index drain.stop).put other
            (found.nextPass false)).drains.get? index = some drain.stop := by
          rw [put, Arena.get?_put hfound, if_neg hne]
          exact hstopped
        exact holds_eq_false hkept hcurrent rfl

end Registry

structure Progressing (registry : Registry Item Run) : Prop where
  drains : registry.All Purposeful
  passes : ∀ pass ∈ registry.passes, pass.Progresses

section Step

variable {registry next : Registry Item Run} {index : ℕ} {old drain : Drain Item Run}

section

variable (hinv : Progressing registry)
include hinv

theorem Progressing.schedule : Progressing registry.schedule where
  drains := hinv.drains.schedule purposeful_stable
  passes := by
    rw [schedule_logs.2]
    exact hinv.passes

theorem Progressing.put (hget : registry.drains.get? index = some old)
    (hnew : Purposeful (decide (registry.current = some index)) drain) :
    Progressing (registry.put index drain) :=
  ⟨hinv.drains.put hget hnew, hinv.passes⟩

theorem Progressing.continueLoop (hget : registry.drains.get? index = some old) (force : Bool)
    (hlast : drain.queue.lastRun = none → drain.queue.items = [] ∧ drain.queue.dropped = [])
    (hinvoked : drain.invoked = true) :
    Progressing (registry.continueLoop index force drain) where
  drains := by
    apply Registry.All.continueLoop purposeful_stable hinv.drains hget
    · intro _
      exact .stop hlast
    · intro hweight
      exact .nextPass hlast hweight force
    · exact Or.inr fun found hfound => hfound.detached
  passes := by
    obtain ⟨stays, hpasses⟩ := @Registry.continueLoop_passes _ _ registry index drain force
    rw [hpasses]
    intro pass hpass
    rcases List.mem_cons.mp hpass with rfl | hbefore
    · exact Or.inl hinvoked
    · exact hinv.passes pass hbefore

theorem Progressing.leave (hget : registry.drains.get? index = some drain)
    (hend : drain.invoked = true ∨ registry.current ≠ some index) :
    Progressing (registry.leave index drain) where
  drains := by
    apply finish purposeful_stable hinv.drains hget
    · exact .stop (hinv.drains index drain hget).lastRun
    · exact .inr fun found hfound => hfound.detached
  passes := by
    rw [leave_passes]
    intro pass hpass
    rcases List.mem_cons.mp hpass with rfl | hbefore
    · rcases hend with hinvoked | hcurrent
      · exact .inl hinvoked
      · exact .inr (.inr (finish_holds hget hcurrent))
    · exact hinv.passes pass hbefore

end

variable {phase : Phase Item Run}

theorem Progressing.enter (hinv : Progressing registry)
    (hget : registry.drains.get? index = some old) {phase : Phase Item Run}
    (hlast : drain.queue.lastRun = none → drain.queue.items = [] ∧ drain.queue.dropped = [])
    (harrived : registry.current = some index → Arrived drain.queue phase)
    (hshifted : phase.called = true → phase.call?.isSome = true) :
    Progressing (registry.enter index drain phase) := by
  have hput : Progressing (registry.put index (drain.enter phase)) := by
    apply hinv.put hget
    constructor
    · exact hlast
    · intro hstored
      exact harrived (by simpa using hstored)
    · intro hcalled
      simp [Drain.enter, hshifted hcalled]
  exact ⟨hput.drains, hput.passes⟩

variable {queue : QueueState Item Run}

theorem Collects.called (hcollects : Collects queue phase) :
    Arrived queue phase ∧ (phase.called = true → phase.call?.isSome = true) := by
  cases hcollects with
  | collect | summaryOnly =>
    exact ⟨trivial, fun _ => rfl⟩

theorem Progressing.collect (hinv : Progressing registry)
    (hget : registry.drains.get? index = some drain) {found : Option (Phase Item Run)}
    (hcollects : ∀ phase, found = some phase → Collects drain.queue phase)
    (hend : found = none → registry.current ≠ some index) :
    Progressing (registry.resume index drain found) := by
  cases found with
  | none => exact hinv.leave hget (.inr (hend rfl))
  | some phase =>
    have hcalled := (hcollects phase rfl).called
    exact hinv.enter hget (hinv.drains index drain hget).lastRun (fun _ => hcalled.1) hcalled.2

variable {loop : DrainLoop Item Run}

theorem Looks.arrived {force : Bool} (hlooks : Looks drain.queue phase)
    (hphase : drain.phase = .debouncing force)
    (hweight : drain.queue.weight ≠ 0)
    (hwork : looksInVain loop drain = false) : Arrived drain.queue phase := by
  cases hlooks with
  | skipped _ hmode => exact hweight
  | empty _ hmode hitems =>
    intro hdropped
    exact hweight (QueueState.weight_eq_zero.mpr ⟨hitems, hdropped⟩)
  | foundNothing hmode hitems =>
    simp [looksInVain, hphase, hitems, hmode] at hwork
  | item => trivial
  | overflow => trivial

theorem Looks.called (hlooks : Looks queue phase) (hcalled : phase.called = true) :
    phase.call?.isSome = true := by
  cases hlooks with
  | item => rfl
  | overflow => rfl
  | _ => simp [Phase.called] at hcalled

section

variable (hinv : Progressing registry)
include hinv

theorem Progressing.advance (hguard : FindsWork loop registry (.advance index))
    (hstep : registry.advance loop index = some next) : Progressing next := by
  simp only [Registry.advance, Option.bind_eq_some_iff] at hstep
  obtain ⟨drain, hget, hstep⟩ := hstep
  have hdrain := hinv.drains index drain hget
  have harrived : registry.current = some index → Arrived drain.queue drain.phase := fun hcurrent =>
    hdrain.arrived (by simpa using hcurrent)
  have hwork : registry.current = some index → looksInVain loop drain = false := by
    intro hcurrent
    have hguard : registry.current = some index →
        (registry.drains.get? index).any (looksInVain loop) = false := hguard
    simpa [hget] using hguard hcurrent
  cases hphase : drain.phase
  all_goals simp only [hphase, Option.some.injEq, reduceCtorEq] at hstep harrived
  all_goals subst hstep
  case debouncing force =>
    cases hlook : loop.debounced force drain.queue with
    | none =>
      obtain ⟨hdropped, hlast⟩ := loop.debounced_eq_none force drain.queue hlook
      exact absurd (hdrain.lastRun hlast).2 hdropped
    | some phase =>
      have hlooks := loop.debounced_looks force drain.queue phase hlook
      exact hinv.enter hget hdrain.lastRun (fun hcurrent =>
        hlooks.arrived hphase (harrived hcurrent) (hwork hcurrent))
        hlooks.called
  case skipped force =>
    apply hinv.collect hget (loop.skipped_collects force drain.queue)
    intro hlook hcurrent
    obtain ⟨hitems, hdeliverable⟩ := loop.skipped_eq_none force drain.queue hlook
    have hvain := hwork hcurrent
    simp [looksInVain, hphase, hitems, hdeliverable] at hvain
  case empty force =>
    apply hinv.collect hget (loop.empty_collects force drain.queue)
    intro hlook hcurrent
    have hdeliverable := loop.empty_eq_none force drain.queue hlook
    have hvain := hwork hcurrent
    simp [looksInVain, hphase, hdeliverable] at hvain
  case foundNothing => exact hinv.leave hget (Or.inr harrived)
  case shifted force clears =>
    apply hinv.continueLoop hget force
    · intro hlast
      cases clears with
      | false => exact hdrain.lastRun hlast
      | true => exact ⟨(hdrain.lastRun hlast).1, rfl⟩
    · exact hdrain.invoked (by rw [hphase]; rfl)

theorem Progressing.complete (hstep : registry.complete index = some next) : Progressing next := by
  simp only [Registry.complete, Option.bind_eq_some_iff] at hstep
  obtain ⟨drain, hget, hstep⟩ := hstep
  cases hphase : drain.phase with
  | running force call groups =>
    simp only [hphase, Option.some.injEq] at hstep
    subst hstep
    have hdrain := hinv.drains index drain hget
    have hinvoked : drain.invoked = true := hdrain.invoked (by rw [hphase]; rfl)
    have hreturned : Progressing (registry.returned call) := ⟨hinv.drains, hinv.passes⟩
    have hshift : ∀ clears, Purposeful (decide (registry.current = some index)) { drain with
          queue := { drain.queue with items := drain.queue.items.tail }
          phase := .shifted force clears } := by
      intro clears
      constructor
      · intro hlast
        obtain ⟨hitems, hdropped⟩ := hdrain.lastRun hlast
        exact ⟨by simp [hitems], hdropped⟩
      · exact fun _ => trivial
      · exact fun _ => hinvoked
    cases call with
    | item entry => exact hreturned.put hget (hshift false)
    | overflow head run summary => exact hreturned.put hget (hshift true)
    | summaryOnly run summary =>
      apply hreturned.continueLoop hget force
      · intro hlast
        exact ⟨(hdrain.lastRun hlast).1, rfl⟩
      · exact hinvoked
    | collect group summary =>
      have hlast : ∀ spliced : QueueState Item Run, spliced = { drain.queue with
            items := drain.queue.items.drop group.length } →
          (if summary.isSome then spliced.clearQueueSummaryState
            else spliced).lastRun = none →
          (if summary.isSome then spliced.clearQueueSummaryState
            else spliced).items = [] ∧
          (if summary.isSome then spliced.clearQueueSummaryState
            else spliced).dropped = [] := by
        rintro spliced rfl hnone
        cases summary with
        | none =>
          obtain ⟨hitems, hdropped⟩ := hdrain.lastRun hnone
          exact ⟨by simp [hitems], by simpa using hdropped⟩
        | some told =>
          obtain ⟨hitems, -⟩ := hdrain.lastRun hnone
          exact ⟨by simp [hitems, QueueState.clearQueueSummaryState], rfl⟩
      cases groups with
      | nil =>
        exact hreturned.continueLoop hget force (hlast _ rfl) hinvoked
      | cons group' groups =>
        exact hreturned.enter hget (hlast _ rfl) (fun _ => trivial) (fun _ => rfl)
  | _ => simp [hphase] at hstep

theorem Progressing.fail (hstep : registry.fail index = some next) : Progressing next := by
  simp only [Registry.fail, Option.bind_eq_some_iff] at hstep
  obtain ⟨drain, hget, hstep⟩ := hstep
  cases hphase : drain.phase with
  | running force call groups =>
    simp only [hphase, Option.some.injEq] at hstep
    subst hstep
    apply hinv.leave hget
    left
    exact (hinv.drains index drain hget).invoked (by rw [hphase]; rfl)
  | _ => simp [hphase] at hstep

theorem Progressing.clear (hstep : registry.clear = some next) : Progressing next where
  drains := by
    apply Registry.All.clear hinv.drains _ hstep
    intro drain hdrain
    exact ⟨fun _ => ⟨rfl, rfl⟩, fun hstored => absurd hstored (by simp), hdrain.invoked⟩
  passes := by
    rw [(clear_logs hstep).2]
    exact hinv.passes

end

theorem Arrived.congr {other : QueueState Item Run} (hitems : queue.items ≠ [] → other.items ≠ [])
    (hdropped : queue.dropped ≠ [] → other.dropped ≠ [])
    (harrived : Arrived queue phase) : Arrived other phase := by
  have hweight : queue.weight ≠ 0 → other.weight ≠ 0 := by
    intro hbefore hafter
    obtain ⟨hnone, hnil⟩ := QueueState.weight_eq_zero.mp hafter
    apply hbefore
    rw [QueueState.weight_eq_zero]
    constructor
    · by_contra hne
      exact hitems hne hnone
    · by_contra hne
      exact hdropped hne hnil
  cases phase with
  | debouncing | skipped =>
    exact hweight harrived
  | empty => exact hdropped harrived
  | foundNothing => exact harrived
  | _ => trivial

theorem Progressing.enqueue (loop : DrainLoop Item Run)
    (hinv : Progressing registry) (item : Item) (settings : QueueSettings)
    (duplicate restart : Bool) :
    Progressing (registry.enqueue loop item settings duplicate restart) where
  drains := by
    unfold Registry.enqueue
    rcases hfound : registry.getQueue settings with ⟨index, drain, found⟩
    obtain ⟨hcurrent, hget⟩ := Registry.getQueue_stored hfound
    have hall : found.All Purposeful := by
      apply Registry.All.getQueue hinv.drains hfound
      · intro old hold
        exact ⟨hold.lastRun, fun hstored => (hold.arrived hstored).congr id id, hold.invoked⟩
      · exact ⟨fun _ => ⟨rfl, rfl⟩, fun _ => trivial,
          fun hcalled => absurd hcalled (by simp [Phase.called])⟩
    have hdrain : Purposeful true drain := by
      have hstored := hall index drain hget
      simpa [hcurrent] using hstored
    simp only
    split_ifs with hduplicate
    · exact hall
    · apply Registry.All.accept loop purposeful_stable hall hcurrent hget
      · exact ⟨fun hnone => absurd hnone (by simp),
          fun hstored => (hdrain.arrived hstored).congr id id, hdrain.invoked⟩
      · intro kept entry hpolicy
        obtain ⟨-, hlast, -, -, hdropped, -⟩ := QueueState.applyQueueDropPolicy_cases hpolicy
        constructor
        · intro hnone
          exact absurd (hlast.symm.trans hnone) (by simp)
        · intro hstored
          apply (hdrain.arrived hstored).congr
          · simp
          · intro hne
            simp [hdropped, hne]
        · exact hdrain.invoked
  passes := by
    rw [(enqueue_logs loop item duplicate restart).2]
    exact hinv.passes

theorem Progressing.step {loop : DrainLoop Item Run}
    {action : QueueAction Item} (hinv : Progressing registry)
    (hguard : FindsWork loop registry action)
    (hstep : registry.step loop action = some next) : Progressing next := by
  cases action with
  | enqueue item settings duplicate restart =>
    cases hstep
    exact hinv.enqueue loop item settings duplicate restart
  | schedule =>
    cases hstep
    exact hinv.schedule
  | advance index => exact hinv.advance hguard hstep
  | complete index => exact hinv.complete hstep
  | fail index => exact hinv.fail hstep
  | clear => exact hinv.clear hstep

end Step

theorem progressing_empty : Progressing (empty : Registry Item Run) where
  drains := by
    intro index drain hget
    simp [empty] at hget
  passes := by
    intro pass hpass
    simp [empty] at hpass

theorem progressing_run {loop : DrainLoop Item Run}
    {actions : List (QueueAction Item)} {registry : Registry Item Run}
    (hguarded : Guarded (step loop) (FindsWork loop) .empty actions)
    (hrun : run (step loop) .empty actions = some registry) :
    Progressing registry :=
  run_guarded_invariant Progressing Progressing.step progressing_empty hguarded hrun

/-- In both queues: where no drain of a stored queue looks for items in vain,
every pass of every drain calls out, makes the queue smaller, or is the last. -/
theorem drain_passes_progress (isRoutableChannel : JsString → Bool) : (∀ actions registry,
      Guarded (step (followupDrain isRoutableChannel))
        (FindsWork (followupDrain isRoutableChannel)) .empty actions →
      run (step (followupDrain isRoutableChannel)) .empty actions = some registry →
      ∀ pass ∈ registry.passes, pass.Progresses) ∧
    ∀ actions registry, Guarded (step announceDrain) (FindsWork announceDrain) .empty actions →
      run (step announceDrain) .empty actions = some registry →
      ∀ pass ∈ registry.passes, pass.Progresses := by
  constructor
  · intro actions registry hguarded hrun
    exact (progressing_run hguarded hrun).passes
  · intro actions registry hguarded hrun
    exact (progressing_run hguarded hrun).passes

/-- A dropped run is told of while another one is left, and one announcement
is sent. -/
theorem drain_passes_progress_summary : (∃ registry, run (step (followupDrain fun _ => true)) .empty
        [.enqueue (plainRun [1]) keepOne false false,
          .enqueue (plainRun [2]) keepOne false false, .schedule, .advance 0,
          .complete 0, .advance 0] = some registry ∧
      registry.passes = [⟨2, true, 0, false⟩] ∧
      ∀ pass ∈ registry.passes, pass.Progresses) ∧
    ∃ registry, run (step announceDrain) .empty
        [.enqueue ⟨[1], none, false, none⟩ ⟨.queue, none, none⟩ false true,
          .advance 0, .complete 0, .advance 0] = some registry ∧
      registry.passes = [⟨1, true, 0, false⟩] ∧
      ∀ pass ∈ registry.passes, pass.Progresses := by
  constructor
  · apply exists_of_view (by decide : Option.map passes _ = some [⟨2, true, 0, false⟩])
    intro registry hpasses hrun
    exact ⟨hpasses, (drain_passes_progress fun _ => true).1 _ registry (by decide) hrun⟩
  · apply exists_of_view (by decide : Option.map passes _ = some [⟨1, true, 0, false⟩])
    intro registry hpasses hrun
    exact ⟨hpasses, (drain_passes_progress fun _ => true).2 _ registry (by decide) hrun⟩

/-- The run that was dropped while it was executed leaves a count that no pass
takes away. -/
theorem cap_drop_spins : ∃ (actions : List (QueueAction FollowupRun))
      (registry : Registry FollowupRun RunContext),
      run (step (followupDrain fun _ => true)) .empty actions = some registry ∧
        ∃ pass ∈ registry.passes, ¬ pass.Progresses := by
  have hpasses : (run (step (followupDrain fun _ => true)) .empty
      [.enqueue (plainRun [1]) keepOne false true, .schedule, .advance 0,
        .enqueue (plainRun [2]) keepOne false true, .complete 0, .advance 0,
        .advance 0, .advance 0, .advance 0, .advance 0]).map passes =
      some [⟨1, false, 1, true⟩, ⟨1, false, 1, true⟩, ⟨1, true, 1, true⟩] := by
    decide
  obtain ⟨registry, hrun, hpasses⟩ := Option.map_eq_some_iff.mp hpasses
  refine ⟨_, registry, hrun, ⟨1, false, 1, true⟩, ?_, ?_⟩
  · rw [hpasses]
    exact List.mem_cons_self
  · rintro (hinvoked | hless | hstays)
    · exact absurd hinvoked (by decide)
    · exact absurd hless (by decide)
    · exact absurd hstays (by decide)

end LittleBaby.Queues
