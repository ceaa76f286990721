import LittleBaby.CommandQueueTasks

/-!
# Progress of the command lanes

A lane with waiting entries and room for one more task always has a pump on
the stack, or a reset on the stack has still to drain it, so no lane with a
`maxConcurrent` of at least one stalls.  `setCommandLaneConcurrency` lets NaN
through, which leaves no room; the results are about runs without such calls.
-/

namespace LittleBaby.CommandQueue

open LabelledMachine JsString CommandQueue.Frame Process JsNumber Process.Reachable

/-- A pump of the lane is on the stack, or `resetAllLanes` has still to drain
the lane. -/
def Process.Pumping (process : Process) (lane : JsString) : Prop :=
  pump lane ∈ process.stack ∨ ∃ names, drainEach names ∈ process.stack ∧ lane ∈ names

structure Process.WorkConserving (process : Process) : Prop where
  pumping : ∀ lane, (process.lane lane).queue ≠ [] →
    (process.lane lane).hasRoom = true → process.Pumping lane
  draining : ∀ lane, (process.lane lane).draining = true → pump lane ∈ process.stack

variable {process next : Process}

theorem Process.Pumping.mono {lane : JsString} (hpumping : process.Pumping lane)
    (hsub : ∀ frame ∈ process.stack, frame ∈ next.stack) :
    next.Pumping lane := by
  rcases hpumping with hpump | ⟨names, hnames, hmem⟩
  · exact .inl (hsub _ hpump)
  · exact .inr ⟨names, hsub _ hnames, hmem⟩

variable {name : JsString}

theorem Process.pump_mem_drainLane (hdraining : (process.lane name).draining = true →
      pump name ∈ process.stack) :
    pump name ∈ (process.drainLane name).stack := by
  rcases process.drainLane_cases name with ⟨htrue, heq⟩ | ⟨-, heq⟩
  · rw [heq]
    exact hdraining htrue
  · rw [heq]
    exact List.mem_cons_self

theorem Process.mem_stack_drainLane (name : JsString)
    {frame : Frame} (hmem : frame ∈ process.stack) :
    frame ∈ (process.drainLane name).stack := by
  rcases process.drainLane_cases name with ⟨-, heq⟩ | ⟨-, heq⟩
  · rw [heq]
    exact hmem
  · rw [heq]
    exact List.mem_cons_of_mem _ hmem

theorem Process.WorkConserving.drainLane
    (hpumping : ∀ lane, lane ≠ name → (process.lane lane).queue ≠ [] →
      (process.lane lane).hasRoom = true → process.Pumping lane)
    (hdraining : ∀ lane, (process.lane lane).draining = true → pump lane ∈ process.stack) :
    (process.drainLane name).WorkConserving where
  pumping := by
    intro lane hqueue hroom
    by_cases hlane : lane = name
    · subst lane
      exact .inl (process.pump_mem_drainLane (hdraining name))
    · rw [queue_drainLane] at hqueue
      rw [LaneState.hasRoom, activeTaskIds_drainLane, maxConcurrent_drainLane] at hroom
      exact (hpumping lane hlane hqueue hroom).mono fun frame hmem =>
        process.mem_stack_drainLane name hmem
  draining := by
    intro lane htrue
    by_cases hlane : lane = name
    · subst lane
      exact process.pump_mem_drainLane (hdraining name)
    · have hsame : (process.drainLane name).lane lane = process.lane lane := by
        rcases process.drainLane_cases name with ⟨-, heq⟩ | ⟨-, heq⟩ <;> simp [heq, hlane]
      rw [hsame] at htrue
      exact process.mem_stack_drainLane name (hdraining lane htrue)

theorem Process.WorkConserving.change_drainLane {changed : Process}
    (hconserving : process.WorkConserving)
    (hstack : changed.stack = process.stack)
    (hother : ∀ lane, lane ≠ name → changed.lane lane = process.lane lane)
    (hflag : (changed.lane name).draining = (process.lane name).draining) :
    (changed.drainLane name).WorkConserving := by
  apply Process.WorkConserving.drainLane
  · intro lane hlane hqueue hroom
    rw [hother lane hlane] at hqueue hroom
    refine (hconserving.pumping lane hqueue hroom).mono fun frame hmem => ?_
    rw [hstack]
    exact hmem
  · intro lane htrue
    rw [hstack]
    by_cases hlane : lane = name
    · subst lane
      exact hconserving.draining name (hflag ▸ htrue)
    · rw [hother lane hlane] at htrue
      exact hconserving.draining lane htrue

theorem Process.WorkConserving.congr (hconserving : process.WorkConserving)
    (hlane : ∀ lane, next.lane lane = process.lane lane)
    (hpump : ∀ lane, pump lane ∈ process.stack → pump lane ∈ next.stack)
    (hdrain : ∀ lane names, drainEach names ∈ process.stack →
      lane ∈ names → next.Pumping lane) : next.WorkConserving where
  pumping := by
    intro lane hqueue hroom
    rw [hlane] at hqueue hroom
    rcases hconserving.pumping lane hqueue hroom with
      hmem | ⟨names, hnames, hmem⟩
    · exact .inl (hpump lane hmem)
    · exact hdrain lane names hnames hmem
  draining := by
    intro lane htrue
    rw [hlane] at htrue
    exact hpump lane (hconserving.draining lane htrue)

variable {rest : List Frame}

theorem Process.WorkConserving.pop {frame : Frame} (hconserving : process.WorkConserving)
    (hstack : process.stack = frame :: rest)
    (hlane : ∀ lane, next.lane lane = process.lane lane)
    (hpump : ∀ lane, frame ≠ .pump lane)
    (hdrain : ∀ names, frame ≠ .drainEach names)
    (hrest : ∀ other ∈ rest, other ∈ next.stack) :
    next.WorkConserving := by
  refine hconserving.congr hlane ?_ ?_
  · intro lane hmem
    rw [hstack] at hmem
    rcases List.mem_cons.mp hmem with heq | hmem
    · exact absurd heq.symm (hpump lane)
    · exact hrest _ hmem
  · intro lane names hnames hmem
    rw [hstack] at hnames
    rcases List.mem_cons.mp hnames with heq | hnames
    · exact absurd heq.symm (hdrain names)
    · exact .inr ⟨names, hrest _ hnames, hmem⟩

theorem Process.WorkConserving.finishTask {before : Process} (task : Task) (outcome : Outcome)
    (hconserving : before.WorkConserving)
    (hlanes : process.lanes = before.lanes)
    (hpump : ∀ lane, Frame.pump lane ∈ before.stack → Frame.pump lane ∈ rest)
    (hdrain : ∀ names, Frame.drainEach names ∈ before.stack → Frame.drainEach names ∈ rest) :
    (process.finishTask task outcome rest).WorkConserving := by
  have hlane : ∀ name, process.lane name = before.lane name := fun name => by
    unfold Process.lane
    rw [hlanes]
  simp only [Process.finishTask]
  split_ifs with hgeneration
  · refine ⟨fun lane hqueue hroom => ?_, fun lane htrue => ?_⟩
    · by_cases hname : lane = task.lane
      · rw [hname]
        exact Or.inl List.mem_cons_self
      · simp only [Process.lane_withStack,
          Process.lane_setLane_of_ne _ _ hname, Process.lane_observe,
          hlane] at hqueue hroom
        rcases hconserving.pumping lane hqueue hroom with
          hmem | ⟨names, hnames, hmem⟩
        · exact Or.inl (by simp [hpump lane hmem])
        · exact Or.inr ⟨names, by simp [hdrain names hnames], hmem⟩
    · have htrue' : (before.lane lane).draining = true := by
        rw [Process.lane_withStack, Process.lane_setLane] at htrue
        split_ifs at htrue with hname
        · rw [hname, ← hlane]
          exact htrue
        · rw [← hlane]
          exact htrue
      have hmem := hpump lane (hconserving.draining lane htrue')
      simp [hmem]
  · refine hconserving.congr hlane ?_ ?_
    · intro lane hmem
      simp [hpump lane hmem]
    · intro lane names hnames hmem
      exact Or.inr ⟨names, by simp [hdrain names hnames], hmem⟩

section

variable (hconserving : process.WorkConserving) (hstack : process.stack = .pump name :: rest)
include hconserving hstack

theorem Process.WorkConserving.startHead {entry : ℕ} {queue : List ℕ} :
    (process.startHead name entry queue rest).WorkConserving := by
  have hsub : ∀ frame ∈ process.stack, frame ∈ (process.startHead name entry queue rest).stack := by
    intro frame hmem
    rw [hstack] at hmem
    exact List.mem_cons_of_mem _ hmem
  have hother : ∀ lane, lane ≠ name → (process.startHead name entry queue rest).lane lane =
        process.lane lane := by
    intro lane hlane
    simp [Process.startHead, Process.lane, Process.setLane, Process.observe,
      Process.withStack, hlane]
  refine ⟨fun lane hqueue hroom => ?_, fun lane htrue => ?_⟩
  · by_cases hlane : lane = name
    · rw [hlane]
      exact Or.inl (hsub _ (by simp [hstack]))
    · rw [hother lane hlane] at hqueue hroom
      exact (hconserving.pumping lane hqueue hroom).mono hsub
  · by_cases hlane : lane = name
    · rw [hlane]
      exact hsub _ (by simp [hstack])
    · rw [hother lane hlane] at htrue
      exact hsub _ (hconserving.draining lane htrue)

theorem Process.WorkConserving.leavePump
    (hdone : (process.lane name).queue = [] ∨ (process.lane name).hasRoom = false) :
    (process.leavePump name rest).WorkConserving := by
  have hrest : ∀ frame ∈ process.stack, frame ≠ .pump name → frame ∈ rest := by
    intro frame hmem hne
    rw [hstack] at hmem
    exact (List.mem_cons.mp hmem).resolve_left hne
  have hself : (process.leavePump name rest).lane name =
      { process.lane name with draining := false } := by
    simp [Process.leavePump]
  have hother : ∀ lane, lane ≠ name →
      (process.leavePump name rest).lane lane = process.lane lane := by
    intro lane hlane
    simp [Process.leavePump, hlane]
  refine ⟨fun lane hqueue hroom => ?_, fun lane htrue => ?_⟩
  · by_cases hlane : lane = name
    · rw [hlane, hself] at hqueue hroom
      rcases hdone with hempty | hfull
      · exact absurd hempty hqueue
      · exact absurd (hfull.symm.trans hroom) Bool.false_ne_true
    · rw [hother lane hlane] at hqueue hroom
      rcases hconserving.pumping lane hqueue hroom with
        hmem | ⟨names, hnames, hmem⟩
      · exact Or.inl (hrest _ hmem (by simpa using hlane))
      · exact Or.inr ⟨names, hrest _ hnames (by simp), hmem⟩
  · by_cases hlane : lane = name
    · rw [hlane, hself] at htrue
      exact absurd htrue Bool.false_ne_true
    · rw [hother lane hlane] at htrue
      exact hrest _ (hconserving.draining lane htrue) (by simpa using hlane)

end

theorem Process.workConserving_resetAllLanes (process : Process) :
    process.resetAllLanes.WorkConserving := by
  refine ⟨fun lane hqueue hroom => ?_, fun lane htrue => ?_⟩
  · rw [Process.queue_resetAllLanes] at hqueue
    refine Or.inr ⟨_, List.mem_cons_self, ?_⟩
    have hkey : lane ∈ process.lanes.keys := by
      by_contra hmissing
      rw [← InsertionMap.get?_eq_none_iff] at hmissing
      simp [Process.lane, hmissing, LaneState.created] at hqueue
    simp [hkey, hqueue]
  · rcases process.lane_resetAllLanes lane with heq | ⟨-, heq⟩
    · rw [heq] at htrue
      exact absurd htrue Bool.false_ne_true
    · rw [heq] at htrue
      exact absurd htrue Bool.false_ne_true

theorem workConserving_transition (hconserving : process.WorkConserving)
    (htransition : Transition process next) : next.WorkConserving := by
  cases htransition with
  | flag => exact ⟨hconserving.pumping, hconserving.draining⟩
  | enqueue name =>
    refine hconserving.change_drainLane rfl (fun lane hlane => ?_) ?_ <;>
      simp [Process.pushEntry, Process.lane, Process.setLane, Process.observe, *]
  | setConcurrency name maxConcurrent =>
    refine hconserving.change_drainLane rfl (fun lane hlane => ?_) ?_ <;>
      simp [Process.setMaxConcurrent, *]
  | clear name =>
    refine ⟨fun lane hqueue hroom => ?_, fun lane htrue => ?_⟩
    · by_cases hlane : lane = name
      · subst lane
        simp [Process.clearQueue] at hqueue
      · simp only [Process.clearQueue, Process.lane_observe,
          Process.lane_setLane_of_ne _ _ hlane] at hqueue hroom
        exact hconserving.pumping lane hqueue hroom
    · simp only [Process.clearQueue, Process.lane_observe, Process.lane_setLane] at htrue
      split_ifs at htrue with hlane
      · exact hconserving.draining lane (hlane ▸ htrue)
      · exact hconserving.draining lane htrue
  | resetAll => exact process.workConserving_resetAllLanes
  | suspend task rest hstack | settle name entry settlement rest hstack =>
    exact hconserving.pop hstack (fun _ => rfl) (by simp) (by simp) fun _ hmem => hmem
  | throwSync task error rest hstack =>
    refine hconserving.finishTask task _ rfl ?_ ?_ <;> simp [hstack]
  | complete task outcome hstack hrunning =>
    refine hconserving.finishTask task outcome rfl ?_ ?_ <;> simp [hstack]
  | start name entry queue rest hstack hqueue hroom =>
    exact hconserving.startHead hstack
  | leave name rest hstack hdone => exact hconserving.leavePump hstack hdone
  | drainNext name names rest hstack =>
    have hpump : ∀ lane, Frame.pump lane ∈ process.stack →
        Frame.pump lane ∈ Frame.drainEach names :: rest := by
      intro lane hmem
      simpa [hstack] using hmem
    apply Process.WorkConserving.drainLane
    · intro lane hlane hqueue hroom
      rcases hconserving.pumping lane hqueue hroom with
        hmem | ⟨others, hothers, hmem⟩
      · exact Or.inl (hpump lane hmem)
      · rw [hstack, List.mem_cons, Frame.drainEach.injEq] at hothers
        rcases hothers with rfl | hothers
        · exact Or.inr ⟨names, List.mem_cons_self, (List.mem_cons.mp hmem).resolve_left hlane⟩
        · exact Or.inr ⟨others, List.mem_cons_of_mem _ hothers, hmem⟩
    · intro lane htrue
      exact hpump lane (hconserving.draining lane htrue)
  | drainDone rest hstack =>
    refine hconserving.congr (fun _ => rfl) ?_ ?_
    · intro lane hmem
      simpa [hstack] using hmem
    · intro lane names hnames hmem
      rw [hstack, List.mem_cons, Frame.drainEach.injEq] at hnames
      rcases hnames with rfl | hnames
      · simp at hmem
      · exact Or.inr ⟨names, hnames, hmem⟩

theorem initial_workConserving : initial.WorkConserving where
  pumping := fun _ hqueue _ => absurd rfl hqueue
  draining := fun _ htrue => absurd htrue Bool.false_ne_true

theorem Process.Reachable.workConserving (hreach : process.Reachable) : process.WorkConserving :=
  LabelledMachine.Reachable.invariant Process.WorkConserving (fun hconserving hstep =>
      workConserving_transition hconserving (transition_of_step hstep))
    initial_workConserving hreach

section Limit

variable {process : Process}

theorem maxConcurrent_setLane {state : LaneState}
    (hlimit : state.maxConcurrent = (process.lane name).maxConcurrent)
    (lane : JsString) :
    ((process.setLane name state).lane lane).maxConcurrent = (process.lane lane).maxConcurrent := by
  rw [lane_setLane]
  split_ifs with hlane
  · rw [hlimit, hlane]
  · rfl

theorem maxConcurrent_finishTask (task : Task) (outcome : Outcome)
    (rest : List Frame) (lane : JsString) :
    ((process.finishTask task outcome rest).lane lane).maxConcurrent =
      (process.lane lane).maxConcurrent := by
  simp only [finishTask]
  split_ifs
  · rw [lane_withStack]
    exact maxConcurrent_setLane (by rfl) lane
  · rfl

theorem maxConcurrent_pumpOnce (name : JsString) (rest : List Frame) (lane : JsString) :
    ((process.pumpOnce name rest).lane lane).maxConcurrent = (process.lane lane).maxConcurrent := by
  unfold pumpOnce
  split
  · change ((process.setLane name _).lane lane).maxConcurrent = _
    exact maxConcurrent_setLane (by rfl) lane
  · change ((process.setLane name _).lane lane).maxConcurrent = _
    exact maxConcurrent_setLane (by rfl) lane

theorem maxConcurrent_resetAllLanes (lane : JsString) :
    (process.resetAllLanes.lane lane).maxConcurrent = (process.lane lane).maxConcurrent := by
  rcases process.lane_resetAllLanes lane with heq | ⟨hcreated, heq⟩
  · rw [heq]
    rfl
  · rw [heq, hcreated]

end Limit

def Process.Limited (process : Process) : Prop :=
  ∀ lane, le (.ofNat 1) (process.lane lane).maxConcurrent = true

theorem Process.Limited.congr (hlimited : process.Limited)
    (hlimit : ∀ lane, (next.lane lane).maxConcurrent =
      (process.lane lane).maxConcurrent) : next.Limited := by
  intro lane
  rw [hlimit lane]
  exact hlimited lane

theorem Process.Limited.setCommandLaneConcurrency
    (hlimited : process.Limited) (lane : JsString) {number : JsNumber}
    (hnan : number ≠ .nan) :
    (process.setCommandLaneConcurrency lane number).Limited := by
  intro other
  simp only [Process.setCommandLaneConcurrency, Process.setMaxConcurrent,
    Process.maxConcurrent_drainLane, Process.lane_setLane]
  split_ifs
  · exact JsNumber.one_le_max_one (by simpa using hnan)
  · exact hlimited other

def Action.Numeric (action : Action) : Prop := ∀ lane, action ≠ .call (.setConcurrency lane .nan)

theorem limited_step {action : Action} (hlimited : process.Limited) (hnumeric : action.Numeric)
    (hstep : step process action = some next) : next.Limited := by
  cases action with
  | call call =>
    simp only [step, Option.ite_none_right_eq_some, Option.some.injEq] at hstep
    rw [← hstep.2]
    cases call with
    | setConcurrency lane number =>
      refine hlimited.setCommandLaneConcurrency lane ?_
      rintro rfl
      exact hnumeric lane rfl
    | enqueue lane =>
      simp only [call, enqueueCommandInLane]
      split_ifs
      · exact hlimited
      · refine hlimited.congr fun other => ?_
        rw [maxConcurrent_drainLane]
        exact maxConcurrent_setLane (by rfl) other
    | clear lane =>
      simp only [call, clearCommandLane]
      split_ifs
      · exact hlimited.congr (maxConcurrent_setLane (by rfl))
      · exact hlimited
    | resetAll => exact hlimited.congr maxConcurrent_resetAllLanes
    | markGatewayDraining => exact hlimited
  | suspend =>
    simp only [step] at hstep
    split at hstep
    · rw [← Option.some.inj hstep]
      exact hlimited
    · simp at hstep
  | throwSync error =>
    simp only [step] at hstep
    split at hstep
    · rw [← Option.some.inj hstep]
      exact hlimited.congr (maxConcurrent_finishTask _ _ _)
    · simp at hstep
  | complete task outcome =>
    simp only [step] at hstep
    split at hstep
    · simp only [Option.ite_none_right_eq_some, Option.some.injEq] at hstep
      rw [← hstep.2]
      exact hlimited.congr (maxConcurrent_finishTask _ _ _)
    · simp at hstep
  | advance =>
    simp only [step] at hstep
    split at hstep
    · rw [← Option.some.inj hstep]
      exact hlimited.congr (maxConcurrent_pumpOnce _ _)
    · rw [← Option.some.inj hstep]
      exact hlimited
    · rw [← Option.some.inj hstep]
      exact hlimited.congr fun lane => by simp
    · rw [← Option.some.inj hstep]
      exact hlimited
    · simp at hstep

theorem initial_limited : initial.Limited := fun _ => rfl

/-- A lane that is not being pumped and has waiting entries is full. -/
def Process.Unstalled (process : Process) : Prop :=
  ∀ lane, ¬ process.Pumping lane → (process.lane lane).queue ≠ [] →
    le (process.lane lane).maxConcurrent (.ofNat (process.active lane).length) = true ∧
      le (.ofNat 1) (process.lane lane).maxConcurrent = true

theorem Process.Reachable.unstalled (hreach : process.Reachable) (hlimited : process.Limited) :
    process.Unstalled := by
  intro lane hidle hqueue
  have hone := hlimited lane
  refine ⟨?_, hone⟩
  have hfull : (process.lane lane).hasRoom = false := by
    by_contra hroom
    exact hidle (hreach.workConserving.pumping lane hqueue (by simpa using hroom))
  rw [hreach.hasRoom_eq] at hfull
  refine le_of_not_lt ?_ (by simp [ofNat]) hfull
  intro hnan
  simp [hnan, ofNat, le] at hone

theorem Process.Unstalled.executing (hunstalled : process.Unstalled) (hstack : process.stack = [])
    {lane : JsString} (hqueue : (process.ledger lane).queue ≠ []) :
    (process.ledger lane).executing ≠ 0 := by
  have hidle : ¬ process.Pumping lane := by
    simp [Process.Pumping, hstack]
  obtain ⟨hfull, hone⟩ := hunstalled lane hidle hqueue
  have hpos := pos_of_le_ofNat hone hfull
  obtain ⟨task, htask⟩ := List.exists_mem_of_length_pos hpos
  have hmem : task ∈ process.unfinished lane := (List.mem_filter.mp htask).1
  intro hzero
  have hentry : task.entry ∈ (process.ledger lane).executing :=
    Multiset.mem_coe.mpr (List.mem_map_of_mem hmem)
  rw [hzero] at hentry
  exact absurd hentry (Multiset.notMem_zero _)

theorem ledger_execution (execution : Execution step initial) (lane : JsString) (time : ℕ) :
    FifoLedger.Step (laneCleared lane) ((execution.state time).ledger lane)
      ((execution.state (time + 1)).ledger lane) :=
  ledger_transition (entriesNumbered (execution.reachable time))
    (transition_of_step (execution.next time)) lane

/-- Without a limit of NaN no reachable state has a stalled lane; and in an
infinite execution in which synchronous code always returns, every entry
leaves the queue of a lane whose started tasks all complete. -/
theorem commandLane_neverStalls (lane : JsString) :
    (∀ actions process, (∀ action ∈ actions, action.Numeric) →
      run step initial actions = some process → process.Unstalled) ∧
      ∀ execution : Execution step initial, (∀ time, (execution.action time).Numeric) →
        (∀ time, ∃ later, time ≤ later ∧ (execution.state later).stack = []) →
        (∀ time, ∀ entry ∈ ((execution.state time).ledger lane).started,
            ∃ later, entry ∈ (((execution.state later).ledger lane).completed.map Prod.fst)) →
        ∀ entry time, ∃ later, time ≤ later ∧
          entry ∉ ((execution.state later).lane lane).queue := by
  constructor
  · intro actions process hnumeric hrun
    have hguarded : Guarded step (fun _ action => action.Numeric)
        initial actions := guarded_of_actions _ hnumeric
    have hlimited : process.Limited := by
      refine run_guarded_invariant Process.Limited ?_ initial_limited hguarded hrun
      exact fun hlimited hnumeric hstep =>
        limited_step hlimited hnumeric hstep
    exact unstalled ⟨actions, hrun⟩ hlimited
  · intro execution hnumeric hturns hfinish
    have hreach := execution.reachable
    have hlimited : ∀ time, (execution.state time).Limited :=
      execution.invariant_at Process.Limited
        (fun hlimited hnumeric hstep => limited_step hlimited hnumeric hstep)
        initial_limited hnumeric
    have hbusy : ∀ time, ∃ later, time ≤ later ∧ (((execution.state later).ledger lane).queue ≠ [] →
          ((execution.state later).ledger lane).executing ≠ 0) := by
      intro time
      obtain ⟨later, hle, hstack⟩ := hturns time
      exact ⟨later, hle, fun hqueue =>
        (unstalled (hreach later) (hlimited later)).executing hstack hqueue⟩
    exact FifoLedger.eventually_leaves (ledger_execution execution lane)
      (fun time => balanced (hreach time) lane)
      hbusy hfinish

/-- The second of two tasks waits for the first; in the execution that goes on
idly once both have completed, it has left the queue. -/
theorem commandLane_neverStalls_two_tasks : (∃ process, run step initial
        [.call (.enqueue (js "main")), .advance, .suspend, .advance,
          .call (.enqueue (js "main")), .advance] = some process ∧
        process.Unstalled) ∧
      ∃ execution : Execution step initial,
        ((execution.state 6).lane (js "main")).queue = [1] ∧ ∃ later, 6 ≤ later ∧
            1 ∉ ((execution.state later).lane (js "main")).queue := by
  constructor
  · refine Exists.imp (fun process hrun =>
      ⟨hrun, (commandLane_neverStalls (js "main")).1 _ process
        (by simp [Action.Numeric]) hrun⟩) (Option.isSome_iff_exists.mp ?_)
    decide
  · let actions : List Action :=
      [.call (.enqueue (js "main")), .advance, .suspend, .advance,
        .call (.enqueue (js "main")), .advance,
        .complete ⟨0, js "main", 1, 0⟩ (.fulfilled []), .advance, .suspend,
        .advance, .advance, .complete ⟨1, js "main", 2, 0⟩ (.failed []),
        .advance, .advance]
    have hview : (run step initial actions).map (fun process =>
        (process.stack.isEmpty, process.lanes.has (js "other"),
          (process.ledger (js "main")).started,
          (process.ledger (js "main")).completed.map Prod.fst)) =
        some (true, false, [0, 1], [0, 1]) := by rfl
    obtain ⟨final, hrun, hfinal⟩ := Option.map_eq_some_iff.mp hview
    simp only [Prod.mk.injEq, List.isEmpty_iff] at hfinal
    obtain ⟨hstack, hother, hstarted, hcompleted⟩ := hfinal
    have hidle : step final (.call (.clear (js "other"))) = some final := by
      have hname : normalizeLane (js "other") = js "other" := by decide
      simp [step, callerInControl, hstack, call, clearCommandLane, hname, hother]
    let execution := Execution.idleAfter actions hrun hidle
    have hafter : ∀ time, actions.length ≤ time → execution.state time = final := fun time hle =>
      Execution.idleAfter_state hrun hidle hle
    refine ⟨execution, rfl, (commandLane_neverStalls (js "main")).2 execution ?_ ?_ ?_ 1 6⟩
    · intro time
      rcases Nat.lt_or_ge time actions.length with hlt | hge
      · have hmem : execution.action time ∈ actions := by
          change actions.getD time _ ∈ actions
          rw [List.getD_eq_getElem _ _ hlt]
          exact List.getElem_mem hlt
        have hall : ∀ action ∈ actions, action.Numeric := by
          simp [actions, Action.Numeric]
        exact hall _ hmem
      · change (actions.getD time _).Numeric
        rw [List.getD_eq_default _ _ hge]
        simp [Action.Numeric]
    · intro time
      refine ⟨max time actions.length, le_max_left _ _, ?_⟩
      rw [hafter _ (le_max_right _ _), hstack]
    · intro time entry hentry
      have hprefix := FifoLedger.started_grows_of_le (ledger_execution execution (js "main"))
        (le_max_left time actions.length)
      have hmem := hprefix.subset hentry
      rw [hafter _ (le_max_right _ _), hstarted] at hmem
      refine ⟨actions.length, ?_⟩
      rw [hafter _ le_rfl, hcompleted]
      exact hmem

/-- `setCommandLaneConcurrency("main", NaN)` before the first enqueue: the
entry waits, nothing is active, and no pump is on the stack. -/
theorem commandLane_stalls_on_nan : ∃ process, run step initial
      [.call (.setConcurrency (js "main") .nan), .advance,
        .call (.enqueue (js "main")), .advance] = some process ∧
      process.stack = [] ∧ process.running = [] ∧ ¬ process.Unstalled := by
  apply exists_of_view (by rfl : Option.map (fun process =>
      (process.stack.isEmpty, process.running, process.lane (js "main"))) _ =
    some (true, [], { LaneState.created with
      queue := [0]
      maxConcurrent := .nan }))
  intro process hstuck _
  simp only [Prod.mk.injEq, List.isEmpty_iff] at hstuck
  obtain ⟨hstack, hrunning, hlane⟩ := hstuck
  refine ⟨hstack, hrunning, fun hunstalled => ?_⟩
  have hidle : ¬ process.Pumping (js "main") := by
    simp [Process.Pumping, hstack]
  obtain ⟨-, hone⟩ := hunstalled (js "main") hidle (by simp [hlane])
  simp [hlane, ofNat, le] at hone

end LittleBaby.CommandQueue
