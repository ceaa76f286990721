import LittleBaby.CommandQueueModel
import LittleBaby.FifoLedger

/-!
# The ledger of a command lane

Each lane of the command queue is read as a first-in first-out ledger.
-/

namespace LittleBaby.CommandQueue

open LabelledMachine Process CommandQueue.Frame FifoLedger.Step LabelledMachine.Reachable

/-! ## The operations on lanes -/

namespace Process

variable (process : Process)

section

variable (name : JsString) (state : LaneState)

include name state

@[simp] theorem stack_setLane : (process.setLane name state).stack = process.stack := rfl

@[simp] theorem running_setLane : (process.setLane name state).running = process.running := rfl

@[simp] theorem transcript_setLane :
    (process.setLane name state).transcript = process.transcript := rfl

@[simp] theorem nextEntry_setLane :
    (process.setLane name state).nextEntry = process.nextEntry := rfl

@[simp] theorem nextTaskId_setLane :
    (process.setLane name state).nextTaskId = process.nextTaskId := rfl

end

variable (name : JsString) (stack : List Frame)

@[simp] theorem stack_withStack : (process.withStack stack).stack = stack := rfl

@[simp] theorem running_withStack : (process.withStack stack).running = process.running := rfl

@[simp] theorem transcript_withStack :
    (process.withStack stack).transcript = process.transcript := rfl

@[simp] theorem nextEntry_withStack : (process.withStack stack).nextEntry = process.nextEntry := rfl

@[simp] theorem nextTaskId_withStack :
    (process.withStack stack).nextTaskId = process.nextTaskId := rfl

@[simp] theorem lane_withStack (name : JsString) :
    (process.withStack stack).lane name = process.lane name := rfl

section

variable (observations : List Observation)

include observations

@[simp] theorem stack_observe : (process.observe observations).stack = process.stack := rfl

@[simp] theorem running_observe : (process.observe observations).running = process.running := rfl

@[simp] theorem transcript_observe : (process.observe observations).transcript =
      process.transcript ++ observations := rfl

@[simp] theorem lane_observe (name : JsString) :
    (process.observe observations).lane name = process.lane name := rfl

end

variable (other : JsString)

theorem lane_setLane (state : LaneState) : (process.setLane name state).lane other =
      if other = name then state else process.lane other := by
  unfold lane setLane
  simp only [InsertionMap.get?_set]
  split_ifs <;> rfl

@[simp] theorem lane_setLane_self (state : LaneState) :
    (process.setLane name state).lane name = state := by
  simp [lane_setLane]

@[simp] theorem lane_setLane_of_ne {name other : JsString}
    (state : LaneState) (hne : other ≠ name) :
    (process.setLane name state).lane other = process.lane other := by
  simp [lane_setLane, hne]

theorem drainLane_cases : ((process.lane name).draining = true ∧ process.drainLane name = process) ∨
      (process.lane name).draining = false ∧ process.drainLane name =
          (process.setLane name { process.lane name with draining := true }).withStack
            (.pump name :: process.stack) := by
  unfold drainLane
  cases hdraining : (process.lane name).draining
  · exact .inr ⟨rfl, by simp [hdraining]⟩
  · exact .inl ⟨rfl, by simp [hdraining]⟩

@[simp] theorem running_drainLane : (process.drainLane name).running = process.running := by
  rcases process.drainLane_cases name with ⟨-, heq⟩ | ⟨-, heq⟩ <;> simp [heq]

@[simp] theorem transcript_drainLane :
    (process.drainLane name).transcript = process.transcript := by
  rcases process.drainLane_cases name with ⟨-, heq⟩ | ⟨-, heq⟩ <;> simp [heq]

@[simp] theorem nextEntry_drainLane : (process.drainLane name).nextEntry = process.nextEntry := by
  rcases process.drainLane_cases name with ⟨-, heq⟩ | ⟨-, heq⟩ <;> simp [heq]

@[simp] theorem nextTaskId_drainLane :
    (process.drainLane name).nextTaskId = process.nextTaskId := by
  rcases process.drainLane_cases name with ⟨-, heq⟩ | ⟨-, heq⟩ <;> simp [heq]

theorem lane_drainLane : ∃ draining, (process.drainLane name).lane other =
      { process.lane other with draining := draining } := by
  rcases process.drainLane_cases name with ⟨-, heq⟩ | ⟨-, heq⟩
  · exact ⟨(process.lane other).draining, by rw [heq]⟩
  · rw [heq, lane_withStack, lane_setLane]
    split_ifs with hother
    · exact ⟨true, by rw [hother]⟩
    · exact ⟨(process.lane other).draining, rfl⟩

@[simp] theorem queue_drainLane : ((process.drainLane name).lane other).queue =
      (process.lane other).queue := by
  obtain ⟨draining, heq⟩ := process.lane_drainLane name other
  rw [heq]

@[simp] theorem activeTaskIds_drainLane : ((process.drainLane name).lane other).activeTaskIds =
      (process.lane other).activeTaskIds := by
  obtain ⟨draining, heq⟩ := process.lane_drainLane name other
  rw [heq]

@[simp] theorem maxConcurrent_drainLane : ((process.drainLane name).lane other).maxConcurrent =
      (process.lane other).maxConcurrent := by
  obtain ⟨draining, heq⟩ := process.lane_drainLane name other
  rw [heq]

@[simp] theorem generation_drainLane : ((process.drainLane name).lane other).generation =
      (process.lane other).generation := by
  obtain ⟨draining, heq⟩ := process.lane_drainLane name other
  rw [heq]

theorem lane_resetAllLanes : process.resetAllLanes.lane name = (process.lane name).reset ∨
      process.lane name = .created ∧ process.resetAllLanes.lane name = .created := by
  unfold lane resetAllLanes
  simp only [InsertionMap.get?_mapValues]
  cases process.lanes.get? name with
  | none => exact .inr ⟨rfl, rfl⟩
  | some state => exact .inl rfl

@[simp] theorem queue_resetAllLanes :
    (process.resetAllLanes.lane name).queue = (process.lane name).queue := by
  rcases process.lane_resetAllLanes name with heq | ⟨hcreated, heq⟩
  · rw [heq]
    rfl
  · rw [heq, hcreated]

end Process

/-! ## Reading a lane as a ledger -/

variable (lane : JsString)

@[simp] def Observation.enqueuedIn : Observation → Option ℕ
  | .enqueued name entry => if name = lane then some entry else none
  | _ => none

@[simp] def Observation.startedIn : Observation → Option ℕ
  | .started name entry => if name = lane then some entry else none
  | _ => none

@[simp] def Observation.clearedIn : Observation → Option ℕ
  | .cleared name entry => if name = lane then some entry else none
  | _ => none

@[simp] def Observation.completedIn : Observation → Option (ℕ × Settlement)
  | .completed name entry outcome =>
    if name = lane then some (entry, outcome.settlement) else none
  | _ => none

@[simp] def Observation.settledIn : Observation → Option (ℕ × Settlement)
  | .settled name entry settlement =>
    if name = lane then some (entry, settlement) else none
  | _ => none

@[simp] def Frame.task? : Frame → Option Task
  | .task started => some started
  | _ => none

@[simp] def Frame.settlingIn : Frame → Option (ℕ × Settlement)
  | .settle name entry settlement =>
    if name = lane then some (entry, settlement) else none
  | _ => none

def unfinishedOf (stack : List Frame) (running : List Task) (lane : JsString) : List Task :=
  (stack.filterMap task? ++ running).filter fun task => task.lane = lane

def ledgerOf (queue : List ℕ) (stack : List Frame) (running : List Task)
    (transcript : List Observation) (lane : JsString) :
    FifoLedger ℕ Settlement where
  enqueued := transcript.filterMap (Observation.enqueuedIn lane)
  queue := queue
  started := transcript.filterMap (Observation.startedIn lane)
  cleared := transcript.filterMap (Observation.clearedIn lane)
  executing := ((unfinishedOf stack running lane).map Task.entry : List ℕ)
  completed := transcript.filterMap (Observation.completedIn lane)
  settling := (stack.filterMap (settlingIn lane) : List (ℕ × Settlement))
  settled := transcript.filterMap (Observation.settledIn lane)

def Process.unfinished (process : Process) (lane : JsString) : List Task :=
  unfinishedOf process.stack process.running lane

def Process.ledger (process : Process) (lane : JsString) : FifoLedger ℕ Settlement :=
  ledgerOf (process.lane lane).queue process.stack process.running process.transcript lane

abbrev laneCleared : Settlement := .rejected (.commandLaneCleared lane)

@[simp] theorem Process.ledger_drainLane (process : Process) (name lane : JsString) :
    (process.drainLane name).ledger lane = process.ledger lane := by
  unfold ledger
  rw [queue_drainLane, running_drainLane, transcript_drainLane]
  rcases process.drainLane_cases name with ⟨-, heq⟩ | ⟨-, heq⟩
  · rw [heq]
  · rw [heq]
    rfl

def Process.EntriesNumbered (process : Process) : Prop :=
  ∀ lane, ∀ entry ∈ (process.ledger lane).enqueued, entry < process.nextEntry

/-! ## Every transition is at most one event of each ledger -/

section Events

variable {process : Process} (lane : JsString)

theorem ledger_pushEntry (hnumbered : process.EntriesNumbered) (name : JsString) :
    FifoLedger.Step (laneCleared lane) (process.ledger lane)
      ((process.pushEntry name).ledger lane) := by
  by_cases hlane : name = lane
  · subst name
    have heq : (process.pushEntry lane).ledger lane =
        (process.ledger lane).enqueue process.nextEntry := by
      simp [Process.pushEntry, Process.ledger, ledgerOf, FifoLedger.enqueue,
        Process.lane, Process.setLane, Process.observe]
    rw [heq]
    refine FifoLedger.Step.enqueue _ _ fun hmem => ?_
    exact absurd (hnumbered lane _ hmem) (lt_irrefl _)
  · have heq : (process.pushEntry name).ledger lane = process.ledger lane := by
      simp [Process.pushEntry, Process.ledger, ledgerOf, Process.lane,
        Process.setLane, Process.observe, hlane, Ne.symm hlane]
    rw [heq]
    exact FifoLedger.Step.idle _

variable {name : JsString}

theorem ledger_setLane {state : LaneState} (hqueue : state.queue = (process.lane name).queue) :
    (process.setLane name state).ledger lane = process.ledger lane := by
  have heq : ((process.setLane name state).lane lane).queue = (process.lane lane).queue := by
    rw [lane_setLane]
    split_ifs with hlane
    · rw [hlane, hqueue]
    · rfl
  unfold ledger
  rw [heq]
  rfl

theorem filterMap_clear {Event : Type} (read : Observation → Option Event)
    (entries : List ℕ) (name : JsString) :
    (entries.flatMap fun entry =>
        [Observation.cleared name entry, .settled name entry (laneCleared name)]).filterMap read =
      entries.flatMap fun entry =>
        [Observation.cleared name entry,
          .settled name entry (laneCleared name)].filterMap read := by
  induction entries with
  | nil => rfl
  | cons entry rest ih =>
    rw [List.flatMap_cons, List.filterMap_append, ih, List.flatMap_cons]

theorem ledger_clearQueue (name : JsString) :
    FifoLedger.Step (laneCleared lane) (process.ledger lane)
      ((process.clearQueue name).ledger lane) := by
  by_cases hlane : name = lane
  · subst name
    have heq : (process.clearQueue lane).ledger lane =
        (process.ledger lane).clear (laneCleared lane) := by
      simp [clearQueue, ledger, ledgerOf, FifoLedger.clear,
        filterMap_clear, List.filterMap_cons, List.map_eq_flatMap]
    rw [heq]
    exact clear _
  · have heq : (process.clearQueue name).ledger lane = process.ledger lane := by
      simp [clearQueue, ledger, ledgerOf, filterMap_clear,
        List.filterMap_cons, hlane, Ne.symm hlane]
    rw [heq]
    exact idle _

theorem ledger_resetAllLanes : process.resetAllLanes.ledger lane = process.ledger lane := by
  unfold ledger
  rw [queue_resetAllLanes]
  rfl

theorem unfinishedOf_suspend (task : Task) (rest : List Frame) (running : List Task) :
    (unfinishedOf rest (running ++ [task]) lane).Perm
      (unfinishedOf (.task task :: rest) running lane) := by
  apply List.Perm.filter
  rw [← List.append_assoc]
  exact List.perm_append_singleton _ _

variable {rest : List Frame}

theorem ledger_suspend {task : Task} (hstack : process.stack = .task task :: rest) :
    ({ process with running := process.running ++ [task] }.withStack
        rest).ledger lane = process.ledger lane := by
  have hperm := (unfinishedOf_suspend lane task rest process.running).map Task.entry
  simp only [ledger, ledgerOf, hstack, stack_withStack, running_withStack, transcript_withStack,
    Multiset.coe_eq_coe.mpr hperm]
  rfl

theorem ledger_startHead {entry : ℕ} {queue : List ℕ} (hstack : process.stack = .pump name :: rest)
    (hqueue : (process.lane name).queue = entry :: queue) :
    FifoLedger.Step (laneCleared lane) (process.ledger lane)
      ((process.startHead name entry queue rest).ledger lane) := by
  by_cases hlane : name = lane
  · subst name
    have heq : (process.startHead lane entry queue rest).ledger lane =
        (process.ledger lane).start entry queue := by
      simp [Process.startHead, Process.ledger, ledgerOf, FifoLedger.start,
        unfinishedOf, List.filterMap_cons, hstack, Process.lane,
        Process.setLane, Process.observe, Process.withStack]
    rw [heq]
    exact FifoLedger.Step.start _ _ _ hqueue
  · have heq : (process.startHead name entry queue rest).ledger lane = process.ledger lane := by
      simp [Process.startHead, Process.ledger, ledgerOf, unfinishedOf,
        List.filterMap_cons, hstack, hlane, Ne.symm hlane, Process.lane,
        Process.setLane, Process.observe, Process.withStack]
    rw [heq]
    exact FifoLedger.Step.idle _

theorem ledger_settle {entry : ℕ} {settlement : Settlement}
    (hstack : process.stack = .settle name entry settlement :: rest) :
    FifoLedger.Step (laneCleared lane) (process.ledger lane) (((process.withStack rest).observe
        [.settled name entry settlement]).ledger lane) := by
  by_cases hlane : name = lane
  · subst name
    have heq : ((process.withStack rest).observe [.settled lane entry settlement]).ledger lane =
          (process.ledger lane).settle (entry, settlement)
            (rest.filterMap (settlingIn lane) : List (ℕ × Settlement)) := by
      simp [ledger, ledgerOf, FifoLedger.settle, unfinishedOf, List.filterMap_cons, hstack]
    rw [heq]
    refine settle _ _ _ ?_
    simp [ledger, ledgerOf, hstack]
  · have heq : ((process.withStack rest).observe [.settled name entry settlement]).ledger lane =
          process.ledger lane := by
      simp [ledger, ledgerOf, unfinishedOf, List.filterMap_cons, hstack, hlane]
    rw [heq]
    exact idle _

/-! ### The end of a task -/

variable (task : Task) (outcome : Outcome) (rest : List Frame)

@[simp] theorem queue_finishTask : ((process.finishTask task outcome rest).lane lane).queue =
      (process.lane lane).queue := by
  simp only [finishTask]
  split_ifs
  · rw [lane_withStack, lane_setLane]
    split_ifs with hlane
    · rw [hlane]
    · rfl
  · rfl

@[simp] theorem running_finishTask :
    (process.finishTask task outcome rest).running = process.running := by
  simp only [finishTask]
  split_ifs <;> rfl

@[simp] theorem transcript_finishTask : (process.finishTask task outcome rest).transcript =
      process.transcript ++ [.completed task.lane task.entry outcome] := by
  simp only [finishTask]
  split_ifs <;> rfl

@[simp] theorem nextEntry_finishTask :
    (process.finishTask task outcome rest).nextEntry = process.nextEntry := by
  simp only [finishTask]
  split_ifs <;> rfl

theorem stack_finishTask (process : Process) :
    ∃ pumps : List Frame, (pumps = [.pump task.lane] ∨ pumps = []) ∧
      (process.finishTask task outcome rest).stack =
        pumps ++ .settle task.lane task.entry outcome.settlement :: rest := by
  simp only [finishTask]
  split_ifs
  · exact ⟨[.pump task.lane], .inl rfl, rfl⟩
  · exact ⟨[], .inr rfl, rfl⟩

theorem ledger_finishTask (process : Process) (task : Task)
    (outcome : Outcome) (rest : List Frame) {before : Process}
    (hqueue : (process.lane lane).queue = (before.lane lane).queue)
    (htranscript : process.transcript = before.transcript)
    (hunfinished : (before.unfinished lane).Perm
      (unfinishedOf (.task task :: rest) process.running lane))
    (hsettling : before.stack.filterMap (settlingIn lane) = rest.filterMap (settlingIn lane)) :
    FifoLedger.Step (laneCleared lane) (before.ledger lane)
      ((process.finishTask task outcome rest).ledger lane) := by
  obtain ⟨pumps, hpumps, hstack⟩ := stack_finishTask task outcome rest process
  have hexecuting := Multiset.coe_eq_coe.mpr (hunfinished.map Task.entry)
  unfold unfinished at hexecuting
  have htasks : unfinishedOf (pumps ++ .settle task.lane task.entry outcome.settlement :: rest)
      process.running lane = unfinishedOf rest process.running lane := by
    rcases hpumps with rfl | rfl <;> simp [unfinishedOf, List.filterMap_cons]
  have hsettle : (pumps ++ .settle task.lane task.entry outcome.settlement ::
          rest).filterMap (settlingIn lane) =
        (settle task.lane task.entry outcome.settlement :: rest).filterMap (settlingIn lane) := by
    rcases hpumps with rfl | rfl <;> simp [List.filterMap_cons]
  by_cases hlane : task.lane = lane
  · have heq : (process.finishTask task outcome rest).ledger lane =
        (before.ledger lane).complete task.entry
          ((unfinishedOf rest process.running lane).map Task.entry : List ℕ)
          outcome.settlement := by
      simp only [ledger, ledgerOf, hstack, htasks, hsettle,
        hqueue, htranscript, queue_finishTask, running_finishTask,
        transcript_finishTask]
      simp [FifoLedger.complete, List.filterMap_cons, hsettling, hlane]
    rw [heq]
    refine complete _ _ _ _ ?_
    simpa [ledger, ledgerOf, unfinishedOf, hlane] using hexecuting
  · have heq : (process.finishTask task outcome rest).ledger lane = before.ledger lane := by
      have hrest : unfinishedOf (.task task :: rest) process.running lane =
          unfinishedOf rest process.running lane := by
        simp [unfinishedOf, hlane]
      rw [hrest] at hexecuting
      simp only [ledger, ledgerOf, hstack, htasks, hsettle, hsettling,
        hqueue, htranscript, hexecuting, queue_finishTask,
        running_finishTask, transcript_finishTask]
      simp [List.filterMap_cons, hlane]
    rw [heq]
    exact idle _

end Events

theorem ledger_withStack (process : Process) {frame : Frame} {rest : List Frame} (lane : JsString)
    (hstack : process.stack = frame :: rest) (htask : frame.task? = none)
    (hsettle : frame.settlingIn lane = none) :
    (process.withStack rest).ledger lane = process.ledger lane := by
  have htasks : (frame :: rest).filterMap task? =
      rest.filterMap task? := List.filterMap_cons_none htask
  have hsettling : (frame :: rest).filterMap (settlingIn lane) = rest.filterMap (settlingIn lane) :=
    List.filterMap_cons_none hsettle
  simp only [ledger, ledgerOf, unfinishedOf, hstack, htasks,
    hsettling, stack_withStack, lane_withStack,
    running_withStack, transcript_withStack]

variable {process next : Process}

theorem ledger_transition (hnumbered : process.EntriesNumbered)
    (htransition : Transition process next) (lane : JsString) :
    FifoLedger.Step (laneCleared lane) (process.ledger lane) (next.ledger lane) := by
  cases htransition with
  | flag => exact idle _
  | enqueue name =>
    rw [ledger_drainLane]
    exact ledger_pushEntry lane hnumbered name
  | setConcurrency name maxConcurrent =>
    have heq : (process.setMaxConcurrent name maxConcurrent).ledger lane =
        process.ledger lane := ledger_setLane lane rfl
    rw [ledger_drainLane, heq]
    exact idle _
  | clear name => exact ledger_clearQueue lane name
  | resetAll =>
    rw [ledger_resetAllLanes]
    exact idle _
  | suspend task rest hstack =>
    rw [ledger_suspend lane hstack]
    exact idle _
  | throwSync task error rest hstack =>
    apply ledger_finishTask lane process task (.failed error) rest rfl rfl
    · rw [unfinished, hstack]
    · simp [hstack, List.filterMap_cons]
  | complete task outcome hstack hrunning =>
    refine ledger_finishTask lane { process with running := process.running.erase task }
      task outcome [] rfl rfl ?_ ?_
    · rw [unfinished, hstack]
      exact (List.perm_cons_erase hrunning).filter _
    · simp [hstack]
  | start name entry queue rest hstack hqueue hroom =>
    exact ledger_startHead lane hstack hqueue
  | leave name rest hstack hdone =>
    have hset : (process.setLane name { process.lane name with draining := false }).ledger lane =
          process.ledger lane := ledger_setLane lane rfl
    have heq : (process.leavePump name rest).ledger lane = process.ledger lane :=
      (ledger_withStack (process.setLane name _) lane hstack rfl rfl).trans hset
    rw [heq]
    exact idle _
  | settle name entry settlement rest hstack =>
    exact ledger_settle lane hstack
  | drainNext name names rest hstack =>
    have heq : (process.withStack (.drainEach names :: rest)).ledger lane =
        process.ledger lane := by
      simp [ledger, ledgerOf, unfinishedOf, hstack, List.filterMap_cons]
    rw [ledger_drainLane, heq]
    exact idle _
  | drainDone rest hstack =>
    rw [ledger_withStack process lane hstack rfl rfl]
    exact idle _

theorem enqueued_transition (htransition : Transition process next) :
    (next.nextEntry = process.nextEntry ∧ ∀ lane,
        (next.ledger lane).enqueued = (process.ledger lane).enqueued) ∨
      ∃ name, next.nextEntry = process.nextEntry + 1 ∧ ∀ lane,
        (next.ledger lane).enqueued = (process.ledger lane).enqueued ++
          if name = lane then [process.nextEntry] else [] := by
  cases htransition with
  | enqueue name =>
    refine .inr ⟨name, by simp [pushEntry, observe], ?_⟩
    intro lane
    by_cases hlane : name = lane <;> simp [pushEntry, ledger, ledgerOf, hlane, List.filterMap_cons]
  | clear name =>
    refine .inl ⟨rfl, fun lane => ?_⟩
    simp [clearQueue, ledger, ledgerOf, filterMap_clear]
  | flag | resetAll | leave | suspend | drainDone =>
    exact .inl ⟨rfl, fun _ => rfl⟩
  | setConcurrency name maxConcurrent =>
    exact .inl ⟨by simp [setMaxConcurrent], fun lane => by
      rw [ledger_drainLane]; rfl⟩
  | throwSync | complete =>
    exact .inl ⟨by simp, fun lane => by
      simp [ledger, ledgerOf]⟩
  | start | settle =>
    exact .inl ⟨rfl, fun lane => by
      simp [startHead, ledger, ledgerOf]⟩
  | drainNext name names rest hstack =>
    exact .inl ⟨by simp, fun lane => by
      rw [ledger_drainLane]; rfl⟩

theorem entriesNumbered_transition (hnumbered : process.EntriesNumbered)
    (htransition : Transition process next) : next.EntriesNumbered := by
  intro lane entry hentry
  rcases enqueued_transition htransition with
    ⟨hnext, hledger⟩ | ⟨name, hnext, hledger⟩
  · rw [hledger] at hentry
    rw [hnext]
    exact hnumbered lane entry hentry
  · rw [hledger, List.mem_append] at hentry
    rw [hnext]
    rcases hentry with hentry | hentry
    · exact Nat.lt_succ_of_lt (hnumbered lane entry hentry)
    · split_ifs at hentry
      · simp only [List.mem_singleton] at hentry
        omega
      · simp at hentry

abbrev Process.Reachable (process : Process) : Prop :=
  LabelledMachine.Reachable step initial process

theorem initial_entriesNumbered : initial.EntriesNumbered := by
  intro lane entry hentry
  simp [initial, ledger, ledgerOf] at hentry

theorem Process.Reachable.entriesNumbered (hreach : process.Reachable) : process.EntriesNumbered :=
  invariant Process.EntriesNumbered (fun hnumbered hstep =>
      entriesNumbered_transition hnumbered (transition_of_step hstep))
    initial_entriesNumbered hreach

theorem Process.Reachable.balanced (hreach : process.Reachable) (lane : JsString) :
    (process.ledger lane).Balanced (laneCleared lane) := by
  have hboth : process.EntriesNumbered ∧ (process.ledger lane).Balanced (laneCleared lane) := by
    refine invariant (fun process => process.EntriesNumbered ∧
        (process.ledger lane).Balanced (laneCleared lane))
      (fun hinv hstep => ?_) ?_ hreach
    · have htransition := transition_of_step hstep
      exact ⟨entriesNumbered_transition hinv.1 htransition,
        hinv.2.step (ledger_transition hinv.1 htransition lane)⟩
    · refine ⟨initial_entriesNumbered, ?_⟩
      exact FifoLedger.empty_balanced
  exact hboth.2

theorem Process.Reachable.lane_unique
    (hreach : process.Reachable) {lane other : JsString} {entry : ℕ}
    (hlane : entry ∈ (process.ledger lane).enqueued)
    (hother : entry ∈ (process.ledger other).enqueued) : lane = other := by
  have hboth : process.EntriesNumbered ∧ ∀ lane other entry,
      entry ∈ (process.ledger lane).enqueued →
        entry ∈ (process.ledger other).enqueued → lane = other := by
    refine invariant (fun process => process.EntriesNumbered ∧
        ∀ lane other entry, entry ∈ (process.ledger lane).enqueued →
          entry ∈ (process.ledger other).enqueued → lane = other)
      (fun {before after action} hinv hstep => ?_) ?_ hreach
    · have htransition := transition_of_step hstep
      refine ⟨entriesNumbered_transition hinv.1 htransition, ?_⟩
      intro lane other entry hlane hother
      rcases enqueued_transition htransition with
        ⟨-, hledger⟩ | ⟨name, -, hledger⟩
      · rw [hledger] at hlane hother
        exact hinv.2 lane other entry hlane hother
      · have hnew : ∀ lane', entry ∈ (before.ledger lane').enqueued →
            entry ≠ before.nextEntry := fun lane' hmem =>
          (hinv.1 lane' entry hmem).ne
        rw [hledger, List.mem_append] at hlane hother
        split_ifs at hlane hother with hname hname' hname' <;>
          simp only [List.mem_singleton, List.not_mem_nil, or_false] at hlane hother
        · exact hname.symm.trans hname'
        · rcases hlane with hlane | hlane
          · exact hinv.2 lane other entry hlane hother
          · exact absurd hlane (hnew other hother)
        · rcases hother with hother | hother
          · exact hinv.2 lane other entry hlane hother
          · exact absurd hother (hnew lane hlane)
        · exact hinv.2 lane other entry hlane hother
    · refine ⟨initial_entriesNumbered, ?_⟩
      intro lane other entry hlane
      simp [initial, ledger, ledgerOf] at hlane
  exact hboth.2 lane other entry hlane hother

end LittleBaby.CommandQueue
