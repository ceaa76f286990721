import LittleBaby.ReplyDispatcher
import Mathlib.Data.List.Basic
import Mathlib.Tactic.SplitIfs

/-!
# Deliveries of the reply dispatcher

A link does not call `deliver` when the promise it hangs on is rejected, and
that is so when `onError` has thrown for the link before it.
-/

namespace LittleBaby.ReplyDispatcher

open Event ReplyDispatcher LabelledMachine

variable {Payload : Type*} (options : ReplyDispatcherOptions)

def DeliverOutcome.failing : DeliverOutcome → Bool
  | .resolves => false
  | .rejects => true
  | .throws => true

def skips : ℕ → Bool
  | 0 => false
  | index + 1 =>
    (skips index || (options.deliver index).failing) && options.onErrorThrows index

def linkEvents (entry : Link Payload × ℕ) : List (Event Payload) :=
  if skips options entry.2 then []
  else
    [.deliverStarted entry.2 entry.1.kind entry.1.normalized, .deliverSettled entry.2]

def phaseEvents (entry : Link Payload × ℕ) : LinkPhase → List (Event Payload)
  | .waiting => []
  | .sleeping => []
  | .delivering => [.deliverStarted entry.2 entry.1.kind entry.1.normalized]
  | .failed => linkEvents options entry
  | .reporting => linkEvents options entry
  | .caught _ => linkEvents options entry

def currentEvents (state : Dispatcher Payload) : List (Event Payload) :=
  match state.links[state.settledLinks]? with
  | none => []
  | some link => phaseEvents options (link, state.settledLinks) state.phase

def PhaseOk (index : ℕ) : LinkPhase → Prop
  | .waiting => True
  | .sleeping => skips options index = false
  | .delivering => skips options index = false
  | .failed =>
    (skips options index || (options.deliver index).failing) = true
  | .reporting =>
    (skips options index || (options.deliver index).failing) = true
  | .caught rejected => rejected = skips options (index + 1)

structure Accounted (state : Dispatcher Payload) : Prop where
  settled_le : state.settledLinks ≤ state.links.length
  rejected : state.registered = true → state.chainRejected = skips options state.settledLinks
  phase : PhaseOk options state.settledLinks state.phase
  atEnd : state.settledLinks = state.links.length → state.phase = .waiting
  pending : state.pending = (state.links.length : ℤ) - state.settledLinks +
    if state.registered then 1 else 0
  deliveries : state.log.filter isDelivery =
    (state.links.zipIdx.take state.settledLinks).flatMap (linkEvents options) ++
      currentEvents options state
  marked : state.completeCalled = true ↔ .markedComplete ∈ state.log
  opened : state.registered = true → .idle ∉ state.log
  closed : state.registered = false → state.completeCalled = true ∧
    state.settledLinks = state.links.length ∧
    ∃ before, state.log = before ++ [.idle] ∧ .idle ∉ before ∧ .markedComplete ∈ before

theorem accounted_create : Accounted options (createReplyDispatcher : Dispatcher Payload) := by
  constructor <;> simp [createReplyDispatcher, PhaseOk, skips, currentEvents]

variable {options} {state : Dispatcher Payload} {link : Link Payload}

theorem Accounted.registered_of_link (haccounted : Accounted options state)
    (hlink : state.links[state.settledLinks]? = some link) :
    state.settledLinks < state.links.length ∧ state.registered = true := by
  have hlt := (List.getElem?_eq_some_iff.mp hlink).1
  refine ⟨hlt, ?_⟩
  by_contra hclosed
  have hend := (haccounted.closed (by simpa using hclosed)).2.1
  omega

theorem linkEvents_of_runs {index : ℕ} (hskips : skips options index = false) :
    linkEvents options (link, index) = [.deliverStarted index link.kind link.normalized,
        .deliverSettled index] := by
  simp [linkEvents, hskips]

section

variable (haccounted : Accounted options state)
include haccounted

theorem Accounted.enqueue (kind : ReplyDispatchKind) (normalized : Option Payload)
    (hopen : state.completeCalled = false) :
    Accounted options (enqueue kind normalized state) := by
  cases normalized with
  | none => exact haccounted
  | some payload =>
    have hle := haccounted.settled_le
    have hregistered : state.registered = true := by
      by_contra hclosed
      have hcomplete := (haccounted.closed (by simpa using hclosed)).1
      rw [hopen] at hcomplete
      contradiction
    have hcurrent : currentEvents options (ReplyDispatcher.enqueue kind (some payload) state) =
          currentEvents options state := by
      unfold currentEvents ReplyDispatcher.enqueue
      rcases Nat.lt_or_eq_of_le hle with hlt | heq
      · rw [List.getElem?_append_left hlt]
      · -- the new link is the next one to run and has not begun
        simp [heq, haccounted.atEnd heq, phaseEvents]
    constructor
    · simp only [ReplyDispatcher.enqueue, List.length_append, List.length_singleton]
      omega
    · exact haccounted.rejected
    · exact haccounted.phase
    · intro hend
      simp only [ReplyDispatcher.enqueue, List.length_append, List.length_singleton] at hend
      omega
    · have hpending := haccounted.pending
      simp only [ReplyDispatcher.enqueue, hregistered, if_true,
        List.length_append, List.length_singleton, hpending]
      omega
    · rw [hcurrent]
      have htake : ∀ added : List (Link Payload × ℕ),
          (state.links.zipIdx ++ added).take state.settledLinks =
            state.links.zipIdx.take state.settledLinks := fun added =>
        List.take_append_of_le_length (by simpa using hle)
      simpa [ReplyDispatcher.enqueue, List.zipIdx_append, htake] using haccounted.deliveries
    · exact haccounted.marked
    · exact haccounted.opened
    · intro hclosed
      have hnot : state.registered = false := hclosed
      rw [hregistered] at hnot
      contradiction

theorem Accounted.markComplete : Accounted options (markComplete state) := by
  unfold ReplyDispatcher.markComplete
  split_ifs with hcalled
  · exact haccounted
  · have hregistered : state.registered = true := by
      by_contra hclosed
      exact hcalled (haccounted.closed (by simpa using hclosed)).1
    constructor
    · exact haccounted.settled_le
    · exact haccounted.rejected
    · exact haccounted.phase
    · exact haccounted.atEnd
    · exact haccounted.pending
    · simpa [List.filter_append, Event.isDelivery, currentEvents] using haccounted.deliveries
    · simp
    · simpa using haccounted.opened
    · intro hclosed
      have hnot : state.registered = false := hclosed
      rw [hregistered] at hnot
      contradiction

theorem Accounted.goIdle (hregistered : state.registered = true)
    (hcalled : state.completeCalled = true)
    (hend : state.settledLinks = state.links.length)
    (rejected queued : Bool) :
    Accounted options { state with
        pending := 0
        chainRejected := rejected
        checkQueued := queued
        registered := false
        log := state.log ++ [.idle] } := by
  constructor
  · exact haccounted.settled_le
  · simp
  · exact haccounted.phase
  · exact haccounted.atEnd
  · simp [hend]
  · simpa [List.filter_append, isDelivery, currentEvents] using haccounted.deliveries
  · simpa using haccounted.marked
  · simp
  · intro _
    exact ⟨hcalled, hend, state.log, rfl, haccounted.opened hregistered,
      haccounted.marked.mp hcalled⟩

theorem Accounted.completeCheck : Accounted options (completeCheck state) := by
  have hpending := haccounted.pending
  unfold ReplyDispatcher.completeCheck
  simp only [Bool.and_eq_true, decide_eq_true_eq]
  split_ifs with hidle
  · obtain ⟨hone, hcalled⟩ := hidle
    have hregistered : state.registered = true := by
      by_contra hclosed
      have hend := (haccounted.closed (by simpa using hclosed)).2.1
      rw [hone, if_neg hclosed, hend] at hpending
      omega
    have hend : state.settledLinks = state.links.length := by
      rw [hone, if_pos hregistered] at hpending
      omega
    have hidle := haccounted.goIdle hregistered hcalled hend state.chainRejected false
    simpa [ReplyDispatcher.goIdle, hone] using hidle
  · exact { haccounted with }

end

section

variable (haccounted : Accounted options state) (hlink : state.links[state.settledLinks]? = some
  link)

include haccounted hlink

theorem Accounted.enter {phase : LinkPhase} {failedCounts : Counts} {added : List (Event Payload)}
    (hphase : PhaseOk options state.settledLinks phase)
    (hadded : ∀ event ∈ added, event.isDelivery = true)
    (hevents : phaseEvents options (link, state.settledLinks) state.phase ++
      added = phaseEvents options (link, state.settledLinks) phase) :
    Accounted options { state with
        phase := phase
        failedCounts := failedCounts
        log := state.log ++ added } := by
  obtain ⟨hlt, hregistered⟩ := haccounted.registered_of_link hlink
  have hidle : idle ∉ added := fun hmem => by
    simpa [isDelivery] using hadded _ hmem
  have hmarked : markedComplete ∉ added := fun hmem => by
    simpa [isDelivery] using hadded _ hmem
  constructor
  · exact haccounted.settled_le
  · exact haccounted.rejected
  · exact hphase
  · intro hend
    have heq : state.settledLinks = state.links.length := hend
    omega
  · exact haccounted.pending
  · have hdeliveries := haccounted.deliveries
    have hcurrent : currentEvents options state =
        phaseEvents options (link, state.settledLinks) state.phase := by
      simp [currentEvents, hlink]
    have hfilter : added.filter isDelivery = added := List.filter_eq_self.mpr hadded
    simp [hfilter, hdeliveries, currentEvents, hlink, ← hevents]
  · simpa [hmarked] using haccounted.marked
  · intro _
    simpa [hidle] using haccounted.opened hregistered
  · intro hclosed
    have hnot : state.registered = false := hclosed
    rw [hregistered] at hnot
    contradiction

theorem Accounted.startDelivery (hphase : state.phase = .waiting ∨ state.phase = .sleeping)
    (hskips : skips options state.settledLinks = false) :
    Accounted options (startDelivery state.settledLinks link state) := by
  apply haccounted.enter hlink
  · exact hskips
  · simp [isDelivery]
  · rcases hphase with hphase | hphase <;> simp [hphase, phaseEvents]

theorem Accounted.startLink (hphase : state.phase = .waiting) :
    Accounted options (startLink options state.settledLinks link state) := by
  obtain ⟨-, hregistered⟩ := haccounted.registered_of_link hlink
  have hrejected := haccounted.rejected hregistered
  unfold ReplyDispatcher.startLink
  split_ifs with hchain hdelay
  · rw [hchain] at hrejected
    have henter := @Accounted.enter _ _ _ _ haccounted hlink .failed state.failedCounts []
    simp only [List.append_nil] at henter
    apply henter
    · simp [PhaseOk, ← hrejected]
    · simp
    · simp [hphase, phaseEvents, linkEvents, ← hrejected]
  · have hskips : skips options state.settledLinks = false := by
      rw [← hrejected]
      simpa using hchain
    have henter := @Accounted.enter _ _ _ _ haccounted hlink .sleeping state.failedCounts []
    simp only [List.append_nil] at henter
    apply henter
    · exact hskips
    · simp
    · simp [hphase, phaseEvents]
  · apply haccounted.startDelivery hlink (Or.inl hphase)
    rw [← hrejected]
    simpa using hchain

theorem Accounted.settleDelivery (hphase : state.phase = .delivering) :
    Accounted options (settleDelivery options state.settledLinks state) := by
  have hskips : skips options state.settledLinks = false := by
    have hok := haccounted.phase
    rw [hphase] at hok
    exact hok
  have hevents := @linkEvents_of_runs _ options link _ hskips
  apply haccounted.enter hlink
  · cases houtcome : options.deliver state.settledLinks <;>
      simp [PhaseOk, skips, hskips, houtcome, DeliverOutcome.failing]
  · simp [isDelivery]
  · rw [hphase]
    split_ifs <;> simp [phaseEvents, hevents]

theorem Accounted.catchError (hphase : state.phase = .failed) :
    Accounted options (catchError link state) := by
  have hok := haccounted.phase
  rw [hphase] at hok
  have henter := @Accounted.enter _ _ _ _ haccounted hlink .reporting
    (state.failedCounts.bump link.kind) []
  simp only [List.append_nil] at henter
  apply henter
  · exact hok
  · simp
  · simp [hphase, phaseEvents]

theorem Accounted.finishCatch (hphase : state.phase = .reporting) :
    Accounted options (finishCatch options state.settledLinks state) := by
  have hok := haccounted.phase
  rw [hphase] at hok
  have hfailed : (skips options state.settledLinks ||
      (options.deliver state.settledLinks).failing) = true := hok
  have henter := @Accounted.enter _ _ _ _ haccounted hlink
    (.caught (options.onErrorThrows state.settledLinks)) state.failedCounts []
  simp only [List.append_nil] at henter
  apply henter
  · simp [PhaseOk, skips, hfailed]
  · simp
  · simp [hphase, phaseEvents]

theorem Accounted.settleLink {rejected : Bool} (hphase : state.phase = .caught rejected) :
    Accounted options { state with
        pending := state.pending - 1
        settledLinks := state.settledLinks + 1
        phase := .waiting
        chainRejected := rejected } := by
  obtain ⟨hlt, hregistered⟩ := haccounted.registered_of_link hlink
  have hok := haccounted.phase
  rw [hphase] at hok
  constructor
  · exact hlt
  · exact fun _ => hok
  · trivial
  · exact fun _ => rfl
  · simp only [haccounted.pending, hregistered, if_true]
    omega
  · have hcurrent : currentEvents options state =
        linkEvents options (link, state.settledLinks) := by
      simp [currentEvents, hlink, hphase, phaseEvents]
    have hnext : currentEvents options { state with
          pending := state.pending - 1
          settledLinks := state.settledLinks + 1
          phase := .waiting
          chainRejected := rejected } = [] := by
      unfold currentEvents
      split <;> rfl
    rw [hnext, haccounted.deliveries, hcurrent, List.take_add_one]
    simp [hlink]
  · exact haccounted.marked
  · exact haccounted.opened
  · intro hclosed
    have hnot : state.registered = false := hclosed
    rw [hregistered] at hnot
    contradiction

theorem Accounted.runFinally {rejected : Bool} (hphase : state.phase = .caught rejected) :
    Accounted options (runFinally options rejected state) := by
  obtain ⟨hlt, hregistered⟩ := haccounted.registered_of_link hlink
  have hsettled := haccounted.settleLink hlink hphase
  have hpending := haccounted.pending
  simp only [hregistered, if_true] at hpending
  unfold ReplyDispatcher.runFinally
  by_cases hrelease : state.pending - 1 = 1 ∧ state.completeCalled = true
  · have hidle := hsettled.goIdle hregistered hrelease.2
      (show state.settledLinks + 1 = state.links.length by omega)
      (rejected || options.onIdleThrows) state.checkQueued
    have hzero : state.pending - 1 - 1 = 0 := by omega
    simpa [hrelease, hzero, ReplyDispatcher.goIdle] using hidle
  · have hnonzero : ¬ state.pending - 1 = 0 := by omega
    simpa [hrelease, hnonzero] using hsettled

theorem Accounted.advance :
    Accounted options (advanceLink options state.settledLinks link state) := by
  unfold advanceLink
  cases hphase : state.phase with
  | waiting => exact haccounted.startLink hlink hphase
  | sleeping =>
    have hok := haccounted.phase
    rw [hphase] at hok
    exact haccounted.startDelivery hlink (.inr hphase) hok
  | delivering => exact haccounted.settleDelivery hlink hphase
  | failed => exact haccounted.catchError hlink hphase
  | reporting => exact haccounted.finishCatch hlink hphase
  | caught rejected => exact haccounted.runFinally hlink hphase

end

/-- Once the run is complete, something is left that will look at the count. -/
def Watched (state : Dispatcher Payload) : Prop :=
  state.registered = true → state.completeCalled = true →
    state.checkQueued = true ∨ state.settledLinks < state.links.length

section

variable (haccounted : Accounted options state)
include haccounted

theorem Accounted.watched_completeCheck : Watched (ReplyDispatcher.completeCheck state) := by
  have hpending := haccounted.pending
  unfold ReplyDispatcher.completeCheck
  simp only [Bool.and_eq_true, decide_eq_true_eq]
  split_ifs with hidle
  · simp [Watched, ReplyDispatcher.goIdle]
  · intro hregistered hcalled
    have hone : state.pending ≠ 1 := fun hone => hidle ⟨hone, hcalled⟩
    have hstill : state.registered = true := hregistered
    rw [if_pos hstill] at hpending
    have hle := haccounted.settled_le
    exact Or.inr (show state.settledLinks < state.links.length by omega)

theorem Accounted.watched_runFinally
    (hlink : state.links[state.settledLinks]? = some link) (rejected : Bool) :
    Watched (ReplyDispatcher.runFinally options rejected state) := by
  obtain ⟨hlt, hregistered⟩ := haccounted.registered_of_link hlink
  have hpending := haccounted.pending
  rw [if_pos hregistered] at hpending
  unfold ReplyDispatcher.runFinally
  simp only [Bool.and_eq_true, decide_eq_true_eq]
  by_cases hrelease : state.pending - 1 = 1 ∧ state.completeCalled = true
  · simp [Watched, hrelease, ReplyDispatcher.goIdle]
  · have hnonzero : ¬ state.pending - 1 = 0 := by omega
    simp [hrelease, hnonzero]
    intro _ hcalled
    have hone : state.pending - 1 ≠ 1 := fun hone => hrelease ⟨hone, hcalled⟩
    exact Or.inr (show state.settledLinks + 1 < state.links.length by omega)

theorem Accounted.watched_advance (hlink : state.links[state.settledLinks]? = some link) :
    Watched (advanceLink options state.settledLinks link state) := by
  have hlt := (haccounted.registered_of_link hlink).1
  unfold advanceLink
  cases state.phase with
  | caught rejected => exact haccounted.watched_runFinally hlink rejected
  | waiting =>
    unfold ReplyDispatcher.startLink
    split_ifs <;> exact fun _ _ => Or.inr hlt
  | sleeping | delivering | failed | reporting => exact fun _ _ => Or.inr hlt

end

variable {next : Dispatcher Payload} {action : Action Payload}

theorem step_accounted (hstate : Accounted options state ∧ Watched state)
    (hsends : SendsFirst state action)
    (hstep : step options state action = some next) :
    Accounted options next ∧ Watched next := by
  obtain ⟨haccounted, hwatched⟩ := hstate
  cases action with
  | send kind normalized =>
    cases hstep
    have hopen := hsends rfl
    refine ⟨haccounted.enqueue kind normalized hopen, ?_⟩
    intro _ hcalled
    cases normalized <;> exact absurd hcalled (by simp [enqueue, hopen])
  | markComplete =>
    cases hstep
    refine ⟨haccounted.markComplete, ?_⟩
    unfold ReplyDispatcher.markComplete
    split_ifs
    · exact hwatched
    · exact fun _ _ => Or.inl rfl
  | completeCheck =>
    simp only [step, Option.ite_none_right_eq_some, Option.some.injEq] at hstep
    obtain ⟨-, rfl⟩ := hstep
    exact ⟨haccounted.completeCheck, haccounted.watched_completeCheck⟩
  | advance =>
    obtain ⟨link, hlink, rfl⟩ := Option.map_eq_some_iff.mp hstep
    exact ⟨haccounted.advance hlink, haccounted.watched_advance hlink⟩

def LinkPhase.rank : LinkPhase → ℕ
  | .waiting => 0
  | .sleeping => 1
  | .delivering => 2
  | .failed => 3
  | .reporting => 4
  | .caught _ => 5

def remaining (state : Dispatcher Payload) : ℕ :=
  6 * (state.links.length - state.settledLinks) - state.phase.rank + state.checkQueued.toNat

theorem remaining_lt_of_advance (hlink : state.links[state.settledLinks]? = some link) :
    remaining (advanceLink options state.settledLinks link state) < remaining state := by
  have hlt := (List.getElem?_eq_some_iff.mp hlink).1
  unfold advanceLink
  cases hphase : state.phase with
  | waiting =>
    simp only [startLink, startDelivery]
    split_ifs <;> simp only [remaining, hphase, LinkPhase.rank] <;> omega
  | sleeping =>
    simp only [startDelivery, remaining, hphase, LinkPhase.rank]
    omega
  | delivering =>
    simp only [settleDelivery]
    split_ifs <;> simp only [remaining, hphase, LinkPhase.rank] <;> omega
  | failed =>
    simp only [catchError, remaining, hphase, LinkPhase.rank]
    omega
  | reporting =>
    simp only [finishCatch, remaining, hphase, LinkPhase.rank]
    omega
  | caught rejected =>
    simp only [runFinally]
    split_ifs <;> simp only [goIdle, remaining, hphase, LinkPhase.rank] <;> omega

theorem remaining_lt_of_internal (hinternal : action.isInternal = true)
    (hstep : step options state action = some next) :
    remaining next < remaining state := by
  cases action with
  | send | markComplete => simp [Action.isInternal] at hinternal
  | completeCheck =>
    simp only [step, Option.ite_none_right_eq_some, Option.some.injEq] at hstep
    obtain ⟨hqueued, rfl⟩ := hstep
    unfold completeCheck
    split_ifs <;> simp [remaining, goIdle, hqueued]
  | advance =>
    obtain ⟨link, hlink, rfl⟩ := Option.map_eq_some_iff.mp hstep
    exact remaining_lt_of_advance hlink

theorem length_flatMap_ite_le {α β : Type*} (p : α → Bool) (g : α → List β) (list : List α) :
    (list.flatMap fun x => if p x then [] else g x).length ≤ (list.flatMap g).length := by
  induction list with
  | nil => exact Nat.le_refl _
  | cons x rest ih =>
    simp only [List.flatMap_cons, List.length_append]
    have hhead : (if p x then [] else g x).length ≤ (g x).length := by
      split_ifs
      · exact Nat.zero_le _
      · exact Nat.le_refl _
    omega

theorem flatMap_ite_eq_iff {α β : Type*} (p : α → Bool) (g : α → List β)
    (hg : ∀ x, g x ≠ []) (list : List α) :
    (list.flatMap fun x => if p x then [] else g x) = list.flatMap g ↔ ∀ x ∈ list, p x = false := by
  induction list with
  | nil => simp
  | cons x rest ih =>
    simp only [List.flatMap_cons, List.forall_mem_cons]
    cases hx : p x with
    | false => simp [ih]
    | true =>
      simp
      intro heq
      have hle := length_flatMap_ite_le p g rest
      have hpos := List.length_pos_iff.mpr (hg x)
      rw [heq, List.length_append] at hle
      omega

variable (options) in
theorem skips_eq_false_iff (count : ℕ) : (∀ index < count, skips options index = false) ↔
      ∀ index, index + 1 < count → options.deliver index = .resolves ∨
        options.onErrorThrows index = false := by
  have hfailing : ∀ index, (options.deliver index).failing = false ↔
      options.deliver index = .resolves := by
    intro index
    cases options.deliver index <;> simp [DeliverOutcome.failing]
  constructor
  · intro hnone index hindex
    have hnext := hnone (index + 1) hindex
    simp only [skips, hnone index (by omega), Bool.false_or, Bool.and_eq_false_iff] at hnext
    exact hnext.imp_left (hfailing index).mp
  · intro hhandled index
    induction index with
    | zero => exact fun _ => rfl
    | succ index ih =>
      intro hindex
      simp only [skips, ih (by omega), Bool.false_or, Bool.and_eq_false_iff]
      exact (hhandled index hindex).imp_left (hfailing index).mpr

theorem Accounted.served_iff (haccounted : Accounted options state)
    (hwatched : Watched state) (hquiescent : Quiescent options state) :
    Served state ↔ ∀ index, index + 1 < state.links.length →
      options.deliver index = .resolves ∨ options.onErrorThrows index = false := by
  obtain ⟨hcalled, hstuck⟩ := hquiescent
  have hend : state.settledLinks = state.links.length := by
    have hnone : state.links[state.settledLinks]? = none := by
      simpa [step] using hstuck .advance rfl
    have hle := haccounted.settled_le
    have hge := List.getElem?_eq_none_iff.mp hnone
    omega
  have hqueued : ¬ state.checkQueued = true := by
    simpa [step] using hstuck .completeCheck rfl
  have hclosed : state.registered = false := by
    by_contra hregistered
    rcases hwatched (by simpa using hregistered) hcalled with hcheck | hlt
    · exact hqueued hcheck
    · omega
  have hidle := (haccounted.closed hclosed).2.2
  have hdeliveries := haccounted.deliveries
  have hcurrent : currentEvents options state = [] := by
    simp [currentEvents, hend]
  rw [hcurrent, List.append_nil, hend, List.take_of_length_le (by simp)] at hdeliveries
  have hinOrder : Served state ↔ (state.links.zipIdx.flatMap (linkEvents options) =
        state.links.zipIdx.flatMap fun entry =>
          [.deliverStarted entry.2 entry.1.kind entry.1.normalized, .deliverSettled entry.2]) := by
    rw [← hdeliveries]
    exact ⟨Served.inOrder, fun horder => ⟨horder, hidle⟩⟩
  have hskipped := flatMap_ite_eq_iff (fun entry : Link Payload × ℕ => skips options entry.2)
    (fun entry => [deliverStarted entry.2 entry.1.kind entry.1.normalized,
      .deliverSettled entry.2]) (by simp) state.links.zipIdx
  rw [hinOrder]
  unfold linkEvents
  rw [hskipped, ← skips_eq_false_iff]
  constructor
  · intro hall index hindex
    exact hall (state.links[index], index)
      (List.mk_mem_zipIdx_iff_getElem?.mpr (List.getElem?_eq_getElem hindex))
  · rintro hall ⟨link, index⟩ hmem
    have hindex := List.getElem?_eq_some_iff.mp (List.mk_mem_zipIdx_iff_getElem?.mp hmem)
    exact hall index hindex.1

def quietOptions : ReplyDispatcherOptions where
  deliver := fun _ => .resolves
  onErrorThrows := fun _ => false
  onIdleThrows := false
  humanDelay := none
  generateSecureInt := fun _ _ => 0

def quietRun : List (Action Unit) :=
  [.send .final (some ()), .markComplete, .completeCheck, .advance, .advance, .advance]

def quietEnd : Dispatcher Unit where
  links := [⟨.final, (), false⟩]
  settledLinks := 1
  phase := .waiting
  chainRejected := false
  pending := 0
  completeCalled := true
  checkQueued := false
  sentFirstBlock := false
  queuedCounts := ⟨0, 0, 1⟩
  failedCounts := ⟨0, 0, 0⟩
  registered := false
  log := [.markedComplete, .deliverStarted 0 .final (), .deliverSettled 0, .idle]

theorem quiescent_of_nothing_left {state : Dispatcher Payload}
    (hcalled : state.completeCalled = true)
    (hqueued : state.checkQueued = false)
    (hend : state.links.length ≤ state.settledLinks) :
    Quiescent options state := by
  refine ⟨hcalled, fun action hinternal => ?_⟩
  cases action with
  | send | markComplete => simp [Action.isInternal] at hinternal
  | completeCheck => simp [step, hqueued]
  | advance => simp [step, hend]

def throwingOptions : ReplyDispatcherOptions :=
  { quietOptions with
    deliver := fun index => if index = 0 then .rejects else .resolves
    onErrorThrows := fun index => index = 0 }

def throwingRun : List (Action Unit) :=
  [.send .block (some ()), .send .final (some ()), .markComplete,
    .completeCheck, .advance, .advance, .advance, .advance, .advance, .advance,
    .advance, .advance, .advance]

def throwingEnd : Dispatcher Unit where
  links := [⟨.block, (), false⟩, ⟨.final, (), false⟩]
  settledLinks := 2
  phase := .waiting
  chainRejected := false
  pending := 0
  completeCalled := true
  checkQueued := false
  sentFirstBlock := true
  queuedCounts := ⟨0, 1, 1⟩
  failedCounts := ⟨0, 1, 1⟩
  registered := false
  log := [.markedComplete, .deliverStarted 0 .block (), .deliverSettled 0, .idle]

end LittleBaby.ReplyDispatcher
