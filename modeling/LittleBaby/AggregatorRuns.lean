import LittleBaby.InsertionOrder
import LittleBaby.LabelledMachine

/-!
# Runs of the message aggregator

`MessageAggregator` with any options and any number of senders.  A batch takes
its session key, chat and names from its first arrival, so an arrival stands
for all parameters of a `push`.
-/

namespace LittleBaby.Aggregation

open LabelledMachine

structure AggregatorOptions where
  windowMs : ℕ
  maxMessages : ℕ
  maxWindowMs : ℕ

structure Arrival (Key Item : Type) where
  item : Item
  hasImages : Bool
  senderId : Key
  immediate : Bool
  now : ℕ

structure Submission (Key Item : Type) where
  senderId : Key
  items : List (Arrival Key Item)
  now : ℕ

structure MessageAggregator (Key Item : Type) where
  /-- the time at which the timer of a sender is due -/
  timers : InsertionMap Key ℕ
  buffers : InsertionMap Key (List (Arrival Key Item))
  windowStarts : InsertionMap Key ℕ
  submitted : List (Submission Key Item)

variable {Key Item : Type} [DecidableEq Key]

namespace MessageAggregator

def empty : MessageAggregator Key Item := ⟨.empty, .empty, .empty, []⟩

variable (options : AggregatorOptions) (arrival : Arrival Key Item) (now : ℕ) (key : Key)
  (aggregator : MessageAggregator Key Item)

def flush : MessageAggregator Key Item where
  timers := aggregator.timers.delete key
  buffers := aggregator.buffers.delete key
  windowStarts := aggregator.windowStarts.delete key
  submitted :=
    match aggregator.buffers.get? key with
    | some items =>
      if 0 < items.length then aggregator.submitted ++ [⟨key, items, now⟩]
      else aggregator.submitted
    | none => aggregator.submitted

def resetTimer (due : ℕ) : MessageAggregator Key Item :=
  { aggregator with timers := aggregator.timers.set key due }

/-- `AGGREGATE_IMAGE_EXTRA_WINDOW_MS` -/
def imageExtraWindowMs : ℕ := 2000

def due : ℕ :=
  arrival.now + options.windowMs + if arrival.hasImages then imageExtraWindowMs else 0

def fill : MessageAggregator Key Item :=
  match aggregator.buffers.get? arrival.senderId with
  | some existing =>
    { aggregator with
      buffers := aggregator.buffers.set arrival.senderId (existing ++ [arrival]) }
  | none =>
    { aggregator with
      buffers := aggregator.buffers.set arrival.senderId [arrival]
      windowStarts := aggregator.windowStarts.set arrival.senderId arrival.now }

def flushesAtOnce : Bool :=
  match aggregator.buffers.get? arrival.senderId with
  | some existing =>
    let windowStart := (aggregator.windowStarts.get? arrival.senderId).getD arrival.now
    arrival.immediate || options.maxMessages ≤ existing.length + 1 ||
      windowStart + options.maxWindowMs ≤ arrival.now
  | none => arrival.immediate

def push : MessageAggregator Key Item :=
  let filled := aggregator.fill arrival
  if aggregator.flushesAtOnce options arrival then filled.flush arrival.now arrival.senderId
  else filled.resetTimer arrival.senderId (due options arrival)

def flushAll : MessageAggregator Key Item :=
  aggregator.buffers.keys.foldl (fun aggregator key => aggregator.flush now key) aggregator

end MessageAggregator

inductive Action (Key Item : Type)
  | push (arrival : Arrival Key Item)
  | timer (key : Key) (now : ℕ)
  | flushAll (now : ℕ)

open MessageAggregator

/-- A timer runs when it is due, unless it was cleared before. -/
def step (options : AggregatorOptions) (aggregator : MessageAggregator Key Item) :
    Action Key Item → Option (MessageAggregator Key Item)
  | .push arrival => some (aggregator.push options arrival)
  | .timer key now =>
    if (aggregator.timers.get? key).any (· ≤ now) then some (aggregator.flush now key) else none
  | .flushAll now => some (aggregator.flushAll now)

def pushedItems (key : Key) (actions : List (Action Key Item)) : List (Arrival Key Item) :=
  actions.filterMap fun
    | .push arrival => if arrival.senderId = key then some arrival else none
    | _ => none

/-- The items of the sender that were submitted, and behind them those that
are buffered. -/
def MessageAggregator.received (key : Key) (aggregator : MessageAggregator Key Item) :
    List (Arrival Key Item) :=
  (aggregator.submitted.filter (·.senderId = key)).flatMap (·.items) ++
    (aggregator.buffers.get? key).getD []

variable {options : AggregatorOptions} {aggregator next : MessageAggregator Key Item}

theorem received_flush (now : ℕ) (key other : Key) :
    (aggregator.flush now key).received other = aggregator.received other := by
  unfold received flush
  simp only [InsertionMap.get?_delete]
  cases hbuffer : aggregator.buffers.get? key with
  | none =>
    split_ifs with hother
    · simp [hother, hbuffer]
    · rfl
  | some items =>
    by_cases hother : other = key
    · subst hother
      cases items <;> simp [hbuffer]
    · cases items <;> simp [hother, Ne.symm hother]

theorem received_push (arrival : Arrival Key Item) (key : Key) :
    (aggregator.push options arrival).received key =
      aggregator.received key ++ pushedItems key [.push arrival] := by
  have hfill : (aggregator.fill arrival).received key =
      aggregator.received key ++ pushedItems key [.push arrival] := by
    unfold received fill pushedItems
    by_cases hkey : arrival.senderId = key
    · subst hkey
      cases hbuffer : aggregator.buffers.get? arrival.senderId <;> simp
    · have hne : key ≠ arrival.senderId := Ne.symm hkey
      cases hbuffer : aggregator.buffers.get? arrival.senderId <;> simp [hkey, hne]
  rw [← hfill]
  unfold push
  split_ifs
  · exact received_flush _ _ _
  · rfl

theorem received_flushAll (now : ℕ) (key : Key) :
    (aggregator.flushAll now).received key = aggregator.received key := by
  unfold flushAll
  generalize aggregator.buffers.keys = keys
  induction keys generalizing aggregator with
  | nil => rfl
  | cons first rest ih => exact ih.trans (received_flush now first key)

theorem received_run {actions : List (Action Key Item)} (key : Key)
    (hrun : run (step options) aggregator actions = some next) :
    next.received key = aggregator.received key ++ pushedItems key actions := by
  induction actions generalizing aggregator with
  | nil =>
    cases hrun
    simp [pushedItems]
  | cons action rest ih =>
    obtain ⟨middle, hstep, hrest⟩ := run_cons_eq_some.mp hrun
    have hmiddle : middle.received key = aggregator.received key ++ pushedItems key [action] := by
      cases action with
      | push arrival =>
        cases hstep
        exact received_push arrival key
      | timer other now =>
        simp only [step, Option.ite_none_right_eq_some, Option.some.injEq] at hstep
        rw [← hstep.2, received_flush]
        simp [pushedItems]
      | flushAll now =>
        cases hstep
        simp [received_flushAll, pushedItems]
    rw [ih hrest, hmiddle, List.append_assoc, pushedItems, pushedItems, pushedItems,
      ← List.filterMap_append, List.singleton_append]

def SlotKept (held : List (Arrival Key Item) → ℕ → ℕ → Prop)
    (aggregator : MessageAggregator Key Item) (key : Key) : Prop :=
  (aggregator.buffers.get? key = none ∧ aggregator.windowStarts.get? key = none ∧
    aggregator.timers.get? key = none) ∨
  ∃ items start due, aggregator.buffers.get? key = some items ∧
    aggregator.windowStarts.get? key = some start ∧
    aggregator.timers.get? key = some due ∧ held items start due

structure Kept (held : List (Arrival Key Item) → ℕ → ℕ → Prop)
    (sent : Submission Key Item → Prop) (aggregator : MessageAggregator Key Item) : Prop where
  slots : ∀ key, SlotKept held aggregator key
  submitted : ∀ batch ∈ aggregator.submitted, sent batch

section Kept

variable {held : List (Arrival Key Item) → ℕ → ℕ → Prop} {sent : Submission Key Item → Prop}

theorem Kept.flush {now : ℕ} {key : Key}
    (hothers : ∀ other, other ≠ key → SlotKept held aggregator other)
    (hsubmitted : ∀ batch ∈ aggregator.submitted, sent batch)
    (hready : ∀ items, aggregator.buffers.get? key = some items → sent ⟨key, items, now⟩) :
    Kept held sent (aggregator.flush now key) := by
  constructor
  · intro other
    by_cases hother : other = key
    · subst hother
      left
      simp [MessageAggregator.flush]
    · simpa [SlotKept, MessageAggregator.flush, hother] using hothers other hother
  · intro batch hbatch
    unfold MessageAggregator.flush at hbatch
    cases hbuffer : aggregator.buffers.get? key with
    | none => exact hsubmitted batch (by simpa [hbuffer] using hbatch)
    | some items =>
      simp only [hbuffer] at hbatch
      split_ifs at hbatch
      · rcases List.mem_append.mp hbatch with hold | hnew
        · exact hsubmitted batch hold
        · rw [List.mem_singleton.mp hnew]
          exact hready items hbuffer
      · exact hsubmitted batch hbatch

theorem Kept.flushAll {now : ℕ} (hkept : Kept held sent aggregator)
    (hready : ∀ key items, aggregator.buffers.get? key = some items → sent ⟨key, items, now⟩) :
    Kept held sent (aggregator.flushAll now) := by
  unfold MessageAggregator.flushAll
  generalize aggregator.buffers.keys = keys
  induction keys generalizing aggregator with
  | nil => exact hkept
  | cons first rest ih =>
    apply ih
    · exact Kept.flush (fun other _ => hkept.slots other) hkept.submitted (hready first)
    · intro key items hget
      simp only [MessageAggregator.flush, InsertionMap.get?_delete] at hget
      split_ifs at hget
      exact hready key items hget

theorem Kept.push {arrival : Arrival Key Item} (hkept : Kept held sent aggregator)
    (hopened : if arrival.immediate then sent ⟨arrival.senderId, [arrival], arrival.now⟩
      else held [arrival] arrival.now (due options arrival))
    (hadded : ∀ items start due', held items start due' →
      aggregator.buffers.get? arrival.senderId = some items →
      aggregator.windowStarts.get? arrival.senderId = some start →
      aggregator.timers.get? arrival.senderId = some due' →
      if aggregator.flushesAtOnce options arrival then
        sent ⟨arrival.senderId, items ++ [arrival], arrival.now⟩
      else held (items ++ [arrival]) start (due options arrival)) :
    Kept held sent (aggregator.push options arrival) := by
  have hothers : ∀ other, other ≠ arrival.senderId →
      SlotKept held (aggregator.fill arrival) other := by
    intro other hother
    unfold fill SlotKept
    cases hbuffer : aggregator.buffers.get? arrival.senderId <;>
      simpa [SlotKept, hother] using hkept.slots other
  have hsubmitted : (aggregator.fill arrival).submitted = aggregator.submitted := by
    unfold fill
    split <;> rfl
  have hfilled : ∃ items start,
      (aggregator.fill arrival).buffers.get? arrival.senderId = some items ∧
        (aggregator.fill arrival).windowStarts.get? arrival.senderId = some start ∧
        if aggregator.flushesAtOnce options arrival then
          sent ⟨arrival.senderId, items, arrival.now⟩
        else held items start (due options arrival) := by
    rcases hkept.slots arrival.senderId with
      ⟨hnone, -, -⟩ | ⟨items, start, due', hbuffer, hstart, htimer, hheld⟩
    · exact ⟨[arrival], arrival.now, by simp [fill, hnone], by simp [fill, hnone],
        by simpa [flushesAtOnce, hnone] using hopened⟩
    · exact ⟨items ++ [arrival], start, by simp [fill, hbuffer], by simp [fill, hbuffer, hstart],
        hadded items start due' hheld hbuffer hstart htimer⟩
  obtain ⟨items, start, hbuffer, hstart, hresult⟩ := hfilled
  unfold MessageAggregator.push
  split_ifs with hflushes
  · rw [if_pos hflushes] at hresult
    apply Kept.flush hothers (hsubmitted ▸ hkept.submitted)
    intro other hother
    rw [← Option.some.inj (hbuffer.symm.trans hother)]
    exact hresult
  · rw [if_neg hflushes] at hresult
    constructor
    · intro other
      by_cases hother : other = arrival.senderId
      · subst hother
        exact .inr ⟨items, start, _, hbuffer, hstart, by simp [resetTimer], hresult⟩
      · simpa [SlotKept, resetTimer, hother] using hothers other hother
    · exact hsubmitted ▸ hkept.submitted

end Kept

omit [DecidableEq Key] in
theorem kept_empty {held : List (Arrival Key Item) → ℕ → ℕ → Prop}
    {sent : Submission Key Item → Prop} :
    Kept held sent (empty : MessageAggregator Key Item) :=
  ⟨fun _ => .inl ⟨rfl, rfl, rfl⟩, fun _ hbatch => absurd hbatch List.not_mem_nil⟩

def Sized (options : AggregatorOptions) (items : List (Arrival Key Item)) : Prop :=
  items ≠ [] ∧ items.length ≤ options.maxMessages

/-- A buffer that is not flushed has room for another item. -/
def Sound (options : AggregatorOptions) : MessageAggregator Key Item → Prop :=
  Kept (fun items _ _ => items ≠ [] ∧ items.length < options.maxMessages)
    fun batch => Sized options batch.items

theorem sound_step (hmax : 2 ≤ options.maxMessages) {action : Action Key Item}
    (hsound : Sound options aggregator) (hstep : step options aggregator action = some next) :
    Sound options next := by
  have hready : ∀ key items, aggregator.buffers.get? key = some items → Sized options items := by
    intro key items hget
    rcases hsound.slots key with ⟨hnone, -, -⟩ | ⟨held, start, due', hheld, -, -, hsize⟩
    · rw [hnone] at hget
      cases hget
    · rw [← Option.some.inj (hheld.symm.trans hget)]
      exact ⟨hsize.1, Nat.le_of_lt hsize.2⟩
  cases action with
  | push arrival =>
    cases hstep
    apply Kept.push hsound
    · split_ifs
      · exact ⟨by simp, by simp; omega⟩
      · exact ⟨by simp, by simp; omega⟩
    · intro items start due' hsize hbuffer _ _
      split_ifs with hflushes
      · exact ⟨by simp, by simp; omega⟩
      · simp only [flushesAtOnce, hbuffer, Bool.or_eq_true, decide_eq_true_eq, not_or] at hflushes
        exact ⟨by simp, by simpa using hflushes.1.2⟩
  | timer key now =>
    simp only [step, Option.ite_none_right_eq_some, Option.some.injEq] at hstep
    rw [← hstep.2]
    exact Kept.flush (fun other _ => hsound.slots other) hsound.submitted (hready key)
  | flushAll now =>
    cases hstep
    exact Kept.flushAll hsound hready

/-- Every item is submitted once or still buffered, in the order of the
pushes, and the three maps have the same senders. -/
theorem aggregator_conserves (hmax : 2 ≤ options.maxMessages)
    {actions : List (Action Key Item)} (hrun : run (step options) empty actions = some next) :
    (∀ key, next.received key = pushedItems key actions) ∧
      (∀ batch ∈ next.submitted, Sized options batch.items) ∧
      ∀ key, (next.windowStarts.get? key).isSome = (next.buffers.get? key).isSome ∧
        (next.timers.get? key).isSome = (next.buffers.get? key).isSome := by
  have hsound : Sound options next :=
    run_invariant (Sound options) (sound_step hmax) kept_empty hrun
  refine ⟨fun key => received_run key hrun, hsound.submitted, fun key => ?_⟩
  rcases hsound.slots key with
    ⟨hbuffer, hstart, htimer⟩ | ⟨items, start, due', hbuffer, hstart, htimer, -⟩
  · simp [hbuffer, hstart, htimer]
  · simp [hbuffer, hstart, htimer]

def serviceOptions : AggregatorOptions := ⟨3000, 5, 10000⟩

def textAt (now : ℕ) : Arrival ℕ ℕ := ⟨now, false, 0, false, now⟩

def spacedOut : List (Action ℕ ℕ) :=
  [.push (textAt 0), .push (textAt 2999), .push (textAt 5998), .push (textAt 8997), .timer 0 11997]

theorem aggregator_conserves_spaced : ∃ next,
    run (step serviceOptions) empty spacedOut = some next ∧
      next.received 0 = pushedItems 0 spacedOut := by
  have hrun : run (step serviceOptions) empty spacedOut = some _ := rfl
  exact ⟨_, hrun, (aggregator_conserves (by decide) hrun).1 0⟩

def Action.now : Action Key Item → ℕ
  | .push arrival => arrival.now
  | .timer _ now | .flushAll now => now

/-- An armed timer runs when it is due, before anything else happens. -/
def Timely (aggregator : MessageAggregator Key Item) (action : Action Key Item) : Prop :=
  ∀ due' ∈ aggregator.timers.values, action.now ≤ due'

instance (aggregator : MessageAggregator Key Item) (action : Action Key Item) :
    Decidable (Timely aggregator action) :=
  inferInstanceAs (Decidable (∀ due' ∈ aggregator.timers.values, action.now ≤ due'))

/-- The time by which a batch is submitted that opened at `start`. -/
def latest (options : AggregatorOptions) (start : ℕ) : ℕ :=
  start + options.maxWindowMs + options.windowMs + imageExtraWindowMs

def InTime (options : AggregatorOptions) (batch : Submission Key Item) : Prop :=
  ∃ first, batch.items.head? = some first ∧ batch.now ≤ latest options first.now

/-- A buffer with its first arrival, whose time is the window start, and a
timer that is due in time. -/
def Punctual (options : AggregatorOptions) : MessageAggregator Key Item → Prop :=
  Kept (fun items start due' =>
      (∃ first, items.head? = some first ∧ first.now = start) ∧ due' ≤ latest options start)
    (InTime options)

theorem punctual_step {action : Action Key Item} (hpunctual : Punctual options aggregator)
    (htimely : Timely aggregator action) (hstep : step options aggregator action = some next) :
    Punctual options next := by
  have harmed : ∀ key due', aggregator.timers.get? key = some due' → action.now ≤ due' :=
    fun key due' hget => htimely due' (InsertionMap.mem_values.mpr ⟨key, hget⟩)
  have hready : ∀ key items, aggregator.buffers.get? key = some items →
      InTime options ⟨key, items, action.now⟩ := by
    intro key items hget
    rcases hpunctual.slots key with
      ⟨hnone, -, -⟩ | ⟨held, start, due', hheld, -, htimer, ⟨first, hfirst, rfl⟩, hdue⟩
    · rw [hnone] at hget
      cases hget
    · rw [← Option.some.inj (hheld.symm.trans hget)]
      exact ⟨first, hfirst, Nat.le_trans (harmed key due' htimer) hdue⟩
  cases action with
  | push arrival =>
    have hdue : due options arrival ≤ arrival.now + options.windowMs + imageExtraWindowMs := by
      unfold due
      split <;> omega
    cases hstep
    apply Kept.push hpunctual
    · split_ifs
      · exact ⟨arrival, rfl, by simp only [latest]; omega⟩
      · exact ⟨⟨arrival, rfl, rfl⟩, by unfold latest; omega⟩
    · rintro items start due' ⟨⟨first, hfirst, rfl⟩, hlate⟩ hbuffer hwindow htimer
      have hhead : (items ++ [arrival]).head? = some first := by simp [hfirst]
      split_ifs with hflushes
      · exact ⟨first, hhead, Nat.le_trans (harmed _ due' htimer) hlate⟩
      · -- The window is still open, so the new timer is not due much later.
        simp only [flushesAtOnce, hbuffer, hwindow, Option.getD_some, Bool.or_eq_true,
          decide_eq_true_eq, not_or] at hflushes
        exact ⟨⟨first, hhead, rfl⟩, by unfold latest; omega⟩
  | timer key now =>
    simp only [step, Option.ite_none_right_eq_some, Option.some.injEq] at hstep
    rw [← hstep.2]
    exact Kept.flush (fun other _ => hpunctual.slots other) hpunctual.submitted (hready key)
  | flushAll now =>
    cases hstep
    exact Kept.flushAll hpunctual hready

/-- A batch is submitted within the longest window, and one more window for
the last timer. -/
theorem batches_in_time {actions : List (Action Key Item)}
    (htimely : Guarded (step options) Timely empty actions)
    (hrun : run (step options) empty actions = some next) :
    ∀ batch ∈ next.submitted, InTime options batch :=
  (run_guarded_invariant (Punctual options) punctual_step kept_empty htimely hrun).submitted

theorem batches_in_time_spaced : ∃ next, run (step serviceOptions) empty spacedOut = some next ∧
    ∀ batch ∈ next.submitted, InTime serviceOptions batch := by
  have hrun : run (step serviceOptions) empty spacedOut = some _ := rfl
  exact ⟨_, hrun, batches_in_time (by decide) hrun⟩

theorem window_outlasted : ∃ next, Guarded (step serviceOptions) Timely empty spacedOut ∧
    run (step serviceOptions) empty spacedOut = some next ∧
    ∃ batch ∈ next.submitted, ∃ first, batch.items.head? = some first ∧
      first.now + serviceOptions.maxWindowMs < batch.now :=
  ⟨_, by decide, rfl, _, List.mem_singleton_self _, _, rfl, by decide⟩

end LittleBaby.Aggregation
