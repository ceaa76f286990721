import LittleBaby.QueueInvariants
import LittleBaby.ReplyQueues

/-!
# Queues stay within their caps

A drop policy trims the queue before the next entry goes in, and the lines of a summary
with it.  A positive cap below one is rounded to none.
-/

namespace LittleBaby.Queues

open LabelledMachine Registry Registry.All

variable {Item Run : Type*}

structure Within (bound : ℕ) (queue : QueueState Item Run) : Prop where
  capped : 0 < queue.cap ∧ queue.cap ≤ bound
  items : queue.items.length ≤ bound
  lines : queue.summaryLines.length ≤ bound

def Bounded (bound : ℕ) (_ : Bool) (drain : Drain Item Run) : Prop := Within bound drain.queue

def capsWithin (bound : ℕ) : QueueAction Item → Bool
  | .enqueue _ settings _ _ =>
    0 < resolveCap settings.cap bound && resolveCap settings.cap bound ≤ bound
  | _ => true

variable {bound : ℕ} {queue kept : QueueState Item Run} {settings : QueueSettings}
  {registry next : Registry Item Run} {loop : DrainLoop Item Run}

theorem resolveCap_within {fallback : ℕ} (hfallback : 0 < fallback ∧ fallback ≤ bound)
    (hsettings : 0 < resolveCap settings.cap bound ∧ resolveCap settings.cap bound ≤ bound) :
    0 < resolveCap settings.cap fallback ∧ resolveCap settings.cap fallback ≤ bound := by
  unfold resolveCap at hsettings ⊢
  split
  next value hcap =>
    rw [hcap] at hsettings
    split_ifs with hpositive
    · simpa [hpositive] using hsettings
    · exact hfallback
  next hcap => simp [hcap] at hsettings
  next => exact hfallback

theorem Within.applyQueueDropPolicy (hwithin : Within bound queue)
    (hkept : queue.applyQueueDropPolicy = some kept) (entry : Queued Item) :
    Within bound { kept with items := kept.items ++ [entry] } := by
  obtain ⟨hcap, hitems, hlines⟩ := hwithin
  unfold QueueState.applyQueueDropPolicy at hkept
  split_ifs at hkept with hroom
  · cases hkept
    refine ⟨hcap, ?_, hlines⟩
    simp only [List.length_append, List.length_singleton]
    omega
  · simp only at hkept
    cases hpolicy : queue.dropPolicy <;> simp only [hpolicy, Option.some.injEq,
      reduceCtorEq] at hkept <;> subst hkept <;> refine ⟨hcap, ?_, ?_⟩ <;>
      simp only [List.length_append, List.length_drop, List.length_singleton] <;> omega

theorem bounded_stable : Stable (@Bounded Item Run bound) where
  begun := fun _ hdrain _ _ => hdrain
  removed := fun _ hdrain _ _ => hdrain

section Step

variable {index : ℕ} {old drain : Drain Item Run} (hall : registry.All (Bounded bound))

include hall

theorem bounded_enqueue (hbound : 20 ≤ bound)
    (hsettings : 0 < resolveCap settings.cap bound ∧ resolveCap settings.cap bound ≤ bound)
    (item : Item) (duplicate restart : Bool) :
    (registry.enqueue loop item settings duplicate restart).All (Bounded bound) := by
  unfold Registry.enqueue
  rcases hfound : registry.getQueue settings with ⟨index, drain, found⟩
  obtain ⟨hcurrent, hget⟩ := getQueue_stored hfound
  have hkept : found.All (Bounded bound) := by
    apply All.getQueue hall hfound
    · exact fun old hold => ⟨resolveCap_within hold.capped hsettings, hold.items, hold.lines⟩
    · exact ⟨resolveCap_within ⟨by omega, hbound⟩ hsettings, Nat.zero_le _, Nat.zero_le _⟩
  have hdrain : Within bound drain.queue := hkept index drain hget
  simp only
  split_ifs
  · exact hkept
  · apply All.accept loop bounded_stable hkept hcurrent hget
    · exact ⟨hdrain.capped, hdrain.items, hdrain.lines⟩
    · intro kept entry hpolicy
      have htouched : Within bound { drain.queue with lastRun := some (loop.run item) } :=
        ⟨hdrain.capped, hdrain.items, hdrain.lines⟩
      exact htouched.applyQueueDropPolicy hpolicy entry

variable (hget : registry.drains.get? index = some old) (hqueue : Within bound drain.queue)

include hget hqueue

theorem bounded_leave : (registry.leave index drain).All (Bounded bound) :=
  All.finish bounded_stable hall hget hqueue (.inr fun _ hfound => hfound)

theorem bounded_continueLoop (force : Bool) :
    (registry.continueLoop index force drain).All (Bounded bound) :=
  All.continueLoop bounded_stable hall hget (fun _ => hqueue) (fun _ => hqueue)
    (.inr fun _ hfound => hfound)

theorem bounded_resume (found : Option (Phase Item Run)) :
    (registry.resume index drain found).All (Bounded bound) := by
  cases found with
  | none => exact bounded_leave hall hget hqueue
  | some phase => exact All.put hall hget hqueue

end Step

theorem bounded_step (hbound : 20 ≤ bound) (hall : registry.All (Bounded bound))
    {action : QueueAction Item} (hcaps : capsWithin bound action = true)
    (hstep : registry.step loop action = some next) : next.All (Bounded bound) := by
  cases action with
  | enqueue item settings duplicate restart =>
    cases hstep
    exact bounded_enqueue hall hbound (by simpa [capsWithin] using hcaps) item duplicate restart
  | schedule =>
    cases hstep
    exact hall.schedule bounded_stable
  | advance index =>
    obtain ⟨drain, hget, hstep⟩ := Option.bind_eq_some_iff.mp hstep
    have hqueue : Within bound drain.queue := hall index drain hget
    cases hphase : drain.phase
    all_goals simp only [hphase, Option.some.injEq, reduceCtorEq] at hstep
    all_goals subst hstep
    case foundNothing => exact bounded_leave hall hget hqueue
    case shifted force clears =>
      apply bounded_continueLoop hall hget
      cases clears
      · exact hqueue
      · exact ⟨hqueue.capped, hqueue.items, Nat.zero_le _⟩
    all_goals exact bounded_resume hall hget hqueue _
  | complete index =>
    obtain ⟨drain, hget, hstep⟩ := Option.bind_eq_some_iff.mp hstep
    obtain ⟨hcapped, hitems, hlines⟩ : Within bound drain.queue := hall index drain hget
    have hshorter : ∀ count, (drain.queue.items.drop count).length ≤ bound := by
      intro count
      rw [List.length_drop]
      omega
    cases hphase : drain.phase
    all_goals simp only [hphase, Option.some.injEq, reduceCtorEq] at hstep
    subst hstep
    next force call groups =>
      have hreturned : (registry.returned call).All (Bounded bound) := hall
      have hcurrent : (registry.returned call).drains.get? index = some drain := hget
      cases call with
      | item | overflow =>
        exact All.put hreturned hcurrent ⟨hcapped, by simpa using hshorter 1, hlines⟩
      | summaryOnly =>
        have hnext : Within bound drain.queue.clearQueueSummaryState :=
          ⟨hcapped, hitems, Nat.zero_le _⟩
        exact bounded_continueLoop hreturned hcurrent
          (show Within bound { drain with queue := drain.queue.clearQueueSummaryState }.queue
            from hnext) force
      | collect group summary =>
        have hnext : Within bound (if summary.isSome then
            QueueState.clearQueueSummaryState
              { drain.queue with items := drain.queue.items.drop group.length }
            else { drain.queue with items := drain.queue.items.drop group.length }) := by
          split_ifs
          · exact ⟨hcapped, hshorter _, Nat.zero_le _⟩
          · exact ⟨hcapped, hshorter _, hlines⟩
        cases groups with
        | nil => exact bounded_continueLoop hreturned hcurrent hnext force
        | cons => exact All.put hreturned hcurrent hnext
  | fail index =>
    obtain ⟨drain, hget, hstep⟩ := Option.bind_eq_some_iff.mp hstep
    cases hphase : drain.phase
    all_goals simp only [hphase, Option.some.injEq, reduceCtorEq] at hstep
    subst hstep
    exact bounded_leave hall hget (hall index drain hget)
  | clear =>
    apply All.clear hall _ hstep
    exact fun drain hdrain => ⟨hdrain.capped, Nat.zero_le _, Nat.zero_le _⟩

/-- Where every enqueue sets a cap from one up to a bound, or none, no queue ever holds more
entries or more summary lines than the bound. -/
theorem queues_within_bound (hbound : 20 ≤ bound) {actions : List (QueueAction Item)}
    (hcaps : Guarded (step loop) (fun _ action => capsWithin bound action = true) .empty actions)
    (hrun : run (step loop) .empty actions = some registry) :
    ∀ index drain, registry.drains.get? index = some drain →
      drain.queue.items.length ≤ bound ∧ drain.queue.summaryLines.length ≤ bound := by
  intro index drain hget
  have hall : registry.All (Bounded bound) :=
    run_guarded_invariant (fun registry => registry.All (Bounded bound))
      (fun hall hcaps hstep => bounded_step hbound hall hcaps hstep)
      (by intro index drain hget; simp [empty] at hget) hcaps hrun
  exact ⟨(hall index drain hget).items, (hall index drain hget).lines⟩

theorem queues_within_bound_keepOne : ∃ registry, run (step (followupDrain fun _ => true)) .empty
      [.enqueue (plainRun [1]) keepOne false true, .schedule,
        .enqueue (plainRun [2]) keepOne false true] = some registry ∧
    (registry.drains.get? 0).map (·.queue.summaryLines.length) = some 1 ∧
    ∀ index drain, registry.drains.get? index = some drain →
      drain.queue.items.length ≤ 20 ∧ drain.queue.summaryLines.length ≤ 20 := by
  apply exists_of_view (by decide : Option.map (fun registry =>
    (registry.drains.get? 0).map (·.queue.summaryLines.length)) _ = some (some 1))
  intro registry hlines hrun
  exact ⟨hlines, queues_within_bound (le_refl 20) (by decide +kernel) hrun⟩

end LittleBaby.Queues
