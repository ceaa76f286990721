import LittleBaby.QueueDrains

/-!
# Invariants of the queue objects

A property of the queue objects is kept by a step when it is kept at the object
that the step is about, and by the begin of a drain.
-/

namespace LittleBaby.Queues

open Registry

variable {Item Run : Type*}

namespace Registry

theorem schedule_cases (registry : Registry Item Run) : registry.schedule = registry ∨
      ∃ index drain, registry.current = some index ∧
        registry.drains.get? index = some drain ∧ drain.phase.isIdle = true ∧
        (drain.queue.weight = 0 ∧ registry.schedule = { registry with current := none } ∨
          drain.queue.weight ≠ 0 ∧
            registry.schedule = registry.put index (drain.nextPass false)) := by
  unfold schedule
  split
  next => exact .inl rfl
  next index hcurrent =>
      split
      next => exact .inl rfl
      next drain hget =>
          by_cases hidle : drain.phase.isIdle = true
          · right
            refine ⟨index, drain, hcurrent, hget, hidle, ?_⟩
            by_cases hweight : drain.queue.weight = 0
            · exact .inl ⟨hweight, by simp [hidle, hweight]⟩
            · exact .inr ⟨hweight, by simp [hidle, hweight]⟩
          · left
            simp [hidle]

section Logs

variable {registry next : Registry Item Run} {index : ℕ} {drain : Drain Item Run}

theorem schedule_logs :
    registry.schedule.started = registry.started ∧ registry.schedule.passes = registry.passes := by
  rcases schedule_cases registry with
    hsame | ⟨_, _, -, -, -, ⟨-, hschedule⟩ | ⟨-, hschedule⟩⟩
  · rw [hsame]
    exact ⟨rfl, rfl⟩
  · rw [hschedule]
    exact ⟨rfl, rfl⟩
  · rw [hschedule]
    exact ⟨rfl, rfl⟩

theorem finish_logs : (registry.finish index drain).started = registry.started ∧
    (registry.finish index drain).passes = registry.passes := by
  unfold finish
  simp only
  split_ifs
  · exact ⟨rfl, rfl⟩
  · exact schedule_logs

theorem clear_logs (hclear : registry.clear = some next) :
    next.started = registry.started ∧ next.passes = registry.passes := by
  simp only [Registry.clear, Option.bind_eq_some_iff, Option.map_eq_some_iff] at hclear
  obtain ⟨_, -, _, -, rfl⟩ := hclear
  exact ⟨rfl, rfl⟩

end Logs

/-- `property` holds of every queue object, as it is the stored one or not. -/
def All (property : Bool → Drain Item Run → Prop) (registry : Registry Item Run) : Prop :=
  ∀ index drain, registry.drains.get? index = some drain →
    property (decide (registry.current = some index)) drain

structure Stable (property : Bool → Drain Item Run → Prop) : Prop where
  begun : ∀ drain : Drain Item Run, property true drain →
    drain.phase.isIdle = true → drain.queue.weight ≠ 0 → property true (drain.nextPass false)
  removed : ∀ drain : Drain Item Run, property true drain →
    drain.phase.isIdle = true → drain.queue.weight = 0 → property false drain

section All

variable {property : Bool → Drain Item Run → Prop}
  {registry : Registry Item Run} {index : ℕ} {old drain : Drain Item Run}

theorem All.put (hall : registry.All property) (hget : registry.drains.get? index = some old)
    (hnew : property (decide (registry.current = some index)) drain) :
    (registry.put index drain).All property := by
  intro other found hfound
  rcases (Arena.get?_put_eq_some hget).mp hfound with ⟨rfl, rfl⟩ | ⟨-, hother⟩
  · exact hnew
  · exact hall other found hother

theorem All.removeKey (hall : registry.All property)
    (hfalse : ∀ other found, registry.drains.get? other = some found →
      registry.current = some other → property false found) :
    ({ registry with current := none }).All property := by
  intro other found hfound
  by_cases hcurrent : registry.current = some other
  · simpa using hfalse other found hfound hcurrent
  · have hproperty := hall other found hfound
    simpa [hcurrent] using hproperty

section

variable (hstable : Stable property) (hall : registry.All property)
include hstable hall

theorem All.schedule : registry.schedule.All property := by
  rcases schedule_cases registry with
    hsame | ⟨index, drain, hcurrent, hget, hidle, hbegun⟩
  · rw [hsame]
    exact hall
  · have hdrain : property true drain := by
      simpa [hcurrent] using hall index drain hget
    rcases hbegun with ⟨hweight, hschedule⟩ | ⟨hweight, hschedule⟩
    · rw [hschedule]
      apply hall.removeKey
      intro other found hfound hother
      rw [hcurrent, Option.some.injEq] at hother
      subst other
      cases hget.symm.trans hfound
      exact hstable.removed drain hdrain hidle hweight
    · rw [hschedule]
      apply hall.put hget
      simpa [hcurrent] using hstable.begun drain hdrain hidle hweight

theorem All.finish (hget : registry.drains.get? index = some old)
    (hstop : property (decide (registry.current = some index)) drain.stop)
    (hdetach : registry.current = some index ∨
      ∀ found, property true found → property false found) :
    (registry.finish index drain).All property := by
  have hstopped : (registry.put index drain.stop).All property := hall.put hget hstop
  unfold Registry.finish
  simp only
  split_ifs with hweight
  · apply hstopped.removeKey
    intro other found hfound hother
    have hproperty : property true found := by
      have hfound := hstopped other found hfound
      simpa [show (registry.put index drain.stop).current = some other from hother] using hfound
    rcases hdetach with hcurrent | hdetach
    · rw [hcurrent.symm.trans hother |> Option.some.inj] at hget hfound
      rcases (Arena.get?_put_eq_some hget).mp hfound with ⟨-, rfl⟩ | ⟨hne, -⟩
      · exact hstable.removed drain.stop hproperty rfl hweight
      · exact absurd rfl hne
    · exact hdetach found hproperty
  · exact hstopped.schedule hstable

theorem All.continueLoop (hget : registry.drains.get? index = some old) {force : Bool}
    (hstop : drain.queue.weight = 0 → property (decide (registry.current = some index)) drain.stop)
    (hnext : drain.queue.weight ≠ 0 →
      property (decide (registry.current = some index)) (drain.nextPass force))
    (hdetach : registry.current = some index ∨
      ∀ found, property true found → property false found) :
    (registry.continueLoop index force drain).All property := by
  unfold Registry.continueLoop
  split_ifs with hweight
  · exact All.finish hstable hall hget (hstop hweight) hdetach
  · exact All.put hall hget (hnext hweight)

end

end All

theorem All.clear {property : Bool → Drain Item Run → Prop}
    {registry next : Registry Item Run} (hall : registry.All property)
    (hcleared : ∀ drain : Drain Item Run, property true drain → property false { drain with
        queue := { drain.queue with
          items := []
          dropped := []
          summaryLines := []
          lastRun := none } })
    (hstep : registry.clear = some next) : next.All property := by
  simp only [Registry.clear, Option.bind_eq_some_iff, Option.map_eq_some_iff] at hstep
  obtain ⟨index, hcurrent, drain, hget, rfl⟩ := hstep
  intro other found hfound
  rcases (Arena.get?_put_eq_some hget).mp hfound with ⟨rfl, rfl⟩ | ⟨hne, hbefore⟩
  · have hdrain := hall other drain hget
    simp [hcurrent] at hdrain
    simpa using hcleared drain hdrain
  · have hother := hall other found hbefore
    simpa [hcurrent, Ne.symm hne] using hother

theorem getQueue_cases (registry : Registry Item Run)
    (settings : QueueSettings) {index : ℕ} {drain : Drain Item Run}
    {found : Registry Item Run}
    (hfound : registry.getQueue settings = (index, drain, found)) :
    (∃ old, registry.current = some index ∧ registry.drains.get? index = some old ∧
        drain = { old with
          queue := old.queue.applyQueueRuntimeSettings settings } ∧
        found = registry.put index drain) ∨
      (∀ other old, registry.drains.get? other = some old → registry.current ≠ some other) ∧
        index = registry.drains.size ∧
        drain = ⟨createQueue settings, .idle, 0, false⟩ ∧
        found = { registry with
          drains := registry.drains.push drain
          current := some index } := by
  unfold getQueue at hfound
  split at hfound
  next existing old hstored =>
      obtain ⟨rfl, rfl, rfl⟩ := by simpa using hfound
      simp only [Option.bind_eq_some_iff, Option.map_eq_some_iff, Prod.mk.injEq] at hstored
      obtain ⟨_, hcurrent, _, hget, rfl, rfl⟩ := hstored
      exact .inl ⟨_, hcurrent, hget, rfl, rfl⟩
  next hstored =>
      obtain ⟨rfl, rfl, rfl⟩ := by simpa using hfound
      right
      refine ⟨?_, rfl, rfl, rfl⟩
      intro other old hget hcurrent
      simp [hcurrent, hget] at hstored

section Enqueue

variable {property : Bool → Drain Item Run → Prop}
  {registry found : Registry Item Run} {index : ℕ} {drain : Drain Item Run}
  {settings : QueueSettings}

theorem getQueue_stored (hfound : registry.getQueue settings = (index, drain, found)) :
    found.current = some index ∧ found.drains.get? index = some drain := by
  rcases getQueue_cases registry settings hfound with
    ⟨old, hcurrent, hget, -, rfl⟩ | ⟨-, rfl, -, rfl⟩
  · exact ⟨hcurrent, by simp [put, Arena.get?_put hget]⟩
  · exact ⟨rfl, Arena.get?_push_size drain⟩

theorem All.getQueue (hall : registry.All property)
    (hfound : registry.getQueue settings = (index, drain, found))
    (hsettings : ∀ old : Drain Item Run, property true old → property true { old with
        queue := old.queue.applyQueueRuntimeSettings settings })
    (hcreated : property true ⟨createQueue settings, .idle, 0, false⟩) :
    found.All property := by
  rcases getQueue_cases registry settings hfound with
    ⟨old, hcurrent, hget, rfl, rfl⟩ | ⟨hnone, rfl, rfl, rfl⟩
  · apply hall.put hget
    have hold : property true old := by
      simpa [hcurrent] using hall index old hget
    simpa [hcurrent] using hsettings old hold
  · intro other old hget
    rcases Arena.get?_push_eq_some.mp hget with ⟨rfl, rfl⟩ | hbefore
    · simpa using hcreated
    · have hne : other ≠ registry.drains.size := Nat.ne_of_lt (Arena.lt_size_of_get? hbefore)
      have hold := hall other old hbefore
      simpa [hnone other old hbefore, Ne.symm hne] using hold

theorem All.kick (hstable : Stable property) (hall : registry.All property)
    (kicks : Bool) : (registry.kick kicks).All property := by
  cases kicks with
  | false => exact hall
  | true => exact All.schedule hstable hall

theorem All.accept (loop : DrainLoop Item Run) (hstable : Stable property)
    (hall : registry.All property) (hcurrent : registry.current = some index)
    (hget : registry.drains.get? index = some drain) (item : Item)
    (restart : Bool)
    (hrefused : property true { drain with queue := { drain.queue with lastRun := loop.run item } })
    (hkept : ∀ kept entry, { drain.queue with
        lastRun := some (loop.run item) }.applyQueueDropPolicy = some kept →
      property true { drain with queue := { kept with items := kept.items ++ [entry] } }) :
    (registry.accept loop index drain item restart).All property := by
  unfold Registry.accept
  simp only
  split
  next =>
      apply All.kick hstable
      apply All.put hall hget
      simpa [hcurrent] using hrefused
  next kept hpolicy =>
      apply All.kick hstable
      have hput := @All.put _ _ _ _ _ _ { drain with
        queue := { kept with
          items := kept.items ++ [⟨registry.accepted.length, item⟩] } } hall hget
        (by simpa [hcurrent] using hkept kept _ hpolicy)
      exact hput

theorem enqueue_logs (loop : DrainLoop Item Run) (item : Item) (duplicate restart : Bool) :
    (registry.enqueue loop item settings duplicate restart).started = registry.started ∧
      (registry.enqueue loop item settings duplicate restart).passes = registry.passes := by
  have hkick : ∀ (before : Registry Item Run) (kicks : Bool),
      (before.kick kicks).started = before.started ∧ (before.kick kicks).passes = before.passes := by
    intro before kicks
    cases kicks with
    | false => exact ⟨rfl, rfl⟩
    | true => exact schedule_logs
  unfold Registry.enqueue
  rcases hfound : registry.getQueue settings with ⟨index, drain, found⟩
  have hsame : found.started = registry.started ∧ found.passes = registry.passes := by
    rcases getQueue_cases registry settings hfound with ⟨old, -, -, -, rfl⟩ | ⟨-, -, -, rfl⟩
    · exact ⟨rfl, rfl⟩
    · exact ⟨rfl, rfl⟩
  rw [← hsame.1, ← hsame.2]
  split_ifs
  · exact ⟨rfl, rfl⟩
  · unfold Registry.accept
    simp only
    split
    · exact hkick _ _
    · exact hkick _ _

end Enqueue

end Registry

end LittleBaby.Queues
