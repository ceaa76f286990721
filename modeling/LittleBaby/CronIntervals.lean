import LittleBaby.CronTimer
import Mathlib.Data.Int.ModEq
import Mathlib.Algebra.Order.Ring.Int
import Mathlib.Tactic.Ring

/-!
# The next run of a recurring job

A job with an interval moves on: its next run is not before the time it is
computed at, and later unless that time is itself a slot of the anchor.
-/

namespace LittleBaby.Cron

def slotSteps (everyMs anchor nowMs : ℤ) : ℤ := max 1 ((nowMs - anchor + everyMs - 1) / everyMs)

variable {everyMs anchor nowMs : ℤ}

theorem slot_not_before (hinterval : 0 < everyMs) :
    nowMs ≤ anchor + slotSteps everyMs anchor nowMs * everyMs := by
  have hrounded := Int.lt_mul_ediv_self_add (x := nowMs - anchor + everyMs - 1) hinterval
  have hsteps : (nowMs - anchor + everyMs - 1) / everyMs * everyMs ≤
      slotSteps everyMs anchor nowMs * everyMs :=
    Int.mul_le_mul_of_nonneg_right (le_max_right _ _) hinterval.le
  rw [Int.mul_comm] at hrounded
  omega

theorem slot_within_interval (hinterval : 0 < everyMs) (hanchor : anchor ≤ nowMs) :
    anchor + slotSteps everyMs anchor nowMs * everyMs ≤ nowMs + everyMs := by
  rcases max_cases 1 ((nowMs - anchor + everyMs - 1) / everyMs) with ⟨hone, -⟩ | ⟨hmore, -⟩
  · rw [slotSteps, hone]
    omega
  · have hrounded := Int.ediv_mul_le (nowMs - anchor + everyMs - 1) hinterval.ne'
    rw [slotSteps, hmore]
    omega

theorem slot_eq_now (hinterval : 0 < everyMs)
    (hslot : anchor + slotSteps everyMs anchor nowMs * everyMs ≤ nowMs) :
    anchor < nowMs ∧ everyMs ∣ nowMs - anchor := by
  have heq := le_antisymm hslot (slot_not_before hinterval)
  have hpositive : 0 < slotSteps everyMs anchor nowMs * everyMs :=
    Int.mul_pos (lt_of_lt_of_le Int.one_pos (le_max_left _ _)) hinterval
  constructor
  · omega
  · exact ⟨slotSteps everyMs anchor nowMs, by rw [Int.mul_comm]; omega⟩

/-- The time of the job's last run is so recent that the interval after it has
not passed. -/
def CronJob.ranWithin (everyMs nowMs : ℤ) (job : CronJob) : Prop :=
  ∃ last ∈ job.state.lastRunAtMs, nowMs < last + everyMs

/-- The time is a slot of the anchor, after the anchor. -/
def LaterSlot (everyMs anchor nowMs : ℤ) : Prop := anchor < nowMs ∧ everyMs ∣ nowMs - anchor

/-- What a next run of a job with an interval is. -/
structure MovesOn (job : CronJob) (everyMs anchor nowMs next : ℤ) : Prop where
  notBefore : nowMs ≤ next
  later : ¬(LaterSlot everyMs anchor nowMs ∧ ¬job.ranWithin everyMs nowMs) → nowMs < next
  inTime : next ≤ max (nowMs + everyMs) anchor ∨
    ∃ last ∈ job.state.lastRunAtMs, nowMs < last ∧ next = last + everyMs
  onSlot : next ≡ anchor [ZMOD everyMs] ∨ ∃ last ∈ job.state.lastRunAtMs, next = last + everyMs

variable {deps : CronServiceDeps} {job : CronJob} {anchorMs : Option ℤ}

theorem computeJobNextRunAtMs_every (henabled : job.enabled)
    (hschedule : job.schedule = .every everyMs anchorMs) (hinterval : 0 < everyMs) (nowMs : ℤ) :
    ∃ next, computeJobNextRunAtMs deps job nowMs = .ok (some next) ∧
      MovesOn job everyMs (resolveEveryAnchorMs anchorMs job.createdAtMs) nowMs next := by
  have hmax : max 1 everyMs = everyMs := max_eq_right hinterval
  have hanchor : max 0 (resolveEveryAnchorMs anchorMs job.createdAtMs) =
      resolveEveryAnchorMs anchorMs job.createdAtMs := max_eq_right (le_max_left _ _)
  generalize hslots : resolveEveryAnchorMs anchorMs job.createdAtMs = anchor at hanchor ⊢
  simp only [computeJobNextRunAtMs, henabled, hschedule, hmax, hslots, Bool.not_true,
    Bool.false_eq_true, if_false]
  by_cases hran : job.ranWithin everyMs nowMs
  · obtain ⟨last, hlast, hnext⟩ := hran
    refine ⟨last + everyMs, by simp [Option.mem_def.mp hlast, hnext], ?_⟩
    constructor
    case notBefore => exact hnext.le
    case later => exact fun _ => hnext
    case inTime =>
      by_cases hahead : nowMs < last
      · exact .inr ⟨last, hlast, hahead, rfl⟩
      · exact .inl (le_max_of_le_left (by omega))
    case onSlot => exact .inr ⟨last, hlast, rfl⟩
  · have hnone : (job.state.lastRunAtMs.map (· + everyMs)).filter (nowMs < ·) = none := by
      rw [Option.filter_eq_none_iff]
      intro next hnext
      obtain ⟨last, hlast, rfl⟩ := Option.map_eq_some_iff.mp hnext
      have hpassed : ¬nowMs < last + everyMs := fun hnext => hran ⟨last, hlast, hnext⟩
      simpa using hpassed
    rw [hnone]
    simp [computeNextRunAtMs, hmax, hanchor]
    split
    next hfuture =>
      exact ⟨anchor, rfl, hfuture.le, fun _ => hfuture, .inl (le_max_right _ _), .inl rfl⟩
    next hpast =>
      have hanchor : anchor ≤ nowMs := not_lt.mp hpast
      refine ⟨anchor + slotSteps everyMs anchor nowMs * everyMs, rfl, ?_⟩
      constructor
      case notBefore => exact slot_not_before hinterval
      case later =>
        intro hnot
        by_contra hslot
        exact hnot ⟨slot_eq_now hinterval (not_lt.mp hslot), hran⟩
      case inTime => exact .inl (le_max_of_le_left (slot_within_interval hinterval hanchor))
      case onSlot =>
        left
        exact (Int.modEq_iff_dvd.mpr ⟨slotSteps everyMs anchor nowMs, by ring⟩).symm

theorem errorBackoffMs_pos (consecutiveErrors : ℕ) :
    0 < errorBackoffMs consecutiveErrors defaultErrorBackoffScheduleMs := by
  unfold errorBackoffMs
  cases hbackoff : defaultErrorBackoffScheduleMs[min (consecutiveErrors - 1)
      (defaultErrorBackoffScheduleMs.length - 1)]? with
  | none => decide
  | some backoff =>
    have hall : ∀ backoff ∈ defaultErrorBackoffScheduleMs, 0 < backoff := by decide
    exact hall backoff (List.mem_of_getElem? hbackoff)

/-- The job that the run after a result is computed of. -/
def CronJob.countedAfter (preserveSchedule : Bool) (result : CronRunOutcome) (job : CronJob) :
    CronJob :=
  countedJob preserveSchedule job.state.lastRunAtMs (recordResult job result)

variable {result : CronRunOutcome}

theorem nextRunAfter_some (hcron : job.schedule.isCron = false) (natural : ℤ) :
    nextRunAfter job result (some natural) = some (if result.status = .error then
      max natural (result.endedAt +
        errorBackoffMs (job.state.consecutiveErrors.getD 1) defaultErrorBackoffScheduleMs)
      else natural) := by
  simp only [nextRunAfter, hcron]
  split <;> rfl

theorem applyJobResult_every (henabled : job.enabled)
    (hschedule : job.schedule = .every everyMs anchorMs) {natural : ℤ} {preserveSchedule : Bool}
    (hnatural : computeJobNextRunAtMs deps (job.countedAfter preserveSchedule result)
      result.endedAt = .ok (some natural)) :
    applyJobResult deps preserveSchedule result job = some ((recordResult job result).withNextRun
      (nextRunAfter (recordResult job result) result (some natural))) := by
  have honRecorded : (recordResult job result).enabled = true := henabled
  have hnext : naturalNextRun deps preserveSchedule job.state.lastRunAtMs
      (recordResult job result) result.endedAt = (recordResult job result, some natural) := by
    rw [CronJob.countedAfter] at hnatural
    rw [naturalNextRun, hnatural]
  simp [applyJobResult, deletesAfterRun, scheduleAfterRun, hschedule, CronSchedule.isAt,
    honRecorded, hnext]

def idleDeps : CronServiceDeps where
  dateParse _ := none
  cronNextRun _ _ _ := .ok none
  cronPreviousRun _ _ _ := .ok none
  localTimeZone := []
  digest _ := 0

def everyTen (lastRunAtMs : Option ℤ) : CronJob where
  id := "j"
  createdAtMs := 0
  schedule := .every 10 (some 0)
  sessionTarget := []
  payloadKind := .systemEvent
  state := { lastRunAtMs }

end LittleBaby.Cron
