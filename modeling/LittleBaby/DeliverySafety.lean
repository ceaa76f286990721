import LittleBaby.DeliverySteps

/-!
# Acknowledged, kept, and delivered by one

An entry leaves the queue by an acknowledgement or to `failed/`, and a process
delivers it in one recovery at a time.
-/

namespace LittleBaby.Delivery

open JsString LabelledMachine InsertionMap Delivery.Frame World

variable {Payload : Type*}

namespace Disk

variable {disk written : Disk Payload} {id other : DeliveryId} {pid : ℕ}

theorem has_renameTmp (hwritten : disk.renameTmp id pid = some written) :
    written.json.has other = (decide (other = id) || disk.json.has other) ∧
      written.delivered = disk.delivered ∧ written.failed = disk.failed ∧
      ∀ writer, written.tmp.has (other, writer) = true → disk.tmp.has (other, writer) = true := by
  simp only [renameTmp, Option.map_eq_some_iff] at hwritten
  obtain ⟨entry, -, rfl⟩ := hwritten
  refine ⟨?_, rfl, rfl, fun writer => ?_⟩
  · by_cases hother : other = id <;> simp [InsertionMap.has, hother]
  · intro htmp
    simp only [InsertionMap.has, InsertionMap.get?_delete] at htmp ⊢
    split_ifs at htmp
    · exact absurd htmp (by simp)
    · exact htmp

theorem has_markDelivered : (disk.markDelivered id).json.has other =
        (disk.json.has other && decide (other ≠ id)) ∧
      (disk.markDelivered id).failed = disk.failed ∧
      (disk.markDelivered id).tmp = disk.tmp ∧
      ((disk.markDelivered id).delivered.has other = true →
        disk.delivered.has other = true ∨ other = id ∧ disk.json.has id = true) := by
  unfold markDelivered
  by_cases hjson : disk.json.has id = true
  · rw [if_pos hjson]
    refine ⟨?_, rfl, rfl, ?_⟩
    · by_cases hother : other = id <;> simp [InsertionMap.has, hother]
    · intro hmarker
      rw [InsertionSet.has_eq_true, InsertionSet.mem_add] at hmarker
      rcases hmarker with hbefore | rfl
      · exact Or.inl (InsertionSet.has_eq_true.mpr hbefore)
      · exact Or.inr ⟨rfl, hjson⟩
  · rw [if_neg hjson]
    refine ⟨?_, rfl, rfl, Or.inl⟩
    by_cases hother : other = id
    · subst other
      simpa using hjson
    · simp [hother]

theorem has_moveToFailed : (disk.moveToFailed id).json.has other =
        (disk.json.has other && decide (other ≠ id)) ∧
      (disk.moveToFailed id).delivered = disk.delivered ∧
      (disk.moveToFailed id).tmp = disk.tmp ∧
      (disk.moveToFailed id).failed.has other = (disk.failed.has other ||
          (decide (other = id) && disk.json.has id)) := by
  unfold moveToFailed
  cases hjson : disk.json.get? id with
  | none =>
    by_cases hother : other = id
    · subst other
      simp [InsertionMap.has, hjson]
    · simp [hother]
  | some entry =>
    by_cases hother : other = id
    · subst other
      simp [InsertionMap.has, hjson]
    · simp [InsertionMap.has, hother]

end Disk

structure Frame.Sound (ledger : Ledger Payload) (frame : Frame Payload) :
    Prop where
  aligned : ∀ id entry recovery, frame = .write id entry (.load recovery) ∨
      frame = .rename id entry (.load recovery) → recovery.id = id
  known : ∀ id, frame.knows = some id → id ∈ ledger.enqueued
  fresh : ∀ id, frame.creates = some id → id ∈ ledger.used ∧ id ∉ ledger.enqueued
  confirmed : ∀ id caller, frame = .ackUnlink id caller → id ∈ ledger.confirmed

variable {ledger : Ledger Payload} {frame : Frame Payload}

theorem Frame.Sound.of_calm (hcalm : frame.calm = true) : frame.Sound ledger := by
  obtain ⟨-, hcreates, hknows⟩ := calm_spec hcalm
  constructor
  · rintro id entry recovery (rfl | rfl)
    · simp [calm] at hcalm
    · simp [calm] at hcalm
  · simp [hknows]
  · simp [hcreates]
  · rintro id caller rfl
    simp [calm] at hcalm

/-- No entry is lost: it is pending, acknowledged, or under `failed/`. -/
def Ledger.Kept (ledger : Ledger Payload) : Prop :=
  ∀ id ∈ ledger.enqueued, ledger.disk.json.has id = true ∨
    id ∈ ledger.confirmed ∨ ledger.disk.failed.has id = true

structure Ledger.Sound (ledger : Ledger Payload) : Prop where
  stored : ∀ id, ledger.disk.json.has id = true → id ∈ ledger.enqueued
  used : ∀ id ∈ ledger.enqueued, id ∈ ledger.used
  confirmed : ∀ id ∈ ledger.confirmed, id ∈ ledger.enqueued
  acked : ∀ id ∈ ledger.acked, id ∈ ledger.confirmed
  kept : ledger.Kept

section Touches

variable {ledger after : Ledger Payload} {pid : ℕ} {frame : Frame Payload}

theorem Ledger.Sound.touches (hledger : ledger.Sound) (hframe : frame.Sound ledger)
    (htouches : World.Touches ledger pid frame after) : after.Sound := by
  cases htouches with
  | nothing => exact hledger
  | writeTmp id entry writeFor | unlinkMarker marker markers files scanFor
  | deliver entry recovery =>
    exact ⟨hledger.stored, hledger.used, hledger.confirmed, hledger.acked, hledger.kept⟩
  | renameTmp id entry writeFor disk hwritten =>
    have hmem : id ∈ (if writeFor.isEnqueue then id :: ledger.enqueued
        else ledger.enqueued) := by
      cases writeFor with
      | enqueue => exact List.mem_cons_self
      | _ => exact hframe.known id rfl
    have hsub : ∀ other ∈ ledger.enqueued, other ∈ (if writeFor.isEnqueue then id :: ledger.enqueued
          else ledger.enqueued) := by
      intro other hother
      split_ifs
      · exact List.mem_cons_of_mem _ hother
      · exact hother
    have hjson := fun other =>
      (@Disk.has_renameTmp _ _ _ _ other _ hwritten).1
    obtain ⟨-, -, hfailed, -⟩ := @Disk.has_renameTmp _ _ _ _ id _ hwritten
    constructor
    · intro other hother
      rw [hjson other, Bool.or_eq_true, decide_eq_true_eq] at hother
      rcases hother with rfl | hbefore
      · exact hmem
      · exact hsub other (hledger.stored other hbefore)
    · intro other hother
      cases writeFor with
      | enqueue =>
        rcases List.mem_cons.mp hother with rfl | hbefore
        · exact (hframe.fresh other rfl).1
        · exact hledger.used other hbefore
      | _ => exact hledger.used other hother
    · exact fun other hother => hsub other (hledger.confirmed other hother)
    · exact hledger.acked
    · intro other hother
      by_cases hsame : other = id
      · left
        simp [hjson, hsame]
      · have hbefore : other ∈ ledger.enqueued := by
          cases writeFor with
          | enqueue =>
            exact (List.mem_cons.mp hother).resolve_left hsame
          | _ => exact hother
        rcases hledger.kept other hbefore with hpending | hconfirmed | hmoved
        · left
          simp [hjson, hpending]
        · exact .inr (.inl hconfirmed)
        · exact .inr (.inr (hfailed ▸ hmoved))
  | markDelivered id caller =>
    have hjson := fun other =>
      (@Disk.has_markDelivered _ ledger.disk id other).1
    constructor
    · intro other hother
      rw [hjson other, Bool.and_eq_true] at hother
      exact hledger.stored other hother.1
    · exact hledger.used
    · intro other hother
      rcases List.mem_cons.mp hother with rfl | hbefore
      · exact hframe.known other rfl
      · exact hledger.confirmed other hbefore
    · exact fun other hother =>
        List.mem_cons_of_mem _ (hledger.acked other hother)
    · intro other hother
      by_cases hsame : other = id
      · exact .inr (.inl (List.mem_cons.mpr (.inl hsame)))
      · rcases hledger.kept other hother with hpending | hconfirmed | hmoved
        · left
          simp [hjson, hpending, hsame]
        · exact .inr (.inl (List.mem_cons_of_mem _ hconfirmed))
        · right
          right
          rw [(@Disk.has_markDelivered _ _ _ other).2.1]
          exact hmoved
  | acked id caller =>
    refine ⟨hledger.stored, hledger.used, hledger.confirmed, ?_, hledger.kept⟩
    intro other hother
    rcases List.mem_cons.mp hother with rfl | hbefore
    · exact hframe.confirmed other caller rfl
    · exact hledger.acked other hbefore
  | moveToFailed recovery =>
    have hmoved := fun other =>
      @Disk.has_moveToFailed _ ledger.disk recovery.id other
    constructor
    · intro other hother
      rw [(hmoved other).1, Bool.and_eq_true] at hother
      exact hledger.stored other hother.1
    · exact hledger.used
    · exact hledger.confirmed
    · exact hledger.acked
    · intro other hother
      rcases hledger.kept other hother with hpending | hconfirmed | hfailed
      · by_cases hsame : other = recovery.id
        · right
          right
          rw [(hmoved other).2.2.2]
          subst hsame
          simp [hpending]
        · left
          rw [(hmoved other).1]
          simp [hpending, hsame]
      · exact .inr (.inl hconfirmed)
      · right
        right
        rw [(hmoved other).2.2.2]
        simp [hfailed]

theorem World.Touches.grows (htouches : World.Touches ledger pid frame after) :
    after.used = ledger.used ∧ (∀ id ∈ ledger.enqueued, id ∈ after.enqueued) ∧
      (∀ id ∈ ledger.confirmed, id ∈ after.confirmed) ∧
      ∀ id ∈ after.enqueued, id ∈ ledger.enqueued ∨
        frame.creates = some id ∧ ∃ entry, frame = .rename id entry .enqueue := by
  cases htouches with
  | renameTmp id entry writeFor disk hwritten =>
    cases writeFor with
    | enqueue =>
      refine ⟨rfl, fun other => List.mem_cons_of_mem _, fun _ hmem => hmem, ?_⟩
      intro other hother
      rcases List.mem_cons.mp hother with rfl | hbefore
      · exact .inr ⟨rfl, entry, rfl⟩
      · exact .inl hbefore
    | _ => exact ⟨rfl, fun _ hmem => hmem, fun _ hmem => hmem, fun _ => .inl⟩
  | markDelivered id caller =>
    exact ⟨rfl, fun _ hmem => hmem, fun other => List.mem_cons_of_mem _, fun _ => .inl⟩
  | _ => exact ⟨rfl, fun _ hmem => hmem, fun _ hmem => hmem, fun _ => .inl⟩

end Touches

theorem Frame.Sound.grow {after : Ledger Payload} (hsound : frame.Sound ledger)
    (hused : ∀ id ∈ ledger.used, id ∈ after.used)
    (henqueued : ∀ id ∈ ledger.enqueued, id ∈ after.enqueued)
    (hconfirmed : ∀ id ∈ ledger.confirmed, id ∈ after.confirmed)
    (hfresh : ∀ id ∈ after.enqueued, frame.creates = some id →
      id ∈ ledger.enqueued) : frame.Sound after where
  aligned := hsound.aligned
  known := fun id hknows => henqueued id (hsound.known id hknows)
  fresh := by
    intro id hcreates
    obtain ⟨hin, hout⟩ := hsound.fresh id hcreates
    exact ⟨hused id hin, fun hmem => hout (hfresh id hmem hcreates)⟩
  confirmed := fun id caller hframe =>
    hconfirmed id (hsound.confirmed id caller hframe)

structure Consistent (world : World Payload) : Prop where
  ledger : world.toLedger.Sound
  frames : ∀ index task, world.tasks.get? index = some task → task.frame.Sound world.toLedger
  creators : ∀ left right leftTask rightTask id, world.tasks.get? left = some leftTask →
    world.tasks.get? right = some rightTask →
    leftTask.frame.creates = some id → rightTask.frame.creates = some id →
    left = right

variable {pid : ℕ}

theorem Frame.Sound.enters {after : Ledger Payload}
    {entered : Frame Payload} (hledger : ledger.Sound)
    (hsound : frame.Sound ledger)
    (htouches : World.Touches ledger pid frame after)
    (henters : World.Enters ledger.disk frame entered) :
    entered.Sound after ∧ (entered.creates = none ∨ entered.creates = frame.creates) := by
  have hgrows := htouches.grows
  have henqueued := hgrows.2.1
  cases henters with
  | rename id entry writeFor =>
    have hcreates : (rename id entry writeFor).creates = (write id entry writeFor).creates := by
      cases writeFor <;> rfl
    have hknows : (rename id entry writeFor).knows = (write id entry writeFor).knows := by
      cases writeFor <;> rfl
    have hsame : after.enqueued = ledger.enqueued := by
      cases htouches <;> rfl
    refine ⟨⟨?_, ?_, ?_, by simp⟩, .inr hcreates⟩
    · rintro other stored recovery (hframe | hframe)
      · simp at hframe
      · simp only [rename.injEq] at hframe
        obtain ⟨rfl, rfl, rfl⟩ := hframe
        exact hsound.aligned id entry recovery (.inl rfl)
    · intro other hother
      rw [hknows] at hother
      exact henqueued other (hsound.known other hother)
    · intro other hother
      rw [hcreates] at hother
      rw [hgrows.1, hsame]
      exact hsound.fresh other hother
  | loaded id entry recovery =>
    have hid := hsound.aligned id entry recovery (.inr rfl)
    refine ⟨⟨by simp, ?_, by simp [creates], by simp⟩, .inl rfl⟩
    intro other hother
    obtain rfl : recovery.id = other := Option.some.inj hother
    exact henqueued _ (hid ▸ hsound.known id rfl)
  | ackUnlink id caller =>
    have hconfirmed : id ∈ after.confirmed := by
      cases htouches with
      | nothing _ hframe => exact absurd rfl (hframe id caller)
      | markDelivered => exact List.mem_cons_self
    refine ⟨⟨by simp, ?_, by simp [creates], ?_⟩, .inl rfl⟩
    · intro other hother
      exact henqueued other (hsound.known other hother)
    · intro other otherCaller hother
      obtain ⟨rfl, -⟩ := hother
      exact hconfirmed
  | failWrite id _ _ _ hjson | scanWrite id _ _ _ _ hjson =>
    refine ⟨⟨by simp, ?_, by simp [creates], by simp⟩, .inl rfl⟩
    intro other hother
    obtain rfl : id = other := Option.some.inj hother
    exact henqueued id (hledger.stored id hjson)
  | loadWrite recovery entry hjson =>
    refine ⟨⟨?_, ?_, by simp [creates], by simp⟩, .inl rfl⟩
    · rintro other stored other' (hframe | hframe)
      · simp only [write.injEq, WriteFor.load.injEq] at hframe
        obtain ⟨rfl, -, rfl⟩ := hframe
        rfl
      · simp at hframe
    · intro other hother
      obtain rfl : recovery.id = other := Option.some.inj hother
      exact henqueued _ (hledger.stored _ hjson)
  | read recovery entry hjson =>
    refine ⟨⟨by simp, ?_, by simp [creates], by simp⟩, .inl rfl⟩
    intro other hother
    obtain rfl : recovery.id = other := Option.some.inj hother
    exact henqueued _ (hledger.stored _ hjson)
  | delivering | ackRename =>
    refine ⟨⟨by simp, ?_, by simp [creates], by simp⟩, .inl rfl⟩
    intro other hother
    exact henqueued other (hsound.known other hother)

section Step

variable {env : RecoveryEnv Payload} {world next : World Payload}

section

variable (hinv : Consistent world)
include hinv

theorem Consistent.advance {index : ℕ} {task : Task Payload} {input : World.Input}
    (hget : world.tasks.get? index = some task)
    (hstep : world.advance env index task.pid input task.frame = some next) :
    Consistent next := by
  have hframe := hinv.frames index task hget
  have htouches := advance_touches hstep
  have hcontinues := advance_continues hget hstep
  obtain ⟨hused, henqueued, hconfirmed, hnew⟩ := htouches.grows
  -- an entry that another task enqueues is not the one enqueued here
  have hother : ∀ other found, world.tasks.get? other = some found →
      other ≠ index → ∀ id ∈ next.enqueued, found.frame.creates = some id →
        id ∈ world.enqueued := by
    intro other found hfound hne id hmem hcreates
    rcases hnew id hmem with hbefore | ⟨hcreated, -⟩
    · exact hbefore
    · exact absurd (hinv.creators other index found task id hfound hget hcreates hcreated) hne
  have hentered : ∀ frame, frame.calm = true ∨ World.Enters world.disk task.frame frame →
      frame.Sound next.toLedger ∧ (frame.creates = none ∨ frame.creates = task.frame.creates) := by
    rintro frame (hcalm | henters)
    · exact ⟨.of_calm hcalm, .inl (calm_spec hcalm).2.1⟩
    · exact Frame.Sound.enters hinv.ledger hframe htouches henters
  constructor
  · exact hinv.ledger.touches hframe htouches
  · intro other found hfound
    rcases hcontinues other found hfound with
      ⟨-, -, hsame⟩ | ⟨hne, hbefore | hcalm⟩
    · exact (hentered found.frame hsame).1
    · exact (hinv.frames other found hbefore).grow
        (by rw [hused]; exact fun id hmem => hmem) henqueued hconfirmed
        (hother other found hbefore hne)
    · exact .of_calm hcalm
  · -- each creating task was one before, at the same place
    have horigin : ∀ other found id, next.tasks.get? other = some found →
        found.frame.creates = some id → ∃ before, world.tasks.get? other = some before ∧
            before.frame.creates = some id := by
      intro other found id hfound hcreates
      rcases hcontinues other found hfound with
        ⟨rfl, -, hsame⟩ | ⟨-, hbefore | hcalm⟩
      · rcases (hentered found.frame hsame).2 with hnone | hkept
        · rw [hnone] at hcreates
          exact absurd hcreates (by simp)
        · exact ⟨task, hget, hkept ▸ hcreates⟩
      · exact ⟨found, hbefore, hcreates⟩
      · rw [(calm_spec hcalm).2.1] at hcreates
        exact absurd hcreates (by simp)
    intro left right leftTask rightTask id hleft hright hcreates hcreates'
    obtain ⟨leftBefore, hleftGet, hleftCreates⟩ := horigin left leftTask id hleft hcreates
    obtain ⟨rightBefore, hrightGet, hrightCreates⟩ := horigin right rightTask id hright hcreates'
    exact hinv.creators left right leftBefore rightBefore id hleftGet hrightGet
      hleftCreates hrightCreates

theorem Consistent.spawn {pid : ℕ} {frame : Frame Payload} (hframe : frame.Sound world.toLedger)
    (hcreates : ∀ id, frame.creates = some id → ∀ other task,
      world.tasks.get? other = some task → task.frame.creates ≠ some id) :
    Consistent (world.spawn pid frame) where
  ledger := hinv.ledger
  frames := by
    intro other task htask
    rcases Arena.get?_push_eq_some.mp htask with ⟨-, rfl⟩ | hbefore
    · exact hframe
    · exact hinv.frames other task hbefore
  creators := by
    intro left right leftTask rightTask id hleft hright hleftId hrightId
    rcases Arena.get?_push_eq_some.mp hleft with ⟨rfl, rfl⟩ | hleft
    · rcases Arena.get?_push_eq_some.mp hright with ⟨rfl, rfl⟩ | hright
      · rfl
      · exact absurd hrightId (hcreates id hleftId right rightTask hright)
    · rcases Arena.get?_push_eq_some.mp hright with ⟨rfl, rfl⟩ | hright
      · exact absurd hleftId (hcreates id hrightId left leftTask hleft)
      · exact hinv.creators left right leftTask rightTask id hleft hright hleftId hrightId

theorem Consistent.spawn_calm (hcalm : frame.calm = true) : Consistent (world.spawn pid frame) := by
  apply hinv.spawn (.of_calm hcalm)
  intro id hcreates
  rw [(calm_spec hcalm).2.1] at hcreates
  exact absurd hcreates (by simp)

theorem Consistent.crash (pid : ℕ) : Consistent (world.crash pid) := by
  have horigin : ∀ other found, (world.crash pid).tasks.get? other = some found →
      ∃ before, world.tasks.get? other = some before ∧ (found.frame = .done ∨ found = before) := by
    intro other found hfound
    have hmap : (world.tasks.get? other).map (fun task =>
        if task.pid = pid then { task with frame := done } else task) =
        some found := by
      rw [← Arena.get?_map]
      exact hfound
    obtain ⟨before, hbefore, rfl⟩ := Option.map_eq_some_iff.mp hmap
    refine ⟨before, hbefore, ?_⟩
    split_ifs
    · exact .inl rfl
    · exact .inr rfl
  constructor
  · exact hinv.ledger
  · intro other found hfound
    obtain ⟨before, hbefore, hdone | rfl⟩ := horigin other found hfound
    · rw [hdone]
      exact .of_calm rfl
    · exact hinv.frames other found hbefore
  · intro left right leftTask rightTask id hleft hright hleftId hrightId
    obtain ⟨leftBefore, hleftGet, hdone | rfl⟩ := horigin left leftTask hleft
    · rw [hdone] at hleftId
      exact absurd hleftId (by simp [creates])
    · obtain ⟨rightBefore, hrightGet, hdone | rfl⟩ := horigin right rightTask hright
      · rw [hdone] at hrightId
        exact absurd hrightId (by simp [creates])
      · exact hinv.creators left right leftTask rightTask id hleftGet hrightGet hleftId hrightId

theorem Consistent.step {action : DeliveryAction Payload}
    (hstep : world.step env action = some next) : Consistent next := by
  cases action with
  | enqueueDelivery pid id payload now =>
    simp only [World.step] at hstep
    split_ifs at hstep with hused
    cases hstep
    have hsub : ∀ other ∈ world.used, other ∈ id :: world.used :=
      fun other hother => List.mem_cons_of_mem _ hother
    have hnew : Consistent { world with used := id :: world.used } := by
      refine ⟨⟨hinv.ledger.stored, ?_, hinv.ledger.confirmed,
        hinv.ledger.acked, hinv.ledger.kept⟩, ?_, hinv.creators⟩
      · exact fun other hother => hsub other (hinv.ledger.used other hother)
      · intro other task htask
        exact (hinv.frames other task htask).grow hsub (fun _ hmem => hmem)
          (fun _ hmem => hmem) (fun _ hmem _ => hmem)
    apply hnew.spawn
    · refine ⟨by simp, by simp [Frame.knows], ?_, by simp⟩
      intro other hother
      obtain rfl : id = other := Option.some.inj hother
      exact ⟨List.mem_cons_self, fun hmem => hused (hinv.ledger.used id hmem)⟩
    · intro other hother index task htask hcreates
      obtain rfl : id = other := Option.some.inj hother
      exact hused ((hinv.frames index task htask).fresh id hcreates).1
  | ackDelivery pid id =>
    simp only [World.step] at hstep
    split_ifs at hstep with hknown
    cases hstep
    apply hinv.spawn
    · refine ⟨by simp, ?_, by simp [Frame.creates], by simp⟩
      intro other hother
      obtain rfl : id = other := Option.some.inj hother
      exact hknown
    · simp [Frame.creates]
  | failDelivery pid id error | loadPendingDeliveries pid
  | recoverPendingDeliveries pid maxRecoveryMs =>
    cases hstep
    exact hinv.spawn_calm rfl
  | drainPendingDeliveries pid drainKey now =>
    simp only [World.step] at hstep
    split_ifs at hstep
    · cases hstep
      exact hinv
    · cases hstep
      have hset : Consistent (world.setProcess pid { world.processes pid with
            drainInProgress := drainKey :: (world.processes pid).drainInProgress }) :=
        ⟨hinv.ledger, hinv.frames, hinv.creators⟩
      exact hset.spawn_calm rfl
  | advance index input =>
    obtain ⟨task, hget, hstep⟩ := Option.bind_eq_some_iff.mp hstep
    exact hinv.advance hget hstep
  | crash pid =>
    cases hstep
    exact hinv.crash pid

end

end Step

theorem consistent_start (disk : Disk Payload) : Consistent (start disk) := by
  have hstored : ∀ id, disk.json.has id = true → id ∈ disk.json.keys := by
    intro id hhas
    exact (disk.json.mem_keys id).mpr hhas
  constructor
  · refine ⟨hstored, ?_, ?_, ?_, ?_⟩
    · intro id hid
      simp only [start, List.mem_append]
      exact .inl (.inl (.inl hid))
    · intro id hid
      simp [start] at hid
    · intro id hid
      simp [start] at hid
    · intro id hid
      exact .inl ((disk.json.mem_keys id).mp hid)
  · intro index task hget
    simp [start] at hget
  · intro left right leftTask rightTask id hleft
    simp [start] at hleft

end LittleBaby.Delivery
