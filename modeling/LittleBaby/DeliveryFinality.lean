import LittleBaby.DeliverySafety

/-!
# When an acknowledgement is final

An acknowledged entry has no pending file, and no task holds it, so no task
writes it back or delivers it.
-/

namespace LittleBaby.Delivery

open JsString LabelledMachine

variable {Payload : Type*} {env : RecoveryEnv Payload} {world next : World Payload}

/-- No acknowledgement renames the file of an entry that a task holds. -/
def AcksQuietly (world : World Payload) : DeliveryAction Payload → Prop
  | .advance index _ => (world.tasks.get? index).all (fun task =>
    match task.frame with
    | .ackRename id _ =>
      world.tasks.cells.all fun other => !other.frame.holds id
    | _ => true) = true
  | _ => True

instance (world : World Payload) (action : DeliveryAction Payload) :
    Decidable (AcksQuietly world action) := by
  unfold AcksQuietly
  split <;> infer_instance

def Settled (world : World Payload) : Prop :=
  ∀ id ∈ world.confirmed, world.disk.json.has id = false ∧
    ∀ index task, world.tasks.get? index = some task → task.frame.holds id = false

theorem Settled.spawn (hsettled : Settled world) {pid : ℕ}
    {frame : Frame Payload} (hholds : ∀ id, frame.holds id = false) :
    Settled (world.spawn pid frame) := by
  intro id hid
  obtain ⟨hjson, hquiet⟩ := hsettled id hid
  refine ⟨hjson, fun index task htask => ?_⟩
  rcases Arena.get?_push_eq_some.mp htask with ⟨-, rfl⟩ | hbefore
  · exact hholds id
  · exact hquiet index task hbefore

theorem Settled.crash (hsettled : Settled world) (pid : ℕ) : Settled (world.crash pid) := by
  intro id hid
  obtain ⟨hjson, hquiet⟩ := hsettled id hid
  refine ⟨hjson, fun index task htask => ?_⟩
  have hmap : (world.tasks.get? index).map (fun task =>
      if task.pid = pid then { task with frame := Frame.done } else task) =
      some task := by
    rw [← Arena.get?_map]
    exact htask
  obtain ⟨before, hbefore, rfl⟩ := Option.map_eq_some_iff.mp hmap
  split_ifs
  · rfl
  · exact hquiet index before hbefore

variable {frame : Frame Payload} {ledger : Ledger Payload} {id : DeliveryId}

theorem World.Enters.holds {disk : Disk Payload} {entered : Frame Payload}
    (hsound : frame.Sound ledger)
    (henters : World.Enters disk frame entered)
    (hholds : entered.holds id = true) :
    frame.holds id = true ∨ disk.json.has id = true := by
  cases henters with
  | rename other entry writeFor =>
    left
    cases writeFor <;> exact hholds
  | loaded other entry recovery =>
    left
    have hid := hsound.aligned other entry recovery (Or.inr rfl)
    subst hid
    exact hholds
  | failWrite other error caller entry hjson | scanWrite other rest entries scanFor entry hjson =>
    obtain rfl : other = id := by simpa [Frame.holds] using hholds
    exact Or.inr hjson
  | loadWrite recovery entry hjson | read recovery entry hjson =>
    obtain rfl : recovery.id = id := by simpa [Frame.holds] using hholds
    exact Or.inr hjson
  | _ => simp [Frame.holds] at hholds

theorem World.Touches.settles {after : Ledger Payload} {pid : ℕ} (hledger : ledger.Sound)
    (hsound : frame.Sound ledger)
    (htouches : World.Touches ledger pid frame after)
    (hid : id ∈ after.confirmed)
    (hbefore : id ∈ ledger.confirmed → ledger.disk.json.has id = false ∧ frame.holds id = false) :
    after.disk.json.has id = false := by
  cases htouches with
  | nothing | writeTmp other entry writeFor | acked other caller
  | unlinkMarker marker markers files scanFor | deliver entry recovery =>
    exact (hbefore hid).1
  | renameTmp other entry writeFor disk hwritten =>
    obtain ⟨hjson, hholds⟩ := hbefore hid
    have hne : id ≠ other := by
      rintro rfl
      cases writeFor with
      | enqueue =>
        exact (hsound.fresh id rfl).2 (hledger.confirmed id hid)
      | _ => simp [Frame.holds] at hholds
    simp [(@Disk.has_renameTmp _ _ _ _ id _ hwritten).1, hjson, hne]
  | markDelivered other caller =>
    rw [(@Disk.has_markDelivered _ _ _ id).1]
    by_cases hsame : id = other
    · simp [hsame]
    · have hconfirmed := (List.mem_cons.mp hid).resolve_left hsame
      simp [(hbefore hconfirmed).1]
  | moveToFailed recovery =>
    rw [(@Disk.has_moveToFailed _ _ _ id).1]
    simp [(hbefore hid).1]

theorem Settled.advance (hinv : Consistent world) (hsettled : Settled world)
    {index : ℕ} {task : Task Payload} {input : World.Input}
    (hget : world.tasks.get? index = some task)
    (hguard : AcksQuietly world (.advance index input))
    (hstep : world.advance env index task.pid input task.frame = some next) :
    Settled next := by
  have hsound := hinv.frames index task hget
  have htouches := World.advance_touches hstep
  have hcontinues := World.advance_continues hget hstep
  intro id hid
  have hjson : next.disk.json.has id = false := by
    apply htouches.settles hinv.ledger hsound hid
    intro hconfirmed
    exact ⟨(hsettled id hconfirmed).1, (hsettled id hconfirmed).2 index task hget⟩
  -- before the step, no task held the entry
  have hquiet : ∀ other found, world.tasks.get? other = some found →
      found.frame.holds id = false := by
    by_cases hconfirmed : id ∈ world.confirmed
    · exact (hsettled id hconfirmed).2
    · have hframe : ∃ caller, task.frame = .ackRename id caller := by
        generalize hframe : task.frame = frame at htouches
        have hafter : id ∈ next.toLedger.confirmed := hid
        generalize next.toLedger = after at htouches hafter
        cases htouches with
        | markDelivered other caller =>
          rcases List.mem_cons.mp hafter with rfl | hbefore
          · exact ⟨caller, rfl⟩
          · exact absurd hbefore hconfirmed
        | _ => exact absurd hafter hconfirmed
      obtain ⟨caller, hframe⟩ := hframe
      have hquietly : world.tasks.cells.all (fun other => !other.frame.holds id) = true := by
        have hguard : (world.tasks.get? index).all _ = true := hguard
        simpa [hget, hframe] using hguard
      intro other found hfound
      have hmem : found ∈ world.tasks.cells := List.mem_of_getElem? hfound
      simpa using List.all_eq_true.mp hquietly found hmem
  refine ⟨hjson, fun other found hfound => ?_⟩
  rcases hcontinues other found hfound with
    ⟨rfl, -, hcalm | henters⟩ | ⟨-, hbefore | hcalm⟩
  · exact (Frame.calm_spec hcalm).1 id
  · by_contra hholds
    have hholds : found.frame.holds id = true := by simpa using hholds
    rcases henters.holds hsound hholds with htask | hread
    · rw [hquiet other task hget] at htask
      exact absurd htask (by simp)
    · by_cases hconfirmed : id ∈ world.confirmed
      · rw [(hsettled id hconfirmed).1] at hread
        exact absurd hread (by simp)
      · -- the acknowledgement itself enters a frame that holds nothing
        generalize task.frame = frame at htouches henters
        generalize found.frame = entered at henters hholds
        have hafter : id ∈ next.toLedger.confirmed := hid
        generalize next.toLedger = after at htouches hafter
        cases htouches with
        | markDelivered marked caller =>
          cases henters
          simp [Frame.holds] at hholds
        | _ => exact absurd hafter hconfirmed
  · exact hquiet other found hbefore
  · exact (Frame.calm_spec hcalm).1 id

theorem Settled.step (hinv : Consistent world) (hsettled : Settled world)
    {action : DeliveryAction Payload} (hguard : AcksQuietly world action)
    (hstep : world.step env action = some next) : Settled next := by
  cases action with
  | enqueueDelivery pid id payload now =>
    simp only [World.step] at hstep
    split_ifs at hstep
    cases hstep
    exact @Settled.spawn _ { world with used := id :: world.used } hsettled _ _ fun _ => rfl
  | ackDelivery pid id =>
    simp only [World.step] at hstep
    split_ifs at hstep
    cases hstep
    exact hsettled.spawn fun _ => rfl
  | failDelivery pid id error | loadPendingDeliveries pid
  | recoverPendingDeliveries pid maxRecoveryMs =>
    cases hstep
    exact hsettled.spawn fun _ => rfl
  | drainPendingDeliveries pid drainKey now =>
    simp only [World.step] at hstep
    split_ifs at hstep
    · cases hstep
      exact hsettled
    · cases hstep
      exact @Settled.spawn _ (world.setProcess pid _) hsettled _ _ fun _ => rfl
  | advance index input =>
    obtain ⟨task, hget, hstep⟩ := Option.bind_eq_some_iff.mp hstep
    exact hsettled.advance hinv hget hguard hstep
  | crash pid =>
    cases hstep
    exact hsettled.crash pid

/-- No file of the id has come, and no call of a deliver callback. -/
structure Unheard (id : DeliveryId) (before after : World Payload) : Prop where
  files : ∀ file, after.disk.has id file = true → before.disk.has id file = true
  deliveries : after.deliveries.count id = before.deliveries.count id

theorem Unheard.refl (id : DeliveryId) (world : World Payload) :
    Unheard id world world := ⟨fun _ hfile => hfile, rfl⟩

theorem Unheard.trans {first second third : World Payload}
    (hfirst : Unheard id first second) (hsecond : Unheard id second third) :
    Unheard id first third where
  files := fun file hfile => hfirst.files file (hsecond.files file hfile)
  deliveries := hsecond.deliveries.trans hfirst.deliveries

theorem World.Touches.unheard {after : Ledger Payload} {pid : ℕ} (hledger : ledger.Sound)
    (hsound : frame.Sound ledger)
    (htouches : World.Touches ledger pid frame after)
    (hid : id ∈ ledger.confirmed) (hjson : ledger.disk.json.has id = false)
    (hholds : frame.holds id = false) :
    (∀ file, after.disk.has id file = true → ledger.disk.has id file = true) ∧
      after.deliveries.count id = ledger.deliveries.count id := by
  have hne : ∀ other entry (writeFor : WriteFor Payload), frame = .write other entry writeFor ∨
        frame = .rename other entry writeFor → id ≠ other := by
    rintro other entry writeFor hframe rfl
    have henqueued := hledger.confirmed id hid
    rcases hframe with rfl | rfl
    · cases writeFor with
      | enqueue => exact (hsound.fresh id rfl).2 henqueued
      | _ => simp [Frame.holds] at hholds
    · cases writeFor with
      | enqueue => exact (hsound.fresh id rfl).2 henqueued
      | _ => simp [Frame.holds] at hholds
  cases htouches with
  | nothing => exact ⟨fun _ hfile => hfile, rfl⟩
  | writeTmp other entry writeFor =>
    have hother := hne other entry writeFor (Or.inl rfl)
    refine ⟨fun file hfile => ?_, rfl⟩
    cases file with
    | tmp writer =>
      have hkey : (id, writer) ≠ (other, pid) := by
        intro heq
        exact hother (Prod.mk.inj heq).1
      simpa [Disk.has, Disk.writeTmp, InsertionMap.has, hkey] using hfile
    | _ => exact hfile
  | renameTmp other entry writeFor disk hwritten =>
    have hother := hne other entry writeFor (Or.inr rfl)
    obtain ⟨hpending, hdelivered, hfailed, htmp⟩ := @Disk.has_renameTmp _ _ _ _ id _ hwritten
    refine ⟨fun file hfile => ?_, rfl⟩
    cases file with
    | json => simpa [Disk.has, hpending, hother] using hfile
    | delivered => simpa [Disk.has, hdelivered] using hfile
    | failed => simpa [Disk.has, hfailed] using hfile
    | tmp writer => exact htmp writer hfile
  | markDelivered other caller =>
    obtain ⟨hpending, hfailed, htmp, hmarker⟩ := @Disk.has_markDelivered _ ledger.disk other id
    refine ⟨fun file hfile => ?_, rfl⟩
    cases file with
    | json => simp [Disk.has, hpending, hjson] at hfile
    | delivered =>
      rcases hmarker hfile with hbefore | ⟨rfl, hread⟩
      · exact hbefore
      · rw [hjson] at hread
        exact absurd hread (by simp)
    | failed => simpa [Disk.has, hfailed] using hfile
    | tmp writer => simpa [Disk.has, htmp] using hfile
  | acked other caller | unlinkMarker marker markers files scanFor =>
    refine ⟨fun file hfile => ?_, rfl⟩
    cases file with
    | delivered =>
      have hmem := InsertionSet.has_eq_true.mp hfile
      exact InsertionSet.has_eq_true.mpr (InsertionSet.mem_delete.mp hmem).1
    | _ => exact hfile
  | moveToFailed recovery =>
    obtain ⟨hpending, hdelivered, htmp, hmoved⟩ :=
      @Disk.has_moveToFailed _ ledger.disk recovery.id id
    refine ⟨fun file hfile => ?_, rfl⟩
    cases file with
    | json => simp [Disk.has, hpending, hjson] at hfile
    | delivered => simpa [Disk.has, hdelivered] using hfile
    | failed =>
      have hcases : ledger.disk.failed.has id = true ∨
          id = recovery.id ∧ ledger.disk.json.has recovery.id = true := by
        simpa [Disk.has, hmoved] using hfile
      rcases hcases with hbefore | ⟨rfl, hread⟩
      · exact hbefore
      · rw [hjson] at hread
        exact absurd hread (by simp)
    | tmp writer => simpa [Disk.has, htmp] using hfile
  | deliver entry recovery =>
    refine ⟨fun _ hfile => hfile, ?_⟩
    have hother : recovery.id ≠ id := by
      simpa [Frame.holds] using hholds
    exact List.count_cons_of_ne hother

theorem unheard_step (hinv : Consistent world) (hsettled : Settled world)
    {action : DeliveryAction Payload}
    (hid : id ∈ world.acked) (hstep : world.step env action = some next) :
    Unheard id world next ∧ id ∈ next.acked := by
  have hconfirmed := hinv.ledger.acked id hid
  have hsame : ∀ other : World Payload, other.disk = world.disk →
      other.deliveries = world.deliveries → other.acked = world.acked →
      Unheard id world other ∧ id ∈ other.acked := by
    intro other hdisk hdeliveries hacked
    refine ⟨⟨?_, by rw [hdeliveries]⟩, by rw [hacked]; exact hid⟩
    rw [hdisk]
    exact fun _ hfile => hfile
  cases action with
  | enqueueDelivery pid other payload now | ackDelivery pid other =>
    simp only [World.step] at hstep
    split_ifs at hstep
    cases hstep
    exact hsame _ rfl rfl rfl
  | failDelivery pid other error | loadPendingDeliveries pid
  | recoverPendingDeliveries pid maxRecoveryMs | crash pid =>
    cases hstep
    exact hsame _ rfl rfl rfl
  | drainPendingDeliveries pid drainKey now =>
    simp only [World.step] at hstep
    split_ifs at hstep
    · cases hstep
      exact hsame _ rfl rfl rfl
    · cases hstep
      exact hsame _ rfl rfl rfl
  | advance index input =>
    obtain ⟨task, hget, hstep⟩ := Option.bind_eq_some_iff.mp hstep
    have htouches := World.advance_touches hstep
    obtain ⟨hjson, hquiet⟩ := hsettled id hconfirmed
    obtain ⟨hfiles, hdeliveries⟩ := htouches.unheard hinv.ledger
      (hinv.frames index task hget) hconfirmed hjson (hquiet index task hget)
    refine ⟨⟨hfiles, hdeliveries⟩, ?_⟩
    have hacked : ∀ {after : Ledger Payload} {frame : Frame Payload},
        World.Touches world.toLedger task.pid frame after →
        id ∈ after.acked := by
      intro after frame htouches
      cases htouches with
      | acked other caller => exact List.mem_cons_of_mem _ hid
      | _ => exact hid
    exact hacked htouches

end LittleBaby.Delivery
