import LittleBaby.DeliveryFinality

/-!
# One delivery of an entry at a time

A recovery works on an entry between its claim and its release, and every claim
is in the set of its process, so no two recoveries of a process work on one
entry.
-/

namespace LittleBaby.Delivery

open JsString LabelledMachine World

variable {Payload : Type*} {env : RecoveryEnv Payload}
  {world next : World Payload} {index pid : ℕ} {now : ℤ}

/-- The claims of the tasks that satisfy `among` are in the sets of their
processes, and two of them differ. -/
structure ClaimsAmong (among : ℕ → Prop) (world : World Payload) : Prop where
  held : ∀ other task id, among other →
    world.tasks.get? other = some task → task.frame.claimed = some id →
    id ∈ (world.processes task.pid).entriesInProgress
  unique : ∀ left right leftTask rightTask id, among left → among right →
    world.tasks.get? left = some leftTask →
    world.tasks.get? right = some rightTask → leftTask.pid = rightTask.pid →
    leftTask.frame.claimed = some id → rightTask.frame.claimed = some id →
    left = right

def Claims (world : World Payload) : Prop := ClaimsAmong (fun _ => True) world

def ClaimsOthers (world : World Payload) (index : ℕ) : Prop := ClaimsAmong (· ≠ index) world

theorem Claims.others (hclaims : Claims world) (index : ℕ) : ClaimsOthers world index where
  held := fun other task id _ => hclaims.held other task id trivial
  unique := fun left right leftTask rightTask id _ _ =>
    hclaims.unique left right leftTask rightTask id trivial trivial

theorem Claims.ledger (hclaims : Claims world) (ledger : Ledger Payload) :
    Claims ⟨ledger, world.tasks, world.processes⟩ where
  held := hclaims.held
  unique := hclaims.unique

theorem ClaimsAmong.setProcess {among : ℕ → Prop}
    (hclaims : ClaimsAmong among world) {process : Process}
    (hsub : ∀ id ∈ (world.processes pid).entriesInProgress, id ∈ process.entriesInProgress) :
    ClaimsAmong among (world.setProcess pid process) where
  held := by
    intro other task id hamong hget hclaimed
    have hheld := hclaims.held other task id hamong hget hclaimed
    by_cases hpid : task.pid = pid
    · rw [hpid] at hheld
      simpa [World.setProcess, hpid] using hsub id hheld
    · simpa [World.setProcess, hpid] using hheld
  unique := hclaims.unique

variable {old : Task Payload} {frame : Frame Payload}

section

variable (hclaims : ClaimsOthers world index) (hget : world.tasks.get? index = some old)
include hclaims hget

theorem ClaimsOthers.goto
    (hheld : ∀ id, frame.claimed = some id → id ∈ (world.processes pid).entriesInProgress)
    (hfree : ∀ id, frame.claimed = some id → ∀ other task, other ≠ index →
      world.tasks.get? other = some task → task.pid = pid →
      task.frame.claimed ≠ some id) :
    Claims (world.goto index pid frame) where
  held := by
    intro other task id _ htask hclaimed
    rcases (Arena.get?_put_eq_some hget).mp htask with ⟨rfl, rfl⟩ | ⟨hne, hother⟩
    · exact hheld id hclaimed
    · exact hclaims.held other task id hne hother hclaimed
  unique := by
    intro left right leftTask rightTask id _ _ hleft hright hpids hleftId hrightId
    rcases (Arena.get?_put_eq_some hget).mp hleft with
      ⟨hleftIndex, rfl⟩ | ⟨hleftNe, hleftOld⟩
    · rcases (Arena.get?_put_eq_some hget).mp hright with
        ⟨hrightIndex, rfl⟩ | ⟨hrightNe, hrightOld⟩
      · exact hleftIndex.trans hrightIndex.symm
      · exact absurd hrightId (hfree id hleftId right rightTask hrightNe hrightOld hpids.symm)
    · rcases (Arena.get?_put_eq_some hget).mp hright with
        ⟨hrightIndex, rfl⟩ | ⟨hrightNe, hrightOld⟩
      · exact absurd hleftId (hfree id hrightId left leftTask hleftNe hleftOld hpids)
      · exact hclaims.unique left right leftTask rightTask id hleftNe hrightNe
          hleftOld hrightOld hpids hleftId hrightId

theorem ClaimsOthers.goto_free
    (hnone : frame.claimed = none) : Claims (world.goto index pid frame) := by
  apply hclaims.goto hget
  · simp [hnone]
  · simp [hnone]

end

theorem Claims.goto_same {task : Task Payload} (hclaims : Claims world)
    (hget : world.tasks.get? index = some task)
    (hsame : frame.claimed = task.frame.claimed) :
    Claims (world.goto index task.pid frame) := by
  apply (hclaims.others index).goto hget
  · intro id hclaimed
    exact hclaims.held index task id trivial hget (hsame ▸ hclaimed)
  · intro id hclaimed other found hne hfound hpid hfoundId
    exact hne (hclaims.unique other index found task id trivial trivial hfound
      hget hpid hfoundId (hsame ▸ hclaimed))

theorem ClaimsOthers.endRecovery (hclaims : ClaimsOthers world index)
    (hget : world.tasks.get? index = some old) (kind : RecoveryKind) :
    Claims (world.endRecovery index pid kind) := by
  have hdone : Claims (world.goto index pid .done) := hclaims.goto_free hget rfl
  cases kind with
  | recover deadline => exact hdone
  | drain drainKey => exact hdone.setProcess fun _ hid => hid

theorem not_mem_of_claimNext {claimed : List DeliveryId}
    {entries rest : List (QueuedDelivery Payload × Bool)}
    {entry : QueuedDelivery Payload} {bypassBackoff : Bool}
    (hnext : claimNext claimed entries = some (entry, bypassBackoff, rest)) :
    entry.id ∉ claimed := by
  induction entries with
  | nil => simp [claimNext] at hnext
  | cons first others ih =>
    simp only [claimNext] at hnext
    split_ifs at hnext with hmem
    · exact ih hnext
    · simp only [Option.some.injEq, Prod.mk.injEq] at hnext
      rw [← hnext.1]
      exact hmem

theorem ClaimsOthers.nextEntry (hclaims : ClaimsOthers world index)
    (hget : world.tasks.get? index = some old) (kind : RecoveryKind)
    (entries : List (QueuedDelivery Payload × Bool)) :
    Claims (world.nextEntry index pid kind entries now) := by
  unfold World.nextEntry
  split
  next =>
      obtain ⟨hkept, hprocesses, hdeferred⟩ := @World.deferRemaining_tasks _ _ _ pid _ entries hget
      have hothers : ClaimsOthers (world.deferRemainingEntriesForBudget pid entries) index := by
        have horigin : ∀ other task id,
            (world.deferRemainingEntriesForBudget pid entries).tasks.get? other =
              some task → task.frame.claimed = some id →
            world.tasks.get? other = some task := by
          intro other task id htask hclaimed
          rcases hdeferred other task htask with
            hbefore | ⟨-, failed, error, hframe⟩
          · exact hbefore
          · rw [hframe] at hclaimed
            exact absurd hclaimed (by simp [Frame.claimed, Caller.claimed])
        constructor
        · intro other task id hne htask hclaimed
          rw [hprocesses]
          exact hclaims.held other task id hne (horigin other task id htask hclaimed) hclaimed
        · intro left right leftTask rightTask id hne hne' hleft hright hpids hleftId hrightId
          exact hclaims.unique left right leftTask rightTask id hne hne'
            (horigin left leftTask id hleft hleftId)
            (horigin right rightTask id hright hrightId) hpids hleftId hrightId
      exact hothers.endRecovery hkept kind
  next =>
      split
      next => exact hclaims.endRecovery hget kind
      next entry bypassBackoff rest hnext =>
          have hfresh := not_mem_of_claimNext hnext
          have hclaimed : ClaimsOthers (world.claimRecoveryEntry pid entry.id) index :=
            hclaims.setProcess fun _ hid => List.mem_cons_of_mem _ hid
          apply hclaimed.goto hget
          · intro id hid
            obtain rfl : entry.id = id := Option.some.inj hid
            simp [World.claimRecoveryEntry, World.setProcess]
          · intro id hid other task hne htask hpid htaskId
            obtain rfl : entry.id = id := Option.some.inj hid
            have hheld := hclaims.held other task entry.id hne htask htaskId
            rw [hpid] at hheld
            exact hfresh hheld

section

variable {task : Task Payload} (hclaims : Claims world) (hget : world.tasks.get? index = some task)

include hclaims hget

theorem Claims.release (recovery : Recovery Payload)
    (hclaimed : task.frame.claimed = some recovery.id) :
    Claims (world.release index task.pid recovery now) := by
  have hothers : ClaimsOthers (world.releaseRecoveryEntry task.pid recovery.id) index := by
    constructor
    · intro other found id hne hfound hid
      have hheld := hclaims.held other found id trivial hfound hid
      by_cases hpid : found.pid = task.pid
      · have hother : id ≠ recovery.id := by
          rintro rfl
          exact hne (hclaims.unique other index found task recovery.id trivial
            trivial hfound hget hpid hid hclaimed)
        rw [hpid] at hheld
        simp [releaseRecoveryEntry, setProcess, hpid, hheld, hother]
      · simpa [releaseRecoveryEntry, setProcess, hpid] using hheld
    · exact (hclaims.others index).unique
  exact hothers.nextEntry hget recovery.kind recovery.rest

theorem Claims.return_ (caller : Caller Payload) (hclaimed : task.frame.claimed = caller.claimed) :
    Claims (world.return_ index task.pid caller now) := by
  cases caller with
  | user => exact (hclaims.others index).goto_free hget rfl
  | recovery recovery => exact hclaims.release hget recovery hclaimed

theorem Claims.scanNext (rest : List DeliveryId)
    (entries : List (QueuedDelivery Payload)) (scanFor : ScanFor) :
    Claims (world.scanNext env index task.pid rest entries scanFor now) := by
  have hothers := hclaims.others index
  cases rest with
  | cons id rest => exact hothers.goto_free hget rfl
  | nil =>
    cases scanFor with
    | user => exact hothers.goto_free hget rfl
    | drain drainKey startedAt =>
      unfold World.scanNext World.scanned
      exact hothers.nextEntry hget _ _
    | recover maxRecoveryMs =>
      exact hothers.nextEntry hget _ _

end

section

variable (hclaims : Claims world)
include hclaims

theorem Claims.advance {task : Task Payload} {input : World.Input} (hget : world.tasks.get? index = some task)
    (hstep : world.advance env index task.pid input task.frame = some next) :
    Claims next := by
  obtain ⟨ledger, sequel, rfl, -, hallowed⟩ := advance_cases hstep
  have hledger := hclaims.ledger ledger
  cases sequel with
  | goto entered =>
    rcases hallowed.2 with hsame | hnone
    · exact hledger.goto_same hget hsame
    · exact (hledger.others index).goto_free hget hnone
  | return_ caller => exact hledger.return_ hget caller hallowed
  | release recovery => exact hledger.release hget recovery hallowed
  | scanNext rest entries scanFor => exact hledger.scanNext hget _ _ scanFor

theorem Claims.spawn {frame : Frame Payload}
    (hnone : frame.claimed = none) : Claims (world.spawn pid frame) := by
  have horigin : ∀ other task id, (world.spawn pid frame).tasks.get? other = some task →
      task.frame.claimed = some id → world.tasks.get? other = some task := by
    intro other task id htask hclaimed
    rcases Arena.get?_push_eq_some.mp htask with ⟨-, rfl⟩ | hbefore
    · rw [hnone] at hclaimed
      exact absurd hclaimed (by simp)
    · exact hbefore
  constructor
  · intro other task id _ htask hclaimed
    exact hclaims.held other task id trivial (horigin other task id htask hclaimed) hclaimed
  · intro left right leftTask rightTask id _ _ hleft hright hpids hleftId hrightId
    exact hclaims.unique left right leftTask rightTask id trivial trivial
      (horigin left leftTask id hleft hleftId)
      (horigin right rightTask id hright hrightId) hpids hleftId hrightId

theorem Claims.crash (pid : ℕ) : Claims (world.crash pid) := by
  have horigin : ∀ other task id, (world.crash pid).tasks.get? other = some task →
      task.frame.claimed = some id →
      world.tasks.get? other = some task ∧ task.pid ≠ pid := by
    intro other task id htask hclaimed
    have hmap : (world.tasks.get? other).map (fun task =>
        if task.pid = pid then { task with frame := Frame.done } else task) =
        some task := by
      rw [← Arena.get?_map]
      exact htask
    obtain ⟨before, hbefore, rfl⟩ := Option.map_eq_some_iff.mp hmap
    split_ifs at hclaimed with hpid
    · exact absurd hclaimed (by simp [Frame.claimed])
    · rw [if_neg hpid]
      exact ⟨hbefore, hpid⟩
  constructor
  · intro other task id _ htask hclaimed
    obtain ⟨hbefore, hpid⟩ := horigin other task id htask hclaimed
    have hheld := hclaims.held other task id trivial hbefore hclaimed
    simpa [World.crash, World.setProcess, hpid] using hheld
  · intro left right leftTask rightTask id _ _ hleft hright hpids hleftId hrightId
    exact hclaims.unique left right leftTask rightTask id trivial trivial
      (horigin left leftTask id hleft hleftId).1
      (horigin right rightTask id hright hrightId).1 hpids hleftId hrightId

theorem Claims.step {action : DeliveryAction Payload}
    (hstep : world.step env action = some next) : Claims next := by
  cases action with
  | enqueueDelivery pid id payload now =>
    simp only [World.step] at hstep
    split_ifs at hstep
    cases hstep
    exact Claims.spawn (hclaims.ledger _) rfl
  | ackDelivery pid id =>
    simp only [World.step] at hstep
    split_ifs at hstep
    cases hstep
    exact hclaims.spawn rfl
  | failDelivery pid id error | loadPendingDeliveries pid
  | recoverPendingDeliveries pid maxRecoveryMs =>
    cases hstep
    exact hclaims.spawn rfl
  | drainPendingDeliveries pid drainKey now =>
    simp only [World.step] at hstep
    split_ifs at hstep
    · cases hstep
      exact hclaims
    · cases hstep
      have hset : Claims (world.setProcess pid { world.processes pid with
            drainInProgress := drainKey :: (world.processes pid).drainInProgress }) :=
        ClaimsAmong.setProcess hclaims fun _ hid => hid
      exact hset.spawn rfl
  | advance index input =>
    obtain ⟨task, hget, hstep⟩ := Option.bind_eq_some_iff.mp hstep
    exact hclaims.advance hget hstep
  | crash pid =>
    cases hstep
    exact hclaims.crash pid

end

def Exclusive (world : World Payload) : Prop :=
  ∀ left right leftTask rightTask leftRecovery rightRecovery,
    world.tasks.get? left = some leftTask →
    world.tasks.get? right = some rightTask → leftTask.pid = rightTask.pid →
    leftTask.frame = .delivering leftRecovery →
    rightTask.frame = .delivering rightRecovery →
    leftRecovery.id = rightRecovery.id → left = right

theorem Claims.exclusive (hclaims : Claims world) : Exclusive world := by
  intro left right leftTask rightTask leftRecovery rightRecovery hleft hright
    hpids hleftFrame hrightFrame hid
  apply hclaims.unique left right leftTask rightTask leftRecovery.id trivial
    trivial hleft hright hpids
  · rw [hleftFrame]
    rfl
  · rw [hrightFrame, hid]
    rfl

structure Safe (world : World Payload) : Prop where
  consistent : Consistent world
  claims : Claims world
  settled : Settled world

theorem safe_start (disk : Disk Payload) : Safe (start disk) where
  consistent := consistent_start disk
  claims := by
    constructor
    · intro other task id _ hget
      simp [start] at hget
    · intro left right leftTask rightTask id _ _ hget
      simp [start] at hget
  settled := by
    intro id hid
    simp [start] at hid

theorem Safe.step (hsafe : Safe world) {action : DeliveryAction Payload}
    (hguard : AcksQuietly world action)
    (hstep : world.step env action = some next) : Safe next :=
  ⟨hsafe.consistent.step hstep, hsafe.claims.step hstep,
    hsafe.settled.step hsafe.consistent hguard hstep⟩

theorem unheard_run (hsafe : Safe world) {id : DeliveryId}
    (hid : id ∈ world.acked) {actions : List (DeliveryAction Payload)}
    (hguarded : Guarded (step env) AcksQuietly world actions)
    (hrun : run (step env) world actions = some next) :
    Unheard id world next := by
  induction actions generalizing world with
  | nil =>
    obtain rfl := Option.some.inj hrun
    exact .refl id world
  | cons action rest ih =>
    obtain ⟨middle, hstep, hrest⟩ := run_cons_eq_some.mp hrun
    obtain ⟨hfirst, hacked⟩ := unheard_step hsafe.consistent hsafe.settled hid hstep
    exact hfirst.trans (ih (hsafe.step hguarded.1 hstep) hacked (hguarded.2 middle hstep) hrest)

/-- From any queue directory, over every interleaving and with crashes between
any two steps: no entry is lost, and a process delivers an entry in one recovery
at a time.  Where no acknowledgement renames the file of an entry that a task
holds, it is final: no file of the entry comes again, and it is not delivered. -/
theorem delivery_queue_safe (env : RecoveryEnv Payload) (disk : Disk Payload)
    (actions : List (DeliveryAction Payload)) (world : World Payload)
    (hguarded : Guarded (step env) AcksQuietly (.start disk) actions)
    (hrun : run (step env) (.start disk) actions = some world) :
    (∀ first later middle, actions = first ++ later →
      run (step env) (.start disk) first = some middle →
      ∀ id ∈ middle.acked, Unheard id middle world ∧ world.disk.json.has id = false) ∧
    world.toLedger.Kept ∧ Exclusive world := by
  have hsafe : Safe world :=
    run_guarded_invariant Safe (fun hsafe => hsafe.step) (safe_start disk) hguarded hrun
  refine ⟨?_, hsafe.consistent.ledger.kept, hsafe.claims.exclusive⟩
  rintro first later middle rfl hfirst id hid
  obtain ⟨hbefore, hafter⟩ := guarded_append hguarded hfirst
  have hmiddle : Safe middle :=
    run_guarded_invariant Safe (fun hsafe => hsafe.step) (safe_start disk) hbefore hfirst
  have hlater : run (step env) middle later = some world := by
    rw [run_append, hfirst] at hrun
    exact hrun
  have hunheard := unheard_run hmiddle hid hafter hlater
  refine ⟨hunheard, ?_⟩
  have hgone := (hmiddle.settled id (hmiddle.consistent.ledger.acked id hid)).1
  by_contra hfile
  have hjson := hunheard.files .json (by simpa [Disk.has] using hfile)
  rw [Disk.has, hgone] at hjson
  exact absurd hjson (by simp)

def everyEntry : RecoveryEnv Unit where
  selectEntry := fun _ _ _ => ⟨true, false⟩
  isPermanentDeliveryError := fun _ => false

def enqueueFirst : List (DeliveryAction Unit) :=
  [.enqueueDelivery 1 (js "a") () 1, .advance 0 ⟨1, [], none⟩, .advance 0 ⟨1, [], none⟩]

theorem delivery_queue_safe_drain : ∃ world, run (step everyEntry) (.start .empty)
        (enqueueFirst ++ .drainPendingDeliveries 1 (js "key") 2 ::
          List.replicate 9 (.advance 1 ⟨2, [js "a"], none⟩)) = some world ∧
      (world.acked, world.deliveries) = ([js "a"], [js "a"]) ∧
      world.disk.json.has (js "a") = false ∧ world.toLedger.Kept ∧
      Exclusive world := by
  apply exists_of_view (by decide +kernel : Option.map (fun world =>
    (world.acked, world.deliveries)) _ = some ([js "a"], [js "a"]))
  intro world hdelivered hrun
  obtain ⟨hfinal, hkept, hexclusive⟩ :=
    delivery_queue_safe everyEntry .empty _ world (by decide +kernel) hrun
  have hacked : js "a" ∈ world.acked := by
    rw [(Prod.mk.inj hdelivered).1]
    decide
  exact ⟨hdelivered, (hfinal _ [] world (List.append_nil _).symm hrun _ hacked).2, hkept,
    hexclusive⟩

/-- A recovery without a budget left has read the entry to note an attempt.  It
is acknowledged, then written back, and the next drain delivers it. -/
theorem deferral_revives_entry : ∃ first later middle world,
      run (step everyEntry) (.start .empty) first = some middle ∧
        run (step everyEntry) (.start .empty) (first ++ later) = some world ∧
        js "a" ∈ middle.acked ∧ middle.disk.json.has (js "a") = false ∧
        world.disk.json.has (js "a") = true ∧
        middle.deliveries = [] ∧ world.deliveries = [js "a"] := by
  have hacked : (run (step everyEntry) (.start .empty)
      (enqueueFirst ++ .recoverPendingDeliveries 1 0 ::
        List.replicate 3 (.advance 1 ⟨2, [js "a"], none⟩) ++
        [.advance 2 ⟨2, [], none⟩, .ackDelivery 1 (js "a"),
          .advance 3 ⟨2, [], none⟩, .advance 3 ⟨2, [], none⟩])).map
        (fun world => (world.acked, world.disk.json.has (js "a"),
          world.deliveries)) = some ([js "a"], false, []) := by
    decide +kernel
  have hrevived : (run (step everyEntry) (.start .empty)
      ((enqueueFirst ++ .recoverPendingDeliveries 1 0 ::
        List.replicate 3 (.advance 1 ⟨2, [js "a"], none⟩) ++
        [.advance 2 ⟨2, [], none⟩, .ackDelivery 1 (js "a"),
          .advance 3 ⟨2, [], none⟩, .advance 3 ⟨2, [], none⟩]) ++
        (List.replicate 2 (.advance 2 ⟨2, [], none⟩) ++
          .drainPendingDeliveries 1 (js "key") 30000 ::
          List.replicate 6 (.advance 4 ⟨30000, [js "a"], none⟩)))).map
        (fun world => (world.disk.json.has (js "a"), world.deliveries)) =
      some (true, [js "a"]) := by
    decide +kernel
  obtain ⟨middle, hfirst, hmiddle⟩ := Option.map_eq_some_iff.mp hacked
  obtain ⟨world, hrun, hworld⟩ := Option.map_eq_some_iff.mp hrevived
  simp only [Prod.mk.injEq] at hmiddle hworld
  refine ⟨_, _, middle, world, hfirst, hrun, ?_, hmiddle.2.1, hworld.1, hmiddle.2.2, hworld.2⟩
  rw [hmiddle.1]
  decide

end LittleBaby.Delivery
