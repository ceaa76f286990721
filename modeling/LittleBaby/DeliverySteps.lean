import LittleBaby.DeliveryQueue

/-!
# What a step of a delivery task does

A task touches the files in one place of its step; all that follows, up to its
next await, moves only the task itself and the claims of its process.
-/

namespace LittleBaby.Delivery

open JsString

variable {Payload : Type*}

namespace Caller

def claimed : Caller Payload → Option DeliveryId
  | .user => none
  | .recovery claimedBy => some claimedBy.id

end Caller

namespace Frame

def holds (id : DeliveryId) : Frame Payload → Bool
  | .write _ _ .enqueue | .rename _ _ .enqueue => false
  | .write other _ _ | .rename other _ _ => decide (other = id)
  | .loaded _ recovery => decide (recovery.id = id)
  | _ => false

def creates : Frame Payload → Option DeliveryId
  | .write id _ .enqueue | .rename id _ .enqueue => some id
  | _ => none

def knows : Frame Payload → Option DeliveryId
  | .write _ _ .enqueue | .rename _ _ .enqueue => none
  | .write id _ _ | .rename id _ _ | .ackRename id _ | .ackUnlink id _ => some id
  | .loaded _ recovery | .delivering recovery => some recovery.id
  | _ => none

/-- The id in `entriesInProgress` that stands for the task. -/
def claimed : Frame Payload → Option DeliveryId
  | .write _ _ (.fail caller) | .rename _ _ (.fail caller) => caller.claimed
  | .write _ _ (.load recovery) | .rename _ _ (.load recovery) =>
    some recovery.id
  | .ackRename _ caller | .ackUnlink _ caller | .failRead _ _ caller =>
    caller.claimed
  | .moveRename recovery | .loadStat recovery | .loadRead recovery |
    .loaded _ recovery | .delivering recovery => some recovery.id
  | _ => none

def calm : Frame Payload → Bool
  | .write _ _ _ | .rename _ _ _ | .ackRename _ _ | .ackUnlink _ _ |
    .loaded _ _ | .delivering _ => false
  | _ => true

theorem calm_spec {frame : Frame Payload} (hcalm : frame.calm = true) :
    (∀ id, frame.holds id = false) ∧ frame.creates = none ∧ frame.knows = none := by
  cases frame with
  | write => simp [calm] at hcalm
  | rename => simp [calm] at hcalm
  | ackRename => simp [calm] at hcalm
  | ackUnlink => simp [calm] at hcalm
  | loaded => simp [calm] at hcalm
  | delivering => simp [calm] at hcalm
  | _ => exact ⟨fun _ => rfl, rfl, rfl⟩

end Frame

namespace World

variable {world : World Payload} {index pid : ℕ} {now : ℤ}

@[simp] theorem goto_toLedger (frame : Frame Payload) :
    (world.goto index pid frame).toLedger = world.toLedger := rfl

@[simp] theorem spawn_toLedger (frame : Frame Payload) :
    (world.spawn pid frame).toLedger = world.toLedger := rfl

@[simp] theorem setProcess_toLedger (process : Process) :
    (world.setProcess pid process).toLedger = world.toLedger := rfl

@[simp] theorem endRecovery_toLedger (kind : RecoveryKind) :
    (world.endRecovery index pid kind).toLedger = world.toLedger := by
  cases kind <;> rfl

@[simp] theorem deferRemaining_toLedger (entries : List (QueuedDelivery Payload × Bool)) :
    (world.deferRemainingEntriesForBudget pid entries).toLedger =
      world.toLedger := by
  unfold deferRemainingEntriesForBudget
  induction entries generalizing world with
  | nil => rfl
  | cons entry rest ih =>
    rw [List.foldl_cons, ih]
    rfl

@[simp] theorem nextEntry_toLedger (kind : RecoveryKind)
    (entries : List (QueuedDelivery Payload × Bool)) :
    (world.nextEntry index pid kind entries now).toLedger = world.toLedger := by
  unfold nextEntry
  split
  · simp
  · split
    · simp
    · rfl

@[simp] theorem release_toLedger (recovery : Recovery Payload) :
    (world.release index pid recovery now).toLedger = world.toLedger := by
  rw [release, nextEntry_toLedger]
  rfl

@[simp] theorem return_toLedger (caller : Caller Payload) :
    (world.return_ index pid caller now).toLedger = world.toLedger := by
  cases caller with
  | user => rfl
  | recovery recovery => exact release_toLedger recovery

variable (env : RecoveryEnv Payload)

@[simp] theorem scanNext_toLedger (rest : List DeliveryId)
    (entries : List (QueuedDelivery Payload)) (scanFor : ScanFor) :
    (world.scanNext env index pid rest entries scanFor now).toLedger =
      world.toLedger := by
  unfold scanNext
  split
  · cases scanFor <;> simp [scanned]
  · rfl

/-- The task at `index` of `next` is in a calm frame or in one that it may
enter; the others are those of `world`, or new and calm. -/
def Continues (world next : World Payload) (index pid : ℕ)
    (entered : Frame Payload → Prop) : Prop :=
  ∀ other task, next.tasks.get? other = some task → other = index ∧ task.pid = pid ∧
        (task.frame.calm = true ∨ entered task.frame) ∨
      other ≠ index ∧ (world.tasks.get? other = some task ∨ task.frame.calm = true)

section Continues

variable {entered : Frame Payload → Prop} {next : World Payload} {old : Task Payload}

theorem continues_goto (hget : world.tasks.get? index = some old)
    {frame : Frame Payload} (hframe : frame.calm = true ∨ entered frame) :
    Continues world (world.goto index pid frame) index pid entered := by
  intro other task htask
  rcases (Arena.get?_put_eq_some hget).mp htask with ⟨rfl, rfl⟩ | ⟨hne, hother⟩
  · exact .inl ⟨rfl, rfl, hframe⟩
  · exact .inr ⟨hne, .inl hother⟩

theorem continues_endRecovery (hget : world.tasks.get? index = some old) (kind : RecoveryKind) :
    Continues world (world.endRecovery index pid kind) index pid entered := by
  have hdone : Continues world (world.goto index pid .done) index pid entered :=
    continues_goto hget (.inl rfl)
  cases kind with
  | recover deadline => exact hdone
  | drain drainKey => exact hdone

theorem deferRemaining_tasks (entries : List (QueuedDelivery Payload × Bool))
    (hget : world.tasks.get? index = some old) :
    (world.deferRemainingEntriesForBudget pid entries).tasks.get? index = some old ∧
      (world.deferRemainingEntriesForBudget pid entries).processes = world.processes ∧
      ∀ other task, (world.deferRemainingEntriesForBudget pid entries).tasks.get? other =
          some task →
        world.tasks.get? other = some task ∨
          other ≠ index ∧ ∃ id error, task.frame = .failRead id error .user := by
  induction entries generalizing world with
  | nil => exact ⟨hget, rfl, fun other task htask => .inl htask⟩
  | cons entry rest ih =>
    have hspawned := @ih (world.spawn pid
      (.failRead entry.1.id (js "recovery time budget exceeded") .user))
      (Arena.get?_push_of_get? _ hget)
    refine ⟨hspawned.1, hspawned.2.1, ?_⟩
    intro other task htask
    rcases hspawned.2.2 other task htask with hbefore | hnew
    · rcases Arena.get?_push_eq_some.mp hbefore with ⟨rfl, rfl⟩ | hworld
      · right
        exact ⟨Nat.ne_of_gt (Arena.lt_size_of_get? hget), _, _, rfl⟩
      · exact .inl hworld
    · exact .inr hnew

section

variable (hget : world.tasks.get? index = some old)

include hget

theorem continues_nextEntry (kind : RecoveryKind) (entries : List (QueuedDelivery Payload × Bool)) :
    Continues world (world.nextEntry index pid kind entries now) index pid
      entered := by
  unfold nextEntry
  split
  · obtain ⟨hkept, -, hdeferred⟩ := @deferRemaining_tasks _ _ _ pid _ entries hget
    intro other task htask
    rcases @continues_endRecovery _ _ _ _ entered _ hkept kind other task htask with hsame | ⟨hne, hbefore | hcalm⟩
    · exact .inl hsame
    · right
      rcases hdeferred other task hbefore with hworld | ⟨-, id, error, hframe⟩
      · exact ⟨hne, .inl hworld⟩
      · exact ⟨hne, .inr (by rw [hframe]; rfl)⟩
    · exact .inr ⟨hne, .inr hcalm⟩
  · split
    · exact continues_endRecovery hget kind
    · exact @continues_goto _ (world.claimRecoveryEntry pid _) _ _ _ _ hget _ (.inl rfl)

theorem continues_release (recovery : Recovery Payload) :
    Continues world (world.release index pid recovery now) index pid entered :=
  @continues_nextEntry _ (world.releaseRecoveryEntry pid recovery.id) _ _ _ _ _
    hget recovery.kind recovery.rest

theorem continues_return (caller : Caller Payload) :
    Continues world (world.return_ index pid caller now) index pid entered := by
  cases caller with
  | user => exact continues_goto hget (.inl rfl)
  | recovery recovery => exact continues_release hget recovery

theorem continues_scanNext (rest : List DeliveryId) (entries : List (QueuedDelivery Payload))
    (scanFor : ScanFor) :
    Continues world (world.scanNext env index pid rest entries scanFor now) index pid entered := by
  cases rest with
  | cons id rest => exact continues_goto hget (.inl rfl)
  | nil =>
    cases scanFor with
    | user => exact continues_goto hget (.inl rfl)
    | drain drainKey startedAt | recover maxRecoveryMs =>
      exact continues_nextEntry hget _ _

end

end Continues

inductive Enters (disk : Disk Payload) : Frame Payload → Frame Payload → Prop
  | rename (id : DeliveryId) (entry : StoredDelivery Payload) (writeFor : WriteFor Payload) :
      Enters disk (.write id entry writeFor) (.rename id entry writeFor)
  | loaded (id : DeliveryId) (entry : StoredDelivery Payload) (recovery : Recovery Payload) :
      Enters disk (.rename id entry (.load recovery)) (.loaded entry recovery)
  | ackUnlink (id : DeliveryId) (caller : Caller Payload) :
      Enters disk (.ackRename id caller) (.ackUnlink id caller)
  | failWrite (id : DeliveryId) (error : JsString) (caller : Caller Payload)
      (entry : StoredDelivery Payload) (hjson : disk.json.has id = true) :
      Enters disk (.failRead id error caller) (.write id entry (.fail caller))
  | scanWrite (id : DeliveryId) (rest : List DeliveryId)
      (entries : List (QueuedDelivery Payload)) (scanFor : ScanFor)
      (entry : StoredDelivery Payload) (hjson : disk.json.has id = true) :
      Enters disk (.scanRead id rest entries scanFor) (.write id entry (.scan rest entries scanFor))
  | loadWrite (recovery : Recovery Payload) (entry : StoredDelivery Payload)
      (hjson : disk.json.has recovery.id = true) :
      Enters disk (.loadRead recovery) (.write recovery.id entry (.load recovery))
  | read (recovery : Recovery Payload) (entry : StoredDelivery Payload)
      (hjson : disk.json.has recovery.id = true) :
      Enters disk (.loadRead recovery) (.loaded entry recovery)
  | delivering (entry : StoredDelivery Payload) (recovery : Recovery Payload) :
      Enters disk (.loaded entry recovery) (.delivering recovery)
  | ackRename (recovery : Recovery Payload) : Enters disk (.delivering recovery)
        (.ackRename recovery.id (.recovery recovery))

inductive Touches (ledger : Ledger Payload) (pid : ℕ) :
    Frame Payload → Ledger Payload → Prop
  | nothing (frame : Frame Payload) (hframe : ∀ id caller, frame ≠ .ackRename id caller) :
      Touches ledger pid frame ledger
  | writeTmp (id : DeliveryId) (entry : StoredDelivery Payload) (writeFor : WriteFor Payload) :
      Touches ledger pid (.write id entry writeFor)
        { ledger with disk := ledger.disk.writeTmp id pid entry }
  | renameTmp (id : DeliveryId) (entry : StoredDelivery Payload)
      (writeFor : WriteFor Payload) (disk : Disk Payload)
      (hwritten : ledger.disk.renameTmp id pid = some disk) :
      Touches ledger pid (.rename id entry writeFor) { ledger with
          disk := disk
          enqueued := if writeFor.isEnqueue then id :: ledger.enqueued
            else ledger.enqueued }
  | markDelivered (id : DeliveryId) (caller : Caller Payload) :
      Touches ledger pid (.ackRename id caller) { ledger with
          disk := ledger.disk.markDelivered id
          confirmed := id :: ledger.confirmed }
  | acked (id : DeliveryId) (caller : Caller Payload) :
      Touches ledger pid (.ackUnlink id caller) { ledger with
          disk := ledger.disk.unlinkMarker id
          acked := id :: ledger.acked }
  | moveToFailed (recovery : Recovery Payload) : Touches ledger pid (.moveRename recovery)
        { ledger with disk := ledger.disk.moveToFailed recovery.id }
  | unlinkMarker (marker : DeliveryId) (markers files : List DeliveryId) (scanFor : ScanFor) :
      Touches ledger pid (.unlinkMarkers (marker :: markers) files scanFor)
        { ledger with disk := ledger.disk.unlinkMarker marker }
  | deliver (entry : StoredDelivery Payload) (recovery : Recovery Payload) :
      Touches ledger pid (.loaded entry recovery)
        { ledger with deliveries := recovery.id :: ledger.deliveries }

/-- How a task goes on once it has touched the files. -/
inductive Sequel (Payload : Type*)
  | goto (frame : Frame Payload)
  | return_ (caller : Caller Payload)
  | release (recovery : Recovery Payload)
  | scanNext (rest : List DeliveryId) (entries : List (QueuedDelivery Payload)) (scanFor : ScanFor)

def follow (world : World Payload) (index pid : ℕ) (now : ℤ) : Sequel Payload → World Payload
  | .goto frame => world.goto index pid frame
  | .return_ caller => world.return_ index pid caller now
  | .release recovery => world.release index pid recovery now
  | .scanNext rest entries scanFor =>
    world.scanNext env index pid rest entries scanFor now

def Sequel.Allowed (disk : Disk Payload) (frame : Frame Payload) : Sequel Payload → Prop
  | .goto entered => (entered.calm = true ∨ Enters disk frame entered) ∧
      (entered.claimed = frame.claimed ∨ entered.claimed = none)
  | .return_ caller => frame.claimed = caller.claimed
  | .release recovery => frame.claimed = some recovery.id
  | .scanNext _ _ _ => True

def writtenSequel (id : DeliveryId) (entry : StoredDelivery Payload)
    (kept : Bool) : WriteFor Payload → Sequel Payload
  | .enqueue => .goto .done
  | .fail caller => .return_ caller
  | .load recovery =>
    if kept then .goto (.loaded entry recovery) else .release recovery
  | .scan rest entries scanFor =>
    .scanNext rest (if kept then entries ++ [⟨entry, id⟩] else entries) scanFor

theorem written_eq (id : DeliveryId) (entry : StoredDelivery Payload)
    (kept : Bool) (writeFor : WriteFor Payload) :
    world.written env index pid id entry kept now writeFor =
      world.follow env index pid now (writtenSequel id entry kept writeFor) := by
  cases writeFor with
  | load recovery => cases kept <;> rfl
  | enqueue | fail | scan => rfl

theorem writtenSequel_allowed (disk : Disk Payload) (id : DeliveryId)
    (entry : StoredDelivery Payload) (kept : Bool)
    (writeFor : WriteFor Payload) :
    (writtenSequel id entry kept writeFor).Allowed disk (.rename id entry writeFor) := by
  cases writeFor with
  | enqueue => exact ⟨.inl rfl, .inr rfl⟩
  | fail caller => rfl
  | load recovery =>
    cases kept with
    | true => exact ⟨.inr (.loaded id entry recovery), .inl rfl⟩
    | false => rfl
  | scan rest entries scanFor => trivial

@[simp] theorem follow_toLedger (sequel : Sequel Payload) :
    (world.follow env index pid now sequel).toLedger = world.toLedger := by
  cases sequel <;> simp [follow]

variable {env} {next : World Payload} {frame : Frame Payload} {input : Input}

theorem advance_cases (hstep : world.advance env index pid input frame = some next) :
    ∃ ledger sequel, next = World.follow env { world with toLedger := ledger }
        index pid input.now sequel ∧
      Touches world.toLedger pid frame ledger ∧
      sequel.Allowed world.disk frame := by
  cases frame with
  | done => simp [advance] at hstep
  | write id entry writeFor =>
    cases hstep
    refine ⟨_, .goto _, rfl, .writeTmp id entry writeFor, .inr (.rename id entry writeFor), .inl ?_⟩
    rcases writeFor with _ | _ | _ | _ <;> rfl
  | rename id entry writeFor =>
    simp only [advance] at hstep
    split at hstep
    next =>
        cases hstep
        exact ⟨_, _, written_eq env id entry false writeFor,
          .nothing _ (by simp), writtenSequel_allowed _ _ _ _ _⟩
    next disk hwritten =>
        cases hstep
        exact ⟨_, _, written_eq env id entry true writeFor,
          .renameTmp id entry writeFor disk hwritten,
          writtenSequel_allowed _ _ _ _ _⟩
  | ackRename id caller =>
    cases hstep
    exact ⟨_, .goto _, rfl, .markDelivered id caller, .inr (.ackUnlink id caller), .inl rfl⟩
  | ackUnlink id caller =>
    cases hstep
    exact ⟨_, .return_ caller, rfl, .acked id caller, rfl⟩
  | failRead id error caller =>
    simp only [advance] at hstep
    split at hstep
    next =>
        cases hstep
        exact ⟨_, .return_ caller, rfl, .nothing _ (by simp), rfl⟩
    next entry hread =>
        cases hstep
        exact ⟨_, .goto _, rfl, .nothing _ (by simp), .inr (.failWrite id error
          caller _ (by simp [InsertionMap.has, hread])), .inl rfl⟩
  | moveRename recovery =>
    cases hstep
    exact ⟨_, .release recovery, rfl, .moveToFailed recovery, rfl⟩
  | readdir scanFor =>
    simp only [advance] at hstep
    split at hstep
    · split at hstep <;> cases hstep
      · exact ⟨_, .scanNext _ _ _, rfl, .nothing _ (by simp), trivial⟩
      · exact ⟨_, .goto _, rfl, .nothing _ (by simp), .inl rfl, .inl rfl⟩
    · simp at hstep
  | unlinkMarkers markers files scanFor =>
    cases markers with
    | nil =>
      cases hstep
      exact ⟨_, .scanNext _ _ _, rfl, .nothing _ (by simp), trivial⟩
    | cons marker markers =>
      cases hstep
      exact ⟨_, .goto _, rfl, .unlinkMarker marker markers files scanFor, .inl rfl, .inl rfl⟩
  | scanStat id rest entries scanFor =>
    simp only [advance] at hstep
    split at hstep <;> cases hstep
    · exact ⟨_, .goto _, rfl, .nothing _ (by simp), .inl rfl, .inl rfl⟩
    · exact ⟨_, .scanNext _ _ _, rfl, .nothing _ (by simp), trivial⟩
  | scanRead id rest entries scanFor =>
    simp only [advance] at hstep
    split at hstep
    next =>
        cases hstep
        exact ⟨_, .scanNext _ _ _, rfl, .nothing _ (by simp), trivial⟩
    next stored hread =>
        split at hstep
        · cases hstep
          exact ⟨_, .goto _, rfl, .nothing _ (by simp), .inr (.scanWrite id rest
            entries scanFor _ (by simp [InsertionMap.has, hread])),
            .inl rfl⟩
        · cases hstep
          exact ⟨_, .scanNext _ _ _, rfl, .nothing _ (by simp), trivial⟩
  | loadStat recovery =>
    simp only [advance] at hstep
    split at hstep <;> cases hstep
    · exact ⟨_, .goto _, rfl, .nothing _ (by simp), .inl rfl, .inl rfl⟩
    · exact ⟨_, .release recovery, rfl, .nothing _ (by simp), rfl⟩
  | loadRead recovery =>
    simp only [advance] at hstep
    split at hstep
    next =>
        cases hstep
        exact ⟨_, .release recovery, rfl, .nothing _ (by simp), rfl⟩
    next stored hread =>
        have hjson : world.disk.json.has recovery.id = true := by
          simp [InsertionMap.has, hread]
        split at hstep <;> cases hstep
        · exact ⟨_, .goto _, rfl, .nothing _ (by simp),
            .inr (.loadWrite recovery _ hjson), .inl rfl⟩
        · exact ⟨_, .goto _, rfl, .nothing _ (by simp), .inr (.read recovery _ hjson), .inl rfl⟩
  | loaded entry recovery =>
    simp only [advance] at hstep
    split at hstep
    · cases hstep
      exact ⟨_, .goto _, rfl, .nothing _ (by simp), .inl rfl, .inl rfl⟩
    · split at hstep
      · cases hstep
        exact ⟨_, .release recovery, rfl, .nothing _ (by simp), rfl⟩
      · cases hstep
        exact ⟨_, .goto _, rfl, .deliver entry recovery,
          .inr (.delivering entry recovery), .inl rfl⟩
  | delivering recovery =>
    simp only [advance] at hstep
    split at hstep
    · cases hstep
      exact ⟨_, .goto _, rfl, .nothing _ (by simp), .inr (.ackRename recovery), .inl rfl⟩
    · split at hstep <;> cases hstep <;>
        exact ⟨_, .goto _, rfl, .nothing _ (by simp), .inl rfl, .inl rfl⟩

theorem advance_touches (hstep : world.advance env index pid input frame = some next) :
    Touches world.toLedger pid frame next.toLedger := by
  obtain ⟨ledger, sequel, rfl, htouches, -⟩ := advance_cases hstep
  rw [follow_toLedger]
  exact htouches

theorem advance_continues (hget : world.tasks.get? index = some ⟨pid, frame⟩)
    (hstep : world.advance env index pid input frame = some next) :
    Continues world next index pid (Enters world.disk frame) := by
  obtain ⟨ledger, sequel, rfl, -, hallowed⟩ := advance_cases hstep
  cases sequel with
  | goto entered =>
    exact @continues_goto _ { world with toLedger := ledger } _ _ _ _ hget _ hallowed.1
  | return_ caller =>
    exact @continues_return _ { world with toLedger := ledger } _ _ _ _ _ hget caller
  | release recovery =>
    exact @continues_release _ { world with toLedger := ledger } _ _ _ _ _ hget recovery
  | scanNext rest entries scanFor =>
    exact @continues_scanNext _ { world with toLedger := ledger } _ _ _ env _ _
      hget rest entries scanFor

end World

end LittleBaby.Delivery
