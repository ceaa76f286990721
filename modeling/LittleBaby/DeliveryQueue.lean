import LittleBaby.Arena
import LittleBaby.InsertionOrder
import LittleBaby.JsString
import LittleBaby.LabelledMachine
import Mathlib.Data.List.Sort

/-!
# The outbound delivery queue

A pending delivery is a file named by its id.  The operations on the queue are
tasks of processes; each file operation is one step, and between two steps any
other task may run, or its process may crash.
-/

namespace LittleBaby.Delivery

open JsString

abbrev DeliveryId := JsString

variable {Payload : Type*}

structure StoredDelivery (Payload : Type*) where
  enqueuedAt : ℤ
  retryCount : ℕ
  lastAttemptAt : Option ℤ
  lastError : Option JsString
  payload : Payload

structure QueuedDelivery (Payload : Type*) extends StoredDelivery Payload where
  id : DeliveryId

/-- The files `{id}.json`, the markers `{id}.delivered`, the files under
`failed/`, and the files `{id}.json.{pid}.tmp`. -/
structure Disk (Payload : Type*) where
  json : InsertionMap DeliveryId (StoredDelivery Payload)
  delivered : InsertionSet DeliveryId
  failed : InsertionMap DeliveryId (StoredDelivery Payload)
  tmp : InsertionMap (DeliveryId × ℕ) (StoredDelivery Payload)

inductive FileName where
  | json
  | delivered
  | failed
  | tmp (pid : ℕ)

namespace Disk

def empty : Disk Payload := ⟨.empty, .empty, .empty, .empty⟩

variable (disk : Disk Payload) (id : DeliveryId)

def has : FileName → Bool
  | .json => disk.json.has id
  | .delivered => disk.delivered.has id
  | .failed => disk.failed.has id
  | .tmp pid => disk.tmp.has (id, pid)

def writeTmp (pid : ℕ) (entry : StoredDelivery Payload) : Disk Payload :=
  { disk with tmp := disk.tmp.set (id, pid) entry }

/-- Its second half; `none` when the temporary file is gone. -/
def renameTmp (pid : ℕ) : Option (Disk Payload) :=
  (disk.tmp.get? (id, pid)).map fun entry =>
    { disk with
      json := disk.json.set id entry
      tmp := disk.tmp.delete (id, pid) }

/-- Phase 1 of `ackDelivery`; no effect when the file is gone. -/
def markDelivered : Disk Payload :=
  if disk.json.has id then
    { disk with
      json := disk.json.delete id
      delivered := disk.delivered.add id }
  else disk

def unlinkMarker : Disk Payload := { disk with delivered := disk.delivered.delete id }

/-- The rename of `moveToFailed`; no effect when the file is gone. -/
def moveToFailed : Disk Payload :=
  match disk.json.get? id with
  | none => disk
  | some entry =>
    { disk with
      json := disk.json.delete id
      failed := disk.failed.set id entry }

end Disk

def normalizeLegacyQueuedDeliveryEntry (entry : StoredDelivery Payload) :
    StoredDelivery Payload × Bool :=
  if entry.lastAttemptAt.any (fun time => decide (0 < time)) ∨
      entry.retryCount = 0 then (entry, false)
  else if ¬ 0 < entry.enqueuedAt then (entry, false)
  else ({ entry with lastAttemptAt := some entry.enqueuedAt }, true)

def maxRetries : ℕ := 5

def backoffMs : List ℤ := [5000, 25000, 120000, 600000]

def computeBackoffMs (retryCount : ℕ) : ℤ :=
  if retryCount = 0 then 0
  else backoffMs.getD (min (retryCount - 1) (backoffMs.length - 1)) 0

def isEntryEligibleForRecoveryRetry (entry : StoredDelivery Payload) (now : ℤ) : Bool :=
  let backoff := computeBackoffMs (entry.retryCount + 1)
  if backoff ≤ 0 then true
  else if entry.retryCount = 0 ∧ entry.lastAttemptAt = none then true
  else
    let baseAttemptAt := match entry.lastAttemptAt with
      | some time => if 0 < time then time else entry.enqueuedAt
      | none => entry.enqueuedAt
    decide (baseAttemptAt + backoff ≤ now)

structure DrainDecision where
  matched : Bool
  bypassBackoff : Bool

structure RecoveryEnv (Payload : Type*) where
  selectEntry : JsString → QueuedDelivery Payload → ℤ → DrainDecision
  isPermanentDeliveryError : JsString → Bool

/-- `drainPendingDeliveries` with its key, or `recoverPendingDeliveries` with
its deadline. -/
inductive RecoveryKind where
  | drain (drainKey : JsString)
  | recover (deadline : ℤ)

structure Recovery (Payload : Type*) where
  kind : RecoveryKind
  id : DeliveryId
  bypassBackoff : Bool
  rest : List (QueuedDelivery Payload × Bool)

inductive Caller (Payload : Type*) where
  | user
  | recovery (at_ : Recovery Payload)

/-- What `loadPendingDeliveries` was called for; a drain notes the time first. -/
inductive ScanFor where
  | user
  | drain (drainKey : JsString) (startedAt : ℤ)
  | recover (maxRecoveryMs : ℤ)

inductive WriteFor (Payload : Type*) where
  | enqueue
  | fail (caller : Caller Payload)
  | load (at_ : Recovery Payload)
  | scan (rest : List DeliveryId) (entries : List (QueuedDelivery Payload)) (scanFor : ScanFor)

def WriteFor.isEnqueue : WriteFor Payload → Bool
  | .enqueue => true
  | _ => false

/-- The next step of a task. -/
inductive Frame (Payload : Type*) where
  | done
  | write (id : DeliveryId) (entry : StoredDelivery Payload) (writeFor : WriteFor Payload)
  | rename (id : DeliveryId) (entry : StoredDelivery Payload) (writeFor : WriteFor Payload)
  | ackRename (id : DeliveryId) (caller : Caller Payload)
  | ackUnlink (id : DeliveryId) (caller : Caller Payload)
  | failRead (id : DeliveryId) (error : JsString) (caller : Caller Payload)
  | moveRename (at_ : Recovery Payload)
  | readdir (scanFor : ScanFor)
  | unlinkMarkers (markers files : List DeliveryId) (scanFor : ScanFor)
  | scanStat (id : DeliveryId) (rest : List DeliveryId)
      (entries : List (QueuedDelivery Payload)) (scanFor : ScanFor)
  | scanRead (id : DeliveryId) (rest : List DeliveryId)
      (entries : List (QueuedDelivery Payload)) (scanFor : ScanFor)
  | loadStat (at_ : Recovery Payload)
  | loadRead (at_ : Recovery Payload)
  | loaded (entry : StoredDelivery Payload) (at_ : Recovery Payload)
  | delivering (at_ : Recovery Payload)

structure Task (Payload : Type*) where
  pid : ℕ
  frame : Frame Payload

/-- The sets `entriesInProgress` and `drainInProgress` of a process. -/
structure Process where
  entriesInProgress : List DeliveryId
  drainInProgress : List JsString

/-- The files, and what happened to the ids: those that were drawn, those that
were enqueued, those an `ackDelivery` renamed or found gone, those it returned
for, and the calls of a deliver callback. -/
structure Ledger (Payload : Type*) where
  disk : Disk Payload
  used : List DeliveryId
  enqueued : List DeliveryId
  confirmed : List DeliveryId
  acked : List DeliveryId
  deliveries : List DeliveryId

structure World (Payload : Type*) extends Ledger Payload where
  tasks : Arena (Task Payload)
  processes : ℕ → Process

namespace World

def start (disk : Disk Payload) : World Payload where
  disk := disk
  tasks := .empty
  processes := fun _ => ⟨[], []⟩
  used := disk.json.keys ++ disk.delivered.elements ++ disk.failed.keys ++
    disk.tmp.keys.map Prod.fst
  enqueued := disk.json.keys
  confirmed := []
  acked := []
  deliveries := []

variable (world : World Payload) (index : ℕ) (pid : ℕ)

def goto (frame : Frame Payload) : World Payload :=
  { world with tasks := world.tasks.put index ⟨pid, frame⟩ }

def spawn (frame : Frame Payload) : World Payload :=
  { world with tasks := world.tasks.push ⟨pid, frame⟩ }

def setProcess (process : Process) : World Payload :=
  { world with processes := Function.update world.processes pid process }

def claimRecoveryEntry (id : DeliveryId) : World Payload :=
  let process := world.processes pid
  world.setProcess pid { process with entriesInProgress := id :: process.entriesInProgress }

def releaseRecoveryEntry (id : DeliveryId) : World Payload :=
  let process := world.processes pid
  world.setProcess pid { process with
      entriesInProgress := process.entriesInProgress.filter fun other =>
        decide (other ≠ id) }

def endRecovery (kind : RecoveryKind) : World Payload :=
  let ended := world.goto index pid .done
  match kind with
  | .recover _ => ended
  | .drain drainKey =>
    let process := world.processes pid
    ended.setProcess pid { process with
        drainInProgress := process.drainInProgress.filter fun other =>
          decide (other ≠ drainKey) }

def claimNext (entriesInProgress : List DeliveryId) :
    List (QueuedDelivery Payload × Bool) → Option (QueuedDelivery Payload × Bool ×
        List (QueuedDelivery Payload × Bool))
  | [] => none
  | (entry, bypassBackoff) :: rest =>
    if entry.id ∈ entriesInProgress then claimNext entriesInProgress rest
    else some (entry, bypassBackoff, rest)

def deferRemainingEntriesForBudget
    (entries : List (QueuedDelivery Payload × Bool)) : World Payload :=
  entries.foldl (fun world entry =>
    world.spawn pid (.failRead entry.1.id (js "recovery time budget exceeded") .user)) world

def RecoveryExpired (kind : RecoveryKind) (now : ℤ) : Bool :=
  match kind with
  | .drain _ => false
  | .recover deadline => decide (deadline ≤ now)

def nextEntry (kind : RecoveryKind) (entries : List (QueuedDelivery Payload × Bool)) (now : ℤ) :
    World Payload :=
  if RecoveryExpired kind now then
    (world.deferRemainingEntriesForBudget pid entries).endRecovery index pid kind
  else
    match claimNext (world.processes pid).entriesInProgress entries with
    | none => world.endRecovery index pid kind
    | some (entry, bypassBackoff, rest) =>
      (world.claimRecoveryEntry pid entry.id).goto index pid
        (.loadStat ⟨kind, entry.id, bypassBackoff, rest⟩)

def release (recovery : Recovery Payload) (now : ℤ) : World Payload :=
  (world.releaseRecoveryEntry pid recovery.id).nextEntry index pid recovery.kind recovery.rest now

def return_ (caller : Caller Payload) (now : ℤ) : World Payload :=
  match caller with
  | .user => world.goto index pid .done
  | .recovery recovery => world.release index pid recovery now

variable (env : RecoveryEnv Payload)

def sortByEnqueuedAt (entries : List (QueuedDelivery Payload × Bool)) :
    List (QueuedDelivery Payload × Bool) :=
  entries.mergeSort fun left right =>
    decide (left.1.enqueuedAt ≤ right.1.enqueuedAt)

/-- `loadPendingDeliveries` has returned the entries. -/
def scanned (world : World Payload) (index pid : ℕ)
    (entries : List (QueuedDelivery Payload)) (now : ℤ) :
    ScanFor → World Payload
  | .user => world.goto index pid .done
  | .drain drainKey startedAt =>
    let matching := entries.filterMap fun entry =>
      let decision := env.selectEntry drainKey entry startedAt
      if decision.matched then some (entry, decision.bypassBackoff) else none
    world.nextEntry index pid (.drain drainKey) (sortByEnqueuedAt matching) now
  | .recover maxRecoveryMs =>
    world.nextEntry index pid (.recover (now + maxRecoveryMs))
      (sortByEnqueuedAt (entries.map fun entry => (entry, false))) now

def scanNext (world : World Payload) (index pid : ℕ) (rest : List DeliveryId)
    (entries : List (QueuedDelivery Payload)) (scanFor : ScanFor) (now : ℤ) :
    World Payload :=
  match rest with
  | [] => world.scanned env index pid entries now scanFor
  | id :: rest => world.goto index pid (.scanStat id rest entries scanFor)

/-- `writeQueueEntry` returned, or threw because its file was gone. -/
def written (world : World Payload) (index pid : ℕ) (id : DeliveryId)
    (entry : StoredDelivery Payload) (kept : Bool) (now : ℤ) :
    WriteFor Payload → World Payload
  | .enqueue => world.goto index pid .done
  | .fail caller => world.return_ index pid caller now
  | .load recovery =>
    if kept then world.goto index pid (.loaded entry recovery)
    else world.release index pid recovery now
  | .scan rest entries scanFor =>
    world.scanNext env index pid rest
      (if kept then entries ++ [⟨entry, id⟩] else entries) scanFor now

/-- What the outside supplies at a step: the time, the listing of the queue
directory, and the error that a delivery failed with. -/
structure Input where
  now : ℤ
  files : List DeliveryId
  failure : Option JsString

def advance (world : World Payload) (index pid : ℕ) (input : Input) :
    Frame Payload → Option (World Payload)
  | .done => none
  | .write id entry writeFor =>
    some ({ world with disk := world.disk.writeTmp id pid entry }.goto index
      pid (.rename id entry writeFor))
  | .rename id entry writeFor =>
    match world.disk.renameTmp id pid with
    | none => some (world.written env index pid id entry false input.now writeFor)
    | some disk =>
      some ({ world with
        disk := disk
        enqueued := if writeFor.isEnqueue then id :: world.enqueued
          else world.enqueued }.written env index pid id entry true input.now
          writeFor)
  | .ackRename id caller =>
    some ({ world with
      disk := world.disk.markDelivered id
      confirmed := id :: world.confirmed }.goto index pid (.ackUnlink id caller))
  | .ackUnlink id caller =>
    some ({ world with
      disk := world.disk.unlinkMarker id
      acked := id :: world.acked }.return_ index pid caller input.now)
  | .failRead id error caller =>
    match world.disk.json.get? id with
    | none => some (world.return_ index pid caller input.now)
    | some entry =>
      some (world.goto index pid (.write id { entry with
          retryCount := entry.retryCount + 1
          lastAttemptAt := some input.now
          lastError := some error } (.fail caller)))
  | .moveRename recovery =>
    some ({ world with
      disk := world.disk.moveToFailed recovery.id }.release index pid recovery input.now)
  | .readdir scanFor =>
    if input.files.isPerm world.disk.json.keys then
      match world.disk.delivered.elements with
      | [] => some (world.scanNext env index pid input.files [] scanFor input.now)
      | markers =>
        some (world.goto index pid (.unlinkMarkers markers input.files scanFor))
    else none
  | .unlinkMarkers markers files scanFor =>
    match markers with
    | [] => some (world.scanNext env index pid files [] scanFor input.now)
    | marker :: markers =>
      some ({ world with disk := world.disk.unlinkMarker marker }.goto index
        pid (.unlinkMarkers markers files scanFor))
  | .scanStat id rest entries scanFor =>
    if world.disk.json.has id then
      some (world.goto index pid (.scanRead id rest entries scanFor))
    else some (world.scanNext env index pid rest entries scanFor input.now)
  | .scanRead id rest entries scanFor =>
    match world.disk.json.get? id with
    | none => some (world.scanNext env index pid rest entries scanFor input.now)
    | some stored =>
      match normalizeLegacyQueuedDeliveryEntry stored with
      | (entry, true) =>
        some (world.goto index pid (.write id entry (.scan rest entries scanFor)))
      | (entry, false) =>
        some (world.scanNext env index pid rest (entries ++ [⟨entry, id⟩]) scanFor input.now)
  | .loadStat recovery =>
    if world.disk.json.has recovery.id then
      some (world.goto index pid (.loadRead recovery))
    else some (world.release index pid recovery input.now)
  | .loadRead recovery =>
    match world.disk.json.get? recovery.id with
    | none => some (world.release index pid recovery input.now)
    | some stored =>
      match normalizeLegacyQueuedDeliveryEntry stored with
      | (entry, true) =>
        some (world.goto index pid (.write recovery.id entry (.load recovery)))
      | (entry, false) =>
        some (world.goto index pid (.loaded entry recovery))
  | .loaded entry recovery =>
    if maxRetries ≤ entry.retryCount then
      some (world.goto index pid (.moveRename recovery))
    else if !recovery.bypassBackoff && !isEntryEligibleForRecoveryRetry entry input.now then
      some (world.release index pid recovery input.now)
    else
      some ({ world with
        deliveries := recovery.id :: world.deliveries }.goto index pid (.delivering recovery))
  | .delivering recovery =>
    match input.failure with
    | none =>
      some (world.goto index pid (.ackRename recovery.id (.recovery recovery)))
    | some error =>
      if env.isPermanentDeliveryError error then
        some (world.goto index pid (.moveRename recovery))
      else
        some (world.goto index pid (.failRead recovery.id error (.recovery recovery)))

end World

/-- The calls of the exported functions, each by some process, the next step of
a task, and the crash of a process.  An id is known to a caller once its file
was there. -/
inductive DeliveryAction (Payload : Type*) where
  | enqueueDelivery (pid : ℕ) (id : DeliveryId) (payload : Payload) (now : ℤ)
  | ackDelivery (pid : ℕ) (id : DeliveryId)
  | failDelivery (pid : ℕ) (id : DeliveryId) (error : JsString)
  | loadPendingDeliveries (pid : ℕ)
  | drainPendingDeliveries (pid : ℕ) (drainKey : JsString) (now : ℤ)
  | recoverPendingDeliveries (pid : ℕ) (maxRecoveryMs : ℤ)
  | advance (index : ℕ) (input : World.Input)
  | crash (pid : ℕ)

namespace World

variable (env : RecoveryEnv Payload)

def crash (world : World Payload) (pid : ℕ) : World Payload :=
  { world.setProcess pid ⟨[], []⟩ with
    tasks := world.tasks.map fun task =>
      if task.pid = pid then { task with frame := .done } else task }

def step (world : World Payload) : DeliveryAction Payload → Option (World Payload)
  | .enqueueDelivery pid id payload now =>
    if id ∈ world.used then none
    else
      some ({ world with used := id :: world.used }.spawn pid
        (.write id ⟨now, 0, none, none, payload⟩ .enqueue))
  | .ackDelivery pid id =>
    if id ∈ world.enqueued then some (world.spawn pid (.ackRename id .user))
    else none
  | .failDelivery pid id error =>
    some (world.spawn pid (.failRead id error .user))
  | .loadPendingDeliveries pid => some (world.spawn pid (.readdir .user))
  | .drainPendingDeliveries pid drainKey now =>
    let process := world.processes pid
    if drainKey ∈ process.drainInProgress then some world
    else
      some ((world.setProcess pid { process with
        drainInProgress := drainKey :: process.drainInProgress }).spawn pid
          (.readdir (.drain drainKey now)))
  | .recoverPendingDeliveries pid maxRecoveryMs =>
    some (world.spawn pid (.readdir (.recover maxRecoveryMs)))
  | .advance index input =>
    (world.tasks.get? index).bind fun task =>
      world.advance env index task.pid input task.frame
  | .crash pid => some (world.crash pid)

end World

end LittleBaby.Delivery
