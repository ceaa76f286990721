import LittleBaby.Entries
import LittleBaby.FoldUntil
import LittleBaby.JsString
import Mathlib.Algebra.Ring.Int.Defs
import Mathlib.Data.Finset.Insert
import Mathlib.Data.List.Sort

/-!
# The disk budget of the sessions directory

Over its budget, a sessions directory first loses archives and transcripts that
nothing refers to, the oldest first, and then the oldest sessions of the store
along with their transcripts, until the total is at the high-water mark.
-/

namespace LittleBaby.DiskBudget

open JsString FoldUntil

def matchesTemplate : JsString → JsString → Bool
  | [], [] => true
  | expected :: template, unit :: text =>
    (if expected = 0x39 then decide (0x30 ≤ unit ∧ unit ≤ 0x39)
      else decide (unit = expected)) && matchesTemplate template text
  | _, _ => false

/-- `/^\d{4}-\d{2}-\d{2}T\d{2}-\d{2}-\d{2}(?:\.\d{3})?Z$/`. -/
def isArchiveTimestamp (raw : JsString) : Bool :=
  matchesTemplate (js "9999-99-99T99-99-99Z") raw ||
    matchesTemplate (js "9999-99-99T99-99-99.999Z") raw

/-- `/^sessions\.json\.bak\.\d+$/`. -/
def isLegacyStoreBackup (fileName : JsString) : Bool :=
  startsWith fileName (js "sessions.json.bak.") &&
    (let digits := fileName.drop (js "sessions.json.bak.").length
    !digits.isEmpty && digits.all fun unit => 0x30 ≤ unit && unit ≤ 0x39)

def hasArchiveSuffix (fileName reason : JsString) : Bool :=
  let marker := js "." ++ reason ++ js "."
  match (fileName.tails.filter fun rest => startsWith rest marker).getLast? with
  | none => false
  | some rest => isArchiveTimestamp (rest.drop marker.length)

def isSessionArchiveArtifactName (fileName : JsString) : Bool :=
  isLegacyStoreBackup fileName || hasArchiveSuffix fileName (js "deleted") ||
    hasArchiveSuffix fileName (js "reset") || hasArchiveSuffix fileName (js "bak")

def isPrimarySessionTranscriptFileName (fileName : JsString) : Bool :=
  decide (fileName ≠ js "sessions.json") &&
    decide (js ".jsonl" <:+ fileName) && !isSessionArchiveArtifactName fileName

/-- `updatedAt` is missing when it is no finite number. -/
structure SessionEntry (Body : Type*) where
  sessionId : Option JsString
  updatedAt : Option ℤ
  body : Body

/-- The entries of the store under their keys, in the order of `Object.keys`. -/
abbrev Store (Body : Type*) := List (JsString × SessionEntry Body)

structure SessionsDirFile (Path : Type*) where
  canonicalPath : Path
  name : JsString
  mtimeMs : ℤ

/-- The sizes of all regular files, in the sessions directory and below it; a file
that is missing has as many bytes as an empty one. -/
abbrev Disk (Path : Type*) := Path → ℕ

/-- What the sweep is run with: `propertyText` is the text of one entry in the
pretty-printed store, `resolveSessionFilePath` the canonical place of the transcript
of an entry, if that is below the sessions directory, and `rm` tells whether the
removal of a file succeeds. -/
structure SweepEnv (Path Body : Type*) where
  toLowerCase : JsString → JsString
  propertyText : JsString → SessionEntry Body → List UInt8
  resolveSessionFilePath : SessionEntry Body → Option Path
  rm : Path → Bool
  files : List (SessionsDirFile Path)
  storePath : Path

structure SweepParams where
  activeSessionKey : Option JsString
  maxDiskBytes : Option ℕ
  highWaterBytes : Option ℕ
  warnOnly : Bool
  dryRun : Bool

structure SessionDiskBudgetSweepResult where
  totalBytesBefore : ℤ
  totalBytesAfter : ℤ
  removedFiles : ℕ
  removedEntries : ℕ
  freedBytes : ℤ
  maxBytes : ℕ
  highWaterBytes : ℕ
  overBudget : Bool

inductive Removal (Path Body : Type*) where
  | file (file : SessionsDirFile Path) (total : ℤ)
  | entry (stored : JsString × SessionEntry Body) (total : ℤ)

structure Sweep (Path Body : Type*) where
  disk : Disk Path
  store : Store Body
  simulatedRemovedPaths : Finset Path
  sessionIdRefCounts : JsString → Option ℤ
  projectedStoreBytes : ℤ
  total : ℤ
  removedFiles : ℕ
  removedEntries : ℕ
  freedBytes : ℤ
  removals : List (Removal Path Body)

variable {Path Body : Type*}

def SessionEntry.session (entry : SessionEntry Body) : Option JsString :=
  entry.sessionId.filter fun sessionId => sessionId ≠ []

def getEntryUpdatedAt (entry : SessionEntry Body) : ℤ := entry.updatedAt.getD 0

namespace SweepEnv

variable (env : SweepEnv Path Body)

def normalizeOptionalLowercaseString (value : JsString) : Option JsString :=
  (nonBlank value).map env.toLowerCase

/-- `activeSessionKey && normalizeLowercaseStringOrEmpty(key) === activeSessionKey`. -/
def isActive (activeSessionKey : Option JsString) (key : JsString) : Bool :=
  match activeSessionKey.bind env.normalizeOptionalLowercaseString with
  | none => false
  | some active =>
    active ≠ [] && (env.normalizeOptionalLowercaseString key).getD [] = active

def resolveSessionTranscriptPathForEntry (entry : SessionEntry Body) : Option Path :=
  match entry.session with
  | none => none
  | some _ => env.resolveSessionFilePath entry

/-- `JSON.stringify(store, null, 2)`. -/
def stringify (store : Store Body) : List UInt8 :=
  match store with
  | [] => [0x7B, 0x7D]
  | stored =>
    [0x7B, 0x0A] ++ [0x2C, 0x0A].intercalate
        (stored.map fun entry => env.propertyText entry.1 entry.2) ++
      [0x0A, 0x7D]

def measureStoreBytes (store : Store Body) : ℤ := (env.stringify store).length

def measureStoreEntryChunkBytes (key : JsString) (entry : SessionEntry Body) : ℤ :=
  let singleEntryStore := env.stringify [(key, entry)]
  if [0x7B, 0x0A] <+: singleEntryStore ∧ [0x0A, 0x7D] <:+ singleEntryStore then
    ((singleEntryStore.take (singleEntryStore.length - 2)).drop 2).length
  else env.measureStoreBytes [(key, entry)] - 4

variable [DecidableEq Path]

def fileSizesByPath (disk : Disk Path) (path : Path) : Option ℕ :=
  if path ∈ env.files.map SessionsDirFile.canonicalPath then some (disk path)
  else none

/-- `sizes` are those from the beginning of the sweep. -/
def removeFileForBudget (sizes : Path → Option ℕ) (dryRun : Bool) (path : Path)
    (sweep : Sweep Path Body) : ℕ × Sweep Path Body :=
  if dryRun then
    if path ∈ sweep.simulatedRemovedPaths then (0, sweep)
    else
      let size := (sizes path).getD 0
      if size = 0 then (0, sweep)
      else
        (size, { sweep with
            simulatedRemovedPaths := insert path sweep.simulatedRemovedPaths })
  else
    (sweep.disk path, if env.rm path then
        { sweep with disk := Function.update sweep.disk path 0 }
      else sweep)

def countRemoval (removed : ℕ × Sweep Path Body) : Sweep Path Body :=
  if removed.1 = 0 then removed.2
  else
    { removed.2 with
      total := removed.2.total - removed.1
      freedBytes := removed.2.freedBytes + removed.1
      removedFiles := removed.2.removedFiles + 1 }

def isRemovable (store : Store Body) (file : SessionsDirFile Path) : Bool :=
  isSessionArchiveArtifactName file.name ||
    (isPrimarySessionTranscriptFileName file.name && !decide (∃ stored ∈ store,
        env.resolveSessionTranscriptPathForEntry stored.2 = some file.canonicalPath))

def removableFileQueue (store : Store Body) : List (SessionsDirFile Path) :=
  (env.files.filter (env.isRemovable store)).insertionSort fun first second =>
    first.mtimeMs ≤ second.mtimeMs

def removeQueuedFile (sizes : Path → Option ℕ) (dryRun : Bool)
    (sweep : Sweep Path Body) (file : SessionsDirFile Path) : Sweep Path Body :=
  countRemoval (env.removeFileForBudget sizes dryRun file.canonicalPath
    { sweep with removals := sweep.removals ++ [.file file sweep.total] })

def countSessionId (counts : JsString → Option ℤ)
    (stored : JsString × SessionEntry Body) : JsString → Option ℤ :=
  match stored.2.session with
  | none => counts
  | some sessionId =>
    Function.update counts sessionId (some ((counts sessionId).getD 0 + 1))

def buildSessionIdRefCounts (store : Store Body) : JsString → Option ℤ :=
  store.foldl countSessionId fun _ => none

/-- `delete params.store[key]`, with the sizes that follow. -/
def deleteEntry (stored : JsString × SessionEntry Body)
    (sweep : Sweep Path Body) : Sweep Path Body :=
  let store := Entries.erase stored.1 sweep.store
  let chunkBytes := env.measureStoreEntryChunkBytes stored.1 stored.2
  let projectedStoreBytes :=
    if chunkBytes ≥ 0 then max 2 (sweep.projectedStoreBytes - (chunkBytes + 2))
    else env.measureStoreBytes store
  { sweep with
    store
    projectedStoreBytes
    total := sweep.total + (projectedStoreBytes - sweep.projectedStoreBytes)
    removedEntries := sweep.removedEntries + 1
    removals := sweep.removals ++ [.entry stored sweep.total] }

def releaseSession (sizes : Path → Option ℕ) (dryRun : Bool)
    (entry : SessionEntry Body) (sweep : Sweep Path Body) : Sweep Path Body :=
  match entry.session with
  | none => sweep
  | some sessionId =>
    let nextRefCount := (sweep.sessionIdRefCounts sessionId).getD 1 - 1
    if nextRefCount > 0 then
      { sweep with
        sessionIdRefCounts :=
          Function.update sweep.sessionIdRefCounts sessionId (some nextRefCount) }
    else
      let sweep :=
        { sweep with
          sessionIdRefCounts := Function.update sweep.sessionIdRefCounts sessionId none }
      match env.resolveSessionTranscriptPathForEntry entry with
      | none => sweep
      | some path => countRemoval (env.removeFileForBudget sizes dryRun path sweep)

def sweepOrder (store : Store Body) : Store Body :=
  store.insertionSort fun first second =>
    getEntryUpdatedAt first.2 ≤ getEntryUpdatedAt second.2

def removeEntry (sizes : Path → Option ℕ) (dryRun : Bool)
    (activeSessionKey : Option JsString) (sweep : Sweep Path Body)
    (stored : JsString × SessionEntry Body) : Sweep Path Body :=
  if env.isActive activeSessionKey stored.1 then sweep
  else env.releaseSession sizes dryRun stored.2 (env.deleteEntry stored sweep)

def atHighWater (highWaterBytes : ℕ) (sweep : Sweep Path Body) : Bool :=
  decide (sweep.total ≤ highWaterBytes)

def start (disk : Disk Path) (store : Store Body) : Sweep Path Body where
  disk
  store
  simulatedRemovedPaths := ∅
  sessionIdRefCounts := buildSessionIdRefCounts store
  projectedStoreBytes := env.measureStoreBytes store
  total :=
    (env.files.map fun file => (disk file.canonicalPath : ℤ)).sum -
      (if env.storePath ∈ env.files.map SessionsDirFile.canonicalPath then
        (disk env.storePath : ℤ) else 0) +
      env.measureStoreBytes store
  removedFiles := 0
  removedEntries := 0
  freedBytes := 0
  removals := []

def removeFiles (sizes : Path → Option ℕ) (dryRun : Bool) (highWaterBytes : ℕ)
    (queue : List (SessionsDirFile Path)) (sweep : Sweep Path Body) :
    Sweep Path Body :=
  foldUntil (atHighWater highWaterBytes) (env.removeQueuedFile sizes dryRun) queue sweep

def removeEntries (sizes : Path → Option ℕ) (dryRun : Bool) (highWaterBytes : ℕ)
    (activeSessionKey : Option JsString) (order : Store Body)
    (sweep : Sweep Path Body) : Sweep Path Body :=
  foldUntil (atHighWater highWaterBytes) (env.removeEntry sizes dryRun activeSessionKey) order sweep

def reduce (params : SweepParams) (highWaterBytes : ℕ) (disk : Disk Path)
    (store : Store Body) : Sweep Path Body :=
  let sizes := env.fileSizesByPath disk
  env.removeEntries sizes params.dryRun highWaterBytes params.activeSessionKey (sweepOrder store)
    (env.removeFiles sizes params.dryRun highWaterBytes
      (env.removableFileQueue store) (env.start disk store))

def resultOf (before after : Sweep Path Body) (maxBytes highWaterBytes : ℕ)
    (overBudget : Bool) : SessionDiskBudgetSweepResult where
  totalBytesBefore := before.total
  totalBytesAfter := after.total
  removedFiles := after.removedFiles
  removedEntries := after.removedEntries
  freedBytes := after.freedBytes
  maxBytes
  highWaterBytes
  overBudget

def enforceSessionDiskBudget (params : SweepParams) (disk : Disk Path) (store : Store Body) :
    Option SessionDiskBudgetSweepResult × Sweep Path Body :=
  let before := env.start disk store
  match params.maxDiskBytes, params.highWaterBytes with
  | some maxBytes, some highWaterBytes =>
    if before.total ≤ maxBytes then
      (some (resultOf before before maxBytes highWaterBytes false), before)
    else if params.warnOnly then
      (some (resultOf before before maxBytes highWaterBytes true), before)
    else
      let after := env.reduce params highWaterBytes disk store
      (some (resultOf before after maxBytes highWaterBytes true), after)
  | _, _ => (none, before)

end SweepEnv

end LittleBaby.DiskBudget
