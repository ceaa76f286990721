import LittleBaby.JsString
import LittleBaby.ParentForest
import Mathlib.Data.Finset.Card

/-!
# Truncating a session after its compaction

The latest compaction of the active branch has summarised the messages before its
`firstKeptEntryId`; they are taken out of the file, and so are the labels and
branch summaries that refer to what is removed.
-/

namespace LittleBaby.SessionTruncation

open JsString ParentForest

variable {Message Body : Type*}

inductive EntryKind (Message Body : Type*) where
  | message (message : Message)
  | compaction (firstKeptEntryId : Option JsString) (body : Body)
  | label (targetId : JsString) (body : Body)
  | branchSummary (body : Body)
  | other (body : Body)
  deriving DecidableEq

structure SessionEntry (Message Body : Type*) where
  id : JsString
  parentId : Option JsString
  kind : EntryKind Message Body
  deriving DecidableEq

structure SessionFile (Message Body : Type*) where
  header : Option JsString
  entries : List (SessionEntry Message Body)
  deriving DecidableEq

abbrev links : Links (SessionEntry Message Body) JsString where
  idOf := SessionEntry.id
  parentOf := SessionEntry.parentId
  setParent entry parentId := { entry with parentId }
  idOf_setParent _ _ := rfl
  parentOf_setParent _ _ := rfl

/-- What `SessionManager.open` makes of a file: the active branch runs from a root
to the last entry. -/
structure SessionManager (Message Body : Type*) where
  getBranch : List (SessionEntry Message Body) → List (SessionEntry Message Body)
  getBranch_lineage : ∀ entries, links.IsForest entries →
    links.Lineage entries (entries.getLast?.map SessionEntry.id) (getBranch entries)

structure TruncationParams (Message : Type*) where
  isHeartbeatUserMessage : Message → Bool
  isHeartbeatOkResponse : Message → Bool

structure Truncation (Message Body : Type*) where
  entriesRemoved : ℕ
  file : SessionFile Message Body
  deriving DecidableEq

namespace SessionEntry

variable (entry : SessionEntry Message Body)

def isMessage : Bool :=
  match entry.kind with
  | .message _ => true
  | _ => false

def isCompaction : Bool :=
  match entry.kind with
  | .compaction _ _ => true
  | _ => false

def firstKeptEntryId : Option JsString :=
  match entry.kind with
  | .compaction firstKeptEntryId _ => firstKeptEntryId
  | _ => none

end SessionEntry

def latestCompactionBefore (branch : List (SessionEntry Message Body)) : ℕ → Option ℕ
  | 0 => none
  | i + 1 =>
    if branch[i]?.any SessionEntry.isCompaction then some i
    else latestCompactionBefore branch i

def latestCompactionIdx (branch : List (SessionEntry Message Body)) : Option ℕ :=
  latestCompactionBefore branch branch.length

/-- `firstKeptEntryId && entry.id === firstKeptEntryId`. -/
def isFirstKept (firstKeptEntryId : Option JsString) (entry : SessionEntry Message Body) : Bool :=
  firstKeptEntryId.any fun id => id ≠ [] && entry.id = id

def summarizedBranchIds (firstKeptEntryId : Option JsString) :
    List (SessionEntry Message Body) → Finset JsString → Finset JsString
  | [], ids => ids
  | entry :: rest, ids =>
    if isFirstKept firstKeptEntryId entry then ids
    else summarizedBranchIds firstKeptEntryId rest (insert entry.id ids)

def removeMessages (summarized : Finset JsString)
    (entries : List (SessionEntry Message Body)) : Finset JsString :=
  entries.foldl (fun removed entry =>
    if entry.id ∈ summarized ∧ entry.isMessage then insert entry.id removed
    else removed) ∅

def removeHeartbeats (params : TruncationParams Message) (summarized : Finset JsString) :
    List (SessionEntry Message Body) → Finset JsString → Finset JsString
  | userEntry :: assistantEntry :: rest, removed =>
    match userEntry.kind, assistantEntry.kind with
    | .message user, .message assistant =>
      if userEntry.id ∈ summarized ∧ assistantEntry.id ∈ summarized ∧
          userEntry.id ∉ removed ∧ assistantEntry.id ∉ removed ∧
          params.isHeartbeatUserMessage user ∧
          params.isHeartbeatOkResponse assistant then
        removeHeartbeats params summarized rest
          (insert assistantEntry.id (insert userEntry.id removed))
      else
        removeHeartbeats params summarized (assistantEntry :: rest) removed
    | _, _ => removeHeartbeats params summarized (assistantEntry :: rest) removed
  | _, removed => removed

def removeReference (removed : Finset JsString)
    (entry : SessionEntry Message Body) : Finset JsString :=
  match entry.kind with
  | .label targetId _ =>
    if targetId ∈ removed then insert entry.id removed else removed
  | .branchSummary _ =>
    match entry.parentId with
    | none => removed
    | some parentId =>
      if parentId ∈ removed then insert entry.id removed else removed
  | _ => removed

def removedIds (params : TruncationParams Message)
    (branch entries : List (SessionEntry Message Body)) (latest : ℕ)
    (firstKeptEntryId : Option JsString) : Finset JsString :=
  let summarized := summarizedBranchIds firstKeptEntryId (branch.take latest) ∅
  let messages := removeMessages summarized entries
  entries.foldl removeReference (removeHeartbeats params summarized branch messages)

/-- `entryById.get(id)?.parentId ?? null`; a later entry replaces an earlier one
in the map. -/
def parentById (entries : List (SessionEntry Message Body)) (id : JsString) :
    Option JsString :=
  (entries.reverse.find? fun entry => entry.id = id).bind SessionEntry.parentId

def keptEntries (entries : List (SessionEntry Message Body))
    (removed : Finset JsString) : List (SessionEntry Message Body) :=
  entries.filterMap fun entry =>
    if entry.id ∈ removed then none
    else
      let newParentId := nearestKept (parentById entries)
        (fun id => decide (id ∈ removed)) entries.length entry.parentId
      if newParentId ≠ entry.parentId then
        some { entry with parentId := newParentId }
      else some entry

def truncateSessionAfterCompaction (manager : SessionManager Message Body)
    (params : TruncationParams Message) (file : SessionFile Message Body) :
    Except JsString (Truncation Message Body) :=
  let branch := manager.getBranch file.entries
  if file.header = none then .error (js "missing session header")
  else if branch.length = 0 then .error (js "empty session")
  else
    match latestCompactionIdx branch with
    | none => .error (js "no compaction entry found")
    | some 0 => .error (js "compaction already at root")
    | some latest =>
      let firstKeptEntryId := branch[latest]?.bind SessionEntry.firstKeptEntryId
      let removed := removedIds params branch file.entries latest firstKeptEntryId
      if removed.card = 0 then .error (js "no entries to remove")
      else
        .ok
          { entriesRemoved := removed.card
            file :=
              { header := file.header
                entries := keptEntries file.entries removed } }

end LittleBaby.SessionTruncation
