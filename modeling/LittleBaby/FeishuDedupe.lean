import LittleBaby.InsertionOrder
import LittleBaby.JsString

/-!
# Deduplication of inbound messages

The three structures behind the guard of `handleMessage`, and the two
mechanisms that prune them: the expiry in `cleanupDedupeSet` and the rewrite
of `saveStateFiles`, which keeps the last 2000 processed ids.
-/

namespace LittleBaby.Feishu

open InsertionSet

def dedupTtlMs : ℕ := 300000

/-- How many processed ids `saveStateFiles` keeps. -/
def savedIds : ℕ := 2000

structure Dedupe where
  processing : InsertionSet JsString
  processed : InsertionSet JsString
  timestamps : InsertionMap JsString ℕ

namespace Dedupe

variable (dedupe : Dedupe) (messageId : JsString)

def guards : Bool :=
  messageId.isEmpty || dedupe.processed.has messageId || dedupe.processing.has messageId

variable (now : ℕ)

/-- `now - ts > DEDUP_TTL_MS` for the timestamp of an id, if it has one. -/
def expired (messageId : JsString) : Bool :=
  (dedupe.timestamps.get? messageId).any fun ts =>
    decide (now - ts > dedupTtlMs)

def cleanupDedupeSet : Dedupe where
  processing := dedupe.processing
  processed := dedupe.processed.filter fun id => !dedupe.expired now id
  timestamps := dedupe.timestamps.filter fun _ ts =>
    !decide (now - ts > dedupTtlMs)

/-- The statements between the guard and the `try` of `handleMessage`. -/
def enter : Dedupe :=
  cleanupDedupeSet { dedupe with
      processing := dedupe.processing.add messageId
      timestamps := dedupe.timestamps.set messageId now } now

def markProcessed : Dedupe := { dedupe with processed := dedupe.processed.add messageId }

def leave : Dedupe := { dedupe with processing := dedupe.processing.delete messageId }

def saveStateFiles : Dedupe := { dedupe with processed := dedupe.processed.keepLast savedIds }

theorem mem_processed_saveStateFiles {dedupe : Dedupe} {messageId : JsString} :
    messageId ∈ dedupe.saveStateFiles.processed.elements ↔ messageId ∈ dedupe.processed.elements ∧
        (dedupe.processed.insertedAfter messageId).length < savedIds := by
  rw [saveStateFiles, mem_keepLast_iff]

section Enter

variable {dedupe : Dedupe} {messageId other : JsString} {now : ℕ}

theorem guards_eq_false (hguard : dedupe.guards messageId = false) :
    messageId ∉ dedupe.processed.elements ∧ messageId ∉ dedupe.processing.elements := by
  simp only [guards, Bool.or_eq_false_iff] at hguard
  exact ⟨has_eq_false.mp hguard.1.2, has_eq_false.mp hguard.2⟩

theorem mem_processing_enter : other ∈ (dedupe.enter messageId now).processing.elements ↔
      other ∈ dedupe.processing.elements ∨ other = messageId :=
  mem_add

theorem get?_enter {ts : ℕ} (hget : (dedupe.enter messageId now).timestamps.get? other = some ts) :
    other = messageId ∧ ts = now ∨ other ≠ messageId ∧ dedupe.timestamps.get? other = some ts := by
  simp only [enter, cleanupDedupeSet, InsertionMap.get?_filter,
    InsertionMap.get?_set, Option.filter_eq_some_iff] at hget
  obtain ⟨hget, -⟩ := hget
  split_ifs at hget with hother
  · exact .inl ⟨hother, (Option.some.inj hget).symm⟩
  · exact .inr ⟨hother, hget⟩

theorem mem_processed_enter (hother : other ≠ messageId) (hmem : other ∈ dedupe.processed.elements)
    (hrecent : ∀ ts, dedupe.timestamps.get? other = some ts → now ≤ ts + dedupTtlMs) :
    other ∈ (dedupe.enter messageId now).processed.elements := by
  refine mem_filter.mpr ⟨hmem, ?_⟩
  cases hget : dedupe.timestamps.get? other with
  | none => simp [expired, hother, hget]
  | some ts =>
    have hle := hrecent ts hget
    simp only [expired, InsertionMap.get?_set, hother, if_false, hget,
      Option.any_some, Bool.not_eq_eq_eq_not, Bool.not_true,
      decide_eq_false_iff_not]
    omega

theorem processed_enter_zero (dedupe : Dedupe) (messageId : JsString) :
    (dedupe.enter messageId 0).processed = dedupe.processed := by
  simp [enter, cleanupDedupeSet, expired, filter]

end Enter

end Dedupe

end LittleBaby.Feishu
