import LittleBaby.JsNumber
import LittleBaby.JsString

/-!
# Reply queues

The helpers that the follow-up and the announce queue share.  An entry carries
the ticket of its acceptance.  The model keeps the dropped entries themselves,
where the source has their count and their summary lines.
-/

namespace LittleBaby.Queues

open JsString

inductive QueueMode where
  | steer
  | followup
  | collect
  | steerBacklog
  | interrupt
  | queue
  deriving DecidableEq

inductive QueueDropPolicy where
  | old
  | new
  | summarize
  deriving DecidableEq

structure QueueSettings where
  mode : QueueMode
  cap : Option JsNumber
  dropPolicy : Option QueueDropPolicy

structure Queued (Item : Type*) where
  ticket : ℕ
  item : Item
  deriving DecidableEq

variable {Item Run : Type*}

structure QueueState (Item Run : Type*) where
  items : List (Queued Item)
  mode : QueueMode
  cap : ℕ
  dropPolicy : QueueDropPolicy
  dropped : List (Queued Item)
  summaryLines : List (Queued Item)
  lastRun : Option Run

/-- `Math.floor` of a positive cap, and the fallback for any other. -/
def resolveCap (cap : Option JsNumber) (fallback : ℕ) : ℕ :=
  match cap with
  | some (.finite value) => if 0 < value then ⌊value⌋.toNat else fallback
  | some .posInfinity => 0
  | _ => fallback

def createQueue (settings : QueueSettings) : QueueState Item Run where
  items := []
  mode := settings.mode
  cap := resolveCap settings.cap 20
  dropPolicy := settings.dropPolicy.getD .summarize
  dropped := []
  summaryLines := []
  lastRun := none

namespace QueueState

variable (queue : QueueState Item Run)

def droppedCount : ℕ := queue.dropped.length

def weight : ℕ := queue.items.length + queue.droppedCount

def applyQueueRuntimeSettings (settings : QueueSettings) : QueueState Item Run :=
  { queue with
    mode := settings.mode
    cap := resolveCap settings.cap queue.cap
    dropPolicy := settings.dropPolicy.getD queue.dropPolicy }

def clearQueueSummaryState : QueueState Item Run := { queue with dropped := [], summaryLines := [] }

def overCap : List (Queued Item) :=
  if queue.cap = 0 ∨ queue.items.length < queue.cap then []
  else queue.items.take (queue.items.length - queue.cap + 1)

/-- `none` when the new entry is refused. -/
def applyQueueDropPolicy : Option (QueueState Item Run) :=
  if queue.cap = 0 ∨ queue.items.length < queue.cap then some queue
  else
    let dropCount := queue.items.length - queue.cap + 1
    match queue.dropPolicy with
    | .new => none
    | .old => some { queue with items := queue.items.drop dropCount }
    | .summarize =>
      let lines := queue.summaryLines ++ queue.items.take dropCount
      some { queue with
        items := queue.items.drop dropCount
        dropped := queue.dropped ++ queue.items.take dropCount
        summaryLines := lines.drop (lines.length - queue.cap) }

end QueueState

variable (text : JsString)

def trimEnd : JsString := text.rdropWhile isSpace

def elideQueueText (limit : ℕ) : JsString :=
  if text.length ≤ limit then text
  else trimEnd (text.take (limit - 1)) ++ js "…"

/-- `text.replace(/\s+/g, " ")`. -/
def collapseSpaces : JsString → JsString
  | [] => []
  | [unit] => if isSpace unit then js " " else [unit]
  | unit :: next :: rest =>
    if isSpace unit then
      if isSpace next then collapseSpaces (next :: rest)
      else js " " ++ collapseSpaces (next :: rest)
    else unit :: collapseSpaces (next :: rest)

def buildQueueSummaryLine : JsString := elideQueueText (trim (collapseSpaces text)) 160

structure QueueSummary (Item : Type*) where
  dropped : List (Queued Item)
  lines : List (Queued Item)
  deriving DecidableEq

def QueueState.previewQueueSummaryPrompt (queue : QueueState Item Run) :
    Option (QueueSummary Item) :=
  if queue.dropPolicy ≠ .summarize ∨ queue.droppedCount = 0 then none
  else some ⟨queue.dropped, queue.summaryLines⟩

def QueueSummary.prompt (summary : QueueSummary Item) (noun : JsString)
    (summarize : Item → JsString) : JsString :=
  let count := summary.dropped.length
  let title := js "[Queue overflow] Dropped " ++ js (toString count) ++ js " " ++
    noun ++ (if count = 1 then [] else js "s") ++ js " due to cap."
  join (js "\n") (title :: if summary.lines = [] then []
    else js "Summary:" :: summary.lines.map fun entry =>
      js "- " ++ buildQueueSummaryLine (summarize entry.item))

def buildCollectPrompt (title : JsString) (items : List (Queued Item))
    (summary : Option JsString) (renderItem : Item → ℕ → JsString) : JsString :=
  join (js "\n\n") (title :: summary.toList ++
    items.zipIdx.map fun (entry, idx) => renderItem entry.item idx)

structure CrossChannelKey where
  cross : Bool
  key : Option JsString
  deriving DecidableEq

def hasCrossChannelItems (items : List (Queued Item))
    (resolveKey : Item → CrossChannelKey) : Bool :=
  let resolved := items.map fun entry => resolveKey entry.item
  let keys := (resolved.filterMap fun key => orElse key.key none).dedup
  if resolved.any (·.cross) then true
  else if keys = [] then false
  else if resolved.any fun key => (orElse key.key none).isNone then true
  else decide (1 < keys.length)

namespace QueueState

variable {queue kept : QueueState Item Run}

variable (settings : QueueSettings)

theorem applyQueueDropPolicy_cases (hkept : queue.applyQueueDropPolicy = some kept) :
    queue.items = queue.overCap ++ kept.items ∧
      kept.lastRun = queue.lastRun ∧ kept.mode = queue.mode ∧
      kept.dropPolicy = queue.dropPolicy ∧
      kept.dropped = queue.dropped ++
          (if queue.dropPolicy = .summarize then queue.overCap else []) ∧
      ∀ line ∈ kept.summaryLines, line ∈ queue.summaryLines ∨
          queue.dropPolicy = .summarize ∧ line ∈ queue.overCap := by
  unfold applyQueueDropPolicy at hkept
  unfold overCap
  by_cases hroom : queue.cap = 0 ∨ queue.items.length < queue.cap
  · simp only [hroom, if_true, Option.some.injEq] at hkept ⊢
    subst hkept
    simp
  · simp only [hroom, if_false] at hkept ⊢
    cases hpolicy : queue.dropPolicy with
    | new => simp [hpolicy] at hkept
    | old =>
      simp [hpolicy] at hkept
      subst hkept
      simp
    | summarize =>
      simp [hpolicy] at hkept
      subst hkept
      simp
      intro line hline
      exact List.mem_append.mp (List.mem_of_mem_drop hline)

theorem applyQueueDropPolicy_new (hkept : queue.applyQueueDropPolicy = some kept)
    (hpolicy : queue.dropPolicy = .new) : queue.overCap = [] := by
  unfold applyQueueDropPolicy at hkept
  unfold overCap
  split_ifs at hkept ⊢ with hroom
  · rfl
  · simp [hpolicy] at hkept

theorem previewQueueSummaryPrompt_eq_some {summary : QueueSummary Item} :
    queue.previewQueueSummaryPrompt = some summary ↔
      queue.dropPolicy = .summarize ∧ queue.dropped ≠ [] ∧
        summary = ⟨queue.dropped, queue.summaryLines⟩ := by
  unfold previewQueueSummaryPrompt droppedCount
  by_cases hpolicy : queue.dropPolicy = .summarize
  · by_cases hdropped : queue.dropped = []
    · simp [hdropped]
    · have hlength : queue.dropped.length ≠ 0 := by simpa using hdropped
      simp [hpolicy, hdropped, hlength, eq_comm]
  · simp [hpolicy]

theorem weight_eq_zero : queue.weight = 0 ↔ queue.items = [] ∧ queue.dropped = [] := by
  simp [weight, droppedCount]

end QueueState

end LittleBaby.Queues
