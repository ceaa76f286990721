import LittleBaby.QueueDrains
import Mathlib.Data.List.SplitBy

/-!
# The follow-up and the announce queue

Both drains have one loop head, one finally block and one way to take the next
item.
-/

namespace LittleBaby.Queues

open JsString

inductive ElevatedLevel where
  | off
  | on
  | ask
  | full
  deriving DecidableEq

structure ExecOverrides where
  host : Option JsString
  security : Option JsString
  ask : Option JsString
  node : Option JsString
  deriving DecidableEq

structure BashElevated where
  enabled : Bool
  allowed : Bool
  defaultLevel : ElevatedLevel
  deriving DecidableEq

/-- The part of `FollowupRun["run"]` that queueing reads. -/
structure RunContext where
  senderId : Option JsString
  senderName : Option JsString
  senderUsername : Option JsString
  senderE164 : Option JsString
  senderIsOwner : Option Bool
  execOverrides : Option ExecOverrides
  bashElevated : Option BashElevated
  deriving DecidableEq

inductive ThreadId where
  | number (value : ℤ)
  | text (value : JsString)
  deriving DecidableEq

structure OriginRouting where
  originatingChannel : Option JsString
  originatingTo : Option JsString
  originatingAccountId : Option JsString
  originatingThreadId : Option ThreadId
  deriving DecidableEq

structure FollowupRun extends OriginRouting where
  prompt : JsString
  summaryLine : Option JsString
  run : RunContext
  deriving DecidableEq

structure FollowupAuthorizationKey where
  senderId : JsString
  senderE164 : JsString
  senderIsOwner : Bool
  host : JsString
  security : JsString
  ask : JsString
  node : JsString
  enabled : Bool
  allowed : Bool
  defaultLevel : Option ElevatedLevel
  deriving DecidableEq

def resolveFollowupAuthorizationKey (run : RunContext) : FollowupAuthorizationKey where
  senderId := run.senderId.getD []
  senderE164 := run.senderE164.getD []
  senderIsOwner := decide (run.senderIsOwner = some true)
  host := (run.execOverrides.bind (·.host)).getD []
  security := (run.execOverrides.bind (·.security)).getD []
  ask := (run.execOverrides.bind (·.ask)).getD []
  node := (run.execOverrides.bind (·.node)).getD []
  enabled := run.bashElevated.any (·.enabled)
  allowed := run.bashElevated.any (·.allowed)
  defaultLevel := run.bashElevated.map (·.defaultLevel)

/-- `threadId != null && threadId !== ""`. -/
def presentThread : Option ThreadId → Option ThreadId
  | some (.text []) => none
  | threadId => threadId

def resolveOriginRoutingMetadata (items : List (Queued FollowupRun)) : OriginRouting where
  originatingChannel := items.findSome? fun entry => orElse entry.item.originatingChannel none
  originatingTo := items.findSome? fun entry => orElse entry.item.originatingTo none
  originatingAccountId := items.findSome? fun entry => orElse entry.item.originatingAccountId none
  originatingThreadId := items.findSome? fun entry => presentThread entry.item.originatingThreadId

def splitCollectItemsByAuthorization (items : List (Queued FollowupRun)) :
    List (List (Queued FollowupRun)) :=
  items.splitBy fun left right =>
    decide (resolveFollowupAuthorizationKey left.item.run =
      resolveFollowupAuthorizationKey right.item.run)

def renderCollectItem (item : FollowupRun) (idx : ℕ) : JsString :=
  let senderLabel := item.run.senderName.or (item.run.senderUsername.or
    (item.run.senderId.or item.run.senderE164))
  let senderSuffix := match orElse senderLabel none with
    | some label => js " (from " ++ label ++ js ")"
    | none => []
  trim (js "---\nQueued #" ++ js (toString (idx + 1)) ++ senderSuffix ++
    js "\n" ++ item.prompt)

def ThreadId.toText : ThreadId → JsString
  | .number value => js (toString value)
  | .text value => value

section Routing

variable (isRoutableChannel : JsString → Bool)

def resolveCrossChannelKey (item : OriginRouting) : CrossChannelKey :=
  let channel := orElse item.originatingChannel none
  let target := orElse item.originatingTo none
  let accountId := orElse item.originatingAccountId none
  let threadId := presentThread item.originatingThreadId
  if channel.isNone && target.isNone && accountId.isNone && threadId.isNone then
    ⟨false, none⟩
  else
    match channel, target with
    | some channel, some target =>
      if isRoutableChannel channel then
        ⟨false, some (join (js "|") [channel, target, accountId.getD [],
          (threadId.map ThreadId.toText).getD []])⟩
      else ⟨true, none⟩
    | _, _ => ⟨true, none⟩

def FollowupRun.summarize (item : FollowupRun) : JsString :=
  (item.summaryLine.bind nonBlank).getD (trim item.prompt)

def followupRun : Call FollowupRun RunContext → Option RunContext
  | .item entry => some entry.item.run
  | .collect group _ => group.getLast?.map (·.item.run)
  | .overflow _ run _ => some run
  | .summaryOnly run _ => some run

def noRouting : OriginRouting := ⟨none, none, none, none⟩

def followupRouting : Call FollowupRun RunContext → OriginRouting
  | .item entry => entry.item.toOriginRouting
  | .collect group _ => resolveOriginRoutingMetadata group
  | .overflow head _ _ => head.item.toOriginRouting
  | .summaryOnly _ _ => noRouting

def followupPrompt : Call FollowupRun RunContext → JsString
  | .item entry => entry.item.prompt
  | .collect group summary =>
    buildCollectPrompt (js "[Queued messages while agent was busy]") group
      (summary.map fun summary =>
        summary.prompt (js "message") FollowupRun.summarize)
      renderCollectItem
  | .overflow _ _ summary =>
    summary.prompt (js "message") FollowupRun.summarize
  | .summaryOnly _ summary =>
    summary.prompt (js "message") FollowupRun.summarize

variable (force : Bool) (queue : QueueState FollowupRun RunContext)

def followupSummaryOnly : Option (Phase FollowupRun RunContext) :=
  queue.previewQueueSummaryPrompt.bind fun summary =>
    queue.lastRun.map fun run => .running force (.summaryOnly run summary) []

def followupDebounced : Option (Phase FollowupRun RunContext) :=
  if queue.mode = .collect then
    some (drainCollectQueueStep force (hasCrossChannelItems queue.items
      fun item => resolveCrossChannelKey isRoutableChannel item.toOriginRouting)
      queue.items)
  else
    match queue.previewQueueSummaryPrompt with
    | some summary => queue.lastRun.map fun run =>
      drainNextQueueItem queue.items force (fun head => .overflow head run summary) .foundNothing
    | none => some (drainNextQueueItem queue.items force .item .foundNothing)

def followupSkipped : Option (Phase FollowupRun RunContext) :=
  match splitCollectItemsByAuthorization queue.items with
  | [] => followupSummaryOnly force queue
  | group :: groups =>
    some (.running force (.collect group queue.previewQueueSummaryPrompt) groups)

end Routing

def plainRun (prompt : JsString) : FollowupRun where
  originatingChannel := none
  originatingTo := none
  originatingAccountId := none
  originatingThreadId := none
  prompt := prompt
  summaryLine := none
  run := ⟨none, none, none, none, none, none, none⟩

def keepOne : QueueSettings := ⟨.followup, some (.finite 1), none⟩

structure AnnounceQueueItem where
  prompt : JsString
  summaryLine : Option JsString
  hasOrigin : Bool
  originKey : Option JsString

def AnnounceQueueItem.summarize (item : AnnounceQueueItem) : JsString :=
  (item.summaryLine.bind nonBlank).getD (trim item.prompt)

def announceCrossChannelKey (item : AnnounceQueueItem) : CrossChannelKey :=
  if !item.hasOrigin then ⟨false, none⟩
  else
    match orElse item.originKey none with
    | none => ⟨true, none⟩
    | some key => ⟨false, some key⟩

def hasAnnounceCrossChannelItems (items : List (Queued AnnounceQueueItem)) :
    Bool :=
  hasCrossChannelItems items announceCrossChannelKey

def announcePrompt : Call AnnounceQueueItem Unit → JsString
  | .item entry => entry.item.prompt
  | .collect group summary =>
    buildCollectPrompt (js "[Queued announce messages while agent was busy]") group
      (summary.map fun summary =>
        summary.prompt (js "announce") AnnounceQueueItem.summarize)
      fun item idx => trim (js "---\nQueued #" ++ js (toString (idx + 1)) ++
        js "\n" ++ item.prompt)
  | .overflow _ _ summary | .summaryOnly _ summary =>
    summary.prompt (js "announce") AnnounceQueueItem.summarize

variable (force : Bool)

def announceDebounced (queue : QueueState AnnounceQueueItem Unit) :
    Option (Phase AnnounceQueueItem Unit) :=
  if queue.mode = .collect then
    some (drainCollectQueueStep force (hasAnnounceCrossChannelItems queue.items) queue.items)
  else
    match queue.previewQueueSummaryPrompt with
    | some summary =>
      some (drainNextQueueItem queue.items force
        (fun head => .overflow head () summary) .foundNothing)
    | none => some (drainNextQueueItem queue.items force .item .foundNothing)

def announceSkipped (queue : QueueState AnnounceQueueItem Unit) :
    Option (Phase AnnounceQueueItem Unit) :=
  if queue.items = [] then none
  else
    some (.running force (.collect queue.items queue.previewQueueSummaryPrompt) [])

variable {Item Run : Type*}

theorem drainNextQueueItem_looks {queue : QueueState Item Run} {force : Bool}
    {call : Queued Item → Call Item Run} {missing : Phase Item Run}
    (hcall : ∀ next rest, queue.items = next :: rest → Looks queue (.running force (call next) []))
    (hmissing : queue.items = [] → Looks queue missing) :
    Looks queue (drainNextQueueItem queue.items force call missing) := by
  unfold drainNextQueueItem
  split
  next hitems => exact hmissing hitems
  next next rest hitems => exact hcall next rest hitems

theorem drainCollectQueueStep_looks {queue : QueueState Item Run}
    (isCrossChannel : Bool) (hmode : queue.mode = .collect) :
    Looks queue (drainCollectQueueStep force isCrossChannel queue.items) := by
  unfold drainCollectQueueStep
  split
  next => exact .skipped force hmode
  next =>
      apply drainNextQueueItem_looks
      · intro next rest hitems
        exact .item true next rest hitems
      · intro hitems
        exact .empty true hmode hitems

variable (queue : QueueState FollowupRun RunContext) (isRoutableChannel : JsString → Bool)

theorem followupDebounced_looks (force : Bool) (queue : QueueState FollowupRun RunContext)
    (phase : Phase FollowupRun RunContext)
    (hphase : followupDebounced isRoutableChannel force queue = some phase) :
    Looks queue phase := by
  unfold followupDebounced at hphase
  by_cases hmode : queue.mode = .collect
  · rw [if_pos hmode] at hphase
    cases hphase
    exact drainCollectQueueStep_looks force _ hmode
  · rw [if_neg hmode] at hphase
    cases hsummary : queue.previewQueueSummaryPrompt with
    | some summary =>
      simp only [hsummary, Option.map_eq_some_iff] at hphase
      obtain ⟨run, -, rfl⟩ := hphase
      apply drainNextQueueItem_looks
      · intro head rest hitems
        exact .overflow force head rest run summary hmode hsummary hitems
      · exact fun hitems => .foundNothing hmode hitems
    | none =>
      simp only [hsummary, Option.some.injEq] at hphase
      subst hphase
      apply drainNextQueueItem_looks
      · exact fun next rest hitems => .item force next rest hitems
      · exact fun hitems => .foundNothing hmode hitems

theorem followupDebounced_eq_none (force : Bool) (queue : QueueState FollowupRun RunContext)
    (hnone : followupDebounced isRoutableChannel force queue = none) :
    queue.dropped ≠ [] ∧ queue.lastRun = none := by
  unfold followupDebounced at hnone
  by_cases hmode : queue.mode = .collect
  · simp [hmode] at hnone
  · rw [if_neg hmode] at hnone
    cases hsummary : queue.previewQueueSummaryPrompt with
    | some summary =>
      simp only [hsummary, Option.map_eq_none_iff] at hnone
      exact ⟨(QueueState.previewQueueSummaryPrompt_eq_some.mp hsummary).2.1, hnone⟩
    | none => simp [hsummary] at hnone

theorem followupSummaryOnly_collects (phase : Phase FollowupRun RunContext)
    (hphase : followupSummaryOnly force queue = some phase) :
    Collects queue phase := by
  simp only [followupSummaryOnly, Option.bind_eq_some_iff, Option.map_eq_some_iff] at hphase
  obtain ⟨summary, hsummary, run, -, rfl⟩ := hphase
  exact .summaryOnly force run summary hsummary

theorem splitCollectItemsByAuthorization_eq_nil {items : List (Queued FollowupRun)} :
    splitCollectItemsByAuthorization items = [] ↔ items = [] :=
  List.splitBy_eq_nil

theorem followupSkipped_collects (phase : Phase FollowupRun RunContext)
    (hphase : followupSkipped force queue = some phase) :
    Collects queue phase := by
  unfold followupSkipped at hphase
  split at hphase
  next => exact followupSummaryOnly_collects force queue phase hphase
  next group groups hsplit =>
      cases hphase
      have hmem : group ∈ splitCollectItemsByAuthorization queue.items := by
        rw [hsplit]
        exact List.mem_cons_self
      have hflatten : (splitCollectItemsByAuthorization queue.items).flatten =
            queue.items :=
        List.flatten_splitBy _ _
      rw [hsplit, List.flatten_cons] at hflatten
      exact .collect force group groups (List.ne_nil_of_mem_splitBy hmem) hflatten

theorem followupSkipped_eq_none (hnone : followupSkipped force queue = none) :
    queue.items = [] ∧ (followupSummaryOnly force queue).isSome = false := by
  unfold followupSkipped at hnone
  split at hnone
  next hsplit =>
      exact ⟨splitCollectItemsByAuthorization_eq_nil.mp hsplit, by simp [hnone]⟩
  next => simp at hnone

theorem followupSummaryOnly_isSome : (followupSummaryOnly force queue).isSome =
      (queue.previewQueueSummaryPrompt.isSome && queue.lastRun.isSome) := by
  unfold followupSummaryOnly
  cases queue.previewQueueSummaryPrompt <;> simp

/-- `scheduleFollowupDrain`, with `enqueueFollowupRun`. -/
def followupDrain : DrainLoop FollowupRun RunContext where
  run := FollowupRun.run
  dedupes := true
  kicks := fun accepted restart => accepted && restart
  deliverable := fun queue =>
    queue.previewQueueSummaryPrompt.isSome && queue.lastRun.isSome
  debounced := followupDebounced isRoutableChannel
  skipped := followupSkipped
  empty := followupSummaryOnly
  debounced_looks := followupDebounced_looks isRoutableChannel
  debounced_eq_none := followupDebounced_eq_none isRoutableChannel
  skipped_collects := followupSkipped_collects
  skipped_eq_none := by
    intro force queue hnone
    rw [← followupSummaryOnly_isSome force]
    exact followupSkipped_eq_none force queue hnone
  empty_collects := followupSummaryOnly_collects
  empty_eq_none := by
    intro force queue hnone
    rw [← followupSummaryOnly_isSome force]
    simp [hnone]

theorem announceDebounced_looks (queue : QueueState AnnounceQueueItem Unit)
    (phase : Phase AnnounceQueueItem Unit)
    (hphase : announceDebounced force queue = some phase) :
    Looks queue phase := by
  unfold announceDebounced at hphase
  by_cases hmode : queue.mode = .collect
  · rw [if_pos hmode] at hphase
    cases hphase
    exact drainCollectQueueStep_looks force _ hmode
  · rw [if_neg hmode] at hphase
    cases hsummary : queue.previewQueueSummaryPrompt with
    | some summary =>
      simp only [hsummary, Option.some.injEq] at hphase
      subst hphase
      apply drainNextQueueItem_looks
      · intro head rest hitems
        exact .overflow force head rest () summary hmode hsummary hitems
      · exact fun hitems => .foundNothing hmode hitems
    | none =>
      simp only [hsummary, Option.some.injEq] at hphase
      subst hphase
      apply drainNextQueueItem_looks
      · exact fun next rest hitems => .item force next rest hitems
      · exact fun hitems => .foundNothing hmode hitems

/-- `scheduleAnnounceDrain`, with `enqueueAnnounce`. -/
def announceDrain : DrainLoop AnnounceQueueItem Unit where
  run := fun _ => ()
  dedupes := false
  kicks := fun _ _ => true
  deliverable := fun _ => false
  debounced := announceDebounced
  skipped := announceSkipped
  empty := fun _ _ => none
  debounced_looks := announceDebounced_looks
  debounced_eq_none := by
    intro force queue hnone
    unfold announceDebounced at hnone
    split at hnone
    · simp at hnone
    · split at hnone <;> simp at hnone
  skipped_collects := by
    intro force queue phase hphase
    unfold announceSkipped at hphase
    split_ifs at hphase with hitems
    cases hphase
    exact .collect force queue.items [] hitems (by simp)
  skipped_eq_none := by
    intro force queue hnone
    unfold announceSkipped at hnone
    split_ifs at hnone with hitems
    exact ⟨hitems, rfl⟩
  empty_collects := by
    intro force queue phase hphase
    simp at hphase
  empty_eq_none := fun _ _ _ => rfl

end LittleBaby.Queues
