import LittleBaby.QueueInvariants
import LittleBaby.ReplyQueues
import Mathlib.Data.List.Nodup

/-!
# What a queue accepts is executed or told of

A drain takes away the head that it executed by position, so an entry that the
cap drops while a call is under way is executed and counted, and the next one is
lost.
-/

namespace LittleBaby.Queues

open LabelledMachine Queued Registry QueueState

variable {Item Run : Type*}

namespace Registry

/-! ## Accounts -/

def stored (registry : Registry Item Run) : Option (Drain Item Run) :=
  registry.current.bind registry.drains.get?

end Registry

/-- Where the entries of a registry are: still in the stored queue, dropped and
not told of yet, dropped without a summary, or in a call that returned. -/
structure Accounts (Item Run : Type*) where
  accepted : List (Queued Item)
  queued : List (Queued Item)
  waiting : List (Queued Item)
  discarded : List (Queued Item)
  completed : List (Call Item Run)

namespace Accounts

variable (accounts : Accounts Item Run)

def executed : List (Queued Item) := accounts.completed.flatMap Call.executed

def summarized : List (Queued Item) := accounts.completed.flatMap Call.summarized

structure Conserved : Prop where
  once : accounts.accepted.Nodup
  parts : accounts.accepted.Perm (accounts.queued ++ accounts.executed ++ accounts.waiting ++
      accounts.summarized ++ accounts.discarded)

structure Balanced : Prop where
  tickets : accounts.accepted.map ticket = List.range accounts.accepted.length
  parts : accounts.accepted.Perm (accounts.queued ++ accounts.executed ++ accounts.waiting ++
      accounts.summarized ++ accounts.discarded)

variable {accounts : Accounts Item Run}

theorem Balanced.conserved (hbalanced : accounts.Balanced) :
    accounts.Conserved := by
  refine ⟨?_, hbalanced.parts⟩
  apply List.Nodup.of_map ticket
  rw [hbalanced.tickets]
  exact List.nodup_range

theorem Balanced.call (hbalanced : accounts.Balanced)
    {call : Call Item Run} {rest left : List (Queued Item)}
    (hitems : accounts.queued = call.executed ++ rest)
    (hdropped : accounts.waiting = call.summarized ++ left) :
    ({ accounts with
      queued := rest
      waiting := left
      completed := accounts.completed ++ [call] }).Balanced := by
  classical
  refine ⟨hbalanced.tickets, ?_⟩
  have hparts := hbalanced.parts
  rw [List.perm_iff_count] at hparts ⊢
  intro entry
  have hcount := hparts entry
  simp only [executed, summarized, hitems, hdropped, List.flatMap_append,
    List.flatMap_cons, List.flatMap_nil, List.append_nil,
    List.count_append] at hcount ⊢
  omega

theorem Balanced.accept (hbalanced : accounts.Balanced) (item : Item)
    {gone kept dropped discarded : List (Queued Item)}
    (hitems : accounts.queued = gone ++ kept)
    (hgone : gone.Perm (dropped ++ discarded)) {entry : Queued Item}
    (hentry : entry = ⟨accounts.accepted.length, item⟩) :
    ({ accounts with
      accepted := accounts.accepted ++ [entry]
      queued := kept ++ [entry]
      waiting := accounts.waiting ++ dropped
      discarded := accounts.discarded ++ discarded }).Balanced := by
  classical
  constructor
  · simp [hbalanced.tickets, List.range_succ, hentry]
  · have hparts := hbalanced.parts
    rw [List.perm_iff_count] at hparts hgone ⊢
    intro other
    have hcount := hparts other
    have hdrops := hgone other
    simp only [executed, summarized, hitems, List.count_append] at hcount hdrops ⊢
    omega

end Accounts

namespace Registry

def accounts (registry : Registry Item Run) : Accounts Item Run where
  accepted := registry.accepted
  queued := (registry.stored.map (·.queue.items)).getD []
  waiting := (registry.stored.map (·.queue.dropped)).getD []
  discarded := registry.discarded
  completed := registry.completed

/-- The accounts with what `queue` holds in the place of the stored queue. -/
def accountsWith (registry : Registry Item Run) (queue : QueueState Item Run) : Accounts Item Run :=
  { registry.accounts with queued := queue.items, waiting := queue.dropped }

variable {registry : Registry Item Run} {index : ℕ} {old drain : Drain Item Run}

theorem stored_of_get? (hcurrent : registry.current = some index)
    (hget : registry.drains.get? index = some drain) :
    registry.stored = some drain := by
  simp [stored, hcurrent, hget]

theorem accounts_of_stored (hstored : registry.stored = some drain) :
    registry.accounts = registry.accountsWith drain.queue := by
  simp [accounts, accountsWith, hstored]

section

variable (hcurrent : registry.current = some index) (hget : registry.drains.get? index = some old)
include hcurrent hget

theorem stored_put : (registry.put index drain).stored = some drain := by
  apply @stored_of_get? _ _ _ index
  · exact hcurrent
  · simp [put, Arena.get?_put hget]

theorem accounts_put : (registry.put index drain).accounts = registry.accountsWith drain.queue :=
  accounts_of_stored (stored_put hcurrent hget)

end

theorem accounts_removeKey (hstored : registry.stored = some drain)
    (hweight : drain.queue.weight = 0) :
    ({ registry with current := none }).accounts = registry.accounts := by
  obtain ⟨hitems, hdropped⟩ := weight_eq_zero.mp hweight
  have hremoved : ({ registry with current := none }).stored = none := rfl
  simp [accounts, hstored, hitems, hdropped, hremoved]

theorem accounts_schedule : registry.schedule.accounts = registry.accounts := by
  rcases schedule_cases registry with
    hsame | ⟨index, drain, hcurrent, hget, -, hbegun⟩
  · rw [hsame]
  · have hstored := stored_of_get? hcurrent hget
    rcases hbegun with ⟨hweight, hschedule⟩ | ⟨-, hschedule⟩
    · rw [hschedule]
      exact accounts_removeKey hstored hweight
    · rw [hschedule, accounts_put hcurrent hget, accounts_of_stored hstored]
      rfl

theorem accounts_kick (kicks : Bool) : (registry.kick kicks).accounts = registry.accounts := by
  cases kicks with
  | false => rfl
  | true => exact accounts_schedule

section

variable (hcurrent : registry.current = some index) (hget : registry.drains.get? index = some old)

include hcurrent hget

theorem accounts_file (kept : QueueState Item Run) (item : Item) (discarded : List (Queued Item)) :
    (registry.file index drain kept item discarded).accounts = { registry.accounts with
        accepted := registry.accepted ++ [⟨registry.accepted.length, item⟩]
        queued := kept.items ++ [⟨registry.accepted.length, item⟩]
        waiting := kept.dropped
        discarded := registry.discarded ++ discarded } := by
  have hstored := @stored_put _ _ _ _ _ { drain with
    queue := { kept with
      items := kept.items ++ [⟨registry.accepted.length, item⟩] } } hcurrent
    hget
  have hfiled : (registry.file index drain kept item discarded).stored = _ := hstored
  rw [accounts_of_stored hfiled]
  rfl

theorem accounts_finish : (registry.finish index drain).accounts =
      registry.accountsWith drain.queue := by
  have hput : (registry.put index drain.stop).accounts = registry.accountsWith drain.queue :=
    accounts_put hcurrent hget
  unfold finish
  split_ifs with hweight
  · rw [@accounts_removeKey _ _ _ drain.stop (stored_put hcurrent hget) hweight, hput]
  · rw [accounts_schedule, hput]

theorem accounts_continueLoop (force : Bool) : (registry.continueLoop index force drain).accounts =
      registry.accountsWith drain.queue := by
  unfold continueLoop
  split_ifs with hweight
  · exact accounts_finish hcurrent hget
  · exact accounts_put hcurrent hget

end

end Registry

/-! ## What a call under way holds on to -/

def Phase.holdsItems : Phase Item Run → Bool
  | .running _ (.summaryOnly _ _) _ => false
  | .running _ _ _ => true
  | _ => false

def Phase.holdsSummary : Phase Item Run → Bool
  | .running _ call _ => call.summary.isSome
  | .shifted _ clears => clears
  | _ => false

/-- The next entry drops nothing from under a call, and counts nothing that a
summary on its way is cleared with. -/
def DropsSafely (drain : Drain Item Run) : Prop :=
  drain.queue.overCap.length = 0 ∨ drain.queue.dropPolicy = .new ∨ drain.phase.holdsItems = false ∧
      (drain.queue.dropPolicy = .summarize → drain.phase.holdsSummary = false)

instance (drain : Drain Item Run) : Decidable (DropsSafely drain) :=
  inferInstanceAs (Decidable (_ ∨ _))

def replacesItem (drain : Drain Item Run) : Bool :=
  match drain.phase with
  | .debouncing _ =>
    decide (drain.queue.mode ≠ .collect) && drain.queue.previewQueueSummaryPrompt.isSome &&
      !drain.queue.items.isEmpty
  | _ => false

def InFlight (queue : QueueState Item Run) : Phase Item Run → Prop
  | .running _ (.item entry) _ => ∃ rest, queue.items = entry :: rest
  | .running _ (.collect group summary) groups =>
    group ++ groups.flatten <+: queue.items ∧
      ∀ told, summary = some told → told.dropped = queue.dropped
  | .running _ (.overflow _ _ _) _ => False
  | .running _ (.summaryOnly _ told) _ => told.dropped = queue.dropped
  | .shifted _ clears => clears = false
  | _ => True

def Coherent (stored : Bool) (drain : Drain Item Run) : Prop :=
  match stored with
  | true => InFlight drain.queue drain.phase
  | false => drain.phase.isIdle = true ∧ drain.queue.weight = 0

theorem coherent_stable : Registry.Stable (Coherent : Bool → Drain Item Run → Prop) where
  begun := by
    intro drain _ _ _
    trivial
  removed := by
    intro drain _ hidle hweight
    exact ⟨hidle, hweight⟩

theorem InFlight.congr {queue other : QueueState Item Run}
    {phase : Phase Item Run} (hitems : other.items = queue.items)
    (hdropped : other.dropped = queue.dropped)
    (hflight : InFlight queue phase) : InFlight other phase := by
  unfold InFlight at hflight ⊢
  rw [hitems, hdropped]
  exact hflight

theorem InFlight.accept {drain : Drain Item Run} {kept : QueueState Item Run}
    {run : Option Run} (entry : Queued Item)
    (hflight : InFlight drain.queue drain.phase)
    (hsafe : DropsSafely drain)
    (hkept : { drain.queue with
      lastRun := run }.applyQueueDropPolicy = some kept) :
    InFlight { kept with items := kept.items ++ [entry] } drain.phase := by
  obtain ⟨hitems, -, -, -, hdropped, -⟩ := applyQueueDropPolicy_cases hkept
  have hover : { drain.queue with lastRun := run }.overCap =
      drain.queue.overCap := rfl
  rw [hover] at hitems hdropped
  by_cases hroom : drain.queue.overCap = []
  · rw [hroom] at hitems hdropped
    have hsame : kept.dropped = drain.queue.dropped := by
      simpa using hdropped
    have hlist : kept.items = drain.queue.items := by
      simpa using hitems.symm
    cases hphase : drain.phase with
    | running force call groups =>
      rw [hphase] at hflight
      cases call with
      | item next =>
        obtain ⟨rest, hrest⟩ := hflight
        exact ⟨rest ++ [entry], by simp [hlist, hrest]⟩
      | collect group summary =>
        obtain ⟨hstart, htold⟩ := hflight
        refine ⟨?_, fun told hsummary => ?_⟩
        · simp only [hlist]
          exact hstart.trans (List.prefix_append _ _)
        · rw [htold told hsummary]
          exact hsame.symm
      | overflow head run summary => exact hflight
      | summaryOnly run summary => exact hflight.trans hsame.symm
    | shifted force clears =>
      rw [hphase] at hflight
      exact hflight
    | _ => trivial
  · rcases hsafe with hnone | hnew | ⟨hholds, hsummary⟩
    · exact absurd (List.length_eq_zero_iff.mp hnone) hroom
    · exact absurd (applyQueueDropPolicy_new hkept hnew) hroom
    · cases hphase : drain.phase with
      | running force call groups =>
        rw [hphase] at hholds hsummary hflight
        cases call with
        | summaryOnly run summary =>
          have hpolicy : drain.queue.dropPolicy ≠ .summarize := by
            intro hpolicy
            simpa [Phase.holdsSummary, Call.summary] using hsummary hpolicy
          have hsame : kept.dropped = drain.queue.dropped := by
            simpa [hpolicy] using hdropped
          exact hflight.trans hsame.symm
        | _ => simp [Phase.holdsItems] at hholds
      | shifted force clears =>
        rw [hphase] at hflight
        exact hflight
      | _ => trivial

/-! ## Steps -/

def Succeeds : QueueAction Item → Prop
  | .fail _ | .clear => False
  | _ => True

/-- Drops do not meet a call under way, and no overflow summary is delivered in
place of an item. -/
def Undisturbed (loop : DrainLoop Item Run) (registry : Registry Item Run) : QueueAction Item → Prop
  | .enqueue _ settings duplicate _ =>
    (loop.dedupes && duplicate) = true ∨ DropsSafely (registry.getQueue settings).2.1
  | .advance index => (registry.drains.get? index).any replacesItem = false
  | _ => True

instance (action : QueueAction Item) : Decidable (Succeeds action) := by
  unfold Succeeds
  split <;> infer_instance

instance (loop : DrainLoop Item Run) (registry : Registry Item Run)
    (action : QueueAction Item) : Decidable (Undisturbed loop registry action) := by
  unfold Undisturbed
  split <;> infer_instance

structure Conserving (registry : Registry Item Run) : Prop where
  drains : registry.All Coherent
  balanced : registry.accounts.Balanced

theorem conserving_empty : Conserving (empty : Registry Item Run) where
  drains := by
    intro index drain hget
    simp [empty] at hget
  balanced := by
    constructor
    · rfl
    · exact .nil

section Step

variable {registry next : Registry Item Run} {index : ℕ} {drain : Drain Item Run}

theorem Conserving.current (hinv : Conserving registry)
    (hget : registry.drains.get? index = some drain)
    (hbusy : drain.phase.isIdle = false) :
    registry.current = some index ∧ InFlight drain.queue drain.phase := by
  have hdrain := hinv.drains index drain hget
  by_cases hcurrent : registry.current = some index
  · simp only [hcurrent, decide_true] at hdrain
    exact ⟨hcurrent, hdrain⟩
  · simp only [hcurrent, decide_false] at hdrain
    have hidle : drain.phase.isIdle = true := hdrain.1
    rw [hbusy] at hidle
    exact absurd hidle (by simp)

theorem Conserving.schedule (hinv : Conserving registry) : Conserving registry.schedule where
  drains := hinv.drains.schedule coherent_stable
  balanced := by
    rw [accounts_schedule]
    exact hinv.balanced

section Stored

variable {after : Drain Item Run} (hall : registry.All Coherent)
  (hcurrent : registry.current = some index)
  (hget : registry.drains.get? index = some drain)
  (hbalanced : (registry.accountsWith after.queue).Balanced)

include hall hcurrent hget hbalanced

theorem conserving_put (hflight : InFlight after.queue after.phase) :
    Conserving (registry.put index after) where
  drains := by
    apply Registry.All.put hall hget
    simp only [hcurrent, decide_true]
    exact hflight
  balanced := by
    rw [accounts_put hcurrent hget]
    exact hbalanced

theorem conserving_enter (phase : Phase Item Run) (hflight : InFlight after.queue phase) :
    Conserving (registry.enter index after phase) where
  drains :=
    (@conserving_put _ _ _ _ _ (after.enter phase) hall hcurrent hget hbalanced hflight).drains
  balanced :=
    (@conserving_put _ _ _ _ _ (after.enter phase) hall hcurrent hget hbalanced hflight).balanced

theorem conserving_leave : Conserving (registry.leave index after) where
  drains := by
    apply Registry.All.finish coherent_stable hall hget
    · simp only [hcurrent, decide_true]
      trivial
    · exact .inl hcurrent
  balanced := by
    have haccounts : (registry.leave index after).accounts = registry.accountsWith after.queue :=
      accounts_finish hcurrent hget
    rw [haccounts]
    exact hbalanced

theorem conserving_continueLoop (force : Bool) :
    Conserving (registry.continueLoop index force after) where
  drains := by
    apply Registry.All.continueLoop coherent_stable hall hget
    · intro _
      simp only [hcurrent, decide_true]
      trivial
    · intro _
      simp only [hcurrent, decide_true]
      trivial
    · exact .inl hcurrent
  balanced := by
    rw [accounts_continueLoop hcurrent hget]
    exact hbalanced

end Stored

section

variable (hinv : Conserving registry) (hcurrent : registry.current = some index)
  (hget : registry.drains.get? index = some drain)
include hinv hcurrent hget

theorem Conserving.balancedWith : (registry.accountsWith drain.queue).Balanced := by
  rw [← accounts_of_stored (stored_of_get? hcurrent hget)]
  exact hinv.balanced

theorem Conserving.resume (next : Option (Phase Item Run))
    (hflight : ∀ phase, next = some phase → InFlight drain.queue phase) :
    Conserving (registry.resume index drain next) := by
  have hbalanced := hinv.balancedWith hcurrent hget
  cases next with
  | none => exact conserving_leave hinv.drains hcurrent hget hbalanced
  | some phase =>
    exact conserving_enter hinv.drains hcurrent hget hbalanced phase (hflight phase rfl)

end

theorem Collects.inFlight {queue : QueueState Item Run}
    {phase : Phase Item Run} (hcollects : Collects queue phase) :
    InFlight queue phase := by
  cases hcollects with
  | collect force group groups hgroup hitems =>
    refine ⟨?_, fun told htold => ?_⟩
    · rw [hitems]
    · rw [(previewQueueSummaryPrompt_eq_some.mp htold).2.2]
  | summaryOnly force run summary hsummary =>
    rw [(previewQueueSummaryPrompt_eq_some.mp hsummary).2.2]
    rfl

theorem Conserving.advance {loop : DrainLoop Item Run} (hinv : Conserving registry)
    (hguard : Undisturbed loop registry (.advance index))
    (hstep : registry.advance loop index = some next) : Conserving next := by
  simp only [Registry.advance, Option.bind_eq_some_iff] at hstep
  obtain ⟨drain, hget, hstep⟩ := hstep
  cases hphase : drain.phase
  all_goals simp only [hphase, Option.some.injEq, reduceCtorEq] at hstep
  all_goals
    subst hstep
    obtain ⟨hcurrent, hclears⟩ := hinv.current hget (by rw [hphase]; rfl)
  case debouncing force =>
    apply hinv.resume hcurrent hget
    intro phase hlook
    cases loop.debounced_looks force drain.queue phase hlook with
    | skipped _ hmode => trivial
    | empty _ hmode hitems => trivial
    | foundNothing hmode hitems => trivial
    | item _ entry rest hitems => exact ⟨rest, hitems⟩
    | overflow _ head rest run summary hmode hsummary hitems =>
      have hkeeps : (registry.drains.get? index).any replacesItem =
          false := hguard
      simp [hget, replacesItem, hphase, hmode, hsummary, hitems] at hkeeps
  case skipped force =>
    apply hinv.resume hcurrent hget
    intro phase hlook
    exact (loop.skipped_collects force drain.queue phase hlook).inFlight
  case empty force =>
    apply hinv.resume hcurrent hget
    intro phase hlook
    exact (loop.empty_collects force drain.queue phase hlook).inFlight
  case foundNothing =>
    exact conserving_leave hinv.drains hcurrent hget (hinv.balancedWith hcurrent hget)
  case shifted force clears =>
    rw [hphase] at hclears
    obtain rfl : clears = false := hclears
    exact @conserving_continueLoop _ _ _ _ _ drain hinv.drains hcurrent hget
      (hinv.balancedWith hcurrent hget) force

theorem Conserving.complete (hinv : Conserving registry)
    (hstep : registry.complete index = some next) : Conserving next := by
  simp only [Registry.complete, Option.bind_eq_some_iff] at hstep
  obtain ⟨drain, hget, hstep⟩ := hstep
  cases hphase : drain.phase with
  | running force call groups =>
    obtain ⟨hcurrent, hflight⟩ := hinv.current hget (by rw [hphase]; rfl)
    rw [hphase] at hflight
    simp only [hphase, Option.some.injEq] at hstep
    subst hstep
    have hbefore := hinv.balancedWith hcurrent hget
    have hall : (registry.returned call).All Coherent := hinv.drains
    cases call with
    | item entry =>
      obtain ⟨rest, hrest⟩ := hflight
      have htail : rest = drain.queue.items.tail := by
        rw [hrest]
        rfl
      subst htail
      exact @conserving_put _ _ _ _ _ { drain with
          queue := { drain.queue with items := drain.queue.items.tail }
          phase := .shifted force false } hall hcurrent hget
        (@Accounts.Balanced.call _ _ _ hbefore (.item entry) _ _ hrest rfl) rfl
    | overflow head run summary => exact absurd hflight id
    | summaryOnly run summary =>
      have hdropped : drain.queue.dropped =
          (Call.summaryOnly run summary : Call Item Run).summarized ++ [] := by
        rw [List.append_nil]
        exact hflight.symm
      exact @conserving_continueLoop _ _ _ _ _ { drain with
          queue := drain.queue.clearQueueSummaryState } hall hcurrent hget
        (@Accounts.Balanced.call _ _ _ hbefore (.summaryOnly run summary) _ _ rfl hdropped)
        force
    | collect group summary =>
      obtain ⟨⟨rest, hrest⟩, htold⟩ := hflight
      have hdrop : drain.queue.items.drop group.length = groups.flatten ++ rest := by
        rw [← hrest, List.append_assoc, List.drop_left]
      have hitems : drain.queue.items = group ++ drain.queue.items.drop group.length := by
        rw [hdrop, ← List.append_assoc, hrest]
      have hbalanced : (registry.returned
          (.collect group summary)).accountsWith (if summary.isSome then
              ({ drain.queue with
                items := drain.queue.items.drop group.length
              }).clearQueueSummaryState
            else { drain.queue with
                items := drain.queue.items.drop group.length })
          |>.Balanced := by
        cases summary with
        | none =>
          exact @Accounts.Balanced.call _ _ _ hbefore (.collect group none) _
            _ hitems rfl
        | some told =>
          have hdropped : drain.queue.dropped = (Call.collect group (some told) :
                Call Item Run).summarized ++ [] := by
            rw [List.append_nil]
            exact (htold told rfl).symm
          exact @Accounts.Balanced.call _ _ _ hbefore
            (.collect group (some told)) _ _ hitems hdropped
      cases groups with
      | nil =>
        exact conserving_continueLoop hall hcurrent hget hbalanced force
      | cons group' groups =>
        apply conserving_enter hall hcurrent hget hbalanced
        refine ⟨?_, fun told htold => absurd htold (by simp)⟩
        have hflatten : group' ++ groups.flatten <+: drain.queue.items.drop group.length := by
          rw [hdrop, List.flatten_cons]
          exact List.prefix_append _ _
        cases summary with
        | none => exact hflatten
        | some told => exact hflatten
  | _ => simp [hphase] at hstep

theorem Conserving.getQueue (hinv : Conserving registry)
    {settings : QueueSettings} {found : Registry Item Run}
    (hfound : registry.getQueue settings = (index, drain, found)) :
    Conserving found where
  drains := by
    apply Registry.All.getQueue hinv.drains hfound
    · intro old hold
      exact InFlight.congr rfl rfl hold
    · trivial
  balanced := by
    have hsame : found.accounts = registry.accounts := by
      rcases getQueue_cases registry settings hfound with
        ⟨old, hcurrent, hget, rfl, rfl⟩ | ⟨hnone, rfl, rfl, rfl⟩
      · rw [accounts_put hcurrent hget, accounts_of_stored (stored_of_get? hcurrent hget)]
        rfl
      · have hbefore : registry.stored = none := by
          rw [stored, Option.bind_eq_none_iff]
          intro other hother
          by_contra hget
          obtain ⟨old, hold⟩ := Option.ne_none_iff_exists'.mp hget
          exact hnone other old hold hother
        have hafter := accounts_of_stored (@stored_of_get? _
          _ { registry with
            drains := registry.drains.push ⟨createQueue settings, .idle, 0, false⟩
            current := some registry.drains.size } _ _ rfl
          (Arena.get?_push_size _))
        rw [hafter]
        simp [accountsWith, accounts, hbefore, createQueue]
    rw [hsame]
    exact hinv.balanced

theorem Conserving.accept (loop : DrainLoop Item Run)
    (hinv : Conserving registry) (hcurrent : registry.current = some index)
    (hget : registry.drains.get? index = some drain)
    (hsafe : DropsSafely drain) (item : Item) (restart : Bool) :
    Conserving (registry.accept loop index drain item restart) where
  drains := by
    have hflight : InFlight drain.queue drain.phase := by
      have hdrain := hinv.drains index drain hget
      simp only [hcurrent, decide_true] at hdrain
      exact hdrain
    apply Registry.All.accept loop coherent_stable hinv.drains hcurrent hget
    · exact InFlight.congr rfl rfl hflight
    · intro kept entry hkept
      exact @InFlight.accept _ _ drain _ _ entry hflight hsafe hkept
  balanced := by
    have hbefore := hinv.balancedWith hcurrent hget
    unfold Registry.accept
    simp only
    split
    next =>
        rw [Registry.accounts_kick, Registry.accounts_put hcurrent hget]
        exact hbefore
    next kept hpolicy =>
        obtain ⟨hitems, -, -, -, hdropped, -⟩ := QueueState.applyQueueDropPolicy_cases hpolicy
        have hgone : drain.queue.overCap.Perm
            ((if drain.queue.dropPolicy = .summarize then drain.queue.overCap
                else []) ++
              (if drain.queue.dropPolicy = .summarize then []
                else drain.queue.overCap)) := by
          split_ifs
          · rw [List.append_nil]
          · rw [List.nil_append]
        have hafter := hbefore.accept item hitems hgone rfl
        rw [Registry.accounts_kick, Registry.accounts_file hcurrent hget, hdropped]
        exact hafter

theorem Conserving.enqueue (loop : DrainLoop Item Run)
    (hinv : Conserving registry) (item : Item) (settings : QueueSettings)
    (duplicate restart : Bool)
    (hguard : Undisturbed loop registry (.enqueue item settings duplicate restart)) :
    Conserving (registry.enqueue loop item settings duplicate restart) := by
  have hguard : (loop.dedupes && duplicate) = true ∨
      DropsSafely (registry.getQueue settings).2.1 := hguard
  unfold Registry.enqueue
  rcases hfound : registry.getQueue settings with ⟨index, drain, found⟩
  rw [hfound] at hguard
  obtain ⟨hcurrent, hget⟩ := Registry.getQueue_stored hfound
  have hkept : Conserving found := hinv.getQueue hfound
  split_ifs with hduplicate
  · exact hkept
  · have hsafe : DropsSafely drain := by
      rcases hguard with hskip | hsafe
      · exact absurd hskip hduplicate
      · exact hsafe
    exact hkept.accept loop hcurrent hget hsafe item restart

theorem Conserving.step {loop : DrainLoop Item Run}
    {action : QueueAction Item} (hinv : Conserving registry)
    (hguard : Succeeds action ∧ Undisturbed loop registry action)
    (hstep : registry.step loop action = some next) : Conserving next := by
  obtain ⟨hsucceeds, hguard⟩ := hguard
  cases action with
  | enqueue item settings duplicate restart =>
    cases hstep
    exact hinv.enqueue loop item settings duplicate restart hguard
  | schedule =>
    cases hstep
    exact hinv.schedule
  | advance index => exact hinv.advance hguard hstep
  | complete index => exact hinv.complete hstep
  | fail index | clear =>
    exact absurd hsucceeds id

end Step

theorem conserving_run {loop : DrainLoop Item Run}
    {actions : List (QueueAction Item)} {registry : Registry Item Run}
    (hguarded : Guarded (step loop)
      (fun registry action => Succeeds action ∧ Undisturbed loop registry action)
      .empty actions)
    (hrun : run (step loop) .empty actions = some registry) :
    Conserving registry :=
  run_guarded_invariant Conserving Conserving.step conserving_empty hguarded hrun

end LittleBaby.Queues
