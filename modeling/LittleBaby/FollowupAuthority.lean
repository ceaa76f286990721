import LittleBaby.QueueInvariants
import LittleBaby.ReplyQueues

/-!
# Whose text a follow-up run is given

Items are grouped by their senders, but the summary of dropped runs goes to
whatever run comes next, and the items may change between the look at their
channels and the snapshot that is collected.
-/

namespace LittleBaby.Queues

open LabelledMachine JsString Registry Registry.All Queues.Call

def Call.sources (call : Call FollowupRun RunContext) : List (Queued FollowupRun) :=
  call.executed ++ (call.summary.map QueueSummary.lines).getD []

section Routing

variable (isRoutableChannel : JsString → Bool)

def routingKey (entry : Queued FollowupRun) : CrossChannelKey :=
  resolveCrossChannelKey isRoutableChannel entry.item.toOriginRouting

def authorizationKey (entry : Queued FollowupRun) : FollowupAuthorizationKey :=
  resolveFollowupAuthorizationKey entry.item.run

/-- All text of the prompt is of the sender that it is executed for. -/
def KeepsAuthority (call : Call FollowupRun RunContext) : Prop :=
  ∀ run, followupRun call = some run → ∀ source ∈ call.sources,
    authorizationKey source = resolveFollowupAuthorizationKey run

/-- All text of a prompt that is made in collect mode is of one routing key, to
which the answer goes; a lone source may have any. -/
def KeepsTarget : Call FollowupRun RunContext → Prop
  | .overflow _ _ _ => True
  | call => ∀ source ∈ call.sources, routingKey isRoutableChannel source =
          resolveCrossChannelKey isRoutableChannel (followupRouting call) ∧
        ((routingKey isRoutableChannel source).cross = true → call.sources.length ≤ 1)

structure Separate (call : Call FollowupRun RunContext) : Prop where
  authority : KeepsAuthority call
  target : KeepsTarget isRoutableChannel call

def toldLines (queue : QueueState FollowupRun RunContext) : List (Queued FollowupRun) :=
  (queue.previewQueueSummaryPrompt.map QueueSummary.lines).getD []

def sameSender (run : RunContext) (lines : List (Queued FollowupRun)) : Bool :=
  lines.all fun line =>
    decide (authorizationKey line = resolveFollowupAuthorizationKey run)

/-- The items of a group and the lines told with them have the routing key of
the first item, which has every field of that key that another one has. -/
def routesTogether (group lines : List (Queued FollowupRun)) : Bool :=
  group.head?.all fun head =>
    ((group ++ lines).all fun source =>
      decide (routingKey isRoutableChannel source = routingKey isRoutableChannel head) &&
        (!(routingKey isRoutableChannel source).cross || decide ((group ++ lines).length ≤ 1))) &&
    group.all fun source =>
      ((orElse source.item.originatingAccountId none).isNone ||
        (orElse head.item.originatingAccountId none).isSome) &&
      ((presentThread source.item.originatingThreadId).isNone ||
        (presentThread head.item.originatingThreadId).isSome)

def tellsAlone (queue : QueueState FollowupRun RunContext) : Bool :=
  queue.lastRun.all fun run =>
    sameSender run (toldLines queue) && (toldLines queue).all fun line =>
        decide (routingKey isRoutableChannel line = ⟨false, none⟩)

def deliversSeparately (drain : Drain FollowupRun RunContext) : Bool :=
  match drain.phase with
  | .debouncing _ =>
    decide (drain.queue.mode = .collect) || drain.queue.items.isEmpty ||
      drain.queue.lastRun.all fun run => sameSender run (toldLines drain.queue)
  | .skipped _ =>
    match splitCollectItemsByAuthorization drain.queue.items with
    | [] => tellsAlone isRoutableChannel drain.queue
    | group :: groups =>
      (group.head?.all fun head =>
        sameSender head.item.run (toldLines drain.queue)) &&
      routesTogether isRoutableChannel group (toldLines drain.queue) &&
      groups.all fun group => routesTogether isRoutableChannel group []
  | .empty _ => tellsAlone isRoutableChannel drain.queue
  | _ => true

def DeliversSeparately (registry : Registry FollowupRun RunContext) : QueueAction FollowupRun → Prop
  | .advance index => (registry.drains.get? index).all (deliversSeparately isRoutableChannel) = true
  | _ => True

instance (registry : Registry FollowupRun RunContext) (action : QueueAction FollowupRun) :
    Decidable (DeliversSeparately isRoutableChannel registry action) := by
  unfold DeliversSeparately
  split <;> infer_instance

theorem resolveCrossChannelKey_congr {left right : OriginRouting}
    (hchannel : orElse left.originatingChannel none = orElse right.originatingChannel none)
    (hto : orElse left.originatingTo none = orElse right.originatingTo none)
    (haccount : orElse left.originatingAccountId none = orElse right.originatingAccountId none)
    (hthread : presentThread left.originatingThreadId = presentThread right.originatingThreadId) :
    resolveCrossChannelKey isRoutableChannel left =
      resolveCrossChannelKey isRoutableChannel right := by
  simp only [resolveCrossChannelKey, hchannel, hto, haccount, hthread]

variable {isRoutableChannel}

theorem resolveCrossChannelKey_eq_none {routing : OriginRouting} :
    resolveCrossChannelKey isRoutableChannel routing = ⟨false, none⟩ ↔
      orElse routing.originatingChannel none = none ∧ orElse routing.originatingTo none = none ∧
        orElse routing.originatingAccountId none = none ∧
        presentThread routing.originatingThreadId = none := by
  unfold resolveCrossChannelKey
  cases orElse routing.originatingChannel none <;> cases orElse routing.originatingTo none <;> simp
  all_goals split_ifs <;> simp

theorem present_of_key {routing : OriginRouting}
    (hcross : (resolveCrossChannelKey isRoutableChannel routing).cross = false)
    (hkey : resolveCrossChannelKey isRoutableChannel routing ≠ ⟨false, none⟩) :
    (orElse routing.originatingChannel none).isSome = true ∧
      (orElse routing.originatingTo none).isSome = true := by
  unfold resolveCrossChannelKey at hcross hkey
  cases hchannel : orElse routing.originatingChannel none with
  | none =>
    simp only [hchannel] at hcross hkey
    split_ifs at hcross hkey
    exact absurd rfl hkey
  | some channel =>
    cases hto : orElse routing.originatingTo none with
    | none =>
      simp only [hchannel, hto] at hcross hkey
      split_ifs at hcross hkey
      exact absurd rfl hkey
    | some target => exact ⟨rfl, rfl⟩

theorem orElse_orElse (text : Option JsString) :
    orElse (orElse text none) none = orElse text none := by
  rcases text with _ | _ | _ <;> rfl

theorem presentThread_presentThread (threadId : Option ThreadId) :
    presentThread (presentThread threadId) = presentThread threadId := by
  rcases threadId with _ | _ | (_ | _) <;> rfl

variable {head : Queued FollowupRun}

theorem findSome?_head {Value : Type*} {rest : List (Queued FollowupRun)}
    {field : Queued FollowupRun → Option Value}
    (hfield : ∀ entry ∈ head :: rest, (field entry).isSome = true → (field head).isSome = true) :
    (head :: rest).findSome? field = field head := by
  cases hhead : field head with
  | some value => simp [hhead]
  | none =>
    rw [List.findSome?_eq_none_iff]
    intro entry hentry
    by_contra hsome
    have hpresent := hfield entry hentry (Option.isSome_iff_ne_none.mpr hsome)
    simp [hhead] at hpresent

theorem routing_of_routesTogether {rest lines : List (Queued FollowupRun)}
    (htogether : routesTogether isRoutableChannel (head :: rest) lines = true) :
    resolveCrossChannelKey isRoutableChannel (resolveOriginRoutingMetadata (head :: rest)) =
      routingKey isRoutableChannel head := by
  simp only [routesTogether, List.head?_cons, Option.all_some,
    Bool.and_eq_true, List.all_eq_true, decide_eq_true_eq, Bool.or_eq_true,
    Bool.not_eq_true', Option.isNone_iff_eq_none] at htogether
  obtain ⟨hkeys, hfields⟩ := htogether
  have hsources : ∀ entry ∈ head :: rest,
      routingKey isRoutableChannel entry = routingKey isRoutableChannel head ∧
        ((routingKey isRoutableChannel entry).cross = false ∨
          (head :: rest ++ lines).length ≤ 1) := by
    intro entry hentry
    exact hkeys entry (List.mem_append_left lines hentry)
  have hsome : ∀ entry ∈ head :: rest, ((orElse entry.item.originatingChannel none).isSome = true →
          (orElse head.item.originatingChannel none).isSome = true) ∧
        ((orElse entry.item.originatingTo none).isSome = true →
          (orElse head.item.originatingTo none).isSome = true) := by
    intro entry hentry
    obtain ⟨hsame, hlone⟩ := hsources entry hentry
    rcases hlone with hcross | hlone
    · by_cases hkey : routingKey isRoutableChannel entry = ⟨false, none⟩
      · obtain ⟨hchannel, hto, -⟩ := resolveCrossChannelKey_eq_none.mp hkey
        simp [hchannel, hto]
      · rw [hsame] at hcross hkey
        obtain ⟨hchannel, hto⟩ := present_of_key hcross hkey
        exact ⟨fun _ => hchannel, fun _ => hto⟩
    · have hrest : rest = [] := by
        simp only [List.cons_append, List.length_cons, List.length_append] at hlone
        exact List.length_eq_zero_iff.mp (by omega)
      subst hrest
      obtain rfl := List.mem_singleton.mp hentry
      exact ⟨id, id⟩
  have hsomeFields : ∀ entry ∈ head :: rest,
      ((orElse entry.item.originatingAccountId none).isSome = true →
          (orElse head.item.originatingAccountId none).isSome = true) ∧
        ((presentThread entry.item.originatingThreadId).isSome = true →
          (presentThread head.item.originatingThreadId).isSome = true) := by
    intro entry hentry
    obtain ⟨haccount, hthread⟩ := hfields entry hentry
    constructor
    · intro hpresent
      rcases haccount with hnone | hsome
      · simp [hnone] at hpresent
      · exact hsome
    · intro hpresent
      rcases hthread with hnone | hsome
      · simp [hnone] at hpresent
      · exact hsome
  apply resolveCrossChannelKey_congr
  · rw [resolveOriginRoutingMetadata, findSome?_head fun entry hentry => (hsome entry hentry).1]
    exact orElse_orElse _
  · rw [resolveOriginRoutingMetadata, findSome?_head fun entry hentry => (hsome entry hentry).2]
    exact orElse_orElse _
  · rw [resolveOriginRoutingMetadata,
      findSome?_head fun entry hentry => (hsomeFields entry hentry).1]
    exact orElse_orElse _
  · rw [resolveOriginRoutingMetadata,
      findSome?_head fun entry hentry => (hsomeFields entry hentry).2]
    exact presentThread_presentThread _

variable {group : List (Queued FollowupRun)}

theorem keepsTarget_collect {summary : Option (QueueSummary FollowupRun)} (hgroup : group ≠ [])
    (htogether : routesTogether isRoutableChannel group
      ((summary.map QueueSummary.lines).getD []) = true) :
    KeepsTarget isRoutableChannel (.collect group summary) := by
  cases group with
  | nil => exact absurd rfl hgroup
  | cons head rest =>
    have hrouting := routing_of_routesTogether htogether
    simp only [routesTogether, List.head?_cons, Option.all_some,
      Bool.and_eq_true, List.all_eq_true, decide_eq_true_eq, Bool.or_eq_true,
      Bool.not_eq_true'] at htogether
    intro source hsource
    obtain ⟨hsame, hlone⟩ := htogether.1 source hsource
    constructor
    · exact hsame.trans hrouting.symm
    · intro hcross
      rcases hlone with hfalse | hlone
      · rw [hcross] at hfalse
        exact absurd hfalse (by simp)
      · exact hlone

theorem authorizationKey_of_mem_split {items : List (Queued FollowupRun)}
    (hgroup : group ∈ splitCollectItemsByAuthorization items)
    {left right : Queued FollowupRun} (hleft : left ∈ group)
    (hright : right ∈ group) : authorizationKey left = authorizationKey right := by
  have hchain : group.IsChain fun left right =>
      authorizationKey left = authorizationKey right := by
    have hsplit := List.isChain_of_mem_splitBy hgroup
    simpa [authorizationKey] using hsplit
  have : Trans (fun left right : Queued FollowupRun =>
      authorizationKey left = authorizationKey right)
      (fun left right => authorizationKey left = authorizationKey right)
      (fun left right => authorizationKey left = authorizationKey right) :=
    ⟨fun hfirst hsecond => hfirst.trans hsecond⟩
  have : Std.Symm fun left right : Queued FollowupRun =>
      authorizationKey left = authorizationKey right :=
    ⟨fun _ _ hsame => hsame.symm⟩
  have hpairs := hchain.pairwise
  exact List.Pairwise.forall_of_forall (R := fun left right =>
    authorizationKey left = authorizationKey right) (fun _ _ => rfl) hpairs
    hleft hright

theorem keepsAuthority_collect {items : List (Queued FollowupRun)}
    {summary : Option (QueueSummary FollowupRun)}
    (hgroup : group ∈ splitCollectItemsByAuthorization items)
    (hlines : group.head?.all (fun head => sameSender head.item.run
      ((summary.map QueueSummary.lines).getD [])) = true) :
    KeepsAuthority (.collect group summary) := by
  intro run hrun source hsource
  obtain ⟨last, hlast, rfl⟩ := Option.map_eq_some_iff.mp hrun
  have hmemLast : last ∈ group := List.mem_of_getLast? hlast
  rcases List.mem_append.mp hsource with hitem | hline
  · exact authorizationKey_of_mem_split hgroup hitem hmemLast
  · cases group with
    | nil => exact absurd hmemLast (by simp)
    | cons head rest =>
      simp only [List.head?_cons, Option.all_some, sameSender,
        List.all_eq_true, decide_eq_true_eq] at hlines
      have hhead : authorizationKey head = authorizationKey last :=
        authorizationKey_of_mem_split hgroup List.mem_cons_self hmemLast
      exact (hlines source hline).trans hhead

def GroupsSeparate (isRoutableChannel : JsString → Bool) (_ : Bool)
    (drain : Drain FollowupRun RunContext) : Prop :=
  ∀ force call groups, drain.phase = .running force call groups →
    ∀ group ∈ groups, Separate isRoutableChannel (.collect group none)

structure Separating (isRoutableChannel : JsString → Bool)
    (registry : Registry FollowupRun RunContext) : Prop where
  drains : registry.All (GroupsSeparate isRoutableChannel)
  started : ∀ call ∈ registry.started, Separate isRoutableChannel call

theorem groupsSeparate_of_not_running {stored : Bool} {drain : Drain FollowupRun RunContext}
    (hphase : ∀ force call groups, drain.phase ≠ .running force call groups) :
    GroupsSeparate isRoutableChannel stored drain := by
  intro force call groups hrunning
  exact absurd hrunning (hphase force call groups)

theorem groupsSeparate_stable : Registry.Stable (GroupsSeparate isRoutableChannel) where
  begun := by
    intro drain _ _ _
    apply groupsSeparate_of_not_running
    simp [Drain.nextPass]
  removed := fun drain hdrain _ _ => hdrain

section Step

variable {registry next : Registry FollowupRun RunContext} {index : ℕ}
  {old drain : Drain FollowupRun RunContext}

section

variable (hinv : Separating isRoutableChannel registry)

include hinv

theorem Separating.schedule : Separating isRoutableChannel registry.schedule where
  drains := hinv.drains.schedule groupsSeparate_stable
  started := by
    rw [schedule_logs.1]
    exact hinv.started

section

variable (hget : registry.drains.get? index = some old)
include hget

theorem Separating.leave : Separating isRoutableChannel (registry.leave index drain) where
  drains := by
    apply finish groupsSeparate_stable hinv.drains hget
    · apply groupsSeparate_of_not_running
      simp [Drain.stop]
    · exact .inr fun found hfound => hfound
  started := by
    have hsame : (registry.leave index drain).started = registry.started := finish_logs.1
    rw [hsame]
    exact hinv.started

theorem Separating.continueLoop (force : Bool) :
    Separating isRoutableChannel (registry.continueLoop index force drain) where
  drains := by
    apply Registry.All.continueLoop groupsSeparate_stable hinv.drains hget
    · intro _
      apply groupsSeparate_of_not_running
      simp [Drain.stop]
    · intro _
      apply groupsSeparate_of_not_running
      simp [Drain.nextPass]
    · exact Or.inr fun found hfound => hfound
  started := by
    have hsame : (registry.continueLoop index force drain).started = registry.started := by
      unfold Registry.continueLoop Registry.endPass
      split_ifs
      · exact finish_logs.1
      · rfl
    rw [hsame]
    exact hinv.started

theorem Separating.enter {phase : Phase FollowupRun RunContext}
    (hphase : ∀ force call groups, phase = .running force call groups →
      Separate isRoutableChannel call ∧
        ∀ group ∈ groups, Separate isRoutableChannel (.collect group none)) :
    Separating isRoutableChannel (registry.enter index drain phase) where
  drains := by
    apply put hinv.drains hget
    intro force call groups hrunning
    exact (hphase force call groups hrunning).2
  started := by
    intro call hcall
    rcases List.mem_append.mp hcall with hbefore | hnew
    · exact hinv.started call hbefore
    · cases phase with
      | running force entered groups =>
        obtain rfl : call = entered := by
          simpa [Phase.call?] using hnew
        exact (hphase force call groups rfl).1
      | _ => simp [Phase.call?] at hnew

theorem Separating.resume {found : Option (Phase FollowupRun RunContext)}
    (hphase : ∀ phase, found = some phase → ∀ force call groups, phase = .running force call groups →
      Separate isRoutableChannel call ∧
        ∀ group ∈ groups, Separate isRoutableChannel (.collect group none)) :
    Separating isRoutableChannel (registry.resume index drain found) := by
  cases found with
  | none => exact hinv.leave hget
  | some phase => exact hinv.enter hget (hphase phase rfl)

end

end

theorem separate_item (entry : Queued FollowupRun) : Separate isRoutableChannel (.item entry) where
  authority := by
    intro run hrun source hsource
    obtain rfl : source = entry := by
      simpa [sources, executed, summary] using hsource
    cases hrun
    rfl
  target := by
    intro source hsource
    obtain rfl : source = entry := by
      simpa [sources, executed, summary] using hsource
    exact ⟨rfl, fun _ => by simp [sources, executed, summary]⟩

theorem separate_overflow {run : RunContext} {summary : QueueSummary FollowupRun}
    (hlines : sameSender run summary.lines = true) :
    Separate isRoutableChannel (.overflow head run summary) where
  authority := by
    intro executed hrun source hsource
    cases hrun
    simp only [sameSender, List.all_eq_true, decide_eq_true_eq] at hlines
    exact hlines source (by
      simpa [Call.sources, Call.executed, Call.summary] using hsource)
  target := trivial

theorem separate_summaryOnly {run : RunContext} {summary : QueueSummary FollowupRun}
    (hlines : sameSender run summary.lines = true)
    (hrouting : ∀ line ∈ summary.lines, routingKey isRoutableChannel line = ⟨false, none⟩) :
    Separate isRoutableChannel (.summaryOnly run summary) where
  authority := by
    intro executed hrun source hsource
    cases hrun
    simp only [sameSender, List.all_eq_true, decide_eq_true_eq] at hlines
    exact hlines source (by
      simpa [Call.sources, Call.executed, Call.summary] using hsource)
  target := by
    intro source hsource
    have hkey := hrouting source (by
      simpa [Call.sources, Call.executed, Call.summary] using hsource)
    rw [hkey]
    exact ⟨rfl, fun hcross => absurd hcross (by simp)⟩

variable {phase : Phase FollowupRun RunContext} {force taken : Bool}
  {call : Call FollowupRun RunContext}
  {groups : List (List (Queued FollowupRun))}

theorem separate_debounced (hphase : drain.phase = .debouncing force)
    (hguard : deliversSeparately isRoutableChannel drain = true)
    (hlook : followupDebounced isRoutableChannel force drain.queue = some phase)
    (hrunning : phase = .running taken call groups) :
    Separate isRoutableChannel call ∧ groups = [] := by
  subst hrunning
  simp only [deliversSeparately, hphase, Bool.or_eq_true, decide_eq_true_eq] at hguard
  unfold followupDebounced at hlook
  by_cases hmode : drain.queue.mode = .collect
  · simp [hmode, drainCollectQueueStep, drainNextQueueItem] at hlook
    split_ifs at hlook
    split at hlook
    · simp at hlook
    · simp only [Phase.running.injEq] at hlook
      obtain ⟨-, rfl, rfl⟩ := hlook
      exact ⟨separate_item _, rfl⟩
  · rw [if_neg hmode] at hlook
    cases hsummary : drain.queue.previewQueueSummaryPrompt with
    | none =>
      simp [hsummary, drainNextQueueItem] at hlook
      split at hlook
      · simp at hlook
      · simp only [Phase.running.injEq] at hlook
        obtain ⟨-, rfl, rfl⟩ := hlook
        exact ⟨separate_item _, rfl⟩
    | some summary =>
      simp [hsummary, drainNextQueueItem] at hlook
      obtain ⟨run, hrun, hlook⟩ := hlook
      split at hlook
      · simp at hlook
      · next hitems =>
          obtain ⟨-, rfl, rfl⟩ := hlook
          have hlines : sameSender run summary.lines = true := by
            simpa [hmode, hitems, hrun, toldLines, hsummary] using hguard
          exact ⟨separate_overflow hlines, rfl⟩

theorem separate_alone (hguard : tellsAlone isRoutableChannel drain.queue = true)
    (hlook : followupSummaryOnly force drain.queue = some phase)
    (hrunning : phase = .running taken call groups) :
    Separate isRoutableChannel call ∧ groups = [] := by
  subst hrunning
  simp only [followupSummaryOnly, Option.bind_eq_some_iff,
    Option.map_eq_some_iff, Phase.running.injEq] at hlook
  obtain ⟨summary, hsummary, run, hrun, -, rfl, rfl⟩ := hlook
  simp [tellsAlone, hrun, toldLines, hsummary] at hguard
  exact ⟨separate_summaryOnly hguard.1 hguard.2, rfl⟩

theorem separate_skipped (hphase : drain.phase = .skipped force)
    (hguard : deliversSeparately isRoutableChannel drain = true)
    (hlook : followupSkipped force drain.queue = some phase)
    (hrunning : phase = .running taken call groups) :
    Separate isRoutableChannel call ∧
      ∀ group ∈ groups, Separate isRoutableChannel (.collect group none) := by
  simp only [deliversSeparately, hphase] at hguard
  unfold followupSkipped at hlook
  split at hlook
  next hsplit =>
      simp only [hsplit] at hguard
      obtain ⟨hseparate, rfl⟩ := separate_alone hguard hlook hrunning
      exact ⟨hseparate, fun group hgroup => absurd hgroup (by simp)⟩
  next group groups hsplit =>
      subst hrunning
      obtain ⟨-, rfl, rfl⟩ := hlook
      simp only [hsplit, Bool.and_eq_true, List.all_eq_true] at hguard
      obtain ⟨⟨hsender, htogether⟩, hgroups⟩ := hguard
      have hmem : ∀ other ∈ group :: groups,
          other ∈ splitCollectItemsByAuthorization drain.queue.items := by
        rw [hsplit]
        exact fun _ hother => hother
      refine ⟨⟨keepsAuthority_collect (hmem group List.mem_cons_self) hsender,
        keepsTarget_collect (List.ne_nil_of_mem_splitBy
          (hmem group List.mem_cons_self)) htogether⟩, ?_⟩
      intro other hother
      have hin := hmem other (List.mem_cons_of_mem _ hother)
      constructor
      · apply keepsAuthority_collect hin
        cases other <;> rfl
      · exact keepsTarget_collect (List.ne_nil_of_mem_splitBy hin) (hgroups other hother)

section

variable (hinv : Separating isRoutableChannel registry)
include hinv

theorem Separating.advance (hguard : DeliversSeparately isRoutableChannel registry (.advance index))
    (hstep : registry.advance (followupDrain isRoutableChannel) index =
      some next) : Separating isRoutableChannel next := by
  simp only [Registry.advance, Option.bind_eq_some_iff] at hstep
  obtain ⟨drain, hget, hstep⟩ := hstep
  have hdelivers : deliversSeparately isRoutableChannel drain = true := by
    have hguard : (registry.drains.get? index).all
        (deliversSeparately isRoutableChannel) = true := hguard
    simpa [hget] using hguard
  cases hphase : drain.phase
  all_goals simp only [hphase, Option.some.injEq, reduceCtorEq] at hstep
  all_goals subst hstep
  case debouncing force =>
    apply hinv.resume hget
    intro phase hlook taken call groups hrunning
    obtain ⟨hcall, rfl⟩ := separate_debounced hphase hdelivers hlook hrunning
    exact ⟨hcall, fun group hgroup => absurd hgroup (by simp)⟩
  case skipped force =>
    apply hinv.resume hget
    intro phase hlook taken call groups hrunning
    exact separate_skipped hphase hdelivers hlook hrunning
  case empty force =>
    simp only [deliversSeparately, hphase] at hdelivers
    apply hinv.resume hget
    intro phase hlook taken call groups hrunning
    obtain ⟨hcall, rfl⟩ := separate_alone hdelivers hlook hrunning
    exact ⟨hcall, fun group hgroup => absurd hgroup (by simp)⟩
  case foundNothing => exact hinv.leave hget
  case shifted force clears => exact hinv.continueLoop hget force

theorem Separating.complete (hstep : registry.complete index = some next) :
    Separating isRoutableChannel next := by
  simp only [Registry.complete, Option.bind_eq_some_iff] at hstep
  obtain ⟨drain, hget, hstep⟩ := hstep
  cases hphase : drain.phase with
  | running force call groups =>
    simp only [hphase, Option.some.injEq] at hstep
    subst hstep
    have hreturned : Separating isRoutableChannel (registry.returned call) :=
      ⟨hinv.drains, hinv.started⟩
    have hshift : ∀ clears, Separating isRoutableChannel
        ((registry.returned call).put index { drain with
            queue := { drain.queue with items := drain.queue.items.tail }
            phase := .shifted force clears }) := by
      intro clears
      refine ⟨hreturned.drains.put hget ?_, hreturned.started⟩
      apply groupsSeparate_of_not_running
      simp
    cases call with
    | item entry => exact hshift false
    | overflow head run summary => exact hshift true
    | summaryOnly run summary => exact hreturned.continueLoop hget force
    | collect group summary =>
      cases groups with
      | nil => exact hreturned.continueLoop hget force
      | cons group' groups =>
        have hwaiting := hinv.drains index drain hget force _ _ hphase
        apply hreturned.enter hget
        intro taken call rest hrunning
        obtain ⟨-, rfl, rfl⟩ := hrunning
        exact ⟨hwaiting group' List.mem_cons_self, fun other hother =>
          hwaiting other (List.mem_cons_of_mem _ hother)⟩
  | _ => simp [hphase] at hstep

theorem Separating.fail (hstep : registry.fail index = some next) :
    Separating isRoutableChannel next := by
  simp only [Registry.fail, Option.bind_eq_some_iff] at hstep
  obtain ⟨drain, hget, hstep⟩ := hstep
  cases hphase : drain.phase with
  | running force call groups =>
    simp only [hphase, Option.some.injEq] at hstep
    subst hstep
    exact hinv.leave hget
  | _ => simp [hphase] at hstep

theorem Separating.clear (hstep : registry.clear = some next) :
    Separating isRoutableChannel next where
  drains := by
    apply Registry.All.clear hinv.drains _ hstep
    exact fun drain hdrain => hdrain
  started := by
    rw [(clear_logs hstep).1]
    exact hinv.started

end

theorem Separating.enqueue (loop : DrainLoop FollowupRun RunContext)
    (hinv : Separating isRoutableChannel registry) (item : FollowupRun)
    (settings : QueueSettings) (duplicate restart : Bool) :
    Separating isRoutableChannel (registry.enqueue loop item settings duplicate restart) where
  drains := by
    unfold Registry.enqueue
    rcases hfound : registry.getQueue settings with ⟨index, drain, found⟩
    obtain ⟨hcurrent, hget⟩ := Registry.getQueue_stored hfound
    have hall : found.All (GroupsSeparate isRoutableChannel) := by
      apply Registry.All.getQueue hinv.drains hfound
      · exact fun old hold => hold
      · apply groupsSeparate_of_not_running
        simp
    have hdrain : GroupsSeparate isRoutableChannel true drain := hall index drain hget
    simp only
    split_ifs with hduplicate
    · exact hall
    · exact Registry.All.accept loop groupsSeparate_stable hall hcurrent hget item restart hdrain
        fun _ _ _ => hdrain
  started := by
    rw [(enqueue_logs loop item duplicate restart).1]
    exact hinv.started

theorem Separating.step {action : QueueAction FollowupRun}
    (hinv : Separating isRoutableChannel registry)
    (hguard : DeliversSeparately isRoutableChannel registry action)
    (hstep : registry.step (followupDrain isRoutableChannel) action =
      some next) : Separating isRoutableChannel next := by
  cases action with
  | enqueue item settings duplicate restart =>
    cases hstep
    exact hinv.enqueue _ item settings duplicate restart
  | schedule =>
    cases hstep
    exact hinv.schedule
  | advance index => exact hinv.advance hguard hstep
  | complete index => exact hinv.complete hstep
  | fail index => exact hinv.fail hstep
  | clear => exact hinv.clear hstep

end Step

theorem separating_empty : Separating isRoutableChannel .empty where
  drains := by
    intro index drain hget
    simp [empty] at hget
  started := by
    intro call hcall
    simp [empty] at hcall

def runOf (sender prompt : JsString) : FollowupRun :=
  { plainRun prompt with
    originatingChannel := some [7]
    originatingTo := some [8]
    run := ⟨some sender, none, none, none, none, none, none⟩ }

end Routing

end LittleBaby.Queues
