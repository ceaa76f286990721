import LittleBaby.ChatReplyText

/-!
# Merging of streamed assistant text

A run streams the text of its messages in events that carry the message so far
and the part that is new.
-/

namespace LittleBaby.Chat

open JsString Routing

def appendOverlapping (base suffix : JsString) : ℕ → JsString
  | 0 => base ++ suffix
  | overlap + 1 =>
    if base.rtake (overlap + 1) = suffix.take (overlap + 1) then
      base ++ suffix.drop (overlap + 1)
    else appendOverlapping base suffix overlap

def appendUniqueSuffix (base suffix : JsString) : JsString :=
  if suffix = [] then base
  else if base = [] then suffix
  else if suffix <:+ base then base
  else appendOverlapping base suffix (min base.length suffix.length)

def resolveMergedAssistantText (previousText nextText nextDelta : JsString) : JsString :=
  if nextText ≠ [] ∧ previousText ≠ [] ∧ previousText <+: nextText then nextText
  else if nextText ≠ [] ∧ previousText ≠ [] ∧ nextText <+: previousText ∧ nextDelta = [] then
    previousText
  else if nextDelta ≠ [] then appendUniqueSuffix previousText nextDelta
  else if nextText ≠ [] then nextText
  else previousText

structure ChatRunState where
  rawBuffer : JsString := []
  buffer : JsString := []
  deltaSentAt : ℕ := 0
  deltaLastBroadcastLen : ℕ := 0

structure ChatRun where
  unicode : Unicode
  shouldHideHeartbeatChatOutput : Bool
  normalizeHeartbeatChatFinalText : JsString → Bool × JsString

variable (run : ChatRun)

def emitChatDelta (now : ℕ) (text : JsString) (delta : Option JsString)
    (state : ChatRunState) : ChatRunState × Option JsString :=
  let cleanedText := stripInlineDirectiveTagsForDisplay text
  let cleanedDelta := (delta.map stripInlineDirectiveTagsForDisplay).getD []
  let mergedRawText := resolveMergedAssistantText state.rawBuffer cleanedText cleanedDelta
  if mergedRawText = [] then (state, none)
  else
    let state := { state with rawBuffer := mergedRawText }
    if isSuppressedControlReplyText mergedRawText then ({ state with buffer := [] }, none)
    else if isSuppressedControlReplyLeadFragment run.unicode mergedRawText then
      ({ state with buffer := mergedRawText }, none)
    else
      let mergedText :=
        if startsWithSilentToken run.unicode mergedRawText then
          stripLeadingSilentToken mergedRawText
        else mergedRawText
      let state := { state with buffer := mergedText }
      if isSuppressedControlReplyText mergedText ||
          isSuppressedControlReplyLeadFragment run.unicode mergedText ||
          run.shouldHideHeartbeatChatOutput then (state, none)
      else if now < state.deltaSentAt + 150 then (state, none)
      else
        ({ state with deltaSentAt := now, deltaLastBroadcastLen := mergedText.length },
          some mergedText)

def resolveBufferedChatTextState (state : ChatRunState) : JsString × Bool :=
  let bufferedText := trim (stripInlineDirectiveTagsForDisplay state.buffer)
  let normalized :=
    if run.shouldHideHeartbeatChatOutput then run.normalizeHeartbeatChatFinalText bufferedText
    else (false, bufferedText)
  let text := trim normalized.2
  (text, normalized.1 || isSuppressedControlReplyText text)

def finalChatText (state : ChatRunState) : Option JsString :=
  let resolved := resolveBufferedChatTextState run state
  if resolved.1 ≠ [] ∧ resolved.2 = false then some resolved.1 else none

/-! ## Streams -/

/-- An event of a message: the text of the messages before, the message so far without
the new part, and the new part. -/
structure StreamEvent where
  before : JsString
  soFar : JsString
  delta : JsString
  now : ℕ

namespace StreamEvent

variable (event : StreamEvent)

def text : JsString := event.soFar ++ event.delta

def said : JsString := event.before ++ event.soFar

def saidAfter : JsString := event.before ++ event.text

theorem saidAfter_eq : event.saidAfter = event.said ++ event.delta := by
  simp [saidAfter, said, text]

end StreamEvent

def messageEvents (before soFar : JsString) : List (JsString × ℕ) → List StreamEvent
  | [] => []
  | (delta, now) :: rest =>
    ⟨before, soFar, delta, now⟩ :: messageEvents before (soFar ++ delta) rest

def runEvents (before : JsString) : List (List (JsString × ℕ)) → List StreamEvent
  | [] => []
  | parts :: rest =>
    messageEvents before [] parts ++ runEvents (before ++ (parts.map Prod.fst).flatten) rest

def runText (messages : List (List (JsString × ℕ))) : JsString :=
  (messages.map fun parts => (parts.map Prod.fst).flatten).flatten

def emit (state : ChatRunState) (event : StreamEvent) : ChatRunState :=
  (emitChatDelta run event.now event.text (some event.delta) state).1

def keptTexts (state : ChatRunState) : List StreamEvent → List JsString
  | [] => []
  | event :: rest =>
    (emit run state event).rawBuffer :: keptTexts (emit run state event) rest

/-! ## One merge -/

def Overlaps (base suffix : JsString) : Prop :=
  ∃ overlap, overlap ≠ [] ∧ overlap <:+ base ∧ overlap <+: suffix

instance (base suffix : JsString) : Decidable (Overlaps base suffix) :=
  decidable_of_iff (∃ overlap ∈ suffix.inits, overlap ≠ [] ∧ overlap <:+ base)
    (by simp only [Overlaps, List.mem_inits]; tauto)

theorem length_appendOverlapping_le (base suffix : JsString) (overlap : ℕ) :
    (appendOverlapping base suffix overlap).length ≤ base.length + suffix.length := by
  induction overlap with
  | zero => simp [appendOverlapping]
  | succ overlap ih =>
    unfold appendOverlapping
    split_ifs
    · rw [List.length_append, List.length_drop]
      omega
    · exact ih

theorem length_appendUniqueSuffix_le (base suffix : JsString) :
    (appendUniqueSuffix base suffix).length ≤ base.length + suffix.length := by
  unfold appendUniqueSuffix
  split_ifs
  · omega
  · omega
  · omega
  · exact length_appendOverlapping_le _ _ _

variable {base suffix : JsString}

theorem appendOverlapping_of_no_overlap
    (hnone : ¬Overlaps base suffix) {overlap : ℕ} (hbase : overlap ≤ base.length)
    (hsuffix : overlap ≤ suffix.length) :
    appendOverlapping base suffix overlap = base ++ suffix := by
  induction overlap with
  | zero => rfl
  | succ overlap ih =>
    unfold appendOverlapping
    rw [if_neg, ih (by omega) (by omega)]
    intro hsame
    apply hnone
    refine ⟨suffix.take (overlap + 1), ?_, ?_, List.take_prefix _ _⟩
    · intro hnil
      have hlength := congrArg List.length hnil
      rw [List.length_take, List.length_nil] at hlength
      omega
    · rw [← hsame, List.rtake_eq_reverse_take_reverse]
      exact List.reverse_prefix.mp (by simpa using List.take_prefix _ _)

theorem length_appendOverlapping_lt {overlap : ℕ}
    {shared : JsString} (hne : shared ≠ []) (hbase : shared <:+ base)
    (hsuffix : shared <+: suffix) (hlength : shared.length ≤ overlap) :
    (appendOverlapping base suffix overlap).length < base.length + suffix.length := by
  have hpositive := List.length_pos_of_ne_nil hne
  have hshort := hsuffix.length_le
  induction overlap with
  | zero => omega
  | succ overlap ih =>
    unfold appendOverlapping
    split_ifs with hsame
    · rw [List.length_append, List.length_drop]
      omega
    · apply ih
      by_contra hlong
      have hexact : overlap + 1 = shared.length := by omega
      apply hsame
      rw [hexact, ← List.prefix_iff_eq_take.mp hsuffix]
      obtain ⟨rest, rfl⟩ := hbase
      rw [List.rtake_eq_reverse_take_reverse]
      simp

theorem appendUniqueSuffix_of_no_overlap
    (hnone : ¬Overlaps base suffix) : appendUniqueSuffix base suffix = base ++ suffix := by
  unfold appendUniqueSuffix
  split_ifs with hsuffix hbase hend
  · simp [hsuffix]
  · simp [hbase]
  · exact absurd ⟨suffix, hsuffix, hend, List.prefix_rfl⟩ hnone
  · exact appendOverlapping_of_no_overlap hnone (by omega) (by omega)

theorem length_appendUniqueSuffix_lt (hoverlap : Overlaps base suffix) :
    (appendUniqueSuffix base suffix).length < base.length + suffix.length := by
  obtain ⟨shared, hne, hbase, hsuffix⟩ := hoverlap
  have hpositive := List.length_pos_of_ne_nil hne
  have hinBase := hbase.length_le
  have hinSuffix := hsuffix.length_le
  unfold appendUniqueSuffix
  split_ifs with hempty hnothing hend
  · rw [hempty, List.length_nil] at hinSuffix
    omega
  · rw [hnothing, List.length_nil] at hinBase
    omega
  · omega
  · exact length_appendOverlapping_lt hne hbase hsuffix (by omega)

/-- The first message is always merged well.  Later on, a new part may not begin with an
end of the text so far, the whole text may not be repeated by one message, and an event
without a new part may only repeat a beginning. -/
def MergesSafely (event : StreamEvent) : Prop :=
  event.before = [] ∨ (event.delta = [] ∧ (event.soFar = [] ∨ event.soFar <+: event.said)) ∨
    (event.delta ≠ [] ∧ ¬event.said <+: event.text ∧ ¬Overlaps event.said event.delta)

instance (event : StreamEvent) : Decidable (MergesSafely event) :=
  inferInstanceAs (Decidable (_ ∨ _))

variable {event : StreamEvent}

theorem merge_first (hfirst : event.before = []) :
    resolveMergedAssistantText event.said event.text event.delta = event.saidAfter := by
  have hsaid : event.said = event.soFar := by simp [StreamEvent.said, hfirst]
  have hafter : event.saidAfter = event.text := by simp [StreamEvent.saidAfter, hfirst]
  have htext : event.text = event.soFar ++ event.delta := rfl
  rw [hsaid, hafter]
  by_cases hsoFar : event.soFar = []
  · by_cases hdelta : event.delta = []
    · simp [resolveMergedAssistantText, htext, hsoFar, hdelta]
    · simp [resolveMergedAssistantText, appendUniqueSuffix, htext, hsoFar, hdelta]
  · have hextends : event.soFar <+: event.text := List.prefix_append _ _
    have hne : event.text ≠ [] := by simp [htext, hsoFar]
    unfold resolveMergedAssistantText
    rw [if_pos ⟨hne, hsoFar, hextends⟩]

theorem merge_repeated (hdelta : event.delta = [])
    (hsame : event.soFar = [] ∨ event.soFar <+: event.said) :
    resolveMergedAssistantText event.said event.text event.delta = event.saidAfter := by
  have htext : event.text = event.soFar := by simp [StreamEvent.text, hdelta]
  have hafter : event.saidAfter = event.said := by simp [event.saidAfter_eq, hdelta]
  have hbegins : event.soFar <+: event.said := by
    rcases hsame with hempty | hbegins
    · rw [hempty]
      exact List.nil_prefix
    · exact hbegins
  rw [htext, hafter, hdelta]
  unfold resolveMergedAssistantText
  split_ifs with hrepeat hold hfalse hsoFar
  · exact hbegins.eq_of_length_le hrepeat.2.2.length_le
  · rfl
  · exact absurd rfl hfalse
  · have hsaid : event.said ≠ [] := by
      intro hnil
      rw [hnil] at hbegins
      exact hsoFar (List.prefix_nil.mp hbegins)
    exact absurd ⟨hsoFar, hsaid, hbegins, rfl⟩ hold
  · rfl

theorem merge_safe (hsafe : MergesSafely event) :
    resolveMergedAssistantText event.said event.text event.delta = event.saidAfter := by
  rcases hsafe with hfirst | ⟨hdelta, hsame⟩ | ⟨hdelta, hnew, hnone⟩
  · exact merge_first hfirst
  · exact merge_repeated hdelta hsame
  · unfold resolveMergedAssistantText
    rw [if_neg (fun hrepeat => hnew hrepeat.2.2), if_neg (fun hold => hdelta hold.2.2.2),
      if_pos hdelta, appendUniqueSuffix_of_no_overlap hnone, event.saidAfter_eq]

theorem length_said (event : StreamEvent) :
    event.said.length = event.before.length + event.soFar.length := by
  simp [StreamEvent.said]

theorem length_text (event : StreamEvent) :
    event.text.length = event.soFar.length + event.delta.length := by
  simp [StreamEvent.text]

theorem length_saidAfter (event : StreamEvent) : event.saidAfter.length =
      event.before.length + event.soFar.length + event.delta.length := by
  simp [StreamEvent.saidAfter, StreamEvent.text, Nat.add_assoc]

theorem length_merge_lt (hloses : ¬MergesSafely event) :
    (resolveMergedAssistantText event.said event.text event.delta).length <
      event.saidAfter.length := by
  have hbefore : event.before ≠ [] := fun hfirst => hloses (.inl hfirst)
  have hpositive := List.length_pos_of_ne_nil hbefore
  have hsaid := length_said event
  have htext := length_text event
  rw [length_saidAfter]
  unfold resolveMergedAssistantText
  split_ifs with hrepeat hold hdelta hempty
  · omega
  · have hsoFar : event.text = event.soFar := by simp [StreamEvent.text, hold.2.2.2]
    have hbegins := hold.2.2.1
    rw [hsoFar] at hbegins
    exact absurd (.inr (.inl ⟨hold.2.2.2, .inr hbegins⟩)) hloses
  · have hoverlap : Overlaps event.said event.delta := by
      by_contra hnone
      have hnew : ¬event.said <+: event.text := by
        intro hbegins
        have hne : event.text ≠ [] := by simp [StreamEvent.text, hdelta]
        have hfull : event.said ≠ [] := by simp [StreamEvent.said, hbefore]
        exact hrepeat ⟨hne, hfull, hbegins⟩
      exact hloses (.inr (.inr ⟨hdelta, hnew, hnone⟩))
    have hshort := length_appendUniqueSuffix_lt hoverlap
    omega
  · omega
  · have hsoFar : event.soFar = [] := by
      have hnil := not_not.mp hempty
      simp only [StreamEvent.text, List.append_eq_nil_iff] at hnil
      exact hnil.1
    exact absurd (.inr (.inl ⟨not_not.mp hdelta, .inl hsoFar⟩)) hloses

theorem merge_short {kept : JsString} (hbefore : event.before ≠ [])
    (hshort : kept.length < event.said.length) :
    (resolveMergedAssistantText kept event.text event.delta).length < event.saidAfter.length := by
  have hpositive := List.length_pos_of_ne_nil hbefore
  have hsaid := length_said event
  have htext := length_text event
  have happend := length_appendUniqueSuffix_le kept event.delta
  rw [length_saidAfter]
  unfold resolveMergedAssistantText
  split_ifs
  · omega
  · omega
  · omega
  · omega
  · omega

theorem prefix_appendOverlapping (base suffix : JsString) (overlap : ℕ) :
    base <+: appendOverlapping base suffix overlap := by
  induction overlap with
  | zero => exact List.prefix_append _ _
  | succ overlap ih =>
    unfold appendOverlapping
    split_ifs
    · exact List.prefix_append _ _
    · exact ih

theorem resolveMerged_eq_nil {previousText nextText nextDelta : JsString}
    (hnil : resolveMergedAssistantText previousText nextText nextDelta = []) :
    previousText = [] := by
  unfold resolveMergedAssistantText at hnil
  split_ifs at hnil with hrepeat hold hdelta hempty
  · exact absurd hnil hrepeat.1
  · exact hnil
  · unfold appendUniqueSuffix at hnil
    split_ifs at hnil with hfalse hbase hend
    · exact absurd hfalse hdelta
    · exact hbase
    · exact hnil
    · have hbegins := prefix_appendOverlapping previousText nextDelta
        (min previousText.length nextDelta.length)
      rw [hnil] at hbegins
      exact List.prefix_nil.mp hbegins
  · exact absurd hnil hempty
  · exact hnil

theorem emitChatDelta_rawBuffer (now : ℕ) (text : JsString) (delta : Option JsString)
    (state : ChatRunState) :
    (emitChatDelta run now text delta state).1.rawBuffer =
      resolveMergedAssistantText state.rawBuffer (stripInlineDirectiveTagsForDisplay text)
        ((delta.map stripInlineDirectiveTagsForDisplay).getD []) := by
  simp only [emitChatDelta]
  by_cases hnil : resolveMergedAssistantText state.rawBuffer
      (stripInlineDirectiveTagsForDisplay text)
      ((delta.map stripInlineDirectiveTagsForDisplay).getD []) = []
  · rw [if_pos hnil, hnil]
    exact resolveMerged_eq_nil hnil
  · rw [if_neg hnil]
    split_ifs
    all_goals rfl

variable {state : ChatRunState}

theorem emit_of_nil
    (hmerged : (emit run state event).rawBuffer = []) : emit run state event = state := by
  unfold emit at hmerged ⊢
  rw [emitChatDelta_rawBuffer] at hmerged
  simp only [emitChatDelta]
  rw [if_pos hmerged]

theorem emitChatDelta_buffer {now : ℕ} {text : JsString} {delta : Option JsString}
    {merged : JsString}
    (hmerged : (emitChatDelta run now text delta state).1.rawBuffer = merged)
    (hne : merged ≠ []) (hcontrol : isSuppressedControlReplyText merged = false)
    (hsilent : startsWithSilentToken run.unicode merged = false) :
    (emitChatDelta run now text delta state).1.buffer = merged := by
  rw [emitChatDelta_rawBuffer] at hmerged
  simp only [emitChatDelta, hmerged, hne, hcontrol, hsilent, if_false, Bool.false_eq_true]
  split_ifs
  all_goals rfl

/-! ## Whole runs -/

inductive IsStream : JsString → List StreamEvent → JsString → Prop
  | nil (text : JsString) : IsStream text [] text
  | cons {event : StreamEvent} {rest : List StreamEvent} {last : JsString}
      (hrest : IsStream event.saidAfter rest last) :
      IsStream event.said (event :: rest) last

variable {first last : JsString} {events : List StreamEvent}

theorem IsStream.append {middle : JsString} {others : List StreamEvent}
    (hevents : IsStream first events middle) (hothers : IsStream middle others last) :
    IsStream first (events ++ others) last := by
  induction hevents with
  | nil => exact hothers
  | cons _ ih => exact .cons (ih hothers)

theorem isStream_messageEvents (before soFar : JsString) (parts : List (JsString × ℕ)) :
    IsStream (before ++ soFar) (messageEvents before soFar parts)
      (before ++ soFar ++ (parts.map Prod.fst).flatten) := by
  induction parts generalizing soFar with
  | nil =>
    simp only [messageEvents, List.map_nil, List.flatten_nil, List.append_nil]
    exact .nil _
  | cons part rest ih =>
    obtain ⟨delta, now⟩ := part
    have hrest := ih (soFar ++ delta)
    refine @IsStream.cons ⟨before, soFar, delta, now⟩ _ _ ?_
    simpa [StreamEvent.saidAfter, StreamEvent.text] using hrest

theorem isStream_runEvents (before : JsString) (messages : List (List (JsString × ℕ))) :
    IsStream before (runEvents before messages) (before ++ runText messages) := by
  induction messages generalizing before with
  | nil =>
    simp only [runEvents, runText, List.map_nil, List.flatten_nil, List.append_nil]
    exact .nil _
  | cons parts rest ih =>
    have hfirst := isStream_messageEvents before [] parts
    rw [List.append_nil] at hfirst
    have happend := hfirst.append (ih (before ++ (parts.map Prod.fst).flatten))
    have htext : runText (parts :: rest) = (parts.map Prod.fst).flatten ++ runText rest := rfl
    rw [htext, ← List.append_assoc]
    exact happend

def HasNoTags (event : StreamEvent) : Prop :=
  stripInlineDirectiveTagsForDisplay event.text = event.text ∧
    stripInlineDirectiveTagsForDisplay event.delta = event.delta

instance (event : StreamEvent) : Decidable (HasNoTags event) :=
  inferInstanceAs (Decidable (_ ∧ _))

theorem emit_rawBuffer (hplain : HasNoTags event) (state : ChatRunState) :
    (emit run state event).rawBuffer =
      resolveMergedAssistantText state.rawBuffer event.text event.delta := by
  unfold emit
  rw [emitChatDelta_rawBuffer, Option.map_some, Option.getD_some, hplain.1, hplain.2]

section

variable {first last : JsString} {events : List StreamEvent} (hstream : IsStream first events last)

include hstream

theorem kept_of_safe (hstate : state.rawBuffer = first) (hplain : ∀ event ∈ events, HasNoTags event)
    (hsafe : ∀ event ∈ events, MergesSafely event) :
    (events.foldl (emit run) state).rawBuffer = last ∧
      List.IsChain (· <+: ·) (first :: keptTexts run state events) := by
  induction hstream generalizing state with
  | nil text => exact ⟨hstate, .singleton _⟩
  | @cons event rest last _ ih =>
    rw [List.forall_mem_cons] at hplain hsafe
    have hmerged : (emit run state event).rawBuffer = event.saidAfter := by
      rw [emit_rawBuffer run hplain.1, hstate]
      exact merge_safe hsafe.1
    obtain ⟨hlast, hchain⟩ := ih hmerged hplain.2 hsafe.2
    refine ⟨hlast, ?_⟩
    rw [keptTexts, hmerged, List.isChain_cons_cons]
    have hextends : event.said <+: event.saidAfter := by
      rw [event.saidAfter_eq]
      exact List.prefix_append _ _
    exact ⟨hextends, hchain⟩

theorem kept_of_short (hstate : state.rawBuffer.length < first.length)
    (hbefore : ∀ event ∈ events, event.before ≠ [])
    (hplain : ∀ event ∈ events, HasNoTags event) :
    (events.foldl (emit run) state).rawBuffer.length < last.length := by
  induction hstream generalizing state with
  | nil text => exact hstate
  | @cons event rest last _ ih =>
    rw [List.forall_mem_cons] at hplain hbefore
    apply ih ?_ hbefore.2 hplain.2
    rw [emit_rawBuffer run hplain.1]
    exact merge_short hbefore.1 hstate

theorem IsStream.isPrefix : first <+: last := by
  induction hstream with
  | nil => exact List.prefix_rfl
  | @cons event rest last _ ih =>
    rw [event.saidAfter_eq] at ih
    exact (List.prefix_append _ _).trans ih

theorem IsStream.eq_of_nil (hnil : events = []) : first = last := by
  induction hstream with
  | nil => rfl
  | cons => exact absurd hnil (List.cons_ne_nil _ _)

end

/-- After an event of a later message only events of later messages follow. -/
def Progresses (events : List StreamEvent) : Prop :=
  events.Pairwise fun earlier later => earlier.before ≠ [] → later.before ≠ []

theorem before_messageEvents {before soFar : JsString} {parts : List (JsString × ℕ)}
    (hevent : event ∈ messageEvents before soFar parts) :
    event.before = before := by
  induction parts generalizing soFar with
  | nil => simp [messageEvents] at hevent
  | cons part rest ih =>
    rw [messageEvents, List.mem_cons] at hevent
    rcases hevent with rfl | hrest
    · rfl
    · exact ih hrest

theorem before_runEvents {before : JsString} {messages : List (List (JsString × ℕ))}
    (hevent : event ∈ runEvents before messages) :
    before <+: event.before := by
  induction messages generalizing before with
  | nil => simp [runEvents] at hevent
  | cons parts rest ih =>
    rw [runEvents, List.mem_append] at hevent
    rcases hevent with hfirst | hrest
    · rw [before_messageEvents hfirst]
    · exact (List.prefix_append _ _).trans (ih hrest)

theorem progresses_messageEvents (before soFar : JsString) (parts : List (JsString × ℕ)) :
    Progresses (messageEvents before soFar parts) := by
  apply List.Pairwise.imp_of_mem ?_ (List.pairwise_of_forall fun _ _ => trivial)
  intro earlier later hearlier hlater _ hbefore
  rwa [before_messageEvents hlater, ← before_messageEvents hearlier]

theorem progresses_runEvents (before : JsString) (messages : List (List (JsString × ℕ))) :
    Progresses (runEvents before messages) := by
  induction messages generalizing before with
  | nil => exact List.Pairwise.nil
  | cons parts rest ih =>
    apply List.pairwise_append.mpr
    refine ⟨progresses_messageEvents _ _ _, ih _, ?_⟩
    intro earlier hearlier later hlater hbefore hnil
    have hbegins := (List.prefix_append _ _).trans (before_runEvents hlater)
    rw [before_messageEvents hearlier] at hbefore
    rw [hnil] at hbegins
    exact hbefore (List.prefix_nil.mp hbegins)

theorem safe_of_kept (hstream : IsStream first events last)
    (hstate : state.rawBuffer = first) (hprogress : Progresses events)
    (hplain : ∀ event ∈ events, HasNoTags event)
    (hkept : (events.foldl (emit run) state).rawBuffer = last) :
    ∀ event ∈ events, MergesSafely event := by
  induction hstream generalizing state with
  | nil text => exact fun _ hevent => absurd hevent List.not_mem_nil
  | @cons event rest last hrest ih =>
    rw [List.forall_mem_cons] at hplain ⊢
    obtain ⟨hlater, hprogress⟩ := List.pairwise_cons.mp hprogress
    have hraw := emit_rawBuffer run hplain.1 state
    rw [hstate] at hraw
    have hhead : MergesSafely event := by
      by_contra hloses
      have hbefore : event.before ≠ [] := fun hfirst => hloses (.inl hfirst)
      have hlost := length_merge_lt hloses
      rw [← hraw] at hlost
      have hshort := kept_of_short run hrest hlost
        (fun later hin => hlater later hin hbefore) hplain.2
      rw [← hkept] at hshort
      exact lt_irrefl _ hshort
    exact ⟨hhead, ih (hraw.trans (merge_safe hhead)) hprogress hplain.2 hkept⟩

theorem buffer_of_safe (hstream : IsStream first events last)
    (hstate : state.rawBuffer = first) (hplain : ∀ event ∈ events, HasNoTags event)
    (hsafe : ∀ event ∈ events, MergesSafely event)
    (hcontrol : isSuppressedControlReplyText last = false)
    (hsilent : startsWithSilentToken run.unicode last = false)
    (hbuffer : events = [] ∨ last = [] → state.buffer = last) :
    (events.foldl (emit run) state).buffer = last := by
  induction hstream generalizing state with
  | nil text => exact hbuffer (.inl rfl)
  | @cons event rest last hrest ih =>
    rw [List.forall_mem_cons] at hplain hsafe
    have hmerged : (emit run state event).rawBuffer = event.saidAfter := by
      rw [emit_rawBuffer run hplain.1, hstate]
      exact merge_safe hsafe.1
    apply ih hmerged hplain.2 hsafe.2 hcontrol hsilent
    intro hend
    by_cases hnil : event.saidAfter = []
    · have hlast : last = [] := by
        rcases hend with hdone | hempty
        · exact (hrest.eq_of_nil hdone).symm.trans hnil
        · exact hempty
      rw [emit_of_nil run (hmerged.trans hnil)]
      exact hbuffer (.inr hlast)
    · have hlast : last = event.saidAfter := by
        rcases hend with hdone | hempty
        · exact (hrest.eq_of_nil hdone).symm
        · have hbegins := hrest.isPrefix
          rw [hempty] at hbegins
          exact absurd (List.prefix_nil.mp hbegins) hnil
      rw [hlast] at hcontrol hsilent ⊢
      exact emitChatDelta_buffer run hmerged hnil hcontrol hsilent

/-- The run is shown, and its text as a whole is no control reply and has no tag. -/
structure IsOrdinary (messages : List (List (JsString × ℕ))) : Prop where
  shown : run.shouldHideHeartbeatChatOutput = false
  noTags : stripInlineDirectiveTagsForDisplay (runText messages) = runText messages
  noControl : isSuppressedControlReplyText (runText messages) = false
  noSilent : startsWithSilentToken run.unicode (runText messages) = false

/-- The text that is kept grows to all that was said, and is sent in the end. -/
structure MergedWithoutLoss (messages : List (List (JsString × ℕ))) : Prop where
  kept : ((runEvents [] messages).foldl (emit run) {}).rawBuffer = runText messages
  extended : List.IsChain (· <+: ·) ([] :: keptTexts run {} (runEvents [] messages))
  sent : IsOrdinary run messages → finalChatText run ((runEvents [] messages).foldl (emit run) {}) =
      nonBlank (runText messages)

theorem isSuppressedControlReplyText_trim (text : JsString) :
    isSuppressedControlReplyText (trim text) = isSuppressedControlReplyText text := by
  unfold isSuppressedControlReplyText
  rw [trim_trim]

theorem finalChatText_of_plain (hshown : run.shouldHideHeartbeatChatOutput = false)
    (htags : stripInlineDirectiveTagsForDisplay state.buffer = state.buffer)
    (hcontrol : isSuppressedControlReplyText state.buffer = false) :
    finalChatText run state = nonBlank state.buffer := by
  have hresolved : resolveBufferedChatTextState run state = (trim state.buffer, false) := by
    simp [resolveBufferedChatTextState, hshown, htags, trim_trim, isSuppressedControlReplyText_trim, hcontrol]
  unfold finalChatText nonBlank
  rw [hresolved]
  by_cases hempty : trim state.buffer = []
  · simp [hempty]
  · simp [hempty]

/-- A stream without tags is merged without loss if and only if every merge is safe. -/
theorem stream_merged_iff (messages : List (List (JsString × ℕ)))
    (hplain : ∀ event ∈ runEvents [] messages, HasNoTags event) :
    MergedWithoutLoss run messages ↔ ∀ event ∈ runEvents [] messages, MergesSafely event := by
  have hstream := isStream_runEvents [] messages
  rw [List.nil_append] at hstream
  constructor
  · intro hmerged
    exact safe_of_kept run hstream rfl (progresses_runEvents [] messages) hplain hmerged.kept
  · intro hsafe
    have hstart : (({} : ChatRunState)).rawBuffer = [] := rfl
    obtain ⟨hkept, hextended⟩ := kept_of_safe run hstream hstart hplain hsafe
    refine ⟨hkept, hextended, fun hordinary => ?_⟩
    have hbuffer := buffer_of_safe run hstream hstart hplain hsafe
      hordinary.noControl hordinary.noSilent ?_
    · rw [finalChatText_of_plain run hordinary.shown, hbuffer]
      · rw [hbuffer]
        exact hordinary.noTags
      · rw [hbuffer]
        exact hordinary.noControl
    · intro hend
      rcases hend with hdone | hempty
      · exact hstream.eq_of_nil hdone
      · exact hempty.symm

def exampleRun : ChatRun where
  unicode :=
    { toUpperCase := fun text => text.map fun unit =>
        if 0x61 ≤ unit ∧ unit ≤ 0x7A then unit - 0x20 else unit
      startsWithWord := fun text => text.head?.any fun unit =>
        decide (0x61 ≤ asciiLower unit ∧ asciiLower unit ≤ 0x7A) ||
          decide (0x30 ≤ unit ∧ unit ≤ 0x39) }
  shouldHideHeartbeatChatOutput := false
  normalizeHeartbeatChatFinalText := fun text => (false, text)

def calculation : List (List (JsString × ℕ)) := [[(js "Sum: ", 0)], [(js "4", 100), (js "2.", 200)]]

theorem stream_merged_iff_calculation :
    MergedWithoutLoss exampleRun calculation ∧ IsOrdinary exampleRun calculation :=
  ⟨(stream_merged_iff exampleRun calculation (by decide)).mpr (by decide),
    rfl, by decide, by decide, by decide⟩

def repeatedDigit : List (List (JsString × ℕ)) := [[(js "It is 4", 0)], [(js "42", 100)]]

theorem repeated_digit_lost : (∀ event ∈ runEvents [] repeatedDigit, HasNoTags event) ∧
      IsOrdinary exampleRun repeatedDigit ∧
      runText repeatedDigit = js "It is 442" ∧
      ((runEvents [] repeatedDigit).foldl (emit exampleRun) {}).rawBuffer = js "It is 42" ∧
      ¬MergedWithoutLoss exampleRun repeatedDigit := by
  have hkept : ((runEvents [] repeatedDigit).foldl (emit exampleRun) {}).rawBuffer =
      js "It is 42" := by
    decide
  have hsaid : runText repeatedDigit = js "It is 442" := by
    decide
  refine ⟨by decide, ⟨rfl, by decide, by decide, by decide⟩, hsaid, hkept, ?_⟩
  intro hmerged
  have hsame := hmerged.kept
  exact absurd hsame (by decide)

end LittleBaby.Chat
