import LittleBaby.BlockReplyCoalescer

/-!
# Coalescing conserves text

The payloads that go out are the batches of the enqueued ones: a payload on its
own, or the join of texts whose metadata agree.
-/

namespace LittleBaby.BlockReplies

open JsString BlockReplyCoalescer BlockReplyCoalescer Batches LabelledMachine

variable {TOthers : Type} {config : BlockStreamingCoalescing}
  {state : BlockReplyCoalescer TOthers} {batches : Batches (ReplyPayload TOthers)}
  {payload : ReplyPayload TOthers}

def joinedText (config : BlockStreamingCoalescing)
    (group : List (ReplyPayload TOthers)) : JsString :=
  join config.effectiveJoiner (group.map fun payload => payload.text.getD [])

def hasReplyToId (payload : ReplyPayload TOthers) : Bool := payload.replyToId.any (· ≠ [])

structure IsBlock (config : BlockStreamingCoalescing)
    (group : List (ReplyPayload TOthers)) (block : ReplyPayload TOthers) : Prop where
  nonempty : group ≠ []
  noMedia : ∀ payload ∈ group, (resolveSendableOutboundReplyParts payload).hasMedia = false
  text : block.text = some (joinedText config group)
  audioAsVoice : ∀ payload ∈ group, payload.audioAsVoice = block.audioAsVoice
  isReasoning : ∀ payload ∈ group, payload.isReasoning = block.isReasoning
  isCompactionNotice : ∀ payload ∈ group, payload.isCompactionNotice = block.isCompactionNotice
  replyToId : ∀ payload ∈ group, hasReplyToId payload = true → payload.replyToId = block.replyToId
  size : JsNumber.lt config.effectiveMaxChars
    (.ofNat (joinedText config group).length) = true → group.length = 1

def SentAs (config : BlockStreamingCoalescing) (group : List (ReplyPayload TOthers))
    (block : ReplyPayload TOthers) : Prop :=
  group = [block] ∨ IsBlock config group block

structure Represents (config : BlockStreamingCoalescing)
    (state : BlockReplyCoalescer TOthers) (batches : Batches (ReplyPayload TOthers)) :
    Prop where
  sent : List.Forall₂ (SentAs config) batches.closed state.flushed
  buffer : (batches.held = [] ∧ state.bufferText = []) ∨
    (state.bufferText ≠ [] ∧ IsBlock config batches.held state.bufferPayload)

namespace Represents

section

variable (hstate : Represents config state batches)

include hstate

theorem clearIdleTimer : Represents config state.clearIdleTimer batches :=
  ⟨hstate.sent, hstate.buffer⟩

theorem scheduleIdleFlush : Represents config (state.scheduleIdleFlush config) batches := by
  unfold BlockReplyCoalescer.scheduleIdleFlush
  split_ifs
  · exact hstate
  · exact ⟨hstate.sent, hstate.buffer⟩

theorem held_eq_nil (htext : state.bufferText = []) : batches.held = [] := by
  rcases hstate.buffer with ⟨hheld, -⟩ | ⟨hbuffer, -⟩
  · exact hheld
  · exact absurd htext hbuffer

theorem block (htext : state.bufferText ≠ []) :
    IsBlock config batches.held state.bufferPayload := by
  rcases hstate.buffer with ⟨-, hnone⟩ | ⟨-, hblock⟩
  · exact absurd hnone htext
  · exact hblock

theorem send (htext : state.bufferText ≠ []) :
    Represents config (onFlush state.bufferPayload (resetBuffer state))
      batches.close := by
  have hblock := hstate.block htext
  rw [close_of_held hblock.nonempty]
  constructor
  · exact List.rel_append hstate.sent (List.Forall₂.cons (.inr hblock) List.Forall₂.nil)
  · exact .inl ⟨rfl, rfl⟩

theorem flush_force : Represents config (state.flush config false true) batches.close := by
  unfold flush
  simp only [Bool.false_eq_true, if_false, Bool.not_true, Bool.false_and]
  split_ifs with htext
  · have hheld := hstate.clearIdleTimer.held_eq_nil htext
    rw [close_of_empty hheld]
    exact hstate.clearIdleTimer
  · exact hstate.clearIdleTimer.send htext

theorem flush (force : Bool) :
    ∃ later : Batches (ReplyPayload TOthers), later.inputs = batches.inputs ∧
      Represents config (state.flush config false force) later := by
  unfold BlockReplyCoalescer.flush
  simp only [Bool.false_eq_true, if_false]
  split_ifs with htext hshort
  · exact ⟨batches, rfl, hstate.clearIdleTimer⟩
  · exact ⟨batches, rfl, hstate.clearIdleTimer.scheduleIdleFlush⟩
  · exact ⟨batches.close, batches.inputs_close, hstate.clearIdleTimer.send htext⟩

theorem onFlush (htext : state.bufferText = []) (payload : ReplyPayload TOthers) :
    Represents config (onFlush payload state) (batches.alone payload) := by
  have hheld := hstate.held_eq_nil htext
  constructor
  · rw [closed_alone, close_of_empty hheld]
    exact List.rel_append hstate.sent (List.Forall₂.cons (.inl rfl) List.Forall₂.nil)
  · exact .inl ⟨held_close _, htext⟩

theorem describe (htext : state.bufferText = []) (payload : ReplyPayload TOthers) :
    Represents config (describe payload state) batches :=
  ⟨hstate.sent, .inl ⟨hstate.held_eq_nil htext, htext⟩⟩

theorem fill (htext : state.bufferText = []) {text : JsString}
    (hpayload : payload.text.getD [] = text) (hne : text ≠ [])
    (hmedia : (resolveSendableOutboundReplyParts payload).hasMedia = false) :
    Represents config { BlockReplyCoalescer.describe payload state with
      bufferText := text } (batches.hold payload) := by
  have hheld := hstate.held_eq_nil htext
  refine ⟨hstate.sent, Or.inr ⟨hne, ?_⟩⟩
  unfold Batches.hold
  rw [hheld]
  constructor
  · simp
  · simpa using hmedia
  · simp [bufferPayload, joinedText, join, hpayload]
  · simp [bufferPayload, BlockReplyCoalescer.describe]
  · simp [bufferPayload, BlockReplyCoalescer.describe]
  · simp [bufferPayload, BlockReplyCoalescer.describe]
  · simp [bufferPayload, BlockReplyCoalescer.describe]
  · simp

end

end Represents

structure Joins (payload : ReplyPayload TOthers)
    (state : BlockReplyCoalescer TOthers) : Prop where
  replyToId : replyToConflict payload state = false
  audioAsVoice : state.bufferAudioAsVoice = payload.audioAsVoice
  visibility : visibilityConflict payload state = false

theorem joinedText_append {group : List (ReplyPayload TOthers)} (hgroup : group ≠ [])
    (payload : ReplyPayload TOthers) :
    joinedText config (group ++ [payload]) =
      joinedText config group ++ config.effectiveJoiner ++ payload.text.getD [] := by
  induction group with
  | nil => contradiction
  | cons first rest ih =>
    cases rest with
    | nil => simp [joinedText, join]
    | cons second rest =>
      have hrest := ih (by simp)
      unfold joinedText join at hrest ⊢
      simp only [List.cons_append, List.map_cons, List.intercalate_cons_cons] at hrest ⊢
      rw [hrest]
      simp

theorem Joins.replyToId_eq (hjoins : Joins payload state) (hpayload : hasReplyToId payload = true) :
    payload.replyToId = state.bufferReplyToId := by
  have hconflict := hjoins.replyToId
  unfold replyToConflict at hconflict
  unfold hasReplyToId at hpayload
  rw [hpayload] at hconflict
  simp only [Bool.true_and, Bool.or_eq_false_iff, bne_eq_false_iff_eq] at hconflict
  exact hconflict.2.symm

theorem Represents.join (hstate : Represents config state batches)
    (htext : state.bufferText ≠ []) (hjoins : Joins payload state)
    (hmedia : (resolveSendableOutboundReplyParts payload).hasMedia = false)
    (hfits : JsNumber.lt config.effectiveMaxChars
      (.ofNat (state.bufferText ++ config.effectiveJoiner ++
        payload.text.getD []).length) = false) :
    Represents config { state with
      bufferText := state.bufferText ++ config.effectiveJoiner ++
        payload.text.getD [] } (batches.hold payload) := by
  have hblock := hstate.block htext
  have hbuffer : state.bufferText = joinedText config batches.held := Option.some.inj hblock.text
  have hjoined : joinedText config (batches.held ++ [payload]) = _ :=
    joinedText_append hblock.nonempty payload
  have hvisible := hjoins.visibility
  unfold visibilityConflict at hvisible
  rw [Bool.or_eq_false_iff, bne_eq_false_iff_eq, bne_eq_false_iff_eq] at hvisible
  rw [← hbuffer] at hjoined
  refine ⟨hstate.sent, .inr ⟨by simp [htext], ?_⟩⟩
  have hmembers : ∀ (property : ReplyPayload TOthers → Prop),
      (∀ member ∈ batches.held, property member) → property payload →
        ∀ member ∈ batches.held ++ [payload], property member := by
    intro property hheld hpayload member hmember
    rcases List.mem_append.mp hmember with hmember | hmember
    · exact hheld member hmember
    · rw [List.mem_singleton.mp hmember]
      exact hpayload
  constructor
  · simp [hold]
  · exact hmembers _ hblock.noMedia hmedia
  · exact congrArg some hjoined.symm
  · exact hmembers _ hblock.audioAsVoice hjoins.audioAsVoice.symm
  · exact hmembers _ hblock.isReasoning hvisible.1.symm
  · exact hmembers _ hblock.isCompactionNotice hvisible.2.symm
  · exact hmembers (fun member => hasReplyToId member = true → _)
      hblock.replyToId hjoins.replyToId_eq
  · intro hlong
    unfold hold at hlong
    rw [hjoined, hfits] at hlong
    contradiction

theorem bufferText_flush_force : (state.flush config false true).bufferText = [] := by
  unfold flush
  simp only [Bool.false_eq_true, if_false, Bool.not_true, Bool.false_and]
  split_ifs with htext
  · exact htext
  · rfl

theorem settleConflict_spec (hstate : Represents config state batches)
    (payload : ReplyPayload TOthers) :
    (∃ later : Batches (ReplyPayload TOthers), later.inputs = batches.inputs ∧
      Represents config (settleConflict config false payload state) later) ∧
    ((settleConflict config false payload state).bufferText ≠ [] →
      Joins payload (settleConflict config false payload state)) := by
  unfold settleConflict
  split_ifs with hconflict
  · constructor
    · exact ⟨batches.close, batches.inputs_close, hstate.flush_force⟩
    · intro htext
      exact absurd bufferText_flush_force htext
  · refine ⟨⟨batches, rfl, hstate⟩, ?_⟩
    intro htext
    simp only [htext, ne_eq, not_false_eq_true, true_and, Bool.or_eq_true, not_or,
      Bool.not_eq_true, bne_eq_false_iff_eq] at hconflict
    exact ⟨hconflict.1.1, hconflict.1.2, hconflict.2⟩

variable {text : JsString}

theorem appendText_spec (hstate : Represents config state batches)
    (hjoins : state.bufferText ≠ [] → Joins payload state)
    (hpayload : payload.text.getD [] = text) (hne : text ≠ [])
    (hmedia : (resolveSendableOutboundReplyParts payload).hasMedia = false) :
    ∃ later : Batches (ReplyPayload TOthers), later.inputs = batches.inputs ++ [payload] ∧
        Represents config (appendText config false payload text state) later := by
  have hholds : (batches.hold payload).inputs = batches.inputs ++ [payload] :=
    batches.inputs_hold payload
  have hcloses : (batches.hold payload).close.inputs = batches.inputs ++ [payload] := by
    rw [Batches.inputs_close, hholds]
  unfold appendText
  by_cases htext : state.bufferText = []
  · have hdescribed : (describe payload state).bufferText = [] := htext
    simp only [htext, if_true, hdescribed, ne_eq, not_true, if_false]
    split_ifs with hlong hexact
    · exact ⟨batches.alone payload, batches.inputs_alone payload,
        (hstate.describe htext payload).onFlush htext payload⟩
    · exact ⟨_, hcloses, (hstate.fill htext hpayload hne hmedia).flush_force⟩
    · exact ⟨_, hholds, (hstate.fill htext hpayload hne hmedia).scheduleIdleFlush⟩
  · simp only [htext, if_false, ne_eq, not_false_eq_true, if_true]
    have hempty : (state.flush config false true).bufferText = [] := bufferText_flush_force
    split_ifs with hlong hwhole hexact
    · exact ⟨batches.close.alone payload, by simp,
        (hstate.flush_force.describe hempty payload).onFlush hempty payload⟩
    · exact ⟨batches.close.hold payload, by simp,
        (hstate.flush_force.fill hempty hpayload hne hmedia).scheduleIdleFlush⟩
    all_goals
      have hfits : JsNumber.lt config.effectiveMaxChars
          (.ofNat (state.bufferText ++ config.effectiveJoiner ++
            payload.text.getD []).length) = false := by
        rw [hpayload]
        simpa using hlong
      have hjoined := hstate.join htext (hjoins htext) hmedia hfits
      rw [hpayload] at hjoined
    · exact ⟨_, hcloses, hjoined.flush_force⟩
    · exact ⟨_, hholds, hjoined.scheduleIdleFlush⟩

section

variable (hstate : Represents config state batches)
include hstate

theorem enqueue_spec (payload : ReplyPayload TOthers) :
    ∃ later : Batches (ReplyPayload TOthers), later.inputs = batches.inputs ++
          (if hasTextOrMedia payload then [payload] else []) ∧
        Represents config (state.enqueue config false payload) later := by
  unfold BlockReplyCoalescer.enqueue hasTextOrMedia
  simp only [Bool.false_eq_true, if_false]
  cases hmedia : (resolveSendableOutboundReplyParts payload).hasMedia with
  | true =>
    exact ⟨batches.close.alone payload, by simp,
      hstate.flush_force.onFlush bufferText_flush_force payload⟩
  | false =>
    cases htext : (resolveSendableOutboundReplyParts payload).hasText with
    | false =>
      simp only [Bool.or_false, Bool.false_eq_true, if_false, Bool.not_false,
        if_true, List.append_nil]
      exact ⟨batches, rfl, hstate⟩
    | true =>
      have hne : (resolveSendableOutboundReplyParts payload).text ≠ [] := by
        intro hnone
        unfold resolveSendableOutboundReplyParts at htext hnone
        simp only at htext hnone
        rw [hnone] at htext
        exact absurd htext (by decide)
      simp only [Bool.or_false, if_true, Bool.not_true, Bool.false_eq_true, if_false]
      split_ifs with hflushing hbuffered
      · exact ⟨(batches.close.hold payload).close, by simp,
          (hstate.flush_force.fill bufferText_flush_force rfl hne hmedia).flush_force⟩
      · rw [ne_eq, not_not] at hbuffered
        exact ⟨(batches.hold payload).close, by simp,
          (hstate.fill hbuffered rfl hne hmedia).flush_force⟩
      · obtain ⟨⟨settled, hinputs, hsettled⟩, hjoins⟩ := settleConflict_spec hstate payload
        rw [← hinputs]
        exact appendText_spec hsettled hjoins rfl hne hmedia

theorem step_spec {action : Action TOthers} {next : BlockReplyCoalescer TOthers} (hlive : action.shouldAbort = false)
    (hstep : step config state action = some next) :
    ∃ later : Batches (ReplyPayload TOthers),
      later.inputs = batches.inputs ++ action.enqueued.toList ∧ Represents config next later := by
  cases action with
  | enqueue payload shouldAbort =>
    obtain rfl : shouldAbort = false := hlive
    cases hstep
    obtain ⟨later, hinputs, hlater⟩ := enqueue_spec hstate payload
    refine ⟨later, ?_, hlater⟩
    rw [hinputs]
    cases hsendable : hasTextOrMedia payload <;> simp [Action.enqueued, hsendable]
  | idleTimerFires shouldAbort =>
    obtain rfl : shouldAbort = false := hlive
    obtain ⟨-, hnext⟩ := Option.ite_none_right_eq_some.mp hstep
    cases hnext
    simpa [Action.enqueued] using hstate.flush false
  | flush force shouldAbort =>
    obtain rfl : shouldAbort = false := hlive
    cases hstep
    simpa [Action.enqueued] using hstate.flush (force == some true)
  | stop =>
    cases hstep
    exact ⟨batches, by simp [Action.enqueued], hstate.clearIdleTimer⟩

theorem run_spec {actions : List (Action TOthers)} {final : BlockReplyCoalescer TOthers}
    (hlive : ∀ action ∈ actions, action.shouldAbort = false)
    (hrun : run (step config) state actions = some final) :
    ∃ later : Batches (ReplyPayload TOthers),
      later.inputs = batches.inputs ++ actions.filterMap Action.enqueued ∧
        Represents config final later := by
  induction actions generalizing state batches with
  | nil =>
    cases hrun
    exact ⟨batches, by simp, hstate⟩
  | cons action rest ih =>
    obtain ⟨next, hstep, hrest⟩ := run_cons_eq_some.mp hrun
    obtain ⟨middle, hmiddle, hnext⟩ := step_spec hstate (hlive action (by simp)) hstep
    obtain ⟨later, hlater, hfinal⟩ := ih hnext
      (fun other hmem => hlive other (by simp [hmem])) hrest
    refine ⟨later, ?_, hfinal⟩
    rw [hlater, hmiddle, List.append_assoc]
    cases hentry : action.enqueued <;> simp [hentry]

end

/-- After the last forced flush the payloads that went out are the enqueued ones,
grouped: each goes out on its own or in a block whose members agree. -/
theorem coalescing_conserves_text (config : BlockStreamingCoalescing)
    (actions : List (Action TOthers)) (final : BlockReplyCoalescer TOthers)
    (hlive : ∀ action ∈ actions, action.shouldAbort = false)
    (hrun : run (step config) {} (actions ++ [.flush (some true) false]) = some final) :
    ∃ groups : List (List (ReplyPayload TOthers)),
      groups.flatten = actions.filterMap Action.enqueued ∧
        List.Forall₂ (SentAs config) groups final.flushed := by
  have hstart : Represents config ({} : BlockReplyCoalescer TOthers) {} :=
    ⟨List.Forall₂.nil, .inl ⟨rfl, rfl⟩⟩
  obtain ⟨state, hbefore, hstep⟩ := run_concat_eq_some.mp hrun
  obtain ⟨batches, hinputs, hstate⟩ := run_spec hstart hlive hbefore
  cases hstep
  have hflushed := hstate.flush_force
  refine ⟨batches.close.closed, ?_, hflushed.sent⟩
  have hclosed : batches.close.inputs = batches.close.closed.flatten := by
    simp [inputs]
  rw [← hclosed, inputs_close, hinputs]
  rfl

def crossedLimits : BlockStreamingCoalescing where
  minChars := .finite 5
  maxChars := .finite 2
  idleMs := .finite 100
  joiner := none
  flushOnEnqueue := none

def crossedActions : List (Action Unit) :=
  [.enqueue { text := some (js "ab") } false, .enqueue { text := some (js "cd") } false]

theorem crossed_runs : (run (step crossedLimits) {}
      (crossedActions ++ [.flush (some true) false])).isSome = true := by
  decide

def crossedEnd : BlockReplyCoalescer Unit := Option.get _ crossed_runs

theorem crossed_conserves_text : ∃ groups : List (List (ReplyPayload Unit)),
      groups.flatten = crossedActions.filterMap Action.enqueued ∧
        List.Forall₂ (SentAs crossedLimits) groups crossedEnd.flushed :=
  coalescing_conserves_text crossedLimits crossedActions crossedEnd
    (by decide) (Option.eq_some_of_isSome crossed_runs)

/-- A block is longer than the configured maximum where the minimum is above it,
and an empty identifier joins a block that has one. -/
theorem block_exceeds_configured_limit : (run (step crossedLimits) {}
        (crossedActions ++ [.flush (some true) false])).map
          (fun final => final.flushed.map (·.text)) = some [some (js "abcd")] ∧
      JsNumber.lt crossedLimits.maxChars (.ofNat (js "abcd").length) = true ∧
      (run (step crossedLimits) ({} : BlockReplyCoalescer Unit)
        [.enqueue { text := some (js "a"), replyToId := some (js "x") } false,
          .enqueue { text := some (js "b"), replyToId := some [] } false,
          .flush (some true) false]).map
            (fun final => final.flushed.map (·.text)) = some [some (js "ab")] := by
  decide

end LittleBaby.BlockReplies
