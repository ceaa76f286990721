import LittleBaby.LabelledMachine
import LittleBaby.ToolLoopStreaks
import Mathlib.Data.List.DropRight

/-!
# Runs of tool calls

A call is tried, and is executed and recorded unless a critical loop is
detected; its outcome is recorded when it comes.
-/

namespace LittleBaby.ToolLoops

open JsString LabelledMachine

variable {TParams TResult TError : Type} (hashes : ToolHashes TParams TResult TError)

structure ExecutedCall (TParams TResult TError : Type) where
  toolName : JsString
  params : TParams
  toolCallId : Option JsString
  outcome : Option (ToolOutcome TResult TError) := none

structure LoopState (TParams TResult TError : Type) where
  toolCallHistory : List ToolCallRecord := []
  executed : List (ExecutedCall TParams TResult TError) := []

inductive LoopAction (TParams TResult TError : Type)
  | call (toolName : JsString) (params : TParams) (toolCallId : Option JsString)
  | outcome (index : ℕ) (outcome : ToolOutcome TResult TError)

def isCritical (detection : Option LoopDetection) : Bool :=
  detection.any fun found => found.level = .critical

variable (config : ToolLoopDetectionConfig)

def loopStep (state : LoopState TParams TResult TError) :
    LoopAction TParams TResult TError → Option (LoopState TParams TResult TError)
  | .call toolName params toolCallId =>
    if isCritical (detectToolCallLoop hashes state.toolCallHistory toolName params config) then
      some state
    else
      some
        { toolCallHistory :=
            recordToolCall hashes state.toolCallHistory toolName params toolCallId config
          executed := state.executed ++ [⟨toolName, params, toolCallId, none⟩] }
  | .outcome index outcome =>
    match state.executed[index]? with
    | some ⟨toolName, params, toolCallId, none⟩ =>
      some
        { toolCallHistory :=
            recordToolCallOutcome hashes state.toolCallHistory toolName params toolCallId
              outcome config
          executed := state.executed.set index ⟨toolName, params, toolCallId, some outcome⟩ }
    | _ => none

def ExecutedCall.signature (call : ExecutedCall TParams TResult TError) : JsString :=
  hashes.hashToolCall call.toolName call.params

def ExecutedCall.resultHash (call : ExecutedCall TParams TResult TError) : Option JsString :=
  call.outcome.bind fun outcome =>
    (hashToolOutcome hashes call.toolName call.params outcome).1

def ExecutedCall.record (call : ExecutedCall TParams TResult TError) : ToolCallRecord :=
  { toolName := call.toolName
    argsHash := call.signature hashes
    toolCallId := call.toolCallId
    resultHash := call.resultHash hashes
    unknownToolName := call.outcome.bind fun outcome =>
      (hashToolOutcome hashes call.toolName call.params outcome).2 }

def window (calls : List (ExecutedCall TParams TResult TError)) : List ToolCallRecord :=
  (calls.map (ExecutedCall.record hashes)).rtake (resolveLoopDetectionConfig config).historySize

/-- The calls follow one another, and each has a result or an error. -/
def InTurn (state : LoopState TParams TResult TError) : LoopAction TParams TResult TError → Prop
  | .call _ _ _ => ∀ call ∈ state.executed, call.outcome.isSome
  | .outcome _ outcome => outcome.error.isSome ∨ outcome.result.isSome

theorem hashToolOutcome_truthy (toolName : JsString) (params : TParams)
    {outcome : ToolOutcome TResult TError}
    (htelling : outcome.error.isSome ∨ outcome.result.isSome) :
    ∃ resultHash, resultHash ≠ [] ∧
      (hashToolOutcome hashes toolName params outcome).1 = some resultHash := by
  obtain ⟨result, error⟩ := outcome
  cases error with
  | some error =>
    have hmark : js "error:" ≠ [] := by decide
    exact ⟨_, List.append_ne_nil_of_left_ne_nil hmark _, rfl⟩
  | none =>
    cases result with
    | some result => exact ⟨_, hashes.digestResult_ne_nil _ _ _, rfl⟩
    | none => simp at htelling

/-- What holds along a run in turn: the window is the end of the executed calls, all
but the last have their outcome, and none was executed against a critical loop. -/
structure Obeyed (state : LoopState TParams TResult TError) : Prop where
  windowed : state.toolCallHistory = window hashes config state.executed
  settled : ∀ past call, state.executed = past ++ [call] → ∀ other ∈ past, other.outcome.isSome
  telling : ∀ call ∈ state.executed, call.outcome.isSome →
    ∃ resultHash, resultHash ≠ [] ∧ call.resultHash hashes = some resultHash
  allowed : ∀ past call later, state.executed = past ++ call :: later →
    isCritical (detectToolCallLoop hashes (window hashes config past)
      call.toolName call.params config) = false

section Slices

variable {α : Type}

theorem rtake_concat_rtake {size : ℕ} (hsize : 0 < size) (xs : List α) (x : α) :
    (xs.rtake size ++ [x]).rtake size = (xs ++ [x]).rtake size := by
  obtain ⟨size, rfl⟩ : ∃ before, size = before + 1 := ⟨size - 1, by omega⟩
  rw [List.rtake_concat_succ, List.rtake_concat_succ]
  simp only [List.rtake_eq_reverse_take_reverse, List.reverse_reverse, List.take_take]
  rw [min_eq_left (by omega)]

theorem length_rtake_le (size : ℕ) (xs : List α) : (xs.rtake size).length ≤ size := by
  rw [List.rtake, List.length_drop]
  omega

theorem shift_concat {size : ℕ} {xs : List α} (hsize : xs.length ≤ size) (x : α) :
    (if size < (xs ++ [x]).length then (xs ++ [x]).drop 1 else xs ++ [x]) =
      (xs ++ [x]).rtake size := by
  rw [List.rtake, List.length_append, List.length_singleton]
  split_ifs with hlong
  · rw [show xs.length + 1 - size = 1 by omega]
  · rw [Nat.sub_eq_zero_of_le (by omega), List.drop_zero]

theorem concat_eq_append_cons {xs past later : List α} {x y : α}
    (heq : xs ++ [x] = past ++ y :: later) :
    (past = xs ∧ y = x) ∨ ∃ between, xs = past ++ y :: between := by
  rcases List.eq_nil_or_concat later with rfl | ⟨between, z, rfl⟩
  · have hlast := List.append_inj' heq rfl
    exact .inl ⟨hlast.1.symm, (List.cons.inj hlast.2).1.symm⟩
  · rw [List.concat_eq_append, ← List.cons_append, ← List.append_assoc] at heq
    exact .inr ⟨between, (List.append_inj' heq rfl).1⟩

end Slices

variable {config}

theorem historySize_pos : 0 < (resolveLoopDetectionConfig config).historySize :=
  (thresholds_ordered config).1

theorem recordToolCall_window (calls : List (ExecutedCall TParams TResult TError))
    (toolName : JsString) (params : TParams) (toolCallId : Option JsString) :
    recordToolCall hashes (window hashes config calls) toolName params toolCallId config =
      window hashes config (calls ++ [⟨toolName, params, toolCallId, none⟩]) := by
  have hshort := length_rtake_le (resolveLoopDetectionConfig config).historySize
    (calls.map (ExecutedCall.record hashes))
  simp only [window, List.map_append, List.map_cons, List.map_nil]
  rw [← rtake_concat_rtake historySize_pos]
  exact shift_concat hshort _

theorem recordToolCallOutcome_window (past : List (ExecutedCall TParams TResult TError))
    (toolName : JsString) (params : TParams) (toolCallId : Option JsString)
    {outcome : ToolOutcome TResult TError}
    (htelling : outcome.error.isSome ∨ outcome.result.isSome) :
    recordToolCallOutcome hashes
        (window hashes config (past ++ [⟨toolName, params, toolCallId, none⟩]))
        toolName params toolCallId outcome config =
      window hashes config (past ++ [⟨toolName, params, toolCallId, some outcome⟩]) := by
  obtain ⟨resultHash, hresult, hhash⟩ := hashToolOutcome_truthy hashes toolName params htelling
  obtain ⟨size, hsize⟩ : ∃ before, (resolveLoopDetectionConfig config).historySize = before + 1 :=
    ⟨_, (Nat.sub_add_cancel historySize_pos).symm⟩
  have hshort := length_rtake_le size (past.map (ExecutedCall.record hashes))
  simp only [window, List.map_append, List.map_cons, List.map_nil, hsize, List.rtake_concat_succ]
  have hrecord : ∀ resultOf : Option (ToolOutcome TResult TError),
      ExecutedCall.record hashes ⟨toolName, params, toolCallId, resultOf⟩ =
        { toolName := toolName
          argsHash := hashes.hashToolCall toolName params
          toolCallId := toolCallId
          resultHash := resultOf.bind fun outcome =>
            (hashToolOutcome hashes toolName params outcome).1
          unknownToolName := resultOf.bind fun outcome =>
            (hashToolOutcome hashes toolName params outcome).2 } := fun _ => rfl
  rw [hrecord, hrecord]
  simp [recordToolCallOutcome, hhash, hresult, fillOutcome, ToolCallRecord.awaits, hsize, Nat.add_sub_add_right]
  rw [Nat.sub_eq_zero_of_le hshort, List.drop_zero]

theorem Obeyed.outcome_step {state next : LoopState TParams TResult TError}
    {index : ℕ} {outcome : ToolOutcome TResult TError}
    (hobeyed : Obeyed hashes config state)
    (hstep : loopStep hashes config state (.outcome index outcome) = some next) :
    ∃ past toolName params toolCallId,
      state.executed = past ++ [⟨toolName, params, toolCallId, none⟩] ∧ index = past.length ∧
        next =
          { toolCallHistory :=
              recordToolCallOutcome hashes state.toolCallHistory toolName params toolCallId
                outcome config
            executed := past ++ [⟨toolName, params, toolCallId, some outcome⟩] } := by
  simp only [loopStep] at hstep
  split at hstep
  · next toolName params toolCallId hindex =>
      cases hstep
      rcases List.eq_nil_or_concat state.executed with hempty | ⟨past, last, heq⟩
      · rw [hempty] at hindex
        cases hindex
      rw [List.concat_eq_append] at heq
      have hlast : index = past.length := by
        have hlength := (List.getElem?_eq_some_iff.mp hindex).1
        rw [heq, List.length_append, List.length_singleton] at hlength
        by_contra hother
        have hpast : index < past.length := by omega
        rw [heq, List.getElem?_append_left hpast] at hindex
        have hdone := hobeyed.settled past last heq _ (List.mem_of_getElem? hindex)
        cases hdone
      subst hlast
      rw [heq, List.getElem?_concat_length] at hindex
      cases hindex
      refine ⟨past, toolName, params, toolCallId, heq, rfl, ?_⟩
      rw [heq, List.set_append_right _ _ le_rfl, Nat.sub_self]
      rfl
  · cases hstep

theorem Obeyed.step {state next : LoopState TParams TResult TError}
    {action : LoopAction TParams TResult TError} (hobeyed : Obeyed hashes config state)
    (hturn : InTurn state action)
    (hstep : loopStep hashes config state action = some next) :
    Obeyed hashes config next := by
  cases action with
  | call toolName params toolCallId =>
    simp only [loopStep] at hstep
    split_ifs at hstep with hcritical
    · cases hstep
      exact hobeyed
    · cases hstep
      constructor
      · rw [hobeyed.windowed]
        exact recordToolCall_window hashes _ _ _ _
      · intro past last heq
        rw [(List.append_inj' heq rfl).1.symm]
        exact hturn
      · intro call hcall hdone
        rcases List.mem_append.mp hcall with hcall | hcall
        · exact hobeyed.telling call hcall hdone
        · rw [List.mem_singleton.mp hcall] at hdone
          cases hdone
      · intro past call later heq
        rcases concat_eq_append_cons heq with ⟨rfl, rfl⟩ | ⟨between, hbefore⟩
        · rw [← hobeyed.windowed]
          exact eq_false_of_ne_true hcritical
        · exact hobeyed.allowed past call between hbefore
  | outcome index outcome =>
    obtain ⟨past, toolName, params, toolCallId, heq, -, rfl⟩ := hobeyed.outcome_step hashes hstep
    constructor
    · rw [hobeyed.windowed, heq]
      exact recordToolCallOutcome_window hashes past _ _ _ hturn
    · intro before call hsplit
      rw [(List.append_inj' hsplit rfl).1.symm]
      exact hobeyed.settled past _ heq
    · intro call hcall hdone
      rcases List.mem_append.mp hcall with hcall | hcall
      · exact hobeyed.telling call (heq ▸ List.mem_append_left _ hcall) hdone
      · rw [List.mem_singleton.mp hcall]
        exact hashToolOutcome_truthy hashes toolName params hturn
    · intro before call later hsplit
      rcases concat_eq_append_cons hsplit with ⟨rfl, rfl⟩ | ⟨between, hbefore⟩
      · exact hobeyed.allowed before ⟨toolName, params, toolCallId, none⟩ [] heq
      · apply hobeyed.allowed before call (between ++ [⟨toolName, params, toolCallId, none⟩])
        rw [heq, hbefore, List.append_assoc, List.cons_append]

theorem obeyed_of_run {actions : List (LoopAction TParams TResult TError)}
    {final : LoopState TParams TResult TError}
    (hrun : run (loopStep hashes config) {} actions = some final)
    (hturn : Guarded (loopStep hashes config) InTurn {} actions) :
    Obeyed hashes config final := by
  apply run_guarded_invariant (Obeyed hashes config) (Obeyed.step hashes) _ hturn hrun
  constructor
  · exact (List.rtake_nil _).symm
  · intro past call heq
    simp at heq
  · intro call hcall
    cases hcall
  · intro past call later heq
    simp at heq

/-- All calls have one name, one hash of arguments and one result. -/
def Repeats (toolName argsHash resultHash : JsString)
    (calls : List (ExecutedCall TParams TResult TError)) : Prop :=
  ∀ call ∈ calls, call.toolName = toolName ∧ call.signature hashes = argsHash ∧
    call.resultHash hashes = some resultHash

theorem isCritical_or {first second : Option LoopDetection}
    (hfirst : first = none ∨ isCritical first = true)
    (hsecond : isCritical second = true) : isCritical (first.or second) = true := by
  rcases hfirst with rfl | hfirst
  · exact hsecond
  · cases first with
    | none => cases hfirst
    | some found => exact hfirst

theorem isCritical_or_left {first second : Option LoopDetection}
    (hfirst : isCritical first = true) : isCritical (first.or second) = true := by
  cases first with
  | none => cases hfirst
  | some found => exact hfirst

section Detectors

variable (resolved : ResolvedLoopDetectionConfig) (history : List ToolCallRecord)
  (toolName : JsString) (params : TParams) (currentHash : JsString)

theorem detectUnknownTool_critical : detectUnknownTool resolved history toolName = none ∨
      isCritical (detectUnknownTool resolved history toolName) = true := by
  simp only [detectUnknownTool]
  split_ifs
  · exact .inr rfl
  · exact .inl rfl

theorem detectGlobalBreaker_critical :
    detectGlobalBreaker resolved history toolName currentHash = none ∨
      isCritical (detectGlobalBreaker resolved history toolName currentHash) = true := by
  simp only [detectGlobalBreaker]
  split_ifs
  · exact .inr rfl
  · exact .inl rfl

theorem detectPolling_none (hpoll : isKnownPollToolCall hashes toolName params = true →
      resolved.knownPollNoProgress = false) :
    detectPolling hashes resolved history toolName params currentHash = none := by
  simp only [detectPolling]
  cases hknown : isKnownPollToolCall hashes toolName params with
  | false => rfl
  | true =>
    rw [hpoll hknown]
    rfl

end Detectors

variable {toolName : JsString}

theorem isCritical_of_globalBreaker {history : List ToolCallRecord}
    {params : TParams} (henabled : (resolveLoopDetectionConfig config).enabled = true)
    (hstreak : (resolveLoopDetectionConfig config).globalCircuitBreakerThreshold ≤
      (getNoProgressStreak history toolName (hashes.hashToolCall toolName params)).count) :
    isCritical (detectToolCallLoop hashes history toolName params config) = true := by
  unfold detectToolCallLoop
  simp only [henabled, Bool.not_true, Bool.false_eq_true, if_false]
  apply isCritical_or (detectUnknownTool_critical _ _ _)
  apply isCritical_or_left
  rw [detectGlobalBreaker, if_pos hstreak]
  rfl

theorem isCritical_of_pingPong {history : List ToolCallRecord}
    {params : TParams} (henabled : (resolveLoopDetectionConfig config).enabled = true)
    (hdetector : (resolveLoopDetectionConfig config).pingPong = true)
    (hpoll : isKnownPollToolCall hashes toolName params = true →
      (resolveLoopDetectionConfig config).knownPollNoProgress = false)
    (hstreak : (resolveLoopDetectionConfig config).criticalThreshold ≤
      (getPingPongStreak history (hashes.hashToolCall toolName params)).count)
    (hevidence : (getPingPongStreak history
      (hashes.hashToolCall toolName params)).noProgressEvidence = true) :
    isCritical (detectToolCallLoop hashes history toolName params config) = true := by
  unfold detectToolCallLoop
  simp only [henabled, Bool.not_true, Bool.false_eq_true, if_false]
  apply isCritical_or (detectUnknownTool_critical _ _ _)
  apply isCritical_or (detectGlobalBreaker_critical _ _ _ _)
  apply isCritical_or (.inl (detectPolling_none hashes _ _ _ _ _ hpoll))
  apply isCritical_or_left
  simp [detectPingPong, hdetector, hstreak, hevidence]
  rfl

theorem window_reverse (before : List (ExecutedCall TParams TResult TError))
    {recent : List (ExecutedCall TParams TResult TError)}
    (hfits : recent.length ≤ (resolveLoopDetectionConfig config).historySize) :
    (window hashes config (before ++ recent)).reverse =
      (recent.map (ExecutedCall.record hashes)).reverse ++
        (before.map (ExecutedCall.record hashes)).reverse.take
          ((resolveLoopDetectionConfig config).historySize - recent.length) := by
  rw [window, List.rtake_eq_reverse_take_reverse, List.reverse_reverse, List.map_append,
    List.reverse_append, List.take_append, List.take_of_length_le, List.length_reverse,
    List.length_map]
  simpa using hfits

theorem Obeyed.resultHash_ne_nil {state : LoopState TParams TResult TError}
    (hobeyed : Obeyed hashes config state) {call : ExecutedCall TParams TResult TError}
    (hcall : call ∈ state.executed) {resultHash : JsString}
    (hhash : call.resultHash hashes = some resultHash) : resultHash ≠ [] := by
  have hdone : call.outcome.isSome := by
    cases houtcome : call.outcome with
    | none =>
      rw [ExecutedCall.resultHash, houtcome] at hhash
      cases hhash
    | some outcome => rfl
  obtain ⟨told, hne, htold⟩ := hobeyed.telling call hcall hdone
  rw [hhash] at htold
  exact Option.some.inj htold ▸ hne

theorem split_segment {α : Type} {executed before segment after : List α}
    (hexecuted : executed = before ++ segment ++ after) {limit : ℕ}
    (hlimit : limit < segment.length) :
    executed = (before ++ segment.take limit) ++
      segment[limit] :: (segment.drop (limit + 1) ++ after) := by
  rw [hexecuted, ← List.cons_append, ← List.drop_eq_getElem_cons]
  simp only [List.append_assoc]
  rw [← List.append_assoc (segment.take limit), List.take_append_drop]

theorem Obeyed.repeats_le {state : LoopState TParams TResult TError}
    (hobeyed : Obeyed hashes config state)
    (henabled : (resolveLoopDetectionConfig config).enabled = true)
    (hsize : (resolveLoopDetectionConfig config).globalCircuitBreakerThreshold ≤
      (resolveLoopDetectionConfig config).historySize)
    {argsHash resultHash : JsString}
    {before segment after : List (ExecutedCall TParams TResult TError)}
    (hexecuted : state.executed = before ++ segment ++ after)
    (hrepeats : Repeats hashes toolName argsHash resultHash segment) :
    segment.length ≤ (resolveLoopDetectionConfig config).globalCircuitBreakerThreshold := by
  by_contra hlong
  push Not at hlong
  set limit := (resolveLoopDetectionConfig config).globalCircuitBreakerThreshold with hlimit
  have hstopped := hrepeats _ (List.getElem_mem hlong)
  have hresult := hobeyed.resultHash_ne_nil hashes
    (by rw [hexecuted]; simp [List.getElem_mem hlong]) hstopped.2.2
  -- the call after the first `limit` ones should have been stopped
  have hallowed := hobeyed.allowed _ _ _ (split_segment hexecuted hlong)
  have hlength : (segment.take limit).length = limit := List.length_take_of_le (Nat.le_of_lt hlong)
  have hrecords : ∀ record ∈ ((segment.take limit).map (ExecutedCall.record hashes)).reverse,
      IsRepeat toolName argsHash resultHash record := by
    intro record hrecord
    obtain ⟨call, hcall, rfl⟩ := List.mem_map.mp (List.mem_reverse.mp hrecord)
    exact hrepeats call (List.mem_of_mem_take hcall)
  have hcount := length_le_getNoProgressStreak hresult
    (window_reverse hashes before (hlength.trans_le hsize)) hrecords
  rw [List.length_reverse, List.length_map, hlength, ← hstopped.1, ← hstopped.2.1] at hcount
  have hcritical := isCritical_of_globalBreaker hashes henabled hcount
  rw [hallowed] at hcritical
  cases hcritical

end LittleBaby.ToolLoops
