import LittleBaby.ToolLoopRuns

/-!
# Alternating calls are stopped

The alternating end of the window may be longer than the alternation whose results no
longer change: the evidence covers all of it.
-/

namespace LittleBaby.ToolLoops

open JsString LabelledMachine ExecutedCall

variable {TParams TResult TError : Type} (hashes : ToolHashes TParams TResult TError)
  (config : ToolLoopDetectionConfig)

/-- A call has a name and is not the known poll of an enabled detector; an outcome is
that of the same call two before, or the window is too short to reach beyond. -/
def StaysUnchanged (state : LoopState TParams TResult TError) :
    LoopAction TParams TResult TError → Prop
  | .call toolName params _ =>
    toolName ≠ [] ∧ (isKnownPollToolCall hashes toolName params = true →
        (resolveLoopDetectionConfig config).knownPollNoProgress = false)
  | .outcome index outcome =>
    (resolveLoopDetectionConfig config).historySize ≤
        (resolveLoopDetectionConfig config).criticalThreshold ∨
      ∀ call ∈ state.executed[index]?,
        SteadyNext (record hashes { call with outcome := some outcome })
          ((state.executed.take index).map (record hashes)).reverse

structure Unchanged (state : LoopState TParams TResult TError) : Prop where
  named : ∀ call ∈ state.executed, call.toolName ≠ []
  noPolls : ∀ call ∈ state.executed, isKnownPollToolCall hashes call.toolName call.params = true →
      (resolveLoopDetectionConfig config).knownPollNoProgress = false
  steady : (resolveLoopDetectionConfig config).historySize ≤
      (resolveLoopDetectionConfig config).criticalThreshold ∨
    ∀ past later, state.executed = past ++ later → (∀ call ∈ past, call.outcome.isSome) →
      Steady (past.map (record hashes)).reverse

variable {config}

variable {state : LoopState TParams TResult TError}

theorem Unchanged.step {state next : LoopState TParams TResult TError}
    {action : LoopAction TParams TResult TError} (hobeyed : Obeyed hashes config state)
    (hunchanged : Unchanged hashes config state)
    (hstays : StaysUnchanged hashes config state action)
    (hstep : loopStep hashes config state action = some next) :
    Unchanged hashes config next := by
  cases action with
  | call toolName params toolCallId =>
    simp only [loopStep] at hstep
    split_ifs at hstep with hcritical
    · cases hstep
      exact hunchanged
    · cases hstep
      constructor
      · intro call hcall
        rcases List.mem_append.mp hcall with hcall | hcall
        · exact hunchanged.named call hcall
        · rw [List.mem_singleton.mp hcall]
          exact hstays.1
      · intro call hcall
        rcases List.mem_append.mp hcall with hcall | hcall
        · exact hunchanged.noPolls call hcall
        · rw [List.mem_singleton.mp hcall]
          exact hstays.2
      · rcases hunchanged.steady with hshort | hsteady
        · exact Or.inl hshort
        · apply Or.inr
          intro past later heq hdone
          rcases List.eq_nil_or_concat later with rfl | ⟨between, last, rfl⟩
          · rw [List.append_nil] at heq
            have hlast := hdone ⟨toolName, params, toolCallId, none⟩ (by simp [← heq])
            cases hlast
          · rw [List.concat_eq_append, ← List.append_assoc] at heq
            exact hsteady past between (List.append_inj' heq rfl).1 hdone
  | outcome index outcome =>
    obtain ⟨past, toolName, params, toolCallId, heq, rfl, rfl⟩ := hobeyed.outcome_step hashes hstep
    constructor
    · intro call hcall
      rcases List.mem_append.mp hcall with hcall | hcall
      · exact hunchanged.named call (heq ▸ List.mem_append_left _ hcall)
      · rw [List.mem_singleton.mp hcall]
        exact hunchanged.named ⟨toolName, params, toolCallId, none⟩ (by simp [heq])
    · intro call hcall
      rcases List.mem_append.mp hcall with hcall | hcall
      · exact hunchanged.noPolls call (heq ▸ List.mem_append_left _ hcall)
      · rw [List.mem_singleton.mp hcall]
        exact hunchanged.noPolls ⟨toolName, params, toolCallId, none⟩ (by simp [heq])
    · rcases hunchanged.steady with hshort | hsteady
      · exact Or.inl hshort
      rcases hstays with hshort | hnext
      · exact Or.inl hshort
      apply Or.inr
      intro before later hsplit hdone
      rcases List.eq_nil_or_concat later with rfl | ⟨between, last, rfl⟩
      · -- the filled outcome is the newest record
        rw [List.append_nil] at hsplit
        subst hsplit
        rw [List.map_append, List.reverse_append]
        constructor
        · have hrecord := hnext ⟨toolName, params, toolCallId, none⟩ (by simp [heq])
          rwa [heq, List.take_left] at hrecord
        · exact hsteady past _ heq (hobeyed.settled past _ heq)
      · rw [List.concat_eq_append, ← List.append_assoc] at hsplit
        have hpast := (List.append_inj' hsplit rfl).1
        apply hsteady before (between ++ [⟨toolName, params, toolCallId, none⟩]) _ hdone
        rw [heq, hpast, List.append_assoc]

theorem unchanged_of_run {actions : List (LoopAction TParams TResult TError)}
    {final : LoopState TParams TResult TError}
    (hrun : run (loopStep hashes config) {} actions = some final)
    (hturn : Guarded (loopStep hashes config) InTurn {} actions)
    (hstays : Guarded (loopStep hashes config) (StaysUnchanged hashes config) {} actions) :
    Unchanged hashes config final := by
  have hstart : Obeyed hashes config ({} : LoopState TParams TResult TError) :=
    obeyed_of_run hashes (run_nil _) trivial
  have hboth := run_guarded_invariant
    (fun state => Obeyed hashes config state ∧ Unchanged hashes config state)
    (fun hinv hguard hstep => ⟨hinv.1.step hashes hguard.1 hstep,
      hinv.2.step hashes hinv.1 hguard.2 hstep⟩)
    ⟨hstart, by simp, by simp, .inr (by
      intro past later heq
      rw [(List.append_eq_nil_iff.mp heq.symm).1]
      intro _
      trivial)⟩
    (hturn.and hstays) hrun
  exact hboth.2

def Alternates (sideA sideB : JsString × JsString)
    (calls : List (ExecutedCall TParams TResult TError)) : Prop :=
  ∀ position call, calls[position]? = some call →
    call.signature hashes = (sideAt sideA sideB position).1 ∧
      call.resultHash hashes = some (sideAt sideA sideB position).2

theorem sideAt_backwards (sideA sideB : JsString × JsString) {limit position : ℕ}
    (hposition : position < limit) :
    sideAt sideA sideB (limit - 1 - position) =
      sideAt (sideAt sideA sideB (limit - 1)) (sideAt sideA sideB limit) position := by
  unfold sideAt
  split_ifs <;> first | rfl | omega

theorem Obeyed.done_before (hobeyed : Obeyed hashes config state)
    {past later : List (ExecutedCall TParams TResult TError)}
    {call : ExecutedCall TParams TResult TError}
    (hexecuted : state.executed = past ++ call :: later) :
    ∀ other ∈ past, other.outcome.isSome := by
  rcases List.eq_nil_or_concat later with rfl | ⟨between, last, rfl⟩
  · exact hobeyed.settled past call hexecuted
  · intro other hother
    apply hobeyed.settled (past ++ call :: between) last
    · rw [hexecuted, List.concat_eq_append, List.append_assoc, List.cons_append]
    · exact List.mem_append_left _ hother

theorem getElem?_records {before segment : List (ExecutedCall TParams TResult TError)}
    {limit position : ℕ} (hlimit : limit ≤ segment.length) (hposition : position < limit) :
    ((before ++ segment.take limit).map (record hashes)).reverse[position]? =
      (segment[limit - 1 - position]?).map (record hashes) := by
  have hlength : ((segment.take limit).map (record hashes)).length = limit := by
    rw [List.length_map, List.length_take_of_le hlimit]
  rw [List.map_append, List.reverse_append, List.getElem?_append_left
    (by rw [List.length_reverse, hlength]; exact hposition), List.getElem?_reverse
    (by rw [hlength]; exact hposition), hlength, List.getElem?_map,
    List.getElem?_take_of_lt (by omega)]

theorem Obeyed.alternates_le
    (hobeyed : Obeyed hashes config state) (hunchanged : Unchanged hashes config state)
    (henabled : (resolveLoopDetectionConfig config).enabled = true)
    (hdetector : (resolveLoopDetectionConfig config).pingPong = true)
    (htwo : 2 ≤ (resolveLoopDetectionConfig config).historySize)
    (hsize : (resolveLoopDetectionConfig config).criticalThreshold ≤
      (resolveLoopDetectionConfig config).historySize + 1)
    {sideA sideB : JsString × JsString} (hsides : sideA.1 ≠ sideB.1)
    {before segment after : List (ExecutedCall TParams TResult TError)}
    (hexecuted : state.executed = before ++ segment ++ after)
    (halternates : Alternates hashes sideA sideB segment) :
    segment.length ≤ (resolveLoopDetectionConfig config).criticalThreshold := by
  by_contra hlong
  push Not at hlong
  set limit := (resolveLoopDetectionConfig config).criticalThreshold with hlimit
  set size := (resolveLoopDetectionConfig config).historySize with hhistorySize
  have hlimit2 : 2 ≤ limit := by
    have hordered := thresholds_ordered config
    omega
  -- the call after the first `limit` ones should have been stopped
  have hsplit := split_segment hexecuted hlong
  have hallowed := hobeyed.allowed _ _ _ hsplit
  have hmem : ∀ call ∈ segment, call ∈ state.executed := fun call hcall => by
    rw [hexecuted]
    simp [hcall]
  set calls := before ++ segment.take limit with hcalls
  have hreverse : (window hashes config calls).reverse =
      (calls.map (record hashes)).reverse.take size := by
    rw [window, List.rtake_eq_reverse_take_reverse, List.reverse_reverse]
  set lastSide := sideAt sideA sideB (limit - 1) with hlastSide
  set otherSide := sideAt sideA sideB limit with hotherSide
  have hdifferent : lastSide.1 ≠ otherSide.1 := by
    rw [hlastSide, hotherSide]
    unfold sideAt
    split_ifs <;> first | omega | exact hsides | exact hsides.symm
  have hposition : ∀ position record, position < limit → position < size →
      (window hashes config calls).reverse[position]? = some record →
        record.toolName ≠ [] ∧ record.argsHash = (sideAt lastSide otherSide position).1 ∧
          record.resultHash = some (sideAt lastSide otherSide position).2 := by
    intro position record hlt hfits hrecord
    rw [hreverse, List.getElem?_take_of_lt hfits,
      getElem?_records hashes (Nat.le_of_lt hlong) hlt] at hrecord
    obtain ⟨call, hcall, rfl⟩ := Option.map_eq_some_iff.mp hrecord
    have hside := halternates _ _ hcall
    rw [sideAt_backwards sideA sideB hlt] at hside
    exact ⟨hunchanged.named call (hmem call (List.mem_of_getElem? hcall)), hside⟩
  have hresult : ∀ position < segment.length, (sideAt sideA sideB position).2 ≠ [] := by
    intro position hlt
    have hside := halternates position _ (List.getElem?_eq_getElem hlt)
    exact hobeyed.resultHash_ne_nil hashes (hmem _ (List.getElem_mem hlt)) hside.2
  have hcurrent := (halternates limit _ (List.getElem?_eq_getElem hlong)).1
  have hlength : (window hashes config calls).length = min size calls.length := by
    rw [← List.length_reverse, hreverse, List.length_take, List.length_reverse, List.length_map]
  have hcallsLength : limit ≤ calls.length := by
    rw [hcalls, List.length_append, List.length_take_of_le (Nat.le_of_lt hlong)]
    omega
  have hwhole : (window hashes config calls).length ≤ min limit size ∨
      Steady (window hashes config calls).reverse := by
    rcases hunchanged.steady with hshort | hsteady
    · exact .inl (by omega)
    · rw [hreverse]
      exact .inr ((hsteady calls _ hsplit (hobeyed.done_before hashes hsplit)).take size)
  obtain ⟨hcount, hevidence⟩ := pingPong_of_alternation hdifferent
    (hresult (limit - 1) (by omega)) (hresult limit hlong)
    (by rw [← hcurrent]; exact hashes.hashToolCall_ne_nil _ _)
    (by omega : 2 ≤ min limit size) (by omega)
    (fun position record hlt => hposition position record (by omega) (by omega)) hwhole
  rw [← hcurrent, signature] at hcount hevidence
  have hcritical := isCritical_of_pingPong hashes henabled hdetector
    (hunchanged.noPolls _ (hmem _ (List.getElem_mem hlong))) (by omega) hevidence
  rw [hallowed] at hcritical
  cases hcritical

/-- While calls follow one another, the window holds as many calls as the breaker needs,
and alternating results stay what they are, every loop is stopped in time. -/
theorem runaway_loops_stopped (henabled : (resolveLoopDetectionConfig config).enabled = true)
    {actions : List (LoopAction TParams TResult TError)}
    {final : LoopState TParams TResult TError}
    (hrun : run (loopStep hashes config) {} actions = some final)
    (hturn : Guarded (loopStep hashes config) InTurn {} actions) :
    ((resolveLoopDetectionConfig config).globalCircuitBreakerThreshold ≤
        (resolveLoopDetectionConfig config).historySize →
      ∀ toolName argsHash resultHash before segment after,
        final.executed = before ++ segment ++ after →
          Repeats hashes toolName argsHash resultHash segment → segment.length ≤
              (resolveLoopDetectionConfig config).globalCircuitBreakerThreshold) ∧
      ((resolveLoopDetectionConfig config).pingPong = true →
        2 ≤ (resolveLoopDetectionConfig config).historySize →
        (resolveLoopDetectionConfig config).criticalThreshold ≤
          (resolveLoopDetectionConfig config).historySize + 1 →
        Guarded (loopStep hashes config) (StaysUnchanged hashes config) {} actions →
          ∀ sideA sideB : JsString × JsString, sideA.1 ≠ sideB.1 →
            ∀ before segment after, final.executed = before ++ segment ++ after →
              Alternates hashes sideA sideB segment →
                segment.length ≤ (resolveLoopDetectionConfig config).criticalThreshold) := by
  have hobeyed := obeyed_of_run hashes hrun hturn
  constructor
  · intro hsize toolName argsHash resultHash before segment after hexecuted hrepeats
    exact hobeyed.repeats_le hashes henabled hsize hexecuted hrepeats
  · intro hdetector htwo hsize hstays sideA sideB hsides before segment after hexecuted halternates
    have hunchanged := unchanged_of_run hashes hrun hturn hstays
    exact hobeyed.alternates_le hashes hunchanged henabled hdetector htwo hsize hsides
      hexecuted halternates

def numberHashes : ToolHashes ℕ ℕ Empty where
  hashToolCall toolName params := toolName ++ js ":" ++ decimal params
  pollAction _ := none
  digestResult toolName params result := js "digest " ++ decimal result
  digestError error := error.elim
  extractUnknownToolName error := error.elim
  hashToolCall_ne_nil toolName params := by simp [js, encode]
  digestResult_ne_nil toolName params result := by
    have hmark : js "digest " ≠ [] := by decide
    exact List.append_ne_nil_of_left_ne_nil hmark _

instance (state : LoopState TParams TResult TError)
    (action : LoopAction TParams TResult TError) : Decidable (InTurn state action) :=
  match action with
  | .call _ _ _ => inferInstanceAs (Decidable (∀ call ∈ state.executed, _))
  | .outcome _ _ => inferInstanceAs (Decidable (_ ∨ _))

instance (record : ToolCallRecord) (earlier : List ToolCallRecord) :
    Decidable (SteadyNext record earlier) :=
  match earlier with
  | between :: before :: _ =>
    inferInstanceAs (Decidable (record.argsHash = before.argsHash →
      between.argsHash ≠ record.argsHash → record.resultHash = before.resultHash))
  | [] => isTrue trivial
  | [_] => isTrue trivial

instance (state : LoopState TParams TResult TError) (action : LoopAction TParams TResult TError) :
    Decidable (StaysUnchanged hashes config state action) :=
  match action with
  | .call _ _ _ => inferInstanceAs (Decidable (_ ∧ (_ → _)))
  | .outcome _ _ => inferInstanceAs (Decidable (_ ∨ ∀ call ∈ state.executed[_]?, _))

def readAndWrite : List (LoopAction ℕ ℕ Empty) :=
  [.call (js "read") 1 none, .outcome 0 ⟨some 7, none⟩,
    .call (js "write") 1 none, .outcome 1 ⟨some 7, none⟩, .call (js "read") 1 none]

def shortLimits : ToolLoopDetectionConfig :=
  { enabled := some true
    historySize := some (.finite 3)
    warningThreshold := some (.finite 1)
    criticalThreshold := some (.finite 2)
    globalCircuitBreakerThreshold := some (.finite 3) }

theorem readAndWrite_runs :
    (run (loopStep numberHashes shortLimits) {} readAndWrite).isSome = true := by
  decide

def readAndWriteEnd : LoopState ℕ ℕ Empty := Option.get _ readAndWrite_runs

theorem short_loop_stopped : (∀ toolName argsHash resultHash before segment after,
      readAndWriteEnd.executed = before ++ segment ++ after →
        Repeats numberHashes toolName argsHash resultHash segment → segment.length ≤ 3) ∧
      ∀ sideA sideB : JsString × JsString, sideA.1 ≠ sideB.1 →
        ∀ before segment after, readAndWriteEnd.executed = before ++ segment ++ after →
          Alternates numberHashes sideA sideB segment → segment.length ≤ 2 := by
  have hstopped := runaway_loops_stopped numberHashes (by decide)
    (Option.eq_some_of_isSome readAndWrite_runs) (by decide)
  exact ⟨hstopped.1 (by decide), hstopped.2 (by decide) (by decide) (by decide) (by decide)⟩

def enabledOnly : ToolLoopDetectionConfig := { enabled := some true }

def readsAndWrites : List (LoopAction ℕ ℕ Empty) :=
  (List.range 22).flatMap fun index =>
    [.call (if index % 2 = 0 then js "read" else js "write") 1 none,
      .outcome index ⟨some (if index = 0 then 0 else 7), none⟩]

theorem readsAndWrites_runs :
    (run (loopStep numberHashes enabledOnly) {} readsAndWrites).isSome = true := by
  decide

def readsAndWritesEnd : LoopState ℕ ℕ Empty := Option.get _ readsAndWrites_runs

/-- With the default limits an alternation goes on beyond the critical threshold while
the window still holds an older result. -/
theorem alternation_runs_on : (resolveLoopDetectionConfig enabledOnly).enabled = true ∧
      (resolveLoopDetectionConfig enabledOnly).pingPong = true ∧
      Guarded (loopStep numberHashes enabledOnly) InTurn {} readsAndWrites ∧
      ∃ final sideA sideB before segment after,
        run (loopStep numberHashes enabledOnly) {} readsAndWrites = some final ∧
          sideA.1 ≠ sideB.1 ∧ final.executed = before ++ segment ++ after ∧
          Alternates numberHashes sideA sideB segment ∧
          (resolveLoopDetectionConfig enabledOnly).criticalThreshold < segment.length := by
  refine ⟨by decide, by decide, by decide +kernel, readsAndWritesEnd,
    (js "write:1", js "digest 7"), (js "read:1", js "digest 7"),
    readsAndWritesEnd.executed.take 1, readsAndWritesEnd.executed.drop 1, [],
    Option.eq_some_of_isSome readsAndWrites_runs, by decide, ?_, ?_, by decide⟩
  · rw [List.append_nil, List.take_append_drop]
  · have hsides : ∀ position < 21, ∀ call ∈ (readsAndWritesEnd.executed.drop 1)[position]?,
          call.signature numberHashes =
              (sideAt (js "write:1", js "digest 7") (js "read:1", js "digest 7") position).1 ∧
            call.resultHash numberHashes = some
              (sideAt (js "write:1", js "digest 7") (js "read:1", js "digest 7") position).2 := by
      decide
    have hlength : (readsAndWritesEnd.executed.drop 1).length = 21 := by decide
    intro position call hcall
    have hlt := (List.getElem?_eq_some_iff.mp hcall).1
    exact hsides position (by omega) call hcall

end LittleBaby.ToolLoops
