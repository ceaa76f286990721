import LittleBaby.ReplyRunRegistry

/-!
# Consistency of the reply run registry

An operation is registered under its key until its state is cleared.
-/

namespace LittleBaby.ReplyRuns

open JsString Arena Entries LabelledMachine

structure Consistent (state : ReplyRunState) : Prop where
  registered : ∀ key index, state.activeRunsByKey.lookup key = some index →
    ∃ operation, state.operations.get? index = some operation ∧
      operation.key = key ∧ operation.stateCleared = false
  active : ∀ index operation, state.operations.get? index = some operation →
    operation.stateCleared = false → state.activeRunsByKey.lookup operation.key = some index
  finished : ∀ index operation, state.operations.get? index = some operation →
    operation.stateCleared = true → operation.result.isSome = true
  trimmed : ∀ index operation, state.operations.get? index = some operation →
    nonBlank operation.currentSessionId = some operation.currentSessionId
  sessionId : ∀ index operation, state.operations.get? index = some operation →
    operation.stateCleared = false → state.activeSessionIdsByKey.lookup operation.key =
        some operation.currentSessionId
  keyOf : ∀ index operation, state.operations.get? index = some operation →
    operation.stateCleared = false →
      state.activeKeysBySessionId.lookup operation.currentSessionId = some operation.key
  aborting : ∀ call ∈ state.abortCalls, ∃ operation,
    state.operations.get? call.operation = some operation ∧ operation.result.isSome = true

theorem consistent_empty : Consistent replyRunState := by
  constructor <;> simp [replyRunState]

variable {state next : ReplyRunState} {index : ℕ} {operation : ReplyOperation}

section

variable (hconsistent : Consistent state) {other : ℕ} {second : ReplyOperation} (hget :
  state.operations.get? index = some operation) (hopen : operation.stateCleared = false) (hother :
  state.operations.get? other = some second) (hsecond : second.stateCleared = false) (hne : other
  ≠ index)

include hconsistent hget hopen hother hsecond hne

theorem Consistent.key_ne : second.key ≠ operation.key := by
  intro heq
  have hfirst := hconsistent.active index operation hget hopen
  have hlater := hconsistent.active other second hother hsecond
  rw [heq, hfirst] at hlater
  exact hne (Option.some.inj hlater).symm

theorem Consistent.sessionId_ne : second.currentSessionId ≠ operation.currentSessionId := by
  intro heq
  have hfirst := hconsistent.keyOf index operation hget hopen
  have hlater := hconsistent.keyOf other second hother hsecond
  rw [heq, hfirst] at hlater
  exact hconsistent.key_ne hget hopen hother hsecond hne (Option.some.inj hlater).symm

end

structure SameMaps (state next : ReplyRunState) : Prop where
  runs : next.activeRunsByKey = state.activeRunsByKey
  sessionIds : next.activeSessionIdsByKey = state.activeSessionIdsByKey
  keys : next.activeKeysBySessionId = state.activeKeysBySessionId

theorem Consistent.sameMaps (hconsistent : Consistent state)
    (hoperations : next.operations = state.operations)
    (hcalls : next.abortCalls ⊆ state.abortCalls)
    (hmaps : SameMaps state next) : Consistent next := by
  obtain ⟨hruns, hsessionIds, hkeys⟩ := hmaps
  constructor
  · rw [hruns, hoperations]
    exact hconsistent.registered
  · rw [hruns, hoperations]
    exact hconsistent.active
  · rw [hoperations]
    exact hconsistent.finished
  · rw [hoperations]
    exact hconsistent.trimmed
  · rw [hsessionIds, hoperations]
    exact hconsistent.sessionId
  · rw [hkeys, hoperations]
    exact hconsistent.keyOf
  · rw [hoperations]
    exact fun call hcall => hconsistent.aborting call (hcalls hcall)

/-- An operation keeps its key, its session id and its registration. -/
structure Kept (operation changed : ReplyOperation) : Prop where
  key : changed.key = operation.key
  currentSessionId : changed.currentSessionId = operation.currentSessionId
  stateCleared : changed.stateCleared = operation.stateCleared
  result : operation.result.isSome = true → changed.result.isSome = true

section

variable (hconsistent : Consistent state)
include hconsistent

theorem Consistent.change {changed : ReplyOperation} (hget : ∀ other, next.operations.get? other =
      if other = index then some changed else state.operations.get? other)
    (hruns : ∀ key other, next.activeRunsByKey.lookup key = some other →
      other = index ∧ changed.key = key ∧ changed.stateCleared = false ∨
        other ≠ index ∧ state.activeRunsByKey.lookup key = some other)
    (hself : changed.stateCleared = false → next.activeRunsByKey.lookup changed.key = some index ∧
        next.activeSessionIdsByKey.lookup changed.key = some changed.currentSessionId ∧
        next.activeKeysBySessionId.lookup changed.currentSessionId = some changed.key)
    (hfinished : changed.stateCleared = true → changed.result.isSome = true)
    (htrimmed : nonBlank changed.currentSessionId = some changed.currentSessionId)
    (hothers : ∀ other second, other ≠ index →
      state.operations.get? other = some second → second.stateCleared = false →
        next.activeRunsByKey.lookup second.key = state.activeRunsByKey.lookup second.key ∧
          next.activeSessionIdsByKey.lookup second.key =
            state.activeSessionIdsByKey.lookup second.key ∧
          next.activeKeysBySessionId.lookup second.currentSessionId =
            state.activeKeysBySessionId.lookup second.currentSessionId)
    (haborting : ∀ call ∈ next.abortCalls, (call.operation = index → changed.result.isSome = true) ∧
        (call.operation = index ∨ call ∈ state.abortCalls)) :
    Consistent next := by
  have hfind : ∀ other second, next.operations.get? other = some second →
      other = index ∧ changed = second ∨
        other ≠ index ∧ state.operations.get? other = some second := by
    intro other second hother
    rw [hget] at hother
    split_ifs at hother with hindex
    · exact .inl ⟨hindex, Option.some.inj hother⟩
    · exact .inr ⟨hindex, hother⟩
  have hopened : ∀ other second, next.operations.get? other = some second →
      second.stateCleared = false → next.activeRunsByKey.lookup second.key = some other ∧
        next.activeSessionIdsByKey.lookup second.key = some second.currentSessionId ∧
        next.activeKeysBySessionId.lookup second.currentSessionId = some second.key := by
    intro other second hother hopen
    rcases hfind other second hother with ⟨rfl, rfl⟩ | ⟨hindex, hold⟩
    · exact hself hopen
    · obtain ⟨hruns, hsessionIds, hkeys⟩ := hothers other second hindex hold hopen
      rw [hruns, hsessionIds, hkeys]
      exact ⟨hconsistent.active other second hold hopen,
        hconsistent.sessionId other second hold hopen, hconsistent.keyOf other second hold hopen⟩
  constructor
  case registered =>
    intro key other hlookup
    rw [hget]
    rcases hruns key other hlookup with ⟨hindex, hkey, hopen⟩ | ⟨hindex, hold⟩
    · rw [if_pos hindex]
      exact ⟨changed, rfl, hkey, hopen⟩
    · rw [if_neg hindex]
      exact hconsistent.registered key other hold
  case active => exact fun other second hother hopen => (hopened other second hother hopen).1
  case finished =>
    intro other second hother hcleared
    rcases hfind other second hother with ⟨-, rfl⟩ | ⟨-, hold⟩
    · exact hfinished hcleared
    · exact hconsistent.finished other second hold hcleared
  case trimmed =>
    intro other second hother
    rcases hfind other second hother with ⟨-, rfl⟩ | ⟨-, hold⟩
    · exact htrimmed
    · exact hconsistent.trimmed other second hold
  case sessionId =>
    exact fun other second hother hopen => (hopened other second hother hopen).2.1
  case keyOf => exact fun other second hother hopen => (hopened other second hother hopen).2.2
  case aborting =>
    intro call hcall
    obtain ⟨hresult, hwhich⟩ := haborting call hcall
    rw [hget]
    by_cases hindex : call.operation = index
    · rw [if_pos hindex]
      exact ⟨changed, rfl, hresult hindex⟩
    · rw [if_neg hindex]
      exact hconsistent.aborting call (hwhich.resolve_left hindex)

theorem Consistent.aborted (hget : state.operations.get? index = some operation) {call : AbortCall}
    (hcall : call ∈ state.abortCalls) (hindex : call.operation = index) :
    operation.result.isSome = true := by
  obtain ⟨found, hfound, hresult⟩ := hconsistent.aborting call hcall
  rw [hindex, hget, Option.some.injEq] at hfound
  exact hfound ▸ hresult

theorem Consistent.registered_of_put (hget : state.operations.get? index = some operation)
    {changed : ReplyOperation} (hkey : changed.key = operation.key)
    (hcleared : changed.stateCleared = operation.stateCleared)
    (key : JsString) (other : ℕ)
    (hlookup : state.activeRunsByKey.lookup key = some other) :
    other = index ∧ changed.key = key ∧ changed.stateCleared = false ∨
      other ≠ index ∧ state.activeRunsByKey.lookup key = some other := by
  by_cases hindex : other = index
  · obtain ⟨old, hold, holdkey, holdopen⟩ := hconsistent.registered key other hlookup
    rw [hindex, hget, Option.some.injEq] at hold
    subst hold
    exact .inl ⟨hindex, hkey.trans holdkey, hcleared.trans holdopen⟩
  · exact .inr ⟨hindex, hlookup⟩

theorem Consistent.put (hget : state.operations.get? index = some operation)
    {changed : ReplyOperation} (hkept : Kept operation changed) :
    Consistent (putOperation index changed state) := by
  obtain ⟨hkey, hid, hcleared, hresult⟩ := hkept
  apply hconsistent.change (get?_put hget changed)
  case hruns => exact hconsistent.registered_of_put hget hkey hcleared
  case hself =>
    intro hopen
    rw [hcleared] at hopen
    rw [hkey, hid]
    exact ⟨hconsistent.active index operation hget hopen,
      hconsistent.sessionId index operation hget hopen,
      hconsistent.keyOf index operation hget hopen⟩
  case hfinished =>
    intro hclosed
    exact hresult (hconsistent.finished index operation hget (hcleared ▸ hclosed))
  case htrimmed =>
    rw [hid]
    exact hconsistent.trimmed index operation hget
  case hothers => exact fun _ _ _ _ _ => ⟨rfl, rfl, rfl⟩
  case haborting =>
    exact fun call hcall => ⟨fun hindex =>
      hresult (hconsistent.aborted hget hcall hindex), .inr hcall⟩

end

variable (sessionKey : JsString)

theorem notifyReplyRunEnded_maps (state : ReplyRunState) :
    SameMaps state (notifyReplyRunEnded sessionKey state) := by
  unfold notifyReplyRunEnded
  split <;> exact ⟨rfl, rfl, rfl⟩

variable (sessionId : JsString)

theorem clearReplyRunState_operations (state : ReplyRunState) :
    (clearReplyRunState sessionKey sessionId state).operations =
      state.operations := by
  unfold clearReplyRunState notifyReplyRunEnded
  simp only
  split <;> rfl

theorem clearReplyRunState_abortCalls (state : ReplyRunState) :
    (clearReplyRunState sessionKey sessionId state).abortCalls =
      state.abortCalls := by
  unfold clearReplyRunState notifyReplyRunEnded
  simp only
  split <;> rfl

theorem clearReplyRunState_maps (state : ReplyRunState) : SameMaps { state with
        activeRunsByKey := erase sessionKey state.activeRunsByKey
        activeSessionIdsByKey := erase sessionKey state.activeSessionIdsByKey
        activeKeysBySessionId :=
          if state.activeKeysBySessionId.lookup sessionId = some sessionKey then
            erase sessionId state.activeKeysBySessionId
          else state.activeKeysBySessionId }
      (clearReplyRunState sessionKey sessionId state) := by
  have hsame := fun cleared =>
    notifyReplyRunEnded_maps sessionKey (clearWaitSessionIds sessionKey cleared)
  exact ⟨(hsame _).runs, (hsame _).sessionIds, (hsame _).keys⟩

theorem Consistent.clear (hconsistent : Consistent state)
    (hget : state.operations.get? index = some operation)
    {changed : ReplyOperation} (hkept : Kept operation changed)
    (hresult : changed.result.isSome = true) :
    Consistent (clearState index changed state) := by
  have hput := hconsistent.put hget hkept
  unfold clearState
  split_ifs with hcleared
  · exact hput
  · have hopen : operation.stateCleared = false := by
      simpa [hkept.stateCleared] using hcleared
    have hmaps := clearReplyRunState_maps changed.key changed.currentSessionId
      (putOperation index { changed with stateCleared := true } state)
    have hmapped : state.activeKeysBySessionId.lookup changed.currentSessionId =
        some changed.key := by
      rw [hkept.currentSessionId, hkept.key]
      exact hconsistent.keyOf index operation hget hopen
    have hkeys := hmaps.keys.trans (if_pos hmapped)
    apply hconsistent.change
    case hget =>
      intro other
      rw [clearReplyRunState_operations]
      exact get?_put hget _ other
    case hruns =>
      intro key other hlookup
      rw [hmaps.runs] at hlookup
      change (erase changed.key state.activeRunsByKey).lookup key = _ at hlookup
      have hne : key ≠ changed.key := by
        rintro rfl
        simp at hlookup
      rw [lookup_erase_of_ne hne] at hlookup
      refine .inr ⟨?_, hlookup⟩
      rintro rfl
      obtain ⟨old, hold, holdkey, -⟩ := hconsistent.registered key _ hlookup
      cases hget.symm.trans hold
      exact hne (holdkey.symm.trans hkept.key.symm)
    case hself => exact fun hnot => nomatch hnot
    case hfinished => exact fun _ => hresult
    case htrimmed =>
      simpa [hkept.currentSessionId] using hconsistent.trimmed index operation hget
    case hothers =>
      intro other second hindex hold hsecond
      have hkeyNe := hconsistent.key_ne hget hopen hold hsecond hindex
      have hidNe := hconsistent.sessionId_ne hget hopen hold hsecond hindex
      rw [hmaps.runs, hmaps.sessionIds, hkeys]
      exact ⟨lookup_erase_of_ne (hkept.key ▸ hkeyNe), lookup_erase_of_ne (hkept.key ▸ hkeyNe),
        lookup_erase_of_ne (hkept.currentSessionId ▸ hidNe)⟩
    case haborting =>
      intro call hcall
      rw [clearReplyRunState_abortCalls] at hcall
      exact ⟨fun _ => hresult, .inr hcall⟩

theorem Consistent.createReplyOperation (hconsistent : Consistent state)
    {sessionKey sessionId : JsString} {upstreamAborted : Bool}
    (hseparate : Separate state (.begin sessionKey sessionId upstreamAborted))
    (hcreate : createReplyOperation sessionKey sessionId upstreamAborted state =
      .ok next) : Consistent next := by
  unfold ReplyRuns.createReplyOperation at hcreate
  cases hkey : nonBlank sessionKey with
  | none => simp [hkey] at hcreate
  | some key =>
    cases hid : nonBlank sessionId with
    | none => simp [hkey, hid] at hcreate
    | some id =>
      simp only [hkey, hid] at hcreate
      split_ifs at hcreate with hactive
      have hnone : state.activeRunsByKey.lookup key = none :=
        Option.not_isSome_iff_eq_none.mp hactive
      have hfree : ∀ other, state.activeKeysBySessionId.lookup id = some other → other = key :=
        hseparate key hkey id hid hnone
      cases hcreate
      have hold : ∀ other second, state.operations.get? other = some second →
            second.stateCleared = false → second.key ≠ key := by
        intro other second hother hopen heq
        have hlookup := hconsistent.active other second hother hopen
        rw [heq, hnone] at hlookup
        contradiction
      apply hconsistent.change (get?_push _)
      case hruns =>
        intro searched other hlookup
        change (set key state.operations.size
          state.activeRunsByKey).lookup searched = some other at hlookup
        by_cases hsame : searched = key
        · rw [hsame, lookup_set_self, Option.some.injEq] at hlookup
          exact .inl ⟨hlookup.symm, hsame.symm, rfl⟩
        · rw [lookup_set_of_ne hsame] at hlookup
          obtain ⟨old, hget, -⟩ := hconsistent.registered searched other hlookup
          exact .inr ⟨Nat.ne_of_lt (lt_size_of_get? hget), hlookup⟩
      case hself =>
        exact fun _ => ⟨lookup_set_self, lookup_set_self, lookup_set_self⟩
      case hfinished => exact fun hnot => nomatch hnot
      case htrimmed => exact nonBlank_of_nonBlank hid
      case hothers =>
        intro other second _ hget hopen
        have hne := hold other second hget hopen
        have hidNe : second.currentSessionId ≠ id := by
          rintro rfl
          exact hne (hfree _ (hconsistent.keyOf other second hget hopen))
        exact ⟨lookup_set_of_ne hne, lookup_set_of_ne hne, lookup_set_of_ne hidNe⟩
      case haborting =>
        intro call hcall
        refine ⟨fun hindex => ?_, .inr hcall⟩
        obtain ⟨old, hget, -⟩ := hconsistent.aborting call hcall
        have hlt := lt_size_of_get? hget
        omega

theorem Consistent.updateSessionId (hconsistent : Consistent state)
    (hget : state.operations.get? index = some operation)
    {nextSessionId : JsString}
    (hupdate : updateSessionId index operation state nextSessionId = .ok next) :
    Consistent next := by
  unfold ReplyRuns.updateSessionId at hupdate
  split_ifs at hupdate with hresult
  · exact Except.ok.inj hupdate ▸ hconsistent
  have hopen : operation.stateCleared = false := by
    by_contra hcleared
    exact hresult (hconsistent.finished index operation hget (by simpa using hcleared))
  cases hid : nonBlank nextSessionId with
  | none =>
    simp only [hid] at hupdate
    exact Except.ok.inj hupdate ▸ hconsistent
  | some id =>
    simp only [hid] at hupdate
    split_ifs at hupdate with hsame hbusy
    · exact Except.ok.inj hupdate ▸ hconsistent
    · cases hupdate
      have hfree : ∀ other, state.activeKeysBySessionId.lookup id = some other →
            other = operation.key := by
        intro other hother
        by_contra hne
        exact hbusy ⟨by simp [hother], by simpa [hother] using hne⟩
      apply hconsistent.change (get?_put hget { operation with currentSessionId := id })
      case hruns => exact hconsistent.registered_of_put hget rfl rfl
      case hself =>
        exact fun _ => ⟨hconsistent.active index operation hget hopen,
          lookup_set_self, lookup_set_self⟩
      case hfinished => exact hconsistent.finished index operation hget
      case htrimmed => exact nonBlank_of_nonBlank hid
      case hothers =>
        intro other second hindex hold hsecond
        have hkey := hconsistent.key_ne hget hopen hold hsecond hindex
        have hidNe : second.currentSessionId ≠ id := by
          rintro rfl
          exact hkey (hfree _ (hconsistent.keyOf other second hold hsecond))
        exact ⟨rfl, lookup_set_of_ne hkey, (lookup_set_of_ne hidNe).trans (lookup_erase_of_ne
            (hconsistent.sessionId_ne hget hopen hold hsecond hindex))⟩
      case haborting =>
        exact fun call hcall =>
          ⟨hconsistent.aborted hget hcall, .inr hcall⟩

theorem step_cancelBackend (hstep : step state .cancelBackend = some next) :
    ∃ call rest operation, state.abortCalls = call :: rest ∧ (call.attached = none ∧
        state.operations.get? call.operation = some operation) ∧
      cancelBackend call rest operation state = next := by
  simp only [step] at hstep
  split at hstep
  next => contradiction
  next call rest hcalls =>
    rw [Option.ite_none_left_eq_some] at hstep
    obtain ⟨hattached, hstep⟩ := hstep
    obtain ⟨operation, hget, hnext⟩ := Option.map_eq_some_iff.mp hstep
    exact ⟨call, rest, operation, hcalls, ⟨by simpa using hattached, hget⟩, hnext⟩

theorem step_returnAbort {threw : Bool} (hstep : step state (.returnAbort threw) = some next) :
    ∃ call rest attached operation, state.abortCalls = call :: rest ∧
      call.attached = some attached ∧
      state.operations.get? call.operation = some operation ∧
      returnAbort call attached operation threw { state with abortCalls := rest } = next := by
  simp only [step] at hstep
  split at hstep
  next => contradiction
  next call rest hcalls =>
    obtain ⟨attached, hattached, hstep⟩ := Option.bind_eq_some_iff.mp hstep
    obtain ⟨operation, hget, hnext⟩ := Option.map_eq_some_iff.mp hstep
    exact ⟨call, rest, attached, operation, hcalls, hattached, hget, hnext⟩

theorem Consistent.abort (hconsistent : Consistent state)
    (hget : state.operations.get? index = some operation)
    (reason : ReplyBackendCancelReason) (abortedCode : ReplyOperationAbortCode) :
    Consistent (abortWithReason index operation state reason abortedCode) := by
  have hsome : (operation.result.or (some (.aborted abortedCode))).isSome = true := by
    simp
  have hput := @Consistent.put _ index operation hconsistent hget { operation with
      result := operation.result.or (some (.aborted abortedCode))
      phase := .aborted
      signalAborted := true } ⟨rfl, rfl, rfl, fun _ => hsome⟩
  refine { hput with aborting := ?_ }
  intro call hcall
  rcases List.mem_cons.mp hcall with rfl | hbefore
  · change ∃ found, (state.operations.put index _).get? index = _ ∧ _
    rw [get?_put hget, if_pos rfl]
    exact ⟨_, rfl, hsome⟩
  · exact hput.aborting call hbefore

variable {call : AbortCall} {rest : List AbortCall}

theorem Consistent.popCall (hconsistent : Consistent state)
    (hcalls : state.abortCalls = call :: rest) :
    Consistent { state with abortCalls := rest } :=
  { hconsistent with
    aborting := fun call hcall =>
      hconsistent.aborting call (hcalls ▸ List.mem_cons_of_mem _ hcall) }

theorem Consistent.cancelBackend (hconsistent : Consistent state)
    (hcalls : state.abortCalls = call :: rest) (operation : ReplyOperation) :
    Consistent (cancelBackend call rest operation state) := by
  have hcalled : Consistent { state with
      abortCalls := { call with attached := some operation.backend } :: rest } := by
    refine { hconsistent with aborting := fun other hother => ?_ }
    rcases List.mem_cons.mp hother with rfl | hrest
    · exact hconsistent.aborting call (hcalls ▸ List.mem_cons_self)
    · exact (hconsistent.popCall hcalls).aborting other hrest
  unfold ReplyRuns.cancelBackend
  simp only
  split
  next => exact hcalled
  next => exact { hcalled with }

theorem Consistent.returnAbort (hconsistent : Consistent state)
    (hcalls : state.abortCalls = call :: rest)
    (hget : state.operations.get? call.operation = some operation)
    (attached : Option ℕ) (threw : Bool) :
    Consistent (returnAbort call attached operation threw { state with abortCalls := rest }) := by
  have hpopped := hconsistent.popCall hcalls
  unfold ReplyRuns.returnAbort
  split_ifs
  · exact hpopped
  · exact hpopped.clear hget ⟨rfl, rfl, rfl, id⟩
      (hconsistent.aborted hget (hcalls ▸ List.mem_cons_self) rfl)
  · exact hpopped

theorem step_consistent {action : Action} (hconsistent : Consistent state)
    (hseparate : Separate state action) (hstep : step state action = some next) :
    Consistent next := by
  cases action with
  | begin sessionKey sessionId upstreamAborted =>
    cases hstep
    cases hcreate : createReplyOperation sessionKey sessionId upstreamAborted state with
    | error error => exact hconsistent
    | ok created => exact hconsistent.createReplyOperation hseparate hcreate
  | setPhase index phase =>
    obtain ⟨operation, hget, rfl⟩ := Option.map_eq_some_iff.mp hstep
    unfold setPhase
    split_ifs
    · exact hconsistent
    · exact hconsistent.put hget ⟨rfl, rfl, rfl, id⟩
  | updateSessionId index nextSessionId =>
    obtain ⟨operation, hget, rfl⟩ := Option.map_eq_some_iff.mp hstep
    cases hupdate : updateSessionId index operation state nextSessionId with
    | error error => exact hconsistent
    | ok updated => exact hconsistent.updateSessionId hget hupdate
  | attachBackend index handle =>
    obtain ⟨operation, hget, rfl⟩ := Option.map_eq_some_iff.mp hstep
    have hput := @Consistent.put _ index operation hconsistent hget
      { operation with backend := some handle } ⟨rfl, rfl, rfl, id⟩
    unfold attachBackend
    split
    next => exact hconsistent.sameMaps rfl (List.Subset.refl _) ⟨rfl, rfl, rfl⟩
    next =>
      simp only
      split_ifs
      · exact hput.sameMaps rfl (List.Subset.refl _) ⟨rfl, rfl, rfl⟩
      · exact hput
  | detachBackend index handle =>
    obtain ⟨operation, hget, rfl⟩ := Option.map_eq_some_iff.mp hstep
    unfold detachBackend
    split_ifs
    · exact hconsistent.put hget ⟨rfl, rfl, rfl, id⟩
    · exact hconsistent
  | complete | fail =>
    obtain ⟨operation, hget, rfl⟩ := Option.map_eq_some_iff.mp hstep
    simp only [complete, fail]
    split_ifs with hresult
    · exact hconsistent.clear hget ⟨rfl, rfl, rfl, id⟩ hresult
    · exact hconsistent.clear hget ⟨rfl, rfl, rfl, fun _ => rfl⟩ rfl
  | abortByUser | abortForRestart =>
    obtain ⟨operation, hget, rfl⟩ := Option.map_eq_some_iff.mp hstep
    exact hconsistent.abort hget _ _
  | cancelBackend =>
    obtain ⟨call, rest, operation, hcalls, -, rfl⟩ := step_cancelBackend hstep
    exact hconsistent.cancelBackend hcalls operation
  | returnAbort threw =>
    obtain ⟨call, rest, attached, operation, hcalls, -, hget, rfl⟩ := step_returnAbort hstep
    exact hconsistent.returnAbort hcalls hget attached threw
  | upstreamAbort index =>
    obtain ⟨operation, hget, rfl⟩ := Option.map_eq_some_iff.mp hstep
    exact hconsistent.put hget ⟨rfl, rfl, rfl, id⟩
  | waitForIdle sessionKey =>
    cases hstep
    unfold waitForIdle
    simp only
    split
    next => exact hconsistent.sameMaps rfl (List.Subset.refl _) ⟨rfl, rfl, rfl⟩
    next =>
      split_ifs <;> exact hconsistent.sameMaps rfl (List.Subset.refl _) ⟨rfl, rfl, rfl⟩
  | waitTimeout sessionKey waiter =>
    obtain ⟨waiters, -, hstep⟩ := Option.bind_eq_some_iff.mp hstep
    simp only [Option.ite_none_right_eq_some, Option.some.injEq] at hstep
    obtain ⟨-, rfl⟩ := hstep
    exact hconsistent.sameMaps rfl (List.Subset.refl _) ⟨rfl, rfl, rfl⟩

def Cleared (state : ReplyRunState) (index : ℕ) : Prop :=
  ∃ operation, state.operations.get? index = some operation ∧ operation.stateCleared = true

theorem Consistent.registered_iff (hconsistent : Consistent state)
    (hget : state.operations.get? index = some operation) :
    Registered state index ↔ ¬ Cleared state index := by
  constructor
  · rintro ⟨found, hfound, hlookup⟩ ⟨second, hsecond, hcleared⟩
    obtain ⟨third, hthird, -, hopen⟩ := hconsistent.registered found.key index hlookup
    cases hsecond.symm.trans hthird
    rw [hopen] at hcleared
    contradiction
  · intro hopen
    refine ⟨operation, hget, hconsistent.active index operation hget ?_⟩
    by_contra hcleared
    exact hopen ⟨operation, hget, by simpa using hcleared⟩

theorem clearState_operations (index : ℕ) (operation : ReplyOperation) (state : ReplyRunState) :
    (clearState index operation state).operations =
      state.operations.put index { operation with stateCleared := true } := by
  unfold clearState
  split_ifs with hcleared
  · rw [← hcleared]
    rfl
  · rw [clearReplyRunState_operations]
    rfl

def ReplyOperationResult.phase : ReplyOperationResult → ReplyOperationPhase
  | .completed => .completed
  | .failed _ => .failed
  | .aborted _ => .aborted

inductive Effect (state : ReplyRunState) (index : ℕ)
    (operation : ReplyOperation) : Action → ReplyOperation → Prop
  | same (action : Action) (hends : Separate state action → ¬ EndsOperation index state action) :
      Effect state index operation action operation
  | setPhase (phase : SettablePhase) (hlive : operation.result = none) :
      Effect state index operation (.setPhase index phase) { operation with phase := phase.toPhase }
  | updateSessionId (nextSessionId id : JsString) :
      Effect state index operation (.updateSessionId index nextSessionId)
        { operation with currentSessionId := id }
  | attachBackend (handle : ℕ) (hlive : operation.result = none) :
      Effect state index operation (.attachBackend index handle)
        { operation with backend := some handle }
  | detachBackend (handle : ℕ) (hattached : operation.backend = some handle) :
      Effect state index operation (.detachBackend index handle) { operation with backend := none }
  | ends (action : Action) (hends : EndsOperation index state action)
      (changed : ReplyOperation) (hcleared : changed.stateCleared = true)
      (hbackend : changed.backend = operation.backend)
      (hresult : changed.result = operation.result ∧ changed.phase = operation.phase ∨
        operation.result = none ∧ ∀ result, changed.result = some result →
          changed.phase = result.phase) :
      Effect state index operation action changed
  | aborts (action : Action) (code : ReplyOperationAbortCode)
      (haction : action = .abortByUser index ∨ action = .abortForRestart index) :
      Effect state index operation action { operation with
          result := operation.result.or (some (.aborted code))
          phase := .aborted
          signalAborted := true }
  | upstreamAbort : Effect state index operation (.upstreamAbort index)
      { operation with signalAborted := true }

structure Effects (state next : ReplyRunState) (action : Action) (index : ℕ) :
    Prop where
  old : ∀ operation, state.operations.get? index = some operation →
    ∃ changed, next.operations.get? index = some changed ∧
      Effect state index operation action changed
  new : state.operations.get? index = none → ¬ EndsOperation index state action ∧ ∀ added,
      next.operations.get? index = some added → added.stateCleared = false ∧ added.result = none

variable {action : Action}

theorem Effects.same {other : ℕ} (hget : next.operations.get? other = state.operations.get? other)
    (hends : ¬ EndsOperation other state action) :
    Effects state next action other := by
  constructor
  · intro operation hold
    exact ⟨operation, hget.trans hold, .same action fun _ => hends⟩
  · intro hnone
    exact ⟨hends, fun added hadded => by simp [hget, hnone] at hadded⟩

theorem Effects.put {action : Action} {changed : ReplyOperation}
    (hget : state.operations.get? index = some operation)
    (hoperations : next.operations = state.operations.put index changed)
    (heffect : Effect state index operation action changed)
    (hends : ∀ other, other ≠ index → ¬ EndsOperation other state action)
    (other : ℕ) : Effects state next action other := by
  by_cases hindex : other = index
  · subst hindex
    constructor
    · intro old hold
      cases hget.symm.trans hold
      exact ⟨changed, by rw [hoperations, get?_put hget, if_pos rfl], heffect⟩
    · intro hnone
      rw [hget] at hnone
      contradiction
  · apply Effects.same _ (hends other hindex)
    rw [hoperations, get?_put hget, if_neg hindex]

theorem Effects.ended (result : ReplyOperationResult)
    (hget : state.operations.get? index = some operation)
    (hends : EndsOperation index state action)
    (hothers : ∀ other, other ≠ index → ¬ EndsOperation other state action)
    (other : ℕ) : Effects state (clearState index (if operation.result.isSome then operation
      else { operation with result := some result, phase := result.phase })
        state) action other := by
  apply Effects.put hget (clearState_operations _ _ _) _ hothers
  split_ifs with hresult
  · exact .ends action hends _ rfl rfl (.inl ⟨rfl, rfl⟩)
  · refine .ends action hends _ rfl rfl (.inr ⟨by simpa using hresult, ?_⟩)
    rintro _ ⟨⟩
    rfl

theorem step_effects (hstep : step state action = some next) (other : ℕ) :
    Effects state next action other := by
  cases action with
  | begin sessionKey sessionId upstreamAborted =>
    cases hstep
    unfold createReplyOperation
    split
    next => exact .same rfl not_false
    next =>
      split
      next => exact .same rfl not_false
      next =>
        split_ifs
        · exact .same rfl not_false
        · constructor
          · intro operation hget
            exact ⟨operation, get?_push_of_get? _ hget, .same _ fun _ => not_false⟩
          · intro hnone
            refine ⟨not_false, fun added hadded => ?_⟩
            rcases get?_push_eq_some.mp hadded with ⟨-, rfl⟩ | hget
            · exact ⟨rfl, rfl⟩
            · rw [hnone] at hget
              contradiction
  | setPhase index phase =>
    obtain ⟨operation, hget, rfl⟩ := Option.map_eq_some_iff.mp hstep
    unfold setPhase
    split_ifs with hresult
    · exact .same rfl not_false
    · exact .put hget rfl (.setPhase phase (by simpa using hresult)) (fun _ _ => not_false) other
  | updateSessionId index nextSessionId =>
    obtain ⟨operation, hget, rfl⟩ := Option.map_eq_some_iff.mp hstep
    unfold updateSessionId
    split_ifs
    · exact .same rfl not_false
    · split
      next => exact .same rfl not_false
      next id _ =>
        split_ifs
        · exact .same rfl not_false
        · exact .same rfl not_false
        · exact .put hget rfl (.updateSessionId nextSessionId id) (fun _ _ => not_false) other
  | attachBackend index handle =>
    obtain ⟨operation, hget, rfl⟩ := Option.map_eq_some_iff.mp hstep
    unfold attachBackend
    split
    next => exact .same rfl not_false
    next hlive =>
      simp only
      split_ifs <;> exact .put hget rfl (.attachBackend handle hlive) (fun _ _ => not_false) other
  | detachBackend index handle =>
    obtain ⟨operation, hget, rfl⟩ := Option.map_eq_some_iff.mp hstep
    unfold detachBackend
    split_ifs with hattached
    · exact .put hget rfl (.detachBackend handle hattached) (fun _ _ => not_false) other
    · exact .same rfl not_false
  | complete index =>
    obtain ⟨operation, hget, rfl⟩ := Option.map_eq_some_iff.mp hstep
    exact @Effects.ended _ _ _ (.complete index) .completed hget rfl
      (fun _ hne heq => hne (Eq.symm heq)) other
  | fail index code =>
    obtain ⟨operation, hget, rfl⟩ := Option.map_eq_some_iff.mp hstep
    exact @Effects.ended _ _ _ (.fail index code) (.failed code) hget rfl
      (fun _ hne heq => hne (Eq.symm heq)) other
  | abortByUser index =>
    obtain ⟨operation, hget, rfl⟩ := Option.map_eq_some_iff.mp hstep
    exact .put hget rfl (.aborts _ _ (.inl rfl)) (fun _ _ => not_false) other
  | abortForRestart index =>
    obtain ⟨operation, hget, rfl⟩ := Option.map_eq_some_iff.mp hstep
    exact .put hget rfl (.aborts _ _ (.inr rfl)) (fun _ _ => not_false) other
  | cancelBackend =>
    obtain ⟨call, rest, operation, -, -, rfl⟩ := step_cancelBackend hstep
    unfold cancelBackend
    simp only
    split <;> exact .same rfl not_false
  | returnAbort threw =>
    obtain ⟨call, rest, attached, operation, hcalls, -, hget, rfl⟩ := step_returnAbort hstep
    have hends : ∀ index, EndsOperation index state (.returnAbort threw) ↔
        call.operation = index ∧ call.phaseBeforeAbort = .queued := by
      simp [EndsOperation, hcalls]
    unfold returnAbort
    split_ifs with hthrew hqueued
    · constructor
      · intro found hfound
        refine ⟨found, hfound, .same _ fun hseparate hends' => ?_⟩
        exact hseparate (by simp_all) call (by simp [hcalls]) ((hends other).mp hends').2
      · intro hnone
        refine ⟨fun hends' => ?_, fun added hadded => ?_⟩
        · rw [← ((hends other).mp hends').1, hget] at hnone
          contradiction
        · rw [hnone] at hadded
          contradiction
    · apply Effects.put hget (clearState_operations call.operation operation
        { state with abortCalls := rest })
      · exact .ends _ ((hends _).mpr ⟨rfl, hqueued⟩) _ rfl rfl (.inl ⟨rfl, rfl⟩)
      · exact fun index hne hends' => hne ((hends index).mp hends').1.symm
    · exact .same rfl fun hends' => hqueued ((hends other).mp hends').2
  | upstreamAbort index =>
    obtain ⟨operation, hget, rfl⟩ := Option.map_eq_some_iff.mp hstep
    exact .put hget rfl .upstreamAbort (fun _ _ => not_false) other
  | waitForIdle sessionKey =>
    cases hstep
    unfold waitForIdle
    simp only
    split
    next => exact .same rfl not_false
    next => split_ifs <;> exact .same rfl not_false
  | waitTimeout sessionKey waiter =>
    obtain ⟨waiters, -, hstep⟩ := Option.bind_eq_some_iff.mp hstep
    simp only [Option.ite_none_right_eq_some, Option.some.injEq] at hstep
    obtain ⟨-, rfl⟩ := hstep
    exact .same rfl not_false

theorem step_cleared (hseparate : Separate state action) (hstep : step state action = some next)
    (other : ℕ) :
    Cleared next other ↔ Cleared state other ∨ EndsOperation other state action := by
  obtain ⟨hold, hnew⟩ := step_effects hstep other
  unfold Cleared
  cases hget : state.operations.get? other with
  | none =>
    obtain ⟨hends, hadded⟩ := hnew hget
    have hopen : ∀ added, next.operations.get? other = some added →
        ¬ added.stateCleared = true := by
      intro added hfound
      simp [(hadded added hfound).1]
    simpa [hends] using hopen
  | some operation =>
    obtain ⟨changed, hchanged, heffect⟩ := hold operation hget
    simp only [hchanged, Option.some.injEq, exists_eq_left']
    cases heffect with
    | same _ hends => simp [hends hseparate]
    | ends _ hends _ hcleared => simp [hends, hcleared]
    | aborts _ _ haction =>
      rcases haction with rfl | rfl <;> simp [EndsOperation]
    | _ => simp [EndsOperation]

theorem cleared_run {actions : List Action} {final : ReplyRunState}
    (hseparate : LabelledMachine.Guarded step Separate state actions)
    (hrun : run step state actions = some final) (index : ℕ) :
    Cleared final index ↔ Cleared state index ∨
      LabelledMachine.Occurs step (EndsOperation index) state actions := by
  induction actions generalizing state with
  | nil =>
    cases hrun
    simp [LabelledMachine.Occurs]
  | cons action rest ih =>
    obtain ⟨middle, hstep, hrest⟩ := run_cons_eq_some.mp hrun
    rw [ih (hseparate.2 middle hstep) hrest, step_cleared hseparate.1 hstep index, or_assoc]
    simp [LabelledMachine.Occurs, hstep]

/-- In every run in which no operation begins with the session id of another
key and no backend throws out of the abort of a queued operation, an operation
is registered until it is first completed, failed or aborted while queued, no
two registered operations share a key, and each is found by its session id. -/
theorem registry_consistent {actions : List Action} {final : ReplyRunState}
    (hseparate : LabelledMachine.Guarded step Separate replyRunState actions)
    (hrun : run step replyRunState actions = some final) :
    (∀ index operation, final.operations.get? index = some operation →
      (Registered final index ↔ ¬ LabelledMachine.Occurs step
        (EndsOperation index) replyRunState actions)) ∧
    (∀ first second one other, final.operations.get? first = some one →
      final.operations.get? second = some other → Registered final first →
        Registered final second → one.key = other.key → first = second) ∧
    (∀ index operation, final.operations.get? index = some operation →
      Registered final index → Found final index operation) := by
  have hconsistent : Consistent final :=
    run_guarded_invariant Consistent step_consistent consistent_empty hseparate hrun
  have hopened : ∀ index operation,
      final.operations.get? index = some operation → Registered final index →
        operation.stateCleared = false := by
    intro index operation hget hregistered
    by_contra hcleared
    exact (hconsistent.registered_iff hget).mp hregistered
      ⟨operation, hget, by simpa using hcleared⟩
  refine ⟨?_, ?_, ?_⟩
  · intro index operation hget
    have hstart : ¬ Cleared replyRunState index := by
      simp [Cleared, replyRunState]
    rw [hconsistent.registered_iff hget, cleared_run hseparate hrun index]
    simp [hstart]
  · intro first second one other hfirst hsecond hone hother hkey
    have hlookup := hconsistent.active first one hfirst (hopened first one hfirst hone)
    rw [hkey, hconsistent.active second other hsecond
      (hopened second other hsecond hother)] at hlookup
    exact (Option.some.inj hlookup).symm
  · intro index operation hget hregistered
    have hopen := hopened index operation hget hregistered
    have hkey := hconsistent.keyOf index operation hget hopen
    have htrimmed := hconsistent.trimmed index operation hget
    constructor
    · exact hconsistent.sessionId index operation hget hopen
    · exact hkey
    · simp [resolveReplyRunForCurrentSessionId, htrimmed, hkey,
        hconsistent.active index operation hget hopen]
    · simp [resolveReplyRunWaitKey, htrimmed, hkey]

instance : ∀ state action, Decidable (Separate state action)
  | state, .begin sessionKey sessionId _ =>
    inferInstanceAs (Decidable (∀ key ∈ nonBlank sessionKey,
      ∀ id ∈ nonBlank sessionId, state.activeRunsByKey.lookup key = none →
        ∀ other ∈ state.activeKeysBySessionId.lookup id, other = key))
  | state, .returnAbort threw =>
    inferInstanceAs (Decidable (threw = true →
      ∀ call ∈ state.abortCalls.head?, call.phaseBeforeAbort ≠ .queued))
  | _, .setPhase _ _ | _, .updateSessionId _ _ | _, .attachBackend _ _
  | _, .detachBackend _ _ | _, .complete _ | _, .fail _ _ | _, .abortByUser _
  | _, .abortForRestart _ | _, .cancelBackend | _, .upstreamAbort _ | _, .waitForIdle _
  | _, .waitTimeout _ _ => isTrue trivial

def singleRun : List Action :=
  [.begin (js "main") (js " one ") false, .setPhase 0 .running,
    .updateSessionId 0 (js "two"), .complete 0,
    .begin (js "main") (js "two") false]

theorem single_run_found : ∃ final, run step replyRunState singleRun = some final ∧
      Found final 1 ⟨js "main", js "two", .queued, none, false, false, none⟩ := by
  apply exists_of_view (by decide : Option.map (fun final =>
      (final.operations.get? 1, final.activeRunsByKey.lookup (js "main"))) _ =
    some (some ⟨js "main", js "two", .queued, none, false, false, none⟩, some 1))
  intro final hread hfinal
  obtain ⟨hget, hactive⟩ := Prod.mk.inj hread
  exact (registry_consistent (by decide) hfinal).2.2 1 _ hget ⟨_, hget, hactive⟩

def sharedSessionRun : List Action :=
  [.begin (js "first") (js "shared") false, .begin (js "second") (js "shared") false]

theorem first_run_lost_by_session_id : ¬ ∀ (actions : List Action) (final : ReplyRunState),
      run step replyRunState actions = some final →
      ∀ index operation, final.operations.get? index = some operation →
        Registered final index → Found final index operation := by
  intro hclaim
  have hrun : (run step replyRunState sharedSessionRun).map
      (fun final => (final.operations.get? 0, final.activeRunsByKey.lookup (js "first"),
        final.activeKeysBySessionId.lookup (js "shared"))) =
      some (some ⟨js "first", js "shared", .queued, none, false, false, none⟩,
        some 0, some (js "second")) := by
    decide
  obtain ⟨final, hfinal, hread⟩ := Option.map_eq_some_iff.mp hrun
  simp only [Prod.mk.injEq] at hread
  obtain ⟨hget, hactive, hkey⟩ := hread
  have hfound := (hclaim sharedSessionRun final hfinal 0 _ hget ⟨_, hget, hactive⟩).key
  rw [show List.lookup (js "shared") final.activeKeysBySessionId = _ from hkey] at hfound
  exact absurd hfound (by decide)

end LittleBaby.ReplyRuns
