import LittleBaby.CompactionChunks

/-!
# Chunks keep turns together

A cut by shares of the tokens falls where no call is pending, or before an assistant message.
-/

namespace LittleBaby.Compaction

open JsString JsValue Transcript

def openStep (pending : List JsString) (message : JsValue) : List JsString :=
  if isAssistant message then pendingOf message
  else if isToolResult message then
    match extractToolResultId message with
    | none => []
    | some resultId => pending.filter (· ≠ resultId)
  else pending

def openCalls (messages : List JsValue) : List JsString := messages.foldl openStep []

def GoodCut (messages : List JsValue) (position : ℕ) : Prop :=
  openCalls (messages.take position) = [] ∨
    ∃ message, messages[position]? = some message ∧ isAssistant message = true

theorem openCalls_concat (messages : List JsValue) (message : JsValue) :
    openCalls (messages ++ [message]) = openStep (openCalls messages) message := by
  simp [openCalls]

variable {messages : List JsValue}

theorem GoodCut.concat {position : ℕ}
    (hcut : GoodCut messages position) (hposition : position ≤ messages.length)
    (message : JsValue) : GoodCut (messages ++ [message]) position := by
  rcases hcut with hclosed | ⟨assistant, hassistant, hrole⟩
  · left
    rw [List.take_append_of_le_length hposition]
    exact hclosed
  · right
    have hlength := (List.getElem?_eq_some_iff.mp hassistant).1
    exact ⟨assistant, by rw [List.getElem?_append_left hlength, hassistant], hrole⟩

variable (tokens : Estimate) (normalizedParts : ℕ) (targetTokens : ℚ)

structure Shape (messages : List JsValue) (state : SplitState) : Prop where
  content : state.chunks.flatten ++ state.current = messages
  nonempty : ∀ chunk ∈ state.chunks, chunk ≠ []
  few : state.chunks.length ≤ normalizedParts - 1
  cuts : ∀ first, first <+: state.chunks → first ≠ [] → GoodCut messages first.flatten.length

def StartsTurn (state : SplitState) : Prop :=
  ∀ index, state.pendingChunkStartIndex = some index →
    ∃ message, state.current[index]? = some message ∧ isAssistant message = true

structure Reads (messages : List JsValue) (state : SplitState) : Prop where
  shape : Shape normalizedParts messages state
  current : messages ≠ [] → state.current ≠ []
  pending : state.pendingToolCallIds = openCalls messages
  start : StartsTurn state

variable {tokens normalizedParts targetTokens}

variable {state : SplitState}

theorem Shape.length_le
    (hshape : Shape normalizedParts messages state) {first : List (List JsValue)}
    (hfirst : first <+: state.chunks) : first.flatten.length ≤ messages.length := by
  obtain ⟨rest, hrest⟩ := hfirst
  rw [← hshape.content, ← hrest]
  simp only [List.flatten_append, List.length_append]
  omega

theorem Shape.addChunk {chunk rest : List JsValue} {next : SplitState}
    (hshape : Shape normalizedParts messages state) (hchunk : chunk ≠ [])
    (hcurrent : state.current = chunk ++ rest) (hfew : state.chunks.length < normalizedParts - 1)
    (hcut : GoodCut messages (state.chunks.flatten ++ chunk).length)
    (hchunks : next.chunks = state.chunks ++ [chunk]) (hrest : next.current = rest) :
    Shape normalizedParts messages next where
  content := by
    rw [hchunks, hrest, List.flatten_append, List.flatten_singleton, List.append_assoc,
      ← hcurrent, hshape.content]
  nonempty := by
    rw [hchunks, List.forall_mem_append]
    exact ⟨hshape.nonempty, by simpa using hchunk⟩
  few := by
    rw [hchunks, List.length_append, List.length_singleton]
    omega
  cuts := by
    intro first hfirst hne
    rw [hchunks, List.prefix_concat_iff] at hfirst
    rcases hfirst with rfl | hfirst
    · rw [List.flatten_append, List.flatten_singleton]
      exact hcut
    · exact hshape.cuts first hfirst hne

variable {messages : List JsValue} {state : SplitState}

theorem splitCurrent_shape
    (hshape : Shape normalizedParts messages state) (hcurrent : state.current ≠ [])
    (hstart : StartsTurn state) :
    Shape normalizedParts messages (splitCurrentAtPendingBoundary tokens normalizedParts state) ∧
      (splitCurrentAtPendingBoundary tokens normalizedParts state).current ≠ [] := by
  unfold splitCurrentAtPendingBoundary
  cases hindex : state.pendingChunkStartIndex with
  | none => exact ⟨hshape, hcurrent⟩
  | some index =>
    simp only
    by_cases hstop : index = 0 ∨ normalizedParts - 1 ≤ state.chunks.length
    · rw [if_pos hstop]
      exact ⟨hshape, hcurrent⟩
    · rw [if_neg hstop]
      obtain ⟨hpositive, hfew⟩ := not_or.mp hstop
      obtain ⟨assistant, hassistant, hrole⟩ := hstart index hindex
      have hinside := (List.getElem?_eq_some_iff.mp hassistant).1
      have htake : (state.current.take index).length = index := by
        rw [List.length_take]
        omega
      have hne : state.current.take index ≠ [] := by
        intro hnil
        rw [hnil, List.length_nil] at htake
        exact hpositive htake.symm
      constructor
      · apply hshape.addChunk hne (List.take_append_drop index _).symm (by omega) ?_ rfl rfl
        right
        refine ⟨assistant, ?_, hrole⟩
        rw [← hshape.content, List.length_append, htake, List.getElem?_append_right (by omega),
          Nat.add_sub_cancel_left, hassistant]
      · simp only [ne_eq, List.drop_eq_nil_iff]
        omega

theorem splitCurrent_pending (state : SplitState) :
    (splitCurrentAtPendingBoundary tokens normalizedParts state).pendingToolCallIds =
      state.pendingToolCallIds := by
  unfold splitCurrentAtPendingBoundary
  cases state.pendingChunkStartIndex with
  | none => rfl
  | some index =>
    simp only
    split_ifs
    · rfl
    · rfl

theorem cutBefore_reads (message : JsValue) (hreads : Reads normalizedParts messages state) :
    Shape normalizedParts messages (cutBefore tokens normalizedParts targetTokens state message) ∧
      (cutBefore tokens normalizedParts targetTokens state message).pendingToolCallIds =
        openCalls messages ∧
      StartsTurn (cutBefore tokens normalizedParts targetTokens state message) := by
  unfold cutBefore
  by_cases hcut : state.pendingToolCallIds = [] ∧ state.chunks.length < normalizedParts - 1 ∧
      state.current ≠ [] ∧ targetTokens < state.currentTokens + tokens message
  · rw [if_pos hcut]
    obtain ⟨hpending, hfew, hcurrent, -⟩ := hcut
    refine ⟨?_, hreads.pending, fun index hindex => by cases hindex⟩
    apply hreads.shape.addChunk hcurrent (List.append_nil _).symm hfew ?_ rfl rfl
    left
    rw [hreads.shape.content, List.take_length, ← hreads.pending, hpending]
  · rw [if_neg hcut]
    exact ⟨hreads.shape, hreads.pending, hreads.start⟩

variable {message : JsValue}

theorem Shape.push {next : SplitState}
    (hshape : Shape normalizedParts messages state) (hchunks : next.chunks = state.chunks)
    (hcurrent : next.current = state.current ++ [message]) :
    Shape normalizedParts (messages ++ [message]) next where
  content := by
    rw [hchunks, hcurrent, ← List.append_assoc, hshape.content]
  nonempty := by
    rw [hchunks]
    exact hshape.nonempty
  few := by
    rw [hchunks]
    exact hshape.few
  cuts := by
    intro first hfirst hne
    rw [hchunks] at hfirst
    exact (hshape.cuts first hfirst hne).concat (hshape.length_le hfirst) message

theorem answer_spec (state : SplitState) (message : JsValue) :
    (answer state message).chunks = state.chunks ∧ (answer state message).current = state.current ∧
      ((answer state message).pendingChunkStartIndex = none ∨
        (answer state message).pendingChunkStartIndex = state.pendingChunkStartIndex) := by
  unfold answer
  cases extractToolResultId message with
  | none => exact ⟨rfl, rfl, .inl rfl⟩
  | some resultId => exact ⟨rfl, rfl, .inr rfl⟩

theorem cutAnswered_reads
    (hshape : Shape normalizedParts messages state) (hcurrent : state.current ≠ [])
    (hpending : state.pendingToolCallIds = openCalls messages) (hstart : StartsTurn state) :
    Reads normalizedParts messages (cutAnswered tokens normalizedParts targetTokens state) := by
  unfold cutAnswered
  split_ifs with hcut
  · have hsplit := @splitCurrent_shape tokens _ _ _ hshape hcurrent hstart
    constructor
    · exact ⟨hsplit.1.content, hsplit.1.nonempty, hsplit.1.few, hsplit.1.cuts⟩
    · exact fun _ => hsplit.2
    · exact (splitCurrent_pending state).trans hpending
    · intro index hindex
      cases hindex
  · exact ⟨hshape, fun _ => hcurrent, hpending, hstart⟩

theorem splitStep_reads (message : JsValue) (hreads : Reads normalizedParts messages state) :
    Reads normalizedParts (messages ++ [message])
      (splitStep tokens normalizedParts targetTokens state message) := by
  obtain ⟨hshape, hpending, hstart⟩ := @cutBefore_reads tokens _ targetTokens _ _ message hreads
  unfold splitStep
  generalize cutBefore tokens normalizedParts targetTokens state message = next at *
  have hopen : openCalls (messages ++ [message]) = openStep next.pendingToolCallIds message := by
    rw [openCalls_concat, hpending]
  -- A remembered index is still that of the assistant message.
  have hlonger : ∀ index, next.pendingChunkStartIndex = some index →
      ∃ turn, (next.current ++ [message])[index]? = some turn ∧ isAssistant turn = true := by
    intro index hindex
    obtain ⟨turn, hturn, hrole⟩ := hstart index hindex
    have hlength := (List.getElem?_eq_some_iff.mp hturn).1
    exact ⟨turn, by rw [List.getElem?_append_left hlength, hturn], hrole⟩
  by_cases hassistant : isAssistant message = true
  · rw [if_pos hassistant]
    constructor
    · exact hshape.push rfl rfl
    · simp
    · rw [hopen, openStep, if_pos hassistant]
    · intro index hindex
      split_ifs at hindex
      cases hindex
      exact ⟨message, by simp, hassistant⟩
  · rw [if_neg hassistant]
    by_cases hresult : isToolResult message = true ∧ next.pendingToolCallIds ≠ []
    · rw [if_pos hresult]
      obtain ⟨hchunks, hcurrent, hindex⟩ := answer_spec { next with
          current := next.current ++ [message]
          currentTokens := next.currentTokens + tokens message } message
      apply cutAnswered_reads
      · exact hshape.push hchunks hcurrent
      · rw [hcurrent]
        simp
      · rw [hopen, openStep, if_neg hassistant, if_pos hresult.1, answer]
        cases extractToolResultId message with
        | none => rfl
        | some resultId => rfl
      · intro index hfound
        rw [hcurrent]
        rcases hindex with hnone | hsame
        · rw [hnone] at hfound
          cases hfound
        · exact hlonger index (hsame.symm.trans hfound)
    · rw [if_neg hresult]
      constructor
      · exact hshape.push rfl rfl
      · simp
      · rw [hopen, openStep, if_neg hassistant]
        split_ifs with hrole
        · have hnil : next.pendingToolCallIds = [] := by
            by_contra hne
            exact hresult ⟨hrole, hne⟩
          rw [hnil]
          cases extractToolResultId message with
          | none => rfl
          | some resultId => rfl
        · rfl
      · exact hlonger

theorem splitSteps_reads (tokens : Estimate) (normalizedParts : ℕ) (targetTokens : ℚ)
    (messages : List JsValue) :
    Reads normalizedParts messages
      (messages.foldl (splitStep tokens normalizedParts targetTokens) {}) := by
  induction messages using List.reverseRecOn with
  | nil =>
    constructor
    · exact ⟨rfl, by simp, by simp, fun first hfirst hne => absurd (by simpa using hfirst) hne⟩
    · simp
    · rfl
    · intro index hindex
      cases hindex
  | append_singleton messages message ih =>
    rw [List.foldl_concat]
    exact splitStep_reads message ih

structure Whole (messages : List JsValue) (chunks : List (List JsValue)) : Prop where
  flatten : chunks.flatten = messages
  nonempty : ∀ chunk ∈ chunks, chunk ≠ []
  cuts : ∀ first second, chunks = first ++ second → first ≠ [] → second ≠ [] →
    GoodCut messages first.flatten.length

theorem finishSplit_whole (tokens : Estimate) (targetTokens : ℚ)
    (hreads : Reads normalizedParts messages state) (hmessages : messages ≠ [])
    (hparts : 2 ≤ normalizedParts) :
    Whole messages (finishSplit tokens normalizedParts targetTokens state) ∧
      (finishSplit tokens normalizedParts targetTokens state).length ≤ normalizedParts := by
  have hlast : ∀ final : SplitState, Shape normalizedParts messages final → final.current ≠ [] →
      Whole messages (final.chunks ++ [final.current]) ∧
        (final.chunks ++ [final.current]).length ≤ normalizedParts := by
    intro final hshape hcurrent
    have hfew := hshape.few
    refine ⟨⟨?_, ?_, ?_⟩, by simp only [List.length_append, List.length_singleton]; omega⟩
    · rw [List.flatten_append, List.flatten_singleton, hshape.content]
    · rw [List.forall_mem_append]
      exact ⟨hshape.nonempty, by simpa using hcurrent⟩
    · intro first second hsplit hfirst hsecond
      refine hshape.cuts first ?_ hfirst
      have hprefix : first <+: final.chunks ++ [final.current] := ⟨second, hsplit.symm⟩
      rcases List.prefix_concat_iff.mp hprefix with heq | hprefix
      · rw [heq] at hsplit
        exact absurd (List.self_eq_append_right.mp hsplit) hsecond
      · exact hprefix
  have hcurrent := hreads.current hmessages
  unfold finishSplit
  generalize hfinal : (if state.pendingToolCallIds ≠ [] ∧ targetTokens < state.currentTokens then
    splitCurrentAtPendingBoundary tokens normalizedParts state else state) = final
  have hkept : Shape normalizedParts messages final ∧ final.current ≠ [] := by
    rw [← hfinal]
    split_ifs
    · exact splitCurrent_shape hreads.shape hcurrent hreads.start
    · exact ⟨hreads.shape, hcurrent⟩
  rw [if_neg hkept.2]
  exact hlast final hkept.1 hkept.2

/-- `Math.max(1, parts)`, and one where that is no finite number. -/
def partsLimit : JsNumber → ℚ
  | .finite parts => max 1 parts
  | _ => 1

theorem normalizeParts_le (parts : JsNumber) (count : ℕ) :
    (normalizeParts parts count : ℚ) ≤ partsLimit parts := by
  cases parts with
  | finite parts =>
    simp only [normalizeParts, partsLimit]
    split_ifs with hone
    · simp
    · push Not at hone
      have hfloor : (⌊parts⌋₊ : ℚ) ≤ parts := Nat.floor_le (by linarith)
      calc ((min (max 1 ⌊parts⌋₊) (max 1 count) : ℕ) : ℚ)
          ≤ ((max 1 ⌊parts⌋₊ : ℕ) : ℚ) := by exact_mod_cast min_le_left _ _
        _ = max 1 (⌊parts⌋₊ : ℚ) := by push_cast; rfl
        _ ≤ max 1 parts := max_le_max_left 1 hfloor
  | _ => simp [normalizeParts, partsLimit]

theorem splitMessagesByTokenShare_whole (tokens : Estimate) (messages : List JsValue)
    (parts : JsNumber) :
    Whole messages (splitMessagesByTokenShare tokens messages parts) ∧
      ((splitMessagesByTokenShare tokens messages parts).length : ℚ) ≤ partsLimit parts := by
  have hlimit := normalizeParts_le parts messages.length
  have hone : (1 : ℚ) ≤ partsLimit parts := by
    cases parts <;> simp [partsLimit]
  unfold splitMessagesByTokenShare
  simp only
  split_ifs with hnil hparts
  · rw [hnil]
    refine ⟨⟨rfl, by simp, fun first second hsplit hfirst => ?_⟩, by simpa using by linarith⟩
    exact absurd (List.append_eq_nil_iff.mp hsplit.symm).1 hfirst
  · refine ⟨⟨by simp, by simpa using hnil, fun first second hsplit hfirst hsecond => ?_⟩,
      by simpa using hone⟩
    rcases List.append_eq_singleton_iff.mp hsplit.symm with ⟨rfl, -⟩ | ⟨-, rfl⟩
    · exact absurd rfl hfirst
    · exact absurd rfl hsecond
  · generalize estimateMessagesTokens tokens messages / _ = targetTokens
    have hreads := splitSteps_reads tokens (normalizeParts parts messages.length) targetTokens
      messages
    have hfinish := finishSplit_whole tokens targetTokens hreads hnil (Nat.lt_of_not_le hparts)
    exact ⟨hfinish.1, le_trans (by exact_mod_cast hfinish.2) hlimit⟩

/-- A call of the assistant message at `i` is answered by the result at `j`, before the next
assistant message. -/
structure Answers (messages : List JsValue) (id : JsString) (i j : ℕ) : Prop where
  before : i < j
  turn : ∃ turn, messages[i]? = some turn ∧ isAssistant turn = true ∧ id ∈ pendingOf turn
  result : ∃ result, messages[j]? = some result ∧ isToolResult result = true ∧
    extractToolResultId result = some id
  noTurn : ∀ k, i < k → k < j → ∀ message, messages[k]? = some message → isAssistant message = false

/-- It is the first result of the call, and no result without an id is before it. -/
structure FirstAnswer (messages : List JsValue) (id : JsString) (i j : ℕ) : Prop extends
    Answers messages id i j where
  first : ∀ k, i < k → k < j → ∀ message, messages[k]? = some message →
    isToolResult message = true → ∃ other, extractToolResultId message = some other ∧ other ≠ id

theorem isAssistant_of_isToolResult (hresult : isToolResult message = true) :
    isAssistant message = false := by
  simp only [isToolResult, isAssistant, hasRole, decide_eq_true_eq, decide_eq_false_iff_not]
    at hresult ⊢
  rw [hresult]
  decide

theorem FirstAnswer.mem_openCalls {id : JsString} {i j : ℕ}
    (hanswer : FirstAnswer messages id i j) (k : ℕ) (hafter : i < k) (hbefore : k ≤ j) :
    id ∈ openCalls (messages.take k) := by
  induction k, hafter using Nat.le_induction with
  | base =>
    obtain ⟨turn, hturn, hrole, hid⟩ := hanswer.turn
    rw [List.take_add_one, hturn, Option.toList_some, openCalls_concat, openStep, if_pos hrole]
    exact hid
  | succ k hk ih =>
    obtain ⟨result, hresult, -⟩ := hanswer.result
    have hlength := (List.getElem?_eq_some_iff.mp hresult).1
    have hmessage : messages[k]? = some messages[k] := List.getElem?_eq_getElem (by omega)
    rw [List.take_add_one, hmessage, Option.toList_some, openCalls_concat, openStep,
      hanswer.noTurn k hk hbefore _ hmessage, if_neg (by simp)]
    split_ifs with hrole
    · obtain ⟨other, hother, hne⟩ := hanswer.first k hk hbefore _ hmessage hrole
      rw [hother]
      exact List.mem_filter.mpr ⟨ih (by omega), by simpa using hne.symm⟩
    · exact ih (by omega)

theorem Whole.keeps_turn {chunks first second : List (List JsValue)}
    {id : JsString} {i j : ℕ} (hwhole : Whole messages chunks) (hsplit : chunks = first ++ second)
    (hanswer : FirstAnswer messages id i j) :
    ¬(i < first.flatten.length ∧ first.flatten.length ≤ j) := by
  rintro ⟨hafter, hbefore⟩
  obtain ⟨result, hresult, hrole, -⟩ := hanswer.result
  have hfirst : first ≠ [] := by
    rintro rfl
    simp at hafter
  have hsecond : second ≠ [] := by
    rintro rfl
    have hall := hwhole.flatten
    rw [hsplit, List.append_nil] at hall
    have hlength := (List.getElem?_eq_some_iff.mp hresult).1
    rw [hall] at hbefore
    omega
  rcases hwhole.cuts first second hsplit hfirst hsecond with hclosed | ⟨turn, hturn, hassistant⟩
  · have hopen := hanswer.mem_openCalls _ hafter hbefore
    rw [hclosed] at hopen
    cases hopen
  · rcases hbefore.lt_or_eq with hlt | heq
    · rw [hanswer.noTurn _ hafter hlt turn hturn] at hassistant
      cases hassistant
    · rw [heq, hresult] at hturn
      cases hturn
      rw [isAssistant_of_isToolResult hrole] at hassistant
      cases hassistant

def Fits (tokens : Estimate) (limit : JsNumber) (chunk : List JsValue) : Prop :=
  (∃ message, chunk = [message]) ∨ isOver limit (estimateMessagesTokens tokens chunk) = false

structure Fills (tokens : Estimate) (limit : JsNumber) (messages : List JsValue)
    (state : ChunkState) : Prop where
  content : state.chunks.flatten ++ state.currentChunk = messages
  full : ∀ chunk ∈ state.chunks, chunk ≠ [] ∧ Fits tokens limit chunk
  counted : state.currentTokens = estimateMessagesTokens tokens state.currentChunk
  room : state.currentChunk = [] ∨ isOver limit state.currentTokens = false

variable {limit : JsNumber}

theorem isOver_mono {small large : ℚ} (hle : small ≤ large)
    (hover : isOver limit small = true) : isOver limit large = true := by
  cases limit with
  | finite value => simpa [isOver, JsNumber.lt] using (of_decide_eq_true hover).trans_le hle
  | _ => exact hover

theorem estimate_concat (tokens : Estimate) (messages : List JsValue) (message : JsValue) :
    estimateMessagesTokens tokens (messages ++ [message]) =
      estimateMessagesTokens tokens messages + tokens message := by
  simp [estimateMessagesTokens]

variable {tokens : Estimate}

theorem estimate_nonneg (htokens : ∀ message, 0 ≤ tokens message)
    (messages : List JsValue) : 0 ≤ estimateMessagesTokens tokens messages := by
  induction messages using List.reverseRecOn with
  | nil => exact le_refl 0
  | append_singleton messages message ih =>
    rw [estimate_concat]
    have hmessage := htokens message
    linarith

theorem Fills.close {state : ChunkState} (hfills : Fills tokens limit messages state)
    (hcurrent : state.currentChunk ≠ []) :
    Fills tokens limit messages { chunks := state.chunks ++ [state.currentChunk] } where
  content := by
    rw [List.flatten_append, List.flatten_singleton, List.append_nil, hfills.content]
  full := by
    rw [List.forall_mem_append]
    refine ⟨hfills.full, fun chunk hchunk => ?_⟩
    obtain rfl := List.mem_singleton.mp hchunk
    refine ⟨hcurrent, .inr ?_⟩
    rw [← hfills.counted]
    exact hfills.room.resolve_left hcurrent
  counted := rfl
  room := .inl rfl

theorem Fills.push {state : ChunkState} (htokens : ∀ message, 0 ≤ tokens message)
    (hfills : Fills tokens limit messages state)
    (hroom : state.currentChunk = [] ∨
      isOver limit (state.currentTokens + tokens message) = false) :
    Fills tokens limit (messages ++ [message]) (if isOver limit (tokens message) then
        { chunks := state.chunks ++ [state.currentChunk ++ [message]] }
      else
        { state with
          currentChunk := state.currentChunk ++ [message]
          currentTokens := state.currentTokens + tokens message }) := by
  have hcontent : state.chunks.flatten ++ (state.currentChunk ++ [message]) =
      messages ++ [message] := by
    rw [← List.append_assoc, hfills.content]
  have hnonneg := estimate_nonneg htokens state.currentChunk
  split_ifs with hlarge
  · -- A message that is over the limit alone is alone in its chunk.
    have hnil : state.currentChunk = [] := by
      refine hroom.resolve_right fun hfits => ?_
      rw [isOver_mono (by rw [hfills.counted]; linarith) hlarge] at hfits
      cases hfits
    constructor
    · rw [List.flatten_append, List.flatten_singleton, List.append_nil, hcontent]
    · rw [List.forall_mem_append]
      refine ⟨hfills.full, fun chunk hchunk => ?_⟩
      rw [List.mem_singleton.mp hchunk, hnil]
      exact ⟨by simp, .inl ⟨message, rfl⟩⟩
    · rfl
    · exact .inl rfl
  · constructor
    · exact hcontent
    · exact hfills.full
    · rw [estimate_concat, ← hfills.counted]
    · right
      rcases hroom with hnil | hfits
      · have hcounted := hfills.counted
        rw [hnil] at hcounted
        simpa [hcounted, estimateMessagesTokens] using hlarge
      · exact hfits

theorem chunkMessagesByMaxTokens_fits
    (htokens : ∀ message, 0 ≤ tokens message) (messages : List JsValue) (maxTokens : JsNumber) :
    (chunkMessagesByMaxTokens tokens messages maxTokens).flatten = messages ∧
      ∀ chunk ∈ chunkMessagesByMaxTokens tokens messages maxTokens,
        chunk ≠ [] ∧ Fits tokens (effectiveMax maxTokens) chunk := by
  have hfills : Fills tokens (effectiveMax maxTokens) messages
      (messages.foldl (chunkStep tokens (effectiveMax maxTokens)) {}) := by
    induction messages using List.reverseRecOn with
    | nil => exact ⟨rfl, by simp, rfl, .inl rfl⟩
    | append_singleton messages message ih =>
      rw [List.foldl_concat]
      generalize messages.foldl (chunkStep tokens (effectiveMax maxTokens)) {} = state at *
      unfold chunkStep
      by_cases hfull : state.currentChunk ≠ [] ∧
          isOver (effectiveMax maxTokens) (state.currentTokens + tokens message) = true
      · simp only [if_pos hfull]
        exact (ih.close hfull.1).push htokens (.inl rfl)
      · simp only [if_neg hfull]
        apply ih.push htokens
        by_cases hnil : state.currentChunk = []
        · exact .inl hnil
        · exact .inr (Bool.eq_false_iff.mpr fun hover => hfull ⟨hnil, hover⟩)
  unfold chunkMessagesByMaxTokens
  simp only
  split_ifs with hnil
  · have hcontent := hfills.content
    rw [hnil, List.append_nil] at hcontent
    exact ⟨hcontent, hfills.full⟩
  · have hclosed := hfills.close hnil
    exact ⟨by simpa using hclosed.content, hclosed.full⟩

/-- Chunks by shares of the tokens keep the messages, and each turn with its first results;
chunks below a limit keep the messages and the limit. -/
theorem chunks_keep_turns (tokens : Estimate) (htokens : ∀ message, 0 ≤ tokens message)
    (messages : List JsValue) (parts maxTokens : JsNumber) :
    ((splitMessagesByTokenShare tokens messages parts).flatten = messages ∧
        (∀ chunk ∈ splitMessagesByTokenShare tokens messages parts, chunk ≠ []) ∧
        ((splitMessagesByTokenShare tokens messages parts).length : ℚ) ≤ partsLimit parts ∧
        ∀ first second, splitMessagesByTokenShare tokens messages parts = first ++ second →
          ∀ id i j, FirstAnswer messages id i j →
            ¬(i < first.flatten.length ∧ first.flatten.length ≤ j)) ∧
      (chunkMessagesByMaxTokens tokens messages maxTokens).flatten = messages ∧
      ∀ chunk ∈ chunkMessagesByMaxTokens tokens messages maxTokens,
        chunk ≠ [] ∧ Fits tokens (effectiveMax maxTokens) chunk := by
  obtain ⟨hwhole, hfew⟩ := splitMessagesByTokenShare_whole tokens messages parts
  constructor
  · refine ⟨hwhole.flatten, hwhole.nonempty, hfew, ?_⟩
    intro first second hsplit id i j hanswer
    exact hwhole.keeps_turn hsplit hanswer
  · exact chunkMessagesByMaxTokens_fits htokens messages maxTokens

def callMessage : JsValue :=
  .object [(js "role", .string (js "assistant")), (js "content", .array [.object
        [(js "type", .string (js "toolCall")), (js "id", .string (js "call_1"))]])]

def resultMessage : JsValue :=
  .object [(js "role", .string (js "toolResult")), (js "toolCallId", .string (js "call_1"))]

theorem chunks_keep_turns_of_two :
    (chunkMessagesByMaxTokens (fun _ => 1) [callMessage, resultMessage] (.finite 1)).flatten =
      [callMessage, resultMessage] :=
  (chunks_keep_turns (fun _ => 1) (by intro; decide) [callMessage, resultMessage] (.finite 2)
    (.finite 1)).2.1

/-- The second result of a call is put into the next chunk. -/
theorem second_result_apart : ¬∀ (tokens : Estimate), (∀ message, 0 ≤ tokens message) →
      ∀ (messages : List JsValue) (parts : JsNumber) (first second : List (List JsValue)),
        splitMessagesByTokenShare tokens messages parts = first ++ second →
        ∀ id i j, Answers messages id i j →
          ¬(i < first.flatten.length ∧ first.flatten.length ≤ j) := by
  intro hall
  have hanswers : Answers [callMessage, resultMessage, resultMessage] (js "call_1") 0 2 := by
    constructor
    · decide
    · exact ⟨callMessage, rfl, by decide, by decide⟩
    · exact ⟨resultMessage, rfl, by decide, by decide⟩
    · intro k hafter hbefore message hmessage
      obtain rfl : k = 1 := by omega
      cases hmessage
      decide
  have hfirst : ((splitMessagesByTokenShare (fun _ => 1)
      [callMessage, resultMessage, resultMessage] (.finite 2)).take 1).flatten.length = 2 := by
    decide +kernel
  have hapart := hall (fun _ => 1) (by intro; decide) _ (.finite 2) _ _
    (List.take_append_drop 1 _).symm _ _ _ hanswers
  rw [hfirst] at hapart
  exact hapart (by decide)

end LittleBaby.Compaction
