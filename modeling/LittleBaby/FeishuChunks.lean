import LittleBaby.FeishuEvent

/-!
# The loops that cut a reply into chunks

`chunkReply` with its loops, which need not end: each runs for at most `fuel`
rounds here.
-/

namespace LittleBaby.Feishu

open JsString

/-- `for (let index = …; index < trimmed.length; index += limit)` -/
def sliceLoop (limit : ℕ) (trimmed : JsString) : ℕ → ℕ → Option (List JsString)
  | 0, _ => none
  | fuel + 1, index =>
    if index < trimmed.length then
      (sliceLoop limit trimmed fuel (index + limit)).map ((trimmed.drop index).take limit :: ·)
    else some []

def lineLoop (fuel limit : ℕ) (line : JsString) : Option (List JsString) :=
  let trimmed := trim line
  if trimmed = [] then some []
  else if trimmed.length ≤ limit then some [trimmed]
  else sliceLoop limit trimmed fuel 0

/-- `for (const line of lines)` -/
def linesLoop (fuel limit : ℕ) : List JsString → Option (List JsString)
  | [] => some []
  | line :: rest => do return (← lineLoop fuel limit line) ++ (← linesLoop fuel limit rest)

def chunkReplyLoop (fuel : ℕ) (text : JsString) (config : FeishuConfig) :
    Option (List JsString) := do
  let source := trim text
  if source = [] then return []
  let chunks ← linesLoop fuel (chunkLimit config) (source.splitOn 0x0A)
  return if chunks.length = 0 then [source] else chunks

/-- The lines of the text without the whitespace around each. -/
def withoutMargins (text : JsString) : JsString := (text.splitOn 0x0A).flatMap trim

section Margins

variable {unit : UInt16} (hunit : isSpace unit = true)
include hunit

theorem trim_cons_space (text : JsString) : trim (unit :: text) = trim text := by
  simp [trim, hunit]

theorem trim_concat_space (text : JsString) : trim (text ++ [unit]) = trim text := by
  unfold trim
  rw [List.dropWhile_append]
  split_ifs with hblank
  · rw [List.isEmpty_iff] at hblank
    simp [hblank, hunit]
  · rw [List.rdropWhile_concat_pos _ _ _ hunit]

theorem withoutMargins_cons_space (text : JsString) :
    withoutMargins (unit :: text) = withoutMargins text := by
  unfold withoutMargins List.splitOn
  rw [List.splitOnP_cons_eq_if_modifyHead]
  split_ifs
  · rfl
  · cases hlines : text.splitOnP (· == 0x0A) with
    | nil => exact absurd hlines (List.splitOnP_ne_nil _ _)
    | cons first rest => simp [trim_cons_space hunit]

theorem withoutMargins_concat_space (text : JsString) :
    withoutMargins (text ++ [unit]) = withoutMargins text := by
  have hfrom (before : JsString) :
      (List.splitOnPPrepend (· == 0x0A) (text ++ [unit]) before).flatMap trim =
        (List.splitOnPPrepend (· == 0x0A) text before).flatMap trim := by
    induction text generalizing before with
    | nil =>
      simp only [List.nil_append, List.splitOnPPrepend_cons_eq_if]
      split_ifs
      · simp
      · simp [trim_concat_space hunit]
    | cons first rest ih =>
      simp only [List.cons_append, List.splitOnPPrepend_cons_eq_if]
      split_ifs
      · exact congrArg (trim before.reverse ++ ·) (ih [])
      · exact ih _
  exact hfrom []

end Margins

theorem withoutMargins_trim (text : JsString) : withoutMargins (trim text) = withoutMargins text := by
  have hleft : withoutMargins (text.dropWhile isSpace) = withoutMargins text := by
    induction text with
    | nil => rfl
    | cons first rest ih =>
      rw [List.dropWhile_cons]
      split_ifs with hspace
      · rw [ih, withoutMargins_cons_space hspace]
      · rfl
  have hright (line : JsString) : withoutMargins (line.rdropWhile isSpace) = withoutMargins line := by
    induction line using List.reverseRecOn with
    | nil => rfl
    | append_singleton front last ih =>
      rw [List.rdropWhile_concat]
      split_ifs with hspace
      · rw [ih, withoutMargins_concat_space hspace]
      · rfl
  exact (hright _).trans hleft

variable {limit fuel index : ℕ} {trimmed : JsString}

theorem sliceLoop_spec (hlimit : 0 < limit) (hfuel : trimmed.length - index < fuel) :
    ∃ chunks, sliceLoop limit trimmed fuel index = some chunks ∧
      chunks.flatten = trimmed.drop index ∧
      ∀ chunk ∈ chunks, chunk ≠ [] ∧ chunk.length ≤ limit := by
  induction fuel generalizing index with
  | zero => omega
  | succ fuel ih =>
    unfold sliceLoop
    split_ifs with hindex
    · obtain ⟨chunks, hchunks, hflatten, hsizes⟩ := @ih (index + limit) (by omega)
      refine ⟨(trimmed.drop index).take limit :: chunks, by rw [hchunks]; rfl, ?_, ?_⟩
      · rw [List.flatten_cons, hflatten, ← List.drop_drop, List.take_append_drop]
      · intro chunk hmem
        rcases List.mem_cons.mp hmem with rfl | hmem
        · simp [List.take_eq_nil_iff]
          omega
        · exact hsizes chunk hmem
    · exact ⟨[], rfl, (List.drop_eq_nil_of_le (by omega)).symm, by simp⟩

theorem sliceLoop_stuck (hindex : index < trimmed.length) :
    sliceLoop 0 trimmed fuel index = none := by
  induction fuel with
  | zero => rfl
  | succ fuel ih => simp [sliceLoop, hindex, ih]

theorem linesLoop_spec (hlimit : 0 < limit) {lines : List JsString}
    (hfuel : ∀ line ∈ lines, (trim line).length < fuel) :
    ∃ chunks, linesLoop fuel limit lines = some chunks ∧ chunks.flatten = lines.flatMap trim ∧
      ∀ chunk ∈ chunks, chunk ≠ [] ∧ chunk.length ≤ limit := by
  induction lines with
  | nil => exact ⟨[], rfl, rfl, by simp⟩
  | cons line rest ih =>
    obtain ⟨others, hothers, hrest, hsizes⟩ :=
      ih fun other hother => hfuel other (List.mem_cons_of_mem _ hother)
    have hline : ∃ chunks, lineLoop fuel limit line = some chunks ∧
        chunks.flatten = trim line ∧ ∀ chunk ∈ chunks, chunk ≠ [] ∧ chunk.length ≤ limit := by
      unfold lineLoop
      simp only
      split_ifs with hblank hshort
      · exact ⟨[], rfl, hblank.symm, by simp⟩
      · exact ⟨[trim line], rfl, by simp, by simp [hblank, hshort]⟩
      · exact @sliceLoop_spec limit fuel 0 _ hlimit (hfuel line List.mem_cons_self)
    obtain ⟨chunks, hchunks, hflatten, hsmall⟩ := hline
    refine ⟨chunks ++ others, by simp [linesLoop, hchunks, hothers], ?_, ?_⟩
    · rw [List.flatten_append, hflatten, hrest, List.flatMap_cons]
    · intro chunk hmem
      exact (List.mem_append.mp hmem).elim (hsmall chunk) (hsizes chunk)

theorem linesLoop_stuck {lines : List JsString} (hline : lines.flatMap trim ≠ []) :
    linesLoop fuel 0 lines = none := by
  induction lines with
  | nil => exact absurd rfl hline
  | cons line rest ih =>
    by_cases hblank : trim line = []
    · have hrest : rest.flatMap trim ≠ [] := by simpa [hblank] using hline
      simp [linesLoop, lineLoop, hblank, ih hrest]
    · have hpositive : 0 < (trim line).length := List.length_pos_iff.mpr hblank
      simp [linesLoop, lineLoop, hblank, sliceLoop_stuck hpositive]

theorem chunkLimit_eq_zero {config : FeishuConfig} : chunkLimit config = 0 ↔
    ∃ value, config.textChunkLimit = some (.finite value) ∧ 0 < value ∧ value < 1 := by
  have hdefault : defaultChunkLimit ≠ 0 := by decide
  unfold chunkLimit
  split
  next value hvalue =>
    have hfloor : ⌊value⌋.toNat = 0 ↔ value < 1 := by
      rw [Int.toNat_eq_zero, ← Int.lt_add_one_iff, Int.floor_lt]
      norm_num
    split_ifs with hpositive
    · simp [hvalue, hpositive, hdefault, hfloor]
    · simp [hvalue, hpositive, hdefault]
  next hother =>
    refine iff_of_false hdefault ?_
    rintro ⟨value, hvalue, -, -⟩
    exact hother value hvalue

theorem withoutMargins_ne_nil {text : JsString} (htext : trim text ≠ []) :
    withoutMargins (trim text) ≠ [] := by
  cases hsource : trim text with
  | nil => exact absurd hsource htext
  | cons unit rest =>
    have hunit : isSpace unit = false := by
      rw [← Bool.not_eq_true]
      intro hspace
      have hshort : (trim rest).length ≤ rest.length :=
        ((List.rdropWhile_prefix _ _).sublist.trans (List.dropWhile_sublist _)).length_le
      have hsame := congrArg List.length (trim_trim text)
      rw [hsource, trim_cons_space hspace, List.length_cons] at hsame
      omega
    have hline : (unit == 0x0A) = false := by
      rw [beq_eq_false_iff_ne]
      rintro rfl
      exact absurd hunit (by decide)
    unfold withoutMargins List.splitOn
    rw [List.splitOnP_cons_eq_if_modifyHead, hline]
    cases hlines : rest.splitOnP (· == 0x0A) with
    | nil => exact absurd hlines (List.splitOnP_ne_nil _ _)
    | cons first others =>
      have hfirst := trim_ne_nil_of_not_isSpace (@List.mem_cons_self _ unit first) hunit
      simp [hfirst]

/-- The reply is cut without a loss unless the limit is a fraction below one,
with which the inner loop makes no way. -/
theorem chunkReply_lossless_iff (text : JsString) (config : FeishuConfig) :
    (∃ fuel chunks, chunkReplyLoop fuel text config = some chunks ∧
      (∀ chunk ∈ chunks, chunk ≠ [] ∧ chunk.length ≤ max 1 (chunkLimit config)) ∧
      chunks.flatten = withoutMargins text) ↔
    ¬((∃ value, config.textChunkLimit = some (.finite value) ∧ 0 < value ∧ value < 1) ∧
      trim text ≠ []) := by
  rw [← chunkLimit_eq_zero, ← withoutMargins_trim]
  by_cases htext : trim text = []
  · simp only [htext, ne_eq, not_true_eq_false, and_false, not_false_eq_true, iff_true]
    exact ⟨0, [], by simp [chunkReplyLoop, htext], by simp, rfl⟩
  have hlines := withoutMargins_ne_nil htext
  by_cases hzero : chunkLimit config = 0
  · simp only [hzero, htext, ne_eq, not_false_eq_true, and_self, not_true_eq_false, iff_false]
    rintro ⟨fuel, chunks, hchunks, -⟩
    simp [chunkReplyLoop, htext, hzero, linesLoop_stuck hlines] at hchunks
  · simp only [hzero, false_and, not_false_eq_true, iff_true]
    have hlimit : 0 < chunkLimit config := Nat.pos_of_ne_zero hzero
    have hfuel : ∀ line ∈ (trim text).splitOn 0x0A,
        (trim line).length < (withoutMargins (trim text)).length + 1 := by
      intro line hline
      unfold withoutMargins
      rw [List.flatMap_def]
      exact Nat.lt_succ_of_le (List.sublist_flatten_of_mem (List.mem_map_of_mem hline)).length_le
    obtain ⟨chunks, hchunks, hflatten, hsizes⟩ := linesLoop_spec hlimit hfuel
    have hsome : chunks ≠ [] := by
      intro hnone
      rw [hnone] at hflatten
      exact hlines hflatten.symm
    refine ⟨(withoutMargins (trim text)).length + 1, chunks, ?_, fun chunk hmem => ?_, hflatten⟩
    · simp [chunkReplyLoop, htext, hchunks, hsome]
    · exact ⟨(hsizes chunk hmem).1, le_max_of_le_right (hsizes chunk hmem).2⟩

def fractionalLimit : FeishuConfig := ⟨none, [], [], some (.finite (1 / 2))⟩

/-- Slices of half a code unit: the loop pushes empty ones for ever. -/
theorem fractional_limit_loops :
    ¬∃ fuel chunks, chunkReplyLoop fuel (js "hi") fractionalLimit = some chunks := by
  rintro ⟨fuel, chunks, hchunks⟩
  have hzero : chunkLimit fractionalLimit = 0 :=
    chunkLimit_eq_zero.mpr ⟨1 / 2, rfl, by norm_num, by norm_num⟩
  have htext : trim (js "hi") ≠ [] := by decide
  simp [chunkReplyLoop, htext, hzero, linesLoop_stuck (withoutMargins_ne_nil htext)] at hchunks

end LittleBaby.Feishu
