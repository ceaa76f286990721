import Mathlib.Data.List.Forall2
import Mathlib.Data.Rat.Floor
import LittleBaby.TranscriptMessages

/-!
# Truncation of tool results

The text blocks of a tool result are cut to budgets, with a notice behind what is kept.
-/

namespace LittleBaby.ToolResults

open JsString JsValue Transcript

structure Rounding where
  /-- `Math.floor(maxChars * (length / total))` -/
  proportional (maxChars : ℚ) (length total : ℕ) : ℕ
  /-- `Math.min(Math.floor(budget * 0.3), 4_000)` -/
  tailBudget (budget : ℚ) : ℕ
  tailBudget_le : ∀ budget, 0 ≤ budget → (tailBudget budget : ℚ) ≤ budget
  /-- `index > budget * 0.8` -/
  isNearEnd (index : ℕ) (budget : ℚ) : Bool
  /-- `index < start + budget * 0.2` -/
  isNearStart (index start budget : ℕ) : Bool

/-- The notice of a number of truncated characters. -/
abbrev SuffixFactory := ℚ → JsString

def MIN_KEEP_CHARS : ℚ := 2000

def MIDDLE_OMISSION_MARKER : JsString :=
  js "\n\n⚠️ [... middle content omitted — showing head and tail ...]\n\n"

variable (rounding : Rounding) (hasImportantTail : JsString → Bool) (suffixFactory : SuffixFactory)

def resolveEffectiveMinKeepChars (maxChars minKeepChars : ℚ) : ℚ :=
  max 0 (min minKeepChars (max 0 (maxChars - (suffixFactory 1).length)))

def build (originalTextLength : ℕ) (keptText : JsString) : JsString :=
  keptText ++ suffixFactory (max 1 ((originalTextLength : ℚ) - keptText.length))

def nextKeptText (keptText : JsString) (overflow : ℚ) : JsString :=
  let shorter := keptText.take ⌊max 0 ((keptText.length : ℚ) - overflow)⌋₊
  if shorter.length < keptText.length then shorter else keptText.dropLast

theorem length_nextKeptText {keptText : JsString} (hne : keptText ≠ []) (overflow : ℚ) :
    (nextKeptText keptText overflow).length < keptText.length := by
  have hpos := List.length_pos_of_ne_nil hne
  simp only [nextKeptText]
  split_ifs with hshorter
  · exact hshorter
  · rw [List.length_dropLast]
    omega

theorem nextKeptText_isPrefix (keptText : JsString) (overflow : ℚ) :
    nextKeptText keptText overflow <+: keptText := by
  simp only [nextKeptText]
  split_ifs
  · exact List.take_prefix _ _
  · exact List.dropLast_prefix _

def appendBoundedTruncationSuffix (originalTextLength : ℕ) (maxChars : ℚ)
    (keptText : JsString) : JsString :=
  let finalText := build suffixFactory originalTextLength keptText
  if (finalText.length : ℚ) ≤ maxChars then finalText
  else if _hnil : keptText = [] then finalText.take ⌊maxChars⌋₊
  else
    appendBoundedTruncationSuffix originalTextLength maxChars
      (nextKeptText keptText (finalText.length - maxChars))
termination_by keptText.length
decreasing_by exact length_nextKeptText _hnil _

/-- `text.lastIndexOf("\n", position)`. -/
def lastNewline (text : JsString) (position : ℕ) : Option ℕ :=
  (List.range (position + 1)).reverse.find? fun index => text[index]? = some 0x0A

/-- `text.indexOf("\n", start)`. -/
def nextNewline (text : JsString) (start : ℕ) : Option ℕ :=
  (List.range text.length).find? fun index => start ≤ index ∧ text[index]? = some 0x0A

def headCut (text : JsString) (budget : ℚ) : ℕ :=
  match lastNewline text ⌊budget⌋₊ with
  | some newline => if rounding.isNearEnd newline budget then newline else ⌊budget⌋₊
  | none => ⌊budget⌋₊

def tailStart (text : JsString) (tailBudget : ℕ) : ℕ :=
  let start := text.length - tailBudget
  match nextNewline text start with
  | some newline => if rounding.isNearStart newline start tailBudget then newline + 1 else start
  | none => start

def keptText (text : JsString) (budget minKeepChars : ℚ) : JsString :=
  let tailBudget := rounding.tailBudget budget
  let headBudget := budget - tailBudget - MIDDLE_OMISSION_MARKER.length
  if hasImportantTail text = true ∧ minKeepChars * 2 < budget ∧ minKeepChars < headBudget then
    text.take (headCut rounding text headBudget) ++ MIDDLE_OMISSION_MARKER ++
      text.drop (tailStart rounding text tailBudget)
  else text.take (headCut rounding text budget)

def truncateToolResultText (text : JsString) (maxChars minKeepChars : ℚ) : JsString :=
  let minKeepChars := resolveEffectiveMinKeepChars suffixFactory maxChars minKeepChars
  if (text.length : ℚ) ≤ maxChars then text
  else
    let defaultSuffix := suffixFactory (max 1 ((text.length : ℚ) - maxChars))
    let budget := max minKeepChars (maxChars - defaultSuffix.length)
    appendBoundedTruncationSuffix suffixFactory text.length maxChars
      (keptText rounding hasImportantTail text budget minKeepChars)

def textOf (block : JsValue) : Option JsString :=
  if stringField (js "type") block = some (js "text") then stringField (js "text") block
  else none

def textLength (block : JsValue) : ℕ := ((textOf block).map List.length).getD 0

def totalTextLength : List JsValue → ℕ
  | [] => 0
  | block :: rest => textLength block + totalTextLength rest

def getToolResultTextLength (message : JsValue) : ℕ :=
  if isToolResult message then
    match field (js "content") message with
    | .array content => totalTextLength content
    | _ => 0
  else 0

def blockBudget (maxChars minKeepChars : ℚ) (length total : ℕ) : ℚ :=
  let proportionalBudget := rounding.proportional maxChars length total
  let defaultSuffix := suffixFactory (max 1 ((length : ℚ) - proportionalBudget))
  max 1 (min maxChars (max (minKeepChars + defaultSuffix.length) proportionalBudget))

/-- `{ ...value, [key]: changed }`. -/
def withField (key : JsString) (changed : JsValue) : JsValue → JsValue
  | .object entries => .object (Entries.set key changed entries)
  | other => other

def truncateBlock (maxChars minKeepChars : ℚ) (total : ℕ) (block : JsValue) : JsValue :=
  match textOf block with
  | none => block
  | some text =>
    let budget := blockBudget rounding suffixFactory maxChars minKeepChars text.length total
    withField (js "text") (.string (truncateToolResultText rounding hasImportantTail
      suffixFactory text budget minKeepChars)) block

def keptMinimum (maxChars : ℚ) (minKeepChars : Option ℚ) : ℚ :=
  resolveEffectiveMinKeepChars suffixFactory maxChars (minKeepChars.getD MIN_KEEP_CHARS)

def truncateToolResultMessage (message : JsValue) (maxChars : ℚ) (minKeepChars : Option ℚ) :
    JsValue :=
  match field (js "content") message with
  | .array content =>
    if (getToolResultTextLength message : ℚ) ≤ maxChars then message
    else
      withField (js "content") (.array (content.map (truncateBlock rounding hasImportantTail
        suffixFactory maxChars (keptMinimum suffixFactory maxChars minKeepChars)
        (getToolResultTextLength message)))) message
  | _ => message

def IsCut (text short : JsString) : Prop :=
  ∃ head rest tail notice count, short = head ++ rest ++ notice ∧ head <+: text ∧
    rest <+: MIDDLE_OMISSION_MARKER ++ tail ∧ tail <:+ text ∧ notice <+: suffixFactory count

variable {rounding hasImportantTail suffixFactory}

variable {maxChars : ℚ}

theorem appendBounded_spec (originalTextLength : ℕ) (hmax : 0 ≤ maxChars) (keptText : JsString) :
    ((appendBoundedTruncationSuffix suffixFactory originalTextLength maxChars keptText).length :
        ℚ) ≤ maxChars ∧
      ∃ kept notice count, appendBoundedTruncationSuffix suffixFactory originalTextLength maxChars
          keptText = kept ++ notice ∧ kept <+: keptText ∧ notice <+: suffixFactory count := by
  induction keptText using appendBoundedTruncationSuffix.induct suffixFactory originalTextLength
    maxChars with
  | case1 keptText finalText hfits =>
    rw [appendBoundedTruncationSuffix, if_pos hfits]
    exact ⟨hfits, keptText, _, _, rfl, List.prefix_rfl, List.prefix_rfl⟩
  | case2 finalText hlong =>
    rw [appendBoundedTruncationSuffix, if_neg hlong, dif_pos rfl]
    constructor
    · have htake : (finalText.take ⌊maxChars⌋₊).length ≤ ⌊maxChars⌋₊ := List.length_take_le _ _
      calc ((finalText.take ⌊maxChars⌋₊).length : ℚ) ≤ (⌊maxChars⌋₊ : ℚ) := by exact_mod_cast htake
        _ ≤ maxChars := Nat.floor_le hmax
    · exact ⟨[], _, _, rfl, List.prefix_rfl, List.take_prefix _ _⟩
  | case3 keptText finalText hlong hnil ih =>
    rw [appendBoundedTruncationSuffix, if_neg hlong, dif_neg hnil]
    obtain ⟨hlength, kept, notice, count, heq, hkept, hnotice⟩ := ih
    exact ⟨hlength, kept, notice, count, heq, hkept.trans (nextKeptText_isPrefix _ _), hnotice⟩

theorem keptText_spec (text : JsString) (budget minKeepChars : ℚ) :
    ∃ head tail, head <+: text ∧ tail <:+ text ∧
      keptText rounding hasImportantTail text budget minKeepChars <+:
        head ++ (MIDDLE_OMISSION_MARKER ++ tail) := by
  simp only [keptText]
  split_ifs
  · rw [List.append_assoc]
    exact ⟨_, _, List.take_prefix _ _, List.drop_suffix _ _, List.prefix_rfl⟩
  · exact ⟨_, [], List.take_prefix _ _, List.nil_suffix, List.prefix_append _ _⟩

theorem truncateToolResultText_spec (text : JsString) {maxChars : ℚ} (hmax : 0 ≤ maxChars)
    (minKeepChars : ℚ) (hlong : ¬(text.length : ℚ) ≤ maxChars) :
    ((truncateToolResultText rounding hasImportantTail suffixFactory text maxChars
        minKeepChars).length : ℚ) ≤ maxChars ∧
      IsCut suffixFactory text
        (truncateToolResultText rounding hasImportantTail suffixFactory text maxChars
          minKeepChars) := by
  simp only [truncateToolResultText, if_neg hlong]
  generalize max (resolveEffectiveMinKeepChars suffixFactory maxChars minKeepChars) _ = budget
  generalize resolveEffectiveMinKeepChars suffixFactory maxChars minKeepChars = minimum
  obtain ⟨head, tail, hhead, htail, hkeptText⟩ :=
    @keptText_spec rounding hasImportantTail text budget minimum
  obtain ⟨hlength, kept, notice, count, heq, hkept, hnotice⟩ :=
    appendBounded_spec text.length hmax (keptText rounding hasImportantTail text budget minimum)
  refine ⟨hlength, ?_⟩
  rw [heq]
  obtain ⟨rest, hrest⟩ := hkept.trans hkeptText
  rcases List.append_eq_append_iff.mp hrest with ⟨more, hmore, -⟩ | ⟨more, hmore, hmarker⟩
  · refine ⟨kept, [], tail, notice, count, by simp, ?_, List.nil_prefix, htail, hnotice⟩
    exact List.IsPrefix.trans ⟨more, hmore.symm⟩ hhead
  · refine ⟨head, more, tail, notice, count, by rw [hmore], hhead, ?_, htail, hnotice⟩
    exact ⟨rest, hmarker.symm⟩

/-- A text block that is over its budget is cut to it; all other blocks stay. -/
def Truncates (suffixFactory : SuffixFactory) (budgetOf : ℕ → ℚ) (block result : JsValue) :
    Prop :=
  ((textLength block : ℚ) ≤ budgetOf (textLength block) ∧ result = block) ∨
    ∃ text short, textOf block = some text ∧ budgetOf text.length < text.length ∧
      result = withField (js "text") (.string short) block ∧
      (short.length : ℚ) ≤ budgetOf text.length ∧ IsCut suffixFactory text short

def budgetTotal (budgetOf : ℕ → ℚ) : List JsValue → ℚ
  | [] => 0
  | block :: rest =>
    min (textLength block : ℚ) (budgetOf (textLength block)) + budgetTotal budgetOf rest

theorem field_withField {key other : JsString} {value changed : JsValue}
    (hobject : isRecord value = true) :
    field other (withField key changed value) =
      if other = key then changed else field other value := by
  cases value with
  | object entries =>
    simp only [withField, field, readKey]
    by_cases hsame : other = key
    · rw [if_pos hsame, hsame, Entries.lookup_set_self]
    · rw [if_neg hsame, Entries.lookup_set_of_ne hsame]
  | _ => cases hobject

variable {text : JsString}

theorem withField_eq_self {key : JsString} {value : JsValue}
    (htext : stringField key value = some text) : withField key (.string text) value = value := by
  cases value with
  | object entries =>
    simp only [stringField, field, readKey] at htext
    cases hlookup : entries.lookup key with
    | none =>
      rw [hlookup] at htext
      split_ifs at htext
    | some found =>
      rw [hlookup] at htext
      cases found with
      | string other =>
        cases htext
        rw [withField, Entries.set_eq_self hlookup]
      | _ => cases htext
  | _ => rfl

variable {block : JsValue}

theorem isRecord_of_textOf (htext : textOf block = some text) :
    isRecord block = true ∧ stringField (js "type") block = some (js "text") ∧
      stringField (js "text") block = some text := by
  unfold textOf at htext
  split_ifs at htext with htype
  refine ⟨?_, htype, htext⟩
  cases block with
  | object entries => rfl
  | _ => cases htext

theorem textOf_withField {short : JsString} (htext : textOf block = some text) :
    textOf (withField (js "text") (.string short) block) = some short := by
  obtain ⟨hobject, htype, -⟩ := isRecord_of_textOf htext
  have hother : ¬js "type" = js "text" := by decide
  unfold textOf stringField at *
  rw [field_withField hobject, field_withField hobject, if_neg hother, if_pos htype, if_pos rfl]

theorem one_le_blockBudget (maxChars minKeepChars : ℚ) (length total : ℕ) :
    1 ≤ blockBudget rounding suffixFactory maxChars minKeepChars length total :=
  le_max_left _ _

theorem blockBudget_le (hmax : 1 ≤ maxChars) (minKeepChars : ℚ) (length total : ℕ) :
    blockBudget rounding suffixFactory maxChars minKeepChars length total ≤ maxChars :=
  max_le hmax (min_le_left _ _)

theorem truncateBlock_truncates (maxChars minKeepChars : ℚ) (total : ℕ) (block : JsValue) :
    Truncates suffixFactory
      (fun length => blockBudget rounding suffixFactory maxChars minKeepChars length total) block
      (truncateBlock rounding hasImportantTail suffixFactory maxChars minKeepChars total
        block) := by
  unfold truncateBlock
  cases htext : textOf block with
  | none =>
    have hlength : textLength block = 0 := by simp [textLength, htext]
    refine .inl ⟨?_, rfl⟩
    rw [hlength, Nat.cast_zero]
    exact le_trans zero_le_one (one_le_blockBudget _ _ _ _)
  | some text =>
    have hlength : textLength block = text.length := by simp [textLength, htext]
    have hbudget := @one_le_blockBudget rounding suffixFactory maxChars minKeepChars
      text.length total
    by_cases hfits : (text.length : ℚ) ≤
        blockBudget rounding suffixFactory maxChars minKeepChars text.length total
    · left
      simp only [truncateToolResultText, if_pos hfits, hlength]
      exact ⟨hfits, withField_eq_self (isRecord_of_textOf htext).2.2⟩
    · right
      have hcut := @truncateToolResultText_spec rounding hasImportantTail suffixFactory text
        _ (le_trans zero_le_one hbudget) minKeepChars hfits
      exact ⟨text, _, htext, lt_of_not_ge hfits, rfl, hcut⟩

variable {budgetOf : ℕ → ℚ}

theorem textLength_of_truncates {result : JsValue}
    (htruncates : Truncates suffixFactory budgetOf block result) :
    (textLength result : ℚ) ≤ min (textLength block : ℚ) (budgetOf (textLength block)) := by
  rcases htruncates with ⟨hfits, rfl⟩ | ⟨text, short, htext, hlong, rfl, hshort, -⟩
  · exact le_min (le_refl _) hfits
  · have hlength : textLength block = text.length := by simp [textLength, htext]
    have hresult : textLength (withField (js "text") (.string short) block) = short.length := by
      simp [textLength, textOf_withField htext]
    rw [hlength, hresult]
    exact le_min (hshort.trans hlong.le) hshort

theorem totalTextLength_le_budgetTotal {content cut : List JsValue}
    (htruncates : List.Forall₂ (Truncates suffixFactory budgetOf) content cut) :
    (totalTextLength cut : ℚ) ≤ budgetTotal budgetOf content := by
  induction htruncates with
  | nil => exact le_of_eq Nat.cast_zero
  | cons hblock _ ih =>
    have hlength := textLength_of_truncates hblock
    simp only [totalTextLength, budgetTotal, Nat.cast_add]
    linarith

theorem budgetTotal_le {content : List JsValue}
    (hmax : 0 ≤ maxChars) (hbudget : ∀ length, 0 ≤ budgetOf length ∧ budgetOf length ≤ maxChars)
    (hone : content.countP (textLength · ≠ 0) ≤ 1) : budgetTotal budgetOf content ≤ maxChars := by
  have hnone : ∀ blocks : List JsValue, blocks.countP (textLength · ≠ 0) = 0 →
      budgetTotal budgetOf blocks = 0 := by
    intro blocks hzero
    induction blocks with
    | nil => rfl
    | cons block rest ih =>
      have hall := List.countP_eq_zero.mp hzero
      have hblock : textLength block = 0 := by simpa using hall block (by simp)
      have hrest := ih (List.countP_eq_zero.mpr fun other hmem =>
        hall other (List.mem_cons_of_mem _ hmem))
      rw [budgetTotal, hblock, hrest, Nat.cast_zero, min_eq_left (hbudget 0).1, add_zero]
  induction content with
  | nil => exact hmax
  | cons block rest ih =>
    rw [List.countP_cons] at hone
    rw [budgetTotal]
    by_cases hblock : textLength block = 0
    · have hrest := ih (le_trans (Nat.le_add_right _ _) hone)
      rw [hblock, Nat.cast_zero, min_eq_left (hbudget 0).1, zero_add]
      exact hrest
    · have hrest : rest.countP (textLength · ≠ 0) = 0 := by
        simpa [hblock] using hone
      rw [hnone rest hrest, add_zero]
      exact (min_le_right _ _).trans (hbudget _).2

def exactRounding : Rounding where
  proportional maxChars length total := ⌊maxChars * ((length : ℚ) / total)⌋₊
  tailBudget budget := min ⌊budget * (3 / 10)⌋₊ 4000
  tailBudget_le := by
    intro budget hbudget
    have hfloor : (⌊budget * (3 / 10)⌋₊ : ℚ) ≤ budget * (3 / 10) := Nat.floor_le (by linarith)
    have hmin : ((min ⌊budget * (3 / 10)⌋₊ 4000 : ℕ) : ℚ) ≤ (⌊budget * (3 / 10)⌋₊ : ℚ) := by
      exact_mod_cast min_le_left _ _
    linarith
  isNearEnd index budget := decide (budget * (4 / 5) < index)
  isNearStart index start budget := decide ((index : ℚ) < start + budget * (1 / 5))

def toolResult (texts : List JsString) : JsValue :=
  .object [(js "role", .string (js "toolResult")), (js "content", .array (texts.map fun text =>
        .object [(js "type", .string (js "text")), (js "text", .string text)]))]

end LittleBaby.ToolResults
