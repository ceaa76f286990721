import LittleBaby.LabelledSpans
import LittleBaby.TextPieces

/-!
# Text with style and link spans

A slice of a text keeps, for every character in it, the styles and the links of
that character.
-/

namespace LittleBaby.Markdown

open JsString TextPieces LabelledSpan

inductive MarkdownStyle
  | bold
  | italic
  | strikethrough
  | code
  | codeBlock
  | spoiler
  | blockquote
  deriving DecidableEq

abbrev MarkdownStyleSpan := LabelledSpan MarkdownStyle

abbrev MarkdownLinkSpan := LabelledSpan JsString

structure MarkdownIR where
  text : JsString
  styles : List MarkdownStyleSpan := []
  links : List MarkdownLinkSpan := []
  deriving DecidableEq

/-- The position of a style among all styles by `localeCompare`. -/
def MarkdownStyle.localeRank : MarkdownStyle → ℕ
  | .blockquote => 0
  | .bold => 1
  | .code => 2
  | .codeBlock => 3
  | .italic => 4
  | .spoiler => 5
  | .strikethrough => 6

def spanLe (first second : MarkdownStyleSpan) : Bool :=
  if first.start ≠ second.start then first.start < second.start
  else if first.finish ≠ second.finish then first.finish < second.finish
  else first.label.localeRank ≤ second.label.localeRank

def mayMerge (prev span : MarkdownStyleSpan) : Bool :=
  prev.label = span.label ∧ (span.start < prev.finish ∨
      (span.start = prev.finish ∧ span.label ≠ .blockquote))

variable (spans : List MarkdownStyleSpan)

def mergeStyleSpans : List MarkdownStyleSpan := joinNeighbours mayMerge (spans.mergeSort spanLe)

def sliceStyleSpans (start finish : ℕ) : List MarkdownStyleSpan :=
  mergeStyleSpans (spans.filterMap (cut start finish))

def sliceLinkSpans (spans : List MarkdownLinkSpan) (start finish : ℕ) : List MarkdownLinkSpan :=
  spans.filterMap (cut start finish)

variable (ir : MarkdownIR)

def sliceMarkdownIR (start finish : ℕ) : MarkdownIR where
  text := slice ir.text start finish
  styles := sliceStyleSpans ir.styles start finish
  links := sliceLinkSpans ir.links start finish

structure SameMarks (chunk : MarkdownIR) (position : ℕ) (ir : MarkdownIR)
    (origin : ℕ) : Prop where
  styles : ∀ style, Covers chunk.styles position style ↔ Covers ir.styles origin style
  links : ∀ href, Covers chunk.links position href ↔ Covers ir.links origin href

theorem SameMarks.refl (position : ℕ) : SameMarks ir position ir position :=
  ⟨fun _ => Iff.rfl, fun _ => Iff.rfl⟩

theorem ordered_mergeSort_spanLe : Ordered (spans.mergeSort spanLe) := by
  have hsorted := @List.pairwise_mergeSort _ spanLe (by
      intro first second third hfirst hsecond
      unfold spanLe at hfirst hsecond ⊢
      split_ifs at hfirst hsecond ⊢ <;> simp only [decide_eq_true_eq] at * <;> omega)
    (by
      intro first second
      unfold spanLe
      split_ifs <;> simp only [Bool.or_eq_true, decide_eq_true_eq] <;> omega) spans
  apply hsorted.imp
  intro first second hle _
  unfold spanLe at hle
  split_ifs at hle <;> simp only [decide_eq_true_eq] at hle <;> omega

theorem touching_mayMerge : Touching mayMerge := by
  intro last span hmerge
  simp only [mayMerge, decide_eq_true_eq] at hmerge
  exact ⟨hmerge.1, by omega⟩

theorem covers_mergeStyleSpans {spans : List MarkdownStyleSpan} {position : ℕ}
    {style : MarkdownStyle} :
    Covers (mergeStyleSpans spans) position style ↔ Covers spans position style := by
  unfold mergeStyleSpans
  rw [covers_joinNeighbours touching_mayMerge (ordered_mergeSort_spanLe spans),
    covers_of_perm (List.mergeSort_perm spans spanLe)]

theorem sameMarks_slice (text : JsString) {start finish position : ℕ}
    (hinside : start + position < finish) :
    SameMarks ⟨text, sliceStyleSpans ir.styles start finish,
      sliceLinkSpans ir.links start finish⟩ position ir (start + position) := by
  constructor
  · intro style
    unfold sliceStyleSpans
    rw [covers_mergeStyleSpans, covers_cut, and_iff_right hinside]
  · intro href
    unfold sliceLinkSpans
    rw [covers_cut, and_iff_right hinside]

end LittleBaby.Markdown
