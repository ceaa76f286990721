import LittleBaby.JsNumber
import LittleBaby.MarkdownChunking

/-!
# Chunks that fit once they are rendered

A chunk that renders too long is cut at its longest prefix that fits, and white
space that ends up alone is merged into a neighbour or dropped.
-/

namespace LittleBaby.Markdown

open JsString TextPieces TextChunking LabelledSpan

/-! ## Splitting without trimming -/

/-- The variables of the scan; `-1` stands for no break so far. -/
structure PreservedScan where
  lastOutsideParenNewlineBreak : ℤ := -1
  lastOutsideParenWhitespaceBreak : ℤ := -1
  lastOutsideParenWhitespaceRunStart : ℤ := -1
  lastAnyNewlineBreak : ℤ := -1
  lastAnyWhitespaceBreak : ℤ := -1
  lastAnyWhitespaceRunStart : ℤ := -1
  parenDepth : ℕ := 0
  sawNonWhitespace : Bool := false

variable (text : JsString)

def isSpaceAt (index : ℕ) : Bool := text[index]?.any isSpace

def PreservedScan.scan (start : ℕ) (found : PreservedScan)
    (index : ℕ) (char : UInt16) : PreservedScan :=
  if char = 0x28 then
    { found with sawNonWhitespace := true, parenDepth := found.parenDepth + 1 }
  else if char = 0x29 ∧ 0 < found.parenDepth then
    { found with sawNonWhitespace := true, parenDepth := found.parenDepth - 1 }
  else if !isSpace char then { found with sawNonWhitespace := true }
  else if !found.sawNonWhitespace then found
  else if char = 0x0A then
    let found := { found with lastAnyNewlineBreak := index + 1 }
    if found.parenDepth = 0 then
      { found with lastOutsideParenNewlineBreak := index + 1 }
    else found
  else
    let whitespaceRunStart : ℤ :=
      if index = start ∨ !isSpaceAt text (index - 1) then index
      else found.lastAnyWhitespaceRunStart
    let found := { found with
      lastAnyWhitespaceBreak := index + 1
      lastAnyWhitespaceRunStart := whitespaceRunStart }
    if found.parenDepth = 0 then
      { found with
        lastOutsideParenWhitespaceBreak := index + 1
        lastOutsideParenWhitespaceRunStart := whitespaceRunStart }
    else found

def PreservedScan.scanAll (text : JsString) (start : ℕ) :
    PreservedScan → ℕ → JsString → PreservedScan
  | found, _, [] => found
  | found, index, char :: rest =>
    PreservedScan.scanAll text start (found.scan text start index char) (index + 1) rest

def resolveWhitespaceBreak (start : ℕ) (breakIndex runStart : ℤ) : ℤ :=
  if breakIndex ≤ start then breakIndex
  else if runStart ≤ start then breakIndex
  else if isSpaceAt text breakIndex.toNat then runStart
  else breakIndex

def findMarkdownIRPreservedSplitIndex (text : JsString) (start limit : ℕ) : ℕ :=
  let maxEnd := min text.length (start + limit)
  if text.length ≤ maxEnd then text.length
  else
    let found := PreservedScan.scanAll text start {} start (slice text start maxEnd)
    if start < found.lastOutsideParenNewlineBreak then
      found.lastOutsideParenNewlineBreak.toNat
    else if start < found.lastOutsideParenWhitespaceBreak then
      (resolveWhitespaceBreak text start found.lastOutsideParenWhitespaceBreak
        found.lastOutsideParenWhitespaceRunStart).toNat
    else if start < found.lastAnyNewlineBreak then found.lastAnyNewlineBreak.toNat
    else if start < found.lastAnyWhitespaceBreak then
      (resolveWhitespaceBreak text start found.lastAnyWhitespaceBreak
        found.lastAnyWhitespaceRunStart).toNat
    else maxEnd

structure PreservedScan.Bounded (bound : ℤ) (found : PreservedScan) : Prop where
  outsideNewline : found.lastOutsideParenNewlineBreak ≤ bound
  outsideBreak : found.lastOutsideParenWhitespaceBreak ≤ bound
  outsideRun : found.lastOutsideParenWhitespaceRunStart ≤ bound
  anyNewline : found.lastAnyNewlineBreak ≤ bound
  anyBreak : found.lastAnyWhitespaceBreak ≤ bound
  anyRun : found.lastAnyWhitespaceRunStart ≤ bound

variable {start : ℕ} {bound : ℤ}

theorem PreservedScan.Bounded.scan {text : JsString} {index : ℕ}
    {found : PreservedScan} (hfound : found.Bounded bound) (hindex : index + 1 ≤ bound)
    (char : UInt16) : (found.scan text start index char).Bounded bound := by
  obtain ⟨hon, hob, hor, han, hab, har⟩ := hfound
  unfold PreservedScan.scan
  simp only
  split_ifs <;> constructor <;> (try dsimp only) <;> first | assumption | omega

theorem PreservedScan.Bounded.scanAll {text : JsString}
    (chars : JsString) {found : PreservedScan} (hfound : found.Bounded bound)
    {index : ℕ} (hindex : index + chars.length ≤ bound) :
    (PreservedScan.scanAll text start found index chars).Bounded bound := by
  induction chars generalizing found index with
  | nil => exact hfound
  | cons char rest ih =>
    simp only [List.length_cons, Nat.cast_add, Nat.cast_one] at hindex
    exact ih (hfound.scan (by omega) char) (by push_cast; omega)

theorem resolveWhitespaceBreak_bounds {breakIndex runStart : ℤ} (hbreak : start < breakIndex)
    (hbound : breakIndex ≤ bound) (hrun : runStart ≤ bound) :
    start < resolveWhitespaceBreak text start breakIndex runStart ∧
      resolveWhitespaceBreak text start breakIndex runStart ≤ bound := by
  unfold resolveWhitespaceBreak
  split_ifs <;> omega

theorem findMarkdownIRPreservedSplitIndex_bounds {text : JsString} {start limit : ℕ}
    (hstart : start < text.length) (hlimit : 0 < limit) :
    start < findMarkdownIRPreservedSplitIndex text start limit ∧
      findMarkdownIRPreservedSplitIndex text start limit ≤ min text.length (start + limit) := by
  unfold findMarkdownIRPreservedSplitIndex
  simp only
  split_ifs with hall honl hows hanl haws
  · omega
  all_goals
    have hbounded : (PreservedScan.scanAll text start {} start
        (slice text start (min text.length (start + limit)))).Bounded
          (min text.length (start + limit) : ℕ) := by
      apply PreservedScan.Bounded.scanAll
      · constructor <;> simp only <;> omega
      · rw [length_slice]
        omega
  · have hbound := hbounded.outsideNewline
    omega
  · obtain ⟨hafter, hbound⟩ := resolveWhitespaceBreak_bounds text hows
      hbounded.outsideBreak hbounded.outsideRun
    omega
  · have hbound := hbounded.anyNewline
    omega
  · obtain ⟨hafter, hbound⟩ := resolveWhitespaceBreak_bounds text haws
      hbounded.anyBreak hbounded.anyRun
    omega
  · omega

def splitFrom (ir : MarkdownIR) (limit : ℕ) (hlimit : 0 < limit) (cursor : ℕ) : List MarkdownIR :=
  if _hcursor : cursor < ir.text.length then
    let finish := findMarkdownIRPreservedSplitIndex ir.text cursor limit
    sliceMarkdownIR ir cursor finish :: splitFrom ir limit hlimit finish
  else []
termination_by ir.text.length - cursor
decreasing_by
  have hbounds := findMarkdownIRPreservedSplitIndex_bounds _hcursor hlimit
  omega

def splitMarkdownIRPreserveWhitespace (ir : MarkdownIR) (limit : ℕ) : List MarkdownIR :=
  if ir.text = [] then []
  else if ir.text.length ≤ max 1 limit then [ir]
  else splitFrom ir (max 1 limit) (by omega) 0

inductive SlicesFrom (ir : MarkdownIR) : ℕ → List MarkdownIR → Prop
  | done : SlicesFrom ir ir.text.length []
  | step {cursor finish : ℕ} {pieces : List MarkdownIR} (hcursor : cursor < finish)
      (hfinish : finish ≤ ir.text.length) (hpieces : SlicesFrom ir finish pieces) :
      SlicesFrom ir cursor (sliceMarkdownIR ir cursor finish :: pieces)

variable {limit cursor : ℕ} {ir : MarkdownIR}

theorem splitFrom_slices (hlimit : 0 < limit) (hcursor : cursor ≤ ir.text.length) :
    SlicesFrom ir cursor (splitFrom ir limit hlimit cursor) := by
  induction hleft : ir.text.length - cursor using Nat.strong_induction_on generalizing cursor with
  | _ left ih =>
    rw [splitFrom]
    split_ifs with hlt
    · obtain ⟨hafter, hbound⟩ := findMarkdownIRPreservedSplitIndex_bounds hlt hlimit
      exact .step hafter (by omega) (ih _ (by omega) (by omega) rfl)
    · have hend : cursor = ir.text.length := by omega
      rw [hend]
      exact .done

theorem splitFrom_ne_nil (hlimit : 0 < limit)
    (hcursor : cursor < ir.text.length) : splitFrom ir limit hlimit cursor ≠ [] := by
  rw [splitFrom, dif_pos hcursor]
  simp

theorem two_le_length_splitFrom (hlimit : 0 < limit)
    (hlong : limit < ir.text.length) : 2 ≤ (splitFrom ir limit hlimit 0).length := by
  have hpositive : 0 < ir.text.length := by omega
  have hbounds := findMarkdownIRPreservedSplitIndex_bounds hpositive hlimit
  have hrest := List.length_pos_of_ne_nil
    (splitFrom_ne_nil hlimit (by omega : findMarkdownIRPreservedSplitIndex
      ir.text 0 limit < ir.text.length))
  rw [splitFrom, dif_pos hpositive]
  simp only [List.length_cons]
  omega

/-! ## Splitting by the rendered limit -/

section Limit

variable (fits : MarkdownIR → Bool)

/-- The loop over the candidates, from the longest to the shortest. -/
def findLargestFrom (chunk : MarkdownIR) : ℕ → ℕ
  | 0 => 0
  | shorter + 1 =>
    if fits (sliceMarkdownIR chunk 0 (shorter + 1)) then shorter + 1
    else findLargestFrom chunk shorter

def findLargestChunkTextLengthWithinRenderedLimit (chunk : MarkdownIR) : ℕ :=
  if chunk.text.length ≤ 1 then chunk.text.length
  else findLargestFrom fits chunk (chunk.text.length - 1)

def splitMarkdownIRByRenderedLimit (chunk : MarkdownIR) : List MarkdownIR :=
  if chunk.text.length ≤ 1 then [chunk]
  else
    let splitLimit := findLargestChunkTextLengthWithinRenderedLimit fits chunk
    if splitLimit = 0 then [chunk]
    else
      let split := splitMarkdownIRPreserveWhitespace chunk splitLimit
      if split.head?.any fits then split
      else
        [sliceMarkdownIR chunk 0 splitLimit, sliceMarkdownIR chunk splitLimit chunk.text.length]

theorem findLargestFrom_spec (chunk : MarkdownIR) (longest : ℕ) :
    findLargestFrom fits chunk longest ≤ longest ∧
      (findLargestFrom fits chunk longest = 0 → ∀ length, 0 < length → length ≤ longest →
          fits (sliceMarkdownIR chunk 0 length) = false) := by
  induction longest with
  | zero =>
    refine ⟨le_rfl, ?_⟩
    intro _ length hpos hle
    omega
  | succ shorter ih =>
    rw [findLargestFrom]
    split_ifs with hfits
    · refine ⟨le_rfl, ?_⟩
      intro hzero
      contradiction
    · refine ⟨by omega, ?_⟩
      intro hzero length hpos hle
      rcases Nat.lt_or_eq_of_le hle with hlt | rfl
      · exact ih.2 hzero length hpos (by omega)
      · simpa using hfits

theorem splitMarkdownIRByRenderedLimit_cases {chunk : MarkdownIR}
    (hlength : 1 < chunk.text.length) :
    (splitMarkdownIRByRenderedLimit fits chunk = [chunk] ∧
      ∀ length, 0 < length → length < chunk.text.length →
        fits (sliceMarkdownIR chunk 0 length) = false) ∨
    (SlicesFrom chunk 0 (splitMarkdownIRByRenderedLimit fits chunk) ∧
      2 ≤ (splitMarkdownIRByRenderedLimit fits chunk).length) := by
  obtain ⟨hle, hnone⟩ := findLargestFrom_spec fits chunk (chunk.text.length - 1)
  have hlargest : findLargestChunkTextLengthWithinRenderedLimit fits chunk =
      findLargestFrom fits chunk (chunk.text.length - 1) := by
    unfold findLargestChunkTextLengthWithinRenderedLimit
    rw [if_neg (by omega)]
  unfold splitMarkdownIRByRenderedLimit
  rw [if_neg (by omega), hlargest]
  simp only
  split_ifs with hzero hfirst
  · refine .inl ⟨rfl, ?_⟩
    intro length hpos hlt
    exact hnone hzero length hpos (by omega)
  · right
    unfold splitMarkdownIRPreserveWhitespace
    have hne : chunk.text ≠ [] := by
      intro hempty
      rw [hempty] at hlength
      simp at hlength
    rw [if_neg hne, if_neg (by omega)]
    have hbig : 1 ≤ max 1 (findLargestFrom fits chunk (chunk.text.length - 1)) := le_max_left _ _
    exact ⟨splitFrom_slices hbig (Nat.zero_le _), two_le_length_splitFrom hbig (by omega)⟩
  · right
    constructor
    · exact .step (by omega) (by omega) (.step (by omega) le_rfl .done)
    · simp

def work : List MarkdownIR → ℕ
  | [] => 0
  | chunk :: pending => max 1 (2 * chunk.text.length - 1) + work pending

theorem work_append (first second : List MarkdownIR) :
    work (first ++ second) = work first + work second := by
  induction first with
  | nil => simp [work]
  | cons chunk rest ih => simp [work, ih, Nat.add_assoc]

theorem work_slices {pieces : List MarkdownIR} (hpieces : SlicesFrom ir cursor pieces) :
    cursor ≤ ir.text.length ∧ work pieces + pieces.length = 2 * (ir.text.length - cursor) := by
  induction hpieces with
  | done => simp [work]
  | @step cursor finish pieces hcursor hfinish hpieces ih =>
    have hpiece : (sliceMarkdownIR ir cursor finish).text.length = finish - cursor := by
      unfold sliceMarkdownIR
      rw [length_slice, min_eq_left hfinish]
    rw [work, hpiece, List.length_cons]
    omega

def finalizeChunks : List MarkdownIR → List MarkdownIR
  | [] => []
  | chunk :: pending =>
    if _hfits : fits chunk = true ∨ chunk.text.length ≤ 1 then
      chunk :: finalizeChunks pending
    else if _hsplit : (splitMarkdownIRByRenderedLimit fits chunk).length ≤ 1 then
      chunk :: finalizeChunks pending
    else finalizeChunks (splitMarkdownIRByRenderedLimit fits chunk ++ pending)
termination_by pending => work pending
decreasing_by
  · simp only [work]
    omega
  · simp only [work]
    omega
  · rw [not_or, not_le] at _hfits
    rcases splitMarkdownIRByRenderedLimit_cases fits _hfits.2 with
      ⟨hkept, -⟩ | ⟨hslices, -⟩
    · rw [hkept] at _hsplit
      simp at _hsplit
    · have hwork := (work_slices hslices).2
      rw [work_append, work]
      omega

end Limit

/-! ## Merging -/

/-- The pass over neighbours that `mergeAdjacentStyleSpans` and
`mergeAdjacentLinkSpans` share. -/
def mayMergeAdjacent {Label : Type} [DecidableEq Label] (last span : LabelledSpan Label) :
    Bool :=
  last.label = span.label ∧ span.start ≤ last.finish

def mergeAdjacentStyleSpans (styles : List MarkdownStyleSpan) : List MarkdownStyleSpan :=
  joinNeighbours mayMergeAdjacent styles

def mergeAdjacentLinkSpans (links : List MarkdownLinkSpan) : List MarkdownLinkSpan :=
  joinNeighbours mayMergeAdjacent links

def mergeMarkdownIRChunks (left right : MarkdownIR) : MarkdownIR where
  text := left.text ++ right.text
  styles := mergeAdjacentStyleSpans (left.styles ++ right.styles.map (shift left.text.length))
  links := mergeAdjacentLinkSpans (left.links ++ right.links.map (shift left.text.length))

section Coalesce

variable (canMerge : MarkdownIR → Bool)

/-- The loop over the prefixes of a chunk between two others, from the longest to
the shortest: the first that both neighbours can take their part of. -/
def splitBetween (prev chunk next : MarkdownIR) : ℕ → Option (MarkdownIR × MarkdownIR)
  | 0 => none
  | shorter + 1 =>
    let mergedPrev := mergeMarkdownIRChunks prev (sliceMarkdownIR chunk 0 (shorter + 1))
    let mergedNext := mergeMarkdownIRChunks
      (sliceMarkdownIR chunk (shorter + 1) chunk.text.length) next
    if canMerge mergedPrev && canMerge mergedNext then some (mergedPrev, mergedNext)
    else splitBetween prev chunk next shorter

def coalesceForward (coalesced : List MarkdownIR) (chunk : MarkdownIR) :
    Option MarkdownIR → List MarkdownIR × Option MarkdownIR
  | none => (coalesced, none)
  | some next =>
    let mergedNext := mergeMarkdownIRChunks chunk next
    if canMerge mergedNext then (coalesced, some mergedNext)
    else
      match coalesced.getLast? with
      | none => (coalesced, some next)
      | some prev =>
        match splitBetween canMerge prev chunk next (chunk.text.length - 1) with
        | none => (coalesced, some next)
        | some (mergedPrev, mergedNext) =>
          (coalesced.dropLast ++ [mergedPrev], some mergedNext)

def coalesceStep (coalesced : List MarkdownIR) (chunk : MarkdownIR)
    (next : Option MarkdownIR) : List MarkdownIR × Option MarkdownIR :=
  if 0 < (trim chunk.text).length then (coalesced ++ [chunk], next)
  else
    match coalesced.getLast? with
    | none => coalesceForward canMerge coalesced chunk next
    | some prev =>
      let mergedPrev := mergeMarkdownIRChunks prev chunk
      if canMerge mergedPrev then (coalesced.dropLast ++ [mergedPrev], next)
      else coalesceForward canMerge coalesced chunk next

def coalesceFrom (coalesced : List MarkdownIR) (chunk : MarkdownIR) :
    List MarkdownIR → List MarkdownIR
  | [] => (coalesceStep canMerge coalesced chunk none).1
  | next :: rest =>
    match coalesceStep canMerge coalesced chunk (some next) with
    | (coalesced, some next) => coalesceFrom coalesced next rest
    | (coalesced, none) => coalesced

def coalesceWhitespaceOnlyMarkdownIRChunks : List MarkdownIR → List MarkdownIR
  | [] => []
  | chunk :: rest => coalesceFrom canMerge [] chunk rest

end Coalesce

structure RenderedMarkdownChunk (TRendered : Type) where
  rendered : TRendered
  source : MarkdownIR

/-- `chunkMarkdownIR` at a limit that is a number: an infinite limit cuts nothing,
and with NaN the loop never runs, so that the whole text is one chunk of the walk. -/
def chunkMarkdownIRAt (ir : MarkdownIR) : JsNumber → List MarkdownIR
  | .finite limit => chunkMarkdownIR ir ⌊limit⌋.toNat
  | .nan => [sliceMarkdownIR ir 0 ir.text.length]
  | .posInfinity => [ir]
  | .negInfinity => [ir]

def normalizedLimit (limit : JsNumber) : JsNumber := .max (.ofNat 1) limit.floor

section Render

variable {TRendered : Type} (measureRendered : TRendered → JsNumber)
  (renderChunk : MarkdownIR → TRendered)

def fitsRendered (limit : JsNumber) (chunk : MarkdownIR) : Bool :=
  JsNumber.le (measureRendered (renderChunk chunk)) (normalizedLimit limit)

def renderMarkdownIRChunksWithinLimit (ir : MarkdownIR) (limit : JsNumber) :
    List (RenderedMarkdownChunk TRendered) :=
  if ir.text = [] then []
  else
    let fits := fitsRendered measureRendered renderChunk limit
    let pending := chunkMarkdownIRAt ir (normalizedLimit limit)
    let finalized := finalizeChunks fits pending
    (coalesceWhitespaceOnlyMarkdownIRChunks fits finalized).map fun source =>
      ⟨renderChunk source, source⟩

end Render

end LittleBaby.Markdown
