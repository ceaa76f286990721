import LittleBaby.MarkdownIR
import LittleBaby.TextChunking

/-!
# Chunks of a text with spans

The chunks of the text are found again by a second walk, which skips the white
space before every chunk but the first.
-/

namespace LittleBaby.Markdown

open JsString TextPieces TextChunking LabelledSpan

/-- The second walk, from the chunk with number `index` on. -/
def chunkResults (ir : MarkdownIR) : ℕ → ℕ → List JsString → List MarkdownIR
  | _, _, [] => []
  | index, cursor, chunk :: chunks =>
    if chunk = [] then chunkResults ir (index + 1) cursor chunks
    else
      let start := if 0 < index then skipGap isSpace ir.text cursor else cursor
      let finish := min ir.text.length (start + chunk.length)
      { text := chunk
        styles := sliceStyleSpans ir.styles start finish
        links := sliceLinkSpans ir.links start finish } :: chunkResults ir (index + 1) finish chunks

def chunkMarkdownIR (ir : MarkdownIR) (limit : ℕ) : List MarkdownIR :=
  if ir.text = [] then []
  else if limit = 0 ∨ ir.text.length ≤ limit then [ir]
  else chunkResults ir 0 0 (chunkText ir.text limit)

/-- The chunk is a part of the text, with the styles and links of its characters. -/
structure IsSlice (ir : MarkdownIR) (limit : ℕ) (interval : ℕ × ℕ)
    (chunk : MarkdownIR) : Prop where
  text : chunk.text = slice ir.text interval.1 interval.2
  size : chunk.text.length ≤ limit
  marks : ∀ position, interval.1 + position < interval.2 →
    SameMarks chunk position ir (interval.1 + position)

/-- The chunks are disjoint parts in their order, and only white space is left
out. -/
def KeepsSpans (ir : MarkdownIR) (limit : ℕ) (chunks : List MarkdownIR) : Prop :=
  ∃ intervals : List (ℕ × ℕ), List.Forall₂ (IsSlice ir limit) intervals chunks ∧
    Intervals isSpace ir.text 0 intervals

variable {ir : MarkdownIR} {limit cursor index : ℕ}

theorem isSlice_at {chunk rest : JsString} {start : ℕ}
    (hdrop : ir.text.drop start = chunk ++ rest) (hsize : chunk.length ≤ limit) :
    IsSlice ir limit (start, start + chunk.length)
      ⟨chunk, sliceStyleSpans ir.styles start (start + chunk.length),
        sliceLinkSpans ir.links start (start + chunk.length)⟩ := by
  constructor
  · rw [slice_add, hdrop, List.take_left]
  · exact hsize
  · intro position hinside
    exact sameMarks_slice ir chunk hinside

theorem chunkResults_spec {chunks : List JsString} (hindex : 0 < index)
    (hcursor : cursor ≤ ir.text.length)
    (hpieces : Pieces isSpace (ir.text.drop cursor) chunks)
    (hsize : ∀ chunk ∈ chunks, chunk.length ≤ limit) :
    ∃ intervals : List (ℕ × ℕ),
      List.Forall₂ (IsSlice ir limit) intervals (chunkResults ir index cursor chunks) ∧
        Intervals isSpace ir.text cursor intervals := by
  induction chunks generalizing cursor index with
  | nil =>
    generalize hlist : ir.text.drop cursor = list at hpieces
    cases hpieces with
    | nil hrest => exact ⟨[], List.Forall₂.nil, Intervals.nil (hlist ▸ hrest)⟩
  | cons chunk chunks ih =>
    generalize hlist : ir.text.drop cursor = list at hpieces
    cases hpieces with
    | @cons skipped rest first piece pieces hskipped hfirst hrest =>
      rw [List.append_assoc, List.cons_append] at hlist
      have hstart := skipGap_of_drop hskipped hfirst hlist
      have hlength := congrArg List.length hlist
      simp only [List.length_drop, List.length_append, List.length_cons] at hlength
      have hfinish : min ir.text.length (cursor + skipped.length + (first :: piece).length) =
            cursor + skipped.length + (first :: piece).length := by
        rw [List.length_cons]
        omega
      have hchunk : ir.text.drop (cursor + skipped.length) = (first :: piece) ++ rest := by
        rw [← List.drop_drop, hlist, List.drop_left, List.cons_append]
      have hrestDrop : ir.text.drop (cursor + skipped.length + (first :: piece).length) = rest := by
        rw [← List.drop_drop, hchunk, List.drop_left]
      obtain ⟨intervals, hslices, hintervals⟩ := ih (Nat.succ_pos index)
        (by rw [List.length_cons]; omega) (hrestDrop ▸ hrest)
        (fun other hmem => hsize other (by simp [hmem]))
      refine ⟨(cursor + skipped.length,
        cursor + skipped.length + (first :: piece).length) :: intervals, ?_, ?_⟩
      · rw [chunkResults, if_neg (by simp)]
        simp only [hindex, if_true, hstart, hfinish]
        exact List.Forall₂.cons (isSlice_at hchunk (hsize _ (by simp))) hslices
      · apply hintervals.cons
        · omega
        · omega
        · rw [List.length_cons]
          omega
        · rw [slice_add, hlist, List.take_left]
          exact hskipped

/-- The text is longer than the limit and not blank, and the first break lies in
the white space that it starts with. -/
def BlankFirstPiece (text : JsString) (limit : ℕ) : Prop :=
  limit < text.length ∧
    trim (text.take (nextBreak resolveBreakIndex limit text)) = [] ∧ trim text ≠ []

variable {text : JsString}

theorem trim_eq_nil_iff : trim text = [] ↔ ∀ unit ∈ text, isSpace unit = true := by
  constructor
  · intro hblank unit hunit
    by_contra hspace
    exact trim_ne_nil_of_not_isSpace hunit (by simpa using hspace) hblank
  · intro hall
    unfold trim
    rw [List.dropWhile_eq_nil_iff.mpr hall, List.rdropWhile_nil]

theorem trimEnd_eq_nil_iff : trimEnd text = [] ↔ ∀ unit ∈ text, isSpace unit = true :=
  List.rdropWhile_eq_nil_iff

theorem chunkText_of_lt (hlimit : 0 < limit) (hlong : limit < text.length) :
    chunkText text limit = chunkRemaining resolveBreakIndex limit hlimit text := by
  have hne : text ≠ [] := by
    rintro rfl
    simp at hlong
  unfold chunkText resolveChunkEarlyReturn chunkTextByBreakResolver
  rw [if_neg hne, if_neg hlimit.ne', if_neg (by omega)]
  simp only [if_neg hne, dif_neg hlimit.ne', if_neg (Nat.not_le.mpr hlong)]

theorem chunkMarkdownIR_of_lt (hlimit : 0 < limit) (hlong : limit < ir.text.length) :
    chunkMarkdownIR ir limit = chunkResults ir 0 0
      (chunkRemaining resolveBreakIndex limit hlimit ir.text) := by
  have hne : ir.text ≠ [] := by
    intro hnone
    rw [hnone] at hlong
    simp at hlong
  unfold chunkMarkdownIR
  rw [if_neg hne, if_neg (by omega), chunkText_of_lt hlimit hlong]

theorem chunkRemaining_of_blank (hlimit : 0 < limit)
    (hlong : limit < text.length) (hblank : ∀ unit ∈ text, isSpace unit = true) :
    chunkRemaining resolveBreakIndex limit hlimit text = [] := by
  have hpiece : firstPiece resolveBreakIndex limit text = [] := by
    apply trimEnd_eq_nil_iff.mpr
    intro unit hunit
    exact hblank unit (List.mem_of_mem_take hunit)
  have hnext : nextRemaining resolveBreakIndex limit text = [] := by
    obtain ⟨spaces, hsplit, -⟩ := eq_firstPiece_append resolveBreakIndex limit text
    have houtside := remainingAfter_startsOutside text (nextBreak resolveBreakIndex limit text)
    cases hcase : nextRemaining resolveBreakIndex limit text with
    | nil => rfl
    | cons first rest =>
      have hspace := hblank first (by rw [hsplit, hcase]; simp)
      unfold nextRemaining at hcase
      rw [hcase] at houtside
      rw [houtside first rfl] at hspace
      contradiction
  rw [chunkRemaining_of_lt hlimit hlong, hpiece, if_neg (by simp), hnext,
    chunkRemaining_of_le hlimit (by simp)]
  rfl

theorem keepsSpans_of_not_blankFirstPiece (hlimit : 0 < limit)
    (hkept : ¬ BlankFirstPiece ir.text limit) :
    KeepsSpans ir limit (chunkMarkdownIR ir limit) := by
  rcases le_or_gt ir.text.length limit with hshort | hlong
  · unfold chunkMarkdownIR
    split_ifs with hnone hreturn
    · refine ⟨[], List.Forall₂.nil, Intervals.nil ?_⟩
      simp [hnone]
    · refine ⟨[(0, ir.text.length)], ?_, ?_⟩
      · refine List.Forall₂.cons ⟨?_, hshort, ?_⟩ List.Forall₂.nil
        · simp [slice]
        · intro position _
          rw [Nat.zero_add]
          exact SameMarks.refl ir position
      · refine Intervals.cons le_rfl (Nat.zero_le _) le_rfl ?_ (Intervals.nil ?_)
        · simp [slice]
        · simp
    · omega
  · rw [chunkMarkdownIR_of_lt hlimit hlong]
    by_cases hblank : ∀ unit ∈ ir.text, isSpace unit = true
    · rw [chunkRemaining_of_blank hlimit hlong hblank]
      exact ⟨[], List.Forall₂.nil, Intervals.nil (by simpa using hblank)⟩
    · have hpiece : firstPiece resolveBreakIndex limit ir.text ≠ [] := by
        intro hnone
        have hblankPiece := trim_eq_nil_iff.mpr (trimEnd_eq_nil_iff.mp hnone)
        exact hkept ⟨hlong, hblankPiece, fun htrim => hblank (trim_eq_nil_iff.mp htrim)⟩
      have hpieces := pieces_behind_firstPiece hlimit resolveBreakIndex ir.text
      have hsizes := length_of_mem_chunkRemaining hlimit resolveBreakIndex
        (nextRemaining resolveBreakIndex limit ir.text)
      obtain ⟨spaces, hsplit, -⟩ := eq_firstPiece_append resolveBreakIndex limit ir.text
      have hlength := congrArg List.length hsplit
      rw [List.length_append] at hlength
      have hfinish : min ir.text.length (0 + (firstPiece resolveBreakIndex limit ir.text).length) =
            0 + (firstPiece resolveBreakIndex limit ir.text).length := by
        omega
      rw [chunkRemaining_of_lt hlimit hlong,
        if_pos (List.length_pos_of_ne_nil hpiece), chunkResults, if_neg hpiece]
      simp only [lt_irrefl, if_false, hfinish]
      obtain ⟨intervals, hslices, hintervals⟩ := chunkResults_spec Nat.zero_lt_one
        (by omega) hpieces hsizes
      refine ⟨(0, 0 + (firstPiece resolveBreakIndex limit ir.text).length) :: intervals,
        List.Forall₂.cons ?_ ?_, ?_⟩
      · exact isSlice_at hsplit (length_firstPiece_le ir.text)
      · simp
        exact hslices
      · rw [Nat.zero_add]
        apply hintervals.cons le_rfl (Nat.zero_le _) (by omega)
        simp [slice]

theorem not_keepsSpans_of_head_space (limit : ℕ) {chunks : List JsString}
    (hpieces : Pieces isSpace text chunks) (hcontent : trim text ≠ [])
    (hhead : ∀ unit ∈ text.head?, isSpace unit = true) :
    ∃ styles : List MarkdownStyleSpan, ¬ KeepsSpans ⟨text, styles, []⟩ limit
        (chunkResults ⟨text, styles, []⟩ 0 0 chunks) := by
  cases hpieces with
  | nil hrest => exact absurd (trim_eq_nil_iff.mpr hrest) hcontent
  | @cons skipped rest first piece pieces hskipped hfirst hrest =>
    have hpositive : 0 < skipped.length := by
      cases skipped with
      | nil =>
        rw [hhead first rfl] at hfirst
        contradiction
      | cons unit others => simp
    have hunit : (skipped ++ first :: piece ++ rest)[skipped.length]? = some first := by
      rw [List.append_assoc, List.getElem?_append_right le_rfl, Nat.sub_self]
      rfl
    refine ⟨[⟨skipped.length, skipped.length + 1, .bold⟩], ?_⟩
    rintro ⟨intervals, hslices, hintervals⟩
    rw [chunkResults, if_neg (by simp)] at hslices
    cases hslices with
    | @cons interval _ others _ hslice hothers =>
      obtain ⟨hinside, hat⟩ := slice_eq_cons hslice.text.symm
      have hge : skipped.length ≤ interval.1 := by
        by_contra hbefore
        rw [List.append_assoc, List.getElem?_append_left (by omega)] at hat
        rw [hskipped first (List.mem_of_getElem? hat)] at hfirst
        contradiction
      have hle : interval.1 ≤ skipped.length := by
        by_contra hafter
        have hspace := hintervals.omitted skipped.length first (Nat.zero_le _) hunit (by
            intro other hother hcovered
            rcases List.mem_cons.mp hother with rfl | hother
            · omega
            · have hordered := (List.pairwise_cons.mp hintervals.disjoint).1 other hother
              omega)
        rw [hfirst] at hspace
        contradiction
      have hstart : interval.1 = skipped.length := le_antisymm hle hge
      have hbold := ((hslice.marks 0 hinside).styles .bold).mpr
        ⟨⟨skipped.length, skipped.length + 1, .bold⟩, by simp, rfl,
          by simp [hstart], by simp [hstart]⟩
      simp only [lt_irrefl, if_false] at hbold
      unfold sliceStyleSpans at hbold
      rw [covers_mergeStyleSpans, covers_cut] at hbold
      obtain ⟨-, span, hspan, -, hle, -⟩ := hbold
      rw [List.mem_singleton.mp hspan] at hle
      simp only at hle
      omega

theorem not_keepsSpans_of_blankFirstPiece (hlimit : 0 < limit)
    (hblank : BlankFirstPiece text limit) :
    ∃ styles : List MarkdownStyleSpan, ¬ KeepsSpans ⟨text, styles, []⟩ limit
        (chunkMarkdownIR ⟨text, styles, []⟩ limit) := by
  obtain ⟨hlong, hfirstBlank, hcontent⟩ := hblank
  have hnone : firstPiece resolveBreakIndex limit text = [] :=
    trimEnd_eq_nil_iff.mpr (trim_eq_nil_iff.mp hfirstBlank)
  have hpieces := pieces_behind_firstPiece hlimit resolveBreakIndex text
  rw [hnone, List.length_nil, List.drop_zero] at hpieces
  have hchunks : chunkRemaining resolveBreakIndex limit hlimit text =
      chunkRemaining resolveBreakIndex limit hlimit
        (nextRemaining resolveBreakIndex limit text) := by
    rw [chunkRemaining_of_lt hlimit hlong, hnone, if_neg (by simp)]
  rw [← hchunks] at hpieces
  -- The text starts with white space, since the first break is positive.
  have hhead : ∀ unit ∈ text.head?, isSpace unit = true := by
    intro unit hunit
    obtain ⟨rest, rfl⟩ := List.head?_eq_some_iff.mp hunit
    obtain ⟨count, hcount⟩ := Nat.exists_eq_succ_of_ne_zero
      (nextBreak_pos resolveBreakIndex limit hlimit (unit :: rest)).ne'
    rw [hcount, List.take_succ_cons] at hfirstBlank
    exact trim_eq_nil_iff.mp hfirstBlank unit (by simp)
  obtain ⟨styles, hbroken⟩ := not_keepsSpans_of_head_space limit hpieces hcontent hhead
  refine ⟨styles, ?_⟩
  rw [chunkMarkdownIR_of_lt hlimit hlong]
  exact hbroken

/-- The chunks of a text keep all spans exactly when its first piece is not blank. -/
theorem chunks_keep_spans_iff (text : JsString) (limit : ℕ) (hlimit : 0 < limit) :
    (∀ styles links, KeepsSpans ⟨text, styles, links⟩ limit
        (chunkMarkdownIR ⟨text, styles, links⟩ limit)) ↔
      ¬ BlankFirstPiece text limit := by
  constructor
  · intro hkeeps hblank
    obtain ⟨styles, hbroken⟩ := not_keepsSpans_of_blankFirstPiece hlimit hblank
    exact hbroken (hkeeps styles [])
  · intro hkept styles links
    exact keepsSpans_of_not_blankFirstPiece hlimit hkept

theorem chunks_keep_spans_words : (∀ styles links, KeepsSpans ⟨js "one two", styles, links⟩ 4
        (chunkMarkdownIR ⟨js "one two", styles, links⟩ 4)) ↔
      ¬ BlankFirstPiece (js "one two") 4 :=
  chunks_keep_spans_iff (js "one two") 4 (by decide)

def indentedBold : MarkdownIR where
  text := js "    bold"
  styles := [⟨4, 8, .bold⟩]

theorem indented_word_loses_style : chunkMarkdownIR indentedBold 4 = [{ text := js "bold" }] ∧
      ¬ KeepsSpans indentedBold 4 (chunkMarkdownIR indentedBold 4) := by
  have hchunks : chunkMarkdownIR indentedBold 4 = [{ text := js "bold" }] := by
    have hlong : 4 < indentedBold.text.length := by decide
    have hnone : firstPiece resolveBreakIndex 4 indentedBold.text = [] := by
      decide
    have hnext : nextRemaining resolveBreakIndex 4 indentedBold.text = js "bold" := by
      decide
    rw [chunkMarkdownIR_of_lt (by decide) hlong, chunkRemaining_of_lt _ hlong, hnone,
      hnext, chunkRemaining_of_le _ (by decide)]
    decide +kernel
  refine ⟨hchunks, ?_⟩
  rw [hchunks]
  rintro ⟨intervals, hslices, -⟩
  cases hslices with
  | @cons interval _ others _ hslice _ =>
    obtain ⟨hinside, hat⟩ := slice_eq_cons hslice.text.symm
    have hfour : interval.1 = 4 := by
      have honly : ∀ position < 8, indentedBold.text[position]? = some 0x62 → position = 4 := by
        decide
      exact honly interval.1 (List.getElem?_eq_some_iff.mp hat).1 hat
    have hbold := (hslice.marks 0 hinside).styles .bold
    rw [hfour] at hbold
    exact absurd hbold (by decide)

end LittleBaby.Markdown
