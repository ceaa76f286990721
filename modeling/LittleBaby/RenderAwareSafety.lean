import LittleBaby.RenderAwareChunking

/-!
# What render-aware chunking keeps

A text with spans is read as its list of marked characters.
-/

namespace LittleBaby.Markdown

open JsString TextPieces TextChunking LabelledSpan DropsOnly

structure MarkedChar where
  char : UInt16
  styles : Set MarkdownStyle
  links : Set JsString

def markedChar (ir : MarkdownIR) (position : ℕ) (char : UInt16) : MarkedChar where
  char := char
  styles := { style | Covers ir.styles position style }
  links := { href | Covers ir.links position href }

def marked (ir : MarkdownIR) : List MarkedChar := ir.text.mapIdx (markedChar ir)

def MarkedChar.isBlank (marked : MarkedChar) : Bool := isSpace marked.char

theorem markedChar_congr {first second : MarkdownIR} {left right : ℕ} {char : UInt16}
    (hmarks : SameMarks first left second right) :
    markedChar first left char = markedChar second right char := by
  unfold markedChar
  congr 1
  · exact Set.ext hmarks.styles
  · exact Set.ext hmarks.links

theorem getElem?_marked (ir : MarkdownIR) (position : ℕ) :
    (marked ir)[position]? = ir.text[position]?.map (markedChar ir position) :=
  List.getElem?_mapIdx

theorem getElem?_slice {α : Type} (list : List α) (start finish position : ℕ) :
    (slice list start finish)[position]? =
      if start + position < finish then list[start + position]? else none := by
  unfold slice
  rw [List.getElem?_drop, List.getElem?_take]

theorem marked_slice (ir : MarkdownIR) (start finish : ℕ) :
    marked (sliceMarkdownIR ir start finish) = slice (marked ir) start finish := by
  apply List.ext_getElem?
  intro position
  rw [getElem?_marked, getElem?_slice, getElem?_marked]
  unfold sliceMarkdownIR
  simp only [getElem?_slice]
  split_ifs with hinside
  · congr 1
    funext char
    exact markedChar_congr (sameMarks_slice ir _ hinside)
  · rfl

structure Tidy (ir : MarkdownIR) : Prop where
  styles : Ordered ir.styles
  links : Ordered ir.links
  stylesWithin : Within ir.text.length ir.styles
  linksWithin : Within ir.text.length ir.links

variable {ir : MarkdownIR}

theorem tidy_slice {text : JsString} {start finish : ℕ}
    (hlinks : Ordered ir.links) (hlength : finish - start ≤ text.length) :
    Tidy ⟨text, sliceStyleSpans ir.styles start finish, sliceLinkSpans ir.links start finish⟩ := by
  constructor
  · exact (ordered_mergeSort_spanLe _).joinNeighbours
  · exact hlinks.cut start finish
  · apply Within.joinNeighbours
    intro span hspan
    exact (within_cut ir.styles start finish).mono hlength span
      ((List.mergeSort_perm _ spanLe).mem_iff.mp hspan)
  · exact (within_cut ir.links start finish).mono hlength

theorem touching_mayMergeAdjacent {Label : Type} [DecidableEq Label] :
    Touching (@mayMergeAdjacent Label _) := by
  intro last span hmerge
  simpa [mayMergeAdjacent] using hmerge

theorem Tidy.merge {left right : MarkdownIR} (hleft : Tidy left) (hright : Tidy right) :
    Tidy (mergeMarkdownIRChunks left right) := by
  constructor
  · exact (hleft.styles.append_shift hright.styles hleft.stylesWithin).joinNeighbours
  · exact (hleft.links.append_shift hright.links hleft.linksWithin).joinNeighbours
  · unfold mergeMarkdownIRChunks
    rw [List.length_append]
    exact (hleft.stylesWithin.append_shift hright.stylesWithin).joinNeighbours
  · unfold mergeMarkdownIRChunks
    rw [List.length_append]
    exact (hleft.linksWithin.append_shift hright.linksWithin).joinNeighbours

theorem covers_merged {Label : Type} [DecidableEq Label] {length position : ℕ}
    {spans others : List (LabelledSpan Label)} {label : Label} (hspans : Ordered spans)
    (hothers : Ordered others) (hwithin : Within length spans) :
    Covers (joinNeighbours mayMergeAdjacent (spans ++ others.map (shift length))) position label ↔
      if position < length then Covers spans position label
      else Covers others (position - length) label := by
  rw [covers_joinNeighbours touching_mayMergeAdjacent
    (hspans.append_shift hothers hwithin), covers_append, covers_shift]
  split_ifs with hbefore
  · constructor
    · rintro (hcovers | ⟨hle, -⟩)
      · exact hcovers
      · omega
    · exact .inl
  · constructor
    · rintro (⟨span, hspan, -, -, hlt⟩ | ⟨-, hcovers⟩)
      · have hfinish := (hwithin span hspan).2
        omega
      · exact hcovers
    · intro hcovers
      exact .inr ⟨by omega, hcovers⟩

theorem marked_merge {left right : MarkdownIR} (hleft : Tidy left) (hright : Tidy right) :
    marked (mergeMarkdownIRChunks left right) = marked left ++ marked right := by
  apply List.ext_getElem?
  intro position
  have hlength : (marked left).length = left.text.length := List.length_mapIdx
  rw [getElem?_marked, List.getElem?_append, hlength, getElem?_marked, getElem?_marked]
  unfold mergeMarkdownIRChunks
  simp only [List.getElem?_append]
  split_ifs with hbefore
  · congr 1
    funext char
    apply markedChar_congr
    constructor
    · intro style
      exact (covers_merged hleft.styles hright.styles hleft.stylesWithin).trans
        (by rw [if_pos hbefore])
    · intro href
      exact (covers_merged hleft.links hright.links hleft.linksWithin).trans
        (by rw [if_pos hbefore])
  · congr 1
    funext char
    apply markedChar_congr
    constructor
    · intro style
      exact (covers_merged hleft.styles hright.styles hleft.stylesWithin).trans
        (by rw [if_neg hbefore])
    · intro href
      exact (covers_merged hleft.links hright.links hleft.linksWithin).trans
        (by rw [if_neg hbefore])

structure Reading {β : Type} (kept : MarkdownIR → Prop) (gap : β → Bool)
    (read : MarkdownIR → List β) : Prop where
  keptSlice : ∀ {ir : MarkdownIR} {start finish : ℕ}, kept ir →
    finish ≤ ir.text.length → kept (sliceMarkdownIR ir start finish)
  keptMerge : ∀ {left right : MarkdownIR}, kept left → kept right →
    kept (mergeMarkdownIRChunks left right)
  length : ∀ ir, (read ir).length = ir.text.length
  slice : ∀ ir start finish, read (sliceMarkdownIR ir start finish) = slice (read ir) start finish
  merge : ∀ {left right : MarkdownIR}, kept left → kept right →
    read (mergeMarkdownIRChunks left right) = read left ++ read right
  blank : ∀ {ir : MarkdownIR}, trim ir.text = [] → ∀ item ∈ read ir, gap item = true

theorem text_reading : Reading (fun _ => True) isSpace MarkdownIR.text where
  keptSlice := fun _ _ => trivial
  keptMerge := fun _ _ => trivial
  length := fun _ => rfl
  slice := fun _ _ _ => rfl
  merge := fun _ _ => rfl
  blank := trim_eq_nil_iff.mp

theorem marked_reading : Reading Tidy MarkedChar.isBlank marked where
  keptSlice := by
    intro ir start finish htidy hfinish
    apply tidy_slice htidy.links
    rw [length_slice, min_eq_left hfinish]
  keptMerge := Tidy.merge
  length := fun _ => List.length_mapIdx
  slice := marked_slice
  merge := marked_merge
  blank := by
    intro ir hblank item hitem
    obtain ⟨position, hposition⟩ := List.mem_iff_getElem?.mp hitem
    rw [getElem?_marked] at hposition
    obtain ⟨char, hchar, rfl⟩ := Option.map_eq_some_iff.mp hposition
    exact trim_eq_nil_iff.mp hblank char (List.mem_of_getElem? hchar)

section Reading

variable {β : Type} {kept : MarkdownIR → Prop} {gap : β → Bool}
  {read : MarkdownIR → List β} (hreading : Reading kept gap read)
include hreading

theorem Reading.slices {cursor : ℕ} {pieces : List MarkdownIR}
    (hpieces : SlicesFrom ir cursor pieces) :
    pieces.flatMap read = (read ir).drop cursor := by
  induction hpieces with
  | done =>
    rw [← hreading.length ir, List.drop_length]
    rfl
  | @step cursor finish pieces hcursor hfinish hpieces ih =>
    have hlength := hreading.length ir
    have hrest : (read ir).drop finish = TextPieces.slice (read ir) finish
        ir.text.length := by
      unfold TextPieces.slice
      rw [← hlength, List.take_length]
    rw [List.flatMap_cons, ih, hreading.slice, hrest, slice_append_slice _ hcursor.le hfinish]
    unfold TextPieces.slice
    rw [← hlength, List.take_length]

variable (fits : MarkdownIR → Bool)

theorem Reading.finalizeChunks (pending : List MarkdownIR) :
    (finalizeChunks fits pending).flatMap read = pending.flatMap read := by
  induction pending using finalizeChunks.induct fits with
  | case1 => simp [Markdown.finalizeChunks]
  | case2 chunk pending hfits ih =>
    rw [Markdown.finalizeChunks, dif_pos hfits, List.flatMap_cons, ih, List.flatMap_cons]
  | case3 chunk pending hfits hsplit ih =>
    rw [Markdown.finalizeChunks, dif_neg hfits, dif_pos hsplit, List.flatMap_cons, ih,
      List.flatMap_cons]
  | case4 chunk pending hfits hsplit ih =>
    rw [Markdown.finalizeChunks, dif_neg hfits, dif_neg hsplit, ih,
      List.flatMap_append, List.flatMap_cons]
    rw [not_or, not_le] at hfits
    rcases splitMarkdownIRByRenderedLimit_cases fits hfits.2 with
      ⟨hkept, -⟩ | ⟨hslices, -⟩
    · rw [hkept] at hsplit
      simp at hsplit
    · rw [hreading.slices hslices, List.drop_zero]

end Reading

/-- The chunk fits, is a single character, or has no proper prefix that fits. -/
def Acceptable (fits : MarkdownIR → Bool) (chunk : MarkdownIR) : Prop :=
  fits chunk = true ∨ chunk.text.length = 1 ∨ ∀ length, 0 < length → length < chunk.text.length →
      fits (sliceMarkdownIR chunk 0 length) = false

section Final

variable {fits : MarkdownIR → Bool}

theorem acceptable_of_length_le_one {chunk : MarkdownIR}
    (hlength : chunk.text.length ≤ 1) : Acceptable fits chunk := by
  rcases Nat.lt_or_eq_of_le hlength with hlt | hone
  · exact .inr (.inr fun length hpos hless => by omega)
  · exact .inr (.inl hone)

theorem acceptable_of_mem_finalizeChunks {pending : List MarkdownIR} :
    ∀ chunk ∈ finalizeChunks fits pending, Acceptable fits chunk := by
  induction pending using finalizeChunks.induct fits with
  | case1 => simp [finalizeChunks]
  | case2 chunk pending hfits ih =>
    rw [finalizeChunks, dif_pos hfits]
    intro other hother
    rcases List.mem_cons.mp hother with rfl | hother
    · rcases hfits with hfits | hlength
      · exact .inl hfits
      · exact acceptable_of_length_le_one hlength
    · exact ih other hother
  | case3 chunk pending hfits hsplit ih =>
    rw [finalizeChunks, dif_neg hfits, dif_pos hsplit]
    intro other hother
    rcases List.mem_cons.mp hother with rfl | hother
    · rw [not_or, not_le] at hfits
      rcases splitMarkdownIRByRenderedLimit_cases fits hfits.2 with
        ⟨-, hnone⟩ | ⟨-, htwo⟩
      · exact .inr (.inr hnone)
      · omega
    · exact ih other hother
  | case4 chunk pending hfits hsplit ih =>
    rw [finalizeChunks, dif_neg hfits, dif_neg hsplit]
    exact ih

theorem tidy_of_slices (hlinks : Ordered ir.links) {cursor : ℕ}
    {pieces : List MarkdownIR} (hpieces : SlicesFrom ir cursor pieces) :
    ∀ piece ∈ pieces, Tidy piece := by
  induction hpieces with
  | done => simp
  | @step cursor finish pieces hcursor hfinish hpieces ih =>
    intro piece hpiece
    rcases List.mem_cons.mp hpiece with rfl | hpiece
    · apply tidy_slice hlinks
      rw [length_slice, min_eq_left hfinish]
    · exact ih piece hpiece

theorem tidy_of_mem_finalizeChunks {pending : List MarkdownIR}
    (hpending : ∀ chunk ∈ pending, Tidy chunk) :
    ∀ chunk ∈ finalizeChunks fits pending, Tidy chunk := by
  induction pending using finalizeChunks.induct fits with
  | case1 => simp [finalizeChunks]
  | case2 chunk pending hfits ih =>
    rw [finalizeChunks, dif_pos hfits]
    intro other hother
    rcases List.mem_cons.mp hother with rfl | hother
    · exact hpending other (by simp)
    · exact ih (fun member hmember => hpending member (by simp [hmember])) other hother
  | case3 chunk pending hfits hsplit ih =>
    rw [finalizeChunks, dif_neg hfits, dif_pos hsplit]
    intro other hother
    rcases List.mem_cons.mp hother with rfl | hother
    · exact hpending other (by simp)
    · exact ih (fun member hmember => hpending member (by simp [hmember])) other hother
  | case4 chunk pending hfits hsplit ih =>
    rw [finalizeChunks, dif_neg hfits, dif_neg hsplit]
    apply ih
    intro other hother
    rcases List.mem_append.mp hother with hother | hother
    · rw [not_or, not_le] at hfits
      rcases splitMarkdownIRByRenderedLimit_cases fits hfits.2 with
        ⟨hkept, -⟩ | ⟨hslices, -⟩
      · rw [hkept] at hsplit
        simp at hsplit
      · exact tidy_of_slices (hpending chunk (by simp)).links hslices other hother
    · exact hpending other (by simp [hother])

theorem finalizeChunks_singleton (fits : MarkdownIR → Bool) {chunk : MarkdownIR} (hlinks : Ordered chunk.links) :
    finalizeChunks fits [chunk] = [chunk] ∨ ∀ piece ∈ finalizeChunks fits [chunk], Tidy piece := by
  rw [finalizeChunks]
  split_ifs with hfits hsplit
  · left
    rw [finalizeChunks]
  · left
    rw [finalizeChunks]
  · right
    rw [List.append_nil]
    apply tidy_of_mem_finalizeChunks
    rw [not_or, not_le] at hfits
    rcases splitMarkdownIRByRenderedLimit_cases fits hfits.2 with
      ⟨hkept, -⟩ | ⟨hslices, -⟩
    · rw [hkept] at hsplit
      simp at hsplit
    · exact tidy_of_slices hlinks hslices

end Final

section Coalesce

variable {canMerge : MarkdownIR → Bool}

inductive CoalesceCase (canMerge : MarkdownIR → Bool) (coalesced : List MarkdownIR)
    (chunk : MarkdownIR) (next : Option MarkdownIR) :
    List MarkdownIR × Option MarkdownIR → Prop
  | kept : CoalesceCase canMerge coalesced chunk next (coalesced ++ [chunk], next)
  | dropped (hblank : trim chunk.text = []) :
      CoalesceCase canMerge coalesced chunk next (coalesced, next)
  | back {front : List MarkdownIR} {prev : MarkdownIR} (hcoalesced : coalesced = front ++ [prev])
      (hmerge : canMerge (mergeMarkdownIRChunks prev chunk) = true) :
      CoalesceCase canMerge coalesced chunk next (front ++ [mergeMarkdownIRChunks prev chunk], next)
  | forth {later : MarkdownIR} (hnext : next = some later)
      (hmerge : canMerge (mergeMarkdownIRChunks chunk later) = true) :
      CoalesceCase canMerge coalesced chunk next
        (coalesced, some (mergeMarkdownIRChunks chunk later))
  | shared {front : List MarkdownIR} {prev later : MarkdownIR} {length : ℕ}
      (hcoalesced : coalesced = front ++ [prev]) (hnext : next = some later)
      (hlength : length ≤ chunk.text.length)
      (hback : canMerge (mergeMarkdownIRChunks prev (sliceMarkdownIR chunk 0 length)) = true)
      (hforth : canMerge (mergeMarkdownIRChunks
        (sliceMarkdownIR chunk length chunk.text.length) later) = true) :
      CoalesceCase canMerge coalesced chunk next
        (front ++ [mergeMarkdownIRChunks prev (sliceMarkdownIR chunk 0 length)],
          some (mergeMarkdownIRChunks (sliceMarkdownIR chunk length chunk.text.length) later))

theorem splitBetween_spec {prev chunk next mergedPrev mergedNext : MarkdownIR}
    {longest : ℕ} (hsplit : splitBetween canMerge prev chunk next longest =
      some (mergedPrev, mergedNext)) :
    ∃ length, length ≤ longest ∧
      mergedPrev = mergeMarkdownIRChunks prev (sliceMarkdownIR chunk 0 length) ∧
      mergedNext = mergeMarkdownIRChunks (sliceMarkdownIR chunk length chunk.text.length) next ∧
      canMerge mergedPrev = true ∧ canMerge mergedNext = true := by
  induction longest with
  | zero => simp [splitBetween] at hsplit
  | succ shorter ih =>
    rw [splitBetween] at hsplit
    split_ifs at hsplit with hboth
    · rw [Option.some.injEq, Prod.mk.injEq] at hsplit
      obtain ⟨rfl, rfl⟩ := hsplit
      rw [Bool.and_eq_true] at hboth
      exact ⟨shorter + 1, le_rfl, rfl, rfl, hboth.1, hboth.2⟩
    · obtain ⟨length, hle, hrest⟩ := ih hsplit
      exact ⟨length, by omega, hrest⟩

variable {coalesced : List MarkdownIR} {chunk : MarkdownIR}

theorem coalesceForward_cases (next : Option MarkdownIR) (hblank : trim chunk.text = []) :
    CoalesceCase canMerge coalesced chunk next (coalesceForward canMerge coalesced chunk next) := by
  cases next with
  | none => exact .dropped hblank
  | some later =>
    unfold coalesceForward
    simp only
    split_ifs with hmerge
    · exact .forth rfl hmerge
    · cases hlast : coalesced.getLast? with
      | none => exact .dropped hblank
      | some prev =>
        simp only
        cases hsplit : splitBetween canMerge prev chunk later (chunk.text.length - 1) with
        | none => exact .dropped hblank
        | some merged =>
          obtain ⟨mergedPrev, mergedNext⟩ := merged
          obtain ⟨length, hlength, rfl, rfl, hback, hforth⟩ :=
            splitBetween_spec hsplit
          exact .shared (List.dropLast_append_getLast? prev hlast).symm rfl (by omega) hback hforth

theorem coalesceStep_cases (coalesced : List MarkdownIR) (chunk : MarkdownIR)
    (next : Option MarkdownIR) :
    CoalesceCase canMerge coalesced chunk next (coalesceStep canMerge coalesced chunk next) := by
  unfold coalesceStep
  split_ifs with hcontent
  · exact .kept
  · have hblank : trim chunk.text = [] := List.eq_nil_of_length_eq_zero (by omega)
    cases hlast : coalesced.getLast? with
    | none => exact coalesceForward_cases next hblank
    | some prev =>
      simp only
      split_ifs with hmerge
      · exact .back (List.dropLast_append_getLast? prev hlast).symm hmerge
      · exact coalesceForward_cases next hblank

variable {next : Option MarkdownIR} {result : List MarkdownIR × Option MarkdownIR}

theorem CoalesceCase.forall_of_forall (hcase : CoalesceCase canMerge coalesced chunk next result)
    {good part : MarkdownIR → Prop} (hpart : ∀ whole, good whole → part whole)
    (hslice : ∀ start finish, finish ≤ chunk.text.length →
      part (sliceMarkdownIR chunk start finish))
    (hmerge : ∀ left right, part left → part right →
      canMerge (mergeMarkdownIRChunks left right) = true → good (mergeMarkdownIRChunks left right))
    (hcoalesced : ∀ member ∈ coalesced, good member) (hchunk : good chunk)
    (hnext : ∀ member ∈ next, good member) :
    (∀ member ∈ result.1, good member) ∧ (∀ member ∈ result.2, good member) := by
  have happend : ∀ {front : List MarkdownIR} {last : MarkdownIR},
      (∀ member ∈ front, good member) → good last → ∀ member ∈ front ++ [last], good member := by
    intro front last hfront hlast member hmember
    rcases List.mem_append.mp hmember with hmember | hmember
    · exact hfront member hmember
    · rw [List.mem_singleton.mp hmember]
      exact hlast
  cases hcase with
  | kept => exact ⟨happend hcoalesced hchunk, hnext⟩
  | dropped hblank => exact ⟨hcoalesced, hnext⟩
  | @back front prev heq hfits =>
    subst heq
    have hprev := hcoalesced prev (by simp)
    refine ⟨happend (fun member hmember => hcoalesced member (by simp [hmember])) ?_, hnext⟩
    exact hmerge _ _ (hpart _ hprev) (hpart _ hchunk) hfits
  | @forth later heq hfits =>
    subst heq
    refine ⟨hcoalesced, ?_⟩
    intro member hmember
    cases hmember
    exact hmerge _ _ (hpart _ hchunk) (hpart _ (hnext later rfl)) hfits
  | @shared front prev later length heq hsome hlength hback hforth =>
    subst heq hsome
    have hprev := hcoalesced prev (by simp)
    refine ⟨happend (fun member hmember => hcoalesced member (by simp [hmember])) ?_, ?_⟩
    · exact hmerge _ _ (hpart _ hprev) (hslice 0 length hlength) hback
    · intro member hmember
      cases hmember
      exact hmerge _ _ (hslice length _ le_rfl) (hpart _ (hnext later rfl)) hforth

theorem CoalesceCase.dropsOnly {β : Type} {kept : MarkdownIR → Prop} {gap : β → Bool}
    {read : MarkdownIR → List β} (hreading : Reading kept gap read)
    (hcase : CoalesceCase canMerge coalesced chunk next result)
    (hcoalesced : ∀ member ∈ coalesced, kept member) (hchunk : kept chunk)
    (hnext : ∀ member ∈ next, kept member) :
    DropsOnly gap (coalesced.flatMap read ++ read chunk ++ next.toList.flatMap read)
      (result.1.flatMap read ++ result.2.toList.flatMap read) := by
  cases hcase with
  | kept =>
    rw [List.flatMap_append]
    simp only [List.flatMap_cons, List.flatMap_nil, List.append_nil]
    exact refl _
  | dropped hblank =>
    apply append _ (refl _)
    have hdrop := (refl (coalesced.flatMap read)).append (nil (hreading.blank hblank))
    rwa [List.append_nil] at hdrop
  | @back front prev heq hfits =>
    subst heq
    have hmerge := hreading.merge (hcoalesced prev (by simp)) hchunk
    simp only [List.flatMap_append, List.flatMap_cons, List.flatMap_nil,
      List.append_nil, hmerge, List.append_assoc]
    exact refl _
  | @forth later heq hfits =>
    subst heq
    have hmerge := hreading.merge hchunk (hnext later rfl)
    simp only [Option.toList_some, List.flatMap_cons, List.flatMap_nil,
      List.append_nil, hmerge, List.append_assoc]
    exact refl _
  | @shared front prev later length heq hsome hlength hback hforth =>
    subst heq hsome
    have hstart : kept (sliceMarkdownIR chunk 0 length) := hreading.keptSlice hchunk hlength
    have hend : kept (sliceMarkdownIR chunk length chunk.text.length) :=
      hreading.keptSlice hchunk le_rfl
    have hbackRead := hreading.merge (hcoalesced prev (by simp)) hstart
    have hforthRead := hreading.merge hend (hnext later rfl)
    have hwhole : read (sliceMarkdownIR chunk 0 length) ++
        read (sliceMarkdownIR chunk length chunk.text.length) = read chunk := by
      rw [hreading.slice, hreading.slice, slice_append_slice _ (Nat.zero_le _) hlength,
        ← hreading.length chunk]
      simp [TextPieces.slice]
    simp only [List.flatMap_append, Option.toList_some, List.flatMap_cons,
      List.flatMap_nil, List.append_nil, hbackRead, hforthRead, ← hwhole,
      List.append_assoc]
    exact refl _

theorem CoalesceCase.isSome_next (hcase : CoalesceCase canMerge coalesced chunk next result) :
    result.2.isSome = next.isSome := by
  cases hcase with
  | kept => rfl
  | dropped => rfl
  | back => rfl
  | forth hnext => rw [hnext]; rfl
  | shared _ hnext => rw [hnext]; rfl

section Run

variable {good part : MarkdownIR → Prop} (hpart : ∀ whole, good whole → part whole)
  (hslice : ∀ whole start finish, good whole → finish ≤ whole.text.length →
    part (sliceMarkdownIR whole start finish))
  (hmerge : ∀ left right, part left → part right →
    canMerge (mergeMarkdownIRChunks left right) = true → good (mergeMarkdownIRChunks left right))
include hpart hslice hmerge

theorem forall_coalesceFrom {rest : List MarkdownIR}
    (hcoalesced : ∀ member ∈ coalesced, good member) (hchunk : good chunk)
    (hrest : ∀ member ∈ rest, good member) :
    ∀ member ∈ coalesceFrom canMerge coalesced chunk rest, good member := by
  induction rest generalizing coalesced chunk with
  | nil =>
    exact ((coalesceStep_cases coalesced chunk none).forall_of_forall hpart
      (fun start finish => hslice chunk start finish hchunk) hmerge hcoalesced hchunk
      (by simp)).1
  | cons next rest ih =>
    have hcase : CoalesceCase canMerge coalesced chunk (some next) _ :=
      coalesceStep_cases coalesced chunk (some next)
    have hstep := hcase.forall_of_forall hpart
      (fun start finish => hslice chunk start finish hchunk) hmerge hcoalesced
      hchunk (by simpa using hrest next (by simp))
    obtain ⟨later, hlater⟩ := Option.isSome_iff_exists.mp hcase.isSome_next
    rw [coalesceFrom]
    generalize coalesceStep canMerge coalesced chunk (some next) = result at hstep hlater
    obtain ⟨coalesced, next⟩ := result
    obtain rfl : next = some later := hlater
    exact ih hstep.1 (hstep.2 later rfl) (fun member hmember => hrest member (by simp [hmember]))

end Run

theorem coalesceFrom_dropsOnly {β : Type} {kept : MarkdownIR → Prop} {gap : β → Bool}
    {read : MarkdownIR → List β} (hreading : Reading kept gap read)
    {rest : List MarkdownIR} (hcoalesced : ∀ member ∈ coalesced, kept member)
    (hchunk : kept chunk) (hrest : ∀ member ∈ rest, kept member) :
    DropsOnly gap ((coalesced ++ chunk :: rest).flatMap read)
      ((coalesceFrom canMerge coalesced chunk rest).flatMap read) := by
  induction rest generalizing coalesced chunk with
  | nil =>
    have hcase : CoalesceCase canMerge coalesced chunk none _ :=
      coalesceStep_cases coalesced chunk none
    have hdrops := hcase.dropsOnly hreading hcoalesced hchunk (by simp)
    have hnone : (coalesceStep canMerge coalesced chunk none).2 = none :=
      Option.not_isSome_iff_eq_none.mp (by simp [hcase.isSome_next])
    rw [hnone] at hdrops
    simpa [coalesceFrom] using hdrops
  | cons next rest ih =>
    have hcase : CoalesceCase canMerge coalesced chunk (some next) _ :=
      coalesceStep_cases coalesced chunk (some next)
    have hnext : ∀ member ∈ some next, kept member := by
      simpa using hrest next (by simp)
    have hkept := hcase.forall_of_forall (fun _ => id)
      (fun start finish => hreading.keptSlice hchunk)
      (fun left right hleft hright _ => hreading.keptMerge hleft hright)
      hcoalesced hchunk hnext
    have hdrops := hcase.dropsOnly hreading hcoalesced hchunk hnext
    obtain ⟨later, hlater⟩ := Option.isSome_iff_exists.mp hcase.isSome_next
    rw [coalesceFrom]
    generalize coalesceStep canMerge coalesced chunk (some next) = result at hkept hdrops hlater
    obtain ⟨middle, next'⟩ := result
    obtain rfl : next' = some later := hlater
    have hlast := ih hkept.1 (hkept.2 later rfl)
      (fun member hmember => hrest member (by simp [hmember]))
    have hfirst := hdrops.append (refl (rest.flatMap read))
    simp only [Option.toList_some, List.flatMap_cons, List.flatMap_nil,
      List.append_nil, List.append_assoc, List.flatMap_append] at hfirst hlast ⊢
    exact hfirst.trans hlast

end Coalesce

section Result

variable {fits : MarkdownIR → Bool}

variable {chunks : List MarkdownIR}

theorem acceptable_of_mem_coalesce (hchunks : ∀ chunk ∈ chunks, Acceptable fits chunk) :
    ∀ chunk ∈ coalesceWhitespaceOnlyMarkdownIRChunks fits chunks, Acceptable fits chunk := by
  cases chunks with
  | nil => simp [coalesceWhitespaceOnlyMarkdownIRChunks]
  | cons chunk rest =>
    have hpart : ∀ whole, Acceptable fits whole → True := fun _ _ => trivial
    exact forall_coalesceFrom hpart (fun _ _ _ _ _ => trivial)
      (fun left right _ _ hfits => .inl hfits) (by simp) (hchunks chunk (by simp))
      (fun member hmember => hchunks member (by simp [hmember]))

theorem coalesce_dropsOnly {β : Type} {kept : MarkdownIR → Prop} {gap : β → Bool}
    {read : MarkdownIR → List β} (hreading : Reading kept gap read)
    (hchunks : ∀ chunk ∈ chunks, kept chunk) :
    DropsOnly gap (chunks.flatMap read)
      ((coalesceWhitespaceOnlyMarkdownIRChunks fits chunks).flatMap read) := by
  cases chunks with
  | nil => exact refl _
  | cons chunk rest =>
    have hdrops : DropsOnly gap (([] ++ chunk :: rest).flatMap read)
        ((coalesceFrom fits [] chunk rest).flatMap read) :=
      coalesceFrom_dropsOnly hreading (by simp) (hchunks chunk (by simp))
        (fun member hmember => hchunks member (by simp [hmember]))
    exact hdrops

theorem coalesce_singleton (fits : MarkdownIR → Bool) (chunk : MarkdownIR) :
    coalesceWhitespaceOnlyMarkdownIRChunks fits [chunk] = [chunk] ∨
      (coalesceWhitespaceOnlyMarkdownIRChunks fits [chunk] = [] ∧ trim chunk.text = []) := by
  rw [coalesceWhitespaceOnlyMarkdownIRChunks, coalesceFrom, coalesceStep]
  split_ifs with hcontent
  · exact .inl rfl
  · exact .inr ⟨rfl, List.eq_nil_of_length_eq_zero (by omega)⟩

theorem tidy_of_mem_chunkResults (hlinks : Ordered ir.links)
    {chunks : List JsString} {index cursor : ℕ} :
    ∀ chunk ∈ chunkResults ir index cursor chunks, Tidy chunk := by
  induction chunks generalizing index cursor with
  | nil => simp [chunkResults]
  | cons chunk chunks ih =>
    rw [chunkResults]
    by_cases hnone : chunk = []
    · rw [if_pos hnone]
      exact ih
    · rw [if_neg hnone]
      intro other hother
      rcases List.mem_cons.mp hother with rfl | hother
      · apply tidy_slice hlinks
        omega
      · exact ih other hother

theorem blank_of_mem_chunkMarkdownIRAt (hempty : ir.text = []) (limit : JsNumber) :
    ∀ chunk ∈ chunkMarkdownIRAt ir limit, trim chunk.text = [] := by
  intro chunk hchunk
  cases limit with
  | nan =>
    rw [List.mem_singleton.mp hchunk]
    simp [sliceMarkdownIR, slice, hempty]
  | negInfinity | posInfinity =>
    rw [List.mem_singleton.mp hchunk, hempty]
    rfl
  | finite limit =>
    unfold chunkMarkdownIRAt chunkMarkdownIR at hchunk
    simp [hempty] at hchunk

theorem chunkMarkdownIRAt_cases (hlinks : Ordered ir.links) (limit : JsNumber) :
    (∃ chunk, chunkMarkdownIRAt ir limit = [chunk] ∧ Ordered chunk.links) ∨
      ∀ chunk ∈ chunkMarkdownIRAt ir limit, Tidy chunk := by
  cases limit with
  | nan => exact .inl ⟨_, rfl, hlinks.cut 0 ir.text.length⟩
  | negInfinity | posInfinity =>
    exact .inl ⟨ir, rfl, hlinks⟩
  | finite limit =>
    unfold chunkMarkdownIRAt chunkMarkdownIR
    simp only
    split_ifs with hnone hshort
    · exact .inr (by simp)
    · exact .inl ⟨ir, rfl, hlinks⟩
    · exact .inr (tidy_of_mem_chunkResults hlinks)

theorem marks_dropsOnly (hchunks : (∃ chunk, chunks = [chunk] ∧ Ordered chunk.links) ∨
      ∀ chunk ∈ chunks, Tidy chunk) :
    DropsOnly MarkedChar.isBlank (chunks.flatMap marked)
      ((coalesceWhitespaceOnlyMarkdownIRChunks fits
        (finalizeChunks fits chunks)).flatMap marked) := by
  have hread := marked_reading.finalizeChunks fits chunks
  have htidy : (∀ chunk ∈ finalizeChunks fits chunks, Tidy chunk) →
      DropsOnly MarkedChar.isBlank (chunks.flatMap marked)
        ((coalesceWhitespaceOnlyMarkdownIRChunks fits
          (finalizeChunks fits chunks)).flatMap marked) := by
    intro hfinal
    rw [← hread]
    exact coalesce_dropsOnly marked_reading hfinal
  rcases hchunks with ⟨chunk, rfl, hlinks⟩ | hchunks
  · rcases finalizeChunks_singleton fits hlinks with hsame | hfinal
    · rw [hsame]
      rcases coalesce_singleton fits chunk with hkept | ⟨hdropped, hblank⟩
      · rw [hkept]
        exact refl _
      · rw [hdropped]
        apply nil
        simpa using marked_reading.blank hblank
    · exact htidy hfinal
  · exact htidy (tidy_of_mem_finalizeChunks hchunks)

end Result

section Render

variable {TRendered : Type} (measureRendered : TRendered → JsNumber)
  (renderChunk : MarkdownIR → TRendered)

/-- Every chunk measures at most the limit, unless it is a single character or has no
proper prefix that does.  The text and, for links in their order, what its characters
carry are those of the chunks of the source without some white space. -/
theorem rendered_chunks_within_limit (ir : MarkdownIR) (limit : JsNumber) :
    let result := renderMarkdownIRChunksWithinLimit measureRendered renderChunk ir limit
    let chunks := chunkMarkdownIRAt ir (normalizedLimit limit)
    (∀ chunk ∈ result, chunk.rendered = renderChunk chunk.source ∧
        Acceptable (fitsRendered measureRendered renderChunk limit) chunk.source) ∧
      DropsOnly isSpace (chunks.flatMap MarkdownIR.text)
        (result.flatMap fun chunk => chunk.source.text) ∧
      (Ordered ir.links → DropsOnly MarkedChar.isBlank (chunks.flatMap marked)
        (result.flatMap fun chunk => marked chunk.source)) := by
  intro result chunks
  by_cases hempty : ir.text = []
  · have hresult : result = [] := if_pos hempty
    have hchunks : ∀ chunk ∈ chunks, trim chunk.text = [] := blank_of_mem_chunkMarkdownIRAt hempty _
    rw [hresult]
    refine ⟨by simp, nil ?_, fun _ => nil ?_⟩
    · intro item hitem
      obtain ⟨chunk, hchunk, hmem⟩ := List.mem_flatMap.mp hitem
      exact text_reading.blank (hchunks chunk hchunk) item hmem
    · intro item hitem
      obtain ⟨chunk, hchunk, hmem⟩ := List.mem_flatMap.mp hitem
      exact marked_reading.blank (hchunks chunk hchunk) item hmem
  · have hresult : result = (coalesceWhitespaceOnlyMarkdownIRChunks
        (fitsRendered measureRendered renderChunk limit)
        (finalizeChunks (fitsRendered measureRendered renderChunk limit) chunks)).map
          fun source => ⟨renderChunk source, source⟩ := if_neg hempty
    rw [hresult]
    refine ⟨?_, ?_, ?_⟩
    · intro chunk hchunk
      obtain ⟨source, hsource, rfl⟩ := List.mem_map.mp hchunk
      exact ⟨rfl, acceptable_of_mem_coalesce acceptable_of_mem_finalizeChunks source hsource⟩
    · rw [List.flatMap_map, ← text_reading.finalizeChunks
        (fitsRendered measureRendered renderChunk limit) chunks]
      exact coalesce_dropsOnly text_reading (fun _ _ => trivial)
    · intro hlinks
      rw [List.flatMap_map]
      exact marks_dropsOnly (chunkMarkdownIRAt_cases hlinks _)

end Render

def plainMeasure (chunk : MarkdownIR) : JsNumber := .ofNat (chunk.text.length + chunk.links.length)

def linkedWords : MarkdownIR where
  text := js "ab "
  links := [⟨0, 1, js "u"⟩, ⟨1, 2, js "u"⟩]

theorem rendered_chunks_linked_words : Ordered linkedWords.links ∧ DropsOnly MarkedChar.isBlank
        ((chunkMarkdownIRAt linkedWords (normalizedLimit (.ofNat 4))).flatMap marked)
        ((renderMarkdownIRChunksWithinLimit plainMeasure id linkedWords
          (.ofNat 4)).flatMap fun chunk => marked chunk.source) := by
  have hlinks : Ordered linkedWords.links := by
    unfold Ordered
    decide
  exact ⟨hlinks, (rendered_chunks_within_limit plainMeasure id linkedWords (.ofNat 4)).2.2 hlinks⟩

def swappedLinks : MarkdownIR where
  text := js "ab "
  links := [⟨1, 2, js "u"⟩, ⟨0, 1, js "u"⟩]

theorem render_swappedLinks :
    (renderMarkdownIRChunksWithinLimit plainMeasure id swappedLinks (.ofNat 4)).map
        RenderedMarkdownChunk.source =
      [{ text := js "ab ", links := [⟨1, 2, js "u"⟩] }] := by
  decide +kernel

theorem swapped_link_is_lost : ¬ DropsOnly MarkedChar.isBlank
      ((chunkMarkdownIRAt swappedLinks (normalizedLimit (.ofNat 4))).flatMap marked)
      ((renderMarkdownIRChunksWithinLimit plainMeasure id swappedLinks
        (.ofNat 4)).flatMap fun chunk => marked chunk.source) := by
  intro hdrops
  have hchunks : chunkMarkdownIRAt swappedLinks (normalizedLimit (.ofNat 4)) = [swappedLinks] := by
    decide
  have hfirst := congrArg List.head? hdrops.outside
  rw [hchunks, ← List.flatMap_map, render_swappedLinks] at hfirst
  have hmarks := congrArg MarkedChar.links (Option.some.inj hfirst)
  have hlost : js "u" ∉ { href | Covers [⟨1, 2, js "u"⟩] 0 href } := by
    decide
  apply hlost
  exact (Set.ext_iff.mp hmarks (js "u")).mpr (by
    show Covers swappedLinks.links 0 (js "u")
    decide)

end LittleBaby.Markdown
