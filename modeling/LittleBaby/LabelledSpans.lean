import Mathlib.Data.List.Sort

/-!
# Labelled spans

A list of spans gives every position the labels of the spans that cover it.
-/

structure LabelledSpan (Label : Type*) where
  start : ℕ
  finish : ℕ
  label : Label
  deriving DecidableEq

namespace LabelledSpan

variable {Label : Type*}

def Covers (spans : List (LabelledSpan Label)) (position : ℕ) (label : Label) : Prop :=
  ∃ span ∈ spans, span.label = label ∧ span.start ≤ position ∧ position < span.finish

instance [DecidableEq Label] (spans : List (LabelledSpan Label)) (position : ℕ)
    (label : Label) : Decidable (Covers spans position label) :=
  inferInstanceAs (Decidable (∃ span ∈ spans, span.label = label ∧
    span.start ≤ position ∧ position < span.finish))

variable {spans others : List (LabelledSpan Label)} {position : ℕ} {label : Label}

variable {span : LabelledSpan Label}

theorem covers_cons : Covers (span :: spans) position label ↔
      (span.label = label ∧ span.start ≤ position ∧ position < span.finish) ∨
        Covers spans position label := by
  simp [Covers]

theorem covers_append : Covers (spans ++ others) position label ↔
      Covers spans position label ∨ Covers others position label := by
  simp [Covers, or_and_right, exists_or]

theorem covers_of_perm (hperm : spans.Perm others) :
    Covers spans position label ↔ Covers others position label := by
  simp only [Covers, hperm.mem_iff]

/-- The part of a span inside an interval, counted from the interval's start. -/
def cut (start finish : ℕ) (span : LabelledSpan Label) : Option (LabelledSpan Label) :=
  let sliceStart := max span.start start
  let sliceFinish := min span.finish finish
  if sliceFinish ≤ sliceStart then none
  else some ⟨sliceStart - start, sliceFinish - start, span.label⟩

theorem covers_cut {start finish : ℕ} : Covers (spans.filterMap (cut start finish)) position label ↔
      start + position < finish ∧ Covers spans (start + position) label := by
  constructor
  · rintro ⟨piece, hpiece, rfl, hle, hlt⟩
    obtain ⟨span, hspan, hcut⟩ := List.mem_filterMap.mp hpiece
    unfold cut at hcut
    simp only at hcut
    split_ifs at hcut with hempty
    cases hcut
    simp only at hle hlt
    exact ⟨by omega, span, hspan, rfl, by omega, by omega⟩
  · rintro ⟨hinside, span, hspan, rfl, hle, hlt⟩
    refine ⟨⟨max span.start start - start, min span.finish finish - start, span.label⟩,
      List.mem_filterMap.mpr ⟨span, hspan, ?_⟩, rfl, ?_, ?_⟩
    · unfold cut
      simp only
      rw [if_neg (by omega)]
    · simp only
      omega
    · simp only
      omega

def shift (offset : ℕ) (span : LabelledSpan Label) : LabelledSpan Label :=
  { span with start := span.start + offset, finish := span.finish + offset }

theorem covers_shift {offset : ℕ} : Covers (spans.map (shift offset)) position label ↔
      offset ≤ position ∧ Covers spans (position - offset) label := by
  constructor
  · rintro ⟨moved, hmoved, rfl, hle, hlt⟩
    obtain ⟨span, hspan, rfl⟩ := List.mem_map.mp hmoved
    simp only [shift] at hle hlt
    exact ⟨by omega, span, hspan, rfl, by omega, by omega⟩
  · rintro ⟨hoffset, span, hspan, rfl, hle, hlt⟩
    refine ⟨shift offset span, List.mem_map_of_mem hspan, rfl, ?_, ?_⟩
    · simp only [shift]
      omega
    · simp only [shift]
      omega

section Join

variable (mayJoin : LabelledSpan Label → LabelledSpan Label → Bool)

def joinFrom (last : LabelledSpan Label) : List (LabelledSpan Label) → List (LabelledSpan Label)
  | [] => [last]
  | span :: rest =>
    if mayJoin last span then
      joinFrom { last with finish := max last.finish span.finish } rest
    else last :: joinFrom span rest

def joinNeighbours : List (LabelledSpan Label) → List (LabelledSpan Label)
  | [] => []
  | first :: rest => joinFrom mayJoin first rest

variable {mayJoin}

def Touching (mayJoin : LabelledSpan Label → LabelledSpan Label → Bool) : Prop :=
  ∀ last span, mayJoin last span = true → last.label = span.label ∧ span.start ≤ last.finish

def Ordered (spans : List (LabelledSpan Label)) : Prop :=
  spans.Pairwise fun span later => span.label = later.label → span.start ≤ later.start

variable {last : LabelledSpan Label}

theorem Ordered.grow {finish : ℕ} (hordered : Ordered (last :: span :: spans)) :
    Ordered ({ last with finish := finish } :: spans) := by
  obtain ⟨hlast, hrest⟩ := List.pairwise_cons.mp hordered
  refine List.pairwise_cons.mpr ⟨?_, (List.pairwise_cons.mp hrest).2⟩
  intro later hlater
  exact hlast later (by simp [hlater])

theorem covers_joinFrom (htouching : Touching mayJoin) (hordered : Ordered (last :: spans)) :
    Covers (joinFrom mayJoin last spans) position label ↔
      Covers (last :: spans) position label := by
  induction spans generalizing last with
  | nil => rfl
  | cons span rest ih =>
    obtain ⟨hlast, hrest⟩ := List.pairwise_cons.mp hordered
    rw [joinFrom]
    split_ifs with hjoin
    · obtain ⟨hlabel, hstart⟩ := htouching last span hjoin
      have hle := hlast span (by simp) hlabel
      rw [ih hordered.grow, covers_cons, covers_cons, covers_cons, ← or_assoc]
      apply or_congr_left
      simp only [← hlabel]
      constructor
      · rintro ⟨hsame, hfrom, huntil⟩
        rcases lt_or_ge position last.finish with hbefore | hafter
        · exact .inl ⟨hsame, hfrom, hbefore⟩
        · exact .inr ⟨hsame, by omega, by omega⟩
      · rintro (⟨hsame, hfrom, huntil⟩ | ⟨hsame, hfrom, huntil⟩)
        · exact ⟨hsame, hfrom, by omega⟩
        · exact ⟨hsame, by omega, by omega⟩
    · rw [covers_cons, ih hrest, ← covers_cons]

theorem covers_joinNeighbours (htouching : Touching mayJoin) (hordered : Ordered spans) :
    Covers (joinNeighbours mayJoin spans) position label ↔ Covers spans position label := by
  cases spans with
  | nil => rfl
  | cons first rest => exact covers_joinFrom htouching hordered

theorem origin_of_mem_joinFrom (hmem : span ∈ joinFrom mayJoin last spans) :
    ∃ origin ∈ last :: spans, span.label = origin.label ∧ span.start = origin.start := by
  induction spans generalizing last with
  | nil => exact ⟨span, hmem, rfl, rfl⟩
  | cons first rest ih =>
    rw [joinFrom] at hmem
    split_ifs at hmem with hjoin
    · obtain ⟨origin, horigin, hlabel, hstart⟩ := ih hmem
      rcases List.mem_cons.mp horigin with rfl | horigin
      · exact ⟨last, by simp, hlabel, hstart⟩
      · exact ⟨origin, by simp [horigin], hlabel, hstart⟩
    · rcases List.mem_cons.mp hmem with rfl | hmem
      · exact ⟨span, by simp, rfl, rfl⟩
      · obtain ⟨origin, horigin, hlabel, hstart⟩ := ih hmem
        exact ⟨origin, by simp [List.mem_cons.mp horigin], hlabel, hstart⟩

theorem Ordered.joinFrom (hordered : Ordered (last :: spans)) :
    Ordered (joinFrom mayJoin last spans) := by
  induction spans generalizing last with
  | nil => exact hordered
  | cons span rest ih =>
    obtain ⟨hlast, hrest⟩ := List.pairwise_cons.mp hordered
    rw [LabelledSpan.joinFrom]
    split_ifs with hjoin
    · exact ih hordered.grow
    · refine List.pairwise_cons.mpr ⟨?_, ih hrest⟩
      intro later hlater hlabel
      obtain ⟨origin, horigin, hsame, hstart⟩ := origin_of_mem_joinFrom hlater
      rw [hstart]
      exact hlast origin horigin (hlabel.trans hsame)

theorem Ordered.joinNeighbours (hordered : Ordered spans) :
    Ordered (joinNeighbours mayJoin spans) := by
  cases spans with
  | nil => exact hordered
  | cons first rest => exact hordered.joinFrom

def Within (length : ℕ) (spans : List (LabelledSpan Label)) : Prop :=
  ∀ span ∈ spans, span.start ≤ span.finish ∧ span.finish ≤ length

theorem Within.joinFrom {length : ℕ} (hwithin : Within length (last :: spans)) :
    Within length (joinFrom mayJoin last spans) := by
  induction spans generalizing last with
  | nil => exact hwithin
  | cons span rest ih =>
    have hlast := hwithin last (by simp)
    have hspan := hwithin span (by simp)
    rw [LabelledSpan.joinFrom]
    split_ifs with hjoin
    · apply ih
      intro other hother
      rcases List.mem_cons.mp hother with rfl | hother
      · simp only
        omega
      · exact hwithin other (by simp [hother])
    · intro other hother
      rcases List.mem_cons.mp hother with rfl | hother
      · exact hlast
      · exact ih (fun member hmember => hwithin member (by simp [hmember])) other hother

theorem Within.joinNeighbours {length : ℕ} (hwithin : Within length spans) :
    Within length (joinNeighbours mayJoin spans) := by
  cases spans with
  | nil => exact hwithin
  | cons first rest => exact hwithin.joinFrom

end Join

theorem Ordered.cut (hordered : Ordered spans) (start finish : ℕ) :
    Ordered (spans.filterMap (cut start finish)) := by
  apply List.Pairwise.filterMap _ _ hordered
  intro span later hle piece hpiece other hother hlabel
  unfold LabelledSpan.cut at hpiece hother
  simp only [Option.ite_none_left_eq_some, Option.some.injEq] at hpiece hother
  obtain ⟨hspan, rfl⟩ := hpiece
  obtain ⟨hlater, rfl⟩ := hother
  have hstart := hle hlabel
  simp only
  omega

theorem within_cut (spans : List (LabelledSpan Label)) (start finish : ℕ) :
    Within (finish - start) (spans.filterMap (cut start finish)) := by
  intro piece hpiece
  obtain ⟨span, -, hcut⟩ := List.mem_filterMap.mp hpiece
  unfold LabelledSpan.cut at hcut
  simp only [Option.ite_none_left_eq_some, Option.some.injEq] at hcut
  obtain ⟨hnonempty, rfl⟩ := hcut
  simp only
  omega

theorem Within.mono {length longer : ℕ} (hwithin : Within length spans)
    (hle : length ≤ longer) : Within longer spans := by
  intro span hspan
  have hspan := hwithin span hspan
  omega

theorem Ordered.append_shift {length : ℕ} (hordered : Ordered spans)
    (hothers : Ordered others) (hwithin : Within length spans) :
    Ordered (spans ++ others.map (shift length)) := by
  refine List.pairwise_append.mpr ⟨hordered, ?_, ?_⟩
  · refine List.pairwise_map.mpr (hothers.imp ?_)
    intro span later hle hlabel
    have hstart := hle hlabel
    simp only [shift]
    omega
  · intro span hspan later hlater _
    obtain ⟨origin, -, rfl⟩ := List.mem_map.mp hlater
    have hspan := hwithin span hspan
    simp only [shift]
    omega

theorem Within.append_shift {length added : ℕ} (hwithin : Within length spans)
    (hothers : Within added others) :
    Within (length + added) (spans ++ others.map (shift length)) := by
  intro span hspan
  rcases List.mem_append.mp hspan with hspan | hspan
  · have hspan := hwithin span hspan
    omega
  · obtain ⟨origin, horigin, rfl⟩ := List.mem_map.mp hspan
    have horigin := hothers origin horigin
    simp only [shift]
    omega

end LabelledSpan
