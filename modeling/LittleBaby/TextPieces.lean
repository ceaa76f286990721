import LittleBaby.JsString

/-!
# Pieces of a list

A list is cut into pieces with gaps between them.  A walk that skips the gap and
takes a piece's length finds the pieces again where they were cut.
-/

namespace TextPieces

variable {α : Type*} {gap : α → Bool}

/-- `list.slice(start, finish)`. -/
def slice (list : List α) (start finish : ℕ) : List α := (list.take finish).drop start

theorem length_slice (list : List α) (start finish : ℕ) :
    (slice list start finish).length = min finish list.length - start := by
  simp [slice]

theorem slice_add (list : List α) (start count : ℕ) :
    slice list start (start + count) = (list.drop start).take count := by
  unfold slice
  rw [List.take_drop]

variable {list rest : List α}

theorem drop_of_eq_append {piece : List α} (hlist : list = piece ++ rest) :
    list.drop piece.length = rest := by
  rw [hlist, List.drop_left]

variable {start finish : ℕ} {first : α}

theorem slice_eq_cons (hslice : slice list start finish = first :: rest) :
    start < finish ∧ list[start]? = some first := by
  have hget : (slice list start finish)[0]? = some first := by
    rw [hslice]
    rfl
  unfold slice at hget
  rw [List.getElem?_drop, Nat.add_zero, List.getElem?_take] at hget
  split_ifs at hget with hlt
  exact ⟨hlt, hget⟩

theorem slice_append_slice (list : List α) {middle : ℕ}
    (hstart : start ≤ middle) (hmiddle : middle ≤ finish) :
    slice list start middle ++ slice list middle finish = slice list start finish := by
  have hsplit : list.take finish = list.take middle ++ slice list middle finish := by
    unfold slice
    conv_lhs => rw [← List.take_append_drop middle (list.take finish)]
    rw [List.take_take, min_eq_left hmiddle]
  have hlater : (slice list middle finish).drop (start - (list.take middle).length) =
      slice list middle finish := by
    rcases le_or_gt start list.length with hle | hgt
    · have hzero : start - (list.take middle).length = 0 := by
        rw [List.length_take]
        omega
      rw [hzero, List.drop_zero]
    · have hnone : slice list middle finish = [] := by
        apply List.eq_nil_of_length_eq_zero
        rw [length_slice]
        omega
      rw [hnone, List.drop_nil]
  conv_rhs => rw [slice, hsplit, List.drop_append, hlater]
  rfl

def StartsOutside (gap : α → Bool) (list : List α) : Prop := ∀ first ∈ list.head?, gap first = false

inductive Pieces (gap : α → Bool) : List α → List (List α) → Prop
  | nil {rest : List α} (hrest : ∀ item ∈ rest, gap item = true) : Pieces gap rest []
  | cons {skipped rest : List α} {first : α} {piece : List α} {pieces : List (List α)}
      (hskipped : ∀ item ∈ skipped, gap item = true) (hfirst : gap first = false)
      (hrest : Pieces gap rest pieces) :
      Pieces gap (skipped ++ (first :: piece) ++ rest) ((first :: piece) :: pieces)

theorem Pieces.cons_start {piece : List α} {pieces : List (List α)} (hfirst : gap first = false)
    (hrest : Pieces gap rest pieces) :
    Pieces gap (first :: piece ++ rest) ((first :: piece) :: pieces) := by
  have hnone : ∀ item ∈ ([] : List α), gap item = true := by simp
  exact Pieces.cons hnone hfirst hrest

theorem Pieces.gap_append {skipped : List α} {pieces : List (List α)}
    (hpieces : Pieces gap list pieces) (hskipped : ∀ item ∈ skipped, gap item = true) :
    Pieces gap (skipped ++ list) pieces := by
  cases hpieces with
  | nil hrest =>
    apply Pieces.nil
    intro item hitem
    rcases List.mem_append.mp hitem with hitem | hitem
    · exact hskipped item hitem
    · exact hrest item hitem
  | @cons more rest first piece pieces hmore hfirst hrest =>
    have hboth : ∀ item ∈ skipped ++ more, gap item = true := by
      intro item hitem
      rcases List.mem_append.mp hitem with hitem | hitem
      · exact hskipped item hitem
      · exact hmore item hitem
    have hcons : Pieces gap ((skipped ++ more) ++ (first :: piece) ++ rest)
        ((first :: piece) :: pieces) := Pieces.cons hboth hfirst hrest
    simpa [List.append_assoc] using hcons

structure DropsOnly (gap : α → Bool) (list kept : List α) : Prop where
  sublist : kept.Sublist list
  outside : kept.filter (!gap ·) = list.filter (!gap ·)

theorem DropsOnly.refl (list : List α) : DropsOnly gap list list := ⟨List.Sublist.refl list, rfl⟩

theorem DropsOnly.trans {first second third : List α} (hfirst : DropsOnly gap first second)
    (hsecond : DropsOnly gap second third) : DropsOnly gap first third :=
  ⟨hsecond.sublist.trans hfirst.sublist, hsecond.outside.trans hfirst.outside⟩

theorem DropsOnly.append {first second third fourth : List α}
    (hleft : DropsOnly gap first second) (hright : DropsOnly gap third fourth) :
    DropsOnly gap (first ++ third) (second ++ fourth) := by
  constructor
  · exact hleft.sublist.append hright.sublist
  · rw [List.filter_append, List.filter_append, hleft.outside, hright.outside]

theorem DropsOnly.nil (hlist : ∀ item ∈ list, gap item = true) : DropsOnly gap list [] := by
  constructor
  · exact List.nil_sublist list
  · symm
    rw [List.filter_nil, List.filter_eq_nil_iff]
    intro item hitem
    simp [hlist item hitem]

structure Intervals (gap : α → Bool) (list : List α) (cursor : ℕ)
    (intervals : List (ℕ × ℕ)) : Prop where
  bounds : ∀ interval ∈ intervals,
    cursor ≤ interval.1 ∧ interval.1 ≤ interval.2 ∧ interval.2 ≤ list.length
  disjoint : intervals.Pairwise fun interval later => interval.2 ≤ later.1
  omitted : ∀ position item, cursor ≤ position → list[position]? = some item →
    (∀ interval ∈ intervals, ¬ (interval.1 ≤ position ∧ position < interval.2)) → gap item = true

variable {list : List α} {cursor : ℕ} {intervals : List (ℕ × ℕ)}

theorem Intervals.nil (hrest : ∀ item ∈ list.drop cursor, gap item = true) :
    Intervals gap list cursor [] := by
  constructor
  · simp
  · exact List.Pairwise.nil
  · intro position item hcursor hitem _
    apply hrest
    have hdrop : (list.drop cursor)[position - cursor]? = some item := by
      rw [List.getElem?_drop, Nat.add_sub_cancel' hcursor, hitem]
    exact List.mem_of_getElem? hdrop

theorem Intervals.cons {start finish : ℕ} (hcursor : cursor ≤ start)
    (hstart : start ≤ finish) (hfinish : finish ≤ list.length)
    (hgap : ∀ item ∈ slice list cursor start, gap item = true)
    (hintervals : Intervals gap list finish intervals) :
    Intervals gap list cursor ((start, finish) :: intervals) := by
  constructor
  · intro interval hmem
    rcases List.mem_cons.mp hmem with rfl | hmem
    · exact ⟨hcursor, hstart, hfinish⟩
    · obtain ⟨hle, hordered, hlength⟩ := hintervals.bounds interval hmem
      exact ⟨by omega, hordered, hlength⟩
  · refine List.pairwise_cons.mpr ⟨?_, hintervals.disjoint⟩
    intro later hlater
    exact (hintervals.bounds later hlater).1
  · intro position item hposition hitem houtside
    rcases lt_or_ge position start with hbefore | hafter
    · apply hgap
      have hslice : (slice list cursor start)[position - cursor]? = some item := by
        unfold slice
        rw [List.getElem?_drop, Nat.add_sub_cancel' hposition,
          List.getElem?_take_of_lt hbefore, hitem]
      exact List.mem_of_getElem? hslice
    · have hpast : finish ≤ position := by
        by_contra hinside
        exact houtside (start, finish) (by simp) ⟨hafter, by omega⟩
      apply hintervals.omitted position item hpast hitem
      intro interval hmem
      exact houtside interval (by simp [hmem])

def skipGap (gap : α → Bool) (list : List α) (cursor : ℕ) : ℕ :=
  cursor + ((list.drop cursor).takeWhile gap).length

theorem skipGap_of_drop {skipped : List α}
    (hskipped : ∀ item ∈ skipped, gap item = true) (hfirst : gap first = false)
    (hdrop : list.drop cursor = skipped ++ first :: rest) :
    skipGap gap list cursor = cursor + skipped.length := by
  unfold skipGap
  rw [hdrop, List.takeWhile_append_of_pos hskipped, List.takeWhile_cons_of_neg (by
    simp [hfirst]), List.append_nil]

end TextPieces
