import Mathlib.Algebra.Order.Group.Defs
import Mathlib.Algebra.Order.Sub.Defs
import Mathlib.Data.List.Basic

/-!
# Sliding windows

Times that fall into the half-open window of a given width before a moment, and lists of
times of which no window holds more than a limit.
-/

namespace SlidingWindow

variable {Time : Type*} [AddCommGroup Time] [LinearOrder Time]

def slide (width now : Time) (times : List Time) : List Time :=
  times.filter fun time => now - width < time

def within (width now : Time) (times : List Time) : List Time :=
  times.filter fun time => now - width < time ∧ time ≤ now

def AtMost (limit : ℕ) (width : Time) (times : List Time) : Prop :=
  ∀ now, (within width now times).length ≤ limit

theorem slide_append (width now : Time) (first second : List Time) :
    slide width now (first ++ second) = slide width now first ++ slide width now second :=
  List.filter_append _ _

theorem length_within_le_slide (width now : Time) (times : List Time) :
    (within width now times).length ≤ (slide width now times).length := by
  unfold within slide
  rw [← List.countP_eq_length_filter, ← List.countP_eq_length_filter]
  apply List.countP_mono_left
  intro time _ hin
  simp only [decide_eq_true_eq] at hin ⊢
  exact hin.1

variable {width now : Time}

theorem length_within_of_suffix {later all : List Time} (hsuffix : later <:+ all) :
    (within width now later).length ≤ (within width now all).length :=
  (hsuffix.sublist.filter _).length_le

theorem AtMost.nil (limit : ℕ) (width : Time) : AtMost limit width ([] : List Time) :=
  fun _ => Nat.zero_le _

variable [IsOrderedAddMonoid Time]

theorem slide_slide {later : Time} (hlater : now ≤ later) (times : List Time) :
    slide width later (slide width now times) = slide width later times := by
  unfold slide
  rw [List.filter_filter]
  apply List.filter_congr
  intro time _
  have hcutoff : now - width ≤ later - width := sub_le_sub_right hlater width
  by_cases hin : later - width < time
  · simp [hin, lt_of_le_of_lt hcutoff hin]
  · simp [hin]

theorem slide_eq_nil {times : List Time}
    (hold : ∀ time ∈ times, time + width ≤ now) : slide width now times = [] := by
  unfold slide
  rw [List.filter_eq_nil_iff]
  intro time hmem
  have hcutoff : time ≤ now - width := le_sub_iff_add_le.mpr (hold time hmem)
  simpa using hcutoff

theorem length_slide_le_of_le {later : Time} (hlater : now ≤ later)
    (times : List Time) : (slide width later times).length ≤ (slide width now times).length := by
  rw [← slide_slide hlater]
  exact List.length_filter_le _ _

theorem AtMost.append {limit : ℕ} {times : List Time}
    (hmost : AtMost limit width times) (hfree : (slide width now times).length < limit) :
    AtMost limit width (times ++ [now]) := by
  intro moment
  have hold := hmost moment
  unfold within at hold ⊢
  rw [List.filter_append, List.length_append]
  by_cases hin : moment - width < now ∧ now ≤ moment
  · have hyoung : (within width moment times).length ≤ (slide width now times).length :=
      (length_within_le_slide _ _ _).trans (length_slide_le_of_le hin.2 _)
    unfold within at hyoung
    simp only [List.filter_cons, hin, and_self, decide_true, if_true, List.filter_nil,
      List.length_singleton]
    omega
  · simp only [List.filter_cons, hin, decide_false, List.filter_nil, List.length_nil,
      Bool.false_eq_true, if_false]
    omega

end SlidingWindow
