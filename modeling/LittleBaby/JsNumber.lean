import Mathlib.Data.Rat.Floor

/-!
# Numbers with NaN and the infinities

The part of ECMAScript number arithmetic used for limits and counts.  A finite
number is any rational, which covers every finite double; rounding does not
occur in the operations below.
-/

inductive JsNumber where
  | nan
  | negInfinity
  | posInfinity
  | finite (value : ℚ)
  deriving DecidableEq

namespace JsNumber

def ofNat (count : ℕ) : JsNumber := .finite count

/-- `left < right`; every comparison with NaN is false. -/
def lt : JsNumber → JsNumber → Bool
  | .nan, _ => false
  | _, .nan => false
  | _, .negInfinity => false
  | .negInfinity, _ => true
  | .posInfinity, _ => false
  | .finite _, .posInfinity => true
  | .finite left, .finite right => decide (left < right)

/-- `left <= right`, which is false as well when one side is NaN. -/
def le : JsNumber → JsNumber → Bool
  | .nan, _ => false
  | _, .nan => false
  | left, right => !lt right left

def floor : JsNumber → JsNumber
  | .finite value => .finite ⌊value⌋
  | other => other

/-- `Math.max(left, right)`: NaN as soon as one argument is. -/
def max : JsNumber → JsNumber → JsNumber
  | .nan, _ => .nan
  | _, .nan => .nan
  | left, right => if lt left right then right else left

theorem le_of_not_lt {left right : JsNumber} (hleft : left ≠ .nan)
    (hright : right ≠ .nan) (hlt : lt right left = false) :
    le left right = true := by
  cases left <;> cases right <;> simp_all [le]

@[simp] theorem le_nan (number : JsNumber) : le .nan number = false := by
  cases number <;> rfl

@[simp] theorem floor_eq_nan {number : JsNumber} : floor number = .nan ↔ number = .nan := by
  cases number <;> simp [floor]

theorem one_le_max_one {number : JsNumber} (hnan : number ≠ .nan) :
    le (ofNat 1) (max (ofNat 1) number) = true := by
  cases number with
  | nan => exact absurd rfl hnan
  | negInfinity | posInfinity =>
    simp [max, le, lt, ofNat]
  | finite value =>
    simp only [max, lt, ofNat, decide_eq_true_eq]
    split_ifs with hlt
    · simpa [le, lt] using hlt.le
    · simp [le, lt]

theorem pos_of_le_ofNat {limit : JsNumber} {count : ℕ} (hone : le (ofNat 1) limit = true)
    (hcount : le limit (ofNat count) = true) : 0 < count := by
  cases limit with
  | nan => simp at hcount
  | negInfinity => simp [le, lt, ofNat] at hone
  | posInfinity => simp [le, lt, ofNat] at hcount
  | finite value =>
    simp only [le, lt, ofNat, Bool.not_eq_eq_eq_not, Bool.not_true,
      decide_eq_false_iff_not, not_lt] at hone hcount
    have hpos : (1 : ℚ) ≤ count := by
      simpa using hone.trans hcount
    exact_mod_cast hpos

end JsNumber
