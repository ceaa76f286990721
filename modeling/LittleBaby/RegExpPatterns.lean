import LittleBaby.JsString

/-!
# Patterns of single units

A regular expression without flags that is one alternative of anchors, dots and
single code units.  A pattern with any other construct is outside the fragment.
-/

namespace RegExpPatterns

open JsString

inductive Term
  | start
  | finish
  | any
  | unit (value : UInt16)

def isSyntaxCharacter (unit : UInt16) : Bool := unit ∈ js "^$\\.*+?()[]\x7b\x7d|"

def isLineTerminator (unit : UInt16) : Bool := unit ∈ ([0x0A, 0x0D, 0x2028, 0x2029] : List UInt16)

/-- The terms of a pattern, or `none` outside the fragment. -/
def parse : JsString → Option (List Term)
  | [] => some []
  | 0x5C :: escaped :: rest =>
    if isSyntaxCharacter escaped then
      (parse rest).map (Term.unit escaped :: ·)
    else none
  | first :: rest =>
    if first = 0x5E then (parse rest).map (Term.start :: ·)
    else if first = 0x24 then (parse rest).map (Term.finish :: ·)
    else if first = 0x2E then (parse rest).map (Term.any :: ·)
    else if isSyntaxCharacter first then none
    else (parse rest).map (Term.unit first :: ·)

def matchesFrom : List Term → ℕ → JsString → Bool
  | [], _, _ => true
  | .start :: terms, position, rest =>
    position == 0 && matchesFrom terms position rest
  | .finish :: terms, position, rest =>
    rest.isEmpty && matchesFrom terms position rest
  | .any :: terms, position, unit :: rest =>
    !isLineTerminator unit && matchesFrom terms (position + 1) rest
  | .unit value :: terms, position, unit :: rest =>
    unit == value && matchesFrom terms (position + 1) rest
  | _ :: _, _, [] => false

/-- `regex.test(text)`: the terms match from some position on. -/
def test (terms : List Term) (text : JsString) : Bool :=
  (List.range (text.length + 1)).any fun position =>
    matchesFrom terms position (text.drop position)

variable (text : JsString)

def escape : JsString :=
  text.flatMap fun unit => if isSyntaxCharacter unit then [0x5C, unit] else [unit]

theorem parse_escaped {unit : UInt16} (hspecial : isSyntaxCharacter unit = true) (rest : JsString) :
    parse (0x5C :: unit :: rest) = (parse rest).map (Term.unit unit :: ·) := by
  rw [parse, if_pos hspecial]

theorem parse_literal {unit : UInt16} (hspecial : isSyntaxCharacter unit = false)
    (rest : JsString) :
    parse (unit :: rest) = (parse rest).map (Term.unit unit :: ·) := by
  have hslash : unit ≠ 0x5C := by
    rintro rfl
    exact absurd hspecial (by decide)
  have hstart : unit ≠ 0x5E := by
    rintro rfl
    exact absurd hspecial (by decide)
  have hfinish : unit ≠ 0x24 := by
    rintro rfl
    exact absurd hspecial (by decide)
  have hdot : unit ≠ 0x2E := by
    rintro rfl
    exact absurd hspecial (by decide)
  rw [parse]
  · simp [hstart, hfinish, hdot, hspecial]
  · intro escaped others hunit
    exact absurd hunit hslash

theorem parse_escape_append (rest : JsString) : parse (escape text ++ rest) =
      (parse rest).map (text.map Term.unit ++ ·) := by
  induction text with
  | nil => simp [escape]
  | cons unit text ih =>
    have hcons : escape (unit :: text) ++ rest =
        (if isSyntaxCharacter unit then [0x5C, unit] else [unit]) ++ (escape text ++ rest) := by
      simp [escape]
    rw [hcons]
    cases hspecial : isSyntaxCharacter unit with
    | true =>
      simp only [if_true, List.cons_append, List.nil_append]
      rw [parse_escaped hspecial, ih, Option.map_map]
      rfl
    | false =>
      simp only [Bool.false_eq_true, if_false, List.cons_append, List.nil_append]
      rw [parse_literal hspecial, ih, Option.map_map]
      rfl

theorem parse_start (rest : JsString) :
    parse (0x5E :: rest) = (parse rest).map (Term.start :: ·) := by
  rw [parse]
  · simp
  · intro escaped others hunit
    exact absurd hunit (by decide)

theorem matchesFrom_units (position : ℕ) (rest : JsString) :
    matchesFrom (text.map Term.unit ++ [Term.finish]) position rest = decide (rest = text) := by
  induction text generalizing position rest with
  | nil => cases rest <;> simp [matchesFrom]
  | cons unit text ih =>
    cases rest with
    | nil => simp [matchesFrom]
    | cons first rest =>
      simp [matchesFrom, ih, beq_eq_decide]

theorem test_anchored (subject : JsString) :
    test (Term.start :: (text.map Term.unit ++ [Term.finish])) subject =
      decide (subject = text) := by
  rw [Bool.eq_iff_iff]
  unfold test
  simp only [List.any_eq_true, List.mem_range, decide_eq_true_eq]
  constructor
  · rintro ⟨position, -, hmatch⟩
    simp [matchesFrom, matchesFrom_units] at hmatch
    obtain ⟨rfl, hdrop⟩ := hmatch
    rwa [List.drop_zero] at hdrop
  · rintro rfl
    refine ⟨0, by omega, ?_⟩
    simp [matchesFrom, matchesFrom_units]

end RegExpPatterns
