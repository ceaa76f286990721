import Mathlib.Data.List.DropRight
import Mathlib.Data.List.Infix

/-!
# Strings of UTF-16 code units

An ECMAScript string is a sequence of 16-bit code units, possibly with lone
surrogates, and its length and positions count code units.
-/

abbrev JsString := List UInt16

namespace JsString

instance : LawfulBEq JsString := List.instLawfulBEq

-- Along the text, not over the finitely many code units.
instance (priority := 2000) {holds : UInt16 → Prop} [DecidablePred holds] (text : JsString) :
    Decidable (∀ unit ∈ text, holds unit) :=
  List.decidableBAll holds text

def encode (char : Char) : JsString :=
  if char.toNat < 0x10000 then [char.toNat.toUInt16]
  else
    [(0xD800 + (char.toNat - 0x10000) / 0x400).toUInt16,
      (0xDC00 + (char.toNat - 0x10000) % 0x400).toUInt16]

def js (literal : String) : JsString := literal.toList.flatMap encode

/-- The code units that `trim` removes: white space and line terminators. -/
def isSpace (unit : UInt16) : Bool :=
  unit ∈ ([0x09, 0x0A, 0x0B, 0x0C, 0x0D, 0x20, 0xA0, 0x1680, 0x2000, 0x2001,
    0x2002, 0x2003, 0x2004, 0x2005, 0x2006, 0x2007, 0x2008, 0x2009, 0x200A,
    0x2028, 0x2029, 0x202F, 0x205F, 0x3000, 0xFEFF] : List UInt16)

def trim (text : JsString) : JsString := (text.dropWhile isSpace).rdropWhile isSpace

def includes (text pattern : JsString) : Bool := decide (pattern <:+: text)

def startsWith (text start : JsString) : Bool := decide (start <+: text)

/-- `text.trim() || undefined`. -/
def nonBlank (text : JsString) : Option JsString :=
  if trim text = [] then none else some (trim text)

/-- `parts.join(separator)`. -/
def join (separator : JsString) (parts : List JsString) : JsString := separator.intercalate parts

/-- The value of `first || second` where `first` may be missing: an empty
string counts as missing. -/
def orElse (first second : Option JsString) : Option JsString :=
  match first with
  | some (unit :: rest) => some (unit :: rest)
  | _ => second

@[simp] theorem trim_nil : trim [] = [] := rfl

variable {text : JsString}

theorem trim_eq_self (htext : ∀ unit ∈ text, isSpace unit = false) : trim text = text := by
  have hdrop : text.dropWhile isSpace = text := by
    rw [List.dropWhile_eq_self_iff]
    intro hlength
    simpa using htext _ (List.getElem_mem hlength)
  unfold trim
  rw [hdrop, List.rdropWhile_eq_self_iff]
  intro hne
  simpa using htext _ (List.getLast_mem hne)

theorem trim_ne_nil_of_not_isSpace {unit : UInt16}
    (hmem : unit ∈ text) (hunit : isSpace unit = false) : trim text ≠ [] := by
  intro hnil
  unfold trim at hnil
  rw [List.rdropWhile_eq_nil_iff] at hnil
  have hrest : text.dropWhile isSpace ≠ [] := by
    intro hdrop
    rw [List.dropWhile_eq_nil_iff] at hdrop
    simpa [hunit] using hdrop unit hmem
  have hhead := List.head_dropWhile_not isSpace hrest
  rw [hnil _ (List.head_mem hrest)] at hhead
  exact absurd hhead (by simp)

theorem dropWhile_rdropWhile_of_dropWhile_eq_self {α : Type*} {p : α → Bool}
    {list : List α} (hself : list.dropWhile p = list) :
    (list.rdropWhile p).dropWhile p = list.rdropWhile p := by
  have hpre : list.rdropWhile p <+: list := List.rdropWhile_prefix p list
  cases hcase : list.rdropWhile p with
  | nil => rfl
  | cons first rest =>
    rw [hcase] at hpre
    obtain ⟨tail, rfl⟩ := hpre
    have hfirst : p first = false := by
      by_contra htrue
      have htrue' : p first = true := by simpa using htrue
      rw [List.cons_append, List.dropWhile_cons, if_pos htrue'] at hself
      have hlength := congrArg List.length hself
      have hle := (List.dropWhile_sublist p (l := rest ++ tail)).length_le
      simp only [List.length_cons] at hlength
      omega
    rw [List.dropWhile_cons, hfirst]
    rfl

theorem trim_trim (text : JsString) : trim (trim text) = trim text := by
  unfold trim
  rw [dropWhile_rdropWhile_of_dropWhile_eq_self (List.dropWhile_idempotent _ _)]
  exact List.rdropWhile_idempotent _ _

theorem nonBlank_eq_some {trimmed : JsString} :
    nonBlank text = some trimmed ↔ trimmed ≠ [] ∧ trim text = trimmed := by
  unfold nonBlank
  by_cases hnil : trim text = []
  · simp only [hnil, if_true, reduceCtorEq, false_iff, not_and]
    intro hne heq
    exact hne heq.symm
  · simp only [hnil, if_false, Option.some.injEq]
    constructor
    · rintro rfl
      exact ⟨hnil, rfl⟩
    · exact And.right

theorem nonBlank_of_nonBlank {trimmed : JsString}
    (htext : nonBlank text = some trimmed) : nonBlank trimmed = some trimmed := by
  obtain ⟨hne, rfl⟩ := nonBlank_eq_some.mp htext
  exact nonBlank_eq_some.mpr ⟨hne, trim_trim text⟩

end JsString
