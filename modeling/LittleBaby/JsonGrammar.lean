import LittleBaby.JsString

/-!
# The grammar of JSON texts

Which strings are JSON values, in any layout: white space between tokens, and escapes in
strings.
-/

namespace JsonGrammar

open JsString

variable (text : JsString)

def IsBlank : Prop := ∀ unit ∈ text, unit = 0x20 ∨ unit = 0x09 ∨ unit = 0x0A ∨ unit = 0x0D

def isDigit (unit : UInt16) : Bool := 0x30 ≤ unit && unit ≤ 0x39

def isHexDigit (unit : UInt16) : Bool :=
  isDigit unit || (0x41 ≤ unit && unit ≤ 0x46) || (0x61 ≤ unit && unit ≤ 0x66)

/-- The units that a backslash may stand before, other than `u`. -/
def simpleEscapes : JsString := js "\"\\/bfnrt"

inductive StringBody : JsString → Prop
  | nil : StringBody []
  | plain {unit : UInt16} {rest : JsString} (hcontrol : 0x20 ≤ unit) (hquote : unit ≠ 0x22)
      (hslash : unit ≠ 0x5C) (hrest : StringBody rest) : StringBody (unit :: rest)
  | escape {unit : UInt16} {rest : JsString} (hunit : unit ∈ simpleEscapes)
      (hrest : StringBody rest) : StringBody (0x5C :: unit :: rest)
  | unicode {digits rest : JsString} (hlength : digits.length = 4)
      (hdigits : digits.all isHexDigit = true) (hrest : StringBody rest) :
      StringBody (0x5C :: 0x75 :: (digits ++ rest))

def IsString : Prop := ∃ body, StringBody body ∧ text = 0x22 :: (body ++ [0x22])

def IsDigits : Prop := text ≠ [] ∧ ∀ unit ∈ text, isDigit unit = true

def IsFraction : Prop := text = [] ∨ ∃ digits, IsDigits digits ∧ text = 0x2E :: digits

def IsExponent : Prop :=
  text = [] ∨ ∃ mark sign digits, (mark = 0x65 ∨ mark = 0x45) ∧
    (sign = [] ∨ sign = [0x2B] ∨ sign = [0x2D]) ∧ IsDigits digits ∧ text = mark :: (sign ++ digits)

def IsNumber : Prop :=
  ∃ minus whole fraction exponent, (minus = [] ∨ minus = [0x2D]) ∧
    (whole = [0x30] ∨ (IsDigits whole ∧ whole.head? ≠ some 0x30)) ∧
      IsFraction fraction ∧ IsExponent exponent ∧ text = minus ++ whole ++ fraction ++ exponent

def IsLiteral : Prop := text = js "true" ∨ text = js "false" ∨ text = js "null"

inductive Part where
  | value
  | element
  | elements
  | member
  | members

inductive Derives : Part → JsString → Prop
  | literal {text : JsString} (hliteral : IsLiteral text) : Derives .value text
  | number {text : JsString} (hnumber : IsNumber text) : Derives .value text
  | string {text : JsString} (hstring : IsString text) : Derives .value text
  | emptyArray {blank : JsString} (hblank : IsBlank blank) :
      Derives .value (0x5B :: (blank ++ [0x5D]))
  | array {body : JsString} (hbody : Derives .elements body) :
      Derives .value (0x5B :: (body ++ [0x5D]))
  | emptyObject {blank : JsString} (hblank : IsBlank blank) :
      Derives .value (0x7B :: (blank ++ [0x7D]))
  | object {body : JsString} (hbody : Derives .members body) :
      Derives .value (0x7B :: (body ++ [0x7D]))
  | element {first value last : JsString} (hfirst : IsBlank first)
      (hvalue : Derives .value value) (hlast : IsBlank last) :
      Derives .element (first ++ value ++ last)
  | lastElement {text : JsString} (helement : Derives .element text) : Derives .elements text
  | elements {first rest : JsString} (hfirst : Derives .element first)
      (hrest : Derives .elements rest) : Derives .elements (first ++ 0x2C :: rest)
  | member {first key last value : JsString} (hfirst : IsBlank first) (hkey : IsString key)
      (hlast : IsBlank last) (hvalue : Derives .element value) :
      Derives .member (first ++ key ++ last ++ 0x3A :: value)
  | lastMember {text : JsString} (hmember : Derives .member text) : Derives .members text
  | members {first rest : JsString} (hfirst : Derives .member first)
      (hrest : Derives .members rest) : Derives .members (first ++ 0x2C :: rest)

def IsContainer : Prop := Derives .value text ∧ (text.head? = some 0x7B ∨ text.head? = some 0x5B)

end JsonGrammar
