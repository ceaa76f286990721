import LittleBaby.JsonGrammar

/-!
# JSON fragments in a text

A scanner finds the first opening delimiter of a text and the delimiter that
closes it, and goes on behind it.
-/

namespace LittleBaby.BalancedJson

open JsString JsonGrammar

/-! ## The scanner -/

inductive JsonOpeningDelimiter where
  | brace
  | bracket
  deriving DecidableEq

structure BalancedJsonFragment where
  json : JsString
  startIndex : ℕ
  endIndex : ℕ

def CLOSING_DELIMITER : JsonOpeningDelimiter → UInt16
  | .brace => 0x7D
  | .bracket => 0x5D

variable (openers : List JsonOpeningDelimiter)

def openingDelimiter (char : UInt16) : Option JsonOpeningDelimiter :=
  if char = 0x7B then if .brace ∈ openers then some .brace else none
  else if char = 0x5B then if .bracket ∈ openers then some .bracket else none
  else none

structure ScanState where
  stack : List JsonOpeningDelimiter := []
  inString : Bool := false
  escaped : Bool := false

def scanUnit (state : ScanState) (char : UInt16) : Option ScanState :=
  if state.inString then
    if state.escaped then some { state with escaped := false }
    else if char = 0x5C then some { state with escaped := true }
    else if char = 0x22 then some { state with inString := false }
    else some state
  else if char = 0x22 then some { state with inString := true }
  else
    match openingDelimiter openers char with
    | some opener => some { state with stack := opener :: state.stack }
    | none =>
      match state.stack with
      | [] => some state
      | opener :: stack =>
        if char = CLOSING_DELIMITER opener then
          if stack = [] then none else some { state with stack }
        else some state

def scanLength : ScanState → JsString → Option ℕ
  | _, [] => none
  | state, char :: rest =>
    match scanUnit openers state char with
    | none => some 1
    | some next => (scanLength next rest).map (· + 1)

def extractBalancedJsonPrefix (raw : JsString) : Option BalancedJsonFragment :=
  let start := (raw.takeWhile fun char => (openingDelimiter openers char).isNone).length
  if raw.length ≤ start then none
  else
    (scanLength openers {} (raw.drop start)).map fun length =>
      { json := (raw.drop start).take length
        startIndex := start
        endIndex := start + length - 1 }

def fragmentsFrom (offset : ℕ) (rest : JsString) : List BalancedJsonFragment :=
  if _hrest : rest = [] then []
  else
    match extractBalancedJsonPrefix openers rest with
    | none => []
    | some fragment =>
      { json := fragment.json
        startIndex := offset + fragment.startIndex
        endIndex := offset + fragment.endIndex } ::
          fragmentsFrom (offset + (fragment.endIndex + 1)) (rest.drop (fragment.endIndex + 1))
termination_by rest.length
decreasing_by
  have hpositive := List.length_pos_of_ne_nil _hrest
  rw [List.length_drop]
  omega

def extractBalancedJsonFragments (raw : JsString)
    (openers : List JsonOpeningDelimiter) : List BalancedJsonFragment :=
  fragmentsFrom openers 0 raw

def defaultOpeners : List JsonOpeningDelimiter := [.brace, .bracket]

/-! ## Scanning the grammar -/

def Passes (text : JsString) : Prop :=
  ∀ stack ≠ [], ∀ rest, scanLength defaultOpeners { stack } (text ++ rest) =
    (scanLength defaultOpeners { stack } rest).map (· + text.length)

theorem Passes.append {first second : JsString} (hfirst : Passes first)
    (hsecond : Passes second) : Passes (first ++ second) := by
  intro stack hstack rest
  rw [List.append_assoc, hfirst stack hstack, hsecond stack hstack, Option.map_map,
    List.length_append]
  congr 1
  funext length
  simp only [Function.comp_apply]
  omega

def IsQuiet (unit : UInt16) : Prop :=
  unit ≠ 0x22 ∧ unit ≠ 0x7B ∧ unit ≠ 0x5B ∧ unit ≠ 0x7D ∧ unit ≠ 0x5D

variable {unit : UInt16}

theorem closing_ne_of_quiet (hquiet : IsQuiet unit)
    (opener : JsonOpeningDelimiter) : unit ≠ CLOSING_DELIMITER opener := by
  obtain ⟨_, _, _, hbrace, hbracket⟩ := hquiet
  cases opener with
  | brace => exact hbrace
  | bracket => exact hbracket

theorem scanUnit_quiet (hquiet : IsQuiet unit) (stack : List JsonOpeningDelimiter) :
    scanUnit defaultOpeners { stack } unit = some { stack } := by
  have hopening : openingDelimiter defaultOpeners unit = none := by
    unfold openingDelimiter
    rw [if_neg hquiet.2.1, if_neg hquiet.2.2.1]
  simp only [scanUnit, hopening, Bool.false_eq_true, if_false, if_neg hquiet.1]
  cases stack with
  | nil => rfl
  | cons opener stack => simp only [if_neg (closing_ne_of_quiet hquiet opener)]

theorem scanLength_cons {state next : ScanState} {char : UInt16}
    (hscan : scanUnit defaultOpeners state char = some next) (rest : JsString) :
    scanLength defaultOpeners state (char :: rest) =
      (scanLength defaultOpeners next rest).map (· + 1) := by
  simp only [scanLength, hscan]

variable {text : JsString}

theorem passes_quiet (hquiet : ∀ unit ∈ text, IsQuiet unit) : Passes text := by
  intro stack hstack rest
  induction text with
  | nil => simp
  | cons unit text ih =>
    rw [List.forall_mem_cons] at hquiet
    rw [List.cons_append, scanLength_cons (scanUnit_quiet hquiet.1 stack), ih hquiet.2,
      Option.map_map]
    rfl

theorem scanLength_plain (hquote : unit ≠ 0x22) (hslash : unit ≠ 0x5C)
    (stack : List JsonOpeningDelimiter) (rest : JsString) :
    scanLength defaultOpeners { stack, inString := true } (unit :: rest) =
      (scanLength defaultOpeners { stack, inString := true } rest).map (· + 1) := by
  apply scanLength_cons
  simp [scanUnit, hquote, hslash]

theorem scanLength_escape (unit : UInt16) (stack : List JsonOpeningDelimiter) (rest : JsString) :
    scanLength defaultOpeners { stack, inString := true } (0x5C :: unit :: rest) =
      (scanLength defaultOpeners { stack, inString := true } rest).map (· + 2) := by
  have hslash : scanUnit defaultOpeners { stack, inString := true } 0x5C =
      some { stack, inString := true, escaped := true } := rfl
  have hescaped : scanUnit defaultOpeners { stack, inString := true, escaped := true } unit =
      some { stack, inString := true } := rfl
  rw [scanLength_cons hslash, scanLength_cons hescaped, Option.map_map]
  rfl

theorem plain_of_isHexDigit (hdigit : isHexDigit unit = true) : unit ≠ 0x22 ∧ unit ≠ 0x5C := by
  constructor
  · rintro rfl
    exact absurd hdigit (by decide)
  · rintro rfl
    exact absurd hdigit (by decide)

theorem scanLength_digits {digits : JsString} (hdigits : digits.all isHexDigit = true)
    (stack : List JsonOpeningDelimiter) (rest : JsString) :
    scanLength defaultOpeners { stack, inString := true } (digits ++ rest) =
      (scanLength defaultOpeners { stack, inString := true } rest).map (· + digits.length) := by
  induction digits with
  | nil => simp
  | cons unit digits ih =>
    rw [List.all_cons, Bool.and_eq_true] at hdigits
    obtain ⟨hquote, hslash⟩ := plain_of_isHexDigit hdigits.1
    rw [List.cons_append, scanLength_plain hquote hslash, ih hdigits.2, Option.map_map]
    rfl

variable {body : JsString}

theorem scanLength_body (hbody : StringBody body)
    (stack : List JsonOpeningDelimiter) (rest : JsString) :
    scanLength defaultOpeners { stack, inString := true } (body ++ 0x22 :: rest) =
      (scanLength defaultOpeners { stack } rest).map (· + (body.length + 1)) := by
  induction hbody with
  | nil =>
    have hclose : scanUnit defaultOpeners { stack, inString := true } 0x22 = some { stack } := rfl
    rfl
  | plain _ hquote hslash _ ih =>
    rw [List.cons_append, scanLength_plain hquote hslash, ih, Option.map_map]
    rfl
  | escape _ _ ih =>
    rw [List.cons_append, List.cons_append, scanLength_escape, ih, Option.map_map]
    rfl
  | @unicode digits body _ hdigits _ ih =>
    rw [List.cons_append, List.cons_append, scanLength_escape, List.append_assoc,
      scanLength_digits hdigits, ih, Option.map_map, Option.map_map, List.length_cons,
      List.length_cons, List.length_append]
    congr 1
    funext length
    simp only [Function.comp_apply]
    omega

theorem passes_string (hstring : IsString text) : Passes text := by
  obtain ⟨body, hbody, rfl⟩ := hstring
  intro stack hstack rest
  have hopen : scanUnit defaultOpeners { stack } 0x22 = some { stack, inString := true } := rfl
  have hrest : 0x22 :: (body ++ [0x22]) ++ rest = 0x22 :: (body ++ 0x22 :: rest) := by simp
  rw [hrest, scanLength_cons hopen, scanLength_body hbody, Option.map_map]
  simp only [List.length_cons, List.length_append, List.length_nil]
  rfl

theorem isQuiet_blank (hblank : IsBlank text) : ∀ unit ∈ text, IsQuiet unit := by
  intro unit hmem
  rcases hblank unit hmem with rfl | rfl | rfl | rfl
  all_goals (unfold IsQuiet; decide)

theorem isQuiet_of_isDigit {unit : UInt16} (hdigit : isDigit unit = true) : IsQuiet unit := by
  refine ⟨?_, ?_, ?_, ?_, ?_⟩
  all_goals
    rintro rfl
    exact absurd hdigit (by decide)

theorem isQuiet_fraction (hfraction : IsFraction text) : ∀ unit ∈ text, IsQuiet unit := by
  rcases hfraction with rfl | ⟨digits, hdigits, rfl⟩
  · exact fun _ hmem => absurd hmem List.not_mem_nil
  · rw [List.forall_mem_cons]
    exact ⟨by unfold IsQuiet; decide, fun unit hmem => isQuiet_of_isDigit (hdigits.2 unit hmem)⟩

theorem isQuiet_exponent (hexponent : IsExponent text) : ∀ unit ∈ text, IsQuiet unit := by
  rcases hexponent with rfl | ⟨mark, sign, digits, hmark, hsign, hdigits, rfl⟩
  · exact fun _ hmem => absurd hmem List.not_mem_nil
  · rw [List.forall_mem_cons, List.forall_mem_append]
    refine ⟨?_, ?_, fun unit hmem => isQuiet_of_isDigit (hdigits.2 unit hmem)⟩
    · rcases hmark with rfl | rfl
      all_goals (unfold IsQuiet; decide)
    · rcases hsign with rfl | rfl | rfl
      all_goals (unfold IsQuiet; decide)

theorem isQuiet_number (hnumber : IsNumber text) : ∀ unit ∈ text, IsQuiet unit := by
  obtain ⟨minus, whole, fraction, exponent, hminus, hwhole, hfraction, hexponent, rfl⟩ := hnumber
  simp only [List.forall_mem_append]
  refine ⟨⟨⟨?_, ?_⟩, isQuiet_fraction hfraction⟩, isQuiet_exponent hexponent⟩
  · rcases hminus with rfl | rfl
    all_goals (unfold IsQuiet; decide)
  · rcases hwhole with rfl | ⟨hdigits, _⟩
    · unfold IsQuiet
      decide
    · exact fun unit hmem => isQuiet_of_isDigit (hdigits.2 unit hmem)

theorem isQuiet_literal (hliteral : IsLiteral text) : ∀ unit ∈ text, IsQuiet unit := by
  rcases hliteral with rfl | rfl | rfl
  all_goals (unfold IsQuiet; decide)

/-! ## Values -/

def OPENING_DELIMITER : JsonOpeningDelimiter → UInt16
  | .brace => 0x7B
  | .bracket => 0x5B

def enclose (opener : JsonOpeningDelimiter) (body : JsString) : JsString :=
  OPENING_DELIMITER opener :: (body ++ [CLOSING_DELIMITER opener])

section

variable (opener : JsonOpeningDelimiter)

include opener

theorem length_enclose (body : JsString) : (enclose opener body).length = body.length + 2 := by
  simp [enclose]

theorem scanUnit_open (stack : List JsonOpeningDelimiter) :
    scanUnit defaultOpeners { stack } (OPENING_DELIMITER opener) =
      some { stack := opener :: stack } := by
  cases opener with
  | brace => rfl
  | bracket => rfl

theorem scanUnit_close (stack : List JsonOpeningDelimiter) :
    scanUnit defaultOpeners { stack := opener :: stack } (CLOSING_DELIMITER opener) =
      if stack = [] then none else some { stack } := by
  cases opener with
  | brace => rfl
  | bracket => rfl

theorem scanLength_enclose
    (hbody : Passes body) (stack : List JsonOpeningDelimiter) (rest : JsString) :
    scanLength defaultOpeners { stack } (enclose opener body ++ rest) =
      (scanLength defaultOpeners { stack := opener :: stack }
        (CLOSING_DELIMITER opener :: rest)).map (· + (body.length + 1)) := by
  have hsplit : enclose opener body ++ rest =
      OPENING_DELIMITER opener :: (body ++ CLOSING_DELIMITER opener :: rest) := by
    simp [enclose]
  rw [hsplit, scanLength_cons (scanUnit_open opener stack),
    hbody (opener :: stack) (List.cons_ne_nil _ _), Option.map_map]
  rfl

theorem passes_enclose (hbody : Passes body) : Passes (enclose opener body) := by
  intro stack hstack rest
  have hclose : scanUnit defaultOpeners { stack := opener :: stack }
      (CLOSING_DELIMITER opener) = some { stack } := by
    rw [scanUnit_close, if_neg hstack]
  rw [scanLength_enclose opener hbody, scanLength_cons hclose, Option.map_map, length_enclose]
  congr 1
  funext length
  simp only [Function.comp_apply]
  omega

theorem scanLength_outermost (hbody : Passes body) (rest : JsString) :
    scanLength defaultOpeners {} (enclose opener body ++ rest) =
      some (enclose opener body).length := by
  have hclose : scanUnit defaultOpeners { stack := [opener] } (CLOSING_DELIMITER opener) =
      none := by
    rw [scanUnit_close, if_pos rfl]
  rw [scanLength_enclose opener hbody, length_enclose]
  simp only [scanLength, hclose, Option.map_some, Option.some.injEq]
  omega

end

theorem passes_blank (hblank : IsBlank text) : Passes text := passes_quiet (isQuiet_blank hblank)

theorem passes_unit (hquiet : IsQuiet unit) : Passes [unit] := passes_quiet (by simpa using hquiet)

theorem passes_of_derives {part : Part} (hderives : Derives part text) :
    Passes text := by
  have hcomma : Passes [0x2C] := passes_unit (by unfold IsQuiet; decide)
  have hcolon : Passes [0x3A] := passes_unit (by unfold IsQuiet; decide)
  induction hderives with
  | literal hliteral => exact passes_quiet (isQuiet_literal hliteral)
  | number hnumber => exact passes_quiet (isQuiet_number hnumber)
  | string hstring => exact passes_string hstring
  | emptyArray hblank => exact passes_enclose .bracket (passes_blank hblank)
  | array _ ih => exact passes_enclose .bracket ih
  | emptyObject hblank => exact passes_enclose .brace (passes_blank hblank)
  | object _ ih => exact passes_enclose .brace ih
  | element hfirst _ hlast ih => exact ((passes_blank hfirst).append ih).append (passes_blank hlast)
  | lastElement _ ih => exact ih
  | elements _ _ ihfirst ihrest | members _ _ ihfirst ihrest =>
    exact ihfirst.append (hcomma.append ihrest)
  | member hfirst hkey hlast _ ih =>
    exact (((passes_blank hfirst).append (passes_string hkey)).append
      (passes_blank hlast)).append (hcolon.append ih)
  | lastMember _ ih => exact ih

theorem not_quiet_of_head (hquiet : ∀ unit ∈ text, IsQuiet unit) :
    ¬(text.head? = some 0x7B ∨ text.head? = some 0x5B) := by
  rintro (hbrace | hbracket)
  · exact (hquiet _ (List.mem_of_head? hbrace)).2.1 rfl
  · exact (hquiet _ (List.mem_of_head? hbracket)).2.2.1 rfl

theorem enclosed_of_container (hcontainer : IsContainer text) :
    ∃ opener body, Passes body ∧ text = enclose opener body := by
  obtain ⟨hderives, hhead⟩ := hcontainer
  cases hderives with
  | literal hliteral => exact absurd hhead (not_quiet_of_head (isQuiet_literal hliteral))
  | number hnumber => exact absurd hhead (not_quiet_of_head (isQuiet_number hnumber))
  | string hstring =>
    obtain ⟨body, _, rfl⟩ := hstring
    simp at hhead
  | emptyArray hblank => exact ⟨.bracket, _, passes_blank hblank, rfl⟩
  | array hbody => exact ⟨.bracket, _, passes_of_derives hbody, rfl⟩
  | emptyObject hblank => exact ⟨.brace, _, passes_blank hblank, rfl⟩
  | object hbody => exact ⟨.brace, _, passes_of_derives hbody, rfl⟩

def HasNoOpener (text : JsString) : Prop := ∀ unit ∈ text, unit ≠ 0x7B ∧ unit ≠ 0x5B

theorem openingDelimiter_of_hasNoOpener (htext : HasNoOpener text) :
    ∀ unit ∈ text, (openingDelimiter defaultOpeners unit).isNone = true := by
  intro unit hmem
  obtain ⟨hbrace, hbracket⟩ := htext unit hmem
  unfold openingDelimiter
  rw [if_neg hbrace, if_neg hbracket]
  rfl

theorem openingDelimiter_opening (opener : JsonOpeningDelimiter) :
    openingDelimiter defaultOpeners (OPENING_DELIMITER opener) = some opener := by
  cases opener with
  | brace => rfl
  | bracket => rfl

theorem takeWhile_lead {lead : JsString} (hlead : HasNoOpener lead)
    (opener : JsonOpeningDelimiter) (body rest : JsString) :
    (lead ++ (enclose opener body ++ rest)).takeWhile
      (fun char => (openingDelimiter defaultOpeners char).isNone) = lead := by
  rw [List.takeWhile_append_of_pos (openingDelimiter_of_hasNoOpener hlead)]
  have hstop : (enclose opener body ++ rest).takeWhile
      (fun char => (openingDelimiter defaultOpeners char).isNone) = [] := by
    simp [enclose, openingDelimiter_opening]
  rw [hstop, List.append_nil]

theorem extractBalancedJsonPrefix_container {lead value : JsString} (hlead : HasNoOpener lead)
    (hvalue : IsContainer value) (rest : JsString) :
    extractBalancedJsonPrefix defaultOpeners (lead ++ (value ++ rest)) = some
        { json := value
          startIndex := lead.length
          endIndex := lead.length + value.length - 1 } := by
  obtain ⟨opener, body, hbody, rfl⟩ := enclosed_of_container hvalue
  have hlength := length_enclose opener body
  have hinside : ¬(lead ++ (enclose opener body ++ rest)).length ≤ lead.length := by
    rw [List.length_append, List.length_append]
    omega
  simp only [extractBalancedJsonPrefix, takeWhile_lead hlead]
  rw [if_neg hinside, List.drop_left, scanLength_outermost opener hbody, Option.map_some,
    List.take_left]

def valueFragments (offset : ℕ) (lead : JsString) :
    List (JsString × JsString) → List BalancedJsonFragment
  | [] => []
  | (value, text) :: rest =>
    { json := value
      startIndex := offset + lead.length
      endIndex := offset + lead.length + value.length - 1 } ::
        valueFragments (offset + lead.length + value.length) text rest

theorem fragmentsFrom_of_hasNoOpener (htext : HasNoOpener text)
    (offset : ℕ) : fragmentsFrom defaultOpeners offset text = [] := by
  have hnone : extractBalancedJsonPrefix defaultOpeners text = none := by
    have hall : text.takeWhile (fun char => (openingDelimiter defaultOpeners char).isNone) = text :=
      List.takeWhile_eq_self_iff.mpr (openingDelimiter_of_hasNoOpener htext)
    simp only [extractBalancedJsonPrefix, hall]
    rw [if_pos le_rfl]
  rw [fragmentsFrom, hnone]
  split_ifs
  · rfl
  · rfl

theorem fragmentsFrom_values {lead : JsString} {parts : List (JsString × JsString)}
    (hlead : HasNoOpener lead) (hparts : ∀ part ∈ parts, IsContainer part.1 ∧ HasNoOpener part.2)
    (offset : ℕ) :
    fragmentsFrom defaultOpeners offset (lead ++ (parts.map fun part => part.1 ++ part.2).flatten) =
      valueFragments offset lead parts := by
  induction parts generalizing lead offset with
  | nil =>
    simp only [List.map_nil, List.flatten_nil, List.append_nil]
    exact fragmentsFrom_of_hasNoOpener hlead offset
  | cons part parts ih =>
    obtain ⟨value, text⟩ := part
    rw [List.forall_mem_cons] at hparts
    obtain ⟨⟨hvalue, htext⟩, hparts⟩ := hparts
    have hpositive : 0 < value.length := by
      obtain ⟨opener, body, _, rfl⟩ := enclosed_of_container hvalue
      rw [length_enclose]
      omega
    have hsplit : lead ++ (((value, text) :: parts).map fun part => part.1 ++ part.2).flatten =
        lead ++ (value ++ (text ++ (parts.map fun part => part.1 ++ part.2).flatten)) := by
      simp
    have hne : lead ++ (value ++ (text ++ (parts.map fun part => part.1 ++ part.2).flatten)) ≠
        [] := by
      intro hnil
      have hlength := congrArg List.length hnil
      simp only [List.length_append, List.length_nil] at hlength
      omega
    have hdrop : (lead ++ (value ++
        (text ++ (parts.map fun part => part.1 ++ part.2).flatten))).drop
          (lead.length + value.length - 1 + 1) =
        text ++ (parts.map fun part => part.1 ++ part.2).flatten := by
      rw [← List.append_assoc, List.drop_left' (by rw [List.length_append]; omega)]
    rw [hsplit, fragmentsFrom, dif_neg hne, extractBalancedJsonPrefix_container hlead hvalue]
    simp only [hdrop]
    rw [ih htext hparts, valueFragments]
    congr 1
    · congr 1
      omega
    · congr 1
      omega

structure IsSlice (raw : JsString) (fragment : BalancedJsonFragment) : Prop where
  ordered : fragment.startIndex ≤ fragment.endIndex
  inside : fragment.endIndex < raw.length
  slice : fragment.json =
    (raw.drop fragment.startIndex).take (fragment.endIndex + 1 - fragment.startIndex)

theorem scanLength_le {state : ScanState} {length : ℕ}
    (hscan : scanLength openers state text = some length) :
    0 < length ∧ length ≤ text.length := by
  induction text generalizing state length with
  | nil => cases hscan
  | cons char rest ih =>
    unfold scanLength at hscan
    cases hunit : scanUnit openers state char with
    | none =>
      simp only [hunit, Option.some.injEq] at hscan
      rw [List.length_cons]
      omega
    | some next =>
      simp only [hunit, Option.map_eq_some_iff] at hscan
      obtain ⟨shorter, hshorter, rfl⟩ := hscan
      have hrest := ih hshorter
      rw [List.length_cons]
      omega

theorem isSlice_of_extract {raw : JsString} {fragment : BalancedJsonFragment}
    (hextract : extractBalancedJsonPrefix openers raw = some fragment) :
    IsSlice raw fragment := by
  simp only [extractBalancedJsonPrefix] at hextract
  split_ifs at hextract with hnone
  rw [Option.map_eq_some_iff] at hextract
  obtain ⟨length, hscan, rfl⟩ := hextract
  have hlength := scanLength_le openers hscan
  rw [List.length_drop] at hlength
  refine ⟨?_, ?_, ?_⟩
  · simp only
    omega
  · simp only
    omega
  · simp only
    congr 1
    omega

theorem IsSlice.shift {raw : JsString} {offset : ℕ} {fragment : BalancedJsonFragment}
    (hslice : IsSlice (raw.drop offset) fragment) :
    IsSlice raw
      { json := fragment.json
        startIndex := offset + fragment.startIndex
        endIndex := offset + fragment.endIndex } where
  ordered := Nat.add_le_add_left hslice.ordered offset
  inside := by
    have hinside := hslice.inside
    rw [List.length_drop] at hinside
    simp only
    omega
  slice := by
    simp only
    rw [hslice.slice, List.drop_drop]
    congr 1
    omega

theorem fragmentsFrom_slices (raw : JsString) (offset : ℕ) :
    (∀ fragment ∈ fragmentsFrom openers offset (raw.drop offset),
        offset ≤ fragment.startIndex ∧ IsSlice raw fragment) ∧
      (fragmentsFrom openers offset (raw.drop offset)).Pairwise
        fun earlier later => earlier.endIndex < later.startIndex := by
  induction hlength : (raw.drop offset).length using Nat.strong_induction_on
    generalizing offset with
  | _ length ih =>
    rw [fragmentsFrom]
    by_cases hrest : raw.drop offset = []
    · rw [dif_pos hrest]
      exact ⟨fun _ hmem => absurd hmem List.not_mem_nil, List.Pairwise.nil⟩
    · rw [dif_neg hrest]
      cases hextract : extractBalancedJsonPrefix openers (raw.drop offset) with
      | none => exact ⟨fun _ hmem => absurd hmem List.not_mem_nil, List.Pairwise.nil⟩
      | some fragment =>
        have hslice := (isSlice_of_extract openers hextract).shift
        have hpositive := List.length_pos_of_ne_nil hrest
        have hshorter : (raw.drop (offset + (fragment.endIndex + 1))).length < length := by
          rw [← hlength, List.length_drop, List.length_drop]
          rw [List.length_drop] at hpositive
          omega
        obtain ⟨hlater, hpairwise⟩ := ih _ hshorter _ rfl
        simp only [List.drop_drop, List.forall_mem_cons, List.pairwise_cons]
        refine ⟨⟨⟨Nat.le_add_right _ _, hslice⟩, ?_⟩, ?_, hpairwise⟩
        · intro later hmem
          obtain ⟨hstart, hin⟩ := hlater later hmem
          exact ⟨by omega, hin⟩
        · intro later hmem
          have hstart := (hlater later hmem).1
          omega

/-- Objects and arrays between texts without openers are extracted exactly, and on any text
the fragments are slices of it, in order and disjoint. -/
theorem extractBalancedJsonFragments_exact :
    (∀ (lead : JsString) (parts : List (JsString × JsString)), HasNoOpener lead →
      (∀ part ∈ parts, IsContainer part.1 ∧ HasNoOpener part.2) →
      extractBalancedJsonFragments (lead ++ (parts.map fun part => part.1 ++ part.2).flatten)
        defaultOpeners = valueFragments 0 lead parts) ∧
      ∀ (raw : JsString) (openers : List JsonOpeningDelimiter),
        (∀ fragment ∈ extractBalancedJsonFragments raw openers, IsSlice raw fragment) ∧
          (extractBalancedJsonFragments raw openers).Pairwise
            fun earlier later => earlier.endIndex < later.startIndex := by
  constructor
  · intro lead parts hlead hparts
    exact fragmentsFrom_values hlead hparts 0
  · intro raw openers
    obtain ⟨hslices, hpairwise⟩ := fragmentsFrom_slices openers raw 0
    exact ⟨fun fragment hmem => (hslices fragment hmem).2, hpairwise⟩

theorem isContainer_brackets : IsContainer (js "[\"]\\\"\"]") := by
  have hblank : IsBlank [] := fun _ hmem => absurd hmem List.not_mem_nil
  have hbody : StringBody (js "]\\\"") :=
    .plain (by decide) (by decide) (by decide) (.escape (by decide) .nil)
  have hvalue : Derives .value (js "\"]\\\"\"") := .string ⟨_, hbody, rfl⟩
  exact ⟨.array (.lastElement (.element hblank hvalue hblank)), .inr rfl⟩

theorem extractBalancedJsonFragments_brackets :
    extractBalancedJsonFragments (js "say \"[\"]\\\"\"] ok") defaultOpeners =
      [⟨js "[\"]\\\"\"]", 5, 11⟩] :=
  extractBalancedJsonFragments_exact.1 (js "say \"") [(js "[\"]\\\"\"]", js " ok")]
    (by unfold HasNoOpener; decide) (by
      intro part hmem
      obtain rfl := List.mem_singleton.mp hmem
      exact ⟨isContainer_brackets, by unfold HasNoOpener; decide⟩)

end LittleBaby.BalancedJson
