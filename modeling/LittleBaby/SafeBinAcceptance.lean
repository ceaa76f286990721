import LittleBaby.SafeBinReading

/-!
# Accepted arguments of safe bins

The validator walks over the arguments once and counts operands.
-/

namespace LittleBaby.SafeBins

open JsString Exec

/-- A long option is one of the allowed flags, with a harmless value; a short one is
not denied, and has a value only if it is allowed. -/
def ItemAccepted (fixture : SafeBinProfileFixture) : ReadItem → Prop
  | .long name value =>
    (∀ denied ∈ fixture.deniedFlags, ¬MaySpell fixture name denied) ∧
      TakesValue fixture name ∧ ∃ text ∈ value, IsHarmless text
  | .short flag value =>
    flag ∉ fixture.deniedFlags ∧ ∀ text ∈ value, flag ∈ fixture.allowedValueFlags ∧ IsHarmless text
  | .operand text => IsHarmless text

def countedOperands (texts : List JsString) : List JsString :=
  texts.filter fun text => text ≠ [] ∧ text ≠ js "-"

variable {fixture : SafeBinProfileFixture}

variable {text : JsString}

theorem countedOperands_skip (hmarker : text = [] ∨ text = js "-")
    (texts : List JsString) : countedOperands (text :: texts) = countedOperands texts := by
  apply List.filter_cons_of_neg
  rcases hmarker with rfl | rfl
  · simp
  · simp

theorem countedOperands_keep (hmarker : ¬(text = [] ∨ text = js "-")) (texts : List JsString) :
    countedOperands (text :: texts) = text :: countedOperands texts := by
  apply List.filter_cons_of_pos
  simpa [not_or] using hmarker

theorem isHarmless_of_marker (hmarker : text = [] ∨ text = js "-") : IsHarmless text := by
  apply isHarmless_of_safe
  unfold isSafeLiteralToken
  rw [if_pos hmarker]

theorem isHarmless_of_valid {value : Option JsString}
    (hvalid : isInvalidValueToken value = false) : ∃ text ∈ value, IsHarmless text := by
  cases value with
  | none => cases hvalid
  | some text =>
    have hsafe : isSafeLiteralToken text = true := by
      simp only [isInvalidValueToken, Bool.or_eq_false_iff, Bool.not_eq_false'] at hvalid
      exact hvalid.2
    exact ⟨text, rfl, isHarmless_of_safe hsafe⟩

variable {positional final : List JsString}

theorem consumePositionalToken_eq_some {token : JsString}
    (hconsumed : consumePositionalToken token positional = some final) :
    IsHarmless token ∧ final = positional ++ [token] := by
  unfold consumePositionalToken at hconsumed
  split_ifs at hconsumed with hsafe
  exact ⟨isHarmless_of_safe hsafe, (Option.some.inj hconsumed).symm⟩

theorem consumeRest_eq_some {args : List JsString}
    (hconsumed : consumeRest positional args = some final) :
    final = positional ++ countedOperands args ∧ ∀ text ∈ args, IsHarmless text := by
  induction args generalizing positional with
  | nil =>
    have hfinal : final = positional := (Option.some.inj hconsumed).symm
    exact ⟨by simp [hfinal, countedOperands], by simp⟩
  | cons text later ih =>
    simp only [consumeRest] at hconsumed
    split_ifs at hconsumed with hmarker
    · have hlater := ih hconsumed
      rw [countedOperands_skip hmarker]
      exact ⟨hlater.1, List.forall_mem_cons.mpr ⟨isHarmless_of_marker hmarker, hlater.2⟩⟩
    · obtain ⟨middle, hmiddle, hrest⟩ := Option.bind_eq_some_iff.mp hconsumed
      have hlater := ih hrest
      have htext := consumePositionalToken_eq_some hmiddle
      rw [countedOperands_keep hmarker, hlater.1, htext.2, List.append_assoc]
      exact ⟨rfl, List.forall_mem_cons.mpr ⟨htext.1, hlater.2⟩⟩

theorem takesValue_short (unit : UInt16) :
    TakesValue fixture [dash, unit] ↔ [dash, unit] ∈ fixture.allowedValueFlags := by
  have hspelled : ∀ flag, MaySpell fixture [dash, unit] flag ↔ [dash, unit] = flag := by
    intro flag
    simp [MaySpell]
  constructor
  · rintro ⟨flag, hmem, hspells, -⟩
    rw [(hspelled flag).mp hspells]
    exact hmem
  · intro hmem
    refine ⟨[dash, unit], hmem, (hspelled _).mpr rfl, fun other _ _ hother => ?_⟩
    exact ((hspelled other).mp hother).symm

theorem consumeShort_eq_some {rest : List JsString} {cluster : JsString} {consumed : ℕ}
    (hconsumed : consumeShortOptionClusterToken (compileSafeBinProfile fixture) rest
      cluster = some consumed) :
    consumed = (if (readCluster (fun name => decide (TakesValue fixture name)) rest.head?
        cluster).2 then 2 else 1) ∧
      (∀ item ∈ (readCluster (fun name => decide (TakesValue fixture name)) rest.head?
        cluster).1, ItemAccepted fixture item) ∧
      operandTexts (readCluster (fun name => decide (TakesValue fixture name)) rest.head?
        cluster).1 = [] := by
  induction cluster with
  | nil => cases hconsumed
  | cons unit later ih =>
    simp only [consumeShortOptionClusterToken] at hconsumed
    simp only [readCluster, decide_eq_true_eq, takesValue_short]
    split_ifs at hconsumed with hdenied hallowed hinline hsafe hinvalid
    · have hmem : [dash, unit] ∈ fixture.allowedValueFlags := hallowed
      rw [if_pos hmem, if_pos hinline]
      have haccepted : ItemAccepted fixture (.short [dash, unit] (some later)) := by
        refine ⟨hdenied, fun text htext => ?_⟩
        rw [← Option.mem_some.mp htext]
        exact ⟨hmem, isHarmless_of_safe hsafe⟩
      exact ⟨(Option.some.inj hconsumed).symm, List.forall_mem_singleton.mpr haccepted, rfl⟩
    · have hmem : [dash, unit] ∈ fixture.allowedValueFlags := hallowed
      rw [if_pos hmem, if_neg hinline]
      have haccepted : ItemAccepted fixture (.short [dash, unit] rest.head?) := by
        refine ⟨hdenied, fun text htext => ?_⟩
        obtain ⟨value, hvalue, hharmless⟩ := isHarmless_of_valid (Bool.eq_false_iff.mpr hinvalid)
        rw [Option.mem_unique htext hvalue]
        exact ⟨hmem, hharmless⟩
      exact ⟨(Option.some.inj hconsumed).symm, List.forall_mem_singleton.mpr haccepted, rfl⟩
    · have hlater := ih hconsumed
      have hmem : [dash, unit] ∉ fixture.allowedValueFlags := hallowed
      rw [if_neg hmem]
      have haccepted : ItemAccepted fixture (.short [dash, unit] none) := by
        refine ⟨hdenied, fun text htext => ?_⟩
        cases htext
      exact ⟨hlater.1, List.forall_mem_cons.mpr ⟨haccepted, hlater.2.1⟩, hlater.2.2⟩

variable {name flag : JsString}

theorem startsWithDashes_of_canonical {profile : SafeBinProfile}
    (hflag : resolveCanonicalLongFlag profile name = some flag) :
    startsWithDashes name = true := by
  unfold resolveCanonicalLongFlag at hflag
  split_ifs at hflag with hshort
  all_goals
    simp only [Bool.or_eq_true, Bool.not_eq_true', not_or, Bool.not_eq_false] at hshort
    exact hshort.1

section

variable (hflag : resolveCanonicalLongFlag (compileSafeBinProfile fixture) name = some flag)
  (hdenied : flag ∉ fixture.deniedFlags)
include hflag hdenied

theorem allowed_of_canonical : flag ∈ fixture.allowedValueFlags := by
  rcases List.mem_append.mp (spells_of_canonical hflag).2.1.2 with hmem | hmem
  · exact hmem
  · exact absurd hmem hdenied

theorem canonical_allowed :
    TakesValue fixture name ∧ ∀ denied ∈ fixture.deniedFlags, ¬MaySpell fixture name denied := by
  obtain ⟨hspells, hknown, hunique⟩ := spells_of_canonical hflag
  constructor
  · exact ⟨flag, allowed_of_canonical hflag hdenied, hspells⟩
  · intro denied hmem hspelled
    have hlong : IsKnownLong fixture denied := by
      rcases hspelled with rfl | ⟨-, -, hlong, -⟩
      · exact ⟨startsWithDashes_of_canonical hflag, List.mem_append_right _ hmem⟩
      · exact hlong
    rw [hunique denied hlong hspelled] at hmem
    exact hdenied hmem

end

theorem consumeLong_eq_some {inlineValue : Option JsString} {rest : List JsString} {consumed : ℕ}
    (hconsumed : consumeLongOptionToken (compileSafeBinProfile fixture) name inlineValue
      rest = some consumed) :
    ItemAccepted fixture (.long name (inlineValue.or rest.head?)) ∧
      consumed = (if inlineValue.isSome then 1 else 2) := by
  unfold consumeLongOptionToken at hconsumed
  split at hconsumed
  · cases hconsumed
  · next flag hflag =>
      cases inlineValue with
      | some value =>
        simp only at hconsumed
        split_ifs at hconsumed with hdenied hallowed hsafe
        obtain ⟨htakes, hnone⟩ := canonical_allowed hflag hdenied
        exact ⟨⟨hnone, htakes, value, rfl, isHarmless_of_safe hsafe⟩,
          (Option.some.inj hconsumed).symm⟩
      | none =>
        simp only at hconsumed
        split_ifs at hconsumed with hdenied hallowed hinvalid
        · obtain ⟨htakes, hnone⟩ := canonical_allowed hflag hdenied
          exact ⟨⟨hnone, htakes, isHarmless_of_valid (Bool.eq_false_iff.mpr hinvalid)⟩,
            (Option.some.inj hconsumed).symm⟩
        · exact absurd (allowed_of_canonical hflag hdenied) hallowed

theorem readArguments_terminator (takesValue : JsString → Bool) (rest : List JsString) :
    readArguments takesValue (js "--" :: rest) = rest.map .operand := by
  rw [readArguments, if_pos rfl]

variable {takesValue : JsString → Bool} {arg : JsString}

theorem readArguments_inline
    (hdashes : startsWithDashes arg = true) (hbare : arg ≠ js "--") {unit : UInt16}
    {value : JsString} (hvalue : arg.dropWhile (· ≠ 0x3D) = unit :: value)
    (rest : List JsString) :
    readArguments takesValue (arg :: rest) =
      .long (arg.takeWhile (· ≠ 0x3D)) (some value) :: readArguments takesValue rest := by
  rw [readArguments, if_neg hbare, if_pos hdashes]
  simp only [hvalue]

theorem readArguments_next (hdashes : startsWithDashes arg = true) (hbare : arg ≠ js "--")
    (hvalue : arg.dropWhile (· ≠ 0x3D) = [])
    (htakes : takesValue (arg.takeWhile (· ≠ 0x3D)) = true) (rest : List JsString) :
    readArguments takesValue (arg :: rest) =
      .long (arg.takeWhile (· ≠ 0x3D)) rest.head? :: readArguments takesValue rest.tail := by
  rw [readArguments, if_neg hbare, if_pos hdashes]
  simp only [hvalue, htakes, if_true]

theorem readArguments_cluster
    (hdash : arg.head? = some dash) (hdashes : startsWithDashes arg = false)
    (hbare : arg ≠ js "-") (rest : List JsString) :
    readArguments takesValue (arg :: rest) =
      (readCluster takesValue rest.head? arg.tail).1 ++ readArguments takesValue
        (if (readCluster takesValue rest.head? arg.tail).2 then rest.tail else rest) := by
  have hterminator : arg ≠ js "--" := by
    rintro rfl
    exact absurd hdashes (by decide)
  rw [readArguments, if_neg hterminator]
  simp only [hdashes, hdash, hbare, ne_eq, not_false_eq_true, and_self, if_true]
  rfl

theorem readArguments_operand
    (hoperand : arg.head? ≠ some dash ∨ arg = js "-") (rest : List JsString) :
    readArguments takesValue (arg :: rest) = .operand arg :: readArguments takesValue rest := by
  have hterminator : arg ≠ js "--" := by
    rintro rfl
    revert hoperand
    decide
  have hdashes : startsWithDashes arg = false := by
    rcases hoperand with hhead | rfl
    · rw [Bool.eq_false_iff]
      intro hstarts
      obtain ⟨later, rfl⟩ := List.isPrefixOf_iff_prefix.mp hstarts
      exact hhead rfl
    · decide
  have hcluster : ¬(arg.head? = some dash ∧ arg ≠ js "-") := by tauto
  rw [readArguments, if_neg hterminator, hdashes, if_neg (by decide), if_neg hcluster]

theorem parseExecArgvToken_spec (raw : JsString) :
    match parseExecArgvToken raw with
    | .empty => raw = []
    | .terminator => raw = js "--"
    | .stdin => raw = js "-"
    | .positional => raw ≠ [] ∧ raw.head? ≠ some dash
    | .long flag inlineValue =>
      startsWithDashes raw = true ∧ raw ≠ js "--" ∧ flag = raw.takeWhile (· ≠ 0x3D) ∧
        ((inlineValue = none ∧ raw.dropWhile (· ≠ 0x3D) = []) ∨
          ∃ unit value, inlineValue = some value ∧ raw.dropWhile (· ≠ 0x3D) = unit :: value)
    | .shortCluster cluster =>
      raw.head? = some dash ∧ startsWithDashes raw = false ∧ raw ≠ js "-" ∧ cluster = raw.tail := by
  unfold parseExecArgvToken
  split_ifs with hempty hterminator hstdin hdash hdashes
  · exact hempty
  · exact hterminator
  · exact hstdin
  · exact ⟨hempty, hdash⟩
  · cases hvalue : raw.dropWhile (· ≠ 0x3D) with
    | nil =>
      have hname : raw = raw.takeWhile (· ≠ 0x3D) := by
        have happend := List.takeWhile_append_dropWhile (p := (· ≠ 0x3D)) (l := raw)
        rw [hvalue, List.append_nil] at happend
        exact happend.symm
      exact ⟨hdashes, hterminator, hname, .inl ⟨rfl, rfl⟩⟩
    | cons unit value =>
      exact ⟨hdashes, hterminator, rfl, .inr ⟨unit, value, rfl, rfl⟩⟩
  · exact ⟨not_not.mp hdash, Bool.eq_false_iff.mpr hdashes, hstdin, rfl⟩

def ReadSoFar (fixture : SafeBinProfileFixture) (items : List ReadItem)
    (positional final : List JsString) : Prop :=
  final = positional ++ countedOperands (operandTexts items) ∧
    ∀ item ∈ items, ItemAccepted fixture item

variable {items : List ReadItem}

theorem ReadSoFar.operand (hharmless : IsHarmless text) (hlater : ReadSoFar fixture items
      (positional ++ countedOperands [text]) final) :
    ReadSoFar fixture (.operand text :: items) positional final := by
  have hcounted : countedOperands (text :: operandTexts items) =
      countedOperands [text] ++ countedOperands (operandTexts items) :=
    List.filter_append [text] (operandTexts items)
  have htexts : operandTexts (.operand text :: items) = text :: operandTexts items := rfl
  constructor
  · rw [htexts, hcounted, ← List.append_assoc]
    exact hlater.1
  · exact List.forall_mem_cons.mpr ⟨hharmless, hlater.2⟩

theorem ReadSoFar.marker (hmarker : text = [] ∨ text = js "-")
    (hlater : ReadSoFar fixture items positional final) :
    ReadSoFar fixture (.operand text :: items) positional final := by
  apply ReadSoFar.operand (isHarmless_of_marker hmarker)
  rw [countedOperands_skip hmarker]
  simpa [countedOperands] using hlater

theorem ReadSoFar.options {options : List ReadItem} (htexts : operandTexts options = [])
    (haccepted : ∀ item ∈ options, ItemAccepted fixture item)
    (hlater : ReadSoFar fixture items positional final) :
    ReadSoFar fixture (options ++ items) positional final := by
  constructor
  · have hall : operandTexts (options ++ items) = operandTexts items := by
      have happend : operandTexts (options ++ items) =
          operandTexts options ++ operandTexts items := List.filterMap_append
      rw [happend, htexts, List.nil_append]
    rw [hall]
    exact hlater.1
  · exact List.forall_mem_append.mpr ⟨haccepted, hlater.2⟩

theorem operandTexts_map_operand (texts : List JsString) :
    operandTexts (texts.map .operand) = texts := by
  induction texts with
  | nil => rfl
  | cons text texts ih =>
    have hfirst : operandTexts ((text :: texts).map .operand) =
        text :: operandTexts (texts.map .operand) := rfl
    rw [hfirst, ih]

theorem collectPositionalTokens_eq_some {args : List JsString}
    (hcollected : collectPositionalTokens (compileSafeBinProfile fixture) positional args =
      some final) :
    ReadSoFar fixture (readSafeBinArguments fixture args) positional final := by
  unfold readSafeBinArguments
  induction positional, args using collectPositionalTokens.induct (compileSafeBinProfile fixture)
    with rw [collectPositionalTokens] at hcollected
  | case1 positional =>
    rw [readArguments]
    have hfinal : final = positional := (Option.some.inj hcollected).symm
    exact ⟨by simp [hfinal, countedOperands, operandTexts], by simp⟩
  | case2 positional raw rest hparse ih | case3 positional raw rest hparse ih =>
    have hraw := parseExecArgvToken_spec raw
    simp only [hparse] at hraw hcollected
    subst hraw
    rw [readArguments_operand (by decide)]
    exact ReadSoFar.marker (by decide) (ih hcollected)
  | case4 positional raw rest hparse =>
    have hraw := parseExecArgvToken_spec raw
    simp only [hparse] at hraw hcollected
    subst hraw
    have hrest := consumeRest_eq_some hcollected
    rw [readArguments_terminator]
    constructor
    · rw [operandTexts_map_operand]
      exact hrest.1
    · exact List.forall_mem_map.mpr hrest.2
  | case5 _ _ _ hparse hrefused | case7 _ _ _ _ _ hparse hrefused
  | case9 _ _ _ _ hparse hrefused =>
    simp [hparse, hrefused] at hcollected
  | case6 positional raw rest hparse kept hkept ih =>
    have hraw := parseExecArgvToken_spec raw
    simp only [hparse, hkept] at hraw hcollected
    have htoken := consumePositionalToken_eq_some hkept
    rw [readArguments_operand (.inl hraw.2)]
    apply ReadSoFar.operand htoken.1
    have hmarker : ¬(raw = [] ∨ raw = js "-") := by
      rintro (hempty | rfl)
      · exact hraw.1 hempty
      · exact hraw.2 rfl
    rw [countedOperands_keep hmarker]
    have hlater := ih hcollected
    rw [htoken.2] at hlater
    exact hlater
  | case8 positional raw rest flag inlineValue hparse consumed hconsumed ih =>
    have hraw := parseExecArgvToken_spec raw
    simp only [hparse, hconsumed] at hraw hcollected
    obtain ⟨haccepted, hcount⟩ := consumeLong_eq_some hconsumed
    obtain ⟨hdashes, hbare, rfl, hinline⟩ := hraw
    have hlater := ih hcollected
    rcases hinline with ⟨rfl, hvalue⟩ | ⟨unit, value, rfl, hvalue⟩
    · have htakes := haccepted.2.1
      rw [readArguments_next hdashes hbare hvalue (decide_eq_true htakes)]
      apply ReadSoFar.options rfl (List.forall_mem_singleton.mpr haccepted)
      simpa [hcount] using hlater
    · rw [readArguments_inline hdashes hbare hvalue]
      apply ReadSoFar.options rfl (List.forall_mem_singleton.mpr haccepted)
      simpa [hcount] using hlater
  | case10 positional raw rest cluster hparse consumed hconsumed ih =>
    have hraw := parseExecArgvToken_spec raw
    simp only [hparse, hconsumed] at hraw hcollected
    obtain ⟨hdash, hdashes, hbare, rfl⟩ := hraw
    obtain ⟨hcount, haccepted, htexts⟩ := consumeShort_eq_some hconsumed
    have hlater := ih hcollected
    rw [readArguments_cluster hdash hdashes hbare]
    apply ReadSoFar.options htexts haccepted
    rw [hcount] at hlater
    split_ifs at hlater ⊢ with hnext
    · rw [← List.drop_one]
      exact hlater
    · exact hlater

def WithinLimits (fixture : SafeBinProfileFixture) (texts : List JsString) : Prop :=
  fixture.minPositional.getD 0 ≤ texts.length ∧
    ∀ maximum ∈ fixture.maxPositional, texts.length ≤ maximum

instance (texts : List JsString) : Decidable (WithinLimits fixture texts) :=
  inferInstanceAs (Decidable (_ ∧ _))

def headFixture : SafeBinProfileFixture :=
  { maxPositional := some 0
    allowedValueFlags := [js "--lines", js "--bytes", js "-n", js "-c"] }

def plainHost : Host where
  lowerTable := fun unit => [unit]
  platform := js "linux"
  cwd := js "/"
  processHome := none
  home := none
  pathEnv := js "/bin"
  isExecutableFile := fun _ => false

theorem head_accepts : validateSafeBinArgv (compileSafeBinProfile headFixture) plainHost
    [js "--li", js "5", js "-c3", js "--", js "-"] (some (js "head")) = true := by
  decide +kernel

end LittleBaby.SafeBins
