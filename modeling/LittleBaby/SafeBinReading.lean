import LittleBaby.SafeBinPolicy

/-!
# Arguments as a program reads them

Programs read their arguments by the rules of GNU options: long names may be
abbreviated, short options stand in clusters, and options are read anywhere
before `--`.
-/

namespace LittleBaby.SafeBins

open JsString Exec

inductive ReadItem
  | long (name : JsString) (value : Option JsString)
  | short (flag : JsString) (value : Option JsString)
  | operand (text : JsString)

variable (fixture : SafeBinProfileFixture)

def IsKnownLong (flag : JsString) : Prop :=
  startsWithDashes flag = true ∧ flag ∈ fixture.allowedValueFlags ++ fixture.deniedFlags

variable (name : JsString)

def MaySpell (flag : JsString) : Prop :=
  name = flag ∨
    (¬IsKnownLong fixture name ∧ 2 < name.length ∧ IsKnownLong fixture flag ∧ name <+: flag)

def Spells (flag : JsString) : Prop :=
  MaySpell fixture name flag ∧ ∀ other ∈ fixture.allowedValueFlags ++ fixture.deniedFlags,
      IsKnownLong fixture other → MaySpell fixture name other → other = flag

instance (fixture : SafeBinProfileFixture) (flag : JsString) :
    Decidable (IsKnownLong fixture flag) := inferInstanceAs (Decidable (_ ∧ _))

instance (fixture : SafeBinProfileFixture) (name flag : JsString) :
    Decidable (MaySpell fixture name flag) := inferInstanceAs (Decidable (_ ∨ _))

instance (fixture : SafeBinProfileFixture) (name flag : JsString) :
    Decidable (Spells fixture name flag) := inferInstanceAs (Decidable (_ ∧ _))

section Reading

variable (takesValue : JsString → Bool)

def readCluster (next : Option JsString) : JsString → List ReadItem × Bool
  | [] => ([], false)
  | unit :: later =>
    if takesValue [dash, unit] then
      if later ≠ [] then ([.short [dash, unit] (some later)], false)
      else ([.short [dash, unit] next], true)
    else
      let read := readCluster next later
      (.short [dash, unit] none :: read.1, read.2)

def readArguments : List JsString → List ReadItem
  | [] => []
  | arg :: rest =>
    if arg = js "--" then rest.map .operand
    else if startsWithDashes arg then
      let name := arg.takeWhile (· ≠ 0x3D)
      match arg.dropWhile (· ≠ 0x3D) with
      | _ :: value => .long name (some value) :: readArguments rest
      | [] =>
        if takesValue name then .long name rest.head? :: readArguments rest.tail
        else .long name none :: readArguments rest
    else if arg.head? = some dash ∧ arg ≠ js "-" then
      let read := readCluster takesValue rest.head? arg.tail
      read.1 ++ readArguments (if read.2 then rest.tail else rest)
    else .operand arg :: readArguments rest
  termination_by args => args.length
  decreasing_by
    all_goals simp only [List.length_cons, List.length_tail]
    all_goals (try split) <;> (try simp only [List.length_tail]) <;> omega

end Reading

def TakesValue : Prop := ∃ flag ∈ fixture.allowedValueFlags, Spells fixture name flag

instance (fixture : SafeBinProfileFixture) (name : JsString) :
    Decidable (TakesValue fixture name) :=
  inferInstanceAs (Decidable (∃ flag ∈ fixture.allowedValueFlags, _))

def readSafeBinArguments (args : List JsString) : List ReadItem :=
  readArguments (fun name => decide (TakesValue fixture name)) args

def operandTexts (items : List ReadItem) : List JsString :=
  items.filterMap fun item =>
    match item with
    | .long _ _ | .short _ _ => none
    | .operand text => some text

def IsRootedPath (text : JsString) : Prop :=
  js "/" <+: text ∨ js "~" <+: text ∨ js "./" <+: text ∨ js "../" <+: text ∨
    ∃ letter separator, isLetter letter = true ∧ (separator = 0x5C ∨ separator = 0x2F) ∧
      [letter, 0x3A, separator] <+: text

/-- Neither a pattern of file names nor such a path, not even behind white space. -/
structure IsHarmless (text : JsString) : Prop where
  noGlob : ∀ unit ∈ text, isGlobUnit unit = false
  noPath : ¬IsRootedPath (trim text)

theorem isPathLikeToken_of_rooted {value : JsString} (hrooted : IsRootedPath (trim value)) :
    isPathLikeToken value = true := by
  have hne : trim value ≠ [] ∧ trim value ≠ js "-" := by
    constructor
    all_goals
      intro hvalue
      rw [hvalue] at hrooted
      rcases hrooted with hpath | hpath | hpath | hpath | ⟨letter, separator, -, -, hpath⟩
    all_goals
      have hlength := hpath.length_le
      revert hpath hlength
    all_goals first | decide | simp [js, encode]
  unfold isPathLikeToken
  simp only [hne.1, hne.2, if_false]
  rcases hrooted with hpath | hpath | hpath | hpath | ⟨letter, separator, hletter, hslash, hpath⟩
  · simp [List.isPrefixOf_iff_prefix.mpr hpath]
  · simp [List.isPrefixOf_iff_prefix.mpr hpath]
  · simp [List.isPrefixOf_iff_prefix.mpr hpath]
  · simp [List.isPrefixOf_iff_prefix.mpr hpath]
  · obtain ⟨rest, hrest⟩ := hpath
    rw [← hrest]
    have hdrive : startsWithDrive ([letter, 0x3A, separator] ++ rest) = true := by
      rcases hslash with rfl | rfl <;> simp [startsWithDrive, hletter]
    split_ifs
    · rfl
    · rfl
    · exact hdrive

theorem isHarmless_of_safe {text : JsString} (hsafe : isSafeLiteralToken text = true) :
    IsHarmless text := by
  have hparts : hasGlobToken text = false ∧ isPathLikeToken text = false := by
    unfold isSafeLiteralToken at hsafe
    split_ifs at hsafe with hmarker
    · rcases hmarker with rfl | rfl <;> decide
    · simpa using hsafe
  constructor
  · intro unit hunit
    by_contra hglob
    have hany : hasGlobToken text = true := List.any_eq_true.mpr ⟨unit, hunit, by simpa using hglob⟩
    rw [hparts.1] at hany
    cases hany
  · intro hrooted
    rw [isPathLikeToken_of_rooted hrooted] at hparts
    exact absurd hparts.2 (by decide)

def StartsKnown (added : JsString → JsString → Prop)
    (prefixMap : List (JsString × Option JsString)) : Prop :=
  ∀ start, (prefixMap.lookup start = none → ∀ flag, ¬added start flag) ∧
      ∀ flag, prefixMap.lookup start = some (some flag) →
        added start flag ∧ ∀ other, added start other → other = flag

theorem lookup_addFlagStart_self (flag : JsString)
    (prefixMap : List (JsString × Option JsString)) (length : ℕ) :
    (addFlagStart flag prefixMap length).lookup (flag.take length) =
      if prefixMap.lookup (flag.take length) = none ∨
          prefixMap.lookup (flag.take length) = some (some flag) then some (some flag)
      else some none := by
  unfold addFlagStart
  simp only
  split
  · next hnone => rw [if_pos (.inl hnone), Entries.lookup_set_self]
  · next existing hfound =>
      split_ifs with hother hsame hsame
      · rcases hsame with hnone | hflag
        · rw [hfound] at hnone
          cases hnone
        · rw [hfound] at hflag
          exact absurd (Option.some.inj hflag) hother
      · rw [Entries.lookup_set_self]
      · rw [hfound, not_not.mp hother]
      · exact absurd (.inr (by rw [hfound, not_not.mp hother])) hsame

theorem lookup_addFlagStart_of_ne (flag : JsString)
    (prefixMap : List (JsString × Option JsString)) (length : ℕ) {start : JsString}
    (hstart : start ≠ flag.take length) :
    (addFlagStart flag prefixMap length).lookup start = prefixMap.lookup start := by
  unfold addFlagStart
  simp only
  split
  · rw [Entries.lookup_set_of_ne hstart]
  · split_ifs
    · rw [Entries.lookup_set_of_ne hstart]
    · rfl

variable {added : JsString → JsString → Prop} {prefixMap : List (JsString × Option JsString)}

section

variable (hknown : StartsKnown added prefixMap)
include hknown

theorem StartsKnown.congr {others : JsString → JsString → Prop}
    (hsame : ∀ start flag, added start flag ↔ others start flag) :
    StartsKnown others prefixMap := by
  intro start
  obtain ⟨hnone, hsome⟩ := hknown start
  simp only [hsame] at hnone hsome
  exact ⟨hnone, hsome⟩

theorem StartsKnown.add (flag : JsString) (length : ℕ) :
    StartsKnown (fun start other => added start other ∨
      (start = flag.take length ∧ other = flag)) (addFlagStart flag prefixMap length) := by
  intro start
  obtain ⟨hnone, hsome⟩ := hknown start
  by_cases hstart : start = flag.take length
  · subst hstart
    rw [lookup_addFlagStart_self]
    split_ifs with hfirst
    · constructor
      · intro hfalse
        cases hfalse
      · intro other hother
        cases Option.some.inj hother
        refine ⟨.inr ⟨rfl, rfl⟩, fun third hthird => ?_⟩
        rcases hthird with hthird | hthird
        · rcases hfirst with hmissing | hfound
          · exact absurd hthird (hnone hmissing third)
          · exact (hsome flag hfound).2 third hthird
        · exact hthird.2
    · constructor
      · intro hfalse
        cases hfalse
      · intro other hother
        cases hother
  · rw [lookup_addFlagStart_of_ne flag prefixMap length hstart]
    simp only [hstart, false_and, or_false]
    exact ⟨hnone, hsome⟩

theorem StartsKnown.addAll (flag : JsString) (lengths : List ℕ) :
    StartsKnown (fun start other => added start other ∨
      ((∃ length ∈ lengths, start = flag.take length) ∧ other = flag))
      (lengths.foldl (addFlagStart flag) prefixMap) := by
  induction lengths generalizing added prefixMap with
  | nil => simpa using hknown
  | cons length rest ih =>
    have hrest := ih (hknown.add flag length)
    rw [List.foldl_cons]
    apply hrest.congr
    intro start other
    constructor
    · rintro ((hadded | ⟨hstart, hflag⟩) | ⟨⟨later, hmem, hstart⟩, hflag⟩)
      · exact .inl hadded
      · exact .inr ⟨⟨length, List.mem_cons_self, hstart⟩, hflag⟩
      · exact .inr ⟨⟨later, List.mem_cons_of_mem _ hmem, hstart⟩, hflag⟩
    · rintro (hadded | ⟨⟨later, hmem, hstart⟩, hflag⟩)
      · exact .inl (.inl hadded)
      · rcases List.mem_cons.mp hmem with rfl | hmem
        · exact .inl (.inr ⟨hstart, hflag⟩)
        · exact .inr ⟨⟨later, hmem, hstart⟩, hflag⟩

end

def IsStart (start flag : JsString) : Prop :=
  startsWithDashes flag = true ∧ 2 < start.length ∧ start <+: flag

variable {flag : JsString}

theorem isStart_iff {start : JsString} (hlong : 2 < flag.length)
    (hdashes : startsWithDashes flag = true) :
    IsStart start flag ↔ ∃ length ∈ List.range' 3 (flag.length - 2), start = flag.take length := by
  constructor
  · rintro ⟨-, hlength, hstart⟩
    refine ⟨start.length, ?_, (List.prefix_iff_eq_take.mp hstart)⟩
    have hle := hstart.length_le
    exact List.mem_range'_1.mpr ⟨by omega, by omega⟩
  · rintro ⟨length, hlength, rfl⟩
    have hrange := List.mem_range'_1.mp hlength
    refine ⟨hdashes, ?_, List.take_prefix _ _⟩
    rw [List.length_take]
    omega

theorem StartsKnown.addFlag (hknown : StartsKnown added prefixMap) (flag : JsString) :
    StartsKnown (fun start other => added start other ∨
      (IsStart start other ∧ other = flag)) (addFlagStarts prefixMap flag) := by
  unfold addFlagStarts
  split_ifs with hshort
  · apply hknown.congr
    intro start other
    constructor
    · exact .inl
    · rintro (hadded | ⟨⟨hdashes, hlength, hstart⟩, rfl⟩)
      · exact hadded
      · have hle := hstart.length_le
        simp only [hdashes, Bool.not_true, Bool.false_or, decide_eq_true_eq] at hshort
        omega
  · simp only [Bool.or_eq_true, Bool.not_eq_true', decide_eq_true_eq, not_or, not_le,
      Bool.not_eq_false] at hshort
    apply (hknown.addAll flag _).congr
    intro start other
    constructor
    · rintro (hadded | ⟨hlength, rfl⟩)
      · exact .inl hadded
      · exact .inr ⟨(isStart_iff hshort.2 hshort.1).mpr hlength, rfl⟩
    · rintro (hadded | ⟨hstart, rfl⟩)
      · exact .inl hadded
      · exact .inr ⟨(isStart_iff hshort.2 hshort.1).mp hstart, rfl⟩

theorem startsKnown_foldl (hknown : StartsKnown added prefixMap) (flags : List JsString) :
    StartsKnown (fun start flag => added start flag ∨ (flag ∈ flags ∧ IsStart start flag))
      (flags.foldl addFlagStarts prefixMap) := by
  induction flags generalizing added prefixMap with
  | nil => simpa using hknown
  | cons first rest ih =>
    rw [List.foldl_cons]
    apply (ih (hknown.addFlag first)).congr
    intro start flag
    rw [List.mem_cons]
    constructor
    · rintro ((hadded | ⟨hstart, rfl⟩) | ⟨hmem, hstart⟩)
      · exact .inl hadded
      · exact .inr ⟨.inl rfl, hstart⟩
      · exact .inr ⟨.inr hmem, hstart⟩
    · rintro (hadded | ⟨rfl | hmem, hstart⟩)
      · exact .inl (.inl hadded)
      · exact .inl (.inr ⟨hstart, rfl⟩)
      · exact .inr ⟨hmem, hstart⟩

theorem startsKnown_build (knownLongFlags : List JsString) :
    StartsKnown (fun start flag => flag ∈ knownLongFlags ∧ IsStart start flag)
      (buildLongFlagPrefixMap knownLongFlags) := by
  have hempty : StartsKnown (fun _ _ => False) [] :=
    fun start => ⟨fun _ _ hfalse => hfalse, fun flag hfound => by cases hfound⟩
  apply (startsKnown_foldl hempty knownLongFlags).congr
  intro start flag
  rw [false_or]

theorem mem_addLongFlags {known flags : List JsString} : flag ∈ addLongFlags known flags ↔
      flag ∈ known ∨ (startsWithDashes flag = true ∧ flag ∈ flags) := by
  unfold addLongFlags
  induction flags generalizing known with
  | nil => simp
  | cons first rest ih =>
    rw [List.foldl_cons, ih, List.mem_cons]
    split_ifs with hnew
    · rw [List.mem_append, List.mem_singleton]
      constructor
      · rintro ((hmem | rfl) | ⟨hdashes, hmem⟩)
        · exact .inl hmem
        · exact .inr ⟨hnew.1, .inl rfl⟩
        · exact .inr ⟨hdashes, .inr hmem⟩
      · rintro (hmem | ⟨hdashes, rfl | hmem⟩)
        · exact .inl (.inl hmem)
        · exact .inl (.inr rfl)
        · exact .inr ⟨hdashes, hmem⟩
    · constructor
      · rintro (hmem | ⟨hdashes, hmem⟩)
        · exact .inl hmem
        · exact .inr ⟨hdashes, .inr hmem⟩
      · rintro (hmem | ⟨hdashes, rfl | hmem⟩)
        · exact .inl hmem
        · have hold : flag ∈ known := by
            by_contra hmissing
            exact hnew ⟨hdashes, hmissing⟩
          exact .inl hold
        · exact .inr ⟨hdashes, hmem⟩

theorem mem_knownLongFlags {fixture : SafeBinProfileFixture} :
    flag ∈ (compileSafeBinProfile fixture).knownLongFlags ↔ IsKnownLong fixture flag := by
  have hmem : flag ∈ (compileSafeBinProfile fixture).knownLongFlags ↔
      flag ∈ addLongFlags (addLongFlags [] fixture.allowedValueFlags) fixture.deniedFlags :=
    Iff.rfl
  rw [hmem, mem_addLongFlags, mem_addLongFlags, IsKnownLong, List.mem_append]
  simp only [List.not_mem_nil, false_or]
  rw [← and_or_left]

theorem spells_of_canonical {fixture : SafeBinProfileFixture} {name : JsString}
    (hflag : resolveCanonicalLongFlag (compileSafeBinProfile fixture) name = some flag) :
    Spells fixture name flag ∧ IsKnownLong fixture flag ∧
      ∀ other, IsKnownLong fixture other → MaySpell fixture name other → other = flag := by
  have hparts : MaySpell fixture name flag ∧ IsKnownLong fixture flag ∧
      ∀ other, IsKnownLong fixture other → MaySpell fixture name other → other = flag := by
    unfold resolveCanonicalLongFlag at hflag
    split_ifs at hflag with hshort hknown
    · cases hflag
      have hlong := mem_knownLongFlags.mp hknown
      refine ⟨.inl rfl, hlong, fun other _ hother => ?_⟩
      rcases hother with rfl | ⟨hunknown, -⟩
      · rfl
      · exact absurd hlong hunknown
    · rw [mem_knownLongFlags] at hknown
      simp only [Bool.or_eq_true, Bool.not_eq_true', decide_eq_true_eq, not_or, not_le,
        Bool.not_eq_false] at hshort
      obtain ⟨hadded, hunique⟩ :=
        (startsKnown_build (compileSafeBinProfile fixture).knownLongFlags name).2 flag
          (Option.join_eq_some_iff.mp hflag)
      have hlong := mem_knownLongFlags.mp hadded.1
      refine ⟨.inr ⟨hknown, hshort.2, hlong, hadded.2.2.2⟩, hlong, fun other hother hspell => ?_⟩
      rcases hspell with rfl | ⟨-, hlength, -, hstart⟩
      · exact absurd hother hknown
      · exact hunique other ⟨mem_knownLongFlags.mpr hother, hother.1, hlength, hstart⟩
  exact ⟨⟨hparts.1, fun other _ => hparts.2.2 other⟩, hparts.2⟩

end LittleBaby.SafeBins
