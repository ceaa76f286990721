import Mathlib.Data.ENat.Basic
import Mathlib.Data.List.Forall2
import Mathlib.Data.List.Lex
import Mathlib.Data.Prod.Lex
import Mathlib.Data.Sum.Order
import LittleBaby.JsString

/-!
# Comparison of versions

Versions are read by a pattern and compared part by part.
-/

namespace LittleBaby.Semver

open JsString UInt16

/-! ## Reading a version -/

def isDigit (unit : UInt16) : Bool := 0x30 ≤ unit && unit ≤ 0x39

/-- `/[0-9A-Za-z.-]/`. -/
def isSuffixUnit (unit : UInt16) : Bool :=
  isDigit unit || (0x41 ≤ unit && unit ≤ 0x5A) || (0x61 ≤ unit && unit ≤ 0x7A) ||
    unit == 0x2E || unit == 0x2D

/-- `[0-9]+`, and what follows. -/
def readDigits (text : JsString) : Option (JsString × JsString) :=
  if text.takeWhile isDigit = [] then none
  else some (text.takeWhile isDigit, text.dropWhile isDigit)

def afterDot : JsString → Option JsString
  | 0x2E :: rest => some rest
  | _ => none

/-- `([0-9]+)\.([0-9]+)\.([0-9]+)`, and what follows. -/
def readNumbers (text : JsString) : Option ((JsString × JsString × JsString) × JsString) :=
  (readDigits text).bind fun (major, rest) =>
    ((afterDot rest).bind readDigits).bind fun (minor, rest) =>
      ((afterDot rest).bind readDigits).map fun (patch, rest) =>
        ((major, minor, patch), rest)

/-- `/^([vV]?[0-9]+\.[0-9]+\.[0-9]+)\.beta(?:\.([0-9A-Za-z.-]+))?$/`. -/
def matchDotBeta (text : JsString) : Option (JsString × Option JsString) :=
  let numbers := if text.head?.any fun unit => unit = 0x76 ∨ unit = 0x56 then text.tail else text
  (readNumbers numbers).bind fun (_, rest) =>
    let base := text.take (text.length - rest.length)
    if rest.take 5 ≠ js ".beta" then none
    else
      match rest.drop 5 with
      | [] => some (base, none)
      | unit :: suffix =>
        if unit = 0x2E ∧ suffix ≠ [] ∧ suffix.all isSuffixUnit then some (base, some suffix)
        else none

def normalizeLegacyDotBetaVersion (version : JsString) : JsString :=
  match matchDotBeta (trim version) with
  | none => trim version
  | some (base, none) => base ++ js "-beta"
  | some (base, some suffix) => base ++ js "-beta." ++ suffix

structure SemverMatch where
  major : JsString
  minor : JsString
  patch : JsString
  prereleaseRaw : Option JsString
  deriving DecidableEq

/-- `(?:\+[0-9A-Za-z.-]+)?$`. -/
def isBuild : JsString → Bool
  | [] => true
  | unit :: build => unit == 0x2B && !build.isEmpty && build.all isSuffixUnit

/-- `(?:-([0-9A-Za-z.-]+))?(?:\+[0-9A-Za-z.-]+)?$`. -/
def readSuffixes (text : JsString) : Option (Option JsString) :=
  match text with
  | 0x2D :: rest =>
    if rest.takeWhile isSuffixUnit ≠ [] ∧ isBuild (rest.dropWhile isSuffixUnit) then
      some (some (rest.takeWhile isSuffixUnit))
    else none
  | text => if isBuild text then some none else none

/-- `/^v?([0-9]+)\.([0-9]+)\.([0-9]+)(?:-([0-9A-Za-z.-]+))?(?:\+[0-9A-Za-z.-]+)?$/`. -/
def matchSemver (text : JsString) : Option SemverMatch :=
  let numbers := if text.head? = some 0x76 then text.tail else text
  (readNumbers numbers).bind fun ((major, minor, patch), rest) =>
    (readSuffixes rest).map fun prereleaseRaw => ⟨major, minor, patch, prereleaseRaw⟩

/-- `text.split(".")`. -/
def splitDots (text : JsString) : List JsString := text.splitOn 0x2E

def digitsValue (digits : JsString) : ℕ :=
  digits.foldl (fun value unit => value * 10 + (unit.toNat - 0x30)) 0

/-- What `Number.parseInt` makes of a whole number: it is exact as long as all whole numbers
have a double, and keeps the order beyond. -/
structure Rounding where
  toNumber : ℕ → ℕ∞
  exact : ∀ value, value < 2 ^ 53 → toNumber value = value
  monotone : Monotone toNumber

structure ComparableSemver where
  major : ℕ∞
  minor : ℕ∞
  patch : ℕ∞
  prerelease : Option (List JsString)

variable (rounding : Rounding)

def parseInt (digits : JsString) : ℕ∞ := rounding.toNumber (digitsValue digits)

def normalizeVersion (normalizeLegacyDotBeta : Bool) (version : JsString) : JsString :=
  if normalizeLegacyDotBeta then normalizeLegacyDotBetaVersion version else trim version

def prereleaseIdentifiers (parts : SemverMatch) : Option (List JsString) :=
  parts.prereleaseRaw.map fun raw => (splitDots raw).filter (· ≠ [])

def parseComparableSemver (version : Option JsString) (normalizeLegacyDotBeta : Bool) :
    Option ComparableSemver :=
  match version with
  | none => none
  | some version =>
    if version = [] then none
    else
      (matchSemver (normalizeVersion normalizeLegacyDotBeta version)).bind fun parts =>
        if parts.major = [] ∨ parts.minor = [] ∨ parts.patch = [] then none
        else
          some
            { major := parseInt rounding parts.major
              minor := parseInt rounding parts.minor
              patch := parseInt rounding parts.patch
              prerelease := prereleaseIdentifiers parts }

/-- `/^[0-9]+$/`. -/
def isNumeric (identifier : JsString) : Bool := !identifier.isEmpty && identifier.all isDigit

/-- `left < right` of strings, by code units. -/
def isBefore (left right : JsString) : Bool := left.map toNat < right.map toNat

variable (ai : JsString)

def compareIdentifiers (bi : JsString) : ℤ :=
  if isNumeric ai ∧ isNumeric bi then
    if parseInt rounding ai < parseInt rounding bi then -1 else 1
  else if isNumeric ai ∧ ¬isNumeric bi then -1
  else if ¬isNumeric ai ∧ isNumeric bi then 1
  else if isBefore ai bi then -1
  else 1

def compareIdentifierLists : List JsString → List JsString → ℤ
  | [], [] => 0
  | [], _ :: _ => -1
  | _ :: _, [] => 1
  | ai :: a, bi :: b =>
    if ai = bi then compareIdentifierLists a b else compareIdentifiers rounding ai bi

def comparePrereleaseIdentifiers (a b : Option (List JsString)) : ℤ :=
  if a.getD [] = [] ∧ b.getD [] = [] then 0
  else if a.getD [] = [] then 1
  else if b.getD [] = [] then -1
  else compareIdentifierLists rounding (a.getD []) (b.getD [])

def compareComparableSemver (a b : Option ComparableSemver) : Option ℤ :=
  match a, b with
  | some a, some b =>
    if a.major ≠ b.major then some (if a.major < b.major then -1 else 1)
    else if a.minor ≠ b.minor then some (if a.minor < b.minor then -1 else 1)
    else if a.patch ≠ b.patch then some (if a.patch < b.patch then -1 else 1)
    else some (comparePrereleaseIdentifiers rounding a.prerelease b.prerelease)
  | _, _ => none

/-! ## Precedence -/

def Tells {α : Type*} [LT α] (sign : ℤ) (a b : α) : Prop :=
  (sign = -1 ∧ a < b) ∨ (sign = 0 ∧ a = b) ∨ (sign = 1 ∧ b < a)

def identifierRank (identifier : JsString) : ℕ ⊕ₗ List ℕ :=
  if isNumeric identifier then Sum.inlₗ (digitsValue identifier)
  else Sum.inrₗ (identifier.map toNat)

def prereleaseRank (identifiers : List JsString) : WithTop (List (ℕ ⊕ₗ List ℕ)) :=
  if identifiers = [] then ⊤ else ((identifiers.map identifierRank : List _) : WithTop _)

namespace SemverMatch

variable (parts : SemverMatch)

def identifiers : List JsString := (prereleaseIdentifiers parts).getD []

def precedence : ℕ ×ₗ ℕ ×ₗ ℕ ×ₗ WithTop (List (ℕ ⊕ₗ List ℕ)) :=
  toLex (digitsValue parts.major, toLex (digitsValue parts.minor,
    toLex (digitsValue parts.patch, prereleaseRank parts.identifiers)))

end SemverMatch

/-- A version that is accepted, with numeric parts that have an exact double. -/
structure AcceptedVersion where
  version : JsString
  normalizeLegacyDotBeta : Bool
  parts : SemverMatch
  matched : matchSemver (normalizeVersion normalizeLegacyDotBeta version) = some parts
  majorSafe : digitsValue parts.major < 2 ^ 53
  minorSafe : digitsValue parts.minor < 2 ^ 53
  patchSafe : digitsValue parts.patch < 2 ^ 53

theorem trim_nil_of_matched {version : JsString} {normalizeLegacyDotBeta : Bool}
    {parts : SemverMatch}
    (hmatched : matchSemver (normalizeVersion normalizeLegacyDotBeta version) = some parts) :
    version ≠ [] := by
  rintro rfl
  have hnone : matchSemver (normalizeVersion normalizeLegacyDotBeta []) = none := by
    cases normalizeLegacyDotBeta
    all_goals decide
  rw [hnone] at hmatched
  cases hmatched

theorem readDigits_ne_nil {text digits rest : JsString}
    (hread : readDigits text = some (digits, rest)) : digits ≠ [] := by
  unfold readDigits at hread
  by_cases hnil : text.takeWhile isDigit = []
  · rw [if_pos hnil] at hread
    cases hread
  · rw [if_neg hnil, Option.some.injEq, Prod.mk.injEq] at hread
    rw [← hread.1]
    exact hnil

theorem readNumbers_ne_nil {text major minor patch rest : JsString}
    (hread : readNumbers text = some ((major, minor, patch), rest)) :
    major ≠ [] ∧ minor ≠ [] ∧ patch ≠ [] := by
  simp only [readNumbers, Option.bind_eq_some_iff, Option.map_eq_some_iff, Prod.exists,
    Prod.mk.injEq] at hread
  obtain ⟨first, afterFirst, hfirst, second, afterSecond, ⟨_, _, hsecond⟩, third, afterThird,
    ⟨_, _, hthird⟩, ⟨rfl, rfl, rfl⟩, rfl⟩ := hread
  exact ⟨readDigits_ne_nil hfirst, readDigits_ne_nil hsecond, readDigits_ne_nil hthird⟩

theorem matchSemver_ne_nil {text : JsString} {parts : SemverMatch}
    (hmatched : matchSemver text = some parts) :
    parts.major ≠ [] ∧ parts.minor ≠ [] ∧ parts.patch ≠ [] := by
  simp only [matchSemver, Option.bind_eq_some_iff, Option.map_eq_some_iff, Prod.exists] at hmatched
  obtain ⟨major, minor, patch, rest, hread, _, _, rfl⟩ := hmatched
  exact readNumbers_ne_nil hread

def SemverMatch.comparable (parts : SemverMatch) : ComparableSemver where
  major := parseInt rounding parts.major
  minor := parseInt rounding parts.minor
  patch := parseInt rounding parts.patch
  prerelease := prereleaseIdentifiers parts

namespace AcceptedVersion

/-- The version as `parseComparableSemver` reads it. -/
def parsed (accepted : AcceptedVersion) : Option ComparableSemver :=
  parseComparableSemver rounding (some accepted.version) accepted.normalizeLegacyDotBeta

theorem parsed_eq (accepted : AcceptedVersion) :
    accepted.parsed rounding = some (accepted.parts.comparable rounding) := by
  obtain ⟨hmajor, hminor, hpatch⟩ := matchSemver_ne_nil accepted.matched
  simp only [parsed, parseComparableSemver, accepted.matched, Option.bind_some]
  rw [if_neg (trim_nil_of_matched accepted.matched), if_neg]
  · rfl
  · simp [hmajor, hminor, hpatch]

end AcceptedVersion

/-! ## What a comparison tells -/

theorem tells_ite {α : Type*} [LinearOrder α] {a b : α} [Decidable (a < b)] (hne : a ≠ b) :
    Tells (if a < b then -1 else 1) a b := by
  rcases lt_or_gt_of_ne hne with hlt | hgt
  · rw [if_pos hlt]
    exact .inl ⟨rfl, hlt⟩
  · rw [if_neg hgt.not_gt]
    exact .inr (.inr ⟨rfl, hgt⟩)

theorem Tells.map {α β : Type*} [LT α] [LT β] {sign : ℤ} {a b : α} {f : α → β}
    (htells : Tells sign a b) (hup : a < b → f a < f b) (hdown : b < a → f b < f a) :
    Tells sign (f a) (f b) := by
  rcases htells with ⟨hsign, hlt⟩ | ⟨hsign, heq⟩ | ⟨hsign, hgt⟩
  · exact .inl ⟨hsign, hup hlt⟩
  · exact .inr (.inl ⟨hsign, congrArg f heq⟩)
  · exact .inr (.inr ⟨hsign, hdown hgt⟩)

section Lexicographic

variable {α β : Type*} [LinearOrder α] [LinearOrder β]

theorem tells_toLex_of_tells_fst {sign : ℤ} {a b : α} (hne : a ≠ b) (c d : β)
    (htells : Tells sign a b) : Tells sign (toLex (a, c)) (toLex (b, d)) := by
  rcases htells with ⟨hsign, hlt⟩ | ⟨_, heq⟩ | ⟨hsign, hgt⟩
  · exact .inl ⟨hsign, Prod.Lex.toLex_lt_toLex.mpr (.inl hlt)⟩
  · exact absurd heq hne
  · exact .inr (.inr ⟨hsign, Prod.Lex.toLex_lt_toLex.mpr (.inl hgt)⟩)

theorem tells_toLex_of_tells_snd {sign : ℤ} (a : α) {c d : β} (htells : Tells sign c d) :
    Tells sign (toLex (a, c)) (toLex (a, d)) :=
  htells.map (fun hlt => Prod.Lex.toLex_lt_toLex.mpr (.inr ⟨rfl, hlt⟩))
    (fun hgt => Prod.Lex.toLex_lt_toLex.mpr (.inr ⟨rfl, hgt⟩))

theorem tells_cons_of_tells_head {sign : ℤ} {a b : α} (hne : a ≠ b) (c d : List α)
    (htells : Tells sign a b) : Tells sign (a :: c) (b :: d) := by
  rcases htells with ⟨hsign, hlt⟩ | ⟨_, heq⟩ | ⟨hsign, hgt⟩
  · exact .inl ⟨hsign, List.cons_lt_cons_iff.mpr (.inl hlt)⟩
  · exact absurd heq hne
  · exact .inr (.inr ⟨hsign, List.cons_lt_cons_iff.mpr (.inl hgt)⟩)

theorem tells_cons_of_tells_tail {sign : ℤ} (a : α) {c d : List α}
    (htells : Tells sign c d) : Tells sign (a :: c) (a :: d) :=
  htells.map (fun hlt => List.cons_lt_cons_iff.mpr (.inr ⟨rfl, hlt⟩))
    (fun hgt => List.cons_lt_cons_iff.mpr (.inr ⟨rfl, hgt⟩))

theorem Tells.eq_neg {m n : ℤ} {a b : α} (htells : Tells m a b) (hback : Tells n b a) : m = -n := by
  rcases htells with ⟨hm, hab⟩ | ⟨hm, hab⟩ | ⟨hm, hab⟩
  · rcases hback with ⟨hn, hba⟩ | ⟨hn, hba⟩ | ⟨hn, hba⟩
    · exact absurd hba hab.not_gt
    · exact absurd hba hab.ne'
    · omega
  · rcases hback with ⟨hn, hba⟩ | ⟨hn, hba⟩ | ⟨hn, hba⟩
    · exact absurd hab hba.ne'
    · omega
    · exact absurd hab hba.ne
  · rcases hback with ⟨hn, hba⟩ | ⟨hn, hba⟩ | ⟨hn, hba⟩
    · omega
    · exact absurd hba hab.ne
    · exact absurd hba hab.not_gt

theorem Tells.nonpos_iff {sign : ℤ} {a b : α} (htells : Tells sign a b) : sign ≤ 0 ↔ a ≤ b := by
  rcases htells with ⟨hsign, hlt⟩ | ⟨hsign, heq⟩ | ⟨hsign, hgt⟩
  · exact ⟨fun _ => hlt.le, fun _ => by omega⟩
  · exact ⟨fun _ => heq.le, fun _ => by omega⟩
  · exact ⟨fun _ => by omega, fun hle => absurd hgt hle.not_gt⟩

theorem Tells.eq_of_zero {a b : α} (htells : Tells 0 a b) : a = b := by
  rcases htells with ⟨hsign, _⟩ | ⟨_, heq⟩ | ⟨hsign, _⟩
  · omega
  · exact heq
  · omega

end Lexicographic

def TiedIdentifiers (bi : JsString) : Prop :=
  ai ≠ bi ∧ isNumeric ai ∧ isNumeric bi ∧ parseInt rounding ai = parseInt rounding bi

variable (a : List JsString) (b : List JsString)

def TiedLists : Prop :=
  ∃ common ai bi restA restB, a = common ++ ai :: restA ∧ b = common ++ bi :: restB ∧
    TiedIdentifiers rounding ai bi

structure Tied (a b : SemverMatch) : Prop where
  major : digitsValue a.major = digitsValue b.major
  minor : digitsValue a.minor = digitsValue b.minor
  patch : digitsValue a.patch = digitsValue b.patch
  identifiers : TiedLists rounding a.identifiers b.identifiers

theorem not_tiedLists_nil_left : ¬TiedLists rounding [] b := by
  rintro ⟨common, ai, bi, restA, restB, ha, _, _⟩
  exact absurd ha (by simp)

theorem not_tiedLists_nil_right : ¬TiedLists rounding a [] := by
  rintro ⟨common, ai, bi, restA, restB, _, hb, _⟩
  exact absurd hb (by simp)

theorem tiedLists_cons_self : TiedLists rounding (ai :: a) (ai :: b) ↔ TiedLists rounding a b := by
  constructor
  · rintro ⟨common, first, second, restA, restB, ha, hb, htied⟩
    cases common with
    | nil =>
      simp only [List.nil_append, List.cons.injEq] at ha hb
      exact absurd (ha.1.symm.trans hb.1) htied.1
    | cons head common =>
      simp only [List.cons_append, List.cons.injEq] at ha hb
      exact ⟨common, first, second, restA, restB, ha.2, hb.2, htied⟩
  · rintro ⟨common, first, second, restA, restB, rfl, rfl, htied⟩
    exact ⟨ai :: common, first, second, restA, restB, rfl, rfl, htied⟩

theorem tiedLists_cons_of_ne {ai bi : JsString} (hne : ai ≠ bi) (a b : List JsString) :
    TiedLists rounding (ai :: a) (bi :: b) ↔ TiedIdentifiers rounding ai bi := by
  constructor
  · rintro ⟨common, first, second, restA, restB, ha, hb, htied⟩
    cases common with
    | nil =>
      simp only [List.nil_append, List.cons.injEq] at ha hb
      rw [ha.1, hb.1]
      exact htied
    | cons head common =>
      simp only [List.cons_append, List.cons.injEq] at ha hb
      exact absurd (ha.1.trans hb.1.symm) hne
  · intro htied
    exact ⟨[], ai, bi, a, b, rfl, rfl, htied⟩

/-! ## The comparison and the precedence -/

theorem map_toNat_injective : Function.Injective (List.map UInt16.toNat) :=
  List.map_injective_iff.mpr fun _ _ => UInt16.toNat_inj.mp

theorem parseInt_lt_iff {a b : JsString} (hne : parseInt rounding a ≠ parseInt rounding b) :
    parseInt rounding a < parseInt rounding b ↔ digitsValue a < digitsValue b := by
  constructor
  · intro hlt
    exact rounding.monotone.reflect_lt hlt
  · intro hlt
    exact lt_of_le_of_ne (rounding.monotone hlt.le) hne

theorem digitsValue_ne_of_parseInt_ne {a b : JsString}
    (hne : parseInt rounding a ≠ parseInt rounding b) : digitsValue a ≠ digitsValue b :=
  fun heq => hne (congrArg rounding.toNumber heq)

theorem identifierRank_of_numeric {identifier : JsString} (hnumeric : isNumeric identifier = true) :
    identifierRank identifier = Sum.inlₗ (digitsValue identifier) :=
  if_pos hnumeric

theorem identifierRank_of_textual {identifier : JsString}
    (htextual : ¬isNumeric identifier = true) :
    identifierRank identifier = Sum.inrₗ (identifier.map toNat) :=
  if_neg htextual

theorem compareIdentifiers_tells {ai bi : JsString} (hne : ai ≠ bi)
    (htied : ¬TiedIdentifiers rounding ai bi) :
    identifierRank ai ≠ identifierRank bi ∧
      Tells (compareIdentifiers rounding ai bi) (identifierRank ai) (identifierRank bi) := by
  by_cases ha : isNumeric ai = true
  · by_cases hb : isNumeric bi = true
    · have hparsed : parseInt rounding ai ≠ parseInt rounding bi :=
        fun hsame => htied ⟨hne, ha, hb, hsame⟩
      have hvalue := digitsValue_ne_of_parseInt_ne rounding hparsed
      rw [identifierRank_of_numeric ha, identifierRank_of_numeric hb, compareIdentifiers,
        if_pos ⟨ha, hb⟩]
      simp only [parseInt_lt_iff rounding hparsed]
      refine ⟨fun hsame => hvalue (Sum.inl_injective hsame), ?_⟩
      exact (tells_ite hvalue).map Sum.Lex.inl_lt_inl_iff.mpr Sum.Lex.inl_lt_inl_iff.mpr
    · have hlt : (Sum.inlₗ (digitsValue ai) : ℕ ⊕ₗ List ℕ) <
          Sum.inrₗ (bi.map toNat) := Sum.Lex.inl_lt_inr _ _
      rw [identifierRank_of_numeric ha, identifierRank_of_textual hb, compareIdentifiers,
        if_neg (fun hboth => hb hboth.2), if_pos ⟨ha, hb⟩]
      exact ⟨hlt.ne, .inl ⟨rfl, hlt⟩⟩
  · by_cases hb : isNumeric bi = true
    · have hgt : (Sum.inlₗ (digitsValue bi) : ℕ ⊕ₗ List ℕ) <
          Sum.inrₗ (ai.map toNat) := Sum.Lex.inl_lt_inr _ _
      rw [identifierRank_of_textual ha, identifierRank_of_numeric hb, compareIdentifiers,
        if_neg (fun hboth => ha hboth.1), if_neg (fun hboth => ha hboth.1), if_pos ⟨ha, hb⟩]
      exact ⟨hgt.ne', .inr (.inr ⟨rfl, hgt⟩)⟩
    · have hunits : ai.map toNat ≠ bi.map toNat :=
        fun hsame => hne (map_toNat_injective hsame)
      rw [identifierRank_of_textual ha, identifierRank_of_textual hb, compareIdentifiers,
        if_neg (fun hboth => ha hboth.1), if_neg (fun hboth => ha hboth.1),
        if_neg (fun hboth => hb hboth.2)]
      simp only [isBefore, decide_eq_true_eq]
      refine ⟨fun hsame => hunits (Sum.inr_injective hsame), ?_⟩
      exact (tells_ite hunits).map Sum.Lex.inr_lt_inr_iff.mpr Sum.Lex.inr_lt_inr_iff.mpr

theorem compareIdentifierLists_tells {a b : List JsString} (htied : ¬TiedLists rounding a b) :
    Tells (compareIdentifierLists rounding a b) (a.map identifierRank) (b.map identifierRank) := by
  induction a, b using compareIdentifierLists.induct with
  | case1 => exact .inr (.inl ⟨rfl, rfl⟩)
  | case2 bi b =>
    have hlt : ([] : List (ℕ ⊕ₗ List ℕ)) < (bi :: b).map identifierRank := List.nil_lt_cons _ _
    exact .inl ⟨rfl, hlt⟩
  | case3 ai a =>
    have hgt : ([] : List (ℕ ⊕ₗ List ℕ)) < (ai :: a).map identifierRank := List.nil_lt_cons _ _
    exact .inr (.inr ⟨rfl, hgt⟩)
  | case4 bi a b ih =>
    rw [tiedLists_cons_self] at htied
    rw [compareIdentifierLists, if_pos rfl]
    exact tells_cons_of_tells_tail _ (ih htied)
  | case5 ai a bi b hne =>
    rw [tiedLists_cons_of_ne rounding hne] at htied
    obtain ⟨hrank, htells⟩ := compareIdentifiers_tells rounding hne htied
    rw [compareIdentifierLists, if_neg hne]
    exact tells_cons_of_tells_head hrank _ _ htells

theorem compareIdentifierLists_of_tied {a b : List JsString}
    (htied : TiedLists rounding a b) : compareIdentifierLists rounding a b = 1 := by
  induction a, b using compareIdentifierLists.induct with
  | case1 | case2 bi b =>
    exact absurd htied (not_tiedLists_nil_left rounding _)
  | case3 ai a => rfl
  | case4 bi a b ih =>
    rw [tiedLists_cons_self] at htied
    rw [compareIdentifierLists, if_pos rfl]
    exact ih htied
  | case5 ai a bi b hne =>
    rw [tiedLists_cons_of_ne rounding hne] at htied
    obtain ⟨_, ha, hb, hsame⟩ := htied
    rw [compareIdentifierLists, if_neg hne, compareIdentifiers, if_pos ⟨ha, hb⟩, hsame,
      if_neg (lt_irrefl _)]

theorem comparePrereleaseIdentifiers_tells {a b : Option (List JsString)}
    (htied : ¬TiedLists rounding (a.getD []) (b.getD [])) :
    Tells (comparePrereleaseIdentifiers rounding a b) (prereleaseRank (a.getD []))
      (prereleaseRank (b.getD [])) := by
  unfold comparePrereleaseIdentifiers prereleaseRank
  by_cases ha : a.getD [] = []
  · by_cases hb : b.getD [] = []
    · simp only [ha, hb, and_self, if_true]
      exact .inr (.inl ⟨rfl, rfl⟩)
    · simp only [ha, hb, and_false, if_false, if_true]
      exact .inr (.inr ⟨rfl, WithTop.coe_lt_top _⟩)
  · by_cases hb : b.getD [] = []
    · simp only [ha, hb, false_and, if_false, if_true]
      exact .inl ⟨rfl, WithTop.coe_lt_top _⟩
    · simp only [ha, hb, and_self, if_false]
      exact (compareIdentifierLists_tells rounding htied).map WithTop.coe_lt_coe.mpr
        WithTop.coe_lt_coe.mpr

theorem comparePrereleaseIdentifiers_of_tied {a b : Option (List JsString)}
    (htied : TiedLists rounding (a.getD []) (b.getD [])) :
    comparePrereleaseIdentifiers rounding a b = 1 := by
  have ha : a.getD [] ≠ [] := by
    intro hnil
    rw [hnil] at htied
    exact not_tiedLists_nil_left rounding _ htied
  have hb : b.getD [] ≠ [] := by
    intro hnil
    rw [hnil] at htied
    exact not_tiedLists_nil_right rounding _ htied
  unfold comparePrereleaseIdentifiers
  rw [if_neg (fun hboth => ha hboth.1), if_neg ha, if_neg hb]
  exact compareIdentifierLists_of_tied rounding htied

/-! ## Sets of versions -/

theorem parseInt_of_safe {digits : JsString} (hsafe : digitsValue digits < 2 ^ 53) :
    parseInt rounding digits = (digitsValue digits : ℕ∞) :=
  rounding.exact _ hsafe

namespace AcceptedVersion

def comparison (a b : AcceptedVersion) : Option ℤ :=
  compareComparableSemver rounding (a.parsed rounding) (b.parsed rounding)

theorem comparison_eq (a b : AcceptedVersion) : a.comparison rounding b = some
      (if digitsValue a.parts.major ≠ digitsValue b.parts.major then
        if digitsValue a.parts.major < digitsValue b.parts.major then -1 else 1
      else if digitsValue a.parts.minor ≠ digitsValue b.parts.minor then
        if digitsValue a.parts.minor < digitsValue b.parts.minor then -1 else 1
      else if digitsValue a.parts.patch ≠ digitsValue b.parts.patch then
        if digitsValue a.parts.patch < digitsValue b.parts.patch then -1 else 1
      else comparePrereleaseIdentifiers rounding (prereleaseIdentifiers a.parts)
        (prereleaseIdentifiers b.parts)) := by
  unfold comparison
  rw [parsed_eq, parsed_eq]
  simp [compareComparableSemver, SemverMatch.comparable, parseInt_of_safe rounding a.majorSafe, parseInt_of_safe rounding b.majorSafe, parseInt_of_safe rounding a.minorSafe, parseInt_of_safe rounding b.minorSafe, parseInt_of_safe rounding a.patchSafe, parseInt_of_safe rounding b.patchSafe, apply_ite some]

theorem comparison_tells {a b : AcceptedVersion} (htied : ¬Tied rounding a.parts b.parts) :
    ∃ sign, a.comparison rounding b = some sign ∧
      Tells sign a.parts.precedence b.parts.precedence := by
  refine ⟨_, comparison_eq rounding a b, ?_⟩
  unfold SemverMatch.precedence
  by_cases hmajor : digitsValue a.parts.major = digitsValue b.parts.major
  · rw [if_neg (not_not.mpr hmajor), hmajor]
    apply tells_toLex_of_tells_snd
    by_cases hminor : digitsValue a.parts.minor = digitsValue b.parts.minor
    · rw [if_neg (not_not.mpr hminor), hminor]
      apply tells_toLex_of_tells_snd
      by_cases hpatch : digitsValue a.parts.patch = digitsValue b.parts.patch
      · rw [if_neg (not_not.mpr hpatch), hpatch]
        apply tells_toLex_of_tells_snd
        apply comparePrereleaseIdentifiers_tells
        intro hlists
        exact htied ⟨hmajor, hminor, hpatch, hlists⟩
      · rw [if_pos hpatch]
        exact tells_toLex_of_tells_fst hpatch _ _ (tells_ite hpatch)
    · rw [if_pos hminor]
      exact tells_toLex_of_tells_fst hminor _ _ (tells_ite hminor)
  · rw [if_pos hmajor]
    exact tells_toLex_of_tells_fst hmajor _ _ (tells_ite hmajor)

theorem comparison_of_tied {a b : AcceptedVersion} (htied : Tied rounding a.parts b.parts) :
    a.comparison rounding b = some 1 := by
  rw [comparison_eq, if_neg (not_not.mpr htied.major), if_neg (not_not.mpr htied.minor),
    if_neg (not_not.mpr htied.patch)]
  exact congrArg some (comparePrereleaseIdentifiers_of_tied rounding htied.identifiers)

end AcceptedVersion

theorem TiedLists.symm {a b : List JsString} (htied : TiedLists rounding a b) :
    TiedLists rounding b a := by
  obtain ⟨common, ai, bi, restA, restB, ha, hb, hne, hai, hbi, hsame⟩ := htied
  exact ⟨common, bi, ai, restB, restA, hb, ha, hne.symm, hbi, hai, hsame.symm⟩

theorem Tied.symm {a b : SemverMatch} (htied : Tied rounding a b) : Tied rounding b a where
  major := htied.major.symm
  minor := htied.minor.symm
  patch := htied.patch.symm
  identifiers := htied.identifiers.symm

def SameIdentifier (bi : JsString) : Prop :=
  ai = bi ∨ (isNumeric ai ∧ isNumeric bi ∧ digitsValue ai = digitsValue bi)

structure SameVersion (a b : SemverMatch) : Prop where
  major : digitsValue a.major = digitsValue b.major
  minor : digitsValue a.minor = digitsValue b.minor
  patch : digitsValue a.patch = digitsValue b.patch
  identifiers : List.Forall₂ SameIdentifier a.identifiers b.identifiers

theorem sameIdentifier_of_rank {ai bi : JsString}
    (hrank : identifierRank ai = identifierRank bi) : SameIdentifier ai bi := by
  by_cases ha : isNumeric ai = true
  · rw [identifierRank_of_numeric ha] at hrank
    by_cases hb : isNumeric bi = true
    · rw [identifierRank_of_numeric hb] at hrank
      exact .inr ⟨ha, hb, Sum.inl_injective hrank⟩
    · rw [identifierRank_of_textual hb] at hrank
      cases hrank
  · rw [identifierRank_of_textual ha] at hrank
    by_cases hb : isNumeric bi = true
    · rw [identifierRank_of_numeric hb] at hrank
      cases hrank
    · rw [identifierRank_of_textual hb] at hrank
      exact .inl (map_toNat_injective (Sum.inr_injective hrank))

theorem sameIdentifiers_of_rank {a b : List JsString}
    (hrank : prereleaseRank a = prereleaseRank b) : List.Forall₂ SameIdentifier a b := by
  unfold prereleaseRank at hrank
  by_cases ha : a = []
  · by_cases hb : b = []
    · rw [ha, hb]
      exact List.Forall₂.nil
    · rw [if_pos ha, if_neg hb] at hrank
      exact absurd hrank.symm (WithTop.coe_ne_top)
  · by_cases hb : b = []
    · rw [if_neg ha, if_pos hb] at hrank
      exact absurd hrank (WithTop.coe_ne_top)
    · rw [if_neg ha, if_neg hb] at hrank
      have hmap := WithTop.coe_injective hrank
      rw [← List.forall₂_eq_eq_eq, List.forall₂_map_left_iff, List.forall₂_map_right_iff] at hmap
      exact hmap.imp fun _ _ => sameIdentifier_of_rank

theorem sameVersion_of_precedence {a b : SemverMatch} (hsame : a.precedence = b.precedence) :
    SameVersion a b := by
  have hparts := toLex_inj.mp hsame
  rw [Prod.mk.injEq, toLex_inj, Prod.mk.injEq, toLex_inj, Prod.mk.injEq] at hparts
  obtain ⟨hmajor, hminor, hpatch, hrank⟩ := hparts
  exact ⟨hmajor, hminor, hpatch, sameIdentifiers_of_rank hrank⟩

/-- The comparison is a total order of the versions, that of their precedence. -/
structure IsTotalOrder (versions : Set AcceptedVersion) : Prop where
  antisymmetric : ∀ a ∈ versions, ∀ b ∈ versions,
    a.comparison rounding b = (b.comparison rounding a).map (- ·)
  transitive : ∀ a ∈ versions, ∀ b ∈ versions, ∀ c ∈ versions, ∀ first second both,
    a.comparison rounding b = some first → b.comparison rounding c = some second →
      a.comparison rounding c = some both → first ≤ 0 → second ≤ 0 → both ≤ 0
  zero : ∀ a ∈ versions, ∀ b ∈ versions,
    a.comparison rounding b = some 0 → SameVersion a.parts b.parts
  precedence : ∀ a ∈ versions, ∀ b ∈ versions, ∃ sign, a.comparison rounding b = some sign ∧
      Tells sign a.parts.precedence b.parts.precedence

/-- Versions are totally ordered by their precedence if and only if no two of them tie. -/
theorem isTotalOrder_iff (versions : Set AcceptedVersion) : IsTotalOrder rounding versions ↔
      ∀ a ∈ versions, ∀ b ∈ versions, ¬Tied rounding a.parts b.parts := by
  constructor
  · intro horder a ha b hb htied
    have hopposite := horder.antisymmetric a ha b hb
    rw [AcceptedVersion.comparison_of_tied rounding htied,
      AcceptedVersion.comparison_of_tied rounding htied.symm] at hopposite
    exact absurd hopposite (by decide)
  · intro hfree
    have htells := fun a ha b hb =>
      AcceptedVersion.comparison_tells rounding (hfree a ha b hb)
    refine ⟨?_, ?_, ?_, htells⟩
    · intro a ha b hb
      obtain ⟨sign, hsign, hab⟩ := htells a ha b hb
      obtain ⟨back, hback, hba⟩ := htells b hb a ha
      rw [hsign, hback, hab.eq_neg hba]
      rfl
    · intro a ha b hb c hc first second both hfirst hsecond hboth hab hbc
      obtain ⟨sign, hsign, htellsAB⟩ := htells a ha b hb
      cases hsign.symm.trans hfirst
      obtain ⟨sign, hsign, htellsBC⟩ := htells b hb c hc
      cases hsign.symm.trans hsecond
      obtain ⟨sign, hsign, htellsAC⟩ := htells a ha c hc
      cases hsign.symm.trans hboth
      rw [htellsAB.nonpos_iff] at hab
      rw [htellsBC.nonpos_iff] at hbc
      exact htellsAC.nonpos_iff.mpr (hab.trans hbc)
    · intro a ha b hb hzero
      obtain ⟨sign, hsign, hab⟩ := htells a ha b hb
      cases hsign.symm.trans hzero
      exact sameVersion_of_precedence hab.eq_of_zero

def exactRounding : Rounding where
  toNumber := fun value => value
  exact := fun _ _ => rfl
  monotone := Nat.mono_cast

def leadingZero : AcceptedVersion where
  version := js "1.0.0-01"
  normalizeLegacyDotBeta := false
  parts := ⟨js "1", js "0", js "0", some (js "01")⟩
  matched := by decide
  majorSafe := by decide
  minorSafe := by decide
  patchSafe := by decide

def noLeadingZero : AcceptedVersion where
  version := js "1.0.0-1"
  normalizeLegacyDotBeta := false
  parts := ⟨js "1", js "0", js "0", some (js "1")⟩
  matched := by decide
  majorSafe := by decide
  minorSafe := by decide
  patchSafe := by decide

theorem leading_zero_breaks_order : leadingZero.comparison exactRounding noLeadingZero = some 1 ∧
      noLeadingZero.comparison exactRounding leadingZero = some 1 ∧
      ¬IsTotalOrder exactRounding Set.univ := by
  have htied : Tied exactRounding leadingZero.parts noLeadingZero.parts :=
    ⟨rfl, rfl, rfl, [], js "01", js "1", [], [], by decide, by decide,
      by decide, by decide, by decide, by decide⟩
  have hfirst := AcceptedVersion.comparison_of_tied exactRounding htied
  have hsecond := AcceptedVersion.comparison_of_tied exactRounding htied.symm
  refine ⟨hfirst, hsecond, ?_⟩
  intro horder
  have hopposite := horder.antisymmetric leadingZero trivial noLeadingZero trivial
  exact absurd hopposite (by decide)

end LittleBaby.Semver
