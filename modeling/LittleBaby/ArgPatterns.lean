import LittleBaby.ExecAnalysis
import LittleBaby.RegExpPatterns

/-!
# Stored argument patterns

On Windows an approval remembers the arguments of a command as an anchored
pattern in which a NUL follows every argument.  No argument at all is stored as
two NULs, and so are two empty arguments.
-/

namespace LittleBaby.Exec

open JsString RegExpPatterns

/-- The host, with the patterns that `RegExpPatterns` does not read: `none` is a
pattern that the constructor refuses. -/
structure PatternHost extends Host where
  otherRegExp : JsString → Option (JsString → Bool)

variable (host : PatternHost)

/-- `new RegExp(pattern)`, as its `test`. -/
def PatternHost.newRegExp (pattern : JsString) : Option (JsString → Bool) :=
  match parse pattern with
  | some terms => some (test terms)
  | none => host.otherRegExp pattern

variable (text : JsString)

/-- The text with every `/` replaced by a backslash. -/
def backslashed : JsString := text.map fun unit => if unit = 0x2F then 0x5C else unit

def escapeRegExpLiteral (input : JsString) : JsString := escape input

def buildArgPatternFromArgv (argv : Argv) (platform : Option JsString) : Option JsString :=
  if !isWindowsPlatform host.toHost (some (platform.getD host.platform)) then none
  else
    let args := argv.drop 1
    let normalized := args.map backslashed
    if normalized.length = 0 then some [0x5E, 0, 0, 0x24]
    else
      let joined := join [0] normalized
      some ([0x5E] ++ escapeRegExpLiteral joined ++ [0, 0x24])

def redirections : List JsString :=
  [js "1>&1", js "1>&2", js "2>&1", js "2>&2", js "1>/dev/null", js "2>/dev/null"]

def stripTrailingRedirection (value : JsString) : JsString :=
  let body := value.rdropWhile isSpace
  match redirections.find? fun redirection => redirection.isSuffixOf body with
  | none => value
  | some redirection =>
    let before := body.take (body.length - redirection.length)
    let kept := before.rdropWhile isSpace
    if kept = before then value else kept

theorem length_stripTrailingRedirection_lt {value : JsString}
    (hchanged : stripTrailingRedirection value ≠ value) :
    (stripTrailingRedirection value).length < value.length := by
  unfold stripTrailingRedirection at hchanged ⊢
  cases hfind : redirections.find? fun redirection =>
      redirection.isSuffixOf (value.rdropWhile isSpace) with
  | none =>
    simp only [hfind] at hchanged
    exact absurd rfl hchanged
  | some redirection =>
    simp only [hfind] at hchanged ⊢
    have hlength : ∀ member ∈ redirections, 0 < member.length := by decide
    have hpositive := hlength redirection (List.mem_of_find?_eq_some hfind)
    have hsuffix : redirection.isSuffixOf (value.rdropWhile isSpace) = true := by
      simpa using List.find?_some hfind
    have hfits := (List.isSuffixOf_iff_suffix.mp hsuffix).length_le
    have hbody := (List.rdropWhile_prefix isSpace value).length_le
    split_ifs at hchanged ⊢ with hkept
    · exact absurd rfl hchanged
    · have hkept := (List.rdropWhile_prefix isSpace ((value.rdropWhile isSpace).take
          ((value.rdropWhile isSpace).length - redirection.length))).length_le
      rw [List.length_take] at hkept
      omega

def stripTrailingRedirections (value : JsString) : JsString :=
  if _hnext : stripTrailingRedirection value = value then value
  else stripTrailingRedirections (stripTrailingRedirection value)
termination_by value.length
decreasing_by exact length_stripTrailingRedirection_lt _hnext

def matchArgPattern (argPattern : JsString) (argv : Argv) (platform : Option JsString) : Bool :=
  let sep : JsString := if includes argPattern [0] then [0] else js " "
  let argsSlice := argv.drop 1
  let argsString :=
    if sep = [0] then
      if argsSlice.length = 0 then [0, 0] else join sep argsSlice ++ sep
    else join sep argsSlice
  match host.newRegExp argPattern with
  | none => false
  | some test =>
    let normalized := backslashed argsString
    let stripped := stripTrailingRedirections argsString
    test argsString || (isWindowsPlatform host.toHost (some (platform.getD host.platform)) &&
        (normalized != argsString && test normalized)) ||
      (sep == js " " && (stripped != argsString && test stripped))

def terminated (args : List JsString) : JsString := args.flatMap (· ++ [0])

theorem terminated_cons (arg : JsString) (args : List JsString) :
    terminated (arg :: args) = arg ++ 0 :: terminated args := by
  simp [terminated]

variable {args : List JsString}

theorem join_append_terminator (hargs : args ≠ []) : join [0] args ++ [0] = terminated args := by
  induction args with
  | nil => contradiction
  | cons first rest ih =>
    cases rest with
    | nil => simp [join, terminated]
    | cons second rest =>
      rw [terminated_cons, ← ih (by simp)]
      simp [join]

theorem append_zero_inj {text other rest others : JsString}
    (htext : (0 : UInt16) ∉ text) (hother : (0 : UInt16) ∉ other)
    (hsame : text ++ 0 :: rest = other ++ 0 :: others) :
    text = other ∧ rest = others := by
  rcases List.append_eq_append_iff.mp hsame with
    ⟨between, rfl, hrest⟩ | ⟨between, rfl, hrest⟩
  all_goals cases between with
    | nil => simpa [eq_comm] using hrest
    | cons first between =>
      obtain ⟨rfl, -⟩ := List.cons.inj hrest
      simp at htext hother

variable {others : List JsString}

theorem terminated_injective (hargs : ∀ arg ∈ args, 0 ∉ arg) (hothers : ∀ arg ∈ others, 0 ∉ arg)
    (hsame : terminated args = terminated others) : args = others := by
  induction args generalizing others with
  | nil =>
    cases others with
    | nil => rfl
    | cons other others => simp [terminated] at hsame
  | cons arg args ih =>
    cases others with
    | nil => simp [terminated] at hsame
    | cons other others =>
      rw [terminated_cons, terminated_cons] at hsame
      have harg := hargs arg (by simp)
      have hother := hothers other (by simp)
      obtain ⟨rfl, hrest⟩ := append_zero_inj harg hother hsame
      rw [ih (fun arg hmem => hargs arg (by simp [hmem]))
        (fun arg hmem => hothers arg (by simp [hmem])) hrest]

theorem backslashed_backslashed : backslashed (backslashed text) = backslashed text := by
  unfold backslashed
  rw [List.map_map]
  apply List.map_congr_left
  intro unit hunit
  by_cases hslash : unit = 0x2F <;> simp [hslash]

theorem backslashed_terminated (args : List JsString) :
    backslashed (terminated args) = terminated (args.map backslashed) := by
  induction args with
  | nil => rfl
  | cons arg args ih =>
    rw [terminated_cons, List.map_cons, terminated_cons, ← ih]
    simp [backslashed]

theorem zero_notMem_backslashed {text : JsString} (htext : (0 : UInt16) ∉ text) :
    (0 : UInt16) ∉ backslashed text := by
  intro hmem
  obtain ⟨unit, hunit, hzero⟩ := List.mem_map.mp hmem
  by_cases hslash : unit = 0x2F
  · simp [hslash] at hzero
  · rw [if_neg hslash] at hzero
    exact htext (hzero ▸ hunit)

def argsText (args : List JsString) : JsString :=
  if args = [] then [0, 0] else terminated args

theorem backslashed_argsText (args : List JsString) :
    backslashed (argsText args) = argsText (args.map backslashed) := by
  cases args with
  | nil => decide
  | cons arg args => simp [argsText, backslashed_terminated]

theorem parse_stored : parse ([0x5E] ++ escape text ++ [0x24]) =
      some (.start :: (text.map .unit ++ [.finish])) := by
  rw [List.append_assoc, List.singleton_append, parse_start, parse_escape_append]
  rfl

section Stored

variable {host} {platform : Option JsString}
  (hwindows : isWindowsPlatform host.toHost (some (platform.getD host.platform)) = true)
include hwindows

theorem buildArgPatternFromArgv_eq (argv : Argv) :
    buildArgPatternFromArgv host argv platform = some ([0x5E] ++ escape
        (argsText ((argv.drop 1).map backslashed)) ++ [0x24]) := by
  unfold buildArgPatternFromArgv
  rw [hwindows]
  simp only [Bool.not_true, Bool.false_eq_true, if_false, List.length_eq_zero_iff]
  split_ifs with hnone
  · rw [hnone]
    decide
  · unfold argsText escapeRegExpLiteral
    rw [if_neg hnone, ← join_append_terminator hnone]
    simp [escape]
    decide

theorem matchArgPattern_stored (argv : Argv) : matchArgPattern host ([0x5E] ++ escape
        (argsText (args.map backslashed)) ++ [0x24]) argv platform = true ↔
      argsText ((argv.drop 1).map backslashed) = argsText (args.map backslashed) := by
  have hzero : includes ([0x5E] ++ escape
      (argsText (args.map backslashed)) ++ [0x24]) [0] = true := by
    have hmem : (0 : UInt16) ∈ argsText (args.map backslashed) := by
      cases args with
      | nil => decide
      | cons arg args => simp [argsText, terminated_cons]
    have hescaped : (0 : UInt16) ∈ escape (argsText (args.map backslashed)) := by
      apply List.mem_flatMap.mpr
      exact ⟨0, hmem, by decide⟩
    unfold includes
    rw [decide_eq_true_iff, List.singleton_infix_iff]
    simp [hescaped]
  have hstring : (if (argv.drop 1).length = 0 then [0, 0]
      else join [0] (argv.drop 1) ++ [0]) = argsText (argv.drop 1) := by
    unfold argsText
    simp only [List.length_eq_zero_iff]
    split_ifs with hnone
    · rfl
    · exact join_append_terminator hnone
  have hfixed : backslashed (argsText (args.map backslashed)) =
      argsText (args.map backslashed) := by
    rw [← backslashed_argsText, backslashed_backslashed]
  have hspace : ([0] : JsString) ≠ js " " := by decide
  unfold matchArgPattern PatternHost.newRegExp
  rw [parse_stored]
  simp only [hzero, if_true, hstring, hwindows, test_anchored,
    Bool.true_and, Bool.or_eq_true, Bool.and_eq_true, decide_eq_true_eq, beq_iff_eq,
    bne_iff_ne, hspace, false_and, or_false, ← backslashed_argsText (argv.drop 1)]
  constructor
  · rintro (hsame | ⟨-, hsame⟩)
    · rw [hsame]
      exact hfixed
    · exact hsame
  · intro hsame
    by_cases hkept : backslashed (argsText (argv.drop 1)) = argsText (argv.drop 1)
    · exact .inl (hkept ▸ hsame)
    · exact .inr ⟨hkept, hsame⟩

end Stored

def Confused (args others : List JsString) : Prop :=
  (args = [] ∧ others = [[], []]) ∨ (args = [[], []] ∧ others = [])

theorem terminated_eq_two_iff (hargs : ∀ arg ∈ args, 0 ∉ arg) :
    terminated args = [0, 0] ↔ args = [[], []] := by
  have htwo : terminated [[], []] = [0, 0] := rfl
  rw [← htwo]
  constructor
  · exact terminated_injective hargs (by simp)
  · exact congrArg terminated

theorem argsText_eq_iff (hargs : ∀ arg ∈ args, 0 ∉ arg) (hothers : ∀ arg ∈ others, 0 ∉ arg) :
    argsText args = argsText others ↔ args = others ∨ Confused args others := by
  unfold argsText Confused
  split_ifs with hnone hothernone hothernone
  · simp [hnone, hothernone]
  · rw [eq_comm, terminated_eq_two_iff hothers]
    simp [hnone, Ne.symm hothernone]
  · rw [terminated_eq_two_iff hargs]
    simp [hnone, hothernone]
  · simp only [hnone, hothernone, false_and, and_false, or_false]
    exact ⟨terminated_injective hargs hothers, congrArg terminated⟩

theorem confused_backslashed : Confused (args.map backslashed) (others.map backslashed) ↔
      Confused args others := by
  have htwo : ∀ list : List JsString, list.map backslashed = [[], []] ↔ list = [[], []] := by
    intro list
    simp [List.map_eq_cons_iff, backslashed]
  simp [Confused, htwo]

theorem not_confused_self (args : List JsString) : ¬ Confused args args := by
  rintro (⟨rfl, htwo⟩ | ⟨rfl, hnone⟩)
  · exact absurd htwo (by simp)
  · exact absurd hnone (by simp)

/-- The pattern of a command tells its arguments from all others, unless one of
the two has none and the other two empty ones. -/
theorem stored_pattern_identifies (host : PatternHost) (platform : Option JsString)
    (hwindows : isWindowsPlatform host.toHost (some (platform.getD host.platform)) = true)
    (argv other : Argv) (hargv : ∀ arg ∈ argv, 0 ∉ arg)
    (hother : ∀ arg ∈ other, 0 ∉ arg) :
    ∃ pattern, buildArgPatternFromArgv host argv platform = some pattern ∧
      ((matchArgPattern host pattern other platform = true ↔
          (other.drop 1).map backslashed = (argv.drop 1).map backslashed) ↔
        ¬ Confused (argv.drop 1) (other.drop 1)) := by
  refine ⟨_, buildArgPatternFromArgv_eq hwindows argv, ?_⟩
  have hkept : ∀ {list : Argv}, (∀ arg ∈ list, (0 : UInt16) ∉ arg) →
      ∀ arg ∈ (list.drop 1).map backslashed, (0 : UInt16) ∉ arg := by
    intro list hlist arg hmem
    obtain ⟨text, htext, rfl⟩ := List.mem_map.mp hmem
    exact zero_notMem_backslashed (hlist text (List.mem_of_mem_drop htext))
  rw [matchArgPattern_stored hwindows, argsText_eq_iff (hkept hother) (hkept hargv),
    confused_backslashed]
  have hsymm : Confused (other.drop 1) (argv.drop 1) ↔ Confused (argv.drop 1) (other.drop 1) := by
    unfold Confused
    tauto
  rw [hsymm]
  constructor
  · intro hclaim hconfused
    have hsame := hclaim.mp (.inr hconfused)
    rw [← confused_backslashed, hsame] at hconfused
    exact not_confused_self _ hconfused
  · intro hclear
    exact or_iff_left hclear

def winHost : PatternHost where
  lowerTable unit := [unit]
  platform := js "win32"
  cwd := js "C:\\"
  processHome := none
  home := none
  pathEnv := []
  isExecutableFile _ := false
  otherRegExp _ := none

theorem stored_pattern_identifies_path :
    ∃ pattern, buildArgPatternFromArgv winHost [js "tool", js "a/b", []] none = some pattern ∧
      ((matchArgPattern winHost pattern [js "tool", js "a\\b", []] none = true ↔
          [js "a\\b", []].map backslashed = [js "a/b", []].map backslashed) ↔
        ¬ Confused [js "a/b", []] [js "a\\b", []]) :=
  stored_pattern_identifies winHost none (by decide)
    [js "tool", js "a/b", []] [js "tool", js "a\\b", []] (by decide)
    (by decide)

theorem no_arguments_match_two_empty :
    isWindowsPlatform winHost.toHost (some winHost.platform) = true ∧
      ∃ pattern, buildArgPatternFromArgv winHost [js "tool"] none = some pattern ∧
        matchArgPattern winHost pattern [js "tool", [], []] none = true ∧
        ([[], []] : List JsString).map backslashed ≠ [] := by
  refine ⟨by decide, [0x5E, 0, 0, 0x24], by decide, ?_, by decide⟩
  decide

end LittleBaby.Exec
