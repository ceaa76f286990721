import LittleBaby.ExecPrelude

/-!
# The command that a shell runs

A POSIX shell reads its options up to the first operand, which is the command
string under `-c`.
-/

namespace LittleBaby.Exec

open JsString

/-- `-` or `--`, after which no option is read. -/
def endsOptions (arg : JsString) : Bool := arg == js "-" || arg == js "--"

def isOption (arg : JsString) : Bool :=
  (arg.head? == some 0x2D || arg.head? == some 0x2B) && !endsOptions arg

def isOperand (arg : JsString) : Bool := !isOption arg && !endsOptions arg

def isCluster (option : JsString) : Bool :=
  option.head? == some 0x2D && option.tail.head? != some 0x2D

def isOptionLetter (unit : UInt16) : Bool :=
  (0x30 ≤ unit && unit ≤ 0x39) || (0x41 ≤ unit && unit ≤ 0x5A) || (0x61 ≤ unit && unit ≤ 0x7A)

/-- A shell by its options: how many of the arguments behind an option belong to
it, for an option that the shell accepts, and whether `--command` is one like
`-c`. -/
structure PosixShell where
  optionArguments : JsString → Option ℕ
  longCommand : Bool
  letters : ∀ option, isCluster option = true → (optionArguments option).isSome = true →
      ∀ unit ∈ option.tail, isOptionLetter unit = true

/-- The options read so far: the arguments that the last one still takes, and
whether one asks for a command string. -/
structure OptionState where
  pending : ℕ
  hasCommand : Bool

namespace PosixShell

variable (shell : PosixShell)

def setsCommand (option : JsString) : Bool :=
  (isCluster option && option.contains 0x63) || (shell.longCommand && option == js "--command")

def stepOption (state : OptionState) (arg : JsString) : Option OptionState :=
  match state.pending with
  | pending + 1 => some { state with pending := pending }
  | 0 =>
    if !isOption arg then none
    else
      (shell.optionArguments arg).map fun count =>
        ⟨count, state.hasCommand || shell.setsCommand arg⟩

/-- The command string with its position, for the arguments from `index` on. -/
def readArguments : ℕ → OptionState → Argv → Option (ℕ × JsString)
  | _, _, [] => none
  | index, state, arg :: rest =>
    match shell.stepOption state arg with
    | some next => readArguments (index + 1) next rest
    | none =>
      if !state.hasCommand then none
      else if endsOptions arg then
        rest.head?.map fun command => (index + 1, command)
      else if isOperand arg then some (index, arg)
      else none

def commandOperand (argv : Argv) : Option (ℕ × JsString) :=
  shell.readArguments 1 ⟨0, false⟩ argv.tail

def commandString (argv : Argv) : Option JsString := (shell.commandOperand argv).map Prod.snd

variable {shell}

variable {state : OptionState}

theorem readArguments_append {before : Argv} {next : OptionState}
    (hbefore : before.foldlM shell.stepOption state = some next) (index : ℕ)
    (rest : Argv) :
    shell.readArguments index state (before ++ rest) =
      shell.readArguments (index + before.length) next rest := by
  induction before generalizing index state with
  | nil =>
    cases hbefore
    rfl
  | cons arg before ih =>
    obtain ⟨middle, hstep, hbefore⟩ := Option.bind_eq_some_iff.mp hbefore
    have htail := ih hbefore (index + 1)
    rw [List.cons_append, readArguments, hstep]
    dsimp only
    rw [htail, List.length_cons, Nat.add_right_comm, Nat.add_assoc]

theorem stepOption_eq_none {arg : JsString}
    (hstep : shell.stepOption state arg = none) : state.pending = 0 := by
  unfold stepOption at hstep
  split at hstep
  next => simp at hstep
  next hpending => exact hpending

theorem readArguments_eq_some {args : Argv} {index position : ℕ} {command : JsString}
    (hread : shell.readArguments index state args = some (position, command)) :
    ∃ before, before.foldlM shell.stepOption state = some ⟨0, true⟩ ∧
      ((isOperand command = true ∧ position = index + before.length ∧
          ∃ rest, args = before ++ command :: rest) ∨
        (position = index + before.length + 1 ∧ ∃ stop rest, endsOptions stop = true ∧
            args = before ++ stop :: command :: rest)) := by
  induction args generalizing index state with
  | nil => simp [readArguments] at hread
  | cons arg rest ih =>
    rw [readArguments] at hread
    cases hstep : shell.stepOption state arg with
    | some next =>
      rw [hstep] at hread
      obtain ⟨before, hbefore, hplace⟩ := ih hread
      refine ⟨arg :: before, by simpa [hstep] using hbefore, ?_⟩
      rcases hplace with ⟨hoperand, hposition, others, rfl⟩ | ⟨hposition, stop, others, hstop, rfl⟩
      · left
        refine ⟨hoperand, ?_, others, rfl⟩
        rw [List.length_cons]
        omega
      · right
        refine ⟨?_, stop, others, hstop, rfl⟩
        rw [List.length_cons]
        omega
    | none =>
      rw [hstep] at hread
      have hpending := stepOption_eq_none hstep
      have hcommand : state.hasCommand = true := by
        by_contra hnot
        simp [hnot] at hread
      have hstate : state = ⟨0, true⟩ := by
        cases state
        simp_all
      refine ⟨[], by simp [hstate], ?_⟩
      simp only [hcommand, Bool.not_true, Bool.false_eq_true, if_false] at hread
      split_ifs at hread with hends hoperand
      · obtain ⟨value, hvalue, hpair⟩ := Option.map_eq_some_iff.mp hread
        cases hpair
        obtain ⟨others, rfl⟩ := List.head?_eq_some_iff.mp hvalue
        exact .inr ⟨by simp, arg, others, hends, rfl⟩
      · cases hread
        exact .inl ⟨hoperand, by simp, rest, rfl⟩

end PosixShell

variable (host : PolicyHost)

def isInlineFlag (arg : JsString) : Bool :=
  let token := trim arg
  let lower := host.normalizeLowercaseStringOrEmpty token
  token ≠ [] && lower ≠ js "--" &&
    (isAnyOf lower posixInlineCommandFlags || isCombinedC token)

def isPassedOver (arg : JsString) : Bool :=
  let token := trim arg
  let lower := host.normalizeLowercaseStringOrEmpty token
  token = [] || (lower ≠ js "--" && !isAnyOf lower posixInlineCommandFlags &&
    !isCombinedC token)

def inlineText (arg : JsString) : Option JsString :=
  let token := trim arg
  let lower := host.normalizeLowercaseStringOrEmpty token
  if isAnyOf lower posixInlineCommandFlags then none
  else nonBlank (token.drop (lower.findIdx (· == 0x63) + 1))

def flagMatch (index : ℕ) (flag : JsString) (rest : Argv) : InlineCommandMatch :=
  match inlineText host flag with
  | some inline => ⟨some inline, some index⟩
  | none => nextArgumentMatch (index + 1) rest

variable {before : Argv}

theorem findInlineCommand_passedOver
    (hbefore : before.all (isPassedOver host) = true) (index : ℕ) (rest : Argv) :
    findInlineCommand host.toHost posixInlineCommandFlags true index (before ++ rest) =
      findInlineCommand host.toHost posixInlineCommandFlags true (index + before.length) rest := by
  induction before generalizing index with
  | nil => rfl
  | cons arg before ih =>
    rw [List.all_cons, Bool.and_eq_true] at hbefore
    have htail := ih hbefore.2 (index + 1)
    have hpassed := hbefore.1
    simp only [isPassedOver, Bool.or_eq_true, Bool.and_eq_true,
      decide_eq_true_eq, Bool.not_eq_true'] at hpassed
    rw [List.cons_append, findInlineCommand, List.length_cons]
    have hindex : index + (before.length + 1) = index + 1 + before.length := by
      omega
    rw [hindex, ← htail]
    rcases hpassed with hnil | ⟨⟨hends, hflag⟩, hcombined⟩
    · simp [hnil]
    · simp [hends, hflag, hcombined]

variable {flag : JsString}

theorem findInlineCommand_flag (hflag : isInlineFlag host flag = true) (index : ℕ) (rest : Argv) :
    findInlineCommand host.toHost posixInlineCommandFlags true index
      (flag :: rest) = flagMatch host index flag rest := by
  simp only [isInlineFlag, Bool.and_eq_true, decide_eq_true_eq, Bool.or_eq_true] at hflag
  obtain ⟨⟨hne, hends⟩, hkind⟩ := hflag
  rw [findInlineCommand, flagMatch, inlineText]
  simp only [if_neg hne, if_neg hends]
  by_cases hlisted : isAnyOf (host.normalizeLowercaseStringOrEmpty (trim flag))
      posixInlineCommandFlags = true
  · simp only [if_pos hlisted]
  · have hcombined := hkind.resolve_left hlisted
    simp only [if_neg hlisted, hcombined, Bool.true_and, if_true] <;> rfl

variable {index : ℕ} {command : JsString}

theorem exists_flag_of_findInlineCommand {args : Argv}
    (hfind : (findInlineCommand host.toHost posixInlineCommandFlags true index
      args).command = some command) :
    ∃ before flag rest, args = before ++ flag :: rest ∧
      before.all (isPassedOver host) = true ∧ isInlineFlag host flag = true := by
  induction args generalizing index with
  | nil => simp [findInlineCommand] at hfind
  | cons arg args ih =>
    by_cases hpassed : isPassedOver host arg = true
    · have hstep := @findInlineCommand_passedOver host [arg] (by simpa using hpassed) index args
      rw [List.singleton_append] at hstep
      rw [hstep] at hfind
      obtain ⟨before, flag, rest, rfl, hbefore, hflag⟩ := ih hfind
      exact ⟨arg :: before, flag, rest, rfl, by simp [hpassed, hbefore], hflag⟩
    · refine ⟨[], arg, args, rfl, rfl, ?_⟩
      have hends : host.normalizeLowercaseStringOrEmpty (trim arg) ≠ js "--" := by
        intro hends
        by_cases hnil : trim arg = []
        · simp [isPassedOver, hnil] at hpassed
        · simp [findInlineCommand, hnil, hends] at hfind
      simp only [isPassedOver, Bool.or_eq_true, Bool.and_eq_true,
        decide_eq_true_eq, Bool.not_eq_true', not_or] at hpassed
      obtain ⟨hne, hkind⟩ := hpassed
      simp [isInlineFlag, hne, hends]
      by_contra hneither
      rw [not_or] at hneither
      exact hkind ⟨⟨hends, by simpa using hneither.1⟩, by simpa using hneither.2⟩

theorem isSpace_of_isOptionLetter {unit : UInt16}
    (hletter : isOptionLetter unit = true) : isSpace unit = false := by
  by_contra hspace
  rw [Bool.not_eq_false] at hspace
  unfold isSpace at hspace
  simp only [List.mem_cons, List.not_mem_nil, or_false, decide_eq_true_eq] at hspace
  rcases hspace with h | h | h | h | h | h | h | h | h | h | h | h | h | h | h |
    h | h | h | h | h | h | h | h | h | h <;>
  · subst h
    exact absurd hletter (by decide)

theorem mem_normalizeLowercase_of_mem {text : JsString} (hmem : 0x63 ∈ text) :
    0x63 ∈ host.normalizeLowercaseStringOrEmpty text := by
  by_contra hnot
  exact not_mem_of_normalizeLowercase host.toHost (by decide) (by decide) (by decide) hnot hmem

variable {arg : JsString} {shell : PosixShell}

theorem isInlineFlag_of_setsCommand (haccepted : (shell.optionArguments arg).isSome = true)
    (hcommand : shell.setsCommand arg = true) : isInlineFlag host arg = true := by
  unfold PosixShell.setsCommand at hcommand
  rw [Bool.or_eq_true, Bool.and_eq_true, Bool.and_eq_true] at hcommand
  rcases hcommand with ⟨hcluster, hletter⟩ | ⟨-, hlong⟩
  · have hletters := shell.letters arg hcluster haccepted
    unfold isCluster at hcluster
    simp only [Bool.and_eq_true, beq_iff_eq] at hcluster
    obtain ⟨letters, rfl⟩ := List.head?_eq_some_iff.mp hcluster.1
    have hmem : 0x63 ∈ letters := by simpa using hletter
    have htrim : trim (0x2D :: letters) = 0x2D :: letters := by
      apply trim_eq_self
      intro unit hunit
      rcases List.mem_cons.mp hunit with rfl | hunit
      · decide
      · exact isSpace_of_isOptionLetter (hletters unit hunit)
    have hends : host.normalizeLowercaseStringOrEmpty (0x2D :: letters) ≠ js "--" := by
      intro hends
      have hfound := mem_normalizeLowercase_of_mem host (List.mem_cons_of_mem 0x2D hmem)
      rw [hends] at hfound
      exact absurd hfound (by decide)
    have hdash : 0x2D ∉ letters := by
      intro hdash
      exact absurd (hletters 0x2D hdash) (by decide)
    have hcombined : isCombinedC (0x2D :: letters) = true := by
      simp [isCombinedC]
      exact ⟨by simpa using hdash, 0x63, hmem, by decide⟩
    simp [isInlineFlag, htrim, hends, hcombined]
  · obtain rfl : arg = js "--command" := by simpa using hlong
    have hlower : host.normalizeLowercaseStringOrEmpty (js "--command") =
        js "--command" := by
      rfl
    have htrim : trim (js "--command") = js "--command" := by decide
    rw [isInlineFlag, htrim, hlower]
    decide

theorem isPassedOver_eq_false
    (hflag : isInlineFlag host arg = true) : isPassedOver host arg = false := by
  simp only [isInlineFlag, Bool.and_eq_true, decide_eq_true_eq, Bool.or_eq_true] at hflag
  obtain ⟨⟨hne, hends⟩, hkind⟩ := hflag
  simp [isPassedOver, hne]
  rcases hkind with hlisted | hcombined
  · simp [hlisted]
  · simp [hcombined]

theorem stepOption_passedOver {state next : OptionState} (hpassed : isPassedOver host arg = true)
    (hstep : shell.stepOption state arg = some next) :
    next.hasCommand = state.hasCommand := by
  unfold PosixShell.stepOption at hstep
  split at hstep
  next =>
      cases hstep
      rfl
  next =>
      split_ifs at hstep
      obtain ⟨count, hcount, rfl⟩ := Option.map_eq_some_iff.mp hstep
      cases hcommand : shell.setsCommand arg with
      | false => simp
      | true =>
        have hflag := isInlineFlag_of_setsCommand host
          (Option.isSome_iff_exists.mpr ⟨count, hcount⟩) hcommand
        rw [isPassedOver_eq_false host hflag] at hpassed
        exact absurd hpassed (by simp)

theorem foldlM_passedOver {state next : OptionState}
    (hbefore : before.all (isPassedOver host) = true)
    (hread : before.foldlM shell.stepOption state = some next) :
    next.hasCommand = state.hasCommand := by
  induction before generalizing state with
  | nil =>
    cases hread
    rfl
  | cons arg before ih =>
    rw [List.all_cons, Bool.and_eq_true] at hbefore
    obtain ⟨middle, hstep, hread⟩ := Option.bind_eq_some_iff.mp hread
    rw [ih hbefore.2 hread]
    exact stepOption_passedOver host hbefore.1 hstep

def IsPosixShell (argv : Argv) : Prop :=
  ∃ token0, firstToken argv = some token0 ∧
    isAnyOf (normalizeExecutableToken host.toHost token0) posixShellWrapperNames = true

variable {argv : Argv}

theorem not_isWrapper_of_isPosixShell
    (hshell : IsPosixShell host argv) : ¬ IsWrapper host.toHost argv := by
  rintro ⟨other, hother, hwrapper⟩
  obtain ⟨token0, htoken, hname⟩ := hshell
  cases htoken.symm.trans hother
  obtain ⟨name, hmem, hequal⟩ := List.any_eq_true.mp hname
  rw [← eq_of_beq hequal] at hwrapper
  have hnone : ∀ name ∈ posixShellWrapperNames, isAnyOf (js name) wrapperNames = false := by
    decide
  rw [hnone name hmem] at hwrapper
  exact absurd hwrapper (by simp)

theorem extractShellWrapperInlineCommand_of_isPosixShell (hshell : IsPosixShell host argv) :
    extractShellWrapperInlineCommand host.toHost argv =
      extractPosixShellInlineCommand host.toHost argv := by
  have hplain := not_isWrapper_of_isPosixShell host hshell
  have hdispatch : unwrapKnownDispatchWrapperInvocation host.toHost argv =
      .notWrapper := by
    by_contra hwrapper
    exact hplain (isWrapper_of_dispatch host.toHost hwrapper)
  have hmultiplexer : unwrapKnownShellMultiplexerInvocation host.toHost argv =
      .notWrapper := by
    by_contra hwrapper
    exact hplain (isWrapper_of_multiplexer host.toHost hwrapper)
  obtain ⟨token0, htoken, hname⟩ := hshell
  have hcandidate : resolveShellWrapperCandidate host.toHost
      maxDispatchWrapperDepth argv = some (argv, token0) := by
    rw [maxDispatchWrapperDepth, resolveShellWrapperCandidate]
    simp only [htoken, hdispatch, hmultiplexer]
  have hspec : findShellWrapperSpec
      (normalizeExecutableToken host.toHost token0) = some .posix := by
    rw [findShellWrapperSpec, if_pos hname]
  unfold extractShellWrapperInlineCommand resolveShellWrapperSpecAndArgv
  rw [hcandidate, Option.bind_some]
  dsimp only
  rw [hspec, Option.bind_some, Option.map_map]
  simp only [extractShellWrapperPayload]
  cases extractPosixShellInlineCommand host.toHost argv <;> rfl

variable (shell : PosixShell)

/-- A command that is found in an argument is what the shell runs, from that very
argument. -/
def InlineIsRun (argv : Argv) : Prop :=
  ∀ command, extractShellWrapperInlineCommand host.toHost argv = some command →
    ∃ position, (resolveInlineCommandMatch host.toHost argv posixInlineCommandFlags
        true).valueTokenIndex = some position ∧
      shell.commandOperand argv = some (position, command)

/-- The flag is an option that the shell reads behind whole options only, it asks
for a command string and takes no argument and holds no text, and what follows it
is an operand without blanks around it. -/
structure FlagBeforeOperand (before : Argv) (flag value : JsString) : Prop where
  behindOptions : before.foldlM shell.stepOption ⟨0, false⟩ = some ⟨0, false⟩
  takesNothing : shell.optionArguments flag = some 0
  setsCommand : shell.setsCommand flag = true
  holdsNoText : inlineText host flag = none
  valueOperand : isOperand value = true
  valueTrimmed : trim value = value

/-- The first flag of the arguments, if it yields a command, is the option that
the shell reads. -/
def ReadsFlag (argv : Argv) : Prop :=
  ∀ before flag rest, argv.tail = before ++ flag :: rest →
    before.all (isPassedOver host) = true → isInlineFlag host flag = true →
    (flagMatch host (1 + before.length) flag rest).command.isSome = true →
    ∃ value others, rest = value :: others ∧ FlagBeforeOperand host shell before flag value

variable {shell}

variable {rest : Argv}

theorem resolveInlineCommandMatch_of_flag (hargv : argv.tail = before ++ flag :: rest)
    (hbefore : before.all (isPassedOver host) = true)
    (hflag : isInlineFlag host flag = true) :
    resolveInlineCommandMatch host.toHost argv posixInlineCommandFlags true =
      flagMatch host (1 + before.length) flag rest := by
  rw [resolveInlineCommandMatch, hargv, findInlineCommand_passedOver host hbefore,
    findInlineCommand_flag host hflag]

theorem isOption_of_setsCommand
    (hcommand : shell.setsCommand arg = true) : isOption arg = true := by
  have hhead : arg.head? = some 0x2D := by
    unfold PosixShell.setsCommand isCluster at hcommand
    rw [Bool.or_eq_true, Bool.and_eq_true, Bool.and_eq_true, Bool.and_eq_true] at hcommand
    rcases hcommand with ⟨⟨hhead, -⟩, -⟩ | ⟨-, hlong⟩
    · exact eq_of_beq hhead
    · rw [eq_of_beq hlong]
      rfl
  have hends : endsOptions arg = false := by
    by_contra hends
    rw [Bool.not_eq_false, endsOptions, Bool.or_eq_true, beq_iff_eq, beq_iff_eq] at hends
    have hnone : ∀ other ∈ [js "-", js "--"],
        other.contains 0x63 = false ∧ (other == js "--command") = false := by
      decide
    obtain ⟨hletter, hlong⟩ := hnone arg (by simpa using hends)
    rw [PosixShell.setsCommand, hletter, hlong] at hcommand
    simp at hcommand
  simp [isOption, hhead, hends]

theorem isOperand_iff : isOperand arg = true ↔ isOption arg = false ∧ endsOptions arg = false := by
  simp [isOperand]

theorem FlagBeforeOperand.commandOperand {others : Argv}
    {value : JsString} (hread : FlagBeforeOperand host shell before flag value)
    (hargv : argv.tail = before ++ flag :: value :: others) :
    shell.commandOperand argv = some (1 + before.length + 1, value) := by
  have hstep : shell.stepOption ⟨0, false⟩ flag = some ⟨0, true⟩ := by
    simp [PosixShell.stepOption, isOption_of_setsCommand hread.setsCommand,
      hread.takesNothing, hread.setsCommand]
  obtain ⟨hoption, hends⟩ := isOperand_iff.mp hread.valueOperand
  have hstop : shell.stepOption ⟨0, true⟩ value = none := by
    simp [PosixShell.stepOption, hoption]
  rw [PosixShell.commandOperand, hargv,
    PosixShell.readArguments_append hread.behindOptions, PosixShell.readArguments,
    hstep]
  dsimp only
  rw [PosixShell.readArguments, hstop]
  simp [hends, hread.valueOperand]

theorem flagMatch_eq_some {position : ℕ}
    (hmatch : flagMatch host index flag rest = ⟨some command, some position⟩) :
    (inlineText host flag = some command ∧ position = index) ∨
      (inlineText host flag = none ∧ position = index + 1 ∧
        ∃ value others, rest = value :: others ∧ nonBlank value = some command) := by
  unfold flagMatch at hmatch
  cases htext : inlineText host flag with
  | some text =>
    rw [htext] at hmatch
    obtain ⟨hcommand, hposition⟩ := InlineCommandMatch.mk.inj hmatch
    exact .inl ⟨hcommand, (Option.some.inj hposition).symm⟩
  | none =>
    rw [htext] at hmatch
    cases rest with
    | nil => simp [nextArgumentMatch] at hmatch
    | cons value others =>
      obtain ⟨hcommand, hposition⟩ := InlineCommandMatch.mk.inj hmatch
      exact .inr ⟨rfl, (Option.some.inj hposition).symm, value, others, rfl, hcommand⟩

theorem flagMatch_position (hmatch : (flagMatch host index flag rest).command = some command) :
    ∃ position, flagMatch host index flag rest = ⟨some command, some position⟩ := by
  unfold flagMatch at hmatch ⊢
  cases htext : inlineText host flag with
  | some text =>
    rw [htext] at hmatch
    exact ⟨index, by simpa using hmatch⟩
  | none =>
    rw [htext] at hmatch
    cases rest with
    | nil => simp [nextArgumentMatch] at hmatch
    | cons value others =>
      exact ⟨index + 1, by simpa [nextArgumentMatch] using hmatch⟩

theorem flagBeforeOperand_of_commandOperand {argv before rest : Argv}
    {flag command : JsString} {position : ℕ}
    (hargv : argv.tail = before ++ flag :: rest)
    (hbefore : before.all (isPassedOver host) = true)
    (hmatch : flagMatch host (1 + before.length) flag rest = ⟨some command, some position⟩)
    (hruns : shell.commandOperand argv = some (position, command)) :
    ∃ value others, rest = value :: others ∧ FlagBeforeOperand host shell before flag value := by
  obtain ⟨read, hread, hplace⟩ := PosixShell.readArguments_eq_some hruns
  have hbehind : ∀ rest', argv.tail = read ++ rest' → ¬ read.length ≤ before.length := by
    intro rest' hread' hle
    have hstart : read <+: before :=
      List.prefix_of_prefix_length_le ⟨rest', hread'.symm⟩ ⟨flag :: rest, hargv.symm⟩ hle
    have hpassed : read.all (isPassedOver host) = true := by
      rw [List.all_eq_true] at hbefore ⊢
      exact fun arg harg => hbefore arg (hstart.subset harg)
    have hnone := foldlM_passedOver host hpassed hread
    exact absurd hnone (by simp)
  rcases hplace with ⟨hoperand, hposition, after, hsplit⟩ | ⟨hposition, stop, after, -, hsplit⟩
  · rcases flagMatch_eq_some host hmatch with
      ⟨-, hsame⟩ | ⟨htext, hsame, value, others, rfl, hvalue⟩
    · exact absurd (by omega) (hbehind _ hsplit)
    · have hjoined : (before ++ [flag]) ++ value :: others = read ++ command :: after := by
        rw [← hsplit, hargv]
        simp
      obtain ⟨rfl, htail⟩ := List.append_inj hjoined (by
        rw [List.length_append, List.length_singleton]
        omega)
      obtain ⟨rfl, rfl⟩ := List.cons.inj htail
      rw [List.foldlM_append] at hread
      obtain ⟨middle, hmiddle, hstep⟩ := Option.bind_eq_some_iff.mp hread
      obtain ⟨last, hstep, hlast⟩ := Option.bind_eq_some_iff.mp hstep
      obtain rfl := Option.some.inj hlast
      have hnone : middle.hasCommand = false := foldlM_passedOver host hbefore hmiddle
      unfold PosixShell.stepOption at hstep
      split at hstep
      next =>
          have hcommand := congrArg OptionState.hasCommand (Option.some.inj hstep)
          rw [hnone] at hcommand
          exact absurd hcommand (by simp)
      next hpending =>
          split_ifs at hstep
          obtain ⟨count, hcount, hstate⟩ := Option.map_eq_some_iff.mp hstep
          obtain ⟨rfl, hcommand⟩ := OptionState.mk.inj hstate
          rw [hnone, Bool.false_or] at hcommand
          have hmiddle' : middle = ⟨0, false⟩ := by
            rw [← hpending, ← hnone]
          refine ⟨value, others, rfl, ?_⟩
          exact {
            behindOptions := by rw [hmiddle, hmiddle']
            takesNothing := hcount
            setsCommand := hcommand
            holdsNoText := htext
            valueOperand := hoperand
            valueTrimmed := (nonBlank_eq_some.mp hvalue).2 }
  · rcases flagMatch_eq_some host hmatch with ⟨-, hsame⟩ | ⟨-, hsame, -⟩
    · exact absurd (by omega) (hbehind _ hsplit)
    · exact absurd (by omega) (hbehind _ hsplit)

theorem inlineIsRun_iff {argv : Argv} (hshell : IsPosixShell host argv) :
    InlineIsRun host shell argv ↔ ReadsFlag host shell argv := by
  have hextract := extractShellWrapperInlineCommand_of_isPosixShell host hshell
  constructor
  · intro hruns before flag rest hargv hbefore hflag hyields
    have hresolve := resolveInlineCommandMatch_of_flag host hargv hbefore hflag
    obtain ⟨command, hcommand⟩ := Option.isSome_iff_exists.mp hyields
    obtain ⟨position, hmatch⟩ := flagMatch_position host hcommand
    have hfound : extractShellWrapperInlineCommand host.toHost argv = some command := by
      rw [hextract, extractPosixShellInlineCommand, hresolve, hcommand]
    obtain ⟨other, hother, hoperand⟩ := hruns command hfound
    have hsame : other = position := by
      rw [hresolve, hmatch] at hother
      exact (Option.some.inj hother).symm
    rw [hsame] at hoperand
    exact flagBeforeOperand_of_commandOperand host hargv hbefore hmatch hoperand
  · intro hreads command hfound
    rw [hextract] at hfound
    unfold extractPosixShellInlineCommand at hfound
    obtain ⟨before, flag, rest, hargv, hbefore, hflag⟩ :=
      exists_flag_of_findInlineCommand host hfound
    have hresolve := resolveInlineCommandMatch_of_flag host hargv hbefore hflag
    rw [hresolve] at hfound ⊢
    obtain ⟨value, others, rfl, hread⟩ :=
      hreads before flag rest hargv hbefore hflag (by simp [hfound])
    obtain ⟨position, hmatch⟩ := flagMatch_position host hfound
    refine ⟨position, by rw [hmatch], ?_⟩
    rcases flagMatch_eq_some host hmatch with
      ⟨htext, -⟩ | ⟨-, rfl, other, tail, hcons, hvalue⟩
    · rw [hread.holdsNoText] at htext
      exact absurd htext (by simp)
    · obtain ⟨rfl, -⟩ := List.cons.inj hcons
      have hsame : value = command := by
        rw [← (nonBlank_eq_some.mp hvalue).2, hread.valueTrimmed]
      rw [hread.commandOperand host hargv, hsame]

variable (context : ExecAllowlistContext)

/-- Nothing but the parts of its inline command satisfies the segment; `depth` is
the number of shells that may still be entered. -/
def AcceptedByInlineChain (depth : ℕ) (segment : ExecCommandSegment) : Prop :=
  (evaluateSegments host context (evaluateShellWrapperInlineChain host context depth)
      [segment]).satisfied = true ∧
    resolveSegmentSatisfaction host context
      (resolveSegmentAllowlistMatch host context segment).found segment
      (effectiveArgvOf segment) = none

def PartAllowed (depth : ℕ) (part : JsString) : Prop :=
  ∃ analysis, analyzeShellCommand host.toHost host.stripWindowsShellWrapper context.platform
      context.cwd part = .ok analysis ∧
    (evaluateSegments host context (evaluateShellWrapperInlineChain host context depth)
      analysis.segments).satisfied = true

variable {context}

theorem evaluateInlineParts_allowed {evaluate : List ExecCommandSegment → SegmentsEvaluation}
    {parts : List JsString} {found : List ExecAllowlistEntry}
    (hparts : evaluateInlineParts host context evaluate parts = some found) :
    ∀ part ∈ parts, ∃ analysis, analyzeShellCommand host.toHost host.stripWindowsShellWrapper
        context.platform context.cwd part = .ok analysis ∧
      (evaluate analysis.segments).satisfied = true := by
  induction parts generalizing found with
  | nil => simp
  | cons part rest ih =>
    rw [evaluateInlineParts] at hparts
    split at hparts
    next => simp at hparts
    next analysis hanalyze =>
        dsimp only at hparts
        split_ifs at hparts with hunsatisfied
        obtain ⟨others, hothers, -⟩ := Option.map_eq_some_iff.mp hparts
        intro other hother
        rcases List.mem_cons.mp hother with rfl | hmem
        · exact ⟨analysis, hanalyze, by simpa using hunsatisfied⟩
        · exact ih hothers other hmem

theorem AcceptedByInlineChain.parts {depth : ℕ} {segment : ExecCommandSegment}
    (haccepted : AcceptedByInlineChain host context depth segment) :
    ∃ command parts, extractShellWrapperInlineCommand host.toHost (effectiveArgvOf segment) =
        some command ∧
      splitCommandChain command = some parts ∧
      ∀ part ∈ parts, PartAllowed host context (depth - 1) part := by
  obtain ⟨hsatisfied, hnone⟩ := haccepted
  have hinline : ∃ found, (((resolveSegmentAllowlistMatch host context segment).inlineCommand.bind
        splitCommandChain).filter fun parts => 1 < parts.length).bind
          (evaluateShellWrapperInlineChain host context depth) = some found := by
    by_contra hnot
    rw [← Option.isSome_iff_exists, Bool.not_eq_true, Option.isSome_eq_false_iff,
      Option.isNone_iff_eq_none] at hnot
    have heffective : (resolveSegmentAllowlistMatch host context segment).effectiveArgv =
          effectiveArgvOf segment := rfl
    rw [evaluateSegments] at hsatisfied
    simp only [heffective, hnone, Option.isSome_none, Bool.false_eq_true, if_false,
      hnot] at hsatisfied
    split_ifs at hsatisfied
    simp [SegmentsEvaluation.cons] at hsatisfied
  obtain ⟨found, hfound⟩ := hinline
  obtain ⟨parts, hfilter, hchain⟩ := Option.bind_eq_some_iff.mp hfound
  obtain ⟨hparts, -⟩ := Option.filter_eq_some_iff.mp hfilter
  obtain ⟨command, hcommand, hsplit⟩ := Option.bind_eq_some_iff.mp hparts
  refine ⟨command, parts, hcommand, hsplit, ?_⟩
  cases depth with
  | zero => simp [evaluateShellWrapperInlineChain] at hchain
  | succ depth =>
    rw [evaluateShellWrapperInlineChain] at hchain
    split_ifs at hchain
    exact evaluateInlineParts_allowed host hchain

/-- The command that is found is the argument that the shell runs, exactly where
the first flag is the option that the shell reads.  There a segment that only its
inline chain satisfies runs that chain. -/
theorem inline_command_runs_iff (host : PolicyHost) (shell : PosixShell)
    {argv : Argv} (hshell : IsPosixShell host argv) :
    (InlineIsRun host shell argv ↔ ReadsFlag host shell argv) ∧
      (ReadsFlag host shell argv → ∀ command,
        extractShellWrapperInlineCommand host.toHost argv = some command →
          shell.commandString argv = some command) ∧
      ∀ context depth segment, effectiveArgvOf segment = argv →
        AcceptedByInlineChain host context depth segment →
        ReadsFlag host shell argv →
        ∃ command parts, shell.commandString argv = some command ∧
          splitCommandChain command = some parts ∧
          ∀ part ∈ parts, PartAllowed host context (depth - 1) part := by
  have hiff := @inlineIsRun_iff host shell _ hshell
  have hruns : ReadsFlag host shell argv → ∀ command,
      extractShellWrapperInlineCommand host.toHost argv = some command →
        shell.commandString argv = some command := by
    intro hreads command hfound
    obtain ⟨position, -, hoperand⟩ := hiff.mpr hreads command hfound
    rw [PosixShell.commandString, hoperand]
    rfl
  refine ⟨hiff, hruns, ?_⟩
  rintro context depth segment rfl haccepted hreads
  obtain ⟨command, parts, hfound, hsplit, hallowed⟩ := haccepted.parts host
  exact ⟨command, parts, hruns hreads command hfound, hsplit, hallowed⟩

/-- The options of the standard; `o` takes the next argument. -/
def posixSh : PosixShell where
  optionArguments := fun option =>
    if isCluster option && option.tail.all (js "abcCefhimnosuvx").contains ||
        option.head? == some 0x2B && option.tail.all (js "abCefhimnouvx").contains then
      some (option.count 0x6F)
    else none
  longCommand := false
  letters := by
    intro option hcluster haccepted unit hunit
    have hhead : option.head? = some 0x2D := by
      unfold isCluster at hcluster
      simp_all
    have hlisted : option.tail.all (js "abcCefhimnosuvx").contains = true := by
      by_contra hnot
      simp [hhead, hnot] at haccepted
    have hmem := List.all_eq_true.mp hlisted unit hunit
    have hletters : (js "abcCefhimnosuvx").all isOptionLetter = true := by
      decide
    exact List.all_eq_true.mp hletters unit (by simpa using hmem)

theorem inline_command_runs_iff_bash :
    IsPosixShell skillHost [js "bash", js "-c", js "a-wrapper && b-wrapper"] ∧
      (InlineIsRun skillHost posixSh [js "bash", js "-c", js "a-wrapper && b-wrapper"] ↔
        ReadsFlag skillHost posixSh [js "bash", js "-c", js "a-wrapper && b-wrapper"]) := by
  have hshell : IsPosixShell skillHost [js "bash", js "-c", js "a-wrapper && b-wrapper"] :=
    ⟨js "bash", by decide, by decide⟩
  exact ⟨hshell, (inline_command_runs_iff skillHost posixSh hshell).1⟩

/-- The allowlist is satisfied for a shell that runs a script with the allowed
command as its argument. -/
theorem inline_chain_allows_script : ∃ argv, IsPosixShell skillHost argv ∧
      (evaluateShellAllowlist skillHost skillContext
        (js "bash script.sh -c 'a-wrapper && b-wrapper'")).allowlistSatisfied = true ∧
      splitShellArgs (js "bash script.sh -c 'a-wrapper && b-wrapper'") = some argv ∧
      extractShellWrapperInlineCommand skillHost.toHost argv = some (js "a-wrapper && b-wrapper") ∧
      posixSh.commandString argv = none :=
  ⟨[js "bash", js "script.sh", js "-c", js "a-wrapper && b-wrapper"],
    ⟨js "bash", by decide +kernel, by decide +kernel⟩, by decide +kernel,
    by decide +kernel, by decide +kernel, by decide +kernel⟩

end LittleBaby.Exec
